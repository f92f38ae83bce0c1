/-
Runs of the session state machine by itself: any sequence of events through `SessionState::transition`, from a fresh
active session. What one transition emits is in `N0wss.Session.State`; here, what a whole run emits.

- `closedReasons_run`: over a run there is one session-closed metric if it closes the session, and none otherwise, with
  the reason the session was closing for, or `client_disconnect` if it was not closing.
- `split_at_close`: a run that closes the session has one event that does, and nothing is emitted after it.
- `run_streamCount`: while the session is active its counter is the number of streams opened less those closed.
- `run_lifecycle`: the law of the machine, all of it.
-/
import N0wss.Core.Machine
import N0wss.Session.State

namespace N0wss.Session.Lifecycle

open Machine

variable (id : SessionId) (idle : Duration)

/-! ## Runs -/

/-- the state after one event -/
def next (s : SessionState) (e : SessionEvent) : SessionState := (s.transition id e idle).1

/-- the effects of each event of a run, in order -/
def steps (s : SessionState) : List SessionEvent → List (List SessionEffect)
  | [] => []
  | e :: events => (s.transition id e idle).2 :: steps (next id idle s e) events

/-- the effects of the whole run -/
def effects (s : SessionState) (events : List SessionEvent) : List SessionEffect := (steps id idle s events).flatten

@[simp] theorem steps_nil (s : SessionState) : steps id idle s [] = [] := rfl

@[simp] theorem steps_cons (s : SessionState) (e : SessionEvent) (events : List SessionEvent) :
    steps id idle s (e :: events) = (s.transition id e idle).2 :: steps id idle (next id idle s e) events := rfl

theorem steps_append (s : SessionState) (a b : List SessionEvent) :
    steps id idle s (a ++ b) = steps id idle s a ++ steps id idle (run (next id idle) s a) b := by
  induction a generalizing s with
  | nil => rfl
  | cons e a ih => simp [ih]

@[simp] theorem effects_nil (s : SessionState) : effects id idle s [] = [] := rfl

@[simp] theorem effects_cons (s : SessionState) (e : SessionEvent) (events : List SessionEvent) :
    effects id idle s (e :: events) =
      (s.transition id e idle).2 ++ effects id idle (next id idle s e) events := by
  simp [effects]

/-- no run takes a session back -/
theorem run_rank (s : SessionState) (events : List SessionEvent) :
    s.rank ≤ (run (next id idle) s events).rank := by
  induction events generalizing s with
  | nil => exact le_rfl
  | cons e events ih => exact (transition_rank id idle s e).trans (ih _)

@[simp] theorem run_closed (events : List SessionEvent) : run (next id idle) .closed events = .closed :=
  SessionState.eq_closed_of_rank (run_rank id idle .closed events)

theorem steps_closed (events : List SessionEvent) : ∀ effs ∈ steps id idle .closed events, effs = [] := by
  induction events with
  | nil => simp
  | cons e events ih =>
    have hnext : next id idle .closed e = .closed := by simp [next]
    simpa [hnext] using ih

@[simp] theorem effects_closed (events : List SessionEvent) : effects id idle .closed events = [] :=
  List.flatten_eq_nil_iff.2 (steps_closed id idle events)

/-! ## Reasons and removals -/

/-- how many of the effects remove a session from the registry -/
def removes (effs : List SessionEffect) : ℕ :=
  effs.countP fun
    | .registry (.remove _) => true
    | _ => false

/-- the reasons of the session-closing metrics among the effects -/
def closingReasons (effs : List SessionEffect) : List String :=
  effs.filterMap fun
    | .metric (.sessionClosing _ reason) => some reason
    | _ => none

/-- the reasons of the session-closed metrics among the effects -/
def closedReasons (effs : List SessionEffect) : List String :=
  effs.filterMap fun
    | .metric (.sessionClosed _ reason) => some reason
    | _ => none

/-- what a session is closing for -/
def closingReason : SessionState → Option String
  | .closing reason _ => some reason.asMetricReason
  | _ => none

@[simp] theorem closingReason_closing (r : CloseReason) (d : Instant) :
    closingReason (.closing r d) = some r.asMetricReason := rfl

@[simp] theorem closingReasons_nil : closingReasons [] = [] := rfl
@[simp] theorem closedReasons_nil : closedReasons [] = [] := rfl

@[simp] theorem closingReasons_append (a b : List SessionEffect) :
    closingReasons (a ++ b) = closingReasons a ++ closingReasons b := List.filterMap_append

@[simp] theorem closedReasons_append (a b : List SessionEffect) :
    closedReasons (a ++ b) = closedReasons a ++ closedReasons b := List.filterMap_append

/-- what one event does to a session, with what it reports and whether it takes the session out of the registry -/
inductive Emits (s s' : SessionState) (effs : List SessionEffect) : Prop
  | keeps (hrank : s'.rank = s.rank) (hreason : closingReason s' = closingReason s) (hremoves : removes effs = 0)
      (hclosing : closingReasons effs = []) (hclosed : closedReasons effs = [])
  | startsClosing (reason : CloseReason) (deadline : Instant) (hactive : s.rank = 0)
      (hstate : s' = .closing reason deadline) (hremoves : removes effs = 0)
      (hclosing : closingReasons effs = [reason.asMetricReason]) (hclosed : closedReasons effs = [])
  | closes (hopen : s.rank < 2) (hstate : s' = .closed) (hremoves : removes effs = 1)
      (hclosing : closingReasons effs = [])
      (hclosed : closedReasons effs = [(closingReason s).getD CloseReason.clientDisconnect.asMetricReason])

theorem transition_emits (s : SessionState) (e : SessionEvent) :
    Emits s (next id idle s e) (s.transition id e idle).2 := by
  have hout := transition_outcome id idle s e
  unfold next
  generalize s.transition id e idle = after at hout ⊢
  cases hout with
  | opened => exact .keeps rfl rfl rfl rfl rfl
  | lastClosed => exact .closes (by simp) rfl rfl rfl rfl
  | oneClosed => exact .keeps rfl rfl rfl rfl rfl
  | lost t n d => exact .startsClosing .transportLost d rfl rfl rfl rfl rfl
  | drained t n d => exact .startsClosing .drainShutdown d rfl rfl rfl rfl rfl
  | expired => exact .closes (by simp) rfl rfl rfl rfl
  | ignored => exact .keeps rfl rfl rfl rfl rfl

theorem closingReason_of_active {s : SessionState} (h : s.rank = 0) : closingReason s = none := by
  cases s with
  | active t n => rfl
  | closing r d => simp at h
  | closed => simp at h

theorem ne_closed_iff (s : SessionState) : s ≠ .closed ↔ s.rank < 2 := by
  cases s <;> simp

/-- a session that is no longer active reports no second closing -/
theorem closingReasons_of_rank {s : SessionState} (h : s.rank ≠ 0) (events : List SessionEvent) :
    closingReasons (effects id idle s events) = [] := by
  induction events generalizing s with
  | nil => rfl
  | cons e events ih =>
    have hle : s.rank ≤ (next id idle s e).rank := transition_rank id idle s e
    have hrest := ih (s := next id idle s e) (by omega)
    rw [effects_cons, closingReasons_append, hrest, List.append_nil]
    cases transition_emits id idle s e with
    | keeps _ _ _ hclosing _ => exact hclosing
    | startsClosing _ _ hactive => exact absurd hactive h
    | closes _ _ _ hclosing _ => exact hclosing

theorem closingReasons_length (s : SessionState) (events : List SessionEvent) :
    (closingReasons (effects id idle s events)).length ≤ 1 := by
  induction events generalizing s with
  | nil => simp
  | cons e events ih =>
    rw [effects_cons, closingReasons_append]
    cases transition_emits id idle s e with
    | keeps _ _ _ hclosing _ => simpa [hclosing] using ih (next id idle s e)
    | startsClosing r d _ hstate _ hclosing _ =>
      have hrest := closingReasons_of_rank id idle (s := next id idle s e) (by simp [hstate]) events
      simp [hclosing, hrest]
    | closes _ hstate _ hclosing _ => simp [hclosing, hstate]

/-- the reason to report when the session closes, from what is known before the run and what the run reports -/
def reasonToReport (s : SessionState) (reported : List String) : String :=
  ((closingReason s).or reported.head?).getD CloseReason.clientDisconnect.asMetricReason

/-- the session-closed metrics of a run: one if the run closes the session, with the reason it was closing for -/
theorem closedReasons_run (s : SessionState) (hs : s ≠ .closed) (events : List SessionEvent) :
    closedReasons (effects id idle s events) =
      if run (next id idle) s events = .closed then
        [reasonToReport s (closingReasons (effects id idle s events))]
      else [] := by
  induction events generalizing s with
  | nil => simp [hs]
  | cons e events ih =>
    rw [effects_cons, closedReasons_append, closingReasons_append, run_cons]
    rw [ne_closed_iff] at hs
    cases transition_emits id idle s e with
    | keeps hrank hreason _ hclosing hclosed =>
      have hopen : next id idle s e ≠ .closed := by rw [ne_closed_iff]; omega
      rw [hclosing, hclosed, List.nil_append, List.nil_append, ih _ hopen]
      simp only [reasonToReport, hreason]
    | startsClosing r d hactive hstate _ hclosing hclosed =>
      have hrest := ih (next id idle s e) (by simp [hstate])
      rw [hclosing, hclosed, List.nil_append, hrest, hstate]
      simp [reasonToReport, closingReason_of_active hactive]
    | closes hopen hstate _ hclosing hclosed =>
      rw [hclosing, hclosed, hstate]
      simp [reasonToReport]

/-! ## The step that closes -/

/-- every step before the session closes keeps it in the registry and reports no end -/
theorem steps_open {s : SessionState} {events : List SessionEvent} (h : run (next id idle) s events ≠ .closed) :
    ∀ effs ∈ steps id idle s events, removes effs = 0 ∧ closedReasons effs = [] := by
  induction events generalizing s with
  | nil => simp
  | cons e events ih =>
    rw [run_cons] at h
    rw [steps_cons, List.forall_mem_cons]
    refine ⟨?_, ih h⟩
    cases transition_emits id idle s e with
    | keeps _ _ hremoves _ hclosed => exact ⟨hremoves, hclosed⟩
    | startsClosing _ _ _ _ hremoves _ hclosed => exact ⟨hremoves, hclosed⟩
    | closes _ hstate => exact absurd (by rw [hstate, run_closed]) h

/-- a run that closes the session has one event that does it -/
theorem split_at_close {s : SessionState} {events : List SessionEvent} (hs : s ≠ .closed)
    (h : run (next id idle) s events = .closed) :
    ∃ pre e post, events = pre ++ e :: post ∧ run (next id idle) s pre ≠ .closed ∧
      next id idle (run (next id idle) s pre) e = .closed := by
  induction events generalizing s with
  | nil => exact absurd h hs
  | cons e events ih =>
    by_cases hclosed : next id idle s e = .closed
    · exact ⟨[], e, events, rfl, hs, hclosed⟩
    · obtain ⟨pre, e', post, rfl, hopen, hclose⟩ := ih hclosed h
      exact ⟨e :: pre, e', post, rfl, hopen, hclose⟩

/-- the event that closes a session removes it and reports its end -/
theorem emits_of_closing {s : SessionState} {e : SessionEvent} (hopen : s ≠ .closed)
    (hclose : next id idle s e = .closed) :
    removes (s.transition id e idle).2 = 1 ∧ (closedReasons (s.transition id e idle).2).length = 1 := by
  rw [ne_closed_iff] at hopen
  cases transition_emits id idle s e with
  | keeps hrank =>
    rw [hclose, SessionState.rank_closed] at hrank
    omega
  | startsClosing _ _ _ hstate => exact absurd (hclose.symm.trans hstate) (by simp)
  | closes _ _ hremoves _ hclosed => exact ⟨hremoves, by rw [hclosed]; rfl⟩

/-- the steps of a run release the session once: one removes it and reports its end, none before it does either, and
nothing follows -/
def ReleasedOnce (effs : List (List SessionEffect)) : Prop :=
  ∃ pre at' post, effs = pre ++ at' :: post ∧ removes at' = 1 ∧ (closedReasons at').length = 1 ∧
    (∀ earlier ∈ pre, removes earlier = 0 ∧ closedReasons earlier = []) ∧ ∀ later ∈ post, later = []

theorem releasedOnce_iff {s : SessionState} (hs : s ≠ .closed) (events : List SessionEvent) :
    ReleasedOnce (steps id idle s events) ↔ run (next id idle) s events = .closed := by
  constructor
  · rintro ⟨pre, at', post, hsteps, hremoves, -⟩
    by_contra hopen
    have hnone := steps_open id idle hopen at' (by simp [hsteps])
    omega
  · intro h
    obtain ⟨pre, e, post, rfl, hopen, hclose⟩ := split_at_close id idle hs h
    refine ⟨_, _, _, by rw [steps_append, steps_cons], ?_, ?_, steps_open id idle hopen, ?_⟩
    · exact (emits_of_closing id idle hopen hclose).1
    · exact (emits_of_closing id idle hopen hclose).2
    · rw [hclose]
      exact steps_closed id idle post

/-! ## The stream count -/

def opened (events : List SessionEvent) : ℕ := events.count .streamOpened

def closed (events : List SessionEvent) : ℕ := events.count .streamClosed

theorem saturatingPred_toNat (n : UInt32) : (saturatingPred n).toNat = n.toNat - 1 := by
  unfold saturatingPred
  split_ifs with h
  · simp [h]
  · have hpos : 1 ≤ n.toNat := by
      rw [Nat.one_le_iff_ne_zero]
      exact fun hz => h (UInt32.toNat_inj.1 hz)
    have hle : (1 : UInt32) ≤ n := UInt32.le_iff_toNat_le.2 (by simpa using hpos)
    rw [UInt32.toNat_sub_of_le _ _ hle]
    rfl

/-- the counter of a session that stays active moves with the streams, and is never taken below zero -/
theorem next_streamCount {s : SessionState} {e : SessionEvent} {t' : Instant} {n' : UInt32}
    (h : next id idle s e = .active t' n') :
    ∃ n, s = .active t' n ∧
      ((e = .streamOpened → Unsaturated n) → n'.toNat + closed [e] = n.toNat + opened [e]) := by
  cases s with
  | active t n =>
    cases e with
    | streamOpened =>
      obtain ⟨rfl, rfl⟩ : t = t' ∧ saturatingSucc n = n' := by simpa [next] using h
      exact ⟨n, rfl, fun hn => by simp [closed, opened, (saturatingSucc_toNat_iff n).2 (hn rfl)]⟩
    | streamClosed =>
      by_cases hlast : saturatingPred n = 0
      · simp [next, transition_active_streamClosed_last id idle hlast] at h
      · obtain ⟨rfl, rfl⟩ : t = t' ∧ saturatingPred n = n' := by
          simpa [next, transition_active_streamClosed_more id idle hlast] using h
        have hpos : (saturatingPred n).toNat ≠ 0 := fun hz => hlast (UInt32.toNat_inj.1 hz)
        have hpred := saturatingPred_toNat n
        exact ⟨n, rfl, fun _ => by simp [closed, opened]; omega⟩
    | transportLost d => simp [next] at h
    | drainRequested d => simp [next] at h
    | deadlineReached =>
      obtain ⟨rfl, rfl⟩ : t = t' ∧ n = n' := by simpa [next] using h
      exact ⟨n, rfl, fun _ => by simp [closed, opened]⟩
  | closing r d =>
    have hle : 1 ≤ (next id idle (.closing r d) e).rank := transition_rank id idle (.closing r d) e
    simp [h] at hle
  | closed => simp [next] at h

/-- the counter of a session still active is the streams opened less the streams closed -/
theorem run_streamCount {t0 t : Instant} {n0 n : UInt32} {events : List SessionEvent}
    (hfew : n0.toNat + opened events < 2 ^ 32)
    (h : run (next id idle) (.active t0 n0) events = .active t n) :
    t = t0 ∧ n.toNat + closed events = n0.toNat + opened events := by
  induction events using List.reverseRecOn generalizing t n with
  | nil =>
    obtain ⟨rfl, rfl⟩ : t0 = t ∧ n0 = n := by simpa using h
    exact ⟨rfl, rfl⟩
  | append_singleton events e ih =>
    rw [run_append, run_cons, run_nil] at h
    obtain ⟨m, hm, hcount⟩ := next_streamCount id idle h
    simp only [opened, closed, List.count_append] at hfew hcount ih ⊢
    obtain ⟨rfl, hbefore⟩ := ih (by omega) hm
    have hunsat : e = .streamOpened → Unsaturated m := by
      rintro rfl
      simp only [List.count_singleton_self] at hfew
      unfold Unsaturated
      omega
    have hlast := hcount hunsat
    exact ⟨rfl, by omega⟩

/-- the count a stream's end reports is one less than before, and zero stays zero -/
theorem reported_streamClosed {t : Instant} {n m : UInt32} {id' : SessionId}
    (h : .metric (.streamClosed id' m) ∈ ((SessionState.active t n).transition id .streamClosed idle).2) :
    m.toNat = n.toNat - 1 := by
  have hpred := saturatingPred_toNat n
  by_cases hlast : saturatingPred n = 0
  · rw [transition_active_streamClosed_last id idle hlast] at h
    obtain ⟨-, rfl⟩ : id' = id ∧ m = 0 := by simpa using h
    rw [← hpred, hlast]
  · rw [transition_active_streamClosed_more id idle hlast] at h
    obtain ⟨-, rfl⟩ : id' = id ∧ m = saturatingPred n := by simpa using h
    exact hpred

/-! ## The law -/

/-- what the machine promises of a run from a fresh active session -/
structure Lawful (since : Instant) (events : List SessionEvent) : Prop where
  /-- at most one closing is reported -/
  closingOnce : (closingReasons (effects id idle (.active since 0) events)).length ≤ 1
  /-- the session is released, in one step and with nothing after it, exactly when the run closes it -/
  releasedOnce : ReleasedOnce (steps id idle (.active since 0) events) ↔
    run (next id idle) (.active since 0) events = .closed
  /-- a run that does not close it neither removes it nor reports its end -/
  keptOpen : run (next id idle) (.active since 0) events ≠ .closed →
    ∀ effs ∈ steps id idle (.active since 0) events, removes effs = 0 ∧ closedReasons effs = []
  /-- the end is reported with the reason of the closing, if there was one -/
  reason : ∀ reason ∈ closedReasons (effects id idle (.active since 0) events),
    reason = (closingReasons (effects id idle (.active since 0) events)).head?.getD "client_disconnect"
  /-- while the session is active its count is the streams opened less the streams closed -/
  streamCount : ∀ pre t n, pre <+: events → run (next id idle) (.active since 0) pre = .active t n →
    closed pre ≤ opened pre ∧ n.toNat = opened pre - closed pre
  /-- a stream's end takes the count down by one, or leaves it at zero -/
  notBelowZero : ∀ pre t n m id', pre ++ [.streamClosed] <+: events →
    run (next id idle) (.active since 0) pre = .active t n →
    .metric (.streamClosed id' m) ∈ ((SessionState.active t n).transition id .streamClosed idle).2 →
    m.toNat = n.toNat - 1
  /-- the session only moves forward -/
  forward : ∀ pre post, events = pre ++ post →
    (run (next id idle) (.active since 0) pre).rank ≤ (run (next id idle) (.active since 0) events).rank

/-- **The lifecycle law.** Every run from a fresh active session, of fewer than `2 ^ 32` opened streams, is lawful. -/
theorem run_lifecycle (since : Instant) (events : List SessionEvent) (hfew : opened events < 2 ^ 32) :
    Lawful id idle since events where
  closingOnce := closingReasons_length id idle _ events
  releasedOnce := releasedOnce_iff id idle (by simp) events
  keptOpen := steps_open id idle
  reason := by
    intro reason hreason
    rw [closedReasons_run id idle _ (by simp)] at hreason
    split_ifs at hreason with hclosed
    · rw [List.mem_singleton.1 hreason]
      rfl
    · exact absurd hreason (by simp)
  streamCount := by
    intro pre t n hpre hactive
    have hle : opened pre ≤ opened events := hpre.sublist.count_le _
    have hcount := (run_streamCount id idle (by simpa using hle.trans_lt hfew) hactive).2
    rw [UInt32.toNat_zero] at hcount
    omega
  notBelowZero := fun _ _ _ _ _ _ _ h => reported_streamClosed id idle h
  forward := by
    rintro pre post rfl
    rw [run_append]
    exact run_rank id idle _ post

/-- two streams open, one ends, the drain starts and the deadline passes -/
theorem run_lifecycle_drained :
    Lawful 7 0 0 [.streamOpened, .streamOpened, .streamClosed, .drainRequested 10, .streamClosed, .deadlineReached] :=
  run_lifecycle 7 0 0 _ (by decide)

end N0wss.Session.Lifecycle
