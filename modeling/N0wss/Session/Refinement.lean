/-
`handle_event` against the pure state machine, over every run of the session manager whose calls do not overlap.

The record of a session is written twice by one event: with the machine's next state, and again by the registry
commands the machine emits. `close_streams` writes a closing state of its own, with the drain reason and its own
reading of the clock as deadline. The two writes agree for a drain that carries that reading as its deadline, and for
every event that begins no graceful close.

- `settle_refines_iff`: one event.
- `Inv`, `step_inv`: what every step keeps, as long as the two writes agree.
- `handle_event_refines_iff`: over runs. Every event is refined and every session closes for the reason announced
  before exactly when the two writes agree at every step.
- `transport_lost_closes_as_drain`: a lost transport is recorded, and later reported, as a drain.
-/
import N0wss.Session.Manager

namespace N0wss.Session.Refinement

open Machine SessionManager

/-! ## Runs of the manager -/

inductive Op where
  | registerSession (request : SessionRequest)
  | handleEvent (id : SessionId) (event : SessionEvent) (now closeNow : Instant)
  | touch (id : SessionId) (now : Instant)
  | remove (id : SessionId)
  | reapIdle (maxIdle : Duration) (now : Instant)
  | shutdown (now : Instant)
deriving DecidableEq, Repr

def step (m : SessionManager) : Op → SessionManager
  | .registerSession request => (m.registerSession request).2
  | .handleEvent id event now closeNow => (m.handleEvent id event now closeNow).2
  | .touch id now => m.touch id now
  | .remove id => { m with registry := (m.registry.remove id).2 }
  | .reapIdle maxIdle now => { m with registry := (SessionRegistry.reapIdle m.registry maxIdle now).2 }
  | .shutdown now => (m.shutdown now).2

/-- the entry an event leaves is what the pure machine says: gone if closed, else with exactly the machine's state, and
accepting streams exactly while active -/
def RefinedBy (config : SessionManagerConfig) (id : SessionId) (event : SessionEvent) (record : SessionRecord) :
    Option SessionRecord → Prop
  | none => (record.state.transition id event config.idleTimeout).1 = .closed
  | some record' =>
    record'.state = (record.state.transition id event config.idleTimeout).1 ∧
      (record'.acceptingNewStreams = true ↔ record'.state.isActive = true)

instance (config : SessionManagerConfig) (id : SessionId) (event : SessionEvent) (record : SessionRecord) :
    (after : Option SessionRecord) → Decidable (RefinedBy config id event record after)
  | none => inferInstanceAs (Decidable (_ = _))
  | some _ => inferInstanceAs (Decidable (_ ∧ _))

/-- the step refines the pure machine -/
def Refines (m : SessionManager) : Op → Prop
  | .handleEvent id event now closeNow =>
    ∀ record ∈ m.registry.get id,
      RefinedBy m.config id event record ((m.handleEvent id event now closeNow).2.registry.get id)
  | _ => True

instance (m : SessionManager) : (o : Op) → Decidable (Refines m o)
  | .handleEvent _ _ _ _ => inferInstanceAs (Decidable (∀ _ ∈ _, _))
  | .registerSession _ | .touch _ _ | .remove _ | .reapIdle _ _ | .shutdown _ => inferInstanceAs (Decidable True)

/-- on a session in state `s`, the event begins no graceful close that `close_streams` would write otherwise -/
def Agrees (s : SessionState) (event : SessionEvent) (closeNow : Instant) : Prop :=
  match event with
  | .transportLost _ => s.isActive = false
  | .drainRequested deadline => s.isActive = false ∨ deadline = closeNow
  | _ => True

instance (s : SessionState) (event : SessionEvent) (closeNow : Instant) : Decidable (Agrees s event closeNow) := by
  cases event <;> unfold Agrees <;> infer_instance

/-- the two writes of the step agree -/
def CloseAgrees (m : SessionManager) : Op → Prop
  | .handleEvent id event _ closeNow => ∀ record ∈ m.registry.get id, Agrees record.state event closeNow
  | _ => True

/-! ## The reason announced -/

/-- what one log entry says about session `id` -/
def announce (id : SessionId) (before : Option String) : LogEntry → Option String
  | .registered id' => if id' = id then none else before
  | .metric (.sessionClosing id' reason) => if id' = id then some reason else before
  | .metric _ => before

/-- the reason of the last session-closing metric since the session was registered -/
def announced (log : List LogEntry) (id : SessionId) : Option String := log.foldl (announce id) none

/-- every session-closed metric carries the reason of the session-closing metric that precedes it, where one does -/
def ReasonsMatch (log : List LogEntry) : Prop :=
  ∀ pre id reason, pre ++ [.metric (.sessionClosed id reason)] <+: log → ∀ r, announced pre id = some r → reason = r

theorem announced_append (log more : List LogEntry) (id : SessionId) :
    announced (log ++ more) id = more.foldl (announce id) (announced log id) := by
  simp [announced, List.foldl_append]

theorem reasonsMatch_nil : ReasonsMatch [] := by
  intro pre id reason h
  simp at h

/-- an entry that is no session-closed metric keeps the match -/
theorem ReasonsMatch.snoc_other {log : List LogEntry} (h : ReasonsMatch log) {entry : LogEntry}
    (he : ∀ id reason, entry ≠ .metric (.sessionClosed id reason)) : ReasonsMatch (log ++ [entry]) := by
  intro pre id reason hpre r hr
  rcases List.prefix_concat_iff.1 hpre with heq | hpre
  · obtain ⟨-, hentry⟩ := List.append_inj' heq rfl
    exact absurd (List.singleton_inj.1 hentry).symm (he id reason)
  · exact h pre id reason hpre r hr

theorem ReasonsMatch.snoc_closed {log : List LogEntry} (h : ReasonsMatch log) {id : SessionId} {reason : String}
    (hreason : ∀ r, announced log id = some r → reason = r) :
    ReasonsMatch (log ++ [.metric (.sessionClosed id reason)]) := by
  intro pre id' reason' hpre r hr
  rcases List.prefix_concat_iff.1 hpre with heq | hpre
  · obtain ⟨rfl, hentry⟩ := List.append_inj' heq rfl
    simp only [List.cons.injEq, LogEntry.metric.injEq, MetricEvent.sessionClosed.injEq, and_true] at hentry
    obtain ⟨rfl, rfl⟩ := hentry
    exact hreason r hr
  · exact h pre id' reason' hpre r hr

/-- what the log has announced about a session in the given state -/
def Announces (log : List LogEntry) (id : SessionId) : SessionState → Prop
  | .active _ _ => announced log id = none
  | .closing reason _ => announced log id = some reason.asMetricReason
  | .closed => True

theorem Announces.of_same {log log' : List LogEntry} {id : SessionId} {s : SessionState} (h : Announces log id s)
    (hsame : announced log' id = announced log id) : Announces log' id s := by
  cases s with
  | active t n => exact hsame.trans h
  | closing reason d => exact hsame.trans h
  | closed => trivial

/-! ## One event -/

/-- **One event.** Where the record accepts streams exactly while active, the entry an event leaves is the machine's if
and only if the two writes agree. -/
theorem settle_refines_iff (config : SessionManagerConfig) (id : SessionId) (e : SessionEvent) (now closeNow : Instant)
    (r : SessionRecord) (hr : r.acceptingNewStreams = true ↔ r.state.isActive = true) :
    RefinedBy config id e r (settle config id e now closeNow r) ↔ Agrees r.state e closeNow := by
  obtain ⟨s, accepting, activity⟩ := r
  cases s with
  | active t n =>
    obtain rfl : accepting = true := hr.2 rfl
    cases e with
    | streamOpened => simp [settle, recordEvent, onEntry, RefinedBy, Agrees, SessionState.isActive]
    | streamClosed =>
      by_cases hz : saturatingPred n = 0
      · simp [settle, recordEvent, transition_active_streamClosed_last id _ hz, onEntry, RefinedBy, Agrees]
      · simp [settle, recordEvent, transition_active_streamClosed_more id _ hz, onEntry, RefinedBy, Agrees,
          SessionState.isActive]
    | transportLost d => simp [settle, recordEvent, onEntry, RefinedBy, Agrees, SessionState.isActive]
    | drainRequested d =>
      simp [settle, recordEvent, onEntry, RefinedBy, Agrees, SessionState.isActive, eq_comm]
    | deadlineReached => simp [settle, recordEvent, RefinedBy, Agrees, SessionState.isActive]
  | closing reason d =>
    obtain rfl : accepting = false := by
      simpa [SessionState.isActive] using hr
    by_cases he : e = .deadlineReached
    · subst he; simp [settle, recordEvent, onEntry, RefinedBy, Agrees]
    · have hagrees : Agrees (.closing reason d) e closeNow := by
        cases e <;> simp [Agrees, SessionState.isActive]
      simp [settle, recordEvent, transition_closing_other id _ reason d he, RefinedBy, SessionState.isActive, hagrees]
  | closed =>
    obtain rfl : accepting = false := by
      simpa [SessionState.isActive] using hr
    have hagrees : Agrees .closed e closeNow := by
      cases e <;> simp [Agrees, SessionState.isActive]
    simp [settle, recordEvent, RefinedBy, SessionState.isActive, hagrees]

/-- whatever the event, the entry it leaves accepts streams exactly while active -/
theorem settle_accepting (config : SessionManagerConfig) (id : SessionId) (e : SessionEvent) (now closeNow : Instant)
    (r : SessionRecord) (hr : r.acceptingNewStreams = true ↔ r.state.isActive = true) {r' : SessionRecord}
    (h : settle config id e now closeNow r = some r') : r'.acceptingNewStreams = true ↔ r'.state.isActive = true := by
  obtain ⟨s, accepting, activity⟩ := r
  have hout := transition_outcome id config.idleTimeout s e
  unfold settle recordEvent at h
  generalize s.transition id e config.idleTimeout = after at h hout
  cases hout with
  | opened =>
    obtain rfl := Option.some.inj h
    exact hr
  | lastClosed => simp [onEntry] at h
  | oneClosed =>
    obtain rfl := Option.some.inj h
    exact hr
  | lost =>
    simp only [List.foldl_cons, List.foldl_nil, onEntry, if_true, Option.map_some, Option.some.injEq] at h
    subst h
    simp [SessionState.isActive]
  | drained =>
    simp only [List.foldl_cons, List.foldl_nil, onEntry, if_true, Option.map_some, Option.some.injEq] at h
    subst h
    simp [SessionState.isActive]
  | expired => simp [onEntry] at h
  | ignored =>
    obtain rfl := Option.some.inj h
    exact hr

/-- the metrics of a transition say nothing about other sessions -/
theorem announced_other {id id' : SessionId} (hne : id' ≠ id) (log : List LogEntry) (s : SessionState)
    (e : SessionEvent) (idle : Duration) :
    announced (log ++ metricsOf (s.transition id e idle).2) id' = announced log id' := by
  have hne' : id ≠ id' := fun h => hne h.symm
  have hout := transition_outcome id idle s e
  generalize s.transition id e idle = after at hout ⊢
  rw [announced_append]
  cases hout <;> simp [metricsOf, announce, hne']

/-- after a transition the log has announced the machine's next state -/
theorem announces_transition {id : SessionId} {log : List LogEntry} {s : SessionState} (h : Announces log id s)
    (e : SessionEvent) (idle : Duration) :
    Announces (log ++ metricsOf (s.transition id e idle).2) id (s.transition id e idle).1 := by
  have hout := transition_outcome id idle s e
  generalize s.transition id e idle = after at hout ⊢
  cases hout with
  | opened => simpa [Announces, announced_append, metricsOf, announce] using h
  | lastClosed => trivial
  | oneClosed => simpa [Announces, announced_append, metricsOf, announce] using h
  | lost => simp [Announces, announced_append, metricsOf, announce]
  | drained => simp [Announces, announced_append, metricsOf, announce]
  | expired => trivial
  | ignored => simpa [metricsOf] using h

/-- a transition closes a session for the reason announced -/
theorem reasonsMatch_transition {id : SessionId} {log : List LogEntry} {s : SessionState} (hlog : ReasonsMatch log)
    (h : Announces log id s) (e : SessionEvent) (idle : Duration) :
    ReasonsMatch (log ++ metricsOf (s.transition id e idle).2) := by
  have hout := transition_outcome id idle s e
  generalize s.transition id e idle = after at hout ⊢
  cases hout with
  | lastClosed =>
    have hstream : ReasonsMatch (log ++ [.metric (.streamClosed id 0)]) := hlog.snoc_other (by simp)
    have hnone : announced (log ++ [.metric (.streamClosed id 0)]) id = none := by
      simpa [announced_append, announce, Announces] using h
    have hclosed : ReasonsMatch (log ++ [.metric (.streamClosed id 0)] ++
        [.metric (.sessionClosed id CloseReason.clientDisconnect.asMetricReason)]) :=
      hstream.snoc_closed fun r hr => by rw [hnone] at hr; cases hr
    simpa [metricsOf] using hclosed
  | expired => exact hlog.snoc_closed fun r' hr' => by rw [h] at hr'; exact Option.some.inj hr'
  | ignored => simpa [metricsOf] using hlog
  | opened => exact hlog.snoc_other (by simp)
  | oneClosed => exact hlog.snoc_other (by simp)
  | lost => exact hlog.snoc_other (by simp)
  | drained => exact hlog.snoc_other (by simp)

/-! ## The invariant -/

structure Inv (m : SessionManager) : Prop where
  accepting : ∀ id r, m.registry.get id = some r → (r.acceptingNewStreams = true ↔ r.state.isActive = true)
  announces : ∀ id r, m.registry.get id = some r → Announces m.log id r.state
  reasons : ReasonsMatch m.log

theorem inv_new (config : SessionManagerConfig) (slots : ℕ) : Inv (SessionManager.new config slots) := by
  refine ⟨?_, ?_, reasonsMatch_nil⟩
  · intro id r h
    simp [SessionManager.new] at h
  · intro id r h
    simp [SessionManager.new] at h

/-- entries that were there before, with the same state and the same flag, keep the invariant -/
theorem Inv.of_entries {m : SessionManager} (h : Inv m) {reg : SessionRegistry}
    (hold : ∀ id r, reg.get id = some r → ∃ r₀, m.registry.get id = some r₀ ∧ r₀.state = r.state ∧
      r₀.acceptingNewStreams = r.acceptingNewStreams) : Inv { m with registry := reg } := by
  refine ⟨?_, ?_, h.reasons⟩
  · intro id r hr
    obtain ⟨r₀, hr₀, hstate, hflag⟩ := hold id r hr
    rw [← hstate, ← hflag]
    exact h.accepting id r₀ hr₀
  · intro id r hr
    obtain ⟨r₀, hr₀, hstate, -⟩ := hold id r hr
    rw [← hstate]
    exact h.announces id r₀ hr₀

/-- entries that only go away keep the invariant -/
theorem Inv.of_subset {m : SessionManager} (h : Inv m) {reg : SessionRegistry}
    (hsub : ∀ id r, reg.get id = some r → m.registry.get id = some r) : Inv { m with registry := reg } :=
  h.of_entries fun id r hr => ⟨r, hsub id r hr, rfl, rfl⟩

theorem inv_registerSession {m : SessionManager} (h : Inv m) (request : SessionRequest) :
    Inv (m.registerSession request).2 := by
  by_cases hfree : m.registry.free = 0
  · rw [registerSession_of_full hfree]; exact h
  have hlog : (m.registerSession request).2.log = m.log ++ [.registered m.registry.next] := by
    rw [registerSession_of_free hfree]
  refine ⟨?_, ?_, by rw [hlog]; exact h.reasons.snoc_other (by simp)⟩
  · intro id r hr
    by_cases hid : id = m.registry.next
    · subst hid
      rw [registerSession_get_self hfree, Option.some.injEq] at hr
      subst hr
      simp [startRecord, SessionRecord.new, SessionState.isActive]
    · rw [registerSession_get_other hid] at hr
      exact h.accepting id r hr
  · intro id r hr
    rw [hlog]
    by_cases hid : id = m.registry.next
    · subst hid
      rw [registerSession_get_self hfree, Option.some.injEq] at hr
      subst hr
      simp [startRecord, SessionRecord.new, Announces, announced_append, announce]
    · rw [registerSession_get_other hid] at hr
      have hann := h.announces id r hr
      have hsame : announced (m.log ++ [.registered m.registry.next]) id = announced m.log id := by
        rw [announced_append]; simp [announce, show m.registry.next ≠ id from fun he => hid he.symm]
      exact hann.of_same hsame

/-- an event whose two writes agree keeps the invariant -/
theorem inv_handleEvent {m : SessionManager} (h : Inv m) {id : SessionId} {e : SessionEvent} {now closeNow : Instant}
    (hagree : CloseAgrees m (.handleEvent id e now closeNow)) : Inv (m.handleEvent id e now closeNow).2 := by
  cases hget : m.registry.get id with
  | none => simpa [handleEvent_of_none hget] using h
  | some r =>
    have href : RefinedBy m.config id e r (settle m.config id e now closeNow r) :=
      (settle_refines_iff m.config id e now closeNow r (h.accepting id r hget)).2 (hagree r hget)
    have hlog := handleEvent_log hget e now closeNow
    refine ⟨?_, ?_, ?_⟩
    · intro id' r' hr'
      by_cases hid : id' = id
      · subst hid
        rw [handleEvent_get_self hget] at hr'
        exact settle_accepting _ _ _ _ _ r (h.accepting _ r hget) hr'
      · rw [handleEvent_get_other m hid] at hr'
        exact h.accepting id' r' hr'
    · intro id' r' hr'
      rw [hlog]
      by_cases hid : id' = id
      · subst hid
        rw [handleEvent_get_self hget] at hr'
        rw [hr'] at href
        rw [href.1]
        exact announces_transition (h.announces _ r hget) e _
      · rw [handleEvent_get_other m hid] at hr'
        exact (h.announces id' r' hr').of_same (announced_other hid _ _ _ _)
    · rw [hlog]
      exact reasonsMatch_transition h.reasons (h.announces id r hget) e _

/-- one step keeps the invariant, as long as the two writes agree -/
theorem step_inv (m : SessionManager) (o : Op) (h : Inv m) (hagree : CloseAgrees m o) : Inv (step m o) := by
  cases o with
  | registerSession request => exact inv_registerSession h request
  | handleEvent id e now closeNow => exact inv_handleEvent h hagree
  | touch id now =>
    refine h.of_entries ?_
    intro id' r' hr'
    by_cases hid : id' = id
    · subst hid
      rw [SlotStore.get_update_self, Option.map_eq_some_iff] at hr'
      obtain ⟨r, hr, rfl⟩ := hr'
      exact ⟨r, hr, rfl, rfl⟩
    · rw [SlotStore.get_update_of_ne hid] at hr'
      exact ⟨r', hr', rfl, rfl⟩
  | remove id =>
    refine h.of_subset ?_
    intro id' r hr
    by_cases hid : id' = id
    · subst hid; simp at hr
    · rwa [SlotStore.get_remove_of_ne hid] at hr
  | reapIdle maxIdle now => exact h.of_subset fun id' r hr => SlotStore.get_of_get_retain hr
  | shutdown now =>
    have hsub : ∀ id r, (SlotStore.drain m.registry).2.get id = some r → m.registry.get id = some r := by
      intro id r hr
      rw [SlotStore.get_drain] at hr; cases hr
    exact h.of_subset hsub

/-- a step from a state of the invariant refines the pure machine exactly when the two writes agree -/
theorem refines_iff_agrees {m : SessionManager} (h : Inv m) (o : Op) : Refines m o ↔ CloseAgrees m o := by
  cases o with
  | handleEvent id e now closeNow =>
    simp only [Refines, CloseAgrees]
    refine forall₂_congr fun r hr => ?_
    rw [handleEvent_get_self hr]
    exact settle_refines_iff m.config id e now closeNow r (h.accepting id r hr)
  | _ => exact Iff.rfl

/-! ## Main result -/

/-- **`handle_event` and the pure machine.** Over every run of the manager, all events are refined (the session is gone
and the machine says closed, or its record holds exactly the machine's state and accepts streams exactly while active)
and every session-closed metric carries the reason announced before, if and only if at every step the two writes of the
record agree. -/
theorem handle_event_refines_iff (config : SessionManagerConfig) (slots : ℕ) (ops : List Op) :
    AllSteps step Refines (SessionManager.new config slots) ops ∧
        ReasonsMatch (run step (SessionManager.new config slots) ops).log ↔
      AllSteps step CloseAgrees (SessionManager.new config slots) ops := by
  have hinv := inv_new config slots
  have hsteps : AllSteps step Refines (SessionManager.new config slots) ops ↔
      AllSteps step CloseAgrees (SessionManager.new config slots) ops :=
    allSteps_iff_of_step step_inv (fun m o h => refines_iff_agrees h o) hinv
  constructor
  · rintro ⟨href, -⟩
    exact hsteps.1 href
  · intro hagree
    exact ⟨hsteps.2 hagree, (run_inv_of_allSteps step_inv hinv hagree).reasons⟩

/-- a session is registered, loses its transport (deadline 60, recorded at 7) and reaches its deadline -/
def lostTransport : List Op :=
  [.registerSession ⟨5, "request-1"⟩, .handleEvent 1 (.transportLost 60) 7 7, .handleEvent 1 .deadlineReached 60 60]

/-- **A lost transport closes as a drain.** The record of a session that lost its transport at 7 reads "drain, deadline
7" where the machine says "transport lost, deadline 60", and its end is reported for the reason "drain_shutdown" after
"transport_lost" was announced. -/
theorem transport_lost_closes_as_drain :
    let m0 := SessionManager.new ⟨30, 10⟩ 1
    (run step m0 (lostTransport.take 2)).registry.get 1 = some ⟨.closing .drainShutdown 7, false, 7⟩ ∧
      (run step m0 lostTransport).log =
        [.registered 1, .metric (.sessionClosing 1 "transport_lost"), .metric (.sessionClosed 1 "drain_shutdown")] ∧
      ¬AllSteps step Refines m0 lostTransport ∧ ¬ReasonsMatch (run step m0 lostTransport).log := by
  refine ⟨by decide, by decide, by decide, fun h => ?_⟩
  have := h [.registered 1, .metric (.sessionClosing 1 "transport_lost")] 1 "drain_shutdown" (by decide)
    "transport_lost" (by decide)
  exact absurd this (by decide)

end N0wss.Session.Refinement
