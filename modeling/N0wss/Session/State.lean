/-
The pure per-session state machine (`session/state.rs`) and the effects it emits (`session/effects.rs`).

A session is active, closing until a deadline, or closed. `transition` maps a state and an event to the next state and
an ordered list of effects, each for one component: the registry, the timers or the metrics. Effects are carried out
later, by other code.

Results:
- `transition_outcome`: what an event can do to a session, with every effect.
- `transition_rank`: no event takes a session back along active < closing < closed.
- `transition_closed`: a closed session ignores every event, without effects.
- `closedMetrics_transition`: the session-closed metric is emitted by the event that closes the session, once, and by
  no other.
-/
import Mathlib.Tactic

namespace N0wss.Session

abbrev SessionId := UInt64

/-- a reading of the monotonic clock -/
abbrev Instant := ℕ

abbrev Duration := ℕ

/-! ## Effects -/

inductive RegistryCommand where
  | markNoNewStreams (sessionId : SessionId)
  | closeStreams (sessionId : SessionId) (graceful : Bool)
  | remove (sessionId : SessionId)
deriving DecidableEq, Repr

inductive TimerCommand where
  | scheduleIdle (sessionId : SessionId) (timeout : Duration)
  | cancelIdle (sessionId : SessionId)
deriving DecidableEq, Repr

inductive MetricEvent where
  | streamOpened (sessionId : SessionId) (streamCount : UInt32)
  | streamClosed (sessionId : SessionId) (streamCount : UInt32)
  | sessionClosing (sessionId : SessionId) (reason : String)
  | sessionClosed (sessionId : SessionId) (reason : String)
deriving DecidableEq, Repr

inductive SessionEffect where
  | registry (command : RegistryCommand)
  | timer (command : TimerCommand)
  | metric (event : MetricEvent)
deriving DecidableEq, Repr

def MetricEvent.isSessionClosed : MetricEvent → Bool
  | .sessionClosed _ _ => true
  | _ => false

def SessionEffect.isSessionClosed : SessionEffect → Bool
  | .metric ev => ev.isSessionClosed
  | _ => false

/-! ## States and events -/

inductive CloseReason where
  | clientDisconnect
  | authRevoked
  | drainShutdown
  | idleTimeout
  | transportLost
deriving DecidableEq, Repr

def CloseReason.asMetricReason : CloseReason → String
  | .clientDisconnect => "client_disconnect"
  | .authRevoked => "auth_revoked"
  | .drainShutdown => "drain_shutdown"
  | .idleTimeout => "idle_timeout"
  | .transportLost => "transport_lost"

inductive SessionState where
  | active (since : Instant) (streamCount : UInt32)
  | closing (reason : CloseReason) (deadline : Instant)
  | closed
deriving DecidableEq, Repr

inductive SessionEvent where
  | streamOpened
  | streamClosed
  | transportLost (deadline : Instant)
  | drainRequested (deadline : Instant)
  | deadlineReached
deriving DecidableEq, Repr

/-- position along active < closing < closed -/
def SessionState.rank : SessionState → ℕ
  | .active _ _ => 0
  | .closing _ _ => 1
  | .closed => 2

def SessionState.isActive : SessionState → Bool
  | .active _ _ => true
  | _ => false

@[simp] theorem SessionState.rank_active (t : Instant) (n : UInt32) : (SessionState.active t n).rank = 0 := rfl
@[simp] theorem SessionState.rank_closing (r : CloseReason) (d : Instant) : (SessionState.closing r d).rank = 1 := rfl
@[simp] theorem SessionState.rank_closed : SessionState.closed.rank = 2 := rfl

theorem SessionState.rank_le (s : SessionState) : s.rank ≤ 2 := by cases s <;> simp

theorem SessionState.eq_closed_of_rank {s : SessionState} (h : 2 ≤ s.rank) : s = .closed := by
  cases s with
  | active t n => simp at h
  | closing r d => simp at h
  | closed => rfl

/-! ## The stream counter -/

/-- `saturating_add(1)` -/
def saturatingSucc (n : UInt32) : UInt32 := if n.toNat + 1 < 2 ^ 32 then n + 1 else n

/-- `saturating_sub(1)` -/
def saturatingPred (n : UInt32) : UInt32 := if n = 0 then 0 else n - 1

/-- a counter that one more stream still moves -/
def Unsaturated (n : UInt32) : Prop := n.toNat + 1 < 2 ^ 32

instance (n : UInt32) : Decidable (Unsaturated n) := by unfold Unsaturated; infer_instance

theorem saturatingSucc_toNat_iff (n : UInt32) : (saturatingSucc n).toNat = n.toNat + 1 ↔ Unsaturated n := by
  unfold saturatingSucc Unsaturated
  split_ifs with h
  · simp only [UInt32.toNat_add, UInt32.reduceToNat, h, iff_true]
    exact Nat.mod_eq_of_lt h
  · simp only [h, iff_false]
    omega

@[simp] theorem saturatingPred_saturatingSucc_zero : saturatingPred (saturatingSucc 0) = 0 := by decide

/-! ## Transitions -/

/-- `SessionState::transition`; the idle timeout is not read -/
def SessionState.transition (self : SessionState) (sessionId : SessionId) (event : SessionEvent)
    (_idleTimeout : Duration) : SessionState × List SessionEffect :=
  match self, event with
  | .active since streamCount, .streamOpened =>
    let nextCount := saturatingSucc streamCount
    (.active since nextCount,
      [.timer (.cancelIdle sessionId), .metric (.streamOpened sessionId nextCount)])
  | .active since streamCount, .streamClosed =>
    let nextCount := saturatingPred streamCount
    if nextCount = 0 then
      (.closed,
        [.metric (.streamClosed sessionId nextCount), .timer (.cancelIdle sessionId), .registry (.remove sessionId),
          .metric (.sessionClosed sessionId CloseReason.clientDisconnect.asMetricReason)])
    else (.active since nextCount, [.metric (.streamClosed sessionId nextCount)])
  | .active _ _, .transportLost deadline =>
    (.closing .transportLost deadline,
      [.registry (.closeStreams sessionId true),
        .metric (.sessionClosing sessionId CloseReason.transportLost.asMetricReason)])
  | .active _ _, .drainRequested deadline =>
    (.closing .drainShutdown deadline,
      [.registry (.markNoNewStreams sessionId), .registry (.closeStreams sessionId true),
        .timer (.cancelIdle sessionId),
        .metric (.sessionClosing sessionId CloseReason.drainShutdown.asMetricReason)])
  | .closing reason _, .deadlineReached =>
    (.closed,
      [.registry (.closeStreams sessionId false), .registry (.remove sessionId), .timer (.cancelIdle sessionId),
        .metric (.sessionClosed sessionId reason.asMetricReason)])
  | .closed, _ => (.closed, [])
  | state, _ => (state, [])

variable (id : SessionId) (idle : Duration)

@[simp] theorem transition_active_opened (t : Instant) (n : UInt32) :
    (SessionState.active t n).transition id .streamOpened idle =
      (.active t (saturatingSucc n),
        [.timer (.cancelIdle id), .metric (.streamOpened id (saturatingSucc n))]) := rfl

/-- the last stream's end closes the session -/
theorem transition_active_streamClosed_last {t : Instant} {n : UInt32} (h : saturatingPred n = 0) :
    (SessionState.active t n).transition id .streamClosed idle =
      (.closed,
        [.metric (.streamClosed id 0), .timer (.cancelIdle id), .registry (.remove id),
          .metric (.sessionClosed id CloseReason.clientDisconnect.asMetricReason)]) := by
  simp [SessionState.transition, h]

theorem transition_active_streamClosed_more {t : Instant} {n : UInt32} (h : saturatingPred n ≠ 0) :
    (SessionState.active t n).transition id .streamClosed idle =
      (.active t (saturatingPred n), [.metric (.streamClosed id (saturatingPred n))]) := by
  simp [SessionState.transition, h]

@[simp] theorem transition_active_transportLost (t : Instant) (n : UInt32) (d : Instant) :
    (SessionState.active t n).transition id (.transportLost d) idle =
      (.closing .transportLost d,
        [.registry (.closeStreams id true),
          .metric (.sessionClosing id CloseReason.transportLost.asMetricReason)]) := rfl

@[simp] theorem transition_active_drainRequested (t : Instant) (n : UInt32) (d : Instant) :
    (SessionState.active t n).transition id (.drainRequested d) idle =
      (.closing .drainShutdown d,
        [.registry (.markNoNewStreams id), .registry (.closeStreams id true), .timer (.cancelIdle id),
          .metric (.sessionClosing id CloseReason.drainShutdown.asMetricReason)]) := rfl

/-- an active session has no deadline to reach -/
@[simp] theorem transition_active_deadlineReached (t : Instant) (n : UInt32) :
    (SessionState.active t n).transition id .deadlineReached idle = (.active t n, []) := rfl

@[simp] theorem transition_closing_deadlineReached (r : CloseReason) (d : Instant) :
    (SessionState.closing r d).transition id .deadlineReached idle =
      (.closed,
        [.registry (.closeStreams id false), .registry (.remove id), .timer (.cancelIdle id),
          .metric (.sessionClosed id r.asMetricReason)]) := rfl

theorem transition_closing_other (r : CloseReason) (d : Instant) {e : SessionEvent} (he : e ≠ .deadlineReached) :
    (SessionState.closing r d).transition id e idle = (.closing r d, []) := by
  cases e with
  | deadlineReached => exact absurd rfl he
  | _ => rfl

@[simp] theorem transition_closed (e : SessionEvent) :
    SessionState.closed.transition id e idle = (.closed, []) := by
  cases e <;> rfl

/-! ## What every transition does -/

/-- what an event can do to a session -/
inductive TransitionOutcome : SessionState → SessionEvent → SessionState × List SessionEffect → Prop
  | opened (t : Instant) (n : UInt32) : TransitionOutcome (.active t n) .streamOpened
      (.active t (saturatingSucc n), [.timer (.cancelIdle id), .metric (.streamOpened id (saturatingSucc n))])
  | lastClosed (t : Instant) {n : UInt32} (h : saturatingPred n = 0) : TransitionOutcome (.active t n) .streamClosed
      (.closed, [.metric (.streamClosed id 0), .timer (.cancelIdle id), .registry (.remove id),
        .metric (.sessionClosed id CloseReason.clientDisconnect.asMetricReason)])
  | oneClosed (t : Instant) {n : UInt32} (h : saturatingPred n ≠ 0) : TransitionOutcome (.active t n) .streamClosed
      (.active t (saturatingPred n), [.metric (.streamClosed id (saturatingPred n))])
  | lost (t : Instant) (n : UInt32) (d : Instant) : TransitionOutcome (.active t n) (.transportLost d)
      (.closing .transportLost d, [.registry (.closeStreams id true),
        .metric (.sessionClosing id CloseReason.transportLost.asMetricReason)])
  | drained (t : Instant) (n : UInt32) (d : Instant) : TransitionOutcome (.active t n) (.drainRequested d)
      (.closing .drainShutdown d, [.registry (.markNoNewStreams id), .registry (.closeStreams id true),
        .timer (.cancelIdle id), .metric (.sessionClosing id CloseReason.drainShutdown.asMetricReason)])
  | expired (r : CloseReason) (d : Instant) : TransitionOutcome (.closing r d) .deadlineReached
      (.closed, [.registry (.closeStreams id false), .registry (.remove id), .timer (.cancelIdle id),
        .metric (.sessionClosed id r.asMetricReason)])
  | ignored (s : SessionState) (e : SessionEvent) : TransitionOutcome s e (s, [])

theorem transition_outcome (s : SessionState) (e : SessionEvent) :
    TransitionOutcome id s e (s.transition id e idle) := by
  cases s with
  | active t n =>
    cases e with
    | streamOpened => exact .opened t n
    | streamClosed =>
      by_cases h : saturatingPred n = 0
      · rw [transition_active_streamClosed_last id idle h]
        exact .lastClosed t h
      · rw [transition_active_streamClosed_more id idle h]
        exact .oneClosed t h
    | transportLost d => exact .lost t n d
    | drainRequested d => exact .drained t n d
    | deadlineReached => exact .ignored _ _
  | closing r d =>
    by_cases he : e = .deadlineReached
    · subst he
      exact .expired r d
    · rw [transition_closing_other id idle r d he]
      exact .ignored _ _
  | closed =>
    rw [transition_closed]
    exact .ignored _ _

/-- no event takes a session back along active < closing < closed -/
theorem transition_rank (s : SessionState) (e : SessionEvent) : s.rank ≤ (s.transition id e idle).1.rank := by
  have h := transition_outcome id idle s e
  generalize s.transition id e idle = after at h ⊢
  cases h <;> simp

/-- how many session-closed metrics a list of effects still holds -/
def closedMetrics (effects : List SessionEffect) : ℕ := effects.countP SessionEffect.isSessionClosed

@[simp] theorem closedMetrics_nil : closedMetrics [] = 0 := rfl

theorem closedMetrics_cons (ef : SessionEffect) (effects : List SessionEffect) :
    closedMetrics (ef :: effects) = closedMetrics effects + if ef.isSessionClosed then 1 else 0 := by
  simp [closedMetrics, List.countP_cons]

/-- the session-closed metric comes from the event that closes the session, once, and from no other -/
theorem closedMetrics_transition (s : SessionState) (e : SessionEvent) :
    closedMetrics (s.transition id e idle).2 =
      if s ≠ .closed ∧ (s.transition id e idle).1 = .closed then 1 else 0 := by
  have h := transition_outcome id idle s e
  generalize s.transition id e idle = after at h ⊢
  cases h with
  | ignored => simp
  | _ => rfl

end N0wss.Session
