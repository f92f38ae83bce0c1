/-
Overlapping calls on one session (`session/mod.rs`, `session/registry.rs`): any number of `handle_event`,
`resolve_stream` and `shutdown` calls, interleaved at every registry lookup, every record-lock section, every effect
application and every await. A call that looked its handle up before the session was removed keeps the record; effects
look the session up again.

The record and its registration are shared; every call is a place in its own code. One operation starts a call, takes
one call one step on, or ends the transport open a call waits for.

`run_event_alone` ties the calls to the sequential manager: a `handle_event` call that runs alone leaves the entry
`settle` says.
-/
import N0wss.Core.Machine
import N0wss.Session.Manager

namespace N0wss.Session.Interleaving

open Machine SessionManager

/-! ## The session and the calls on it -/

/-- what the calls share: the record, whether the registry still holds it, and the metrics emitted -/
structure Shared where
  record : SessionRecord
  registered : Bool
  metrics : List MetricEvent
deriving DecidableEq, Repr

/-- where a `handle_event` call stands -/
inductive EventPc where
  /-- before the registry lookup -/
  | lookup (event : SessionEvent)
  /-- holding a handle, before the record section -/
  | record (event : SessionEvent)
  /-- after the record section, which found and left the states noted; effects still to apply -/
  | apply (section' : SessionState × SessionState) (pending : List SessionEffect)
  | returned (section' : Option (SessionState × SessionState)) (result : Except SessionManagerError Unit)

inductive Call where
  | event (pc : EventPc)
  /-- `resolve_stream`, before the registry lookup -/
  | resolveLookup
  /-- holding a handle, before reading `accepting_new_streams` -/
  | resolveSnapshot
  /-- waiting for the transport -/
  | resolveOpening
  /-- the transport opened; before `last_activity` is written -/
  | resolveTouch (kind : TransportKind)
  /-- in the stream-open event -/
  | resolve (kind : TransportKind) (pc : EventPc)
  | resolveFailed (err : SessionManagerError)
  /-- `shutdown`, before draining -/
  | drain
  /-- drained, with or without this session among the handles -/
  | close (held : Bool)
  | shutDown

structure St where
  shared : Shared
  calls : List Call

inductive Op where
  | handleEvent (event : SessionEvent)
  | resolveStream
  | shutdown
  /-- call `i` takes one step; `now` is the clock, where it is read -/
  | step (i : ℕ) (now : Instant)
  /-- the transport that call `i` waits for opens or fails -/
  | opened (i : ℕ) (outcome : Except TransportSelectError TransportKind)

/-- a session just registered -/
def init (request : SessionRequest) : St := ⟨⟨startRecord request, true, []⟩, []⟩

variable (id : SessionId) (idle : Duration)

/-- one effect; registry commands find the session only while it is registered -/
def applyEffect (now : Instant) (s : Shared) : SessionEffect → Shared
  | .registry (.markNoNewStreams id') =>
    if s.registered ∧ id' = id then { s with record := s.record.stopAccepting } else s
  | .registry (.closeStreams id' graceful) =>
    if s.registered ∧ id' = id then { s with record := s.record.closeStreams graceful now } else s
  | .registry (.remove id') => if id' = id then { s with registered := false } else s
  | .timer _ => s
  | .metric ev => { s with metrics := s.metrics ++ [ev] }

/-- one step of a `handle_event` call -/
def stepEvent (now : Instant) (s : Shared) : EventPc → Shared × EventPc
  | .lookup event => (s, if s.registered then .record event else .returned none (.error (.sessionNotFound id)))
  | .record event =>
    let (nextState, effects) := s.record.state.transition id event idle
    ({ s with record := { s.record with state := nextState, lastActivity := now } },
      .apply (s.record.state, nextState) effects)
  | .apply section' [] => (s, .returned (some section') (.ok ()))
  | .apply section' (ef :: pending) => (applyEffect id now s ef, .apply section' pending)
  | .returned section' result => (s, .returned section' result)

/-- one step of a call -/
def stepCall (now : Instant) (s : Shared) : Call → Shared × Call
  | .event pc => ((stepEvent id idle now s pc).1, .event (stepEvent id idle now s pc).2)
  | .resolveLookup => (s, if s.registered then .resolveSnapshot else .resolveFailed (.sessionNotFound id))
  | .resolveSnapshot =>
    (s, if s.record.acceptingNewStreams then .resolveOpening else .resolveFailed (.sessionNotAcceptingNewStreams id))
  | .resolveOpening => (s, .resolveOpening)
  | .resolveTouch kind =>
    ({ s with record := { s.record with lastActivity := now } }, .resolve kind (.lookup .streamOpened))
  | .resolve kind pc => ((stepEvent id idle now s pc).1, .resolve kind (stepEvent id idle now s pc).2)
  | .resolveFailed err => (s, .resolveFailed err)
  | .drain => ({ s with registered := false }, .close s.registered)
  | .close true => ({ s with record := s.record.shutDown now }, .shutDown)
  | .close false => (s, .shutDown)
  | .shutDown => (s, .shutDown)

/-- how the end of a transport open takes a waiting call on -/
def openCall (outcome : Except TransportSelectError TransportKind) : Call → Call
  | .resolveOpening =>
    match outcome with
    | .ok kind => .resolveTouch kind
    | .error err => .resolveFailed (.transportResolutionFailed err)
  | call => call

def step (s : St) : Op → St
  | .handleEvent event => { s with calls := s.calls ++ [.event (.lookup event)] }
  | .resolveStream => { s with calls := s.calls ++ [.resolveLookup] }
  | .shutdown => { s with calls := s.calls ++ [.drain] }
  | .step i now =>
    match s.calls[i]? with
    | some call => ⟨(stepCall id idle now s.shared call).1, s.calls.set i (stepCall id idle now s.shared call).2⟩
    | none => s
  | .opened i outcome =>
    match s.calls[i]? with
    | some call => { s with calls := s.calls.set i (openCall outcome call) }
    | none => s

/-! ## The sequential manager -/

/-- the registry entry of the session -/
def entry (s : Shared) : Option SessionRecord := if s.registered then some s.record else none

theorem applyEffect_entry (now : Instant) (s : Shared) (ef : SessionEffect) :
    entry (applyEffect id now s ef) = onEntry id now (entry s) ef := by
  cases ef with
  | registry c =>
    cases c with
    | markNoNewStreams id' =>
      by_cases h : id' = id <;> cases hr : s.registered <;> simp [applyEffect, onEntry, entry, h, hr]
    | closeStreams id' g =>
      by_cases h : id' = id <;> cases hr : s.registered <;> simp [applyEffect, onEntry, entry, h, hr]
    | remove id' =>
      by_cases h : id' = id <;> simp [applyEffect, onEntry, entry, h]
  | timer c => rfl
  | metric ev => rfl

/-- one call runs `n` steps on its own -/
def alone (now : Instant) : ℕ → Shared × EventPc → Shared × EventPc
  | 0, s => s
  | n + 1, s => alone now n (stepEvent id idle now s.1 s.2)

theorem alone_apply (now : Instant) (s : Shared) (section' : SessionState × SessionState)
    (pending : List SessionEffect) :
    alone id idle now (pending.length + 1) (s, .apply section' pending) =
      (pending.foldl (applyEffect id now) s, .returned (some section') (.ok ())) := by
  induction pending generalizing s with
  | nil => rfl
  | cons ef pending ih => exact ih (applyEffect id now s ef)

theorem foldl_applyEffect_entry (now : Instant) (s : Shared) (effects : List SessionEffect) :
    entry (effects.foldl (applyEffect id now) s) = effects.foldl (onEntry id now) (entry s) := by
  induction effects generalizing s with
  | nil => rfl
  | cons ef effects ih => rw [List.foldl_cons, List.foldl_cons, ih, applyEffect_entry]

/-- **A call that runs alone.** A `handle_event` call on a registered session, with no other call in between, returns
and leaves the entry the sequential manager leaves. -/
theorem run_event_alone (config : SessionManagerConfig) (now : Instant) (s : Shared) (h : s.registered = true)
    (e : SessionEvent) :
    ∃ n s' section', alone id config.idleTimeout now n (s, .lookup e) = (s', .returned (some section') (.ok ())) ∧
      entry s' = settle config id e now now s.record := by
  set effects := (s.record.state.transition id e config.idleTimeout).2
  set s1 : Shared := { s with record := (recordEvent config id e now s.record).1 }
  refine ⟨effects.length + 3, effects.foldl (applyEffect id now) s1,
    (s.record.state, (s.record.state.transition id e config.idleTimeout).1), ?_, ?_⟩
  · have hlookup : stepEvent id config.idleTimeout now s (.lookup e) = (s, .record e) := by
      simp only [stepEvent, h, if_true]
    have hrecord : stepEvent id config.idleTimeout now s (.record e) =
        (s1, .apply (s.record.state, (s.record.state.transition id e config.idleTimeout).1) effects) := rfl
    rw [alone, hlookup, alone, hrecord, alone_apply]
  · rw [foldl_applyEffect_entry, entry, show s1.registered = true from h, if_pos rfl]
    rfl

end N0wss.Session.Interleaving
