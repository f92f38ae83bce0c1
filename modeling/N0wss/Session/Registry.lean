/-
The session registry (`session/registry.rs`): records under ids, one semaphore permit an entry.

A handle is a shared reference to a record. As long as calls do not overlap, reading and writing through a handle is
reading and writing the entry it was looked up under, and so the record lives in the entry here. Overlapping calls,
and handles that outlive their entry, are the subject of `Session.Interleaving`.

- `execute_other`: a command leaves the records of other sessions alone.
- `execute_remove_get`, `execute_closeStreams_get`, `execute_markNoNewStreams_get`: what it does to its own session.
-/
import N0wss.Core.SlotStore
import N0wss.Session.State

namespace N0wss.Session

structure SessionRecord where
  state : SessionState
  acceptingNewStreams : Bool
  lastActivity : Instant
deriving DecidableEq, Repr

def SessionRecord.new (state : SessionState) (lastActivity : Instant) : SessionRecord := ⟨state, true, lastActivity⟩

abbrev SessionRegistry := SlotStore SessionRecord

/-! ## What commands do to one record -/

def SessionRecord.stopAccepting (record : SessionRecord) : SessionRecord := { record with acceptingNewStreams := false }

/-- the record section of `close_streams`; `now` is its reading of the clock -/
def SessionRecord.closeStreams (record : SessionRecord) (graceful : Bool) (now : Instant) : SessionRecord :=
  { record with acceptingNewStreams := false
                state := if graceful then .closing .drainShutdown now else .closed }

/-- what `shutdown` does to a drained handle -/
def SessionRecord.shutDown (record : SessionRecord) (now : Instant) : SessionRecord :=
  { record with acceptingNewStreams := false, state := .closed, lastActivity := now }

@[simp] theorem SessionRecord.state_stopAccepting (r : SessionRecord) : r.stopAccepting.state = r.state := rfl
@[simp] theorem SessionRecord.accepting_closeStreams (r : SessionRecord) (g : Bool) (now : Instant) :
    (r.closeStreams g now).acceptingNewStreams = false := rfl
@[simp] theorem SessionRecord.state_closeStreams_graceful (r : SessionRecord) (now : Instant) :
    (r.closeStreams true now).state = .closing .drainShutdown now := rfl
@[simp] theorem SessionRecord.state_closeStreams_forced (r : SessionRecord) (now : Instant) :
    (r.closeStreams false now).state = .closed := rfl

/-! ## The registry -/

namespace SessionRegistry

def availableSlots (reg : SessionRegistry) : ℕ := reg.free

def sessionCount (reg : SessionRegistry) : ℕ := reg.count

def markNoNewStreams (reg : SessionRegistry) (id : SessionId) : SessionRegistry :=
  reg.update id SessionRecord.stopAccepting

def closeStreams (reg : SessionRegistry) (id : SessionId) (graceful : Bool) (now : Instant) : SessionRegistry :=
  reg.update id (·.closeStreams graceful now)

def execute (reg : SessionRegistry) (now : Instant) : RegistryCommand → SessionRegistry
  | .markNoNewStreams id => markNoNewStreams reg id
  | .closeStreams id graceful => closeStreams reg id graceful now
  | .remove id => (reg.remove id).2

/-- idle for longer than the bound: last activity to now, zero where the clock reads earlier -/
def reapIdle (reg : SessionRegistry) (maxIdle : Duration) (now : Instant) : List SessionId × SessionRegistry :=
  reg.retain fun _ record => decide (now - record.lastActivity ≤ maxIdle)

def drainAll (reg : SessionRegistry) : List (SessionId × SessionRecord) × SessionRegistry := reg.drain

/-- the session a command is about -/
def target : RegistryCommand → SessionId
  | .markNoNewStreams id => id
  | .closeStreams id _ => id
  | .remove id => id

theorem execute_other (reg : SessionRegistry) (now : Instant) (c : RegistryCommand) {id : SessionId}
    (h : id ≠ target c) : (execute reg now c).get id = reg.get id := by
  cases c with
  | markNoNewStreams id' => exact SlotStore.get_update_of_ne h _
  | closeStreams id' g => exact SlotStore.get_update_of_ne h _
  | remove id' => exact SlotStore.get_remove_of_ne h

@[simp] theorem execute_remove_get (reg : SessionRegistry) (now : Instant) (id : SessionId) :
    (execute reg now (.remove id)).get id = none := SlotStore.get_remove_self _ _

@[simp] theorem execute_closeStreams_get (reg : SessionRegistry) (now : Instant) (id : SessionId) (g : Bool) :
    (execute reg now (.closeStreams id g)).get id = (reg.get id).map (·.closeStreams g now) :=
  SlotStore.get_update_self _ _ _

@[simp] theorem execute_markNoNewStreams_get (reg : SessionRegistry) (now : Instant) (id : SessionId) :
    (execute reg now (.markNoNewStreams id)).get id = (reg.get id).map SessionRecord.stopAccepting :=
  SlotStore.get_update_self _ _ _

theorem free_execute_remove {reg : SessionRegistry} {id : SessionId} {r : SessionRecord} (now : Instant)
    (h : reg.get id = some r) : (execute reg now (.remove id)).free = reg.free + 1 := SlotStore.free_remove_of_get h

end SessionRegistry

end N0wss.Session
