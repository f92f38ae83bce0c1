/-
The session registry under overlapping calls (`session/registry.rs`): reservations, insertions, removals, draining, reaping
and registry commands, interleaved at every section of every call.

A handle is a place on a heap of records: the map files handles, and a command looks its handle up under the map's lock
and writes the record under the record's own. Handles outlive their entries.

- `handles_run`: no two sessions share a record, and what a command holds is its own session's or nobody's.
- `execute_alone`: a command that runs without interruption does what `SessionRegistry.execute` does.
- `session_capacity_conserved`: slots are conserved, ids increase, reservations fail only when there is no slot, reaping
  takes exactly the idle sessions and frees their slots, and a command touches one record at most.
-/
import N0wss.Core.SharedStore
import N0wss.Session.Registry

namespace N0wss.Session.SharedRegistry

open Machine SessionRegistry

/-! ## The registry and the calls on it -/

/-- a place on the heap of records -/
abbrev Handle := ℕ

/-- where a command stands that found its session -/
inductive CommandCall where
  | write (handle : Handle) (command : RegistryCommand)
  | done
deriving DecidableEq

structure SharedSessions where
  registry : SharedStore Handle
  heap : List SessionRecord
  commands : List CommandCall

inductive Op where
  | tryReserve
  | dropGuard
  | insert (record : SessionRecord)
  | remove (id : SessionId)
  | drainAll
  | reapIdle (maxIdle : Duration) (now : Instant)
  | execute (command : RegistryCommand)
  /-- registry call `i` runs its next section -/
  | step (i : ℕ)
  /-- command `i` runs its record section; `now` is its reading of the clock -/
  | stepCommand (i : ℕ) (now : Instant)

def start (maxSessions : ℕ) : SharedSessions := ⟨.start maxSessions, [], []⟩

def sessionCount (s : SharedSessions) : ℕ := s.registry.store.count

def availableSlots (s : SharedSessions) : ℕ := s.registry.store.free

def outstandingGuards (s : SharedSessions) : ℕ := s.registry.guards

/-- the record of a session -/
def recordOf (s : SharedSessions) (id : SessionId) : Option SessionRecord :=
  (s.registry.store.get id).bind fun handle => s.heap[handle]?

def tryReserve (s : SharedSessions) : Option SharedSessions :=
  s.registry.tryReserve.map fun registry => { s with registry }

/-- `SessionHandle::new` and the start of `insert`; nobody else sees the handle before it is filed -/
def insert (s : SharedSessions) (record : SessionRecord) : SharedSessions :=
  { s with registry := s.registry.step (.insert s.heap.length), heap := s.heap ++ [record] }

def remove (s : SharedSessions) (id : SessionId) : SharedSessions := { s with registry := s.registry.step (.remove id) }

/-- what the closure of `retain` answers -/
def keeps (heap : List SessionRecord) (maxIdle : Duration) (now : Instant) (handle : Handle) : Bool :=
  match heap[handle]? with
  | some record => decide (now - record.lastActivity ≤ maxIdle)
  | none => true

/-- the ids `reap_idle` returns -/
def reaped (s : SharedSessions) (maxIdle : Duration) (now : Instant) : List SessionId :=
  (s.registry.store.sift fun _ handle => keeps s.heap maxIdle now handle).1

def reapIdle (s : SharedSessions) (maxIdle : Duration) (now : Instant) : SharedSessions :=
  { s with registry := s.registry.step (.sift fun _ handle => keeps s.heap maxIdle now handle) }

/-- the lookup of a command -/
def lookUp (s : SharedSessions) (command : RegistryCommand) : SharedSessions :=
  match s.registry.store.get (target command) with
  | some handle => { s with commands := s.commands ++ [.write handle command] }
  | none => s

def execute (s : SharedSessions) : RegistryCommand → SharedSessions
  | .markNoNewStreams id => lookUp s (.markNoNewStreams id)
  | .closeStreams id graceful => lookUp s (.closeStreams id graceful)
  | .remove id => remove s id

/-- the record section of a command -/
def writeOf (now : Instant) : RegistryCommand → SessionRecord → SessionRecord
  | .markNoNewStreams _, record => record.stopAccepting
  | .closeStreams _ graceful, record => record.closeStreams graceful now
  | .remove _, record => record

def stepCommand (s : SharedSessions) (i : ℕ) (now : Instant) : SharedSessions :=
  match s.commands[i]? with
  | some (.write handle command) =>
    { s with heap := s.heap.modify handle (writeOf now command), commands := s.commands.set i .done }
  | some .done | none => s

def step (s : SharedSessions) : Op → SharedSessions
  | .tryReserve => (tryReserve s).getD s
  | .dropGuard => { s with registry := s.registry.step .dropGuard }
  | .insert record => insert s record
  | .remove id => remove s id
  | .drainAll => { s with registry := s.registry.step .drain }
  | .reapIdle maxIdle now => reapIdle s maxIdle now
  | .execute command => execute s command
  | .step i => { s with registry := s.registry.step (.step i) }
  | .stepCommand i now => stepCommand s i now

/-- no call is under way -/
def Quiescent (s : SharedSessions) : Prop := s.registry.Quiescent ∧ ∀ call ∈ s.commands, call = .done

instance (s : SharedSessions) : Decidable (Quiescent s) :=
  inferInstanceAs (Decidable (s.registry.Quiescent ∧ ∀ call ∈ s.commands, call = .done))

def Op.isInsert : Op → Bool
  | .insert _ => true
  | .tryReserve | .dropGuard | .remove _ | .drainAll | .reapIdle _ _ | .execute _ | .step _ | .stepCommand _ _ => false

/-! ## The slots -/

/-- the registry takes the steps of a shared store -/
theorem registry_step (s : SharedSessions) (o : Op) :
    ∃ ops : List (SharedStore.Op Handle), (step s o).registry = run SharedStore.step s.registry ops ∧
      ops.countP SharedStore.Op.isOpening ≤ if o.isInsert then 1 else 0 := by
  have hlookUp : ∀ command, (lookUp s command).registry = s.registry := by
    intro command
    unfold lookUp
    split <;> rfl
  cases o with
  | tryReserve =>
    refine ⟨[.tryReserve], ?_, le_rfl⟩
    simp only [step, tryReserve, run_cons, run_nil, SharedStore.step]
    cases s.registry.tryReserve <;> rfl
  | dropGuard => exact ⟨[.dropGuard], rfl, le_rfl⟩
  | insert record => exact ⟨[.insert s.heap.length], rfl, le_rfl⟩
  | remove id => exact ⟨[.remove id], rfl, le_rfl⟩
  | drainAll => exact ⟨[.drain], rfl, le_rfl⟩
  | reapIdle maxIdle now => exact ⟨[.sift _], rfl, le_rfl⟩
  | execute command =>
    cases command with
    | markNoNewStreams id => exact ⟨[], hlookUp _, le_rfl⟩
    | closeStreams id graceful => exact ⟨[], hlookUp _, le_rfl⟩
    | remove id => exact ⟨[.remove id], rfl, le_rfl⟩
  | step i => exact ⟨[.step i], rfl, le_rfl⟩
  | stepCommand i now =>
    refine ⟨[], ?_, le_rfl⟩
    simp only [step, stepCommand]
    split <;> rfl

theorem registry_run (s : SharedSessions) (ops : List Op) :
    ∃ storeOps : List (SharedStore.Op Handle),
      (run step s ops).registry = run SharedStore.step s.registry storeOps ∧
        storeOps.countP SharedStore.Op.isOpening ≤ ops.countP Op.isInsert := by
  induction ops generalizing s with
  | nil => exact ⟨[], rfl, le_rfl⟩
  | cons o ops ih =>
    obtain ⟨first, hfirst, hcount⟩ := registry_step s o
    obtain ⟨rest, hrest, hcountRest⟩ := ih (step s o)
    refine ⟨first ++ rest, ?_, ?_⟩
    · rw [run_cons, hrest, hfirst, run_append]
    · rw [List.countP_append, List.countP_cons]
      omega

theorem tryReserve_eq_none {s : SharedSessions} : tryReserve s = none ↔ availableSlots s = 0 := by
  simp only [tryReserve, SharedStore.tryReserve, Option.map_eq_none_iff, SlotStore.tryReserve_eq_none, availableSlots]

/-! ## Whose records they are -/

/-- handles about to be filed -/
def pendingHandles (s : SharedSessions) : List Handle := s.registry.calls.filterMap SharedStore.Call.value

/-- no two sessions share a record, and what a command holds is its own session's or nobody's -/
structure Handles (s : SharedSessions) : Prop where
  filed : ∀ id handle, s.registry.store.get id = some handle → handle < s.heap.length
  pending : ∀ handle ∈ pendingHandles s, handle < s.heap.length
  once : (pendingHandles s).Nodup
  apart : ∀ id handle, s.registry.store.get id = some handle → handle ∉ pendingHandles s
  one : ∀ id id' handle, s.registry.store.get id = some handle → s.registry.store.get id' = some handle → id = id'
  commands : ∀ handle command, .write handle command ∈ s.commands →
    handle < s.heap.length ∧ handle ∉ pendingHandles s ∧
      ∀ id, s.registry.store.get id = some handle → id = target command

theorem handles_start (maxSessions : ℕ) : Handles (start maxSessions) where
  filed id handle h := by simp [start, SharedStore.start] at h
  pending handle h := absurd h List.not_mem_nil
  once := List.nodup_nil
  apart id handle h := by simp [start, SharedStore.start] at h
  one id id' handle h := by simp [start, SharedStore.start] at h
  commands handle command h := absurd h List.not_mem_nil

/-- fewer entries, and nothing else moves -/
theorem Handles.of_fewer {s s' : SharedSessions} (h : Handles s)
    (hget : ∀ id handle, s'.registry.store.get id = some handle → s.registry.store.get id = some handle)
    (hpending : pendingHandles s' = pendingHandles s) (hheap : s'.heap.length = s.heap.length)
    (hcommands : ∀ handle command, .write handle command ∈ s'.commands → .write handle command ∈ s.commands) :
    Handles s' where
  filed id handle hid := by rw [hheap]; exact h.filed id handle (hget id handle hid)
  pending handle hmem := by rw [hheap]; rw [hpending] at hmem; exact h.pending handle hmem
  once := by rw [hpending]; exact h.once
  apart id handle hid := by rw [hpending]; exact h.apart id handle (hget id handle hid)
  one id id' handle hid hid' := h.one id id' handle (hget id handle hid) (hget id' handle hid')
  commands handle command hmem := by
    obtain ⟨hlt, hnot, hown⟩ := h.commands handle command (hcommands handle command hmem)
    exact ⟨by rw [hheap]; exact hlt, by rw [hpending]; exact hnot, fun id hid => hown id (hget id handle hid)⟩

theorem pendingHandles_append (calls : List (SharedStore.Call Handle)) (permits : ℕ) (answer : Option UInt64) :
    (calls ++ [SharedStore.Call.release permits answer]).filterMap SharedStore.Call.value =
      calls.filterMap SharedStore.Call.value := by
  simp [List.filterMap_append, SharedStore.Call.value]

theorem handles_remove {s : SharedSessions} (h : Handles s) (id : SessionId) : Handles (remove s id) := by
  unfold remove
  cases hget : s.registry.store.get id with
  | none =>
    simp only [SharedStore.step, SlotStore.takeOut, hget]
    exact h
  | some handle =>
    simp only [SharedStore.step, SlotStore.takeOut, hget]
    refine h.of_fewer (fun id' handle' hget' => ?_) (pendingHandles_append _ _ _) rfl fun _ _ hmem => hmem
    by_cases hid : id' = id
    · subst hid
      have hnone := SlotStore.get_takeOut_self s.registry.store id'
      exact absurd (hnone.symm.trans hget') (by simp)
    · exact (SlotStore.get_takeOut_of_ne hid).symm.trans hget'

theorem handles_lookUp {s : SharedSessions} (h : Handles s) (command : RegistryCommand) : Handles (lookUp s command) := by
  unfold lookUp
  split
  · rename_i handle hget
    refine ⟨h.filed, h.pending, h.once, h.apart, h.one, fun handle' command' hmem => ?_⟩
    rcases List.mem_append.1 hmem with hmem | hmem
    · exact h.commands handle' command' hmem
    · obtain ⟨rfl, rfl⟩ : handle' = handle ∧ command' = command := by simpa using hmem
      exact ⟨h.filed _ _ hget, h.apart _ _ hget, fun id hid => h.one _ _ _ hid hget⟩
  · exact h

theorem handles_insert {s : SharedSessions} (h : Handles s) (record : SessionRecord) : Handles (insert s record) := by
  have hlength : (insert s record).heap.length = s.heap.length + 1 := by simp [insert]
  unfold insert at hlength ⊢
  by_cases hguards : s.registry.guards = 0
  · simp only [SharedStore.step, if_pos hguards]
    refine ⟨fun id handle hid => ?_, fun handle hmem => ?_, h.once, h.apart, h.one, fun handle command hmem => ?_⟩
    · rw [hlength]; exact Nat.lt_succ_of_lt (h.filed id handle hid)
    · rw [hlength]; exact Nat.lt_succ_of_lt (h.pending handle hmem)
    · obtain ⟨hlt, hrest⟩ := h.commands handle command hmem
      exact ⟨by rw [hlength]; exact Nat.lt_succ_of_lt hlt, hrest⟩
  · simp only [SharedStore.step, if_neg hguards]
    -- the new handle is past every handle there is
    have hpending : pendingHandles ⟨⟨s.registry.store, s.registry.guards - 1, s.registry.calls ++ [.draw s.heap.length],
        s.registry.drawn⟩, s.heap ++ [record], s.commands⟩ = pendingHandles s ++ [s.heap.length] := by
      simp [pendingHandles, List.filterMap_append, SharedStore.Call.value]
    have hnew : s.heap.length ∉ pendingHandles s := fun hmem => lt_irrefl _ (h.pending _ hmem)
    refine ⟨fun id handle hid => ?_, ?_, ?_, ?_, h.one, ?_⟩
    · rw [hlength]; exact Nat.lt_succ_of_lt (h.filed id handle hid)
    · intro handle hmem
      rw [hpending] at hmem
      rw [hlength]
      rcases List.mem_append.1 hmem with hmem | hmem
      · exact Nat.lt_succ_of_lt (h.pending handle hmem)
      · rw [List.mem_singleton.1 hmem]; exact Nat.lt_succ_self _
    · rw [hpending]
      exact List.nodup_append.2 ⟨h.once, List.nodup_singleton _, fun a ha b hb hab => by
        rw [List.mem_singleton.1 hb] at hab
        exact hnew (hab ▸ ha)⟩
    · intro id handle hid hmem
      rw [hpending] at hmem
      rcases List.mem_append.1 hmem with hmem | hmem
      · exact h.apart id handle hid hmem
      · exact absurd (h.filed id handle hid) (by rw [List.mem_singleton.1 hmem]; exact lt_irrefl _)
    · intro handle command hmem
      obtain ⟨hlt, hnot, hown⟩ := h.commands handle command hmem
      refine ⟨by rw [hlength]; exact Nat.lt_succ_of_lt hlt, ?_, hown⟩
      rw [hpending, List.mem_append, List.mem_singleton]
      rintro (hold | hlast)
      · exact hnot hold
      · exact absurd hlt (by rw [hlast]; exact lt_irrefl _)

/-- a handle that is filed leaves the calls and is one session's -/
theorem handles_stepCall {s : SharedSessions} (h : Handles s) (i : ℕ) : Handles (step s (.step i)) := by
  simp only [step, SharedStore.step, SharedStore.stepCall]
  split
  · rename_i handle hcall
    exact h.of_fewer (fun _ _ hget => hget) (filterMap_set_of_eq SharedStore.Call.value hcall rfl) rfl fun _ _ hmem => hmem
  · rename_i id handle hcall
    have hvalue : SharedStore.Call.value (.file id handle) = some handle := rfl
    have hperm := filterMap_perm_set SharedStore.Call.value hcall hvalue
      (show SharedStore.Call.value (.release (s.registry.store.file id handle).1 (some id)) = none from rfl)
    have hold : handle ∈ pendingHandles s := hperm.symm.subset List.mem_cons_self
    have hsub : ∀ handle' ∈ (s.registry.calls.set i (.release (s.registry.store.file id handle).1 (some id))).filterMap
        SharedStore.Call.value, handle' ∈ pendingHandles s := fun handle' hmem =>
      hperm.symm.subset (List.mem_cons_of_mem _ hmem)
    obtain ⟨hnew, honce⟩ := List.nodup_cons.1 (hperm.nodup_iff.1 h.once)
    -- the entry filed, or one that was there before
    have hget : ∀ id' handle', (s.registry.store.file id handle).2.get id' = some handle' →
        (id' = id ∧ handle' = handle) ∨ s.registry.store.get id' = some handle' := by
      intro id' handle' hget
      by_cases hid : id' = id
      · subst hid
        rw [SlotStore.get_file_self] at hget
        exact Or.inl ⟨rfl, (Option.some.inj hget).symm⟩
      · rw [SlotStore.get_file_of_ne hid] at hget
        exact Or.inr hget
    refine ⟨?_, fun handle' hmem => h.pending handle' (hsub handle' hmem), honce, ?_, ?_, ?_⟩
    · intro id' handle' hid
      rcases hget id' handle' hid with ⟨-, rfl⟩ | hid
      · exact h.pending _ hold
      · exact h.filed id' handle' hid
    · intro id' handle' hid hmem
      rcases hget id' handle' hid with ⟨-, rfl⟩ | hid
      · exact hnew hmem
      · exact h.apart id' handle' hid (hsub handle' hmem)
    · intro a b handle' ha hb
      rcases hget a handle' ha with ⟨rfl, rfl⟩ | ha'
      · rcases hget b handle' hb with ⟨rfl, -⟩ | hb'
        · rfl
        · exact absurd hold (h.apart b handle' hb')
      · rcases hget b handle' hb with ⟨rfl, rfl⟩ | hb'
        · exact absurd hold (h.apart a handle' ha')
        · exact h.one a b handle' ha' hb'
    · intro handle' command hmem
      obtain ⟨hlt, hnot, hown⟩ := h.commands handle' command hmem
      refine ⟨hlt, fun hin => hnot (hsub handle' hin), fun id' hid => ?_⟩
      rcases hget id' handle' hid with ⟨-, rfl⟩ | hid
      · exact absurd hold hnot
      · exact hown id' hid
  · rename_i permits answer hcall
    exact h.of_fewer (fun _ _ hget => hget) (filterMap_set_of_eq SharedStore.Call.value hcall rfl) rfl fun _ _ hmem => hmem
  · exact h
  · exact h

theorem handles_step {s : SharedSessions} (h : Handles s) (o : Op) : Handles (step s o) := by
  cases o with
  | tryReserve =>
    cases hstore : s.registry.store.tryReserve with
    | none =>
      simp only [step, tryReserve, SharedStore.tryReserve, hstore, Option.map_none, Option.getD_none]
      exact h
    | some store =>
      obtain ⟨-, rfl⟩ := SlotStore.tryReserve_eq_some.1 hstore
      simp only [step, tryReserve, SharedStore.tryReserve, hstore, Option.map_some, Option.getD_some]
      exact h.of_fewer (fun _ _ hget => hget) rfl rfl fun _ _ hmem => hmem
  | dropGuard =>
    simp only [step, SharedStore.step]
    split_ifs
    · exact h
    · exact h.of_fewer (fun _ _ hget => hget) rfl rfl fun _ _ hmem => hmem
  | insert record => exact handles_insert h record
  | remove id => exact handles_remove h id
  | drainAll =>
    have hnone : ∀ id, s.registry.store.takeAll.2.get id = none := fun id => AList.lookup_empty _
    refine h.of_fewer (fun id handle hget => ?_) (pendingHandles_append _ _ _) rfl fun _ _ hmem => hmem
    exact absurd ((hnone id).symm.trans hget) (by simp)
  | reapIdle maxIdle now =>
    refine h.of_fewer (fun id handle hget => ?_) (pendingHandles_append _ _ _) rfl fun _ _ hmem => hmem
    have hsift := SlotStore.get_sift s.registry.store (fun _ handle => keeps s.heap maxIdle now handle) id
    have hsifted := hsift.symm.trans hget
    exact (Option.filter_eq_some_iff.1 hsifted).1
  | execute command =>
    cases command with
    | markNoNewStreams id => exact handles_lookUp h _
    | closeStreams id graceful => exact handles_lookUp h _
    | remove id => exact handles_remove h id
  | step i => exact handles_stepCall h i
  | stepCommand i now =>
    simp only [step, stepCommand]
    split
    · rename_i handle command hcall
      refine h.of_fewer (fun _ _ hget => hget) rfl (List.length_modify ..) fun handle' command' hmem => ?_
      rcases List.mem_or_eq_of_mem_set hmem with hmem | hdone
      · exact hmem
      · cases hdone
    · exact h
    · exact h

/-- **Handles stay apart** in every run -/
theorem handles_run (maxSessions : ℕ) (ops : List Op) : Handles (run step (start maxSessions) ops) := by
  have hstep : ∀ s o, Handles s → Handles (step s o) := fun _ o hs => handles_step hs o
  exact run_inv hstep ops (handles_start maxSessions)

/-! ## Commands -/

theorem recordOf_lookUp (s : SharedSessions) (command : RegistryCommand) (id : SessionId) :
    recordOf (lookUp s command) id = recordOf s id := by
  unfold lookUp
  split <;> rfl

theorem recordOf_remove_of_ne (s : SharedSessions) {id id' : SessionId} (h : id' ≠ id) :
    recordOf (remove s id) id' = recordOf s id' := by
  unfold remove recordOf
  cases hget : s.registry.store.get id with
  | none => simp only [SharedStore.step, SlotStore.takeOut, hget]
  | some handle =>
    have hother := SlotStore.get_takeOut_of_ne (s := s.registry.store) h
    simp only [SlotStore.takeOut] at hother
    simp only [SharedStore.step, SlotStore.takeOut, hget, hother]

/-- the lookup of a command, or the removal, leaves the other sessions alone -/
theorem recordOf_execute_of_ne (s : SharedSessions) {command : RegistryCommand} {id : SessionId} (h : id ≠ target command) :
    recordOf (execute s command) id = recordOf s id := by
  cases command with
  | markNoNewStreams id' => exact recordOf_lookUp s _ id
  | closeStreams id' graceful => exact recordOf_lookUp s _ id
  | remove id' => exact recordOf_remove_of_ne s h

/-- a session that is there has a record -/
theorem recordOf_eq_none {s : SharedSessions} (h : Handles s) {id : SessionId} :
    recordOf s id = none ↔ s.registry.store.get id = none := by
  unfold recordOf
  cases hget : s.registry.store.get id with
  | none => simp
  | some handle => simp [h.filed id handle hget]

/-- a command for a session that is not there changes nothing -/
theorem execute_of_absent {s : SharedSessions} {command : RegistryCommand}
    (h : s.registry.store.get (target command) = none) : execute s command = s := by
  cases command with
  | markNoNewStreams id =>
    have hnone : s.registry.store.get (target (.markNoNewStreams id)) = none := h
    simp only [execute, lookUp, hnone]
  | closeStreams id graceful =>
    have hnone : s.registry.store.get (target (.closeStreams id graceful)) = none := h
    simp only [execute, lookUp, hnone]
  | remove id =>
    have hnone : s.registry.store.get id = none := h
    simp only [execute, remove, SharedStore.step, SlotStore.takeOut, hnone]

/-- the record section of a command leaves the other sessions alone -/
theorem recordOf_stepCommand_of_ne {s : SharedSessions} (h : Handles s) {i : ℕ} {handle : Handle}
    {command : RegistryCommand} (hcall : s.commands[i]? = some (.write handle command)) (now : Instant) {id : SessionId}
    (hid : id ≠ target command) : recordOf (stepCommand s i now) id = recordOf s id := by
  obtain ⟨-, -, hown⟩ := h.commands handle command (List.mem_of_getElem? hcall)
  simp only [stepCommand, hcall, recordOf]
  cases hget : s.registry.store.get id with
  | none => rfl
  | some other =>
    have hne : handle ≠ other := fun heq => hid (hown id (by rw [heq]; exact hget))
    simp [hne]

/-- what a command does to the registry, for the sequential one -/
theorem recordOf_write {s : SharedSessions} {handle : Handle} {command : RegistryCommand}
    (hget : s.registry.store.get (target command) = some handle) (now : Instant) (id : SessionId)
    (hone : s.registry.store.get id = some handle → id = target command) :
    recordOf (stepCommand { s with commands := s.commands ++ [.write handle command] } s.commands.length now) id =
      if id = target command then (recordOf s id).map (writeOf now command) else recordOf s id := by
  have hlast : (s.commands ++ [CommandCall.write handle command])[s.commands.length]? = some (.write handle command) :=
    List.getElem?_concat_length
  simp only [stepCommand, hlast, recordOf]
  by_cases hid : id = target command
  · subst hid
    simp [hget]
  · rw [if_neg hid]
    cases hother : s.registry.store.get id with
    | none => rfl
    | some other =>
      have hne : handle ≠ other := fun heq => hid (hone (by rw [hother, heq]))
      simp [hne]

/-- **A command without interruption** does what the sequential registry does. -/
theorem execute_alone {s : SharedSessions} (h : Handles s) {reg : SessionRegistry} (hreg : ∀ id, reg.get id = recordOf s id)
    (command : RegistryCommand) (now : Instant) (id : SessionId) :
    recordOf (run step s [.execute command, .stepCommand s.commands.length now]) id =
      (SessionRegistry.execute reg now command).get id := by
  have hnobody : s.commands[s.commands.length]? = none := List.getElem?_eq_none le_rfl
  have hfound : ∀ c : RegistryCommand, execute s c = lookUp s c →
      (∀ id, (SessionRegistry.execute reg now c).get id =
        if id = target c then (recordOf s id).map (writeOf now c) else recordOf s id) →
      recordOf (stepCommand (execute s c) s.commands.length now) id = (SessionRegistry.execute reg now c).get id := by
    intro c hexec hsequential
    rw [hsequential, hexec]
    unfold lookUp
    cases hget : s.registry.store.get (target c) with
    | none =>
      have hnone : recordOf s (target c) = none := (recordOf_eq_none h).2 hget
      simp only [stepCommand, hnobody]
      split_ifs with hid
      · rw [hid, hnone]; rfl
      · rfl
    | some handle => exact recordOf_write hget now id fun hid => h.one _ _ _ hid hget
  simp only [run_cons, run_nil, step]
  cases command with
  | markNoNewStreams id' =>
    refine hfound _ rfl fun id => ?_
    by_cases hid : id = id'
    · subst hid
      rw [execute_markNoNewStreams_get, hreg, target, if_pos rfl]
      rfl
    · rw [SessionRegistry.execute_other _ _ _ hid, hreg, target, if_neg hid]
  | closeStreams id' graceful =>
    refine hfound _ rfl fun id => ?_
    by_cases hid : id = id'
    · subst hid
      rw [execute_closeStreams_get, hreg, target, if_pos rfl]
      rfl
    · rw [SessionRegistry.execute_other _ _ _ hid, hreg, target, if_neg hid]
  | remove id' =>
    have hstill : stepCommand (execute s (.remove id')) s.commands.length now = execute s (.remove id') := by
      have hcommands : (execute s (.remove id')).commands = s.commands := rfl
      rw [stepCommand, hcommands, hnobody]
    rw [hstill]
    by_cases hid : id = id'
    · subst hid
      rw [execute_remove_get]
      simp only [execute, remove, recordOf, SharedStore.step, SlotStore.takeOut]
      cases hget : s.registry.store.get id with
      | none => simp [hget]
      | some handle =>
        have hgone := SlotStore.get_takeOut_self s.registry.store id
        simp only [SlotStore.takeOut] at hgone
        simp [hgone]
    · rw [SessionRegistry.execute_other _ _ _ hid, hreg]
      exact recordOf_execute_of_ne s hid

/-! ## Reaping -/

/-- reaping takes out, and returns, exactly the sessions idle for longer than the bound, and frees exactly their slots -/
def ReapsExactly (s : SharedSessions) (maxIdle : Duration) (now : Instant) : Prop :=
  (reaped s maxIdle now).Nodup ∧
    (∀ id, id ∈ reaped s maxIdle now ↔ ∃ record, recordOf s id = some record ∧ maxIdle < now - record.lastActivity) ∧
    (∀ id, recordOf (reapIdle s maxIdle now) id = if id ∈ reaped s maxIdle now then none else recordOf s id) ∧
    sessionCount (reapIdle s maxIdle now) + (reaped s maxIdle now).length = sessionCount s ∧
    availableSlots (run step (reapIdle s maxIdle now)
        (List.replicate (reaped s maxIdle now).length (.step s.registry.calls.length))) =
      availableSlots s + (reaped s maxIdle now).length

theorem registry_run_steps (s : SharedSessions) (n i : ℕ) :
    (run step s (List.replicate n (.step i))).registry =
      run SharedStore.step s.registry (List.replicate n (.step i)) := by
  induction n generalizing s with
  | zero => rfl
  | succ n ih => rw [List.replicate_succ, List.replicate_succ, run_cons, run_cons, ih]; rfl

theorem keeps_eq_false {heap : List SessionRecord} {maxIdle : Duration} {now : Instant} {handle : Handle} :
    keeps heap maxIdle now handle = false ↔
      ∃ record, heap[handle]? = some record ∧ maxIdle < now - record.lastActivity := by
  unfold keeps
  split
  · rename_i record hrecord
    rw [decide_eq_false_iff_not, not_le, hrecord]
    constructor
    · intro hidle
      exact ⟨record, rfl, hidle⟩
    · rintro ⟨other, hother, hidle⟩
      rwa [Option.some.inj hother]
  · rename_i hnone
    simp [hnone]

theorem reapsExactly {s : SharedSessions} (h : Handles s) (maxIdle : Duration) (now : Instant) :
    ReapsExactly s maxIdle now := by
  have hmem : ∀ id, id ∈ reaped s maxIdle now ↔
      ∃ record, recordOf s id = some record ∧ maxIdle < now - record.lastActivity := by
    intro id
    rw [reaped, SlotStore.mem_sift]
    constructor
    · rintro ⟨handle, hget, hkeep⟩
      obtain ⟨record, hrecord, hidle⟩ := keeps_eq_false.1 hkeep
      exact ⟨record, by rw [recordOf, hget, Option.bind_some, hrecord], hidle⟩
    · rintro ⟨record, hrecord, hidle⟩
      obtain ⟨handle, hget, hheap⟩ := Option.bind_eq_some_iff.1 hrecord
      exact ⟨handle, hget, keeps_eq_false.2 ⟨record, hheap, hidle⟩⟩
  refine ⟨SlotStore.nodup_sift _ _, hmem, fun id => ?_,
    s.registry.store.count_sift fun _ handle => keeps s.heap maxIdle now handle, ?_⟩
  · have hsifted := SlotStore.get_sift s.registry.store (fun _ handle => keeps s.heap maxIdle now handle) id
    have hget : (reapIdle s maxIdle now).registry.store.get id =
        (s.registry.store.get id).filter fun handle => keeps s.heap maxIdle now handle := hsifted
    have hheap : (reapIdle s maxIdle now).heap = s.heap := rfl
    rw [recordOf, hget, hheap]
    cases hold : s.registry.store.get id with
    | none =>
      have hnone : recordOf s id = none := (recordOf_eq_none h).2 hold
      rw [hnone, ite_self]
      rfl
    | some handle =>
      by_cases hkeep : keeps s.heap maxIdle now handle = true
      · have hout : id ∉ reaped s maxIdle now := by
          rw [reaped, SlotStore.mem_sift]
          rintro ⟨other, hother, hdrop⟩
          rw [hold] at hother
          obtain rfl := Option.some.inj hother
          rw [hkeep] at hdrop
          cases hdrop
        rw [if_neg hout, Option.filter_some, if_pos hkeep, recordOf, hold]
      · have hin : id ∈ reaped s maxIdle now := by
          rw [reaped, SlotStore.mem_sift]
          exact ⟨handle, hold, Bool.eq_false_iff.2 hkeep⟩
        rw [if_pos hin, Option.filter_some, if_neg hkeep]
        rfl
  · have hcall : (reapIdle s maxIdle now).registry.calls[s.registry.calls.length]? =
        some (.release (reaped s maxIdle now).length none) := List.getElem?_concat_length
    rw [availableSlots, registry_run_steps, SharedStore.run_release hcall]
    rfl

/-! ## The registry over runs -/

/-- a command addressed to one session leaves the others alone, in both its sections, and does nothing if it is absent -/
def LeavesOthers (s : SharedSessions) (command : RegistryCommand) : Prop :=
  (∀ id, id ≠ target command → recordOf (execute s command) id = recordOf s id) ∧
    (recordOf s (target command) = none → execute s command = s) ∧
    ∀ i handle now, s.commands[i]? = some (.write handle command) →
      (∀ id, id ≠ target command → recordOf (stepCommand s i now) id = recordOf s id) ∧
        (recordOf s (target command) = none → ∀ id, recordOf (stepCommand s i now) id = recordOf s id)

theorem leavesOthers {s : SharedSessions} (h : Handles s) (command : RegistryCommand) : LeavesOthers s command := by
  refine ⟨fun id hid => recordOf_execute_of_ne s hid, fun hnone => execute_of_absent ((recordOf_eq_none h).1 hnone), ?_⟩
  intro i handle now hcall
  have hothers : ∀ id, id ≠ target command → recordOf (stepCommand s i now) id = recordOf s id := fun id hid =>
    recordOf_stepCommand_of_ne h hcall now hid
  refine ⟨hothers, fun hnone id => ?_⟩
  by_cases hid : id = target command
  · -- nothing is filed under the id, before or after
    subst hid
    have hget := (recordOf_eq_none h).1 hnone
    have hsame : (stepCommand s i now).registry = s.registry := by
      simp only [stepCommand, hcall]
    rw [hnone, recordOf, hsame, hget]
    rfl
  · exact hothers id hid

/-- **Session capacity is conserved.** For every run of the registry. -/
theorem session_capacity_conserved (maxSessions : ℕ) (ops : List Op) :
    let s := run step (start maxSessions) ops
    (Quiescent s → sessionCount s + outstandingGuards s + availableSlots s = maxSessions) ∧
      sessionCount s ≤ maxSessions ∧
      (ops.countP Op.isInsert < 2 ^ 64 →
        s.registry.drawn.Pairwise (· < ·) ∧ s.registry.returned.Nodup ∧ s.registry.returned ⊆ s.registry.drawn) ∧
      (∀ more, s.registry.drawn <+: (run step s more).registry.drawn) ∧
      (tryReserve s = none ↔ availableSlots s = 0) ∧
      (∀ maxIdle now, ReapsExactly s maxIdle now) ∧
      ∀ command, LeavesOthers s command := by
  intro s
  have hhandles : Handles s := handles_run maxSessions ops
  obtain ⟨storeOps, hregistry, hcount⟩ := registry_run (start maxSessions) ops
  have hconserved : SharedStore.Conserved maxSessions s.registry := by
    rw [show s.registry = _ from hregistry]
    exact SharedStore.conserved_run storeOps
  have hcounted : SharedStore.Counted s.registry := by
    rw [show s.registry = _ from hregistry]
    exact SharedStore.counted_run maxSessions storeOps
  unfold SharedStore.Conserved at hconserved
  refine ⟨fun hquiet => ?_, ?_, fun hfew => ?_, fun more => ?_, tryReserve_eq_none, reapsExactly hhandles,
    leavesOthers hhandles⟩
  · have hheld := SharedStore.permitsHeld_of_quiescent hquiet.1
    simp only [sessionCount, outstandingGuards, availableSlots]
    omega
  · simp only [sessionCount]
    omega
  · have hdrawn : s.registry.drawn.length < 2 ^ 64 := by
      rw [show s.registry = _ from hregistry]
      have hle := SharedStore.length_drawn_le maxSessions storeOps
      have hstart : (start maxSessions).registry = SharedStore.start maxSessions := rfl
      rw [hstart]
      omega
    have hincreasing := hcounted.increasing hdrawn
    exact ⟨hincreasing, hcounted.nodup_returned hincreasing, fun id hid =>
      hcounted.mem_drawn hid⟩
  · obtain ⟨moreOps, hmore, -⟩ := registry_run s more
    rw [hmore]
    exact SharedStore.drawn_run s.registry moreOps

/-- two slots: one session filed, one reservation outstanding, and no third -/
theorem second_reservation_takes_last_slot :
    let record : SessionRecord := .new (.active 0 0) 0
    let s := run step (start 2) [.tryReserve, .insert record, .tryReserve, .step 0, .step 0]
    sessionCount s + outstandingGuards s + availableSlots s = 2 ∧ s.registry.drawn.Pairwise (· < ·) ∧
      tryReserve s = none := by
  intro record s
  obtain ⟨hconserved, -, hids, -, hreserve, -, -⟩ := session_capacity_conserved 2
    [.tryReserve, .insert record, .tryReserve, .step 0, .step 0]
  exact ⟨hconserved (by decide), (hids (by decide)).1, hreserve.2 rfl⟩

end N0wss.Session.SharedRegistry
