/-
A slot store that overlapping calls share. Nothing is atomic but one section at a time: taking a permit, drawing an id,
filing under the map's lock, taking entries out under the lock, giving one permit back. A call that has taken permits
holds them in between, and a reservation that nobody used yet holds one too.

- `insert_eq`, `remove_eq`, `drain_eq`, `retain_eq`: a call that runs its sections without interruption is the operation
  of `SlotStore`.
- `step_outcome`: all that a step can come to.
- `conserved_step`: entries, free slots, reservations and permits held by calls add up to the capacity.
- `counted_step`: the ids drawn are the counter's, in order, and each call has an id of its own.
- `Counted.increasing`: ids increase until the counter wraps.
- `run_release`: a call that has taken entries out frees their slots one by one.
-/
import N0wss.Core.Machine
import N0wss.Core.SlotStore

namespace N0wss

namespace SlotStore

variable {α : Type*}

/-! ## Sections -/

/-- `fetch_add` on the counter -/
def draw (s : SlotStore α) : UInt64 × SlotStore α := (s.next, { s with next := s.next + 1 })

/-- file a value and its permit under an id that was drawn; the permits of what it displaces are left in hand -/
def file (s : SlotStore α) (id : UInt64) (a : α) : ℕ × SlotStore α :=
  (if id ∈ s.entries then 1 else 0, { s with entries := s.entries.insert id a })

/-- take an entry out of the map, its permit in hand -/
def takeOut (s : SlotStore α) (id : UInt64) : Option α × SlotStore α :=
  (s.get id, { s with entries := s.entries.erase id })

/-- take every entry out, their permits in hand -/
def takeAll (s : SlotStore α) : List (UInt64 × α) × SlotStore α :=
  (s.entries.entries.map fun e => (e.1, e.2), { s with entries := ∅ })

theorem nodupKeys_filter (s : SlotStore α) (keep : UInt64 → α → Bool) :
    (s.entries.entries.filter fun e => keep e.1 e.2).NodupKeys :=
  s.entries.nodupKeys.sublist List.filter_sublist

/-- take out the entries `keep` refuses, their permits in hand -/
def sift (s : SlotStore α) (keep : UInt64 → α → Bool) : List UInt64 × SlotStore α :=
  ((s.entries.entries.filter fun e => !keep e.1 e.2).map Sigma.fst,
    { s with entries := ⟨s.entries.entries.filter fun e => keep e.1 e.2, s.nodupKeys_filter keep⟩ })

/-- give permits back -/
def releaseMany (s : SlotStore α) (n : ℕ) : SlotStore α := { s with free := s.free + n }

theorem insert_eq (s : SlotStore α) (a : α) :
    s.insert a = (s.draw.1, (s.draw.2.file s.draw.1 a).2.releaseMany (s.draw.2.file s.draw.1 a).1) := by
  by_cases h : s.next ∈ s.entries
  · simp [insert, draw, file, releaseMany, h]
  · simp [insert, draw, file, releaseMany, h]

theorem remove_eq (s : SlotStore α) (id : UInt64) :
    s.remove id = ((s.takeOut id).1, (s.takeOut id).2.releaseMany (s.takeOut id).1.toList.length) := by
  unfold remove takeOut releaseMany
  cases h : s.get id with
  | some a => rfl
  | none =>
    have hout : id ∉ s.entries.keys := get_eq_none.1 h
    have herase : s.entries.erase id = s.entries :=
      AList.ext (List.kerase_of_notMem_keys hout)
    simp [herase]

theorem drain_eq (s : SlotStore α) : s.drain = (s.takeAll.1, s.takeAll.2.releaseMany s.takeAll.1.length) := by
  simp [drain, takeAll, releaseMany, count, AList.keys, List.keys]

theorem retain_eq (s : SlotStore α) (keep : UInt64 → α → Bool) :
    s.retain keep = ((s.sift keep).1, (s.sift keep).2.releaseMany (s.sift keep).1.length) := by
  simp [retain, sift, releaseMany]

/-! ## What a section does to the entries -/

theorem count_file (s : SlotStore α) (id : UInt64) (a : α) : (s.file id a).2.count + (s.file id a).1 = s.count + 1 := by
  by_cases h : id ∈ s.entries
  · have hkeys : id ∈ s.entries.keys := h
    have hpos : 0 < s.entries.keys.length := List.length_pos_of_mem hkeys
    simp only [count, file, AList.keys_insert, List.length_cons, List.length_erase_of_mem hkeys, if_pos h]
    omega
  · have hkeys : id ∉ s.entries.keys := h
    simp only [count, file, AList.keys_insert, List.length_cons, List.erase_of_not_mem hkeys, if_neg h]

theorem count_takeOut_of_get {s : SlotStore α} {id : UInt64} {a : α} (h : s.get id = some a) :
    (s.takeOut id).2.count + 1 = s.count := by
  have hkeys : id ∈ s.entries.keys := mem_of_get h
  have hpos : 0 < s.entries.keys.length := List.length_pos_of_mem hkeys
  simp only [count, takeOut, AList.keys_erase, List.length_erase_of_mem hkeys]
  omega

theorem count_takeAll (s : SlotStore α) : s.takeAll.2.count + s.takeAll.1.length = s.count := by
  simp [count, takeAll, AList.keys, List.keys]

theorem count_sift (s : SlotStore α) (keep : UInt64 → α → Bool) :
    (s.sift keep).2.count + (s.sift keep).1.length = s.count := by
  have hsplit := List.length_eq_length_filter_add (l := s.entries.entries) fun e => keep e.1 e.2
  simp only [count, sift, AList.keys, List.keys, List.length_map]
  omega

theorem get_file_self (s : SlotStore α) (id : UInt64) (a : α) : (s.file id a).2.get id = some a := AList.lookup_insert _

theorem get_file_of_ne {s : SlotStore α} {id id' : UInt64} (h : id' ≠ id) (a : α) :
    (s.file id a).2.get id' = s.get id' := AList.lookup_insert_ne h

theorem get_takeOut_self (s : SlotStore α) (id : UInt64) : (s.takeOut id).2.get id = none := AList.lookup_erase _ _

theorem get_takeOut_of_ne {s : SlotStore α} {id id' : UInt64} (h : id' ≠ id) :
    (s.takeOut id).2.get id' = s.get id' := AList.lookup_erase_ne h

/-- the entries a sift takes out are those refused -/
theorem mem_sift {s : SlotStore α} {keep : UInt64 → α → Bool} {id : UInt64} :
    id ∈ (s.sift keep).1 ↔ ∃ a, s.get id = some a ∧ keep id a = false := by
  simp only [sift, List.mem_map, List.mem_filter, Bool.not_eq_true']
  constructor
  · rintro ⟨⟨id', a⟩, ⟨hmem, hkeep⟩, rfl⟩
    exact ⟨a, AList.mem_lookup_iff.2 hmem, hkeep⟩
  · rintro ⟨a, hget, hkeep⟩
    exact ⟨⟨id, a⟩, ⟨AList.mem_lookup_iff.1 hget, hkeep⟩, rfl⟩

theorem nodup_sift (s : SlotStore α) (keep : UInt64 → α → Bool) : (s.sift keep).1.Nodup :=
  List.Nodup.sublist (List.Sublist.map _ List.filter_sublist) s.entries.nodupKeys

/-- and the others stay as they are -/
theorem get_sift (s : SlotStore α) (keep : UInt64 → α → Bool) (id : UInt64) :
    (s.sift keep).2.get id = (s.get id).filter (keep id) := by
  apply Option.ext
  intro a
  rw [Option.filter_eq_some_iff]
  constructor
  · intro h
    have hmem := List.mem_filter.1 (AList.mem_lookup_iff.1 (Option.mem_def.2 h))
    exact ⟨AList.mem_lookup_iff.2 hmem.1, hmem.2⟩
  · rintro ⟨hget, hkeep⟩
    exact AList.mem_lookup_iff.2 (List.mem_filter.2 ⟨AList.mem_lookup_iff.1 (Option.mem_def.2 hget), hkeep⟩)

end SlotStore

/-! ## Calls that share a store -/

namespace SharedStore

open Machine

/-- where a call stands; `answer` is the id it returns, when it files an entry -/
inductive Call (α : Type*) where
  /-- a permit in hand, before the counter -/
  | draw (a : α)
  /-- a permit in hand and an id, before the map -/
  | file (id : UInt64) (a : α)
  /-- out of the map, permits in hand; the call has returned when there are none left -/
  | release (permits : ℕ) (answer : Option UInt64)

def Call.permits {α : Type*} : Call α → ℕ
  | .draw _ => 1
  | .file _ _ => 1
  | .release permits _ => permits

/-- the id a call has drawn -/
def Call.id {α : Type*} : Call α → Option UInt64
  | .draw _ => none
  | .file id _ => some id
  | .release _ answer => answer

/-- the value a call is about to file -/
def Call.value {α : Type*} : Call α → Option α
  | .draw a => some a
  | .file _ a => some a
  | .release _ _ => none

/-- the id a call has returned -/
def Call.returned {α : Type*} : Call α → Option UInt64
  | .release 0 answer => answer
  | .release (_ + 1) _ | .draw _ | .file _ _ => none

def Call.hasReturned {α : Type*} : Call α → Bool
  | .release 0 _ => true
  | .release (_ + 1) _ | .draw _ | .file _ _ => false

end SharedStore

structure SharedStore (α : Type*) where
  store : SlotStore α
  /-- reservations that no call has used yet -/
  guards : ℕ
  calls : List (SharedStore.Call α)
  /-- the ids drawn, in order -/
  drawn : List UInt64

namespace SharedStore

open Machine

variable {α : Type*}

inductive Op (α : Type*) where
  | tryReserve
  | dropGuard
  /-- start a call that files a value under a reservation -/
  | insert (a : α)
  /-- start a call that takes its permit itself -/
  | openWith (a : α)
  | remove (id : UInt64)
  | drain
  | sift (keep : UInt64 → α → Bool)
  | update (id : UInt64) (f : α → α)
  /-- call `i` runs its next section -/
  | step (i : ℕ)

def start (slots : ℕ) : SharedStore α := ⟨.new slots, 0, [], []⟩

def tryReserve (s : SharedStore α) : Option (SharedStore α) :=
  s.store.tryReserve.map fun store => { s with store, guards := s.guards + 1 }

def openWith (s : SharedStore α) (a : α) : Option (SharedStore α) :=
  s.store.tryReserve.map fun store => { s with store, calls := s.calls ++ [.draw a] }

def stepCall (s : SharedStore α) (i : ℕ) : SharedStore α :=
  match s.calls[i]? with
  | some (.draw a) =>
    { s with store := s.store.draw.2
             calls := s.calls.set i (.file s.store.draw.1 a)
             drawn := s.drawn ++ [s.store.draw.1] }
  | some (.file id a) =>
    { s with store := (s.store.file id a).2
             calls := s.calls.set i (.release (s.store.file id a).1 (some id)) }
  | some (.release (permits + 1) answer) =>
    { s with store := s.store.release
             calls := s.calls.set i (.release permits answer) }
  | some (.release 0 _) | none => s

def step (s : SharedStore α) : Op α → SharedStore α
  | .tryReserve => s.tryReserve.getD s
  | .dropGuard => if s.guards = 0 then s else { s with store := s.store.release, guards := s.guards - 1 }
  | .insert a => if s.guards = 0 then s else { s with guards := s.guards - 1, calls := s.calls ++ [.draw a] }
  | .openWith a => (s.openWith a).getD s
  | .remove id =>
    match s.store.takeOut id with
    | (some _, store) => { s with store, calls := s.calls ++ [.release 1 none] }
    | (none, _) => s
  | .drain => { s with store := s.store.takeAll.2, calls := s.calls ++ [.release s.store.takeAll.1.length none] }
  | .sift keep =>
    { s with store := (s.store.sift keep).2
             calls := s.calls ++ [.release (s.store.sift keep).1.length none] }
  | .update id f => { s with store := s.store.update id f }
  | .step i => s.stepCall i

/-- no call is under way -/
def Quiescent (s : SharedStore α) : Prop := ∀ call ∈ s.calls, call.hasReturned = true

instance (s : SharedStore α) : Decidable s.Quiescent :=
  inferInstanceAs (Decidable (∀ call ∈ s.calls, call.hasReturned = true))

/-! ## What a step can come to -/

def Op.isOpening : Op α → Bool
  | .insert _ | .openWith _ => true
  | .tryReserve | .dropGuard | .remove _ | .drain | .sift _ | .update _ _ | .step _ => false

def Call.isDrawing : Call α → ℕ
  | .draw _ => 1
  | .file _ _ | .release _ _ => 0

theorem next_update (s : SlotStore α) (id : UInt64) (f : α → α) : (s.update id f).next = s.next := by
  unfold SlotStore.update; split <;> rfl

theorem next_of_tryReserve {s s' : SlotStore α} (h : s.tryReserve = some s') : s'.next = s.next := by
  obtain ⟨-, rfl⟩ := SlotStore.tryReserve_eq_some.1 h
  rfl

/-- a permit taken leaves one free slot less -/
theorem count_of_tryReserve {s s' : SlotStore α} (h : s.tryReserve = some s') :
    s'.count = s.count ∧ s'.free + 1 = s.free := by
  obtain ⟨hfree, rfl⟩ := SlotStore.tryReserve_eq_some.1 h
  exact ⟨rfl, Nat.sub_add_cancel (Nat.pos_of_ne_zero hfree)⟩

/-- what a step can come to; slots move between entries, free slots, reservations and the call that starts -/
inductive StepOutcome (s : SharedStore α) : Op α → SharedStore α → Prop where
  | idle (o : Op α) : StepOutcome s o s
  | moves (o : Op α) (store : SlotStore α) (guards : ℕ)
    (hslots : store.count + store.free + guards = s.store.count + s.store.free + s.guards)
    (hnext : store.next = s.store.next) : StepOutcome s o ⟨store, guards, s.calls, s.drawn⟩
  | begins (o : Op α) (store : SlotStore α) (guards : ℕ) (call : Call α)
    (hslots : store.count + store.free + guards + call.permits = s.store.count + s.store.free + s.guards)
    (hnext : store.next = s.store.next) (hid : call.id = none)
    (hdraw : call.isDrawing ≤ if o.isOpening then 1 else 0) :
    StepOutcome s o ⟨store, guards, s.calls ++ [call], s.drawn⟩
  | step (i : ℕ) : StepOutcome s (.step i) (s.stepCall i)

theorem step_outcome (s : SharedStore α) (o : Op α) : StepOutcome s o (step s o) := by
  cases o with
  | tryReserve =>
    cases hstore : s.store.tryReserve with
    | none =>
      simp only [step, tryReserve, hstore, Option.map_none, Option.getD_none]
      exact .idle _
    | some store' =>
      obtain ⟨hcount, hfree⟩ := count_of_tryReserve hstore
      simp only [step, tryReserve, hstore, Option.map_some, Option.getD_some]
      exact .moves _ store' (s.guards + 1) (by omega) (next_of_tryReserve hstore)
  | openWith a =>
    cases hstore : s.store.tryReserve with
    | none =>
      simp only [step, openWith, hstore, Option.map_none, Option.getD_none]
      exact .idle _
    | some store' =>
      obtain ⟨hcount, hfree⟩ := count_of_tryReserve hstore
      simp only [step, openWith, hstore, Option.map_some, Option.getD_some]
      have hslots : store'.count + store'.free + s.guards + 1 = s.store.count + s.store.free + s.guards := by omega
      exact .begins _ store' s.guards (.draw a) hslots (next_of_tryReserve hstore) rfl le_rfl
  | dropGuard =>
    simp only [step]
    split_ifs with hguards
    · exact .idle _
    · have hslots : s.store.count + (s.store.free + 1) + (s.guards - 1) = s.store.count + s.store.free + s.guards := by
        omega
      exact .moves _ s.store.release _ hslots rfl
  | insert a =>
    simp only [step]
    split_ifs with hguards
    · exact .idle _
    · have hslots : s.store.count + s.store.free + (s.guards - 1) + 1 = s.store.count + s.store.free + s.guards := by
        omega
      exact .begins _ s.store _ (.draw a) hslots rfl rfl le_rfl
  | remove id =>
    cases hget : s.store.get id with
    | none =>
      simp only [step, SlotStore.takeOut, hget]
      exact .idle _
    | some a =>
      have hcount := SlotStore.count_takeOut_of_get hget
      simp only [SlotStore.takeOut] at hcount
      simp only [step, SlotStore.takeOut, hget]
      refine .begins _ _ s.guards (.release 1 none) ?_ rfl rfl le_rfl
      simp only [Call.permits]
      omega
  | drain =>
    have hcount := s.store.count_takeAll
    have hfree : s.store.takeAll.2.free = s.store.free := rfl
    refine .begins _ s.store.takeAll.2 s.guards (.release s.store.takeAll.1.length none) ?_ rfl rfl le_rfl
    simp only [Call.permits, hfree]
    omega
  | sift keep =>
    have hcount := s.store.count_sift keep
    have hfree : (s.store.sift keep).2.free = s.store.free := rfl
    refine .begins _ (s.store.sift keep).2 s.guards (.release (s.store.sift keep).1.length none) ?_ rfl rfl le_rfl
    simp only [Call.permits, hfree]
    omega
  | update id f =>
    have hslots : (s.store.update id f).count + (s.store.update id f).free + s.guards =
        s.store.count + s.store.free + s.guards := by
      rw [SlotStore.count_update, SlotStore.free_update]
    exact .moves _ _ s.guards hslots (next_update _ _ _)
  | step i => exact .step i

/-! ## Conservation -/

def permitsHeld (s : SharedStore α) : ℕ := (s.calls.map Call.permits).sum

/-- every slot is an entry's, free, a reservation's or in a call's hands -/
def Conserved (slots : ℕ) (s : SharedStore α) : Prop :=
  s.store.count + s.store.free + s.guards + s.permitsHeld = slots

/-- a call starts with the permits that something else gave up -/
theorem Conserved.starts {slots : ℕ} {s s' : SharedStore α} (h : Conserved slots s) {call : Call α}
    (hcalls : s'.calls = s.calls ++ [call])
    (hslots : s'.store.count + s'.store.free + s'.guards + call.permits = s.store.count + s.store.free + s.guards) :
    Conserved slots s' := by
  have hheld : s'.permitsHeld = s.permitsHeld + call.permits := by
    rw [permitsHeld, hcalls, List.map_append, List.sum_append, List.map_singleton, List.sum_singleton]
    rfl
  unfold Conserved at h ⊢
  omega

theorem conserved_start (slots : ℕ) : Conserved slots (start slots : SharedStore α) := by
  simp [Conserved, start, SlotStore.new, SlotStore.count, permitsHeld]

theorem conserved_stepCall {slots : ℕ} {s : SharedStore α} (h : Conserved slots s) (i : ℕ) :
    Conserved slots (s.stepCall i) := by
  unfold Conserved permitsHeld at h ⊢
  unfold stepCall
  split
  · rename_i a hcall
    have hsum := sum_map_set Call.permits hcall (.file s.store.draw.1 a)
    simp only [Call.permits] at hsum
    simp only [SlotStore.count, SlotStore.draw] at h ⊢
    simp only [SlotStore.draw] at hsum
    omega
  · rename_i id a hcall
    have hsum := sum_map_set Call.permits hcall (.release (s.store.file id a).1 (some id))
    have hcount := s.store.count_file id a
    have hfree : (s.store.file id a).2.free = s.store.free := rfl
    simp only [Call.permits] at hsum
    simp only [hfree]
    omega
  · rename_i permits answer hcall
    have hsum := sum_map_set Call.permits hcall (.release permits answer)
    simp only [Call.permits] at hsum
    simp only [SlotStore.count, SlotStore.release] at h ⊢
    omega
  · exact h
  · exact h

/-- **Slots are conserved.** Whatever section of whichever call runs next. -/
theorem conserved_step {slots : ℕ} {s : SharedStore α} (h : Conserved slots s) (o : Op α) :
    Conserved slots (step s o) := by
  have hout := step_outcome s o
  generalize step s o = s' at hout ⊢
  cases hout with
  | idle => exact h
  | moves o store guards hslots =>
    unfold Conserved permitsHeld at h ⊢
    simp only
    omega
  | begins o store guards call hslots => exact h.starts rfl hslots
  | step i => exact conserved_stepCall h i

theorem permitsHeld_of_quiescent {s : SharedStore α} (h : Quiescent s) : s.permitsHeld = 0 := by
  refine List.sum_eq_zero fun n hn => ?_
  obtain ⟨call, hcall, rfl⟩ := List.mem_map.1 hn
  have hreturned := h call hcall
  rcases call with a | ⟨id, a⟩ | ⟨_ | permits, answer⟩
  · cases hreturned
  · cases hreturned
  · rfl
  · cases hreturned

theorem conserved_run {slots : ℕ} (ops : List (Op α)) : Conserved slots (run step (start slots) ops) := by
  have hstep : ∀ (s : SharedStore α) (o : Op α), Conserved slots s → Conserved slots (step s o) := fun _ o hs =>
    conserved_step hs o
  exact run_inv hstep ops (conserved_start slots)

/-! ## Ids -/

/-- the `n`-th id of a counter that starts at one -/
def ordinal (n : ℕ) : UInt64 := UInt64.ofNat (n + 1)

theorem ordinal_succ (n : ℕ) : ordinal (n + 1) = ordinal n + 1 := by
  apply UInt64.toNat_inj.1
  simp only [ordinal, UInt64.toNat_add, UInt64.toNat_ofNat']
  simp [Nat.add_mod]

theorem ordinal_lt {i j : ℕ} (hij : i < j) (hj : j + 1 < 2 ^ 64) : ordinal i < ordinal j := by
  rw [UInt64.lt_iff_toNat_lt, ordinal, ordinal, UInt64.toNat_ofNat', UInt64.toNat_ofNat',
    Nat.mod_eq_of_lt (by omega), Nat.mod_eq_of_lt hj]
  omega

/-- the ids drawn are the counter's, and each is one call's own -/
structure Counted (s : SharedStore α) : Prop where
  drawn : s.drawn = (List.range s.drawn.length).map ordinal
  next : s.store.next = ordinal s.drawn.length
  ids : (s.calls.filterMap Call.id).Perm s.drawn

theorem counted_start (slots : ℕ) : Counted (start slots : SharedStore α) := ⟨rfl, rfl, List.Perm.refl _⟩

/-- nothing drawn: the counter is where it was -/
theorem Counted.of_same {s s' : SharedStore α} (h : Counted s) (hdrawn : s'.drawn = s.drawn)
    (hnext : s'.store.next = s.store.next) (hids : s'.calls.filterMap Call.id = s.calls.filterMap Call.id) :
    Counted s' where
  drawn := by rw [hdrawn]; exact h.drawn
  next := by rw [hdrawn, hnext]; exact h.next
  ids := by rw [hdrawn, hids]; exact h.ids

theorem counted_stepCall {s : SharedStore α} (h : Counted s) (i : ℕ) : Counted (s.stepCall i) := by
  unfold stepCall
  split
  · rename_i a hcall
    have hlength : (s.drawn ++ [s.store.draw.1]).length = s.drawn.length + 1 := by simp
    have hnew : s.store.draw.1 = ordinal s.drawn.length := h.next
    refine ⟨?_, ?_, ?_⟩
    · calc s.drawn ++ [s.store.draw.1]
          = (List.range s.drawn.length).map ordinal ++ [ordinal s.drawn.length] := by rw [hnew, ← h.drawn]
        _ = (List.range (s.drawn ++ [s.store.draw.1]).length).map ordinal := by
            rw [hlength, List.range_succ, List.map_append, List.map_singleton]
    · rw [hlength, ordinal_succ, ← h.next]
      rfl
    · have hperm := filterMap_set_perm Call.id hcall rfl (show Call.id (.file s.store.draw.1 a) = some _ from rfl)
      exact (hperm.trans (h.ids.cons _)).trans (List.perm_append_singleton _ _).symm
  · rename_i id a hcall
    exact h.of_same rfl rfl (filterMap_set_of_eq Call.id hcall rfl)
  · rename_i permits answer hcall
    exact h.of_same rfl rfl (filterMap_set_of_eq Call.id hcall rfl)
  · exact h
  · exact h

theorem counted_step {s : SharedStore α} (h : Counted s) (o : Op α) : Counted (step s o) := by
  have hout := step_outcome s o
  generalize step s o = s' at hout ⊢
  cases hout with
  | idle => exact h
  | moves o store guards _ hnext => exact h.of_same rfl hnext rfl
  | begins o store guards call _ hnext hid =>
    refine h.of_same rfl hnext ?_
    simp only [List.filterMap_append, List.filterMap_cons, hid, List.filterMap_nil, List.append_nil]
  | step i => exact counted_stepCall h i

theorem counted_run (slots : ℕ) (ops : List (Op α)) : Counted (run step (start slots) ops) := by
  have hstep : ∀ (s : SharedStore α) (o : Op α), Counted s → Counted (step s o) := fun _ o hs => counted_step hs o
  exact run_inv hstep ops (counted_start slots)

/-- **Ids increase** until the counter wraps -/
theorem Counted.increasing {s : SharedStore α} (h : Counted s) (hlt : s.drawn.length < 2 ^ 64) :
    s.drawn.Pairwise (· < ·) := by
  rw [h.drawn, List.pairwise_map]
  refine List.Pairwise.imp_of_mem ?_ List.pairwise_lt_range
  intro i j hi hj hij
  have hj := List.mem_range.1 hj
  exact ordinal_lt hij (by omega)

/-- the ids of the calls that have returned -/
def returned (s : SharedStore α) : List UInt64 := s.calls.filterMap Call.returned

theorem returned_sublist (s : SharedStore α) : s.returned.Sublist (s.calls.filterMap Call.id) := by
  unfold returned
  induction s.calls with
  | nil => exact List.Sublist.refl _
  | cons call calls ih =>
    rcases call with a | ⟨id, a⟩ | ⟨_ | permits, _ | answer⟩
    · exact ih
    · exact ih.trans (List.sublist_cons_self _ _)
    · exact ih
    · exact ih.cons_cons answer
    · exact ih
    · exact ih.trans (List.sublist_cons_self _ _)

/-- an id that was returned was drawn -/
theorem Counted.mem_drawn {s : SharedStore α} (h : Counted s) {id : UInt64} (hid : id ∈ s.returned) : id ∈ s.drawn :=
  h.ids.subset (s.returned_sublist.subset hid)

theorem nodup_of_increasing {ids : List UInt64} (h : ids.Pairwise (· < ·)) : ids.Nodup := by
  refine List.Pairwise.imp ?_ h
  rintro a b hlt rfl
  exact UInt64.lt_irrefl a hlt

/-- and no two calls return the same one -/
theorem Counted.nodup_returned {s : SharedStore α} (h : Counted s) (hdrawn : s.drawn.Pairwise (· < ·)) :
    s.returned.Nodup :=
  (h.ids.nodup_iff.2 (nodup_of_increasing hdrawn)).sublist s.returned_sublist

theorem drawn_stepCall (s : SharedStore α) (i : ℕ) : s.drawn <+: (s.stepCall i).drawn := by
  unfold stepCall
  split
  · exact List.prefix_append _ _
  all_goals exact List.prefix_refl _

theorem drawn_step (s : SharedStore α) (o : Op α) : s.drawn <+: (step s o).drawn := by
  have hout := step_outcome s o
  generalize step s o = s' at hout ⊢
  cases hout with
  | step i => exact drawn_stepCall s i
  | idle | moves | begins => exact List.prefix_refl _

theorem drawn_run (s : SharedStore α) (ops : List (Op α)) : s.drawn <+: (run step s ops).drawn := by
  induction ops generalizing s with
  | nil => exact List.prefix_refl _
  | cons o ops ih => exact (drawn_step s o).trans (ih (step s o))

/-- calls that have drawn or are about to -/
def drawers (s : SharedStore α) : ℕ := s.drawn.length + (s.calls.map Call.isDrawing).sum

theorem drawers_stepCall (s : SharedStore α) (i : ℕ) : (s.stepCall i).drawers = s.drawers := by
  unfold stepCall
  split
  · rename_i a hcall
    have hsum := sum_map_set Call.isDrawing hcall (.file s.store.draw.1 a)
    simp only [Call.isDrawing] at hsum
    simp only [drawers, List.length_append, List.length_singleton]
    omega
  · rename_i id a hcall
    have hsum := sum_map_set Call.isDrawing hcall (.release (s.store.file id a).1 (some id))
    simp only [Call.isDrawing] at hsum
    simp only [drawers]
    omega
  · rename_i permits answer hcall
    have hsum := sum_map_set Call.isDrawing hcall (.release permits answer)
    simp only [Call.isDrawing] at hsum
    simp only [drawers]
    omega
  · rfl
  · rfl

theorem drawers_step (s : SharedStore α) (o : Op α) : (step s o).drawers ≤ s.drawers + if o.isOpening then 1 else 0 := by
  have hout := step_outcome s o
  generalize step s o = s' at hout ⊢
  cases hout with
  | idle => exact Nat.le_add_right _ _
  | moves => exact Nat.le_add_right _ _
  | begins o store guards call _ _ _ hdraw =>
    simp only [drawers, List.map_append, List.sum_append, List.map_singleton, List.sum_singleton]
    omega
  | step i => exact (drawers_stepCall s i).le

/-- no more ids are drawn than calls start that draw one -/
theorem length_drawn_le (slots : ℕ) (ops : List (Op α)) :
    (run step (start slots) ops).drawn.length ≤ ops.countP Op.isOpening := by
  have hgrow : ∀ (ops : List (Op α)) (s : SharedStore α),
      (run step s ops).drawers ≤ s.drawers + ops.countP Op.isOpening := by
    intro ops
    induction ops with
    | nil => intro s; exact le_rfl
    | cons o ops ih =>
      intro s
      have hstep := drawers_step s o
      have hrest := ih (step s o)
      rw [run_cons, List.countP_cons]
      omega
  have hall := hgrow ops (start slots)
  have hzero : (start slots : SharedStore α).drawers = 0 := rfl
  have hle : (run step (start slots) ops).drawn.length ≤ (run step (start slots) ops).drawers := Nat.le_add_right _ _
  omega

/-! ## Giving back -/

/-- a call that has taken entries out frees their slots one by one, and does nothing else -/
theorem run_release {s : SharedStore α} {i permits : ℕ} {answer : Option UInt64}
    (h : s.calls[i]? = some (.release permits answer)) :
    run step s (List.replicate permits (.step i)) =
      { s with store := s.store.releaseMany permits, calls := s.calls.set i (.release 0 answer) } := by
  induction permits generalizing s with
  | zero =>
    obtain ⟨hi, hget⟩ := List.getElem?_eq_some_iff.1 h
    have hset : s.calls.set i (.release 0 answer) = s.calls := by rw [← hget, List.set_getElem_self]
    simp only [List.replicate_zero, run_nil, SlotStore.releaseMany, Nat.add_zero, hset]
  | succ permits ih =>
    have hstep : step s (.step i) =
        { s with store := s.store.release, calls := s.calls.set i (.release permits answer) } := by
      simp only [step, stepCall, h]
    have hnext : (s.calls.set i (.release permits answer))[i]? = some (.release permits answer) := by
      rw [List.getElem?_set_self (List.getElem?_eq_some_iff.1 h).1]
    rw [List.replicate_succ, run_cons, hstep, ih hnext]
    simp only [SlotStore.releaseMany, SlotStore.release, List.set_set, Nat.add_assoc, Nat.add_comm 1]

end SharedStore

end N0wss
