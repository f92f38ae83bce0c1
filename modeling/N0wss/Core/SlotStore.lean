/-
A store with a fixed number of slots: values filed under ids drawn from a 64-bit counter, and a semaphore whose permits
are the free slots. A permit is taken by `tryReserve`, moves into the entry filed by `insert` and goes back when the
entry is dropped, by whatever removes it.

The map is unordered in what it models; here it is an association list with distinct keys, in some order.

- `get_insert_self`, `get_insert_of_ne`, `get_update_self`, `get_update_of_ne`, `get_remove_self`, `get_remove_of_ne`:
  what each operation does to a lookup.
- `get_of_find`, `not_of_find_eq_none`: what a search tells.
- `Conserved`: entries and free slots add up to the capacity. `conserved_insert`, `conserved_update`: filing a value under
  a permit taken for it, and changing one in place, keep it so.
-/
import Mathlib.Tactic
import Mathlib.Data.List.AList

namespace N0wss

structure SlotStore (α : Type*) where
  entries : AList (fun _ : UInt64 => α)
  /-- available permits -/
  free : ℕ
  /-- the id the next insertion draws (`fetch_add` wraps) -/
  next : UInt64

namespace SlotStore

variable {α : Type*}

def new (slots : ℕ) : SlotStore α := ⟨∅, slots, 1⟩

def get (s : SlotStore α) (id : UInt64) : Option α := s.entries.lookup id

def count (s : SlotStore α) : ℕ := s.entries.keys.length

/-- take a permit without waiting -/
def tryReserve (s : SlotStore α) : Option (SlotStore α) :=
  if s.free = 0 then none else some { s with free := s.free - 1 }

/-- give back a permit that was never used -/
def release (s : SlotStore α) : SlotStore α := { s with free := s.free + 1 }

/-- file a value, with a reserved permit, under the next id; an entry it displaces drops its own permit -/
def insert (s : SlotStore α) (a : α) : UInt64 × SlotStore α :=
  (s.next, { entries := s.entries.insert s.next a
             free := if s.next ∈ s.entries then s.free + 1 else s.free
             next := s.next + 1 })

def update (s : SlotStore α) (id : UInt64) (f : α → α) : SlotStore α :=
  match s.get id with
  | some a => { s with entries := s.entries.insert id (f a) }
  | none => s

def remove (s : SlotStore α) (id : UInt64) : Option α × SlotStore α :=
  match s.get id with
  | some a => (some a, { s with entries := s.entries.erase id, free := s.free + 1 })
  | none => (none, s)

/-- take every entry out -/
def drain (s : SlotStore α) : List (UInt64 × α) × SlotStore α :=
  (s.entries.entries.map fun e => (e.1, e.2), { s with entries := ∅, free := s.free + s.count })

/-- drop the entries `keep` refuses -/
def retain (s : SlotStore α) (keep : UInt64 → α → Bool) : List UInt64 × SlotStore α :=
  let kept := s.entries.entries.filter fun e => keep e.1 e.2
  let removed := s.entries.entries.filter fun e => !keep e.1 e.2
  (removed.map Sigma.fst,
    { s with entries := ⟨kept, s.entries.nodupKeys.sublist List.filter_sublist⟩
             free := s.free + removed.length })

/-- some entry that meets `p` (the first in the map's own order) -/
def find (s : SlotStore α) (p : α → Bool) : Option (UInt64 × α) :=
  (s.entries.entries.find? fun e => p e.2).map fun e => (e.1, e.2)

/-! ## Lookups -/

@[simp] theorem get_new (m : ℕ) (id : UInt64) : (new m : SlotStore α).get id = none := by
  simp [get, new]

theorem get_eq_none {s : SlotStore α} {id : UInt64} : s.get id = none ↔ id ∉ s.entries := AList.lookup_eq_none

theorem mem_of_get {s : SlotStore α} {id : UInt64} {a : α} (h : s.get id = some a) : id ∈ s.entries :=
  AList.lookup_isSome.1 (by rw [get] at h; simp [h])

@[simp] theorem insert_id (s : SlotStore α) (a : α) : (s.insert a).1 = s.next := rfl

@[simp] theorem get_insert_self (s : SlotStore α) (a : α) : (s.insert a).2.get s.next = some a :=
  AList.lookup_insert _

theorem get_insert_of_ne {s : SlotStore α} {id : UInt64} (h : id ≠ s.next) (a : α) :
    (s.insert a).2.get id = s.get id := AList.lookup_insert_ne h

theorem free_insert_of_fresh {s : SlotStore α} (h : s.get s.next = none) (a : α) : (s.insert a).2.free = s.free := by
  simp [insert, get_eq_none.1 h]

theorem free_insert_of_taken {s : SlotStore α} {b : α} (h : s.get s.next = some b) (a : α) :
    (s.insert a).2.free = s.free + 1 := by
  simp [insert, mem_of_get h]

theorem update_of_get {s : SlotStore α} {id : UInt64} {a : α} (h : s.get id = some a) (f : α → α) :
    s.update id f = { s with entries := s.entries.insert id (f a) } := by
  simp [update, h]

theorem update_of_none {s : SlotStore α} {id : UInt64} (h : s.get id = none) (f : α → α) : s.update id f = s := by
  simp [update, h]

@[simp] theorem get_update_self (s : SlotStore α) (id : UInt64) (f : α → α) :
    (s.update id f).get id = (s.get id).map f := by
  cases h : s.get id with
  | none => rw [update_of_none h, h]; rfl
  | some a => rw [update_of_get h]; exact AList.lookup_insert _

theorem get_update_of_ne {s : SlotStore α} {id id' : UInt64} (hne : id' ≠ id) (f : α → α) :
    (s.update id f).get id' = s.get id' := by
  cases h : s.get id with
  | none => rw [update_of_none h]
  | some a => rw [update_of_get h]; exact AList.lookup_insert_ne hne

@[simp] theorem free_update (s : SlotStore α) (id : UInt64) (f : α → α) : (s.update id f).free = s.free := by
  unfold update; split <;> rfl

theorem remove_of_get {s : SlotStore α} {id : UInt64} {a : α} (h : s.get id = some a) :
    s.remove id = (some a, { s with entries := s.entries.erase id, free := s.free + 1 }) := by
  simp [remove, h]

theorem remove_of_none {s : SlotStore α} {id : UInt64} (h : s.get id = none) : s.remove id = (none, s) := by
  simp [remove, h]

@[simp] theorem get_remove_self (s : SlotStore α) (id : UInt64) : (s.remove id).2.get id = none := by
  cases h : s.get id with
  | none => rw [remove_of_none h]; exact h
  | some a => rw [remove_of_get h]; exact AList.lookup_erase _ _

theorem get_remove_of_ne {s : SlotStore α} {id id' : UInt64} (hne : id' ≠ id) :
    (s.remove id).2.get id' = s.get id' := by
  cases h : s.get id with
  | none => rw [remove_of_none h]
  | some a => rw [remove_of_get h]; exact AList.lookup_erase_ne hne

@[simp] theorem get_drain (s : SlotStore α) (id : UInt64) : s.drain.2.get id = none := AList.lookup_empty _

/-- what `retain` leaves was there before -/
theorem get_of_get_retain {s : SlotStore α} {keep : UInt64 → α → Bool} {id : UInt64} {a : α}
    (h : (s.retain keep).2.get id = some a) : s.get id = some a := by
  have hkept := (AList.mem_lookup_iff.1 (Option.mem_def.2 h))
  exact AList.mem_lookup_iff.2 (List.mem_of_mem_filter hkept)

/-- what `retain` takes out is what it was told not to keep -/
theorem mem_retain {s : SlotStore α} {keep : UInt64 → α → Bool} {id : UInt64} :
    id ∈ (s.retain keep).1 ↔ ∃ a, s.get id = some a ∧ keep id a = false := by
  have hentry : ∀ a, s.get id = some a ↔ (⟨id, a⟩ : Sigma fun _ : UInt64 => α) ∈ s.entries.entries := fun a => by
    rw [get, ← AList.mem_lookup_iff, Option.mem_def]
  simp only [retain, List.mem_map, List.mem_filter, hentry]
  constructor
  · rintro ⟨⟨_, a⟩, ⟨hmem, hkeep⟩, rfl⟩
    exact ⟨a, hmem, by simpa using hkeep⟩
  · rintro ⟨a, hmem, hkeep⟩
    exact ⟨⟨id, a⟩, ⟨hmem, by simpa using hkeep⟩, rfl⟩

/-- what `find` finds is an entry that meets the condition -/
theorem get_of_find {s : SlotStore α} {p : α → Bool} {id : UInt64} {a : α} (h : s.find p = some (id, a)) :
    s.get id = some a ∧ p a = true := by
  obtain ⟨e, hfound, he⟩ := Option.map_eq_some_iff.1 h
  cases he
  have hmeets := List.find?_some hfound
  exact ⟨AList.mem_lookup_iff.2 (List.mem_of_find?_eq_some hfound), hmeets⟩

theorem not_of_find_eq_none {s : SlotStore α} {p : α → Bool} (h : s.find p = none) {id : UInt64} {a : α}
    (hget : s.get id = some a) : p a = false := by
  have hmem : ⟨id, a⟩ ∈ s.entries.entries := AList.mem_lookup_iff.1 (Option.mem_def.2 hget)
  have hnone := List.find?_eq_none.1 (Option.map_eq_none_iff.1 h) ⟨id, a⟩ hmem
  exact Bool.eq_false_iff.2 hnone

theorem tryReserve_eq_none {s : SlotStore α} : s.tryReserve = none ↔ s.free = 0 := by
  simp [tryReserve]

theorem tryReserve_eq_some {s s' : SlotStore α} :
    s.tryReserve = some s' ↔ s.free ≠ 0 ∧ s' = { s with free := s.free - 1 } := by
  unfold tryReserve
  split_ifs with h
  · simp [h]
  · simp [h, eq_comm]

theorem free_remove_of_get {s : SlotStore α} {id : UInt64} {a : α} (h : s.get id = some a) :
    (s.remove id).2.free = s.free + 1 := by
  rw [remove_of_get h]

/-! ## Conservation -/

/-- every slot is an entry's or free -/
def Conserved (slots : ℕ) (s : SlotStore α) : Prop := s.count + s.free = slots

theorem conserved_new (slots : ℕ) : Conserved slots (new slots : SlotStore α) := Nat.zero_add slots

theorem count_insert_of_fresh {s : SlotStore α} (h : s.next ∉ s.entries) (a : α) : (s.insert a).2.count = s.count + 1 := by
  have hkeys : s.next ∉ s.entries.keys := h
  simp only [count, insert, AList.keys_insert, List.length_cons, List.erase_of_not_mem hkeys]

theorem count_insert_of_taken {s : SlotStore α} (h : s.next ∈ s.entries) (a : α) : (s.insert a).2.count = s.count := by
  have hkeys : s.next ∈ s.entries.keys := h
  have hpos : 0 < s.entries.keys.length := List.length_pos_of_mem hkeys
  simp only [count, insert, AList.keys_insert, List.length_cons, List.length_erase_of_mem hkeys]
  omega

/-- one permit taken, one value filed; an entry that the value displaces gives its own permit back -/
theorem conserved_insert {slots : ℕ} {s : SlotStore α} (h : Conserved slots s) (hfree : s.free ≠ 0) (a : α) :
    Conserved slots (insert { s with free := s.free - 1 } a).2 := by
  unfold Conserved at h ⊢
  by_cases htaken : s.next ∈ s.entries
  · have hcount : (insert { s with free := s.free - 1 } a).2.count = s.count := count_insert_of_taken htaken a
    have hback : (insert { s with free := s.free - 1 } a).2.free = s.free - 1 + 1 := if_pos htaken
    omega
  · have hcount : (insert { s with free := s.free - 1 } a).2.count = s.count + 1 := count_insert_of_fresh htaken a
    have hback : (insert { s with free := s.free - 1 } a).2.free = s.free - 1 := if_neg htaken
    omega

theorem count_update (s : SlotStore α) (id : UInt64) (f : α → α) : (s.update id f).count = s.count := by
  cases h : s.get id with
  | none => rw [update_of_none h]
  | some a =>
    have hkeys : id ∈ s.entries.keys := mem_of_get h
    have hpos : 0 < s.entries.keys.length := List.length_pos_of_mem hkeys
    rw [update_of_get h]
    simp only [count, AList.keys_insert, List.length_cons, List.length_erase_of_mem hkeys]
    omega

theorem conserved_update {slots : ℕ} {s : SlotStore α} (h : Conserved slots s) (id : UInt64) (f : α → α) :
    Conserved slots (s.update id f) := by
  rw [Conserved, count_update, free_update]; exact h

end SlotStore

end N0wss
