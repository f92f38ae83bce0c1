/-
Queues that keep what was taken out of them, and stages that pass on in order what they take.

- `Fifo`: putting in and taking out leave everything ever put in as it was (`log_put`, `log_take`).
- `Passes`: what a stage has taken is what it has passed on and what it holds; a stage that has lost something has passed
  on a prefix.
- `Passes.receive`, `Passes.give`, `Passes.lose`: the moves of a stage. `Passes.isPrefix`: no move reorders or repeats.
-/
import Mathlib.Tactic

namespace N0wss

/-! ## Queues -/

structure Fifo (α : Type*) where
  /-- what was taken out -/
  past : List α
  queued : List α

namespace Fifo

variable {α : Type*}

/-- a queue that holds all it will ever hold -/
def source (xs : List α) : Fifo α := ⟨[], xs⟩

def empty : Fifo α := ⟨[], []⟩

/-- everything ever put in -/
def log (f : Fifo α) : List α := f.past ++ f.queued

def put (f : Fifo α) (xs : List α) : Fifo α := ⟨f.past, f.queued ++ xs⟩

def take (f : Fifo α) (n : ℕ) : Fifo α := ⟨f.past ++ f.queued.take n, f.queued.drop n⟩

@[simp] theorem log_source (xs : List α) : (source xs).log = xs := rfl

@[simp] theorem past_put (f : Fifo α) (xs : List α) : (f.put xs).past = f.past := rfl

@[simp] theorem log_put (f : Fifo α) (xs : List α) : (f.put xs).log = f.log ++ xs := by
  simp only [log, put, List.append_assoc]

@[simp] theorem past_take (f : Fifo α) (n : ℕ) : (f.take n).past = f.past ++ f.queued.take n := rfl

@[simp] theorem queued_take (f : Fifo α) (n : ℕ) : (f.take n).queued = f.queued.drop n := rfl

@[simp] theorem log_take (f : Fifo α) (n : ℕ) : (f.take n).log = f.log := by
  simp only [log, take, List.append_assoc, List.take_append_drop]

theorem past_isPrefix_log (f : Fifo α) : f.past <+: f.log := List.prefix_append _ _

/-- a queue with nothing in it has given out everything -/
theorem past_eq_log {f : Fifo α} (h : f.queued = []) : f.past = f.log := by rw [log, h, List.append_nil]

/-- what is put next is the next line of a script -/
theorem log_put_isPrefix {f : Fifo α} {lines : List α} {a : α} (h : f.log <+: lines)
    (ha : lines[f.log.length]? = some a) : (f.put [a]).log <+: lines := by
  rw [log_put]
  rcases h with ⟨rest, rfl⟩
  rw [List.getElem?_append_right le_rfl, Nat.sub_self] at ha
  cases rest with
  | nil => cases ha
  | cons b rest =>
    cases ha
    exact ⟨rest, by simp⟩

/-- what is taken next is the next line of a script -/
theorem getElem?_of_log_isPrefix {f : Fifo α} {lines later : List α} {a : α} (h : f.log <+: lines)
    (hq : f.queued = a :: later) : lines[f.past.length]? = some a := by
  rcases h with ⟨rest, rfl⟩
  rw [log, hq, List.append_assoc, List.getElem?_append_right le_rfl, Nat.sub_self, List.cons_append,
    List.getElem?_cons_zero]

@[simp] theorem take_zero (f : Fifo α) : f.take 0 = f := by simp [take]

@[simp] theorem put_nil (f : Fifo α) : f.put [] = f := by simp [put]

end Fifo

/-! ## Stages -/

variable {β : Type*} {taken given held : List β}

/-- what a stage has `taken` and `given`, with what it holds, or with nothing said of what it holds where it has lost some -/
def Passes (taken given : List β) : Option (List β) → Prop
  | some held => given ++ held = taken
  | none => given <+: taken

namespace Passes

theorem isPrefix {held : Option (List β)} (h : Passes taken given held) : given <+: taken := by
  cases held with
  | none => exact h
  | some held => exact ⟨held, h⟩

/-- a stage that holds nothing has passed on everything -/
theorem given_eq (h : Passes taken given (some [])) : given = taken := by
  rw [← h, List.append_nil]

theorem receive (h : Passes taken given (some [])) (xs : List β) : Passes (taken ++ xs) given (some xs) := by
  rw [Passes, h.given_eq]

theorem give (h : Passes taken given (some held)) (n : ℕ) :
    Passes taken (given ++ held.take n) (some (held.drop n)) := by
  rw [Passes, List.append_assoc, List.take_append_drop]
  exact h

theorem giveAll (h : Passes taken given (some held)) : Passes taken (given ++ held) (some []) := by
  rw [Passes, List.append_nil]
  exact h

theorem lose {held : Option (List β)} (h : Passes taken given held) : Passes taken given none := h.isPrefix

end Passes

end N0wss
