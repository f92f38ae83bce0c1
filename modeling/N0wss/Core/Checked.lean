/-
Code that may panic: assertions, allocations, indexing and slicing with bounds, and sums of 64-bit words, as a debug build
checks them. A step ends in a value, in an error the function declares, or in a panic.

- `ensure_bind_ne_panic_iff`, `lift_bind_ne_panic_iff`: code does not panic where no stage of it does.
- `index_of_lt`, `slice_of_le`, `sliceFrom_of_le`, `sum_of_lt`: the operations inside their bounds.
- `Agrees`: a reader that moves a cursor does what a reader of what is left does, and leaves the cursor inside the input.
-/
import Mathlib.Tactic

namespace N0wss.Checked

/-- how a computation ends without a value -/
inductive Fault (ε : Type) where
  | panic
  | error (err : ε)
deriving DecidableEq, Repr

/-- a computation that may panic, or fail with a declared error -/
abbrev MayPanic (ε α : Type) := Except (Fault ε) α

variable {ε α β : Type}

/-- a declared error -/
def fail (err : ε) : MayPanic ε α := .error (.error err)

/-- a computation that never panics -/
def lift (x : Except ε α) : MayPanic ε α := x.mapError .error

@[simp] theorem lift_ok (a : α) : lift (.ok a : Except ε α) = .ok a := rfl

@[simp] theorem lift_error (err : ε) : lift (.error err : Except ε α) = fail err := rfl

/-- a fault under another name for its errors -/
def Fault.map {ε' : Type} (f : ε → ε') : Fault ε → Fault ε'
  | .panic => .panic
  | .error err => .error (f err)

theorem mapError_ne_panic_iff {ε' : Type} {f : ε → ε'} {x : MayPanic ε α} :
    x.mapError (Fault.map f) ≠ .error .panic ↔ x ≠ .error .panic := by
  rcases x with (_ | err) | a <;> simp [Except.mapError, Fault.map]

theorem map_ne_panic_iff {f : α → β} {x : MayPanic ε α} : x.map f ≠ .error .panic ↔ x ≠ .error .panic := by
  rcases x with (_ | err) | a <;> simp [Except.map]

theorem ok_bind (a : α) (f : α → MayPanic ε β) : (Except.ok a >>= f) = f a := rfl

/-! ## Assertions -/

/-- `assert!` -/
def ensure (p : Prop) [Decidable p] : MayPanic ε Unit := if p then .ok () else .error .panic

/-- `isize::MAX`, which no allocation exceeds -/
def isizeMax : ℕ := 2 ^ 63 - 1

/-- `vec![0_u8; len]`, but for the bytes -/
def zeroed (len : ℕ) : MayPanic ε Unit := ensure (len ≤ isizeMax)

theorem ensure_of {p : Prop} [Decidable p] (h : p) : (ensure p : MayPanic ε Unit) = .ok () := if_pos h

theorem ensure_of_not {p : Prop} [Decidable p] (h : ¬p) : (ensure p : MayPanic ε Unit) = .error .panic := if_neg h

theorem ensure_eq_ok_iff {p : Prop} [Decidable p] {u : Unit} : (ensure p : MayPanic ε Unit) = .ok u ↔ p := by
  unfold ensure
  split_ifs with h <;> simp [h]

theorem lift_eq_ok_iff {x : Except ε α} {a : α} : (lift x : MayPanic ε α) = .ok a ↔ x = .ok a := by
  cases x <;> simp [fail]

theorem lift_ne_panic (x : Except ε α) : (lift x : MayPanic ε α) ≠ .error .panic := by
  cases x with
  | error err => rintro ⟨⟩
  | ok a => rintro ⟨⟩

/-- code after an assertion does not panic exactly where the assertion holds and what follows does not -/
theorem ensure_bind_ne_panic_iff {p : Prop} [Decidable p] {f : Unit → MayPanic ε β} :
    (ensure p >>= f) ≠ .error .panic ↔ p ∧ f () ≠ .error .panic := by
  by_cases h : p
  · rw [ensure_of h, ok_bind]
    exact (and_iff_right h).symm
  · rw [ensure_of_not h]
    exact iff_of_false (fun hnot => hnot rfl) fun hboth => h hboth.1

/-- a stage that cannot panic leaves it to what follows its result -/
theorem lift_bind_ne_panic_iff {x : Except ε α} {f : α → MayPanic ε β} :
    (lift x >>= f) ≠ .error .panic ↔ ∀ a, x = .ok a → f a ≠ .error .panic := by
  cases x with
  | error err =>
    refine iff_of_true ?_ ?_
    · rintro ⟨⟩
    · rintro a ⟨⟩
  | ok a =>
    rw [lift_ok, ok_bind]
    constructor
    · rintro h a' ⟨⟩
      exact h
    · intro h
      exact h a rfl

/-! ## Indexing and slicing -/

/-- `items[i]` -/
def index (items : List α) (i : ℕ) : MayPanic ε α :=
  match items[i]? with
  | some a => .ok a
  | none => .error .panic

/-- `items[start..stop]` -/
def slice (items : List α) (start stop : ℕ) : MayPanic ε (List α) :=
  if start ≤ stop ∧ stop ≤ items.length then .ok ((items.drop start).take (stop - start)) else .error .panic

/-- `items[start..]` -/
def sliceFrom (items : List α) (start : ℕ) : MayPanic ε (List α) :=
  if start ≤ items.length then .ok (items.drop start) else .error .panic

/-- `try_into` an array of `n` items -/
def toArray (n : ℕ) (err : ε) (items : List α) : MayPanic ε (List α) :=
  if items.length = n then .ok items else fail err

theorem index_of_lt {items : List α} {i : ℕ} (h : i < items.length) (d : α) :
    (index items i : MayPanic ε α) = .ok (items.getD i d) := by
  simp [index, h]

theorem slice_of_le {items : List α} {start stop : ℕ} (hle : start ≤ stop) (hstop : stop ≤ items.length) :
    (slice items start stop : MayPanic ε (List α)) = .ok ((items.drop start).take (stop - start)) := if_pos ⟨hle, hstop⟩

theorem sliceFrom_of_le {items : List α} {start : ℕ} (h : start ≤ items.length) :
    (sliceFrom items start : MayPanic ε (List α)) = .ok (items.drop start) := if_pos h

theorem toArray_of_length {n : ℕ} {err : ε} {items : List α} (h : items.length = n) :
    toArray n err items = .ok items := if_pos h

/-! ## Sums -/

/-- `a + b` -/
def add (a b : ℕ) : MayPanic ε ℕ := if a + b < 2 ^ 64 then .ok (a + b) else .error .panic

/-- `a + b₁ + b₂ + …`, from the left -/
def sum (a : ℕ) (bs : List ℕ) : MayPanic ε ℕ := bs.foldlM add a

theorem add_of_lt {a b : ℕ} (h : a + b < 2 ^ 64) : (add a b : MayPanic ε ℕ) = .ok (a + b) := if_pos h

/-- a sum that fits has partial sums that fit -/
theorem sum_of_lt {a : ℕ} {bs : List ℕ} (h : a + bs.sum < 2 ^ 64) :
    (sum a bs : MayPanic ε ℕ) = .ok (a + bs.sum) := by
  induction bs generalizing a with
  | nil => rfl
  | cons b bs ih =>
    rw [List.sum_cons, ← Nat.add_assoc] at h
    have hb : (add a b : MayPanic ε ℕ) = .ok (a + b) := add_of_lt (by omega)
    have hrest := ih h
    rw [sum] at hrest ⊢
    rw [List.foldlM_cons, hb, ok_bind, hrest, List.sum_cons, Nat.add_assoc]

theorem sum_one {a b : ℕ} (h : a + b < 2 ^ 64) : (sum a [b] : MayPanic ε ℕ) = .ok (a + b) :=
  sum_of_lt (by simpa using h)

theorem sum_three {a b c d : ℕ} (h : a + b + c + d < 2 ^ 64) :
    (sum a [b, c, d] : MayPanic ε ℕ) = .ok (a + b + c + d) := by
  have hsum := @sum_of_lt ε a [b, c, d] (by simpa [Nat.add_assoc] using h)
  simpa [Nat.add_assoc] using hsum

/-! ## Cursors -/

/-- a reader with a cursor did what a reader of what was left did: the same value or declared error, no panic, and the
cursor stands at what the other one leaves -/
def Agrees (items : List α) (moved : MayPanic ε (β × ℕ)) (read : Except ε (β × List α)) : Prop :=
  match read with
  | .ok (b, rest) => ∃ cursor, moved = .ok (b, cursor) ∧ cursor ≤ items.length ∧ rest = items.drop cursor
  | .error err => moved = fail err

end N0wss.Checked
