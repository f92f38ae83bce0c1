/-
Computations in stages, each of which may fail, and which stage an error comes from.

- `bind_eq_ok_iff`, `bind_of_ok`, `bind_eq_error_iff`: how a stage and what follows it end.
- `mapError_eq_ok_iff`: a stage under another name for its errors.
- `Raises`: the errors that a computation may end in; `Raises.bind`, `Raises.mapError`: stage by stage.
- `inOrder`: checks that are made one after the other. `inOrder_eq_ok_iff`, `inOrder_eq_error_iff`: they end in the error
  of the first one that fails.
-/
import Mathlib.Tactic

namespace N0wss.Stages

variable {ε ε' α β : Type}

/-! ## Stages -/

theorem bind_eq_ok_iff {x : Except ε α} {f : α → Except ε β} {b : β} :
    (x >>= f) = .ok b ↔ ∃ a, x = .ok a ∧ f a = .ok b := by
  cases x with
  | error e =>
    constructor
    · intro h
      cases h
    · rintro ⟨a, ha, -⟩
      cases ha
  | ok a =>
    constructor
    · intro h
      exact ⟨a, rfl, h⟩
    · rintro ⟨a', ha, h⟩
      cases ha
      exact h

theorem bind_of_ok {x : Except ε α} {a : α} (h : x = .ok a) (f : α → Except ε β) : (x >>= f) = f a := by
  subst h; rfl

theorem mapError_eq_ok_iff {x : Except ε α} {f : ε → ε'} {a : α} : x.mapError f = .ok a ↔ x = .ok a := by
  cases x with
  | error e =>
    constructor <;> intro h <;> cases h
  | ok b =>
    constructor <;> intro h <;> cases h <;> rfl

/-- an error is that of the first stage, or of what follows its result -/
theorem bind_eq_error_iff {x : Except ε α} {f : α → Except ε β} {e : ε} :
    (x >>= f) = .error e ↔ x = .error e ∨ ∃ a, x = .ok a ∧ f a = .error e := by
  cases x with
  | error e' =>
    constructor
    · intro h
      cases h
      exact Or.inl rfl
    · rintro (h | ⟨a, ha, -⟩)
      · cases h
        rfl
      · cases ha
  | ok a =>
    constructor
    · intro h
      exact Or.inr ⟨a, rfl, h⟩
    · rintro (h | ⟨a', ha, h⟩)
      · cases h
      · cases ha
        exact h

/-! ## Errors -/

/-- the computation ends in no other error than these -/
def Raises (errors : ε → Prop) (x : Except ε α) : Prop := ∀ e, x = .error e → errors e

theorem Raises.ok {errors : ε → Prop} {a : α} : Raises errors (.ok a : Except ε α) := by
  intro e he
  cases he

theorem Raises.error {errors : ε → Prop} {e : ε} (h : errors e) : Raises errors (.error e : Except ε α) := by
  intro e' he
  cases he
  exact h

theorem Raises.imp {errors errors' : ε → Prop} {x : Except ε α} (hx : Raises errors x)
    (h : ∀ e, errors e → errors' e) : Raises errors' x := fun e he => h e (hx e he)

theorem Raises.bind {errors : ε → Prop} {x : Except ε α} {f : α → Except ε β} (hx : Raises errors x)
    (hf : ∀ a, x = .ok a → Raises errors (f a)) : Raises errors (x >>= f) := by
  intro e he
  rcases bind_eq_error_iff.1 he with hfirst | ⟨a, ha, hnext⟩
  · exact hx e hfirst
  · exact hf a ha e hnext

theorem Raises.mapError {errors : ε' → Prop} {g : ε → ε'} {x : Except ε α} (h : ∀ e, x = .error e → errors (g e)) :
    Raises errors (x.mapError g) := by
  intro e he
  cases x with
  | ok a => cases he
  | error e' =>
    cases he
    exact h e' rfl

theorem Raises.ite {errors : ε → Prop} {p : Prop} [Decidable p] {x y : Except ε α} (hx : p → Raises errors x)
    (hy : ¬p → Raises errors y) : Raises errors (if p then x else y) := by
  split_ifs with h
  · exact hx h
  · exact hy h

/-- an error that a stage does not raise comes from what follows -/
theorem Raises.bind_eq_error_iff {x : Except ε α} {f : α → Except ε β} {e : ε} (hx : Raises (· ≠ e) x) :
    (x >>= f) = .error e ↔ ∃ a, x = .ok a ∧ f a = .error e := by
  rw [Stages.bind_eq_error_iff]
  exact or_iff_right fun hfirst => hx e hfirst rfl

/-! ## Checks in order -/

/-- one check after the other, until one fails -/
def inOrder : List (Except ε Unit) → Except ε Unit
  | [] => .ok ()
  | check :: checks => check >>= fun () => inOrder checks

theorem inOrder_eq_ok_iff {checks : List (Except ε Unit)} : inOrder checks = .ok () ↔ ∀ check ∈ checks, check = .ok () := by
  induction checks with
  | nil => simp [inOrder]
  | cons check checks ih =>
    rw [inOrder, bind_eq_ok_iff, List.forall_mem_cons]
    constructor
    · rintro ⟨_, hcheck, hrest⟩
      exact ⟨hcheck, ih.1 hrest⟩
    · rintro ⟨hcheck, hrest⟩
      exact ⟨(), hcheck, ih.2 hrest⟩

/-- **The first check that fails decides.** -/
theorem inOrder_eq_error_iff {checks : List (Except ε Unit)} {e : ε} :
    inOrder checks = .error e ↔
      ∃ pre post, checks = pre ++ .error e :: post ∧ ∀ check ∈ pre, check = .ok () := by
  induction checks with
  | nil =>
    constructor
    · intro h
      cases h
    · rintro ⟨pre, post, h, -⟩
      cases pre <;> cases h
  | cons check checks ih =>
    rw [inOrder, bind_eq_error_iff]
    constructor
    · rintro (rfl | ⟨_, rfl, hrest⟩)
      · exact ⟨[], checks, rfl, by simp⟩
      · rcases ih.1 hrest with ⟨pre, post, rfl, hpre⟩
        exact ⟨.ok () :: pre, post, rfl, List.forall_mem_cons.2 ⟨rfl, hpre⟩⟩
    · rintro ⟨pre, post, h, hpre⟩
      cases pre with
      | nil =>
        cases h
        exact Or.inl rfl
      | cons first pre =>
        obtain ⟨rfl, rfl⟩ := List.cons.inj h
        obtain ⟨hfirst, hrest⟩ := List.forall_mem_cons.1 hpre
        exact Or.inr ⟨(), hfirst, ih.2 ⟨pre, post, rfl, hrest⟩⟩

end N0wss.Stages
