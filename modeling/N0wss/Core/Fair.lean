/-
Runs of a machine that go on, and what fairness says about them: a step that stays possible is taken some time.

- `stays`, `state_inv`: what a step keeps.
- `WeakFair`, `StrongFair`: a step that is possible from some time on, or again and again, is taken.
- `WeakFair.reaches`: what a fair step brings about, and what keeps that step possible until then, comes about.
- `exists_rest`: a count that never rises comes to rest.
- `exists_zero`, `WeakFair.exists_zero`: a count that falls as long as it is not zero gets to zero.
- `weakFair_of_settled`, `strongFair_of_settled`: a run that ends in one state for good is fair to what is not possible
  there, or is done there.
- `scripted`, `settles_scripted`: a list of operations, then one operation for ever.
-/
import N0wss.Core.Machine

namespace N0wss.Machine

variable {σ α : Type*}

structure LongRun (step : σ → α → σ) where
  start : σ
  ops : ℕ → α

namespace LongRun

variable {step : σ → α → σ} (r : LongRun step)

/-- the state after `n` operations -/
def state : ℕ → σ
  | 0 => r.start
  | n + 1 => step (state n) (r.ops n)

/-! ## Invariants -/

/-- what every step keeps, once it holds, holds from then on -/
theorem stays {P : σ → Prop} (hP : ∀ s o, P s → P (step s o)) {n m : ℕ} (h : P (r.state n)) (hle : n ≤ m) :
    P (r.state m) := by
  induction m, hle using Nat.le_induction with
  | base => exact h
  | succ m _ ih => exact hP _ _ ih

theorem state_inv {I : σ → Prop} {C : σ → α → Prop} (hI : ∀ s o, I s → C s o → I (step s o)) (h : I r.start)
    (hC : ∀ n, C (r.state n) (r.ops n)) (n : ℕ) : I (r.state n) := by
  induction n with
  | zero => exact h
  | succ n ih => exact hI _ _ ih (hC n)

/-! ## Fairness -/

/-- what is possible from some time on is done some time after -/
def WeakFair (enabled : σ → Prop) (takes : σ → α → Prop) : Prop :=
  ∀ n, (∀ m, n ≤ m → enabled (r.state m)) → ∃ m, n ≤ m ∧ takes (r.state m) (r.ops m)

/-- what is possible again and again is done again and again -/
def StrongFair (enabled : σ → Prop) (takes : σ → α → Prop) : Prop :=
  (∀ n, ∃ m, n ≤ m ∧ enabled (r.state m)) → ∀ n, ∃ m, n ≤ m ∧ takes (r.state m) (r.ops m)

variable {r} {enabled : σ → Prop} {takes : σ → α → Prop}

/-- **What a fair step brings about comes about,** if the step is possible until then. -/
theorem WeakFair.reaches (hfair : r.WeakFair enabled takes) {Q : σ → Prop} {n : ℕ}
    (henabled : ∀ m, n ≤ m → ¬Q (r.state m) → enabled (r.state m))
    (htakes : ∀ m, n ≤ m → takes (r.state m) (r.ops m) → Q (r.state (m + 1))) : ∃ m, n ≤ m ∧ Q (r.state m) := by
  by_contra hnever
  have hnot : ∀ m, n ≤ m → ¬Q (r.state m) := fun m hm hQ => hnever ⟨m, hm, hQ⟩
  obtain ⟨m, hm, htaken⟩ := hfair n fun m hm => henabled m hm (hnot m hm)
  exact hnot (m + 1) (hm.trans (Nat.le_succ m)) (htakes m hm htaken)

/-- the same for a step that is possible now, and that nothing else makes impossible -/
theorem WeakFair.reaches_of_stays (hfair : r.WeakFair enabled takes) {Q : σ → Prop} {n : ℕ}
    (hnow : enabled (r.state n))
    (hstays : ∀ m, n ≤ m → enabled (r.state m) → enabled (r.state (m + 1)) ∨ Q (r.state (m + 1)))
    (htakes : ∀ m, n ≤ m → enabled (r.state m) → takes (r.state m) (r.ops m) → Q (r.state (m + 1))) :
    ∃ m, n ≤ m ∧ Q (r.state m) := by
  by_contra hnever
  have hnot : ∀ m, n ≤ m → ¬Q (r.state m) := fun m hm hQ => hnever ⟨m, hm, hQ⟩
  have henabled : ∀ m, n ≤ m → enabled (r.state m) := by
    intro m hm
    induction m, hm using Nat.le_induction with
    | base => exact hnow
    | succ m hm ih => exact (hstays m hm ih).resolve_right (hnot (m + 1) (hm.trans (Nat.le_succ m)))
  obtain ⟨m, hm, htaken⟩ := hfair n henabled
  exact hnot (m + 1) (hm.trans (Nat.le_succ m)) (htakes m hm (henabled m hm) htaken)

/-- the same for a step that is possible again and again -/
theorem StrongFair.reaches (hfair : r.StrongFair enabled takes) {Q : σ → Prop} {n : ℕ}
    (henabled : ∀ m, n ≤ m → (∀ k, n ≤ k → ¬Q (r.state k)) → ∃ k, m ≤ k ∧ enabled (r.state k))
    (htakes : ∀ m, n ≤ m → takes (r.state m) (r.ops m) → Q (r.state (m + 1))) : ∃ m, n ≤ m ∧ Q (r.state m) := by
  by_contra hnever
  have hnot : ∀ m, n ≤ m → ¬Q (r.state m) := fun m hm hQ => hnever ⟨m, hm, hQ⟩
  have hagain : ∀ m, ∃ k, m ≤ k ∧ enabled (r.state k) := by
    intro m
    obtain ⟨k, hk, hpossible⟩ := henabled (max n m) (le_max_left n m) hnot
    exact ⟨k, (le_max_right n m).trans hk, hpossible⟩
  obtain ⟨m, hm, htaken⟩ := hfair hagain n
  exact hnot (m + 1) (hm.trans (Nat.le_succ m)) (htakes m hm htaken)

theorem le_of_falling {f : σ → ℕ} {n m k : ℕ} (hdown : ∀ i, n ≤ i → f (r.state (i + 1)) ≤ f (r.state i)) (hm : n ≤ m)
    (hk : m ≤ k) : f (r.state k) ≤ f (r.state m) := by
  induction k, hk using Nat.le_induction with
  | base => exact le_refl _
  | succ k hk ih => exact (hdown k (hm.trans hk)).trans ih

/-- a count that never rises comes to rest -/
theorem exists_rest {f : σ → ℕ} {n : ℕ} (hdown : ∀ i, n ≤ i → f (r.state (i + 1)) ≤ f (r.state i)) :
    ∃ k, n ≤ k ∧ ∀ m, k ≤ m → f (r.state m) = f (r.state k) := by
  classical
  -- where it is least, it cannot fall any more
  have hvalue : ∃ c k, n ≤ k ∧ f (r.state k) = c := ⟨_, n, le_refl n, rfl⟩
  obtain ⟨k, hk, hleast⟩ := Nat.find_spec hvalue
  refine ⟨k, hk, fun m hm => le_antisymm (le_of_falling hdown hk hm) ?_⟩
  rw [hleast]
  exact Nat.find_min' hvalue ⟨m, hk.trans hm, rfl⟩

/-- **A count that falls as long as it can gets to zero.** -/
theorem exists_zero {f : σ → ℕ} {n : ℕ}
    (hfalls : ∀ m, n ≤ m → f (r.state m) ≠ 0 → ∃ k, m ≤ k ∧ f (r.state k) < f (r.state m)) :
    ∃ m, n ≤ m ∧ f (r.state m) = 0 := by
  -- induction on what is left
  suffices h : ∀ c m, n ≤ m → f (r.state m) = c → ∃ k, n ≤ k ∧ f (r.state k) = 0 from h _ n (le_refl n) rfl
  intro c
  induction c using Nat.strong_induction_on with
  | _ c ih =>
    intro m hm hc
    by_cases hzero : c = 0
    · exact ⟨m, hm, hc.trans hzero⟩
    · obtain ⟨k, hk, hless⟩ := hfalls m hm (hc ▸ hzero)
      exact ih (f (r.state k)) (hc ▸ hless) k (hm.trans hk) rfl

/-- a fair step that lowers a count lowers it to zero, if it is possible until then and nothing raises the count -/
theorem WeakFair.exists_zero {f : σ → ℕ} {n : ℕ} (hfair : r.WeakFair enabled takes)
    (hdown : ∀ m, n ≤ m → f (r.state (m + 1)) ≤ f (r.state m))
    (henabled : ∀ m, n ≤ m → f (r.state m) ≠ 0 → enabled (r.state m))
    (htakes : ∀ m, n ≤ m → takes (r.state m) (r.ops m) → f (r.state m) ≠ 0 → f (r.state (m + 1)) < f (r.state m)) :
    ∃ m, n ≤ m ∧ f (r.state m) = 0 := by
  apply LongRun.exists_zero
  intro m hm hne
  have hle : ∀ k, m ≤ k → f (r.state k) ≤ f (r.state m) := fun k hk => le_of_falling hdown hm hk
  refine hfair.reaches (Q := fun s => f s < f (r.state m)) ?_ ?_
  · intro k hk hnot
    exact henabled k (hm.trans hk) (by omega)
  · intro k hk htaken
    by_cases hsame : f (r.state k) = f (r.state m)
    · have hlower := htakes k (hm.trans hk) htaken (by omega)
      omega
    · have hlower := hdown k (hm.trans hk)
      have hbelow := hle k hk
      omega

/-! ## Runs that settle -/

/-- from `k` on the run repeats one operation that leaves its state alone -/
def Settles (r : LongRun step) (k : ℕ) (o : α) : Prop :=
  (∀ m, k ≤ m → r.ops m = o) ∧ step (r.state k) o = r.state k

theorem state_of_settles {k : ℕ} {o : α} (h : Settles r k o) {m : ℕ} (hm : k ≤ m) : r.state m = r.state k := by
  induction m, hm using Nat.le_induction with
  | base => rfl
  | succ m hm ih => rw [state, ih, h.1 m hm, h.2]

theorem weakFair_of_settled {k : ℕ} {o : α} (h : Settles r k o) (hdone : enabled (r.state k) → takes (r.state k) o) :
    r.WeakFair enabled takes := by
  intro n hpossible
  refine ⟨max n k, le_max_left n k, ?_⟩
  have hpossible := hpossible (max n k) (le_max_left n k)
  rw [state_of_settles h (le_max_right n k)] at hpossible ⊢
  rw [h.1 _ (le_max_right n k)]
  exact hdone hpossible

theorem strongFair_of_settled {k : ℕ} {o : α} (h : Settles r k o) (hdone : enabled (r.state k) → takes (r.state k) o) :
    r.StrongFair enabled takes := by
  intro hagain n
  obtain ⟨m, hm, hpossible⟩ := hagain (max n k)
  have hk : k ≤ m := (le_max_right n k).trans hm
  refine ⟨m, (le_max_left n k).trans hm, ?_⟩
  rw [state_of_settles h hk] at hpossible ⊢
  rw [h.1 m hk]
  exact hdone hpossible

/-- a list of operations, then one operation for ever -/
def scripted (step : σ → α → σ) (start : σ) (ops : List α) (rest : α) : LongRun step :=
  ⟨start, fun n => (ops[n]?).getD rest⟩

theorem settles_scripted {start : σ} {ops : List α} {rest : α} {k : ℕ} (hk : ops.length ≤ k)
    (h : step ((scripted step start ops rest).state k) rest = (scripted step start ops rest).state k) :
    Settles (scripted step start ops rest) k rest := by
  refine ⟨fun m hm => ?_, h⟩
  simp only [scripted, List.getElem?_eq_none (hk.trans hm), Option.getD_none]

theorem mem_scripted (start : σ) (ops : List α) (rest : α) (n : ℕ) :
    (scripted step start ops rest).ops n ∈ rest :: ops := by
  simp only [scripted]
  cases h : ops[n]? with
  | none => exact List.mem_cons_self
  | some o => exact List.mem_cons_of_mem rest (List.mem_of_getElem? h)

end LongRun

end N0wss.Machine
