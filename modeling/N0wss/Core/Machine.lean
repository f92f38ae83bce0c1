/-
Runs of a machine whose step is a total function of the state and one operation. An operation that does not apply in a
state leaves the state alone, so an interleaving of any number of actors is a list of operations and nothing else.

- `run`: the state after a list of operations.
- `AllSteps`: a condition on (state before, operation) that holds at every step of a run.
- `AllStates`: a property of every state a run reaches, the first one included.
- `run_inv`, `run_inv_of_allSteps`: an invariant kept by one step (by one step that meets the condition) holds after
  every run (after every run whose steps all meet it).
- `allStates_of_inv`, `allSteps_of_inv`: the same for every state reached, and for every step.
- `allSteps_iff_of_step`: a condition that one step shows is met all along exactly when every step shows it.
- `forall_mem_set`, `sum_map_set`, `sum_map_eraseIdx`, `filterMap_set_of_eq`, `filterMap_set_perm`, `filterMap_perm_set`:
  properties, totals and answers of a list of calls, one of which moves on or is gone.
-/
import Mathlib.Tactic

namespace N0wss.Machine

variable {σ α : Type*} (step : σ → α → σ)

/-! ## Runs -/

def run (s : σ) (ops : List α) : σ := ops.foldl step s

@[simp] theorem run_nil (s : σ) : run step s [] = s := rfl

@[simp] theorem run_cons (s : σ) (o : α) (ops : List α) : run step s (o :: ops) = run step (step s o) ops := rfl

theorem run_append (s : σ) (a b : List α) : run step s (a ++ b) = run step (run step s a) b := by
  simp [run, List.foldl_append]

/-- every step of the run meets `P` -/
def AllSteps (P : σ → α → Prop) (s : σ) : List α → Prop
  | [] => True
  | o :: ops => P s o ∧ AllSteps P (step s o) ops

/-- every state of the run, the first and the last included, meets `Q` -/
def AllStates (Q : σ → Prop) (s : σ) : List α → Prop
  | [] => Q s
  | o :: ops => Q s ∧ AllStates Q (step s o) ops

instance decAllSteps (P : σ → α → Prop) [∀ s o, Decidable (P s o)] (s : σ) (ops : List α) :
    Decidable (AllSteps step P s ops) :=
  match ops with
  | [] => inferInstanceAs (Decidable True)
  | o :: ops => @instDecidableAnd _ _ _ (decAllSteps P (step s o) ops)

instance decAllStates (Q : σ → Prop) [∀ s, Decidable (Q s)] (s : σ) (ops : List α) :
    Decidable (AllStates step Q s ops) :=
  match ops with
  | [] => inferInstanceAs (Decidable (Q s))
  | o :: ops => @instDecidableAnd _ _ _ (decAllStates Q (step s o) ops)

variable {step}

theorem allStates_iff {Q : σ → Prop} {s : σ} {ops : List α} :
    AllStates step Q s ops ↔ ∀ pre, pre <+: ops → Q (run step s pre) := by
  induction ops generalizing s with
  | nil => simp [AllStates]
  | cons o ops ih =>
    simp only [AllStates, ih]
    constructor
    · rintro ⟨h0, h⟩ pre hpre
      cases pre with
      | nil => exact h0
      | cons o' pre =>
        obtain ⟨rfl, htail⟩ := List.cons_prefix_cons.1 hpre
        exact h pre htail
    · intro h
      exact ⟨h [] (List.nil_prefix), fun pre hpre => h (o :: pre) (List.cons_prefix_cons.2 ⟨rfl, hpre⟩)⟩

/-- every state meets `Q` if the first one does and every step leads to one that does -/
theorem allStates_iff_allSteps {Q : σ → Prop} {s : σ} {ops : List α} :
    AllStates step Q s ops ↔ Q s ∧ AllSteps step (fun s o => Q (step s o)) s ops := by
  induction ops generalizing s with
  | nil => simp [AllStates, AllSteps]
  | cons o ops ih => simp only [AllStates, AllSteps, ih]

theorem AllStates.last {Q : σ → Prop} {s : σ} {ops : List α} (h : AllStates step Q s ops) : Q (run step s ops) :=
  allStates_iff.1 h ops (List.prefix_refl ops)

theorem AllStates.first {Q : σ → Prop} {s : σ} {ops : List α} (h : AllStates step Q s ops) : Q s :=
  allStates_iff.1 h [] List.nil_prefix

theorem AllSteps.imp {P P' : σ → α → Prop} (hPP : ∀ s o, P s o → P' s o) {s : σ} {ops : List α}
    (h : AllSteps step P s ops) : AllSteps step P' s ops := by
  induction ops generalizing s with
  | nil => trivial
  | cons o ops ih => exact ⟨hPP s o h.1, ih h.2⟩

theorem allSteps_append {P : σ → α → Prop} {s : σ} {a b : List α} :
    AllSteps step P s (a ++ b) ↔ AllSteps step P s a ∧ AllSteps step P (run step s a) b := by
  induction a generalizing s with
  | nil => simp [AllSteps]
  | cons o a ih => simp only [List.cons_append, AllSteps, ih, run_cons, and_assoc]

/-- a run that does not meet a condition everywhere has a first step to show for it -/
theorem exists_of_not_allSteps {P : σ → α → Prop} {s : σ} {ops : List α} (h : ¬AllSteps step P s ops) :
    ∃ pre o post, ops = pre ++ o :: post ∧ ¬P (run step s pre) o := by
  induction ops generalizing s with
  | nil => exact absurd trivial h
  | cons o ops ih =>
    by_cases hP : P s o
    · obtain ⟨pre, o', post, rfl, hno⟩ := ih fun hall => h ⟨hP, hall⟩
      exact ⟨o :: pre, o', post, rfl, hno⟩
    · exact ⟨[], o, ops, rfl, hP⟩

/-! ## Invariants -/

theorem run_inv {I : σ → Prop} (hI : ∀ s o, I s → I (step s o)) {s : σ} (ops : List α) (h : I s) :
    I (run step s ops) := by
  induction ops generalizing s with
  | nil => exact h
  | cons o ops ih => exact ih (hI s o h)

theorem run_inv_of_allSteps {I : σ → Prop} {P : σ → α → Prop} (hI : ∀ s o, I s → P s o → I (step s o)) {s : σ}
    {ops : List α} (h : I s) (hP : AllSteps step P s ops) : I (run step s ops) := by
  induction ops generalizing s with
  | nil => exact h
  | cons o ops ih => exact ih (hI s o h hP.1) hP.2

/-- a run whose steps all lower a rank is no longer than the rank it starts with -/
theorem length_le_rank {P : σ → α → Prop} {f : σ → ℕ} (hf : ∀ s o, P s o → f (step s o) < f s) {s : σ} {ops : List α}
    (hP : AllSteps step P s ops) : ops.length ≤ f s := by
  induction ops generalizing s with
  | nil => exact Nat.zero_le _
  | cons o ops ih =>
    have hfall := hf s o hP.1
    have hrest := ih hP.2
    rw [List.length_cons]
    omega

/-- an invariant kept by the steps that meet `P` holds of every state of a run whose steps all do -/
theorem allStates_of_inv {I Q : σ → Prop} {P : σ → α → Prop} (hI : ∀ s o, I s → P s o → I (step s o))
    (hQ : ∀ s, I s → Q s) {s : σ} {ops : List α} (h : I s) (hP : AllSteps step P s ops) : AllStates step Q s ops := by
  induction ops generalizing s with
  | nil => exact hQ s h
  | cons o ops ih => exact ⟨hQ s h, ih (hI s o h hP.1) hP.2⟩

/-- an invariant kept by the steps that meet `P` shows at every step of such a run what it shows of one -/
theorem allSteps_of_inv {I : σ → Prop} {P R : σ → α → Prop} (hI : ∀ s o, I s → P s o → I (step s o))
    (hR : ∀ s o, I s → P s o → R s o) {s : σ} {ops : List α} (h : I s) (hP : AllSteps step P s ops) :
    AllSteps step R s ops := by
  induction ops generalizing s with
  | nil => trivial
  | cons o ops ih => exact ⟨hR s o h hP.1, ih (hI s o h hP.1) hP.2⟩

/-- two conditions that one step does not tell apart, in the states of an invariant -/
theorem allSteps_congr_of_inv {I : σ → Prop} {C P R : σ → α → Prop} (hI : ∀ s o, I s → C s o → I (step s o))
    (hPR : ∀ s o, I s → C s o → (R s o ↔ P s o)) {s : σ} {ops : List α} (h : I s) (hC : AllSteps step C s ops) :
    AllSteps step R s ops ↔ AllSteps step P s ops := by
  induction ops generalizing s with
  | nil => simp [AllSteps]
  | cons o ops ih =>
    simp only [AllSteps, hPR s o h hC.1]
    exact and_congr_right fun _ => ih (hI s o h hC.1) hC.2

/-- the condition can be read back from what the steps did, where one step tells them apart -/
theorem allSteps_iff_of_step {I : σ → Prop} {P R : σ → α → Prop} (hI : ∀ s o, I s → P s o → I (step s o))
    (hPR : ∀ s o, I s → (R s o ↔ P s o)) {s : σ} {ops : List α} (h : I s) :
    AllSteps step R s ops ↔ AllSteps step P s ops := by
  induction ops generalizing s with
  | nil => simp [AllSteps]
  | cons o ops ih =>
    simp only [AllSteps, hPR s o h]
    exact and_congr_right fun hp => ih (hI s o h hp)

/-! ## Lists of calls, one of which takes a step -/

/-- what holds of every call holds still when one moves on to where it holds -/
theorem forall_mem_set {β : Type*} {p : β → Prop} {calls : List β} (h : ∀ c ∈ calls, p c) (i : ℕ) {b : β} (hb : p b) :
    ∀ c ∈ calls.set i b, p c := by
  intro c hc
  rcases List.mem_or_eq_of_mem_set hc with hold | rfl
  · exact h c hold
  · exact hb

/-- and when one more starts there -/
theorem forall_mem_concat {β : Type*} {p : β → Prop} {calls : List β} (h : ∀ c ∈ calls, p c) {b : β} (hb : p b) :
    ∀ c ∈ calls ++ [b], p c := List.forall_mem_append.2 ⟨h, List.forall_mem_singleton.2 hb⟩

/-- and when one is gone -/
theorem forall_mem_eraseIdx {β : Type*} {p : β → Prop} {calls : List β} (h : ∀ c ∈ calls, p c) (i : ℕ) :
    ∀ c ∈ calls.eraseIdx i, p c := fun c hc => h c (List.mem_of_mem_eraseIdx hc)

/-- what one call counts moves a total by the difference -/
theorem sum_map_set {β : Type*} (f : β → ℕ) {calls : List β} {i : ℕ} {a : β} (h : calls[i]? = some a) (b : β) :
    ((calls.set i b).map f).sum + f a = (calls.map f).sum + f b := by
  induction calls generalizing i with
  | nil => simp at h
  | cons x calls ih =>
    cases i with
    | zero =>
      obtain rfl : x = a := by simpa using h
      simp only [List.set_cons_zero, List.map_cons, List.sum_cons]
      omega
    | succ i =>
      have hrest := ih (by simpa using h : calls[i]? = some a)
      simp only [List.set_cons_succ, List.map_cons, List.sum_cons]
      omega

/-- what stands in a list of which one element was replaced -/
theorem getElem?_set_cases {l : List α} {i j : ℕ} {a b c : α} (hj : l[j]? = some a) (h : (l.set j b)[i]? = some c) :
    j = i ∧ b = c ∨ l[i]? = some c := by
  by_cases hij : j = i
  · subst hij
    rw [List.getElem?_set_self (List.getElem?_eq_some_iff.1 hj).1] at h
    exact Or.inl ⟨rfl, Option.some.inj h⟩
  · rw [List.getElem?_set_ne hij] at h
    exact Or.inr h

/-- and by all of it when that call is gone -/
theorem sum_map_eraseIdx {β : Type*} (f : β → ℕ) {calls : List β} {i : ℕ} {a : β} (h : calls[i]? = some a) :
    ((calls.eraseIdx i).map f).sum + f a = (calls.map f).sum := by
  obtain ⟨hi, rfl⟩ := List.getElem?_eq_some_iff.1 h
  have hperm := (List.getElem_cons_eraseIdx_perm hi).map f
  rw [← hperm.sum_eq, List.map_cons, List.sum_cons, Nat.add_comm]

/-- a call that answers nothing new leaves the answers alone -/
theorem filterMap_set_of_eq {β γ : Type*} (f : β → Option γ) {calls : List β} {i : ℕ} {a b : β}
    (h : calls[i]? = some a) (hf : f b = f a) : (calls.set i b).filterMap f = calls.filterMap f := by
  induction calls generalizing i with
  | nil => rfl
  | cons x calls ih =>
    cases i with
    | zero =>
      obtain rfl : x = a := by simpa using h
      simp only [List.set_cons_zero, List.filterMap_cons, hf]
    | succ i =>
      simp only [List.set_cons_succ, List.filterMap_cons, ih (by simpa using h : calls[i]? = some a)]

/-- a call that answers for the first time adds its answer -/
theorem filterMap_set_perm {β γ : Type*} (f : β → Option γ) {calls : List β} {i : ℕ} {a b : β} {c : γ}
    (h : calls[i]? = some a) (ha : f a = none) (hb : f b = some c) :
    ((calls.set i b).filterMap f).Perm (c :: calls.filterMap f) := by
  induction calls generalizing i with
  | nil => simp at h
  | cons x calls ih =>
    cases i with
    | zero =>
      obtain rfl : x = a := by simpa using h
      simp only [List.set_cons_zero, List.filterMap_cons, ha, hb]
      exact List.Perm.refl _
    | succ i =>
      have hrest := ih (by simpa using h : calls[i]? = some a)
      simp only [List.set_cons_succ, List.filterMap_cons]
      cases f x with
      | none => exact hrest
      | some d => exact (hrest.cons d).trans (List.Perm.swap c d _)

/-- a call that gives its answer up takes it out -/
theorem filterMap_perm_set {β γ : Type*} (f : β → Option γ) {calls : List β} {i : ℕ} {a b : β} {c : γ}
    (h : calls[i]? = some a) (ha : f a = some c) (hb : f b = none) :
    (calls.filterMap f).Perm (c :: (calls.set i b).filterMap f) := by
  obtain ⟨hi, hget⟩ := List.getElem?_eq_some_iff.1 h
  have hback : (calls.set i b).set i a = calls := by rw [List.set_set, ← hget, List.set_getElem_self]
  have hperm := filterMap_set_perm f (List.getElem?_set_self (by simpa using hi) : (calls.set i b)[i]? = some b) hb ha
  rwa [hback] at hperm

end N0wss.Machine
