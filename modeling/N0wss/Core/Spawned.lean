/-
A machine that starts other machines and does not wait for them. An operation is one of the parent, which may spawn a
child, or one of the child at some place; a child takes its own operations and nothing else.

- `parent_run`: the parent runs as if its children did nothing.
- `forall_children_run`: what every new child meets, and every step of a child keeps, holds of all of them.
-/
import N0wss.Core.Machine

namespace N0wss.Machine.Spawned

variable {σ α τ β : Type*}

structure System (σ τ : Type*) where
  parent : σ
  children : List τ

inductive Op (α β : Type*) where
  | parent (o : α)
  | child (i : ℕ) (o : β)
deriving DecidableEq, Repr

/-- the operation, if it is one of the parent -/
def Op.ofParent : Op α β → Option α
  | .parent o => some o
  | .child _ _ => none

@[simp] theorem ofParent_parent (o : α) : (Op.parent o : Op α β).ofParent = some o := rfl

@[simp] theorem ofParent_child (i : ℕ) (o : β) : (Op.child i o : Op α β).ofParent = none := rfl

/-- the parent takes a step and may spawn a child; a child takes one of its own -/
def step (turn : σ → α → σ × Option τ) (child : τ → β → τ) (s : System σ τ) : Op α β → System σ τ
  | .parent o => ⟨(turn s.parent o).1, s.children ++ (turn s.parent o).2.toList⟩
  | .child i o => ⟨s.parent, s.children.modify i fun c => child c o⟩

variable {turn : σ → α → σ × Option τ} {child : τ → β → τ}

/-! ## The parent -/

/-- **Children do not interfere.** The parent is where its own operations lead to. -/
theorem parent_run (s : System σ τ) (ops : List (Op α β)) :
    (run (step turn child) s ops).parent = run (fun p o => (turn p o).1) s.parent (ops.filterMap Op.ofParent) := by
  induction ops generalizing s with
  | nil => rfl
  | cons o ops ih =>
    cases o with
    | parent o => rw [run_cons, ih, List.filterMap_cons_some (ofParent_parent o), run_cons, step]
    | child i o => rw [run_cons, ih, List.filterMap_cons_none (ofParent_child i o), step]

/-! ## The children -/

theorem forall_mem_modify {p : τ → Prop} {f : τ → τ} {children : List τ} (h : ∀ c ∈ children, p c)
    (hf : ∀ c, p c → p (f c)) (i : ℕ) : ∀ c ∈ children.modify i f, p c := by
  intro c hc
  obtain ⟨j, hj⟩ := List.mem_iff_getElem?.1 hc
  rw [List.getElem?_modify] at hj
  obtain ⟨c', hc', rfl⟩ := Option.map_eq_some_iff.1 hj
  have hmem := h c' (List.mem_of_getElem? hc')
  split_ifs
  · exact hf c' hmem
  · exact hmem

/-- **Invariants of a child** hold of all of them, if every child that is spawned meets them. -/
theorem forall_children_run {p : τ → Prop} (hspawn : ∀ s o c, (turn s o).2 = some c → p c)
    (hstep : ∀ c o, p c → p (child c o)) (s : System σ τ) (ops : List (Op α β)) (h : ∀ c ∈ s.children, p c) :
    ∀ c ∈ (run (step turn child) s ops).children, p c := by
  have hkeeps : ∀ (s : System σ τ) (o : Op α β), (∀ c ∈ s.children, p c) → ∀ c ∈ (step turn child s o).children, p c := by
    intro s o hs
    cases o with
    | parent o =>
      refine List.forall_mem_append.2 ⟨hs, fun c hc => hspawn s.parent o c ?_⟩
      simpa using hc
    | child i o => exact forall_mem_modify hs (fun c => hstep c o) i
  exact run_inv hkeeps ops h

end N0wss.Machine.Spawned
