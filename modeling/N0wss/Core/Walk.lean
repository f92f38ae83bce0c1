/-
Walks. A walk goes from a state to the next one while there is one. Every step lowers a rank, so that it ends.

- `visited`: the states that a walk comes through, in order.
- `forall_mem_visited`: what a step keeps holds of all of them.
- `length_visited_mul_le`: steps of some width, below a bound, are few.
- `visited_congr`: a walk depends on its steps from the states it comes through, and on no others.
-/
import Mathlib.Tactic

namespace N0wss

structure Walk (σ : Type*) where
  next : σ → Option σ
  rank : σ → ℕ
  falls : ∀ {s s' : σ}, next s = some s' → rank s' < rank s

namespace Walk

variable {σ : Type*} {w : Walk σ} {s s' : σ} {start : Option σ}

def visitedFrom (w : Walk σ) (s : σ) : List σ :=
  match _h : w.next s with
  | none => [s]
  | some s' => s :: w.visitedFrom s'
termination_by w.rank s
decreasing_by exact w.falls _h

/-- the states that the walk comes through, if it starts at all -/
def visited (w : Walk σ) : Option σ → List σ
  | none => []
  | some s => w.visitedFrom s

@[simp] theorem visited_none : w.visited none = [] := rfl

/-- one step -/
theorem visited_some (w : Walk σ) (s : σ) : w.visited (some s) = s :: w.visited (w.next s) := by
  rw [visited, visitedFrom]
  split
  · rename_i hend
    rw [hend, visited_none]
  · rename_i s' hnext
    rw [hnext, visited]

/-- induction along the walk -/
theorem induction {P : σ → Prop} (w : Walk σ) (h : ∀ s, (∀ s', w.next s = some s' → P s') → P s) (s : σ) : P s := by
  induction hrank : w.rank s using Nat.strong_induction_on generalizing s with
  | _ n ih =>
    apply h
    intro s' hnext
    have hlt : w.rank s' < n := hrank ▸ w.falls hnext
    exact ih (w.rank s') hlt s' rfl

/-- what every step keeps holds of all states visited -/
theorem forall_mem_visited {I : σ → Prop} (hI : ∀ s s', I s → w.next s = some s' → I s')
    (hstart : ∀ s ∈ start, I s) : ∀ s ∈ w.visited start, I s := by
  have hfrom : ∀ s, I s → ∀ t ∈ w.visited (some s), I t := by
    intro s
    induction s using w.induction with
    | h s ih =>
      intro hs t ht
      rw [visited_some] at ht
      rcases List.mem_cons.1 ht with rfl | ht
      · exact hs
      cases hnext : w.next s with
      | none =>
        rw [hnext] at ht
        cases ht
      | some s' =>
        rw [hnext] at ht
        exact ih s' hnext (hI s s' hs hnext) t ht
  cases start with
  | none => nofun
  | some s => exact hfrom s (hstart s rfl)

/-- steps of width `d` at least, below a bound -/
theorem length_visited_mul_le {I : σ → Prop} {pos : σ → ℕ} {d bound : ℕ} (hI : ∀ s s', I s → w.next s = some s' → I s')
    (hbelow : ∀ s, I s → pos s + d ≤ bound) (hwide : ∀ s s', I s → w.next s = some s' → pos s + d ≤ pos s') (hs : I s) :
    pos s + (w.visited (some s)).length * d ≤ bound := by
  induction s using w.induction with
  | h s ih =>
    rw [visited_some, List.length_cons, Nat.add_mul, Nat.one_mul]
    cases hnext : w.next s with
    | none =>
      rw [visited_none, List.length_nil, Nat.zero_mul, Nat.zero_add]
      exact hbelow s hs
    | some s' =>
      calc pos s + ((w.visited (some s')).length * d + d) = pos s + d + (w.visited (some s')).length * d := by ring
        _ ≤ pos s' + (w.visited (some s')).length * d := Nat.add_le_add_right (hwide s s' hs hnext) _
        _ ≤ bound := ih s' hnext (hI s s' hs hnext)

/-- **A walk depends on nothing else** than its steps from the states it comes through. -/
theorem visited_congr {w' : Walk σ} (h : ∀ s ∈ w.visited start, w'.next s = w.next s) :
    w'.visited start = w.visited start := by
  have hfrom : ∀ s, (∀ t ∈ w.visited (some s), w'.next t = w.next t) → w'.visited (some s) = w.visited (some s) := by
    intro s
    induction s using w.induction with
    | h s ih =>
      intro hsame
      rw [visited_some, visited_some, hsame s (by rw [visited_some]; exact List.mem_cons_self)]
      cases hnext : w.next s with
      | none => rw [visited_none, visited_none]
      | some s' =>
        rw [ih s' hnext fun t ht => hsame t ?_]
        rw [visited_some, hnext]
        exact List.mem_cons_of_mem _ ht
  cases start with
  | none => rfl
  | some s => exact hfrom s h

end Walk

end N0wss
