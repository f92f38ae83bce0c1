/-
Sliding windows. A queue takes every value at its back, and then drops from its front what lies below a cutoff that the
value sets.

- `dropWhile_lt_eq_filter`: on a sorted queue, dropping from the front leaves everything from the cutoff on.
- `pushes_eq_live`: sorted values leave those that no later value's cutoff passed, and no others.
- `live_concat_eq_filter`: where the cutoffs rise too, the last one alone decides.
- `filter_sublist_pushes`, `cutoff_le_of_mem_pushes`: in whatever order the values come, what lies below no cutoff stays;
  and where they are sorted but for some slack, what stays lies below the last cutoff by no more than it.
- `countP_le_of_gap`: values with a gap between any two leave a bounded number in any window.
-/
import Mathlib.Tactic

namespace N0wss.Window

variable {α : Type*} [LinearOrder α]

/-! ## Queues -/

/-- a value comes in, and what lies below its cutoff goes -/
def push (cutoff : α → α) (queue : List α) (x : α) : List α := (queue ++ [x]).dropWhile (· < cutoff x)

def pushes (cutoff : α → α) (xs : List α) : List α := xs.foldl (push cutoff) []

/-- the values that are below no cutoff of their own or of a later value -/
def live (cutoff : α → α) : List α → List α
  | [] => []
  | x :: xs => if ∀ u ∈ x :: xs, cutoff u ≤ x then x :: live cutoff xs else live cutoff xs

variable {cutoff : α → α}

theorem pushes_concat (xs : List α) (x : α) : pushes cutoff (xs ++ [x]) = push cutoff (pushes cutoff xs) x := by
  simp [pushes]

/-! ## Dropping is filtering -/

theorem dropWhile_lt_eq_filter {xs : List α} (h : xs.Pairwise (· ≤ ·)) (c : α) :
    xs.dropWhile (· < c) = xs.filter (c ≤ ·) := by
  induction xs with
  | nil => rfl
  | cons x xs ih =>
    obtain ⟨hx, hxs⟩ := List.pairwise_cons.1 h
    by_cases hc : x < c
    · rw [List.dropWhile_cons_of_pos (by simpa using hc), ih hxs, List.filter_cons_of_neg (by simpa using hc)]
    · have hall : ∀ y ∈ x :: xs, decide (c ≤ y) = true := by
        intro y hy
        have hxy : x ≤ y := by
          rcases List.mem_cons.1 hy with rfl | hmem
          · exact le_rfl
          · exact hx y hmem
        exact decide_eq_true ((not_lt.1 hc).trans hxy)
      rw [List.dropWhile_cons_of_neg (by simpa using hc), List.filter_eq_self.2 hall]

theorem live_sublist (xs : List α) : (live cutoff xs).Sublist xs := by
  induction xs with
  | nil => exact List.Sublist.refl _
  | cons x xs ih =>
    unfold live
    split_ifs
    · exact ih.cons_cons x
    · exact ih.cons x

theorem live_concat (xs : List α) (x : α) :
    live cutoff (xs ++ [x]) = (live cutoff xs ++ [x]).filter (cutoff x ≤ ·) := by
  induction xs with
  | nil => by_cases h : cutoff x ≤ x <;> simp [live, h]
  | cons y ys ih =>
    have hsplit : (∀ u ∈ y :: (ys ++ [x]), cutoff u ≤ y) ↔ (∀ u ∈ y :: ys, cutoff u ≤ y) ∧ cutoff x ≤ y := by
      simp only [List.mem_cons, List.mem_append, List.not_mem_nil, or_false]
      constructor
      · intro h
        exact ⟨fun u hu => h u (hu.imp_right Or.inl), h x (Or.inr (Or.inr rfl))⟩
      · rintro ⟨hys, hx⟩ u (rfl | hu | rfl)
        · exact hys u (Or.inl rfl)
        · exact hys u (Or.inr hu)
        · exact hx
    rw [List.cons_append, live, ih, live]
    by_cases hys : ∀ u ∈ y :: ys, cutoff u ≤ y
    · by_cases hx : cutoff x ≤ y
      · rw [if_pos (hsplit.2 ⟨hys, hx⟩), if_pos hys, List.cons_append, List.filter_cons_of_pos (by simpa using hx)]
      · rw [if_neg fun h => hx (hsplit.1 h).2, if_pos hys, List.cons_append, List.filter_cons_of_neg (by simpa using hx)]
    · rw [if_neg fun h => hys (hsplit.1 h).1, if_neg hys]

/-- **What sorted values leave** are those that no later cutoff passed. -/
theorem pushes_eq_live {xs : List α} (h : xs.Pairwise (· ≤ ·)) : pushes cutoff xs = live cutoff xs := by
  induction xs using List.reverseRecOn with
  | nil => rfl
  | append_singleton xs x ih =>
    have hsub : (live cutoff xs ++ [x]).Sublist (xs ++ [x]) := (live_sublist xs).append (List.Sublist.refl _)
    have hxs : xs.Pairwise (· ≤ ·) := h.sublist (List.sublist_append_left _ _)
    rw [pushes_concat, push, ih hxs, dropWhile_lt_eq_filter (h.sublist hsub), live_concat]

/-- with rising cutoffs, the last one alone decides -/
theorem live_concat_eq_filter {xs : List α} {x : α}
    (h : ((xs ++ [x]).map cutoff).Pairwise (· ≤ ·)) : live cutoff (xs ++ [x]) = (xs ++ [x]).filter (cutoff x ≤ ·) := by
  induction xs using List.reverseRecOn generalizing x with
  | nil => rw [live_concat]; rfl
  | append_singleton xs y ih =>
    have hpre : ((xs ++ [y]).map cutoff).Pairwise (· ≤ ·) :=
      h.sublist ((List.sublist_append_left (xs ++ [y]) [x]).map cutoff)
    have hyx : cutoff y ≤ cutoff x := by
      have hlast := (List.pairwise_append.1 (List.map_append ▸ h)).2.2
      exact hlast _ (List.mem_map_of_mem (by simp)) _ (by simp)
    have hdrop (z : α) : (decide (cutoff x ≤ z) && decide (cutoff y ≤ z)) = decide (cutoff x ≤ z) := by
      by_cases hz : cutoff x ≤ z
      · simp [hz, hyx.trans hz]
      · simp [hz]
    rw [live_concat, ih hpre, List.filter_append, List.filter_filter, List.filter_congr fun z _ => hdrop z,
      ← List.filter_append]

/-! ## Values out of order -/

theorem pushes_sublist (xs : List α) : (pushes cutoff xs).Sublist xs := by
  induction xs using List.reverseRecOn with
  | nil => exact List.Sublist.refl _
  | append_singleton xs x ih =>
    rw [pushes_concat, push]
    exact (List.dropWhile_sublist _).trans (ih.append (List.Sublist.refl _))

/-- dropping from the front leaves at least what lies from the cutoff on -/
theorem filter_sublist_dropWhile (xs : List α) (c : α) : (xs.filter (c ≤ ·)).Sublist (xs.dropWhile (· < c)) := by
  induction xs with
  | nil => exact List.Sublist.refl _
  | cons x xs ih =>
    by_cases hc : x < c
    · rw [List.dropWhile_cons_of_pos (by simpa using hc), List.filter_cons_of_neg (by simpa using hc)]
      exact ih
    · rw [List.dropWhile_cons_of_neg (by simpa using hc)]
      exact List.filter_sublist

/-- what lies below no cutoff stays -/
theorem filter_sublist_pushes {p : α → Bool} {xs : List α} (h : ∀ x ∈ xs, p x = true → ∀ u ∈ xs, cutoff u ≤ x) :
    (xs.filter p).Sublist (pushes cutoff xs) := by
  induction xs using List.reverseRecOn with
  | nil => exact List.Sublist.refl _
  | append_singleton xs x ih =>
    have hpre : (xs.filter p).Sublist (pushes cutoff xs) := ih fun y hy hp u hu =>
      h y (List.mem_append_left _ hy) hp u (List.mem_append_left _ hu)
    have hall : ∀ y ∈ (xs ++ [x]).filter p, decide (cutoff x ≤ y) = true := by
      intro y hy
      obtain ⟨hmem, hp⟩ := List.mem_filter.1 hy
      exact decide_eq_true (h y hmem hp x (by simp))
    have hsub : ((xs ++ [x]).filter p).Sublist (pushes cutoff xs ++ [x]) := by
      rw [List.filter_append]
      exact hpre.append List.filter_sublist
    rw [pushes_concat, push, ← List.filter_eq_self.2 hall]
    exact (hsub.filter _).trans (filter_sublist_dropWhile _ _)

/-- what is left of values that are sorted but for some slack -/
theorem cutoff_le_of_mem_pushes {cutoff : ℕ → ℕ} {xs : List ℕ} {slack x y : ℕ}
    (h : (xs ++ [y]).Pairwise fun a b => a ≤ b + slack) (hx : x ∈ pushes cutoff (xs ++ [y])) : cutoff y ≤ x + slack := by
  have hleft : (pushes cutoff (xs ++ [y])).Sublist (xs ++ [y]) := pushes_sublist _
  have hsorted := h.sublist hleft
  rw [pushes_concat, push] at hx hsorted
  -- the front was not dropped, and nothing is further below it than the slack
  cases hq : (pushes cutoff xs ++ [y]).dropWhile (· < cutoff y) with
  | nil =>
    rw [hq] at hx
    cases hx
  | cons front rest =>
    have hfront := List.head_dropWhile_not (fun u => decide (u < cutoff y)) (l := pushes cutoff xs ++ [y]) (by rw [hq]; simp)
    simp only [hq, List.head_cons, decide_eq_false_iff_not, not_lt] at hfront
    rw [hq] at hx hsorted
    rcases List.mem_cons.1 hx with rfl | hmem
    · exact hfront.trans (Nat.le_add_right _ _)
    · exact hfront.trans ((List.pairwise_cons.1 hsorted).1 x hmem)

/-! ## Values with gaps -/

/-- values of one window, with a gap between any two -/
theorem length_le_of_gap {xs : List ℕ} {gap t width : ℕ} (hgap : 0 < gap) (h : xs.Pairwise fun a b => a + gap ≤ b)
    (hin : ∀ x ∈ xs, t ≤ x ∧ x ≤ t + width) : xs.length ≤ width / gap + 1 := by
  induction xs generalizing t width with
  | nil => simp
  | cons x xs ih =>
    obtain ⟨hx, hxs⟩ := List.pairwise_cons.1 h
    obtain ⟨hlow, hhigh⟩ := hin x (by simp)
    cases xs with
    | nil => simp
    | cons y ys =>
      have hy : x + gap ≤ t + width := (hx y (by simp)).trans (hin y (by simp)).2
      have hrest : ∀ z ∈ y :: ys, x + gap ≤ z ∧ z ≤ x + gap + (t + width - (x + gap)) := by
        intro z hz
        have hxz := hx z hz
        have hz := (hin z (List.mem_cons_of_mem x hz)).2
        omega
      have hwidth : t + width - (x + gap) ≤ width - gap := by omega
      calc (x :: y :: ys).length = (y :: ys).length + 1 := List.length_cons
        _ ≤ (t + width - (x + gap)) / gap + 1 + 1 := Nat.add_le_add_right (ih hxs hrest) 1
        _ ≤ (width - gap) / gap + 1 + 1 :=
          Nat.add_le_add_right (Nat.add_le_add_right (Nat.div_le_div_right hwidth) 1) 1
        _ = width / gap + 1 := by rw [Nat.div_eq_sub_div hgap (show gap ≤ width by omega)]

theorem countP_le_of_gap {xs : List ℕ} {gap : ℕ} (hgap : 0 < gap) (h : xs.Pairwise fun a b => a + gap ≤ b)
    (t width : ℕ) : xs.countP (fun x => t ≤ x ∧ x ≤ t + width) ≤ width / gap + 1 := by
  rw [List.countP_eq_length_filter]
  exact length_le_of_gap hgap (h.sublist List.filter_sublist) fun x hx => by simpa using (List.mem_filter.1 hx).2

end N0wss.Window
