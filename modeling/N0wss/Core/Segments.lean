/-
A byte stream in the pieces it arrives in. A read takes what it asks for from the first piece, or the piece if that is
shorter; an exact read repeats until it has everything. No piece is empty, since a read of nothing is the end of the stream.

- `takeExact_of_le`, `takeExact_of_lt`: an exact read sees the bytes and not the pieces. It gives the first bytes and
  leaves the others, or fails, exactly when there are too few.
-/
import Mathlib.Tactic

namespace N0wss.Segments

variable {α : Type}

/-- what one read can deliver -/
structure Segment (α : Type) where
  items : List α
  nonempty : items ≠ []
deriving DecidableEq

/-- everything the pieces carry -/
def flatten (segments : List (Segment α)) : List α := segments.flatMap Segment.items

@[simp] theorem flatten_nil : flatten ([] : List (Segment α)) = [] := rfl

@[simp] theorem flatten_cons (s : Segment α) (segments : List (Segment α)) :
    flatten (s :: segments) = s.items ++ flatten segments := rfl

/-- the piece without its first items, of which it has more -/
def Segment.drop (s : Segment α) (n : ℕ) (h : n < s.items.length) : Segment α :=
  ⟨s.items.drop n, by simp [h]⟩

/-- `n` items, read after read, and what is left -/
def takeExact : ℕ → List (Segment α) → Option (List α × List (Segment α))
  | 0, segments => some ([], segments)
  | _ + 1, [] => none
  | n + 1, s :: segments =>
    if h : n + 1 < s.items.length then some (s.items.take (n + 1), s.drop (n + 1) h :: segments)
    else (takeExact (n + 1 - s.items.length) segments).map fun (items, rest) => (s.items ++ items, rest)

/-- **An exact read sees the bytes and not the pieces.** -/
theorem takeExact_of_le {n : ℕ} {segments : List (Segment α)} (h : n ≤ (flatten segments).length) :
    ∃ rest, takeExact n segments = some ((flatten segments).take n, rest) ∧ flatten rest = (flatten segments).drop n := by
  induction segments generalizing n with
  | nil =>
    obtain rfl : n = 0 := by simpa using h
    exact ⟨[], rfl, rfl⟩
  | cons s segments ih =>
    cases n with
    | zero => exact ⟨s :: segments, rfl, rfl⟩
    | succ n =>
      rw [flatten_cons, List.length_append] at h
      unfold takeExact
      split_ifs with hpiece
      · refine ⟨_, by rw [flatten_cons, List.take_append_of_le_length hpiece.le], ?_⟩
        rw [flatten_cons, flatten_cons, List.drop_append_of_le_length hpiece.le]
        rfl
      · obtain ⟨rest, htake, hrest⟩ := ih (n := n + 1 - s.items.length) (by omega)
        refine ⟨rest, ?_, ?_⟩
        · rw [htake, Option.map_some, flatten_cons, List.take_append, List.take_of_length_le (not_lt.1 hpiece)]
        · rw [hrest, flatten_cons, List.drop_append, List.drop_of_length_le (not_lt.1 hpiece), List.nil_append]

/-- and it fails when there are too few -/
theorem takeExact_of_lt {n : ℕ} {segments : List (Segment α)} (h : (flatten segments).length < n) :
    takeExact n segments = none := by
  induction segments generalizing n with
  | nil =>
    cases n with
    | zero => simp at h
    | succ n => rfl
  | cons s segments ih =>
    rw [flatten_cons, List.length_append] at h
    cases n with
    | zero => omega
    | succ n =>
      unfold takeExact
      rw [dif_neg (by omega), ih (by omega), Option.map_none]

end N0wss.Segments
