/-
Text operations of the standard library on the characters of a string: Unicode white space and `trim`, `splitn` at a
character, and decimal numbers.

- `trim_eq_nil_iff`: trimming leaves nothing exactly when every character is white space.
- `splitn_append_cons`: where the first separator cuts.
- `stripPrefix_append`: a prefix comes off.
- `parseUnsigned_decimal`: a decimal print parses back to its number, whatever the width.
- `parseUnsigned_of_mem`: a text that holds a character which is neither a digit nor `+` parses to nothing.
-/
import Mathlib.Tactic
import Mathlib.Data.List.TakeWhile

namespace N0wss.Text

/-! ## White space -/

/-- `char::is_whitespace`: the Unicode property White_Space -/
def isWhitespace (c : Char) : Bool :=
  (9 ≤ c.toNat && c.toNat ≤ 13) || c.toNat == 0x20 || c.toNat == 0x85 || c.toNat == 0xA0 || c.toNat == 0x1680 ||
    (0x2000 ≤ c.toNat && c.toNat ≤ 0x200A) || c.toNat == 0x2028 || c.toNat == 0x2029 || c.toNat == 0x202F ||
    c.toNat == 0x205F || c.toNat == 0x3000

/-- `str::trim` -/
def trim (cs : List Char) : List Char := ((cs.dropWhile isWhitespace).reverse.dropWhile isWhitespace).reverse

theorem trim_eq_nil_iff {cs : List Char} : trim cs = [] ↔ ∀ c ∈ cs, isWhitespace c = true := by
  simp only [trim, List.reverse_eq_nil_iff, List.dropWhile_eq_nil_iff, List.mem_reverse]
  constructor
  · intro h c hc
    rw [← List.takeWhile_append_dropWhile (p := isWhitespace) (l := cs)] at hc
    rcases List.mem_append.1 hc with hc | hc
    · exact List.mem_takeWhile_imp hc
    · exact h c hc
  · intro h c hc
    exact h c ((List.dropWhile_sublist _).subset hc)

/-! ## `splitn` -/

/-- `str::splitn(n, sep)`, collected: at most `n` parts, the last one holding whatever is left -/
def splitn (sep : Char) : ℕ → List Char → List (List Char)
  | 0, _ => []
  | 1, cs => [cs]
  | n + 2, cs =>
    match cs.span (· != sep) with
    | (part, []) => [part]
    | (part, _ :: rest) => part :: splitn sep (n + 1) rest

theorem splitn_append_cons {sep : Char} {part : List Char} (h : sep ∉ part) (rest : List Char) (n : ℕ) :
    splitn sep (n + 2) (part ++ sep :: rest) = part :: splitn sep (n + 1) rest := by
  have hall : ∀ c ∈ part, (c != sep) = true := fun c hc => by
    simp only [bne_iff_ne, ne_eq]; rintro rfl; exact h hc
  have ht : (part ++ sep :: rest).takeWhile (· != sep) = part := by
    rw [List.takeWhile_append_of_pos hall]; simp
  have hd : (part ++ sep :: rest).dropWhile (· != sep) = sep :: rest := by
    rw [List.dropWhile_append_of_pos hall]; simp
  simp [splitn, List.span_eq_takeWhile_dropWhile, ht, hd]

/-- a character that is no separator is in some part -/
theorem exists_mem_splitn {sep c : Char} (hsep : c ≠ sep) {n : ℕ} {cs : List Char} (h : c ∈ cs) :
    ∃ part ∈ splitn sep (n + 1) cs, c ∈ part := by
  induction n generalizing cs with
  | zero => exact ⟨cs, List.mem_singleton_self _, h⟩
  | succ n ih =>
    by_cases hmem : sep ∈ cs
    · obtain ⟨part, rest, hcs, hn⟩ := List.eq_append_cons_of_mem hmem
      rw [hcs, splitn_append_cons hn]
      rw [hcs, List.mem_append, List.mem_cons] at h
      rcases h with h | rfl | h
      · exact ⟨part, List.mem_cons_self, h⟩
      · exact absurd rfl hsep
      · obtain ⟨p, hp, hc⟩ := ih h
        exact ⟨p, List.mem_cons_of_mem _ hp, hc⟩
    · have hall : ∀ d ∈ cs, (d != sep) = true := fun d hd => by
        simp only [bne_iff_ne, ne_eq]; rintro rfl; exact hmem hd
      have htake : cs.takeWhile (· != sep) = cs := List.takeWhile_eq_self_iff.2 hall
      have hdrop : cs.dropWhile (· != sep) = [] := List.dropWhile_eq_nil_iff.2 hall
      exact ⟨cs, by simp [splitn, List.span_eq_takeWhile_dropWhile, htake, hdrop], h⟩

/-- a text that holds the separator is cut at its first occurrence -/
theorem exists_first {sep : Char} {cs : List Char} (h : sep ∈ cs) :
    ∃ part rest, sep ∉ part ∧ cs = part ++ sep :: rest := by
  obtain ⟨part, rest, hcs, hn⟩ := List.eq_append_cons_of_mem h
  exact ⟨part, rest, hn, hcs⟩

/-! ## Prefixes -/

/-- `str::strip_prefix` -/
def stripPrefix (front cs : List Char) : Option (List Char) :=
  if front <+: cs then some (cs.drop front.length) else none

theorem stripPrefix_append (front rest : List Char) : stripPrefix front (front ++ rest) = some rest := by
  rw [stripPrefix, if_pos (List.prefix_append front rest), List.drop_left]

theorem stripPrefix_of_not_prefix {front cs : List Char} (h : ¬front <+: cs) : stripPrefix front cs = none := if_neg h

/-! ## Decimal numbers -/

def stripPlus : List Char → List Char
  | '+' :: rest => rest
  | cs => cs

/-- `from_str` of an unsigned integer type with the given maximum: an optional `+`, then digits -/
def parseUnsigned (max : ℕ) (cs : List Char) : Option ℕ :=
  if stripPlus cs = [] ∨ (stripPlus cs).any (fun c => !c.isDigit) then none
  else if Nat.ofDigitChars 10 (stripPlus cs) 0 ≤ max then some (Nat.ofDigitChars 10 (stripPlus cs) 0) else none

/-- the characters of the decimal print of a number (`to_string`) -/
def decimal (n : ℕ) : List Char := Nat.toDigits 10 n

theorem isDigit_of_mem_decimal {n : ℕ} {c : Char} (h : c ∈ decimal n) : c.isDigit = true :=
  Nat.isDigit_of_mem_toDigits (by decide) (by decide) h

theorem decimal_ne_nil (n : ℕ) : decimal n ≠ [] := Nat.toDigits_ne_nil

theorem notMem_decimal {c : Char} (hc : c.isDigit = false) (n : ℕ) : c ∉ decimal n := fun h => by
  rw [isDigit_of_mem_decimal h] at hc; exact absurd hc (by decide)

theorem isWhitespace_of_isDigit {c : Char} (h : c.isDigit = true) : isWhitespace c = false := by
  have hrange : 48 ≤ c.toNat ∧ c.toNat ≤ 57 := by
    simp only [Char.isDigit, Bool.and_eq_true, decide_eq_true_eq, ge_iff_le, UInt32.le_iff_toNat_le] at h
    exact h
  simp only [isWhitespace, Bool.or_eq_false_iff, Bool.and_eq_false_iff, decide_eq_false_iff_not, beq_eq_false_iff_ne]
  omega

theorem trim_decimal_ne_nil (n : ℕ) : trim (decimal n) ≠ [] := by
  intro htrim
  obtain ⟨c, hc⟩ := List.exists_mem_of_ne_nil _ (decimal_ne_nil n)
  have hblank := trim_eq_nil_iff.1 htrim c hc
  rw [isWhitespace_of_isDigit (isDigit_of_mem_decimal hc)] at hblank
  cases hblank

theorem stripPlus_of_digits {cs : List Char} (hd : ∀ c ∈ cs, c.isDigit = true) : stripPlus cs = cs := by
  unfold stripPlus
  split
  · -- a leading `+` is no digit
    exact absurd (hd '+' List.mem_cons_self) (by decide)
  · rfl

theorem mem_stripPlus {cs : List Char} {c : Char} (hmem : c ∈ cs) (hplus : c ≠ '+') : c ∈ stripPlus cs := by
  unfold stripPlus
  split
  · exact (List.mem_cons.1 hmem).resolve_left hplus
  · exact hmem

theorem parseUnsigned_of_digits {max : ℕ} {cs : List Char} (hne : cs ≠ []) (hd : ∀ c ∈ cs, c.isDigit = true)
    (hle : Nat.ofDigitChars 10 cs 0 ≤ max) : parseUnsigned max cs = some (Nat.ofDigitChars 10 cs 0) := by
  have hany : ¬(cs = [] ∨ cs.any (fun c => !c.isDigit) = true) := by
    simpa [hne] using hd
  rw [parseUnsigned, stripPlus_of_digits hd, if_neg hany, if_pos hle]

theorem parseUnsigned_decimal {n max : ℕ} (h : n ≤ max) : parseUnsigned max (decimal n) = some n := by
  have hval : Nat.ofDigitChars 10 (decimal n) 0 = n := Nat.ofDigitChars_ten_toDigits
  rw [parseUnsigned_of_digits (decimal_ne_nil n) (fun c hc => isDigit_of_mem_decimal hc) (by rw [hval]; exact h), hval]

theorem parseUnsigned_of_mem {max : ℕ} {cs : List Char} {c : Char} (hmem : c ∈ cs) (hplus : c ≠ '+')
    (hc : c.isDigit = false) : parseUnsigned max cs = none := by
  have hany : (stripPlus cs).any (fun c => !c.isDigit) = true :=
    List.any_eq_true.2 ⟨c, mem_stripPlus hmem hplus, by simp [hc]⟩
  rw [parseUnsigned, if_pos (Or.inr hany)]

end N0wss.Text
