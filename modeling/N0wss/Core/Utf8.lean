/-
UTF-8 as the standard library reads it: strict (`from_utf8`) and lossy (`from_utf8_lossy`), over lists of bytes.

Both readers share one scanner. It cuts the bytes into characters and bad parts, a bad part being the longest prefix of
a well-formed sequence that the bytes do not continue (one byte where there is none), so that each is one replacement
character in the lossy reading.

- `scan_encodeChar`, `scan_sound`: the scanner finds an encoded character, and finds nothing else.
- `fromUtf8_eq_some_iff`: the strict reading accepts exactly the encodings, and inverts them.
- `lossy_encode`, `encode_lossy`: the lossy reading inverts encoding, and bytes it reads without a replacement
  character are the encoding of what it read.
- `lossy_eq_iff`: for a text without U+FFFD, exactly one byte string reads as that text.
- `exists_lossy_collision`: for a text with U+FFFD, some other byte string reads as it too.
-/
import Mathlib.Tactic

namespace N0wss.Utf8

/-! ## Encoding -/

/-- the UTF-8 bytes of a text -/
def encode (cs : List Char) : List UInt8 := cs.flatMap String.utf8EncodeChar

@[simp] theorem encode_nil : encode [] = [] := rfl

@[simp] theorem encode_cons (c : Char) (cs : List Char) : encode (c :: cs) = String.utf8EncodeChar c ++ encode cs := rfl

@[simp] theorem encode_append (a b : List Char) : encode (a ++ b) = encode a ++ encode b := by
  simp [encode, List.flatMap_append]

theorem length_encode_le (cs : List Char) : (encode cs).length ≤ 4 * cs.length := by
  induction cs with
  | nil => simp
  | cons c cs ih =>
    have hc : (String.utf8EncodeChar c).length ≤ 4 := by
      rw [String.length_utf8EncodeChar]; exact Char.utf8Size_le_four c
    simp only [encode_cons, List.length_append, List.length_cons]
    omega

/-! ## The scanner -/

/-- U+FFFD -/
def replacement : Char := '\uFFFD'

def isCont (b : UInt8) : Prop := 0x80 ≤ b.toNat ∧ b.toNat ≤ 0xBF

/-- the second bytes of a three-byte sequence: no overlong form, no surrogate -/
def IsSecond3 (b0 b1 : UInt8) : Prop :=
  isCont b1 ∧ (b0.toNat = 0xE0 → 0xA0 ≤ b1.toNat) ∧ (b0.toNat = 0xED → b1.toNat ≤ 0x9F)

/-- the second bytes of a four-byte sequence: no overlong form, nothing above U+10FFFF -/
def IsSecond4 (b0 b1 : UInt8) : Prop :=
  isCont b1 ∧ (b0.toNat = 0xF0 → 0x90 ≤ b1.toNat) ∧ (b0.toNat = 0xF4 → b1.toNat ≤ 0x8F)

instance (b : UInt8) : Decidable (isCont b) := by unfold isCont; infer_instance
instance (b0 b1 : UInt8) : Decidable (IsSecond3 b0 b1) := by unfold IsSecond3; infer_instance
instance (b0 b1 : UInt8) : Decidable (IsSecond4 b0 b1) := by unfold IsSecond4; infer_instance

def char2 (b0 b1 : UInt8) : Char := Char.ofNat ((b0.toNat - 0xC0) * 64 + (b1.toNat - 0x80))

def char3 (b0 b1 b2 : UInt8) : Char :=
  Char.ofNat ((b0.toNat - 0xE0) * 4096 + (b1.toNat - 0x80) * 64 + (b2.toNat - 0x80))

def char4 (b0 b1 b2 b3 : UInt8) : Char :=
  Char.ofNat ((b0.toNat - 0xF0) * 262144 + (b1.toNat - 0x80) * 4096 + (b2.toNat - 0x80) * 64 + (b3.toNat - 0x80))

/-- the last byte of a sequence -/
def scanLast (finish : UInt8 → Char) : List UInt8 → Option Char × List UInt8
  | b :: rest => if isCont b then (some (finish b), rest) else (none, b :: rest)
  | [] => (none, [])

/-- a four-byte sequence from its third byte on -/
def scanThird (b0 b1 : UInt8) : List UInt8 → Option Char × List UInt8
  | b2 :: bs => if isCont b2 then scanLast (char4 b0 b1 b2) bs else (none, b2 :: bs)
  | [] => (none, [])

def scanTail3 (b0 : UInt8) : List UInt8 → Option Char × List UInt8
  | b1 :: bs => if IsSecond3 b0 b1 then scanLast (char3 b0 b1) bs else (none, b1 :: bs)
  | [] => (none, [])

def scanTail4 (b0 : UInt8) : List UInt8 → Option Char × List UInt8
  | b1 :: bs => if IsSecond4 b0 b1 then scanThird b0 b1 bs else (none, b1 :: bs)
  | [] => (none, [])

/-- read one character, or skip one bad part: what follows the first byte is consumed as far as it continues a
well-formed sequence -/
def scan (b0 : UInt8) (bs : List UInt8) : Option Char × List UInt8 :=
  if b0.toNat ≤ 0x7F then (some (Char.ofNat b0.toNat), bs)
  else if 0xC2 ≤ b0.toNat ∧ b0.toNat ≤ 0xDF then scanLast (char2 b0) bs
  else if 0xE0 ≤ b0.toNat ∧ b0.toNat ≤ 0xEF then scanTail3 b0 bs
  else if 0xF0 ≤ b0.toNat ∧ b0.toNat ≤ 0xF4 then scanTail4 b0 bs
  else (none, bs)

theorem scanLast_of_cont {finish : UInt8 → Char} {b : UInt8} (h : isCont b) (rest : List UInt8) :
    scanLast finish (b :: rest) = (some (finish b), rest) := if_pos h

theorem scanLast_sound {finish : UInt8 → Char} {bs rest : List UInt8} {c : Char}
    (h : scanLast finish bs = (some c, rest)) : ∃ b, isCont b ∧ c = finish b ∧ bs = b :: rest := by
  cases bs with
  | nil => simp [scanLast] at h
  | cons b bs =>
    by_cases hb : isCont b
    · rw [scanLast_of_cont hb] at h
      obtain ⟨rfl, rfl⟩ : finish b = c ∧ bs = rest := by simpa using h
      exact ⟨b, hb, rfl, rfl⟩
    · simp [scanLast, hb] at h

theorem scanLast_length (finish : UInt8 → Char) (bs : List UInt8) : (scanLast finish bs).2.length ≤ bs.length := by
  cases bs with
  | nil => simp [scanLast]
  | cons b bs => simp only [scanLast]; split_ifs <;> simp

theorem scanThird_length (b0 b1 : UInt8) (bs : List UInt8) : (scanThird b0 b1 bs).2.length ≤ bs.length := by
  cases bs with
  | nil => simp [scanThird]
  | cons b2 bs =>
    have := scanLast_length (char4 b0 b1 b2) bs
    simp only [scanThird]
    split_ifs <;> simp only [List.length_cons] <;> omega

/-- what the scanner leaves is part of what it was given -/
theorem scan_length (b0 : UInt8) (bs : List UInt8) : (scan b0 bs).2.length ≤ bs.length := by
  unfold scan
  split_ifs with h1 h2 h3 h4
  · exact le_rfl
  · exact scanLast_length _ _
  · cases bs with
    | nil => simp [scanTail3]
    | cons b1 bs =>
      have := scanLast_length (char3 b0 b1) bs
      simp only [scanTail3]
      split_ifs <;> simp only [List.length_cons] <;> omega
  · cases bs with
    | nil => simp [scanTail4]
    | cons b1 bs =>
      have := scanThird_length b0 b1 bs
      simp only [scanTail4]
      split_ifs <;> simp only [List.length_cons] <;> omega
  · exact le_rfl

/-! ## One character -/

theorem toNat_ofNat_of_lt {n : ℕ} (h : n < 256) : (UInt8.ofNat n).toNat = n := by
  rw [UInt8.toNat_ofNat']; exact Nat.mod_eq_of_lt h

/-- code points are below 0x110000 and no surrogates -/
theorem char_bounds (c : Char) : c.toNat < 0xD800 ∨ 0xDFFF < c.toNat ∧ c.toNat < 0x110000 := c.valid

theorem toNat_ofNat {n : ℕ} (h : n < 0xD800 ∨ 0xDFFF < n ∧ n < 0x110000) : (Char.ofNat n).toNat = n := by
  rw [Char.ofNat, dif_pos h]; rfl

theorem ofNat_eq_of_toNat {c : Char} {n : ℕ} (h : n = c.toNat) : Char.ofNat n = c := by
  rw [h, Char.ofNat_toNat]

theorem ofNat_eq_byte {b : UInt8} {n : ℕ} (h : n = b.toNat) : UInt8.ofNat n = b := by
  rw [h, UInt8.ofNat_toNat]

theorem encodeChar_one {c : Char} (h : c.toNat ≤ 0x7F) : String.utf8EncodeChar c = [UInt8.ofNat c.toNat] := by
  have hval : c.val.toNat = c.toNat := rfl
  simp [String.utf8EncodeChar, hval, h]

theorem encodeChar_two {c : Char} (h1 : 0x7F < c.toNat) (h2 : c.toNat ≤ 0x7FF) :
    String.utf8EncodeChar c =
      [UInt8.ofNat (c.toNat / 64 % 0x20 + 0xC0), UInt8.ofNat (c.toNat % 0x40 + 0x80)] := by
  have hval : c.val.toNat = c.toNat := rfl
  simp [String.utf8EncodeChar, hval, not_le.2 h1, h2]

theorem encodeChar_three {c : Char} (h2 : 0x7FF < c.toNat) (h3 : c.toNat ≤ 0xFFFF) :
    String.utf8EncodeChar c =
      [UInt8.ofNat (c.toNat / 4096 % 0x10 + 0xE0), UInt8.ofNat (c.toNat / 64 % 0x40 + 0x80),
        UInt8.ofNat (c.toNat % 0x40 + 0x80)] := by
  have hval : c.val.toNat = c.toNat := rfl
  have h1 : ¬c.toNat ≤ 0x7F := by omega
  simp [String.utf8EncodeChar, hval, h1, not_le.2 h2, h3]

theorem encodeChar_four {c : Char} (h3 : 0xFFFF < c.toNat) :
    String.utf8EncodeChar c =
      [UInt8.ofNat (c.toNat / 262144 % 0x08 + 0xF0), UInt8.ofNat (c.toNat / 4096 % 0x40 + 0x80),
        UInt8.ofNat (c.toNat / 64 % 0x40 + 0x80), UInt8.ofNat (c.toNat % 0x40 + 0x80)] := by
  have hval : c.val.toNat = c.toNat := rfl
  have h1 : ¬c.toNat ≤ 0x7F := by omega
  have h2 : ¬c.toNat ≤ 0x7FF := by omega
  simp [String.utf8EncodeChar, hval, h1, h2, not_le.2 h3]

/-- the scanner finds an encoded character -/
theorem scan_encodeChar (c : Char) (rest : List UInt8) :
    ∃ b0 bs, String.utf8EncodeChar c = b0 :: bs ∧ scan b0 (bs ++ rest) = (some c, rest) := by
  have hc := char_bounds c
  by_cases h1 : c.toNat ≤ 0x7F
  · have h0 : (UInt8.ofNat c.toNat).toNat = c.toNat := toNat_ofNat_of_lt (by omega)
    refine ⟨_, _, encodeChar_one h1, ?_⟩
    rw [scan, if_pos (by omega), ofNat_eq_of_toNat h0]
    rfl
  by_cases h2 : c.toNat ≤ 0x7FF
  · have hb0 : (UInt8.ofNat (c.toNat / 64 % 0x20 + 0xC0)).toNat = c.toNat / 64 % 0x20 + 0xC0 :=
      toNat_ofNat_of_lt (by omega)
    have hb1 : (UInt8.ofNat (c.toNat % 0x40 + 0x80)).toNat = c.toNat % 0x40 + 0x80 := toNat_ofNat_of_lt (by omega)
    refine ⟨_, _, encodeChar_two (by omega) h2, ?_⟩
    rw [scan, if_neg (by omega), if_pos (by omega), List.cons_append, List.nil_append,
      scanLast_of_cont ⟨by omega, by omega⟩, char2, ofNat_eq_of_toNat (c := c) (by omega)]
  by_cases h3 : c.toNat ≤ 0xFFFF
  · refine ⟨_, _, encodeChar_three (by omega) h3, ?_⟩
    set b0 := UInt8.ofNat (c.toNat / 4096 % 0x10 + 0xE0)
    set b1 := UInt8.ofNat (c.toNat / 64 % 0x40 + 0x80)
    set b2 := UInt8.ofNat (c.toNat % 0x40 + 0x80)
    have hb0 : b0.toNat = c.toNat / 4096 % 0x10 + 0xE0 := toNat_ofNat_of_lt (by omega)
    have hb1 : b1.toNat = c.toNat / 64 % 0x40 + 0x80 := toNat_ofNat_of_lt (by omega)
    have hb2 : b2.toNat = c.toNat % 0x40 + 0x80 := toNat_ofNat_of_lt (by omega)
    have hsecond : IsSecond3 b0 b1 := ⟨⟨by omega, by omega⟩, by omega, by omega⟩
    rw [scan, if_neg (by omega), if_neg (by omega), if_pos (by omega)]
    simp only [List.cons_append, List.nil_append, scanTail3, if_pos hsecond]
    rw [scanLast_of_cont ⟨by omega, by omega⟩, char3, ofNat_eq_of_toNat (c := c) (by omega)]
  · refine ⟨_, _, encodeChar_four (by omega), ?_⟩
    set b0 := UInt8.ofNat (c.toNat / 262144 % 0x08 + 0xF0)
    set b1 := UInt8.ofNat (c.toNat / 4096 % 0x40 + 0x80)
    set b2 := UInt8.ofNat (c.toNat / 64 % 0x40 + 0x80)
    set b3 := UInt8.ofNat (c.toNat % 0x40 + 0x80)
    have hb0 : b0.toNat = c.toNat / 262144 % 0x08 + 0xF0 := toNat_ofNat_of_lt (by omega)
    have hb1 : b1.toNat = c.toNat / 4096 % 0x40 + 0x80 := toNat_ofNat_of_lt (by omega)
    have hb2 : b2.toNat = c.toNat / 64 % 0x40 + 0x80 := toNat_ofNat_of_lt (by omega)
    have hb3 : b3.toNat = c.toNat % 0x40 + 0x80 := toNat_ofNat_of_lt (by omega)
    have hsecond : IsSecond4 b0 b1 := ⟨⟨by omega, by omega⟩, by omega, by omega⟩
    have hthird : isCont b2 := ⟨by omega, by omega⟩
    rw [scan, if_neg (by omega), if_neg (by omega), if_neg (by omega), if_pos (by omega)]
    simp only [List.cons_append, List.nil_append, scanTail4, scanThird, if_pos hsecond, if_pos hthird]
    rw [scanLast_of_cont ⟨by omega, by omega⟩, char4, ofNat_eq_of_toNat (c := c) (by omega)]

theorem scanTail3_sound {b0 : UInt8} {bs rest : List UInt8} {c : Char} (h0 : 0xE0 ≤ b0.toNat ∧ b0.toNat ≤ 0xEF)
    (h : scanTail3 b0 bs = (some c, rest)) : b0 :: bs = String.utf8EncodeChar c ++ rest := by
  cases bs with
  | nil => simp [scanTail3] at h
  | cons b1 bs =>
    by_cases hs : IsSecond3 b0 b1
    · rw [scanTail3, if_pos hs] at h
      obtain ⟨⟨hlo, hhi⟩, hE0, hED⟩ := hs
      obtain ⟨b2, ⟨hlo2, hhi2⟩, hc, hbs⟩ := scanLast_sound h
      have hv : (char3 b0 b1 b2).toNat = (b0.toNat - 0xE0) * 4096 + (b1.toNat - 0x80) * 64 + (b2.toNat - 0x80) := by
        rw [char3]; exact toNat_ofNat (by omega)
      rw [hbs, hc, encodeChar_three (by omega) (by omega), hv, ofNat_eq_byte (b := b0) (by omega),
        ofNat_eq_byte (b := b1) (by omega), ofNat_eq_byte (b := b2) (by omega)]
      rfl
    · simp [scanTail3, hs] at h

theorem scanTail4_sound {b0 : UInt8} {bs rest : List UInt8} {c : Char} (h0 : 0xF0 ≤ b0.toNat ∧ b0.toNat ≤ 0xF4)
    (h : scanTail4 b0 bs = (some c, rest)) : b0 :: bs = String.utf8EncodeChar c ++ rest := by
  cases bs with
  | nil => simp [scanTail4] at h
  | cons b1 bs =>
    by_cases hs : IsSecond4 b0 b1
    · rw [scanTail4, if_pos hs] at h
      obtain ⟨⟨hlo, hhi⟩, hF0, hF4⟩ := hs
      cases bs with
      | nil => simp [scanThird] at h
      | cons b2 bs =>
        by_cases h2 : isCont b2
        · rw [scanThird, if_pos h2] at h
          obtain ⟨hlo2, hhi2⟩ := h2
          obtain ⟨b3, ⟨hlo3, hhi3⟩, hc, hbs⟩ := scanLast_sound h
          have hv : (char4 b0 b1 b2 b3).toNat = (b0.toNat - 0xF0) * 262144 + (b1.toNat - 0x80) * 4096 +
              (b2.toNat - 0x80) * 64 + (b3.toNat - 0x80) := by
            rw [char4]; exact toNat_ofNat (by omega)
          rw [hbs, hc, encodeChar_four (by omega), hv, ofNat_eq_byte (b := b0) (by omega),
            ofNat_eq_byte (b := b1) (by omega), ofNat_eq_byte (b := b2) (by omega), ofNat_eq_byte (b := b3) (by omega)]
          rfl
        · simp [scanThird, h2] at h
    · simp [scanTail4, hs] at h

/-- the scanner finds nothing else -/
theorem scan_sound {b0 : UInt8} {bs rest : List UInt8} {c : Char} (h : scan b0 bs = (some c, rest)) :
    b0 :: bs = String.utf8EncodeChar c ++ rest := by
  unfold scan at h
  split_ifs at h with h1 h2 h3 h4
  · obtain ⟨rfl, rfl⟩ : Char.ofNat b0.toNat = c ∧ bs = rest := by simpa using h
    have hv : (Char.ofNat b0.toNat).toNat = b0.toNat := toNat_ofNat (by omega)
    rw [encodeChar_one (by omega), hv, UInt8.ofNat_toNat]
    rfl
  · obtain ⟨b1, ⟨hlo, hhi⟩, hc, hbs⟩ := scanLast_sound h
    have hv : (char2 b0 b1).toNat = (b0.toNat - 0xC0) * 64 + (b1.toNat - 0x80) := by
      rw [char2]; exact toNat_ofNat (by omega)
    rw [hbs, hc, encodeChar_two (by omega) (by omega), hv, ofNat_eq_byte (b := b0) (by omega),
      ofNat_eq_byte (b := b1) (by omega)]
    rfl
  · exact scanTail3_sound h3 h
  · exact scanTail4_sound h4 h
  · simp at h

/-! ## Whole byte strings -/

/-- the characters and bad parts (`none`) of a byte string, with at most `fuel` of them -/
def chunksUpTo : ℕ → List UInt8 → List (Option Char)
  | 0, _ => []
  | _ + 1, [] => []
  | fuel + 1, b :: bs => (scan b bs).1 :: chunksUpTo fuel (scan b bs).2

/-- the characters and bad parts of a byte string: there are no more of them than bytes -/
def chunks (bs : List UInt8) : List (Option Char) := chunksUpTo bs.length bs

/-- `String::from_utf8` -/
def fromUtf8 (bs : List UInt8) : Option (List Char) := (chunks bs).mapM id

/-- `String::from_utf8_lossy` -/
def lossy (bs : List UInt8) : List Char := (chunks bs).map (·.getD replacement)

theorem chunksUpTo_of_le {fuel : ℕ} {bs : List UInt8} (h : bs.length ≤ fuel) : chunksUpTo fuel bs = chunks bs := by
  have main : ∀ (n : ℕ) (bs : List UInt8) (f f' : ℕ), bs.length ≤ n → bs.length ≤ f → bs.length ≤ f' →
      chunksUpTo f bs = chunksUpTo f' bs := by
    intro n
    induction n with
    | zero =>
      intro bs f f' hn _ _
      obtain rfl := List.length_eq_zero_iff.1 (Nat.le_zero.1 hn)
      cases f <;> cases f' <;> rfl
    | succ n ih =>
      intro bs f f' hn hf hf'
      cases bs with
      | nil => cases f <;> cases f' <;> rfl
      | cons b bs =>
        have hlen := scan_length b bs
        simp only [List.length_cons] at hn hf hf'
        obtain ⟨f, rfl⟩ : ∃ k, f = k + 1 := ⟨f - 1, by omega⟩
        obtain ⟨f', rfl⟩ : ∃ k, f' = k + 1 := ⟨f' - 1, by omega⟩
        simp only [chunksUpTo, ih _ f f' (by omega : (scan b bs).2.length ≤ n) (by omega) (by omega)]
  exact main bs.length bs fuel bs.length le_rfl h le_rfl

@[simp] theorem chunks_nil : chunks [] = [] := rfl

theorem chunks_cons (b : UInt8) (bs : List UInt8) : chunks (b :: bs) = (scan b bs).1 :: chunks (scan b bs).2 := by
  rw [chunks, List.length_cons, chunksUpTo, chunksUpTo_of_le (scan_length b bs)]

/-- encoded characters are found one by one -/
theorem chunks_encode_append (cs : List Char) (rest : List UInt8) :
    chunks (encode cs ++ rest) = cs.map some ++ chunks rest := by
  induction cs with
  | nil => rfl
  | cons c cs ih =>
    obtain ⟨b0, bs, henc, hscan⟩ := scan_encodeChar c (encode cs ++ rest)
    rw [encode_cons, henc, List.append_assoc, List.cons_append, chunks_cons, hscan]
    simp [ih]

theorem chunks_encode (cs : List Char) : chunks (encode cs) = cs.map some := by
  simpa using chunks_encode_append cs []

/-- bytes without a bad part are the encoding of their characters -/
theorem eq_encode_of_chunks {bs : List UInt8} {cs : List Char} (h : chunks bs = cs.map some) : bs = encode cs := by
  induction cs generalizing bs with
  | nil =>
    cases bs with
    | nil => rfl
    | cons b bs => rw [chunks_cons] at h; simp at h
  | cons c cs ih =>
    cases bs with
    | nil => simp at h
    | cons b bs =>
      rw [chunks_cons, List.map_cons, List.cons.injEq] at h
      obtain ⟨hc, hrest⟩ := h
      rw [scan_sound (Prod.ext hc rfl : scan b bs = (some c, (scan b bs).2)), ih hrest, encode_cons]

/-! ## The strict reading -/

theorem mapM_id_eq_some_iff {l : List (Option Char)} {cs : List Char} : l.mapM id = some cs ↔ l = cs.map some := by
  induction l generalizing cs with
  | nil => cases cs <;> simp
  | cons o l ih =>
    rw [List.mapM_cons]
    cases o with
    | none => cases cs <;> simp
    | some a => cases cs <;> simp [Option.bind_eq_some_iff, ih, and_comm]

/-- **The strict reading.** It accepts exactly the encodings, and inverts them. -/
theorem fromUtf8_eq_some_iff {bs : List UInt8} {cs : List Char} : fromUtf8 bs = some cs ↔ bs = encode cs := by
  rw [fromUtf8, mapM_id_eq_some_iff]
  constructor
  · exact eq_encode_of_chunks
  · rintro rfl; exact chunks_encode cs

theorem fromUtf8_encode (cs : List Char) : fromUtf8 (encode cs) = some cs := fromUtf8_eq_some_iff.2 rfl

/-- different texts have different bytes -/
theorem encode_injective {a b : List Char} (h : encode a = encode b) : a = b := by
  have ha := fromUtf8_encode a
  rw [h, fromUtf8_encode] at ha
  exact (Option.some.inj ha).symm

/-! ## The lossy reading -/

@[simp] theorem lossy_nil : lossy [] = [] := rfl

theorem lossy_encode_append (cs : List Char) (rest : List UInt8) :
    lossy (encode cs ++ rest) = cs ++ lossy rest := by
  simp [lossy, chunks_encode_append]

theorem lossy_encode (cs : List Char) : lossy (encode cs) = cs := by
  simpa using lossy_encode_append cs []

/-- bytes read without a replacement character are the encoding of what was read -/
theorem encode_lossy {bs : List UInt8} (h : replacement ∉ lossy bs) : encode (lossy bs) = bs := by
  refine (eq_encode_of_chunks ?_).symm
  have hall : ∀ o ∈ chunks bs, some (o.getD replacement) = o := by
    intro o ho
    cases o with
    | some c => rfl
    | none => exact absurd (List.mem_map.2 ⟨none, ho, rfl⟩) h
  rw [lossy, List.map_map]
  conv_lhs => rw [← List.map_id (chunks bs)]
  exact List.map_congr_left fun o ho => (hall o ho).symm

/-- **Texts without U+FFFD.** Exactly one byte string reads as such a text. -/
theorem lossy_eq_iff {bs : List UInt8} {cs : List Char} (h : replacement ∉ cs) : lossy bs = cs ↔ bs = encode cs := by
  constructor
  · rintro rfl; exact (encode_lossy h).symm
  · rintro rfl; exact lossy_encode cs

/-- the byte 0xFF is no part of any sequence -/
theorem lossy_cons_ff (rest : List UInt8) : lossy (0xFF :: rest) = replacement :: lossy rest := by
  have hscan : scan 0xFF rest = (none, rest) := rfl
  simp [lossy, chunks_cons, hscan]

/-- **Texts with U+FFFD.** Another byte string, not the text's own, reads as it too. -/
theorem exists_lossy_collision {cs : List Char} (h : replacement ∈ cs) : ∃ bs, bs ≠ encode cs ∧ lossy bs = cs := by
  obtain ⟨pre, post, rfl⟩ := List.append_of_mem h
  refine ⟨encode pre ++ 0xFF :: encode post, ?_, ?_⟩
  · intro heq
    rw [encode_append, encode_cons] at heq
    have htail := List.append_cancel_left heq
    have hhead : String.utf8EncodeChar replacement = [0xEF, 0xBF, 0xBD] := by decide
    rw [hhead, List.cons_append, List.cons.injEq] at htail
    exact absurd htail.1 (by decide)
  · rw [lossy_encode_append, lossy_cons_ff, lossy_encode]

end N0wss.Utf8
