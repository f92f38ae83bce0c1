/-
Fixed-width integers in network byte order.

- `ofBe_toBe`, `toBe_ofBe`: writing and reading are inverse, for any width.
- `u16OfBe_u16ToBe`, `u16ToBe_u16OfBe`, `u32OfBe_u32ToBe`, `u64OfBe_u64ToBe`: the same for the widths of the wire formats.
- `and_two_pow_sub_two_pow`: clearing the low bits rounds down.
-/
import Mathlib.Tactic

namespace N0wss.Bytes

/-- the number some bytes spell, the most significant first -/
def ofBe : List UInt8 → ℕ
  | [] => 0
  | b :: bs => b.toNat * 256 ^ bs.length + ofBe bs

/-- the low `k` bytes of a number, the most significant first -/
def toBe : ℕ → ℕ → List UInt8
  | 0, _ => []
  | k + 1, n => UInt8.ofNat (n / 256 ^ k) :: toBe k n

@[simp] theorem length_toBe (k n : ℕ) : (toBe k n).length = k := by
  induction k with
  | zero => rfl
  | succ k ih => simp [toBe, ih]

theorem ofBe_lt (bs : List UInt8) : ofBe bs < 256 ^ bs.length := by
  induction bs with
  | nil => simp [ofBe]
  | cons b bs ih =>
    have hb : b.toNat + 1 ≤ 256 := b.toNat_lt
    calc ofBe (b :: bs) < b.toNat * 256 ^ bs.length + 256 ^ bs.length := Nat.add_lt_add_left ih _
      _ = (b.toNat + 1) * 256 ^ bs.length := by ring
      _ ≤ 256 * 256 ^ bs.length := Nat.mul_le_mul_right _ hb
      _ = 256 ^ (b :: bs).length := by rw [List.length_cons, pow_succ, Nat.mul_comm]

theorem ofBe_toBe (k n : ℕ) : ofBe (toBe k n) = n % 256 ^ k := by
  induction k with
  | zero => simp [toBe, ofBe, Nat.mod_one]
  | succ k ih =>
    have hdigit : (UInt8.ofNat (n / 256 ^ k)).toNat = n / 256 ^ k % 256 := UInt8.toNat_ofNat'
    rw [toBe, ofBe, ih, hdigit, length_toBe, Nat.mod_pow_succ]
    ring

/-- the low bytes do not see what is above them -/
theorem toBe_add_mul (k m n : ℕ) : toBe k (m * 256 ^ k + n) = toBe k n := by
  induction k generalizing m with
  | zero => rfl
  | succ k ih =>
    have hsplit : m * 256 ^ (k + 1) + n = m * 256 * 256 ^ k + n := by ring
    have hdiv : (m * 256 * 256 ^ k + n) / 256 ^ k = m * 256 + n / 256 ^ k := by
      rw [Nat.add_comm, Nat.add_mul_div_right _ _ (by positivity), Nat.add_comm]
    have hbyte : UInt8.ofNat (m * 256 + n / 256 ^ k) = UInt8.ofNat (n / 256 ^ k) := by
      apply UInt8.toNat_inj.1
      rw [UInt8.toNat_ofNat', UInt8.toNat_ofNat']
      omega
    rw [hsplit, toBe, hdiv, hbyte, ih, toBe]

theorem toBe_ofBe (bs : List UInt8) : toBe bs.length (ofBe bs) = bs := by
  induction bs with
  | nil => rfl
  | cons b bs ih =>
    have hdiv : (b.toNat * 256 ^ bs.length + ofBe bs) / 256 ^ bs.length = b.toNat := by
      rw [Nat.add_comm, Nat.add_mul_div_right _ _ (by positivity), Nat.div_eq_of_lt (ofBe_lt bs), Nat.zero_add]
    rw [List.length_cons, toBe, ofBe, hdiv, toBe_add_mul, ih, UInt8.ofNat_toNat]

/-! ## The widths in use -/

/-- `u16::to_be_bytes` -/
def u16ToBe (n : UInt16) : List UInt8 := toBe 2 n.toNat

/-- `u16::from_be_bytes` -/
def u16OfBe (bs : List UInt8) : UInt16 := UInt16.ofNat (ofBe bs)

/-- `u32::to_be_bytes` -/
def u32ToBe (n : UInt32) : List UInt8 := toBe 4 n.toNat

/-- `u32::from_be_bytes` -/
def u32OfBe (bs : List UInt8) : UInt32 := UInt32.ofNat (ofBe bs)

/-- `u64::to_be_bytes` -/
def u64ToBe (n : UInt64) : List UInt8 := toBe 8 n.toNat

/-- `u64::from_be_bytes` -/
def u64OfBe (bs : List UInt8) : UInt64 := UInt64.ofNat (ofBe bs)

@[simp] theorem length_u16ToBe (n : UInt16) : (u16ToBe n).length = 2 := length_toBe 2 _

@[simp] theorem length_u32ToBe (n : UInt32) : (u32ToBe n).length = 4 := length_toBe 4 _

@[simp] theorem length_u64ToBe (n : UInt64) : (u64ToBe n).length = 8 := length_toBe 8 _

@[simp] theorem u16OfBe_u16ToBe (n : UInt16) : u16OfBe (u16ToBe n) = n := by
  rw [u16OfBe, u16ToBe, ofBe_toBe, Nat.mod_eq_of_lt (show n.toNat < 256 ^ 2 from n.toNat_lt), UInt16.ofNat_toNat]

@[simp] theorem u32OfBe_u32ToBe (n : UInt32) : u32OfBe (u32ToBe n) = n := by
  rw [u32OfBe, u32ToBe, ofBe_toBe, Nat.mod_eq_of_lt (show n.toNat < 256 ^ 4 from n.toNat_lt), UInt32.ofNat_toNat]

@[simp] theorem u64OfBe_u64ToBe (n : UInt64) : u64OfBe (u64ToBe n) = n := by
  rw [u64OfBe, u64ToBe, ofBe_toBe, Nat.mod_eq_of_lt (show n.toNat < 256 ^ 8 from n.toNat_lt), UInt64.ofNat_toNat]

theorem u16ToBe_u16OfBe {bs : List UInt8} (h : bs.length = 2) : u16ToBe (u16OfBe bs) = bs := by
  have hlt := ofBe_lt bs
  rw [h] at hlt
  have hval : (UInt16.ofNat (ofBe bs)).toNat = ofBe bs := by
    rw [UInt16.toNat_ofNat']; exact Nat.mod_eq_of_lt hlt
  rw [u16ToBe, u16OfBe, hval, ← h, toBe_ofBe]

theorem u32ToBe_u32OfBe {bs : List UInt8} (h : bs.length = 4) : u32ToBe (u32OfBe bs) = bs := by
  have hlt := ofBe_lt bs
  rw [h] at hlt
  have hval : (UInt32.ofNat (ofBe bs)).toNat = ofBe bs := by
    rw [UInt32.toNat_ofNat']; exact Nat.mod_eq_of_lt hlt
  rw [u32ToBe, u32OfBe, hval, ← h, toBe_ofBe]

/-! ## Masks -/

/-- a mask that clears the low `k` bits rounds down -/
theorem and_two_pow_sub_two_pow {n k w : ℕ} (h : n < 2 ^ w) (hk : k ≤ w) :
    n &&& (2 ^ w - 2 ^ k) = n / 2 ^ k * 2 ^ k := by
  have hmask : 2 ^ w - 2 ^ k = (2 ^ (w - k) - 1) * 2 ^ k := by
    rw [Nat.sub_mul, Nat.one_mul, ← pow_add, Nat.sub_add_cancel hk]
  rw [hmask]
  refine Nat.eq_of_testBit_eq fun i => ?_
  rw [Nat.testBit_and, Nat.testBit_mul_two_pow, Nat.testBit_mul_two_pow, Nat.testBit_two_pow_sub_one,
    Nat.testBit_div_two_pow]
  by_cases hlow : k ≤ i
  · rw [Nat.sub_add_cancel hlow]
    by_cases hin : i < w
    · simp [hlow, Nat.sub_lt_sub_right hlow hin]
    · have hzero : n.testBit i = false :=
        Nat.testBit_lt_two_pow (h.trans_le (Nat.pow_le_pow_right (by decide) (Nat.not_lt.1 hin)))
      simp [hzero]
  · simp [hlow]

end N0wss.Bytes
