import H2ts.Lib.BigEndian

/-!
# JavaScript numbers

Numbers are integers.  A number is a double, so a sum above `2^53` is rounded (`number`).
A bit operator reduces its operands to 32 bits, and gives a signed number, `>>>` an
unsigned one.

On 32-bit words the operators are those of the words (`band_word`, `ushr_zero_word`),
and a word put together from its bytes is the big-endian one (`word_of_bytes`).
-/

namespace Js

open BigEndian

/-! ## Doubles -/

/-- The nearest natural number with 53 significant bits, the even one of two. -/
def nearest (n : Nat) : Nat :=
  if n ≤ 2 ^ 53 then n
  else
    let unit := 2 ^ (n.log2 - 52)
    let low := n / unit
    let rest := n % unit
    if 2 * rest < unit ∨ 2 * rest = unit ∧ low % 2 = 0 then low * unit else (low + 1) * unit

/-- An integer as a double.  None in use is near the largest double, about `2^1024`. -/
def number (n : Int) : Int := if n < 0 then -(nearest n.natAbs : Int) else nearest n.natAbs

theorem number_exact {n : Int} (low : 0 ≤ n) (high : n ≤ 2 ^ 53) : number n = n := by
  rw [number, if_neg (not_lt.mpr low), nearest, if_pos (by omega)]
  exact Int.natAbs_of_nonneg low

theorem number_nonneg {n : Int} (low : 0 ≤ n) : 0 ≤ number n := by
  rw [number, if_neg (not_lt.mpr low)]
  exact Int.natCast_nonneg _

example : number (2 ^ 53 + 1) = 2 ^ 53 ∧ number (2 ^ 53 + 3) = 2 ^ 53 + 4 := by decide +kernel

/-! ## Bit operators -/

/-- `ToInt32`, as the bits. -/
def int32 (a : Int) : BitVec 32 := BitVec.ofInt 32 a

/-- `a & b` -/
def band (a b : Int) : Int := (int32 a &&& int32 b).toInt

/-- `a | b` -/
def bor (a b : Int) : Int := (int32 a ||| int32 b).toInt

/-- `a << n` -/
def shl (a : Int) (n : Nat) : Int := (int32 a <<< n).toInt

/-- `a >>> n` -/
def ushr (a : Int) (n : Nat) : Int := (int32 a >>> n).toNat

@[simp] theorem int32_toInt (v : BitVec 32) : int32 v.toInt = v := BitVec.ofInt_toInt

@[simp] theorem int32_toNat (v : BitVec 32) : int32 v.toNat = v := by
  rw [int32, BitVec.ofInt_natCast, BitVec.ofNat_toNat, BitVec.setWidth_eq]

@[simp] theorem int32_word (v : UInt32) : int32 v.toNat = v.toBitVec := int32_toNat v.toBitVec

/-- A word below `2^31` is its own signed value. -/
theorem toInt_small {v : UInt32} (small : v.toNat < 2 ^ 31) : v.toBitVec.toInt = v.toNat := by
  rw [BitVec.toInt_eq_toNat_of_lt]
  · rfl
  · show 2 * v.toNat < 2 ^ 32
    omega

theorem band_word (v w : UInt32) : band v.toNat w.toNat = (v &&& w).toBitVec.toInt := by
  rw [band, int32_word, int32_word, UInt32.toBitVec_and]

theorem ushr_zero (a : Int) : ushr a 0 = ((int32 a).toNat : Int) := by
  rw [ushr, BitVec.ushiftRight_zero]

/-- Masking the sign bit of a word. -/
theorem band_low31 (v : UInt32) : band v.toNat 0x7fffffff = (low31 v).toNat := by
  have small : (low31 v).toNat < 2 ^ 31 := by
    rw [toNat_low31]
    omega
  exact (band_word v 0x7fffffff).trans (toInt_small small)

theorem band_top (v : UInt32) : (band v.toNat 0x80000000 != 0) = top v := by
  have masked := band_word v 0x80000000
  rw [show ((0x80000000 : UInt32).toNat : Int) = 0x80000000 from rfl] at masked
  rw [masked, top]
  cases zero : v &&& 0x80000000 == 0 with
  | true =>
      have eq := beq_iff_eq.mp zero
      rw [bne, bne, zero, eq]
      rfl
  | false =>
      have ne : (v &&& 0x80000000).toBitVec.toInt ≠ 0 := by
        intro eq
        have same : (v &&& 0x80000000).toBitVec = 0#32 :=
          BitVec.eq_of_toInt_eq (eq.trans (BitVec.toInt_zero).symm)
        have word : v &&& 0x80000000 = 0 := UInt32.toBitVec_inj.mp same
        rw [word] at zero
        cases zero
      rw [bne, bne, zero, beq_eq_false_iff_ne.mpr ne]

/-! ## Small numbers -/

/-- A mask of low bits takes the remainder. -/
theorem band_mask (a : Int) {k : Nat} (small : k ≤ 31) : band a ((2 ^ k - 1 : Nat) : Int) = a % 2 ^ k := by
  have power : 2 ^ k ≤ 2 ^ 31 := Nat.pow_le_pow_right (by omega) small
  have positive : 0 < 2 ^ k := Nat.two_pow_pos k
  have mask : (int32 ((2 ^ k - 1 : Nat) : Int)).toNat = 2 ^ k - 1 := by
    rw [int32, BitVec.ofInt_natCast, BitVec.toNat_ofNat]
    exact Nat.mod_eq_of_lt (by omega)
  have value : (int32 a &&& int32 ((2 ^ k - 1 : Nat) : Int)).toNat = (a % 2 ^ 32).toNat % 2 ^ k := by
    rw [BitVec.toNat_and, mask, Nat.and_two_pow_sub_one_eq_mod, int32, BitVec.toNat_ofInt]
    rfl
  have less : (a % 2 ^ 32).toNat % 2 ^ k < 2 ^ k := Nat.mod_lt _ positive
  rw [band, BitVec.toInt_eq_toNat_of_lt (by omega), value]
  have nonneg : 0 ≤ a % 2 ^ 32 := Int.emod_nonneg _ (by norm_num)
  have divides : ((2 : Int) ^ k) ∣ 2 ^ 32 := pow_dvd_pow 2 (by omega)
  rw [Int.natCast_emod, Int.toNat_of_nonneg nonneg, Nat.cast_pow, Nat.cast_ofNat,
    Int.emod_emod_of_dvd a divides]

theorem band_nat {m n : Nat} (left : m < 2 ^ 31) (right : n < 2 ^ 31) : band m n = (m &&& n : Nat) := by
  have value : (int32 m &&& int32 n).toNat = m &&& n := by
    rw [BitVec.toNat_and, int32, int32, BitVec.ofInt_natCast, BitVec.ofInt_natCast,
      BitVec.toNat_ofNat, BitVec.toNat_ofNat, Nat.mod_eq_of_lt (by omega), Nat.mod_eq_of_lt (by omega)]
  have less : m &&& n ≤ m := Nat.and_le_left
  rw [band, BitVec.toInt_eq_toNat_of_lt (by omega), value]

/-- Whether a byte has one of some bits. -/
theorem band_byte (b mask : UInt8) : (band b.toNat mask.toNat != 0) = (b &&& mask != 0) := by
  have left := b.toNat_lt
  have right := mask.toNat_lt
  rw [band_nat (by omega) (by omega), ← UInt8.toNat_and]
  cases zero : b &&& mask == 0 with
  | true =>
      rw [bne, bne, zero, beq_iff_eq.mp zero]
      rfl
  | false =>
      have ne : ((b &&& mask).toNat : Int) ≠ 0 := by
        intro eq
        have same : b &&& mask = 0 := UInt8.toNat_inj.mp (by exact_mod_cast eq)
        rw [same] at zero
        cases zero
      rw [bne, bne, zero, beq_eq_false_iff_ne.mpr ne]

/-! ## Bytes and words -/

theorem or_of_lt {i m n : Nat} (less : n < 2 ^ i) : m * 2 ^ i ||| n = m * 2 ^ i + n := by
  rw [Nat.mul_comm]
  exact (Nat.two_pow_add_eq_or_of_lt less m).symm

theorem int32_shl (b : UInt8) {i : Nat} (small : i ≤ 24) :
    (int32 (shl b.toNat i)).toNat = b.toNat * 2 ^ i := by
  have bound := b.toNat_lt
  have power : 2 ^ i ≤ 2 ^ 24 := Nat.pow_le_pow_right (by omega) small
  have product : b.toNat * 2 ^ i < 2 ^ 8 * 2 ^ 24 :=
    Nat.mul_lt_mul_of_lt_of_le bound power (by omega)
  rw [shl, int32_toInt, BitVec.toNat_shiftLeft, Nat.shiftLeft_eq, int32, BitVec.ofInt_natCast,
    BitVec.toNat_ofNat, Nat.mod_eq_of_lt (show b.toNat < 2 ^ 32 by omega)]
  exact Nat.mod_eq_of_lt (by omega)

theorem int32_byte (b : UInt8) : (int32 b.toNat).toNat = b.toNat := by
  have bound := b.toNat_lt
  rw [int32, BitVec.ofInt_natCast, BitVec.toNat_ofNat]
  exact Nat.mod_eq_of_lt (by omega)

/-- `(a << 16) | (b << 8) | c` -/
theorem length_of_bytes (a b c : UInt8) :
    bor (bor (shl a.toNat 16) (shl b.toNat 8)) c.toNat = ofBe24 a b c := by
  have ha := a.toNat_lt
  have hb := b.toNat_lt
  have hc := c.toNat_lt
  have value : (int32 (bor (shl a.toNat 16) (shl b.toNat 8)) ||| int32 c.toNat).toNat =
      ofBe24 a b c := by
    rw [BitVec.toNat_or, bor, int32_toInt, BitVec.toNat_or, int32_shl a (by omega),
      int32_shl b (by omega), int32_byte, or_of_lt (show b.toNat * 2 ^ 8 < 2 ^ 16 by omega),
      show a.toNat * 2 ^ 16 + b.toNat * 2 ^ 8 = (a.toNat * 2 ^ 8 + b.toNat) * 2 ^ 8 by omega,
      or_of_lt (by omega), ofBe24]
    omega
  have small : ofBe24 a b c < 2 ^ 24 := by
    rw [ofBe24]
    omega
  rw [bor, BitVec.toInt_eq_toNat_of_lt (by omega), value]

/-- `(a << 24) | (b << 16) | (c << 8) | d` -/
theorem word_of_bytes (a b c d : UInt8) :
    int32 (bor (bor (bor (shl a.toNat 24) (shl b.toNat 16)) (shl c.toNat 8)) d.toNat) =
      (ofBe32 a b c d).toBitVec := by
  have ha := a.toNat_lt
  have hb := b.toNat_lt
  have hc := c.toNat_lt
  have hd := d.toNat_lt
  apply BitVec.eq_of_toNat_eq
  rw [bor, int32_toInt, BitVec.toNat_or, bor, int32_toInt, BitVec.toNat_or, bor, int32_toInt,
    BitVec.toNat_or, int32_shl a (by omega), int32_shl b (by omega), int32_shl c (by omega),
    int32_byte, or_of_lt (show b.toNat * 2 ^ 16 < 2 ^ 24 by omega),
    show a.toNat * 2 ^ 24 + b.toNat * 2 ^ 16 = (a.toNat * 2 ^ 8 + b.toNat) * 2 ^ 16 by omega,
    or_of_lt (show c.toNat * 2 ^ 8 < 2 ^ 16 by omega),
    show (a.toNat * 2 ^ 8 + b.toNat) * 2 ^ 16 + c.toNat * 2 ^ 8 =
      (a.toNat * 2 ^ 16 + b.toNat * 2 ^ 8 + c.toNat) * 2 ^ 8 by omega,
    or_of_lt (by omega)]
  show _ = (ofBe32 a b c d).toNat
  rw [ofBe32, UInt32.toNat_ofNat']
  omega

end Js
