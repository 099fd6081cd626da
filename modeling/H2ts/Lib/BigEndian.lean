import Mathlib.Data.Nat.Bitwise
import Mathlib.Tactic

/-!
# Big-endian words

Fixed-width unsigned words as byte lists, most significant byte first, and the
reading of a word off its bytes.  Reading undoes writing (`ofBe32_be32` and its
16- and 24-bit companions).  A 31-bit field is a 32-bit word whose top bit is
reserved: `low31` clears the bit, and the lemmas on `low31` and `top` say how
the field and the bit are told apart again.
-/

namespace BigEndian

/-! ## Writing -/

/-- The two bytes of a 16-bit word. -/
def be16 (v : UInt16) : List UInt8 :=
  [UInt8.ofNat (v.toNat / 2 ^ 8), UInt8.ofNat v.toNat]

/-- The low three bytes of a word. -/
def be24 (v : UInt32) : List UInt8 :=
  [UInt8.ofNat (v.toNat / 2 ^ 16), UInt8.ofNat (v.toNat / 2 ^ 8), UInt8.ofNat v.toNat]

/-- The four bytes of a 32-bit word. -/
def be32 (v : UInt32) : List UInt8 :=
  [UInt8.ofNat (v.toNat / 2 ^ 24), UInt8.ofNat (v.toNat / 2 ^ 16),
    UInt8.ofNat (v.toNat / 2 ^ 8), UInt8.ofNat v.toNat]

@[simp] theorem length_be16 (v : UInt16) : (be16 v).length = 2 := rfl

@[simp] theorem length_be24 (v : UInt32) : (be24 v).length = 3 := rfl

@[simp] theorem length_be32 (v : UInt32) : (be32 v).length = 4 := rfl

/-! ## Reading -/

/-- The 16-bit word with the given bytes. -/
def ofBe16 (a b : UInt8) : UInt16 := UInt16.ofNat (a.toNat * 2 ^ 8 + b.toNat)

/-- The 24-bit number with the given bytes. -/
def ofBe24 (a b c : UInt8) : Nat := a.toNat * 2 ^ 16 + b.toNat * 2 ^ 8 + c.toNat

/-- The 32-bit word with the given bytes. -/
def ofBe32 (a b c d : UInt8) : UInt32 :=
  UInt32.ofNat (a.toNat * 2 ^ 24 + b.toNat * 2 ^ 16 + c.toNat * 2 ^ 8 + d.toNat)

theorem ofBe16_be16 (v : UInt16) :
    ofBe16 (UInt8.ofNat (v.toNat / 2 ^ 8)) (UInt8.ofNat v.toNat) = v := by
  apply UInt16.toNat_inj.mp
  have bound := v.toNat_lt
  simp only [ofBe16, UInt16.toNat_ofNat', UInt8.toNat_ofNat']
  omega

theorem ofBe24_be24 (v : UInt32) :
    ofBe24 (UInt8.ofNat (v.toNat / 2 ^ 16)) (UInt8.ofNat (v.toNat / 2 ^ 8))
      (UInt8.ofNat v.toNat) = v.toNat % 2 ^ 24 := by
  simp only [ofBe24, UInt8.toNat_ofNat']
  omega

theorem ofBe32_be32 (v : UInt32) :
    ofBe32 (UInt8.ofNat (v.toNat / 2 ^ 24)) (UInt8.ofNat (v.toNat / 2 ^ 16))
      (UInt8.ofNat (v.toNat / 2 ^ 8)) (UInt8.ofNat v.toNat) = v := by
  apply UInt32.toNat_inj.mp
  have bound := v.toNat_lt
  simp only [ofBe32, UInt32.toNat_ofNat', UInt8.toNat_ofNat']
  omega

/-! ## Numbers of any width -/

/-- The low bytes of a number. -/
def be : Nat → Nat → List UInt8
  | 0, _ => []
  | width + 1, n => be width (n / 2 ^ 8) ++ [UInt8.ofNat n]

/-- The number with the given bytes. -/
def ofBe (bytes : List UInt8) : Nat := bytes.foldl (fun acc b => acc * 2 ^ 8 + b.toNat) 0

@[simp] theorem length_be (width n : Nat) : (be width n).length = width := by
  induction width generalizing n with
  | zero => rfl
  | succ width ih => rw [be, List.length_append, ih, List.length_singleton]

theorem ofBe_be {width n : Nat} (small : n < 2 ^ (8 * width)) : ofBe (be width n) = n := by
  induction width generalizing n with
  | zero =>
      obtain rfl : n = 0 := by omega
      rfl
  | succ width ih =>
      have front : n / 2 ^ 8 < 2 ^ (8 * width) := by
        rw [Nat.div_lt_iff_lt_mul (by norm_num), ← Nat.pow_add]
        exact small
      have step : ofBe (be (width + 1) n) = ofBe (be width (n / 2 ^ 8)) * 2 ^ 8 + n % 2 ^ 8 := by
        simp only [ofBe, be, List.foldl_append, List.foldl_cons, List.foldl_nil, UInt8.toNat_ofNat']
      rw [step, ih front]
      omega

/-- Bytes are those of their number. -/
theorem be_ofBe (bytes : List UInt8) : be bytes.length (ofBe bytes) = bytes := by
  induction bytes using List.reverseRecOn with
  | nil => rfl
  | append_singleton front last ih =>
      have step : ofBe (front ++ [last]) = ofBe front * 2 ^ 8 + last.toNat := by
        simp only [ofBe, List.foldl_append, List.foldl_cons, List.foldl_nil]
      have small := last.toNat_lt
      have high : (ofBe front * 2 ^ 8 + last.toNat) / 2 ^ 8 = ofBe front := by omega
      have low : UInt8.ofNat (ofBe front * 2 ^ 8 + last.toNat) = last := by
        apply UInt8.toNat_inj.mp
        rw [UInt8.toNat_ofNat']
        omega
      rw [List.length_append, List.length_singleton, be, step, high, low, ih]

theorem be_add (high low n : Nat) : be (high + low) n = be high (n / 2 ^ (8 * low)) ++ be low n := by
  induction low generalizing n with
  | zero => simp only [Nat.add_zero, be, List.append_nil, Nat.mul_zero, Nat.pow_zero, Nat.div_one]
  | succ low ih =>
      have shift : n / 2 ^ 8 / 2 ^ (8 * low) = n / 2 ^ (8 * (low + 1)) := by
        rw [Nat.div_div_eq_div_mul, ← Nat.pow_add, Nat.mul_succ, Nat.add_comm]
      rw [← Nat.add_assoc, be, ih, be, shift, List.append_assoc]

/-- A byte is that of a number without its higher bits. -/
theorem byte_congr {m n : Nat} (same : m % 2 ^ 8 = n % 2 ^ 8) : UInt8.ofNat m = UInt8.ofNat n := by
  apply UInt8.toNat_inj.mp
  rw [UInt8.toNat_ofNat', UInt8.toNat_ofNat']
  exact same

theorem be16_ofNat (n : Nat) : be16 (UInt16.ofNat n) = be 2 n := by
  have word := UInt16.toNat_ofNat' (n := n)
  have high : UInt8.ofNat ((UInt16.ofNat n).toNat / 2 ^ 8) = UInt8.ofNat (n / 2 ^ 8) :=
    byte_congr (by omega)
  have low : UInt8.ofNat (UInt16.ofNat n).toNat = UInt8.ofNat n := byte_congr (by omega)
  rw [be16, high, low]
  rfl

theorem be32_ofNat (n : Nat) : be32 (UInt32.ofNat n) = be 4 n := by
  have word := UInt32.toNat_ofNat' (n := n)
  have first : UInt8.ofNat ((UInt32.ofNat n).toNat / 2 ^ 24) = UInt8.ofNat (n / 2 ^ 8 / 2 ^ 8 / 2 ^ 8) :=
    byte_congr (by omega)
  have second : UInt8.ofNat ((UInt32.ofNat n).toNat / 2 ^ 16) = UInt8.ofNat (n / 2 ^ 8 / 2 ^ 8) :=
    byte_congr (by omega)
  have third : UInt8.ofNat ((UInt32.ofNat n).toNat / 2 ^ 8) = UInt8.ofNat (n / 2 ^ 8) :=
    byte_congr (by omega)
  have last : UInt8.ofNat (UInt32.ofNat n).toNat = UInt8.ofNat n := byte_congr (by omega)
  rw [be32, first, second, third, last]
  rfl

/-! ## A word with a reserved top bit -/

/-- The word without its top bit. -/
def low31 (v : UInt32) : UInt32 := v &&& 0x7fffffff

/-- Whether the top bit is set. -/
def top (v : UInt32) : Bool := v &&& 0x80000000 != 0

theorem toNat_low31 (v : UInt32) : (low31 v).toNat = v.toNat % 2 ^ 31 := by
  rw [low31, UInt32.toNat_and]
  exact Nat.and_two_pow_sub_one_eq_mod v.toNat 31

/-- A 31-bit field is not changed by clearing the reserved bit. -/
theorem low31_eq_self {v : UInt32} (h : v.toNat < 2 ^ 31) : low31 v = v := by
  apply UInt32.toNat_inj.mp
  rw [toNat_low31, Nat.mod_eq_of_lt h]

theorem toNat_or_top {v : UInt32} (h : v.toNat < 2 ^ 31) :
    (v ||| 0x80000000).toNat = 2 ^ 31 + v.toNat := by
  rw [UInt32.toNat_or, Nat.or_comm]
  have sum := Nat.two_pow_add_eq_or_of_lt (i := 31) h 1
  rw [Nat.mul_one] at sum
  exact sum.symm

theorem top_eq (v : UInt32) : top v = decide (2 ^ 31 ≤ v.toNat) := by
  have bound := v.toNat_lt
  have bit : (v &&& 0x80000000).toNat = (v.toNat.testBit 31).toNat * 2 ^ 31 := by
    rw [UInt32.toNat_and]
    exact Nat.and_two_pow v.toNat 31
  have high : v.toNat.testBit 31 = decide (2 ^ 31 ≤ v.toNat) := by
    rw [Nat.testBit_eq_decide_div_mod_eq, decide_eq_decide]
    omega
  rw [high] at bit
  cases set : decide (2 ^ 31 ≤ v.toNat) with
  | true =>
      rw [set] at bit
      have nonzero : v &&& 0x80000000 ≠ 0 := by
        intro zero
        rw [zero] at bit
        exact absurd bit (by decide)
      exact bne_iff_ne.mpr nonzero
  | false =>
      rw [set] at bit
      have zero : v &&& 0x80000000 = 0 := UInt32.toNat_inj.mp bit
      simp [top, zero]

/-- Setting the reserved bit leaves the field as it was. -/
theorem low31_or_top {v : UInt32} (h : v.toNat < 2 ^ 31) : low31 (v ||| 0x80000000) = v := by
  apply UInt32.toNat_inj.mp
  rw [toNat_low31, toNat_or_top h]
  omega

theorem top_or_top {v : UInt32} (h : v.toNat < 2 ^ 31) : top (v ||| 0x80000000) = true := by
  rw [top_eq, toNat_or_top h]
  exact decide_eq_true (Nat.le_add_right _ _)

theorem top_eq_false {v : UInt32} (h : v.toNat < 2 ^ 31) : top v = false := by
  rw [top_eq]
  exact decide_eq_false (Nat.not_le_of_lt h)

end BigEndian
