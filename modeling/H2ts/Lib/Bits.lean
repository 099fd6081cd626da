import Mathlib.Tactic

/-!
# Bit strings packed into bytes

A byte list as the string of its bits, most significant bit first, and the
writing of single bits into a zeroed buffer.  `bits_writeBits` is what bit-level
encoders need: bits written one after the other from some position on are, in
order, the bits of the buffer there.  `bits_injective` packs the bits again, so a
byte list is known once its bits are.
-/

namespace Bits

/-! ## Bits of bytes -/

/-- The eight bits of a byte. -/
def byteBits (b : UInt8) : List Bool :=
  [7, 6, 5, 4, 3, 2, 1, 0].map b.toNat.testBit

/-- The bits of a byte list. -/
def bits (l : List UInt8) : List Bool := l.flatMap byteBits

@[simp] theorem length_byteBits (b : UInt8) : (byteBits b).length = 8 := rfl

@[simp] theorem bits_nil : bits [] = [] := rfl

@[simp] theorem bits_cons (b : UInt8) (l : List UInt8) : bits (b :: l) = byteBits b ++ bits l := rfl

@[simp] theorem length_bits (l : List UInt8) : (bits l).length = 8 * l.length := by
  induction l with
  | nil => rfl
  | cons b l ih => simp [ih]; omega

/-- The zeroed buffer of `n` bytes. -/
theorem bits_replicate_zero (n : Nat) :
    bits (List.replicate n 0) = List.replicate (8 * n) false := by
  induction n with
  | zero => rfl
  | succ n ih =>
      rw [List.replicate_succ, bits_cons, ih, show 8 * (n + 1) = 8 + 8 * n by omega,
        List.replicate_add]
      rfl

/-! ## Packing -/

/-- The byte with the given bits. -/
def byteOfBits (l : List Bool) : UInt8 :=
  UInt8.ofNat (l.foldl (fun value bit => 2 * value + bit.toNat) 0)

theorem byteOfBits_byteBits (b : UInt8) : byteOfBits (byteBits b) = b := by
  have all : ∀ n : Fin 256, byteOfBits (byteBits (UInt8.ofNat n)) = UInt8.ofNat n := by
    decide +kernel
  have this := all ⟨b.toNat, b.toNat_lt⟩
  simpa using this

theorem byteBits_injective : Function.Injective byteBits :=
  Function.LeftInverse.injective byteOfBits_byteBits

/-- Byte lists with the same bits are equal. -/
theorem bits_injective : Function.Injective bits := by
  intro first
  induction first with
  | nil =>
      intro second same
      cases second with
      | nil => rfl
      | cons b l => cases same
  | cons a first ih =>
      intro second same
      cases second with
      | nil => cases same
      | cons b second =>
          rw [bits_cons, bits_cons] at same
          obtain ⟨head, tail⟩ := List.append_inj same rfl
          rw [byteBits_injective head, ih tail]

/-! ## Writing bits -/

/-- Set the bit at a position of the buffer. -/
def putBit (out : List UInt8) (pos : Nat) : List UInt8 :=
  out.modify (pos / 8) fun b => b ||| (0x80 >>> UInt8.ofNat (pos % 8))

theorem byteBits_or (b : UInt8) {i : Nat} (small : i < 8) :
    byteBits (b ||| (0x80 >>> UInt8.ofNat i)) = (byteBits b).set i true := by
  have mask : (0x80 >>> UInt8.ofNat i : UInt8).toNat = 2 ^ (7 - i) := by
    interval_cases i <;> rfl
  have bit (j : Nat) : (b ||| (0x80 >>> UInt8.ofNat i)).toNat.testBit j =
      (b.toNat.testBit j || decide (7 - i = j)) := by
    rw [UInt8.toNat_or, mask, Nat.testBit_or, Nat.testBit_two_pow]
  simp only [byteBits, List.map_cons, List.map_nil, bit]
  interval_cases i <;> simp

theorem bits_putBit (out : List UInt8) {pos : Nat} (inside : pos < 8 * out.length) :
    bits (putBit out pos) = (bits out).set pos true := by
  induction out generalizing pos with
  | nil => simp at inside
  | cons b out ih =>
      by_cases first : pos < 8
      · have zero : pos / 8 = 0 := by omega
        have same : pos % 8 = pos := by omega
        rw [putBit, zero, List.modify_zero_cons, bits_cons, bits_cons, same, byteBits_or b first,
          List.set_append_left _ _ (by simpa using first)]
      · obtain ⟨rest, rfl⟩ : ∃ rest, pos = rest + 8 := ⟨pos - 8, by omega⟩
        have next : (rest + 8) / 8 = rest / 8 + 1 := by omega
        have same : (rest + 8) % 8 = rest % 8 := by omega
        rw [putBit, next, List.modify_succ_cons, bits_cons, bits_cons, same,
          List.set_append_right _ _ (by simp)]
        have less : rest < 8 * out.length := by
          rw [List.length_cons] at inside
          omega
        rw [length_byteBits, Nat.add_sub_cancel, ← ih less]
        rfl

/-- Write bits one after the other; a zero bit leaves the buffer as it is. -/
def writeBits (out : List UInt8) (pos : Nat) : List Bool → List UInt8
  | [] => out
  | bit :: later => writeBits (if bit then putBit out pos else out) (pos + 1) later

theorem writeBits_append (first second : List Bool) (out : List UInt8) (pos : Nat) :
    writeBits out pos (first ++ second) =
      writeBits (writeBits out pos first) (pos + first.length) second := by
  induction first generalizing out pos with
  | nil => rfl
  | cons bit first ih =>
      simp only [List.cons_append, writeBits, ih, List.length_cons]
      congr 1
      omega

/-- Bits written into the zeroed rest of a buffer are the bits there. -/
theorem bits_writeBits (later : List Bool) (out : List UInt8) (written : List Bool) (zeros : Nat)
    (before : bits out = written ++ List.replicate (later.length + zeros) false) :
    bits (writeBits out written.length later) =
      written ++ later ++ List.replicate zeros false := by
  induction later generalizing out written with
  | nil => simpa [writeBits] using before
  | cons bit later ih =>
      have room : written.length < 8 * out.length := by
        have total := congrArg List.length before
        simp only [length_bits, List.length_append, List.length_replicate,
          List.length_cons] at total
        omega
      have after : bits (if bit then putBit out written.length else out) =
          (written ++ [bit]) ++ List.replicate (later.length + zeros) false := by
        rw [List.length_cons, show later.length + 1 + zeros = (later.length + zeros) + 1 by omega,
          List.replicate_succ] at before
        cases bit with
        | false => simpa using before
        | true =>
            rw [if_pos rfl, bits_putBit out room, before,
              List.set_append_right _ _ (Nat.le_refl _), Nat.sub_self]
            simp
      have written' : (written ++ [bit]).length = written.length + 1 := by simp
      rw [writeBits, ← written', ih _ _ after]
      simp

end Bits
