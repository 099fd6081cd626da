import H2ts.Lib.Utf8

/-!
# Strings in UTF-16

`length` is the length of a string in UTF-16 code units, as JavaScript has it, and `decode` the
lossy decoding of bytes that leaves out a byte order mark in front, as its `TextDecoder` does.
A decoded string never has more units than there were bytes (`length_decode_le`): a character of
two units has four bytes, and a replacement has one unit.
-/

namespace Utf16

open Utf8

/-- The code units of a character. -/
def units (c : Char) : Nat := if c.toNat < 0x10000 then 1 else 2

def charsLength (chars : List Char) : Nat := (chars.map units).sum

/-- The code units of a string. -/
def length (s : String) : Nat := charsLength s.toList

def BYTE_ORDER_MARK : List UInt8 := [0xEF, 0xBB, 0xBF]

/-- Decode a byte list, but not a byte order mark in front. -/
def decode (l : List UInt8) : String :=
  ofOctetsLossy (if BYTE_ORDER_MARK.isPrefixOf l then l.drop BYTE_ORDER_MARK.length else l)

theorem units_le (c : Char) : units c ≤ c.utf8Size := by
  unfold units
  have positive := c.utf8Size_pos
  split
  · omega
  next wide =>
    have above {v : UInt32} (small : v.toNat < 0x10000) : ¬ c.val ≤ v := by
      intro le
      have bound : c.toNat ≤ v.toNat := UInt32.le_iff_toNat_le.mp le
      omega
    rw [Char.utf8Size, if_neg (above (by decide)), if_neg (above (by decide))]
    split <;> omega

/-- A character that is decoded is there. -/
theorem utf8Size_le_of_headChar {l : List UInt8} {c : Char} (head : headChar l = some c) :
    c.utf8Size ≤ l.length := by
  have size := ByteArray.le_size_of_utf8DecodeChar?_eq_some head
  rw [List.size_toByteArray, List.length_take] at size
  omega

theorem charsLength_lossyChars_le (fuel : Nat) (l : List UInt8) :
    charsLength (lossyChars fuel l) ≤ l.length := by
  induction fuel generalizing l with
  | zero => exact Nat.zero_le _
  | succ fuel ih =>
      cases l with
      | nil => exact Nat.zero_le _
      | cons b l =>
          rw [lossyChars]
          cases head : headChar (b :: l) with
          | some c =>
              have there := utf8Size_le_of_headChar head
              have narrow := units_le c
              have rest := ih ((b :: l).drop c.utf8Size)
              rw [List.length_drop] at rest
              show units c + charsLength (lossyChars fuel ((b :: l).drop c.utf8Size)) ≤ _
              omega
          | none =>
              have one : units '\uFFFD' = 1 := by decide
              obtain ⟨low, -⟩ := illFormedLength_bounds (b :: l)
              have rest := ih ((b :: l).drop (illFormedLength (b :: l)))
              rw [List.length_drop, List.length_cons] at rest
              show units '\uFFFD' + charsLength
                (lossyChars fuel ((b :: l).drop (illFormedLength (b :: l)))) ≤ _
              rw [one, List.length_cons]
              omega

theorem length_ofOctetsLossy_le (l : List UInt8) : length (ofOctetsLossy l) ≤ l.length := by
  rw [length, ofOctetsLossy, String.toList_ofList]
  exact charsLength_lossyChars_le l.length l

/-- Decoding never makes more code units than there are bytes. -/
theorem length_decode_le (l : List UInt8) : length (decode l) ≤ l.length := by
  unfold decode
  split
  · have shorter := length_ofOctetsLossy_le (l.drop BYTE_ORDER_MARK.length)
    rw [List.length_drop] at shorter
    omega
  · exact length_ofOctetsLossy_le l

/-- A string that begins with a byte order mark. -/
def Marked (s : String) : Prop := s.toList.head? = some '\uFEFF'

theorem headChar_mark (l : List UInt8) : headChar (BYTE_ORDER_MARK ++ l) = some '\uFEFF' :=
  headChar_encode '\uFEFF' l

/-- Only a byte order mark makes a difference. -/
theorem decode_of_unmarked {l : List UInt8} (unmarked : ¬ Marked (ofOctetsLossy l)) :
    decode l = ofOctetsLossy l := by
  unfold decode
  split
  next mark =>
    obtain ⟨rest, rfl⟩ := List.isPrefixOf_iff_prefix.mp mark
    refine absurd ?_ unmarked
    rw [Marked, ofOctetsLossy, String.toList_ofList]
    show (lossyChars (rest.length + 2 + 1) (0xEF :: (0xBB :: 0xBF :: rest))).head? = _
    rw [lossyChars, show headChar (0xEF :: 0xBB :: 0xBF :: rest) = _ from headChar_mark rest]
    rfl
  next => rfl

/-- A string is read back from its bytes, if no byte order mark is in front. -/
theorem decode_octets {s : String} (unmarked : ¬ Marked s) : decode (octets s) = s := by
  have same := ofOctetsLossy_octets s
  rw [decode_of_unmarked (same.symm ▸ unmarked), same]

end Utf16
