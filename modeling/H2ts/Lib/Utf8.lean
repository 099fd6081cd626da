import Mathlib.Tactic

/-!
# UTF-8 bytes of strings, and lossy decoding

`octets` is the UTF-8 encoding of a string as a byte list, and `ofOctetsLossy`
is the decoding that never fails: every maximal ill-formed part of the input is
replaced by U+FFFD, as the Unicode standard recommends and as Rust's
`String::from_utf8_lossy` documents.  Lossy decoding undoes the encoding
(`ofOctetsLossy_octets`), and it never makes a byte string shorter
(`length_le_octets_ofOctetsLossy`): a replacement is three bytes long and stands
for at most three.
-/

namespace Utf8

/-! ## The bytes of a string -/

/-- The UTF-8 encoding of a list of characters. -/
def encodeChars (chars : List Char) : List UInt8 := chars.flatMap String.utf8EncodeChar

/-- The UTF-8 encoding of a string. -/
def octets (s : String) : List UInt8 := s.toByteArray.data.toList

theorem octets_ofList (chars : List Char) : octets (String.ofList chars) = encodeChars chars := by
  rw [octets, String.toByteArray_ofList, List.utf8Encode, encodeChars,
    List.toList_data_toByteArray]

theorem octets_eq_encodeChars (s : String) : octets s = encodeChars s.toList := by
  rw [← octets_ofList, String.ofList_toList]

/-! ## Lossy decoding -/

/-- The second bytes a lead byte of three or four bytes admits. -/
def secondInRange (lead second : UInt8) : Bool :=
  if lead = 0xE0 then 0xA0 ≤ second && second ≤ 0xBF
  else if lead = 0xED then 0x80 ≤ second && second ≤ 0x9F
  else if lead = 0xF0 then 0x90 ≤ second && second ≤ 0xBF
  else if lead = 0xF4 then 0x80 ≤ second && second ≤ 0x8F
  else 0x80 ≤ second && second ≤ 0xBF

/-- The length of the maximal ill-formed part at the head of a string that does
not start with a character: the bytes that still are the start of one, and at
least one byte. -/
def illFormedLength : List UInt8 → Nat
  | lead :: second :: rest =>
      if 0xE0 ≤ lead && lead ≤ 0xEF then
        if secondInRange lead second then 2 else 1
      else if 0xF0 ≤ lead && lead ≤ 0xF4 then
        if secondInRange lead second then
          match rest with
          | third :: _ => if 0x80 ≤ third && third ≤ 0xBF then 3 else 2
          | [] => 2
        else 1
      else 1
  | _ => 1

/-- The character at the head of a byte list, if it starts with one. -/
def headChar (l : List UInt8) : Option Char := (l.take 4).toByteArray.utf8DecodeChar? 0

/-- The characters of at most `fuel` parts of the input. -/
def lossyChars : Nat → List UInt8 → List Char
  | 0, _ => []
  | _ + 1, [] => []
  | fuel + 1, b :: l =>
      match headChar (b :: l) with
      | some c => c :: lossyChars fuel ((b :: l).drop c.utf8Size)
      | none => '\uFFFD' :: lossyChars fuel ((b :: l).drop (illFormedLength (b :: l)))

/-- Decode a byte list, replacing what is not UTF-8. -/
def ofOctetsLossy (l : List UInt8) : String := String.ofList (lossyChars l.length l)

/-! ## Decoding an encoding -/

theorem headChar_encode (c : Char) (later : List UInt8) :
    headChar (String.utf8EncodeChar c ++ later) = some c := by
  have short : (String.utf8EncodeChar c).length ≤ 4 := by
    rw [String.length_utf8EncodeChar]
    exact c.utf8Size_le_four
  rw [headChar, List.take_append, List.take_of_length_le short, List.toByteArray_append]
  exact ByteArray.utf8DecodeChar?_utf8EncodeChar_append

theorem lossyChars_encodeChars (chars : List Char) (fuel : Nat)
    (enough : (encodeChars chars).length ≤ fuel) :
    lossyChars fuel (encodeChars chars) = chars := by
  induction chars generalizing fuel with
  | nil => cases fuel <;> rfl
  | cons c chars ih =>
      have split : encodeChars (c :: chars) = String.utf8EncodeChar c ++ encodeChars chars := rfl
      have width := String.length_utf8EncodeChar c
      have positive := c.utf8Size_pos
      rw [split, List.length_append, width] at enough
      obtain ⟨fuel, rfl⟩ : ∃ n, fuel = n + 1 := ⟨fuel - 1, by omega⟩
      cases whole : String.utf8EncodeChar c ++ encodeChars chars with
      | nil =>
          have empty := congrArg List.length whole
          rw [List.length_append, width, List.length_nil] at empty
          omega
      | cons b l =>
          rw [split, whole, lossyChars, ← whole, headChar_encode]
          simp only
          rw [← width, List.drop_left, ih fuel (by omega)]

/-- A string is read back from its bytes. -/
theorem ofOctetsLossy_octets (s : String) : ofOctetsLossy (octets s) = s := by
  rw [ofOctetsLossy, octets_eq_encodeChars, lossyChars_encodeChars _ _ (Nat.le_refl _),
    String.ofList_toList]

/-! ## Lossy decoding never shortens -/

theorem illFormedLength_bounds (l : List UInt8) :
    1 ≤ illFormedLength l ∧ illFormedLength l ≤ 3 := by
  unfold illFormedLength
  repeat' split
  all_goals omega

theorem length_le_lossyChars (fuel : Nat) (l : List UInt8) (enough : l.length ≤ fuel) :
    l.length ≤ (encodeChars (lossyChars fuel l)).length := by
  induction fuel generalizing l with
  | zero => omega
  | succ fuel ih =>
      cases l with
      | nil => simp
      | cons b l =>
          simp only [lossyChars]
          -- Both branches drop `k` bytes for one character of at least `k` bytes.
          have step (k : Nat) (c : Char) (positive : 1 ≤ k) (covered : k ≤ c.utf8Size) :
              (b :: l).length ≤
                (encodeChars (c :: lossyChars fuel ((b :: l).drop k))).length := by
            have rest := ih ((b :: l).drop k) (by
              rw [List.length_drop]
              omega)
            have width := String.length_utf8EncodeChar c
            rw [List.length_drop] at rest
            simp only [encodeChars, List.flatMap_cons, List.length_append] at rest ⊢
            omega
          cases headChar (b :: l) with
          | some c => exact step c.utf8Size c c.utf8Size_pos (Nat.le_refl _)
          | none =>
              obtain ⟨low, high⟩ := illFormedLength_bounds (b :: l)
              exact step _ _ low high

/-- The decoded string has at least as many bytes as the input. -/
theorem length_le_octets_ofOctetsLossy (l : List UInt8) :
    l.length ≤ (octets (ofOctetsLossy l)).length := by
  rw [ofOctetsLossy, octets_ofList]
  exact length_le_lossyChars l.length l (Nat.le_refl _)

/-- Every character stands for at least a byte, and has at most four. -/
theorem length_lossyChars_le (fuel : Nat) (l : List UInt8) :
    (encodeChars (lossyChars fuel l)).length ≤ 4 * l.length := by
  induction fuel generalizing l with
  | zero => exact Nat.zero_le _
  | succ fuel ih =>
      cases l with
      | nil => exact Nat.zero_le _
      | cons b l =>
          simp only [lossyChars]
          have step (k : Nat) (c : Char) (positive : 1 ≤ k) :
              (encodeChars (c :: lossyChars fuel ((b :: l).drop k))).length ≤ 4 * (b :: l).length := by
            have rest := ih ((b :: l).drop k)
            have width := String.length_utf8EncodeChar c
            have narrow := c.utf8Size_le_four
            rw [List.length_drop] at rest
            simp only [encodeChars, List.flatMap_cons, List.length_append, List.length_cons] at rest ⊢
            omega
          cases headChar (b :: l) with
          | some c => exact step c.utf8Size c c.utf8Size_pos
          | none => exact step _ _ (illFormedLength_bounds (b :: l)).1

theorem length_octets_ofOctetsLossy_le (l : List UInt8) :
    (octets (ofOctetsLossy l)).length ≤ 4 * l.length := by
  rw [ofOctetsLossy, octets_ofList]
  exact length_lossyChars_le l.length l

example : ofOctetsLossy [0x61, 0xFF, 0xE2, 0x82, 0x62] = "a\uFFFD\uFFFDb" := by decide

end Utf8
