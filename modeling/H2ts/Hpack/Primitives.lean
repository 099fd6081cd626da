import H2ts.Hpack.Huffman
import H2ts.Lib.Utf8

/-!
# HPACK integers and strings

The prefix integers (RFC 7541 §5.1) and string literals (§5.2) of `hpack/mod.rs`.
`usize` arithmetic is taken at a width `w` and wraps there, as it does in a
release build; the decoder uses the width of a 64-bit target.

A prefix integer is a first octet and continuation octets.  `Continuation` and
`contValue` say which octet lists continue an integer and what they add to it.
The reader computes that value as long as there are at most six of them
(`readRest_continuation`) and refuses more (`readRest_long`).  The writer's
octets are a continuation of the written value.
-/

namespace H2ts.Hpack

open Utf8

/-! ## Prefix integers -/

/-- The bits of `usize` on a 64-bit target. -/
def usizeBits : Nat := 64

/-- `a + b` at width `w`. -/
def usizeAdd (w a b : Nat) : Nat := (a + b) % 2 ^ w

/-- `a << shift` at width `w`; the shift amount is taken modulo the width. -/
def usizeShl (w a shift : Nat) : Nat := a * 2 ^ (shift % w) % 2 ^ w

/-- The continuation octets of a written integer. -/
def writeRest (rest : Nat) : Bytes :=
  if 128 ≤ rest then
    UInt8.ofNat (rest % 128 + 128) :: writeRest (rest / 128)
  else
    [UInt8.ofNat rest]
termination_by rest
decreasing_by omega

/-- Write `value` with a prefix of `prefixBits` bits; the flags are the high bits
of the first octet. -/
def writeInteger (value prefixBits : Nat) (firstByteFlags : UInt8) : Bytes :=
  let max := 2 ^ prefixBits - 1
  if value < max then
    [firstByteFlags ||| UInt8.ofNat value]
  else
    (firstByteFlags ||| UInt8.ofNat max) :: writeRest (value - max)

/-- The loop over continuation octets. -/
def readRest (w value shift : Nat) : ByteReader → Except Fault (Nat × ByteReader)
  | [] => .error (.new .compressionError "truncated integer")
  | byte :: r =>
      let value := usizeAdd w value (usizeShl w (byte &&& 0x7f).toNat shift)
      let shift := shift + 7
      if shift > 42 then
        .error (.new .compressionError "integer overflow")
      else if byte &&& 0x80 = 0 then
        .ok (value, r)
      else
        readRest w value shift r

def readInteger (w : Nat) (r : ByteReader) (prefixBits : Nat) :
    Except Fault (Nat × ByteReader) := do
  let max := 2 ^ prefixBits - 1
  let (first, r) ← r.u8
  let value := (first &&& UInt8.ofNat max).toNat
  if value < max then
    return (value, r)
  readRest w value 0 r

/-! ## String literals -/

def writeString (s : String) : Bytes :=
  let raw := octets s
  if huffmanShorter raw then
    let encoded := huffmanEncode raw
    writeInteger encoded.length 7 0x80 ++ encoded
  else
    writeInteger raw.length 7 0x00 ++ raw

def readString (r : ByteReader) : Except Fault (String × ByteReader) := do
  if r.remaining = 0 then
    throw (.new .compressionError "truncated string")
  let first ← r.peek
  let huffman := first &&& 0x80 != 0
  let (length, r) ← readInteger usizeBits r 7
  if length > r.remaining then
    throw (.new .compressionError "string length exceeds block")
  match r.bytes length with
  | none => throw (.new .compressionError "truncated string")
  | some (raw, r) =>
      let decoded ← if huffman then huffmanDecode raw else pure raw
      return (ofOctetsLossy decoded, r)

/-! ## Continuation octets -/

/-- All octets but the last have their top bit set. -/
def Continuation : Bytes → Prop
  | [] => False
  | [last] => last.toNat < 128
  | byte :: rest => 128 ≤ byte.toNat ∧ Continuation rest

/-- What continuation octets add, seven bits each and the least significant
first. -/
def contValue : Bytes → Nat
  | [] => 0
  | byte :: rest => byte.toNat % 128 + 128 * contValue rest

theorem contValue_lt (l : Bytes) : contValue l < 128 ^ l.length := by
  induction l with
  | nil => simp [contValue]
  | cons byte l ih =>
      rw [contValue, List.length_cons, Nat.pow_succ]
      omega

theorem low7 (byte : UInt8) : (byte &&& 0x7f).toNat = byte.toNat % 128 := by
  rw [UInt8.toNat_and]
  exact Nat.and_two_pow_sub_one_eq_mod byte.toNat 7

theorem top_bit_clear (byte : UInt8) : byte &&& 0x80 = 0 ↔ byte.toNat < 128 := by
  have all : ∀ n : Fin 256, UInt8.ofNat n &&& 0x80 = 0 ↔ (UInt8.ofNat n).toNat < 128 := by
    decide +kernel
  simpa using all ⟨byte.toNat, byte.toNat_lt⟩

/-- Adding an octet does not wrap below the width. -/
theorem usizeAdd_shl {w : Nat} (value k : Nat) (byte : UInt8)
    (fits : value + byte.toNat % 128 * 128 ^ k < 2 ^ w) :
    usizeAdd w value (usizeShl w (byte &&& 0x7f).toNat (7 * k)) =
      value + byte.toNat % 128 * 128 ^ k := by
  have power : 2 ^ (7 * k) = 128 ^ k := by rw [Nat.pow_mul]
  rcases Nat.lt_or_ge (7 * k) w with narrow | wide
  · rw [usizeAdd, usizeShl, low7, Nat.mod_eq_of_lt narrow, power,
      Nat.mod_eq_of_lt (a := byte.toNat % 128 * 128 ^ k) (by omega), Nat.mod_eq_of_lt fits]
  · -- The shift is taken modulo the width, but there is nothing to shift.
    have beyond : 2 ^ w ≤ 128 ^ k := power ▸ Nat.pow_le_pow_right (by omega) wide
    have zero : byte.toNat % 128 = 0 := by
      by_contra some
      have more := Nat.le_mul_of_pos_left (128 ^ k) (Nat.pos_of_ne_zero some)
      omega
    rw [zero, Nat.zero_mul, Nat.add_zero] at fits
    rw [usizeAdd, usizeShl, low7, zero, Nat.zero_mul, Nat.zero_mod, Nat.zero_mul, Nat.add_zero,
      Nat.mod_eq_of_lt fits]

/-- At most six continuation octets are read, whatever follows them. -/
theorem readRest_continuation {w : Nat} (l r : Bytes) (value k : Nat)
    (cont : Continuation l) (few : k + l.length ≤ 6)
    (fits : value + contValue l * 128 ^ k < 2 ^ w) :
    readRest w value (7 * k) (l ++ r) = .ok (value + contValue l * 128 ^ k, r) := by
  induction l generalizing value k with
  | nil => exact cont.elim
  | cons byte l ih =>
      have total : contValue (byte :: l) * 128 ^ k =
          byte.toNat % 128 * 128 ^ k + contValue l * 128 ^ (k + 1) := by
        rw [contValue, Nat.pow_succ]
        ring
      have added := usizeAdd_shl (w := w) value k byte (by rw [total] at fits; omega)
      have low : ¬ 7 * k + 7 > 42 := by
        simp only [List.length_cons] at few
        omega
      simp only [List.cons_append, readRest, added, low, if_false]
      cases l with
      | nil =>
          rw [if_pos ((top_bit_clear byte).mpr cont), total]
          simp [contValue]
      | cons next l =>
          have more : ¬ byte &&& 0x80 = 0 := by
            rw [top_bit_clear]
            exact Nat.not_lt_of_le cont.1
          rw [if_neg more, show 7 * k + 7 = 7 * (k + 1) by omega,
            ih _ (k + 1) cont.2 (by simp only [List.length_cons] at few ⊢; omega)
              (by rw [total] at fits; omega), total, Nat.add_assoc]

/-- A seventh continuation octet is refused. -/
theorem readRest_long (w : Nat) (l r : Bytes) (value k : Nat) (cont : Continuation l)
    (start : k ≤ 6) (many : 6 < k + l.length) :
    readRest w value (7 * k) (l ++ r) =
      .error (.new .compressionError "integer overflow") := by
  induction l generalizing value k with
  | nil => exact cont.elim
  | cons byte l ih =>
      simp only [List.cons_append, readRest]
      by_cases last : k = 6
      · rw [if_pos (by omega)]
      · cases l with
        | nil =>
            simp only [List.length_cons, List.length_nil] at many
            omega
        | cons next l =>
            have more : ¬ byte &&& 0x80 = 0 := by
              rw [top_bit_clear]
              exact Nat.not_lt_of_le cont.1
            rw [if_neg (by omega), if_neg more, show 7 * k + 7 = 7 * (k + 1) by omega]
            exact ih _ (k + 1) cont.2 (by omega)
              (by simp only [List.length_cons] at many ⊢; omega)

/-! ## Written integers -/

theorem writeRest_small {rest : Nat} (h : rest < 128) : writeRest rest = [UInt8.ofNat rest] := by
  rw [writeRest, if_neg (Nat.not_le_of_lt h)]

theorem writeRest_large {rest : Nat} (h : 128 ≤ rest) :
    writeRest rest = UInt8.ofNat (rest % 128 + 128) :: writeRest (rest / 128) := by
  rw [writeRest, if_pos h]

theorem writeRest_ne_nil (rest : Nat) : writeRest rest ≠ [] := by
  by_cases large : 128 ≤ rest
  · simp [writeRest_large large]
  · simp [writeRest_small (Nat.lt_of_not_le large)]

/-- The octets written for the rest of a value continue exactly that value. -/
theorem writeRest_spec (rest : Nat) :
    Continuation (writeRest rest) ∧ contValue (writeRest rest) = rest := by
  induction rest using Nat.strong_induction_on with
  | _ rest ih =>
      by_cases large : 128 ≤ rest
      · obtain ⟨cont, value⟩ := ih (rest / 128) (by omega)
        have octet : (UInt8.ofNat (rest % 128 + 128)).toNat = rest % 128 + 128 := by
          rw [UInt8.toNat_ofNat']
          omega
        rw [writeRest_large large]
        refine ⟨?_, ?_⟩
        · cases tail : writeRest (rest / 128) with
          | nil => exact absurd tail (writeRest_ne_nil _)
          | cons next l =>
              rw [tail] at cont
              refine ⟨?_, cont⟩
              rw [octet]
              omega
        · rw [contValue, octet, value]
          omega
      · have small := Nat.lt_of_not_le large
        have octet : (UInt8.ofNat rest).toNat = rest := by
          rw [UInt8.toNat_ofNat']
          omega
        rw [writeRest_small small]
        refine ⟨?_, ?_⟩
        · change (UInt8.ofNat rest).toNat < 128
          rw [octet]
          exact small
        · simp only [contValue, octet]
          omega

/-- How many octets are written is how many base-128 digits there are. -/
theorem length_writeRest_le (rest n : Nat) :
    (writeRest rest).length ≤ n + 1 ↔ rest < 128 ^ (n + 1) := by
  induction n generalizing rest with
  | zero =>
      by_cases large : 128 ≤ rest
      · have more := List.length_pos_of_ne_nil (writeRest_ne_nil (rest / 128))
        simp only [writeRest_large large, List.length_cons]
        omega
      · rw [writeRest_small (Nat.lt_of_not_le large)]
        simp only [List.length_singleton]
        omega
  | succ n ih =>
      by_cases large : 128 ≤ rest
      · rw [writeRest_large large, List.length_cons, Nat.add_le_add_iff_right, ih,
          Nat.div_lt_iff_lt_mul (by omega), ← Nat.pow_succ]
      · have power : 128 ≤ 128 ^ (n + 1 + 1) := by
          rw [Nat.pow_succ]
          exact Nat.le_mul_of_pos_left 128 (Nat.pow_pos (by omega))
        rw [writeRest_small (Nat.lt_of_not_le large)]
        simp only [List.length_singleton]
        omega

/-! ## Integers as the RFC has them -/

/-- The octets `l` represent `value` with a prefix of `n` bits (RFC 7541 §5.1):
the prefix of the first octet holds the value, or it is all ones and
continuation octets add the rest.  At most six of them are taken. -/
def PrefixInteger (n value : Nat) (l : Bytes) : Prop :=
  ∃ first rest, l = first :: rest ∧
    ((value < 2 ^ n - 1 ∧ first.toNat % 2 ^ n = value ∧ rest = []) ∨
      (first.toNat % 2 ^ n = 2 ^ n - 1 ∧ Continuation rest ∧ rest.length ≤ 6 ∧
        value = 2 ^ n - 1 + contValue rest))

theorem prefix_bits (first : UInt8) {n : Nat} (small : n ≤ 8) :
    (first &&& UInt8.ofNat (2 ^ n - 1)).toNat = first.toNat % 2 ^ n := by
  have power : 2 ^ n ≤ 256 := Nat.pow_le_pow_right (by omega) small
  have mask : (UInt8.ofNat (2 ^ n - 1)).toNat = 2 ^ n - 1 := by
    rw [UInt8.toNat_ofNat']
    omega
  rw [UInt8.toNat_and, mask, Nat.and_two_pow_sub_one_eq_mod]

/-- The reader returns the value the octets represent, and stops behind them. -/
theorem readInteger_of_prefixInteger {n value : Nat} {l : Bytes} (small : n ≤ 8)
    (integer : PrefixInteger n value l) (r : Bytes) :
    readInteger usizeBits (l ++ r) n = .ok (value, r) := by
  obtain ⟨first, rest, rfl, ⟨less, held, rfl⟩ | ⟨ones, cont, few, rfl⟩⟩ := integer
  · simp only [readInteger, List.singleton_append, ByteReader.u8_cons, prefix_bits first small,
      held, less, if_true, bind, Except.bind, pure, Except.pure]
  · have bound : 2 ^ n ≤ 256 := Nat.pow_le_pow_right (by omega) small
    have added : contValue rest < 128 ^ 6 :=
      Nat.lt_of_lt_of_le (contValue_lt rest) (Nat.pow_le_pow_right (by omega) few)
    have read := readRest_continuation (w := usizeBits) rest r (2 ^ n - 1) 0 cont
      (by omega) (by rw [usizeBits]; omega)
    rw [Nat.pow_zero, Nat.mul_one, Nat.mul_zero] at read
    simp only [readInteger, List.cons_append, ByteReader.u8_cons, prefix_bits first small, ones,
      Nat.lt_irrefl, if_false, bind, Except.bind, pure, Except.pure]
    exact read

theorem first_octet {n : Nat} (value : Nat) {flags : UInt8} (small : n ≤ 8) (clear : flags.toNat % 2 ^ n = 0)
    (fits : value < 2 ^ n) : (flags ||| UInt8.ofNat value).toNat % 2 ^ n = value := by
  have power : 2 ^ n ≤ 256 := Nat.pow_le_pow_right (by omega) small
  have octet : (UInt8.ofNat value).toNat = value := by
    rw [UInt8.toNat_ofNat']
    omega
  rw [UInt8.toNat_or, octet, Nat.or_mod_two_pow, clear, Nat.zero_or, Nat.mod_eq_of_lt fits]

/-- A value below `2^42` more than the prefix is written as the RFC has it. -/
theorem prefixInteger_writeInteger (n value : Nat) (flags : UInt8) (small : n ≤ 8)
    (clear : flags.toNat % 2 ^ n = 0) (below : value < 2 ^ n - 1 + 2 ^ 42) :
    PrefixInteger n value (writeInteger value n flags) := by
  have positive : 0 < 2 ^ n := Nat.pow_pos (by omega)
  unfold writeInteger
  by_cases less : value < 2 ^ n - 1
  · rw [if_pos less]
    exact ⟨_, [], rfl, .inl ⟨less, first_octet _ small clear (by omega), rfl⟩⟩
  · rw [if_neg less]
    obtain ⟨cont, sum⟩ := writeRest_spec (value - (2 ^ n - 1))
    refine ⟨_, _, rfl, .inr ⟨first_octet _ small clear (by omega), cont, ?_, ?_⟩⟩
    · rw [length_writeRest_le _ 5]
      omega
    · rw [sum]
      omega

/-- A larger value is written with a seventh continuation octet, which the
reader refuses. -/
theorem readInteger_writeInteger_large {n : Nat} (value : Nat) {flags : UInt8} (small : n ≤ 8)
    (clear : flags.toNat % 2 ^ n = 0) (large : 2 ^ n - 1 + 2 ^ 42 ≤ value) (r : Bytes) :
    readInteger usizeBits (writeInteger value n flags ++ r) n =
      .error (.new .compressionError "integer overflow") := by
  have positive : 0 < 2 ^ n := Nat.pow_pos (by omega)
  have more : ¬ value < 2 ^ n - 1 := by omega
  obtain ⟨cont, -⟩ := writeRest_spec (value - (2 ^ n - 1))
  have many : 6 < 0 + (writeRest (value - (2 ^ n - 1))).length := by
    have digits := length_writeRest_le (value - (2 ^ n - 1)) 5
    omega
  have refused := readRest_long usizeBits _ r (2 ^ n - 1) 0 cont (by omega) many
  rw [Nat.mul_zero] at refused
  have ones := first_octet (2 ^ n - 1) small clear (by omega)
  rw [writeInteger, if_neg more]
  simp only [readInteger, List.cons_append, ByteReader.u8_cons, prefix_bits _ small, ones,
    Nat.lt_irrefl, if_false, bind, Except.bind, pure, Except.pure]
  exact refused

/-! ## Strings as the RFC has them -/

/-- The octets `l` are a string literal of the octets `o` (RFC 7541 §5.2): a
length with the Huffman flag above it, then that many octets, raw or coded. -/
def StringLiteral (o l : Bytes) : Prop :=
  ∃ first rest data, l = first :: rest ++ data ∧ PrefixInteger 7 data.length (first :: rest) ∧
    if first.toNat < 128 then data = o else HuffmanCoded o data

/-- The reader returns the lossy decoding of the literal's octets. -/
theorem readString_of_stringLiteral {o l : Bytes} (literal : StringLiteral o l) (r : Bytes) :
    readString (l ++ r) = .ok (ofOctetsLossy o, r) := by
  obtain ⟨first, rest, data, rfl, length, coded⟩ := literal
  have read := readInteger_of_prefixInteger (by omega) length (data ++ r)
  have some : ByteReader.remaining (first :: (rest ++ (data ++ r))) ≠ 0 := by
    simp [ByteReader.remaining]
  have enough : ¬ data.length > ByteReader.remaining (data ++ r) := by
    simp [ByteReader.remaining]
  simp only [List.cons_append, List.append_assoc] at read ⊢
  simp only [readString, some, if_false, ByteReader.peek, read, enough, ByteReader.bytes_append,
    bind, Except.bind, pure, Except.pure]
  by_cases raw : first.toNat < 128
  · rw [if_pos raw] at coded
    simp [(top_bit_clear first).mpr raw, coded]
  · rw [if_neg raw] at coded
    have set : first &&& 0x80 ≠ 0 := fun clear => raw ((top_bit_clear first).mp clear)
    simp [set, huffmanDecode_of_coded coded]

/-- The number of octets a string is written with, after its length. -/
def writtenLength (s : String) : Nat :=
  if huffmanShorter (octets s) then (huffmanEncode (octets s)).length else (octets s).length

/-- The first octet of a written integer carries the Huffman flag. -/
theorem writeInteger_head (value : Nat) (flags : UInt8) :
    ∃ x < 128, ∃ rest, writeInteger value 7 flags = (flags ||| UInt8.ofNat x) :: rest := by
  unfold writeInteger
  by_cases less : value < 2 ^ 7 - 1
  · rw [if_pos less]
    exact ⟨value, by omega, [], rfl⟩
  · rw [if_neg less]
    exact ⟨2 ^ 7 - 1, by omega, _, rfl⟩

theorem flag_octet {x : Nat} (small : x < 128) :
    ((0x00 ||| UInt8.ofNat x : UInt8).toNat < 128) ∧
      ¬ ((0x80 ||| UInt8.ofNat x : UInt8).toNat < 128) := by
  have octet : (UInt8.ofNat x).toNat = x := by
    rw [UInt8.toNat_ofNat']
    omega
  have high : (0x80 ||| UInt8.ofNat x : UInt8).toNat = 128 + x := by
    rw [UInt8.toNat_or, octet]
    exact (Nat.two_pow_add_eq_or_of_lt (i := 7) small 1).symm
  rw [high, UInt8.toNat_or, octet]
  exact ⟨by simpa using small, by omega⟩

/-- A string whose written form is below `2^42 + 127` octets is written as a
literal of its bytes. -/
theorem stringLiteral_writeString {s : String} (short : writtenLength s < 2 ^ 42 + 127) :
    StringLiteral (octets s) (writeString s) := by
  unfold writtenLength at short
  unfold writeString
  by_cases shorter : huffmanShorter (octets s)
  · simp only [shorter, if_true] at short ⊢
    obtain ⟨x, small, rest, head⟩ := writeInteger_head (huffmanEncode (octets s)).length 0x80
    have integer := prefixInteger_writeInteger 7 (huffmanEncode (octets s)).length 0x80
      (by omega) (by decide) (by omega)
    rw [head] at integer ⊢
    refine ⟨_, _, _, rfl, integer, ?_⟩
    rw [if_neg (flag_octet small).2]
    exact huffmanCoded_huffmanEncode _
  · simp only [shorter, Bool.false_eq_true, if_false] at short ⊢
    obtain ⟨x, small, rest, head⟩ := writeInteger_head (octets s).length 0x00
    have integer := prefixInteger_writeInteger 7 (octets s).length 0x00 (by omega) (by decide)
      (by omega)
    rw [head] at integer ⊢
    refine ⟨_, _, _, rfl, integer, ?_⟩
    rw [if_pos (flag_octet small).1]

/-- A longer string does not survive: its length is refused. -/
theorem readString_writeString_long {s : String} (long : 2 ^ 42 + 127 ≤ writtenLength s)
    (r : Bytes) :
    readString (writeString s ++ r) =
      .error (.new .compressionError "integer overflow") := by
  have refused (flags : UInt8) (data : Bytes) (clear : flags.toNat % 2 ^ 7 = 0)
      (large : 2 ^ 42 + 127 ≤ data.length) :
      readString (writeInteger data.length 7 flags ++ data ++ r) =
        .error (.new .compressionError "integer overflow") := by
    have overflow := readInteger_writeInteger_large (n := 7) data.length (by omega) clear
      (by omega) (data ++ r)
    obtain ⟨x, -, rest, head⟩ := writeInteger_head data.length flags
    rw [List.append_assoc]
    rw [head] at overflow ⊢
    have some : ByteReader.remaining ((flags ||| UInt8.ofNat x) :: (rest ++ (data ++ r))) ≠ 0 := by
      simp [ByteReader.remaining]
    simp only [List.cons_append] at overflow ⊢
    simp only [readString, some, if_false, ByteReader.peek, overflow, bind, Except.bind]
  unfold writtenLength at long
  unfold writeString
  by_cases shorter : huffmanShorter (octets s)
  · simp only [shorter, if_true] at long ⊢
    exact refused 0x80 _ (by decide) long
  · simp only [shorter, Bool.false_eq_true, if_false] at long ⊢
    exact refused 0x00 _ (by decide) long

end H2ts.Hpack
