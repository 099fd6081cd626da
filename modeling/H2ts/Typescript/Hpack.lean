import H2ts.Hpack.Representation
import H2ts.Lib.Utf16
import H2ts.Typescript.Codec

/-!
# The TypeScript HPACK decoder

`HpackDecoder` of `hpack/hpack.ts`.  It is written as the one in Rust is, but strings are
UTF-16: an entry is charged its code units, and `TextDecoder` drops a byte order mark.  A read
behind the end throws a `RangeError`.  The Huffman decoder, its trie and both tables are the same.

Numbers are exact, so an integer that Rust reads in 64 bits is read here too (`readInteger_eq`).
-/

namespace H2ts

namespace TsHpack

open Typescript (Thrown)

/-- `new H2Error("COMPRESSION_ERROR", message)`. -/
def compressionError (message : String) : Thrown := .h2 .compressionError message none

/-! ## Integers and strings -/

def u8 : ByteReader → Except Thrown (UInt8 × ByteReader)
  | byte :: r => .ok (byte, r)
  | [] => .error .range

def peek : ByteReader → Except Thrown UInt8
  | byte :: _ => .ok byte
  | [] => .error .range

/-- The loop over continuation octets. -/
def readRest (value shift : Nat) : ByteReader → Except Thrown (Nat × ByteReader)
  | [] => .error .range
  | byte :: r =>
      let value := value + (byte &&& 0x7f).toNat * 2 ^ shift
      let shift := shift + 7
      if shift > 42 then .error (compressionError "integer overflow")
      else if byte &&& 0x80 ≠ 0 then readRest value shift r
      else .ok (value, r)

def readInteger (r : ByteReader) (prefixBits : Nat) : Except Thrown (Nat × ByteReader) := do
  let max := 2 ^ prefixBits - 1
  let (first, r) ← u8 r
  let value := (first &&& UInt8.ofNat max).toNat
  if value < max then
    return (value, r)
  readRest value 0 r

/-- `huffmanDecode` of `hpack/huffman.ts`, with its three errors. -/
def huffmanDecode (input : Bytes) : Except Thrown Bytes :=
  match Hpack.huffmanDecode input with
  | .ok out => .ok out
  | .error (.h2 error) => .error (compressionError (error.message.getD ""))
  | .error .panic => .error .range

def readString (r : ByteReader) : Except Thrown (String × ByteReader) := do
  let first ← peek r
  let huffman := first &&& 0x80 != 0
  let (length, r) ← readInteger r 7
  if length > r.remaining then
    throw (compressionError "string length exceeds block")
  let bytes := r.take length
  let decoded ← if huffman then huffmanDecode bytes else pure bytes
  return (Utf16.decode decoded, r.drop length)

/-! ## The decoder -/

def ENTRY_OVERHEAD : Nat := 32

/-- A table entry. -/
abbrev HeaderEntry := String × String

/-- `name.length + value.length + ENTRY_OVERHEAD`. -/
def entrySize (e : HeaderEntry) : Nat := Utf16.length e.1 + Utf16.length e.2 + ENTRY_OVERHEAD

structure HpackDecoder where
  /-- Newest first. -/
  dynamic : List HeaderEntry
  size : Nat
  maxSize : Nat
  protocolMax : Nat
deriving DecidableEq, Repr

namespace HpackDecoder

def new (maxSize : Nat) : HpackDecoder := ⟨[], 0, maxSize, maxSize⟩

/-- The loops that pop entries, oldest first: as long as the size and the room asked for exceed
the maximum. -/
def popOldest (room maxSize : Nat) : List HeaderEntry → Nat → List HeaderEntry × Nat
  | [], size => ([], size)
  | removed :: entries, size =>
      if size + room > maxSize then popOldest room maxSize entries (size - entrySize removed)
      else (removed :: entries, size)

def evict (d : HpackDecoder) (room : Nat) : HpackDecoder :=
  let (entries, size) := popOldest room d.maxSize d.dynamic.reverse d.size
  { d with dynamic := entries.reverse, size := size }

def insert (d : HpackDecoder) (name value : String) : HpackDecoder :=
  let entrySize := entrySize (name, value)
  let d := d.evict entrySize
  if entrySize ≤ d.maxSize then
    { d with dynamic := (name, value) :: d.dynamic, size := d.size + entrySize }
  else
    { d with dynamic := [], size := 0 }

def applyMaxSize (d : HpackDecoder) (newSize : Nat) : Except Thrown HpackDecoder :=
  if newSize > d.protocolMax then
    .error (compressionError "dynamic table size update too large")
  else
    .ok (evict { d with maxSize := newSize } 0)

/-- An index is never zero here. -/
def entryAt (d : HpackDecoder) (index : Nat) : Except Thrown HeaderEntry :=
  if index ≥ 1 ∧ index ≤ Hpack.STATIC_TABLE_LENGTH then
    .ok (Hpack.STATIC_TABLE.getD (index - 1) ("", ""))
  else
    match d.dynamic[index - Hpack.STATIC_TABLE_LENGTH - 1]? with
    | some entry => .ok entry
    | none => .error (compressionError ("invalid HPACK index " ++ toString index))

/-- The name of a literal: a string of its own, or the name of an entry. -/
def readName (d : HpackDecoder) (nameIndex : Nat) (r : ByteReader) :
    Except Thrown (String × ByteReader) :=
  if nameIndex = 0 then readString r
  else do
    let entry ← d.entryAt nameIndex
    return (entry.1, r)

/-- One round of the loop of `decode`. -/
def decodeField (d : HpackDecoder) (r : ByteReader) :
    Except Thrown (HpackDecoder × Option Hpack.Header × ByteReader) := do
  let first ← peek r
  if first &&& 0x80 ≠ 0 then
    -- Indexed header field.
    let (index, r) ← readInteger r 7
    if index = 0 then
      throw (compressionError "indexed field with index 0")
    let (name, value) ← d.entryAt index
    return (d, some ⟨name, value, false⟩, r)
  else if first &&& 0x40 ≠ 0 then
    -- Literal with incremental indexing.
    let (nameIndex, r) ← readInteger r 6
    let (name, r) ← d.readName nameIndex r
    let (value, r) ← readString r
    return (d.insert name value, some ⟨name, value, false⟩, r)
  else if first &&& 0x20 ≠ 0 then
    -- Dynamic table size update.
    let (newSize, r) ← readInteger r 5
    let d ← d.applyMaxSize newSize
    return (d, none, r)
  else
    -- Literal without indexing or never indexed.
    let (nameIndex, r) ← readInteger r 4
    let (name, r) ← d.readName nameIndex r
    let (value, r) ← readString r
    return (d, some ⟨name, value, false⟩, r)

/-- The loop of `decode`.  Every round uses up a byte, so the length of the block is fuel enough. -/
def decodeLoop : Nat → HpackDecoder → ByteReader → List Hpack.Header →
    HpackDecoder × Except Thrown (List Hpack.Header)
  | 0, d, _, headers => (d, .ok headers)
  | fuel + 1, d, r, headers =>
      if r.remaining = 0 then (d, .ok headers)
      else
        match d.decodeField r with
        | .error thrown => (d, .error thrown)
        | .ok (d, header, r) => decodeLoop fuel d r (headers ++ header.toList)

/-- Decode a complete header block. -/
def decode (d : HpackDecoder) (block : Bytes) : HpackDecoder × Except Thrown (List Hpack.Header) :=
  decodeLoop block.length d block []

/-- Decode blocks one after the other, as the connection does. -/
def decodeBlocks (d : HpackDecoder) : List Bytes → Except Thrown (List (List Hpack.Header))
  | [] => .ok []
  | block :: blocks =>
      match d.decode block with
      | (_, .error thrown) => .error thrown
      | (d, .ok headers) => (d.decodeBlocks blocks).map (headers :: ·)

end HpackDecoder

/-! ## Reading as in Rust -/

/-- What continuation octets come to in 64 bits they come to here. -/
theorem readRest_eq {r : ByteReader} {value k v : Nat} {rest : ByteReader} (start : k ≤ 6)
    (small : value < 256 + 128 ^ k) (read : Hpack.readRest Hpack.usizeBits value (7 * k) r = .ok (v, rest)) :
    readRest value (7 * k) r = .ok (v, rest) := by
  induction r generalizing value k with
  | nil => cases read
  | cons byte r ih =>
      have low : (byte &&& 0x7f).toNat < 128 := by
        rw [Hpack.low7]
        exact Nat.mod_lt _ (by omega)
      have power : 128 ^ (k + 1) = 128 * 128 ^ k := by rw [Nat.pow_succ, Nat.mul_comm]
      have most : 128 ^ k ≤ 128 ^ 6 := Nat.pow_le_pow_right (by omega) start
      have term : (byte &&& 0x7f).toNat * 128 ^ k + 128 ^ k ≤ 128 * 128 ^ k := by
        rw [← Nat.succ_mul]
        exact Nat.mul_le_mul_right _ low
      have shift : 2 ^ (7 * k) = 128 ^ k := by rw [Nat.pow_mul]
      have added : Hpack.usizeAdd Hpack.usizeBits value
          (Hpack.usizeShl Hpack.usizeBits (byte &&& 0x7f).toNat (7 * k)) =
            value + (byte &&& 0x7f).toNat * 2 ^ (7 * k) := by
        rw [Hpack.low7] at term
        rw [Hpack.usizeAdd_shl value k byte (by rw [Hpack.usizeBits]; omega), Hpack.low7, shift]
      rw [Hpack.readRest] at read
      rw [readRest]
      simp only [added] at read ⊢
      split at read
      · cases read
      next less =>
        rw [if_neg less]
        split at read
        next last =>
          rw [if_neg (not_not.mpr last)]
          cases read
          rfl
        next more =>
          rw [if_pos more]
          rw [show 7 * k + 7 = 7 * (k + 1) by omega] at read ⊢
          refine ih (by omega) ?_ read
          rw [shift, power]
          omega

theorem readInteger_eq {r : ByteReader} {n v : Nat} {rest : ByteReader}
    (read : Hpack.readInteger Hpack.usizeBits r n = .ok (v, rest)) : readInteger r n = .ok (v, rest) := by
  cases r with
  | nil => cases read
  | cons first r =>
      have bound := (first &&& UInt8.ofNat (2 ^ n - 1)).toNat_lt
      simp only [Hpack.readInteger, ByteReader.u8_cons, bind, Except.bind] at read
      simp only [readInteger, u8, bind, Except.bind]
      split at read
      next less =>
        rw [if_pos less]
        cases read
        rfl
      next =>
        rw [if_neg ‹_›]
        exact readRest_eq (k := 0) (by omega) (by omega) read

theorem huffmanDecode_eq {input out : Bytes} (decoded : Hpack.huffmanDecode input = .ok out) :
    huffmanDecode input = .ok out := by
  rw [huffmanDecode, decoded]

theorem readString_of_stringLiteral {o l : Bytes} (literal : Hpack.StringLiteral o l) (r : Bytes) :
    readString (l ++ r) = .ok (Utf16.decode o, r) := by
  obtain ⟨first, rest, data, rfl, length, coded⟩ := literal
  have read := readInteger_eq (Hpack.readInteger_of_prefixInteger (by omega) length (data ++ r))
  have enough : ¬ data.length > ByteReader.remaining (data ++ r) := by
    rw [ByteReader.remaining, List.length_append]
    omega
  rw [List.cons_append, List.cons_append, List.append_assoc]
  rw [List.cons_append] at read
  simp only [readString, peek, read, if_neg enough, List.take_left, List.drop_left, bind, Except.bind]
  by_cases raw : first.toNat < 128
  · rw [if_pos raw] at coded
    rw [(Hpack.top_bit_clear first).mpr raw, coded]
    rfl
  · rw [if_neg raw] at coded
    have set : (first &&& 0x80 != 0) = true :=
      bne_iff_ne.mpr fun clear => raw ((Hpack.top_bit_clear first).mp clear)
    rw [set, if_pos rfl, huffmanDecode_eq (Hpack.huffmanDecode_of_coded coded)]
    rfl

/-- What Rust reads is read here, decoded in the other way. -/
theorem readString_eq {r rest : ByteReader} {s : String} (read : Hpack.readString r = .ok (s, rest)) :
    ∃ octets, s = Utf8.ofOctetsLossy octets ∧ readString r = .ok (Utf16.decode octets, rest) := by
  cases r with
  | nil => cases read
  | cons first r =>
      have left : ByteReader.remaining (first :: r) ≠ 0 := Nat.succ_ne_zero _
      rw [Hpack.readString, if_neg left] at read
      obtain ⟨head, peeked, read⟩ := Fault.ok_of_bind read
      cases peeked
      obtain ⟨⟨length, behind⟩, integer, read⟩ := Fault.ok_of_bind read
      simp only at read
      by_cases long : length > behind.remaining
      · rw [if_pos long] at read
        cases read
      rw [if_neg long] at read
      have enough : behind.bytes length = some (behind.take length, behind.drop length) := by
        rw [ByteReader.bytes, if_neg long]
      simp only [enough] at read
      have integer' := readInteger_eq integer
      by_cases huffman : (first &&& 0x80 != 0) = true
      · rw [if_pos huffman] at read
        obtain ⟨octets, decoded, read⟩ := Fault.ok_of_bind read
        cases read
        refine ⟨octets, rfl, ?_⟩
        simp only [readString, peek, integer', if_neg long, if_pos huffman, huffmanDecode_eq decoded, bind,
          Except.bind]
        rfl
      · rw [if_neg huffman] at read
        cases read
        refine ⟨behind.take length, rfl, ?_⟩
        simp only [readString, peek, integer', if_neg long, if_neg huffman, bind, Except.bind]
        rfl

end TsHpack

end H2ts
