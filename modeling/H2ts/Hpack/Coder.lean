import H2ts.Hpack.Primitives

/-!
# The HPACK decoder and encoder

`HpackDecoder` and `HpackEncoder` of `hpack/mod.rs`.  The decoder has a dynamic
table, newest entry first, whose size counts the UTF-8 bytes of the decoded
strings.  The encoder is stateless: it indexes exact static matches, refers to
static names and otherwise writes literals.
-/

namespace H2ts.Hpack

open Utf8

def ENTRY_OVERHEAD : Nat := 32

/-- A header field.  `neverIndex` asks the encoder for the never-indexed form. -/
structure Header where
  name : String
  value : String
  neverIndex : Bool
deriving DecidableEq, Repr

namespace Header

def new (name value : String) : Header := ⟨name, value, false⟩

def neverIndexed (name value : String) : Header := ⟨name, value, true⟩

end Header

/-! ## The decoder -/

/-- A table entry. -/
abbrev Entry := String × String

/-- `name.len() + value.len() + ENTRY_OVERHEAD`. -/
def entrySize (e : Entry) : Nat := (octets e.1).length + (octets e.2).length + ENTRY_OVERHEAD

structure HpackDecoder where
  /-- Newest first. -/
  dynamic : List Entry
  size : Nat
  maxSize : Nat
  protocolMax : Nat
deriving DecidableEq, Repr

namespace HpackDecoder

def new (maxSize : Nat) : HpackDecoder := ⟨[], 0, maxSize, maxSize⟩

/-- The eviction loop on the entries, oldest first: pop while the size and the
room asked for exceed the maximum. -/
def evictOldest (room maxSize : Nat) : List Entry → Nat → List Entry × Nat
  | [], size => ([], size)
  | oldest :: entries, size =>
      if size + room > maxSize then evictOldest room maxSize entries (size - entrySize oldest)
      else (oldest :: entries, size)

/-- Pop entries off the end of the table until `room` more bytes fit. -/
def evict (d : HpackDecoder) (room : Nat) : HpackDecoder :=
  let (entries, size) := evictOldest room d.maxSize d.dynamic.reverse d.size
  { d with dynamic := entries.reverse, size := size }

def insert (d : HpackDecoder) (name value : String) : HpackDecoder :=
  let entrySize := entrySize (name, value)
  let d := d.evict entrySize
  if entrySize ≤ d.maxSize then
    { d with dynamic := (name, value) :: d.dynamic, size := d.size + entrySize }
  else
    -- An entry larger than the whole table leaves it empty (RFC 7541 §4.4).
    { d with dynamic := [], size := 0 }

def applyMaxSize (d : HpackDecoder) (newSize : Nat) : Except Fault HpackDecoder :=
  if newSize > d.protocolMax then
    .error (.new .compressionError "dynamic table size update too large")
  else
    .ok (evict { d with maxSize := newSize } 0)

def setProtocolMaxSize (d : HpackDecoder) (n : Nat) : HpackDecoder :=
  let d := { d with protocolMax := n }
  if d.maxSize > n then (d.applyMaxSize n).toOption.getD d else d

def entryAt (d : HpackDecoder) (index : Nat) : Except Fault Entry :=
  if 1 ≤ index ∧ index ≤ STATIC_TABLE_LENGTH then
    .ok (STATIC_TABLE.getD (index - 1) ("", ""))
  else if index < STATIC_TABLE_LENGTH + 1 then
    -- `index - STATIC_TABLE_LENGTH - 1` underflows.
    .error .panic
  else
    match d.dynamic[index - STATIC_TABLE_LENGTH - 1]? with
    | some entry => .ok entry
    | none => .error (.new .compressionError ("invalid HPACK index " ++ toString index))

/-- The name of a literal: a string of its own, or the name of an entry. -/
def readName (d : HpackDecoder) (nameIndex : Nat) (r : ByteReader) :
    Except Fault (String × ByteReader) :=
  if nameIndex = 0 then readString r
  else do
    let entry ← d.entryAt nameIndex
    return (entry.1, r)

/-- One round of the decoding loop.  The table changes only when the round
succeeds. -/
def decodeField (d : HpackDecoder) (r : ByteReader) :
    Except Fault (HpackDecoder × Option Header × ByteReader) := do
  let first ← r.peek
  if first &&& 0x80 ≠ 0 then
    -- Indexed header field.
    let (index, r) ← readInteger usizeBits r 7
    if index = 0 then
      throw (.new .compressionError "indexed field with index 0")
    let (name, value) ← d.entryAt index
    return (d, some ⟨name, value, false⟩, r)
  else if first &&& 0x40 ≠ 0 then
    -- Literal with incremental indexing.
    let (nameIndex, r) ← readInteger usizeBits r 6
    let (name, r) ← d.readName nameIndex r
    let (value, r) ← readString r
    return (d.insert name value, some ⟨name, value, false⟩, r)
  else if first &&& 0x20 ≠ 0 then
    -- Dynamic table size update.
    let (newSize, r) ← readInteger usizeBits r 5
    let d ← d.applyMaxSize newSize
    return (d, none, r)
  else
    -- Literal without indexing or never indexed.
    let (nameIndex, r) ← readInteger usizeBits r 4
    let (name, r) ← d.readName nameIndex r
    let (value, r) ← readString r
    return (d, some ⟨name, value, false⟩, r)

/-- The decoding loop.  Every round uses up a byte, so the length of the block is
fuel enough. -/
def decodeLoop : Nat → HpackDecoder → ByteReader → List Header →
    HpackDecoder × Except Fault (List Header)
  | 0, d, _, headers => (d, .ok headers)
  | fuel + 1, d, r, headers =>
      if r.remaining = 0 then (d, .ok headers)
      else
        match d.decodeField r with
        | .error fault => (d, .error fault)
        | .ok (d, header, r) => decodeLoop fuel d r (headers ++ header.toList)

/-- Decode a complete header block. -/
def decode (d : HpackDecoder) (block : Bytes) : HpackDecoder × Except Fault (List Header) :=
  decodeLoop block.length d block []

end HpackDecoder

/-! ## The encoder -/

/-- The static lookup maps.  An association list stands for a hash map: the first
pair of a key is its value. -/
structure StaticMaps where
  /-- Header name to 1-based index, first occurrence. -/
  nameToIndex : List (String × Nat)
  /-- Name, NUL and value to 1-based index. -/
  pairToIndex : List (String × Nat)

def pairKey (name value : String) : String := name ++ "\x00" ++ value

/-- `entry(key).or_insert(value)`. -/
def orInsert (key : String) (value : Nat) (map : List (String × Nat)) : List (String × Nat) :=
  match map.lookup key with
  | some _ => map
  | none => (key, value) :: map

def staticMaps : StaticMaps :=
  STATIC_TABLE.zipIdx.foldl
    (fun maps (entry, i) =>
      ⟨orInsert entry.1 (i + 1) maps.nameToIndex,
        (pairKey entry.1 entry.2, i + 1) :: maps.pairToIndex⟩)
    ⟨[], []⟩

def toAsciiLowercase (s : String) : String := String.ofList (s.toList.map Char.toLower)

/-- The representation of one header. -/
def encodeHeader (header : Header) : Bytes :=
  let name := toAsciiLowercase header.name
  let value := header.value
  match staticMaps.pairToIndex.lookup (pairKey name value) with
  | some index => writeInteger index 7 0x80
  | none =>
      let flags : UInt8 := if header.neverIndex then 0x10 else 0x00
      (match staticMaps.nameToIndex.lookup name with
        | some nameIndex => writeInteger nameIndex 4 flags
        | none => writeInteger 0 4 flags ++ writeString name) ++ writeString value

/-- `HpackEncoder::encode`. -/
def encode (headers : List Header) : Bytes := headers.flatMap encodeHeader

end H2ts.Hpack
