import H2ts.Errors
import H2ts.Lib.BigEndian

/-!
# Byte primitives

The cursor reader of `bytes.rs`.  A reader is the list of the bytes from its
cursor on.  The fixed-width reads panic when the bytes run out, as indexing a
slice does in Rust, and `bytes` is the fallible read of a slice.  The growable
writer of `bytes.rs` only appends, so what it writes is a concatenation of byte
lists (`BigEndian.be16`, `be24`, `be32`) here.
-/

namespace H2ts

open BigEndian

/-- Bytes on the wire. -/
abbrev Bytes := List UInt8

/-- A cursor reader: the bytes from the cursor on. -/
abbrev ByteReader := List UInt8

namespace ByteReader

/-- The number of bytes after the cursor. -/
def remaining (r : ByteReader) : Nat := r.length

/-- Read one byte. -/
def u8 : ByteReader → Except Fault (UInt8 × ByteReader)
  | a :: r => .ok (a, r)
  | [] => .error .panic

/-- Read a 16-bit word. -/
def u16 : ByteReader → Except Fault (UInt16 × ByteReader)
  | a :: b :: r => .ok (ofBe16 a b, r)
  | _ => .error .panic

/-- Read a 32-bit word. -/
def u32 : ByteReader → Except Fault (UInt32 × ByteReader)
  | a :: b :: c :: d :: r => .ok (ofBe32 a b c d, r)
  | _ => .error .panic

/-- Read `n` bytes, or nothing if fewer remain. -/
def bytes (r : ByteReader) (n : Nat) : Option (Bytes × ByteReader) :=
  if r.remaining < n then none else some (r.take n, r.drop n)

/-- The byte at the cursor. -/
def peek : ByteReader → Except Fault UInt8
  | a :: _ => .ok a
  | [] => .error .panic

theorem u8_cons (a : UInt8) (r : ByteReader) : u8 (a :: r) = .ok (a, r) := rfl

theorem u16_be16 (v : UInt16) (r : ByteReader) : u16 (be16 v ++ r) = .ok (v, r) := by
  simp only [be16, List.cons_append, List.nil_append, u16, ofBe16_be16]

theorem u32_be32 (v : UInt32) (r : ByteReader) : u32 (be32 v ++ r) = .ok (v, r) := by
  simp only [be32, List.cons_append, List.nil_append, u32, ofBe32_be32]

/-- Reading exactly the bytes written before `r` gives them back. -/
theorem bytes_append (front r : Bytes) : bytes (front ++ r) front.length = some (front, r) := by
  simp [bytes, remaining]

end ByteReader

end H2ts
