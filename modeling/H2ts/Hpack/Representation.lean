import H2ts.Hpack.Coder

/-!
# Header field representations

The binary format of RFC 7541 §6 as a relation between representations and
octets.  A block is a sequence of representations.  `decodeField_of_represents`
says what one round of the decoder does on a representation, in terms of
`HpackDecoder.perform`, and `decode_of_block` lifts it to blocks: on a block the
decoder performs its representations in order.

The results about the encoder and about the reference decoder both go through
these two lemmas, so that only this module looks into the decoding loop.
-/

namespace H2ts.Hpack

open Utf8

/-! ## The format -/

/-- How a literal is to be indexed. -/
inductive Indexing where
  | incremental
  | without
  | never
deriving DecidableEq, Repr

/-- The name of a literal: that of a table entry, or octets of its own. -/
inductive NameRef where
  | entry (index : Nat)
  | octets (name : Bytes)
deriving DecidableEq, Repr

/-- A header field representation. -/
inductive Representation where
  | indexed (index : Nat)
  | literal (indexing : Indexing) (name : NameRef) (value : Bytes)
  | sizeUpdate (maxSize : Nat)
deriving DecidableEq, Repr

namespace Indexing

def prefixBits : Indexing → Nat
  | incremental => 6
  | without => 4
  | never => 4

/-- The bits above the prefix of the first octet. -/
def Pattern : Indexing → UInt8 → Prop
  | incremental, first => 64 ≤ first.toNat ∧ first.toNat < 128
  | without, first => first.toNat < 16
  | never, first => 16 ≤ first.toNat ∧ first.toNat < 32

end Indexing

/-- The octets after the index of a literal's name. -/
def NameRef.Represents : NameRef → Nat → Bytes → Prop
  | entry i, index, l => index = i ∧ 0 < i ∧ l = []
  | octets name, index, l => index = 0 ∧ StringLiteral name l

/-- The octets of a representation. -/
def Representation.Represents : Representation → Bytes → Prop
  | indexed index, l =>
      ∃ first rest, l = first :: rest ∧ 128 ≤ first.toNat ∧ PrefixInteger 7 index (first :: rest)
  | literal indexing name value, l =>
      ∃ first rest index nameOctets valueOctets,
        l = first :: rest ++ (nameOctets ++ valueOctets) ∧ indexing.Pattern first ∧
          PrefixInteger indexing.prefixBits index (first :: rest) ∧
          name.Represents index nameOctets ∧ StringLiteral value valueOctets
  | sizeUpdate maxSize, l =>
      ∃ first rest, l = first :: rest ∧ 32 ≤ first.toNat ∧ first.toNat < 64 ∧
        PrefixInteger 5 maxSize (first :: rest)

/-- The octets of a header block. -/
def BlockOf (reps : List Representation) (block : Bytes) : Prop :=
  ∃ parts, block = parts.flatten ∧ List.Forall₂ Representation.Represents reps parts

/-! ## What the decoder does with a representation -/

namespace HpackDecoder

/-- The name a literal stands for. -/
def nameOf (d : HpackDecoder) : NameRef → Except Fault String
  | .entry index => (d.entryAt index).map Prod.fst
  | .octets name => .ok (ofOctetsLossy name)

/-- Add a literal to the table, if it asks for it. -/
def remember (d : HpackDecoder) (indexing : Indexing) (name value : String) : HpackDecoder :=
  match indexing with
  | .incremental => d.insert name value
  | _ => d

/-- The effect of a representation: the table after it, and its header. -/
def perform (d : HpackDecoder) : Representation → Except Fault (HpackDecoder × Option Header)
  | .indexed index =>
      if index = 0 then .error (.new .compressionError "indexed field with index 0")
      else (d.entryAt index).map fun entry => (d, some ⟨entry.1, entry.2, false⟩)
  | .literal indexing name value =>
      (d.nameOf name).map fun name =>
        (d.remember indexing name (ofOctetsLossy value),
          some ⟨name, ofOctetsLossy value, false⟩)
  | .sizeUpdate maxSize => (d.applyMaxSize maxSize).map fun d => (d, none)

/-- Perform representations in order, up to the first that fails. -/
def performAll (d : HpackDecoder) : List Representation → List Header →
    HpackDecoder × Except Fault (List Header)
  | [], headers => (d, .ok headers)
  | rep :: reps, headers =>
      match d.perform rep with
      | .error fault => (d, .error fault)
      | .ok (d, header) => performAll d reps (headers ++ header.toList)

end HpackDecoder

/-! ## One round -/

theorem indexed_bit (first : UInt8) : first &&& 0x80 ≠ 0 ↔ 128 ≤ first.toNat := by
  rw [ne_eq, top_bit_clear, Nat.not_lt]

theorem lower_bits (first : UInt8) (low : first.toNat < 128) :
    (first &&& 0x40 ≠ 0 ↔ 64 ≤ first.toNat) ∧
      (first.toNat < 64 → (first &&& 0x20 ≠ 0 ↔ 32 ≤ first.toNat)) := by
  have all : ∀ n : Fin 128, (UInt8.ofNat n &&& 0x40 ≠ 0 ↔ 64 ≤ (UInt8.ofNat n).toNat) ∧
      ((UInt8.ofNat n).toNat < 64 → (UInt8.ofNat n &&& 0x20 ≠ 0 ↔ 32 ≤ (UInt8.ofNat n).toNat)) := by
    decide +kernel
  simpa using all ⟨first.toNat, low⟩

theorem Indexing.Pattern.unindexed {indexing : Indexing} {first : UInt8}
    (pattern : indexing.Pattern first) (notIncremental : indexing ≠ .incremental) :
    first.toNat < 32 := by
  cases indexing with
  | incremental => exact absurd rfl notIncremental
  | without => exact Nat.lt_trans pattern (by omega)
  | never => exact pattern.2

theorem readName_of_represents (d : HpackDecoder) {name : NameRef} {index : Nat} {l : Bytes}
    (named : name.Represents index l) (r : Bytes) :
    d.readName index (l ++ r) = (d.nameOf name).map fun name => (name, r) := by
  cases name with
  | entry i =>
      obtain ⟨rfl, positive, rfl⟩ := named
      have nonzero : index ≠ 0 := by omega
      simp only [HpackDecoder.readName, HpackDecoder.nameOf, nonzero, if_false, List.nil_append]
      cases d.entryAt index with
      | error fault => rfl
      | ok entry => rfl
  | octets name =>
      obtain ⟨rfl, literal⟩ := named
      simp only [HpackDecoder.readName, HpackDecoder.nameOf, if_true,
        readString_of_stringLiteral literal]
      rfl

/-- The round on a literal that is not indexed: both forms share a branch. -/
theorem decodeField_unindexed (d : HpackDecoder) {first : UInt8} (r : Bytes)
    (small : first.toNat < 32) :
    d.decodeField (first :: r) = do
      let (nameIndex, r) ← readInteger usizeBits (first :: r) 4
      let (name, r) ← d.readName nameIndex r
      let (value, r) ← readString r
      return (d, some ⟨name, value, false⟩, r) := by
  have notIndexed : ¬ first &&& 0x80 ≠ 0 := by rw [indexed_bit]; omega
  have bits := lower_bits first (by omega)
  have notIncremental : ¬ first &&& 0x40 ≠ 0 := by rw [bits.1]; omega
  have notUpdate : ¬ first &&& 0x20 ≠ 0 := by rw [bits.2 (by omega)]; omega
  simp only [HpackDecoder.decodeField, ByteReader.peek, notIndexed, notIncremental, notUpdate,
    bind, Except.bind, if_false]

/-- A round on the octets of a representation performs it and stops behind. -/
theorem decodeField_of_represents (d : HpackDecoder) {rep : Representation} {l : Bytes}
    (represents : rep.Represents l) (r : Bytes) :
    d.decodeField (l ++ r) = (d.perform rep).map fun after => (after.1, after.2, r) := by
  cases rep with
  | indexed index =>
      obtain ⟨first, rest, rfl, high, integer⟩ := represents
      have read := readInteger_of_prefixInteger (by omega) integer r
      rw [List.cons_append] at read ⊢
      have bit := (indexed_bit first).mpr high
      simp only [HpackDecoder.decodeField, ByteReader.peek, bit, read, HpackDecoder.perform, bind,
        Except.bind, if_true, ne_eq, not_false_eq_true]
      by_cases zero : index = 0
      · simp only [zero, if_true]
        rfl
      · simp only [zero, if_false]
        cases d.entryAt index with
        | error fault => rfl
        | ok entry => rfl
  | literal indexing name value =>
      obtain ⟨first, rest, index, nameOctets, valueOctets, rfl, pattern, integer, named, literal⟩ :=
        represents
      have read := readInteger_of_prefixInteger (by cases indexing <;> decide) integer
        (nameOctets ++ (valueOctets ++ r))
      have nameRead := readName_of_represents d named (valueOctets ++ r)
      have valueRead := readString_of_stringLiteral literal r
      simp only [List.append_assoc, List.cons_append] at read ⊢
      by_cases incremental : indexing = .incremental
      · subst incremental
        have notIndexed : ¬ first &&& 0x80 ≠ 0 := by
          rw [indexed_bit]
          exact Nat.not_le_of_lt pattern.2
        have bit := (lower_bits first pattern.2).1.mpr pattern.1
        simp only [Indexing.prefixBits] at read
        simp only [HpackDecoder.decodeField, ByteReader.peek, notIndexed, bit, read, nameRead,
          HpackDecoder.perform, HpackDecoder.remember, bind, Except.bind, if_true, if_false,
          ne_eq, not_false_eq_true]
        cases d.nameOf name with
        | error fault => rfl
        | ok name => simp only [Except.map, valueRead]; rfl
      · have small := pattern.unindexed incremental
        have four : indexing.prefixBits = 4 := by
          cases indexing <;> simp_all [Indexing.prefixBits]
        have kept (name value : String) : d.remember indexing name value = d := by
          cases indexing <;> simp_all [HpackDecoder.remember]
        rw [four] at read
        simp only [decodeField_unindexed d _ small, read, nameRead, HpackDecoder.perform, kept,
          bind, Except.bind]
        cases d.nameOf name with
        | error fault => rfl
        | ok name => simp only [Except.map, valueRead]; rfl
  | sizeUpdate maxSize =>
      obtain ⟨first, rest, rfl, high, low, integer⟩ := represents
      have read := readInteger_of_prefixInteger (by omega) integer r
      rw [List.cons_append] at read ⊢
      have notIndexed : ¬ first &&& 0x80 ≠ 0 := by
        rw [indexed_bit]
        omega
      have bits := lower_bits first (by omega)
      have notLiteral : ¬ first &&& 0x40 ≠ 0 := by rw [bits.1]; omega
      have bit := (bits.2 low).mpr high
      simp only [HpackDecoder.decodeField, ByteReader.peek, notIndexed, notLiteral, bit, read,
        HpackDecoder.perform, bind, Except.bind, if_true, if_false, ne_eq, not_false_eq_true]
      cases d.applyMaxSize maxSize with
      | error fault => rfl
      | ok d => rfl

/-! ## A block -/

theorem Representation.Represents.ne_nil {rep : Representation} {l : Bytes}
    (represents : rep.Represents l) : l ≠ [] := by
  cases rep with
  | indexed index => obtain ⟨first, rest, rfl, -⟩ := represents; simp
  | literal indexing name value => obtain ⟨first, rest, _, _, _, rfl, -⟩ := represents; simp
  | sizeUpdate maxSize => obtain ⟨first, rest, rfl, -⟩ := represents; simp

/-- The loop performs the representations in front of it before it looks at the
octets behind them. -/
theorem decodeLoop_of_represents {reps : List Representation} {parts : List Bytes}
    (represents : List.Forall₂ Representation.Represents reps parts) (r : Bytes) (fuel : Nat)
    (enough : (parts.flatten ++ r).length ≤ fuel) (d : HpackDecoder) (headers : List Header) :
    HpackDecoder.decodeLoop fuel d (parts.flatten ++ r) headers =
      match d.performAll reps headers with
      | (d, .error fault) => (d, .error fault)
      | (d, .ok headers) => HpackDecoder.decodeLoop (fuel - reps.length) d r headers := by
  induction represents generalizing fuel d headers with
  | nil => simp [HpackDecoder.performAll]
  | @cons rep part reps parts first rest ih =>
      have nonempty := List.length_pos_of_ne_nil first.ne_nil
      rw [List.flatten_cons, List.append_assoc, List.length_append] at enough
      obtain ⟨fuel, rfl⟩ : ∃ n, fuel = n + 1 := ⟨fuel - 1, by omega⟩
      have some : ByteReader.remaining (part ++ (parts.flatten ++ r)) ≠ 0 := by
        rw [ByteReader.remaining, List.length_append]
        omega
      rw [List.flatten_cons, List.append_assoc, HpackDecoder.decodeLoop, if_neg some,
        decodeField_of_represents d first, HpackDecoder.performAll]
      cases d.perform rep with
      | error fault => rfl
      | ok after =>
          simp only [Except.map]
          rw [ih fuel (by omega), List.length_cons, Nat.add_sub_add_right]

/-- Decoding a block performs its representations in order. -/
theorem decode_of_block {reps : List Representation} {block : Bytes} (blockOf : BlockOf reps block)
    (d : HpackDecoder) : d.decode block = d.performAll reps [] := by
  obtain ⟨parts, rfl, represents⟩ := blockOf
  have loop := decodeLoop_of_represents represents [] parts.flatten.length (by simp) d []
  rw [List.append_nil] at loop
  rw [HpackDecoder.decode, loop]
  rcases d.performAll reps [] with ⟨d, fault | headers⟩
  · rfl
  · cases parts.flatten.length - reps.length <;> rfl

end H2ts.Hpack
