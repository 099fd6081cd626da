import H2ts.Hpack.Reference
import H2ts.Typescript.Hpack

/-!
# The TypeScript table and the peer's

An entry never has more code units than octets, so the decoder keeps whatever its peer keeps,
and maybe older entries too (`Holds`).  So it decodes what any peer that keeps to RFC 7541 sends
(`decodeBlocks_of_reference`), which the decoder in Rust does not.  And what the one in Rust
decodes, it decodes to the same headers, but for byte order marks (`decodeBlocks_of_rust`).
-/

namespace H2ts

namespace TsHpack

open Eviction
open Typescript (Thrown)
open Hpack (Header Representation BlockOf Indexing NameRef)
open Hpack.Reference (Field Table)

/-! ## What is kept -/

/-- The loops keep what fits beside the room asked for. -/
theorem evict_eq {d : HpackDecoder} (size : d.size = total entrySize d.dynamic) {room : Nat}
    (fits : room ≤ d.maxSize) :
    d.evict room = { d with
      dynamic := fit entrySize (d.maxSize - room) d.dynamic
      size := total entrySize (fit entrySize (d.maxSize - room) d.dynamic) } := by
  have pops (entries : List HeaderEntry) (size : Nat) :
      HpackDecoder.popOldest room d.maxSize entries size =
        popOldest entrySize (d.maxSize - room) entries size := by
    induction entries generalizing size with
    | nil => rfl
    | cons removed entries ih =>
        have same : size + room > d.maxSize ↔ d.maxSize - room < size := by omega
        simp only [HpackDecoder.popOldest, popOldest, same, ih]
  have popped := popOldest_eq_fit entrySize (d.maxSize - room) d.dynamic.reverse
  rw [List.reverse_reverse, total_reverse] at popped
  rw [HpackDecoder.evict, pops, size, popped]
  simp only [List.reverse_reverse]

theorem insert_eq {d : HpackDecoder} (size : d.size = total entrySize d.dynamic) (name value : String) :
    d.insert name value = { d with
      dynamic := fit entrySize d.maxSize ((name, value) :: d.dynamic)
      size := total entrySize (fit entrySize d.maxSize ((name, value) :: d.dynamic)) } := by
  by_cases fits : entrySize (name, value) ≤ d.maxSize
  · simp only [HpackDecoder.insert, evict_eq size fits, if_pos fits, fit, total_cons]
    rw [Nat.add_comm]
  · have large : ¬ entrySize (name, value) ≤ (d.evict (entrySize (name, value))).maxSize := fits
    simp only [HpackDecoder.insert, if_neg large, fit, if_neg fits, total_nil]
    rfl

/-- The decoder has these entries, newest first, and maybe older ones. -/
structure Holds (entries : List HeaderEntry) (maxSize protocolMax : Nat) (d : HpackDecoder) : Prop where
  entries : entries <+: d.dynamic
  size : d.size = total entrySize d.dynamic
  maxSize : d.maxSize = maxSize
  protocolMax : d.protocolMax = protocolMax

variable {entries kept : List HeaderEntry} {maxSize protocolMax : Nat} {d : HpackDecoder}

theorem holds_new (maxSize : Nat) : Holds [] maxSize maxSize (.new maxSize) :=
  ⟨List.prefix_rfl, rfl, rfl, rfl⟩

/-- What another table keeps of its entries and a new one is kept here, if it fits. -/
theorem Holds.insert (holds : Holds entries maxSize protocolMax d) (name value : String)
    (part : kept <+: (name, value) :: entries) (fits : total entrySize kept ≤ maxSize) :
    Holds kept maxSize protocolMax (d.insert name value) := by
  obtain ⟨held, size, rfl, rfl⟩ := holds
  rw [insert_eq size]
  exact ⟨isPrefix_fit (part.trans ((List.prefix_cons_inj _).mpr held)) fits, rfl, rfl, rfl⟩

theorem Holds.resize (holds : Holds entries maxSize protocolMax d) {newSize : Nat}
    (allowed : newSize ≤ protocolMax) (part : kept <+: entries) (fits : total entrySize kept ≤ newSize) :
    ∃ d', d.applyMaxSize newSize = .ok d' ∧ Holds kept newSize protocolMax d' := by
  obtain ⟨held, size, rfl, rfl⟩ := holds
  refine ⟨_, by rw [HpackDecoder.applyMaxSize, if_neg (Nat.not_lt_of_le allowed)], ?_⟩
  rw [evict_eq (d := { d with maxSize := newSize }) size (Nat.zero_le _)]
  exact ⟨isPrefix_fit (part.trans held) fits, rfl, rfl, rfl⟩

theorem Holds.entryAt (holds : Holds entries maxSize protocolMax d) {index : Nat} {entry : HeaderEntry}
    (dynamic : Hpack.STATIC_TABLE_LENGTH < index)
    (found : entries[index - Hpack.STATIC_TABLE_LENGTH - 1]? = some entry) : d.entryAt index = .ok entry := by
  have beyond : ¬ (index ≥ 1 ∧ index ≤ Hpack.STATIC_TABLE_LENGTH) := by omega
  obtain ⟨bound, -⟩ := List.getElem?_eq_some_iff.mp found
  obtain ⟨tail, whole⟩ := holds.entries
  have same : d.dynamic[index - Hpack.STATIC_TABLE_LENGTH - 1]? = some entry := by
    rw [← whole, List.getElem?_append_left bound, found]
  rw [HpackDecoder.entryAt, if_neg beyond, same]

/-! ## With a peer that keeps to the RFC -/

/-- A field as the decoder has it. -/
def decoded (field : Field) : HeaderEntry := (Utf16.decode field.1, Utf16.decode field.2)

/-- The header of a field. -/
def decodedHeader (field : Field) : Header := ⟨Utf16.decode field.1, Utf16.decode field.2, false⟩

/-- The decoder has all that is in the table of the peer. -/
def Follows (t : Table) (d : HpackDecoder) : Prop :=
  Holds (t.entries.map decoded) t.maxSize t.protocolMax d

theorem total_decoded_le (fields : List Field) :
    total entrySize (fields.map decoded) ≤ total Hpack.Reference.size fields := by
  induction fields with
  | nil => exact Nat.le_refl 0
  | cons field fields ih =>
      have name := Utf16.length_decode_le field.1
      have value := Utf16.length_decode_le field.2
      have here : entrySize (decoded field) ≤ Hpack.Reference.size field := by
        simp only [entrySize, decoded, Hpack.Reference.size, ENTRY_OVERHEAD]
        omega
      rw [List.map_cons, total_cons, total_cons]
      omega

variable {t t' : Table}

theorem Follows.insert (follows : Follows t d) (field : Field) :
    Follows (t.insert Hpack.Reference.size field) (d.insert (decoded field).1 (decoded field).2) := by
  refine Holds.insert follows (decoded field).1 (decoded field).2 ?_ ?_
  · exact (fit_isPrefix Hpack.Reference.size t.maxSize (field :: t.entries)).map decoded
  · exact (total_decoded_le _).trans (total_fit_le _ _ _)

theorem Follows.resize (follows : Follows t d) {newSize : Nat} (allowed : newSize ≤ t.protocolMax) :
    ∃ d', d.applyMaxSize newSize = .ok d' ∧ Follows (t.resize Hpack.Reference.size newSize) d' :=
  Holds.resize follows allowed ((fit_isPrefix Hpack.Reference.size newSize t.entries).map decoded)
    ((total_decoded_le _).trans (total_fit_le _ _ _))

/-- No static entry begins with a byte order mark. -/
theorem decode_static : ∀ entry ∈ Hpack.STATIC_TABLE,
    decoded (Utf8.octets entry.1, Utf8.octets entry.2) = entry := by
  have unmarked : ∀ entry ∈ Hpack.STATIC_TABLE,
      entry.1.toList.head? ≠ some '\uFEFF' ∧ entry.2.toList.head? ≠ some '\uFEFF' := by decide
  intro entry mem
  obtain ⟨name, value⟩ := unmarked entry mem
  rw [decoded, Utf16.decode_octets name, Utf16.decode_octets value]

theorem Follows.entryAt (follows : Follows t d) {index : Nat} {field : Field}
    (found : t.lookup index = some field) : index ≠ 0 ∧ d.entryAt index = .ok (decoded field) := by
  unfold Table.lookup at found
  split at found
  · cases found
  next nonzero =>
    refine ⟨nonzero, ?_⟩
    split at found
    next static =>
      have bound : index - 1 < Hpack.STATIC_TABLE.length := by
        rw [Hpack.length_STATIC_TABLE]
        omega
      rw [List.getElem?_eq_getElem bound, Option.map_some] at found
      cases found
      have inside : index ≥ 1 ∧ index ≤ Hpack.STATIC_TABLE_LENGTH := ⟨by omega, static⟩
      rw [decode_static _ (List.getElem_mem bound), HpackDecoder.entryAt, if_pos inside,
        List.getD_eq_getElem _ _ bound]
    next dynamic =>
      refine Holds.entryAt follows (by omega) ?_
      rw [List.getElem?_map, found, Option.map_some]

theorem Follows.readName (follows : Follows t d) {name : NameRef} {index : Nat} {l octets : Bytes}
    (named : name.Represents index l) (found : t.nameOf name = some octets) (r : Bytes) :
    d.readName index (l ++ r) = .ok (Utf16.decode octets, r) := by
  cases name with
  | octets name =>
      obtain ⟨rfl, literal⟩ := named
      cases found
      rw [HpackDecoder.readName, if_pos rfl, readString_of_stringLiteral literal]
  | entry i =>
      obtain ⟨rfl, -, rfl⟩ := named
      obtain ⟨field, looked, rfl⟩ := Option.map_eq_some_iff.mp found
      obtain ⟨nonzero, entry⟩ := follows.entryAt looked
      rw [HpackDecoder.readName, if_neg nonzero, entry]
      rfl

/-- A round on a representation that the peer's table allows. -/
theorem Follows.decodeField (follows : Follows t d) {rep : Representation} {field : Option Field} {l : Bytes}
    (represents : rep.Represents l)
    (stepped : Hpack.Reference.step Hpack.Reference.size t rep = some (t', field))
    (r : Bytes) :
    ∃ d', d.decodeField (l ++ r) = .ok (d', field.map decodedHeader, r) ∧ Follows t' d' := by
  cases rep with
  | indexed index =>
      obtain ⟨first, rest, rfl, high, integer⟩ := represents
      obtain ⟨entry, looked, same⟩ := Option.map_eq_some_iff.mp stepped
      obtain ⟨rfl, rfl⟩ := Prod.mk.inj same
      obtain ⟨nonzero, found⟩ := follows.entryAt looked
      have read := readInteger_eq (Hpack.readInteger_of_prefixInteger (by omega) integer r)
      have bit := (Hpack.indexed_bit first).mpr high
      rw [List.cons_append] at read ⊢
      refine ⟨d, ?_, follows⟩
      simp only [HpackDecoder.decodeField, peek, bit, read, nonzero, found, bind, Except.bind,
        if_true, if_false, ne_eq, not_false_eq_true]
      rfl
  | literal indexing name value =>
      obtain ⟨first, rest, index, nameOctets, valueOctets, rfl, pattern,
        integer, named, literal⟩ := represents
      obtain ⟨octets, found, same⟩ := Option.map_eq_some_iff.mp stepped
      obtain ⟨rfl, rfl⟩ := Prod.mk.inj same
      have read := readInteger_eq (Hpack.readInteger_of_prefixInteger (by cases indexing <;> decide) integer
        (nameOctets ++ (valueOctets ++ r)))
      have nameRead := follows.readName named found (valueOctets ++ r)
      have valueRead := readString_of_stringLiteral literal r
      simp only [List.append_assoc, List.cons_append] at read ⊢
      have plain (small : first.toNat < 32) (four : indexing.prefixBits = 4) :
          d.decodeField (first :: (rest ++ (nameOctets ++ (valueOctets ++ r)))) =
            .ok (d, some ⟨Utf16.decode octets, Utf16.decode value, false⟩, r) := by
        have notIndexed : ¬ first &&& 0x80 ≠ 0 := by rw [Hpack.indexed_bit]; omega
        have bits := Hpack.lower_bits first (by omega)
        have notIncremental : ¬ first &&& 0x40 ≠ 0 := by rw [bits.1]; omega
        have notUpdate : ¬ first &&& 0x20 ≠ 0 := by rw [bits.2 (by omega)]; omega
        rw [four] at read
        simp only [HpackDecoder.decodeField, peek, notIndexed, notIncremental, notUpdate, read,
          nameRead, valueRead, bind, Except.bind, if_false]
        rfl
      cases indexing with
      | incremental =>
          have notIndexed : ¬ first &&& 0x80 ≠ 0 := by
            rw [Hpack.indexed_bit]
            exact Nat.not_le_of_lt pattern.2
          have bit := (Hpack.lower_bits first pattern.2).1.mpr pattern.1
          simp only [Indexing.prefixBits] at read
          refine ⟨_, ?_, follows.insert (octets, value)⟩
          simp only [HpackDecoder.decodeField, peek, notIndexed, bit, read, nameRead, valueRead,
            bind, Except.bind, if_true, if_false, ne_eq, not_false_eq_true]
          rfl
      | without => exact ⟨d, plain (Nat.lt_trans pattern (by omega)) rfl, follows⟩
      | never => exact ⟨d, plain pattern.2 rfl, follows⟩
  | sizeUpdate newSize =>
      obtain ⟨first, rest, rfl, high, low, integer⟩ := represents
      have read := readInteger_eq (Hpack.readInteger_of_prefixInteger (by omega) integer r)
      have notIndexed : ¬ first &&& 0x80 ≠ 0 := by rw [Hpack.indexed_bit]; omega
      have bits := Hpack.lower_bits first (by omega)
      have notLiteral : ¬ first &&& 0x40 ≠ 0 := by rw [bits.1]; omega
      have bit := (bits.2 low).mpr high
      rw [Hpack.Reference.step] at stepped
      split at stepped
      next allowed =>
        obtain ⟨rfl, rfl⟩ := Prod.mk.inj (Option.some.inj stepped)
        obtain ⟨d', applied, follows'⟩ := follows.resize allowed
        rw [List.cons_append] at read ⊢
        refine ⟨d', ?_, follows'⟩
        simp only [HpackDecoder.decodeField, peek, notIndexed, notLiteral, bit, read, applied, bind,
          Except.bind, if_true, if_false, ne_eq, not_false_eq_true]
        rfl
      next => cases stepped

/-- The loop goes through the representations of a block. -/
theorem Follows.decodeLoop (follows : Follows t d) {reps : List Representation} {parts : List Bytes}
    (represents : List.Forall₂ Representation.Represents reps parts) {fields : List Field}
    (ran : Hpack.Reference.run Hpack.Reference.size t reps = some (t', fields)) (fuel : Nat)
    (enough : parts.flatten.length ≤ fuel) (headers : List Header) :
    ∃ d', HpackDecoder.decodeLoop fuel d parts.flatten headers =
      (d', .ok (headers ++ fields.map decodedHeader)) ∧
      Follows t' d' := by
  induction represents generalizing t d fuel headers fields with
  | nil =>
      obtain ⟨rfl, rfl⟩ := Prod.mk.inj (Option.some.inj ran)
      refine ⟨d, ?_, follows⟩
      rw [List.map_nil, List.append_nil]
      cases fuel <;> rfl
  | @cons rep part reps parts first rest ih =>
      obtain ⟨⟨t₁, field⟩, stepped, ran⟩ := Option.bind_eq_some_iff.mp ran
      obtain ⟨⟨t₂, more⟩, later, same⟩ := Option.bind_eq_some_iff.mp ran
      obtain ⟨rfl, rfl⟩ := Prod.mk.inj (Option.some.inj same)
      obtain ⟨d₁, decodedField, follows₁⟩ := follows.decodeField first stepped parts.flatten
      have nonempty := List.length_pos_of_ne_nil first.ne_nil
      rw [List.flatten_cons, List.length_append] at enough
      obtain ⟨fuel, rfl⟩ : ∃ n, fuel = n + 1 := ⟨fuel - 1, by omega⟩
      have left : ByteReader.remaining (part ++ parts.flatten) ≠ 0 := by
        rw [ByteReader.remaining, List.length_append]
        omega
      obtain ⟨d₂, loop, follows₂⟩ :=
        ih follows₁ later fuel (by omega) (headers ++ (field.map decodedHeader).toList)
      refine ⟨d₂, ?_, follows₂⟩
      rw [List.flatten_cons, HpackDecoder.decodeLoop, if_neg left, decodedField]
      dsimp only
      rw [loop]
      cases field with
      | none => simp only [Option.map_none, Option.toList_none, List.append_nil, List.nil_append]
      | some field =>
          simp only [Option.map_some, Option.toList_some, List.append_assoc, List.map_append, List.map_cons,
            List.map_nil]

theorem Follows.decodeBlocks (follows : Follows t d)
    {repss : List (List Representation)} {blocks : List Bytes}
    {fieldss : List (List Field)} (represent : List.Forall₂ BlockOf repss blocks)
    (accepted : Hpack.Reference.runAll Hpack.Reference.size t repss = some fieldss) :
    d.decodeBlocks blocks = .ok (fieldss.map (List.map decodedHeader)) := by
  induction represent generalizing t d fieldss with
  | nil =>
      cases accepted
      rfl
  | cons blockOf represent ih =>
      obtain ⟨⟨t₁, fields⟩, ran, accepted⟩ := Option.bind_eq_some_iff.mp accepted
      obtain ⟨rest, later, same⟩ := Option.bind_eq_some_iff.mp accepted
      obtain rfl := Option.some.inj same
      obtain ⟨parts, rfl, represents⟩ := blockOf
      obtain ⟨d₁, loop, follows₁⟩ := follows.decodeLoop represents ran parts.flatten.length (Nat.le_refl _) []
      rw [HpackDecoder.decodeBlocks, HpackDecoder.decode, loop]
      dsimp only
      rw [ih follows₁ later]
      rfl

/-- The decoder stays in step with every peer that keeps to the RFC: it decodes every sequence of
blocks that the reference accepts, to the fields of the reference, for any octets in them. -/
theorem decodeBlocks_of_reference (maxSize : Nat) {repss : List (List Representation)} {blocks : List Bytes}
    {fieldss : List (List Field)} (represent : List.Forall₂ BlockOf repss blocks)
    (accepted : Hpack.Reference.runAll Hpack.Reference.size (.new maxSize) repss = some fieldss) :
    (HpackDecoder.new maxSize).decodeBlocks blocks = .ok (fieldss.map (List.map decodedHeader)) :=
  Follows.decodeBlocks (t := .new maxSize) (holds_new maxSize) represent accepted

/-- A table of 35 octets holds the entry `a: \xff`. -/
theorem decodeBlocks_of_reference_kept :
    (HpackDecoder.new 4096).decodeBlocks [[0x3f, 4, 0x40, 1, 0x61, 1, 0xff], [0xbe]] =
      .ok ([[([0x61], [0xff])], [([0x61], [0xff])]].map (List.map decodedHeader)) := by
  have update : (Representation.sizeUpdate 35).Represents [0x3f, 4] :=
    ⟨0x3f, [4], rfl, by decide, by decide,
      ⟨0x3f, [4], rfl, .inr ⟨by decide, show (4 : UInt8).toNat < 128 by decide, by decide, by decide⟩⟩⟩
  have represent : List.Forall₂ BlockOf
      [[.sizeUpdate 35, .literal .incremental (.octets [0x61]) [0xff]], [.indexed 62]]
      [[0x3f, 4, 0x40, 1, 0x61, 1, 0xff], [0xbe]] :=
    .cons ⟨[_, _], rfl, .cons update (.cons Hpack.represents_literal .nil)⟩
      (.cons ⟨[_], rfl, .cons Hpack.represents_newest .nil⟩ .nil)
  exact decodeBlocks_of_reference 4096 represent (by decide)

/-! ## With the decoder in Rust -/

/-- The decoder has all that the one in Rust has. -/
structure Covers (d : Hpack.HpackDecoder) (d' : HpackDecoder) : Prop where
  holds : Holds d.dynamic d.maxSize d.protocolMax d'
  size : d.size = total Hpack.entrySize d.dynamic

theorem entrySize_le (e : HeaderEntry) : entrySize e ≤ Hpack.entrySize e := by
  have short (s : String) : Utf16.length s ≤ (Utf8.octets s).length := by
    have shorter := Utf16.length_ofOctetsLossy_le (Utf8.octets s)
    rw [Utf8.ofOctetsLossy_octets] at shorter
    exact shorter
  have name := short e.1
  have value := short e.2
  simp only [entrySize, Hpack.entrySize, ENTRY_OVERHEAD, Hpack.ENTRY_OVERHEAD]
  omega

theorem total_fit_entrySize_le (budget : Nat) (entries : List HeaderEntry) :
    total entrySize (fit Hpack.entrySize budget entries) ≤ budget :=
  (total_mono entrySize_le _).trans (total_fit_le _ _ _)

variable {old new : Hpack.HpackDecoder} {r rest : ByteReader} {header : Option Header}

theorem Covers.insert (covers : Covers old d) (name value : String) :
    Covers (old.insert name value) (d.insert name value) := by
  obtain ⟨holds, size⟩ := covers
  rw [Hpack.insert_eq size]
  exact ⟨holds.insert _ _ (fit_isPrefix _ _ _) (total_fit_entrySize_le _ _), rfl⟩

theorem Covers.applyMaxSize (covers : Covers old d) {newSize : Nat}
    (applied : old.applyMaxSize newSize = .ok new) :
    ∃ d', d.applyMaxSize newSize = .ok d' ∧ Covers new d' := by
  obtain ⟨holds, size⟩ := covers
  rcases Nat.lt_or_ge old.protocolMax newSize with large | allowed
  · rw [Hpack.HpackDecoder.applyMaxSize, if_pos large] at applied
    cases applied
  · rw [Hpack.applyMaxSize_eq size allowed] at applied
    cases applied
    obtain ⟨d', applied', holds'⟩ := holds.resize allowed (fit_isPrefix _ _ _) (total_fit_entrySize_le _ _)
    exact ⟨d', applied', holds', rfl⟩

theorem Covers.entryAt (covers : Covers old d) {index : Nat} {entry : HeaderEntry}
    (found : old.entryAt index = .ok entry) : d.entryAt index = .ok entry := by
  unfold Hpack.HpackDecoder.entryAt at found
  split at found
  next static =>
    rw [HpackDecoder.entryAt, if_pos static]
    cases found
    rfl
  next other =>
    split at found
    · cases found
    · split at found
      next looked =>
        cases found
        exact covers.holds.entryAt (by omega) looked
      next => cases found

/-- The string of a literal, if it does not begin with a byte order mark. -/
theorem readString_of_unmarked {s : String} (read : Hpack.readString r = .ok (s, rest))
    (unmarked : ¬ Utf16.Marked s) : readString r = .ok (s, rest) := by
  obtain ⟨octets, rfl, read'⟩ := readString_eq read
  rw [read', Utf16.decode_of_unmarked unmarked]

theorem Covers.readName (covers : Covers old d) {index : Nat} {name : String}
    (read : old.readName index r = .ok (name, rest)) (unmarked : ¬ Utf16.Marked name) :
    d.readName index r = .ok (name, rest) := by
  rw [Hpack.HpackDecoder.readName] at read
  rw [HpackDecoder.readName]
  split at read
  next own =>
    rw [if_pos own]
    exact readString_of_unmarked read unmarked
  next named =>
    obtain ⟨entry, found, read⟩ := Fault.ok_of_bind read
    cases read
    rw [if_neg named, covers.entryAt found]
    rfl

/-- No string of the header begins with a byte order mark. -/
def Unmarked (h : Header) : Prop := ¬ Utf16.Marked h.name ∧ ¬ Utf16.Marked h.value

/-- What a round of the decoder in Rust does, this one does. -/
theorem Covers.decodeField (covers : Covers old d) (round : old.decodeField r = .ok (new, header, rest))
    (unmarked : ∀ h ∈ header, Unmarked h) :
    ∃ d', d.decodeField r = .ok (d', header, rest) ∧ Covers new d' := by
  unfold Hpack.HpackDecoder.decodeField at round
  obtain ⟨first, peeked, round⟩ := Fault.ok_of_bind round
  have here : peek r = .ok first := by
    cases r with
    | nil => cases peeked
    | cons byte r =>
        cases peeked
        rfl
  by_cases indexed : first &&& 0x80 ≠ 0
  · rw [if_pos indexed] at round
    obtain ⟨⟨index, behind⟩, read, round⟩ := Fault.ok_of_bind round
    by_cases zero : index = 0
    · simp only [zero, if_true] at round
      cases round
    · simp only [zero, if_false] at round
      obtain ⟨entry, found, round⟩ := Fault.ok_of_bind round
      cases round
      refine ⟨d, ?_, covers⟩
      simp only [HpackDecoder.decodeField, here, if_pos indexed, readInteger_eq read, zero, if_false,
        covers.entryAt found, bind, Except.bind]
      rfl
  · rw [if_neg indexed] at round
    by_cases incremental : first &&& 0x40 ≠ 0
    · rw [if_pos incremental] at round
      obtain ⟨⟨index, behind⟩, read, round⟩ := Fault.ok_of_bind round
      obtain ⟨⟨name, named⟩, readName, round⟩ := Fault.ok_of_bind round
      obtain ⟨⟨value, later⟩, readValue, round⟩ := Fault.ok_of_bind round
      cases round
      obtain ⟨unmarkedName, unmarkedValue⟩ := unmarked _ rfl
      refine ⟨d.insert name value, ?_, covers.insert name value⟩
      simp only [HpackDecoder.decodeField, here, if_neg indexed, if_pos incremental, readInteger_eq read,
        covers.readName readName unmarkedName,
          readString_of_unmarked readValue unmarkedValue, bind, Except.bind]
      rfl
    · rw [if_neg incremental] at round
      by_cases update : first &&& 0x20 ≠ 0
      · rw [if_pos update] at round
        obtain ⟨⟨newSize, behind⟩, read, round⟩ := Fault.ok_of_bind round
        obtain ⟨next, applied, round⟩ := Fault.ok_of_bind round
        cases round
        obtain ⟨d', applied', covers'⟩ := covers.applyMaxSize applied
        refine ⟨d', ?_, covers'⟩
        simp only [HpackDecoder.decodeField, here, if_neg indexed, if_neg incremental, if_pos update,
          readInteger_eq read, applied', bind, Except.bind]
        rfl
      · rw [if_neg update] at round
        obtain ⟨⟨index, behind⟩, read, round⟩ := Fault.ok_of_bind round
        obtain ⟨⟨name, named⟩, readName, round⟩ := Fault.ok_of_bind round
        obtain ⟨⟨value, later⟩, readValue, round⟩ := Fault.ok_of_bind round
        cases round
        obtain ⟨unmarkedName, unmarkedValue⟩ := unmarked _ rfl
        refine ⟨d, ?_, covers⟩
        simp only [HpackDecoder.decodeField, here, if_neg indexed, if_neg incremental, if_neg update,
          readInteger_eq read, covers.readName readName unmarkedName,
          readString_of_unmarked readValue unmarkedValue, bind, Except.bind]
        rfl

/-- The loop only adds headers. -/
theorem prefix_decodeLoop {fuel : Nat} {before headers : List Header}
    (loop : Hpack.HpackDecoder.decodeLoop fuel old r before = (new, .ok headers)) : before <+: headers := by
  induction fuel generalizing old r before with
  | zero =>
      cases loop
      exact List.prefix_rfl
  | succ fuel ih =>
      rw [Hpack.HpackDecoder.decodeLoop] at loop
      split at loop
      · cases loop
        exact List.prefix_rfl
      · split at loop
        · cases loop
        · exact (List.prefix_append _ _).trans (ih loop)

theorem Covers.decodeLoop (covers : Covers old d) {fuel : Nat} {before headers : List Header}
    (loop : Hpack.HpackDecoder.decodeLoop fuel old r before = (new, .ok headers))
    (unmarked : ∀ h ∈ headers, Unmarked h) :
    ∃ d', HpackDecoder.decodeLoop fuel d r before = (d', .ok headers) ∧ Covers new d' := by
  induction fuel generalizing old d r before with
  | zero =>
      cases loop
      exact ⟨d, rfl, covers⟩
  | succ fuel ih =>
      rw [Hpack.HpackDecoder.decodeLoop] at loop
      rw [HpackDecoder.decodeLoop]
      split at loop
      next done =>
        cases loop
        rw [if_pos done]
        exact ⟨d, rfl, covers⟩
      next more =>
        split at loop
        next => cases loop
        next d₁ header rest round =>
          have fine : ∀ h ∈ header, Unmarked h := by
            intro h mem
            refine unmarked h ((prefix_decodeLoop loop).subset (List.mem_append_right before ?_))
            exact Option.mem_toList.mpr mem
          obtain ⟨d', decodedField, covers'⟩ := covers.decodeField round fine
          rw [if_neg more, decodedField]
          exact ih covers' loop

theorem Covers.decodeBlocks (covers : Covers old d) {blocks : List Bytes} {headerss : List (List Header)}
    (accepted : old.decodeBlocks blocks = .ok headerss)
    (unmarked : ∀ headers ∈ headerss, ∀ h ∈ headers, Unmarked h) : d.decodeBlocks blocks = .ok headerss := by
  induction blocks generalizing old d headerss with
  | nil =>
      cases accepted
      rfl
  | cons block blocks ih =>
      rw [Hpack.HpackDecoder.decodeBlocks] at accepted
      split at accepted
      next => cases accepted
      next next headers here =>
        cases later : next.decodeBlocks blocks with
        | error fault =>
            rw [later] at accepted
            cases accepted
        | ok rest =>
            rw [later] at accepted
            cases accepted
            obtain ⟨d', decoded, covers'⟩ := covers.decodeLoop here (unmarked headers (.head _))
            rw [HpackDecoder.decodeBlocks, HpackDecoder.decode, decoded]
            dsimp only
            rw [ih covers' later fun headers mem => unmarked headers (.tail _ mem)]
            rfl

/-- What the decoder in Rust makes of any octets, this one makes of them, if no string begins with a
byte order mark. -/
theorem decodeBlocks_of_rust (maxSize : Nat) {blocks : List Bytes} {headerss : List (List Header)}
    (accepted : (Hpack.HpackDecoder.new maxSize).decodeBlocks blocks = .ok headerss)
    (unmarked : ∀ headers ∈ headerss, ∀ h ∈ headers, Unmarked h) :
    (HpackDecoder.new maxSize).decodeBlocks blocks = .ok headerss :=
  Covers.decodeBlocks ⟨holds_new maxSize, rfl⟩ accepted unmarked

/-- A static entry, a literal that is indexed, and the entry it makes. -/
theorem decodeBlocks_of_rust_indexed :
    (HpackDecoder.new 4096).decodeBlocks [[0x82, 0x40, 0x01, 0x61, 0x01, 0x62], [0xbe]] =
      .ok [[⟨":method", "GET", false⟩, ⟨"a", "b", false⟩], [⟨"a", "b", false⟩]] :=
  decodeBlocks_of_rust 4096 (by decide +kernel) (by unfold Unmarked Utf16.Marked; decide)

end TsHpack

end H2ts
