import H2ts.Hpack.DynamicTable
import H2ts.Hpack.Representation

/-!
# The reference decoder

The decoder of RFC 7541 over octet strings.  Its dynamic table holds octets,
newest entry first, and an entry is charged its octets and 32 (§4.1).  Adding an
entry and changing the maximum size both keep the longest prefix that fits (§4.3,
§4.4).

`HpackDecoder` decodes strings before it charges them, and a replaced sequence
takes three bytes.  So it is the reference with other charges: `performs_replaced`
says that it simulates the reference at `replacedSize` exactly, failures
included.  The charges are never smaller (`size_le_replacedSize`), so that table
is a prefix of the peer's (`step_prefix`), and an index it resolves means the
same entry.  `decodeBlocks_iff` puts the two together: the decoder follows its
peer exactly as long as no index points past the entries that fit at the
replaced sizes.
-/

namespace H2ts.Hpack

open Utf8 Eviction

namespace Reference

/-! ## The reference -/

/-- A name and a value in octets: a field, or a table entry. -/
abbrev Field := Bytes × Bytes

/-- The size of an entry (§4.1). -/
def size (field : Field) : Nat := field.1.length + field.2.length + 32

structure Table where
  /-- Newest first. -/
  entries : List Field
  maxSize : Nat
  protocolMax : Nat
deriving DecidableEq, Repr

namespace Table

def new (maxSize : Nat) : Table := ⟨[], maxSize, maxSize⟩

/-- The entry at an index of the combined address space (§2.3.3). -/
def lookup (t : Table) (index : Nat) : Option Field :=
  if index = 0 then none
  else if index ≤ STATIC_TABLE_LENGTH then
    STATIC_TABLE[index - 1]?.map fun entry => (octets entry.1, octets entry.2)
  else
    t.entries[index - STATIC_TABLE_LENGTH - 1]?

/-- Add an entry and evict (§4.4).  An entry that does not fit empties the table. -/
def insert (charge : Field → Nat) (t : Table) (field : Field) : Table :=
  { t with entries := fit charge t.maxSize (field :: t.entries) }

/-- Change the maximum size and evict (§4.3). -/
def resize (charge : Field → Nat) (t : Table) (maxSize : Nat) : Table :=
  { t with maxSize := maxSize, entries := fit charge maxSize t.entries }

/-- The name of a literal. -/
def nameOf (t : Table) : NameRef → Option Bytes
  | .entry index => (t.lookup index).map Prod.fst
  | .octets name => some name

/-- Add a literal, if it asks for it. -/
def remember (charge : Field → Nat) (t : Table) (indexing : Indexing) (field : Field) : Table :=
  match indexing with
  | .incremental => t.insert charge field
  | _ => t

end Table

/-- Process one representation (§6). -/
def step (charge : Field → Nat) (t : Table) : Representation → Option (Table × Option Field)
  | .indexed index => (t.lookup index).map fun field => (t, some field)
  | .literal indexing name value =>
      (t.nameOf name).map fun name => (t.remember charge indexing (name, value), some (name, value))
  | .sizeUpdate maxSize =>
      if maxSize ≤ t.protocolMax then some (t.resize charge maxSize, none) else none

/-- Process a block. -/
def run (charge : Field → Nat) (t : Table) : List Representation → Option (Table × List Field)
  | [] => some (t, [])
  | rep :: reps => do
      let (t, field) ← step charge t rep
      let (t, fields) ← run charge t reps
      return (t, field.toList ++ fields)

/-- Process blocks, with one table for all. -/
def runAll (charge : Field → Nat) (t : Table) : List (List Representation) →
    Option (List (List Field))
  | [] => some []
  | reps :: blocks => do
      let (t, fields) ← run charge t reps
      let later ← runAll charge t blocks
      return fields :: later

end Reference

open Reference

/-- Decode blocks one after the other, as the connection does. -/
def HpackDecoder.decodeBlocks (d : HpackDecoder) : List Bytes → Except Fault (List (List Header))
  | [] => .ok []
  | block :: blocks =>
      match d.decode block with
      | (_, .error fault) => .error fault
      | (d, .ok headers) => (d.decodeBlocks blocks).map (headers :: ·)

/-! ## Replaced sizes -/

/-- A field as the decoder has it. -/
def replaced (field : Field) : Entry := (ofOctetsLossy field.1, ofOctetsLossy field.2)

/-- The header of a field. -/
def replacedHeader (field : Field) : Header :=
  ⟨ofOctetsLossy field.1, ofOctetsLossy field.2, false⟩

/-- The size of an entry after ill-formed sequences have been replaced. -/
def replacedSize (field : Field) : Nat := entrySize (replaced field)

theorem size_le_replacedSize (field : Field) : size field ≤ replacedSize field := by
  have name := length_le_octets_ofOctetsLossy field.1
  have value := length_le_octets_ofOctetsLossy field.2
  simp only [size, replacedSize, entrySize, replaced, ENTRY_OVERHEAD]
  omega

/-! ## The decoder simulates the reference at replaced sizes -/

/-- The decoder state of a table. -/
structure Mirrors (d : HpackDecoder) (t : Table) : Prop where
  dynamic : d.dynamic = t.entries.map replaced
  size : d.size = total entrySize d.dynamic
  maxSize : d.maxSize = t.maxSize
  protocolMax : d.protocolMax = t.protocolMax

theorem mirrors_new (maxSize : Nat) : Mirrors (.new maxSize) (.new maxSize) :=
  ⟨rfl, rfl, rfl, rfl⟩

theorem fit_replaced (budget : Nat) (entries : List Field) :
    fit entrySize budget (entries.map replaced) =
      (fit replacedSize budget entries).map replaced :=
  fit_map replaced entrySize budget entries

theorem Mirrors.insert {d : HpackDecoder} {t : Table} (mirrors : Mirrors d t) (field : Field) :
    Mirrors (d.insert (replaced field).1 (replaced field).2) (t.insert replacedSize field) := by
  obtain ⟨dynamic, size, maxSize, protocolMax⟩ := mirrors
  rw [insert_eq size]
  refine ⟨?_, rfl, maxSize, protocolMax⟩
  rw [Table.insert, ← fit_replaced, List.map_cons, ← dynamic, ← maxSize]

theorem Mirrors.resize {d : HpackDecoder} {t : Table} (mirrors : Mirrors d t) (newSize : Nat) :
    Mirrors (HpackDecoder.evict { d with maxSize := newSize } 0) (t.resize replacedSize newSize) := by
  obtain ⟨dynamic, size, -, protocolMax⟩ := mirrors
  rw [evict_eq (d := { d with maxSize := newSize }) size (Nat.zero_le _)]
  refine ⟨?_, rfl, rfl, protocolMax⟩
  simp only [Nat.sub_zero, dynamic, fit_replaced]
  rfl

/-- An index resolves in both or in none. -/
theorem Mirrors.entryAt {d : HpackDecoder} {t : Table} (mirrors : Mirrors d t) (index : Nat) :
    (∀ field, t.lookup index = some field → d.entryAt index = .ok (replaced field)) ∧
      (t.lookup index = none → ∃ fault, d.entryAt index = .error fault) := by
  unfold Table.lookup HpackDecoder.entryAt
  by_cases zero : index = 0
  · subst zero
    exact ⟨by simp, fun _ => ⟨.panic, by simp⟩⟩
  · by_cases static : index ≤ STATIC_TABLE_LENGTH
    · have bound : index - 1 < STATIC_TABLE.length := by
        rw [length_STATIC_TABLE]
        omega
      have low : 1 ≤ index ∧ index ≤ STATIC_TABLE_LENGTH := ⟨by omega, static⟩
      simp only [zero, if_false, static, if_true, low, and_self, List.getElem?_eq_getElem bound,
        Option.map_some, Option.some.injEq, List.getD_eq_getElem?_getD, Option.getD_some]
      refine ⟨?_, by simp⟩
      rintro field rfl
      rw [replaced, ofOctetsLossy_octets, ofOctetsLossy_octets]
    · have dynamic : ¬ index < STATIC_TABLE_LENGTH + 1 := by omega
      simp only [zero, if_false, static, and_false, dynamic, mirrors.dynamic, List.getElem?_map]
      refine ⟨?_, ?_⟩
      · intro field found
        rw [found, Option.map_some]
      · intro missing
        rw [missing, Option.map_none]
        exact ⟨_, rfl⟩

theorem Mirrors.nameOf {d : HpackDecoder} {t : Table} (mirrors : Mirrors d t) (name : NameRef) :
    (∀ octets, t.nameOf name = some octets → d.nameOf name = .ok (ofOctetsLossy octets)) ∧
      (t.nameOf name = none → ∃ fault, d.nameOf name = .error fault) := by
  cases name with
  | octets name => simp [Table.nameOf, HpackDecoder.nameOf]
  | entry index =>
      obtain ⟨resolves, fails⟩ := mirrors.entryAt index
      refine ⟨?_, ?_⟩
      · intro octets found
        obtain ⟨field, looked, rfl⟩ := Option.map_eq_some_iff.mp found
        rw [HpackDecoder.nameOf, resolves field looked]
        rfl
      · intro missing
        obtain ⟨fault, failed⟩ := fails (Option.map_eq_none_iff.mp missing)
        rw [HpackDecoder.nameOf, failed]
        exact ⟨fault, rfl⟩

theorem Mirrors.remember {d : HpackDecoder} {t : Table} (mirrors : Mirrors d t)
    (indexing : Indexing) (field : Field) :
    Mirrors (d.remember indexing (replaced field).1 (replaced field).2)
      (t.remember replacedSize indexing field) := by
  cases indexing with
  | incremental => exact mirrors.insert field
  | without => exact mirrors
  | never => exact mirrors

/-- One representation: the decoder succeeds exactly when the reference at
replaced sizes does, with the same effect. -/
theorem performs_replaced {d : HpackDecoder} {t : Table} (mirrors : Mirrors d t)
    (rep : Representation) :
    (∀ t' field, step replacedSize t rep = some (t', field) →
        ∃ d', d.perform rep = .ok (d', field.map replacedHeader) ∧ Mirrors d' t') ∧
      (step replacedSize t rep = none → ∃ fault, d.perform rep = .error fault) := by
  cases rep with
  | indexed index =>
      obtain ⟨resolves, fails⟩ := mirrors.entryAt index
      refine ⟨?_, ?_⟩
      · intro t' field stepped
        obtain ⟨entry, looked, same⟩ := Option.map_eq_some_iff.mp stepped
        obtain ⟨rfl, rfl⟩ := Prod.mk.inj same
        have nonzero : index ≠ 0 := by
          rintro rfl
          simp [Table.lookup] at looked
        refine ⟨d, ?_, mirrors⟩
        rw [HpackDecoder.perform, if_neg nonzero, resolves entry looked]
        rfl
      · intro stuck
        rw [HpackDecoder.perform]
        by_cases zero : index = 0
        · exact ⟨_, by rw [if_pos zero]⟩
        · obtain ⟨fault, failed⟩ := fails (Option.map_eq_none_iff.mp stuck)
          exact ⟨fault, by rw [if_neg zero, failed]; rfl⟩
  | literal indexing name value =>
      obtain ⟨named, unnamed⟩ := mirrors.nameOf name
      refine ⟨?_, ?_⟩
      · intro t' field stepped
        obtain ⟨octets, found, same⟩ := Option.map_eq_some_iff.mp stepped
        obtain ⟨rfl, rfl⟩ := Prod.mk.inj same
        refine ⟨_, ?_, mirrors.remember indexing (octets, value)⟩
        rw [HpackDecoder.perform, named octets found]
        rfl
      · intro stuck
        obtain ⟨fault, failed⟩ := unnamed (Option.map_eq_none_iff.mp stuck)
        exact ⟨fault, by rw [HpackDecoder.perform, failed]; rfl⟩
  | sizeUpdate newSize =>
      rw [step, HpackDecoder.perform, HpackDecoder.applyMaxSize]
      have same := mirrors.protocolMax
      by_cases allowed : newSize ≤ t.protocolMax
      · rw [if_pos allowed, if_neg (by omega)]
        refine ⟨?_, by simp⟩
        rintro t' field ⟨rfl, rfl⟩
        exact ⟨_, rfl, mirrors.resize newSize⟩
      · rw [if_neg allowed, if_pos (by omega)]
        exact ⟨by simp, fun _ => ⟨_, rfl⟩⟩

/-- The same for a block. -/
theorem performsAll_replaced {d : HpackDecoder} {t : Table} (mirrors : Mirrors d t)
    (reps : List Representation) (before : List Header) :
    (∀ t' fields, run replacedSize t reps = some (t', fields) →
        ∃ d', d.performAll reps before = (d', .ok (before ++ fields.map replacedHeader)) ∧
          Mirrors d' t') ∧
      (run replacedSize t reps = none →
        ∃ d' fault, d.performAll reps before = (d', .error fault)) := by
  induction reps generalizing d t before with
  | nil =>
      refine ⟨?_, by simp [run]⟩
      rintro t' fields ⟨rfl, rfl⟩
      exact ⟨d, by simp [HpackDecoder.performAll], mirrors⟩
  | cons rep reps ih =>
      obtain ⟨steps, stuck⟩ := performs_replaced mirrors rep
      cases stepped : step replacedSize t rep with
      | none =>
          obtain ⟨fault, failed⟩ := stuck stepped
          refine ⟨by simp [run, stepped], fun _ => ⟨d, fault, ?_⟩⟩
          rw [HpackDecoder.performAll, failed]
      | some after =>
          obtain ⟨t₁, field⟩ := after
          obtain ⟨d₁, performed, mirrors₁⟩ := steps t₁ field stepped
          obtain ⟨runs, stops⟩ := ih mirrors₁ (before ++ (field.map replacedHeader).toList)
          simp only [run, stepped, HpackDecoder.performAll, performed, bind, Option.bind]
          refine ⟨?_, ?_⟩
          · intro t' fields ran
            cases later : run replacedSize t₁ reps with
            | none => rw [later] at ran; cases ran
            | some rest =>
                obtain ⟨t₂, more⟩ := rest
                rw [later] at ran
                obtain ⟨rfl, rfl⟩ := Prod.mk.inj (Option.some.inj ran)
                obtain ⟨d₂, loop, mirrors₂⟩ := runs t₂ more later
                refine ⟨d₂, ?_, mirrors₂⟩
                rw [loop]
                cases field <;> simp
          · intro ran
            cases later : run replacedSize t₁ reps with
            | none => exact stops later
            | some rest => rw [later] at ran; cases ran

/-- And for a sequence of blocks. -/
theorem decodeBlocks_replaced {d : HpackDecoder} {t : Table} (mirrors : Mirrors d t)
    {repss : List (List Representation)} {blocks : List Bytes}
    (represent : List.Forall₂ BlockOf repss blocks) :
    (∀ fieldss, runAll replacedSize t repss = some fieldss →
        d.decodeBlocks blocks = .ok (fieldss.map (List.map replacedHeader))) ∧
      (runAll replacedSize t repss = none → ∃ fault, d.decodeBlocks blocks = .error fault) := by
  induction represent generalizing d t with
  | nil =>
      refine ⟨?_, by simp [runAll]⟩
      rintro fieldss ⟨rfl⟩
      rfl
  | @cons reps block repss blocks blockOf represent ih =>
      obtain ⟨runs, stops⟩ := performsAll_replaced mirrors reps []
      rw [HpackDecoder.decodeBlocks, decode_of_block blockOf]
      cases ran : run replacedSize t reps with
      | none =>
          obtain ⟨d', fault, failed⟩ := stops ran
          exact ⟨by simp [runAll, ran], fun _ => ⟨fault, by rw [failed]⟩⟩
      | some after =>
          obtain ⟨t', fields⟩ := after
          obtain ⟨d', performed, mirrors'⟩ := runs t' fields ran
          obtain ⟨succeed, fail⟩ := ih mirrors'
          simp only [runAll, ran, performed, bind, Option.bind]
          refine ⟨?_, ?_⟩
          · intro fieldss all
            cases later : runAll replacedSize t' repss with
            | none => rw [later] at all; cases all
            | some rest =>
                rw [later] at all
                obtain rfl := Option.some.inj all
                rw [succeed rest later]
                rfl
          · intro all
            cases later : runAll replacedSize t' repss with
            | none =>
                obtain ⟨fault, failed⟩ := fail later
                exact ⟨fault, by rw [failed]; rfl⟩
            | some rest => rw [later] at all; cases all

/-! ## Larger charges see a prefix of the table -/

namespace Reference

/-- A table that holds a prefix of another. -/
structure PrefixOf (t u : Table) : Prop where
  entries : t.entries <+: u.entries
  maxSize : t.maxSize = u.maxSize
  protocolMax : t.protocolMax = u.protocolMax

section Charges

variable {charge charge' : Field → Nat} (less : ∀ field, charge field ≤ charge' field)
include less

theorem PrefixOf.insert {t u : Table} (isPrefix : PrefixOf t u) (field : Field) :
    PrefixOf (t.insert charge' field) (u.insert charge field) := by
  refine ⟨?_, isPrefix.maxSize, isPrefix.protocolMax⟩
  simp only [Table.insert, isPrefix.maxSize]
  exact fit_mono less _ ((List.prefix_cons_inj field).mpr isPrefix.entries)

theorem PrefixOf.resize {t u : Table} (isPrefix : PrefixOf t u) (maxSize : Nat) :
    PrefixOf (t.resize charge' maxSize) (u.resize charge maxSize) :=
  ⟨fit_mono less _ isPrefix.entries, rfl, isPrefix.protocolMax⟩

theorem PrefixOf.remember {t u : Table} (isPrefix : PrefixOf t u) (indexing : Indexing)
    (field : Field) :
    PrefixOf (t.remember charge' indexing field) (u.remember charge indexing field) := by
  cases indexing with
  | incremental => exact isPrefix.insert less field
  | without => exact isPrefix
  | never => exact isPrefix

end Charges

/-- What the shorter table resolves, the longer one resolves to the same entry. -/
theorem PrefixOf.lookup {t u : Table} (isPrefix : PrefixOf t u) {index : Nat} {field : Field}
    (found : t.lookup index = some field) : u.lookup index = some field := by
  unfold Table.lookup at found ⊢
  by_cases zero : index = 0
  · simp [zero] at found
  · by_cases static : index ≤ STATIC_TABLE_LENGTH
    · simpa only [zero, static, if_false, if_true] using found
    · simp only [zero, static, if_false] at found ⊢
      obtain ⟨bound, -⟩ := List.getElem?_eq_some_iff.mp found
      obtain ⟨tail, whole⟩ := isPrefix.entries
      rw [← whole, List.getElem?_append_left bound, found]

theorem PrefixOf.nameOf {t u : Table} (isPrefix : PrefixOf t u) {name : NameRef} {octets : Bytes}
    (found : t.nameOf name = some octets) : u.nameOf name = some octets := by
  cases name with
  | octets name => exact found
  | entry index =>
      obtain ⟨field, looked, rfl⟩ := Option.map_eq_some_iff.mp found
      rw [Table.nameOf, isPrefix.lookup looked]
      rfl

section Charges

variable {charge charge' : Field → Nat} (less : ∀ field, charge field ≤ charge' field)
include less

/-- A step the larger charges allow is the step of the smaller ones. -/
theorem step_prefix {t u t' : Table} (isPrefix : PrefixOf t u) {rep : Representation}
    {field : Option Field} (stepped : step charge' t rep = some (t', field)) :
    ∃ u', step charge u rep = some (u', field) ∧ PrefixOf t' u' := by
  cases rep with
  | indexed index =>
      obtain ⟨entry, looked, same⟩ := Option.map_eq_some_iff.mp stepped
      obtain ⟨rfl, rfl⟩ := Prod.mk.inj same
      exact ⟨u, by rw [step, isPrefix.lookup looked]; rfl, isPrefix⟩
  | literal indexing name value =>
      obtain ⟨octets, found, same⟩ := Option.map_eq_some_iff.mp stepped
      obtain ⟨rfl, rfl⟩ := Prod.mk.inj same
      exact ⟨_, by rw [step, isPrefix.nameOf found]; rfl,
        isPrefix.remember less indexing (octets, value)⟩
  | sizeUpdate maxSize =>
      by_cases allowed : maxSize ≤ u.protocolMax
      · rw [step, isPrefix.protocolMax, if_pos allowed] at stepped
        obtain ⟨rfl, rfl⟩ := Prod.mk.inj (Option.some.inj stepped)
        exact ⟨_, by rw [step, if_pos allowed], isPrefix.resize less maxSize⟩
      · rw [step, isPrefix.protocolMax, if_neg allowed] at stepped
        cases stepped

theorem run_prefix {t u t' : Table} (isPrefix : PrefixOf t u) {reps : List Representation}
    {fields : List Field} (ran : run charge' t reps = some (t', fields)) :
    ∃ u', run charge u reps = some (u', fields) ∧ PrefixOf t' u' := by
  induction reps generalizing t u fields with
  | nil =>
      obtain ⟨rfl, rfl⟩ := Prod.mk.inj (Option.some.inj ran)
      exact ⟨u, rfl, isPrefix⟩
  | cons rep reps ih =>
      obtain ⟨⟨t₁, field⟩, stepped, ran⟩ := Option.bind_eq_some_iff.mp ran
      obtain ⟨⟨t₂, more⟩, later, same⟩ := Option.bind_eq_some_iff.mp ran
      obtain ⟨rfl, rfl⟩ := Prod.mk.inj (Option.some.inj same)
      obtain ⟨u₁, stepped', isPrefix₁⟩ := step_prefix less isPrefix stepped
      obtain ⟨u₂, later', isPrefix₂⟩ := ih isPrefix₁ later
      exact ⟨u₂, by simp [run, stepped', later'], isPrefix₂⟩

theorem runAll_prefix {t u : Table} (isPrefix : PrefixOf t u) {repss : List (List Representation)}
    {fieldss : List (List Field)} (ran : runAll charge' t repss = some fieldss) :
    runAll charge u repss = some fieldss := by
  induction repss generalizing t u fieldss with
  | nil => exact ran
  | cons reps repss ih =>
      obtain ⟨⟨t', fields⟩, first, ran⟩ := Option.bind_eq_some_iff.mp ran
      obtain ⟨rest, later, same⟩ := Option.bind_eq_some_iff.mp ran
      obtain rfl := Option.some.inj same
      obtain ⟨u', first', isPrefix'⟩ := run_prefix less isPrefix first
      simp [runAll, first', ih isPrefix' later]

end Charges

end Reference

/-! ## Lockstep -/

/-- No index points past the entries that fit at the replaced sizes. -/
def FitsReplaced (maxSize : Nat) (repss : List (List Representation)) : Prop :=
  (runAll replacedSize (.new maxSize) repss).isSome

/-- Blocks the reference accepts are decoded to its fields, ill-formed sequences
replaced, exactly when the indices in them still resolve at the replaced sizes. -/
theorem decodeBlocks_iff (maxSize : Nat) {repss : List (List Representation)}
    {blocks : List Bytes} {fieldss : List (List Field)}
    (represent : List.Forall₂ BlockOf repss blocks)
    (accepted : runAll size (.new maxSize) repss = some fieldss) :
    (HpackDecoder.new maxSize).decodeBlocks blocks =
        .ok (fieldss.map (List.map replacedHeader)) ↔
      FitsReplaced maxSize repss := by
  obtain ⟨succeed, fail⟩ := decodeBlocks_replaced (mirrors_new maxSize) represent
  refine ⟨?_, ?_⟩
  · intro decoded
    rw [FitsReplaced, Option.isSome_iff_ne_none]
    intro stuck
    obtain ⟨fault, failed⟩ := fail stuck
    rw [failed] at decoded
    cases decoded
  · intro fits
    obtain ⟨fieldss', ran⟩ := Option.isSome_iff_exists.mp fits
    have same := runAll_prefix size_le_replacedSize ⟨List.prefix_rfl, rfl, rfl⟩ ran
    obtain rfl := Option.some.inj (same.symm.trans accepted)
    exact succeed fieldss' ran

theorem stringLiteral_octet (b : UInt8) : StringLiteral [b] [1, b] :=
  ⟨1, [], [b], rfl, ⟨1, [], rfl, .inl ⟨by simp, rfl, rfl⟩⟩, by simp⟩

/-- The entry `a: \xff`, to be indexed. -/
theorem represents_literal :
    (Representation.literal .incremental (.octets [0x61]) [0xff]).Represents
      [0x40, 1, 0x61, 1, 0xff] :=
  ⟨0x40, [], 0, [1, 0x61], [1, 0xff], rfl, ⟨by decide, by decide⟩,
    ⟨0x40, [], rfl, .inl ⟨by decide, by decide, rfl⟩⟩, ⟨rfl, stringLiteral_octet 0x61⟩,
    stringLiteral_octet 0xff⟩

/-- The newest entry of the dynamic table. -/
theorem represents_newest : (Representation.indexed 62).Represents [0xbe] :=
  ⟨0xbe, [], rfl, by decide, ⟨0xbe, [], rfl, .inl ⟨by decide, by decide, rfl⟩⟩⟩

theorem decodeBlocks_newest :
    (HpackDecoder.new 4096).decodeBlocks [[0x40, 1, 0x61, 1, 0xff], [0xbe]] =
      .ok ([[([0x61], [0xff])], [([0x61], [0xff])]].map (List.map replacedHeader)) :=
  (decodeBlocks_iff 4096
    (.cons ⟨[_], rfl, .cons represents_literal .nil⟩
      (.cons ⟨[_], rfl, .cons represents_newest .nil⟩ .nil))
    (by decide)).mpr (by unfold FitsReplaced; decide +kernel)

/-- A table of 35 bytes holds the entry `a: \xff` of size 34, but not at its
replaced size 36. -/
theorem decodeBlocks_evicted :
    ¬ ∀ (maxSize : Nat) (repss : List (List Representation)) (blocks : List Bytes)
        (fieldss : List (List Field)), List.Forall₂ BlockOf repss blocks →
        runAll size (.new maxSize) repss = some fieldss →
        (HpackDecoder.new maxSize).decodeBlocks blocks =
          .ok (fieldss.map (List.map replacedHeader)) := by
  intro lockstep
  have update : (Representation.sizeUpdate 35).Represents [0x3f, 4] :=
    ⟨0x3f, [4], rfl, by decide, by decide,
      ⟨0x3f, [4], rfl, .inr ⟨by decide, show (4 : UInt8).toNat < 128 by decide, by decide,
        by decide⟩⟩⟩
  have represent : List.Forall₂ BlockOf
      [[.sizeUpdate 35, .literal .incremental (.octets [0x61]) [0xff]], [.indexed 62]]
      [[0x3f, 4, 0x40, 1, 0x61, 1, 0xff], [0xbe]] :=
    .cons ⟨[_, _], rfl, .cons update (.cons represents_literal .nil)⟩
      (.cons ⟨[_], rfl, .cons represents_newest .nil⟩ .nil)
  have decoded := lockstep 4096 _ _ [[([0x61], [0xff])], [([0x61], [0xff])]] represent (by decide)
  obtain ⟨fault, failed⟩ := (decodeBlocks_replaced (mirrors_new 4096) represent).2
    (by decide +kernel)
  rw [failed] at decoded
  cases decoded

end H2ts.Hpack
