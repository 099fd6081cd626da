import H2ts.Hpack.Representation

/-!
# The HPACK round trip

The encoder writes one representation per header (`represents_encodeHeader`),
and that representation gives back the header with its name in lower case
(`perform_repOf`).  It uses static indices and literals without indexing only,
so the dynamic table plays no part.

The lookup maps are keyed by name, NUL and value.  Static names and values hold
no NUL, so a key determines them (`pairKey_injective`), whatever the header's own
strings are.

The length of a string is a prefix integer, and the reader takes at most six
continuation octets.  So the round trip holds exactly for headers whose strings
are written in fewer than `2^42 + 127` octets (`decode_encode_iff`).
-/

namespace H2ts.Hpack

open Utf8

/-! ## The static maps -/

/-- The static entry at a 1-based index. -/
def staticEntry (index : Nat) : Entry := STATIC_TABLE.getD (index - 1) ("", "")

/-- Every pair of the maps names the static entry at its index, and static
strings hold no NUL. -/
theorem staticMaps_checks :
    (staticMaps.pairToIndex.all (fun (key, index) =>
        decide (1 ≤ index ∧ index ≤ STATIC_TABLE_LENGTH) &&
          pairKey (staticEntry index).1 (staticEntry index).2 == key) &&
      staticMaps.nameToIndex.all (fun (name, index) =>
        decide (1 ≤ index ∧ index ≤ STATIC_TABLE_LENGTH) && (staticEntry index).1 == name) &&
      STATIC_TABLE.all fun entry =>
        !entry.1.toList.contains '\x00' && !entry.2.toList.contains '\x00') = true := by
  decide +kernel

theorem mem_of_lookup {map : List (String × Nat)} {key : String} {index : Nat}
    (found : map.lookup key = some index) : (key, index) ∈ map := by
  induction map with
  | nil => simp at found
  | cons pair map ih =>
      obtain ⟨k, i⟩ := pair
      rw [List.lookup_cons] at found
      by_cases same : key = k
      · subst same
        simp at found
        simp [found]
      · rw [beq_false_of_ne same] at found
        exact .tail _ (ih found)

theorem pairToIndex_sound {key : String} {index : Nat}
    (found : staticMaps.pairToIndex.lookup key = some index) :
    (1 ≤ index ∧ index ≤ STATIC_TABLE_LENGTH) ∧
      pairKey (staticEntry index).1 (staticEntry index).2 = key := by
  have checks := staticMaps_checks
  simp only [Bool.and_eq_true, List.all_eq_true] at checks
  have entry := checks.1.1 _ (mem_of_lookup found)
  simpa using entry

theorem nameToIndex_sound {name : String} {index : Nat}
    (found : staticMaps.nameToIndex.lookup name = some index) :
    (1 ≤ index ∧ index ≤ STATIC_TABLE_LENGTH) ∧ (staticEntry index).1 = name := by
  have checks := staticMaps_checks
  simp only [Bool.and_eq_true, List.all_eq_true] at checks
  have entry := checks.1.2 _ (mem_of_lookup found)
  simpa using entry

theorem staticEntry_mem {index : Nat} (inside : 1 ≤ index ∧ index ≤ STATIC_TABLE_LENGTH) :
    staticEntry index ∈ STATIC_TABLE := by
  have bound : index - 1 < STATIC_TABLE.length := by
    rw [length_STATIC_TABLE]
    omega
  rw [staticEntry, List.getD_eq_getElem?_getD, List.getElem?_eq_getElem bound]
  exact List.getElem_mem bound

theorem staticEntry_no_nul {index : Nat} (inside : 1 ≤ index ∧ index ≤ STATIC_TABLE_LENGTH) :
    '\x00' ∉ (staticEntry index).1.toList ∧ '\x00' ∉ (staticEntry index).2.toList := by
  have checks := staticMaps_checks
  simp only [Bool.and_eq_true, List.all_eq_true] at checks
  have entry := checks.2 _ (staticEntry_mem inside)
  simpa using entry

/-- A separator that occurs once splits a list in one way. -/
theorem split_unique {α : Type*} {x : α} {l₁ r₁ l₂ r₂ : List α}
    (same : l₁ ++ x :: r₁ = l₂ ++ x :: r₂) (notLeft : x ∉ l₂) (notRight : x ∉ r₂) :
    l₁ = l₂ ∧ r₁ = r₂ := by
  induction l₁ generalizing l₂ with
  | nil =>
      cases l₂ with
      | nil => simpa using same
      | cons a l₂ =>
          obtain ⟨rfl, -⟩ := List.cons.inj same
          simp at notLeft
  | cons a l₁ ih =>
      cases l₂ with
      | nil =>
          obtain ⟨rfl, rfl⟩ := List.cons.inj same
          simp at notRight
      | cons b l₂ =>
          obtain ⟨rfl, rest⟩ := List.cons.inj same
          obtain ⟨rfl, rfl⟩ := ih rest (by simp_all)
          exact ⟨rfl, rfl⟩

theorem pairKey_injective {name value name' value' : String}
    (same : pairKey name value = pairKey name' value') (noName : '\x00' ∉ name'.toList)
    (noValue : '\x00' ∉ value'.toList) : name = name' ∧ value = value' := by
  have chars := congrArg String.toList same
  simp only [pairKey, String.toList_append, List.append_assoc] at chars
  obtain ⟨names, values⟩ := split_unique (x := '\x00') chars noName noValue
  exact ⟨String.toList_inj.mp names, String.toList_inj.mp values⟩

/-- The static entry found for a pair is the pair. -/
theorem pairToIndex_eq {name value : String} {index : Nat}
    (found : staticMaps.pairToIndex.lookup (pairKey name value) = some index) :
    (1 ≤ index ∧ index ≤ STATIC_TABLE_LENGTH) ∧ staticEntry index = (name, value) := by
  obtain ⟨inside, key⟩ := pairToIndex_sound found
  obtain ⟨noName, noValue⟩ := staticEntry_no_nul inside
  obtain ⟨names, values⟩ := pairKey_injective key.symm noName noValue
  exact ⟨inside, Prod.ext names.symm values.symm⟩

theorem entryAt_static (d : HpackDecoder) {index : Nat}
    (inside : 1 ≤ index ∧ index ≤ STATIC_TABLE_LENGTH) :
    d.entryAt index = .ok (staticEntry index) := by
  rw [HpackDecoder.entryAt, if_pos inside, staticEntry]

/-! ## The representation of a header -/

/-- The representation the encoder chooses. -/
def repOf (header : Header) : Representation :=
  let name := toAsciiLowercase header.name
  match staticMaps.pairToIndex.lookup (pairKey name header.value) with
  | some index => .indexed index
  | none =>
      .literal (if header.neverIndex then .never else .without)
        (match staticMaps.nameToIndex.lookup name with
          | some index => .entry index
          | none => .octets (octets name))
        (octets header.value)

/-- What comes back: the name in lower case, and no indexing flag. -/
def Header.received (header : Header) : Header :=
  ⟨toAsciiLowercase header.name, header.value, false⟩

/-- Both strings of a header are written in fewer octets than the reader's limit
on integers allows. -/
def Header.Short (header : Header) : Prop :=
  writtenLength (toAsciiLowercase header.name) < 2 ^ 42 + 127 ∧
    writtenLength header.value < 2 ^ 42 + 127

theorem perform_repOf (d : HpackDecoder) (header : Header) :
    d.perform (repOf header) = .ok (d, some header.received) := by
  cases pair : staticMaps.pairToIndex.lookup
      (pairKey (toAsciiLowercase header.name) header.value) with
  | some index =>
      obtain ⟨inside, entry⟩ := pairToIndex_eq pair
      have nonzero : index ≠ 0 := by omega
      simp only [repOf, pair, HpackDecoder.perform, nonzero, if_false, entryAt_static d inside,
        entry]
      rfl
  | none =>
      have kept (name value : String) :
          d.remember (if header.neverIndex then .never else .without) name value = d := by
        cases header.neverIndex <;> rfl
      simp only [repOf, pair, HpackDecoder.perform, kept, ofOctetsLossy_octets]
      cases named : staticMaps.nameToIndex.lookup (toAsciiLowercase header.name) with
      | some index =>
          obtain ⟨inside, entry⟩ := nameToIndex_sound named
          simp only [HpackDecoder.nameOf, entryAt_static d inside, Except.map, entry]
          rfl
      | none =>
          simp only [HpackDecoder.nameOf, ofOctetsLossy_octets, Except.map]
          rfl

/-- The first octet of a literal's index, below the flags of its form. -/
theorem writeInteger_literal (index : Nat) (never : Bool) :
    ∃ first rest, writeInteger index 4 (if never then 0x10 else 0x00) = first :: rest ∧
      (if never then Indexing.never else Indexing.without).Pattern first := by
  have shape : ∃ x < 16, ∃ rest, writeInteger index 4 (if never then 0x10 else 0x00) =
      ((if never then 0x10 else 0x00) ||| UInt8.ofNat x) :: rest := by
    unfold writeInteger
    by_cases less : index < 2 ^ 4 - 1
    · rw [if_pos less]
      exact ⟨index, by omega, [], rfl⟩
    · rw [if_neg less]
      exact ⟨2 ^ 4 - 1, by omega, _, rfl⟩
  obtain ⟨x, small, rest, head⟩ := shape
  refine ⟨_, rest, head, ?_⟩
  cases never with
  | false =>
      have all : ∀ y : Fin 16, ((0x00 : UInt8) ||| UInt8.ofNat y).toNat < 16 := by decide
      exact all ⟨x, small⟩
  | true =>
      have all : ∀ y : Fin 16, 16 ≤ ((0x10 : UInt8) ||| UInt8.ofNat y).toNat ∧
          ((0x10 : UInt8) ||| UInt8.ofNat y).toNat < 32 := by decide
      exact all ⟨x, small⟩

theorem flags_clear (never : Bool) : (if never then 0x10 else 0x00 : UInt8).toNat % 2 ^ 4 = 0 := by
  cases never <;> rfl

/-- The octets written for a short header represent it. -/
theorem represents_encodeHeader {header : Header} (short : header.Short) :
    (repOf header).Represents (encodeHeader header) := by
  cases pair : staticMaps.pairToIndex.lookup
      (pairKey (toAsciiLowercase header.name) header.value) with
  | some index =>
      obtain ⟨⟨low, high⟩, -⟩ := pairToIndex_eq pair
      rw [STATIC_TABLE_LENGTH] at high
      obtain ⟨x, small, rest, head⟩ := writeInteger_head index 0x80
      have integer := prefixInteger_writeInteger 7 index 0x80 (by omega) (by decide) (by omega)
      simp only [repOf, encodeHeader, pair]
      rw [head] at integer ⊢
      exact ⟨_, _, rfl, Nat.le_of_not_lt (flag_octet small).2, integer⟩
  | none =>
      have value := stringLiteral_writeString short.2
      have four : (if header.neverIndex then Indexing.never else .without).prefixBits = 4 := by
        cases header.neverIndex <;> rfl
      cases named : staticMaps.nameToIndex.lookup (toAsciiLowercase header.name) with
      | some index =>
          obtain ⟨⟨low, high⟩, -⟩ := nameToIndex_sound named
          rw [STATIC_TABLE_LENGTH] at high
          obtain ⟨first, rest, head, pattern⟩ := writeInteger_literal index header.neverIndex
          have integer := prefixInteger_writeInteger 4 index _ (by omega)
            (flags_clear header.neverIndex) (by omega)
          simp only [repOf, encodeHeader, pair, named]
          rw [head] at integer ⊢
          refine ⟨first, rest, index, [], _, rfl, pattern, ?_, ⟨rfl, low, rfl⟩, value⟩
          rw [four]
          exact integer
      | none =>
          obtain ⟨first, rest, head, pattern⟩ := writeInteger_literal 0 header.neverIndex
          have integer := prefixInteger_writeInteger 4 0 _ (by omega)
            (flags_clear header.neverIndex) (by omega)
          simp only [repOf, encodeHeader, pair, named]
          rw [head] at integer ⊢
          refine ⟨first, rest, 0, _, _, List.append_assoc .., pattern, ?_,
            ⟨rfl, stringLiteral_writeString short.1⟩, value⟩
          rw [four]
          exact integer

/-! ## Lists of headers -/

theorem performAll_repOf (d : HpackDecoder) (headers : List Header) (before : List Header) :
    d.performAll (headers.map repOf) before = (d, .ok (before ++ headers.map Header.received)) := by
  induction headers generalizing before with
  | nil => simp [HpackDecoder.performAll]
  | cons header headers ih =>
      simp only [List.map_cons, HpackDecoder.performAll, perform_repOf, ih, Option.toList_some,
        List.append_assoc, List.singleton_append]

theorem represents_encode {headers : List Header} (short : ∀ h ∈ headers, h.Short) :
    List.Forall₂ Representation.Represents (headers.map repOf) (headers.map encodeHeader) := by
  induction headers with
  | nil => exact .nil
  | cons header headers ih =>
      exact .cons (represents_encodeHeader (short header (.head _)))
        (ih fun h mem => short h (.tail _ mem))

/-- Short headers survive, in any decoder state. -/
theorem decode_encode (d : HpackDecoder) {headers : List Header} (short : ∀ h ∈ headers, h.Short) :
    d.decode (encode headers) = (d, .ok (headers.map Header.received)) := by
  have blockOf : BlockOf (headers.map repOf) (encode headers) :=
    ⟨headers.map encodeHeader, by rw [encode, List.flatMap_def], represents_encode short⟩
  rw [decode_of_block blockOf, performAll_repOf, List.nil_append]

/-! ## Long strings -/

/-- Static strings are short. -/
theorem staticEntry_short {index : Nat} (inside : 1 ≤ index ∧ index ≤ STATIC_TABLE_LENGTH) :
    writtenLength (staticEntry index).1 < 2 ^ 42 + 127 ∧
      writtenLength (staticEntry index).2 < 2 ^ 42 + 127 := by
  have checks : STATIC_TABLE.all (fun entry =>
      decide (writtenLength entry.1 < 2 ^ 42 + 127 ∧ writtenLength entry.2 < 2 ^ 42 + 127)) =
        true := by
    decide +kernel
  simpa using List.all_eq_true.mp checks _ (staticEntry_mem inside)

/-- The decoder refuses a header with a long string, in any state. -/
theorem decodeField_encodeHeader_long (d : HpackDecoder) {header : Header} (long : ¬ header.Short)
    (r : Bytes) :
    d.decodeField (encodeHeader header ++ r) =
      .error (.new .compressionError "integer overflow") := by
  cases pair : staticMaps.pairToIndex.lookup
      (pairKey (toAsciiLowercase header.name) header.value) with
  | some index =>
      obtain ⟨inside, entry⟩ := pairToIndex_eq pair
      have short := staticEntry_short inside
      rw [entry] at short
      exact absurd short long
  | none =>
      have unindexed : (if header.neverIndex then Indexing.never else .without) ≠ .incremental := by
        cases header.neverIndex <;> decide
      cases named : staticMaps.nameToIndex.lookup (toAsciiLowercase header.name) with
      | some index =>
          obtain ⟨⟨low, high⟩, entry⟩ := nameToIndex_sound named
          have short := (staticEntry_short ⟨low, high⟩).1
          rw [entry] at short
          have longValue := Nat.le_of_not_lt fun shortValue => long ⟨short, shortValue⟩
          rw [STATIC_TABLE_LENGTH] at high
          obtain ⟨first, rest, head, pattern⟩ := writeInteger_literal index header.neverIndex
          have small := pattern.unindexed unindexed
          have read := readInteger_of_prefixInteger (by omega) (prefixInteger_writeInteger 4
            index _ (by omega) (flags_clear header.neverIndex) (by omega))
            (writeString header.value ++ r)
          have nonzero : index ≠ 0 := by omega
          simp only [encodeHeader, pair, named, List.append_assoc]
          rw [head] at read ⊢
          rw [List.cons_append] at read ⊢
          simp only [decodeField_unindexed d _ small, read, HpackDecoder.readName, nonzero,
            if_false, entryAt_static d (nameToIndex_sound named).1,
            readString_writeString_long longValue, bind, Except.bind, pure, Except.pure]
      | none =>
          obtain ⟨first, rest, head, pattern⟩ := writeInteger_literal 0 header.neverIndex
          have small := pattern.unindexed unindexed
          have read := readInteger_of_prefixInteger (by omega) (prefixInteger_writeInteger 4
            0 _ (by omega) (flags_clear header.neverIndex) (by omega))
            (writeString (toAsciiLowercase header.name) ++ (writeString header.value ++ r))
          simp only [encodeHeader, pair, named, List.append_assoc]
          rw [head] at read ⊢
          rw [List.cons_append] at read ⊢
          simp only [decodeField_unindexed d _ small, read, HpackDecoder.readName, if_true, bind,
            Except.bind]
          by_cases shortName : writtenLength (toAsciiLowercase header.name) < 2 ^ 42 + 127
          · have longValue := Nat.le_of_not_lt fun shortValue => long ⟨shortName, shortValue⟩
            simp only [readString_of_stringLiteral (stringLiteral_writeString shortName),
              readString_writeString_long longValue]
          · simp only [readString_writeString_long (Nat.le_of_not_lt shortName)]

theorem writeInteger_ne_nil (value n : Nat) (flags : UInt8) : writeInteger value n flags ≠ [] := by
  unfold writeInteger
  by_cases less : value < 2 ^ n - 1
  · simp [less]
  · simp [less]

theorem encodeHeader_ne_nil (header : Header) : encodeHeader header ≠ [] := by
  cases pair : staticMaps.pairToIndex.lookup
      (pairKey (toAsciiLowercase header.name) header.value) with
  | some index => simpa [encodeHeader, pair] using writeInteger_ne_nil _ _ _
  | none =>
      cases named : staticMaps.nameToIndex.lookup (toAsciiLowercase header.name) with
      | some index => simp [encodeHeader, pair, named, writeInteger_ne_nil]
      | none => simp [encodeHeader, pair, named, writeInteger_ne_nil]

/-- The loop stops at the first header with a long string. -/
theorem decodeLoop_encode_long {headers : List Header} (long : ∃ h ∈ headers, ¬ h.Short)
    (fuel : Nat) (enough : (encode headers).length ≤ fuel) (d : HpackDecoder)
    (before : List Header) :
    HpackDecoder.decodeLoop fuel d (encode headers) before =
      (d, .error (.new .compressionError "integer overflow")) := by
  induction headers generalizing fuel before with
  | nil => simp at long
  | cons header headers ih =>
      have whole : encode (header :: headers) = encodeHeader header ++ encode headers := by
        simp [encode]
      rw [whole, List.length_append] at enough
      have nonempty := List.length_pos_of_ne_nil (encodeHeader_ne_nil header)
      obtain ⟨fuel, rfl⟩ : ∃ n, fuel = n + 1 := ⟨fuel - 1, by omega⟩
      have some : ByteReader.remaining (encodeHeader header ++ encode headers) ≠ 0 := by
        rw [ByteReader.remaining, List.length_append]
        omega
      rw [whole, HpackDecoder.decodeLoop, if_neg some]
      by_cases short : header.Short
      · have later : ∃ h ∈ headers, ¬ h.Short := by
          obtain ⟨h, mem, hlong⟩ := long
          cases mem with
          | head => exact absurd short hlong
          | tail _ mem => exact ⟨h, mem, hlong⟩
        rw [decodeField_of_represents d (represents_encodeHeader short), perform_repOf]
        exact ih later fuel (by omega) _
      · rw [decodeField_encodeHeader_long d short]

/-- A header with a long string does not come back, whatever else does. -/
theorem short_of_decode_encode {d d' : HpackDecoder} {headers result : List Header}
    (decoded : d.decode (encode headers) = (d', .ok result)) : ∀ h ∈ headers, h.Short := by
  by_contra long
  rw [HpackDecoder.decode, decodeLoop_encode_long (by simpa using long) _ le_rfl] at decoded
  cases (Prod.mk.inj decoded).2

/-- Encoded headers come back in lower case, with the decoder unchanged, exactly
when their strings are short. -/
theorem decode_encode_iff (d : HpackDecoder) (headers : List Header) :
    d.decode (encode headers) = (d, .ok (headers.map Header.received)) ↔
      ∀ h ∈ headers, h.Short :=
  ⟨short_of_decode_encode, decode_encode d⟩

/-- A run of ampersands, whose code is a whole octet, is written raw. -/
theorem writtenLength_ampersands (n : Nat) :
    writtenLength (String.ofList (List.replicate n '&')) = n := by
  have raw : octets (String.ofList (List.replicate n '&')) = List.replicate n 38 := by
    rw [octets_ofList]
    induction n with
    | zero => rfl
    | succ n ih => exact congrArg (38 :: ·) ih
  have code : (HUFFMAN_CODES.getD (38 : UInt8).toNat (0, 0)).2 = 8 := by decide
  have bits : encodedBitLength (List.replicate n 38) = n * 8 := by
    rw [encodedBitLength, List.map_replicate, code, List.sum_replicate, smul_eq_mul]
  have notShorter : ¬ huffmanShorter (List.replicate n 38) := by
    rw [huffmanShorter, bits, List.length_replicate, decide_eq_true_eq]
    omega
  rw [writtenLength, raw, if_neg notShorter, List.length_replicate]

theorem decode_encode_ampersands :
    ¬ ∀ headers : List Header, (HpackDecoder.new 4096).decode (encode headers) =
      (HpackDecoder.new 4096, .ok (headers.map Header.received)) := by
  intro survives
  have long : ¬ (Header.new "a" (String.ofList (List.replicate (2 ^ 42 + 127) '&'))).Short := by
    intro short
    have written := writtenLength_ampersands (2 ^ 42 + 127)
    exact absurd (written ▸ short.2) (Nat.lt_irrefl _)
  have decoded := survives [Header.new "a" (String.ofList (List.replicate (2 ^ 42 + 127) '&'))]
  rw [HpackDecoder.decode, decodeLoop_encode_long ⟨_, .head _, long⟩ _ le_rfl] at decoded
  cases (Prod.mk.inj decoded).2

end H2ts.Hpack
