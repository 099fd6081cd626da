import H2ts.Hpack.Canonical
import H2ts.Hpack.DynamicTable

/-!
# Decoding any block

Whatever the block is, `decode` comes to an end with headers or a compression error.
Every read of a round is inside the block and takes at least a byte (`shorter_round`),
so the loop is over after as many rounds as there are bytes (`decodeLoop_fuel`).  The
arithmetic of integers stays below `2^64` (`noWrap_start`), and the sizes that the table
adds up do if what the decoder holds fits into memory (`additions_round`).
-/

namespace H2ts.Hpack

open Utf8 Eviction

/-! ## Every round takes a byte -/

theorem shorter_readRest {w value shift v : Nat} {r r' : ByteReader}
    (read : readRest w value shift r = .ok (v, r')) : r'.length < r.length := by
  induction r generalizing value shift with
  | nil => cases read
  | cons byte r ih =>
      rw [readRest] at read
      by_cases beyond : shift + 7 > 42
      · simp only [beyond, if_true] at read
        cases read
      · simp only [beyond, if_false] at read
        by_cases last : byte &&& 0x80 = 0
        · rw [if_pos last] at read
          cases read
          exact Nat.lt_succ_self _
        · rw [if_neg last] at read
          exact Nat.lt_succ_of_lt (ih read)

theorem shorter_readInteger {w n v : Nat} {r r' : ByteReader}
    (read : readInteger w r n = .ok (v, r')) : r'.length < r.length := by
  obtain ⟨⟨first, rest⟩, front, later⟩ := Fault.ok_of_bind read
  cases r with
  | nil => cases front
  | cons byte r =>
      cases front
      simp only at later
      by_cases small : (first &&& UInt8.ofNat (2 ^ n - 1)).toNat < 2 ^ n - 1
      · rw [if_pos small] at later
        cases later
        exact Nat.lt_succ_self _
      · rw [if_neg small] at later
        exact Nat.lt_succ_of_lt (shorter_readRest later)

/-- What a string literal is read from: a length, and that many bytes. -/
theorem readString_cases {r r' : ByteReader} {s : String} (read : readString r = .ok (s, r')) :
    ∃ length rest decoded, readInteger usizeBits r 7 = .ok (length, rest) ∧ length ≤ rest.length ∧
      (huffmanDecode (rest.take length) = .ok decoded ∨ decoded = rest.take length) ∧
      s = ofOctetsLossy decoded ∧ r' = rest.drop length := by
  rw [readString] at read
  by_cases empty : r.remaining = 0
  · rw [if_pos empty] at read
    cases read
  · rw [if_neg empty] at read
    obtain ⟨first, -, read⟩ := Fault.ok_of_bind read
    obtain ⟨⟨length, rest⟩, integer, read⟩ := Fault.ok_of_bind read
    simp only at read
    by_cases long : length > rest.remaining
    · rw [if_pos long] at read
      cases read
    · rw [if_neg long] at read
      have there : rest.bytes length = some (rest.take length, rest.drop length) := by
        rw [ByteReader.bytes, if_neg long]
      simp only [there] at read
      by_cases huffman : (first &&& 0x80 != 0) = true
      · rw [if_pos huffman] at read
        obtain ⟨decoded, front, read⟩ := Fault.ok_of_bind read
        cases read
        exact ⟨length, rest, decoded, integer, Nat.le_of_not_lt long, .inl front, rfl, rfl⟩
      · rw [if_neg huffman] at read
        cases read
        exact ⟨length, rest, _, integer, Nat.le_of_not_lt long, .inr rfl, rfl, rfl⟩

theorem shorter_readString {r r' : ByteReader} {s : String} (read : readString r = .ok (s, r')) :
    r'.length < r.length := by
  obtain ⟨length, rest, decoded, integer, -, -, -, rfl⟩ := readString_cases read
  have less := shorter_readInteger integer
  rw [List.length_drop]
  omega

namespace HpackDecoder

variable {d d' : HpackDecoder} {r r' : ByteReader}

theorem shorter_readName {index : Nat} {name : String}
    (read : d.readName index r = .ok (name, r')) : r'.length ≤ r.length := by
  rw [readName] at read
  by_cases own : index = 0
  · rw [if_pos own] at read
    exact Nat.le_of_lt (shorter_readString read)
  · rw [if_neg own] at read
    obtain ⟨entry, -, read⟩ := Fault.ok_of_bind read
    cases read
    exact Nat.le_refl _

theorem shorter_round {header : Option Header} (round : Round d r d' header r') :
    r'.length < r.length := by
  cases round with
  | indexed read found => exact shorter_readInteger read
  | literal bits read readName readValue table =>
      have first := shorter_readInteger read
      have second := shorter_readName readName
      have third := shorter_readString readValue
      omega
  | update read applied => exact shorter_readInteger read

/-- The fuel of the loop is never used up. -/
theorem decodeLoop_fuel {fuel : Nat} (enough : r.length ≤ fuel) (headers : List Header) :
    decodeLoop fuel d r headers = decodeLoop r.length d r headers := by
  induction fuel using Nat.strong_induction_on generalizing d r headers with
  | _ fuel ih =>
      cases r with
      | nil => cases fuel <;> rfl
      | cons byte r =>
          obtain ⟨fuel, rfl⟩ : ∃ n, fuel = n + 1 := ⟨fuel - 1, by
            rw [List.length_cons] at enough
            omega⟩
          have left : ByteReader.remaining (byte :: r) ≠ 0 := Nat.succ_ne_zero r.length
          rw [List.length_cons, decodeLoop, decodeLoop, if_neg left, if_neg left]
          cases decoded : d.decodeField (byte :: r) with
          | error fault => rfl
          | ok result =>
              obtain ⟨d', header, rest⟩ := result
              have less := shorter_round (decodeField_cases decoded)
              rw [List.length_cons] at less enough
              simp only
              rw [ih fuel (by omega) (by omega), ih r.length (by omega) (by omega)]

end HpackDecoder

/-! ## Integers stay within 64 bits -/

/-- No shift and no addition of the loop over continuation octets leaves the width. -/
def NoWrap (w value shift : Nat) : ByteReader → Prop
  | [] => True
  | byte :: r =>
      shift < w ∧ (byte &&& 0x7f).toNat * 2 ^ shift < 2 ^ w ∧
        value + (byte &&& 0x7f).toNat * 2 ^ shift < 2 ^ w ∧
        (¬ shift + 7 > 42 → byte &&& 0x80 ≠ 0 →
          NoWrap w (value + (byte &&& 0x7f).toNat * 2 ^ shift) (shift + 7) r)

/-- Behind `k` octets the value has at most `7 * k + 8` bits. -/
theorem noWrap_behind (r : ByteReader) {value k : Nat} (few : k ≤ 6) (small : value < 256 * 128 ^ k) :
    NoWrap usizeBits value (7 * k) r := by
  induction r generalizing value k with
  | nil => trivial
  | cons byte r ih =>
      have octet : (byte &&& 0x7f).toNat ≤ 127 := by
        rw [low7]
        omega
      have power : 2 ^ (7 * k) = 128 ^ k := by rw [Nat.pow_mul]
      have shifted : (byte &&& 0x7f).toNat * 2 ^ (7 * k) ≤ 127 * 128 ^ k := by
        rw [power]
        exact Nat.mul_le_mul_right _ octet
      have bound : 128 ^ k ≤ 128 ^ 6 := Nat.pow_le_pow_right (by omega) few
      rw [NoWrap, usizeBits]
      refine ⟨by omega, by omega, by omega, fun low _ => ?_⟩
      rw [show 7 * k + 7 = 7 * (k + 1) by omega]
      refine ih (by omega) ?_
      rw [Nat.pow_succ]
      omega

theorem noWrap_start (r : ByteReader) {n : Nat} (small : n ≤ 8) : NoWrap usizeBits (2 ^ n - 1) 0 r := by
  have power : 2 ^ n ≤ 256 := Nat.pow_le_pow_right (by omega) small
  exact noWrap_behind r (k := 0) (by omega) (by omega)

/-! ## Sizes stay within memory -/

theorem codeBits_long (b : UInt8) : 5 ≤ (codeBits b.toNat).length := by
  have all : ∀ n : Fin 256, 5 ≤ (codeBits n).length := by decide +kernel
  exact all ⟨b.toNat, b.toNat_lt⟩

theorem codesBits_long (input : Bytes) : 5 * input.length ≤ (codesBits input).length := by
  induction input with
  | nil => exact Nat.zero_le _
  | cons byte input ih =>
      have split : codesBits (byte :: input) = codeBits byte.toNat ++ codesBits input := rfl
      have code := codeBits_long byte
      rw [split, List.length_append, List.length_cons]
      omega

/-- A symbol takes at least five bits. -/
theorem length_of_decode {input data : Bytes} (decoded : huffmanDecode data = .ok input) :
    input.length ≤ 2 * data.length := by
  obtain ⟨pad, -, shape⟩ := huffmanCoded_of_decode decoded
  have long := codesBits_long input
  have length := congrArg List.length shape
  rw [Bits.length_bits, List.length_append] at length
  omega

theorem length_readString {r r' : ByteReader} {s : String} (read : readString r = .ok (s, r')) :
    (octets s).length ≤ 8 * r.length := by
  obtain ⟨length, rest, decoded, integer, -, source, rfl, -⟩ := readString_cases read
  have less := shorter_readInteger integer
  have taken : (rest.take length).length ≤ rest.length := List.length_take_le' _ _
  have bytes : decoded.length ≤ 2 * (rest.take length).length := by
    rcases source with huffman | rfl
    · exact length_of_decode huffman
    · omega
  have lossy := length_octets_ofOctetsLossy_le decoded
  omega

theorem entrySize_static {entry : Entry} (mem : entry ∈ STATIC_TABLE) : entrySize entry ≤ 128 := by
  have all : ∀ entry ∈ STATIC_TABLE, entrySize entry ≤ 128 := by decide +kernel
  exact all entry mem

theorem entrySize_le_total {entry : Entry} {entries : List Entry} (mem : entry ∈ entries) :
    entrySize entry ≤ total entrySize entries :=
  List.le_sum_of_mem (List.mem_map_of_mem mem)

namespace HpackDecoder

variable {d d' : HpackDecoder} {r r' : ByteReader}

/-- An entry that is looked up is short, or was counted. -/
theorem entrySize_entryAt (counted : d.Counted) {index : Nat} {entry : Entry}
    (found : d.entryAt index = .ok entry) : entrySize entry ≤ d.size + 128 := by
  rw [entryAt] at found
  by_cases inside : 1 ≤ index ∧ index ≤ STATIC_TABLE_LENGTH
  · rw [if_pos inside] at found
    cases found
    have position : index - 1 < STATIC_TABLE.length := by
      rw [length_STATIC_TABLE]
      omega
    have mem : STATIC_TABLE.getD (index - 1) ("", "") ∈ STATIC_TABLE := by
      rw [List.getD_eq_getElem _ _ position]
      exact List.getElem_mem position
    have short := entrySize_static mem
    omega
  · rw [if_neg inside] at found
    by_cases low : index < STATIC_TABLE_LENGTH + 1
    · rw [if_pos low] at found
      cases found
    · rw [if_neg low] at found
      cases held : d.dynamic[index - STATIC_TABLE_LENGTH - 1]? with
      | none => simp only [held] at found; cases found
      | some other =>
          simp only [held] at found
          cases found
          have size := entrySize_le_total (List.mem_of_getElem? held)
          rw [← counted.size] at size
          omega

theorem length_readName (counted : d.Counted) {index : Nat} {name : String}
    (read : d.readName index r = .ok (name, r')) :
    (octets name).length ≤ d.size + 128 + 8 * r.length := by
  rw [readName] at read
  by_cases own : index = 0
  · rw [if_pos own] at read
    have length := length_readString read
    omega
  · rw [if_neg own] at read
    obtain ⟨entry, found, read⟩ := Fault.ok_of_bind read
    cases read
    have size := entrySize_entryAt counted found
    rw [entrySize] at size
    omega

/-- What a round adds up for a field it returns. -/
theorem additions_round (counted : d.Counted) {header : Header}
    (round : Round d r d' (some header) r') (memory : d.size + r.length < 2 ^ 59) :
    d.size + entrySize (header.name, header.value) < 2 ^ 64 := by
  cases round with
  | @indexed index rest entry read found =>
      have size : entrySize (entry.1, entry.2) ≤ d.size + 128 := entrySize_entryAt counted found
      show d.size + entrySize (entry.1, entry.2) < 2 ^ 64
      omega
  | @literal n index behind named rest name value d' bits read readName readValue table =>
      have nameLength := length_readName counted readName
      have valueLength := length_readString readValue
      have first := shorter_readInteger read
      have second := shorter_readName readName
      show d.size + ((octets name).length + (octets value).length + 32) < 2 ^ 64
      omega

/-! ## Decoding -/

/-- What decoding a block does, whatever it is. -/
structure Robust (d : HpackDecoder) (block : Bytes) : Prop where
  /-- Headers, or a compression error. -/
  result : (∃ headers, (d.decode block).2 = .ok headers) ∨ Rejected (d.decode block).2
  /-- The loop ends by itself. -/
  terminates : ∀ fuel ≥ block.length, decodeLoop fuel d block [] = d.decode block
  /-- No fixed-width read is out of bounds and no index is subtracted below zero. -/
  reads : ∀ d' r, Rounds d block d' r → r ≠ [] → Calm (d'.decodeField r)
  /-- The slice of a string is there. -/
  slices : ∀ r length rest, readInteger usizeBits r 7 = .ok (length, rest) →
    ¬ length > rest.remaining → rest.bytes length = some (rest.take length, rest.drop length)
  /-- A round takes at least a byte. -/
  consumes : ∀ d' r d'' header r', Rounds d block d' r →
    d'.decodeField r = .ok (d'', header, r') → r'.length < r.length
  /-- The integers of 7, 6, 5 and 4 bits do not overflow. -/
  integers : ∀ n ≤ 8, ∀ r, NoWrap usizeBits (2 ^ n - 1) 0 r
  /-- Neither do sizes, if the table and the block fit into memory. -/
  sizes : ∀ d' r d'' header r', Rounds d block d' r → d'.size + r.length < 2 ^ 59 →
    d'.decodeField r = .ok (d'', some header, r') →
    d'.size + entrySize (header.name, header.value) < 2 ^ 64

/-- Decoding is safe in every state and on every block. -/
theorem robust_after (maxSize : Nat) (calls : List Call) (block : Bytes) :
    Robust (after maxSize calls) block where
  result := by
    cases decoded : ((after maxSize calls).decode block).2 with
    | ok headers => exact .inl ⟨headers, rfl⟩
    | error fault =>
        obtain ⟨message, rfl⟩ := decode_careful _ block fault decoded
        exact .inr ⟨message, rfl⟩
  terminates := fun _ enough => decodeLoop_fuel enough []
  reads := fun d' _ _ left => (d'.decodeField_careful left).calm
  slices := fun _ _ _ _ short => by rw [ByteReader.bytes, if_neg short]
  consumes := fun _ _ _ _ _ _ decoded => shorter_round (decodeField_cases decoded)
  integers := fun _ small r => noWrap_start r small
  sizes := fun _ _ _ _ _ rounds memory decoded =>
    additions_round ((counted_after maxSize calls).rounds rounds) (decodeField_cases decoded) memory

end HpackDecoder

end H2ts.Hpack
