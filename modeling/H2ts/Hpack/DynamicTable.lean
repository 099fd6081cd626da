import H2ts.Hpack.Coder
import H2ts.Lib.Eviction
import H2ts.Lib.Machine

/-!
# The dynamic table

The decoder counts the size of its table as it goes.  `Counted` says that the count is
right and within the limits.  Under it the eviction loops arrive at the longest prefix
that fits (`insert_eq`, `applyMaxSize_eq`), and they never subtract more than there is.

Every round of every decoding loop keeps it, also of a block that fails in the middle
(`counted_rounds`), so `tableLaws_after` holds of every state a decoder gets into.
-/

namespace H2ts.Hpack

open Eviction

/-! ## Eviction -/

/-- The eviction loop keeps what fits beside the room asked for. -/
theorem evict_eq {d : HpackDecoder} (size : d.size = total entrySize d.dynamic) {room : Nat}
    (fits : room ≤ d.maxSize) :
    d.evict room = { d with
      dynamic := fit entrySize (d.maxSize - room) d.dynamic
      size := total entrySize (fit entrySize (d.maxSize - room) d.dynamic) } := by
  have pops (entries : List Entry) (size : Nat) :
      HpackDecoder.evictOldest room d.maxSize entries size =
        popOldest entrySize (d.maxSize - room) entries size := by
    induction entries generalizing size with
    | nil => rfl
    | cons oldest entries ih =>
        have same : size + room > d.maxSize ↔ d.maxSize - room < size := by omega
        simp only [HpackDecoder.evictOldest, popOldest, same, ih]
  have popped := popOldest_eq_fit entrySize (d.maxSize - room) d.dynamic.reverse
  rw [List.reverse_reverse, total_reverse] at popped
  rw [HpackDecoder.evict, pops, size, popped]
  simp only [List.reverse_reverse]

/-- Inserting keeps what fits of the new entry and the table. -/
theorem insert_eq {d : HpackDecoder} (size : d.size = total entrySize d.dynamic) (name value : String) :
    d.insert name value = { d with
      dynamic := fit entrySize d.maxSize ((name, value) :: d.dynamic)
      size := total entrySize (fit entrySize d.maxSize ((name, value) :: d.dynamic)) } := by
  by_cases fits : entrySize (name, value) ≤ d.maxSize
  · simp only [HpackDecoder.insert, evict_eq size fits, if_pos fits, fit, total_cons]
    rw [Nat.add_comm]
  · have large : ¬ entrySize (name, value) ≤ (d.evict (entrySize (name, value))).maxSize := fits
    simp only [HpackDecoder.insert, if_neg large, fit, if_neg fits, total_nil]
    rfl

theorem applyMaxSize_eq {d : HpackDecoder} (size : d.size = total entrySize d.dynamic) {newSize : Nat}
    (allowed : newSize ≤ d.protocolMax) :
    d.applyMaxSize newSize = .ok { d with
      maxSize := newSize
      dynamic := fit entrySize newSize d.dynamic
      size := total entrySize (fit entrySize newSize d.dynamic) } := by
  have evicted := evict_eq (d := { d with maxSize := newSize }) size (Nat.zero_le _)
  rw [HpackDecoder.applyMaxSize, if_neg (Nat.not_lt_of_le allowed), evicted]
  rfl

/-! ## The count -/

namespace HpackDecoder

/-- The size is counted right, and within the limits. -/
structure Counted (d : HpackDecoder) : Prop where
  size : d.size = total entrySize d.dynamic
  fits : d.size ≤ d.maxSize
  allowed : d.maxSize ≤ d.protocolMax

namespace Counted

theorem new (maxSize : Nat) : (HpackDecoder.new maxSize).Counted :=
  ⟨rfl, Nat.zero_le _, Nat.le_refl _⟩

theorem insert {d : HpackDecoder} (counted : d.Counted) (name value : String) :
    (d.insert name value).Counted := by
  rw [insert_eq counted.size]
  exact ⟨rfl, total_fit_le _ _ _, counted.allowed⟩

theorem applyMaxSize {d d' : HpackDecoder} (counted : d.Counted) {newSize : Nat}
    (applied : d.applyMaxSize newSize = .ok d') : d'.Counted := by
  rcases Nat.lt_or_ge d.protocolMax newSize with large | allowed
  · rw [HpackDecoder.applyMaxSize, if_pos large] at applied
    cases applied
  · rw [applyMaxSize_eq counted.size allowed] at applied
    cases applied
    exact ⟨rfl, total_fit_le _ _ _, allowed⟩

theorem setProtocolMaxSize {d : HpackDecoder} (counted : d.Counted) (n : Nat) :
    (d.setProtocolMaxSize n).Counted := by
  rw [HpackDecoder.setProtocolMaxSize]
  by_cases above : d.maxSize > n
  · have applied := applyMaxSize_eq (d := { d with protocolMax := n }) counted.size (Nat.le_refl n)
    simp only [above, if_true, applied]
    exact ⟨rfl, total_fit_le _ _ _, Nat.le_refl n⟩
  · simp only [above, if_false]
    exact ⟨counted.size, counted.fits, Nat.le_of_not_lt above⟩

end Counted

/-! ## Rounds -/

/-- What a round of the decoding loop does, if it succeeds. -/
inductive Round (d : HpackDecoder) (r : ByteReader) : HpackDecoder → Option Header → ByteReader → Prop
  | indexed {index : Nat} {rest : ByteReader} {entry : Entry}
      (read : readInteger usizeBits r 7 = .ok (index, rest)) (found : d.entryAt index = .ok entry) :
      Round d r d (some ⟨entry.1, entry.2, false⟩) rest
  | literal {n index : Nat} {behind named rest : ByteReader} {name value : String} {d' : HpackDecoder}
      (bits : n = 4 ∨ n = 6) (read : readInteger usizeBits r n = .ok (index, behind))
      (readName : d.readName index behind = .ok (name, named))
      (readValue : readString named = .ok (value, rest))
      (table : d' = d ∨ d' = d.insert name value) :
      Round d r d' (some ⟨name, value, false⟩) rest
  | update {newSize : Nat} {rest : ByteReader} {d' : HpackDecoder}
      (read : readInteger usizeBits r 5 = .ok (newSize, rest))
      (applied : d.applyMaxSize newSize = .ok d') : Round d r d' none rest

theorem decodeField_cases {d d' : HpackDecoder} {r r' : ByteReader} {header : Option Header}
    (decoded : d.decodeField r = .ok (d', header, r')) : Round d r d' header r' := by
  obtain ⟨first, -, decoded⟩ := Fault.ok_of_bind decoded
  by_cases indexed : first &&& 0x80 ≠ 0
  · rw [if_pos indexed] at decoded
    obtain ⟨⟨index, rest⟩, read, decoded⟩ := Fault.ok_of_bind decoded
    by_cases zero : index = 0
    · simp only [zero, if_true] at decoded
      cases decoded
    · simp only [zero, if_false] at decoded
      obtain ⟨entry, found, decoded⟩ := Fault.ok_of_bind decoded
      cases decoded
      exact .indexed read found
  · rw [if_neg indexed] at decoded
    by_cases incremental : first &&& 0x40 ≠ 0
    · rw [if_pos incremental] at decoded
      obtain ⟨⟨index, behind⟩, read, decoded⟩ := Fault.ok_of_bind decoded
      obtain ⟨⟨name, named⟩, readName, decoded⟩ := Fault.ok_of_bind decoded
      obtain ⟨⟨value, rest⟩, readValue, decoded⟩ := Fault.ok_of_bind decoded
      cases decoded
      exact .literal (.inr rfl) read readName readValue (.inr rfl)
    · rw [if_neg incremental] at decoded
      by_cases update : first &&& 0x20 ≠ 0
      · rw [if_pos update] at decoded
        obtain ⟨⟨newSize, rest⟩, read, decoded⟩ := Fault.ok_of_bind decoded
        obtain ⟨next, applied, decoded⟩ := Fault.ok_of_bind decoded
        cases decoded
        exact .update read applied
      · rw [if_neg update] at decoded
        obtain ⟨⟨index, behind⟩, read, decoded⟩ := Fault.ok_of_bind decoded
        obtain ⟨⟨name, named⟩, readName, decoded⟩ := Fault.ok_of_bind decoded
        obtain ⟨⟨value, rest⟩, readValue, decoded⟩ := Fault.ok_of_bind decoded
        cases decoded
        exact .literal (.inl rfl) read readName readValue (.inl rfl)

/-- The states at the heads of the rounds of a decoding loop. -/
inductive Rounds (d : HpackDecoder) (block : ByteReader) : HpackDecoder → ByteReader → Prop
  | start : Rounds d block d block
  | next {d' d'' : HpackDecoder} {r r' : ByteReader} {header : Option Header}
      (earlier : Rounds d block d' r) (decoded : d'.decodeField r = .ok (d'', header, r')) :
      Rounds d block d'' r'

theorem Counted.round {d d' : HpackDecoder} {r r' : ByteReader} {header : Option Header}
    (counted : d.Counted) (round : Round d r d' header r') : d'.Counted := by
  cases round with
  | indexed read found => exact counted
  | literal bits read readName readValue table =>
      rcases table with rfl | rfl
      · exact counted
      · exact counted.insert _ _
  | update read applied => exact counted.applyMaxSize applied

theorem Counted.rounds {d d' : HpackDecoder} {block r : ByteReader} (counted : d.Counted)
    (rounds : Rounds d block d' r) : d'.Counted := by
  induction rounds with
  | start => exact counted
  | next _ decoded ih => exact ih.round (decodeField_cases decoded)

/-- The loop stops at the head of a round. -/
theorem rounds_decodeLoop {d d' : HpackDecoder} {block r : ByteReader} (rounds : Rounds d block d' r)
    (fuel : Nat) (headers : List Header) :
    ∃ rest, Rounds d block (decodeLoop fuel d' r headers).1 rest := by
  induction fuel generalizing d' r headers with
  | zero => exact ⟨r, rounds⟩
  | succ fuel ih =>
      rw [decodeLoop]
      by_cases empty : r.remaining = 0
      · rw [if_pos empty]
        exact ⟨r, rounds⟩
      · rw [if_neg empty]
        cases decoded : d'.decodeField r with
        | error fault => exact ⟨r, rounds⟩
        | ok result => exact ih (.next rounds decoded) _

/-! ## Calls -/

/-- What the owner of a decoder calls. -/
inductive Call where
  | decode (block : Bytes)
  | setProtocolMaxSize (n : Nat)

def call (d : HpackDecoder) : Call → HpackDecoder
  | .decode block => (d.decode block).1
  | .setProtocolMaxSize n => d.setProtocolMaxSize n

/-- The decoder after some calls. -/
def after (maxSize : Nat) (calls : List Call) : HpackDecoder := Machine.run call (.new maxSize) calls

theorem counted_call {d : HpackDecoder} (counted : d.Counted) (c : Call) : (d.call c).Counted := by
  cases c with
  | decode block =>
      obtain ⟨rest, rounds⟩ := rounds_decodeLoop (Rounds.start : Rounds d block d block) block.length []
      exact counted.rounds rounds
  | setProtocolMaxSize n => exact counted.setProtocolMaxSize n

theorem counted_after (maxSize : Nat) (calls : List Call) : (after maxSize calls).Counted :=
  Machine.run_invariant (P := Counted) (fun _ c counted => counted_call counted c)
    (Counted.new maxSize) calls

/-! ## The laws of the table -/

/-- Every subtraction of the eviction loop is of something that was counted. -/
def NoUnderflow (room maxSize : Nat) : List Entry → Nat → Prop
  | [], _ => True
  | oldest :: entries, size => size + room > maxSize →
      entrySize oldest ≤ size ∧ NoUnderflow room maxSize entries (size - entrySize oldest)

theorem noUnderflow (room maxSize : Nat) (entries : List Entry) :
    NoUnderflow room maxSize entries (total entrySize entries) := by
  induction entries with
  | nil => trivial
  | cons oldest entries ih =>
      intro _
      rw [total_cons, Nat.add_sub_cancel_left]
      exact ⟨Nat.le_add_right _ _, ih⟩

/-- The longest prefix whose sizes fit into a budget. -/
structure LongestPrefix (budget : Nat) (entries kept : List Entry) : Prop where
  isPrefix : kept <+: entries
  fits : total entrySize kept ≤ budget
  longest : ∀ other, other <+: entries → total entrySize other ≤ budget → other <+: kept

theorem longestPrefix_fit (budget : Nat) (entries : List Entry) :
    LongestPrefix budget entries (fit entrySize budget entries) :=
  ⟨fit_isPrefix _ _ _, total_fit_le _ _ _, fun _ isPrefix fits => isPrefix_fit isPrefix fits⟩

/-- What holds of the table in every state. -/
structure TableLaws (d : HpackDecoder) : Prop where
  size : d.size = total entrySize d.dynamic
  limits : d.size ≤ d.maxSize ∧ d.maxSize ≤ d.protocolMax
  /-- The loop of `insert` has room for the entry, the one of `apply_max_size` another maximum. -/
  subtractions : ∀ room maxSize, NoUnderflow room maxSize d.dynamic.reverse d.size
  insert : ∀ name value,
    LongestPrefix d.maxSize ((name, value) :: d.dynamic) (d.insert name value).dynamic
  oversize : ∀ name value, d.maxSize < entrySize (name, value) → (d.insert name value).dynamic = []
  resize : ∀ newSize ≤ d.protocolMax, ∃ d', d.applyMaxSize newSize = .ok d' ∧ d'.maxSize = newSize ∧
    LongestPrefix newSize d.dynamic d'.dynamic
  /-- A block that begins with an update beyond the limit is refused. -/
  refused : ∀ first block newSize rest, first &&& 0x80 = 0 → first &&& 0x40 = 0 → first &&& 0x20 ≠ 0 →
    readInteger usizeBits (first :: block) 5 = .ok (newSize, rest) → d.protocolMax < newSize →
    d.decode (first :: block) =
      (d, .error (.new .compressionError "dynamic table size update too large"))

theorem decode_refused {d : HpackDecoder} {first : UInt8} {block : Bytes} {newSize : Nat} {rest : Bytes}
    (indexed : first &&& 0x80 = 0) (incremental : first &&& 0x40 = 0) (update : first &&& 0x20 ≠ 0)
    (read : readInteger usizeBits (first :: block) 5 = .ok (newSize, rest))
    (large : d.protocolMax < newSize) :
    d.decode (first :: block) =
      (d, .error (.new .compressionError "dynamic table size update too large")) := by
  have refused : d.decodeField (first :: block) =
      .error (.new .compressionError "dynamic table size update too large") := by
    have applied : d.applyMaxSize newSize =
        .error (.new .compressionError "dynamic table size update too large") := by
      rw [applyMaxSize, if_pos large]
    rw [decodeField]
    show (if first &&& 0x80 ≠ 0 then _ else _) = _
    rw [if_neg (not_not.mpr indexed), if_neg (not_not.mpr incremental), if_pos update, read]
    show (d.applyMaxSize newSize >>= _) = _
    rw [applied]
    rfl
  have left : ByteReader.remaining (first :: block) ≠ 0 := Nat.succ_ne_zero block.length
  rw [decode, List.length_cons, decodeLoop, if_neg left, refused]

theorem Counted.tableLaws {d : HpackDecoder} (counted : d.Counted) : TableLaws d where
  size := counted.size
  limits := ⟨counted.fits, counted.allowed⟩
  subtractions := fun room maxSize => by
    rw [counted.size, ← total_reverse]
    exact noUnderflow room maxSize _
  insert := fun name value => by
    rw [insert_eq counted.size]
    exact longestPrefix_fit _ _
  oversize := fun name value large => by
    rw [insert_eq counted.size, fit, if_neg (Nat.not_le_of_lt large)]
  resize := fun newSize allowed =>
    ⟨_, applyMaxSize_eq counted.size allowed, rfl, longestPrefix_fit _ _⟩
  refused := fun _ _ _ _ indexed incremental update read large =>
    decode_refused indexed incremental update read large

/-- The laws hold at the head of every round of every block, after any calls. -/
theorem tableLaws_after (maxSize : Nat) (calls : List Call) (block : Bytes) {d : HpackDecoder}
    {r : ByteReader} (rounds : Rounds (after maxSize calls) block d r) : TableLaws d :=
  ((counted_after maxSize calls).rounds rounds).tableLaws

/-- A limit that is lowered, and a block that fails in the middle. -/
theorem tableLaws_after_lowered :
    TableLaws (after 4096 [.setProtocolMaxSize 64, .decode [0x40, 0x01, 0x61, 0x01, 0x62, 0x80]]) :=
  tableLaws_after 4096 _ [] .start

end HpackDecoder

end H2ts.Hpack
