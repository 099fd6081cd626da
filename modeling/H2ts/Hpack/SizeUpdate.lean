import H2ts.Hpack.RoundTrip

/-!
# The size of the encoder's table

A decoder may lower the limit on the table of its peer's encoder.  RFC 7541 §4.2 has the
encoder say so: the next header block begins with a dynamic table size update, and where
there were several limits since the last block, it is not above the smallest of them.  A
decoder may insist on it (`Limits.Takes`).

The encoder here has no table, and its blocks begin with no update (`begins_encode`).  So a
decoder that insists takes them as long as no limit below the initial one was acknowledged
before (`takesAll_iff`).
-/

namespace H2ts.Hpack

/-- A block begins with these size updates, and no more of them. -/
def Begins (block : Bytes) (updates : List Nat) : Prop :=
  ∃ parts rest, block = parts.flatten ++ rest ∧
    List.Forall₂ (fun size part => (Representation.sizeUpdate size).Represents part) updates parts ∧
    ∀ first ∈ rest.head?, ¬ (32 ≤ first.toNat ∧ first.toNat < 64)

/-- What the peer of a decoder sends, as far as it is about the table. -/
inductive Signal where
  /-- The acknowledgement of a limit on the size of the table. -/
  | acked (limit : Nat)
  | block (octets : Bytes)
deriving DecidableEq, Repr

/-- Of two signals in their order: no block behind a limit below the size. -/
def Signal.Spares (size : Nat) (earlier later : Signal) : Prop :=
  ∀ limit octets, earlier = .acked limit → later = .block octets → size ≤ limit

/-- What a decoder that insists knows. -/
structure Limits where
  /-- The size of the encoder's table. -/
  inForce : Nat
  /-- The smallest limit that was acknowledged since the last block. -/
  lowest : Option Nat
deriving DecidableEq, Repr

namespace Limits

def initial : Limits := ⟨4096, none⟩

/-- A signal that is taken, and what is known after it. -/
inductive Takes : Limits → Signal → Limits → Prop
  | acked (l : Limits) (limit : Nat) :
      Takes l (.acked limit) { l with lowest := some (min limit (l.lowest.getD limit)) }
  | block {l : Limits} {octets : Bytes} {updates : List Nat} (begins : Begins octets updates)
      (signalled : ∀ low, l.lowest = some low → low < l.inForce →
        ∃ first, updates.head? = some first ∧ first ≤ low) :
      Takes l (.block octets) ⟨updates.getLastD l.inForce, none⟩

def TakesAll (l : Limits) : List Signal → Prop
  | [] => True
  | signal :: signals => ∃ l', l.Takes signal l' ∧ l'.TakesAll signals

/-- A limit below the size in force is not signalled yet. -/
def Lowered (l : Limits) : Prop := ∃ low, l.lowest = some low ∧ low < l.inForce

end Limits

/-! ## The encoder has no updates -/

/-- A header begins as an indexed field or as a literal that is not indexed. -/
theorem encodeHeader_head (header : Header) :
    ∃ first rest, encodeHeader header = first :: rest ∧ (first.toNat < 32 ∨ 128 ≤ first.toNat) := by
  cases pair : staticMaps.pairToIndex.lookup
      (pairKey (toAsciiLowercase header.name) header.value) with
  | some index =>
      obtain ⟨x, small, rest, head⟩ := writeInteger_head index 0x80
      refine ⟨_, rest, ?_, .inr (Nat.le_of_not_lt (flag_octet small).2)⟩
      simp only [encodeHeader, pair]
      exact head
  | none =>
      have literal (index : Nat) : ∃ first rest,
          writeInteger index 4 (if header.neverIndex then 0x10 else 0x00) = first :: rest ∧
            first.toNat < 32 := by
        obtain ⟨first, rest, head, pattern⟩ := writeInteger_literal index header.neverIndex
        refine ⟨first, rest, head, pattern.unindexed ?_⟩
        cases header.neverIndex with
        | false =>
            intro same
            cases same
        | true =>
            intro same
            cases same
      cases named : staticMaps.nameToIndex.lookup (toAsciiLowercase header.name) with
      | some index =>
          obtain ⟨first, rest, head, low⟩ := literal index
          simp only [encodeHeader, pair, named, head]
          exact ⟨first, _, rfl, .inl low⟩
      | none =>
          obtain ⟨first, rest, head, low⟩ := literal 0
          simp only [encodeHeader, pair, named, head]
          exact ⟨first, _, rfl, .inl low⟩

theorem encode_head (headers : List Header) :
    ∀ first ∈ (encode headers).head?, ¬ (32 ≤ first.toNat ∧ first.toNat < 64) := by
  intro first mem
  cases headers with
  | nil => cases mem
  | cons header headers =>
      obtain ⟨octet, rest, head, outside⟩ := encodeHeader_head header
      rw [encode, List.flatMap_cons, head] at mem
      cases mem
      omega

/-- No block of the encoder begins with an update. -/
theorem begins_encode {headers : List Header} {updates : List Nat} :
    Begins (encode headers) updates ↔ updates = [] := by
  constructor
  · rintro ⟨parts, rest, same, updated, -⟩
    cases updated with
    | nil => rfl
    | cons update updated =>
        obtain ⟨first, tail, rfl, low, high, -⟩ := update
        have head : (encode headers).head? = some first := by
          rw [same]
          rfl
        exact absurd ⟨low, high⟩ (encode_head headers first head)
  · rintro rfl
    exact ⟨[], encode headers, rfl, .nil, encode_head headers⟩

/-! ## Blocks without updates -/

namespace Limits

variable {l l' : Limits} {signals : List Signal}

theorem takes_acked {limit : Nat} :
    l.Takes (.acked limit) l' ↔ l' = { l with lowest := some (min limit (l.lowest.getD limit)) } := by
  constructor
  · intro takes
    cases takes
    rfl
  · rintro rfl
    exact .acked l limit

/-- A block without updates is taken if there is nothing to signal. -/
theorem takes_block {octets : Bytes} (unsignalled : ∀ updates, Begins octets updates ↔ updates = []) :
    l.Takes (.block octets) l' ↔ ¬ l.Lowered ∧ l' = ⟨l.inForce, none⟩ := by
  constructor
  · intro takes
    cases takes with
    | block begins signalled =>
        obtain rfl := (unsignalled _).mp begins
        refine ⟨?_, rfl⟩
        rintro ⟨low, lowest, below⟩
        obtain ⟨first, head, -⟩ := signalled low lowest below
        cases head
  · rintro ⟨still, rfl⟩
    refine .block ((unsignalled []).mpr rfl) ?_
    intro low lowest below
    exact absurd ⟨low, lowest, below⟩ still

/-- After an acknowledgement. -/
theorem lowered_acked {limit : Nat} :
    Lowered { l with lowest := some (min limit (l.lowest.getD limit)) } ↔ limit < l.inForce ∨ l.Lowered := by
  unfold Lowered
  cases lowest : l.lowest with
  | none => simp
  | some low => simp

/-- Signals whose blocks have no updates are taken exactly if there is no block after a limit
below the size in force. -/
theorem takesAll_iff (unsignalled : ∀ octets, .block octets ∈ signals →
      ∀ updates, Begins octets updates ↔ updates = []) :
    l.TakesAll signals ↔ (l.Lowered → ∀ octets, .block octets ∉ signals) ∧
      signals.Pairwise (Signal.Spares l.inForce) := by
  induction signals generalizing l with
  | nil => simp [TakesAll]
  | cons signal signals ih =>
      have later : ∀ octets, .block octets ∈ signals → ∀ updates, Begins octets updates ↔ updates = [] :=
        fun octets mem => unsignalled octets (.tail _ mem)
      rw [TakesAll, List.pairwise_cons]
      cases signal with
      | acked limit =>
          simp only [takes_acked, exists_eq_left, ih later, lowered_acked]
          constructor
          · rintro ⟨silent, ordered⟩
            refine ⟨?_, ?_, ordered⟩
            · intro lowered octets mem
              cases mem with
              | tail _ mem => exact silent (.inr lowered) octets mem
            · intro signal mem limit octets same block
              cases same
              exact Nat.le_of_not_lt fun below => silent (.inl below) octets (block ▸ mem)
          · rintro ⟨silent, first, ordered⟩
            refine ⟨?_, ordered⟩
            rintro (below | lowered) octets mem
            · exact absurd (first _ mem limit octets rfl rfl) (Nat.not_le_of_lt below)
            · exact silent lowered octets (.tail _ mem)
      | block octets =>
          have settled : ¬ Lowered ⟨l.inForce, none⟩ := by
            rintro ⟨low, lowest, -⟩
            cases lowest
          simp only [takes_block (unsignalled octets (.head _)), and_assoc, exists_and_left,
            exists_eq_left, ih later]
          constructor
          · rintro ⟨still, -, ordered⟩
            refine ⟨fun lowered => absurd lowered still, ?_, ordered⟩
            intro signal _ limit octets same
            cases same
          · rintro ⟨silent, -, ordered⟩
            exact ⟨fun lowered => silent lowered octets (.head _),
              fun lowered => absurd lowered settled, ordered⟩

end Limits

end H2ts.Hpack
