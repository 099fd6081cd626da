import H2ts.Bytes
import H2ts.Hpack.Tables
import H2ts.Lib.Bits

/-!
# Huffman coding

The HPACK Huffman coder of `huffman.rs` (RFC 7541 §5.2).  The encoder writes the
codes of its input bit by bit into a zeroed buffer and pads the last byte with
ones.  The decoder walks a binary trie built from the code table and starts over
at the root after every symbol.

`HuffmanCoded` says in the words of the RFC what a coded string is: the codes of
its symbols, followed by less than a byte of ones.  The encoder produces such
strings (`huffmanCoded_huffmanEncode`) and the decoder reads every one of them
(`huffmanDecode_of_coded`).  The only facts about the table this needs are
checked on the trie the program builds: every code spells its symbol, and up to
seven ones spell nothing.
-/

namespace H2ts.Hpack

open Bits

/-! ## The encoder -/

/-- The bits of a table entry, most significant first. -/
def entryBits (entry : Nat × Nat) : List Bool :=
  (List.range entry.2).reverse.map entry.1.testBit

/-- The bits of the code of a symbol. -/
def codeBits (sym : Nat) : List Bool := entryBits (HUFFMAN_CODES.getD sym (0, 0))

/-- The number of bits the encoding of `input` takes. -/
def encodedBitLength (input : Bytes) : Nat :=
  (input.map fun b => (HUFFMAN_CODES.getD b.toNat (0, 0)).2).sum

/-- Write the code of each byte from `bitPos` on. -/
def writeCodes (out : Bytes) (bitPos : Nat) : Bytes → Bytes × Nat
  | [] => (out, bitPos)
  | byte :: input =>
      let bits := codeBits byte.toNat
      writeCodes (writeBits out bitPos bits) (bitPos + bits.length) input

/-- Huffman-encode bytes, padding the last byte with ones. -/
def huffmanEncode (input : Bytes) : Bytes :=
  let totalBits := encodedBitLength input
  let (out, bitPos) := writeCodes (List.replicate ((totalBits + 7) / 8) 0) 0 input
  -- `while bit_pos & 7 != 0`: set bits up to the next byte boundary.
  writeBits out bitPos (List.replicate ((8 - bitPos % 8) % 8) true)

/-- Whether the Huffman form is shorter than the raw one. -/
def huffmanShorter (input : Bytes) : Bool := (encodedBitLength input + 7) / 8 < input.length

/-! ## The decoder -/

/-- A trie node; `absent` is a child that was never made. -/
inductive TrieNode where
  | absent
  | node (zero one : TrieNode) (symbol : Option Nat)

namespace TrieNode

def child (t : TrieNode) (bit : Bool) : TrieNode :=
  match t with
  | absent => absent
  | node zero one _ => if bit then one else zero

def symbol : TrieNode → Option Nat
  | absent => none
  | node _ _ symbol => symbol

/-- Make the path of a code and mark its end with the symbol. -/
def insert (sym : Nat) : List Bool → TrieNode → TrieNode
  | [], t => node (t.child false) (t.child true) (some sym)
  | false :: code, t => node (insert sym code (t.child false)) (t.child true) t.symbol
  | true :: code, t => node (t.child false) (insert sym code (t.child true)) t.symbol

end TrieNode

def buildTrie : TrieNode :=
  HUFFMAN_CODES.zipIdx.foldl (fun root (entry, sym) => root.insert sym (entryBits entry))
    (.node .absent .absent none)

/-- The state of the decoding loop.  `atRoot` is the pointer comparison of the
current node with the root. -/
structure HuffmanState where
  node : TrieNode
  atRoot : Bool
  partialBits : Nat
  partialAllOnes : Bool
  out : Bytes

/-- The state between two symbols. -/
def HuffmanState.start (out : Bytes) : HuffmanState := ⟨buildTrie, true, 0, true, out⟩

theorem HuffmanState.start_node (out : Bytes) : (start out).node = buildTrie := by
  rw [start]

@[simp] theorem HuffmanState.start_out (out : Bytes) : (start out).out = out := rfl

@[simp] theorem HuffmanState.start_partialBits (out : Bytes) : (start out).partialBits = 0 := rfl

/-- One bit of the decoding loop. -/
def decodeBit (st : HuffmanState) (bit : Bool) : Except Fault HuffmanState :=
  match st.node.child bit with
  | .absent => .error (.new .compressionError "invalid Huffman code")
  | .node zero one symbol =>
      match symbol with
      | some sym =>
          if sym = HUFFMAN_EOS then
            .error (.new .compressionError "EOS symbol in Huffman stream")
          else
            .ok (.start (st.out ++ [UInt8.ofNat sym]))
      | none =>
          .ok ⟨.node zero one symbol, false, st.partialBits + 1, st.partialAllOnes && bit, st.out⟩

/-- Huffman-decode bytes. -/
def huffmanDecode (input : Bytes) : Except Fault Bytes := do
  let st ← (bits input).foldlM decodeBit (HuffmanState.start [])
  -- What is left must be at most seven ones, the start of the EOS code.
  if !st.atRoot && (st.partialBits > 7 || !st.partialAllOnes) then
    throw (.new .compressionError "invalid Huffman padding")
  return st.out

/-! ## What a coded string is -/

/-- The bits of the codes of a byte string. -/
def codesBits (input : Bytes) : List Bool := input.flatMap fun b => codeBits b.toNat

/-- `data` is a Huffman coding of `input`: its codes, then less than a byte of
ones. -/
def HuffmanCoded (input data : Bytes) : Prop :=
  ∃ pad < 8, bits data = codesBits input ++ List.replicate pad true

/-! ## The encoder writes codings -/

theorem length_codesBits (input : Bytes) : (codesBits input).length = encodedBitLength input := by
  simp only [codesBits, List.length_flatMap, codeBits, entryBits, encodedBitLength]
  simp

theorem writeCodes_eq (input : Bytes) (out : Bytes) (bitPos : Nat) :
    writeCodes out bitPos input =
      (writeBits out bitPos (codesBits input), bitPos + encodedBitLength input) := by
  induction input generalizing out bitPos with
  | nil => rfl
  | cons byte input ih =>
      have split : codesBits (byte :: input) = codeBits byte.toNat ++ codesBits input := rfl
      rw [writeCodes, ih, split, writeBits_append, ← length_codesBits (byte :: input), split,
        List.length_append, length_codesBits input, Nat.add_assoc]

theorem bits_huffmanEncode (input : Bytes) :
    bits (huffmanEncode input) = codesBits input ++
      List.replicate ((8 - encodedBitLength input % 8) % 8) true := by
  have total := length_codesBits input
  have zeroed : bits (List.replicate ((encodedBitLength input + 7) / 8) 0) =
      [] ++ List.replicate ((codesBits input ++
        List.replicate ((8 - encodedBitLength input % 8) % 8) true).length + 0) false := by
    rw [bits_replicate_zero, List.length_append, List.length_replicate, total, List.nil_append]
    congr 1
    omega
  have written := bits_writeBits _ _ [] 0 zeroed
  rw [writeBits_append, List.length_nil, Nat.zero_add, total] at written
  simpa [huffmanEncode, writeCodes_eq] using written

theorem huffmanCoded_huffmanEncode (input : Bytes) : HuffmanCoded input (huffmanEncode input) :=
  ⟨_, Nat.mod_lt _ (by omega), bits_huffmanEncode input⟩

/-! ## The decoder reads codings -/

/-- From node `t`, the bits lead past unmarked nodes to one marked `sym`. -/
def Spells (sym : Nat) : List Bool → TrieNode → Bool
  | [], t => t.symbol == some sym
  | bit :: code, t => t.symbol == none && Spells sym code (t.child bit)

/-- From node `t`, the bits lead past unmarked nodes that all exist. -/
def Wanders : List Bool → TrieNode → Bool
  | _, .absent => false
  | [], .node _ _ symbol => symbol == none
  | bit :: code, .node zero one symbol =>
      symbol == none && Wanders code (TrieNode.child (.node zero one symbol) bit)

/-- The facts about the built trie that decoding rests on. -/
theorem buildTrie_checks :
    (buildTrie.symbol == none &&
      HUFFMAN_CODES.zipIdx.all (fun (entry, sym) => Spells sym (entryBits entry) buildTrie) &&
      (List.range 8).all fun pad => Wanders (List.replicate pad true) buildTrie) = true := by
  decide +kernel

theorem symbol_buildTrie : buildTrie.symbol = none := by
  have checks := buildTrie_checks
  simp only [Bool.and_eq_true, beq_iff_eq] at checks
  exact checks.1.1

/-- Every symbol is spelled by its code. -/
theorem spells_codeBits {sym : Nat} (known : sym ≤ HUFFMAN_EOS) :
    Spells sym (codeBits sym) buildTrie = true := by
  have checks := buildTrie_checks
  simp only [Bool.and_eq_true, List.all_eq_true] at checks
  have inside : sym < HUFFMAN_CODES.length := by
    rw [length_HUFFMAN_CODES]
    exact Nat.lt_succ_of_le known
  have entry := checks.1.2 (HUFFMAN_CODES.getD sym (0, 0), sym) (by
    rw [List.mk_mem_zipIdx_iff_getElem?, List.getD_eq_getElem?_getD,
      List.getElem?_eq_getElem inside, Option.getD_some])
  exact entry

/-- The padding never completes a symbol. -/
theorem wanders_ones {pad : Nat} (short : pad < 8) :
    Wanders (List.replicate pad true) buildTrie = true := by
  have checks := buildTrie_checks
  simp only [Bool.and_eq_true, List.all_eq_true] at checks
  exact checks.2 pad (List.mem_range.mpr short)

theorem spells_absent (sym : Nat) (code : List Bool) : Spells sym code .absent = false := by
  induction code with
  | nil => rfl
  | cons bit code ih => simp [Spells, TrieNode.child, ih]

/-- The bits of a code take the loop from the root back to the root, with the
symbol appended; the code of EOS ends it. -/
theorem foldlM_decodeBit_spells {sym : Nat} (code later : List Bool) (st : HuffmanState)
    (start : st.node.symbol = none) (spells : Spells sym code st.node = true) :
    (code ++ later).foldlM decodeBit st =
      if sym = HUFFMAN_EOS then .error (.new .compressionError "EOS symbol in Huffman stream")
      else later.foldlM decodeBit (.start (st.out ++ [UInt8.ofNat sym])) := by
  induction code generalizing st with
  | nil => simp [Spells, start] at spells
  | cons bit code ih =>
      simp only [Spells, Bool.and_eq_true] at spells
      cases next : st.node.child bit with
      | absent => rw [next, spells_absent] at spells; simp at spells
      | node zero one symbol =>
          rw [List.cons_append, List.foldlM_cons]
          cases symbol with
          | some found =>
              -- A marked node ends the code, so the mark is the symbol.
              cases code with
              | nil =>
                  have same : found = sym := by
                    simpa [next, Spells, TrieNode.symbol] using spells.2
                  subst same
                  simp only [decodeBit, next, List.nil_append]
                  by_cases eos : found = HUFFMAN_EOS
                  · rw [if_pos eos, if_pos eos]
                    rfl
                  · rw [if_neg eos, if_neg eos]
                    rfl
              | cons other code => simp [next, Spells, TrieNode.symbol] at spells
          | none =>
              have rest : Spells sym code (.node zero one none) = true := by
                rw [← next]
                exact spells.2
              have step : decodeBit st bit = .ok ⟨.node zero one none, false, st.partialBits + 1,
                  st.partialAllOnes && bit, st.out⟩ := by
                simp only [decodeBit, next]
              rw [step]
              exact ih _ rfl rest

theorem foldlM_decodeBit_codes (input : Bytes) (later : List Bool) (out : Bytes) :
    (codesBits input ++ later).foldlM decodeBit (.start out) =
      later.foldlM decodeBit (.start (out ++ input)) := by
  induction input generalizing out with
  | nil => simp [codesBits]
  | cons byte input ih =>
      have split : codesBits (byte :: input) = codeBits byte.toNat ++ codesBits input := rfl
      have notEos : byte.toNat ≠ HUFFMAN_EOS := Nat.ne_of_lt byte.toNat_lt
      have unmarked : (HuffmanState.start out).node.symbol = none := by
        rw [HuffmanState.start_node, symbol_buildTrie]
      have spelled : Spells byte.toNat (codeBits byte.toNat) (HuffmanState.start out).node := by
        rw [HuffmanState.start_node]
        exact spells_codeBits (Nat.le_of_lt byte.toNat_lt)
      rw [split, List.append_assoc, foldlM_decodeBit_spells _ _ _ unmarked spelled, if_neg notEos,
        HuffmanState.start_out, ih, UInt8.ofNat_toNat, List.append_assoc, List.singleton_append]

/-- Ones that complete no symbol only count up. -/
theorem foldlM_decodeBit_ones (pad : Nat) (st : HuffmanState)
    (wanders : Wanders (List.replicate pad true) st.node = true) (ones : st.partialAllOnes = true) :
    ∃ after, (List.replicate pad true).foldlM decodeBit st = .ok after ∧ after.out = st.out ∧
      after.partialBits = st.partialBits + pad ∧ after.partialAllOnes = true ∧
      (pad = 0 → after.atRoot = st.atRoot) := by
  induction pad generalizing st with
  | zero => exact ⟨st, rfl, rfl, rfl, ones, fun _ => rfl⟩
  | succ pad ih =>
      rw [List.replicate_succ] at wanders ⊢
      cases here : st.node with
      | absent => rw [here] at wanders; simp [Wanders] at wanders
      | node zero one symbol =>
          rw [here] at wanders
          simp only [Wanders, Bool.and_eq_true] at wanders
          cases next : TrieNode.child (.node zero one symbol) true with
          | absent => rw [next] at wanders; cases pad <;> simp [Wanders] at wanders
          | node zero' one' symbol' =>
              have unmarked : symbol' = none := by
                have rest := wanders.2
                rw [next] at rest
                cases pad <;> simp_all [Wanders, List.replicate_succ]
              subst unmarked
              have step : decodeBit st true = .ok ⟨.node zero' one' none, false,
                  st.partialBits + 1, true, st.out⟩ := by
                simp only [decodeBit, here, next, ones, Bool.and_true]
              rw [List.foldlM_cons, step]
              obtain ⟨after, run, out, count, all, -⟩ :=
                ih ⟨.node zero' one' none, false, st.partialBits + 1, true, st.out⟩
                  (by rw [← next]; exact wanders.2) rfl
              exact ⟨after, run, out, by rw [count]; simp only; omega, all, fun h => by omega⟩

/-- Every coded string decodes to what it codes. -/
theorem huffmanDecode_of_coded {input data : Bytes} (coded : HuffmanCoded input data) :
    huffmanDecode data = .ok input := by
  obtain ⟨pad, short, shape⟩ := coded
  have wanders : Wanders (List.replicate pad true) (HuffmanState.start input).node := by
    rw [HuffmanState.start_node]
    exact wanders_ones short
  obtain ⟨after, run, out, count, all, -⟩ := foldlM_decodeBit_ones pad _ wanders rfl
  have counted : after.partialBits = pad := by
    rw [count, HuffmanState.start_partialBits, Nat.zero_add]
  have few : (decide (after.partialBits > 7) || !after.partialAllOnes) = false := by
    rw [all, counted]
    simpa using Nat.le_of_lt_succ short
  rw [huffmanDecode, shape, foldlM_decodeBit_codes, List.nil_append, run]
  simp only [few, out, HuffmanState.start_out, Bool.and_false, Bool.false_eq_true, if_false, bind,
    Except.bind, pure, Except.pure]

/-- Decoding undoes encoding. -/
theorem huffmanDecode_huffmanEncode (input : Bytes) :
    huffmanDecode (huffmanEncode input) = .ok input :=
  huffmanDecode_of_coded (huffmanCoded_huffmanEncode input)

end H2ts.Hpack
