import H2ts.Hpack.Safety

/-!
# Huffman codings are canonical

A string has one Huffman coding, and the decoder accepts no other.  Marks of the trie
stand only at the ends of codes (`codeBits_of_marked`), so behind any bits the decoder
has the codes of its output and a path into the trie (`Behind`).  At the end of the
input the path is at most seven ones, so the input is the coding of the output
(`huffmanCoded_of_decode`).
-/

namespace H2ts.Hpack

open Bits

/-! ## Marks of the trie -/

namespace TrieNode

/-- The node at the end of a path. -/
def walk (t : TrieNode) (path : List Bool) : TrieNode := path.foldl child t

@[simp] theorem walk_nil (t : TrieNode) : t.walk [] = t := rfl

@[simp] theorem walk_cons (t : TrieNode) (bit : Bool) (path : List Bool) :
    t.walk (bit :: path) = (t.child bit).walk path := rfl

theorem walk_append (t : TrieNode) (path later : List Bool) :
    t.walk (path ++ later) = (t.walk path).walk later :=
  List.foldl_append

theorem child_insert_nil (sym : Nat) (t : TrieNode) (bit : Bool) :
    (t.insert sym []).child bit = t.child bit := by
  cases bit <;> rfl

theorem child_insert_cons (sym : Nat) (first : Bool) (code : List Bool) (t : TrieNode) (bit : Bool) :
    (t.insert sym (first :: code)).child bit =
      if bit = first then (t.child bit).insert sym code else t.child bit := by
  cases first <;> cases bit <;> rfl

theorem symbol_insert_cons (sym : Nat) (first : Bool) (code : List Bool) (t : TrieNode) :
    (t.insert sym (first :: code)).symbol = t.symbol := by
  cases first <;> rfl

/-- Inserting a code marks the end of its path and nothing else. -/
theorem symbol_walk_insert (sym : Nat) (code path : List Bool) (t : TrieNode) :
    ((t.insert sym code).walk path).symbol =
      if path = code then some sym else (t.walk path).symbol := by
  induction code generalizing path t with
  | nil =>
      cases path with
      | nil => rfl
      | cons bit path => rw [walk_cons, child_insert_nil, if_neg (List.cons_ne_nil bit path), walk_cons]
  | cons first code ih =>
      cases path with
      | nil => rw [walk_nil, symbol_insert_cons, if_neg (List.cons_ne_nil first code).symm, walk_nil]
      | cons bit path =>
          rw [walk_cons, child_insert_cons, walk_cons]
          by_cases same : bit = first
          · rw [if_pos same, ih]
            simp only [same, List.cons.injEq, true_and]
          · have different : bit :: path ≠ first :: code := fun eq => same (List.cons.inj eq).1
            rw [if_neg same, if_neg different]

end TrieNode

/-- What is marked was marked before or is a code of the entries. -/
theorem marked_foldl {entries : List ((Nat × Nat) × Nat)} {t : TrieNode} {path : List Bool} {sym : Nat}
    (marked : ((entries.foldl (fun root (entry, sym) => root.insert sym (entryBits entry)) t).walk
      path).symbol = some sym) :
    (t.walk path).symbol = some sym ∨ ∃ entry, (entry, sym) ∈ entries ∧ entryBits entry = path := by
  induction entries generalizing t with
  | nil => exact .inl marked
  | cons first entries ih =>
      rcases ih marked with before | ⟨entry, mem, code⟩
      · rw [TrieNode.symbol_walk_insert] at before
        by_cases here : path = entryBits first.1
        · rw [if_pos here, Option.some.injEq] at before
          exact .inr ⟨first.1, before ▸ .head _, here.symm⟩
        · rw [if_neg here] at before
          exact .inl before
      · exact .inr ⟨entry, .tail _ mem, code⟩

/-- A marked node is at the end of the code of its symbol. -/
theorem codeBits_of_marked {path : List Bool} {sym : Nat}
    (marked : (buildTrie.walk path).symbol = some sym) : codeBits sym = path ∧ sym ≤ HUFFMAN_EOS := by
  rcases marked_foldl marked with root | ⟨entry, mem, code⟩
  · cases path with
    | nil => cases root
    | cons bit path =>
        have absent : (TrieNode.node .absent .absent none).child bit = .absent := by cases bit <;> rfl
        have nowhere (path : List Bool) : (TrieNode.absent.walk path).symbol = none := by
          induction path with
          | nil => rfl
          | cons bit path ih => exact ih
        rw [TrieNode.walk_cons, absent, nowhere] at root
        cases root
  · have found : HUFFMAN_CODES[sym]? = some entry := List.mk_mem_zipIdx_iff_getElem?.mp mem
    have inside : sym < HUFFMAN_CODES.length := (List.getElem?_eq_some_iff.mp found).1
    rw [length_HUFFMAN_CODES] at inside
    refine ⟨?_, Nat.le_of_lt_succ inside⟩
    rw [codeBits, List.getD_eq_getElem?_getD, found, Option.getD_some, code]

/-! ## Behind some bits -/

/-- The state after some bits: they are the codes of a string, which was appended to the
output, and a path into the trie. -/
structure Behind (out : Bytes) (read : List Bool) (word : Bytes) (path : List Bool)
    (st : HuffmanState) : Prop where
  read : read = codesBits word ++ path
  out : st.out = out ++ word
  node : st.node = buildTrie.walk path
  atRoot : st.atRoot = path.isEmpty
  count : st.partialBits = path.length
  ones : st.partialAllOnes = path.all id

theorem HuffmanState.start_walk (out : Bytes) : (start out).node = buildTrie.walk [] := by
  rw [start_node, TrieNode.walk_nil]

theorem behind_start (out : Bytes) : Behind out [] [] [] (.start out) := by
  refine ⟨rfl, ?_, HuffmanState.start_walk out, rfl, rfl, rfl⟩
  rw [HuffmanState.start_out, List.append_nil]

theorem codesBits_append (word later : Bytes) :
    codesBits (word ++ later) = codesBits word ++ codesBits later :=
  List.flatMap_append

/-- One more bit completes a symbol or lengthens the path. -/
theorem Behind.decodeBit {out : Bytes} {read : List Bool} {word : Bytes} {path : List Bool}
    {st st' : HuffmanState} (behind : Behind out read word path st) {bit : Bool}
    (decoded : decodeBit st bit = .ok st') :
    ∃ word' path', Behind out (read ++ [bit]) word' path' st' := by
  have child : st.node.child bit = buildTrie.walk (path ++ [bit]) := by
    rw [behind.node, TrieNode.walk_append]
    rfl
  unfold Hpack.decodeBit at decoded
  cases next : st.node.child bit with
  | absent => simp only [next] at decoded; cases decoded
  | node zero one symbol =>
      simp only [next] at decoded
      cases symbol with
      | none =>
          cases decoded
          refine ⟨word, path ++ [bit], ?_, behind.out, next ▸ child, ?_, ?_, ?_⟩
          · rw [behind.read, List.append_assoc]
          · cases path <;> rfl
          · rw [List.length_append, List.length_singleton, ← behind.count]
          · rw [List.all_append, ← behind.ones]
            simp
      | some sym =>
          have marked : (buildTrie.walk (path ++ [bit])).symbol = some sym := by
            rw [← child, next]
            rfl
          obtain ⟨code, small⟩ := codeBits_of_marked marked
          simp only at decoded
          by_cases eos : sym = HUFFMAN_EOS
          · rw [if_pos eos] at decoded
            cases decoded
          · rw [if_neg eos] at decoded
            cases decoded
            have byte : (UInt8.ofNat sym).toNat = sym := by
              rw [UInt8.toNat_ofNat']
              have eos : sym ≠ 256 := eos
              have small : sym ≤ 256 := small
              omega
            have later : codesBits [UInt8.ofNat sym] = path ++ [bit] := by
              rw [codesBits, List.flatMap_singleton, byte, code]
            refine ⟨word ++ [UInt8.ofNat sym], [], ?_, ?_, HuffmanState.start_walk _, rfl, rfl, rfl⟩
            · rw [codesBits_append, later, behind.read, List.append_nil, List.append_assoc]
            · rw [HuffmanState.start_out, behind.out, List.append_assoc]

theorem Behind.foldlM {out : Bytes} {read : List Bool} {word : Bytes} {path : List Bool}
    {st st' : HuffmanState} (behind : Behind out read word path st) {later : List Bool}
    (decoded : later.foldlM Hpack.decodeBit st = .ok st') :
    ∃ word' path', Behind out (read ++ later) word' path' st' := by
  induction later generalizing read word path st with
  | nil =>
      cases decoded
      exact ⟨word, path, by rwa [List.append_nil]⟩
  | cons bit later ih =>
      rw [List.foldlM_cons] at decoded
      cases step : Hpack.decodeBit st bit with
      | error fault => rw [step] at decoded; cases decoded
      | ok next =>
          rw [step] at decoded
          obtain ⟨word, path, here⟩ := behind.decodeBit step
          obtain ⟨word', path', there⟩ := ih here decoded
          rw [List.append_assoc] at there
          exact ⟨word', path', there⟩

/-! ## One coding for a string -/

theorem replicate_of_all {path : List Bool} (ones : path.all id = true) :
    path = List.replicate path.length true :=
  List.eq_replicate_iff.mpr ⟨rfl, fun _ mem => List.all_eq_true.mp ones _ mem⟩

/-- The padding is not a beginning of the code of EOS. -/
def HuffmanState.improper (st : HuffmanState) : Bool :=
  !st.atRoot && (decide (st.partialBits > 7) || !st.partialAllOnes)

theorem huffmanDecode_of_run {data : Bytes} {st : HuffmanState}
    (run : (bits data).foldlM decodeBit (.start []) = .ok st) :
    huffmanDecode data =
      if st.improper then .error (.new .compressionError "invalid Huffman padding")
      else .ok st.out := by
  rw [huffmanDecode, run]
  rfl

/-- What the decoder accepts is a coding of what it returns. -/
theorem huffmanCoded_of_decode {input data : Bytes} (decoded : huffmanDecode data = .ok input) :
    HuffmanCoded input data := by
  cases run : (bits data).foldlM decodeBit (.start []) with
  | error fault =>
      rw [huffmanDecode, run] at decoded
      cases decoded
  | ok st =>
      obtain ⟨word, path, behind⟩ := (behind_start []).foldlM run
      rw [List.nil_append] at behind
      rw [huffmanDecode_of_run run] at decoded
      by_cases padding : st.improper = true
      · rw [if_pos padding] at decoded
        cases decoded
      · rw [if_neg padding] at decoded
        cases decoded
        rw [HuffmanState.improper, behind.atRoot, behind.count, behind.ones] at padding
        rw [behind.out, List.nil_append]
        cases path with
        | nil => exact ⟨0, by decide, behind.read⟩
        | cons bit path =>
            simp only [List.isEmpty_cons, Bool.not_false, Bool.true_and, Bool.or_eq_true,
              decide_eq_true_eq, Bool.not_eq_true', not_or, Bool.not_eq_false] at padding
            have few : (bit :: path).length < 8 := by omega
            exact ⟨_, few, by rw [← replicate_of_all padding.2]; exact behind.read⟩

theorem length_huffmanEncode (input : Bytes) :
    (huffmanEncode input).length = (encodedBitLength input + 7) / 8 := by
  have length := congrArg List.length (bits_huffmanEncode input)
  rw [length_bits, List.length_append, length_codesBits, List.length_replicate] at length
  omega

/-- The number of padding ones is what is missing to a whole byte. -/
theorem huffmanEncode_of_coded {input data : Bytes} (coded : HuffmanCoded input data) :
    huffmanEncode input = data := by
  obtain ⟨pad, short, shape⟩ := coded
  have length := congrArg List.length shape
  rw [length_bits, List.length_append, length_codesBits, List.length_replicate] at length
  have same : (8 - encodedBitLength input % 8) % 8 = pad := by omega
  apply bits_injective
  rw [bits_huffmanEncode, same, shape]

/-! ## What is rejected -/

/-- A result that is refused with a compression error. -/
def Rejected {α : Type} (result : Except Fault α) : Prop :=
  ∃ message, result = .error (.new .compressionError message)

/-- A string is decoded or refused. -/
theorem huffmanDecode_rejected {data : Bytes} (fails : ∀ input, huffmanDecode data ≠ .ok input) :
    Rejected (huffmanDecode data) := by
  cases decoded : huffmanDecode data with
  | ok input => exact absurd decoded (fails input)
  | error fault =>
      obtain ⟨message, rfl⟩ := huffmanDecode_careful data fault decoded
      exact ⟨message, rfl⟩

/-- The code of EOS is not decoded. -/
theorem huffmanDecode_eos {word data : Bytes} {later : List Bool}
    (shape : bits data = codesBits word ++ (codeBits HUFFMAN_EOS ++ later)) :
    Rejected (huffmanDecode data) := by
  have unmarked : (HuffmanState.start word).node.symbol = none := by
    rw [HuffmanState.start_node, symbol_buildTrie]
  have spelled : Spells HUFFMAN_EOS (codeBits HUFFMAN_EOS) (HuffmanState.start word).node = true := by
    rw [HuffmanState.start_node]
    exact spells_codeBits (Nat.le_refl _)
  have run : (bits data).foldlM decodeBit (.start []) =
      .error (.new .compressionError "EOS symbol in Huffman stream") := by
    rw [shape, foldlM_decodeBit_codes, List.nil_append,
      foldlM_decodeBit_spells _ _ _ unmarked spelled, if_pos rfl]
  refine ⟨"EOS symbol in Huffman stream", ?_⟩
  rw [huffmanDecode, run]
  rfl

/-- Bits that begin with no code: what is left behind the last symbol. -/
def Unfinished (padding : List Bool) : Prop := ∀ sym ≤ HUFFMAN_EOS, ¬ codeBits sym <+: padding

/-- Padding that is longer than seven bits or has a zero is not taken. -/
theorem huffmanDecode_padding {word data : Bytes} {padding : List Bool}
    (shape : bits data = codesBits word ++ padding) (unfinished : Unfinished padding)
    (improper : 7 < padding.length ∨ false ∈ padding) : Rejected (huffmanDecode data) := by
  refine huffmanDecode_rejected fun input decoded => ?_
  have run : (bits data).foldlM decodeBit (.start []) = padding.foldlM decodeBit (.start word) := by
    rw [shape, foldlM_decodeBit_codes, List.nil_append]
  cases rest : padding.foldlM decodeBit (.start word) with
  | error fault =>
      rw [huffmanDecode, run, rest] at decoded
      cases decoded
  | ok st =>
      obtain ⟨more, path, behind⟩ := (behind_start word).foldlM rest
      have none : more = [] := by
        cases more with
        | nil => rfl
        | cons byte more =>
            have code : codeBits byte.toNat <+: padding := by
              have read : padding = codeBits byte.toNat ++ (codesBits more ++ path) := by
                rw [← List.append_assoc]
                exact behind.read
              rw [read]
              exact List.prefix_append _ _
            exact absurd code (unfinished _ (Nat.le_of_lt byte.toNat_lt))
      subst none
      have same : padding = path := behind.read
      subst same
      have refused : st.improper = true := by
        rw [HuffmanState.improper, behind.atRoot, behind.count, behind.ones]
        cases padding with
        | nil => simp at improper
        | cons bit padding =>
            rcases improper with long | zero
            · rw [decide_eq_true long]
              rfl
            · have some : (bit :: padding).all id = false :=
                List.all_eq_false.mpr ⟨false, zero, Bool.false_ne_true⟩
              rw [some, Bool.not_false, Bool.or_true]
              rfl
      rw [huffmanDecode_of_run (run.trans rest), if_pos refused] at decoded
      cases decoded

/-- Encoding and decoding are inverse to each other, on what the decoder accepts, and the
encoder's length is the one that `huffmanShorter` compares. -/
structure HuffmanBijection : Prop where
  decode_encode : ∀ input, huffmanDecode (huffmanEncode input) = .ok input
  shorter : ∀ input, huffmanShorter input = decide ((huffmanEncode input).length < input.length)
  encode_decode : ∀ input data, huffmanDecode data = .ok input → huffmanEncode input = data
  eos : ∀ word later data, bits data = codesBits word ++ (codeBits HUFFMAN_EOS ++ later) →
    Rejected (huffmanDecode data)
  padding : ∀ word padding data, bits data = codesBits word ++ padding → Unfinished padding →
    7 < padding.length ∨ false ∈ padding → Rejected (huffmanDecode data)

theorem huffman_bijection : HuffmanBijection where
  decode_encode := huffmanDecode_huffmanEncode
  shorter := fun input => by rw [huffmanShorter, length_huffmanEncode]
  encode_decode := fun _ _ decoded => huffmanEncode_of_coded (huffmanCoded_of_decode decoded)
  eos := fun _ _ _ shape => huffmanDecode_eos shape
  padding := fun _ _ _ shape unfinished improper => huffmanDecode_padding shape unfinished improper

end H2ts.Hpack
