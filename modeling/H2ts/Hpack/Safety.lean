import H2ts.Hpack.Coder

/-!
# HPACK decoding does not panic

Every fixed-width read of the decoder comes after a check that a byte is left, and
every index that is looked up was checked not to be 0.  So whatever the block is,
`decode` returns headers or a compression error (`decode_careful`).
-/

namespace H2ts

/-! ## Computations that do not panic -/

/-- A computation that does not panic. -/
def Calm {α : Type} (result : Except Fault α) : Prop := result ≠ .error .panic

namespace Calm

variable {α β : Type}

theorem ok (a : α) : Calm (.ok a) := by
  intro same
  cases same

theorem error (err : H2Error) : Calm (.error (.h2 err) : Except Fault α) := by
  intro same
  cases same

end Calm

/-- A computation that fails only with compression errors. -/
def Careful {α : Type} (result : Except Fault α) : Prop :=
  ∀ fault, result = .error fault → ∃ message, fault = .new .compressionError message

namespace Careful

variable {α β : Type}

theorem ok (a : α) : Careful (.ok a) := by
  intro fault same
  cases same

theorem error (message : String) :
    Careful (.error (.new .compressionError message) : Except Fault α) := by
  intro fault same
  cases same
  exact ⟨message, rfl⟩

theorem calm {result : Except Fault α} (careful : Careful result) : Calm result := by
  intro panics
  obtain ⟨message, same⟩ := careful .panic panics
  cases same

/-- The next computation is asked only for results of the first. -/
theorem bind {result : Except Fault α} {next : α → Except Fault β} (careful : Careful result)
    (later : ∀ a, result = .ok a → Careful (next a)) : Careful (result >>= next) := by
  cases result with
  | error fault =>
      intro other same
      cases same
      exact careful fault rfl
  | ok a => exact later a rfl

/-- A check that throws. -/
theorem check {condition : Prop} [Decidable condition] (message : String)
    {next : PUnit → Except Fault β} (later : ¬condition → Careful (next ⟨⟩)) :
    Careful (if condition then throw (.new .compressionError message) >>= next else next ⟨⟩) := by
  split
  · exact .error message
  next clear => exact later clear

end Careful

namespace Hpack

/-! ## Primitives -/

theorem readRest_careful (w value shift : Nat) (r : ByteReader) : Careful (readRest w value shift r) := by
  induction r generalizing value shift with
  | nil => exact .error _
  | cons byte r ih =>
      rw [readRest]
      split
      · exact .error _
      · split
        · exact .ok _
        · exact ih _ _

theorem readInteger_careful (w : Nat) {r : ByteReader} (some : r ≠ []) (prefixBits : Nat) :
    Careful (readInteger w r prefixBits) := by
  cases r with
  | nil => exact absurd rfl some
  | cons first r =>
      refine .bind (.ok _) fun (first, r) _ => ?_
      simp only []
      split
      · exact .ok _
      · exact readRest_careful w _ 0 r

theorem decodeBit_careful (st : HuffmanState) (bit : Bool) : Careful (decodeBit st bit) := by
  unfold decodeBit
  split
  · exact .error _
  · split
    · split
      · exact .error _
      · exact .ok _
    · exact .ok _

theorem decodeBits_careful (st : HuffmanState) (bits : List Bool) : Careful (bits.foldlM decodeBit st) := by
  induction bits generalizing st with
  | nil => exact .ok _
  | cons bit bits ih => exact .bind (decodeBit_careful st bit) fun st _ => ih st

theorem huffmanDecode_careful (input : Bytes) : Careful (huffmanDecode input) := by
  refine .bind (decodeBits_careful _ _) fun st _ => ?_
  exact .check _ fun _ => .ok _

theorem readString_careful (r : ByteReader) : Careful (readString r) := by
  unfold readString
  refine .check _ fun left => ?_
  cases r with
  | nil => exact absurd rfl left
  | cons first rest =>
      refine .bind (.ok _) fun first _ => ?_
      refine .bind (readInteger_careful _ (by simp) 7) fun (length, r) _ => ?_
      refine .check _ fun _ => ?_
      split
      · exact .error _
      · split
        · exact .bind (huffmanDecode_careful _) fun _ _ => .ok _
        · exact .bind (.ok _) fun _ _ => .ok _

/-! ## The decoder -/

namespace HpackDecoder

theorem entryAt_careful (d : HpackDecoder) {index : Nat} (positive : index ≠ 0) :
    Careful (d.entryAt index) := by
  unfold entryAt
  split
  · exact .ok _
  next beyond =>
    split
    next low => exact absurd ⟨Nat.pos_of_ne_zero positive, Nat.le_of_lt_succ low⟩ beyond
    next =>
      split
      · exact .ok _
      · exact .error _

theorem readName_careful (d : HpackDecoder) (nameIndex : Nat) (r : ByteReader) :
    Careful (d.readName nameIndex r) := by
  unfold readName
  split
  · exact readString_careful r
  next positive => exact .bind (d.entryAt_careful positive) fun _ _ => .ok _

theorem applyMaxSize_careful (d : HpackDecoder) (newSize : Nat) : Careful (d.applyMaxSize newSize) := by
  unfold applyMaxSize
  split
  · exact .error _
  · exact .ok _

theorem decodeField_careful (d : HpackDecoder) {r : ByteReader} (some : r ≠ []) :
    Careful (d.decodeField r) := by
  have first : Careful r.peek := by
    cases r with
    | nil => exact absurd rfl some
    | cons byte r => exact .ok byte
  refine .bind first fun first _ => ?_
  split
  · refine .bind (readInteger_careful _ some 7) fun (index, r) _ => ?_
    exact .check _ fun positive => .bind (d.entryAt_careful positive) fun _ _ => .ok _
  · split
    · refine .bind (readInteger_careful _ some 6) fun (nameIndex, r) _ => ?_
      refine .bind (d.readName_careful nameIndex r) fun (name, r) _ => ?_
      exact .bind (readString_careful r) fun _ _ => .ok _
    · split
      · refine .bind (readInteger_careful _ some 5) fun (newSize, r) _ => ?_
        exact .bind (d.applyMaxSize_careful newSize) fun _ _ => .ok _
      · refine .bind (readInteger_careful _ some 4) fun (nameIndex, r) _ => ?_
        refine .bind (d.readName_careful nameIndex r) fun (name, r) _ => ?_
        exact .bind (readString_careful r) fun _ _ => .ok _

theorem decodeLoop_careful (fuel : Nat) (d : HpackDecoder) (r : ByteReader) (headers : List Header) :
    Careful (decodeLoop fuel d r headers).2 := by
  induction fuel generalizing d r headers with
  | zero => exact .ok _
  | succ fuel ih =>
      rw [decodeLoop]
      split
      · exact .ok _
      next left =>
        have some : r ≠ [] := fun none => left (by rw [none]; rfl)
        have careful := d.decodeField_careful some
        split
        next fault failed =>
          intro other same
          cases same
          exact careful fault failed
        next => exact ih _ _ _

/-- A block that is not decoded is refused with a compression error. -/
theorem decode_careful (d : HpackDecoder) (block : Bytes) : Careful (d.decode block).2 :=
  decodeLoop_careful _ d block []

/-- Decoding a block does not panic. -/
theorem decode_calm (d : HpackDecoder) (block : Bytes) : Calm (d.decode block).2 :=
  (d.decode_careful block).calm

end HpackDecoder

end Hpack

end H2ts
