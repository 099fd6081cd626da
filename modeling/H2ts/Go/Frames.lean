import H2ts.Go.Conn

/-!
# WebSocket frames

The frames a client sends, as fields, and their bytes.  A `FrameHeader` is any complete
header, and it is `Offending` if a server must not take it.  A `ClientFrame` cannot be
malformed: it is masked, its length fits its field, and a control frame is small and whole.

`readHeader` reads the fields off the bytes (`readHeader_taken`) or refuses the header
(`readHeader_refused`).
-/

namespace H2ts

namespace Go

open BigEndian Bufio

/-- The three ways to write a payload length. -/
inductive LengthForm where
  | short
  | medium
  | long
deriving DecidableEq, Repr

namespace LengthForm

/-- The lengths that the field can hold. -/
def limit : LengthForm → Nat
  | short => 125
  | medium => 2 ^ 16 - 1
  | long => 2 ^ 64 - 1

/-- The seven bits in the header. -/
def code : LengthForm → Nat → Nat
  | short, length => length
  | medium, _ => 126
  | long, _ => 127

/-- The bytes behind them. -/
def ext : LengthForm → Nat → Bytes
  | short, _ => []
  | medium, length => be 2 length
  | long, length => be 8 length

theorem code_lt {form : LengthForm} {length : Nat} (fits : length ≤ form.limit) :
    form.code length < 128 := by
  cases form with
  | short => exact lt_of_le_of_lt fits (by decide)
  | medium => show 126 < 128; decide
  | long => show 127 < 128; decide

end LengthForm

/-- The bytes of a key. -/
def keyBytes (key : Fin 4 → UInt8) : Bytes := List.ofFn key

structure FrameHeader where
  fin : Bool
  rsv : Fin 8
  opcode : Fin 16
  masked : Bool
  form : LengthForm
  length : Nat
  key : Fin 4 → UInt8
  fits : length ≤ form.limit

namespace FrameHeader

def first (h : FrameHeader) : UInt8 := UInt8.ofNat (128 * h.fin.toNat + 16 * h.rsv + h.opcode)

def second (h : FrameHeader) : UInt8 := UInt8.ofNat (128 * h.masked.toNat + h.form.code h.length)

def bytes (h : FrameHeader) : Bytes :=
  [h.first, h.second] ++ (h.form.ext h.length ++ if h.masked then keyBytes h.key else [])

/-- Opcodes 8 to 15 are for control frames. -/
def control (h : FrameHeader) : Prop := 8 ≤ h.opcode.val

/-- No meaning is assigned to opcodes 3 to 7 and 11 to 15. -/
def reserved (h : FrameHeader) : Prop :=
  3 ≤ h.opcode.val ∧ h.opcode.val ≤ 7 ∨ 11 ≤ h.opcode.val

instance (h : FrameHeader) : Decidable h.control := inferInstanceAs (Decidable (_ ≤ _))

instance (h : FrameHeader) : Decidable h.reserved := inferInstanceAs (Decidable (_ ∨ _))

/-- A server must not take the frame. -/
inductive Offending (h : FrameHeader) : Prop where
  | rsv (nonzero : h.rsv ≠ 0)
  | unmasked (clear : h.masked = false)
  | reserved (reserved : h.reserved)
  | fragmented (control : h.control) (more : h.fin = false)
  | large (control : h.control) (large : 125 < h.length)
  /-- A 64-bit length overflows `int64`. -/
  | overflow (huge : maxInt64 < h.length)

/-! ## The bits of a header -/

theorem first_bits (fin : Bool) (rsv : Fin 8) (opcode : Fin 16) :
    (UInt8.ofNat (128 * fin.toNat + 16 * rsv + opcode) &&& 0x80 != 0) = fin ∧
      (UInt8.ofNat (128 * fin.toNat + 16 * rsv + opcode) &&& 0x70 != 0) = decide (rsv ≠ 0) ∧
      UInt8.ofNat (128 * fin.toNat + 16 * rsv + opcode) &&& 0x0F = UInt8.ofNat opcode := by
  decide +kernel +revert

theorem second_bits (masked : Bool) (code : Fin 128) :
    (UInt8.ofNat (128 * masked.toNat + code) &&& 0x80 != 0) = masked ∧
      UInt8.ofNat (128 * masked.toNat + code) &&& 0x7F = UInt8.ofNat code := by
  decide +kernel +revert

theorem control_bit (opcode : Fin 16) :
    (UInt8.ofNat opcode &&& 0x8 != 0) = decide (8 ≤ opcode.val) := by
  decide +kernel +revert

end FrameHeader

namespace Conn

variable {c : Conn}

theorem readFull_append {xs rest : Bytes} (holds : c.r.content = xs ++ rest) :
    ∃ r, c.readFull xs.length = (.ok xs, { c with r := r }) ∧ r.content = rest := by
  obtain ⟨r, reads, left⟩ := Reader.readFull_append holds
  exact ⟨r, by rw [readFull, reads], left⟩

/-- The length is read off its field. -/
theorem readLength_eq {form : LengthForm} {length : Nat} {rest : Bytes}
    (fits : length ≤ form.limit) (holds : c.r.content = form.ext length ++ rest) :
    ∃ r, c.readLength (UInt8.ofNat (form.code length)) =
        (if maxInt64 < length then .error (.protocol "frame length overflows int64")
          else .ok length, { c with r := r }) ∧ r.content = rest := by
  cases form with
  | short =>
      have small : length ≤ 125 := fits
      have legal : ¬ maxInt64 < length := by unfold maxInt64; omega
      have number : (UInt8.ofNat length).toNat = length := by
        rw [UInt8.toNat_ofNat']
        omega
      have other (b : UInt8) (large : 125 < b.toNat) : UInt8.ofNat length ≠ b := by
        rintro rfl
        omega
      refine ⟨c.r, ?_, holds⟩
      show c.readLength (UInt8.ofNat length) = _
      rw [readLength, if_neg (other 126 (by decide)), if_neg (other 127 (by decide)), if_neg legal,
        number]
  | medium =>
      have small : length < 2 ^ (8 * 2) := lt_of_le_of_lt fits (by decide)
      have legal : ¬ maxInt64 < length := by unfold maxInt64; omega
      obtain ⟨r, reads, left⟩ := readFull_append holds
      have reads : c.readFull 2 = (.ok (be 2 length), { c with r := r }) := reads
      refine ⟨r, ?_, left⟩
      show c.readLength 126 = _
      rw [readLength, if_pos rfl, reads, if_neg legal]
      simp only [ofBe_be small]
  | long =>
      have small : length < 2 ^ (8 * 8) := lt_of_le_of_lt fits (by decide)
      obtain ⟨r, reads, left⟩ := readFull_append holds
      have reads : c.readFull 8 = (.ok (be 8 length), { c with r := r }) := reads
      refine ⟨r, ?_, left⟩
      show c.readLength 127 = _
      rw [readLength, if_neg (by decide), if_pos rfl, reads]
      simp only [ofBe_be small, gt_iff_lt]
      split <;> rfl

/-- The first two bytes of a header. -/
theorem readHeader_start {h : FrameHeader} {rest : Bytes} (holds : c.r.content = h.bytes ++ rest) :
    ∃ r, c.readFull 2 = (.ok [h.first, h.second], { c with r := r }) ∧
      r.content = h.form.ext h.length ++ ((if h.masked then keyBytes h.key else []) ++ rest) := by
  rw [FrameHeader.bytes, List.append_assoc, List.append_assoc] at holds
  exact readFull_append holds

/-- A control frame is whole and small, or the fault is a protocol error. -/
theorem controlFault_cases (h : FrameHeader) :
    (h.control → h.fin = true ∧ h.length ≤ 125) ∧
        controlFault h.fin (UInt8.ofNat h.opcode) h.length = none ∨
      (∃ message, controlFault h.fin (UInt8.ofNat h.opcode) h.length = some (.protocol message)) ∧
        h.control ∧ (h.fin = false ∨ 125 < h.length) := by
  unfold controlFault
  rw [FrameHeader.control_bit]
  by_cases control : 8 ≤ h.opcode.val
  · simp only [decide_eq_true control, if_true]
    cases fin : h.fin with
    | false => exact .inr ⟨⟨_, rfl⟩, control, .inl rfl⟩
    | true =>
        by_cases large : 125 < h.length
        · exact .inr ⟨⟨"control frame payload > 125 bytes", by simp [large]⟩, control, .inr large⟩
        · exact .inl ⟨fun _ => ⟨rfl, by omega⟩, by simp [large]⟩
  · refine .inl ⟨fun is => absurd is control, ?_⟩
    simp only [decide_eq_false control, Bool.false_eq_true, if_false]

/-- The length that a masked header without RSV bits gives. -/
theorem readHeader_length {h : FrameHeader} {rest : Bytes} (holds : c.r.content = h.bytes ++ rest)
    (rsv : h.rsv = 0) (masked : h.masked = true) (legal : h.length ≤ maxInt64) :
    ∃ r, r.content = keyBytes h.key ++ rest ∧
      (∀ err, controlFault h.fin (UInt8.ofNat h.opcode) h.length = some err →
        c.readHeader = (.error err, { c with r := r })) ∧
      ∀ key r', controlFault h.fin (UInt8.ofNat h.opcode) h.length = none →
        ({ c with r := r } : Conn).readFull 4 = (.ok key, { c with r := r' }) →
        c.readHeader = (.ok (UInt8.ofNat h.opcode, true, h.length),
          { c with r := r', maskKey := fun i => key.getD i 0 }) := by
  obtain ⟨r, start, content⟩ := readHeader_start holds
  obtain ⟨finBit, rsvBits, opcodeBits⟩ := FrameHeader.first_bits h.fin h.rsv h.opcode
  obtain ⟨maskBit, lengthBits⟩ :=
    FrameHeader.second_bits h.masked ⟨_, LengthForm.code_lt h.fits⟩
  obtain ⟨r', lengths, left⟩ := readLength_eq (c := { c with r := r }) h.fits content
  rw [if_neg (by omega)] at lengths
  rw [masked, if_pos rfl] at left
  have finSet : (h.first &&& 0x80 != 0) = h.fin := finBit
  have rsvZero : (h.first &&& 0x70 != 0) = false := by
    rw [FrameHeader.first, rsvBits, rsv]
    rfl
  have opcode : h.first &&& 0x0F = UInt8.ofNat h.opcode := opcodeBits
  have maskSet : (h.second &&& 0x80 != 0) = true := maskBit.trans masked
  have shortBits : h.second &&& 0x7F = UInt8.ofNat (h.form.code h.length) := lengthBits
  refine ⟨r', left, fun err fault => ?_, fun key r'' fine reads => ?_⟩
  · simp only [readHeader, start, List.getD_cons_zero, List.getD_cons_succ, finSet, rsvZero, opcode,
      maskSet, shortBits, lengths, fault, Bool.false_eq_true, Bool.not_true, if_false]
  · simp only [readHeader, start, List.getD_cons_zero, List.getD_cons_succ, finSet, rsvZero, opcode,
      maskSet, shortBits, lengths, fine, reads, Bool.false_eq_true, Bool.not_true, if_false]

/-- A header with no fault, its opcode apart. -/
theorem readHeader_taken {h : FrameHeader} {rest : Bytes} (holds : c.r.content = h.bytes ++ rest)
    (rsv : h.rsv = 0) (masked : h.masked = true) (whole : h.control → h.fin = true ∧ h.length ≤ 125)
    (legal : h.length ≤ maxInt64) :
    ∃ r, c.readHeader = (.ok (UInt8.ofNat h.opcode, true, h.length),
        { c with r := r, maskKey := h.key }) ∧ r.content = rest := by
  obtain ⟨r, content, -, same⟩ := readHeader_length holds rsv masked legal
  obtain ⟨r', reads, left⟩ := readFull_append (c := { c with r := r }) content
  have reads : ({ c with r := r } : Conn).readFull 4 = (.ok (keyBytes h.key), { c with r := r' }) :=
    reads
  have key : (fun i : Fin 4 => (keyBytes h.key).getD i 0) = h.key := by
    funext i
    match i with
    | 0 | 1 | 2 | 3 => rfl
  refine ⟨r', ?_, left⟩
  rcases controlFault_cases h with ⟨-, fine⟩ | ⟨-, control, fragmented | large⟩
  · rw [same _ _ fine reads, key]
  · rw [(whole control).1] at fragmented
    cases fragmented
  · have small := (whole control).2
    omega

/-- A header with another fault than a reserved opcode. -/
theorem readHeader_refused {h : FrameHeader} {rest : Bytes} (holds : c.r.content = h.bytes ++ rest)
    (faulty : ¬ (h.rsv = 0 ∧ h.masked = true ∧ (h.control → h.fin = true ∧ h.length ≤ 125) ∧
      h.length ≤ maxInt64)) :
    ∃ message r, c.readHeader = (.error (.protocol message), { c with r := r }) := by
  obtain ⟨r, start, content⟩ := readHeader_start holds
  obtain ⟨finBit, rsvBits, opcodeBits⟩ := FrameHeader.first_bits h.fin h.rsv h.opcode
  obtain ⟨maskBit, lengthBits⟩ :=
    FrameHeader.second_bits h.masked ⟨_, LengthForm.code_lt h.fits⟩
  have rsvSet : (h.first &&& 0x70 != 0) = decide (h.rsv ≠ 0) := rsvBits
  have maskSet : (h.second &&& 0x80 != 0) = h.masked := maskBit
  by_cases rsv : h.rsv = 0
  · cases masked : h.masked with
    | false =>
        refine ⟨"unmasked client frame", r, ?_⟩
        simp only [readHeader, start, List.getD_cons_zero, List.getD_cons_succ, rsvSet, maskSet, rsv,
          masked, ne_eq, not_true_eq_false, decide_false, Bool.false_eq_true, Bool.not_false, if_true,
          if_false]
    | true =>
        by_cases legal : h.length ≤ maxInt64
        · obtain ⟨r', -, same, -⟩ := readHeader_length holds rsv masked legal
          rcases controlFault_cases h with ⟨whole, -⟩ | ⟨⟨message, fault⟩, -, -⟩
          · exact absurd ⟨rsv, masked, whole, legal⟩ faulty
          · exact ⟨message, r', same _ fault⟩
        · obtain ⟨r', lengths, -⟩ := readLength_eq (c := { c with r := r }) h.fits content
          have shortBits : h.second &&& 0x7F = UInt8.ofNat (h.form.code h.length) := lengthBits
          rw [if_pos (by omega)] at lengths
          refine ⟨"frame length overflows int64", r', ?_⟩
          simp only [readHeader, start, List.getD_cons_zero, List.getD_cons_succ, rsvSet, maskSet, rsv,
            masked, ne_eq, not_true_eq_false, decide_false, Bool.false_eq_true, Bool.not_true, if_false,
            shortBits, lengths]
  · refine ⟨"nonzero RSV bits (no extension negotiated)", r, ?_⟩
    simp only [readHeader, start, List.getD_cons_zero, rsvSet, rsv, ne_eq, not_false_eq_true,
      decide_true, if_true]

end Conn

/-! ## The frames of a client -/

inductive Opcode where
  | continuation
  | text
  | binary
  | close
  | ping
  | pong
deriving DecidableEq, Repr

namespace Opcode

def code : Opcode → Fin 16
  | continuation => 0
  | text => 1
  | binary => 2
  | close => 8
  | ping => 9
  | pong => 10

def isControl : Opcode → Bool
  | continuation | text | binary => false
  | close | ping | pong => true

theorem isControl_eq (opcode : Opcode) : opcode.isControl = decide (8 ≤ opcode.code.val) := by
  cases opcode <;> rfl

end Opcode

/-- A well-formed frame of a client. -/
structure ClientFrame where
  opcode : Opcode
  fin : Bool
  form : LengthForm
  key : Fin 4 → UInt8
  payload : Bytes
  fits : payload.length ≤ form.limit
  legal : payload.length ≤ maxInt64
  whole : opcode.isControl = true → fin = true ∧ payload.length ≤ 125

namespace ClientFrame

def header (f : ClientFrame) : FrameHeader where
  fin := f.fin
  rsv := 0
  opcode := f.opcode.code
  masked := true
  form := f.form
  length := f.payload.length
  key := f.key
  fits := f.fits

def bytes (f : ClientFrame) : Bytes := f.header.bytes ++ Conn.xorMask f.key 0 f.payload

theorem whole_header (f : ClientFrame) :
    f.header.control → f.header.fin = true ∧ f.header.length ≤ 125 := by
  intro control
  exact f.whole (f.opcode.isControl_eq.trans (decide_eq_true control))

end ClientFrame

/-! ## Masking -/

namespace Conn

@[simp] theorem length_xorMask (key : Fin 4 → UInt8) (pos : Nat) (bytes : Bytes) :
    (xorMask key pos bytes).length = bytes.length := by
  induction bytes generalizing pos with
  | nil => rfl
  | cons b bytes ih => exact congrArg (· + 1) (ih _)

/-- Masking twice gives the bytes back. -/
@[simp] theorem xorMask_xorMask (key : Fin 4 → UInt8) (pos : Nat) (bytes : Bytes) :
    xorMask key pos (xorMask key pos bytes) = bytes := by
  induction bytes generalizing pos with
  | nil => rfl
  | cons b bytes ih =>
      simp only [xorMask, ih, List.cons.injEq, and_true]
      rw [UInt8.xor_assoc, UInt8.xor_self, UInt8.xor_zero]

theorem xorMask_append (key : Fin 4 → UInt8) (pos : Nat) (front bytes : Bytes) :
    xorMask key pos (front ++ bytes) = xorMask key pos front ++ xorMask key (pos + front.length) bytes := by
  induction front generalizing pos with
  | nil => rfl
  | cons b front ih =>
      simp only [List.cons_append, xorMask, ih, List.length_cons]
      rw [Nat.add_assoc, Nat.add_comm 1]

/-- Only the offset modulo four counts. -/
theorem xorMask_mod (key : Fin 4 → UInt8) (pos : Nat) (bytes : Bytes) :
    xorMask key (pos % 4) bytes = xorMask key pos bytes := by
  induction bytes generalizing pos with
  | nil => rfl
  | cons b bytes ih =>
      have offset : Fin.ofNat 4 (pos % 4) = Fin.ofNat 4 pos := Fin.ext (Nat.mod_mod _ _)
      have next : xorMask key (pos % 4 + 1) bytes = xorMask key (pos + 1) bytes := by
        rw [← ih (pos % 4 + 1), ← ih (pos + 1), Nat.mod_add_mod]
      simp only [xorMask, offset, next]

end Conn

end Go

end H2ts
