import H2ts.Lib.BigEndian
import H2ts.Lib.Scanner

/-!
# WebSocket framing

The frames of RFC 6455 §5.2 without extensions, their bytes, and the strict reader of a
byte stream.  The reader (`grammar`) refuses what the grammar does not have: reserved bits
and opcodes, control frames that are long or in pieces, and lengths that are not written in
the shortest of the three forms.

What it takes is legal and stands on the wire as it says (`scan_sound`), and every legal
frame is read back (`scan_bytes`).  So the streams it takes whole are those of legal
frames, and only one list of frames has the bytes (`drain_iff`).
-/

namespace WebSocket

open BigEndian

/-- A frame.  The payload is as it stands on the wire, masked if there is a key. -/
structure Frame where
  fin : Bool
  opcode : Fin 16
  key : Option (Fin 4 → UInt8)
  payload : List UInt8
deriving DecidableEq

inductive Violation where
  | reservedBits
  | reservedOpcode
  /-- A control frame in pieces. -/
  | fragmented
  | longControl
  /-- The top bit of a 64-bit length is set. -/
  | topBit
  /-- There is a shorter form for the length. -/
  | notMinimal
deriving DecidableEq, Repr

/-- The opcode in the low four bits. -/
def opcodeOf (n : Nat) : Fin 16 := ⟨n % 16, Nat.mod_lt n (Nat.succ_pos 15)⟩

/-- Opcodes 3 to 7 and 11 to 15 are reserved. -/
def Known (opcode : Nat) : Prop := opcode ≤ 2 ∨ 8 ≤ opcode ∧ opcode ≤ 10

/-- Opcodes from 8 on are those of control frames. -/
def Whole (opcode : Nat) (fin : Bool) (length : Nat) : Prop :=
  8 ≤ opcode → fin = true ∧ length ≤ 125

instance (opcode : Nat) : Decidable (Known opcode) := inferInstanceAs (Decidable (_ ∨ _))

instance (opcode : Nat) (fin : Bool) (length : Nat) : Decidable (Whole opcode fin length) :=
  inferInstanceAs (Decidable (_ → _))

/-! ## Lengths -/

/-- The seven bits for a length, in its shortest form. -/
def shortLength (length : Nat) : Nat :=
  if length ≤ 125 then length else if length < 2 ^ 16 then 126 else 127

/-- How many bytes of length stand behind the seven bits. -/
def extWidth (short : Nat) : Nat := if short = 126 then 2 else if short = 127 then 8 else 0

/-- The length that is read. -/
def fullLength (short : Nat) (ext : List UInt8) : Nat := if short ≤ 125 then short else ofBe ext

theorem shortLength_lt (length : Nat) : shortLength length < 128 := by
  unfold shortLength
  split
  · omega
  · split <;> omega

/-- A length is read back. -/
theorem fullLength_shortLength {length : Nat} (legal : length < 2 ^ 63) :
    fullLength (shortLength length) (be (extWidth (shortLength length)) length) = length := by
  unfold shortLength
  split
  next small => rw [fullLength, if_pos small]
  next =>
    split
    next medium => exact ofBe_be medium
    next =>
      have fits : length < 2 ^ (8 * 8) := by omega
      exact ofBe_be fits

/-- Bytes that are read as a length are the bytes of it. -/
theorem be_fullLength {short : Nat} {ext : List UInt8} (width : ext.length = extWidth short) :
    be (extWidth short) (fullLength short ext) = ext := by
  unfold fullLength
  split
  next small =>
    have none : extWidth short = 0 := by
      unfold extWidth
      split
      · omega
      · split <;> omega
    rw [none] at width ⊢
    exact (List.length_eq_zero_iff.mp width).symm
  next => exact width ▸ be_ofBe ext

/-! ## The bytes of a frame -/

namespace Frame

def Legal (f : Frame) : Prop :=
  Known f.opcode ∧ Whole f.opcode f.fin f.payload.length ∧ f.payload.length < 2 ^ 63

instance (f : Frame) : Decidable f.Legal := inferInstanceAs (Decidable (_ ∧ _))

def keyBytes (f : Frame) : List UInt8 := (f.key.map List.ofFn).getD []

def first (f : Frame) : UInt8 := UInt8.ofNat (128 * f.fin.toNat + f.opcode)

def second (f : Frame) : UInt8 := UInt8.ofNat (128 * f.key.isSome.toNat + shortLength f.payload.length)

/-- The extended length. -/
def ext (f : Frame) : List UInt8 := be (extWidth (shortLength f.payload.length)) f.payload.length

def bytes (f : Frame) : List UInt8 := f.first :: f.second :: (f.ext ++ (f.keyBytes ++ f.payload))

end Frame

/-! ## Masking -/

/-- The byte of the key for a position. -/
def keyAt (key : Fin 4 → UInt8) (pos : Nat) : UInt8 := key ⟨pos % 4, Nat.mod_lt pos (Nat.succ_pos 3)⟩

/-- XOR with the key, from a position on. -/
def mask (key : Fin 4 → UInt8) : Nat → List UInt8 → List UInt8
  | _, [] => []
  | pos, b :: bytes => (b ^^^ keyAt key pos) :: mask key (pos + 1) bytes

@[simp] theorem length_mask (key : Fin 4 → UInt8) (pos : Nat) (bytes : List UInt8) :
    (mask key pos bytes).length = bytes.length := by
  induction bytes generalizing pos with
  | nil => rfl
  | cons b bytes ih => rw [mask, List.length_cons, List.length_cons, ih]

theorem mask_take (key : Fin 4 → UInt8) (pos n : Nat) (bytes : List UInt8) :
    mask key pos (bytes.take n) = (mask key pos bytes).take n := by
  induction bytes generalizing pos n with
  | nil => rw [List.take_nil, mask, List.take_nil]
  | cons b bytes ih =>
      cases n with
      | zero => rfl
      | succ n => rw [List.take_succ_cons, mask, mask, List.take_succ_cons, ih]

/-- A key of zeros changes nothing. -/
theorem mask_zero (pos : Nat) (bytes : List UInt8) : mask (fun _ => 0) pos bytes = bytes := by
  induction bytes generalizing pos with
  | nil => rfl
  | cons b bytes ih => rw [mask, ih, keyAt, UInt8.xor_zero]

/-- The mask is its own inverse. -/
theorem mask_mask (key : Fin 4 → UInt8) (pos : Nat) (bytes : List UInt8) :
    mask key pos (mask key pos bytes) = bytes := by
  induction bytes generalizing pos with
  | nil => rfl
  | cons b bytes ih => rw [mask, mask, ih, UInt8.xor_assoc, UInt8.xor_self, UInt8.xor_zero]

namespace Frame

/-- What the frame carries. -/
def data (f : Frame) : List UInt8 :=
  match f.key with
  | none => f.payload
  | some key => mask key 0 f.payload

end Frame

/-! ## Reading a frame -/

/-- What is wrong with a header. -/
def violation (first second : UInt8) (length : Nat) : Option Violation :=
  if first.toNat / 16 % 8 ≠ 0 then some .reservedBits
  else if ¬ Known (first.toNat % 16) then some .reservedOpcode
  else if 8 ≤ first.toNat % 16 ∧ first.toNat < 128 then some .fragmented
  else if 8 ≤ first.toNat % 16 ∧ 125 < length then some .longControl
  else if 2 ^ 63 ≤ length then some .topBit
  else if shortLength length ≠ second.toNat % 128 then some .notMinimal
  else none

/-- A check that fails leaves it to the later ones. -/
theorem check_eq_none {p : Prop} [Decidable p] {wrong : Violation} {later : Option Violation} :
    (if p then some wrong else later) = none ↔ ¬ p ∧ later = none := by
  split
  next fault => simp only [reduceCtorEq, fault, not_true_eq_false, false_and]
  next fine => simp only [fine, not_false_eq_true, true_and]

theorem violation_eq_none {first second : UInt8} {length : Nat} :
    violation first second length = none ↔
      first.toNat / 16 % 8 = 0 ∧ Known (first.toNat % 16) ∧
        Whole (first.toNat % 16) (decide (128 ≤ first.toNat)) length ∧ length < 2 ^ 63 ∧
        shortLength length = second.toNat % 128 := by
  rw [violation, check_eq_none, check_eq_none, check_eq_none, check_eq_none, check_eq_none,
    check_eq_none, Whole, decide_eq_true_iff]
  constructor
  · rintro ⟨bits, known, last, short, fits, minimal, -⟩
    refine ⟨not_not.mp bits, not_not.mp known, ?_, Nat.lt_of_not_le fits, not_not.mp minimal⟩
    intro control
    exact ⟨Nat.le_of_not_lt fun more => last ⟨control, more⟩,
      Nat.le_of_not_lt fun long => short ⟨control, long⟩⟩
  · rintro ⟨bits, known, whole, fits, minimal⟩
    refine ⟨not_not.mpr bits, not_not.mpr known, ?_, ?_, Nat.not_le_of_lt fits, not_not.mpr minimal, rfl⟩
    · rintro ⟨control, more⟩
      exact absurd (whole control).1 (Nat.not_le_of_lt more)
    · rintro ⟨control, long⟩
      exact absurd (whole control).2 (Nat.not_le_of_lt long)

def keyWidth (second : UInt8) : Nat := if second.toNat < 128 then 0 else 4

/-- The key and the payload of a frame whose header is read. -/
def scanBody (first second : UInt8) (length : Nat) (body : List UInt8) : Scan UInt8 Frame Violation :=
  if body.length < keyWidth second + length then .more
  else
    .item (some {
      fin := decide (128 ≤ first.toNat)
      opcode := opcodeOf first.toNat
      key := if second.toNat < 128 then none else some fun i => body.getD i 0
      payload := (body.drop (keyWidth second)).take length }) (body.drop (keyWidth second + length))

/-- The frame at the head of a buffer. -/
def scan : List UInt8 → Scan UInt8 Frame Violation
  | first :: second :: rest =>
      let width := extWidth (second.toNat % 128)
      if rest.length < width then .more
      else
        let length := fullLength (second.toNat % 128) (rest.take width)
        match violation first second length with
        | some wrong => .fail wrong
        | none => scanBody first second length (rest.drop width)
  | _ => .more

theorem shorter_scan {buf rest : List UInt8} {found : Option Frame}
    (scanned : scan buf = .item found rest) : rest.length < buf.length := by
  rcases buf with _ | ⟨first, _ | ⟨second, tail⟩⟩
  · cases scanned
  · cases scanned
  · simp only [scan] at scanned
    split at scanned
    · cases scanned
    · split at scanned
      · cases scanned
      · unfold scanBody at scanned
        split at scanned
        · cases scanned
        · cases scanned
          simp only [List.length_drop, List.length_cons]
          omega

/-- Later bytes behind the length field are left alone. -/
theorem scan_append {first second : UInt8} {tail : List UInt8} (later : List UInt8)
    (enough : extWidth (second.toNat % 128) ≤ tail.length) :
    scan (first :: second :: (tail ++ later)) =
      match violation first second (fullLength (second.toNat % 128)
        (tail.take (extWidth (second.toNat % 128)))) with
      | some wrong => .fail wrong
      | none => scanBody first second (fullLength (second.toNat % 128)
          (tail.take (extWidth (second.toNat % 128))))
            (tail.drop (extWidth (second.toNat % 128)) ++ later) := by
  have long : ¬ (tail ++ later).length < extWidth (second.toNat % 128) := by
    rw [List.length_append]
    omega
  rw [scan]
  simp only [if_neg long, List.take_append_of_le_length enough, List.drop_append_of_le_length enough]

theorem scanBody_append {first second : UInt8} {length : Nat} {body rest : List UInt8}
    {found : Option Frame} (later : List UInt8)
    (scanned : scanBody first second length body = .item found rest) :
    scanBody first second length (body ++ later) = .item found (rest ++ later) := by
  unfold scanBody at scanned ⊢
  split at scanned
  · cases scanned
  next long =>
    cases scanned
    have enough : keyWidth second + length ≤ body.length := Nat.le_of_not_lt long
    have longer : ¬ (body ++ later).length < keyWidth second + length := by
      rw [List.length_append]
      omega
    have key : second.toNat < 128 ∨ keyWidth second = 4 := by
      unfold keyWidth
      split
      next clear => exact .inl clear
      next => exact .inr rfl
    have front : (body ++ later).drop (keyWidth second) = body.drop (keyWidth second) ++ later :=
      List.drop_append_of_le_length (by omega)
    have payload : length ≤ (body.drop (keyWidth second)).length := by
      rw [List.length_drop]
      omega
    rw [if_neg longer, List.drop_append_of_le_length enough, front, List.take_append_of_le_length payload]
    rcases key with clear | four
    · simp only [if_pos clear]
    · have same (i : Fin 4) : (body ++ later).getD i 0 = body.getD i 0 :=
        List.getD_append _ _ _ _ (by omega)
      simp only [same]

/-- The strict reader. -/
def grammar : Scanner UInt8 Frame Violation where
  scan := scan
  shorter := shorter_scan
  item_append := by
    intro buf found rest later scanned
    rcases buf with _ | ⟨first, _ | ⟨second, tail⟩⟩
    · cases scanned
    · cases scanned
    · simp only [scan] at scanned
      split at scanned
      · cases scanned
      next long =>
        show scan (first :: second :: (tail ++ later)) = _
        rw [scan_append later (Nat.le_of_not_lt long)]
        split at scanned
        · cases scanned
        · exact scanBody_append later scanned
  fail_append := by
    intro buf error later scanned
    rcases buf with _ | ⟨first, _ | ⟨second, tail⟩⟩
    · cases scanned
    · cases scanned
    · simp only [scan] at scanned
      split at scanned
      · cases scanned
      next long =>
        show scan (first :: second :: (tail ++ later)) = _
        rw [scan_append later (Nat.le_of_not_lt long)]
        split at scanned
        · cases scanned
          rfl
        · unfold scanBody at scanned
          split at scanned
          · cases scanned
          · cases scanned

/-! ## Reading what is written -/

namespace Frame

variable {f : Frame}

theorem toNat_first (f : Frame) : f.first.toNat = 128 * f.fin.toNat + f.opcode := by
  have fin := f.fin.toNat_le
  have opcode := f.opcode.isLt
  rw [first, UInt8.toNat_ofNat']
  omega

theorem toNat_second (f : Frame) :
    f.second.toNat = 128 * f.key.isSome.toNat + shortLength f.payload.length := by
  have masked := f.key.isSome.toNat_le
  have short := shortLength_lt f.payload.length
  rw [second, UInt8.toNat_ofNat']
  omega

theorem second_mod (f : Frame) : f.second.toNat % 128 = shortLength f.payload.length := by
  have short := shortLength_lt f.payload.length
  rw [toNat_second]
  omega

theorem second_lt (f : Frame) : f.second.toNat < 128 ↔ f.key = none := by
  have short := shortLength_lt f.payload.length
  rw [toNat_second]
  cases f.key with
  | none =>
      simp only [Option.isSome_none, Bool.toNat_false, iff_true]
      omega
  | some key =>
      simp only [Option.isSome_some, Bool.toNat_true, reduceCtorEq, iff_false]
      omega

theorem fin_iff (f : Frame) : 128 ≤ f.first.toNat ↔ f.fin = true := by
  have opcode := f.opcode.isLt
  rw [toNat_first]
  cases f.fin with
  | false =>
      simp only [Bool.toNat_false, Bool.false_eq_true, iff_false]
      omega
  | true =>
      simp only [Bool.toNat_true, iff_true]
      omega

theorem length_keyBytes (f : Frame) : f.keyBytes.length = keyWidth f.second := by
  have clear := f.second_lt
  unfold keyBytes keyWidth
  cases key : f.key with
  | none => rw [if_pos (clear.mpr key), Option.map_none, Option.getD_none, List.length_nil]
  | some key' =>
      have masked : ¬ f.second.toNat < 128 := by
        rw [clear, key]
        exact Option.some_ne_none key'
      rw [if_neg masked, Option.map_some, Option.getD_some, List.length_ofFn]

/-- The header of a legal frame has no fault. -/
theorem Legal.violation_eq (legal : f.Legal) : violation f.first f.second f.payload.length = none := by
  obtain ⟨known, whole, fits⟩ := legal
  have opcode := f.opcode.isLt
  have fin := f.fin.toNat_le
  have firstByte := f.toNat_first
  have low : f.first.toNat % 16 = f.opcode := by omega
  have bits : f.first.toNat / 16 % 8 = 0 := by omega
  have last : decide (128 ≤ f.first.toNat) = f.fin := by
    rw [Bool.eq_iff_iff, decide_eq_true_iff]
    exact f.fin_iff
  rw [violation_eq_none, low, last]
  exact ⟨bits, known, whole, fits, f.second_mod.symm⟩

end Frame

/-- A legal frame is read back. -/
theorem scan_bytes {f : Frame} (legal : f.Legal) (rest : List UInt8) :
    scan (f.bytes ++ rest) = .item (some f) rest := by
  have width : f.ext.length = extWidth (f.second.toNat % 128) := by
    rw [Frame.ext, length_be, f.second_mod]
  have length : fullLength (f.second.toNat % 128) f.ext = f.payload.length := by
    rw [f.second_mod]
    exact fullLength_shortLength legal.2.2
  have bytes : f.bytes ++ rest = f.first :: f.second :: (f.ext ++ (f.keyBytes ++ (f.payload ++ rest))) := by
    simp only [Frame.bytes, List.cons_append, List.append_assoc]
  rw [bytes, scan_append _ width.ge, ← width, List.take_length, List.drop_length, length,
    legal.violation_eq, List.nil_append]
  have key := f.length_keyBytes
  have enough : ¬ (f.keyBytes ++ (f.payload ++ rest)).length < keyWidth f.second + f.payload.length := by
    simp only [List.length_append]
    omega
  have left : (f.keyBytes ++ (f.payload ++ rest)).drop (keyWidth f.second + f.payload.length) = rest := by
    rw [← key, ← List.append_assoc, ← List.length_append, List.drop_left]
  have payload : ((f.keyBytes ++ (f.payload ++ rest)).drop (keyWidth f.second)).take f.payload.length =
      f.payload := by
    rw [← key, List.drop_left, List.take_left]
  have fin : decide (128 ≤ f.first.toNat) = f.fin := by
    rw [Bool.eq_iff_iff, decide_eq_true_iff]
    exact f.fin_iff
  have opcode : opcodeOf f.first.toNat = f.opcode := by
    have firstByte := f.toNat_first
    have small := f.opcode.isLt
    apply Fin.ext
    show f.first.toNat % 16 = f.opcode
    omega
  have clear := f.second_lt
  have masking : (if f.second.toNat < 128 then none
      else some fun i : Fin 4 => (f.keyBytes ++ (f.payload ++ rest)).getD i 0) = f.key := by
    cases same : f.key with
    | none => rw [if_pos (clear.mpr same)]
    | some key =>
        have masked : ¬ f.second.toNat < 128 := by
          rw [clear, same]
          exact Option.some_ne_none key
        rw [if_neg masked]
        refine congrArg some (funext fun i => ?_)
        have four : f.keyBytes = List.ofFn key := by rw [Frame.keyBytes, same]; rfl
        rw [four, List.getD_append _ _ _ _ (by rw [List.length_ofFn]; exact i.isLt), List.getD_eq_getElem]
        · exact List.getElem_ofFn _
        · rw [List.length_ofFn]
          exact i.isLt
  simp only [scanBody, if_neg enough, left, payload, fin, opcode, masking]

/-! ## What is read stands there -/

namespace Frame

variable {f : Frame} {first second : UInt8}

theorem first_eq (bits : first.toNat / 16 % 8 = 0) (fin : f.fin = decide (128 ≤ first.toNat))
    (opcode : (f.opcode : Nat) = first.toNat % 16) : f.first = first := by
  apply UInt8.toNat_inj.mp
  have small := first.toNat_lt
  rw [toNat_first, fin, opcode]
  rcases Nat.lt_or_ge first.toNat 128 with more | last
  · rw [decide_eq_false (by omega), Bool.toNat_false]
    omega
  · rw [decide_eq_true last, Bool.toNat_true]
    omega

theorem second_eq (masked : f.key.isSome = decide (128 ≤ second.toNat))
    (minimal : shortLength f.payload.length = second.toNat % 128) : f.second = second := by
  apply UInt8.toNat_inj.mp
  have small := second.toNat_lt
  rw [toNat_second, masked, minimal]
  rcases Nat.lt_or_ge second.toNat 128 with clear | set
  · rw [decide_eq_false (by omega), Bool.toNat_false]
    omega
  · rw [decide_eq_true set, Bool.toNat_true]
    omega

/-- The key is the first four bytes of what follows the length. -/
theorem keyBytes_eq {body : List UInt8}
    (key : f.key = if second.toNat < 128 then none else some fun i : Fin 4 => body.getD i 0)
    (enough : keyWidth second ≤ body.length) : f.keyBytes = body.take (keyWidth second) := by
  unfold keyWidth at enough ⊢
  rw [keyBytes, key]
  split at enough
  next clear => simp only [if_pos clear, Option.map_none, Option.getD_none, List.take_zero]
  next set =>
    simp only [if_neg set, Option.map_some, Option.getD_some]
    apply List.ext_getElem
    · rw [List.length_ofFn, List.length_take]
      omega
    · intro i small _
      rw [List.length_ofFn] at small
      rw [List.getElem_ofFn, List.getElem_take, List.getD_eq_getElem]

end Frame

/-- A body that is read is the key and the payload, and what is left. -/
theorem scanBody_sound {first second : UInt8} {length : Nat} {body rest : List UInt8}
    {found : Option Frame} (scanned : scanBody first second length body = .item found rest) :
    ∃ f, found = some f ∧ f.fin = decide (128 ≤ first.toNat) ∧ (f.opcode : Nat) = first.toNat % 16 ∧
      f.key.isSome = decide (128 ≤ second.toNat) ∧ f.payload.length = length ∧
      body = f.keyBytes ++ (f.payload ++ rest) := by
  unfold scanBody at scanned
  split at scanned
  · cases scanned
  next long =>
    cases scanned
    have enough : keyWidth second + length ≤ body.length := Nat.le_of_not_lt long
    have parted : body = body.take (keyWidth second) ++
        ((body.drop (keyWidth second)).take length ++ body.drop (keyWidth second + length)) := by
      rw [← List.drop_drop, List.take_append_drop, List.take_append_drop]
    refine ⟨_, rfl, rfl, rfl, ?_, ?_, ?_⟩
    · rcases Nat.lt_or_ge second.toNat 128 with clear | set
      · have unset : decide (128 ≤ second.toNat) = false := decide_eq_false (Nat.not_le_of_lt clear)
        rw [unset]
        simp only [if_pos clear, Option.isSome_none]
      · have isSet : decide (128 ≤ second.toNat) = true := decide_eq_true set
        rw [isSet]
        simp only [if_neg (Nat.not_lt_of_le set), Option.isSome_some]
    · simp only [List.length_take, List.length_drop]
      omega
    · refine parted.trans (congrArg (· ++ _) ?_)
      exact (Frame.keyBytes_eq rfl (Nat.le_trans (Nat.le_add_right _ _) enough)).symm

/-- What is read is legal, and its bytes are those that were read. -/
theorem scan_sound {buf rest : List UInt8} {found : Option Frame} (scanned : scan buf = .item found rest) :
    ∃ f, found = some f ∧ f.Legal ∧ buf = f.bytes ++ rest := by
  rcases buf with _ | ⟨first, _ | ⟨second, tail⟩⟩
  · cases scanned
  · cases scanned
  · simp only [scan] at scanned
    split at scanned
    · cases scanned
    next long =>
      split at scanned
      · cases scanned
      next clean =>
        obtain ⟨bits, known, whole, fits, minimal⟩ := violation_eq_none.mp clean
        obtain ⟨f, rfl, fin, opcode, masked, length, body⟩ := scanBody_sound scanned
        rw [← length] at whole fits minimal
        refine ⟨f, rfl, ⟨opcode ▸ known, ?_, fits⟩, ?_⟩
        · rw [opcode, fin]
          exact whole
        · have width : (tail.take (extWidth (second.toNat % 128))).length =
            extWidth (second.toNat % 128) := by
            rw [List.length_take]
            omega
          have ext : f.ext = tail.take (extWidth (second.toNat % 128)) := by
            rw [Frame.ext, minimal, length]
            exact be_fullLength width
          calc first :: second :: tail
              = f.first :: f.second :: (f.ext ++ tail.drop (extWidth (second.toNat % 128))) := by
                rw [Frame.first_eq bits fin opcode, Frame.second_eq masked minimal, ext,
                  List.take_append_drop]
            _ = f.bytes ++ rest := by
                rw [body, Frame.bytes]
                simp only [List.cons_append, List.append_assoc]

/-! ## Streams -/

/-- A stream is read whole, to some frames, if they are legal and it is their bytes. -/
theorem drain_iff {buf : List UInt8} {frames : List Frame} :
    grammar.drain buf = .ok (frames, []) ↔ (∀ f ∈ frames, f.Legal) ∧ buf = frames.flatMap Frame.bytes := by
  constructor
  · intro drained
    have sound := grammar.drain_sound scan_sound drained
    rw [List.append_nil] at sound
    exact sound
  · rintro ⟨legal, rfl⟩
    exact grammar.drain_flatMap rfl frames fun f mem => scan_bytes (legal f mem)

/-- A front of the bytes of frames is read to some of the frames, and a front of the next. -/
theorem drain_take {frames : List Frame} (legal : ∀ f ∈ frames, f.Legal) {part : List UInt8}
    (front : part <+: frames.flatMap Frame.bytes) :
    ∃ k left, grammar.drain part = .ok (frames.take k, left) ∧
      (left = [] ∨ ∃ f, frames[k]? = some f ∧ left <+: f.bytes) := by
  obtain ⟨later, whole⟩ := front
  obtain ⟨units, left, drained, units_le⟩ :=
    grammar.drain_part ((congrArg grammar.drain whole).trans (drain_iff.mpr ⟨legal, rfl⟩))
  obtain ⟨rest, rfl⟩ := units_le
  have parted : part = units.flatMap Frame.bytes ++ left :=
    (grammar.drain_sound scan_sound drained).2
  have behind : left ++ later = rest.flatMap Frame.bytes := by
    rw [parted, List.append_assoc, List.flatMap_append] at whole
    exact List.append_cancel_left whole
  refine ⟨units.length, left, by rw [List.take_left, drained], ?_⟩
  cases rest with
  | nil => exact .inl (List.append_eq_nil_iff.mp behind).1
  | cons f rest =>
      refine .inr ⟨f, by rw [List.getElem?_append_right le_rfl, Nat.sub_self]; rfl, ?_⟩
      rw [List.flatMap_cons] at behind
      rcases List.prefix_or_prefix_of_prefix ⟨later, behind⟩ (List.prefix_append f.bytes _) with
        short | ⟨more, rfl⟩
      · exact short
      · -- a whole frame would have been read
        have scanned := scan_bytes (legal f (List.mem_append_right _ (.head _))) more
        have unread := grammar.scan_of_drain_ok drained
        rw [show grammar.scan (f.bytes ++ more) = scan (f.bytes ++ more) from rfl, scanned] at unread
        cases unread

end WebSocket
