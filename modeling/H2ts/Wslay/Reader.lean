import H2ts.Wslay.Event

/-!
# Reading byte by byte

What a receiver of client frames gets out of a byte stream, with one byte after the other and
no buffers: the data payload as it comes, and the pings and pongs.  A Close ends it, and so does
what is not allowed.

wslay is compared with it later.
-/

namespace H2ts

namespace Wslay

open BigEndian Bridge WebSocket

/-- The part of a header that the length does not belong to. -/
structure Head where
  memo : OpcodeMemo
  masked : Bool
deriving DecidableEq, Repr

/-- What the next byte is part of. -/
inductive Phase where
  | first
  | second (b0 : UInt8)
  | ext (head : Head) (width : Nat) (got : Bytes)
  | key (head : Head) (length : Nat) (got : Bytes)
  | payload (head : Head) (length : Nat) (key : Fin 4 → UInt8) (off : Nat)
deriving DecidableEq

inductive Standing where
  | live
  /-- There is a Close. -/
  | closed
  /-- There is a frame that is not allowed. -/
  | refused
  /-- There is a header that no frame has. -/
  | malformed
  /-- There is text that is not UTF-8. -/
  | illFormed
deriving DecidableEq, Repr

structure Reader where
  phase : Phase
  standing : Standing
  /-- The message that is not complete: whether it is text. -/
  message : Option Bool
  /-- How the text stands. -/
  utf8 : Nat
  /-- The payload of the control frame. -/
  control : Bytes
  /-- The data payload so far. -/
  out : Bytes
  /-- The pings and pongs so far. -/
  seen : List ControlEvent
deriving DecidableEq

/-- A data message is continued, and a frame of another kind is whole. -/
def allowed (message : Option Bool) (opcode : UInt8) : Bool :=
  EventContext.isControl opcode ||
    match message with
    | none => opcode = TEXT_FRAME || opcode = BINARY_FRAME
    | some _ => opcode = CONTINUATION_FRAME

/-- Lengths that have no shorter form. -/
def shortest (width length : Nat) : Bool :=
  if width = 8 then 2 ^ 16 ≤ length && length < 2 ^ 63 else 126 ≤ length

namespace Reader

def fresh : Reader := ⟨.first, .live, none, UTF8_ACCEPT, [], [], []⟩

def stop (r : Reader) (standing : Standing) : Reader := { r with phase := .first, standing := standing }

/-- A payload begins. -/
def start (r : Reader) (head : Head) (length : Nat) : Reader :=
  if head.memo.rsv ≠ 0 || !head.masked || !allowed r.message head.memo.opcode ||
      MAX_RECV_MSG_LENGTH < length then r.stop .refused
  else if head.memo.opcode = CONNECTION_CLOSE then r.stop .closed
  else if isCtrlFrame head.memo.opcode then { r with control := [] }
  else if head.memo.opcode = CONTINUATION_FRAME then r
  else { r with message := some (head.memo.opcode = TEXT_FRAME) }

/-- A byte of a payload. -/
def put (r : Reader) (head : Head) (b : UInt8) : Reader :=
  if r.standing ≠ .live then r
  else if isCtrlFrame head.memo.opcode then { r with control := r.control ++ [b] }
  else if r.message = some true then
    if decode r.utf8 b = UTF8_REJECT then r.stop .illFormed
    else { r with utf8 := decode r.utf8 b, out := r.out ++ [b] }
  else { r with out := r.out ++ [b] }

/-- A payload ends. -/
def finish (r : Reader) (head : Head) : Reader :=
  let r := { r with phase := .first }
  if isCtrlFrame head.memo.opcode then
    { r with seen := r.seen ++ [if head.memo.opcode = PING then .ping r.control else .pong r.control] }
  else if head.memo.fin then
    if r.message = some true ∧ r.utf8 ≠ UTF8_ACCEPT then r.stop .illFormed
    else { r with message := none, utf8 := UTF8_ACCEPT }
  else r

/-- Up to `off`, the payload is taken. -/
def reach (r : Reader) (head : Head) (length : Nat) (key : Fin 4 → UInt8) (off : Nat) : Reader :=
  if r.standing ≠ .live then { r with phase := .first }
  else if off = length then r.finish head else { r with phase := .payload head length key off }

/-- With the first byte of a payload it begins. -/
def begun (r : Reader) (head : Head) (length off : Nat) : Reader :=
  if off = 0 then r.start head length else r

/-- Some bytes of a payload, without the mask. -/
def puts (r : Reader) (head : Head) (data : Bytes) : Reader := data.foldl (put · head) r

/-- Some bytes of a payload, and what goes with the first and the last one. -/
def chunk (r : Reader) (head : Head) (length : Nat) (key : Fin 4 → UInt8) (off : Nat) (raw : Bytes) :
    Reader :=
  (((r.begun head length off).puts head (mask key off raw)).reach head length key (off + raw.length))

/-- The header is complete. -/
def enter (r : Reader) (head : Head) (length : Nat) (key : Fin 4 → UInt8) : Reader :=
  if length = 0 then r.chunk head 0 key 0 [] else { r with phase := .payload head length key 0 }

/-- The length is known. -/
def sized (r : Reader) (head : Head) (length : Nat) : Reader :=
  if head.masked then { r with phase := .key head length [] } else r.enter head length fun _ => 0

def header (r : Reader) (b0 b1 : UInt8) : Reader :=
  let head : Head := ⟨memoOf b0, maskOf b1⟩
  if isCtrlFrame (memoOf b0).opcode && (125 < payloadlenOf b1 || !(memoOf b0).fin) then
    r.stop .malformed
  else if payloadlenOf b1 = 126 then { r with phase := .ext head 2 [] }
  else if payloadlenOf b1 = 127 then { r with phase := .ext head 8 [] }
  else r.sized head (payloadlenOf b1)

/-- The shortest form is the only one. -/
def extended (r : Reader) (head : Head) (width length : Nat) : Reader :=
  if shortest width length then r.sized head length else r.stop .malformed

def byte (r : Reader) (b : UInt8) : Reader :=
  if r.standing ≠ .live then r
  else
    match r.phase with
    | .first => { r with phase := .second b }
    | .second b0 => r.header b0 b
    | .ext head width got =>
        if got.length + 1 < width then { r with phase := .ext head width (got ++ [b]) }
        else r.extended head width (ofBe (got ++ [b]))
    | .key head length got =>
        if got.length + 1 < 4 then { r with phase := .key head length (got ++ [b]) }
        else r.enter head length fun i => (got ++ [b]).getD i 0
    | .payload head length key off => r.chunk head length key off [b]

/-- Some bytes. -/
def feed (r : Reader) (bytes : Bytes) : Reader := bytes.foldl byte r

@[simp] theorem feed_nil (r : Reader) : r.feed [] = r := rfl

theorem feed_cons (r : Reader) (b : UInt8) (bytes : Bytes) : r.feed (b :: bytes) = (r.byte b).feed bytes :=
  rfl

/-- The cuts of a stream do not matter. -/
theorem feed_append (r : Reader) (bytes later : Bytes) :
    r.feed (bytes ++ later) = (r.feed bytes).feed later :=
  List.foldl_append

theorem byte_of_ended {r : Reader} (ended : r.standing ≠ .live) (b : UInt8) : r.byte b = r := by
  rw [byte, if_pos ended]

theorem feed_of_ended {r : Reader} (ended : r.standing ≠ .live) (bytes : Bytes) : r.feed bytes = r := by
  induction bytes with
  | nil => rfl
  | cons b bytes ih => rw [feed_cons, byte_of_ended ended, ih]

/-! ## Headers -/

variable {r : Reader} {head : Head} {length : Nat}

theorem begun_phase (r : Reader) (phase : Phase) (head : Head) (length off : Nat) :
    ∃ phase', { r with phase := phase }.begun head length off =
      { r.begun head length off with phase := phase' } := by
  unfold begun start
  dsimp only
  split_ifs <;> exact ⟨_, rfl⟩

theorem put_phase (r : Reader) (phase : Phase) (head : Head) (b : UInt8) :
    ∃ phase', { r with phase := phase }.put head b = { r.put head b with phase := phase' } := by
  unfold put
  dsimp only
  split_ifs <;> exact ⟨_, rfl⟩

theorem puts_phase (r : Reader) (phase : Phase) (head : Head) (data : Bytes) :
    ∃ phase', { r with phase := phase }.puts head data = { r.puts head data with phase := phase' } := by
  induction data generalizing r phase with
  | nil => exact ⟨phase, rfl⟩
  | cons b data ih =>
      obtain ⟨after, put⟩ := r.put_phase phase head b
      obtain ⟨last, puts⟩ := ih (r.put head b) after
      refine ⟨last, ?_⟩
      rw [← put] at puts
      exact puts

theorem chunk_phase (r : Reader) (phase : Phase) (head : Head) (length : Nat) (key : Fin 4 → UInt8)
    (off : Nat) (raw : Bytes) :
    { r with phase := phase }.chunk head length key off raw = r.chunk head length key off raw := by
  obtain ⟨begins, begun⟩ := r.begun_phase phase head length off
  obtain ⟨ends, puts⟩ := (r.begun head length off).puts_phase begins head (mask key off raw)
  rw [chunk, begun, puts]
  rfl

theorem enter_phase (r : Reader) (phase : Phase) (head : Head) (length : Nat) (key : Fin 4 → UInt8) :
    { r with phase := phase }.enter head length key = r.enter head length key := by
  unfold enter
  split
  · exact r.chunk_phase phase head 0 key 0 []
  · rfl

theorem sized_phase (r : Reader) (phase : Phase) (head : Head) (length : Nat) :
    { r with phase := phase }.sized head length = r.sized head length := by
  unfold sized
  split
  · rfl
  · exact r.enter_phase phase head length _

theorem extended_phase (r : Reader) (phase : Phase) (head : Head) (width length : Nat) :
    { r with phase := phase }.extended head width length = r.extended head width length := by
  unfold extended
  split
  · exact r.sized_phase phase head length
  · rfl

/-- Some bytes of the extended length. -/
theorem feed_ext_part {width : Nat} {got : Bytes} (bytes : Bytes) (live : r.standing = .live)
    (phase : r.phase = .ext head width got) (short : got.length + bytes.length < width) :
    r.feed bytes = { r with phase := .ext head width (got ++ bytes) } := by
  induction bytes generalizing r got with
  | nil =>
      rw [List.append_nil, ← phase]
      rfl
  | cons b bytes ih =>
      rw [List.length_cons] at short
      have next : r.byte b = { r with phase := .ext head width (got ++ [b]) } := by
        rw [byte, if_neg (not_not.mpr live), phase]
        exact if_pos (by omega)
      have rest := @ih { r with phase := .ext head width (got ++ [b]) } (got ++ [b]) live rfl (by
        rw [List.length_append, List.length_singleton]
        omega)
      rw [feed_cons, next, rest, List.append_assoc]
      rfl

/-- The extended length, with all its bytes. -/
theorem feed_ext {width : Nat} (bytes : Bytes) (live : r.standing = .live)
    (phase : r.phase = .ext head width []) (positive : bytes ≠ []) (whole : bytes.length = width) :
    r.feed bytes = r.extended head width (ofBe bytes) := by
  obtain ⟨front, last, rfl⟩ := (List.eq_nil_or_concat bytes).resolve_left positive
  rw [List.concat_eq_append, List.length_append, List.length_singleton] at whole
  have first := feed_ext_part front live phase (by
    rw [List.length_nil]
    omega)
  rw [List.concat_eq_append, feed_append, first, feed_cons, feed_nil, byte, if_neg (not_not.mpr live)]
  dsimp only
  rw [List.nil_append, if_neg (by omega), extended_phase]

/-- Some bytes of the key. -/
theorem feed_key_part {got : Bytes} (bytes : Bytes) (live : r.standing = .live)
    (phase : r.phase = .key head length got) (short : got.length + bytes.length < 4) :
    r.feed bytes = { r with phase := .key head length (got ++ bytes) } := by
  induction bytes generalizing r got with
  | nil =>
      rw [List.append_nil, ← phase]
      rfl
  | cons b bytes ih =>
      rw [List.length_cons] at short
      have next : r.byte b = { r with phase := .key head length (got ++ [b]) } := by
        rw [byte, if_neg (not_not.mpr live), phase]
        exact if_pos (by omega)
      have rest := @ih { r with phase := .key head length (got ++ [b]) } (got ++ [b]) live rfl (by
        rw [List.length_append, List.length_singleton]
        omega)
      rw [feed_cons, next, rest, List.append_assoc]
      rfl

/-- The key, with all its bytes. -/
theorem feed_key (bytes : Bytes) (live : r.standing = .live) (phase : r.phase = .key head length [])
    (positive : bytes ≠ []) (whole : bytes.length = 4) :
    r.feed bytes = r.enter head length fun i => bytes.getD i 0 := by
  obtain ⟨front, last, rfl⟩ := (List.eq_nil_or_concat bytes).resolve_left positive
  rw [List.concat_eq_append, List.length_append, List.length_singleton] at whole
  have first := feed_key_part front live phase (by
    rw [List.length_nil]
    omega)
  rw [List.concat_eq_append, feed_append, first, feed_cons, feed_nil, byte, if_neg (not_not.mpr live)]
  dsimp only
  rw [List.nil_append, if_neg (by omega), enter_phase]

theorem header_phase (r : Reader) (phase : Phase) (b0 b1 : UInt8) :
    { r with phase := phase }.header b0 b1 = r.header b0 b1 := by
  unfold header
  dsimp only
  split_ifs
  · rfl
  · rfl
  · rfl
  · exact r.sized_phase phase _ _

theorem feed_header (live : r.standing = .live) (first : r.phase = .first) (b0 b1 : UInt8) :
    r.feed [b0, b1] = r.header b0 b1 := by
  have second : r.byte b0 = { r with phase := .second b0 } := by
    rw [byte, if_neg (not_not.mpr live), first]
  rw [feed_cons, second, feed_cons, feed_nil, byte, if_neg (not_not.mpr live)]
  exact r.header_phase (.second b0) b0 b1

/-- What a frame that begins must not be. -/
def Faulty (r : Reader) (head : Head) (length : Nat) : Prop :=
  head.memo.rsv ≠ 0 ∨ head.masked = false ∨ allowed r.message head.memo.opcode = false ∨
    MAX_RECV_MSG_LENGTH < length

theorem start_faulty (faulty : r.Faulty head length) : r.start head length = r.stop .refused := by
  refine if_pos ?_
  simp only [Bool.or_eq_true, decide_eq_true_eq, Bool.not_eq_true']
  rcases faulty with rsv | mask | opcode | far
  · exact .inl (.inl (.inl rsv))
  · exact .inl (.inl (.inr mask))
  · exact .inl (.inr opcode)
  · exact .inr far

theorem start_fine (fine : ¬ r.Faulty head length) :
    r.start head length =
      if head.memo.opcode = CONNECTION_CLOSE then r.stop .closed
      else if isCtrlFrame head.memo.opcode then { r with control := [] }
      else if head.memo.opcode = CONTINUATION_FRAME then r
      else { r with message := some (head.memo.opcode = TEXT_FRAME) } := by
  refine if_neg ?_
  simp only [Bool.or_eq_true, decide_eq_true_eq, Bool.not_eq_true']
  rintro (((rsv | mask) | opcode) | far)
  · exact fine (.inl rsv)
  · exact fine (.inr (.inl mask))
  · exact fine (.inr (.inr (.inl opcode)))
  · exact fine (.inr (.inr (.inr far)))

/-! ## Payloads -/

theorem puts_of_ended {r : Reader} (ended : r.standing ≠ .live) (head : Head) (data : Bytes) :
    r.puts head data = r := by
  induction data with
  | nil => rfl
  | cons b data ih =>
      have still : r.put head b = r := by rw [put, if_pos ended]
      show (r.put head b).puts head data = r
      rw [still, ih]

theorem reach_of_ended {r : Reader} (ended : r.standing ≠ .live) (head : Head) (length : Nat)
    (key : Fin 4 → UInt8) (off : Nat) : r.reach head length key off = { r with phase := .first } := by
  rw [reach, if_pos ended]

theorem puts_control (live : r.standing = .live) (control : isCtrlFrame head.memo.opcode = true)
    (data : Bytes) : r.puts head data = { r with control := r.control ++ data } := by
  induction data generalizing r with
  | nil => rw [List.append_nil]; rfl
  | cons b data ih =>
      have first : r.put head b = { r with control := r.control ++ [b] } := by
        rw [put, if_neg (not_not.mpr live), if_pos control]
      have rest := @ih { r with control := r.control ++ [b] } live
      show (r.put head b).puts head data = _
      rw [first, rest, List.append_assoc]
      rfl

theorem puts_binary (live : r.standing = .live) (isData : isCtrlFrame head.memo.opcode = false)
    (binary : r.message ≠ some true) (data : Bytes) :
    r.puts head data = { r with out := r.out ++ data } := by
  induction data generalizing r with
  | nil => rw [List.append_nil]; rfl
  | cons b data ih =>
      have first : r.put head b = { r with out := r.out ++ [b] } := by
        rw [put, if_neg (not_not.mpr live), isData, if_neg Bool.false_ne_true, if_neg binary]
      have rest := @ih { r with out := r.out ++ [b] } live binary
      show (r.put head b).puts head data = _
      rw [first, rest, List.append_assoc]
      rfl

theorem put_text (live : r.standing = .live) (isData : isCtrlFrame head.memo.opcode = false)
    (text : r.message = some true) (b : UInt8) :
    r.put head b = if decode r.utf8 b = UTF8_REJECT then r.stop .illFormed
      else { r with utf8 := decode r.utf8 b, out := r.out ++ [b] } := by
  rw [put, if_neg (not_not.mpr live), isData, if_neg Bool.false_ne_true, if_pos text]

theorem puts_text (live : r.standing = .live) (isData : isCtrlFrame head.memo.opcode = false)
    (text : r.message = some true) {data : Bytes} (formed : data.foldl decode r.utf8 ≠ UTF8_REJECT) :
    r.puts head data = { r with utf8 := data.foldl decode r.utf8, out := r.out ++ data } := by
  induction data generalizing r with
  | nil => rw [List.append_nil]; rfl
  | cons b data ih =>
      have fine : decode r.utf8 b ≠ UTF8_REJECT := by
        intro reject
        rw [List.foldl_cons, reject, foldl_decode_reject] at formed
        exact formed rfl
      have rest := @ih { r with utf8 := decode r.utf8 b, out := r.out ++ [b] } live text formed
      show (r.put head b).puts head data = _
      rw [put_text live isData text, if_neg fine, rest, List.append_assoc]
      rfl

/-- Up to the byte that is wrong. -/
theorem puts_illFormed (live : r.standing = .live) (isData : isCtrlFrame head.memo.opcode = false)
    (text : r.message = some true) (formed : r.utf8 ≠ UTF8_REJECT) {data : Bytes}
    (reject : data.foldl decode r.utf8 = UTF8_REJECT) :
    (r.puts head data).standing = .illFormed ∧ r.out <+: (r.puts head data).out ∧
      (r.puts head data).seen = r.seen := by
  induction data generalizing r with
  | nil => exact absurd reject formed
  | cons b data ih =>
      show ((r.put head b).puts head data).standing = _ ∧ _ <+: ((r.put head b).puts head data).out ∧
        ((r.put head b).puts head data).seen = _
      rw [put_text live isData text]
      by_cases wrong : decode r.utf8 b = UTF8_REJECT
      · have ended : (r.stop .illFormed).standing ≠ .live := Standing.noConfusion
        rw [if_pos wrong, puts_of_ended ended]
        exact ⟨rfl, List.prefix_refl _, rfl⟩
      · rw [if_neg wrong]
        obtain ⟨standing, out, seen⟩ :=
          @ih { r with utf8 := decode r.utf8 b, out := r.out ++ [b] } live text wrong reject
        exact ⟨standing, (List.prefix_append r.out [b]).trans out, seen⟩

/-- Bytes of one payload, one after the other or at once. -/
theorem feed_payload {key : Fin 4 → UInt8} {off : Nat} {raw : Bytes} (live : r.standing = .live)
    (phase : r.phase = .payload head length key off) (positive : raw ≠ [])
    (inside : off + raw.length ≤ length) : r.feed raw = r.chunk head length key off raw := by
  induction raw generalizing r off with
  | nil => exact absurd rfl positive
  | cons b raw ih =>
      rw [List.length_cons] at inside
      rw [feed_cons, byte, if_neg (not_not.mpr live), phase]
      dsimp only
      cases raw with
      | nil => rfl
      | cons b' raw =>
          let next := (r.begun head length off).put head (b ^^^ keyAt key off)
          have whole : r.chunk head length key off (b :: b' :: raw) =
              (next.puts head (mask key (off + 1) (b' :: raw))).reach head length key
                (off + (b' :: raw).length + 1) := rfl
          show (next.reach head length key (off + 1)).feed (b' :: raw) = _
          rw [whole]
          by_cases on : next.standing = .live
          · have more : off + 1 ≠ length := by
              rw [List.length_cons] at inside
              omega
            have later : next.reach head length key (off + 1) =
                { next with phase := .payload head length key (off + 1) } := by
              rw [reach, if_neg (not_not.mpr on), if_neg more]
            have rest := @ih { next with phase := .payload head length key (off + 1) } (off + 1) on rfl
              (List.cons_ne_nil b' raw) (by omega)
            rw [later, rest, chunk_phase, chunk, begun, if_neg (Nat.succ_ne_zero off),
              Nat.add_right_comm off 1]
          · have still : ({ next with phase := .first } : Reader).standing ≠ .live := on
            rw [reach_of_ended on, feed_of_ended still, puts_of_ended on, reach_of_ended on]

end Reader

end Wslay

end H2ts
