import H2ts.Go.Frames

/-!
# The byte stream of a WebSocket

What `Read` returns and writes, from the first call to the first error, is a list of
events: the bytes returned and the frames written, in their order.  It is the script of
the frames that the peer sends, whatever the segments of the transport and the sizes of
the buffers are (`faithful_reads`).

`Holds` is the invariant between two reads: the content of the reader is the masked rest
of a payload and the frames behind it.
-/

namespace H2ts

namespace Go

open BigEndian Bufio

/-- A byte is returned, or a frame is written. -/
inductive Event where
  | byte (b : UInt8)
  | wrote (frame : Bytes)
deriving DecidableEq, Repr

namespace Event

/-- The bytes returned. -/
def returned (events : List Event) : Bytes :=
  events.filterMap fun | .byte b => some b | .wrote _ => none

/-- The frames written. -/
def written (events : List Event) : List Bytes :=
  events.filterMap fun | .byte _ => none | .wrote frame => some frame

@[simp] theorem returned_append (events later : List Event) :
    returned (events ++ later) = returned events ++ returned later :=
  List.filterMap_append

@[simp] theorem written_append (events later : List Event) :
    written (events ++ later) = written events ++ written later :=
  List.filterMap_append

@[simp] theorem returned_byte (bytes : Bytes) : returned (bytes.map .byte) = bytes := by
  induction bytes with
  | nil => rfl
  | cons b bytes ih => exact congrArg (b :: ·) ih

@[simp] theorem returned_wrote (frames : List Bytes) : returned (frames.map .wrote) = [] := by
  induction frames with
  | nil => rfl
  | cons frame frames ih => exact ih

@[simp] theorem written_byte (bytes : Bytes) : written (bytes.map .byte) = [] := by
  induction bytes with
  | nil => rfl
  | cons b bytes ih => exact ih

@[simp] theorem written_wrote (frames : List Bytes) : written (frames.map .wrote) = frames := by
  induction frames with
  | nil => rfl
  | cons frame frames ih => exact congrArg (frame :: ·) ih

end Event

/-- A Close frame with a code and no reason. -/
def closeFrame (code : UInt16) : Bytes := Conn.controlFrame opClose (Conn.closePayload code [])

namespace ClientFrame

/-- The payload, if the frame is a data frame. -/
def data (f : ClientFrame) : Bytes := if f.opcode.isControl then [] else f.payload

/-- The answer to the frame, if it is a ping. -/
def pong (f : ClientFrame) : List Bytes :=
  if f.opcode = .ping then [Conn.controlFrame opPong f.payload] else []

/-- What the frame causes before the next one is looked at. -/
def script (f : ClientFrame) : List Event := f.pong.map .wrote ++ f.data.map .byte

theorem returned_script (frames : List ClientFrame) :
    Event.returned (frames.flatMap script) = frames.flatMap data := by
  induction frames with
  | nil => rfl
  | cons f frames ih => simp [script, ih]

theorem written_script (frames : List ClientFrame) :
    Event.written (frames.flatMap script) = frames.flatMap pong := by
  induction frames with
  | nil => rfl
  | cons f frames ih => simp [script, ih]

end ClientFrame

/-- How the frames of the peer end.  What follows a Close or an offending header does not
matter. -/
inductive Ending where
  /-- The transport ends. -/
  | eof
  | close (frame : ClientFrame) (isClose : frame.opcode = .close) (rest : Bytes)
  | offending (header : FrameHeader) (offends : header.Offending) (rest : Bytes)

namespace Ending

def bytes : Ending → Bytes
  | eof => []
  | close frame _ rest => frame.bytes ++ rest
  | offending header _ rest => header.bytes ++ rest

/-- A Close is echoed, and a protocol error closes with 1002. -/
def answer : Ending → List Bytes
  | eof => []
  | close frame _ _ => [closeFrame (Conn.parseClose frame.payload).1]
  | offending _ _ _ => [closeFrame closeProtocolError]

/-- The error that the ending gives. -/
def Ends : Ending → GoError → Prop
  | eof, err => err = .eof
  | close _ _ _, err => err = .eof
  | offending _ _ _, err => ∃ message, err = .protocol message

end Ending

namespace Conn

/-- The events of the reads up to the first error, and the error, for buffers of the given
sizes; `none` if that takes more reads. -/
def transcript : Nat → (Nat → Nat) → Conn → Option (List Event × GoError)
  | 0, _, _ => none
  | reads + 1, sizes, c =>
      let ((data, err), c') := c.read (sizes 0)
      let events := (c'.out.drop c.out.length).map .wrote ++ data.map .byte
      match err with
      | some err => some (events, err)
      | none =>
          (transcript reads (fun i => sizes (i + 1)) c').map fun (later, err) => (events ++ later, err)

/-- Between two reads: `pending` is the rest of a payload, and `rest` what is behind it. -/
structure Holds (c : Conn) (pending rest : Bytes) : Prop where
  content : c.r.content = xorMask c.maskKey c.maskPos pending ++ rest
  remaining : c.frameRemaining = pending.length
  writable : c.writeErr = none

variable {c : Conn}

/-! ## One frame -/

theorem write_ok (writable : c.writeErr = none) {opcode : UInt8} {payload : Bytes}
    (small : payload.length ≤ 125) :
    c.writeControl opcode payload =
      (none, { c with out := c.out ++ [controlFrame opcode payload] }) := by
  simp only [writeControl, gt_iff_lt, not_lt.mpr small, if_false, write, writable]

theorem writeClose_ok (writable : c.writeErr = none) (code : UInt16) :
    c.writeClose code [] = (none, { c with out := c.out ++ [closeFrame code] }) := by
  refine write_ok writable ?_
  unfold closePayload
  split
  · rw [List.append_nil, length_be16]
    decide
  · decide

/-- A protocol error closes with 1002. -/
theorem readErr_protocol (writable : c.writeErr = none) (message : String) :
    ∃ c', c.readErr (.protocol message) = (.protocol message, c') ∧
      c'.out = c.out ++ [closeFrame closeProtocolError] := by
  refine ⟨_, rfl, ?_⟩
  show ((c.setReason _).writeClose closeProtocolError []).2.out = _
  rw [writeClose_ok (c := c.setReason _) writable]
  rfl

/-- The header of a client's frame. -/
theorem readHeader_frame (f : ClientFrame) {rest : Bytes} (holds : c.Holds [] (f.bytes ++ rest)) :
    ∃ r, c.readHeader = (.ok (UInt8.ofNat f.opcode.code, true, f.payload.length),
        { c with r := r, maskKey := f.key }) ∧ r.content = xorMask f.key 0 f.payload ++ rest := by
  have content : c.r.content = f.header.bytes ++ (xorMask f.key 0 f.payload ++ rest) := by
    rw [holds.content, ClientFrame.bytes, List.append_assoc]
    rfl
  exact readHeader_taken content rfl rfl f.whole_header f.legal

/-- The payload of a control frame. -/
theorem readControlPayload_frame {key : Fin 4 → UInt8} {payload rest : Bytes} (mask : c.maskKey = key)
    (content : c.r.content = xorMask key 0 payload ++ rest) :
    ∃ r, c.readControlPayload true payload.length = (.ok payload, { c with r := r }) ∧
      r.content = rest := by
  unfold readControlPayload
  split
  · next empty =>
      obtain rfl := List.length_eq_zero_iff.mp empty
      exact ⟨c.r, rfl, content⟩
  · obtain ⟨r, reads, left⟩ := readFull_append content
    rw [length_xorMask] at reads
    refine ⟨r, ?_, left⟩
    simp only [reads, if_true, mask, xorMask_xorMask]

theorem nextFrame_eq {c' : Conn} {opcode : UInt8} {masked : Bool} {length : Nat}
    (header : c.readHeader = (.ok (opcode, masked, length), c')) :
    c.nextFrame = c'.touch.handleFrame opcode masked length := by
  rw [nextFrame, header]

theorem nextFrame_data {f : ClientFrame} {rest : Bytes} (data : f.opcode.isControl = false)
    (holds : c.Holds [] (f.bytes ++ rest)) :
    ∃ c', c.nextFrame = (some none, c') ∧ c'.Holds f.payload rest ∧ c'.out = c.out := by
  obtain ⟨r, header, content⟩ := readHeader_frame f holds
  refine ⟨{ c with
    r := r, maskKey := f.key, lastActivity := c.now, frameRemaining := f.payload.length
    maskPos := 0 }, ?_, ⟨content, rfl, holds.writable⟩, rfl⟩
  refine (nextFrame_eq header).trans ?_
  cases opcode : f.opcode with
  | continuation | text | binary => rfl
  | close | ping | pong => rw [opcode] at data; cases data

theorem handleFrame_ping {c' c'' : Conn} {masked : Bool} {length : Nat} {payload : Bytes}
    (reads : c.readControlPayload masked length = (.ok payload, c'))
    (writes : c'.writeControl opPong payload = (none, c'')) :
    c.handleFrame opPing masked length = (none, c''.observe opPing payload) := by
  unfold handleFrame
  rw [if_neg (by decide), if_pos rfl, reads]
  simp only [writes]

theorem handleFrame_pong {c' : Conn} {masked : Bool} {length : Nat} {payload : Bytes}
    (reads : c.readControlPayload masked length = (.ok payload, c')) :
    c.handleFrame opPong masked length = (none, c'.observe opPong payload) := by
  unfold handleFrame
  rw [if_neg (by decide), if_neg (by decide), if_pos rfl, reads]

theorem handleFrame_close {c' : Conn} {masked : Bool} {length : Nat} {payload : Bytes}
    (reads : c.readControlPayload masked length = (.ok payload, c')) :
    c.handleFrame opClose masked length = (some (some .eof),
      ((c'.setReason ⟨(parseClose payload).1, (parseClose payload).2⟩).writeClose
        (parseClose payload).1 []).2) := by
  unfold handleFrame
  rw [if_neg (by decide), if_neg (by decide), if_neg (by decide), if_pos rfl, reads]
  rfl

theorem handleFrame_reserved (h : FrameHeader) (reserved : h.reserved) (masked : Bool)
    (length : Nat) : c.handleFrame (UInt8.ofNat h.opcode) masked length =
      (some (some (c.readErr (reservedOpcode (UInt8.ofNat h.opcode))).1),
        (c.readErr (reservedOpcode (UInt8.ofNat h.opcode))).2) := by
  have other : ∀ opcode : Fin 16, (3 ≤ opcode.val ∧ opcode.val ≤ 7 ∨ 11 ≤ opcode.val) →
      ¬ (UInt8.ofNat opcode = opBinary || UInt8.ofNat opcode = opText ||
        UInt8.ofNat opcode = opContinuation) = true ∧ UInt8.ofNat opcode ≠ opPing ∧
      UInt8.ofNat opcode ≠ opPong ∧ UInt8.ofNat opcode ≠ opClose := by
    decide +kernel
  obtain ⟨data, ping, pong, close⟩ := other h.opcode reserved
  unfold handleFrame
  rw [if_neg data, if_neg ping, if_neg pong, if_neg close]

theorem nextFrame_ping {f : ClientFrame} {rest : Bytes} (ping : f.opcode = .ping)
    (holds : c.Holds [] (f.bytes ++ rest)) :
    ∃ c', c.nextFrame = (none, c') ∧ c'.Holds [] rest ∧
      c'.out = c.out ++ [controlFrame opPong f.payload] := by
  obtain ⟨r, header, content⟩ := readHeader_frame f holds
  obtain ⟨r', payload, left⟩ := readControlPayload_frame
    (c := { c with r := r, maskKey := f.key, lastActivity := c.now }) rfl content
  have small : f.payload.length ≤ 125 := (f.whole (by rw [ping]; rfl)).2
  have written := handleFrame_ping payload (write_ok
    (c := { c with r := r', maskKey := f.key, lastActivity := c.now }) holds.writable small)
  rw [ping] at header
  exact ⟨_, (nextFrame_eq header).trans written, ⟨left, holds.remaining, holds.writable⟩, rfl⟩

theorem nextFrame_pong {f : ClientFrame} {rest : Bytes} (pong : f.opcode = .pong)
    (holds : c.Holds [] (f.bytes ++ rest)) :
    ∃ c', c.nextFrame = (none, c') ∧ c'.Holds [] rest ∧ c'.out = c.out := by
  obtain ⟨r, header, content⟩ := readHeader_frame f holds
  obtain ⟨r', payload, left⟩ := readControlPayload_frame
    (c := { c with r := r, maskKey := f.key, lastActivity := c.now }) rfl content
  have taken := handleFrame_pong payload
  rw [pong] at header
  exact ⟨_, (nextFrame_eq header).trans taken, ⟨left, holds.remaining, holds.writable⟩, rfl⟩

theorem nextFrame_ending {ending : Ending} (holds : c.Holds [] ending.bytes) :
    ∃ err c', c.nextFrame = (some (some err), c') ∧ c'.out = c.out ++ ending.answer ∧
      ending.Ends err := by
  cases ending with
  | eof =>
      have empty : c.r.content = [] := holds.content
      have reads : c.readFull 2 = (.error .eof, c) := by
        rw [readFull, Reader.readFull_nil (by decide) empty]
        rfl
      have header : c.readHeader = (.error .eof, c) := by rw [readHeader, reads]
      refine ⟨.eof, c.setReason ⟨closeAbnormal, []⟩, ?_, (List.append_nil _).symm, rfl⟩
      rw [nextFrame, header]
      rfl
  | close frame isClose rest =>
      obtain ⟨r, header, content⟩ := readHeader_frame frame holds
      obtain ⟨r', payload, left⟩ := readControlPayload_frame
        (c := { c with r := r, maskKey := frame.key, lastActivity := c.now }) rfl content
      have closed := handleFrame_close payload
      rw [writeClose_ok (by exact holds.writable)] at closed
      rw [isClose] at header
      exact ⟨.eof, _, (nextFrame_eq header).trans closed, rfl, rfl⟩
  | offending header offends rest =>
      have content : c.r.content = header.bytes ++ rest := holds.content
      by_cases fine : header.rsv = 0 ∧ header.masked = true ∧
          (header.control → header.fin = true ∧ header.length ≤ 125) ∧ header.length ≤ maxInt64
      · -- Only the opcode is left to blame.
        obtain ⟨rsv, masked, whole, legal⟩ := fine
        have reserved : header.reserved := by
          rcases offends with nonzero | clear | reserved | ⟨control, more⟩ | ⟨control, large⟩ | huge
          · exact absurd rsv nonzero
          · rw [masked] at clear
            cases clear
          · exact reserved
          · rw [(whole control).1] at more
            cases more
          · exact absurd (whole control).2 (not_le.mpr large)
          · exact absurd legal (not_le.mpr huge)
        obtain ⟨r, taken, -⟩ := readHeader_taken content rsv masked whole legal
        have handled := handleFrame_reserved
          (c := { c with r := r, maskKey := header.key, lastActivity := c.now }) header reserved true
          header.length
        obtain ⟨c', failed, out⟩ := readErr_protocol
          (c := { c with r := r, maskKey := header.key, lastActivity := c.now }) holds.writable
          ("reserved opcode 0x" ++
            String.ofList (Nat.toDigits 16 (UInt8.ofNat header.opcode).toNat))
        rw [reservedOpcode, failed] at handled
        exact ⟨_, c', (nextFrame_eq taken).trans handled, out, _, rfl⟩
      · obtain ⟨message, r, refused⟩ := readHeader_refused content fine
        obtain ⟨c', failed, out⟩ := readErr_protocol (c := { c with r := r }) holds.writable message
        refine ⟨.protocol message, c', ?_, out, message, rfl⟩
        unfold nextFrame
        rw [refused]
        simp only [failed]

/-! ## The loops -/

theorem awaitData_next {c' : Conn} (idle : c.frameRemaining = 0) (idle' : c'.frameRemaining = 0)
    (step : c.nextFrame = (none, c')) : c.awaitData = c'.awaitData := by
  have same : c.nextDataFrame = c'.nextDataFrame := by
    rw [nextDataFrame, step]
  rw [awaitData, awaitData, if_pos idle, if_pos idle', same]

theorem awaitData_found {c' : Conn} (idle : c.frameRemaining = 0)
    (step : c.nextFrame = (some none, c')) : c.awaitData = c'.awaitData := by
  have found : c.nextDataFrame = (none, c') := by
    rw [nextDataFrame, step]
  rw [awaitData, if_pos idle, found]

theorem awaitData_error {c' : Conn} {err : GoError} (idle : c.frameRemaining = 0)
    (step : c.nextFrame = (some (some err), c')) : c.awaitData = (some err, c') := by
  have failed : c.nextDataFrame = (some err, c') := by
    rw [nextDataFrame, step]
  rw [awaitData, if_pos idle, failed]

theorem awaitData_busy (busy : c.frameRemaining ≠ 0) : c.awaitData = (none, c) := by
  rw [awaitData, if_neg busy]

/-- The bytes of the frames to come. -/
def inbound (frames : List ClientFrame) (ending : Ending) : Bytes :=
  frames.flatMap ClientFrame.bytes ++ ending.bytes

/-- What the loop of `Read` comes to: a payload, or the end of the frames. -/
inductive Awaited (c : Conn) (frames : List ClientFrame) (ending : Ending) : Prop where
  | payload {payload : Bytes} {later : List ClientFrame} {c' : Conn} (written : List Bytes)
      (step : c.awaitData = (none, c')) (some : payload ≠ [])
      (open_ : ∀ f ∈ later, f.opcode ≠ .close) (holds : c'.Holds payload (inbound later ending))
      (out : c'.out = c.out ++ written)
      (script : frames.flatMap ClientFrame.script =
        written.map .wrote ++ (payload.map .byte ++ later.flatMap ClientFrame.script))
  | ended {err : GoError} {c' : Conn} (written : List Bytes)
      (step : c.awaitData = (some err, c')) (out : c'.out = c.out ++ (written ++ ending.answer))
      (script : frames.flatMap ClientFrame.script = written.map .wrote) (ends : ending.Ends err)

/-- The loop goes on behind a frame that returns no byte. -/
theorem Awaited.skip {c₁ : Conn} {f : ClientFrame} {frames : List ClientFrame} {ending : Ending}
    (answer : List Bytes) (same : c.awaitData = c₁.awaitData) (out : c₁.out = c.out ++ answer)
    (script : f.script = answer.map .wrote) (rest : c₁.Awaited frames ending) :
    c.Awaited (f :: frames) ending := by
  cases rest with
  | payload written step some open_ holds out' script' =>
      refine .payload (answer ++ written) (same.trans step) some open_ holds ?_ ?_
      · rw [out', out, List.append_assoc]
      · rw [List.flatMap_cons, script, script', List.map_append, List.append_assoc]
  | ended written step out' script' ends =>
      refine .ended (answer ++ written) (same.trans step) ?_ ?_ ends
      · rw [out', out, List.append_assoc, List.append_assoc]
      · rw [List.flatMap_cons, script, script', List.map_append]

theorem awaited {frames : List ClientFrame} {ending : Ending}
    (open_ : ∀ f ∈ frames, f.opcode ≠ .close) (holds : c.Holds [] (inbound frames ending)) :
    c.Awaited frames ending := by
  induction frames generalizing c with
  | nil =>
      obtain ⟨err, c', step, out, ends⟩ := nextFrame_ending holds
      exact .ended [] (awaitData_error holds.remaining step) out rfl ends
  | cons f frames ih =>
      have later : ∀ f ∈ frames, f.opcode ≠ .close := fun f mem => open_ f (.tail _ mem)
      have holds : c.Holds [] (f.bytes ++ inbound frames ending) := by
        rwa [inbound, List.flatMap_cons, List.append_assoc] at holds
      have idle : c.frameRemaining = 0 := holds.remaining
      cases control : f.opcode.isControl with
      | false =>
          obtain ⟨c', step, holds', out⟩ := nextFrame_data control holds
          have pong : f.pong = [] := by
            refine if_neg fun ping => ?_
            rw [ping] at control
            cases control
          have script : f.script = f.payload.map .byte := by
            rw [ClientFrame.script, pong, ClientFrame.data, control]
            rfl
          by_cases empty : f.payload = []
          · rw [empty] at holds' script
            refine .skip [] (awaitData_found idle step) ?_ script (ih later holds')
            rw [out, List.append_nil]
          · have busy : c'.frameRemaining ≠ 0 := by
              rw [holds'.remaining]
              exact fun zero => empty (List.length_eq_zero_iff.mp zero)
            refine .payload [] ((awaitData_found idle step).trans (awaitData_busy busy))
              empty later holds' ?_ ?_
            · rw [out, List.append_nil]
            · rw [List.flatMap_cons, script]
              rfl
      | true =>
          have data : f.data = [] := by rw [ClientFrame.data, control, if_pos rfl]
          cases opcode : f.opcode with
          | continuation | text | binary => rw [opcode] at control; cases control
          | close => exact absurd opcode (open_ f (.head _))
          | ping =>
              obtain ⟨c', step, holds', out⟩ := nextFrame_ping opcode holds
              refine .skip _ (awaitData_next idle holds'.remaining step) out ?_ (ih later holds')
              rw [ClientFrame.script, data, ClientFrame.pong, opcode, if_pos rfl]
              rfl
          | pong =>
              obtain ⟨c', step, holds', out⟩ := nextFrame_pong opcode holds
              refine .skip [] (awaitData_next idle holds'.remaining step) ?_ ?_
                (ih later holds')
              · rw [out, List.append_nil]
              · rw [ClientFrame.script, data, ClientFrame.pong, opcode, if_neg (by decide)]
                rfl

/-! ## One read -/

/-- A read takes some of the front of a payload. -/
theorem read_payload {c₀ : Conn} {n : Nat} {payload rest : Bytes} (positive : 0 < n)
    (step : c₀.awaitData = (none, c)) (some : payload ≠ []) (holds : c.Holds payload rest) :
    ∃ data later c', c₀.read n = ((data, none), c') ∧ data ≠ [] ∧ payload = data ++ later ∧
      c'.Holds later rest ∧ c'.out = c.out := by
  have room : 0 < min n c.frameRemaining := by
    rw [holds.remaining]
    exact lt_min positive (List.length_pos_iff.mpr some)
  have content : c.r.content ≠ [] := by
    rw [holds.content]
    intro none
    have empty := congrArg List.length (List.append_eq_nil_iff.mp none).1
    rw [length_xorMask] at empty
    exact some (List.length_eq_zero_iff.mp empty)
  obtain ⟨raw, r, reads, taken, short, split⟩ := Reader.read_some room content
  have size : 0 < raw.length := List.length_pos_iff.mpr taken
  rw [holds.remaining] at short
  have short : raw.length ≤ payload.length := short.trans (min_le_right _ _)
  -- The bytes that came are the masked front of the payload.
  let data := payload.take raw.length
  let later := payload.drop raw.length
  have whole : payload = data ++ later := (List.take_append_drop _ _).symm
  have length : data.length = raw.length := List.length_take_of_le short
  have masked : c.r.content = xorMask c.maskKey c.maskPos data ++
      (xorMask c.maskKey (c.maskPos + data.length) later ++ rest) := by
    rw [holds.content, whole, xorMask_append, List.append_assoc]
  rw [split] at masked
  obtain ⟨front, back⟩ := List.append_inj masked (by rw [length_xorMask, length])
  have clear : xorMask c.maskKey c.maskPos raw = data := by rw [front, xorMask_xorMask]
  refine ⟨data, later, { c with
    r := r
    maskPos := (c.maskPos + raw.length) % 4
    frameRemaining := c.frameRemaining - data.length }, ?_, ?_, whole, ⟨?_, ?_, holds.writable⟩, rfl⟩
  · simp only [read, positive.ne', if_false, step, reads, size, if_true, unmask, clear]
  · intro none
    rw [none, List.length_nil] at length
    omega
  · show r.content = xorMask c.maskKey ((c.maskPos + raw.length) % 4) later ++ rest
    rw [xorMask_mod, back, length]
  · show c.frameRemaining - data.length = later.length
    rw [holds.remaining, whole, List.length_append, Nat.add_sub_cancel_left]

theorem read_error {c' : Conn} {n : Nat} {err : GoError} (positive : 0 < n)
    (step : c.awaitData = (some err, c')) : c.read n = (([], some err), c') := by
  simp only [read, positive.ne', if_false, step]

theorem transcript_read {c' : Conn} {reads : Nat} {sizes : Nat → Nat} {data : Bytes}
    {written : List Bytes} {later : List Event} {err : GoError}
    (step : c.read (sizes 0) = ((data, none), c')) (out : c'.out = c.out ++ written)
    (rest : c'.transcript reads (fun i => sizes (i + 1)) = some (later, err)) :
    c.transcript (reads + 1) sizes =
      some (written.map .wrote ++ data.map .byte ++ later, err) := by
  simp only [transcript, step, out, List.drop_left, rest, Option.map_some]

/-- The reads up to the first error play the frames. -/
theorem transcript_eq {pending : Bytes} {frames : List ClientFrame} {ending : Ending}
    {sizes : Nat → Nat} (positive : ∀ i, 0 < sizes i) (open_ : ∀ f ∈ frames, f.opcode ≠ .close)
    (holds : c.Holds pending (inbound frames ending)) :
    ∃ reads err, c.transcript reads sizes = some (pending.map .byte ++
      (frames.flatMap ClientFrame.script ++ ending.answer.map .wrote), err) ∧ ending.Ends err := by
  -- Every read but the last returns bytes, so there are fewer events to come.
  induction total : (pending.map Event.byte ++ frames.flatMap ClientFrame.script).length
      using Nat.strong_induction_on generalizing c pending frames sizes with
  | _ size ih =>
      have go {c₁ : Conn} {payload : Bytes} {later : List ClientFrame} (written : List Bytes)
          (step : c.awaitData = (none, c₁)) (some : payload ≠ [])
          (open_ : ∀ f ∈ later, f.opcode ≠ .close) (holds : c₁.Holds payload (inbound later ending))
          (out : c₁.out = c.out ++ written)
          (script : pending.map Event.byte ++ frames.flatMap ClientFrame.script =
            written.map .wrote ++ (payload.map .byte ++ later.flatMap ClientFrame.script)) :
          ∃ reads err, c.transcript reads sizes = .some (pending.map .byte ++
            (frames.flatMap ClientFrame.script ++ ending.answer.map .wrote), err) ∧
            ending.Ends err := by
        obtain ⟨data, rest, c', read, taken, whole, holds', out'⟩ :=
          read_payload (positive 0) step some holds
        have fewer : (rest.map Event.byte ++ later.flatMap ClientFrame.script).length < size := by
          have nonempty := List.length_pos_iff.mpr taken
          rw [← total, script, whole]
          simp only [List.length_append, List.length_map]
          omega
        obtain ⟨reads, err, played, ends⟩ :=
          ih _ fewer (fun i => positive (i + 1)) open_ holds' rfl
        refine ⟨reads + 1, err, ?_, ends⟩
        rw [transcript_read read (out'.trans out) played, ← List.append_assoc (pending.map _), script,
          whole, List.map_append]
        simp only [List.append_assoc]
      by_cases none : pending = []
      · subst none
        cases awaited open_ holds with
        | payload written step some open_ holds out script =>
            exact go written step some open_ holds out script
        | ended written step out script ends =>
            refine ⟨1, _, ?_, ends⟩
            simp only [transcript, read_error (positive 0) step, out, List.drop_left, script,
              List.map_append, List.map_nil, List.append_nil, List.nil_append]
      · have busy : c.frameRemaining ≠ 0 := by
          rw [holds.remaining]
          exact fun zero => none (List.length_eq_zero_iff.mp zero)
        exact go [] (awaitData_busy busy) none open_ holds (List.append_nil _).symm rfl

end Conn

/-- The events of a stream of frames and its first error are those that the frames call
for. -/
structure Faithful (frames : List ClientFrame) (ending : Ending) (events : List Event)
    (err : GoError) : Prop where
  /-- The bytes returned are the payloads of the data frames. -/
  returned : Event.returned events = frames.flatMap ClientFrame.data
  /-- Every ping is answered by one pong, in order; only the ending is answered besides. -/
  written : Event.written events = frames.flatMap ClientFrame.pong ++ ending.answer
  /-- A ping is answered behind the data before it and ahead of the data after it. -/
  order : events = frames.flatMap ClientFrame.script ++ ending.answer.map .wrote
  /-- The end of the transport and a Close are the end of the stream. -/
  eof : (∀ header offends rest, ending ≠ .offending header offends rest) → err = .eof
  /-- A protocol error, with a 1002 close, comes from an offending header only. -/
  protocol : (∃ message, err = .protocol message) ∧
      Event.wrote (closeFrame closeProtocolError) ∈ events ↔
    ∃ header offends rest, ending = .offending header offends rest

/-- Whatever the segments and the buffers are, the reads return the byte stream. -/
theorem faithful_reads (frames : List ClientFrame) (ending : Ending) (r : Reader UInt8) (now : Nat)
    (sizes : Nat → Nat) (open_ : ∀ f ∈ frames, f.opcode ≠ .close)
    (content : r.content = frames.flatMap ClientFrame.bytes ++ ending.bytes)
    (positive : ∀ i, 0 < sizes i) :
    ∃ reads events err, (newConn r none now).transcript reads sizes = some (events, err) ∧
      Faithful frames ending events err := by
  have holds : (newConn r none now).Holds [] (Conn.inbound frames ending) := ⟨content, rfl, rfl⟩
  obtain ⟨reads, err, played, ends⟩ := Conn.transcript_eq positive open_ holds
  refine ⟨reads, _, err, played, ?_, ?_, rfl, ?_, ?_⟩
  · simp [ClientFrame.returned_script]
  · simp [ClientFrame.written_script]
  · intro regular
    cases ending with
    | eof => exact ends
    | close frame isClose rest => exact ends
    | offending header offends rest => exact absurd rfl (regular header offends rest)
  · constructor
    · rintro ⟨⟨message, rfl⟩, -⟩
      cases ending with
      | eof => cases ends
      | close frame isClose rest => cases ends
      | offending header offends rest => exact ⟨header, offends, rest, rfl⟩
    · rintro ⟨header, offends, rest, rfl⟩
      refine ⟨ends, ?_⟩
      exact List.mem_append_right _ (List.mem_append_right _ (List.mem_singleton.mpr rfl))

/-- A ping and a masked text frame, in three segments, and one-byte buffers. -/
theorem faithful_reads_pinged : ∃ reads events err,
    (newConn ⟨4096, [0x89], [⟨[0x81, 1, 2, 3, 4, 0x0b], nofun⟩, ⟨[0x81, 0x82, 1, 2, 3], nofun⟩,
      ⟨[4, 0x69, 0x6b], nofun⟩]⟩ none 0).transcript reads (fun _ => 1) = some (events, err) ∧
    Faithful [⟨.ping, true, .short, ![1, 2, 3, 4], [0x0a], by decide, by decide, by decide⟩,
      ⟨.text, true, .short, ![1, 2, 3, 4], [0x68, 0x69], by decide, by decide, by decide⟩]
      .eof events err :=
  faithful_reads _ .eof _ 0 (fun _ => 1) (by decide) (by decide +kernel) fun _ => Nat.one_pos

end Go

end H2ts
