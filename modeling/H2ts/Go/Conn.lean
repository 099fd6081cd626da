import H2ts.Bytes
import H2ts.Lib.Bufio
import H2ts.Lib.Utf8

/-!
# The Go WebSocket connection

The read side of `conn.go`: a WebSocket as a byte stream.  `Read` runs the framing inline,
answers pings on the way and ends the stream on a Close.

The clock is a number that `touch` copies, and the observation hooks are a log.  The
transport takes all writes or fails them all (`writeErr`).
-/

namespace H2ts

namespace Go

open BigEndian Bufio Utf8

def opContinuation : UInt8 := 0x0

def opText : UInt8 := 0x1

def opBinary : UInt8 := 0x2

def opClose : UInt8 := 0x8

def opPing : UInt8 := 0x9

def opPong : UInt8 := 0xA

def closeProtocolError : UInt16 := 1002

/-- No status in the frame. -/
def closeNoStatus : UInt16 := 1005

/-- The connection was dropped without a Close. -/
def closeAbnormal : UInt16 := 1006

def maxInt64 : Nat := 2 ^ 63 - 1

/-- The errors of `Read`. -/
inductive GoError where
  /-- `io.EOF` -/
  | eof
  /-- `io.ErrUnexpectedEOF` -/
  | unexpectedEof
  /-- A `protocolError`. -/
  | protocol (message : String)
  /-- Any other error. -/
  | other (text : String)
deriving DecidableEq, Repr

namespace GoError

/-- The text of an error. -/
def error : GoError → String
  | eof => "EOF"
  | unexpectedEof => "unexpected EOF"
  | protocol message => "websocket protocol error: " ++ message
  | other text => text

def ofRead : ReadError → GoError
  | .eof => eof
  | .unexpectedEof => unexpectedEof

end GoError

structure CloseFrame where
  code : UInt16
  reason : Bytes
deriving DecidableEq, Repr

structure Conn where
  r : Reader UInt8
  /-- What the transport was given, one entry a write. -/
  out : List Bytes
  /-- The error of a write. -/
  writeErr : Option GoError
  frameRemaining : Nat
  maskKey : Fin 4 → UInt8
  maskPos : Nat
  now : Nat
  lastActivity : Nat
  reason : Option CloseFrame
  /-- The opcodes and payloads that the hooks got. -/
  observed : List (UInt8 × Bytes)

namespace Conn

def touch (c : Conn) : Conn := { c with lastActivity := c.now }

/-- Record the close reason if none was set yet. -/
def setReason (c : Conn) (reason : CloseFrame) : Conn :=
  { c with reason := c.reason.or (some reason) }

/-- A hook gets the payload of a control frame. -/
def observe (c : Conn) (opcode : UInt8) (payload : Bytes) : Conn :=
  { c with observed := c.observed ++ [(opcode, payload)] }

/-! ## Writing -/

/-- A write of the transport. -/
def write (c : Conn) (frame : Bytes) : Option GoError × Conn :=
  match c.writeErr with
  | some err => (some err, c)
  | none => (none, { c with out := c.out ++ [frame] })

/-- A control frame: FIN, unmasked, at most 125 bytes of payload. -/
def controlFrame (opcode : UInt8) (payload : Bytes) : Bytes :=
  [0x80 ||| opcode, UInt8.ofNat payload.length] ++ payload

def writeControl (c : Conn) (opcode : UInt8) (payload : Bytes) : Option GoError × Conn :=
  if payload.length > 125 then
    (some (.other ("h2ts: control frame payload is " ++ toString payload.length ++
      " bytes, max 125")), c)
  else c.write (controlFrame opcode payload)

/-- Whether a close code may appear on the wire. -/
def isSendableCloseCode (code : UInt16) : Bool :=
  !(code < 1000) && code != closeNoStatus && code != closeAbnormal && code != 1015

/-- The payload of a Close frame; pseudo-codes are not sent. -/
def closePayload (code : UInt16) (reason : Bytes) : Bytes :=
  if isSendableCloseCode code then be16 code ++ reason else []

def writeClose (c : Conn) (code : UInt16) (reason : Bytes) : Option GoError × Conn :=
  c.writeControl opClose (closePayload code reason)

/-! ## Reading frames -/

def readErr (c : Conn) : GoError → GoError × Conn
  | .protocol message =>
      let c := c.setReason ⟨closeProtocolError, octets message⟩
      (.protocol message, (c.writeClose closeProtocolError []).2)
  | .eof => (.eof, c.setReason ⟨closeAbnormal, []⟩)
  | err => (err, c.setReason ⟨closeAbnormal, octets err.error⟩)

/-- `io.ReadFull` on the reader. -/
def readFull (c : Conn) (n : Nat) : Except GoError Bytes × Conn :=
  match c.r.readFull n with
  | ((data, none), r) => (.ok data, { c with r := r })
  | ((_, some err), r) => (.error (.ofRead err), { c with r := r })

/-- The payload length, whose first seven bits are in the header. -/
def readLength (c : Conn) (short : UInt8) : Except GoError Nat × Conn :=
  if short = 126 then
    match c.readFull 2 with
    | (.error err, c) => (.error err, c)
    | (.ok ext, c) => (.ok (ofBe ext), c)
  else if short = 127 then
    match c.readFull 8 with
    | (.error err, c) => (.error err, c)
    | (.ok ext, c) =>
        if ofBe ext > maxInt64 then (.error (.protocol "frame length overflows int64"), c)
        else (.ok (ofBe ext), c)
  else (.ok short.toNat, c)

/-- The checks of a control frame. -/
def controlFault (fin : Bool) (opcode : UInt8) (length : Nat) : Option GoError :=
  if opcode &&& 0x8 != 0 then
    if !fin then some (.protocol "fragmented control frame")
    else if length > 125 then some (.protocol "control frame payload > 125 bytes")
    else none
  else none

/-- The opcode, the mask bit and the length of a frame; its key goes into `maskKey`. -/
def readHeader (c : Conn) : Except GoError (UInt8 × Bool × Nat) × Conn :=
  match c.readFull 2 with
  | (.error err, c) => (.error err, c)
  | (.ok h, c) =>
      let fin := h.getD 0 0 &&& 0x80 != 0
      if h.getD 0 0 &&& 0x70 != 0 then
        (.error (.protocol "nonzero RSV bits (no extension negotiated)"), c)
      else
        let opcode := h.getD 0 0 &&& 0x0F
        let masked := h.getD 1 0 &&& 0x80 != 0
        if !masked then (.error (.protocol "unmasked client frame"), c)
        else
          match c.readLength (h.getD 1 0 &&& 0x7F) with
          | (.error err, c) => (.error err, c)
          | (.ok length, c) =>
              match controlFault fin opcode length with
              | some err => (.error err, c)
              | none =>
                  match c.readFull 4 with
                  | (.error err, c) => (.error err, c)
                  | (.ok key, c) =>
                      (.ok (opcode, masked, length), { c with maskKey := fun i => key.getD i 0 })

/-- XOR with the key, from an offset on. -/
def xorMask (key : Fin 4 → UInt8) : Nat → Bytes → Bytes
  | _, [] => []
  | pos, b :: bytes => (b ^^^ key (Fin.ofNat 4 pos)) :: xorMask key (pos + 1) bytes

def readControlPayload (c : Conn) (masked : Bool) (length : Nat) : Except GoError Bytes × Conn :=
  if length = 0 then (.ok [], c)
  else
    match c.readFull length with
    | (.error err, c) => (.error err, c)
    | (.ok buf, c) => (.ok (if masked then xorMask c.maskKey 0 buf else buf), c)

/-- The code and the reason of a Close. -/
def parseClose : Bytes → UInt16 × Bytes
  | a :: b :: reason => (ofBe16 a b, reason)
  | _ => (closeNoStatus, [])

def reservedOpcode (opcode : UInt8) : GoError :=
  .protocol ("reserved opcode 0x" ++ String.ofList (Nat.toDigits 16 opcode.toNat))

/-- `nextDataFrame` when the header is read: `none` if it goes on, else what it returns. -/
def handleFrame (c : Conn) (opcode : UInt8) (masked : Bool) (length : Nat) :
    Option (Option GoError) × Conn :=
  if opcode = opBinary || opcode = opText || opcode = opContinuation then
    (some none, { c with frameRemaining := length, maskPos := 0 })
  else if opcode = opPing then
    match c.readControlPayload masked length with
    | (.error err, c) => let (err, c) := c.readErr err; (some (some err), c)
    | (.ok payload, c) =>
        match c.writeControl opPong payload with
        | (some err, c) => (some (some err), c.setReason ⟨closeAbnormal, octets err.error⟩)
        | (none, c) => (none, c.observe opPing payload)
  else if opcode = opPong then
    match c.readControlPayload masked length with
    | (.error err, c) => let (err, c) := c.readErr err; (some (some err), c)
    | (.ok payload, c) => (none, c.observe opPong payload)
  else if opcode = opClose then
    let (payload, c) := c.readControlPayload masked length
    let (code, reason) := parseClose (payload.toOption.getD [])
    let c := c.setReason ⟨code, reason⟩
    (some (some .eof), (c.writeClose code []).2)
  else
    let (err, c) := c.readErr (reservedOpcode opcode)
    (some (some err), c)

/-- One round of `nextDataFrame`. -/
def nextFrame (c : Conn) : Option (Option GoError) × Conn :=
  match c.readHeader with
  | (.error err, c) => let (err, c) := c.readErr err; (some (some err), c)
  | (.ok (opcode, masked, length), c) => c.touch.handleFrame opcode masked length

/-! ## Reading the stream -/

/-- How many bytes are still to come from the transport. -/
def left (c : Conn) : Nat := c.r.content.length

@[simp] theorem left_touch (c : Conn) : c.touch.left = c.left := rfl

@[simp] theorem left_setReason (c : Conn) (reason : CloseFrame) :
    (c.setReason reason).left = c.left := rfl

@[simp] theorem left_observe (c : Conn) (opcode : UInt8) (payload : Bytes) :
    (c.observe opcode payload).left = c.left := rfl

@[simp] theorem left_write (c : Conn) (frame : Bytes) : (c.write frame).2.left = c.left := by
  unfold write
  cases c.writeErr <;> rfl

@[simp] theorem left_writeControl (c : Conn) (opcode : UInt8) (payload : Bytes) :
    (c.writeControl opcode payload).2.left = c.left := by
  unfold writeControl
  split
  · rfl
  · exact left_write c _

@[simp] theorem left_writeClose (c : Conn) (code : UInt16) (reason : Bytes) :
    (c.writeClose code reason).2.left = c.left :=
  left_writeControl c _ _

@[simp] theorem left_readErr (c : Conn) (err : GoError) : (c.readErr err).2.left = c.left := by
  cases err with
  | protocol message => exact left_writeClose _ _ _
  | _ => rfl

theorem left_readFull (c : Conn) (n : Nat) : (c.readFull n).2.left ≤ c.left := by
  obtain ⟨taken, content, -⟩ := c.r.content_readFull n
  unfold readFull
  rcases reads : c.r.readFull n with ⟨⟨data, _ | err⟩, r⟩ <;> rw [reads] at content <;>
    simp only [left, content, List.length_append] <;> omega

theorem left_readFull_ok {c c' : Conn} {n : Nat} {data : Bytes}
    (fine : c.readFull n = (.ok data, c')) : c'.left + n = c.left := by
  obtain ⟨taken, content, same⟩ := c.r.content_readFull n
  unfold readFull at fine
  rcases reads : c.r.readFull n with ⟨⟨data, _ | err⟩, r⟩
  · have length := Reader.length_readFull (r := c.r) (n := n) (by rw [reads])
    rw [reads] at content same length fine
    obtain ⟨-, rfl⟩ := Prod.mk.inj fine
    have front : data = taken := same rfl
    rw [left, left, content, List.length_append, ← front]
    exact (Nat.add_comm _ _).trans (congrArg (· + _) length.symm)
  · rw [reads] at fine
    cases fine

theorem left_readLength (c : Conn) (short : UInt8) : (c.readLength short).2.left ≤ c.left := by
  unfold readLength
  split
  · have taken := left_readFull c 2
    rcases reads : c.readFull 2 with ⟨err | ext, c'⟩ <;> rw [reads] at taken <;> exact taken
  · split
    · have taken := left_readFull c 8
      rcases reads : c.readFull 8 with ⟨err | ext, c'⟩ <;> rw [reads] at taken
      · exact taken
      · dsimp only
        split <;> exact taken
    · exact le_rfl

theorem left_readHeader {c c' : Conn} {header : UInt8 × Bool × Nat}
    (fine : c.readHeader = (.ok header, c')) : c'.left < c.left := by
  unfold readHeader at fine
  rcases first : c.readFull 2 with ⟨err | h, c₁⟩
  · rw [first] at fine
    cases fine
  · rw [first] at fine
    have two := left_readFull_ok first
    dsimp only at fine
    split at fine
    · cases fine
    · split at fine
      · cases fine
      · have taken := left_readLength c₁ (h.getD 1 0 &&& 0x7F)
        rcases lengths : c₁.readLength (h.getD 1 0 &&& 0x7F) with ⟨err | length, c₂⟩
        · rw [lengths] at fine
          cases fine
        · rw [lengths] at fine taken
          dsimp only at fine taken
          split at fine
          · cases fine
          · rcases last : c₂.readFull 4 with ⟨err | key, c₃⟩
            · rw [last] at fine
              cases fine
            · rw [last] at fine
              have four := left_readFull_ok last
              obtain ⟨-, rfl⟩ := Prod.mk.inj fine
              show c₃.left < c.left
              omega

theorem left_readControlPayload (c : Conn) (masked : Bool) (length : Nat) :
    (c.readControlPayload masked length).2.left ≤ c.left := by
  unfold readControlPayload
  split
  · exact le_rfl
  · have taken := left_readFull c length
    rcases reads : c.readFull length with ⟨err | ext, c'⟩ <;> rw [reads] at taken <;> exact taken

theorem left_handleFrame (c : Conn) (opcode : UInt8) (masked : Bool) (length : Nat) :
    (c.handleFrame opcode masked length).2.left ≤ c.left := by
  have taken := left_readControlPayload c masked length
  unfold handleFrame
  split
  · exact le_rfl
  · split
    · rcases reads : c.readControlPayload masked length with ⟨err | payload, c'⟩
      · rw [reads] at taken
        simpa using taken
      · rw [reads] at taken
        have written := left_writeControl c' opPong payload
        rcases writes : c'.writeControl opPong payload with ⟨_ | err, c''⟩ <;>
          rw [writes] at written
        · simpa [written, writes] using taken
        · simpa [written, writes] using taken
    · split
      · rcases reads : c.readControlPayload masked length with ⟨err | payload, c'⟩ <;>
          rw [reads] at taken <;> simpa using taken
      · split
        · simpa using taken
        · simp

theorem left_nextFrame {c c' : Conn} {result : Option (Option GoError)}
    (step : c.nextFrame = (result, c')) (fine : result = none ∨ result = some none) :
    c'.left < c.left := by
  unfold nextFrame at step
  rcases reads : c.readHeader with ⟨err | ⟨opcode, masked, length⟩, c₁⟩
  · rw [reads] at step
    obtain ⟨rfl, -⟩ := Prod.mk.inj step
    rcases fine with fine | fine <;> cases fine
  · rw [reads] at step
    have header := left_readHeader reads
    have taken := left_handleFrame c₁.touch opcode masked length
    dsimp only at step
    rw [step, left_touch] at taken
    exact lt_of_le_of_lt taken header

def nextDataFrame (c : Conn) : Option GoError × Conn :=
  match _step : c.nextFrame with
  | (some result, c') => (result, c')
  | (none, c') => nextDataFrame c'
termination_by c.left
decreasing_by exact left_nextFrame _step (.inl rfl)

theorem left_nextDataFrame (c : Conn) :
    (c.nextDataFrame).1 = none → (c.nextDataFrame).2.left < c.left := by
  induction c using nextDataFrame.induct with
  | case1 c result c' step =>
      rw [nextDataFrame, step]
      rintro rfl
      exact left_nextFrame step (.inr rfl)
  | case2 c c' step ih =>
      rw [nextDataFrame, step]
      exact fun fine => (ih fine).trans (left_nextFrame step (.inl rfl))

/-- The loop of `Read`: go to a data frame with a payload. -/
def awaitData (c : Conn) : Option GoError × Conn :=
  if c.frameRemaining = 0 then
    match _step : c.nextDataFrame with
    | (some err, c') => (some err, c')
    | (none, c') => awaitData c'
  else (none, c)
termination_by c.left
decreasing_by
  have less := left_nextDataFrame c
  rw [_step] at less
  exact less rfl

def unmask (c : Conn) (b : Bytes) : Bytes × Conn :=
  (xorMask c.maskKey c.maskPos b, { c with maskPos := (c.maskPos + b.length) % 4 })

/-- `Read` into a buffer of `n` bytes. -/
def read (c : Conn) (n : Nat) : (Bytes × Option GoError) × Conn :=
  if n = 0 then (([], none), c)
  else
    match c.awaitData with
    | (some err, c) => (([], some err), c)
    | (none, c) =>
        match c.r.read (min n c.frameRemaining) with
        | ((data, err), r) =>
            let c := { c with r := r }
            if 0 < data.length then
              let (data, c) := c.unmask data
              ((data, none), { c with frameRemaining := c.frameRemaining - data.length })
            else
              let (err, c) := c.readErr ((err.map .ofRead).getD .unexpectedEof)
              (([], some err), c)

end Conn

/-- `newConn`, at the time `now`. -/
def newConn (r : Reader UInt8) (writeErr : Option GoError) (now : Nat) : Conn where
  r := r
  out := []
  writeErr := writeErr
  frameRemaining := 0
  maskKey := fun _ => 0
  maskPos := 0
  now := now
  lastActivity := now
  reason := none
  observed := []

end Go

end H2ts
