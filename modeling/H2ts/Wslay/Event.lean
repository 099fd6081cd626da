import H2ts.Server.Bridge
import H2ts.Wslay.Frame
import H2ts.Wslay.Utf8d

/-!
# Events

The event layer of wslay, in the role of a server and without buffering, with the callbacks of
the bridge.  `eventRecv` takes frames apart into messages until there is nothing more to read;
`eventSend` writes what is queued.

No extension is allowed, so the reserved bits have to be clear.  The callback that sends takes
everything, so no message is ever partly sent.  What nobody asks for is left out: counters,
status codes, and running out of memory.
-/

namespace H2ts

namespace Wslay

open BigEndian Bridge

def CONTINUATION_FRAME : UInt8 := 0x0

def TEXT_FRAME : UInt8 := 0x1

def BINARY_FRAME : UInt8 := 0x2

def CONNECTION_CLOSE : UInt8 := 0x8

def PING : UInt8 := 0x9

def PONG : UInt8 := 0xA

/-- The opcode of no message. -/
def NO_MESSAGE : UInt8 := 0xFF

def CODE_PROTOCOL_ERROR : UInt16 := 1002

def CODE_INVALID_FRAME_PAYLOAD_DATA : UInt16 := 1007

def CODE_MESSAGE_TOO_BIG : UInt16 := 1009

def MAX_RECV_MSG_LENGTH : Nat := 2 ^ 31 - 1

/-- A message that is being received. -/
structure Imsg where
  fin : Bool
  opcode : UInt8
  utf8state : Nat
  /-- The payload, if it is the one of a control frame. -/
  chunks : Bytes
  msgLength : Nat
deriving DecidableEq, Repr

def Imsg.reset (m : Imsg) : Imsg :=
  { m with opcode := NO_MESSAGE, utf8state := UTF8_ACCEPT, chunks := [] }

/-- A message that is queued. -/
structure Omsg where
  opcode : UInt8
  data : Bytes
deriving DecidableEq, Repr

inductive EventError where
  | noMoreMsg
  | invalidArgument
  | callbackFailure
deriving DecidableEq, Repr

/-- The context, and what the callbacks keep (`Shared`). -/
structure EventContext where
  frameCtx : FrameContext
  readEnabled : Bool
  writeEnabled : Bool
  closeReceived : Bool
  closeQueued : Bool
  closeSent : Bool
  imsgs0 : Imsg
  imsgs1 : Imsg
  /-- `imsg` is `&imsgs[1]`: a control frame came in the middle of a message. -/
  interleaved : Bool
  ipayloadlen : Nat
  ipayloadoff : Nat
  sendQueue : List Omsg
  sendCtrlQueue : List Omsg
  toPeer : Bytes
  outbound : Bytes
  curIsData : Bool
  controlEvents : List ControlEvent
deriving DecidableEq

/-- The receiving loop ends, with an error or without. -/
structure Stop where
  rc : Option EventError
  ctx : EventContext

namespace EventContext

def freshMessage : Imsg := ⟨false, NO_MESSAGE, UTF8_ACCEPT, [], 0⟩

/-- `wslay_event_context_server_init`. -/
def serverInit : EventContext where
  frameCtx := .init
  readEnabled := true
  writeEnabled := true
  closeReceived := false
  closeQueued := false
  closeSent := false
  imsgs0 := freshMessage
  imsgs1 := freshMessage
  interleaved := false
  ipayloadlen := 0
  ipayloadoff := 0
  sendQueue := []
  sendCtrlQueue := []
  toPeer := []
  outbound := []
  curIsData := false
  controlEvents := []

def imsg (c : EventContext) : Imsg := if c.interleaved then c.imsgs1 else c.imsgs0

def setImsg (c : EventContext) (m : Imsg) : EventContext :=
  if c.interleaved then { c with imsgs1 := m } else { c with imsgs0 := m }

/-! ## Queues -/

def isMsgQueueable (c : EventContext) : Bool := c.writeEnabled && !c.closeQueued

/-- `wslay_event_queue_msg`, and its error. -/
def queueMsg (c : EventContext) (opcode : UInt8) (msg : Bytes) : Option EventError × EventContext :=
  if !c.isMsgQueueable then (some .noMoreMsg, c)
  else if isCtrlFrame opcode && 125 < msg.length then (some .invalidArgument, c)
  else if isCtrlFrame opcode then
    (none, { c with sendCtrlQueue := c.sendCtrlQueue ++ [⟨opcode, msg⟩] })
  else (none, { c with sendQueue := c.sendQueue ++ [⟨opcode, msg⟩] })

def closeMessage (statusCode : UInt16) (reason : Bytes) : Bytes :=
  if statusCode = 0 then [] else be16 statusCode ++ reason

def queueClose (c : EventContext) (statusCode : UInt16) (reason : Bytes) :
    Option EventError × EventContext :=
  if !c.isMsgQueueable then (some .noMoreMsg, c)
  else if 123 < reason.length then (some .invalidArgument, c)
  else
    match c.queueMsg CONNECTION_CLOSE (closeMessage statusCode reason) with
    | (none, c) => (none, { c with closeQueued := true })
    | failed => failed

/-- Reading ends with a Close, unless one is queued already. -/
def queueCloseWrapper (c : EventContext) (statusCode : UInt16) (reason : Bytes) :
    Option EventError × EventContext :=
  match { c with readEnabled := false }.queueClose statusCode reason with
  | (some .noMoreMsg, c) => (none, c)
  | result => result

/-! ## Receiving -/

/-- The Close is queued, and the loop ends. -/
def refuse (c : EventContext) (statusCode : UInt16) : Stop :=
  let (rc, c) := c.queueCloseWrapper statusCode []
  ⟨rc, c⟩

def verify (c : EventContext) (iocb : Iocb) : Except Stop EventContext :=
  if iocb.rsv ≠ 0 || !iocb.mask then .error (c.refuse CODE_PROTOCOL_ERROR) else .ok c

/-- A message starts. -/
def imsgSet (c : EventContext) (iocb : Iocb) : EventContext :=
  c.setImsg { c.imsg with fin := iocb.fin, opcode := iocb.opcode, msgLength := 0 }

def isControl (opcode : UInt8) : Bool := opcode = CONNECTION_CLOSE || opcode = PING || opcode = PONG

/-- Which message the frame belongs to, and whether the frame is a new one. -/
def selectMessage (c : EventContext) (iocb : Iocb) : Except Stop (Bool × EventContext) :=
  if c.imsg.opcode = NO_MESSAGE then
    if iocb.opcode = TEXT_FRAME || iocb.opcode = BINARY_FRAME || isControl iocb.opcode then
      .ok (true, c.imsgSet iocb)
    else .error (c.refuse CODE_PROTOCOL_ERROR)
  else if c.ipayloadlen = 0 && c.ipayloadoff = 0 then
    if iocb.opcode = CONTINUATION_FRAME then .ok (true, c.setImsg { c.imsg with fin := iocb.fin })
    else if isControl iocb.opcode then .ok (true, { c with interleaved := true }.imsgSet iocb)
    else .error (c.refuse CODE_PROTOCOL_ERROR)
  else .ok (false, c)

/-- A new frame.  Room is made for the payload of a control frame only. -/
def startFrame (c : EventContext) (iocb : Iocb) : Except Stop EventContext :=
  if MAX_RECV_MSG_LENGTH < c.imsg.msgLength + iocb.payloadLength then
    .error (c.refuse CODE_MESSAGE_TOO_BIG)
  else
    let c := { c with ipayloadlen := iocb.payloadLength, curIsData := iocb.opcode >>> 3 &&& 1 == 0 }
    if isCtrlFrame iocb.opcode then
      .ok (c.setImsg { c.imsg with msgLength := c.imsg.msgLength + iocb.payloadLength })
    else .ok c

/-- Text, and the reason of a Close, must be UTF-8.  A Close has a code of two bytes before it. -/
def validate (c : EventContext) (iocb : Iocb) : Except Stop EventContext :=
  if c.imsg.opcode = TEXT_FRAME || c.imsg.opcode = CONNECTION_CLOSE then
    let from_ := if c.imsg.opcode = CONNECTION_CLOSE then 2 else 0
    let state := (iocb.data.drop from_).foldl decode c.imsg.utf8state
    let c := c.setImsg { c.imsg with utf8state := state }
    if state = UTF8_REJECT then .error (c.refuse CODE_INVALID_FRAME_PAYLOAD_DATA) else .ok c
  else .ok c

/-- The callback gets the chunk, and the payload of a control frame is kept. -/
def deliver (c : EventContext) (iocb : Iocb) : EventContext :=
  let c := { c with toPeer := if c.curIsData then c.toPeer ++ iocb.data else c.toPeer }
  let c := if isCtrlFrame iocb.opcode then
    c.setImsg { c.imsg with chunks := c.imsg.chunks ++ iocb.data } else c
  { c with ipayloadoff := c.ipayloadoff + iocb.data.length }

def isValidStatusCode (statusCode : UInt16) : Bool :=
  (1000 ≤ statusCode && statusCode ≤ 1011 && statusCode != 1004 && statusCode != 1005 &&
    statusCode != 1006) || (3000 ≤ statusCode && statusCode ≤ 4999)

def event (c : EventContext) (e : ControlEvent) : EventContext :=
  { c with controlEvents := c.controlEvents ++ [e] }

/-- The frame is complete, and maybe a message. -/
def endFrame (c : EventContext) : EventContext :=
  let c := if c.imsg.fin then
      let c := c.setImsg c.imsg.reset
      { c with interleaved := false }
    else c
  { c with ipayloadlen := 0, ipayloadoff := 0 }

/-- A Close is echoed. -/
def takeClose (c : EventContext) (statusCode : UInt16) (reason : Bytes) : Except Stop EventContext :=
  match { c with closeReceived := true }.queueCloseWrapper statusCode reason with
  | (some err, c) => .error ⟨some err, c⟩
  | (none, c) => .ok (c.event (.close statusCode reason))

def takePing (c : EventContext) (msg : Bytes) : Except Stop EventContext :=
  match c.queueMsg PONG msg with
  | (none, c) => .ok (c.event (.ping msg))
  | (some .noMoreMsg, c) => .ok (c.event (.ping msg))
  | (some err, c) => .error ⟨some err, { c with readEnabled := false }⟩

/-- A message is complete.  The payload of a data message is with the peer already. -/
def finishMessage (c : EventContext) : Except Stop EventContext :=
  let msg := c.imsg.chunks
  if c.imsg.opcode = CONNECTION_CLOSE then
    match msg with
    | b0 :: b1 :: reason =>
        if !isValidStatusCode (ofBe16 b0 b1) then .error (c.refuse CODE_PROTOCOL_ERROR)
        else c.takeClose (ofBe16 b0 b1) reason
    | _ => c.takeClose 0 []
  else if c.imsg.opcode = PING then c.takePing msg
  else if c.imsg.opcode = PONG then .ok (c.event (.pong msg))
  else .ok c

/-- The last chunk of a frame was taken. -/
def finishFrame (c : EventContext) : Except Stop EventContext :=
  if c.imsg.fin && (c.imsg.opcode = TEXT_FRAME || c.imsg.opcode = CONNECTION_CLOSE) &&
      c.imsg.utf8state ≠ UTF8_ACCEPT then
    .error (c.refuse CODE_INVALID_FRAME_PAYLOAD_DATA)
  else if c.imsg.fin then do
    let c ← c.finishMessage
    .ok c.endFrame
  else .ok c.endFrame

/-- One chunk of one frame. -/
def take (c : EventContext) (iocb : Iocb) : Except Stop EventContext := do
  let c ← c.verify iocb
  let (newFrame, c) ← c.selectMessage iocb
  let c ← if newFrame then c.startFrame iocb else .ok c
  let c ← c.validate iocb
  let c := c.deliver iocb
  if c.ipayloadoff = c.ipayloadlen then c.finishFrame else .ok c

/-- `wslay_frame_recv` has failed.  To have nothing to read is no failure. -/
def recvFailed (c : EventContext) : RecvError → Stop
  | .wantRead => ⟨none, c⟩
  | .proto =>
      match c.queueCloseWrapper 0 [] with
      | (some err, c) => ⟨some err, c⟩
      | (none, c) => ⟨some .callbackFailure, c⟩

/-- One round of the loop of `wslay_event_recv`. -/
def recvRound (c : EventContext) : Except Stop EventContext :=
  match frameRecv c.frameCtx with
  | .error (err, frameCtx) => .error ({ c with frameCtx := frameCtx }.recvFailed err)
  | .ok (iocb, frameCtx) => { c with frameCtx := frameCtx }.take iocb

def recvLoop : Nat → EventContext → Stop
  | 0, c => ⟨none, c⟩
  | fuel + 1, c =>
      if c.readEnabled then
        match c.recvRound with
        | .error stop => stop
        | .ok c => recvLoop fuel c
      else ⟨none, c⟩

/-- What is not parsed yet. -/
def left (c : EventContext) : Nat := c.frameCtx.ibuf.length + c.frameCtx.inbound.length

/-- `wslay_event_recv`.  Each round takes some bytes (`left_recvRound`). -/
def eventRecv (c : EventContext) : Stop := recvLoop (c.left + 1) c

/-! ## Sending -/

/-- The header and the payload of a frame that is not masked. -/
def frameBytes (m : Omsg) : Bytes :=
  let first := 0x80 ||| (m.opcode &&& 0xf)
  let n := m.data.length
  (if n < 126 then [first, UInt8.ofNat n]
    else if n < 2 ^ 16 then [first, 126] ++ be16 (UInt16.ofNat n)
    else [first, 127] ++ be32 (UInt32.ofNat (n / 2 ^ 32)) ++ be32 (UInt32.ofNat n)) ++ m.data

/-- The next message of the queue for control frames.  Once a Close is queued, the others are
dropped. -/
def sendCtrlQueuePop (c : EventContext) : Option Omsg × EventContext :=
  if c.closeQueued then
    match c.sendCtrlQueue.dropWhile fun m => m.opcode ≠ CONNECTION_CLOSE with
    | m :: rest => (some m, { c with sendCtrlQueue := rest })
    | [] => (none, { c with sendCtrlQueue := [] })
  else (c.sendCtrlQueue.head?, { c with sendCtrlQueue := c.sendCtrlQueue.tail })

/-- A message is sent.  Nothing is, after a Close. -/
def sendMessage (c : EventContext) (m : Omsg) : EventContext :=
  let c := { c with outbound := c.outbound ++ frameBytes m }
  if m.opcode = CONNECTION_CLOSE then { c with writeEnabled := false, closeSent := true } else c

def sendLoop : Nat → EventContext → EventContext
  | 0, c => c
  | fuel + 1, c =>
      if !c.writeEnabled then c
      else if c.sendCtrlQueue.isEmpty then
        match c.sendQueue with
        | m :: rest => sendLoop fuel ({ c with sendQueue := rest }.sendMessage m)
        | [] => c
      else
        match c.sendCtrlQueuePop with
        | (some m, c) => sendLoop fuel (c.sendMessage m)
        | (none, c) => c

/-- `wslay_event_send`.  Each round takes a message off a queue. -/
def eventSend (c : EventContext) : EventContext :=
  sendLoop (c.sendCtrlQueue.length + c.sendQueue.length + 1) c

/-! ## The bridge's use of it -/

/-- What was sent is handed over to be written. -/
def takeOutbound (c : EventContext) : Bytes × EventContext := (c.outbound, { c with outbound := [] })

/-- The synchronous section of `ws_to_peer`. -/
def receive (c : EventContext) (bytes : Bytes) : Received × EventContext :=
  let c := { c with frameCtx := { c.frameCtx with inbound := c.frameCtx.inbound ++ bytes } }
  let stop := c.eventRecv
  let c := stop.ctx.eventSend
  (⟨c.toPeer, c.outbound, stop.rc.isSome || c.closeReceived, c.controlEvents⟩,
    { c with toPeer := [], outbound := [], controlEvents := [] })

/-- The sections that queue a message and send. -/
def post (c : EventContext) (message : Message) : Bytes × EventContext :=
  let c := match message with
    | .binary payload => (c.queueMsg BINARY_FRAME payload).2
    | .ping payload => (c.queueMsg PING payload).2
    | .pong payload => (c.queueMsg PONG payload).2
    | .close frame => (c.queueClose frame.code (Utf8.octets frame.reason)).2
  c.eventSend.takeOutbound

end EventContext

/-- wslay, as the bridge drives it. -/
def wslay : Bridge.Wslay EventContext where
  recv := EventContext.receive
  send := EventContext.post

end Wslay

end H2ts
