import H2ts.Connection.State

/-!
# Inbound frames

The methods of `StreamState` and `ConnState` that take inbound frames, and the
teardown of the connection.

`dispatch` returns the state beside its result: a failure keeps what was done
before it.  `onFrame` is one round of the loop in `on_bytes`.
-/

namespace H2ts

open Hpack

/-! ## The receive buffer -/

namespace RecvState

def receiveData (r : RecvState) (data : Bytes) (endStream : Bool) : RecvState :=
  let r := if !data.isEmpty && r.error.isNone && !r.ended then
      { r with queue := r.queue ++ [data], buffered := r.buffered + data.length }
    else r
  { r with ended := r.ended || endStream, waker := false }

def endBody (r : RecvState) : RecvState :=
  if r.ended then r else { r with ended := true, waker := false }

/-- The first error is kept.  A failed stream is also a finished one. -/
def fail (r : RecvState) (err : H2Error) : RecvState :=
  { r with error := r.error.or (some err), ended := true, waker := false }

end RecvState

/-! ## Streams -/

namespace StreamState

def new (id : UInt32) (initialSendWindow : Int) (cell : Nat) : StreamState :=
  ⟨id, .new initialSendWindow, false, cell, false, false, false⟩

/-- Take the head sender and send, if it is still here. -/
def sendHead (s : StreamState) (cell : Cell) (result : Except H2Error Head) : StreamState × Cell :=
  ({ s with gotHead := true, headTx := false },
    if s.headTx then { cell with head := .sent result } else cell)

def receiveHeaders (s : StreamState) (cell : Cell) (raw : List Header) (endStream : Bool) :
    StreamState × Cell :=
  if !s.gotHead && isInterim raw then
    -- An interim response is not the final one; not even its END_STREAM ends the body.
    (s, cell)
  else
    let (s, cell) :=
      if !s.gotHead then s.sendHead cell (.ok (collectHeaders raw))
      else (s, { cell with trailers := some (collectHeaders raw).headers })
    (s, if endStream then { cell with recv := cell.recv.endBody } else cell)

def receiveData (s : StreamState) (cell : Cell) (data : Bytes) (endStream : Bool) :
    StreamState × Cell :=
  (s, { cell with recv := cell.recv.receiveData data endStream })

/-- `fail`, apart from the wakers of the send window. -/
def fail (s : StreamState) (cell : Cell) (err : H2Error) : StreamState × Cell :=
  let (s, cell) := if !s.gotHead then s.sendHead cell (.error err) else (s, cell)
  (s, { cell with recv := cell.recv.fail err })

/-- The peer's END_STREAM. -/
def closeRemote (s : StreamState) (endStream : Bool) : StreamState :=
  { s with remoteClosed := s.remoteClosed || endStream }

/-- What dropping the stream does to its cells: a head sender that is still here
cancels the channel. -/
def drop (s : StreamState) (cell : Cell) : Cell :=
  if s.headTx then { cell with head := .canceled } else cell

end StreamState

namespace Client

/-- Run a method of the stream of an id on it and its cells. -/
def withStream (c : Client) (id : UInt32) (f : StreamState → Cell → StreamState × Cell) : Client :=
  match c.streams.lookup id with
  | none => c
  | some s =>
      let (s', cell) := f s (c.cells s.cell)
      (c.modifyStream id fun _ => s').modifyCell s.cell fun _ => cell

/-- Take a stream out of the map and fail it. -/
def removeAndFail (c : Client) (id : UInt32) (err : H2Error) : Client :=
  match c.streams.lookup id with
  | none => c
  | some s =>
      let c := { c with streams := c.streams.erase id }
      let c := c.wakePumps s.sendWindow.close.2
      let (s, cell) := s.fail (c.cells s.cell) err
      (c.modifyCell s.cell fun _ => s.drop cell).record (.failed id)

def resetStream (c : Client) (id : UInt32) (code : ErrorCode) : Client :=
  let c := c.sendFrame (.rstStream id code.value)
  let c := c.record (.reset id)
  let c := c.removeAndFail id
    (H2Error.stream code ("stream " ++ toString id.toNat ++ " reset") id)
  c.wakeSlotWaiters

/-- Drop a stream once both directions have ended. -/
def retireIfFullyClosed (c : Client) (id : UInt32) : Client :=
  match c.streams.lookup id with
  | none => c
  | some s =>
      if s.localClosed && s.remoteClosed then
        let c := { c with streams := c.streams.erase id }
        ((c.modifyCell s.cell s.drop).record (.retired id)).wakeSlotWaiters
      else c

/-- Return consumed bytes to the receive windows. -/
def replenishRecvWindow (c : Client) (id : UInt32) (n : Nat) : Client :=
  if c.closed || n == 0 then c
  else
    let increment := UInt32.ofNat n
    let c := if id ∈ c.streams then c.sendFrame (.windowUpdate id increment) else c
    c.sendFrame (.windowUpdate 0 increment)

/-! ## Teardown -/

/-- Fail an in-flight ping. -/
def failPings (c : Client) (err : H2Error) : Client :=
  let waiting := c.pings.entries.map Sigma.snd
  { c with
    pings := ∅
    answers := fun j => if j ∈ waiting then .sent (.error err) else c.answers j }

/-- Close the connection. -/
def shutDown (c : Client) (err : H2Error) : Client :=
  let (window, woken) := c.connSendWindow.close
  { c with closed := true, closeError := some err, connSendWindow := window }.wakePumps woken

def destroy (c : Client) (err : H2Error) : Client :=
  if c.closed then c
  else
    let c := c.shutDown err
    let c := c.streams.keys.foldl (fun c id => c.removeAndFail id err) c
    let c := c.failPings err
    let c := c.wakeSlotWaiters
    { c with outTx := false }

def connectionError (c : Client) (err : H2Error) : Client :=
  (c.sendFrame (.goaway c.highestPromised err.code.value [])).destroy err

/-! ## Settings -/

/-- The state after a fallible method, and its result. -/
abbrev Outcome := Client × Except Fault Unit

/-- The `?` operator. -/
def Outcome.andThen (o : Outcome) (next : Client → Outcome) : Outcome :=
  match o with
  | (c, .error fault) => (c, .error fault)
  | (c, .ok ()) => next c

/-- Move every stream window by the change of the initial window. -/
def adjustWindows (c : Client) (initial : Int) : Client :=
  let delta := initial - c.remote.initialWindowSize
  let woken := c.streams.entries.flatMap fun entry => (entry.2.sendWindow.adjust delta).2
  { c with
    remote := { c.remote with initialWindowSize := initial }
    streams := c.streams.mapWithKey fun _ s =>
      { s with sendWindow := (s.sendWindow.adjust delta).1 } }.wakePumps woken

def applyInitialWindowSize (c : Client) : Option UInt32 → Outcome
  | none => (c, .ok ())
  | some iw =>
      if iw > 0x7fffffff then
        (c, .error (.new .flowControlError "SETTINGS_INITIAL_WINDOW_SIZE exceeds 2^31-1"))
      else (c.adjustWindows iw.toNat, .ok ())

def applyMaxFrameSize (c : Client) : Option UInt32 → Outcome
  | none => (c, .ok ())
  | some mfs =>
      if 16384 ≤ mfs.toNat ∧ mfs.toNat ≤ 16777215 then
        ({ c with remote := { c.remote with maxFrameSize := mfs.toNat } }, .ok ())
      else (c, .error (.new .protocolError "SETTINGS_MAX_FRAME_SIZE out of range"))

/-- The settings that cannot fail. -/
def applyOtherSettings (c : Client) (s : Settings) : Client :=
  let c := { c with remote := { c.remote with
    headerTableSize := (s.headerTableSize.map UInt32.toNat).getD c.remote.headerTableSize
    enablePush := s.enablePush.getD c.remote.enablePush } }
  match s.maxConcurrentStreams with
  | none => c
  | some mcs =>
      let c := { c with remote := { c.remote with maxConcurrentStreams := mcs } }
      -- A raised limit may free parked requests.
      (c.record (.limit mcs)).wakeSlotWaiters

def applyRemoteSettings (c : Client) (s : Settings) : Outcome :=
  Outcome.andThen (c.applyInitialWindowSize s.initialWindowSize) fun c =>
    Outcome.andThen (c.applyMaxFrameSize s.maxFrameSize) fun c => (c.applyOtherSettings s, .ok ())

/-! ## Header blocks -/

def guardHeaderBlockSize (c : Client) : Except Fault Unit :=
  match c.pendingHeaderBlock with
  | some pb =>
      if pb.size > MAX_HEADER_BLOCK_SIZE then
        .error (.new .enhanceYourCalm "header block exceeds the maximum size")
      else .ok ()
  | none => .ok ()

/-- A complete response header block, decoded. -/
def receiveBlock (c : Client) (id : UInt32) (headers : List Header) (endStream : Bool) : Client :=
  (c.record (.block id headers endStream)).withStream id fun s cell =>
    let (s, cell) := s.receiveHeaders cell headers endStream
    (s.closeRemote endStream, cell)

/-- Refuse a pushed stream. -/
def refusePush (c : Client) (promised : UInt32) : Client :=
  let c := if promised > c.highestPromised then { c with highestPromised := promised } else c
  c.sendFrame (.rstStream promised ErrorCode.refusedStream.value)

/-- A decoded header block goes to its stream, or is refused. -/
def takeHeaderBlock (c : Client) (pb : PendingHeaderBlock) (headers : List Header) : Client :=
  match pb.kind with
  | .response =>
      let c := c.receiveBlock pb.streamId headers pb.endStream
      if pb.endStream then c.retireIfFullyClosed pb.streamId else c
  | .push => c.refusePush (pb.promisedStreamId.getD 0)

def completeHeaderBlock (c : Client) : Outcome :=
  match c.pendingHeaderBlock with
  | none => (c, .error .panic)
  | some pb =>
      let decoded := c.decoder.decode pb.fragments.flatten
      let c := { c with pendingHeaderBlock := none, decoder := decoded.1 }
      match decoded.2 with
      | .error fault => (c, .error fault)
      | .ok headers => (c.takeHeaderBlock pb headers, .ok ())

/-- Store a header block that has grown, check it, and complete it at its end. -/
def growHeaderBlock (c : Client) (pb : PendingHeaderBlock) (endHeaders : Bool) : Outcome :=
  let c := { c with pendingHeaderBlock := some pb }
  match c.guardHeaderBlockSize with
  | .error fault => (c, .error fault)
  | .ok () => if endHeaders then c.completeHeaderBlock else (c, .ok ())

/-! ## Dispatch -/

/-- A DATA frame, up to the end of its stream. -/
def receiveDataFrame (c : Client) (id : UInt32) (data : Bytes) (endStream : Bool) : Client :=
  let c := c.record (.data id data endStream)
  if id ∈ c.streams then
    c.withStream id fun s cell =>
      let (s, cell) := s.receiveData cell data endStream
      (s.closeRemote endStream, cell)
  else if !data.isEmpty then
    -- Nobody will read the bytes: return the connection window now.
    c.sendFrame (.windowUpdate 0 (UInt32.ofNat data.length))
  else c

def creditConnection (c : Client) (increment : UInt32) : Client :=
  let (window, woken) := c.connSendWindow.update increment.toNat
  ({ c with connSendWindow := window }.record (.credit 0 increment)).wakePumps woken

def creditStream (c : Client) (id increment : UInt32) : Client :=
  let c := c.record (.credit id increment)
  match c.streams.lookup id with
  | none => c
  | some s =>
      let (window, woken) := s.sendWindow.update increment.toNat
      (c.modifyStream id fun s => { s with sendWindow := window }).wakePumps woken

/-- Fail the streams above the last one the peer will serve. -/
def failAbove (c : Client) (lastStreamId : UInt32) (err : H2Error) : Client :=
  (c.streams.keys.filter (lastStreamId < ·)).foldl (fun c id => c.removeAndFail id err) c

def receiveGoaway (c : Client) (lastStreamId errorCode : UInt32) : Client :=
  let c := { c with goawayReceived := true }.record (.goaway lastStreamId)
  let err := H2Error.new ((ErrorCode.fromValue errorCode).getD .noError) "peer sent GOAWAY"
  let c := c.failAbove lastStreamId err
  let c := c.wakeSlotWaiters
  if errorCode ≠ 0 then c.destroy err else c

def receivePing (c : Client) (ack : Bool) (opaqueData : OpaqueData) : Client :=
  if ack then
    match c.pings.lookup opaqueData with
    | none => c
    | some j =>
        { c with
          pings := c.pings.erase opaqueData
          answers := Function.update c.answers j (.sent (.ok ())) }
  else c.sendFrame (.ping true opaqueData)

/-- `receive_reset` of a stream taken out of the map. -/
def receiveReset (c : Client) (id errorCode : UInt32) : Client :=
  let code := (ErrorCode.fromValue errorCode).getD .protocolError
  (c.record (.rst id)).removeAndFail id
    (H2Error.stream code ("stream " ++ toString id.toNat ++ " reset by peer") id)

def receiveWindowUpdate (c : Client) (id increment : UInt32) : Outcome :=
  if increment = 0 then
    if id = 0 then (c, .error (.new .protocolError "zero WINDOW_UPDATE"))
    else (c.resetStream id .protocolError, .ok ())
  else if id = 0 then (c.creditConnection increment, .ok ())
  else (c.creditStream id increment, .ok ())

def isContinuation : Frame → Bool
  | .continuation .. => true
  | _ => false

/-- A frame that is allowed to come now. -/
def dispatchFrame (c : Client) : Frame → Outcome
  | .settings ack settings =>
      if ack then (c, .ok ())
      else
        Outcome.andThen (c.applyRemoteSettings settings) fun c =>
          (c.sendFrame (.settings true {}), .ok ())
  | .headers id fragment endStream endHeaders _ =>
      c.growHeaderBlock ⟨id, .response, endStream, none, [fragment], fragment.length⟩ endHeaders
  | .continuation id fragment endHeaders =>
      match c.pendingHeaderBlock with
      | none => (c, .error (.new .protocolError "unexpected CONTINUATION"))
      | some pb =>
          if pb.streamId = id then
            c.growHeaderBlock { pb with
              size := pb.size + fragment.length
              fragments := pb.fragments ++ [fragment] } endHeaders
          else (c, .error (.new .protocolError "unexpected CONTINUATION"))
  | .pushPromise id promised fragment endHeaders =>
      c.growHeaderBlock ⟨id, .push, false, some promised, [fragment], fragment.length⟩ endHeaders
  | .data id data endStream =>
      let c := c.receiveDataFrame id data endStream
      (if endStream then c.retireIfFullyClosed id else c, .ok ())
  | .rstStream id errorCode => (c.receiveReset id errorCode, .ok ())
  | .windowUpdate id increment => c.receiveWindowUpdate id increment
  | .ping ack opaqueData => (c.receivePing ack opaqueData, .ok ())
  | .goaway lastStreamId errorCode _ => (c.receiveGoaway lastStreamId errorCode, .ok ())
  | .priority _ _ => (c, .ok ())

/-- A pending header block only allows CONTINUATION frames. -/
def dispatch (c : Client) (frame : Frame) : Outcome :=
  if c.pendingHeaderBlock.isSome && !isContinuation frame then
    (c, .error (.new .protocolError "expected CONTINUATION frame"))
  else c.dispatchFrame frame

/-- Dispatch a frame; an error is a connection error.  A panic unwinds the read
loop and leaves the state as it is. -/
def onFrame (c : Client) (frame : Frame) : Client :=
  match c.dispatch frame with
  | (c, .ok ()) => c
  | (c, .error (.h2 err)) => c.connectionError err
  | (c, .error .panic) => c

end Client

end H2ts
