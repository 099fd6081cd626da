import H2ts.Hpack.Coder
import H2ts.Lib.KeyMap
import H2ts.Lib.Machine
import H2ts.Typescript.Stream

/-!
# The TypeScript connection

`H2Connection` of `connection.ts`.  A step is one synchronous section between two
awaits; promise reactions and events may run in any order, so a run is any list of
actions, and an action that is not enabled changes nothing.  An upload or a body may be
resumed without need, which adds runs and takes none away.

HPACK is a parameter (`Coder`).  `onPush` comes last in its section, so what the callback
does is a later action, and its exception one that `corrupt` has.  The read loop goes on
after the teardown.
-/

namespace H2ts

namespace Typescript

open Hpack

/-- HPACK: the encoder has no state. -/
structure Coder (D : Type) where
  encode : List Header → Bytes
  decode : D → Bytes → D × Except Thrown (List Header)

/-- HPACK as both clients have it. -/
def hpack : Coder HpackDecoder where
  encode := Hpack.encode
  decode d block :=
    match d.decode block with
    | (d, .ok headers) => (d, .ok headers)
    | (d, .error (.h2 error)) => (d, .error (.h2 error.code (error.message.getD "") none))
    | (d, .error .panic) => (d, .error .range)

inductive HeaderBlockKind where
  | response
  | push
deriving DecidableEq, Repr

structure PendingHeaderBlock where
  streamId : Int
  kind : HeaderBlockKind
  endStream : Bool
  promisedStreamId : Int
  fragments : List Bytes
  size : Nat
deriving DecidableEq, Repr

structure RemoteSettings where
  initialWindowSize : Int
  maxFrameSize : Int
  headerTableSize : Int
  enablePush : Bool
  /-- `none` is Infinity. -/
  maxConcurrentStreams : Option Int
deriving DecidableEq, Repr

def SPEC_INITIAL_WINDOW : Int := 65535

def MAX_HEADER_BLOCK_SIZE : Nat := 2 ^ 20

def RemoteSettings.default : RemoteSettings := ⟨SPEC_INITIAL_WINDOW, 16384, 4096, true, none⟩

/-- What `request` gets. -/
structure H2RequestInit where
  request : Request
  /-- It comes with a signal. -/
  signal : Bool
deriving DecidableEq

/-- A call of `request`. -/
inductive Call where
  | idle
  /-- Suspended on `ready`. -/
  | awaitingReady (init : H2RequestInit)
  /-- Suspended until a stream slot frees up. -/
  | parked (init : H2RequestInit)
  /-- Suspended on the head of a stream. -/
  | awaitingHead (k : Nat)
  | responded (k : Nat)
  | rejected (reason : Reason)
deriving DecidableEq

structure H2Connection (D : Type) where
  /-- There is an `onPush`. -/
  onPush : Bool
  decoder : D
  /-- The stream object of an id. -/
  streams : KeyMap Int Nat
  nextStreamId : Int
  connSendWindow : SendWindow
  remote : RemoteSettings
  /-- The parked calls. -/
  streamSlotWaiters : List Nat
  pendingHeaderBlock : Option PendingHeaderBlock
  /-- The ping of an opaque value. -/
  pings : KeyMap Bytes Nat
  pingCounter : Nat
  closedFlag : Bool
  closeError : Option Reason
  goawayReceived : Bool
  highestPromised : Int
  ready : Promise Unit
  /-- How many stream objects there are. -/
  made : Nat
  objects : Nat → H2Stream
  calls : Nat → Call
  /-- Whether the signal of a call is aborted. -/
  aborted : Nat → Bool
  /-- The stream object that the abort listener of a call is for. -/
  listeners : Nat → Option Nat
  /-- The promised ids that `onPush` got. -/
  pushes : List Int
  /-- How many calls of `close` wait for their GOAWAY. -/
  closing : Nat
  /-- The answers of pings, without their round-trip times. -/
  answers : Nat → Promise Unit
  /-- The frames queued for writing after the preface. -/
  out : List Frame

namespace H2Connection

variable {D : Type}

/-! ## Writing -/

def send (c : H2Connection D) (frame : Frame) : H2Connection D :=
  if c.closedFlag then c else { c with out := c.out ++ [frame] }

/-- Change a stream object. -/
def modify (c : H2Connection D) (k : Nat) (f : H2Stream → H2Stream) : H2Connection D :=
  { c with objects := Function.update c.objects k (f (c.objects k)) }

def setCall (c : H2Connection D) (i : Nat) (call : Call) : H2Connection D :=
  { c with calls := Function.update c.calls i call }

/-! ## Stream slots -/

def activeStreams (c : H2Connection D) : Nat := c.streams.keys.countP fun id => id.tmod 2 == 1

def canOpenStream (c : H2Connection D) : Bool :=
  match c.remote.maxConcurrentStreams with
  | none => true
  | some max => (c.activeStreams : Int) < max

/-- Wake every parked request. -/
def wakeStreamSlots (c : H2Connection D) : H2Connection D := { c with streamSlotWaiters := [] }

/-! ## Teardown -/

/-- Delete an entry of the map. -/
def deleteStream (c : H2Connection D) (id : Int) : H2Connection D :=
  { c with streams := c.streams.erase id }

def resetStream (c : H2Connection D) (id : Int) (code : ErrorCode) : H2Connection D :=
  let reset := c.send (.rstStream id code.value.toNat)
  match c.streams.lookup id with
  | none => reset
  | some k =>
      (reset.deleteStream id).wakeStreamSlots.modify k
        (·.fail (.thrown (.h2 code ("stream " ++ toString id ++ " reset") (some id))))

/-- Drop a stream once both directions have ended. -/
def retireIfFullyClosed (c : H2Connection D) (id : Int) : H2Connection D :=
  match c.streams.lookup id with
  | none => c
  | some k =>
      if (c.objects k).localClosed && (c.objects k).remoteClosed then
        (c.deleteStream id).wakeStreamSlots
      else c

/-- Return bytes to the receive windows. -/
def replenishRecvWindow (c : H2Connection D) (id : Int) (n : Nat) : H2Connection D :=
  if c.closedFlag || n == 0 then c
  else
    let c := if id ∈ c.streams then c.send (.windowUpdate id n) else c
    c.send (.windowUpdate 0 n)

/-- Fail stream objects. -/
def failAll (c : H2Connection D) (ks : List Nat) (err : Reason) : H2Connection D :=
  { c with objects := fun k => if k ∈ ks then (c.objects k).fail err else c.objects k }

def destroy (c : H2Connection D) (err : Reason) : H2Connection D :=
  if c.closedFlag then c
  else
    let c := { c with
      closedFlag := true
      closeError := some err
      connSendWindow := c.connSendWindow.close }
    let c := c.failAll (c.streams.entries.map Sigma.snd) err
    let c := { c with streams := ∅ }.wakeStreamSlots
    let waiting := c.pings.entries.map Sigma.snd
    { c with
      pings := ∅
      answers := fun j => if j ∈ waiting then .rejected err else c.answers j }

/-- GOAWAY, then tear down. -/
def connectionError (c : H2Connection D) (thrown : Thrown) : H2Connection D :=
  (c.send (.goaway c.highestPromised thrown.code.value.toNat [])).destroy (.thrown thrown)

/-! ## Settings -/

/-- The state after a part of `dispatch`, and whether it threw. -/
abbrev Outcome (D : Type) := H2Connection D × Except Thrown Unit

def applyInitialWindowSize (c : H2Connection D) : Option Int → Outcome D
  | none => (c, .ok ())
  | some size =>
      if size > 0x7fffffff then
        (c, .error (.h2 .flowControlError "SETTINGS_INITIAL_WINDOW_SIZE exceeds 2^31-1" none))
      else
        let delta := size - c.remote.initialWindowSize
        let open_ := c.streams.entries.map Sigma.snd
        ({ c with
          remote := { c.remote with initialWindowSize := size }
          objects := fun k =>
            if k ∈ open_ then { c.objects k with sendWindow := (c.objects k).sendWindow.adjust delta }
            else c.objects k }, .ok ())

def applyMaxFrameSize (c : H2Connection D) : Option Int → Outcome D
  | none => (c, .ok ())
  | some size =>
      if size < 16384 || size > 16777215 then
        (c, .error (.h2 .protocolError "SETTINGS_MAX_FRAME_SIZE out of range" none))
      else ({ c with remote := { c.remote with maxFrameSize := size } }, .ok ())

/-- The settings that cannot fail. -/
def applyOtherSettings (c : H2Connection D) (s : Settings) : H2Connection D :=
  let c := { c with remote := { c.remote with
    headerTableSize := s.headerTableSize.getD c.remote.headerTableSize
    enablePush := s.enablePush.getD c.remote.enablePush } }
  match s.maxConcurrentStreams with
  | none => c
  | some max =>
      { c with remote := { c.remote with maxConcurrentStreams := some max } }.wakeStreamSlots

def applyRemoteSettings (c : H2Connection D) (s : Settings) : Outcome D :=
  match c.applyInitialWindowSize s.initialWindowSize with
  | (c, .error thrown) => (c, .error thrown)
  | (c, .ok ()) =>
      match c.applyMaxFrameSize s.maxFrameSize with
      | (c, .error thrown) => (c, .error thrown)
      | (c, .ok ()) => (c.applyOtherSettings s, .ok ())

/-! ## Header blocks -/

/-- Put a stream object into the map. -/
def addStream (c : H2Connection D) (s : H2Stream) : H2Connection D :=
  { c with
    made := c.made + 1
    objects := Function.update c.objects c.made s
    streams := c.streams.insert s.id c.made }

/-- A pushed stream is closed on our side from the start. -/
def pushedStream (c : H2Connection D) (promisedId : Int) : H2Stream :=
  { H2Stream.new promisedId c.remote.initialWindowSize true with localClosed := true }

def handlePush (c : H2Connection D) (promisedId : Int) : H2Connection D :=
  let c := if promisedId > c.highestPromised then { c with highestPromised := promisedId } else c
  if !c.onPush then c.send (.rstStream promisedId ErrorCode.refusedStream.value.toNat)
  else
    let c := c.addStream (c.pushedStream promisedId)
    { c with pushes := c.pushes ++ [promisedId] }

/-- A decoded response block goes to its stream. -/
def receiveResponse (c : H2Connection D) (id : Int) (headers : List Header) (endStream : Bool) :
    H2Connection D :=
  match c.streams.lookup id with
  | none => c
  | some k =>
      let c := c.modify k (·.receiveHeaders headers endStream)
      if endStream then
        (c.modify k fun s => { s with remoteClosed := true }).retireIfFullyClosed id
      else c

/-- What a decoded block does. -/
def takeHeaderBlock (c : H2Connection D) (pb : PendingHeaderBlock) (headers : List Header) :
    H2Connection D :=
  match pb.kind with
  | .response => c.receiveResponse pb.streamId headers pb.endStream
  | .push => c.handlePush pb.promisedStreamId

def completeHeaderBlock (coder : Coder D) (c : H2Connection D) (pb : PendingHeaderBlock) : Outcome D :=
  let decoded := coder.decode c.decoder pb.fragments.flatten
  let c := { c with pendingHeaderBlock := none, decoder := decoded.1 }
  match decoded.2 with
  | .error thrown => (c, .error thrown)
  | .ok headers => (c.takeHeaderBlock pb headers, .ok ())

/-- Store a header block that has grown, check it, and complete it at its end. -/
def growHeaderBlock (coder : Coder D) (c : H2Connection D) (pb : PendingHeaderBlock)
    (endHeaders : Bool) : Outcome D :=
  let c := { c with pendingHeaderBlock := some pb }
  if pb.size > MAX_HEADER_BLOCK_SIZE then
    (c, .error (.h2 .enhanceYourCalm "header block exceeds the maximum size" none))
  else if endHeaders then c.completeHeaderBlock coder pb
  else (c, .ok ())

/-! ## Dispatch -/

def receiveData (c : H2Connection D) (id : Int) (data : Bytes) (endStream : Bool) : H2Connection D :=
  match c.streams.lookup id with
  | some k =>
      let c := c.modify k (·.receiveData data endStream)
      if endStream then
        (c.modify k fun s => { s with remoteClosed := true }).retireIfFullyClosed id
      else c
  | none => if 0 < data.length then c.send (.windowUpdate 0 data.length) else c

def receiveRstStream (c : H2Connection D) (id errorCode : Int) : H2Connection D :=
  match c.streams.lookup id with
  | none => c
  | some k => (c.modify k (·.receiveReset errorCode)).deleteStream id

def receiveWindowUpdate (c : H2Connection D) (id increment : Int) : Outcome D :=
  if increment = 0 then
    if id = 0 then (c, .error (.h2 .protocolError "zero WINDOW_UPDATE" none))
    else (c.resetStream id .protocolError, .ok ())
  else if id = 0 then
    ({ c with connSendWindow := c.connSendWindow.update increment }, .ok ())
  else
    match c.streams.lookup id with
    | none => (c, .ok ())
    | some k =>
        (c.modify k fun s => { s with sendWindow := s.sendWindow.update increment }, .ok ())

def receivePing (c : H2Connection D) (ack : Bool) (opaqueData : Bytes) : H2Connection D :=
  if ack then
    match c.pings.lookup opaqueData with
    | none => c
    | some j => { c with
        pings := c.pings.erase opaqueData
        answers := Function.update c.answers j (.resolved ()) }
  else c.send (.ping true opaqueData)

def receiveGoaway (c : H2Connection D) (lastStreamId errorCode : Int) : H2Connection D :=
  let c := { c with goawayReceived := true }
  let code := (ErrorCode.fromValue (UInt32.ofInt errorCode)).getD .noError
  let err := Reason.thrown (.h2 code "peer sent GOAWAY" none)
  let above := c.streams.keys.filter (lastStreamId < ·)
  let c := c.failAll (above.filterMap c.streams.lookup) err
  let c := above.foldl deleteStream c
  let c := c.wakeStreamSlots
  if errorCode ≠ 0 then c.destroy err else c

def isContinuation : Frame → Bool
  | .continuation .. => true
  | _ => false

/-- A frame that is allowed to come now. -/
def dispatchFrame (coder : Coder D) (c : H2Connection D) : Frame → Outcome D
  | .settings ack settings =>
      if ack then (c, .ok ())
      else
        match c.applyRemoteSettings settings with
        | (c, .error thrown) => (c, .error thrown)
        | (c, .ok ()) => (c.send (.settings true {}), .ok ())
  | .headers id fragment endStream endHeaders _ =>
      c.growHeaderBlock coder ⟨id, .response, endStream, 0, [fragment], fragment.length⟩ endHeaders
  | .continuation id fragment endHeaders =>
      match c.pendingHeaderBlock with
      | none => (c, .error (.h2 .protocolError "unexpected CONTINUATION" none))
      | some pb =>
          if pb.streamId = id then
            c.growHeaderBlock coder { pb with
              fragments := pb.fragments ++ [fragment]
              size := pb.size + fragment.length } endHeaders
          else (c, .error (.h2 .protocolError "unexpected CONTINUATION" none))
  | .pushPromise id promised fragment endHeaders =>
      c.growHeaderBlock coder ⟨id, .push, false, promised, [fragment], fragment.length⟩ endHeaders
  | .data id data endStream => (c.receiveData id data endStream, .ok ())
  | .rstStream id errorCode => (c.receiveRstStream id errorCode, .ok ())
  | .windowUpdate id increment => c.receiveWindowUpdate id increment
  | .ping ack opaqueData => (c.receivePing ack opaqueData, .ok ())
  | .goaway lastStreamId errorCode _ => (c.receiveGoaway lastStreamId errorCode, .ok ())
  | .priority _ _ => (c, .ok ())

/-- A pending header block only allows CONTINUATION frames. -/
def dispatch (coder : Coder D) (c : H2Connection D) (frame : Frame) : Outcome D :=
  if c.pendingHeaderBlock.isSome && !isContinuation frame then
    (c, .error (.h2 .protocolError "expected CONTINUATION frame" none))
  else c.dispatchFrame coder frame

def onFrame (coder : Coder D) (c : H2Connection D) (frame : Frame) : H2Connection D :=
  match c.dispatch coder frame with
  | (c, .ok ()) => c
  | (c, .error thrown) => c.connectionError thrown

/-! ## Requests -/

/-- The error of the checks at the top of `request` and in its loop. -/
def refusal (c : H2Connection D) : Option Reason :=
  if c.closedFlag then
    some (c.closeError.getD (.thrown (.h2 .internalError "connection closed" none)))
  else if c.goawayReceived then
    some (.thrown (.h2 .refusedStream "connection is going away" none))
  else none

/-- The CONTINUATION frames of the rest of a block. -/
def continuationFrames (id : Int) (max : Nat) : Nat → Bytes → List Frame
  | 0, _ => []
  | fuel + 1, rest =>
      if rest.isEmpty then []
      else
        .continuation id (rest.take max) (rest.length ≤ max) ::
          continuationFrames id max fuel (rest.drop max)

def headerFrames (id : Int) (max : Nat) (block : Bytes) (endStream : Bool) : List Frame :=
  if block.length ≤ max then [.headers id block endStream true none]
  else
    .headers id (block.take max) endStream false none ::
      continuationFrames id max block.length (block.drop max)

def sendHeaders (c : H2Connection D) (id : Int) (block : Bytes) (endStream : Bool) : H2Connection D :=
  (headerFrames id c.remote.maxFrameSize.toNat block endStream).foldl send c

/-- The value that `abortError` gives for the signal of a call. -/
def abortError (i : Nat) : Reason := .external i

/-- Reserve the slot: the stream goes into the map. -/
def reserve (c : H2Connection D) : H2Connection D :=
  let s := H2Stream.new c.nextStreamId c.remote.initialWindowSize false
  { c with nextStreamId := c.nextStreamId + 2 }.addStream s

/-- The rest of `request` up to the await of the head. -/
def issue (coder : Coder D) (c : H2Connection D) (i k : Nat) (id : Int) (init : H2RequestInit) :
    H2Connection D :=
  let body := init.request.body
  let c := if init.signal then { c with listeners := Function.update c.listeners i (some k) } else c
  let c := c.sendHeaders id (coder.encode init.request.headers) body.isEmpty
  let c := c.modify k fun s => { s with
    localClosed := body.isEmpty
    pump := if body.isEmpty then .none else .pulling body.chunks }
  c.setCall i (.awaitingHead k)

/-- The part of `request` after its loop. -/
def openStream (coder : Coder D) (c : H2Connection D) (i : Nat) (init : H2RequestInit) :
    H2Connection D :=
  if init.signal && c.aborted i then
    (c.reserve.resetStream c.nextStreamId .cancel).setCall i (.rejected (abortError i))
  else c.reserve.issue coder i c.made c.nextStreamId init

/-- The loop of `request`, up to an await. -/
def tryOpen (coder : Coder D) (c : H2Connection D) (i : Nat) (init : H2RequestInit) :
    H2Connection D :=
  if c.canOpenStream then c.openStream coder i init
  else
    match c.refusal with
    | some reason => c.setCall i (.rejected reason)
    | none => { c with streamSlotWaiters := c.streamSlotWaiters ++ [i] }.setCall i (.parked init)

def request (c : H2Connection D) (i : Nat) (init : H2RequestInit) : H2Connection D :=
  match c.calls i with
  | .idle =>
      match c.refusal with
      | some reason => c.setCall i (.rejected reason)
      | none => c.setCall i (.awaitingReady init)
  | _ => c

/-- Resume a call. -/
def resume (coder : Coder D) (c : H2Connection D) (i : Nat) : H2Connection D :=
  match c.calls i with
  | .awaitingReady init =>
      match c.ready with
      | .pending => c
      | .resolved () => c.tryOpen coder i init
      | .rejected reason => c.setCall i (.rejected reason)
  | .parked init => if i ∈ c.streamSlotWaiters then c else c.tryOpen coder i init
  | .awaitingHead k =>
      match (c.objects k).head with
      | .pending => c
      | .resolved _ => c.setCall i (.responded k)
      | .rejected reason => c.setCall i (.rejected reason)
  | _ => c

/-- The signal of a call is aborted. -/
def abort (c : H2Connection D) (i : Nat) : H2Connection D :=
  let c := { c with aborted := Function.update c.aborted i true }
  match c.listeners i with
  | none => c
  | some k =>
      let c := { c with listeners := Function.update c.listeners i none }
      let id := (c.objects k).id
      if id ∈ c.streams then (c.modify k (·.fail (abortError i))).resetStream id .cancel else c

/-! ## Uploads -/

def setPump (c : H2Connection D) (k : Nat) (pump : Pump) : H2Connection D :=
  c.modify k fun s => { s with pump := pump }

/-- The top of the inner loop of `pumpBody`. -/
def pumpChunk (c : H2Connection D) (k : Nat) (chunk : Bytes) (offset : Nat) (rest : List Bytes) :
    H2Connection D :=
  if offset < chunk.length then
    if c.closedFlag || (c.objects k).sendWindow.closed then c.setPump k .none
    else c.setPump k (.waitConn chunk offset rest)
  else c.setPump k (.pulling rest)

/-- Both windows have been waited for. -/
def pumpSend (c : H2Connection D) (k : Nat) (chunk : Bytes) (offset : Nat) (rest : List Bytes) :
    H2Connection D :=
  let s := c.objects k
  if c.closedFlag || s.sendWindow.closed then c.setPump k .none
  else
    let grant := min (min (min ((chunk.length : Int) - offset) c.connSendWindow.available)
      s.sendWindow.available) c.remote.maxFrameSize
    if grant ≤ 0 then c.pumpChunk k chunk offset rest
    else
      let slice := (chunk.drop offset).take grant.toNat
      let c := { c with connSendWindow := c.connSendWindow.consume grant }
      let c := c.modify k fun s => { s with sendWindow := s.sendWindow.consume grant }
      (c.send (.data s.id slice false)).setPump k (.sending chunk (offset + grant.toNat) rest)

/-- One section of `pumpBody`. -/
def pump (c : H2Connection D) (k : Nat) : H2Connection D :=
  let s := c.objects k
  match s.pump with
  | .none => c
  | .pulling [] =>
      if c.closedFlag || s.sendWindow.closed || s.id ∉ c.streams then c.setPump k .none
      else (c.send (.data s.id [] true)).setPump k .ending
  | .pulling (chunk :: rest) => c.pumpChunk k chunk 0 rest
  | .waitConn chunk offset rest => c.setPump k (.waitStream chunk offset rest)
  | .waitStream chunk offset rest => c.pumpSend k chunk offset rest
  | .sending chunk offset rest => c.pumpChunk k chunk offset rest
  | .ending =>
      (c.modify k fun s => { s with localClosed := true, pump := .none }).retireIfFullyClosed s.id

/-- `pumpBody` rejects: the body fails, or a write does. -/
def pumpThrow (c : H2Connection D) (k : Nat) (reason : Reason) : H2Connection D :=
  let s := c.objects k
  match s.pump with
  | .pulling _ | .sending .. | .ending =>
      let c := c.modify k fun s => { s.fail reason with pump := .none }
      if s.id ∈ c.streams then c.resetStream s.id .cancel else c
  | _ => c

/-! ## Bodies and pushes -/

/-- The response of a stream is out, and its body can be read. -/
def bodyOpen (c : H2Connection D) (k : Nat) : Bool :=
  match (c.objects k).head with
  | .resolved _ => !(c.objects k).bodyDone
  | _ => false

/-- `pullBody`. -/
def pull (c : H2Connection D) (k : Nat) : H2Connection D :=
  let s := c.objects k
  if c.bodyOpen k then
    match s.recvQueue with
    | chunk :: queue =>
        let c := c.modify k fun s => { s with
          recvQueue := queue
          recvBuffered := s.recvBuffered - chunk.length }
        c.replenishRecvWindow s.id chunk.length
    | [] =>
        if s.recvError.isSome || s.recvEnded then c.modify k fun s => { s with bodyDone := true }
        else c
  else c

/-- `cancelBody`. -/
def cancel (c : H2Connection D) (k : Nat) : H2Connection D :=
  let s := c.objects k
  if c.bodyOpen k then
    let c := c.modify k fun s => { s with bodyDone := true, recvBuffered := 0, recvQueue := [] }
    let c := c.replenishRecvWindow s.id s.recvBuffered
    if s.live && s.id ∈ c.streams then c.resetStream s.id .cancel else c
  else c

/-- `push.cancel()`. -/
def cancelPush (c : H2Connection D) (j : Nat) : H2Connection D :=
  match c.pushes[j]? with
  | none => c
  | some id => c.resetStream id .cancel

/-! ## Pings and close -/

/-- The opaque bytes of a ping: four zeros and the counter. -/
def pingData (n : Nat) : Bytes := [0, 0, 0, 0] ++ ByteWriter.u32 n

def ping (c : H2Connection D) : H2Connection D :=
  let n := c.pingCounter + 1
  let c := { c with pingCounter := n }
  if c.closedFlag then
    let reason := c.closeError.getD (.thrown (.h2 .internalError "connection closed" none))
    { c with answers := Function.update c.answers n (.rejected reason) }
  else
    { c with pings := c.pings.insert (pingData n) n }.send (.ping false (pingData n))

def close (c : H2Connection D) : H2Connection D :=
  if c.closedFlag then c
  else { c.send (.goaway c.highestPromised 0 []) with closing := c.closing + 1 }

/-- `close` resumes when its GOAWAY is written, or failed. -/
def finishClose (c : H2Connection D) : H2Connection D :=
  if c.closing = 0 then c
  else { c with closing := c.closing - 1 }.destroy
    (.thrown (.h2 .noError "connection closed by client" none))

/-- A write fails.  `ready` is the first one. -/
def writeFailed (c : H2Connection D) (reason : Reason) : H2Connection D :=
  let c := if c.ready = .pending then { c with ready := .rejected reason } else c
  c.destroy reason

/-- The SETTINGS frame is written. -/
def written (c : H2Connection D) : H2Connection D :=
  if c.ready = .pending then { c with ready := .resolved () } else c

end H2Connection

/-! ## The machine -/

/-- A synchronous section. -/
inductive Action where
  /-- A frame is dispatched. -/
  | frame (frame : Frame)
  /-- The frame decoder, or `onPush`, throws. -/
  | corrupt (thrown : Thrown)
  /-- The transport ends. -/
  | transportClosed
  /-- A read fails. -/
  | readFailed (reason : Reason)
  | writeFailed (reason : Reason)
  | written
  | request (i : Nat) (init : H2RequestInit)
  | resume (i : Nat)
  | abort (i : Nat)
  | pump (k : Nat)
  | pumpThrow (k : Nat) (reason : Reason)
  | pull (k : Nat)
  | cancel (k : Nat)
  | cancelPush (j : Nat)
  | ping
  | close
  | finishClose
deriving DecidableEq

namespace H2Connection

variable {D : Type}

def step (coder : Coder D) (c : H2Connection D) : Action → H2Connection D
  | .frame frame => c.onFrame coder frame
  | .corrupt thrown => c.connectionError thrown
  | .transportClosed => c.destroy (.thrown (.h2 .noError "transport closed by peer" none))
  | .readFailed reason => c.destroy reason
  | .writeFailed reason => c.writeFailed reason
  | .written => c.written
  | .request i init => c.request i init
  | .resume i => c.resume coder i
  | .abort i => c.abort i
  | .pump k => c.pump k
  | .pumpThrow k reason => c.pumpThrow k reason
  | .pull k => c.pull k
  | .cancel k => c.cancel k
  | .cancelPush j => c.cancelPush j
  | .ping => c.ping
  | .close => c.close
  | .finishClose => c.finishClose

end H2Connection

/-- `ConnectOptions`; absent ones have defaults. -/
structure ConnectOptions where
  headerTableSize : Int := 4096
  enablePush : Bool := true
  initialWindowSize : Int := 1024 * 1024
  maxFrameSize : Int := 16384
  connectionWindowSize : Int := 64 * 1024 * 1024
  onPush : Bool := false
deriving DecidableEq, Repr

/-- The fields of a new connection, with the decoder it makes. -/
def H2Connection.fresh {D : Type} (decoder : D) (onPush : Bool) : H2Connection D where
  onPush := onPush
  decoder := decoder
  streams := ∅
  nextStreamId := 1
  connSendWindow := .new SPEC_INITIAL_WINDOW
  remote := .default
  streamSlotWaiters := []
  pendingHeaderBlock := none
  pings := ∅
  pingCounter := 0
  closedFlag := false
  closeError := none
  goawayReceived := false
  highestPromised := 0
  ready := .pending
  made := 0
  objects := fun _ => .new 0 0 true
  calls := fun _ => .idle
  aborted := fun _ => false
  listeners := fun _ => none
  pushes := []
  closing := 0
  answers := fun _ => .pending
  out := []

/-- The constructor. -/
def connect {D : Type} (decoder : D) (options : ConnectOptions) : H2Connection D :=
  let c := (H2Connection.fresh decoder options.onPush).send (.settings false {
    headerTableSize := some options.headerTableSize
    enablePush := some options.enablePush
    initialWindowSize := some options.initialWindowSize
    maxFrameSize := some options.maxFrameSize })
  let connGrow := options.connectionWindowSize - SPEC_INITIAL_WINDOW
  if connGrow > 0 then c.send (.windowUpdate 0 connGrow) else c

/-- The connection after a list of actions. -/
def after {D : Type} (coder : Coder D) (decoder : D) (options : ConnectOptions)
    (actions : List Action) : H2Connection D :=
  Machine.run (H2Connection.step coder) (connect decoder options) actions

end Typescript

end H2ts
