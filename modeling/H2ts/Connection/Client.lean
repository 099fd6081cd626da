import H2ts.Connection.Dispatch
import H2ts.Lib.Machine

/-!
# The client

`connect`, the calls of `H2Connection` and the futures they leave behind:
`request`, the upload pump, the `ResponseBody`, `ping` and `close`.

A step of the client is one synchronous section of the source, between two awaits
(`Action`).  The executor may run the sections in any order, so a run is any list
of actions; an action that is not enabled changes nothing.  A pump may be polled
without a wake-up and frames may be dispatched after the teardown, which adds
runs and takes none away.
-/

namespace H2ts

open Hpack

namespace Client

def connectionClosed : H2Error := .new .internalError "connection closed"

/-! ## Requests -/

/-- The error a new request gets, if the connection is closed or going away. -/
def unavailable (c : Client) : Option H2Error :=
  if c.closed then some (c.closeError.getD connectionClosed)
  else if c.goawayReceived then some (.new .refusedStream "connection is going away")
  else none

/-- The CONTINUATION frames of the rest of a block.  Each takes at least a byte,
so the length of the rest is fuel enough. -/
def continuationFrames (id : UInt32) (max : Nat) : Nat → Bytes → List Frame
  | 0, _ => []
  | fuel + 1, rest =>
      if rest.isEmpty then []
      else
        .continuation id (rest.take max) (rest.length ≤ max) ::
          continuationFrames id max fuel (rest.drop max)

/-- The frames of a header block: one HEADERS, and CONTINUATION frames for what
does not fit. -/
def headerFrames (id : UInt32) (max : Nat) (block : Bytes) (endStream : Bool) : List Frame :=
  if block.length ≤ max then [.headers id block endStream true none]
  else
    .headers id (block.take max) endStream false none ::
      continuationFrames id max block.length (block.drop max)

def sendHeaders (c : Client) (id : UInt32) (block : Bytes) (endStream : Bool) : Client :=
  (headerFrames id c.remote.maxFrameSize block endStream).foldl sendFrame c

/-- The cells of a stream just opened. -/
def newCell (id : UInt32) (body : RequestBody) : Cell where
  id := id
  recv := .default
  trailers := none
  head := .empty
  pump := if body.isEmpty then .idle else .pulling body.chunks
  parked := false
  holder := .awaiting
  body := body.chunks
  yields := []

/-- Put a stream into the map.  One that had its id is dropped. -/
def insertStream (c : Client) (s : StreamState) : Client :=
  let c := match c.streams.lookup s.id with
    | none => c
    | some old => c.modifyCell old.cell old.drop
  { c with streams := c.streams.insert s.id s }

/-- The stream of a request.  Without a body it half-closes immediately. -/
def newStream (c : Client) (body : RequestBody) : StreamState :=
  { StreamState.new c.nextStreamId c.remote.initialWindowSize c.opened with
    headTx := true
    localClosed := body.isEmpty }

/-- Allocate an id and put the stream into the map. -/
def registerStream (c : Client) (i : Nat) (body : RequestBody) : Client :=
  let id := c.nextStreamId
  let k := c.opened
  let s := c.newStream body
  let c := { c with nextStreamId := id + 2, opened := k + 1 }.insertStream s
  let c := c.modifyCell k fun _ => newCell id body
  { c with calls := Function.update c.calls i (.awaiting k) }.record (.opened id)

/-- Open a stream and send its HEADERS. -/
def openStream (c : Client) (i : Nat) (request : Request) : Client :=
  (c.registerStream i request.body).sendHeaders c.nextStreamId (encode request.headers)
    request.body.isEmpty

/-- The section of `request` up to its next await: refuse, open a stream or
park. -/
def tryOpen (c : Client) (i : Nat) (request : Request) : Client :=
  match c.unavailable with
  | some err => { c with calls := Function.update c.calls i (.refused err) }
  | none =>
      if c.canOpenStream then c.openStream i request
      else { c with
        slotWaiters := c.slotWaiters ++ [i]
        calls := Function.update c.calls i (.parked request) }

def request (c : Client) (request : Request) : Client :=
  { c with called := c.called + 1 }.tryOpen c.called request

/-- The call of a stream ends, and leaves the `ResponseBody` or nothing. -/
def settle (c : Client) (i k : Nat) (call : Call) (holder : Holder) : Client :=
  { c with calls := Function.update c.calls i call }.modifyCell k fun cell =>
    { cell with holder := holder }

/-- Resume a call: one that was woken asks for a slot again, and one whose head
has arrived ends. -/
def pollCall (c : Client) (i : Nat) : Client :=
  match c.calls i with
  | .parked request => if i ∈ c.slotWaiters then c else c.tryOpen i request
  | .awaiting k =>
      match (c.cells k).head with
      | .empty => c
      | .sent (.ok head) => c.settle i k (.responded head k) .reading
      | .sent (.error err) => c.settle i k (.refused err) .gone
      | .canceled => c.settle i k (.refused (c.closeError.getD connectionClosed)) .gone
  | _ => c

/-- The caller drops the future of `request`.  It owns nothing whose drop reaches
the connection. -/
def dropCall (c : Client) (i : Nat) : Client :=
  match c.calls i with
  | .parked _ => { c with calls := Function.update c.calls i .dropped }
  | .awaiting k => c.settle i k .dropped .gone
  | _ => c

/-! ## Uploads -/

def setPump (c : Client) (k : Nat) (pump : Pump) (parked : Bool) : Client :=
  c.modifyCell k fun cell => { cell with pump := pump, parked := parked }

/-- How many bytes may go into the next DATA frame. -/
def grant (c : Client) (s : StreamState) (remaining : Nat) : Int :=
  min (min (min (remaining : Int) c.connSendWindow.value) s.sendWindow.value) c.remote.maxFrameSize

/-- Wait for a window that is not ready. -/
def registerWakers (c : Client) (id : UInt32) (s : StreamState) (k : Nat) : Client :=
  let c := if c.connSendWindow.isReady then c
    else { c with connSendWindow := c.connSendWindow.registerWaker k }
  if s.sendWindow.isReady then c
  else c.modifyStream id fun s => { s with sendWindow := s.sendWindow.registerWaker k }

/-- Take `n` bytes off both windows and send them. -/
def sendData (c : Client) (id : UInt32) (data : Bytes) : Client :=
  let n : Int := data.length
  let c := { c with connSendWindow := c.connSendWindow.consume n }
  let c := c.modifyStream id fun s => { s with sendWindow := s.sendWindow.consume n }
  c.sendFrame (.data id data false)

/-- One round of `pump_chunk`. -/
def pumpChunk (c : Client) (k : Nat) (chunk : Bytes) (offset : Nat) (rest : List Bytes) : Client :=
  let id := (c.cells k).id
  match c.streams.lookup id with
  | none => c.setPump k (.finished false) false
  | some s =>
      if c.closed then c.setPump k (.finished false) false
      else if c.connSendWindow.isReady && s.sendWindow.isReady then
        if s.sendWindow.isClosed then c.setPump k (.finished false) false
        else
          let n := c.grant s (chunk.length - offset)
          if n ≤ 0 then c.setPump k (.sending chunk offset rest) false
          else
            let c := c.sendData id ((chunk.drop offset).take n.toNat)
            let offset := offset + n.toNat
            c.setPump k (if offset < chunk.length then .sending chunk offset rest
              else .pulling rest) false
      else (c.registerWakers id s k).setPump k (.sending chunk offset rest) true

/-- The end of the body: half-close a stream that is still live. -/
def finishUpload (c : Client) (k : Nat) : Client :=
  let id := (c.cells k).id
  if id ∈ c.streams then
    let c := c.sendFrame (.data id [] true)
    let c := c.modifyStream id fun s => { s with localClosed := true }
    let c := c.setPump k (.finished true) false
    c.retireIfFullyClosed id
  else c.setPump k (.finished false) false

/-- One section of `pump_body`. -/
def pump (c : Client) (k : Nat) : Client :=
  match (c.cells k).pump with
  | .idle => c
  | .pulling [] => c.finishUpload k
  | .pulling (chunk :: rest) =>
      c.setPump k (if chunk.isEmpty then .pulling rest else .sending chunk 0 rest) false
  | .sending chunk offset rest => c.pumpChunk k chunk offset rest
  | .finished _ => c

/-! ## Response bodies -/

/-- The body yields. -/
def yieldTo (c : Client) (k : Nat) (recv : RecvState) (result : Yield) : Client :=
  c.modifyCell k fun cell => { cell with recv := recv, yields := cell.yields ++ [result] }

/-- `ResponseBody::poll_next`. -/
def read (c : Client) (k : Nat) : Client :=
  let cell := c.cells k
  let recv := cell.recv
  if cell.holder = .reading then
    match recv.queue with
    | chunk :: queue =>
        let c := c.yieldTo k
          { recv with queue := queue, buffered := recv.buffered - chunk.length } (.chunk chunk)
        c.replenishRecvWindow cell.id chunk.length
    | [] =>
        match recv.error with
        | some err => c.yieldTo k { recv with error := none } (.failed err)
        | none =>
            if recv.ended then c.yieldTo k recv .done
            else c.modifyCell k fun cell => { cell with recv := { recv with waker := true } }
  else c

/-- Drop a `ResponseBody`. -/
def dropBody (c : Client) (k : Nat) : Client :=
  let cell := c.cells k
  if cell.holder = .reading then
    let c := c.modifyCell k fun cell => { cell with holder := .gone }
    let c := c.replenishRecvWindow cell.id cell.recv.buffered
    if cell.recv.ended then c else c.resetStream cell.id .cancel
  else c

/-! ## Pings and close -/

/-- The opaque bytes of a ping: four zeros and the counter. -/
def pingData (counter : UInt32) : OpaqueData := ⟨[0, 0, 0, 0] ++ BigEndian.be32 counter, rfl⟩

def answer (c : Client) (j : Nat) (result : Oneshot (Except H2Error Unit)) : Client :=
  { c with answers := Function.update c.answers j result }

def ping (c : Client) : Client :=
  let j := c.pinged
  let c := { c with pinged := j + 1 }
  if c.closed then c.answer j (.sent (.error (c.closeError.getD connectionClosed)))
  else
    let counter := c.pingCounter + 1
    let data := pingData counter
    -- A waiter with the same opaque value is dropped.
    let c := match c.pings.lookup data with
      | none => c
      | some old => c.answer old .canceled
    let c := { c with pingCounter := counter, pings := c.pings.insert data j }.answer j .empty
    c.sendFrame (.ping false data)

def close (c : Client) : Client :=
  if c.closed then c
  else
    (c.sendFrame (.goaway c.highestPromised 0 [])).destroy
      (.new .noError "connection closed by client")

end Client

/-! ## The machine -/

/-- A synchronous section. -/
inductive Action where
  /-- A frame is dispatched. -/
  | frame (frame : Frame)
  /-- The frame decoder fails. -/
  | corrupt (err : H2Error)
  /-- The transport ends. -/
  | transportClosed
  /-- The transport refuses a write. -/
  | writeFailed
  | request (request : Request)
  | pollCall (i : Nat)
  | dropCall (i : Nat)
  | pump (k : Nat)
  | read (k : Nat)
  | dropBody (k : Nat)
  | ping
  | close
deriving DecidableEq

namespace Client

def step (c : Client) : Action → Client
  | .frame frame => c.onFrame frame
  | .corrupt err => c.connectionError err
  | .transportClosed => c.destroy (.new .noError "transport closed by peer")
  | .writeFailed => c.destroy (.new .internalError "transport write failed")
  | .request request => c.request request
  | .pollCall i => c.pollCall i
  | .dropCall i => c.dropCall i
  | .pump k => c.pump k
  | .read k => c.read k
  | .dropBody k => c.dropBody k
  | .ping => c.ping
  | .close => c.close

end Client

/-- `H2Connection::connect` options; absent ones have defaults. -/
structure ConnectOptions where
  headerTableSize : Option Nat := none
  enablePush : Option Bool := none
  initialWindowSize : Option UInt32 := none
  maxFrameSize : Option Nat := none
  connectionWindowSize : Option UInt32 := none
deriving DecidableEq, Repr

/-- `PRI * HTTP/2.0`, an empty line, `SM` and an empty line. -/
def CONNECTION_PREFACE : Bytes := Utf8.octets "PRI * HTTP/2.0\r\n\r\nSM\r\n\r\n"

/-- The cell of a stream that was not opened. -/
def Cell.unused : Cell where
  id := 0
  recv := .default
  trailers := none
  head := .empty
  pump := .idle
  parked := false
  holder := .gone
  body := []
  yields := []

/-- A client before anything is sent. -/
def Client.fresh (headerTableSize : Nat) : Client where
  outTx := true
  decoder := .new headerTableSize
  streams := ∅
  nextStreamId := 1
  connSendWindow := .new SPEC_INITIAL_WINDOW
  remote := .default
  pendingHeaderBlock := none
  pings := ∅
  pingCounter := 0
  slotWaiters := []
  closed := false
  closeError := none
  goawayReceived := false
  highestPromised := 0
  opened := 0
  cells := fun _ => .unused
  called := 0
  calls := fun _ => .dropped
  pinged := 0
  answers := fun _ => .empty
  history := []

/-- A new connection: the preface, our SETTINGS, and the growth of the connection
receive window. -/
def connect (options : ConnectOptions) : Client :=
  let headerTableSize := options.headerTableSize.getD 4096
  let c := (Client.fresh headerTableSize).record (.preface CONNECTION_PREFACE)
  let c := c.sendFrame (.settings false {
    headerTableSize := some (UInt32.ofNat headerTableSize)
    enablePush := some (options.enablePush.getD true)
    initialWindowSize := some (options.initialWindowSize.getD (1024 * 1024))
    maxFrameSize := some (UInt32.ofNat (options.maxFrameSize.getD DEFAULT_MAX_FRAME_SIZE)) })
  let grow : Int := (options.connectionWindowSize.getD (64 * 1024 * 1024)).toNat -
    SPEC_INITIAL_WINDOW
  if grow > 0 then c.sendFrame (.windowUpdate 0 (UInt32.ofNat grow.toNat)) else c

/-- The client after a list of sections. -/
def Client.after (options : ConnectOptions) (actions : List Action) : Client :=
  Machine.run Client.step (connect options) actions

/-! ## Bytes -/

namespace Client

/-- The loop of `on_bytes`: dispatch frames up to the first error. -/
def onFrames (c : Client) : List Frame → Client
  | [] => c
  | frame :: frames =>
      match (c.dispatch frame).2 with
      | .ok () => (c.onFrame frame).onFrames frames
      | .error _ => c.onFrame frame

/-- A chunk from the transport.  The frame decoder stands beside the state here,
since only this method uses it. -/
def onBytes (d : FrameDecoder) (c : Client) (chunk : Bytes) : FrameDecoder × Client :=
  match d.push chunk with
  | (d, .error (.h2 err)) => (d, c.connectionError err)
  | (d, .error .panic) => (d, c)
  | (d, .ok frames) => (d, c.onFrames frames)

/-- The frames of a chunk are dispatched in sections of their own. -/
theorem onFrames_eq_run (c : Client) (frames : List Frame) :
    ∃ dispatched, dispatched <+: frames ∧
      c.onFrames frames = Machine.run step c (dispatched.map Action.frame) := by
  induction frames generalizing c with
  | nil => exact ⟨[], List.prefix_rfl, rfl⟩
  | cons frame frames ih =>
      rw [onFrames]
      cases (c.dispatch frame).2 with
      | ok done =>
          obtain ⟨dispatched, isPrefix, same⟩ := ih (c.onFrame frame)
          exact ⟨frame :: dispatched, (List.prefix_cons_inj frame).mpr isPrefix, same⟩
      | error fault => exact ⟨[frame], ⟨frames, rfl⟩, rfl⟩

/-- A chunk is a list of sections. -/
theorem onBytes_eq_run (d : FrameDecoder) (c : Client) (chunk : Bytes) :
    ∃ actions, (c.onBytes d chunk).2 = Machine.run step c actions := by
  rw [onBytes]
  obtain ⟨d, result⟩ := d.push chunk
  cases result with
  | ok frames =>
      obtain ⟨dispatched, -, same⟩ := c.onFrames_eq_run frames
      exact ⟨dispatched.map .frame, same⟩
  | error fault =>
      cases fault with
      | h2 err => exact ⟨[.corrupt err], rfl⟩
      | panic => exact ⟨[], rfl⟩

end Client

end H2ts
