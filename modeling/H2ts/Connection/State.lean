import H2ts.Flow
import H2ts.Frames
import H2ts.Messages

/-!
# The state of a client connection

The data of `connection.rs`.  Everything runs on one thread, so one record holds
the whole client: the fields of `ConnState`, the cells its streams share with the
caller (`Rc<RefCell<_>>` and oneshot channels in the source), and the futures in
flight.

Streams are numbered in the order they are opened.  `cells k` is what the `k`-th
stream shares with its caller and with its upload; the `StreamState` in the map
names its cell.  Calls of `request` and of `ping` are numbered the same way.

`history` is a record of the run.  The frames it holds are the content of the
outbound channel, in order.  Between them stand the inbound events, as the
connection took them.  Nothing reads the history.
-/

namespace H2ts

open Hpack

/-! ## What a stream shares with its caller -/

/-- The receive buffer, shared between the connection and the `ResponseBody`. -/
structure RecvState where
  queue : List Bytes
  /-- Bytes in the queue, not yet returned to the receive window. -/
  buffered : Nat
  ended : Bool
  error : Option H2Error
  /-- Whether a reader has parked its waker. -/
  waker : Bool
deriving DecidableEq, Repr

def RecvState.default : RecvState := ⟨[], 0, false, none, false⟩

/-- A oneshot channel: nothing sent yet, a value, or a sender dropped without
one. -/
inductive Oneshot (α : Type) where
  | empty
  | sent (value : α)
  | canceled
deriving DecidableEq, Repr

/-- Where an upload stands. -/
inductive Pump where
  /-- There is no body. -/
  | idle
  /-- Waiting for the next chunk. -/
  | pulling (rest : List Bytes)
  /-- Inside a chunk, waiting for the windows. -/
  | sending (chunk : Bytes) (offset : Nat) (rest : List Bytes)
  /-- Done, with or without END_STREAM. -/
  | finished (endStream : Bool)
deriving DecidableEq, Repr

/-- What the caller holds: the future of `request`, the `ResponseBody`, or
neither. -/
inductive Holder where
  | awaiting
  | reading
  | gone
deriving DecidableEq, Repr

/-- What a poll of a `ResponseBody` returned, unless it was pending. -/
inductive Yield where
  | chunk (data : Bytes)
  | failed (error : H2Error)
  | done
deriving DecidableEq, Repr

/-- The cells of a stream and what the caller did with them. -/
structure Cell where
  id : UInt32
  recv : RecvState
  trailers : Option HeaderMap
  head : Oneshot (Except H2Error Head)
  pump : Pump
  /-- The last poll of the upload was pending, and no waker of it has fired. -/
  parked : Bool
  holder : Holder
  /-- Record: the chunks of the request body. -/
  body : List Bytes
  /-- Record: what the body yielded so far. -/
  yields : List Yield
deriving DecidableEq

/-! ## The connection -/

structure StreamState where
  id : UInt32
  sendWindow : SendWindow
  /-- The head sender is still here. -/
  headTx : Bool
  /-- The shared cells. -/
  cell : Nat
  gotHead : Bool
  /-- We sent END_STREAM. -/
  localClosed : Bool
  /-- We received END_STREAM. -/
  remoteClosed : Bool
deriving DecidableEq, Repr

def SPEC_INITIAL_WINDOW : Int := 65535

/-- Cap on the accumulated header block. -/
def MAX_HEADER_BLOCK_SIZE : Nat := 2 ^ 20

structure RemoteSettings where
  initialWindowSize : Int
  maxFrameSize : Nat
  headerTableSize : Nat
  enablePush : Bool
  maxConcurrentStreams : UInt32
deriving DecidableEq, Repr

/-- `maxConcurrentStreams` is `u32::MAX` until the peer advertises a limit. -/
def RemoteSettings.default : RemoteSettings :=
  ⟨SPEC_INITIAL_WINDOW, DEFAULT_MAX_FRAME_SIZE, 4096, true, 0xffffffff⟩

inductive HeaderBlockKind where
  | response
  | push
deriving DecidableEq, Repr

structure PendingHeaderBlock where
  streamId : UInt32
  kind : HeaderBlockKind
  endStream : Bool
  promisedStreamId : Option UInt32
  fragments : List Bytes
  /-- Running total of fragment bytes. -/
  size : Nat
deriving DecidableEq, Repr

/-- An entry of the history. -/
inductive Event where
  /-- Bytes went into the outbound channel before any frame. -/
  | preface (bytes : Bytes)
  /-- A frame went into the outbound channel. -/
  | sent (frame : Frame)
  /-- A stream was put into the map. -/
  | opened (id : UInt32)
  /-- A WINDOW_UPDATE was applied to the connection or looked up a stream. -/
  | credit (id : UInt32) (increment : UInt32)
  /-- A SETTINGS_MAX_CONCURRENT_STREAMS was applied. -/
  | limit (streams : UInt32)
  /-- A complete header block of a response was decoded. -/
  | block (id : UInt32) (headers : List Header) (endStream : Bool)
  /-- A DATA frame was dispatched. -/
  | data (id : UInt32) (bytes : Bytes) (endStream : Bool)
  /-- A RST_STREAM was dispatched. -/
  | rst (id : UInt32)
  /-- `reset_stream` ran. -/
  | reset (id : UInt32)
  /-- A GOAWAY was dispatched. -/
  | goaway (lastStreamId : UInt32)
  /-- A stream was taken out of the map and failed. -/
  | failed (id : UInt32)
  /-- A stream was taken out of the map with both directions ended. -/
  | retired (id : UInt32)
deriving DecidableEq, Repr

/-- A call of `request`. -/
inductive Call where
  /-- Parked until a stream slot frees up. -/
  | parked (request : Request)
  /-- Waiting for the head of its stream. -/
  | awaiting (cell : Nat)
  | responded (head : Head) (cell : Nat)
  | refused (error : H2Error)
  /-- The caller dropped the future. -/
  | dropped
deriving DecidableEq

structure Client where
  /-- `out_tx` is still here. -/
  outTx : Bool
  decoder : HpackDecoder
  streams : KeyMap UInt32 StreamState
  nextStreamId : UInt32
  connSendWindow : SendWindow
  remote : RemoteSettings
  pendingHeaderBlock : Option PendingHeaderBlock
  /-- The ping call that waits for an opaque value. -/
  pings : KeyMap OpaqueData Nat
  pingCounter : UInt32
  /-- The parked calls. -/
  slotWaiters : List Nat
  closed : Bool
  closeError : Option H2Error
  goawayReceived : Bool
  highestPromised : UInt32
  /-- How many streams were opened. -/
  opened : Nat
  cells : Nat → Cell
  /-- How many calls were made. -/
  called : Nat
  calls : Nat → Call
  /-- How many pings were sent. -/
  pinged : Nat
  /-- The answer of a ping, without its round-trip time. -/
  answers : Nat → Oneshot (Except H2Error Unit)
  history : List Event

namespace Client

/-! ## Access -/

/-- Change a cell. -/
def modifyCell (c : Client) (k : Nat) (f : Cell → Cell) : Client :=
  { c with cells := Function.update c.cells k (f (c.cells k)) }

/-- Change the stream of an id, if it is in the map. -/
def modifyStream (c : Client) (id : UInt32) (f : StreamState → StreamState) : Client :=
  { c with streams := c.streams.modify id f }

/-- Record an event. -/
def record (c : Client) (e : Event) : Client := { c with history := c.history ++ [e] }

/-- Fire the wakers of uploads. -/
def wakePumps (c : Client) (wakers : List Nat) : Client :=
  { c with cells := fun k =>
      if k ∈ wakers then { c.cells k with parked := false } else c.cells k }

/-! ## Sending -/

/-- `write_raw` of a serialized frame. -/
def sendFrame (c : Client) (frame : Frame) : Client :=
  if !c.closed && c.outTx then c.record (.sent frame) else c

/-! ## Stream slots -/

/-- Client-initiated streams in the map. -/
def activeStreams (c : Client) : Nat := c.streams.keys.countP fun id => id.toNat % 2 == 1

def canOpenStream (c : Client) : Bool := c.activeStreams < c.remote.maxConcurrentStreams.toNat

/-- Wake every parked request. -/
def wakeSlotWaiters (c : Client) : Client := { c with slotWaiters := [] }

end Client

end H2ts
