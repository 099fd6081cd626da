import H2ts.Bytes
import H2ts.Lib.Utf8

/-!
# The bridge

`bridge_with`: one task runs four directions, which interleave at their awaits.  A step takes
a direction from one await to the next.  What an await is answered with, the action says: a
write may stay pending for as long as it likes.  wslay is a parameter.

The state also keeps when bytes arrived and when some were read since the last keepalive ping;
no direction looks at that.
-/

namespace H2ts

namespace Bridge

def READ_CHUNK : Nat := 64 * 1024

structure CloseFrame where
  code : UInt16
  reason : String
deriving DecidableEq, Repr

inductive ControlEvent where
  | close (code : UInt16) (reason : Bytes)
  | ping (payload : Bytes)
  | pong (payload : Bytes)
deriving DecidableEq, Repr

/-- What is queued on wslay. -/
inductive Message where
  | binary (payload : Bytes)
  | ping (payload : Bytes)
  | pong (payload : Bytes)
  | close (frame : CloseFrame)
deriving DecidableEq, Repr

/-- What bytes from the socket come to. -/
structure Received where
  toPeer : Bytes
  outbound : Bytes
  closed : Bool
  events : List ControlEvent
deriving DecidableEq, Repr

/-- The framing. -/
structure Wslay (ω : Type) where
  /-- `wslay_event_recv`, and the replies that it queued. -/
  recv : ω → Bytes → Received × ω
  /-- A message is queued and sent. -/
  send : ω → Message → Bytes × ω

structure KeepAlive where
  interval : Nat
  timeout : Nat
  close : CloseFrame
deriving DecidableEq, Repr

structure BridgeConfig where
  close : CloseFrame
  errorClose : CloseFrame
  keepalive : Option KeepAlive
  /-- There is a control channel. -/
  control : Bool
deriving DecidableEq, Repr

inductive EndReason where
  | peerClose (frame : CloseFrame)
  | localClose (frame : CloseFrame)
  | abnormal
deriving DecidableEq, Repr

/-- The code of a Close without one. -/
def NO_STATUS_RCVD : UInt16 := 1005

inductive Direction where
  | wsToPeer
  | peerToWs
  | control
  | keepalive
deriving DecidableEq, Repr

/-- What a write is answered with.  Until it is done, the transport may have taken any front of
the bytes, which the state does not tell. -/
inductive Write where
  | pending
  | ok
  | err
deriving DecidableEq, Repr

/-- What a read of the peer is answered with. -/
inductive PeerRead where
  | pending
  | bytes (data : Bytes)
  | err
deriving DecidableEq, Repr

/-- The read side of the WebSocket's transport. -/
inductive Transport where
  | live
  | eof
  | failed
deriving DecidableEq, Repr

inductive WsToPeer where
  | reading
  /-- In `peer_write.write_all`. -/
  | toPeer (received : Received)
  /-- The upstream failed, and the client is told so. -/
  | errorLock (outbound : Bytes)
  | errorWrite (outbound : Bytes)
  /-- wslay's replies are written; then it goes on, or ends. -/
  | lock (outbound : Bytes) (reason : Option EndReason)
  | write (outbound : Bytes) (reason : Option EndReason)
  /-- In `peer_write.shutdown`. -/
  | shutdown (reason : EndReason)
deriving DecidableEq, Repr

inductive PeerToWs where
  | reading
  /-- A frame is written; then it goes on, or ends with a Close. -/
  | lock (outbound : Bytes) (close : Option CloseFrame)
  | write (outbound : Bytes) (close : Option CloseFrame)
deriving DecidableEq, Repr

inductive ControlDir where
  | receiving
  | lock (outbound : Bytes)
  | write (outbound : Bytes)
  | parked
deriving DecidableEq, Repr

inductive KeepAliveDir where
  | head
  | sleeping (deadline : Nat)
  | pingLock (outbound : Bytes)
  | pingWrite (outbound : Bytes)
  | waiting (pingedAt deadline : Nat)
  | closeLock (outbound : Bytes)
  | closeWrite (outbound : Bytes)
  | closed
  | parked
deriving DecidableEq, Repr

namespace KeepAliveDir

/-- It has given up. -/
def gaveUp : KeepAliveDir → Bool
  | closeLock _ => true
  | closeWrite _ => true
  | closed => true
  | _ => false

end KeepAliveDir

structure State (ω : Type) where
  now : Nat
  wslay : ω
  /-- The bytes that can be read from the WebSocket. -/
  arrived : Bytes
  transport : Transport
  lastActivity : Nat
  /-- Who holds the lock of `ws_write`. -/
  holder : Option Direction
  commands : List Message
  /-- A handle of the control channel is left. -/
  sender : Bool
  wsToPeer : WsToPeer
  peerToWs : PeerToWs
  control : ControlDir
  keepalive : KeepAliveDir
  /-- What was written to the WebSocket and to the peer. -/
  sent : List Bytes
  forwarded : List Bytes
  /-- What the hooks for pings and pongs got. -/
  observed : List ControlEvent
  result : Option (Except Unit EndReason)
  /-- Since the last keepalive ping: when bytes arrived, and when some were read. -/
  arrivals : List Nat
  reads : List Nat

inductive Action where
  | tick (passed : Nat)
  /-- Bytes from the client. -/
  | arrive (bytes : Bytes)
  /-- The client's transport ends. -/
  | finish (transport : Transport)
  /-- The application sends a command, or drops its last handle. -/
  | command (message : Message)
  | dropSender
  /-- A direction is polled. -/
  | wsToPeer (write : Write)
  | peerToWs (read : PeerRead) (write : Write)
  | control (write : Write)
  | keepalive (write : Write)
deriving DecidableEq, Repr

namespace State

variable {ω : Type}

/-- The bridge when it starts. -/
def new (wslay : ω) (config : BridgeConfig) (now : Nat) : State ω where
  now := now
  wslay := wslay
  arrived := []
  transport := .live
  lastActivity := now
  holder := none
  commands := []
  sender := config.control
  wsToPeer := .reading
  peerToWs := .reading
  control := if config.control then .receiving else .parked
  keepalive := if config.keepalive.isSome then .head else .parked
  sent := []
  forwarded := []
  observed := []
  result := none
  arrivals := []
  reads := []

/-- A direction is the first to finish. -/
def finish (s : State ω) (result : Except Unit EndReason) : State ω :=
  { s with result := some result }

/-- The lock is taken. -/
def acquire (s : State ω) (direction : Direction) : State ω := { s with holder := some direction }

/-- The frame is written, and the lock released. -/
def release (s : State ω) (outbound : Bytes) : State ω :=
  { s with holder := none, sent := s.sent ++ [outbound] }

/-! ## WebSocket to peer -/

/-- The last Close among the events. -/
def peerClose (events : List ControlEvent) : Option CloseFrame :=
  events.foldl (fun found event =>
    match event with
    | .close code reason =>
        some ⟨if code = 0 then NO_STATUS_RCVD else code, Utf8.ofOctetsLossy reason⟩
    | _ => found) none

def hooked (events : List ControlEvent) : List ControlEvent :=
  events.filter fun
    | .close _ _ => false
    | _ => true

/-- Back to reading, or on to the end. -/
def proceed (s : State ω) (reason : Option EndReason) : State ω :=
  match reason with
  | some reason => { s with wsToPeer := .shutdown reason }
  | none => { s with wsToPeer := .reading }

/-- The hooks fire, and the replies are to be written. -/
def dispatch (s : State ω) (received : Received) : State ω :=
  let reason := if received.closed then
    some ((peerClose received.events).elim .abnormal EndReason.peerClose) else none
  let s := { s with observed := s.observed ++ hooked received.events }
  if received.outbound.isEmpty then s.proceed reason
  else { s with wsToPeer := .lock received.outbound reason }

/-- Bytes are read. -/
def receive (w : Wslay ω) (s : State ω) : State ω :=
  let (received, wslay) := w.recv s.wslay (s.arrived.take READ_CHUNK)
  let s := { s with
    arrived := s.arrived.drop READ_CHUNK
    lastActivity := s.now
    wslay := wslay
    reads := s.reads ++ [s.now] }
  if received.toPeer.isEmpty then s.dispatch received else { s with wsToPeer := .toPeer received }

def pollWsToPeer (w : Wslay ω) (config : BridgeConfig) (s : State ω) (write : Write) : State ω :=
  match s.wsToPeer with
  | .reading =>
      if s.arrived.isEmpty then
        match s.transport with
        | .live => s
        | .eof => { s with wsToPeer := .shutdown .abnormal }
        | .failed => s.finish (.error ())
      else s.receive w
  | .toPeer received =>
      match write with
      | .pending => s
      | .ok => { s with forwarded := s.forwarded ++ [received.toPeer] }.dispatch received
      | .err =>
          let (outbound, wslay) := w.send s.wslay (.close config.errorClose)
          if outbound.isEmpty then
            { s with wslay := wslay }.finish (.ok (.localClose config.errorClose))
          else { s with wslay := wslay, wsToPeer := .errorLock outbound }
  | .errorLock outbound =>
      if s.holder.isNone then { s.acquire .wsToPeer with wsToPeer := .errorWrite outbound } else s
  | .errorWrite outbound =>
      match write with
      | .pending => s
      | .ok => (s.release outbound).finish (.ok (.localClose config.errorClose))
      | .err => s.finish (.ok (.localClose config.errorClose))
  | .lock outbound reason =>
      if s.holder.isNone then { s.acquire .wsToPeer with wsToPeer := .write outbound reason } else s
  | .write outbound reason =>
      match write with
      | .pending => s
      | .ok => (s.release outbound).proceed reason
      | .err => s.finish (.error ())
  | .shutdown reason =>
      match write with
      | .pending => s
      | _ => s.finish (.ok reason)

/-! ## Peer to WebSocket -/

/-- The upstream has ended or failed. -/
def closeWith (w : Wslay ω) (s : State ω) (close : CloseFrame) : State ω :=
  let (outbound, wslay) := w.send s.wslay (.close close)
  if outbound.isEmpty then { s with wslay := wslay }.finish (.ok (.localClose close))
  else { s with wslay := wslay, peerToWs := .lock outbound (some close) }

def pollPeerToWs (w : Wslay ω) (config : BridgeConfig) (s : State ω) (read : PeerRead) (write : Write) :
    State ω :=
  match s.peerToWs with
  | .reading =>
      match read with
      | .pending => s
      | .bytes data =>
          if data.isEmpty then s.closeWith w config.close
          else
            let (outbound, wslay) := w.send s.wslay (.binary data)
            if outbound.isEmpty then { s with wslay := wslay }
            else { s with wslay := wslay, peerToWs := .lock outbound none }
      | .err => s.closeWith w config.errorClose
  | .lock outbound close =>
      if s.holder.isNone then { s.acquire .peerToWs with peerToWs := .write outbound close } else s
  | .write outbound close =>
      match write, close with
      | .pending, _ => s
      | .ok, none => { s.release outbound with peerToWs := .reading }
      | .ok, some close => (s.release outbound).finish (.ok (.localClose close))
      | .err, none => s.finish (.error ())
      | .err, some close => s.finish (.ok (.localClose close))

/-! ## Control frames -/

def pollControl (w : Wslay ω) (s : State ω) (write : Write) : State ω :=
  match s.control with
  | .receiving =>
      match s.commands with
      | message :: commands =>
          let (outbound, wslay) := w.send s.wslay message
          if outbound.isEmpty then { s with wslay := wslay, commands := commands }
          else { s with wslay := wslay, commands := commands, control := .lock outbound }
      | [] => if s.sender then s else { s with control := .parked }
  | .lock outbound =>
      if s.holder.isNone then { s.acquire .control with control := .write outbound } else s
  | .write outbound =>
      match write with
      | .pending => s
      | .ok => { s.release outbound with control := .receiving }
      | .err => s.finish (.error ())
  | .parked => s

/-! ## Keepalive -/

/-- The ping is written: the wait begins. -/
def await (ka : KeepAlive) (s : State ω) : State ω :=
  { s with keepalive := .waiting s.now (s.now + ka.timeout), arrivals := [], reads := [] }

/-- Nothing was read since the ping. -/
def giveUp (w : Wslay ω) (ka : KeepAlive) (s : State ω) : State ω :=
  let (outbound, wslay) := w.send s.wslay (.close ka.close)
  if outbound.isEmpty then
    { s with wslay := wslay, keepalive := .closed }.finish (.ok (.localClose ka.close))
  else { s with wslay := wslay, keepalive := .closeLock outbound }

def pollKeepalive (w : Wslay ω) (ka : KeepAlive) (s : State ω) (write : Write) : State ω :=
  match s.keepalive with
  | .head =>
      if s.now - s.lastActivity < ka.interval then
        { s with keepalive := .sleeping (s.now + (ka.interval - (s.now - s.lastActivity))) }
      else
        let (outbound, wslay) := w.send s.wslay (.ping [])
        if outbound.isEmpty then { s with wslay := wslay }.await ka
        else { s with wslay := wslay, keepalive := .pingLock outbound }
  | .sleeping deadline => if deadline ≤ s.now then { s with keepalive := .head } else s
  | .pingLock outbound =>
      if s.holder.isNone then { s.acquire .keepalive with keepalive := .pingWrite outbound } else s
  | .pingWrite outbound =>
      match write with
      | .pending => s
      | .ok => (s.release outbound).await ka
      | .err => s.finish (.error ())
  | .waiting pingedAt deadline =>
      if deadline ≤ s.now then
        if s.lastActivity ≤ pingedAt then s.giveUp w ka else { s with keepalive := .head }
      else s
  | .closeLock outbound =>
      if s.holder.isNone then { s.acquire .keepalive with keepalive := .closeWrite outbound } else s
  | .closeWrite outbound =>
      match write with
      | .pending => s
      | .ok => { s.release outbound with keepalive := .closed }.finish (.ok (.localClose ka.close))
      | .err => { s with keepalive := .closed }.finish (.ok (.localClose ka.close))
  | .closed => s
  | .parked => s

/-! ## Runs -/

def act (w : Wslay ω) (config : BridgeConfig) (s : State ω) : Action → State ω
  | .tick passed => { s with now := s.now + passed }
  | .arrive bytes =>
      if bytes.isEmpty ∨ s.transport ≠ .live then s
      else { s with arrived := s.arrived ++ bytes, arrivals := s.arrivals ++ [s.now] }
  | .finish transport => if s.transport = .live then { s with transport := transport } else s
  | .command message => { s with commands := s.commands ++ [message] }
  | .dropSender => { s with sender := false }
  | .wsToPeer write => s.pollWsToPeer w config write
  | .peerToWs read write => s.pollPeerToWs w config read write
  | .control write => s.pollControl w write
  | .keepalive write =>
      match config.keepalive with
      | some ka => s.pollKeepalive w ka write
      | none => s

/-- When a direction has finished, the bridge is torn down. -/
def step (w : Wslay ω) (config : BridgeConfig) (s : State ω) (a : Action) : State ω :=
  if s.result.isSome then s else s.act w config a

end State

end Bridge

end H2ts
