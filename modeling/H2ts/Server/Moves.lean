import H2ts.Lib.Machine
import H2ts.Wslay.Send

/-!
# What a step of the bridge does

The bridge with wslay in it.  A step moves a chunk on towards the peer, or it is beside that
(`Beside`); then it may queue a message and send it, or write what was sent (`Turn`).  All
that is proved of its runs rests on this (`moves_step`).
-/

namespace H2ts

namespace Tunnel

open Machine Wslay Bridge

/-- The bytes that a step brings from the client. -/
def comes (s : State EventContext) (a : Bridge.Action) : Bytes :=
  match a with
  | .arrive bytes => if s.result.isSome ∨ s.transport ≠ .live then [] else bytes
  | _ => []

/-- What the direction towards the peer has in hand. -/
structure Load where
  /-- The chunk that is being written to the peer. -/
  chunk : Bytes
  /-- The events whose hooks fire when it is written. -/
  events : List ControlEvent
  /-- The peer has failed, and the client is told. -/
  failed : Bool
  /-- The direction is about to finish, by the client's doing. -/
  ending : Bool
deriving DecidableEq

def load : WsToPeer → Load
  | .reading => ⟨[], [], false, false⟩
  | .toPeer received => ⟨received.toPeer, State.hooked received.events, false, received.closed⟩
  | .errorLock _ => ⟨[], [], true, false⟩
  | .errorWrite _ => ⟨[], [], true, false⟩
  | .lock _ reason => ⟨[], [], false, reason.isSome⟩
  | .write _ reason => ⟨[], [], false, reason.isSome⟩
  | .shutdown _ => ⟨[], [], false, true⟩

/-- The bridge has ended by the client's doing. -/
def byClient : Option (Except Unit EndReason) → Bool
  | some (.ok (.peerClose _)) => true
  | some (.ok .abnormal) => true
  | _ => false

/-- What a direction has to write to the client. -/
structure Flight where
  bytes : Bytes
  /-- It is a Close, and the bridge ends when it is written. -/
  last : Bool
deriving DecidableEq

def wsFlight : WsToPeer → Flight
  | .toPeer received => ⟨received.outbound, false⟩
  | .errorLock outbound => ⟨outbound, true⟩
  | .errorWrite outbound => ⟨outbound, true⟩
  | .lock outbound _ => ⟨outbound, false⟩
  | .write outbound _ => ⟨outbound, false⟩
  | _ => ⟨[], false⟩

def peerFlight : PeerToWs → Flight
  | .reading => ⟨[], false⟩
  | .lock outbound close => ⟨outbound, close.isSome⟩
  | .write outbound close => ⟨outbound, close.isSome⟩

def controlFlight : ControlDir → Flight
  | .lock outbound => ⟨outbound, false⟩
  | .write outbound => ⟨outbound, false⟩
  | _ => ⟨[], false⟩

def keepaliveFlight : KeepAliveDir → Flight
  | .pingLock outbound => ⟨outbound, false⟩
  | .pingWrite outbound => ⟨outbound, false⟩
  | .closeLock outbound => ⟨outbound, true⟩
  | .closeWrite outbound => ⟨outbound, true⟩
  | _ => ⟨[], false⟩

def flight (s : State EventContext) : Direction → Flight
  | .wsToPeer => wsFlight s.wsToPeer
  | .peerToWs => peerFlight s.peerToWs
  | .control => controlFlight s.control
  | .keepalive => keepaliveFlight s.keepalive

/-- The bytes that a step takes from the peer.  Once a Close is queued, they are dropped. -/
def fetches (s : State EventContext) (a : Bridge.Action) : Bytes :=
  match a with
  | .peerToWs (.bytes data) _ =>
      if s.result.isSome ∨ s.peerToWs ≠ .reading ∨ s.wslay.closeQueued = true then [] else data
  | _ => []

/-- A direction that is not reading takes nothing. -/
theorem fetches_busy {s : State EventContext} {read : PeerRead}
    {write : Write} (busy : s.peerToWs ≠ .reading) :
    fetches s (.peerToWs read write) = [] := by
  cases read with
  | bytes data => exact if_pos (.inr (.inl busy))
  | _ => rfl

/-- The command that a step brings from the application. -/
def orders (s : State EventContext) (a : Bridge.Action) : List Message :=
  match a with
  | .command message => if s.result.isSome then [] else [message]
  | _ => []

theorem isSome_of_byClient {result : Option (Except Unit EndReason)} (client : byClient result = true) :
    result.isSome = true := by
  cases result with
  | none => exact absurd client Bool.false_ne_true
  | some result => rfl

variable {s t : State EventContext} {config : BridgeConfig} {fetched : Bytes}

/-! ## Towards the client -/

theorem flight_eq (w : wsFlight t.wsToPeer = wsFlight s.wsToPeer)
    (p : peerFlight t.peerToWs = peerFlight s.peerToWs)
    (c : controlFlight t.control = controlFlight s.control)
    (k : keepaliveFlight t.keepalive = keepaliveFlight s.keepalive) : flight t = flight s := by
  funext d
  cases d with
  | wsToPeer => exact w
  | peerToWs => exact p
  | control => exact c
  | keepalive => exact k

/-- One direction has changed. -/
theorem flight_update (d : Direction) (others : ∀ d', d' ≠ d → flight t d' = flight s d') :
    flight t = Function.update (flight s) d (flight t d) := by
  funext d'
  by_cases same : d' = d
  · rw [same, Function.update_self]
  · rw [Function.update_of_ne same, others d' same]

theorem flight_wsToPeer (p : t.peerToWs = s.peerToWs) (c : t.control = s.control)
    (k : t.keepalive = s.keepalive) :
    flight t = Function.update (flight s) .wsToPeer (wsFlight t.wsToPeer) := by
  refine flight_update .wsToPeer fun d other => ?_
  cases d with
  | wsToPeer => exact absurd rfl other
  | peerToWs => exact congrArg peerFlight p
  | control => exact congrArg controlFlight c
  | keepalive => exact congrArg keepaliveFlight k

theorem flight_peerToWs (w : t.wsToPeer = s.wsToPeer) (c : t.control = s.control)
    (k : t.keepalive = s.keepalive) :
    flight t = Function.update (flight s) .peerToWs (peerFlight t.peerToWs) := by
  refine flight_update .peerToWs fun d other => ?_
  cases d with
  | wsToPeer => exact congrArg wsFlight w
  | peerToWs => exact absurd rfl other
  | control => exact congrArg controlFlight c
  | keepalive => exact congrArg keepaliveFlight k

theorem flight_control (w : t.wsToPeer = s.wsToPeer) (p : t.peerToWs = s.peerToWs)
    (k : t.keepalive = s.keepalive) :
    flight t = Function.update (flight s) .control (controlFlight t.control) := by
  refine flight_update .control fun d other => ?_
  cases d with
  | wsToPeer => exact congrArg wsFlight w
  | peerToWs => exact congrArg peerFlight p
  | control => exact absurd rfl other
  | keepalive => exact congrArg keepaliveFlight k

theorem flight_keepalive (w : t.wsToPeer = s.wsToPeer) (p : t.peerToWs = s.peerToWs)
    (c : t.control = s.control) :
    flight t = Function.update (flight s) .keepalive (keepaliveFlight t.keepalive) := by
  refine flight_update .keepalive fun d other => ?_
  cases d with
  | wsToPeer => exact congrArg wsFlight w
  | peerToWs => exact congrArg peerFlight p
  | control => exact congrArg controlFlight c
  | keepalive => exact absurd rfl other

/-- Who queues which message. -/
inductive Origin (s : State EventContext) : Direction → Message → Bytes → Prop where
  | data (payload : Bytes) :
      Origin s .peerToWs (.binary payload) (if s.wslay.closeQueued = true then [] else payload)
  | close (d : Direction) (frame : CloseFrame) : Origin s d (.close frame) []
  | ping : Origin s .keepalive (.ping []) []
  | command (message : Message) (mem : message ∈ s.commands) : Origin s .control message []

/-- What a step does that takes `fetched` from the peer. -/
inductive Turn (s t : State EventContext) : Bytes → Prop where
  | rest (wslay : t.wslay = s.wslay) (sent : t.sent = s.sent) (same : flight t = flight s) : Turn s t []
  /-- A message is queued, and sent. -/
  | posts {d : Direction} {message : Message} {fetched : Bytes}
      (origin : Origin s d message fetched) (last : Bool)
      (close : last = true → EventContext.isClose message = true) (wslay : t.wslay = (s.wslay.post message).2)
      (sent : t.sent = s.sent) (before : (flight s d).bytes = [])
      (more : flight t = Function.update (flight s) d ⟨(s.wslay.post message).1, last⟩) : Turn s t fetched
  /-- A message is queued, but nothing comes of it. -/
  | nothing {d : Direction} {message : Message} {fetched : Bytes} (origin : Origin s d message fetched)
      (wslay : t.wslay = (s.wslay.post message).2) (sent : t.sent = s.sent)
      (none : (s.wslay.post message).1 = []) (same : flight t = flight s) : Turn s t fetched
  /-- A write succeeds. -/
  | wrote (d : Direction) (wslay : t.wslay = s.wslay) (sent : t.sent = s.sent ++ [(flight s d).bytes])
      (less : flight t = Function.update (flight s) d ⟨[], false⟩) : Turn s t []
  /-- The last write succeeds. -/
  | ends (d : Direction) (wslay : t.wslay = s.wslay) (sent : t.sent = s.sent ++ [(flight s d).bytes])
      (last : (flight s d).last = true) (same : flight t = flight s) : Turn s t []
  /-- The last write fails. -/
  | drops (d : Direction) (wslay : t.wslay = s.wslay) (sent : t.sent = s.sent)
      (last : (flight s d).last = true)
      (less : flight t = Function.update (flight s) d ⟨[], false⟩) : Turn s t []

/-- Nothing moves towards the peer. -/
structure Beside (s t : State EventContext) (fetched : Bytes) : Prop where
  arrived : t.arrived = s.arrived
  forwarded : t.forwarded = s.forwarded
  observed : t.observed = s.observed
  load : load t.wsToPeer = load s.wsToPeer
  transport : s.transport ≠ .live → t.transport ≠ .live
  result : byClient t.result = true → byClient s.result = true ∨ (Tunnel.load s.wsToPeer).ending = true
  commands : t.commands <:+ s.commands
  turn : Turn s t fetched

theorem Beside.refl (s : State EventContext) : Beside s s [] :=
  ⟨rfl, rfl, rfl, rfl, id, .inl, List.suffix_refl _, .rest rfl rfl rfl⟩

theorem Turn.sends (turn : Turn s t fetched) : s.wslay.Sends t.wslay := by
  cases turn with
  | rest wslay => rw [wslay]; exact .refl s.wslay
  | posts origin last close wslay => rw [wslay]; exact s.wslay.sends_post _
  | nothing origin wslay => rw [wslay]; exact s.wslay.sends_post _
  | wrote d wslay => rw [wslay]; exact .refl s.wslay
  | ends d wslay => rw [wslay]; exact .refl s.wslay
  | drops d wslay => rw [wslay]; exact .refl s.wslay

/-- Only the directions' places have changed, and not what they have to write. -/
theorem Beside.rest (arrived : t.arrived = s.arrived) (forwarded : t.forwarded = s.forwarded)
    (observed : t.observed = s.observed) (ws : t.wsToPeer = s.wsToPeer)
    (transport : s.transport ≠ .live → t.transport ≠ .live)
    (result : byClient t.result = true → byClient s.result = true ∨ (Tunnel.load s.wsToPeer).ending = true)
    (commands : t.commands <:+ s.commands) (wslay : t.wslay = s.wslay) (sent : t.sent = s.sent)
    (p : peerFlight t.peerToWs = peerFlight s.peerToWs)
    (c : controlFlight t.control = controlFlight s.control)
    (k : keepaliveFlight t.keepalive = keepaliveFlight s.keepalive) : Beside s t [] :=
  ⟨arrived, forwarded, observed, congrArg Tunnel.load ws, transport, result, commands,
    .rest wslay sent (flight_eq (congrArg wsFlight ws) p c k)⟩

/-- The bridge ends, but not by the client's doing. -/
theorem Beside.finish (s : State EventContext) {result : Except Unit EndReason}
    (other : byClient (some result) = false) :
    Beside s (s.finish result) [] :=
  .rest rfl rfl rfl rfl id (fun ended => absurd (ended.symm.trans other) Bool.noConfusion)
    (List.suffix_refl _) rfl rfl rfl
    rfl rfl

theorem beside_closeWith (s : State EventContext) (reading : s.peerToWs = .reading) (close : CloseFrame) :
    Beside s (s.closeWith wslay close) [] := by
  have before : (flight s .peerToWs).bytes = [] := congrArg (Flight.bytes ∘ peerFlight) reading
  unfold State.closeWith
  dsimp only
  split
  next empty =>
    exact ⟨rfl, rfl, rfl, rfl, id, fun other => absurd other Bool.false_ne_true, List.suffix_refl _,
      .nothing (.close .peerToWs close) rfl rfl (List.isEmpty_iff.mp empty) rfl⟩
  next =>
    exact ⟨rfl, rfl, rfl, rfl, id, .inl, List.suffix_refl _,
      .posts (.close .peerToWs close) true (fun _ => rfl) rfl rfl before (flight_peerToWs rfl rfl rfl)⟩

/-- A direction is on its way: nothing but its place has changed. -/
theorem beside_pollPeerToWs (s : State EventContext) (read : PeerRead) (write : Write)
    (running : s.result.isSome = false) :
    Beside s (s.pollPeerToWs wslay config read write) (fetches s (.peerToWs read write)) := by
  unfold State.pollPeerToWs
  cases where_ : s.peerToWs with
  | reading =>
      cases read with
      | pending => exact .refl s
      | bytes data =>
          have before : (flight s .peerToWs).bytes = [] := congrArg (Flight.bytes ∘ peerFlight) where_
          have fetched : fetches s (.peerToWs (.bytes data) write) =
              if s.wslay.closeQueued = true then [] else data := by
            unfold fetches
            dsimp only
            rw [running, where_]
            simp only [Bool.false_eq_true, ne_eq, not_true_eq_false, false_or]
          rw [fetched]
          dsimp only
          split
          next empty =>
            rw [List.isEmpty_iff.mp empty, ite_self]
            exact beside_closeWith s where_ config.close
          next =>
            split
            next none =>
              exact ⟨rfl, rfl, rfl, rfl, id, .inl, List.suffix_refl _,
                .nothing (.data data) rfl rfl (List.isEmpty_iff.mp none)
                  (flight_eq rfl (congrArg peerFlight where_).symm rfl rfl)⟩
            next =>
              exact ⟨rfl, rfl, rfl, rfl, id, .inl, List.suffix_refl _,
                .posts (.data data) false (fun last => absurd last Bool.false_ne_true) rfl rfl before
                  (flight_peerToWs rfl rfl rfl)⟩
      | err => exact beside_closeWith s where_ config.errorClose
  | lock outbound close =>
      have none : fetches s (.peerToWs read write) = [] := fetches_busy (where_ ▸ PeerToWs.noConfusion)
      rw [none]
      dsimp only
      split
      · exact .rest rfl rfl rfl rfl id .inl (List.suffix_refl _) rfl rfl
          (congrArg peerFlight where_).symm rfl rfl
      · exact .refl s
  | write outbound close =>
      have none : fetches s (.peerToWs read write) = [] := fetches_busy (where_ ▸ PeerToWs.noConfusion)
      have flying : flight s .peerToWs = ⟨outbound, close.isSome⟩ := congrArg peerFlight where_
      have sent : s.sent ++ [outbound] = s.sent ++ [(flight s .peerToWs).bytes] := by rw [flying]
      rw [none]
      cases write with
      | pending => exact .refl s
      | ok =>
          cases close with
          | none =>
              exact ⟨rfl, rfl, rfl, rfl, id, .inl, List.suffix_refl _,
                .wrote .peerToWs rfl sent (flight_peerToWs rfl rfl rfl)⟩
          | some close =>
              exact ⟨rfl, rfl, rfl, rfl, id, fun other => absurd other Bool.false_ne_true, List.suffix_refl _,
                .ends .peerToWs rfl sent (congrArg Flight.last flying) rfl⟩
      | err =>
          cases close with
          | none => exact .finish s rfl
          | some close => exact .finish s rfl

theorem beside_pollControl (s : State EventContext) (write : Write) :
    Beside s (s.pollControl wslay write) [] := by
  unfold State.pollControl
  cases where_ : s.control with
  | receiving =>
      have before : (flight s .control).bytes = [] := congrArg (Flight.bytes ∘ controlFlight) where_
      cases waiting : s.commands with
      | nil =>
          dsimp only
          split
          · exact .refl s
          · exact .rest rfl rfl rfl rfl id .inl (List.nil_suffix) rfl rfl rfl
              (congrArg controlFlight where_).symm rfl
      | cons message commands =>
          have origin : Origin s .control message [] := .command message (waiting ▸ .head _)
          have shorter : commands <:+ s.commands := waiting ▸ List.suffix_cons message commands
          dsimp only
          split
          next none =>
            exact ⟨rfl, rfl, rfl, rfl, id, .inl, shorter,
              .nothing origin rfl rfl (List.isEmpty_iff.mp none)
                (flight_eq rfl rfl (congrArg controlFlight where_).symm rfl)⟩
          next =>
            exact ⟨rfl, rfl, rfl, rfl, id, .inl, shorter,
              .posts origin false (fun last => absurd last Bool.false_ne_true) rfl rfl before
                (flight_control rfl rfl rfl)⟩
  | lock outbound =>
      dsimp only
      split
      · exact .rest rfl rfl rfl rfl id .inl (List.suffix_refl _) rfl rfl rfl
          (congrArg controlFlight where_).symm rfl
      · exact .refl s
  | write outbound =>
      have flying : flight s .control = ⟨outbound, false⟩ := congrArg controlFlight where_
      have sent : s.sent ++ [outbound] = s.sent ++ [(flight s .control).bytes] := by rw [flying]
      cases write with
      | pending => exact .refl s
      | ok =>
          exact ⟨rfl, rfl, rfl, rfl, id, .inl, List.suffix_refl _,
            .wrote .control rfl sent (flight_control rfl rfl rfl)⟩
      | err => exact .finish s rfl
  | parked => exact .refl s

theorem beside_giveUp (s : State EventContext) (ka : KeepAlive) (before : flight s .keepalive = ⟨[], false⟩) :
    Beside s (s.giveUp wslay ka) [] := by
  unfold State.giveUp
  dsimp only
  split
  next none =>
    exact ⟨rfl, rfl, rfl, rfl, id, fun other => absurd other Bool.false_ne_true, List.suffix_refl _,
      .nothing (.close .keepalive ka.close) rfl rfl (List.isEmpty_iff.mp none)
        (flight_eq rfl rfl rfl before.symm)⟩
  next =>
    exact ⟨rfl, rfl, rfl, rfl, id, .inl, List.suffix_refl _,
      .posts (.close .keepalive ka.close) true (fun _ => rfl) rfl rfl (congrArg Flight.bytes before)
        (flight_keepalive rfl rfl rfl)⟩

theorem beside_pollKeepalive (s : State EventContext) (ka : KeepAlive) (write : Write) :
    Beside s (s.pollKeepalive wslay ka write) [] := by
  have moved {k : KeepAliveDir} (same : keepaliveFlight k = keepaliveFlight s.keepalive) :
      Beside s { s with keepalive := k } [] :=
    .rest rfl rfl rfl rfl id .inl (List.suffix_refl _) rfl rfl rfl rfl same
  have took {k : KeepAliveDir} (same : keepaliveFlight k = keepaliveFlight s.keepalive) :
      Beside s { s.acquire .keepalive with keepalive := k } [] :=
    .rest rfl rfl rfl rfl id .inl (List.suffix_refl _) rfl rfl rfl rfl same
  unfold State.pollKeepalive
  cases where_ : s.keepalive with
  | head =>
      have before : flight s .keepalive = ⟨[], false⟩ := congrArg keepaliveFlight where_
      dsimp only
      split
      · exact moved before.symm
      · split
        next none =>
          exact ⟨rfl, rfl, rfl, rfl, id, .inl, List.suffix_refl _,
            .nothing .ping rfl rfl (List.isEmpty_iff.mp none) (flight_eq rfl rfl rfl before.symm)⟩
        next =>
          exact ⟨rfl, rfl, rfl, rfl, id, .inl, List.suffix_refl _,
            .posts .ping false (fun last => absurd last Bool.false_ne_true) rfl rfl
              (congrArg Flight.bytes before)
              (flight_keepalive rfl rfl rfl)⟩
  | sleeping deadline =>
      dsimp only
      split
      · exact moved (congrArg keepaliveFlight where_).symm
      · exact .refl s
  | pingLock outbound =>
      dsimp only
      split
      · exact took (congrArg keepaliveFlight where_).symm
      · exact .refl s
  | pingWrite outbound =>
      have flying : flight s .keepalive = ⟨outbound, false⟩ := congrArg keepaliveFlight where_
      have sent : s.sent ++ [outbound] = s.sent ++ [(flight s .keepalive).bytes] := by rw [flying]
      cases write with
      | pending => exact .refl s
      | ok =>
          exact ⟨rfl, rfl, rfl, rfl, id, .inl, List.suffix_refl _,
            .wrote .keepalive rfl sent (flight_keepalive rfl rfl rfl)⟩
      | err => exact .finish s rfl
  | waiting pingedAt deadline =>
      dsimp only
      split
      · split
        · exact beside_giveUp s ka (congrArg keepaliveFlight where_)
        · exact moved (congrArg keepaliveFlight where_).symm
      · exact .refl s
  | closeLock outbound =>
      dsimp only
      split
      · exact took (congrArg keepaliveFlight where_).symm
      · exact .refl s
  | closeWrite outbound =>
      have flying : flight s .keepalive = ⟨outbound, true⟩ := congrArg keepaliveFlight where_
      have sent : s.sent ++ [outbound] = s.sent ++ [(flight s .keepalive).bytes] := by rw [flying]
      cases write with
      | pending => exact .refl s
      | ok =>
          exact ⟨rfl, rfl, rfl, rfl, id, fun other => absurd other Bool.false_ne_true, List.suffix_refl _,
            .wrote .keepalive rfl sent (flight_keepalive rfl rfl rfl)⟩
      | err =>
          exact ⟨rfl, rfl, rfl, rfl, id, fun other => absurd other Bool.false_ne_true, List.suffix_refl _,
            .drops .keepalive rfl rfl (congrArg Flight.last flying) (flight_keepalive rfl rfl rfl)⟩
  | closed => exact .refl s
  | parked => exact .refl s

/-! ## Steps -/

/-- What a step does that brings `brought` from the client, `fetched` from the peer and `ordered`
from the application. -/
inductive Moves (s : State EventContext) : Bytes → Bytes → List Message → State EventContext → Prop where
  | beside {fetched : Bytes} {t : State EventContext} (beside : Beside s t fetched) : Moves s [] fetched [] t
  | arrive (bytes : Bytes) (arrivals : List Nat) :
      Moves s bytes [] [] { s with arrived := s.arrived ++ bytes, arrivals := arrivals }
  | command (message : Message) : Moves s [] [] [message] { s with commands := s.commands ++ [message] }
  | receive (running : ¬ byClient s.result = true) (reading : s.wsToPeer = .reading) :
      Moves s [] [] [] (s.receive wslay)
  /-- A write to the peer succeeds. -/
  | forward {received : Received} (writing : s.wsToPeer = .toPeer received) :
      Moves s [] [] [] ({ s with forwarded := s.forwarded ++ [received.toPeer] }.dispatch received)
  /-- The peer fails. -/
  | fail {received : Received} (writing : s.wsToPeer = .toPeer received) (close : CloseFrame)
      (some : (s.wslay.post (.close close)).1 ≠ []) :
      Moves s [] [] [] { s with
        wslay := (s.wslay.post (.close close)).2
        wsToPeer := .errorLock (s.wslay.post (.close close)).1 }
  /-- The transport has ended. -/
  | eof (reading : s.wsToPeer = .reading) (eof : s.transport = .eof) :
      Moves s [] [] [] { s with wsToPeer := .shutdown .abnormal }

theorem load_proceed (s : State EventContext) (reason : Option EndReason) :
    ∃ w, load w = ⟨[], [], false, reason.isSome⟩ ∧ wsFlight w = ⟨[], false⟩ ∧
      s.proceed reason = { s with wsToPeer := w } := by
  cases reason with
  | none => exact ⟨.reading, rfl, rfl, rfl⟩
  | some reason => exact ⟨.shutdown reason, rfl, rfl, rfl⟩

theorem dispatch_eq (s : State EventContext) (received : Received) :
    ∃ w, load w = ⟨[], [], false, received.closed⟩ ∧ wsFlight w = ⟨received.outbound, false⟩ ∧
      s.dispatch received = { s with
        observed := s.observed ++ State.hooked received.events
        wsToPeer := w } := by
  unfold State.dispatch
  dsimp only
  split
  next empty =>
    rw [List.isEmpty_iff.mp empty]
    cases received.closed with
    | true => exact ⟨.shutdown _, rfl, rfl, rfl⟩
    | false => exact ⟨.reading, rfl, rfl, rfl⟩
  next =>
    cases received.closed with
    | true => exact ⟨.lock received.outbound _, rfl, rfl, rfl⟩
    | false => exact ⟨.lock received.outbound none, rfl, rfl, rfl⟩

theorem moves_pollWsToPeer (running : ¬ byClient s.result = true) (write : Write) :
    Moves s [] [] [] (s.pollWsToPeer wslay config write) := by
  unfold State.pollWsToPeer
  cases where_ : s.wsToPeer with
  | reading =>
      dsimp only
      split
      · split
        · exact .beside (.refl s)
        next eof => exact .eof where_ eof
        · exact .beside (.finish s rfl)
      · exact .receive running where_
  | toPeer received =>
      cases write with
      | pending => exact .beside (.refl s)
      | ok => exact .forward where_
      | err =>
          dsimp only
          split
          next empty =>
            exact .beside ⟨rfl, rfl, rfl, congrArg load where_.symm, id,
              fun other => absurd other Bool.false_ne_true, List.suffix_refl _,
              .nothing (.close .wsToPeer config.errorClose) rfl rfl (List.isEmpty_iff.mp empty)
                (flight_eq (congrArg wsFlight where_).symm rfl rfl rfl)⟩
          next some => exact .fail where_ config.errorClose fun none => some (List.isEmpty_iff.mpr none)
  | errorLock outbound =>
      have same : load s.wsToPeer = load (.errorWrite outbound) := by rw [where_]; rfl
      have flying : wsFlight s.wsToPeer = wsFlight (.errorWrite outbound) := by rw [where_]; rfl
      dsimp only
      split
      · exact .beside ⟨rfl, rfl, rfl, same.symm, id, .inl, List.suffix_refl _,
          .rest rfl rfl (flight_eq flying.symm rfl rfl rfl)⟩
      · exact .beside (.refl s)
  | errorWrite outbound =>
      have flying : flight s .wsToPeer = ⟨outbound, true⟩ := congrArg wsFlight where_
      have sent : s.sent ++ [outbound] = s.sent ++ [(flight s .wsToPeer).bytes] := by rw [flying]
      cases write with
      | pending => exact .beside (.refl s)
      | ok =>
          exact .beside ⟨rfl, rfl, rfl, rfl, id, fun other => absurd other Bool.false_ne_true,
            List.suffix_refl _, .ends .wsToPeer rfl sent (congrArg Flight.last flying) rfl⟩
      | err => exact .beside (.finish s rfl)
  | lock outbound reason =>
      have same : load s.wsToPeer = load (.write outbound reason) := by rw [where_]; rfl
      have flying : wsFlight s.wsToPeer = wsFlight (.write outbound reason) := by rw [where_]; rfl
      dsimp only
      split
      · exact .beside ⟨rfl, rfl, rfl, same.symm, id, .inl, List.suffix_refl _,
          .rest rfl rfl (flight_eq flying.symm rfl rfl rfl)⟩
      · exact .beside (.refl s)
  | write outbound reason =>
      have flying : flight s .wsToPeer = ⟨outbound, false⟩ := congrArg wsFlight where_
      have sent : s.sent ++ [outbound] = s.sent ++ [(flight s .wsToPeer).bytes] := by rw [flying]
      cases write with
      | pending => exact .beside (.refl s)
      | ok =>
          obtain ⟨w, loaded, empty, after⟩ := load_proceed (s.release outbound) reason
          have less : flight { s.release outbound with wsToPeer := w } =
              Function.update (flight s) .wsToPeer (wsFlight w) := flight_wsToPeer rfl rfl rfl
          rw [empty] at less
          dsimp only
          rw [after]
          exact .beside ⟨rfl, rfl, rfl, loaded.trans (congrArg load where_.symm), id, .inl,
            List.suffix_refl _, .wrote .wsToPeer rfl sent less⟩
      | err => exact .beside (.finish s rfl)
  | shutdown reason =>
      have ends : (load s.wsToPeer).ending = true := congrArg (Load.ending ∘ load) where_
      have over_ (result : Except Unit EndReason) : Beside s (s.finish result) [] :=
        .rest rfl rfl rfl rfl id (fun _ => .inr ends) (List.suffix_refl _) rfl rfl rfl rfl rfl
      cases write with
      | pending => exact .beside (.refl s)
      | ok => exact .beside (over_ _)
      | err => exact .beside (over_ _)

/-- When the bridge has ended, nothing comes in. -/
theorem ended_step {a : Bridge.Action} (ended : s.result.isSome = true) :
    comes s a = [] ∧ fetches s a = [] ∧ orders s a = [] := by
  cases a with
  | arrive bytes => exact ⟨if_pos (.inl ended), rfl, rfl⟩
  | peerToWs read write =>
      cases read with
      | bytes data => exact ⟨rfl, if_pos (.inl ended), rfl⟩
      | _ => exact ⟨rfl, rfl, rfl⟩
  | command message => exact ⟨rfl, rfl, if_pos ended⟩
  | _ => exact ⟨rfl, rfl, rfl⟩

theorem moves_step (config : BridgeConfig) (s : State EventContext) (a : Bridge.Action) :
    Moves s (comes s a) (fetches s a) (orders s a) (s.step wslay config a) := by
  unfold State.step
  by_cases ended : s.result.isSome = true
  · obtain ⟨comes_, fetches_, orders_⟩ := ended_step (a := a) ended
    rw [if_pos ended, comes_, fetches_, orders_]
    exact .beside (.refl s)
  rw [if_neg ended]
  cases a with
  | tick passed => exact .beside (.rest rfl rfl rfl rfl id .inl (List.suffix_refl _) rfl rfl rfl rfl rfl)
  | arrive bytes =>
      unfold State.act comes
      dsimp only
      by_cases live : s.transport ≠ .live
      · rw [if_pos (.inr live), if_pos (.inr live)]
        exact .beside (.refl s)
      have open_ : ¬ (s.result.isSome = true ∨ s.transport ≠ .live) := by
        rintro (result | transport)
        · exact ended result
        · exact live transport
      rw [if_neg open_]
      split
      next empty =>
        rw [List.isEmpty_iff.mp (empty.resolve_right live)]
        exact .beside (.refl s)
      next => exact .arrive bytes _
  | finish transport =>
      unfold State.act
      dsimp only
      split
      next live =>
        exact .beside (.rest rfl rfl rfl rfl (fun gone => absurd live gone) .inl
          (List.suffix_refl _) rfl rfl rfl rfl rfl)
      next => exact .beside (.refl s)
  | command message =>
      have one : orders s (.command message) = [message] := if_neg ended
      rw [one]
      exact .command message
  | dropSender => exact .beside (.rest rfl rfl rfl rfl id .inl (List.suffix_refl _) rfl rfl rfl rfl rfl)
  | wsToPeer write => exact moves_pollWsToPeer (fun client => ended (isSome_of_byClient client)) write
  | peerToWs read write =>
      exact .beside (beside_pollPeerToWs s read write (Bool.eq_false_of_not_eq_true ended))
  | control write => exact .beside (beside_pollControl s write)
  | keepalive write =>
      unfold State.act
      dsimp only
      split
      · exact .beside (beside_pollKeepalive s _ write)
      · exact .beside (.refl s)

end Tunnel

end H2ts
