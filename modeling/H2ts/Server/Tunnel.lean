import H2ts.Server.Moves
import H2ts.Wslay.Stream

/-!
# The tunnel

The bridge with wslay in it.  What it has written to the peer, with the chunk that is on its
way, is what the reader gets out of the bytes that were read, however these came in pieces and
whatever the other directions do.  From a client that keeps to RFC 6455 that is the data of its
frames (`tunnel_of_compliant`).

Where a frame is not allowed, wslay reads no more, but the bridge does not notice: it goes on,
and keeps what comes (`tunnel_keeps`).
-/

namespace H2ts

namespace Tunnel

open Machine Wslay Bridge

/-- What was read came to `done` and `told`, and this is where they are. -/
structure Delivers (done : Bytes) (told : List ControlEvent) (s : State EventContext) : Prop where
  out : s.forwarded.flatten ++ (load s.wsToPeer).chunk <+: done
  seen : s.observed ++ (load s.wsToPeer).events <+: told
  all : (load s.wsToPeer).failed = false →
    s.forwarded.flatten ++ (load s.wsToPeer).chunk = done ∧ s.observed ++ (load s.wsToPeer).events = told

/-- The client has ended it: there is a Close or a header that no frame has, or its transport is gone. -/
def Left (read : Bytes) (s : State EventContext) : Prop :=
  (Reader.fresh.feed read).standing = .closed ∨
    (Reader.fresh.feed read).standing = .malformed ∨ s.transport ≠ .live

/-- The tunnel after the bytes `came`, of which `read` were read. -/
structure Carried (came read done : Bytes) (told : List ControlEvent) (s : State EventContext) : Prop where
  parted : came = read ++ s.arrived
  settled : EventContext.Settled done told read s.wslay
  delivers : Delivers done told s
  ending : (load s.wsToPeer).ending = true → Left read s
  result : byClient s.result = true → Left read s

def Carries (came : Bytes) (s : State EventContext) : Prop := ∃ read done told, Carried came read done told s

variable {s t : State EventContext} {config : BridgeConfig} {came fetched read done : Bytes}
  {told : List ControlEvent}

theorem Left.of_transport (left : Left read s) (gone : s.transport ≠ .live → t.transport ≠ .live) :
    Left read t :=
  left.imp_right (Or.imp_right gone)

theorem Beside.carried (beside : Beside s t fetched) (carried : Carried came read done told s) :
    Carried came read done told t := by
  obtain ⟨parted, settled, delivers, ending, result⟩ := carried
  refine ⟨?_, settled.sends beside.turn.sends, ⟨?_, ?_, ?_⟩, ?_, ?_⟩
  · rw [beside.arrived]
    exact parted
  · rw [beside.forwarded, beside.load]
    exact delivers.out
  · rw [beside.observed, beside.load]
    exact delivers.seen
  · rw [beside.forwarded, beside.observed, beside.load]
    exact delivers.all
  · rw [beside.load]
    exact fun ends => (ending ends).of_transport beside.transport
  · intro ended
    rcases beside.result ended with before | ends
    · exact (result before).of_transport beside.transport
    · exact (ending ends).of_transport beside.transport

/-! ## Towards the peer -/

/-- Bytes are read, and a chunk is handed on. -/
theorem carried_receive (carried : Carried came read done told s) (running : ¬ byClient s.result = true)
    (reading : s.wsToPeer = .reading) :
    Carried came (read ++ s.arrived.take READ_CHUNK)
      (done ++ (s.wslay.receive (s.arrived.take READ_CHUNK)).1.toPeer)
      (told ++ State.hooked (s.wslay.receive (s.arrived.take READ_CHUNK)).1.events) (s.receive wslay) := by
  obtain ⟨parted, settled, delivers, -, -⟩ := carried
  obtain ⟨after, goesOn⟩ := settled.receive (s.arrived.take READ_CHUNK)
  have all := delivers.all
  rw [reading] at all
  obtain ⟨out, seen⟩ := all rfl
  have none : (load .reading).chunk = [] ∧ (load .reading).events = [] := ⟨rfl, rfl⟩
  rw [none.1, List.append_nil] at out
  rw [none.2, List.append_nil] at seen
  have parted' : came = (read ++ s.arrived.take READ_CHUNK) ++ s.arrived.drop READ_CHUNK := by
    rw [List.append_assoc, List.take_append_drop]
    exact parted
  have received : Wslay.wslay.recv s.wslay (s.arrived.take READ_CHUNK) =
      s.wslay.receive (s.arrived.take READ_CHUNK) := rfl
  rw [State.receive, received]
  generalize s.wslay.receive (s.arrived.take READ_CHUNK) = result at after goesOn ⊢
  obtain ⟨received, next⟩ := result
  dsimp only at after goesOn ⊢
  have ends (closed : received.closed = true) (t : State EventContext) :
      Left (read ++ s.arrived.take READ_CHUNK) t := by
    by_contra stays
    obtain ⟨open_, stays⟩ := not_or.mp stays
    obtain ⟨formed, -⟩ := not_or.mp stays
    exact absurd (closed.symm.trans (goesOn open_ formed)) Bool.noConfusion
  split
  next empty =>
    obtain ⟨w, loaded, -, dispatched⟩ := dispatch_eq { s with
      arrived := s.arrived.drop READ_CHUNK
      lastActivity := s.now
      wslay := next
      reads := s.reads ++ [s.now] } received
    have out' : s.forwarded.flatten ++ (load w).chunk = done ++ received.toPeer := by
      rw [loaded, List.isEmpty_iff.mp empty, out]
    have seen' : s.observed ++ State.hooked received.events ++ (load w).events =
        told ++ State.hooked received.events := by
      rw [loaded, List.append_nil, seen]
    rw [dispatched]
    refine ⟨parted', after, ⟨out' ▸ List.prefix_refl _, seen' ▸ List.prefix_refl _, fun _ => ⟨out', seen'⟩⟩,
      ?_, fun ended => absurd ended running⟩
    show (load w).ending = true → _
    rw [loaded]
    exact fun closed => ends closed _
  next =>
    have out' : s.forwarded.flatten ++ received.toPeer = done ++ received.toPeer := by rw [out]
    have seen' : s.observed ++ State.hooked received.events = told ++
      State.hooked received.events := by rw [seen]
    exact ⟨parted', after, ⟨out' ▸ List.prefix_refl _, seen' ▸ List.prefix_refl _, fun _ => ⟨out', seen'⟩⟩,
      fun closed => ends closed _, fun ended => absurd ended running⟩

/-- A write to the peer succeeds. -/
theorem carried_forward {received : Received} (carried : Carried came read done told s)
    (writing : s.wsToPeer = .toPeer received) :
    Carried came read done told
      ({ s with forwarded := s.forwarded ++ [received.toPeer] }.dispatch received) := by
  obtain ⟨parted, settled, delivers, ending, result⟩ := carried
  have all := delivers.all
  rw [writing] at all ending
  obtain ⟨out, seen⟩ := all rfl
  obtain ⟨w, loaded, -, after⟩ :=
    dispatch_eq { s with forwarded := s.forwarded ++ [received.toPeer] } received
  have out' : (s.forwarded ++ [received.toPeer]).flatten ++ (load w).chunk = done := by
    rw [loaded, List.append_nil, List.flatten_append, List.flatten_singleton]
    exact out
  have seen' : s.observed ++ State.hooked received.events ++ (load w).events = told := by
    rw [loaded, List.append_nil]
    exact seen
  rw [after]
  refine ⟨parted, settled,
    ⟨out' ▸ List.prefix_refl _, seen' ▸ List.prefix_refl _, fun _ => ⟨out', seen'⟩⟩, ?_, result⟩
  show (load w).ending = true → _
  rw [loaded]
  exact ending

/-- The peer fails: what was on its way is lost. -/
theorem carried_fail {outbound : Bytes} {next : EventContext} (carried : Carried came read done told s)
    (sends : s.wslay.Sends next) :
    Carried came read done told { s with wslay := next, wsToPeer := .errorLock outbound } := by
  obtain ⟨parted, settled, delivers, -, result⟩ := carried
  refine ⟨parted, settled.sends sends,
    ⟨?_, ?_, fun fine => absurd fine.symm Bool.false_ne_true⟩,
      fun ends => absurd ends Bool.false_ne_true, result⟩
  · show s.forwarded.flatten ++ [] <+: done
    rw [List.append_nil]
    exact (List.prefix_append _ _).trans delivers.out
  · show s.observed ++ [] <+: told
    rw [List.append_nil]
    exact (List.prefix_append _ _).trans delivers.seen

/-- The transport has ended. -/
theorem carried_eof (carried : Carried came read done told s) (reading : s.wsToPeer = .reading)
    (eof : s.transport = .eof) : Carried came read done told { s with wsToPeer := .shutdown .abnormal } := by
  obtain ⟨parted, settled, delivers, -, result⟩ := carried
  have gone : s.transport ≠ .live := eof ▸ Transport.noConfusion
  have same : (load (.shutdown .abnormal)).chunk = (load s.wsToPeer).chunk ∧
      (load (.shutdown .abnormal)).events = (load s.wsToPeer).events ∧ (load s.wsToPeer).failed = false := by
    rw [reading]
    exact ⟨rfl, rfl, rfl⟩
  exact ⟨parted, settled,
    ⟨same.1.symm ▸ delivers.out, same.2.1.symm ▸ delivers.seen, fun _ => by
      rw [same.1, same.2.1]
      exact delivers.all same.2.2⟩,
    fun _ => .inr (.inr gone), result⟩

/-- Bytes come from the client. -/
theorem carried_arrive (carried : Carried came read done told s) (bytes : Bytes) (arrivals : List Nat) :
    Carried (came ++ bytes) read done told { s with
      arrived := s.arrived ++ bytes, arrivals := arrivals } := by
  obtain ⟨parted, settled, delivers, ending, result⟩ := carried
  refine ⟨?_, settled, ⟨delivers.out, delivers.seen, delivers.all⟩, ending, result⟩
  rw [parted, List.append_assoc]

theorem carried_command (carried : Carried came read done told s) (message : Message) :
    Carried came read done told { s with commands := s.commands ++ [message] } := by
  obtain ⟨parted, settled, delivers, ending, result⟩ := carried
  exact ⟨parted, settled, ⟨delivers.out, delivers.seen, delivers.all⟩, ending, result⟩

theorem carries_step (carries : Carries came s) (a : Bridge.Action) :
    Carries (came ++ comes s a) (s.step wslay config a) := by
  obtain ⟨read, done, told, carried⟩ := carries
  have moves := moves_step config s a
  generalize comes s a = brought at moves ⊢
  generalize fetches s a = fetched at moves
  generalize orders s a = ordered at moves
  generalize s.step wslay config a = t at moves ⊢
  cases moves with
  | beside beside =>
      rw [List.append_nil]
      exact ⟨_, _, _, beside.carried carried⟩
  | arrive _ arrivals => exact ⟨_, _, _, carried_arrive carried brought arrivals⟩
  | command message =>
      rw [List.append_nil]
      exact ⟨_, _, _, carried_command carried message⟩
  | receive running reading =>
      rw [List.append_nil]
      exact ⟨_, _, _, carried_receive carried running reading⟩
  | forward writing =>
      rw [List.append_nil]
      exact ⟨_, _, _, carried_forward carried writing⟩
  | fail writing close some =>
      rw [List.append_nil]
      exact ⟨_, _, _, carried_fail carried (s.wslay.sends_post (.close close))⟩
  | eof reading eof =>
      rw [List.append_nil]
      exact ⟨_, _, _, carried_eof carried reading eof⟩

theorem carried_new (config : BridgeConfig) (now : Nat) :
    Carried [] [] [] [] (State.new EventContext.serverInit config now) :=
  ⟨rfl, EventContext.settled_serverInit, ⟨List.prefix_refl _, List.prefix_refl _, fun _ => ⟨rfl, rfl⟩⟩,
    fun ends => absurd ends Bool.false_ne_true, fun ended => absurd ended Bool.false_ne_true⟩

theorem carries_run (config : BridgeConfig) (now : Nat) (actions : List Bridge.Action) :
    Carries (gather (State.step wslay config) comes (State.new EventContext.serverInit config now) actions)
      (run (State.step wslay config) (State.new EventContext.serverInit config now) actions) := by
  have all := gather_invariant (State.step wslay config) comes (P := Carries)
    (fun s a before carries => carries_step carries a) ⟨_, _, _, carried_new config now⟩ actions
  rw [List.nil_append] at all
  exact all

/-- Where the tunnel stands after the bytes `read`. -/
structure Tunnelled (read : Bytes) (s : State EventContext) : Prop where
  out : s.forwarded.flatten ++ (load s.wsToPeer).chunk <+: (Reader.fresh.feed read).out
  seen : s.observed ++ (load s.wsToPeer).events <+: (Reader.fresh.feed read).seen
  all : (load s.wsToPeer).failed = false →
    s.observed ++ (load s.wsToPeer).events = (Reader.fresh.feed read).seen ∧
    ((Reader.fresh.feed read).standing ≠ .illFormed →
      s.forwarded.flatten ++ (load s.wsToPeer).chunk = (Reader.fresh.feed read).out)
  ending : (load s.wsToPeer).ending = true ∨ byClient s.result = true → Left read s

theorem Carried.tunnelled (carried : Carried came read done told s) :
    Tunnelled read s := by
  obtain ⟨parted, settled, delivers, ending, result⟩ := carried
  obtain ⟨out, exact_, seen⟩ := settled.reads
  refine ⟨delivers.out.trans out, seen ▸ delivers.seen, fun fine => ?_, fun ends => ends.elim ending result⟩
  obtain ⟨allOut, allSeen⟩ := delivers.all fine
  exact ⟨allSeen.trans seen, fun formed => allOut.trans (exact_ formed)⟩

/-- Where the tunnel stands after the first `n` bytes of the frames, of the bytes `came`. -/
structure OfFrames (frames : List WebSocket.Frame) (came : Bytes)
    (n : Nat) (s : State EventContext) : Prop where
  parted : came = (frames.flatMap WebSocket.Frame.bytes).take n ++ s.arrived
  out : s.forwarded.flatten ++ (load s.wsToPeer).chunk <+: carried frames n
  seen : s.observed ++ (load s.wsToPeer).events <+: heard frames n
  all : (load s.wsToPeer).failed = false →
    s.forwarded.flatten ++ (load s.wsToPeer).chunk = carried frames n ∧
    s.observed ++ (load s.wsToPeer).events = heard frames n
  ending : (load s.wsToPeer).ending = true ∨ byClient s.result = true →
    (∃ f ∈ frames, (f.opcode : Nat) = 8) ∨ s.transport ≠ .live

theorem Carried.ofFrames {frames : List WebSocket.Frame} (compliant : Compliant none frames)
    (carried_ : Carried came read done told s) (part : came <+: frames.flatMap WebSocket.Frame.bytes) :
    OfFrames frames came read.length s := by
  have tunnelled := carried_.tunnelled
  have parted := carried_.parted
  have front : read <+: frames.flatMap WebSocket.Frame.bytes :=
    (parted ▸ List.prefix_append read _).trans part
  have cut : read = (frames.flatMap WebSocket.Frame.bytes).take read.length :=
    List.prefix_iff_eq_take.mp front
  obtain ⟨standing, out, seen⟩ := Reader.reader_of_compliant compliant read.length
  rw [← cut] at standing out seen
  have fresh : Reader.fresh.out = [] ∧ Reader.fresh.seen = [] := ⟨rfl, rfl⟩
  rw [fresh.1, List.nil_append] at out
  rw [fresh.2, List.nil_append] at seen
  refine ⟨?_, out ▸ tunnelled.out, seen ▸ tunnelled.seen, fun fine => ?_, fun ends => ?_⟩
  · rw [← cut]
    exact parted
  · obtain ⟨allSeen, allOut⟩ := tunnelled.all fine
    have formed : (Reader.fresh.feed read).standing ≠ .illFormed := by
      rcases standing with live | ⟨closed, -⟩
      · rw [live]
        exact Standing.noConfusion
      · rw [closed]
        exact Standing.noConfusion
    exact ⟨(allOut formed).trans out, allSeen.trans seen⟩
  · rcases tunnelled.ending ends with closed | malformed | gone
    · rcases standing with live | ⟨-, close⟩
      · exact absurd (closed.symm.trans live) Standing.noConfusion
      · exact .inl close
    · rcases standing with live | ⟨closed, -⟩
      · exact absurd (malformed.symm.trans live) Standing.noConfusion
      · exact absurd (malformed.symm.trans closed) Standing.noConfusion
    · exact .inr gone

/-- The bytes of a client that keeps to the rules become the data of its frames, and the pings
and pongs that are complete.  The client ends it only with a Close or with its transport. -/
theorem tunnel_of_compliant (config : BridgeConfig) (now : Nat) (actions : List Bridge.Action)
    {frames : List WebSocket.Frame} (compliant : Compliant none frames)
    (came : gather (State.step wslay config) comes (State.new EventContext.serverInit config now) actions <+:
      frames.flatMap WebSocket.Frame.bytes) :
    ∃ n, OfFrames frames
      (gather (State.step wslay config) comes (State.new EventContext.serverInit config now) actions) n
      (run (State.step wslay config) (State.new EventContext.serverInit config now) actions) := by
  obtain ⟨read, done, told, carried_⟩ := carries_run config now actions
  exact ⟨read.length, carried_.ofFrames compliant came⟩

/-- A binary frame and a ping. -/
def binaryAndPing : List WebSocket.Frame :=
  [⟨true, WebSocket.opcodeOf 2, some fun _ => 7, [1, 2]⟩, ⟨true, WebSocket.opcodeOf 9, some fun _ => 7, []⟩]

def plainConfig : BridgeConfig := ⟨⟨1000, ""⟩, ⟨1011, ""⟩, none, false⟩

theorem compliant_binaryAndPing : Compliant none binaryAndPing := by
  refine ⟨by decide, rfl, by decide, ?_⟩
  rw [if_neg (by decide), if_neg (by decide)]
  exact ⟨false, [], rfl, fun text => absurd text Bool.false_ne_true, by decide, rfl, by decide, trivial⟩

theorem tunnel_of_binaryAndPing :
    ∃ n, OfFrames binaryAndPing
      (gather (State.step wslay plainConfig) comes (State.new EventContext.serverInit plainConfig 0)
        [.arrive [0x82, 0x82, 7, 7, 7, 7, 1, 2, 0x89], .wsToPeer .pending, .wsToPeer .ok]) n
      (run (State.step wslay plainConfig) (State.new EventContext.serverInit plainConfig 0)
        [.arrive [0x82, 0x82, 7, 7, 7, 7, 1, 2, 0x89], .wsToPeer .pending, .wsToPeer .ok]) :=
  tunnel_of_compliant plainConfig 0 _ compliant_binaryAndPing (by decide)

/-! ## When wslay reads no more -/

/-- wslay reads no more, and the bridge keeps `kept`. -/
structure Deaf (kept out : Bytes) (seen : List ControlEvent) (s : State EventContext) : Prop where
  read : s.wslay.readEnabled = false
  received : s.wslay.closeReceived = false
  toPeer : s.wslay.toPeer = []
  controlEvents : s.wslay.controlEvents = []
  kept : s.wslay.frameCtx.pending ++ s.arrived = kept
  out : s.forwarded.flatten ++ (load s.wsToPeer).chunk <+: out
  seen : s.observed ++ (load s.wsToPeer).events <+: seen
  stays : s.transport = .live → (load s.wsToPeer).ending = false ∧ byClient s.result = false

variable {kept out : Bytes} {seen : List ControlEvent}

theorem Beside.deaf (beside : Beside s t fetched) (deaf : Deaf kept out seen s) : Deaf kept out seen t := by
  have before (live : t.transport = .live) : s.transport = .live := by
    by_contra gone
    exact beside.transport gone live
  obtain ⟨queue, ctrlQueue, outbound, writeEnabled, closeQueued, closeSent, sends⟩ := beside.turn.sends
  refine ⟨?_, ?_, ?_, ?_, ?_, ?_, ?_, fun live => ⟨?_, ?_⟩⟩
  · rw [sends]
    exact deaf.read
  · rw [sends]
    exact deaf.received
  · rw [sends]
    exact deaf.toPeer
  · rw [sends]
    exact deaf.controlEvents
  · rw [sends, beside.arrived]
    exact deaf.kept
  · rw [beside.forwarded, beside.load]
    exact deaf.out
  · rw [beside.observed, beside.load]
    exact deaf.seen
  · rw [beside.load]
    exact (deaf.stays (before live)).1
  · obtain ⟨goes, result⟩ := deaf.stays (before live)
    by_contra ended
    rcases beside.result (Bool.eq_true_of_not_eq_false ended) with client | ends
    · exact absurd (client.symm.trans result) Bool.noConfusion
    · exact absurd (ends.symm.trans goes) Bool.noConfusion

theorem deaf_receive (deaf : Deaf kept out seen s) (running : ¬ byClient s.result = true)
    (reading : s.wsToPeer = .reading) : Deaf kept out seen (s.receive wslay) := by
  obtain ⟨read, received, toPeer, controlEvents, kept', out', seen', -⟩ := deaf
  obtain ⟨outbound, next, got, sends⟩ :=
    EventContext.receive_of_off read toPeer controlEvents (s.arrived.take READ_CHUNK)
  obtain ⟨queue, ctrlQueue, outbound', writeEnabled, closeQueued, closeSent, rfl⟩ := sends
  have received' : Wslay.wslay.recv s.wslay (s.arrived.take READ_CHUNK) = _ := got
  have parted : (s.wslay.feedInbound (s.arrived.take READ_CHUNK)).frameCtx.pending ++
    s.arrived.drop READ_CHUNK =
      kept := by
    have arrived : (s.wslay.feedInbound (s.arrived.take READ_CHUNK)).frameCtx.pending =
        s.wslay.frameCtx.pending ++ s.arrived.take READ_CHUNK := (List.append_assoc _ _ _).symm
    rw [arrived, List.append_assoc, List.take_append_drop]
    exact kept'
  rw [reading] at out' seen'
  rw [State.receive, received', received]
  obtain ⟨w, loaded, -, after⟩ := dispatch_eq { s with
    arrived := s.arrived.drop READ_CHUNK
    lastActivity := s.now
    wslay := { s.wslay.feedInbound (s.arrived.take READ_CHUNK) with
      sendQueue := queue
      sendCtrlQueue := ctrlQueue
      outbound := outbound'
      writeEnabled := writeEnabled
      closeQueued := closeQueued
      closeSent := closeSent }
    reads := s.reads ++ [s.now] } ⟨[], outbound, false, []⟩
  dsimp only
  rw [if_pos List.isEmpty_nil, after]
  refine ⟨read, received, toPeer, controlEvents, parted, ?_, ?_,
    fun _ => ⟨?_, Bool.eq_false_of_not_eq_true running⟩⟩
  · show _ ++ (load w).chunk <+: _
    rw [loaded]
    exact out'
  · show s.observed ++ [] ++ (load w).events <+: _
    rw [loaded, List.append_nil]
    exact seen'
  · show (load w).ending = false
    rw [loaded]

theorem deaf_step (deaf : Deaf kept out seen s) (a : Bridge.Action) :
    Deaf (kept ++ comes s a) out seen (s.step wslay config a) := by
  have moves := moves_step config s a
  generalize comes s a = brought at moves ⊢
  generalize fetches s a = fetched at moves
  generalize orders s a = ordered at moves
  generalize s.step wslay config a = t at moves ⊢
  cases moves with
  | beside beside =>
      rw [List.append_nil]
      exact beside.deaf deaf
  | arrive _ arrivals =>
      obtain ⟨read, received, toPeer, controlEvents, rfl, out', seen', stays⟩ := deaf
      exact ⟨read, received, toPeer, controlEvents, (List.append_assoc _ _ _).symm, out', seen', stays⟩
  | receive running reading =>
      rw [List.append_nil]
      exact deaf_receive deaf running reading
  | @forward gone writing =>
      obtain ⟨w, loaded, -, after⟩ := dispatch_eq { s with forwarded := s.forwarded ++ [gone.toPeer] } gone
      obtain ⟨read, received, toPeer, controlEvents, kept', out', seen', stays⟩ := deaf
      rw [writing] at out' seen' stays
      rw [List.append_nil, after]
      refine ⟨read, received, toPeer, controlEvents, kept', ?_, ?_, ?_⟩
      · show (s.forwarded ++ [gone.toPeer]).flatten ++ (load w).chunk <+: _
        rw [loaded, List.append_nil, List.flatten_append, List.flatten_singleton]
        exact out'
      · show s.observed ++ State.hooked gone.events ++ (load w).events <+: _
        rw [loaded, List.append_nil]
        exact seen'
      · show _ → (load w).ending = false ∧ _
        rw [loaded]
        exact stays
  | command message =>
      obtain ⟨read, received, toPeer, controlEvents, kept', out', seen', stays⟩ := deaf
      rw [List.append_nil]
      exact ⟨read, received, toPeer, controlEvents, kept', out', seen', stays⟩
  | fail writing close some =>
      obtain ⟨queue, ctrlQueue, outbound, writeEnabled, closeQueued, closeSent, sends⟩ :=
        s.wslay.sends_post (.close close)
      obtain ⟨read, received, toPeer, controlEvents, kept', out', seen', stays⟩ := deaf
      rw [List.append_nil, sends]
      refine ⟨read, received, toPeer, controlEvents, kept', ?_, ?_, fun live => ⟨rfl, (stays live).2⟩⟩
      · show s.forwarded.flatten ++ [] <+: _
        rw [List.append_nil]
        exact (List.prefix_append _ _).trans out'
      · show s.observed ++ [] <+: _
        rw [List.append_nil]
        exact (List.prefix_append _ _).trans seen'
  | eof reading eof =>
      obtain ⟨read, received, toPeer, controlEvents, kept', out', seen', -⟩ := deaf
      rw [reading] at out' seen'
      rw [List.append_nil]
      exact ⟨read, received, toPeer, controlEvents, kept', out', seen',
        fun live => absurd (live.symm.trans eof) Transport.noConfusion⟩

/-- What is not allowed makes it deaf. -/
theorem Carried.deaf (carried : Carried came read done told s)
    (wrong : (Reader.fresh.feed read).standing = .refused ∨ (Reader.fresh.feed read).standing = .illFormed) :
    Deaf (s.wslay.frameCtx.pending ++ s.arrived) (s.forwarded.flatten ++ (load s.wsToPeer).chunk)
      (s.observed ++ (load s.wsToPeer).events) s := by
  obtain ⟨parted, settled, delivers, ending, result⟩ := carried
  obtain ⟨p, front, follows⟩ := settled.parsed
  have standing := follows.standing_feed settled.waiting
  rw [← Reader.feed_append, ← front] at standing
  have open_ : (Reader.fresh.feed read).standing ≠ .closed := by
    rcases wrong with same | same <;> rw [same] <;> exact Standing.noConfusion
  have formed : (Reader.fresh.feed read).standing ≠ .malformed := by
    rcases wrong with same | same <;> rw [same] <;> exact Standing.noConfusion
  have off : s.wslay.readEnabled = false := by
    cases follows with
    | live on out live =>
        rw [live] at standing
        rcases wrong with same | same <;> exact absurd (same.symm.trans standing) Standing.noConfusion
    | closing closing => exact absurd (standing.trans closing.standing) open_
    | off ends => exact ends.read
  have stays {b : Bool} (left : b = true → Left read s) (live : s.transport = .live) : b = false := by
    by_contra ended
    rcases left (Bool.eq_true_of_not_eq_false ended) with closed | malformed | gone
    · exact open_ closed
    · exact formed malformed
    · exact gone live
  exact ⟨off, follows.received (standing ▸ open_), settled.toPeer, settled.controlEvents, rfl,
    List.prefix_refl _, List.prefix_refl _, fun live => ⟨stays ending live, stays result live⟩⟩

/-- What became of the bytes `brought` from one state to the other. -/
structure Retains (brought : Bytes) (s t : State EventContext) : Prop where
  kept : t.wslay.frameCtx.pending ++ t.arrived = s.wslay.frameCtx.pending ++ s.arrived ++ brought
  out : t.forwarded.flatten ++ (load t.wsToPeer).chunk <+: s.forwarded.flatten ++ (load s.wsToPeer).chunk
  seen : t.observed ++ (load t.wsToPeer).events <+: s.observed ++ (load s.wsToPeer).events
  stays : t.transport = .live → (load t.wsToPeer).ending = false ∧ byClient t.result = false

/-- Once a frame was read that is not allowed, or text that is not UTF-8, nothing more goes to
the peer or to the hooks.  All that comes from then on is kept, and the client is not taken to
have left as long as its transport is there. -/
theorem tunnel_keeps (config : BridgeConfig) (now : Nat) (actions more : List Bridge.Action) (read : Bytes)
    (came : gather (State.step wslay config) comes (State.new EventContext.serverInit config now) actions =
      read ++ (run (State.step wslay config) (State.new EventContext.serverInit config now) actions).arrived)
    (wrong : (Reader.fresh.feed read).standing = .refused ∨ (Reader.fresh.feed read).standing = .illFormed) :
    let s := run (State.step wslay config) (State.new EventContext.serverInit config now) actions
    Retains (gather (State.step wslay config) comes s more) s (run (State.step wslay config) s more) := by
  intro s
  obtain ⟨read', done, told, carried⟩ := carries_run config now actions
  obtain rfl : read = read' := List.append_cancel_right (came.symm.trans carried.parted)
  have deaf := carried.deaf wrong
  have all := gather_invariant (State.step wslay config) comes
    (P := fun brought t => Deaf brought (s.forwarded.flatten ++ (load s.wsToPeer).chunk)
      (s.observed ++ (load s.wsToPeer).events) t)
    (fun s a before deaf => deaf_step deaf a) deaf more
  exact ⟨all.kept, all.out, all.seen, all.stays⟩

/-- A frame without a mask, and then a good one. -/
theorem tunnel_keeps_unmasked :
    let s := run (State.step wslay plainConfig) (State.new EventContext.serverInit plainConfig 0)
      [.arrive [0x82, 0], .wsToPeer .pending]
    Retains (gather (State.step wslay plainConfig) comes s [.arrive [0x82, 0x81, 0, 0, 0, 0, 1],
      .wsToPeer .ok]) s
      (run (State.step wslay plainConfig) s [.arrive [0x82, 0x81, 0, 0, 0, 0, 1], .wsToPeer .ok]) :=
  tunnel_keeps plainConfig 0 [.arrive [0x82, 0], .wsToPeer .pending] _ [0x82, 0] (by decide)
    (.inl (by decide))

end Tunnel

end H2ts
