import H2ts.Server.Upstream
import H2ts.Connection.Outbound

/-!
# End to end

Between the client and the server there is a WebSocket, and the bridge.  Both directions are
strings of bytes, and the frames of HTTP/2 in them do not care how they are cut.  So the server
reads what the client has sent, and the client takes what the server has answered, frame by
frame and in order, wherever a run stands (`requests_arrive`, `responses_arrive`).
-/

namespace H2ts

/-- A front of the bytes of frames gives a front of the frames. -/
theorem drain_part {limit : Nat} (small : limit ≤ 2 ^ 24 - 1) {frames : List Frame}
    (formed : ∀ f ∈ frames, f.WellFormed limit) {bytes : Bytes}
    (part : bytes <+: frames.flatMap serializeFrame) :
    ∃ k left, (frameScanner limit).drain bytes = .ok (frames.take k, left) := by
  obtain ⟨later, whole⟩ := part
  have all := drain_serializeFrame small formed
  rw [← whole] at all
  obtain ⟨units, left, drained, front⟩ := (frameScanner limit).drain_part all
  exact ⟨units.length, left, by rw [drained, ← List.prefix_iff_eq_take.mp front]⟩

namespace Tunnel

open Machine Wslay Wslay.Reader Bridge WebSocket

/-! ## What a client sends -/

/-- The data of a frame that is not for control. -/
def bodyOf (f : WebSocket.Frame) : Bytes := if 8 ≤ (f.opcode : Nat) then [] else f.data

theorem dataIn_front (f : WebSocket.Frame) (n : Nat) : dataIn f n <+: bodyOf f := by
  rw [dataIn, bodyOf]
  split
  · exact List.prefix_refl _
  · exact List.take_prefix _ _

theorem dataIn_whole {f : WebSocket.Frame} {n : Nat} (whole : f.bytes.length ≤ n) :
    dataIn f n = bodyOf f := by
  have total : f.bytes.length = headLength f + f.payload.length := by
    rw [bytes_head, List.length_append, length_head]
  have length := length_data f
  rw [dataIn, bodyOf]
  split
  · rfl
  · exact List.take_of_length_le (by omega)

/-- What is carried is a front of the data of all frames. -/
theorem carried_front (frames : List WebSocket.Frame) (n : Nat) :
    carried frames n <+: frames.flatMap bodyOf := by
  induction frames generalizing n with
  | nil => exact List.prefix_refl _
  | cons f frames ih =>
      rw [carried, List.flatMap_cons]
      split
      next whole =>
        rw [dataIn_whole whole.1]
        exact (List.prefix_append_right_inj _).mpr (ih _)
      next =>
        rw [List.append_nil]
        exact (dataIn_front f n).trans (List.prefix_append _ _)

theorem length_cons_frames (f : WebSocket.Frame) (frames : List WebSocket.Frame) :
    f.bytes.length ≤ ((f :: frames).flatMap WebSocket.Frame.bytes).length ∧
      ((f :: frames).flatMap WebSocket.Frame.bytes).length - f.bytes.length =
        (frames.flatMap WebSocket.Frame.bytes).length := by
  rw [List.flatMap_cons, List.length_append]
  exact ⟨Nat.le_add_right _ _, Nat.add_sub_cancel_left _ _⟩

/-- Without a Close, all of it. -/
theorem carried_whole {frames : List WebSocket.Frame} (stays : ∀ f ∈ frames, (f.opcode : Nat) ≠ 8) :
    carried frames (frames.flatMap WebSocket.Frame.bytes).length = frames.flatMap bodyOf := by
  induction frames with
  | nil => rfl
  | cons f frames ih =>
      obtain ⟨long, rest⟩ := length_cons_frames f frames
      rw [carried, if_pos ⟨long, stays f (.head _)⟩, rest, dataIn_whole long, List.flatMap_cons,
        ih fun other mem => stays other (.tail _ mem)]

/-- When everything has come and was read, all of the data has gone on. -/
theorem forwarded_whole {s : State EventContext} {came read done : Bytes} {told : List ControlEvent}
    {frames : List WebSocket.Frame} (compliant : Compliant none frames)
    (stays : ∀ f ∈ frames, (f.opcode : Nat) ≠ 8) (carried_ : Carried came read done told s)
    (reading : s.wsToPeer = .reading) (drained : s.arrived = [])
    (whole : came = frames.flatMap WebSocket.Frame.bytes) : s.forwarded.flatten = frames.flatMap bodyOf := by
  have all := (carried_.ofFrames compliant (whole ▸ List.prefix_refl came)).all
  have parted := carried_.parted
  rw [drained, List.append_nil, whole] at parted
  rw [reading, ← parted, carried_whole stays] at all
  have out := (all rfl).1
  have nothing : (load .reading).chunk = [] := rfl
  rw [nothing, List.append_nil] at out
  exact out

/-- What `start_send` of a chunk makes the WebSocket send. -/
def sinkFrame (key : Fin 4 → UInt8) (chunk : Bytes) : WebSocket.Frame :=
  ⟨true, opcodeOf 2, some key, mask key 0 chunk⟩

theorem bodyOf_sinkFrame (key : Fin 4 → UInt8) (chunk : Bytes) : bodyOf (sinkFrame key chunk) = chunk := by
  show mask key 0 (mask key 0 chunk) = chunk
  exact mask_mask key 0 chunk

/-- The chunks of a client become frames that keep to the rules. -/
theorem compliant_sink (key : Fin 4 → UInt8) {chunks : List Bytes}
    (short : ∀ chunk ∈ chunks, chunk.length ≤ MAX_RECV_MSG_LENGTH) :
    Compliant none (chunks.map (sinkFrame key)) := by
  induction chunks with
  | nil => trivial
  | cons chunk chunks ih =>
      have fits : (mask key 0 chunk).length ≤ MAX_RECV_MSG_LENGTH := by
        rw [length_mask]
        exact short chunk (.head _)
      have limit : MAX_RECV_MSG_LENGTH < 2 ^ 63 := by decide
      have opcode : ((sinkFrame key chunk).opcode : Nat) = 2 := rfl
      have legal : (sinkFrame key chunk).Legal := by
        refine ⟨?_, fun control => ?_, Nat.lt_of_le_of_lt fits limit⟩
        · rw [opcode]
          decide
        · rw [opcode] at control
          omega
      refine ⟨legal, rfl, fits, ?_⟩
      rw [opcode, if_neg (by decide), if_neg (by decide)]
      exact ⟨false, [], rfl, fun text => absurd text Bool.false_ne_true,
        ih fun other mem => short other (.tail _ mem)⟩

theorem flatMap_bodyOf_sink (key : Fin 4 → UInt8) (chunks : List Bytes) :
    (chunks.map (sinkFrame key)).flatMap bodyOf = chunks.flatten := by
  induction chunks with
  | nil => rfl
  | cons chunk chunks ih =>
      rw [List.map_cons, List.flatMap_cons, ih, bodyOf_sinkFrame, List.flatten_cons]

/-! ## Requests -/

/-- A server that reads the preface, and then the first `k` of the frames. -/
structure Reads (limit k : Nat) (frames : List H2ts.Frame) (bytes : Bytes) : Prop where
  preface : bytes.take CONNECTION_PREFACE.length <+: CONNECTION_PREFACE
  frames : ∀ chunks, chunks.flatten = bytes.drop CONNECTION_PREFACE.length →
    ∃ d, (FrameDecoder.new limit).pushAll chunks = (d, .ok (frames.take k))

theorem reads_part {limit : Nat} (small : limit ≤ 2 ^ 24 - 1) {frames : List H2ts.Frame}
    (formed : ∀ f ∈ frames, f.WellFormed limit) {bytes : Bytes}
    (part : bytes <+: CONNECTION_PREFACE ++ frames.flatMap serializeFrame) :
      ∃ k, Reads limit k frames bytes := by
  have front : bytes.take CONNECTION_PREFACE.length <+: CONNECTION_PREFACE := by
    have cut := part.take CONNECTION_PREFACE.length
    rw [List.take_left] at cut
    exact cut
  have rest : bytes.drop CONNECTION_PREFACE.length <+: frames.flatMap serializeFrame := by
    have cut := part.drop CONNECTION_PREFACE.length
    rw [List.drop_left] at cut
    exact cut
  obtain ⟨k, left, drained⟩ := drain_part small formed rest
  refine ⟨k, front, fun chunks cut => ?_⟩
  rw [FrameDecoder.pushAll_new, cut, drained]
  exact ⟨_, rfl⟩

theorem reads_whole {limit : Nat} (small : limit ≤ 2 ^ 24 - 1) {frames : List H2ts.Frame}
    (formed : ∀ f ∈ frames, f.WellFormed limit) :
    Reads limit frames.length frames (CONNECTION_PREFACE ++ frames.flatMap serializeFrame) := by
  refine ⟨?_, fun chunks cut => ?_⟩
  · rw [List.take_left]
  · rw [List.drop_left] at cut
    rw [FrameDecoder.pushAll_new, cut, drain_serializeFrame small formed, List.take_length]
    exact ⟨_, rfl⟩

open Client in
/-- What the client sends comes to the server, which reads frames up to a size that it has not
exceeded in its SETTINGS.  Whatever the client does, and whatever frames its WebSocket makes of its
bytes, the server has in every run of the bridge a front of the frames that were sent; and all of
them, once everything has come and was read. -/
theorem requests_arrive (options : ConnectOptions) (acts : List H2ts.Action) {limit : Nat}
    (large : 16384 ≤ limit) (small : limit ≤ 2 ^ 24 - 1) (announced : ∀ a ∈ acts, Announces limit a)
    {frames : List WebSocket.Frame} (compliant : Compliant none frames)
    (carries : frames.flatMap bodyOf = History.outbound (after options acts).history)
    (config : BridgeConfig) (now : Nat) (actions : List Bridge.Action)
    (came : gather (State.step wslay config) comes (State.new EventContext.serverInit config now) actions <+:
      frames.flatMap WebSocket.Frame.bytes) :
    let s := run (State.step wslay config) (State.new EventContext.serverInit config now) actions
    let sent := (History.sentFrames (after options acts).history).map Frame.onWire
    (∃ k, Reads limit k sent s.forwarded.flatten) ∧
      ((∀ f ∈ frames, (f.opcode : Nat) ≠ 8) → s.wsToPeer = .reading → s.arrived = [] →
        gather (State.step wslay config) comes (State.new EventContext.serverInit config now) actions =
          frames.flatMap WebSocket.Frame.bytes →
        Reads limit sent.length sent s.forwarded.flatten) := by
  intro s sent
  obtain ⟨written, formed⟩ := written_after options acts large announced
  obtain ⟨read, done, told, carried_⟩ := carries_run config now actions
  refine ⟨?_, fun stays reading drained whole => ?_⟩
  · have part : s.forwarded.flatten <+: CONNECTION_PREFACE ++ sent.flatMap serializeFrame := by
      have arrives := carried_.ofFrames compliant came
      rw [← written, ← carries]
      exact (List.prefix_append _ _).trans (arrives.out.trans (carried_front frames _))
    exact reads_part small formed part
  · have total : s.forwarded.flatten = CONNECTION_PREFACE ++ sent.flatMap serializeFrame := by
      rw [forwarded_whole compliant stays carried_ reading drained whole, carries, written]
    rw [total]
    exact reads_whole small formed

/-- SETTINGS with a size that is out of range, for which the client says goodbye. -/
def oversized : List H2ts.Action := [.frame (.settings false { maxFrameSize := some 0x1000000 })]

/-- All that the client has sent comes. -/
theorem requests_arrive_preface :
    let chunks := History.chunks (Client.after {} oversized).history
    let frames := chunks.map (sinkFrame fun _ => 7)
    let actions : List Bridge.Action := [.arrive (frames.flatMap WebSocket.Frame.bytes)] ++
      List.replicate 4 (.wsToPeer .ok)
    let s := run (State.step wslay plainConfig) (State.new EventContext.serverInit plainConfig 0) actions
    let sent := (History.sentFrames (Client.after {} oversized).history).map Frame.onWire
    Reads (2 ^ 24 - 1) sent.length sent s.forwarded.flatten ∧ sent.length = 3 := by
  intro chunks frames actions s sent
  have arrive := requests_arrive {} oversized (by decide) (by decide) (fun a _ => Client.announces_largest a)
    (compliant_sink (fun _ => 7) (by decide +kernel)) (flatMap_bodyOf_sink _ chunks) plainConfig 0 actions
    (by decide +kernel)
  exact ⟨arrive.2 (by decide +kernel) (by decide +kernel) (by decide +kernel) (by decide +kernel),
    by decide +kernel⟩

/-! ## Responses -/

/-- `onmessage`: bytes that are not empty go on. -/
def onMessage (f : WebSocket.Frame) : Option Bytes :=
  if (f.opcode : Nat) = 2 then if f.payload.isEmpty then none else some f.payload else none

/-- What the transport of the client hands on of the frames. -/
def messages (frames : List WebSocket.Frame) : List Bytes := frames.filterMap onMessage

theorem flatten_messages (frames : List WebSocket.Frame) :
    (messages frames).flatten = frames.flatMap dataOf := by
  have handed (f : WebSocket.Frame) : (onMessage f).toList.flatten = dataOf f := by
    rw [onMessage, dataOf]
    split
    · cases f.payload with
      | nil => rfl
      | cons byte bytes => exact List.append_nil (byte :: bytes)
    · rfl
  induction frames with
  | nil => rfl
  | cons f frames ih =>
      rw [messages, List.filterMap_cons, List.flatMap_cons, ← ih, ← handed]
      cases onMessage f with
      | none => rfl
      | some bytes => rw [Option.toList_some, List.flatten_singleton, List.flatten_cons, messages]

/-- What the server sends comes to the client.  In every run of the bridge, the decoder of the client
gets a front of the frames of the server out of the messages that it was sent; and all of them, once
everything was read from the server and nothing is on its way. -/
theorem responses_arrive (config : BridgeConfig) (now : Nat) (actions : List Bridge.Action)
    (fair : ∀ a ∈ actions, Fair False a) {limit : Nat} (small : limit ≤ 2 ^ 24 - 1) {frames : List H2ts.Frame}
    (formed : ∀ f ∈ frames, f.WellFormed limit)
    (wrote : gather (State.step wslay config) fetches
      (State.new EventContext.serverInit config now) actions <+:
      frames.flatMap serializeFrame) :
    let s := run (State.step wslay config) (State.new EventContext.serverInit config now) actions
    ∃ received flying, Receives s .peerToWs received flying ∧
      (∃ k d, (FrameDecoder.new limit).pushAll (messages received) = (d, .ok (frames.take k))) ∧
      (flying = [] → gather (State.step wslay config) fetches
        (State.new EventContext.serverInit config now) actions =
          frames.flatMap serializeFrame →
        (FrameDecoder.new limit).pushAll (messages received) = (.new limit, .ok frames)) := by
  intro s
  obtain ⟨o, bears, total⟩ := delivers_run config now actions fair
  refine ⟨o.sent, o.flying .peerToWs, bears.receives _, ?_, fun landed whole => ?_⟩
  · have part : (messages o.sent).flatten <+: frames.flatMap serializeFrame := by
      rw [flatten_messages]
      refine List.IsPrefix.trans ?_ wrote
      rw [← total, List.flatMap_append]
      exact List.prefix_append _ _
    obtain ⟨k, left, drained⟩ := drain_part small formed part
    rw [FrameDecoder.pushAll_new, drained]
    exact ⟨k, _, rfl⟩
  · rw [landed, List.append_nil, whole] at total
    rw [FrameDecoder.pushAll_new, flatten_messages, total, drain_serializeFrame small formed]
    rfl

/-- An acknowledgement, of which the server has written the first bytes. -/
theorem responses_arrive_ack :
    let actions : List Bridge.Action := [.peerToWs (.bytes [0, 0, 0, 4]) .ok]
    let s := run (State.step wslay plainConfig) (State.new EventContext.serverInit plainConfig 0) actions
    ∃ received flying, Receives s .peerToWs received flying ∧
      (∃ k d, (FrameDecoder.new 16384).pushAll (messages received) =
        (d, .ok ([H2ts.Frame.settings true {}].take k))) ∧
      (flying = [] →
        gather (State.step wslay plainConfig) fetches
          (State.new EventContext.serverInit plainConfig 0) actions =
          [H2ts.Frame.settings true {}].flatMap serializeFrame →
        (FrameDecoder.new 16384).pushAll (messages received) = (.new 16384, .ok [.settings true {}])) := by
  refine responses_arrive plainConfig 0 _ ?_ (by decide) (by decide) (by decide +kernel)
  simp only [List.forall_mem_cons, Fair, List.not_mem_nil, false_implies, implies_true, and_true]
  decide

end Tunnel

end H2ts
