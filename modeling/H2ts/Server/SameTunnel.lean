import H2ts.Go.ByteStream
import H2ts.Server.EndToEnd

/-!
# The two tunnels

The gateway in Rust hands a client's bytes to wslay, and the one in Go reads the frames itself.
For a client that keeps to the rules it makes no difference: what Rust forwards is what `Read`
returns in Go, and the same pings are answered (`same_tunnel`).
-/

namespace H2ts

namespace Tunnel

open BigEndian Machine Wslay Wslay.Reader Bridge WebSocket

/-! ## Frames for the server in Go -/

/-- The opcode, if it is known. -/
def opcodeIn (opcode : Nat) : Go.Opcode :=
  if opcode = 0 then .continuation
  else if opcode = 1 then .text
  else if opcode = 2 then .binary
  else if opcode = 8 then .close
  else if opcode = 9 then .ping
  else .pong

theorem code_opcodeIn (opcode : Fin 16) (known : WebSocket.Known opcode) :
    (opcodeIn opcode).code = opcode := by
  have all : ∀ opcode : Fin 16, WebSocket.Known opcode → (opcodeIn opcode).code = opcode := by decide
  exact all opcode known

/-- The shortest form. -/
def formOf (length : Nat) : Go.LengthForm :=
  if length ≤ 125 then .short else if length < 2 ^ 16 then .medium else .long

theorem formOf_eq (length : Nat) : (formOf length).code length = shortLength length ∧
    (formOf length).ext length = be (extWidth (shortLength length)) length := by
  unfold formOf shortLength
  split
  next short =>
    have none : extWidth length = 0 := by
      rw [extWidth, if_neg (by omega), if_neg (by omega)]
    rw [none]
    exact ⟨rfl, rfl⟩
  next =>
    split
    · exact ⟨rfl, rfl⟩
    · exact ⟨rfl, rfl⟩

theorem le_limit_formOf {length : Nat} (legal : length < 2 ^ 63) : length ≤ (formOf length).limit := by
  unfold formOf
  split
  next short => exact short
  next =>
    split
    next medium => exact Nat.le_sub_one_of_lt medium
    next =>
      show length ≤ 2 ^ 64 - 1
      omega

theorem xorMask_eq (key : Fin 4 → UInt8) (pos : Nat) (bytes : Bytes) :
    Go.Conn.xorMask key pos bytes = mask key pos bytes := by
  induction bytes generalizing pos with
  | nil => rfl
  | cons b bytes ih =>
      rw [Go.Conn.xorMask, mask, ih]
      rfl

/-- A frame of the client, as the server in Go has it. -/
structure Corresponds (f : WebSocket.Frame) (g : Go.ClientFrame) : Prop where
  bytes : g.bytes = f.bytes
  data : g.data = bodyOf f
  pong : g.pong = ((eventOf f).flatMap pingOf).map (Go.Conn.controlFrame Go.opPong)
  close : g.opcode = .close → (f.opcode : Nat) = 8

theorem corresponds {f : WebSocket.Frame} (legal : f.Legal)
    {key : Fin 4 → UInt8} (masked : f.key = some key) :
    ∃ g, Corresponds f g := by
  obtain ⟨known, whole, fits⟩ := legal
  have code := code_opcodeIn f.opcode known
  have length := length_data f
  have control : (opcodeIn f.opcode).isControl = decide (8 ≤ (f.opcode : Nat)) := by
    rw [Go.Opcode.isControl_eq, code]
  have small : f.data.length ≤ Go.maxInt64 := by
    rw [length]
    exact Nat.le_sub_one_of_lt fits
  refine ⟨⟨opcodeIn f.opcode, f.fin, formOf f.payload.length, key, f.data, ?_, small, ?_⟩, ?_, ?_, ?_, ?_⟩
  · rw [length]
    exact le_limit_formOf fits
  · intro isControl
    rw [control] at isControl
    rw [length]
    exact whole (of_decide_eq_true isControl)
  · obtain ⟨short, ext⟩ := formOf_eq f.payload.length
    have body : Go.Conn.xorMask key 0 f.data = f.payload := by
      rw [xorMask_eq, data_masked masked, mask_mask]
    show [UInt8.ofNat (128 * f.fin.toNat + 16 * 0 + (opcodeIn f.opcode).code),
      UInt8.ofNat (128 * true.toNat + (formOf f.payload.length).code f.data.length)] ++
        ((formOf f.payload.length).ext f.data.length ++ List.ofFn key) ++ Go.Conn.xorMask key 0 f.data = _
    rw [length, short, ext, code, body]
    have keyBytes : f.keyBytes = List.ofFn key := by
      rw [WebSocket.Frame.keyBytes, masked]
      rfl
    have some : f.key.isSome = true := by rw [masked]; rfl
    rw [WebSocket.Frame.bytes, WebSocket.Frame.first, WebSocket.Frame.second, WebSocket.Frame.ext,
      keyBytes, some, List.append_assoc, List.append_assoc]
    rfl
  · show (if (opcodeIn f.opcode).isControl then [] else f.data) = bodyOf f
    rw [control, bodyOf]
    by_cases high : 8 ≤ (f.opcode : Nat)
    · rw [decide_eq_true high, if_pos rfl, if_pos high]
    · rw [decide_eq_false high, if_neg Bool.false_ne_true, if_neg high]
  · show (if opcodeIn f.opcode = .ping then [Go.Conn.controlFrame Go.opPong f.data] else []) = _
    have ping : opcodeIn f.opcode = .ping ↔ (f.opcode : Nat) = 9 := by
      constructor
      · intro same
        rw [same] at code
        rw [← code]
        rfl
      · intro nine
        rw [nine]
        rfl
    by_cases nine : (f.opcode : Nat) = 9
    · rw [if_pos (ping.mpr nine), eventOf, if_pos nine]
      rfl
    · rw [if_neg fun same => nine (ping.mp same), eventOf, if_neg nine]
      split <;> rfl
  · intro isClose
    have close : opcodeIn f.opcode = .close := isClose
    rw [close] at code
    rw [← code]
    rfl

/-- A client that keeps to the rules sends legal frames, up to a Close. -/
theorem legal_of_compliant {message : Option (Bool × Bytes)} {frames : List WebSocket.Frame}
    (compliant : Compliant message frames) (stays : ∀ f ∈ frames, (f.opcode : Nat) ≠ 8) :
    ∀ f ∈ frames, f.Legal ∧ f.key.isSome = true := by
  induction frames generalizing message with
  | nil =>
      intro f mem
      exact absurd mem List.not_mem_nil
  | cons f frames ih =>
      obtain ⟨legal, masked, -, rest⟩ := compliant
      have later : ∀ f ∈ frames, (f.opcode : Nat) ≠ 8 := fun other mem => stays other (.tail _ mem)
      rw [if_neg (stays f (.head _))] at rest
      intro other mem
      rcases List.mem_cons.mp mem with rfl | mem
      · exact ⟨legal, masked⟩
      · split at rest
        · exact ih rest later other mem
        · obtain ⟨text, got, -, -, rest⟩ := rest
          exact ih rest later other mem

theorem all_correspond {frames : List WebSocket.Frame} (legal : ∀ f ∈ frames, f.Legal ∧ f.key.isSome = true) :
    ∃ clientFrames, List.Forall₂ Corresponds frames clientFrames := by
  induction frames with
  | nil => exact ⟨[], .nil⟩
  | cons f frames ih =>
      obtain ⟨legalFirst, some⟩ := legal f (.head _)
      obtain ⟨key, masked⟩ := Option.isSome_iff_exists.mp some
      obtain ⟨g, same⟩ := corresponds legalFirst masked
      obtain ⟨clientFrames, rest⟩ := ih fun other mem => legal other (.tail _ mem)
      exact ⟨g :: clientFrames, .cons same rest⟩

section Corresponding

variable {frames : List WebSocket.Frame} {clientFrames : List Go.ClientFrame}

theorem flatMap_corresponding {β : Type} {ofFrame : WebSocket.Frame → List β}
    {ofClient : Go.ClientFrame → List β}
    (all : List.Forall₂ Corresponds frames clientFrames)
    (same : ∀ f g, Corresponds f g → ofClient g = ofFrame f) :
    clientFrames.flatMap ofClient = frames.flatMap ofFrame := by
  induction all with
  | nil => rfl
  | cons one rest ih => rw [List.flatMap_cons, List.flatMap_cons, same _ _ one, ih]

theorem open_corresponding (all : List.Forall₂ Corresponds frames clientFrames)
    (stays : ∀ f ∈ frames, (f.opcode : Nat) ≠ 8) : ∀ g ∈ clientFrames, g.opcode ≠ .close := by
  induction all with
  | nil =>
      intro g mem
      exact absurd mem List.not_mem_nil
  | cons one rest ih =>
      intro g mem
      rcases List.mem_cons.mp mem with rfl | mem
      · exact fun close => stays _ (.head _) (one.close close)
      · exact ih (fun other inside => stays other (.tail _ inside)) g mem

end Corresponding

/-- The bytes that `Read` returns of the frames, and the pongs that it writes. -/
theorem transcript_compliant {frames : List WebSocket.Frame} (compliant : Compliant none frames)
    (stays : ∀ f ∈ frames, (f.opcode : Nat) ≠ 8) {r : Bufio.Reader UInt8}
    (content : r.content = frames.flatMap WebSocket.Frame.bytes) (started : Nat) {sizes : Nat → Nat}
    (positive : ∀ i, 0 < sizes i) :
    ∃ reads events, (Go.newConn r none started).transcript reads sizes = some (events, .eof) ∧
      Go.Event.returned events = frames.flatMap bodyOf ∧
      Go.Event.written events =
        ((frames.flatMap eventOf).flatMap pingOf).map (Go.Conn.controlFrame Go.opPong) := by
  obtain ⟨clientFrames, all⟩ := all_correspond (legal_of_compliant compliant stays)
  have bytes := flatMap_corresponding all fun _ _ same => same.bytes
  have data := flatMap_corresponding all fun _ _ same => same.data
  have pongs := flatMap_corresponding all fun _ _ same => same.pong
  have holds : (Go.newConn r none started).Holds [] (Go.Conn.inbound clientFrames .eof) := by
    refine ⟨?_, rfl, rfl⟩
    show r.content = clientFrames.flatMap Go.ClientFrame.bytes ++ []
    rw [List.append_nil, bytes, content]
  obtain ⟨reads, err, played, rfl⟩ := Go.Conn.transcript_eq positive (open_corresponding all stays) holds
  rw [List.map_nil, List.nil_append, Go.Ending.answer, List.map_nil, List.append_nil] at played
  refine ⟨reads, _, played, ?_, ?_⟩
  · rw [Go.ClientFrame.returned_script, data]
  · rw [Go.ClientFrame.written_script, pongs, List.flatMap_assoc, List.map_flatMap]

/-! ## What the server in Rust hears -/

theorem heard_front (frames : List WebSocket.Frame) (n : Nat) :
    heard frames n <+: frames.flatMap eventOf := by
  induction frames generalizing n with
  | nil => exact List.prefix_refl _
  | cons f frames ih =>
      rw [heard, List.flatMap_cons]
      split
      · exact (List.prefix_append_right_inj _).mpr (ih _)
      · exact List.nil_prefix

/-- Without a Close, everything. -/
theorem heard_whole {frames : List WebSocket.Frame} (stays : ∀ f ∈ frames, (f.opcode : Nat) ≠ 8) :
    heard frames (frames.flatMap WebSocket.Frame.bytes).length = frames.flatMap eventOf := by
  induction frames with
  | nil => rfl
  | cons f frames ih =>
      obtain ⟨long, rest⟩ := length_cons_frames f frames
      rw [heard, if_pos ⟨long, stays f (.head _)⟩, rest, List.flatMap_cons,
        ih fun other mem => stays other (.tail _ mem)]

/-- What was heard by then. -/
theorem told_compliant {s : State EventContext} {came read done : Bytes} {told : List ControlEvent}
    {frames : List WebSocket.Frame} (compliant : Compliant none frames)
    (carried_ : Carried came read done told s)
    (part : came <+: frames.flatMap WebSocket.Frame.bytes) : told = heard frames read.length := by
  have parted := carried_.parted
  have front : read <+: frames.flatMap WebSocket.Frame.bytes :=
    (parted ▸ List.prefix_append read _).trans part
  have cut : read = (frames.flatMap WebSocket.Frame.bytes).take read.length :=
    List.prefix_iff_eq_take.mp front
  obtain ⟨-, -, seen⟩ := reader_of_compliant compliant read.length
  obtain ⟨-, -, told_⟩ := carried_.settled.reads
  rw [← cut] at seen
  exact told_.trans seen

/-! ## Both -/

/-- A client that keeps to the rules and does not close gets the same from both servers, but for the
pongs that the application sends.  At any time, what the bridge in Rust has forwarded is a front of
what `Read` returns in Go, and its pongs answer a front of the pings that Go answers.  Once
everything was read, nothing is missing; a pong may be, if the bridge has queued a Close. -/
theorem same_tunnel (config : BridgeConfig) (now : Nat) (actions : List Bridge.Action)
    (fair : ∀ a ∈ actions, Fair True a) {frames : List WebSocket.Frame} (compliant : Compliant none frames)
    (stays : ∀ f ∈ frames, (f.opcode : Nat) ≠ 8)
    (came : gather (State.step wslay config) comes (State.new EventContext.serverInit config now) actions <+:
      frames.flatMap WebSocket.Frame.bytes)
    (r : Bufio.Reader UInt8) (content : r.content = frames.flatMap WebSocket.Frame.bytes) (started : Nat)
    (sizes : Nat → Nat) (positive : ∀ i, 0 < sizes i) :
    let s := run (State.step wslay config) (State.new EventContext.serverInit config now) actions
    ∃ reads events sent flying, (Go.newConn r none started).transcript reads sizes = some (events, .eof) ∧
      Receives s .wsToPeer sent flying ∧
      s.forwarded.flatten <+: Go.Event.returned events ∧
      ((sent ++ flying).flatMap pongOf).map (Go.Conn.controlFrame Go.opPong) <+: Go.Event.written events ∧
      (s.wsToPeer = .reading → s.arrived = [] →
        gather (State.step wslay config) comes (State.new EventContext.serverInit config now) actions =
          frames.flatMap WebSocket.Frame.bytes →
        s.forwarded.flatten = Go.Event.returned events ∧
          (s.wslay.closeQueued = false →
            ((sent ++ flying).flatMap pongOf).map (Go.Conn.controlFrame Go.opPong) =
              Go.Event.written events)) := by
  intro s
  obtain ⟨read, done, told, fetched, o, carried_, serves⟩ := answers_run config now actions fair
  obtain ⟨reads, events, played, returned, written⟩ :=
    transcript_compliant compliant stays content started positive
  have heard_ := told_compliant compliant carried_ came
  obtain ⟨total, tally, part, all⟩ := serves.books.pongs trivial
  rw [← tally.total, heard_] at part all
  refine ⟨reads, events, o.sent, o.flying .wsToPeer, played, serves.bears.receives .wsToPeer, ?_, ?_,
    fun reading drained whole => ⟨?_, fun open_ => ?_⟩⟩
  · rw [returned]
    exact (List.prefix_append _ _).trans
      ((carried_.ofFrames compliant came).out.trans (carried_front frames _))
  · rw [written]
    exact (part.trans ((heard_front frames _).flatMap pingOf)).map _
  · rw [returned]
    exact forwarded_whole compliant stays carried_ reading drained whole
  · have parted := carried_.parted
    rw [drained, List.append_nil, whole] at parted
    rw [written, all open_, ← parted, heard_whole stays]

/-- A binary frame and a ping, in two pieces for the one and in three for the other. -/
theorem same_tunnel_binaryAndPing :
    let actions : List Bridge.Action :=
      [.arrive [0x82, 0x82, 7, 7, 7, 7, 1, 2, 0x89], .wsToPeer .pending,
        .wsToPeer .ok, .arrive [0x80, 7, 7, 7, 7]]
    let r : Bufio.Reader UInt8 :=
      ⟨4096, [0x82], [⟨[0x82, 7, 7, 7, 7, 1], List.cons_ne_nil _ _⟩,
        ⟨[2, 0x89, 0x80, 7, 7, 7, 7], List.cons_ne_nil _ _⟩]⟩
    let s := run (State.step wslay plainConfig) (State.new EventContext.serverInit plainConfig 0) actions
    ∃ reads events sent flying, (Go.newConn r none 0).transcript reads (fun _ => 1) = some (events, .eof) ∧
      Receives s .wsToPeer sent flying ∧
      s.forwarded.flatten <+: Go.Event.returned events ∧
      ((sent ++ flying).flatMap pongOf).map (Go.Conn.controlFrame Go.opPong) <+: Go.Event.written events ∧
      (s.wsToPeer = .reading → s.arrived = [] →
        gather (State.step wslay plainConfig) comes
          (State.new EventContext.serverInit plainConfig 0) actions =
          binaryAndPing.flatMap WebSocket.Frame.bytes →
        s.forwarded.flatten = Go.Event.returned events ∧
          (s.wslay.closeQueued = false →
            ((sent ++ flying).flatMap pongOf).map (Go.Conn.controlFrame Go.opPong) =
              Go.Event.written events)) := by
  refine same_tunnel plainConfig 0 _ ?_ compliant_binaryAndPing (by decide) (by decide +kernel) _
    (by decide +kernel) 0 (fun _ => 1) fun _ => Nat.one_pos
  simp only [List.forall_mem_cons, Fair, List.not_mem_nil, false_implies, implies_true, and_self]

end Tunnel

end H2ts
