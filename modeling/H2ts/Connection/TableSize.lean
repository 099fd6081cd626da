import H2ts.Connection.Deeds
import H2ts.Connection.SendPath
import H2ts.Hpack.SizeUpdate

/-!
# The table size of the peer

The peer may lower `SETTINGS_HEADER_TABLE_SIZE`.  The client stores the limit, acknowledges
the SETTINGS, and never looks at the limit again: its encoder has no table.

`heard` reads off the frames of a run what the decoder of the peer hears.  The header
blocks are those of requests, and none begins with a size update, so a decoder that insists
on the update is not served once it has lowered the limit (`takesAll_heard_iff`).
-/

namespace H2ts

open Hpack History

namespace Client

/-! ## The frame size of the peer -/

/-- The frame size of the peer is within the range of the setting. -/
def Sized (c : Client) : Prop := 16384 ≤ c.remote.maxFrameSize ∧ c.remote.maxFrameSize ≤ 16777215

variable {c d : Client}

theorem Sized.of_inbound (sized : c.Sized) (same : d.inbound = c.inbound) : d.Sized := by
  rw [Sized, remote_of_inbound same]
  exact sized

theorem sized_andThen {o : Outcome} {next : Client → Outcome} (first : o.1.Sized)
    (later : ∀ c : Client, c.Sized → (next c).1.Sized) : (o.andThen next).1.Sized := by
  obtain ⟨c, fault | done⟩ := o
  · exact first
  · exact later c first

theorem sized_applyRemoteSettings (sized : c.Sized) (s : Settings) : (c.applyRemoteSettings s).1.Sized := by
  refine sized_andThen ?_ fun c sized => sized_andThen ?_ fun c sized => ?_
  · cases s.initialWindowSize with
    | none => exact sized
    | some iw =>
        rw [applyInitialWindowSize]
        split
        · exact sized
        · exact sized
  · cases s.maxFrameSize with
    | none => exact sized
    | some mfs =>
        rw [applyMaxFrameSize]
        split
        next inside => exact inside
        next => exact sized
  · rw [applyOtherSettings]
    cases s.maxConcurrentStreams with
    | none => exact sized
    | some mcs => exact sized

theorem sized_growHeaderBlock (sized : c.Sized) (pb : PendingHeaderBlock) (endHeaders : Bool) :
    (c.growHeaderBlock pb endHeaders).1.Sized := by
  simp only [growHeaderBlock]
  split
  · exact sized
  · split
    · simp only [completeHeaderBlock]
      split
      · exact sized
      next headers decoded =>
        have before : Sized { c with
            pendingHeaderBlock := none
            decoder := (c.decoder.decode pb.fragments.flatten).1 } := sized
        exact before.of_inbound (inbound_takeHeaderBlock _ pb headers)
    · exact sized

theorem sized_dispatchFrame (sized : c.Sized) (frame : Frame) : (c.dispatchFrame frame).1.Sized := by
  cases frame with
  | settings ack settings =>
      rw [dispatchFrame]
      split
      · exact sized
      · exact sized_andThen (sized_applyRemoteSettings sized settings) fun c sized =>
          sized.of_inbound (c.inbound_sendFrame _)
  | headers id fragment endStream endHeaders priority => exact sized_growHeaderBlock sized _ _
  | pushPromise id promised fragment endHeaders => exact sized_growHeaderBlock sized _ _
  | continuation id fragment endHeaders =>
      rw [dispatchFrame]
      split
      · exact sized
      · split
        · exact sized_growHeaderBlock sized _ _
        · exact sized
  | data id data endStream =>
      have received := sized.of_inbound (c.inbound_receiveDataFrame id data endStream)
      rw [dispatchFrame]
      simp only []
      split
      · exact received.of_inbound (inbound_retireIfFullyClosed _ _)
      · exact received
  | rstStream id errorCode => exact sized.of_inbound (inbound_removeAndFail _ _ _)
  | windowUpdate id increment => exact sized.of_inbound (c.inbound_receiveWindowUpdate id increment)
  | ping ack opaqueData => exact sized.of_inbound (c.inbound_receivePing ack opaqueData)
  | goaway lastStreamId errorCode debugData =>
      exact sized.of_inbound (c.inbound_receiveGoaway lastStreamId errorCode)
  | priority id priority => exact sized

theorem sized_onFrame (sized : c.Sized) (frame : Frame) : (c.onFrame frame).Sized := by
  have dispatched : (c.dispatch frame).1.Sized := by
    unfold dispatch
    split
    · exact sized
    · exact sized_dispatchFrame sized frame
  unfold onFrame
  rcases result : c.dispatch frame with ⟨c', fault | done⟩
  · rw [result] at dispatched
    cases fault with
    | h2 err => exact dispatched.of_inbound ((inbound_destroy _ err).trans (inbound_sendFrame _ _))
    | panic => exact dispatched
  · rw [result] at dispatched
    exact dispatched

theorem sized_step (sized : c.Sized) (a : Action) : (c.step a).Sized := by
  by_cases own : ∀ frame, a ≠ .frame frame
  · exact sized.of_inbound (c.inbound_step own)
  · obtain ⟨frame, rfl⟩ : ∃ frame, a = .frame frame := by simpa using own
    exact sized_onFrame sized frame

theorem sized_connect (options : ConnectOptions) : (connect options).Sized := by
  have default : 16384 ≤ RemoteSettings.default.maxFrameSize ∧
      RemoteSettings.default.maxFrameSize ≤ 16777215 := by decide
  have fresh : (Client.fresh (options.headerTableSize.getD 4096)).Sized := default
  unfold connect
  simp only []
  split
  · exact fresh.of_inbound ((inbound_sendFrame _ _).trans (inbound_sendFrame _ _))
  · exact fresh.of_inbound (inbound_sendFrame _ _)

/-! ## What the peer hears -/

end Client

/-- The frame that an event puts on the wire. -/
def Event.frame? : Event → Option Frame
  | .sent frame => some frame
  | _ => none

/-- A fragment of a header block: the part that waits for the rest, and the block that is
complete. -/
def hearFragment (octets : Bytes) (endHeaders : Bool) : Option Bytes × List Signal :=
  if endHeaders then (none, [.block octets]) else (some octets, [])

/-- What the decoder of the peer hears of a frame.  An acknowledgement is for a limit, if
the SETTINGS had one. -/
def hear (limit : Option UInt32) (pending : Option Bytes) : Frame → Option Bytes × List Signal
  | .settings true _ => (pending, limit.toList.map fun limit => .acked limit.toNat)
  | .headers _ fragment _ endHeaders _ => hearFragment fragment endHeaders
  | .continuation _ fragment endHeaders =>
      match pending with
      | none => (none, [])
      | some octets => hearFragment (octets ++ fragment) endHeaders
  | _ => (pending, [])

def hearAll (limit : Option UInt32) (pending : Option Bytes) : List Frame → Option Bytes × List Signal
  | [] => (pending, [])
  | frame :: frames =>
      let first := hear limit pending frame
      let later := hearAll limit first.1 frames
      (later.1, first.2 ++ later.2)

namespace Client

/-- The frames that a section sends. -/
def sends (c : Client) (a : Action) : List Frame :=
  ((c.step a).history.drop c.history.length).filterMap Event.frame?

/-- The limit that SETTINGS of the peer have. -/
def tableSizeOf : Action → Option UInt32
  | .frame (.settings false settings) => settings.headerTableSize
  | _ => none

/-- What the decoder of the peer hears of a run. -/
def signals (pending : Option Bytes) (c : Client) : List Action → List Signal
  | [] => []
  | a :: actions =>
      let heard := hearAll (tableSizeOf a) pending (c.sends a)
      heard.2 ++ signals heard.1 (c.step a) actions

end Client

/-! ## Header blocks -/

/-- The frame begins a header block. -/
def isHeaders : Frame → Bool
  | .headers .. => true
  | _ => false

theorem hear_plain (limit : Option UInt32) {frame : Frame} (plain : isHeaders frame = false) :
    (hear limit none frame).1 = none ∧
      ∀ signal ∈ (hear limit none frame).2, ∃ limit, signal = .acked limit := by
  cases frame with
  | settings ack settings =>
      cases ack with
      | false => exact ⟨rfl, fun signal mem => absurd mem List.not_mem_nil⟩
      | true =>
          refine ⟨rfl, fun signal mem => ?_⟩
          obtain ⟨size, -, rfl⟩ := List.mem_map.mp mem
          exact ⟨_, rfl⟩
  | headers id fragment endStream endHeaders priority => cases plain
  | _ => exact ⟨rfl, fun signal mem => absurd mem List.not_mem_nil⟩

/-- Without HEADERS there is no block. -/
theorem hearAll_plain (limit : Option UInt32) {frames : List Frame}
    (plain : ∀ frame ∈ frames, isHeaders frame = false) :
    (hearAll limit none frames).1 = none ∧
      ∀ signal ∈ (hearAll limit none frames).2, ∃ limit, signal = .acked limit := by
  induction frames with
  | nil => exact ⟨rfl, fun signal mem => absurd mem List.not_mem_nil⟩
  | cons frame frames ih =>
      obtain ⟨idle, first⟩ := hear_plain limit (plain frame (.head _))
      obtain ⟨still, later⟩ := ih fun frame mem => plain frame (.tail _ mem)
      simp only [hearAll, idle]
      refine ⟨still, fun signal mem => ?_⟩
      rcases List.mem_append.mp mem with mem | mem
      · exact first signal mem
      · exact later signal mem

theorem hearAll_continuations (limit : Option UInt32) (id : UInt32) (octets : Bytes)
    {rest : List Bytes} (more : rest ≠ []) :
    hearAll limit (some octets) (continuations id rest) = (none, [.block (octets ++ rest.flatten)]) := by
  induction rest generalizing octets with
  | nil => exact absurd rfl more
  | cons fragment rest ih =>
      simp only [continuations, hearAll, hear]
      cases rest with
      | nil => simp only [List.isEmpty_nil, hearFragment, if_true, continuations, hearAll, List.append_nil,
          List.flatten_cons, List.flatten_nil]
      | cons next rest =>
          have later := ih (octets ++ fragment) (List.cons_ne_nil next rest)
          simp only [List.isEmpty_cons, hearFragment, Bool.false_eq_true, if_false, later, List.nil_append,
            List.flatten_cons, List.append_assoc]

/-- The frames of a block are heard as the block. -/
theorem hearAll_headerFrames (limit : Option UInt32) (pending : Option Bytes) (id : UInt32) {max : Nat}
    (positive : 0 < max) (block : Bytes) (endStream : Bool) :
    hearAll limit pending (Client.headerFrames id max block endStream) = (none, [.block block]) := by
  obtain ⟨first, rest, same, joined, -⟩ := headerFrames_split id positive block endStream
  rw [same, Opening.frames, Opening.frame, ← joined]
  simp only [hearAll, hear]
  cases rest with
  | nil => simp only [List.isEmpty_nil, hearFragment, if_true, continuations, hearAll, List.append_nil,
      List.flatten_nil]
  | cons next rest =>
      have later := hearAll_continuations limit (Opening.headers id endStream none).streamId first
        (List.cons_ne_nil next rest)
      simp only [List.isEmpty_cons, hearFragment, Bool.false_eq_true, if_false, later, List.nil_append]

namespace Client

variable {c : Client}

theorem sends_of_history {a : Action} {events : List Event}
    (history : (c.step a).history = c.history ++ events) :
    c.sends a = events.filterMap Event.frame? := by
  rw [sends, history, List.drop_left]

theorem isHeaders_of_quiet {events : List Event} (quiet : ∀ e ∈ events, isLoud e = false) :
    ∀ frame ∈ events.filterMap Event.frame?, isHeaders frame = false := by
  intro frame mem
  obtain ⟨e, inside, framed⟩ := List.mem_filterMap.mp mem
  have unheard := quiet e inside
  cases e with
  | sent sent =>
      cases framed
      cases frame with
      | headers id fragment endStream endHeaders priority => cases unheard
      | _ => rfl
  | _ => cases framed

/-- A section sends the header block of a request, or no HEADERS. -/
theorem sends_cases (sound : c.Sealed) (a : Action) :
    (∀ frame ∈ c.sends a, isHeaders frame = false) ∨
      ∃ request : Request, c.sends a = headerFrames c.nextStreamId c.remote.maxFrameSize
        (encode request.headers) request.body.isEmpty := by
  cases step_cases sound a with
  | quiet steps =>
      left
      obtain ⟨events, history, quiet⟩ := history_quiets steps
      rw [sends_of_history history]
      exact isHeaders_of_quiet quiet
  | opens request live staying free same =>
      right
      refine ⟨request, ?_⟩
      have history : (c.step a).history = c.history ++ .opened c.nextStreamId ::
          (headerFrames c.nextStreamId c.remote.maxFrameSize (encode request.headers)
            request.body.isEmpty).map .sent := congrArg View.history same
      have framed (frames : List Frame) : (frames.map Event.sent).filterMap Event.frame? = frames := by
        rw [List.filterMap_map]
        exact List.filterMap_some
      rw [sends_of_history history]
      exact framed _
  | @uploads k chunk offset rest s n pumping found live positive remaining connection stream frame same =>
      left
      have history : (c.step a).history = c.history ++
          [.sent (.data (c.cells k).id ((chunk.drop offset).take n) false)] := congrArg View.history same
      rw [sends_of_history history]
      intro frame mem
      cases mem with
      | head => rfl
      | tail _ mem => cases mem
  | @finishes k s pumping found live steps =>
      left
      obtain ⟨events, history, quiet⟩ := history_finish steps
      rw [sends_of_history history]
      intro frame mem
      cases mem with
      | head => rfl
      | tail _ mem => exact isHeaders_of_quiet quiet frame mem

/-- A section leaves no block incomplete, and its blocks are those of requests. -/
theorem hearAll_sends (sound : c.Sealed) (sized : c.Sized) (a : Action) :
    (hearAll (tableSizeOf a) none (c.sends a)).1 = none ∧
      ∀ octets, .block octets ∈ (hearAll (tableSizeOf a) none (c.sends a)).2 →
        ∃ request : Request, octets = encode request.headers := by
  rcases sends_cases sound a with plain | ⟨request, same⟩
  · obtain ⟨idle, acks⟩ := hearAll_plain (tableSizeOf a) plain
    refine ⟨idle, fun octets mem => ?_⟩
    obtain ⟨limit, same⟩ := acks _ mem
    cases same
  · have positive : 0 < c.remote.maxFrameSize := Nat.lt_of_lt_of_le (by decide) sized.1
    rw [same, hearAll_headerFrames _ _ _ positive]
    refine ⟨rfl, fun octets mem => ⟨request, ?_⟩⟩
    cases mem with
    | head => rfl
    | tail _ mem => cases mem

/-- The blocks of a run are those of requests. -/
theorem block_of_mem_signals (sound : c.Sealed) (sized : c.Sized) (actions : List Action) {octets : Bytes}
    (mem : .block octets ∈ c.signals none actions) :
      ∃ request : Request, octets = encode request.headers := by
  induction actions generalizing c with
  | nil => cases mem
  | cons a actions ih =>
      obtain ⟨idle, blocks⟩ := hearAll_sends sound sized a
      simp only [signals, idle] at mem
      rcases List.mem_append.mp mem with mem | mem
      · exact blocks octets mem
      · exact ih (c.sealed_step a sound) (sized_step sized a) mem

/-! ## Acknowledgements -/

/-- Nothing was sent, and the client is as open as before. -/
def Unsent (c d : Client) : Prop :=
  ∃ events, d.history = c.history ++ events ∧ events.filterMap Event.frame? = [] ∧
    d.closed = c.closed ∧ d.outTx = c.outTx

theorem Unsent.of_same {d : Client} (history : d.history = c.history) (closed : d.closed = c.closed)
    (outTx : d.outTx = c.outTx) : Unsent c d :=
  ⟨[], history.trans (List.append_nil _).symm, rfl, closed, outTx⟩

theorem Unsent.trans {d e : Client} (first : Unsent c d) (later : Unsent d e) : Unsent c e := by
  obtain ⟨events, history, unsent, closed, outTx⟩ := first
  obtain ⟨events', history', unsent', closed', outTx'⟩ := later
  refine ⟨events ++ events', ?_, ?_, closed'.trans closed, outTx'.trans outTx⟩
  · rw [history', history, List.append_assoc]
  · rw [List.filterMap_append, unsent, unsent', List.append_nil]

theorem unsent_andThen {o : Outcome} {next : Client → Outcome} (first : Unsent c o.1)
    (later : ∀ d, Unsent d (next d).1) : Unsent c (o.andThen next).1 := by
  obtain ⟨d, fault | done⟩ := o
  · exact first
  · exact first.trans (later d)

theorem unsent_applyRemoteSettings (c : Client) (s : Settings) : Unsent c (c.applyRemoteSettings s).1 := by
  refine unsent_andThen ?_ fun c => unsent_andThen ?_ fun c => ?_
  · cases s.initialWindowSize with
    | none => exact .of_same rfl rfl rfl
    | some iw =>
        rw [applyInitialWindowSize]
        split
        · exact .of_same rfl rfl rfl
        · exact .of_same rfl rfl rfl
  · cases s.maxFrameSize with
    | none => exact .of_same rfl rfl rfl
    | some mfs =>
        rw [applyMaxFrameSize]
        split
        · exact .of_same rfl rfl rfl
        · exact .of_same rfl rfl rfl
  · rw [applyOtherSettings]
    cases s.maxConcurrentStreams with
    | none => exact .of_same rfl rfl rfl
    | some mcs => exact ⟨[.limit mcs], rfl, rfl, rfl, rfl⟩

/-- SETTINGS that are accepted are acknowledged, and nothing else is heard. -/
theorem hearAll_settings (live : c.closed = false) (outTx : c.outTx = true) {s : Settings}
    (accepted : c.rejects (.settings false s) = false) (pending : Option Bytes) :
    hearAll s.headerTableSize pending (c.sends (.frame (.settings false s))) =
      (pending, s.headerTableSize.toList.map fun limit => .acked limit.toNat) := by
  have ok := (c.applyRemoteSettings_spec (fun _ => False) s).2
  have inRange : rejectsSettings s = false := (Bool.or_eq_false_iff.mp accepted).2
  obtain ⟨events, history, unsent, closed, open'⟩ := unsent_applyRemoteSettings c s
  have answered : (c.step (.frame (.settings false s))).history =
      c.history ++ (events ++ [.sent (.settings true {})]) := by
    show (c.onFrame (.settings false s)).history = _
    rw [onFrame_accepted accepted, dispatchFrame, if_neg Bool.false_ne_true]
    rcases result : c.applyRemoteSettings s with ⟨d, fault | done⟩
    · rw [result, inRange] at ok
      cases ok
    · rw [result] at history closed open'
      show (d.sendFrame _).history = _
      have sends : (!d.closed && d.outTx) = true := by rw [closed, open', live, outTx]; rfl
      rw [sendFrame, if_pos sends]
      show d.history ++ [_] = _
      rw [history, List.append_assoc]
  rw [sends_of_history answered, List.filterMap_append, unsent]
  show hearAll s.headerTableSize pending [.settings true {}] = _
  simp only [hearAll, hear, List.append_nil]

/-! ## The decoder that insists -/

/-- What the decoder of the peer hears of a connection. -/
def heard (options : ConnectOptions) (actions : List Action) : List Signal :=
  (connect options).signals none actions

theorem block_of_mem_heard {options : ConnectOptions} {actions : List Action} {octets : Bytes}
    (mem : .block octets ∈ heard options actions) : ∃ request : Request, octets = encode request.headers :=
  block_of_mem_signals (sealed_connect options) (sized_connect options) actions mem

/-- The header blocks of every run are those of requests.  None begins with a size update,
and any decoder reads one, whatever its table and its limit are, and keeps its table.  A
decoder that insists on the signal takes them exactly if none was sent after a limit below
the initial one was acknowledged. -/
theorem takesAll_heard_iff (options : ConnectOptions) (actions : List Action) :
    (∀ octets, .block octets ∈ heard options actions →
      ∃ request : Request, octets = encode request.headers ∧
        (∀ updates, Begins octets updates ↔ updates = []) ∧
        ((∀ h ∈ request.headers, h.Short) →
          ∀ d : HpackDecoder, d.decode octets = (d, .ok (request.headers.map Header.received)))) ∧
      (Limits.initial.TakesAll (heard options actions) ↔
        (heard options actions).Pairwise (Signal.Spares 4096)) := by
  constructor
  · intro octets mem
    obtain ⟨request, rfl⟩ := block_of_mem_heard mem
    exact ⟨request, rfl, fun updates => begins_encode, fun short d => decode_encode d short⟩
  · have unlowered : ¬ Limits.initial.Lowered := by
      rintro ⟨low, lowest, -⟩
      cases lowest
    have unsignalled : ∀ octets, .block octets ∈ heard options actions →
        ∀ updates, Begins octets updates ↔ updates = [] := by
      intro octets mem updates
      obtain ⟨request, rfl⟩ := block_of_mem_heard mem
      exact begins_encode
    rw [Limits.takesAll_iff unsignalled]
    constructor
    · exact fun both => both.2
    · exact fun spared => ⟨fun lowered => absurd lowered unlowered, spared⟩

/-- The peer wants no table at all, and a request follows. -/
def loweredLimit : List Action :=
  [.frame (.settings false { headerTableSize := some 0 }), .request (.bare .empty)]

theorem not_takesAll_loweredLimit :
    heard {} loweredLimit = [.acked 0, .block (encode (Request.bare .empty).headers)] ∧
      (¬ ∃ size updates, Begins (encode (Request.bare .empty).headers) (size :: updates)) ∧
      ¬ Limits.initial.TakesAll (heard {} loweredLimit) := by
  have signals : heard {} loweredLimit = [.acked 0, .block (encode (Request.bare .empty).headers)] := by
    decide +kernel
  have unsignalled : ¬ ∃ size updates, Begins (encode (Request.bare .empty).headers) (size :: updates) := by
    rintro ⟨size, updates, begins⟩
    cases begins_encode.mp begins
  refine ⟨signals, unsignalled, ?_⟩
  rw [signals, Limits.takesAll_iff]
  · rintro ⟨-, spared⟩
    have high := List.rel_of_pairwise_cons spared (.head _) 0 _ rfl rfl
    exact absurd high (by decide)
  · intro octets mem updates
    rcases List.mem_cons.mp mem with same | mem
    · cases same
    · obtain rfl := Signal.block.inj (List.mem_singleton.mp mem)
      exact begins_encode

end Client

end H2ts
