import H2ts.Connection.Teardown

/-!
# Resets

A RST_STREAM is queued in three sections: on a zero WINDOW_UPDATE, when a body is
dropped before its end, and when a promise is refused (`resets_step`).  The stream
it names should be one that the section takes out of the map, or a promised one,
which has an even id (`Warranted`).  None of the three asks whether that is so
(`warranted_iff`).
-/

namespace H2ts

open Hpack

/-- The stream that an event resets on the wire. -/
def Event.resetId : Event → Option UInt32
  | .sent (.rstStream id _) => some id
  | _ => none

namespace Client

variable {c d : Client}

/-- The streams reset so far. -/
def resets (c : Client) : List UInt32 := c.history.filterMap Event.resetId

/-! ## What resets nothing -/

theorem resets_record (c : Client) {e : Event} (other : e.resetId = none) :
    (c.record e).resets = c.resets := by
  simp [resets, record, other]

theorem resets_sendFrame (c : Client) {frame : Frame}
    (other : (Event.sent frame).resetId = none) : (c.sendFrame frame).resets = c.resets := by
  unfold sendFrame
  split
  · exact c.resets_record other
  · rfl

theorem resets_sendRst (c : Client) (id errorCode : UInt32) :
    (c.sendFrame (.rstStream id errorCode)).resets =
      c.resets ++ if !c.closed && c.outTx then [id] else [] := by
  unfold sendFrame
  split
  · simp [resets, record, Event.resetId]
  · simp

theorem resets_withStream (c : Client) (id : UInt32)
    (f : StreamState → Cell → StreamState × Cell) : (c.withStream id f).resets = c.resets := by
  unfold withStream
  split <;> rfl

theorem resets_removeAndFail (c : Client) (id : UInt32) (err : H2Error) :
    (c.removeAndFail id err).resets = c.resets := by
  unfold removeAndFail
  split
  · rfl
  · exact resets_record _ rfl

theorem resets_removeAll (c : Client) (ids : List UInt32) (err : H2Error) :
    (ids.foldl (fun c id => c.removeAndFail id err) c).resets = c.resets := by
  induction ids generalizing c with
  | nil => rfl
  | cons id ids ih => rw [List.foldl_cons, ih, resets_removeAndFail]

theorem resets_retireIfFullyClosed (c : Client) (id : UInt32) :
    (c.retireIfFullyClosed id).resets = c.resets := by
  unfold retireIfFullyClosed
  split
  · rfl
  · split
    · exact resets_record _ rfl
    · rfl

theorem resets_destroy (c : Client) (err : H2Error) : (c.destroy err).resets = c.resets := by
  unfold destroy
  split
  · rfl
  · exact resets_removeAll (c.shutDown err) _ err

theorem resets_connectionError (c : Client) (err : H2Error) :
    (c.connectionError err).resets = c.resets :=
  (resets_destroy _ err).trans (c.resets_sendFrame rfl)

theorem resets_replenishRecvWindow (c : Client) (id : UInt32) (n : Nat) :
    (c.replenishRecvWindow id n).resets = c.resets := by
  unfold replenishRecvWindow
  split
  · rfl
  · refine (resets_sendFrame _ rfl).trans ?_
    split
    · exact c.resets_sendFrame rfl
    · rfl

theorem resets_andThen {o : Outcome} {next : Client → Outcome} (first : o.1.resets = c.resets)
    (later : ∀ d, (next d).1.resets = d.resets) : (o.andThen next).1.resets = c.resets := by
  obtain ⟨d, fault | done⟩ := o
  · exact first
  · exact (later d).trans first

theorem resets_applyRemoteSettings (c : Client) (s : Settings) :
    (c.applyRemoteSettings s).1.resets = c.resets := by
  refine resets_andThen ?_ fun c => resets_andThen ?_ fun c => ?_
  · unfold applyInitialWindowSize
    split
    · rfl
    · split <;> rfl
  · unfold applyMaxFrameSize
    split
    · rfl
    · split <;> rfl
  · unfold applyOtherSettings
    cases s.maxConcurrentStreams with
    | none => rfl
    | some mcs => exact resets_record _ rfl

theorem resets_receiveDataFrame (c : Client) (id : UInt32) (data : Bytes) (endStream : Bool) :
    (c.receiveDataFrame id data endStream).resets = c.resets := by
  have noted := c.resets_record (e := .data id data endStream) rfl
  unfold receiveDataFrame
  simp only []
  split
  · exact (resets_withStream _ id _).trans noted
  · split
    · exact (resets_sendFrame _ rfl).trans noted
    · exact noted

theorem resets_receiveGoaway (c : Client) (lastStreamId errorCode : UInt32) :
    (c.receiveGoaway lastStreamId errorCode).resets = c.resets := by
  have noted := { c with goawayReceived := true }.resets_record (e := .goaway lastStreamId) rfl
  have failed (err : H2Error) : ((({ c with goawayReceived := true }.record
      (.goaway lastStreamId)).failAbove lastStreamId err).wakeSlotWaiters).resets = c.resets :=
    (resets_removeAll _ _ err).trans noted
  unfold receiveGoaway
  simp only []
  split
  · exact (resets_destroy _ _).trans (failed _)
  · exact failed _

theorem resets_receivePing (c : Client) (ack : Bool) (opaqueData : OpaqueData) :
    (c.receivePing ack opaqueData).resets = c.resets := by
  unfold receivePing
  split
  · split <;> rfl
  · exact c.resets_sendFrame rfl

/-! ## Uploads and calls -/

theorem resets_sendAll (c : Client) {frames : List Frame}
    (others : ∀ frame ∈ frames, (Event.sent frame).resetId = none) :
    (frames.foldl sendFrame c).resets = c.resets := by
  induction frames generalizing c with
  | nil => rfl
  | cons frame frames ih =>
      rw [List.foldl_cons, ih _ fun frame mem => others frame (.tail _ mem)]
      exact c.resets_sendFrame (others frame (.head _))

theorem resets_sendHeaders (c : Client) (id : UInt32) (block : Bytes) (endStream : Bool) :
    (c.sendHeaders id block endStream).resets = c.resets := by
  refine c.resets_sendAll fun frame mem => ?_
  unfold headerFrames at mem
  split at mem
  · rw [List.mem_singleton.mp mem]
    rfl
  · cases mem with
    | head => rfl
    | tail _ mem =>
        obtain ⟨fragment, endHeaders, rfl⟩ := mem_continuationFrames mem
        rfl

theorem resets_tryOpen (c : Client) (i : Nat) (request : Request) :
    (c.tryOpen i request).resets = c.resets := by
  have registered (body : RequestBody) : (c.registerStream i body).resets = c.resets := by
    refine (resets_record _ rfl).trans ?_
    simp only [insertStream]
    split <;> rfl
  unfold tryOpen
  split
  · rfl
  · split
    · exact (resets_sendHeaders _ _ _ _).trans (registered _)
    · rfl

theorem resets_pollCall (c : Client) (i : Nat) : (c.pollCall i).resets = c.resets := by
  unfold pollCall
  split
  · split
    · rfl
    · exact c.resets_tryOpen i _
  · split <;> rfl
  · rfl

theorem resets_dropCall (c : Client) (i : Nat) : (c.dropCall i).resets = c.resets := by
  unfold dropCall
  split <;> rfl

theorem resets_pumpChunk (c : Client) (k : Nat) (chunk : Bytes) (offset : Nat) (rest : List Bytes) :
    (c.pumpChunk k chunk offset rest).resets = c.resets := by
  unfold pumpChunk
  simp only []
  split
  · rfl
  · split
    · rfl
    · split
      · split
        · rfl
        · split
          · rfl
          · exact resets_sendFrame _ rfl
      · simp only [registerWakers]
        split <;> split <;> rfl

theorem resets_pump (c : Client) (k : Nat) : (c.pump k).resets = c.resets := by
  unfold pump
  split
  · rfl
  · unfold finishUpload
    simp only []
    split
    · exact (resets_retireIfFullyClosed _ _).trans (c.resets_sendFrame rfl)
    · rfl
  · rfl
  · exact c.resets_pumpChunk k _ _ _
  · rfl

theorem resets_read (c : Client) (k : Nat) : (c.read k).resets = c.resets := by
  unfold read
  simp only []
  split
  · split
    · exact resets_replenishRecvWindow _ _ _
    · split
      · rfl
      · split <;> rfl
  · rfl

theorem resets_ping (c : Client) : c.ping.resets = c.resets := by
  unfold ping
  simp only []
  split
  · rfl
  · refine (resets_sendFrame _ rfl).trans ?_
    cases c.pings.lookup (pingData (c.pingCounter + 1)) <;> rfl

/-! ## What resets a stream -/

/-- Whether the outbound channel takes frames. -/
def canSend (c : Client) : Bool := !c.closed && c.outTx

/-- The promise of a complete header block, if it is one the client refuses: not too
long, and decoded. -/
def refusedBlock (c : Client) (pb : PendingHeaderBlock) : Option UInt32 :=
  match pb.kind with
  | .response => none
  | .push =>
      if pb.size ≤ MAX_HEADER_BLOCK_SIZE ∧ (c.decoder.decode pb.fragments.flatten).2.isOk then
        pb.promisedStreamId.getD 0
      else none

/-- The promised stream that a frame makes the client refuse. -/
def refuses (c : Client) : Frame → Option UInt32
  | .pushPromise id promised fragment true =>
      if c.pendingHeaderBlock.isNone then
        c.refusedBlock ⟨id, .push, false, some promised, [fragment], fragment.length⟩
      else none
  | .continuation id fragment true =>
      match c.pendingHeaderBlock with
      | none => none
      | some pb =>
          if pb.streamId = id then
            c.refusedBlock { pb with
              size := pb.size + fragment.length
              fragments := pb.fragments ++ [fragment] }
          else none
  | _ => none

/-- The stream that a frame makes the client reset. -/
def cutsOff (c : Client) : Frame → Option UInt32
  | .windowUpdate id increment =>
      if c.pendingHeaderBlock.isNone ∧ increment = 0 ∧ id ≠ 0 then some id else none
  | _ => none

/-- The stream whose body is dropped before its end. -/
def abandons (c : Client) (k : Nat) : Option UInt32 :=
  if (c.cells k).holder = .reading ∧ (c.cells k).recv.ended = false then some (c.cells k).id else none

/-- The stream a section resets, if it can send. -/
def resetBy (c : Client) : Action → Option UInt32
  | .frame frame => (c.cutsOff frame).or (c.refuses frame)
  | .dropBody k => c.abandons k
  | _ => none

theorem resets_takeHeaderBlock (c : Client) (pb : PendingHeaderBlock) (headers : List Header) :
    (c.takeHeaderBlock pb headers).resets = c.resets ++
      match pb.kind with
      | .response => []
      | .push => if c.canSend then [pb.promisedStreamId.getD 0] else [] := by
  unfold takeHeaderBlock
  cases pb.kind with
  | response =>
      have received : (c.receiveBlock pb.streamId headers pb.endStream).resets = c.resets :=
        (resets_withStream _ _ _).trans (c.resets_record rfl)
      rw [List.append_nil]
      simp only []
      split
      · exact (resets_retireIfFullyClosed _ _).trans received
      · exact received
  | push =>
      simp only [refusePush]
      rw [resets_sendRst]
      split <;> rfl

theorem resets_growHeaderBlock (c : Client) (pb : PendingHeaderBlock) (endHeaders : Bool) :
    (c.growHeaderBlock pb endHeaders).1.resets = c.resets ++
      if endHeaders && c.canSend then (c.refusedBlock pb).toList else [] := by
  simp only [growHeaderBlock, guardHeaderBlockSize, refusedBlock]
  by_cases long : pb.size > MAX_HEADER_BLOCK_SIZE
  · have refused : ¬ pb.size ≤ MAX_HEADER_BLOCK_SIZE := Nat.not_le.mpr long
    simp only [long, if_true, refused, false_and, if_false]
    cases pb.kind <;> simp <;> rfl
  · have fits : pb.size ≤ MAX_HEADER_BLOCK_SIZE := Nat.le_of_not_lt long
    simp only [long, if_false, fits, true_and]
    cases endHeaders with
    | false => simp; rfl
    | true =>
        simp only [if_true, completeHeaderBlock, Bool.true_and]
        cases decoded : (c.decoder.decode pb.fragments.flatten).2 with
        | error fault => cases pb.kind <;> simp [Except.isOk, Except.toBool] <;> rfl
        | ok headers =>
            refine (resets_takeHeaderBlock _ pb headers).trans ?_
            cases pb.kind <;> simp [Except.isOk, Except.toBool, canSend] <;> rfl

theorem resets_resetStream (c : Client) (id : UInt32) (code : ErrorCode) :
    (c.resetStream id code).resets = c.resets ++ if c.canSend then [id] else [] :=
  (resets_removeAndFail _ id _).trans ((resets_record _ rfl).trans (c.resets_sendRst id _))

theorem resets_receiveWindowUpdate (c : Client) (id increment : UInt32) :
    (c.receiveWindowUpdate id increment).1.resets = c.resets ++
      if increment = 0 ∧ id ≠ 0 ∧ c.canSend then [id] else [] := by
  unfold receiveWindowUpdate
  by_cases zero : increment = 0
  · by_cases connection : id = 0
    · simp [zero, connection]
    · simp only [zero, connection, if_true, if_false, ne_eq, not_false_eq_true, true_and]
      exact c.resets_resetStream id _
  · simp only [zero, if_false, false_and, List.append_nil]
    split
    · exact { c with connSendWindow := (c.connSendWindow.update increment.toNat).1 }.resets_record rfl
    · have noted := c.resets_record (e := .credit id increment) rfl
      simp only [creditStream]
      split
      · exact noted
      · exact noted

/-- Frames that reset nothing. -/
theorem resets_dispatchFrame (c : Client) {frame : Frame}
    (other : (∀ id increment, frame ≠ .windowUpdate id increment) ∧
      (∀ id promised fragment endHeaders, frame ≠ .pushPromise id promised fragment endHeaders) ∧
      ∀ id fragment endHeaders, frame ≠ .continuation id fragment endHeaders) :
    (c.dispatchFrame frame).1.resets = c.resets := by
  cases frame with
  | settings ack settings =>
      rw [dispatchFrame]
      split
      · rfl
      · exact resets_andThen (c.resets_applyRemoteSettings settings) fun d => d.resets_sendFrame rfl
  | headers id fragment endStream endHeaders priority =>
      refine (c.resets_growHeaderBlock _ endHeaders).trans ?_
      simp [refusedBlock]
  | continuation id fragment endHeaders => exact absurd rfl (other.2.2 id fragment endHeaders)
  | pushPromise id promised fragment endHeaders =>
      exact absurd rfl (other.2.1 id promised fragment endHeaders)
  | data id data endStream =>
      have received := c.resets_receiveDataFrame id data endStream
      rw [dispatchFrame]
      simp only []
      split
      · exact (resets_retireIfFullyClosed _ _).trans received
      · exact received
  | rstStream id errorCode => exact (resets_removeAndFail _ _ _).trans (c.resets_record rfl)
  | windowUpdate id increment => exact absurd rfl (other.1 id increment)
  | ping ack opaqueData => exact c.resets_receivePing ack opaqueData
  | goaway lastStreamId errorCode debugData => exact c.resets_receiveGoaway _ _
  | priority => rfl

/-- The streams that dispatching a frame resets. -/
theorem resets_dispatch (c : Client) (frame : Frame) :
    (c.dispatch frame).1.resets =
      c.resets ++ if c.canSend then ((c.cutsOff frame).or (c.refuses frame)).toList else [] := by
  unfold dispatch
  cases pending : c.pendingHeaderBlock with
  | some pb =>
      -- Only a CONTINUATION is let through.
      cases frame with
      | continuation id fragment endHeaders =>
          simp only [isContinuation, Option.isSome_some, Bool.not_true, Bool.and_false,
            Bool.false_eq_true, if_false, dispatchFrame, pending]
          by_cases same : pb.streamId = id
          · simp only [same, if_true]
            refine (c.resets_growHeaderBlock _ endHeaders).trans ?_
            cases endHeaders <;> simp [cutsOff, refuses, pending, same]
          · cases endHeaders <;> simp [cutsOff, refuses, pending, same]
      | pushPromise id promised fragment endHeaders =>
          cases endHeaders <;> simp [isContinuation, cutsOff, refuses, pending]
      | _ => simp [isContinuation, cutsOff, refuses, pending]
  | none =>
      simp only [Option.isSome_none, Bool.false_and, Bool.false_eq_true, if_false]
      cases frame with
      | windowUpdate id increment =>
          refine (c.resets_receiveWindowUpdate id increment).trans ?_
          by_cases zero : increment = 0 ∧ id ≠ 0
          · simp [cutsOff, refuses, pending, zero]
          · have silent : ¬ (increment = 0 ∧ id ≠ 0 ∧ c.canSend = true) :=
              fun all => zero ⟨all.1, all.2.1⟩
            have kept : c.cutsOff (.windowUpdate id increment) = none := if_neg fun all => zero all.2
            rw [if_neg silent, kept]
            simp [refuses]
      | pushPromise id promised fragment endHeaders =>
          refine (c.resets_growHeaderBlock _ endHeaders).trans ?_
          cases endHeaders <;> simp [cutsOff, refuses, pending]
      | continuation id fragment endHeaders =>
          cases endHeaders <;> simp [dispatchFrame, cutsOff, refuses, pending]
      | _ =>
          refine (c.resets_dispatchFrame ⟨by simp, by simp, by simp⟩).trans ?_
          simp [cutsOff, refuses]

theorem resets_onFrame (c : Client) (frame : Frame) :
    (c.onFrame frame).resets =
      c.resets ++ if c.canSend then ((c.cutsOff frame).or (c.refuses frame)).toList else [] := by
  rw [← c.resets_dispatch frame]
  unfold onFrame
  obtain ⟨d, result⟩ := c.dispatch frame
  cases result with
  | ok done => rfl
  | error fault =>
      cases fault with
      | h2 err => exact d.resets_connectionError err
      | panic => rfl

theorem resets_dropBody (c : Client) (k : Nat) :
    (c.dropBody k).resets = c.resets ++ if c.canSend then (c.abandons k).toList else [] := by
  unfold dropBody abandons
  simp only []
  by_cases reading : (c.cells k).holder = .reading
  · have returned : ((c.modifyCell k fun cell => { cell with holder := .gone }).replenishRecvWindow
        (c.cells k).id (c.cells k).recv.buffered).resets = c.resets :=
      resets_replenishRecvWindow _ _ _
    have slots := (c.modifyCell k fun cell =>
      { cell with holder := .gone }).slots_replenishRecvWindow (c.cells k).id
        (c.cells k).recv.buffered
    cases ended : (c.cells k).recv.ended with
    | true => simpa [reading] using returned
    | false =>
        simp only [reading, if_true, Bool.false_eq_true, if_false, and_self, Option.toList_some]
        rw [resets_resetStream, returned, canSend, canSend]
        rw [show ((c.modifyCell k fun cell => { cell with holder := .gone }).replenishRecvWindow
          (c.cells k).id (c.cells k).recv.buffered).closed = c.closed from congrArg Slots.closed slots,
          show ((c.modifyCell k fun cell => { cell with holder := .gone }).replenishRecvWindow
          (c.cells k).id (c.cells k).recv.buffered).outTx = c.outTx from congrArg Slots.outTx slots]
  · simp [reading]

/-- The streams that a section resets. -/
theorem resets_step (c : Client) (a : Action) :
    (c.step a).resets = c.resets ++ if c.canSend then (c.resetBy a).toList else [] := by
  have quiet {d : Client} (same : d.resets = c.resets) :
      d.resets = c.resets ++ if c.canSend then (none : Option UInt32).toList else [] := by
    simpa using same
  cases a with
  | frame frame => exact c.resets_onFrame frame
  | corrupt err => exact quiet (c.resets_connectionError err)
  | transportClosed => exact quiet (c.resets_destroy _)
  | writeFailed => exact quiet (c.resets_destroy _)
  | request request => exact quiet ({ c with called := c.called + 1 }.resets_tryOpen c.called request)
  | pollCall i => exact quiet (c.resets_pollCall i)
  | dropCall i => exact quiet (c.resets_dropCall i)
  | pump k => exact quiet (c.resets_pump k)
  | read k => exact quiet (c.resets_read k)
  | dropBody k => exact c.resets_dropBody k
  | ping => exact quiet c.resets_ping
  | close =>
      refine quiet ?_
      show c.close.resets = _
      unfold close
      split
      · rfl
      · exact (resets_destroy _ _).trans (c.resets_sendFrame rfl)

/-! ## Warranted resets -/

/-- The section takes a stream out of the map and fails it. -/
def Fells (c : Client) (a : Action) (id : UInt32) : Prop :=
  ∃ s err, c.streams.lookup id = some s ∧ (c.step a).streams.lookup id = none ∧
    ((c.step a).cells s.cell).recv.error = some err ∧ ((c.step a).cells s.cell).recv.ended = true

/-- The section refuses a promise. -/
def Refuses (c : Client) (a : Action) (id : UInt32) : Prop :=
  ∃ frame, a = .frame frame ∧ c.refuses frame = some id

/-- Every stream that the section resets is one that it fails, or a promised stream
with an even id. -/
def Warranted (c : Client) (a : Action) : Prop :=
  ∀ id ∈ (c.step a).resets.drop c.resets.length,
    c.Fells a id ∨ c.Refuses a id ∧ id.toNat % 2 = 0

/-- A zero WINDOW_UPDATE names a stream in the map, a promised id is even, and a body
is dropped before its end only while its stream is in the map. -/
def Reasonable (c : Client) : Action → Prop
  | .frame frame =>
      (∀ id, c.cutsOff frame = some id → id ∈ c.streams) ∧
        ∀ id, c.refuses frame = some id → id.toNat % 2 = 0
  | .dropBody k => ∀ id, c.abandons k = some id → id ∈ c.streams
  | _ => True

theorem drop_resets_step (c : Client) (a : Action) :
    (c.step a).resets.drop c.resets.length = if c.canSend then (c.resetBy a).toList else [] := by
  rw [resets_step, List.drop_left]

theorem entries_sendFrame (c : Client) (frame : Frame) :
    (c.sendFrame frame).streams = c.streams := by
  unfold sendFrame
  split <;> rfl

theorem entries_replenishRecvWindow (c : Client) (id : UInt32) (n : Nat) :
    (c.replenishRecvWindow id n).streams = c.streams := by
  unfold replenishRecvWindow
  split
  · rfl
  · rw [entries_sendFrame]
    split
    · exact c.entries_sendFrame _
    · rfl

/-- `reset_stream` fails the stream if it is in the map. -/
theorem resetStream_fells (served : Served c) {id : UInt32} {s : StreamState}
    (found : c.streams.lookup id = some s) (code : ErrorCode) :
    ∃ err, (c.resetStream id code).streams.lookup id = none ∧
      ((c.resetStream id code).cells s.cell).recv.error = some err ∧
      ((c.resetStream id code).cells s.cell).recv.ended = true := by
  let d := (c.sendFrame (.rstStream id code.value)).record (.reset id)
  let err := H2Error.stream code ("stream " ++ toString id.toNat ++ " reset") id
  have same : d.streams = c.streams := c.entries_sendFrame _
  have kept : Served d := (served_record (served_sendFrame served _).1 _).1
  have here : d.streams.lookup id = some s := by rw [same, found]
  obtain ⟨x, -, -, error, ended, cells⟩ := cells_removeAndFail kept here err
  have left : (d.removeAndFail id err).cells s.cell = x := by rw [cells, Function.update_self]
  refine ⟨err, ?_, ?_, ?_⟩
  · show (d.removeAndFail id err).streams.lookup id = none
    rw [lookup_removeAndFail, if_pos rfl]
  · show ((d.removeAndFail id err).cells s.cell).recv.error = some err
    rw [left, error]
  · show ((d.removeAndFail id err).cells s.cell).recv.ended = true
    rw [left, ended]

/-- A block that is refused leaves the map alone. -/
theorem growHeaderBlock_refused {pb : PendingHeaderBlock} {id : UInt32}
    (refused : c.refusedBlock pb = some id) :
    ∃ d, c.growHeaderBlock pb true = (d, .ok ()) ∧ d.streams = c.streams := by
  unfold refusedBlock at refused
  cases kind : pb.kind with
  | response =>
      rw [kind] at refused
      cases refused
  | push =>
      rw [kind] at refused
      simp only [Option.ite_none_right_eq_some] at refused
      obtain ⟨⟨fits, decodes⟩, -⟩ := refused
      cases decoded : (c.decoder.decode pb.fragments.flatten).2 with
      | error fault =>
          rw [decoded] at decodes
          cases decodes
      | ok headers =>
          simp only [growHeaderBlock, guardHeaderBlockSize, Nat.not_lt.mpr fits, if_false, if_true,
            completeHeaderBlock, decoded, takeHeaderBlock, kind, refusePush, gt_iff_lt]
          refine ⟨_, rfl, ?_⟩
          rw [entries_sendFrame]
          split <;> rfl

theorem streams_of_refuses {frame : Frame} {id : UInt32} (refused : c.refuses frame = some id) :
    (c.step (.frame frame)).streams = c.streams := by
  have done {d : Client} (same : c.dispatch frame = (d, .ok ())) (streams : d.streams = c.streams) :
      (c.step (.frame frame)).streams = c.streams := by
    rw [← streams]
    simp only [step, onFrame, same]
  unfold refuses at refused
  split at refused
  next id promised fragment =>
    simp only [Option.ite_none_right_eq_some, Option.isNone_iff_eq_none] at refused
    obtain ⟨d, grown, streams⟩ := growHeaderBlock_refused refused.2
    refine done ?_ streams
    simpa [dispatch, refused.1, dispatchFrame] using grown
  next id fragment =>
    cases pending : c.pendingHeaderBlock with
    | none => simp [pending] at refused
    | some pb =>
        simp only [pending, Option.ite_none_right_eq_some] at refused
        obtain ⟨d, grown, streams⟩ := growHeaderBlock_refused refused.2
        refine done ?_ streams
        simpa [dispatch, pending, isContinuation, dispatchFrame, refused.1] using grown
  · cases refused

theorem windowUpdate_of_cutsOff {frame : Frame} {id : UInt32} (cut : c.cutsOff frame = some id) :
    ∃ increment, frame = .windowUpdate id increment := by
  cases frame with
  | windowUpdate other increment =>
      simp only [cutsOff, Option.ite_none_right_eq_some, Option.some.injEq] at cut
      exact ⟨increment, cut.2 ▸ rfl⟩
  | _ => cases cut

theorem fells_windowUpdate (served : Served c) {id increment : UInt32}
    (cut : c.cutsOff (.windowUpdate id increment) = some id) (mapped : id ∈ c.streams) :
    c.Fells (.frame (.windowUpdate id increment)) id := by
  have zero : c.pendingHeaderBlock.isNone = true ∧ increment = 0 ∧ id ≠ 0 := by
    simpa [cutsOff] using cut
  obtain ⟨nothing, rfl, stream⟩ := zero
  have step : c.step (.frame (.windowUpdate id 0)) = c.resetStream id .protocolError := by
    simp only [Client.step, onFrame, dispatch, Option.isNone_iff_eq_none.mp nothing,
      Option.isSome_none, Bool.false_and, Bool.false_eq_true, if_false, dispatchFrame,
      receiveWindowUpdate, if_true, stream]
  obtain ⟨s, found⟩ := Option.isSome_iff_exists.mp (AList.lookup_isSome.mpr mapped)
  obtain ⟨err, fells⟩ := resetStream_fells served found .protocolError
  exact ⟨s, err, found, step ▸ fells⟩

theorem fells_dropBody (served : Served c) {k : Nat} {id : UInt32}
    (abandons : c.abandons k = some id) (mapped : id ∈ c.streams) : c.Fells (.dropBody k) id := by
  have early : ((c.cells k).holder = .reading ∧ (c.cells k).recv.ended = false) ∧
      (c.cells k).id = id := by
    unfold Client.abandons at abandons
    split at abandons
    next early => exact ⟨early, Option.some.inj abandons⟩
    · cases abandons
  obtain ⟨⟨reading, unended⟩, rfl⟩ := early
  let released := c.modifyCell k fun cell => { cell with holder := .gone }
  let returned := released.replenishRecvWindow (c.cells k).id (c.cells k).recv.buffered
  have step : c.step (.dropBody k) = returned.resetStream (c.cells k).id .cancel := by
    simp only [Client.step, dropBody, reading, if_true, unended, Bool.false_eq_true, if_false]
    rfl
  have kept : Served returned :=
    (served_replenishRecvWindow (served_modifyCell served k ⟨rfl, rfl, rfl, .inl rfl⟩).1 _ _).1
  obtain ⟨s, found⟩ := Option.isSome_iff_exists.mp (AList.lookup_isSome.mpr mapped)
  have here : returned.streams.lookup (c.cells k).id = some s := by
    rw [entries_replenishRecvWindow]
    exact found
  obtain ⟨err, fells⟩ := resetStream_fells kept here .cancel
  exact ⟨s, err, found, step ▸ fells⟩

/-- The resets of a section are warranted exactly if the section is reasonable or
cannot send. -/
theorem warranted_iff (sound : c.Sealed) (served : Served c) (a : Action) :
    c.Warranted a ↔ (c.closed = false → c.Reasonable a) := by
  unfold Warranted
  rw [drop_resets_step]
  cases closed : c.closed with
  | true => simp [canSend, closed]
  | false =>
      have outTx : c.outTx = true := sound.outTx closed
      have sends : c.canSend = true := by simp [canSend, closed, outTx]
      rw [if_pos sends]
      have fells_mapped {id : UInt32} (fells : c.Fells a id) : id ∈ c.streams := by
        obtain ⟨s, err, found, -⟩ := fells
        exact AList.lookup_isSome.mp (found ▸ rfl)
      cases a with
      | frame frame =>
          constructor
          · intro warranted _
            refine ⟨fun id cut => ?_, fun id refused => ?_⟩
            · have reset : id ∈ (c.resetBy (.frame frame)).toList := by simp [resetBy, cut]
              rcases warranted id reset with fells | ⟨⟨_, same, refused⟩, -⟩
              · exact fells_mapped fells
              · cases same
                obtain ⟨increment, rfl⟩ := windowUpdate_of_cutsOff cut
                cases refused
            · have kept : c.cutsOff frame = none := by
                cases cut : c.cutsOff frame with
                | none => rfl
                | some id =>
                    obtain ⟨increment, rfl⟩ := windowUpdate_of_cutsOff cut
                    cases refused
              have reset : id ∈ (c.resetBy (.frame frame)).toList := by simp [resetBy, kept, refused]
              rcases warranted id reset with fells | even
              · obtain ⟨s, err, found, gone, -⟩ := fells
                rw [streams_of_refuses refused, found] at gone
                cases gone
              · exact even.2
          · intro reasonable id reset
            obtain ⟨mapped, even⟩ := reasonable rfl
            rcases Option.or_eq_some_iff.mp (Option.mem_toList.mp reset) with cut | ⟨-, refused⟩
            · obtain ⟨increment, rfl⟩ := windowUpdate_of_cutsOff cut
              exact .inl (fells_windowUpdate served cut (mapped id cut))
            · exact .inr ⟨⟨frame, rfl, refused⟩, even id refused⟩
      | dropBody k =>
          constructor
          · intro warranted _ id abandons
            rcases warranted id (by simp [resetBy, abandons]) with fells | ⟨⟨_, same, -⟩, -⟩
            · exact fells_mapped fells
            · cases same
          · intro reasonable id reset
            have abandons : c.abandons k = some id := Option.mem_toList.mp reset
            exact .inl (fells_dropBody served abandons (reasonable rfl id abandons))
      | _ => simp [resetBy, Reasonable]

/-- Along every run the resets are warranted exactly if the sections that run while the
connection is open are reasonable. -/
theorem warranted_after_iff (options : ConnectOptions) (actions : List Action) :
    Machine.Along step Warranted (connect options) actions ↔
      Machine.Along step (fun c a => c.closed = false → c.Reasonable a) (connect options) actions :=
  Machine.along_iff (P := fun c => c.Sealed ∧ Attended c)
    (fun c a inv => ⟨sealed_step c a inv.1, attended_step inv.2 a⟩)
    (fun _ a inv => warranted_iff inv.1 inv.2.served a)
    ⟨sealed_connect options, attended_connect options⟩ actions

/-- A zero WINDOW_UPDATE for a stream that nobody has opened. -/
def idleUpdate : List Action := [.frame (.windowUpdate 5 0)]

/-- The client resets a stream that is idle. -/
theorem not_warranted_idleUpdate :
    (after {} idleUpdate).resets = [5] ∧ ¬ Machine.Along step Warranted (connect {}) idleUpdate := by
  refine ⟨by decide +kernel, ?_⟩
  rintro ⟨warranted, -⟩
  have reasonable := (warranted_iff (sealed_connect {}) (served_connect {}) _).mp warranted
  have mapped : (5 : UInt32) ∈ (connect {}).streams :=
    (reasonable (by decide +kernel)).1 5 (by decide +kernel)
  exact absurd mapped (by decide +kernel)

end Client

end H2ts
