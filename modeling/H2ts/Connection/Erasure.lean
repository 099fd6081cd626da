import H2ts.Connection.Client

/-!
# Erasing the history

The history is a record of the run, and nothing reads it: clients that differ in their
histories only go on to differ in their histories only (`alike_run`).
-/

namespace H2ts

open Hpack

namespace Client

/-- The client without its record. -/
def erase (c : Client) : Client := { c with history := [] }

/-- The clients differ in their histories at most. -/
def Alike (c d : Client) : Prop := c.erase = d.erase

namespace Alike

variable {c d e : Client}

theorem refl (c : Client) : Alike c c := rfl

theorem symm (alike : Alike c d) : Alike d c := Eq.symm alike

theorem trans (first : Alike c d) (second : Alike d e) : Alike c e := Eq.trans first second

theorem other (c : Client) (history : List Event) : Alike c { c with history := history } := rfl

/-- One of them is the other with another history. -/
theorem eq (alike : Alike c d) : ∃ history, d = { c with history := history } := by
  refine ⟨d.history, ?_⟩
  have same : { c.erase with history := d.history } = { d.erase with history := d.history } := by
    rw [show c.erase = d.erase from alike]
  exact same.symm

/-- What is read off one of them can be read off the other. -/
theorem read {α : Type*} (alike : Alike c d) (f : Client → α)
    (blind : ∀ c history, f { c with history := history } = f c) : f c = f d := by
  obtain ⟨history, rfl⟩ := alike.eq
  exact (blind c history).symm

/-- A change that neither reads nor writes the history. -/
theorem update (alike : Alike c d) (f : Client → Client)
    (blind : ∀ c history, Alike (f c) (f { c with history := history })) : Alike (f c) (f d) := by
  obtain ⟨history, rfl⟩ := alike.eq
  exact blind c history

theorem foldl {α : Type*} {f : Client → α → Client}
    (each : ∀ {c d : Client} a, Alike c d → Alike (f c a) (f d a)) (as : List α)
    (alike : Alike c d) : Alike (as.foldl f c) (as.foldl f d) := by
  induction as generalizing c d with
  | nil => exact alike
  | cons a as ih => exact ih (each a alike)

/-! ## Updates -/

theorem record (alike : Alike c d) (e : Event) : Alike (c.record e) (d.record e) :=
  alike

theorem modifyCell (alike : Alike c d) (k : Nat) (f : Cell → Cell) :
    Alike (c.modifyCell k f) (d.modifyCell k f) :=
  alike.update (fun c => c.modifyCell k f) fun _ _ => rfl

theorem modifyStream (alike : Alike c d) (id : UInt32) (f : StreamState → StreamState) :
    Alike (c.modifyStream id f) (d.modifyStream id f) :=
  alike.update (fun c => c.modifyStream id f) fun _ _ => rfl

theorem wakePumps (alike : Alike c d) (wakers : List Nat) :
    Alike (c.wakePumps wakers) (d.wakePumps wakers) :=
  alike.update (fun c => c.wakePumps wakers) fun _ _ => rfl

theorem wakeSlotWaiters (alike : Alike c d) : Alike c.wakeSlotWaiters d.wakeSlotWaiters :=
  alike.update (fun c => c.wakeSlotWaiters) fun _ _ => rfl

theorem sendFrame (alike : Alike c d) (frame : Frame) :
    Alike (c.sendFrame frame) (d.sendFrame frame) := by
  refine alike.update (fun c => c.sendFrame frame) fun c history => ?_
  simp only [Client.sendFrame]
  split <;> rfl

theorem withStream (alike : Alike c d) (id : UInt32) (f : StreamState → Cell → StreamState × Cell) :
    Alike (c.withStream id f) (d.withStream id f) := by
  refine alike.update (fun c => c.withStream id f) fun c history => ?_
  simp only [Client.withStream]
  split <;> rfl

theorem removeAndFail (alike : Alike c d) (id : UInt32) (err : H2Error) :
    Alike (c.removeAndFail id err) (d.removeAndFail id err) := by
  refine alike.update (fun c => c.removeAndFail id err) fun c history => ?_
  simp only [Client.removeAndFail]
  split <;> rfl

theorem resetStream (alike : Alike c d) (id : UInt32) (code : ErrorCode) :
    Alike (c.resetStream id code) (d.resetStream id code) :=
  (((alike.sendFrame _).record _).removeAndFail id _).wakeSlotWaiters

theorem retireIfFullyClosed (alike : Alike c d) (id : UInt32) :
    Alike (c.retireIfFullyClosed id) (d.retireIfFullyClosed id) := by
  refine alike.update (fun c => c.retireIfFullyClosed id) fun c history => ?_
  simp only [Client.retireIfFullyClosed]
  split
  · rfl
  · split <;> rfl

theorem replenishRecvWindow (alike : Alike c d) (id : UInt32) (n : Nat) :
    Alike (c.replenishRecvWindow id n) (d.replenishRecvWindow id n) := by
  obtain ⟨history, rfl⟩ := alike.eq
  simp only [Client.replenishRecvWindow]
  split
  · rfl
  · split
    · exact ((Alike.other c history).sendFrame _).sendFrame _
    · exact (Alike.other c history).sendFrame _

/-! ## Teardown -/

theorem destroy (alike : Alike c d) (err : H2Error) : Alike (c.destroy err) (d.destroy err) := by
  have shut (c : Client) (history : List Event) :
      Alike (c.shutDown err) ({ c with history := history }.shutDown err) := rfl
  obtain ⟨history, rfl⟩ := alike.eq
  simp only [Client.destroy]
  split
  · rfl
  · have removed := (shut c history).foldl (fun id alike => removeAndFail alike id err)
      (c.shutDown err).streams.keys
    exact (((removed.update (fun c => c.failPings err) fun _ _ => rfl).wakeSlotWaiters).update
      (fun c => { c with outTx := false }) fun _ _ => rfl)

theorem connectionError (alike : Alike c d) (err : H2Error) :
    Alike (c.connectionError err) (d.connectionError err) := by
  have same : c.highestPromised = d.highestPromised := alike.read Client.highestPromised fun _ _ => rfl
  unfold Client.connectionError
  rw [same]
  exact (alike.sendFrame _).destroy err

/-! ## Frames -/

end Alike

/-- The same result, and clients that are alike. -/
def AlikeOutcome (o p : Outcome) : Prop := Alike o.1 p.1 ∧ o.2 = p.2

namespace AlikeOutcome

variable {o p : Outcome}

theorem andThen (alike : AlikeOutcome o p) {next next' : Client → Outcome}
    (later : ∀ c d, Alike c d → AlikeOutcome (next c) (next' d)) :
    AlikeOutcome (o.andThen next) (p.andThen next') := by
  obtain ⟨c, result⟩ := o
  obtain ⟨d, result'⟩ := p
  obtain ⟨alike, rfl⟩ := alike
  cases result with
  | error fault => exact ⟨alike, rfl⟩
  | ok done => exact later c d alike

end AlikeOutcome

namespace Alike

variable {c d : Client}

theorem ok (alike : Alike c d) : AlikeOutcome (c, .ok ()) (d, .ok ()) := ⟨alike, rfl⟩

theorem error (alike : Alike c d) (fault : Fault) :
    AlikeOutcome (c, .error fault) (d, .error fault) :=
  ⟨alike, rfl⟩

theorem applyOtherSettings (alike : Alike c d) (s : Settings) :
    Alike (c.applyOtherSettings s) (d.applyOtherSettings s) := by
  refine alike.update (fun c => c.applyOtherSettings s) fun c history => ?_
  simp only [Client.applyOtherSettings]
  split <;> rfl

theorem applyRemoteSettings (alike : Alike c d) (s : Settings) :
    AlikeOutcome (c.applyRemoteSettings s) (d.applyRemoteSettings s) := by
  have window {c d : Client} (alike : Alike c d) : AlikeOutcome
      (c.applyInitialWindowSize s.initialWindowSize) (d.applyInitialWindowSize s.initialWindowSize) := by
    obtain ⟨history, rfl⟩ := alike.eq
    cases s.initialWindowSize with
    | none => exact alike.ok
    | some iw =>
        simp only [applyInitialWindowSize]
        split
        · exact alike.error _
        · exact ⟨alike.update (fun c => c.adjustWindows iw.toNat) fun _ _ => rfl, rfl⟩
  have size {c d : Client} (alike : Alike c d) : AlikeOutcome
      (c.applyMaxFrameSize s.maxFrameSize) (d.applyMaxFrameSize s.maxFrameSize) := by
    obtain ⟨history, rfl⟩ := alike.eq
    cases s.maxFrameSize with
    | none => exact alike.ok
    | some mfs =>
        simp only [applyMaxFrameSize]
        split
        · exact ⟨rfl, rfl⟩
        · exact alike.error _
  exact (window alike).andThen fun c d alike => (size alike).andThen fun c d alike =>
    (alike.applyOtherSettings s).ok

theorem takeHeaderBlock (alike : Alike c d) (pb : PendingHeaderBlock) (headers : List Header) :
    Alike (c.takeHeaderBlock pb headers) (d.takeHeaderBlock pb headers) := by
  unfold Client.takeHeaderBlock
  cases pb.kind with
  | response =>
      have received : Alike (c.receiveBlock pb.streamId headers pb.endStream)
          (d.receiveBlock pb.streamId headers pb.endStream) :=
        (alike.record _).withStream pb.streamId _
      simp only []
      split
      · exact received.retireIfFullyClosed _
      · exact received
  | push =>
      refine alike.update (fun c => c.refusePush (pb.promisedStreamId.getD 0)) fun c history => ?_
      simp only [refusePush]
      split
      · exact (Alike.other _ history).sendFrame _
      · exact (Alike.other c history).sendFrame _

theorem completeHeaderBlock (alike : Alike c d) :
    AlikeOutcome c.completeHeaderBlock d.completeHeaderBlock := by
  obtain ⟨history, rfl⟩ := alike.eq
  simp only [Client.completeHeaderBlock]
  split
  · exact alike.error _
  · split
    · exact error (Alike.other _ history) _
    · exact (takeHeaderBlock (Alike.other _ history) _ _).ok

theorem growHeaderBlock (alike : Alike c d) (pb : PendingHeaderBlock) (endHeaders : Bool) :
    AlikeOutcome (c.growHeaderBlock pb endHeaders) (d.growHeaderBlock pb endHeaders) := by
  have stored : Alike { c with pendingHeaderBlock := some pb } { d with pendingHeaderBlock := some pb } :=
    alike.update (fun c => { c with pendingHeaderBlock := some pb }) fun _ _ => rfl
  simp only [Client.growHeaderBlock, guardHeaderBlockSize]
  split
  · exact stored.error _
  · split
    · exact stored.completeHeaderBlock
    · exact stored.ok

theorem receiveDataFrame (alike : Alike c d) (id : UInt32) (data : Bytes) (endStream : Bool) :
    Alike (c.receiveDataFrame id data endStream) (d.receiveDataFrame id data endStream) := by
  have streams : c.streams = d.streams := alike.read Client.streams fun _ _ => rfl
  have recorded := alike.record (.data id data endStream)
  have same : (id ∈ (c.record (.data id data endStream)).streams) =
      (id ∈ (d.record (.data id data endStream)).streams) :=
    congrArg (id ∈ ·) streams
  simp only [Client.receiveDataFrame, same]
  split
  · exact recorded.withStream id _
  · split
    · exact recorded.sendFrame _
    · exact recorded

theorem creditStream (alike : Alike c d) (id increment : UInt32) :
    Alike (c.creditStream id increment) (d.creditStream id increment) := by
  refine alike.update (fun c => c.creditStream id increment) fun c history => ?_
  simp only [Client.creditStream, Client.record]
  split <;> rfl

theorem receiveWindowUpdate (alike : Alike c d) (id increment : UInt32) :
    AlikeOutcome (c.receiveWindowUpdate id increment) (d.receiveWindowUpdate id increment) := by
  unfold Client.receiveWindowUpdate
  split
  · split
    · exact alike.error _
    · exact (alike.resetStream id _).ok
  · split
    · exact (alike.update (fun c => c.creditConnection increment) fun _ _ => rfl).ok
    · exact (alike.creditStream id increment).ok

theorem receiveGoaway (alike : Alike c d) (lastStreamId errorCode : UInt32) :
    Alike (c.receiveGoaway lastStreamId errorCode) (d.receiveGoaway lastStreamId errorCode) := by
  obtain ⟨history, rfl⟩ := alike.eq
  have received : Alike ({ c with goawayReceived := true }.record (.goaway lastStreamId))
      ({ c with goawayReceived := true, history := history }.record (.goaway lastStreamId)) := rfl
  have failed (ids : List UInt32) (err : H2Error) :=
    (received.foldl (fun id alike => removeAndFail alike id err) ids).wakeSlotWaiters
  simp only [Client.receiveGoaway]
  split
  · exact (failed _ _).destroy _
  · exact failed _ _

theorem receivePing (alike : Alike c d) (ack : Bool) (opaqueData : OpaqueData) :
    Alike (c.receivePing ack opaqueData) (d.receivePing ack opaqueData) := by
  cases ack with
  | false => exact alike.sendFrame _
  | true =>
      refine alike.update (fun c => c.receivePing true opaqueData) fun c history => ?_
      simp only [Client.receivePing, if_true]
      split <;> rfl

theorem dispatchFrame (alike : Alike c d) (frame : Frame) :
    AlikeOutcome (c.dispatchFrame frame) (d.dispatchFrame frame) := by
  cases frame with
  | settings ack settings =>
      simp only [Client.dispatchFrame]
      split
      · exact alike.ok
      · exact (alike.applyRemoteSettings settings).andThen fun c d alike => (alike.sendFrame _).ok
  | headers id fragment endStream endHeaders priority => exact alike.growHeaderBlock _ _
  | pushPromise id promised fragment endHeaders => exact alike.growHeaderBlock _ _
  | continuation id fragment endHeaders =>
      obtain ⟨history, rfl⟩ := alike.eq
      simp only [Client.dispatchFrame]
      split
      · exact alike.error _
      · split
        · exact alike.growHeaderBlock _ _
        · exact alike.error _
  | data id data endStream =>
      have received := alike.receiveDataFrame id data endStream
      simp only [Client.dispatchFrame]
      split
      · exact (received.retireIfFullyClosed id).ok
      · exact received.ok
  | rstStream id errorCode => exact ((alike.record _).removeAndFail id _).ok
  | windowUpdate id increment => exact alike.receiveWindowUpdate id increment
  | ping ack opaqueData => exact (alike.receivePing ack opaqueData).ok
  | goaway lastStreamId errorCode debugData => exact (alike.receiveGoaway lastStreamId errorCode).ok
  | priority id spec => exact alike.ok

theorem dispatch (alike : Alike c d) (frame : Frame) :
    AlikeOutcome (c.dispatch frame) (d.dispatch frame) := by
  have pending : c.pendingHeaderBlock = d.pendingHeaderBlock :=
    alike.read Client.pendingHeaderBlock fun _ _ => rfl
  unfold Client.dispatch
  rw [pending]
  split
  · exact alike.error _
  · exact alike.dispatchFrame frame

theorem onFrame (alike : Alike c d) (frame : Frame) : Alike (c.onFrame frame) (d.onFrame frame) := by
  have dispatched := alike.dispatch frame
  unfold Client.onFrame
  revert dispatched
  obtain ⟨c', result⟩ := c.dispatch frame
  obtain ⟨d', result'⟩ := d.dispatch frame
  rintro ⟨alike', rfl⟩
  cases result with
  | ok done => exact alike'
  | error fault =>
      cases fault with
      | h2 err => exact alike'.connectionError err
      | panic => exact alike'

/-! ## Callers -/

theorem openStream (alike : Alike c d) (i : Nat) (request : Request) :
    Alike (c.openStream i request) (d.openStream i request) := by
  have inserted {c d : Client} (alike : Alike c d) (s : StreamState) :
      Alike (c.insertStream s) (d.insertStream s) := by
    refine alike.update (fun c => c.insertStream s) fun c history => ?_
    simp only [insertStream]
    split <;> rfl
  have registered : Alike (c.registerStream i request.body) (d.registerStream i request.body) := by
    obtain ⟨history, rfl⟩ := alike.eq
    have counted := Alike.other { c with nextStreamId := c.nextStreamId + 2, opened := c.opened + 1 } history
    have stored := (inserted counted (c.newStream request.body)).modifyCell c.opened
      fun _ => newCell c.nextStreamId request.body
    have awaiting := stored.update (fun d => { d with
      calls := Function.update d.calls i (.awaiting c.opened) }) fun _ _ => rfl
    exact awaiting.record (.opened c.nextStreamId)
  have id : c.nextStreamId = d.nextStreamId := alike.read Client.nextStreamId fun _ _ => rfl
  have max : (c.registerStream i request.body).remote = (d.registerStream i request.body).remote :=
    registered.read Client.remote fun _ _ => rfl
  unfold Client.openStream sendHeaders
  rw [id, max]
  exact registered.foldl (fun frame alike => alike.sendFrame frame) _

theorem tryOpen (alike : Alike c d) (i : Nat) (request : Request) :
    Alike (c.tryOpen i request) (d.tryOpen i request) := by
  obtain ⟨history, rfl⟩ := alike.eq
  have unavailable : { c with history := history }.unavailable = c.unavailable := rfl
  have free : { c with history := history }.canOpenStream = c.canOpenStream := rfl
  simp only [Client.tryOpen, unavailable, free]
  split
  · rfl
  · split
    · exact alike.openStream i request
    · rfl

theorem pollCall (alike : Alike c d) (i : Nat) : Alike (c.pollCall i) (d.pollCall i) := by
  obtain ⟨history, rfl⟩ := alike.eq
  simp only [Client.pollCall]
  split
  · split
    · rfl
    · exact alike.tryOpen i _
  · split <;> rfl
  · rfl

theorem pumpChunk (alike : Alike c d) (k : Nat) (chunk : Bytes) (offset : Nat) (rest : List Bytes) :
    Alike (c.pumpChunk k chunk offset rest) (d.pumpChunk k chunk offset rest) := by
  have registered (c : Client) (history : List Event) (id : UInt32) (s : StreamState) :
      Alike (c.registerWakers id s k) ({ c with history := history }.registerWakers id s k) := by
    simp only [registerWakers]
    split <;> split <;> rfl
  have sent (c : Client) (history : List Event) (id : UInt32) (data : Bytes) :
      Alike (c.sendData id data) ({ c with history := history }.sendData id data) := by
    have consumed := (Alike.other c history).update (fun c =>
      { c with connSendWindow := c.connSendWindow.consume data.length }) fun _ _ => rfl
    exact (consumed.modifyStream id _).sendFrame _
  have set {c d : Client} (alike : Alike c d) (pump : Pump) (parked : Bool) :
      Alike (c.setPump k pump parked) (d.setPump k pump parked) :=
    alike.modifyCell k _
  obtain ⟨history, rfl⟩ := alike.eq
  have grant (s : StreamState) (n : Nat) : { c with history := history }.grant s n = c.grant s n := rfl
  simp only [Client.pumpChunk, grant]
  split
  · rfl
  · split
    · rfl
    · split
      · split
        · rfl
        · split
          · rfl
          · exact set (sent c history _ _) _ _
      · exact set (registered c history _ _) _ _

theorem pump (alike : Alike c d) (k : Nat) : Alike (c.pump k) (d.pump k) := by
  have finished (history : List Event) :
      Alike (c.finishUpload k) ({ c with history := history }.finishUpload k) := by
    simp only [finishUpload]
    split
    · have sent := (Alike.other c history).sendFrame (.data (c.cells k).id [] true)
      have closed := sent.modifyStream (c.cells k).id fun s => { s with localClosed := true }
      exact (closed.modifyCell k _).retireIfFullyClosed _
    · rfl
  obtain ⟨history, rfl⟩ := alike.eq
  simp only [Client.pump]
  split
  · rfl
  · exact finished history
  · rfl
  · exact alike.pumpChunk k _ _ _
  · rfl

theorem readBody (alike : Alike c d) (k : Nat) : Alike (c.read k) (d.read k) := by
  obtain ⟨history, rfl⟩ := alike.eq
  simp only [Client.read]
  split
  · split
    · exact replenishRecvWindow (alike.modifyCell k _) _ _
    · split
      · rfl
      · split <;> rfl
  · rfl

theorem dropBody (alike : Alike c d) (k : Nat) : Alike (c.dropBody k) (d.dropBody k) := by
  obtain ⟨history, rfl⟩ := alike.eq
  simp only [Client.dropBody]
  split
  · have returned := (alike.modifyCell k fun cell => { cell with holder := .gone }).replenishRecvWindow
      (c.cells k).id (c.cells k).recv.buffered
    split
    · exact returned
    · exact returned.resetStream _ _
  · rfl

theorem ping (alike : Alike c d) : Alike c.ping d.ping := by
  obtain ⟨history, rfl⟩ := alike.eq
  simp only [Client.ping]
  split
  · rfl
  · refine sendFrame ?_ _
    cases c.pings.lookup (pingData (c.pingCounter + 1)) <;> rfl

theorem close (alike : Alike c d) : Alike c.close d.close := by
  obtain ⟨history, rfl⟩ := alike.eq
  simp only [Client.close]
  split
  · rfl
  · exact (alike.sendFrame _).destroy _

/-- No section reads the history. -/
theorem step (alike : Alike c d) (a : Action) : Alike (c.step a) (d.step a) := by
  cases a with
  | frame frame => exact alike.onFrame frame
  | corrupt err => exact alike.connectionError err
  | transportClosed => exact alike.destroy _
  | writeFailed => exact alike.destroy _
  | request request =>
      obtain ⟨history, rfl⟩ := alike.eq
      exact (Alike.other { c with called := c.called + 1 } history).tryOpen c.called request
  | pollCall i => exact alike.pollCall i
  | dropCall i =>
      refine alike.update (fun c => c.dropCall i) fun c history => ?_
      simp only [Client.dropCall]
      split <;> rfl
  | pump k => exact alike.pump k
  | read k => exact alike.readBody k
  | dropBody k => exact alike.dropBody k
  | ping => exact alike.ping
  | close => exact alike.close

end Alike

/-- Runs from clients that are alike end in clients that are alike. -/
theorem alike_run {c d : Client} (alike : Alike c d) (actions : List Action) :
    Alike (Machine.run step c actions) (Machine.run step d actions) := by
  induction actions generalizing c d with
  | nil => exact alike
  | cons a actions ih => exact ih (alike.step a)

end Client

end H2ts
