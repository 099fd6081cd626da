import H2ts.Connection.Refine

/-!
# The turns of a section

The view of a client forgets its callers.  Here they are: the calls of `request`
and of `ping`, who holds what of a stream, and how many bytes of it are unread
(`Desk`).  Most of what a section does is no concern of theirs.  It is a sequence
of chores, and a chore leaves the desk as it is (`Chore.desk`), returns no receive
credit and says no goodbye (`Chore.adds`).

A turn is a chore or one of the other things a section can do.  Every section is
a sequence of turns (`turns_step`).  A turn that takes DATA or send credit, drops a
body or drops a call is one the section was asked for, so a condition on the actions of a run is
one on its turns.
-/

namespace H2ts

open Hpack

/-- A frame that neither returns receive credit nor says goodbye. -/
def Frame.isPlain : Frame → Bool
  | .windowUpdate .. => false
  | .goaway .. => false
  | _ => true

/-- An event that neither returns receive credit, nor uses it up, nor grants send
credit, nor says goodbye. -/
def Event.isPlain : Event → Bool
  | .sent frame => frame.isPlain
  | .data .. => false
  | .credit .. => false
  | _ => true

def Event.isSent : Event → Bool
  | .sent _ => true
  | _ => false

/-- A stream up to its send side. -/
structure StreamState.Alike (s s' : StreamState) : Prop where
  cell : s'.cell = s.cell
  headTx : s'.headTx = s.headTx
  gotHead : s'.gotHead = s.gotHead
  remoteClosed : s'.remoteClosed = s.remoteClosed

theorem StreamState.Alike.refl (s : StreamState) : s.Alike s := ⟨rfl, rfl, rfl, rfl⟩

namespace Client

/-! ## Chores -/

/-- What the callers do not notice, unless it is a head or the end of a body. -/
inductive Chore : Client → Client → Prop
  | note {c : Client} (e : Event) (plain : e.isPlain = true) (unsent : e.isSent = false) :
      Chore c (c.record e)
  | send {c : Client} (frame : Frame) (plain : frame.isPlain = true) (live : c.closed = false) :
      Chore c (c.record (.sent frame))
  | tune {c : Client} (decoder : HpackDecoder) (remote : RemoteSettings)
      (pending : Option PendingHeaderBlock) (waiters : List Nat) (goaway : Bool) (highest : UInt32)
      (window : SendWindow) (same : window.closed = c.connSendWindow.closed) :
      Chore c { c with
        decoder := decoder
        remote := remote
        pendingHeaderBlock := pending
        slotWaiters := waiters
        goawayReceived := goaway
        highestPromised := highest
        connSendWindow := window }
  | restream {c : Client} (f : UInt32 → StreamState → StreamState)
      (alike : ∀ id (s : StreamState), s.Alike (f id s)) :
      Chore c { c with streams := c.streams.mapWithKey f }
  | repump {c : Client} (f : Nat → Cell → Cell)
      (same : ∀ k x, f k x = { x with pump := (f k x).pump, parked := (f k x).parked }) :
      Chore c { c with cells := fun k => f k (c.cells k) }
  | block {c : Client} (id : UInt32) (headers : List Header) (endStream : Bool) :
      Chore c (c.receiveBlock id headers endStream)
  | remove {c : Client} (id : UInt32) (err : H2Error) : Chore c (c.removeAndFail id err)
  | retire {c : Client} (id : UInt32) : Chore c (c.retireIfFullyClosed id)

/-- Any number of chores. -/
abbrev Chores : Client → Client → Prop := Relation.ReflTransGen Chore

theorem chores_record (c : Client) {e : Event} (plain : e.isPlain = true)
    (unsent : e.isSent = false) : Chores c (c.record e) :=
  .single (.note e plain unsent)

theorem chores_sendFrame (c : Client) {frame : Frame} (plain : frame.isPlain = true) :
    Chores c (c.sendFrame frame) := by
  unfold sendFrame
  split
  next open' => exact .single (.send frame plain (by simpa using (Bool.and_eq_true_iff.mp open').1))
  next => exact .refl

theorem chores_wakeSlotWaiters (c : Client) : Chores c c.wakeSlotWaiters :=
  .single (.tune _ _ _ _ _ _ _ rfl)

theorem chores_modifyStream (c : Client) (id : UInt32) {f : StreamState → StreamState}
    (alike : ∀ s : StreamState, s.Alike (f s)) : Chores c (c.modifyStream id f) := by
  refine .single (.restream (fun key s => if key = id then f s else s) fun key s => ?_)
  split
  · exact alike s
  · exact .refl s

theorem chores_wakePumps (c : Client) (wakers : List Nat) : Chores c (c.wakePumps wakers) := by
  refine .single (.repump (fun k x => if k ∈ wakers then { x with parked := false } else x) ?_)
  intro k x
  split <;> rfl

theorem chores_setPump (c : Client) (k : Nat) (pump : Pump) (parked : Bool) :
    Chores c (c.setPump k pump parked) := by
  have cells : (c.setPump k pump parked).cells =
      fun j => if j = k then { c.cells j with pump := pump, parked := parked } else c.cells j := by
    funext j
    show Function.update c.cells k _ j = _
    split
    next eq => rw [eq, Function.update_self]
    next ne => rw [Function.update_of_ne ne]
  have same : c.setPump k pump parked = { c with cells := fun j =>
      if j = k then { c.cells j with pump := pump, parked := parked } else c.cells j } := by
    rw [← cells]
    rfl
  rw [same]
  refine .single (.repump
    (fun j x => if j = k then { x with pump := pump, parked := parked } else x) fun j x => ?_)
  split <;> rfl

/-! ## The chores of the functions -/

theorem chores_resetStream (c : Client) (id : UInt32) (code : ErrorCode) :
    Chores c (c.resetStream id code) :=
  (((c.chores_sendFrame rfl).trans (chores_record _ rfl rfl)).tail (.remove id _)).trans
    (chores_wakeSlotWaiters _)

theorem chores_removeAll (c : Client) (ids : List UInt32) (err : H2Error) :
    Chores c (ids.foldl (fun c id => c.removeAndFail id err) c) := by
  induction ids generalizing c with
  | nil => exact .refl
  | cons id ids ih => exact .head (.remove id err) (ih _)

theorem chores_andThen {c : Client} {o : Outcome} {next : Client → Outcome} (first : Chores c o.1)
    (later : ∀ c, Chores c (next c).1) : Chores c (o.andThen next).1 := by
  obtain ⟨c, fault | done⟩ := o
  · exact first
  · exact first.trans (later c)

theorem chores_adjustWindows (c : Client) (initial : Int) : Chores c (c.adjustWindows initial) := by
  have tuned : Chore c { c with remote := { c.remote with initialWindowSize := initial } } :=
    .tune _ _ _ _ _ _ _ rfl
  have moved : Chore { c with remote := { c.remote with initialWindowSize := initial } } { c with
      remote := { c.remote with initialWindowSize := initial }
      streams := c.streams.mapWithKey fun _ s => { s with
        sendWindow := (s.sendWindow.adjust (initial - c.remote.initialWindowSize)).1 } } :=
    .restream _ fun _ s => ⟨rfl, rfl, rfl, rfl⟩
  exact .trans (.head tuned (.single moved)) (chores_wakePumps _ _)

/-- The credit is recorded, and then it is a chore. -/
theorem chores_creditConnection (c : Client) (increment : UInt32) :
    Chores (c.record (.credit 0 increment)) (c.creditConnection increment) := by
  have tuned : Chore (c.record (.credit 0 increment)) ({ c with
      connSendWindow := (c.connSendWindow.update increment.toNat).1 }.record (.credit 0 increment)) :=
    .tune _ _ _ _ _ _ _ (SendWindow.update_closed _ _)
  exact .head tuned (chores_wakePumps _ _)

theorem chores_creditStream (c : Client) (id increment : UInt32) :
    Chores (c.record (.credit id increment)) (c.creditStream id increment) := by
  unfold creditStream
  simp only []
  split
  · exact .refl
  next s found =>
    have moved := (c.record (.credit id increment)).chores_modifyStream id
      (f := fun s' => { s' with sendWindow := (s.sendWindow.update increment.toNat).1 })
      fun s' => ⟨rfl, rfl, rfl, rfl⟩
    exact moved.trans (chores_wakePumps _ _)

theorem chores_applyRemoteSettings (c : Client) (s : Settings) :
    Chores c (c.applyRemoteSettings s).1 := by
  refine chores_andThen ?_ fun c => chores_andThen ?_ fun c => ?_
  · cases s.initialWindowSize with
    | none => exact .refl
    | some iw =>
        rw [applyInitialWindowSize]
        split
        · exact .refl
        · exact c.chores_adjustWindows _
  · cases s.maxFrameSize with
    | none => exact .refl
    | some mfs =>
        rw [applyMaxFrameSize]
        split
        · exact .single (.tune _ _ _ _ _ _ _ rfl)
        · exact .refl
  · rw [applyOtherSettings]
    cases s.maxConcurrentStreams with
    | none => exact .single (.tune _ _ _ _ _ _ _ rfl)
    | some mcs =>
        have tuned (remote : RemoteSettings) : Chore c { c with remote := remote } :=
          .tune _ _ _ _ _ _ _ rfl
        exact (Relation.ReflTransGen.single (tuned _)).trans
          ((chores_record _ rfl rfl).trans (chores_wakeSlotWaiters _))

theorem chores_takeHeaderBlock (c : Client) (pb : PendingHeaderBlock) (headers : List Header) :
    Chores c (c.takeHeaderBlock pb headers) := by
  unfold takeHeaderBlock
  cases pb.kind with
  | response =>
      have received := Relation.ReflTransGen.single
        (Chore.block (c := c) pb.streamId headers pb.endStream)
      simp only []
      split
      · exact received.tail (.retire _)
      · exact received
  | push =>
      have raised : Chores c (if pb.promisedStreamId.getD 0 > c.highestPromised then
          { c with highestPromised := pb.promisedStreamId.getD 0 } else c) := by
        split
        · exact .single (.tune _ _ _ _ _ _ _ rfl)
        · exact .refl
      exact raised.trans (chores_sendFrame _ rfl)

theorem chores_growHeaderBlock (c : Client) (pb : PendingHeaderBlock) (endHeaders : Bool) :
    Chores c (c.growHeaderBlock pb endHeaders).1 := by
  have stored : Chore c { c with pendingHeaderBlock := some pb } := .tune _ _ _ _ _ _ _ rfl
  unfold growHeaderBlock
  simp only []
  split
  · exact .single stored
  · split
    · have taken (decoder : HpackDecoder) : Chores c
          { c with pendingHeaderBlock := none, decoder := decoder } :=
        .single (.tune _ _ _ _ _ _ _ rfl)
      simp only [completeHeaderBlock]
      split
      · exact taken _
      · exact (taken _).trans (chores_takeHeaderBlock _ pb _)
    · exact .single stored

theorem chores_receiveWindowUpdate (c : Client) (id increment : UInt32) :
    increment = 0 ∧ Chores c (c.receiveWindowUpdate id increment).1 ∨
      increment ≠ 0 ∧
        Chores (c.record (.credit id increment)) (c.receiveWindowUpdate id increment).1 := by
  unfold receiveWindowUpdate
  split
  next zero =>
    refine .inl ⟨zero, ?_⟩
    split
    · exact .refl
    · exact c.chores_resetStream id _
  next nonzero =>
    refine .inr ⟨nonzero, ?_⟩
    split
    next connection =>
      subst connection
      exact c.chores_creditConnection increment
    next => exact c.chores_creditStream id increment

/-! ## The chores of an upload -/

theorem isPlain_headerFrames {id : UInt32} {max : Nat} {block : Bytes} {endStream : Bool}
    {frame : Frame} (mem : frame ∈ headerFrames id max block endStream) : frame.isPlain = true := by
  have continued (fuel : Nat) (rest : Bytes) :
      ∀ frame ∈ continuationFrames id max fuel rest, frame.isPlain = true := by
    induction fuel generalizing rest with
    | zero =>
        intro frame mem
        cases mem
    | succ fuel ih =>
        intro frame mem
        rw [continuationFrames] at mem
        split at mem
        · cases mem
        · cases mem with
          | head => rfl
          | tail _ mem => exact ih _ frame mem
  unfold headerFrames at mem
  split at mem
  · rw [List.mem_singleton.mp mem]
    rfl
  · cases mem with
    | head => rfl
    | tail _ mem => exact continued _ _ frame mem

theorem chores_sendAll (c : Client) {frames : List Frame}
    (plain : ∀ frame ∈ frames, frame.isPlain = true) : Chores c (frames.foldl sendFrame c) := by
  induction frames generalizing c with
  | nil => exact .refl
  | cons frame frames ih =>
      have rest := ih (c.sendFrame frame) fun frame mem => plain frame (.tail _ mem)
      exact (c.chores_sendFrame (plain frame (.head _))).trans rest

theorem chores_sendHeaders (c : Client) (id : UInt32) (block : Bytes) (endStream : Bool) :
    Chores c (c.sendHeaders id block endStream) :=
  c.chores_sendAll fun _ mem => isPlain_headerFrames mem

theorem chores_registerWakers (c : Client) (id : UInt32) (s : StreamState) (k : Nat) :
    Chores c (c.registerWakers id s k) := by
  have connection : Chores c (if c.connSendWindow.isReady then c
      else { c with connSendWindow := c.connSendWindow.registerWaker k }) := by
    split
    · exact .refl
    · exact .single (.tune _ _ _ _ _ _ _ rfl)
  unfold registerWakers
  simp only []
  split
  · exact connection
  · exact connection.trans (chores_modifyStream _ id fun s => ⟨rfl, rfl, rfl, rfl⟩)

theorem chores_sendData (c : Client) (id : UInt32) (data : Bytes) : Chores c (c.sendData id data) := by
  have consumed : Chore c { c with connSendWindow := c.connSendWindow.consume data.length } :=
    .tune _ _ _ _ _ _ _ rfl
  have moved := { c with connSendWindow := c.connSendWindow.consume data.length }.chores_modifyStream
    id (f := fun s => { s with sendWindow := s.sendWindow.consume data.length })
    fun s => ⟨rfl, rfl, rfl, rfl⟩
  exact .head consumed (moved.trans (chores_sendFrame _ rfl))

theorem chores_pumpChunk (c : Client) (k : Nat) (chunk : Bytes) (offset : Nat) (rest : List Bytes) :
    Chores c (c.pumpChunk k chunk offset rest) := by
  have halted := c.chores_setPump k (.finished false) false
  unfold pumpChunk
  simp only []
  split
  · exact halted
  · split
    · exact halted
    · split
      · split
        · exact halted
        · split
          · exact c.chores_setPump k _ _
          · exact (c.chores_sendData _ _).trans (chores_setPump _ k _ _)
      · exact (c.chores_registerWakers _ _ k).trans (chores_setPump _ k _ _)

theorem chores_finishUpload (c : Client) (k : Nat) : Chores c (c.finishUpload k) := by
  unfold finishUpload
  simp only []
  split
  · have closed := (c.sendFrame (.data (c.cells k).id [] true)).chores_modifyStream (c.cells k).id
      (f := fun s => { s with localClosed := true }) fun s => ⟨rfl, rfl, rfl, rfl⟩
    exact (((c.chores_sendFrame rfl).trans closed).trans (chores_setPump _ k _ _)).tail (.retire _)
  · exact c.chores_setPump k _ _

theorem chores_pump (c : Client) (k : Nat) : Chores c (c.pump k) := by
  unfold pump
  split
  · exact .refl
  · exact c.chores_finishUpload k
  · exact c.chores_setPump k _ _
  · exact c.chores_pumpChunk k _ _ _
  · exact .refl

/-! ## The desk -/

end Client

/-- What the caller of a stream has to account for. -/
structure Shelf where
  id : UInt32
  holder : Holder
  queue : List Bytes
  buffered : Nat

def Cell.shelf (x : Cell) : Shelf := ⟨x.id, x.holder, x.recv.queue, x.recv.buffered⟩

/-- The part of a client its callers hold on to, and how it was closed. -/
structure Desk where
  opened : Nat
  nextStreamId : UInt32
  shelves : Nat → Shelf
  called : Nat
  calls : Nat → Call
  pings : KeyMap OpaqueData Nat
  pinged : Nat
  answers : Nat → Oneshot (Except H2Error Unit)
  outTx : Bool
  closed : Bool
  closeError : Option H2Error
  windowClosed : Bool

namespace Client

def desk (c : Client) : Desk where
  opened := c.opened
  nextStreamId := c.nextStreamId
  shelves := fun k => (c.cells k).shelf
  called := c.called
  calls := c.calls
  pings := c.pings
  pinged := c.pinged
  answers := c.answers
  outTx := c.outTx
  closed := c.closed
  closeError := c.closeError
  windowClosed := c.connSendWindow.closed

@[simp] theorem desk_record (c : Client) (e : Event) : (c.record e).desk = c.desk := rfl

theorem desk_modifyCell (c : Client) (k : Nat) {f : Cell → Cell}
    (same : (f (c.cells k)).shelf = (c.cells k).shelf) : (c.modifyCell k f).desk = c.desk := by
  have shelves : (fun j => (Function.update c.cells k (f (c.cells k)) j).shelf) =
      fun j => (c.cells j).shelf := by
    funext j
    by_cases eq : j = k
    · rw [eq, Function.update_self, same]
    · rw [Function.update_of_ne eq]
  simp only [desk, modifyCell, shelves]

@[simp] theorem desk_wakePumps (c : Client) (wakers : List Nat) :
    (c.wakePumps wakers).desk = c.desk := by
  have shelf (k : Nat) : (if k ∈ wakers then { c.cells k with parked := false } else c.cells k).shelf =
      (c.cells k).shelf := by
    split <;> rfl
  simp only [desk, wakePumps, shelf]

theorem shelf_drop (s : StreamState) (x : Cell) : (s.drop x).shelf = x.shelf := by
  unfold StreamState.drop
  split <;> rfl

theorem shelf_fail (s : StreamState) (x : Cell) (err : H2Error) :
    (s.fail x err).2.shelf = x.shelf := by
  obtain ⟨id, window, headTx, k, gotHead, localClosed, remoteClosed⟩ := s
  cases gotHead <;> cases headTx <;> rfl

theorem shelf_receiveHeaders (s : StreamState) (x : Cell) (headers : List Header)
    (endStream : Bool) : (s.receiveHeaders x headers endStream).2.shelf = x.shelf := by
  have ended (x : Cell) :
      (if endStream then { x with recv := x.recv.endBody } else x).shelf = x.shelf := by
    split
    · simp only [Cell.shelf, RecvState.endBody]
      split <;> rfl
    · rfl
  unfold StreamState.receiveHeaders StreamState.sendHead
  cases s.gotHead <;> cases s.headTx <;> cases isInterim headers <;> first | exact ended _ | rfl

/-- Chores leave the desk as it is. -/
theorem Chore.desk {c d : Client} (chore : Chore c d) : d.desk = c.desk := by
  cases chore with
  | note e plain unsent => rfl
  | send frame plain live => rfl
  | tune decoder remote pending waiters goaway highest window same =>
      simp only [Client.desk, same]
  | restream f alike => rfl
  | repump f same =>
      have shelf (k : Nat) : (f k (c.cells k)).shelf = (c.cells k).shelf := by
        rw [same]
        rfl
      simp only [Client.desk, shelf]
  | block id headers endStream =>
      unfold receiveBlock withStream
      split
      · rfl
      · exact desk_modifyCell _ _ (shelf_receiveHeaders _ _ _ _)
  | remove id err =>
      unfold removeAndFail
      split
      · rfl
      next s found =>
        rw [desk_record]
        refine (desk_modifyCell _ _ ?_).trans (desk_wakePumps _ _)
        rw [shelf_drop, shelf_fail, cell_fail]
  | retire id =>
      unfold retireIfFullyClosed
      split
      · rfl
      next s found =>
        split
        · exact desk_modifyCell { c with streams := c.streams.erase id } s.cell (shelf_drop s _)
        · rfl

theorem desk_chores {c d : Client} (chores : Chores c d) : d.desk = c.desk := by
  induction chores with
  | refl => rfl
  | tail _ chore ih => exact chore.desk.trans ih

theorem closed_chore {c d : Client} (chore : Chore c d) : d.closed = c.closed :=
  congrArg Desk.closed chore.desk

/-! ## The history -/

/-- The history grows by events of a kind, and on a closed connection nothing is
sent. -/
structure Adds (kind : Event → Prop) (c d : Client) : Prop where
  closed : d.closed = c.closed
  events : ∃ events, d.history = c.history ++ events ∧ (∀ e ∈ events, kind e) ∧
    (c.closed = true → ∀ e ∈ events, e.isSent = false)

namespace Adds

variable {kind : Event → Prop} {c d e : Client}

theorem none (closed : d.closed = c.closed) (history : d.history = c.history) : Adds kind c d :=
  ⟨closed, [], by simp [history]⟩

theorem one (event : Event) (closed : d.closed = c.closed) (history : d.history = c.history ++ [event])
    (holds : kind event) (unsent : c.closed = true → event.isSent = false) : Adds kind c d := by
  refine ⟨closed, [event], history, fun e mem => ?_, fun isClosed e mem => ?_⟩
  · exact List.mem_singleton.mp mem ▸ holds
  · exact List.mem_singleton.mp mem ▸ unsent isClosed

theorem trans (first : Adds kind c d) (second : Adds kind d e) : Adds kind c e := by
  obtain ⟨closed, events, history, kinds, unsent⟩ := first
  obtain ⟨closed', events', history', kinds', unsent'⟩ := second
  refine ⟨closed'.trans closed, events ++ events', ?_, fun x mem => ?_, fun isClosed x mem => ?_⟩
  · rw [history', history, List.append_assoc]
  · rcases List.mem_append.mp mem with mem | mem
    · exact kinds x mem
    · exact kinds' x mem
  · rcases List.mem_append.mp mem with mem | mem
    · exact unsent isClosed x mem
    · exact unsent' (closed.trans isClosed) x mem

theorem mono {kind' : Event → Prop} (adds : Adds kind c d) (weaker : ∀ e, kind e → kind' e) :
    Adds kind' c d := by
  obtain ⟨closed, events, history, kinds, unsent⟩ := adds
  exact ⟨closed, events, history, fun e mem => weaker e (kinds e mem), unsent⟩

theorem record (c : Client) {event : Event} (holds : kind event) (unsent : event.isSent = false) :
    Adds kind c (c.record event) :=
  .one event rfl rfl holds fun _ => unsent

theorem sendFrame (c : Client) {frame : Frame} (holds : kind (.sent frame)) :
    Adds kind c (c.sendFrame frame) := by
  unfold Client.sendFrame
  split
  next isOpen =>
    refine .one _ rfl rfl holds fun closed => ?_
    rw [closed] at isOpen
    cases isOpen
  next => exact .none rfl rfl

end Adds

theorem adds_ping (c : Client) {kind : Event → Prop}
    (rings : ∀ {data}, kind (.sent (.ping false data))) : Adds kind c c.ping := by
  have rung (d : Client) (data : OpaqueData) (closed : d.closed = c.closed)
      (history : d.history = c.history) : Adds kind c (d.sendFrame (.ping false data)) :=
    (Adds.none closed history).trans (.sendFrame d rings)
  unfold ping
  simp only []
  split
  · exact .none rfl rfl
  · refine rung _ _ ?_ ?_
    · cases c.pings.lookup (pingData (c.pingCounter + 1)) <;> rfl
    · cases c.pings.lookup (pingData (c.pingCounter + 1)) <;> rfl

/-- Chores add plain events. -/
theorem Chore.adds {c d : Client} (chore : Chore c d) : Adds (fun e => e.isPlain = true) c d := by
  have closed := closed_chore chore
  cases chore with
  | note e plain unsent => exact .record c plain unsent
  | send frame plain live =>
      refine .one _ rfl rfl plain fun closed => ?_
      rw [live] at closed
      cases closed
  | tune => exact .none rfl rfl
  | restream => exact .none rfl rfl
  | repump => exact .none rfl rfl
  | block id headers endStream =>
      refine .one (.block id headers endStream) closed ?_ rfl fun _ => rfl
      unfold receiveBlock withStream
      split <;> rfl
  | remove id err =>
      cases found : c.streams.lookup id with
      | none =>
          simp only [removeAndFail, found]
          exact .none rfl rfl
      | some s =>
          refine .one (.failed id) closed ?_ rfl fun _ => rfl
          simp only [removeAndFail, found]
          rfl
  | retire id =>
      unfold retireIfFullyClosed
      split
      · exact .none rfl rfl
      · split
        · exact .one (.retired id) rfl rfl rfl fun _ => rfl
        · exact .none rfl rfl

theorem adds_chores {c d : Client} (chores : Chores c d) :
    Adds (fun e => e.isPlain = true) c d := by
  induction chores with
  | refl => exact .none rfl rfl
  | tail _ chore ih => exact ih.trans chore.adds

end Client

/-! ## Turns -/

/-- A call that has no stream and no response. -/
def Call.isIdle : Call → Bool
  | .parked _ => true
  | .refused _ => true
  | .dropped => true
  | _ => false

namespace Client

/-- What a section can do.  What a section may be asked for is `fine`. -/
inductive Turn (fine : Client → Action → Prop) : Client → Client → Prop
  | chore {c d : Client} (chore : Chore c d) : Turn fine c d
  | credit {c : Client} (id increment : UInt32)
      (asked : fine c (.frame (.windowUpdate id increment))) :
      Turn fine c (c.record (.credit id increment))
  | data {c : Client} (id : UInt32) (bytes : Bytes) (endStream : Bool)
      (asked : fine c (.frame (.data id bytes endStream))) :
      Turn fine c (c.receiveDataFrame id bytes endStream)
  | pong {c : Client} (opaqueData : OpaqueData) : Turn fine c (c.receivePing true opaqueData)
  | shut {c : Client} (err : H2Error) (live : c.closed = false) : Turn fine c (c.shutDown err)
  | farewell {c : Client} (lastStreamId errorCode : UInt32) (err : H2Error)
      (live : c.closed = false) :
      Turn fine c ((c.sendFrame (.goaway lastStreamId errorCode [])).shutDown err)
  | failPings {c : Client} (err : H2Error) : Turn fine c (c.failPings err)
  | hangUp {c : Client} (closed : c.closed = true) : Turn fine c { c with outTx := false }
  | count {c : Client} : Turn fine c { c with called := c.called + 1 }
  | enter {c : Client} {i : Nat} {call : Call} (made : i < c.called)
      (before : (c.calls i).isIdle = true) (idle : call.isIdle = true) :
      Turn fine c { c with calls := Function.update c.calls i call }
  | register {c : Client} {i : Nat} (body : RequestBody) (made : i < c.called)
      (before : (c.calls i).isIdle = true) : Turn fine c (c.registerStream i body)
  | respond {c : Client} {i k : Nat} {head : Head} (awaiting : c.calls i = .awaiting k)
      (arrived : (c.cells k).head = .sent (.ok head)) :
      Turn fine c (c.settle i k (.responded head k) .reading)
  | refuse {c : Client} {i k : Nat} (err : H2Error) (awaiting : c.calls i = .awaiting k)
      (arrived : (c.cells k).head ≠ .empty) (failed : ∀ head, (c.cells k).head ≠ .sent (.ok head)) :
      Turn fine c (c.settle i k (.refused err) .gone)
  | dropCall {c : Client} {i k : Nat} (awaiting : c.calls i = .awaiting k)
      (asked : fine c (.dropCall i)) : Turn fine c (c.settle i k .dropped .gone)
  | chunk {c : Client} {k : Nat} {bytes : Bytes} {queue : List Bytes}
      (reading : (c.cells k).holder = .reading) (queued : (c.cells k).recv.queue = bytes :: queue)
      (asked : fine c (.read k)) :
      Turn fine c ((c.yieldTo k { (c.cells k).recv with
          queue := queue
          buffered := (c.cells k).recv.buffered - bytes.length } (.chunk bytes)).replenishRecvWindow
        (c.cells k).id bytes.length)
  | look {c : Client} {k : Nat} (recv : RecvState) (yields : List Yield)
      (queue : recv.queue = (c.cells k).recv.queue)
      (buffered : recv.buffered = (c.cells k).recv.buffered)
      (ended : recv.ended = (c.cells k).recv.ended)
      (error : recv.error = (c.cells k).recv.error ∨ recv.error = none) :
      Turn fine c (c.modifyCell k fun cell => { cell with recv := recv, yields := yields })
  | dropBody {c : Client} {k : Nat} (reading : (c.cells k).holder = .reading)
      (asked : fine c (.dropBody k)) : Turn fine c (c.dropBody k)
  | ping {c : Client} : Turn fine c c.ping

/-- Any number of turns. -/
abbrev Turns (fine : Client → Action → Prop) : Client → Client → Prop :=
  Relation.ReflTransGen (Turn fine)

variable {fine : Client → Action → Prop}

theorem turns_chores {c d : Client} (chores : Chores c d) : Turns fine c d := by
  induction chores with
  | refl => exact .refl
  | tail _ chore ih => exact ih.tail (.chore chore)

/-- The teardown after the connection is marked closed. -/
theorem turns_shutDown {c : Client} (err : H2Error) (live : c.closed = false) :
    Turns fine (c.shutDown err) (c.destroy err) := by
  unfold destroy
  rw [live]
  simp only [Bool.false_eq_true, if_false]
  have removed := (c.shutDown err).chores_removeAll (c.shutDown err).streams.keys err
  have closed : ((c.shutDown err).streams.keys.foldl (fun c id => c.removeAndFail id err)
      (c.shutDown err)).closed = true := congrArg Desk.closed (desk_chores removed)
  have failed := (turns_chores removed).tail (.failPings err : Turn fine _ _)
  exact (failed.trans (turns_chores (chores_wakeSlotWaiters _))).tail (.hangUp closed)

theorem turns_destroy (c : Client) (err : H2Error) : Turns fine c (c.destroy err) := by
  cases closed : c.closed with
  | true =>
      simp only [destroy, closed, if_true]
      exact .refl
  | false => exact .head (.shut err closed) (turns_shutDown err closed)

theorem sendFrame_closed {c : Client} (closed : c.closed = true) (frame : Frame) :
    c.sendFrame frame = c := by
  simp [sendFrame, closed]

theorem destroy_closed {c : Client} (closed : c.closed = true) (err : H2Error) :
    c.destroy err = c := by
  simp [destroy, closed]

/-- Goodbye, and teardown. -/
theorem turns_farewell (c : Client) (lastStreamId errorCode : UInt32) (err : H2Error) :
    Turns fine c ((c.sendFrame (.goaway lastStreamId errorCode [])).destroy err) := by
  cases closed : c.closed with
  | true =>
      rw [sendFrame_closed closed, destroy_closed closed]
  | false =>
      have live : (c.sendFrame (.goaway lastStreamId errorCode [])).closed = false :=
        (congrArg Slots.closed (c.slots_sendFrame _)).trans closed
      exact .head (.farewell lastStreamId errorCode err closed) (turns_shutDown err live)

/-- A GOAWAY is chores, and then perhaps the end. -/
theorem chores_receiveGoaway (c : Client) (lastStreamId errorCode : UInt32) :
    ∃ d, Chores c d ∧ (c.receiveGoaway lastStreamId errorCode = d ∨
      ∃ err, c.receiveGoaway lastStreamId errorCode = d.destroy err) := by
  have tuned : Chore c { c with goawayReceived := true } := .tune _ _ _ _ _ _ _ rfl
  have noted := (Relation.ReflTransGen.single tuned).trans
    (chores_record _ (e := .goaway lastStreamId) rfl rfl)
  have failed (ids : List UInt32) (err : H2Error) :=
    (noted.trans (chores_removeAll _ ids err)).trans (chores_wakeSlotWaiters _)
  unfold receiveGoaway
  simp only []
  split
  · exact ⟨_, failed _ _, .inr ⟨_, rfl⟩⟩
  · exact ⟨_, failed _ _, .inl rfl⟩

theorem turns_receiveGoaway (c : Client) (lastStreamId errorCode : UInt32) :
    Turns fine c (c.receiveGoaway lastStreamId errorCode) := by
  obtain ⟨d, chores, same | ⟨err, same⟩⟩ := c.chores_receiveGoaway lastStreamId errorCode
  · rw [same]
    exact turns_chores chores
  · rw [same]
    exact (turns_chores chores).trans (turns_destroy d err)

/-- Most frames are chores. -/
theorem chores_dispatchFrame (c : Client) (frame : Frame) :
    Chores c (c.dispatchFrame frame).1 ∨ (∃ id increment, frame = .windowUpdate id increment ∧
        Chores (c.record (.credit id increment)) (c.dispatchFrame frame).1) ∨
      (∃ id bytes endStream, frame = .data id bytes endStream) ∨
      (∃ opaqueData, frame = .ping true opaqueData) ∨
      ∃ lastStreamId errorCode debugData, frame = .goaway lastStreamId errorCode debugData := by
  cases frame with
  | settings ack settings =>
      left
      rw [dispatchFrame]
      split
      · exact .refl
      · exact chores_andThen (c.chores_applyRemoteSettings settings) fun c => c.chores_sendFrame rfl
  | headers id fragment endStream endHeaders priority => exact .inl (c.chores_growHeaderBlock _ _)
  | continuation id fragment endHeaders =>
      left
      rw [dispatchFrame]
      split
      · exact .refl
      · split
        · exact c.chores_growHeaderBlock _ _
        · exact .refl
  | pushPromise id promised fragment endHeaders => exact .inl (c.chores_growHeaderBlock _ _)
  | data id bytes endStream => exact .inr (.inr (.inl ⟨id, bytes, endStream, rfl⟩))
  | rstStream id errorCode => exact .inl ((c.chores_record rfl rfl).tail (.remove id _))
  | windowUpdate id increment =>
      rcases c.chores_receiveWindowUpdate id increment with ⟨-, chores⟩ | ⟨-, chores⟩
      · exact .inl chores
      · exact .inr (.inl ⟨id, increment, rfl, chores⟩)
  | ping ack opaqueData =>
      cases ack with
      | true => exact .inr (.inr (.inr (.inl ⟨opaqueData, rfl⟩)))
      | false => exact .inl (c.chores_sendFrame rfl)
  | goaway lastStreamId errorCode debugData =>
      exact .inr (.inr (.inr (.inr ⟨lastStreamId, errorCode, debugData, rfl⟩)))
  | priority id spec => exact .inl .refl

theorem turns_dispatchFrame {c : Client} {frame : Frame} (asked : fine c (.frame frame)) :
    Turns fine c (c.dispatchFrame frame).1 := by
  rcases c.chores_dispatchFrame frame with chores | ⟨id, increment, rfl, chores⟩ |
    ⟨id, bytes, endStream, rfl⟩ | ⟨data, rfl⟩ | ⟨lastStreamId, errorCode, debugData, rfl⟩
  · exact turns_chores chores
  · exact .head (.credit id increment asked) (turns_chores chores)
  · have received := Relation.ReflTransGen.single (Turn.data id bytes endStream asked)
    rw [dispatchFrame]
    simp only []
    split
    · exact received.tail (.chore (.retire id))
    · exact received
  · exact .single (.pong data)
  · exact c.turns_receiveGoaway lastStreamId errorCode

theorem turns_onFrame {c : Client} {frame : Frame} (asked : fine c (.frame frame)) :
    Turns fine c (c.onFrame frame) := by
  have dispatched : Turns fine c (c.dispatch frame).1 := by
    unfold dispatch
    split
    · exact .refl
    · exact turns_dispatchFrame asked
  unfold onFrame
  revert dispatched
  obtain ⟨d, result⟩ := c.dispatch frame
  intro dispatched
  cases result with
  | ok done => exact dispatched
  | error fault =>
      cases fault with
      | h2 err => exact dispatched.trans (d.turns_farewell _ _ err)
      | panic => exact dispatched

theorem turns_tryOpen {c : Client} {i : Nat} (request : Request) (made : i < c.called)
    (before : (c.calls i).isIdle = true) : Turns fine c (c.tryOpen i request) := by
  unfold tryOpen
  split
  · exact .single (.enter made before rfl)
  · split
    · exact .head (.register request.body made before) (turns_chores (chores_sendHeaders _ _ _ _))
    · have waiting : Chore c { c with slotWaiters := c.slotWaiters ++ [i] } :=
        .tune _ _ _ _ _ _ _ rfl
      exact .head (.chore waiting) (.single (.enter made before rfl))

theorem turns_pollCall {c : Client} (fresh : ∀ i, c.called ≤ i → c.calls i = .dropped) (i : Nat) :
    Turns fine c (c.pollCall i) := by
  unfold pollCall
  split
  next request parked =>
    split
    · exact .refl
    · refine turns_tryOpen request ?_ (by rw [parked]; rfl)
      by_contra beyond
      have dropped := fresh i (Nat.le_of_not_lt beyond)
      rw [parked] at dropped
      cases dropped
  next k awaiting =>
    split
    next => exact .refl
    next head arrived => exact .single (.respond awaiting arrived)
    next err arrived => exact .single (.refuse err awaiting (by simp [arrived]) (by simp [arrived]))
    next arrived => exact .single (.refuse _ awaiting (by simp [arrived]) (by simp [arrived]))
  next => exact .refl

theorem turns_dropCall {c : Client} (fresh : ∀ i, c.called ≤ i → c.calls i = .dropped) {i : Nat}
    (asked : fine c (.dropCall i)) : Turns fine c (c.dropCall i) := by
  unfold dropCall
  split
  next request parked =>
    refine .single (.enter ?_ (by rw [parked]; rfl) rfl)
    by_contra beyond
    have dropped := fresh i (Nat.le_of_not_lt beyond)
    rw [parked] at dropped
    cases dropped
  next k awaiting => exact .single (.dropCall awaiting asked)
  next => exact .refl

theorem turns_read {c : Client} {k : Nat} (asked : fine c (.read k)) : Turns fine c (c.read k) := by
  unfold read
  simp only []
  split
  next reading =>
    split
    next bytes queue queued => exact .single (.chunk reading queued asked)
    next drained =>
      split
      · exact .single (.look _ _ rfl rfl rfl (.inr rfl))
      · split
        · exact .single (.look _ _ rfl rfl rfl (.inl rfl))
        · exact .single (.look { (c.cells k).recv with waker := true } (c.cells k).yields
            rfl rfl rfl (.inl rfl))
  next => exact .refl

/-- Every section is a sequence of turns. -/
theorem turns_step {c : Client} (fresh : ∀ i, c.called ≤ i → c.calls i = .dropped) {a : Action}
    (asked : fine c a) : Turns fine c (c.step a) := by
  cases a with
  | frame frame => exact turns_onFrame asked
  | corrupt err => exact c.turns_farewell _ _ err
  | transportClosed => exact c.turns_destroy _
  | writeFailed => exact c.turns_destroy _
  | request request =>
      have idle : (c.calls c.called).isIdle = true := by rw [fresh _ le_rfl]; rfl
      exact .head .count (turns_tryOpen request (Nat.lt_succ_self _) idle)
  | pollCall i => exact turns_pollCall fresh i
  | dropCall i => exact turns_dropCall fresh asked
  | pump k => exact turns_chores (c.chores_pump k)
  | read k => exact turns_read asked
  | dropBody k =>
      cases held : (c.cells k).holder with
      | reading => exact .single (.dropBody held asked)
      | awaiting | gone =>
          have same : c.step (.dropBody k) = c := by simp [step, dropBody, held]
          rw [same]
  | ping => exact .single .ping
  | close =>
      cases closed : c.closed with
      | true =>
          have same : c.step .close = c := by simp [step, close, closed]
          rw [same]
      | false =>
          have same : c.step .close = (c.sendFrame (.goaway c.highestPromised 0 [])).destroy
              (.new .noError "connection closed by client") := by simp [step, close, closed]
          rw [same]
          exact c.turns_farewell _ _ _

end Client

end H2ts
