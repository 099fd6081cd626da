import H2ts.Connection.Board

/-!
# Deeds

A section of the client does one thing to the board (`deed_step`), and the deed tells which
frame or call it comes from: who fails, who is ended, who falls asleep.
-/

namespace H2ts

open Hpack

namespace Client

variable {c d : Client} {id : UInt32} {k : Nat} {s : StreamState}

/-- The stream that a frame ends, if it is accepted. -/
def endedBy (c : Client) : Frame → Option UInt32
  | .data id _ true => some id
  | .headers id _ true true _ => some id
  | .continuation _ _ true => c.pendingHeaderBlock.bind fun pb =>
      if pb.kind = .response ∧ pb.endStream then some pb.streamId else none
  | _ => none

/-- The section takes the stream out of the map and fails it, while the connection stays. -/
def Cuts (c : Client) (id : UInt32) : Action → Prop
  | .frame frame => c.rejects frame = false ∧ match frame with
      | .rstStream id' _ => id' = id
      | .windowUpdate id' increment => id' = id ∧ increment = 0
      | .goaway lastStreamId errorCode _ => lastStreamId < id ∧ errorCode = 0
      | _ => False
  | .dropBody k => (c.cells k).id = id ∧ (c.cells k).holder = .reading ∧
      (c.cells k).recv.ended = false
  | _ => False

/-- The section opens a stream. -/
def Opens (c : Client) : Action → Prop
  | .request _ => c.unavailable = none ∧ c.canOpenStream = true
  | .pollCall i => (∃ request, c.calls i = .parked request) ∧ i ∉ c.slotWaiters ∧
      c.unavailable = none ∧ c.canOpenStream = true
  | _ => False

/-- What a section does to the board, and which section does it. -/
inductive Deed (c : Client) : Action → Board → Prop
  | calm {a : Action} : Deed c a c.board
  | tear {a : Action} (gone : UInt32 → Prop) (live : c.closed = false) :
      Deed c a (c.board.fail gone).tear
  | tearAdjusted {a : Action} (initial : Int) (live : c.closed = false) :
      Deed c a (c.board.adjust initial).tear
  | adjust {settings : Settings} {iw : UInt32} (found : settings.initialWindowSize = some iw)
      (valid : c.closed = true ∨ c.rejects (.settings false settings) = false) :
      Deed c (.frame (.settings false settings)) (c.board.adjust iw.toNat)
  | credit {n : UInt32} (valid : c.rejects (.windowUpdate 0 n) = false) :
      Deed c (.frame (.windowUpdate 0 n)) (c.board.credit n.toNat)
  | creditStream {id n : UInt32} (stream : id ≠ 0) (nonzero : n ≠ 0)
      (valid : c.rejects (.windowUpdate id n) = false) :
      Deed c (.frame (.windowUpdate id n)) (c.board.creditStream id n.toNat)
  | fail {a : Action} {gone : UInt32 → Prop} (cuts : ∀ id, gone id → c.Cuts id a) :
      Deed c a (c.board.fail gone)
  | data {id : UInt32} {bytes : Bytes} {endStream : Bool}
      (valid : c.rejects (.data id bytes endStream) = false) :
      Deed c (.frame (.data id bytes endStream))
        (if endStream then (c.board.data id endStream).retire id else c.board.data id endStream)
  | block {frame : Frame} {id : UInt32} {endStream : Bool} (headers : List Header)
      (valid : c.rejects frame = false) (ends : endStream = true → c.endedBy frame = some id) :
      Deed c (.frame frame) (if endStream then (c.board.block id headers endStream).retire id
        else c.board.block id headers endStream)
  | poll {k : Nat} : Deed c (.pump k) (c.board.wake (· = k))
  | spend {k : Nat} {s : StreamState} {n : Nat} (found : c.streams.lookup (c.cells k).id = some s)
      (funded : (n : Int) ≤ c.connSendWindow.value) (covered : (n : Int) ≤ s.sendWindow.value) :
      Deed c (.pump k) ((c.board.spend (c.cells k).id n).wake (· = k))
  | wait {k : Nat} {s : StreamState} {chunk : Bytes} {offset : Nat} {rest : List Bytes}
      (sending : (c.cells k).pump = .sending chunk offset rest) (live : c.closed = false)
      (found : c.streams.lookup (c.cells k).id = some s)
      (unready : (c.connSendWindow.isReady && s.sendWindow.isReady) = false) :
      Deed c (.pump k) (c.board.wait (c.cells k).id k)
  | finish {k : Nat} {s : StreamState} (pulled : (c.cells k).pump = .pulling [])
      (found : c.streams.lookup (c.cells k).id = some s) :
      Deed c (.pump k) (((c.board.change (c.cells k).id fun s => { s with localClosed := true }).wake
        (· = k)).retire (c.cells k).id)
  | enter {a : Action} (opens : c.Opens a) (body : RequestBody) :
      Deed c a (c.board.enter c.nextStreamId (c.newStream body))

/-- On a closed connection nobody fails. -/
theorem board_fail_closed (sound : c.Sealed) (closed : c.closed = true) (gone : UInt32 → Prop) :
    c.board.fail gone = c.board := by
  have empty : c.streams.keys = [] := sound.empty closed
  exact Board.fail_nobody _ fun id _ => lookup_of_keys empty id

/-- A teardown, if the connection is not closed already. -/
theorem deed_destroy (sound : c.Sealed) {a : Action} {gone : UInt32 → Prop}
    (same : d.board = c.board.fail gone) (err : H2Error) : Deed c a (d.destroy err).board := by
  have closed : d.closed = c.closed := congrArg Board.closed same
  cases live : d.closed with
  | true =>
      unfold destroy
      rw [live, if_pos rfl, same, board_fail_closed sound (closed.symm.trans live)]
      exact .calm
  | false =>
      rw [board_destroy live, same]
      exact .tear _ (closed.symm.trans live)

theorem deed_shut (sound : c.Sealed) {a : Action} (same : d.board = c.board) (err : H2Error) :
    Deed c a (d.destroy err).board := by
  have nobody := c.board.fail_nobody (fun _ => False.elim)
  rw [← nobody] at same
  exact deed_destroy sound same err

theorem deed_connectionError (sound : c.Sealed) {a : Action} (same : d.board = c.board)
    (err : H2Error) : Deed c a (d.connectionError err).board :=
  deed_shut sound ((d.board_sendFrame _).trans same) err

theorem rejects_eq (c : Client) {frame : Frame}
    (expected : (c.pendingHeaderBlock.isSome && !isContinuation frame) = false) :
    c.rejects frame = c.rejectsFrame frame := by
  rw [rejects, expected, Bool.false_or]

/-- Settings of the peer, and their ACK. -/
theorem board_receiveSettings (c : Client) (settings : Settings) :
    (c.dispatchFrame (.settings false settings)).1.board = match settings.initialWindowSize with
      | none => c.board
      | some iw => if iw > 0x7fffffff then c.board else c.board.adjust iw.toNat := by
  have applied := c.board_applyRemoteSettings settings
  have answered : (c.dispatchFrame (.settings false settings)).1.board =
      (c.applyRemoteSettings settings).1.board := by
    simp only [dispatchFrame, Bool.false_eq_true, if_false]
    obtain ⟨d, fault | done⟩ := c.applyRemoteSettings settings
    · rfl
    · exact d.board_sendFrame _
  exact answered.trans applied

theorem expected_of_accepted {frame : Frame} (accepted : c.rejects frame = false) :
    (c.pendingHeaderBlock.isSome && !isContinuation frame) = false :=
  (Bool.or_eq_false_iff.mp accepted).1

/-- A header block that a frame opens or goes on with. -/
theorem deed_growHeaderBlock {frame : Frame} (pb : PendingHeaderBlock) (endHeaders : Bool)
    (same : c.rejects frame = c.rejectsBlock pb.fragments pb.size endHeaders)
    (ends : endHeaders = true → pb.kind = .response → pb.endStream = true →
      c.endedBy frame = some pb.streamId) :
    Deed c (.frame frame) (c.growHeaderBlock pb endHeaders).1.board := by
  rcases c.board_growHeaderBlock pb endHeaders with still | ⟨accepted, complete, kind, headers, taken⟩
  · rw [still]
    exact .calm
  · rw [taken]
    exact .block headers (same.trans accepted) (ends complete kind)

theorem board_refusedBlock {pb : PendingHeaderBlock} {endHeaders : Bool}
    (rejected : c.rejectsBlock pb.fragments pb.size endHeaders = true) :
    (c.growHeaderBlock pb endHeaders).1.board = c.board := by
  rcases c.board_growHeaderBlock pb endHeaders with still | ⟨accepted, -⟩
  · exact still
  · exact Bool.noConfusion (accepted.symm.trans rejected)

/-- A frame that is dispatched. -/
theorem deed_dispatchFrame {frame : Frame} (sound : c.Sealed)
    (accepted : c.rejects frame = false) : Deed c (.frame frame) (c.dispatchFrame frame).1.board := by
  have same := c.rejects_eq (expected_of_accepted accepted)
  cases frame with
  | settings ack settings =>
      cases ack with
      | true => exact .calm
      | false =>
          rw [board_receiveSettings]
          cases found : settings.initialWindowSize with
          | none => exact .calm
          | some iw =>
              simp only []
              split
              · exact .calm
              · exact .adjust found (.inr accepted)
  | headers id fragment endStream endHeaders priority =>
      refine deed_growHeaderBlock _ endHeaders same fun complete _ ends => ?_
      obtain rfl := complete
      have ends : endStream = true := ends
      rw [ends]
      rfl
  | pushPromise id promised fragment endHeaders =>
      refine deed_growHeaderBlock _ endHeaders same fun _ kind => ?_
      cases kind
  | continuation id fragment endHeaders =>
      rw [rejectsFrame] at same
      rw [dispatchFrame]
      cases pending : c.pendingHeaderBlock with
      | none => exact .calm
      | some pb =>
          rw [pending] at same
          simp only []
          split
          next own =>
            have size : (pb.streamId != id) = false := by simpa using own
            simp only [size, Bool.false_or] at same
            refine deed_growHeaderBlock _ endHeaders same fun complete kind ends => ?_
            have kind : pb.kind = .response := kind
            have ends : pb.endStream = true := ends
            obtain rfl := complete
            simp [endedBy, pending, kind, ends]
          next => exact .calm
  | data id bytes endStream =>
      have received := c.board_receiveDataFrame id bytes endStream
      have done := Deed.data (c := c) accepted
      rw [← received] at done
      have retired := (c.receiveDataFrame id bytes endStream).board_retireIf id endStream
      rw [← retired] at done
      exact done
  | rstStream id errorCode =>
      have removed := c.board_receiveReset id errorCode
      have done : Deed c (.frame (.rstStream id errorCode)) (c.board.fail (· = id)) :=
        .fail fun id' left => ⟨accepted, left.symm⟩
      rw [← removed] at done
      exact done
  | windowUpdate id increment =>
      rw [dispatchFrame, receiveWindowUpdate]
      split
      next zero =>
        split
        next conn => exact .calm
        next stream =>
          simp only []
          rw [board_resetStream]
          exact .fail fun id' left => ⟨accepted, left.symm, zero⟩
      next nonzero =>
        split
        next conn =>
          subst conn
          simp only []
          rw [board_creditConnection]
          exact .credit accepted
        next stream =>
          simp only []
          rw [board_creditStream]
          exact .creditStream stream nonzero accepted
  | ping ack opaqueData =>
      rw [dispatchFrame, board_receivePing]
      exact .calm
  | goaway lastStreamId errorCode debugData =>
      have failed (err : H2Error) : (({ c with goawayReceived := true }.record
          (.goaway lastStreamId)).failAbove lastStreamId err).wakeSlotWaiters.board =
          c.board.fail (lastStreamId < ·) :=
        board_failAbove _ _ _
      rw [dispatchFrame, receiveGoaway]
      simp only []
      split
      next nonzero => exact deed_destroy sound (failed _) _
      next zero =>
        rw [failed]
        exact .fail fun id left => ⟨accepted, left, not_not.mp zero⟩
  | priority id priority => exact .calm

/-- A frame that is refused. -/
theorem board_refused {frame : Frame}
    (expected : (c.pendingHeaderBlock.isSome && !isContinuation frame) = false)
    (rejected : c.rejects frame = true) :
    (c.dispatchFrame frame).1.board = c.board ∨ ∃ settings iw, frame = .settings false settings ∧
      settings.initialWindowSize = some iw ∧
      (c.dispatchFrame frame).1.board = c.board.adjust iw.toNat := by
  have rejected := (c.rejects_eq expected).symm.trans rejected
  cases frame with
  | settings ack settings =>
      cases ack with
      | true => exact .inl rfl
      | false =>
          rw [board_receiveSettings]
          cases found : settings.initialWindowSize with
          | none => exact .inl rfl
          | some iw =>
              simp only []
              split
              · exact .inl rfl
              · exact .inr ⟨settings, iw, rfl, found, rfl⟩
  | headers id fragment endStream endHeaders priority =>
      exact .inl (board_refusedBlock rejected)
  | pushPromise id promised fragment endHeaders => exact .inl (board_refusedBlock rejected)
  | continuation id fragment endHeaders =>
      rw [rejectsFrame] at rejected
      rw [dispatchFrame]
      cases pending : c.pendingHeaderBlock with
      | none => exact .inl rfl
      | some pb =>
          rw [pending] at rejected
          simp only []
          split
          next own =>
            have size : (pb.streamId != id) = false := by simpa using own
            simp only [size, Bool.false_or] at rejected
            exact .inl (board_refusedBlock rejected)
          next => exact .inl rfl
  | windowUpdate id increment =>
      simp only [rejectsFrame, Bool.and_eq_true, beq_iff_eq] at rejected
      obtain ⟨rfl, rfl⟩ := rejected
      exact .inl rfl
  | data id bytes endStream => cases rejected
  | rstStream id errorCode => cases rejected
  | ping ack opaqueData => cases rejected
  | goaway lastStreamId errorCode debugData => cases rejected
  | priority id priority => cases rejected

/-- A SETTINGS frame that is refused after the windows have moved. -/
theorem deed_adjusted {settings : Settings} {iw : UInt32}
    (found : settings.initialWindowSize = some iw) (same : d.board = c.board.adjust iw.toNat)
    (err : H2Error) : Deed c (.frame (.settings false settings)) (d.connectionError err).board := by
  have closed : d.closed = c.closed := congrArg Board.closed same
  cases live : d.closed with
  | true =>
      have still : (d.connectionError err).board = d.board := by
        have unsent : d.sendFrame (.goaway d.highestPromised err.code.value []) = d := by
          simp [sendFrame, live]
        rw [connectionError, unsent, destroy, live, if_pos rfl]
      rw [still, same]
      exact .adjust found (.inl (closed.symm.trans live))
  | false =>
      rw [board_connectionError live, same]
      exact .tearAdjusted _ (closed.symm.trans live)

theorem dispatch_expected {frame : Frame}
    (expected : (c.pendingHeaderBlock.isSome && !isContinuation frame) = false) :
    c.dispatch frame = c.dispatchFrame frame := by
  simp only [dispatch, expected, Bool.false_eq_true, if_false]

/-- A frame that is accepted. -/
theorem onFrame_accepted {frame : Frame} (accepted : c.rejects frame = false) :
    c.onFrame frame = (c.dispatchFrame frame).1 := by
  have ok := (c.dispatch_spec frame).2
  rw [accepted, dispatch_expected (expected_of_accepted accepted)] at ok
  rw [onFrame, dispatch_expected (expected_of_accepted accepted)]
  revert ok
  obtain ⟨d, fault | done⟩ := c.dispatchFrame frame
  · intro ok
    cases ok
  · exact fun _ => rfl

theorem deed_onFrame (sound : c.Sealed) (frame : Frame) :
    Deed c (.frame frame) (c.onFrame frame).board := by
  cases rejected : c.rejects frame with
  | false =>
      rw [onFrame_accepted rejected]
      exact deed_dispatchFrame sound rejected
  | true =>
      have ok := (c.dispatch_spec frame).2
      have calm := c.calm_dispatch frame
      unfold onFrame
      cases expected : c.pendingHeaderBlock.isSome && !isContinuation frame with
      | true =>
          simp only [dispatch, expected, if_true]
          exact deed_connectionError sound rfl _
      | false =>
          have refused := board_refused expected rejected
          rw [dispatch_expected expected] at ok calm ⊢
          rw [rejected] at ok
          revert ok calm refused
          obtain ⟨d, fault | accepted⟩ := c.dispatchFrame frame
          · cases fault with
            | panic =>
                intro _ calm
                exact absurd rfl calm
            | h2 err =>
                rintro - - (same | ⟨settings, iw, rfl, found, adjusted⟩)
                · exact deed_connectionError sound same err
                · exact deed_adjusted found adjusted err
          · intro ok
            cases ok

/-! ## Calls -/

theorem board_sendAll (c : Client) (frames : List Frame) : (frames.foldl sendFrame c).board = c.board := by
  induction frames generalizing c with
  | nil => rfl
  | cons frame frames ih =>
      rw [List.foldl_cons, ih]
      exact c.board_sendFrame frame

theorem board_registerStream (c : Client) (i : Nat) (body : RequestBody) :
    (c.registerStream i body).board = c.board.enter c.nextStreamId (c.newStream body) := by
  have cells := c.cells_registerStream i body
  have own : (c.registerStream i body).cells c.opened = newCell c.nextStreamId body := by
    rw [cells, Function.update_self]
  -- The cells of a stream that had the id.
  have old {k : Nat} (ne : k ≠ c.opened) :
      ((c.registerStream i body).cells k).parked = (c.cells k).parked ∧
        ((c.registerStream i body).cells k).recv = (c.cells k).recv ∧
        ((∃ head, ((c.registerStream i body).cells k).head = .sent (.ok head)) ↔
          (c.board.drop c.nextStreamId).answered k) := by
    rw [cells, Function.update_of_ne ne]
    cases found : c.streams.lookup c.nextStreamId with
    | none => simp [board, Board.drop, found]
    | some s =>
        simp only [board, Board.drop, found, Option.some.injEq, exists_eq_left']
        rcases eq_or_ne k s.cell with rfl | other
        · have same : (s.drop (c.cells s.cell)).parked = (c.cells s.cell).parked ∧
              (s.drop (c.cells s.cell)).recv = (c.cells s.cell).recv := by
            unfold StreamState.drop
            split <;> exact ⟨rfl, rfl⟩
          rw [Function.update_self, answered_drop]
          simpa using same
        · rw [Function.update_of_ne other]
          simp [Ne.symm other]
  have fields : (c.registerStream i body).closed = c.closed ∧
      (c.registerStream i body).connSendWindow = c.connSendWindow ∧
      (c.registerStream i body).remote = c.remote ∧
      (c.registerStream i body).opened = c.opened + 1 := by
    unfold registerStream insertStream
    simp only [newStream, StreamState.new]
    cases c.streams.lookup c.nextStreamId <;> exact ⟨rfl, rfl, rfl, rfl⟩
  obtain ⟨closed, window, remote, opened⟩ := fields
  refine Board.ext closed window (congrArg RemoteSettings.initialWindowSize remote)
    (fun id => ?_) (fun k => ?_) (fun k => ?_)
    (fun k => ?_) opened
  · have streams := c.streams_registerStream i body
    simp only [board, streams, Board.enter, Board.drop]
    rcases eq_or_ne id c.nextStreamId with rfl | ne
    · rw [AList.lookup_insert, Function.update_self]
    · rw [AList.lookup_insert_ne ne, Function.update_of_ne ne, Function.update_of_ne ne]
  · simp only [board, Board.enter, Board.drop]
    rcases eq_or_ne k c.opened with rfl | ne
    · rw [own]
      simp [newCell]
    · rw [(old ne).1]
      simp [ne]
  · simp only [board, Board.enter, Board.drop]
    rcases eq_or_ne k c.opened with rfl | ne
    · rw [own]
      simp [newCell, RecvState.default]
    · rw [(old ne).2.1]
      simp [ne]
  · show (∃ head, ((c.registerStream i body).cells k).head = .sent (.ok head)) ↔
      (c.board.drop c.nextStreamId).answered k ∧ k ≠ c.opened
    rcases eq_or_ne k c.opened with rfl | ne
    · rw [own]
      simp [newCell]
    · rw [(old ne).2.2]
      simp [ne]

theorem deed_tryOpen {a : Action} (i : Nat) (request : Request) (same : d.board = c.board)
    (next : d.nextStreamId = c.nextStreamId)
    (opens : d.unavailable = none → d.canOpenStream = true → c.Opens a) :
    Deed c a (d.tryOpen i request).board := by
  unfold tryOpen
  cases available : d.unavailable with
  | some err =>
      have refused : ({ d with calls := Function.update d.calls i (.refused err) } : Client).board =
          c.board := same
      simp only []
      rw [refused]
      exact .calm
  | none =>
      simp only []
      split
      next free =>
        have stream : d.newStream request.body = c.newStream request.body := by
          have initial : d.remote.initialWindowSize = c.remote.initialWindowSize :=
            congrArg Board.initial same
          have opened : d.opened = c.opened := congrArg Board.opened same
          simp only [newStream, next, initial, opened]
        rw [openStream, sendHeaders, board_sendAll, board_registerStream, same, next, stream]
        exact .enter (opens available free) request.body
      next =>
        have parked : ({ d with
            slotWaiters := d.slotWaiters ++ [i]
            calls := Function.update d.calls i (.parked request) } : Client).board = c.board := same
        rw [parked]
        exact .calm

theorem board_settle (c : Client) (i k : Nat) (call : Call) (holder : Holder) :
    (c.settle i k call holder).board = c.board :=
  board_modifyCell _ _ fun _ => ⟨rfl, rfl, rfl⟩

theorem deed_pollCall (i : Nat) : Deed c (.pollCall i) (c.pollCall i).board := by
  unfold pollCall
  cases call : c.calls i with
  | parked request =>
      simp only []
      split
      next => exact .calm
      next woken =>
        exact deed_tryOpen i request rfl rfl fun available free =>
          ⟨⟨request, call⟩, woken, available, free⟩
  | awaiting k =>
      simp only []
      split
      · exact .calm
      · rw [board_settle]
        exact .calm
      · rw [board_settle]
        exact .calm
      · rw [board_settle]
        exact .calm
  | responded head k => exact .calm
  | refused err => exact .calm
  | dropped => exact .calm

theorem board_dropCall (c : Client) (i : Nat) : (c.dropCall i).board = c.board := by
  unfold dropCall
  split
  · rfl
  · exact c.board_settle _ _ _ _
  · rfl

theorem board_park (c : Client) (k : Nat) (pump : Pump) :
    (c.setPump k pump true).board =
      { c.board with asleep := fun j => j = k ∨ c.board.asleep j } := by
  refine Board.ext rfl rfl rfl (fun id => rfl) (fun j => ?_) (fun j => ?_) (fun j => ?_) rfl <;>
  simp only [board, setPump, modifyCell] <;>
  rcases eq_or_ne j k with rfl | ne <;> simp [*]

theorem board_registerWakers (c : Client) {id : UInt32} {s : StreamState}
    (found : c.streams.lookup id = some s) (k : Nat) (pump : Pump) :
    ((c.registerWakers id s k).setPump k pump true).board = c.board.wait id k := by
  have here : c.board.streams id = some s := found
  have conn : (if c.connSendWindow.isReady then c
      else { c with connSendWindow := c.connSendWindow.registerWaker k } : Client).board =
      { c.board with window := if c.connSendWindow.isReady then c.connSendWindow
          else c.connSendWindow.registerWaker k } := by
    split <;> rfl
  rw [board_park]
  unfold registerWakers Board.wait
  simp only []
  split
  next ready =>
    rw [conn]
    refine Board.ext rfl rfl rfl (fun id' => ?_) (fun j => .rfl) (fun j => .rfl) (fun j => .rfl) rfl
    simp only [Board.change, here, Option.map_some, ready, if_true]
    rw [← here, Function.update_eq_self]
  next unready =>
    rw [board_modifyStream, conn]
    refine Board.ext rfl rfl rfl (fun id' => ?_) (fun j => .rfl) (fun j => .rfl) (fun j => .rfl) rfl
    simp only [Board.change, here, Option.map_some, if_neg unready]

theorem board_sendData (c : Client) (id : UInt32) (data : Bytes) :
    (c.sendData id data).board = c.board.spend id data.length := by
  unfold sendData
  simp only []
  rw [board_sendFrame, board_modifyStream]
  rfl

theorem deed_pumpChunk {k : Nat} {chunk : Bytes} {offset : Nat} {rest : List Bytes}
    (sending : (c.cells k).pump = .sending chunk offset rest) :
    Deed c (.pump k) (c.pumpChunk k chunk offset rest).board := by
  have stopped (pump : Pump) : Deed c (.pump k) (c.setPump k pump false).board := by
    rw [board_setPump]
    exact .poll
  unfold pumpChunk
  simp only []
  split
  next => exact stopped _
  next s found =>
    split
    next => exact stopped _
    next live =>
      split
      next ready =>
        split
        next => exact stopped _
        next =>
          split
          next => exact stopped _
          next positive =>
            have taken : (((chunk.drop offset).take
                (c.grant s (chunk.length - offset)).toNat).length : Int) ≤
                  c.grant s (chunk.length - offset) := by
              rw [List.length_take]
              omega
            have bounds : c.grant s (chunk.length - offset) ≤ c.connSendWindow.value ∧
                c.grant s (chunk.length - offset) ≤ s.sendWindow.value := by
              unfold grant
              omega
            rw [board_setPump, board_sendData]
            exact .spend found (taken.trans bounds.1) (taken.trans bounds.2)
      next unready =>
        rw [board_registerWakers c found]
        exact .wait sending (by simpa using live) found (by simpa using unready)

theorem deed_finishUpload {k : Nat} (pulled : (c.cells k).pump = .pulling []) :
    Deed c (.pump k) (c.finishUpload k).board := by
  unfold finishUpload
  simp only []
  split
  next present =>
    obtain ⟨s, found⟩ := Option.isSome_iff_exists.mp (AList.lookup_isSome.mpr present)
    rw [board_retireIfFullyClosed, board_setPump, board_modifyStream, board_sendFrame]
    exact .finish pulled found
  next =>
    rw [board_setPump]
    exact .poll

theorem deed_pump (k : Nat) : Deed c (.pump k) (c.pump k).board := by
  unfold pump
  cases pump : (c.cells k).pump with
  | idle => exact .calm
  | pulling chunks =>
      cases chunks with
      | nil => exact deed_finishUpload pump
      | cons chunk rest =>
          simp only []
          rw [board_setPump]
          exact .poll
  | sending chunk offset rest => exact deed_pumpChunk pump
  | finished done => exact .calm

/-- A reader takes something. -/
theorem board_take (c : Client) (k : Nat) (recv : RecvState) (yields : Cell → List Yield)
    (ended : recv.ended = (c.cells k).recv.ended) :
    (c.modifyCell k fun cell => { cell with recv := recv, yields := yields cell }).board = c.board := by
  refine board_still rfl rfl rfl rfl rfl fun j => ?_
  rcases eq_or_ne j k with rfl | ne
  · simp only [modifyCell, Function.update_self]
    exact ⟨trivial, ended, trivial⟩
  · simp only [modifyCell, Function.update_of_ne ne]
    exact ⟨trivial, trivial, trivial⟩

theorem board_read (c : Client) (k : Nat) : (c.read k).board = c.board := by
  unfold read
  simp only []
  split
  · split
    · rw [board_replenishRecvWindow]
      exact c.board_take k _ _ rfl
    · split
      · exact c.board_take k _ _ rfl
      · split
        · exact c.board_take k _ _ rfl
        · exact c.board_take k _ _ rfl
  · rfl

theorem deed_dropBody (k : Nat) : Deed c (.dropBody k) (c.dropBody k).board := by
  have released : (c.modifyCell k fun cell => { cell with holder := .gone }).board = c.board :=
    c.board_modifyCell k fun _ => ⟨rfl, rfl, rfl⟩
  unfold dropBody
  simp only []
  split
  next reading =>
    split
    next =>
      rw [board_replenishRecvWindow, released]
      exact .calm
    next early =>
      rw [board_resetStream, board_replenishRecvWindow, released]
      exact .fail fun id left => ⟨left.symm, reading, by simpa using early⟩
  next => exact .calm

theorem board_ping (c : Client) : c.ping.board = c.board := by
  unfold ping
  simp only []
  split
  · rfl
  · rw [board_sendFrame]
    cases c.pings.lookup (pingData (c.pingCounter + 1)) <;> rfl

theorem deed_close (sound : c.Sealed) : Deed c .close c.close.board := by
  unfold close
  split
  · exact .calm
  · exact deed_shut sound (c.board_sendFrame _) _

/-- Every section does one deed. -/
theorem deed_step (sound : c.Sealed) (a : Action) : Deed c a (c.step a).board := by
  cases a with
  | frame frame => exact deed_onFrame sound frame
  | corrupt err => exact deed_connectionError sound rfl err
  | transportClosed => exact deed_shut sound rfl _
  | writeFailed => exact deed_shut sound rfl _
  | request request => exact deed_tryOpen _ request rfl rfl fun available free => ⟨available, free⟩
  | pollCall i => exact deed_pollCall i
  | dropCall i =>
      show Deed c _ (c.dropCall i).board
      rw [board_dropCall]
      exact .calm
  | pump k => exact deed_pump k
  | read k =>
      show Deed c _ (c.read k).board
      rw [board_read]
      exact .calm
  | dropBody k => exact deed_dropBody k
  | ping =>
      show Deed c _ c.ping.board
      rw [board_ping]
      exact .calm
  | close => exact deed_close sound

end Client

end H2ts
