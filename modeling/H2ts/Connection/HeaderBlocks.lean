import H2ts.Connection.Slots

/-!
# Header blocks

A header block comes in one HEADERS or PUSH_PROMISE frame and any number of
CONTINUATION frames.  However it is split, dispatching the frames does what
dispatching the block in one frame does, and until its end no other frame is
allowed (`dispatchAll_split`).

The decoder and the pending block make up the header context.  What a frame does
to it depends on the context and the frame only, not on the streams there are
(`decoder_dispatchAll`).
-/

namespace H2ts

open Hpack

/-- The CONTINUATION frames of the fragments after the first.  The last ends the
block. -/
def continuations (id : UInt32) : List Bytes → List Frame
  | [] => []
  | fragment :: rest => .continuation id fragment rest.isEmpty :: continuations id rest

/-- A frame that opens a header block, but for its fragment. -/
inductive Opening where
  | headers (id : UInt32) (endStream : Bool) (priority : Option Priority)
  | pushPromise (id promised : UInt32)
deriving DecidableEq, Repr

namespace Opening

def streamId : Opening → UInt32
  | headers id _ _ => id
  | pushPromise id _ => id

def frame (fragment : Bytes) (endHeaders : Bool) : Opening → Frame
  | headers id endStream priority => .headers id fragment endStream endHeaders priority
  | pushPromise id promised => .pushPromise id promised fragment endHeaders

/-- The frames of a block in fragments. -/
def frames (opening : Opening) (first : Bytes) (rest : List Bytes) : List Frame :=
  opening.frame first rest.isEmpty :: continuations opening.streamId rest

/-- The pending block once some fragments have come. -/
def pending (fragments : List Bytes) : Opening → PendingHeaderBlock
  | headers id endStream _ => ⟨id, .response, endStream, none, fragments, fragments.flatten.length⟩
  | pushPromise id promised => ⟨id, .push, false, some promised, fragments, fragments.flatten.length⟩

end Opening

namespace Client

/-- Dispatch frames up to the first error. -/
def dispatchAll (c : Client) : List Frame → Outcome
  | [] => (c, .ok ())
  | frame :: frames => Outcome.andThen (c.dispatch frame) fun c => c.dispatchAll frames

theorem dispatchAll_append (c : Client) (frames later : List Frame) :
    c.dispatchAll (frames ++ later) =
      Outcome.andThen (c.dispatchAll frames) fun c => c.dispatchAll later := by
  induction frames generalizing c with
  | nil => rfl
  | cons frame frames ih =>
      rw [List.cons_append, dispatchAll, dispatchAll]
      rcases c.dispatch frame with ⟨c', fault | done⟩
      · rfl
      · exact ih c'

/-! ## Splitting a block -/

/-- The client that waits for the rest of a block. -/
def await (c : Client) (opening : Opening) (fragments : List Bytes) : Client :=
  { c with pendingHeaderBlock := some (opening.pending fragments) }

theorem streamId_pending (opening : Opening) (fragments : List Bytes) :
    (opening.pending fragments).streamId = opening.streamId := by
  cases opening <;> rfl

theorem dispatch_opening {c : Client} (idle : c.pendingHeaderBlock = none) (opening : Opening)
    (fragment : Bytes) (endHeaders : Bool) :
    c.dispatch (opening.frame fragment endHeaders) =
      c.growHeaderBlock (opening.pending [fragment]) endHeaders := by
  cases opening <;>
    simp [dispatch, idle, Opening.frame, Opening.pending, dispatchFrame]

theorem dispatch_continuation (c : Client) (opening : Opening) (fragments : List Bytes)
    (fragment : Bytes) (endHeaders : Bool) :
    (c.await opening fragments).dispatch
        (.continuation opening.streamId fragment endHeaders) =
      c.growHeaderBlock (opening.pending (fragments ++ [fragment])) endHeaders := by
  cases opening <;>
    simp [dispatch, await, isContinuation, dispatchFrame, Opening.pending, Opening.streamId,
      growHeaderBlock, guardHeaderBlockSize, completeHeaderBlock]

/-- A block that is short so far waits, or is completed. -/
theorem growHeaderBlock_short (c : Client) (opening : Opening) {fragments : List Bytes}
    (short : fragments.flatten.length ≤ MAX_HEADER_BLOCK_SIZE) (endHeaders : Bool) :
    c.growHeaderBlock (opening.pending fragments) endHeaders =
      if endHeaders then (c.await opening fragments).completeHeaderBlock
      else (c.await opening fragments, .ok ()) := by
  have size : ¬ (opening.pending fragments).size > MAX_HEADER_BLOCK_SIZE := by
    cases opening <;> exact Nat.not_lt_of_le short
  simp only [growHeaderBlock, guardHeaderBlockSize, size, if_false]
  rfl

/-- Completing a block looks at its fragments joined. -/
theorem completeHeaderBlock_joined (c : Client) (opening : Opening) (fragments : List Bytes) :
    (c.await opening fragments).completeHeaderBlock =
      (c.await opening [fragments.flatten]).completeHeaderBlock := by
  cases opening <;> simp [completeHeaderBlock, await, Opening.pending, takeHeaderBlock]

theorem dispatchAll_continuations (c : Client) (opening : Opening) (rest : List Bytes)
    (some : rest ≠ []) (fragments : List Bytes)
    (short : (fragments ++ rest).flatten.length ≤ MAX_HEADER_BLOCK_SIZE) :
    (c.await opening fragments).dispatchAll (continuations opening.streamId rest) =
      (c.await opening (fragments ++ rest)).completeHeaderBlock := by
  induction rest generalizing fragments with
  | nil => exact absurd rfl some
  | cons fragment rest ih =>
      have shorter : (fragments ++ [fragment]).flatten.length ≤ MAX_HEADER_BLOCK_SIZE := by
        simp only [List.flatten_append, List.flatten_cons, List.length_append] at short ⊢
        simp only [List.flatten_nil, List.length_nil]
        omega
      rw [continuations, dispatchAll, dispatch_continuation,
        growHeaderBlock_short c opening shorter]
      cases rest with
      | nil =>
          simp only [List.isEmpty_nil, if_true, continuations]
          rcases (c.await opening (fragments ++ [fragment])).completeHeaderBlock with
            ⟨c', fault | done⟩ <;> rfl
      | cons next rest =>
          have later := ih (by simp) (fragments ++ [fragment]) (by simpa using short)
          rw [List.append_assoc] at later
          simpa [Outcome.andThen] using later

/-- The opening frame and some CONTINUATION frames, with more to come. -/
theorem dispatchAll_unfinished {c : Client} (idle : c.pendingHeaderBlock = none)
    (opening : Opening) (first : Bytes) (before : List Bytes)
    (short : (first :: before).flatten.length ≤ MAX_HEADER_BLOCK_SIZE) :
    c.dispatchAll (opening.frame first false ::
        before.map fun fragment => .continuation opening.streamId fragment false) =
      (c.await opening (first :: before), .ok ()) := by
  induction before using List.reverseRecOn with
  | nil =>
      have fits : [first].flatten.length ≤ MAX_HEADER_BLOCK_SIZE := short
      rw [List.map_nil, dispatchAll, dispatch_opening idle, growHeaderBlock_short c opening fits]
      rfl
  | append_singleton before last ih =>
      have fits : (first :: before).flatten.length ≤ MAX_HEADER_BLOCK_SIZE := by
        simp only [List.flatten_cons, List.flatten_append, List.length_append] at short ⊢
        omega
      have whole : (first :: before) ++ [last] = first :: (before ++ [last]) := rfl
      rw [List.map_append, ← List.cons_append, dispatchAll_append, ih fits]
      simp only [Outcome.andThen, List.map_cons, List.map_nil, dispatchAll]
      rw [dispatch_continuation, whole, growHeaderBlock_short c opening short]
      rfl

/-- The frame is refused with PROTOCOL_ERROR. -/
def ProtocolError (o : Outcome) : Prop := ∃ err, o.2 = .error (.h2 err) ∧ err.code = .protocolError

/-- While a block is pending only its CONTINUATION frames are allowed. -/
theorem protocolError_await (c : Client) (opening : Opening) (fragments : List Bytes) {frame : Frame}
    (other : ∀ fragment endHeaders, frame ≠ .continuation opening.streamId fragment endHeaders) :
    ProtocolError ((c.await opening fragments).dispatch frame) := by
  cases frame with
  | continuation id fragment endHeaders =>
      have ne : (opening.pending fragments).streamId ≠ id := by
        rw [streamId_pending]
        intro same
        exact other fragment endHeaders (same ▸ rfl)
      simp only [dispatch, await, isContinuation, Option.isSome_some, Bool.not_true,
        Bool.and_false, Bool.false_eq_true, if_false, dispatchFrame, ne]
      exact ⟨_, rfl, rfl⟩
  | _ => exact ⟨_, rfl, rfl⟩

/-- A split block does what the block in one frame does.  A CONTINUATION that
continues nothing is a PROTOCOL_ERROR, and so is any frame between the fragments
that does not continue the block. -/
theorem dispatchAll_split (c : Client) (idle : c.pendingHeaderBlock = none) (opening : Opening)
    (first : Bytes) (rest : List Bytes)
    (short : (first ++ rest.flatten).length ≤ MAX_HEADER_BLOCK_SIZE) :
    c.dispatchAll (opening.frames first rest) =
        c.dispatch (opening.frame (first ++ rest.flatten) true) ∧
      (∀ id fragment endHeaders, ProtocolError (c.dispatch (.continuation id fragment endHeaders))) ∧
      ∀ before after frame, rest = before ++ after → after ≠ [] →
        (∀ fragment endHeaders, frame ≠ .continuation opening.streamId fragment endHeaders) →
        ProtocolError (c.dispatchAll ((opening.frame first false ::
          before.map fun fragment => .continuation opening.streamId fragment false) ++ [frame])) := by
  have firstFits : [first].flatten.length ≤ MAX_HEADER_BLOCK_SIZE := by
    simp only [List.flatten_cons, List.flatten_nil, List.length_append] at short ⊢
    simp only [List.length_nil]
    omega
  have wholeFits : [first ++ rest.flatten].flatten.length ≤ MAX_HEADER_BLOCK_SIZE := by
    simpa using short
  refine ⟨?_, fun id fragment endHeaders => ?_, fun before after frame split more other => ?_⟩
  · rw [dispatch_opening idle, growHeaderBlock_short c opening wholeFits, Opening.frames, dispatchAll,
      dispatch_opening idle, growHeaderBlock_short c opening firstFits]
    cases rest with
    | nil =>
        simp only [List.isEmpty_nil, if_true, continuations, List.flatten_nil, List.append_nil]
        rcases (c.await opening [first]).completeHeaderBlock with ⟨c', fault | done⟩ <;> rfl
    | cons next rest =>
        simp only [List.isEmpty_cons, Bool.false_eq_true, if_false, if_true, Outcome.andThen]
        rw [dispatchAll_continuations c opening (next :: rest) (by simp) [first] short,
          completeHeaderBlock_joined]
        rfl
  · simp only [dispatch, idle, Option.isSome_none, Bool.false_and, Bool.false_eq_true, if_false,
      dispatchFrame]
    exact ⟨_, rfl, rfl⟩
  · have fits : (first :: before).flatten.length ≤ MAX_HEADER_BLOCK_SIZE := by
      rw [split] at short
      simp only [List.flatten_append, List.flatten_cons, List.length_append] at short ⊢
      omega
    obtain ⟨err, failed, code⟩ := protocolError_await c opening (first :: before) other
    rw [dispatchAll_append, dispatchAll_unfinished idle opening first before fits]
    simp only [Outcome.andThen, dispatchAll]
    refine ⟨err, ?_, code⟩
    rcases dispatched : (c.await opening (first :: before)).dispatch frame with ⟨c', fault | done⟩
    · rw [dispatched] at failed
      exact failed
    · rw [dispatched] at failed
      cases failed

/-- The block of `:status 200` in three fragments, the second one empty. -/
theorem dispatchAll_split_status :
    (connect {}).dispatchAll ((Opening.headers 1 true none).frames [0x48, 0x03] [[], [50, 48, 48]]) =
      (connect {}).dispatch (.headers 1 [0x48, 0x03, 50, 48, 48] true true none) :=
  (dispatchAll_split (connect {}) rfl (.headers 1 true none) [0x48, 0x03] [[], [50, 48, 48]]
    (by decide)).1

/-! ## The header context

Only header blocks touch the context, and they do so before they look for a
stream.  With the settings of the peer, it is what only frames touch. -/

/-- The decoder and the pending block. -/
def headerContext (c : Client) : HpackDecoder × Option PendingHeaderBlock :=
  (c.decoder, c.pendingHeaderBlock)

/-- The header context, and the settings of the peer. -/
def inbound (c : Client) : (HpackDecoder × Option PendingHeaderBlock) × RemoteSettings :=
  (c.headerContext, c.remote)

theorem headerContext_of_inbound {c d : Client} (same : d.inbound = c.inbound) :
    d.headerContext = c.headerContext :=
  congrArg Prod.fst same

theorem remote_of_inbound {c d : Client} (same : d.inbound = c.inbound) : d.remote = c.remote :=
  congrArg Prod.snd same

@[simp] theorem inbound_record (c : Client) (e : Event) :
    (c.record e).inbound = c.inbound := rfl

@[simp] theorem inbound_modifyCell (c : Client) (k : Nat) (f : Cell → Cell) :
    (c.modifyCell k f).inbound = c.inbound := rfl

@[simp] theorem inbound_modifyStream (c : Client) (id : UInt32)
    (f : StreamState → StreamState) : (c.modifyStream id f).inbound = c.inbound := rfl

@[simp] theorem inbound_wakePumps (c : Client) (wakers : List Nat) :
    (c.wakePumps wakers).inbound = c.inbound := rfl

@[simp] theorem inbound_wakeSlotWaiters (c : Client) :
    c.wakeSlotWaiters.inbound = c.inbound := rfl

@[simp] theorem inbound_sendFrame (c : Client) (frame : Frame) :
    (c.sendFrame frame).inbound = c.inbound := by
  unfold sendFrame
  split <;> rfl

@[simp] theorem inbound_withStream (c : Client) (id : UInt32)
    (f : StreamState → Cell → StreamState × Cell) :
    (c.withStream id f).inbound = c.inbound := by
  unfold withStream
  split <;> rfl

@[simp] theorem inbound_removeAndFail (c : Client) (id : UInt32) (err : H2Error) :
    (c.removeAndFail id err).inbound = c.inbound := by
  unfold removeAndFail
  split <;> rfl

theorem inbound_removeAll (c : Client) (ids : List UInt32) (err : H2Error) :
    (ids.foldl (fun c id => c.removeAndFail id err) c).inbound = c.inbound := by
  induction ids generalizing c with
  | nil => rfl
  | cons id ids ih => rw [List.foldl_cons, ih, inbound_removeAndFail]

@[simp] theorem inbound_resetStream (c : Client) (id : UInt32) (code : ErrorCode) :
    (c.resetStream id code).inbound = c.inbound := by
  simp [resetStream]

@[simp] theorem inbound_retireIfFullyClosed (c : Client) (id : UInt32) :
    (c.retireIfFullyClosed id).inbound = c.inbound := by
  unfold retireIfFullyClosed
  split
  · rfl
  · split <;> rfl

@[simp] theorem inbound_destroy (c : Client) (err : H2Error) :
    (c.destroy err).inbound = c.inbound := by
  unfold destroy
  split
  · rfl
  · exact inbound_removeAll (c.shutDown err) _ err

theorem inbound_takeHeaderBlock (c : Client) (pb : PendingHeaderBlock)
    (headers : List Header) : (c.takeHeaderBlock pb headers).inbound = c.inbound := by
  unfold takeHeaderBlock
  split
  · simp only [receiveBlock]
    split <;> simp
  · simp only [refusePush, inbound_sendFrame]
    split <;> rfl

@[simp] theorem inbound_receiveDataFrame (c : Client) (id : UInt32) (data : Bytes)
    (endStream : Bool) :
    (c.receiveDataFrame id data endStream).inbound = c.inbound := by
  unfold receiveDataFrame
  simp only []
  split
  · simp
  · split <;> simp

theorem inbound_receiveGoaway (c : Client) (lastStreamId errorCode : UInt32) :
    (c.receiveGoaway lastStreamId errorCode).inbound = c.inbound := by
  have failed (err : H2Error) :
      ((({ c with goawayReceived := true }.record (.goaway lastStreamId)).failAbove lastStreamId
        err).wakeSlotWaiters).inbound = c.inbound :=
    inbound_removeAll _ _ _
  unfold receiveGoaway
  simp only []
  split
  · rw [inbound_destroy, failed]
  · exact failed _

theorem inbound_receivePing (c : Client) (ack : Bool) (opaqueData : OpaqueData) :
    (c.receivePing ack opaqueData).inbound = c.inbound := by
  unfold receivePing
  split
  · split <;> rfl
  · simp

theorem inbound_receiveWindowUpdate (c : Client) (id increment : UInt32) :
    (c.receiveWindowUpdate id increment).1.inbound = c.inbound := by
  unfold receiveWindowUpdate
  split
  · split <;> simp
  · split
    · rfl
    · simp only [creditStream]
      split <;> rfl

theorem inbound_pump (c : Client) (k : Nat) : (c.pump k).inbound = c.inbound := by
  have registered (id : UInt32) (s : StreamState) :
      (c.registerWakers id s k).inbound = c.inbound := by
    simp only [registerWakers]
    split <;> split <;> rfl
  unfold pump
  split
  · rfl
  · simp only [finishUpload]
    split
    · rw [inbound_retireIfFullyClosed]
      exact inbound_sendFrame _ _
    · rfl
  · rfl
  · simp only [pumpChunk]
    split
    · rfl
    · split
      · rfl
      · split
        · split
          · rfl
          · split
            · rfl
            · exact inbound_sendFrame _ _
        · exact registered _ _
  · rfl

/-- Only frames touch the header context and the settings. -/
theorem inbound_step (c : Client) {a : Action} (own : ∀ frame, a ≠ .frame frame) :
    (c.step a).inbound = c.inbound := by
  have sent (c : Client) (frames : List Frame) :
      (frames.foldl sendFrame c).inbound = c.inbound := by
    induction frames generalizing c with
    | nil => rfl
    | cons frame frames ih => rw [List.foldl_cons, ih, inbound_sendFrame]
  have inserted (c : Client) (s : StreamState) : (c.insertStream s).inbound = c.inbound := by
    unfold insertStream
    split <;> rfl
  have opened (c : Client) (i : Nat) (request : Request) :
      (c.openStream i request).inbound = c.inbound :=
    (sent _ _).trans (inserted _ _)
  have tried (c : Client) (i : Nat) (request : Request) :
      (c.tryOpen i request).inbound = c.inbound := by
    unfold tryOpen
    split
    · rfl
    · split
      · exact opened c i request
      · rfl
  have replenished (c : Client) (id : UInt32) (n : Nat) :
      (c.replenishRecvWindow id n).inbound = c.inbound := by
    unfold replenishRecvWindow
    split
    · rfl
    · simp only [inbound_sendFrame]
      split
      · exact inbound_sendFrame _ _
      · rfl
  cases a with
  | frame frame => exact absurd rfl (own frame)
  | corrupt err => exact (inbound_destroy _ _).trans (inbound_sendFrame _ _)
  | transportClosed => exact inbound_destroy _ _
  | writeFailed => exact inbound_destroy _ _
  | request request => exact tried { c with called := c.called + 1 } c.called request
  | pollCall i =>
      simp only [step, pollCall]
      split
      · split
        · rfl
        · exact tried _ _ _
      · split <;> rfl
      · rfl
  | dropCall i =>
      simp only [step, dropCall]
      split <;> rfl
  | pump k => exact inbound_pump c k
  | read k =>
      simp only [step, read]
      split
      · split
        · exact replenished _ _ _
        · split
          · rfl
          · split <;> rfl
      · rfl
  | dropBody k =>
      simp only [step, dropBody]
      split
      · split
        · exact replenished _ _ _
        · exact (inbound_resetStream _ _ _).trans (replenished _ _ _)
      · rfl
  | ping =>
      simp only [step, ping]
      split
      · rfl
      · rw [inbound_sendFrame]
        cases c.pings.lookup (pingData (c.pingCounter + 1)) <;> rfl
  | close =>
      simp only [step, close]
      split
      · rfl
      · exact (inbound_destroy _ _).trans (inbound_sendFrame _ _)

theorem headerContext_applyRemoteSettings (c : Client) (s : Settings) :
    (c.applyRemoteSettings s).1.headerContext = c.headerContext := by
  have window : (c.applyInitialWindowSize s.initialWindowSize).1.headerContext =
      c.headerContext := by
    unfold applyInitialWindowSize
    split
    · rfl
    · split <;> rfl
  have size (c : Client) : (c.applyMaxFrameSize s.maxFrameSize).1.headerContext =
      c.headerContext := by
    unfold applyMaxFrameSize
    split
    · rfl
    · split <;> rfl
  have others (c : Client) : (c.applyOtherSettings s).headerContext = c.headerContext := by
    unfold applyOtherSettings
    split <;> rfl
  unfold applyRemoteSettings
  rcases first : c.applyInitialWindowSize s.initialWindowSize with ⟨c', fault | done⟩
  · rw [first] at window
    exact window
  · rw [first] at window
    have second := size c'
    simp only [Outcome.andThen]
    rcases result : c'.applyMaxFrameSize s.maxFrameSize with ⟨c'', fault | done⟩
    · rw [result] at second
      exact second.trans window
    · rw [result] at second
      exact (others c'').trans (second.trans window)

/-- A frame that carries a fragment of a header block. -/
def carriesBlock : Frame → Bool
  | .headers .. => true
  | .continuation .. => true
  | .pushPromise .. => true
  | _ => false

/-- The other frames leave the context alone. -/
theorem headerContext_dispatchFrame (c : Client) {frame : Frame} (plain : carriesBlock frame = false) :
    (c.dispatchFrame frame).1.headerContext = c.headerContext := by
  cases frame with
  | settings ack settings =>
      rw [dispatchFrame]
      split
      · rfl
      · have applied := c.headerContext_applyRemoteSettings settings
        rcases result : c.applyRemoteSettings settings with ⟨c', fault | done⟩
        · rw [result] at applied
          exact applied
        · rw [result] at applied
          exact (headerContext_of_inbound (c'.inbound_sendFrame _)).trans applied
  | headers => cases plain
  | continuation => cases plain
  | pushPromise => cases plain
  | data id data endStream =>
      rw [dispatchFrame]
      simp only []
      split
      · exact headerContext_of_inbound
          ((inbound_retireIfFullyClosed _ _).trans (c.inbound_receiveDataFrame _ _ _))
      · exact headerContext_of_inbound (c.inbound_receiveDataFrame _ _ _)
  | rstStream id errorCode => exact headerContext_of_inbound (inbound_removeAndFail _ _ _)
  | windowUpdate id increment => exact headerContext_of_inbound (c.inbound_receiveWindowUpdate id increment)
  | ping ack opaqueData => exact headerContext_of_inbound (c.inbound_receivePing ack opaqueData)
  | goaway lastStreamId errorCode debugData => exact headerContext_of_inbound (c.inbound_receiveGoaway _ _)
  | priority => rfl

/-- What a block does to the context, and whether it fails, depends on the
context. -/
theorem headerContext_growHeaderBlock {c c' : Client} (same : c.decoder = c'.decoder)
    (pb : PendingHeaderBlock) (endHeaders : Bool) :
    (c.growHeaderBlock pb endHeaders).1.headerContext =
        (c'.growHeaderBlock pb endHeaders).1.headerContext ∧
      (c.growHeaderBlock pb endHeaders).2 = (c'.growHeaderBlock pb endHeaders).2 := by
  have waiting : Client.headerContext { c with pendingHeaderBlock := some pb } =
      Client.headerContext { c' with pendingHeaderBlock := some pb } := by
    simp [headerContext, same]
  simp only [growHeaderBlock, guardHeaderBlockSize]
  by_cases long : pb.size > MAX_HEADER_BLOCK_SIZE
  · simp only [long, if_true]
    exact ⟨waiting, trivial⟩
  · simp only [long, if_false]
    cases endHeaders with
    | false => exact ⟨waiting, rfl⟩
    | true =>
        simp only [if_true, completeHeaderBlock]
        rw [← same]
        cases (c.decoder.decode pb.fragments.flatten).2 with
        | error fault => exact ⟨rfl, rfl⟩
        | ok headers =>
            refine ⟨?_, rfl⟩
            rw [headerContext_of_inbound (inbound_takeHeaderBlock _ pb headers),
              headerContext_of_inbound (inbound_takeHeaderBlock _ pb headers)]
            rfl

theorem result_andThen {o o' : Outcome} {next : Client → Outcome} (same : o.2 = o'.2)
    (later : ∀ c c', (next c).2 = (next c').2) : (o.andThen next).2 = (o'.andThen next).2 := by
  obtain ⟨c, fault | done⟩ := o <;> obtain ⟨c', fault' | done'⟩ := o'
  · exact same
  · cases same
  · cases same
  · exact later c c'

/-- Whether SETTINGS fail depends on the settings. -/
theorem result_applyRemoteSettings (c c' : Client) (s : Settings) :
    (c.applyRemoteSettings s).2 = (c'.applyRemoteSettings s).2 := by
  have window (c c' : Client) : (c.applyInitialWindowSize s.initialWindowSize).2 =
      (c'.applyInitialWindowSize s.initialWindowSize).2 := by
    unfold applyInitialWindowSize
    split
    · rfl
    · split <;> rfl
  have size (c c' : Client) : (c.applyMaxFrameSize s.maxFrameSize).2 =
      (c'.applyMaxFrameSize s.maxFrameSize).2 := by
    unfold applyMaxFrameSize
    split
    · rfl
    · split <;> rfl
  exact result_andThen (window c c') fun c c' => result_andThen (size c c') fun _ _ => rfl

theorem result_dispatchFrame (c c' : Client) {frame : Frame} (plain : carriesBlock frame = false) :
    (c.dispatchFrame frame).2 = (c'.dispatchFrame frame).2 := by
  cases frame with
  | settings ack settings =>
      simp only [dispatchFrame]
      split
      · rfl
      · exact result_andThen (result_applyRemoteSettings c c' settings) fun _ _ => rfl
  | headers => cases plain
  | continuation => cases plain
  | pushPromise => cases plain
  | windowUpdate id increment =>
      simp only [dispatchFrame, receiveWindowUpdate]
      split
      · split <;> rfl
      · split <;> rfl
  | _ => rfl

/-- Clients with the same context are in the same context after a frame, and the
frame fails in both or in neither. -/
theorem headerContext_dispatch {c c' : Client} (same : c.headerContext = c'.headerContext)
    (frame : Frame) :
    (c.dispatch frame).1.headerContext = (c'.dispatch frame).1.headerContext ∧
      (c.dispatch frame).2 = (c'.dispatch frame).2 := by
  obtain ⟨decoder, pending⟩ := Prod.mk.inj same
  unfold dispatch
  rw [← pending]
  cases c.pendingHeaderBlock.isSome && !isContinuation frame with
  | true => exact ⟨same, rfl⟩
  | false =>
      simp only [Bool.false_eq_true, if_false]
      cases frame with
      | headers => exact headerContext_growHeaderBlock decoder _ _
      | pushPromise => exact headerContext_growHeaderBlock decoder _ _
      | continuation id fragment endHeaders =>
          simp only [dispatchFrame]
          rw [← pending]
          cases c.pendingHeaderBlock with
          | none => exact ⟨same, rfl⟩
          | some pb =>
              simp only []
              split
              · exact headerContext_growHeaderBlock decoder _ _
              · exact ⟨same, rfl⟩
      | _ =>
          refine ⟨?_, result_dispatchFrame c c' rfl⟩
          rw [headerContext_dispatchFrame c rfl, headerContext_dispatchFrame c' rfl, same]

theorem headerContext_dispatchAll {c c' : Client} (same : c.headerContext = c'.headerContext)
    (frames : List Frame) :
    (c.dispatchAll frames).1.headerContext = (c'.dispatchAll frames).1.headerContext ∧
      (c.dispatchAll frames).2 = (c'.dispatchAll frames).2 := by
  induction frames generalizing c c' with
  | nil => exact ⟨same, rfl⟩
  | cons frame frames ih =>
      have next := headerContext_dispatch same frame
      simp only [dispatchAll]
      revert next
      rcases c.dispatch frame with ⟨d, fault | done⟩ <;>
        rcases c'.dispatch frame with ⟨d', fault' | done'⟩ <;> rintro ⟨context, result⟩
      · exact ⟨context, result⟩
      · cases result
      · cases result
      · exact ih context

/-- Two clients that agree on the decoder and on the pending block, whatever
streams, windows, promised ids and waiters they have, agree on them after the same
frames. -/
theorem decoder_dispatchAll (c c' : Client) (frames : List Frame)
    (decoder : c.decoder = c'.decoder) (pending : c.pendingHeaderBlock = c'.pendingHeaderBlock) :
    (c.dispatchAll frames).1.decoder = (c'.dispatchAll frames).1.decoder ∧
      (c.dispatchAll frames).1.pendingHeaderBlock = (c'.dispatchAll frames).1.pendingHeaderBlock := by
  have same : c.headerContext = c'.headerContext := by
    rw [headerContext, headerContext, decoder, pending]
  exact Prod.mk.inj (headerContext_dispatchAll same frames).1

/-- A block that adds an entry to the table, for a stream one client has and the
other has not. -/
theorem decoder_dispatchAll_unknown :
    (Client.after {} [.request (.bare .empty)]).streams.keys = [1] ∧
      ((Client.after {} [.request (.bare .empty)]).dispatchAll
          [.headers 1 [0x48, 0x03, 50, 48, 48] true true none]).1.decoder =
        ((connect {}).dispatchAll [.headers 1 [0x48, 0x03, 50, 48, 48] true true none]).1.decoder ∧
      ((connect {}).dispatchAll
        [.headers 1 [0x48, 0x03, 50, 48, 48] true true none]).1.decoder.dynamic =
          [(":status", "200")] :=
  ⟨by decide +kernel, (decoder_dispatchAll _ _ _ rfl rfl).1, by decide +kernel⟩

end Client

end H2ts
