import H2ts.Connection.Slots
import H2ts.Connection.View

/-!
# The client refines the abstract connection

For each function of the client there is a lemma that says what it does to the
view.  `step_cases` puts them together: a section of the client is a sequence of
quiet steps, or it opens a stream, sends a piece of a body or ends one.  With it
comes what the client has checked before.

`rejects` and `Fails` say on the state before a section whether it ends in a
connection error and which streams it may fail.
-/

namespace H2ts

open Hpack History

/-- Any number of quiet steps. -/
abbrev Quiets (mayFail : UInt32 → Prop) : View → View → Prop :=
  Relation.ReflTransGen (Quiet mayFail)

/-- Quiet steps add to the history, but no DATA and no HEADERS. -/
theorem history_quiets {mayFail : UInt32 → Prop} {v w : View} (steps : Quiets mayFail v w) :
    ∃ events, w.history = v.history ++ events ∧ ∀ e ∈ events, isLoud e = false := by
  induction steps with
  | refl => exact ⟨[], by simp⟩
  | tail _ step ih =>
      obtain ⟨earlier, before, quiet⟩ := ih
      obtain ⟨later, after, quiet'⟩ := step.history
      refine ⟨earlier ++ later, by rw [after, before, List.append_assoc], fun e mem => ?_⟩
      rcases List.mem_append.mp mem with mem | mem
      · exact quiet e mem
      · exact quiet' e mem

/-- An upload that finishes adds its END_STREAM, and no DATA behind it. -/
theorem history_finish {mayFail : UInt32 → Prop} {v w : View} {k : Nat}
    (steps : Quiets mayFail (v.finish k) w) :
    ∃ events, w.history = v.history ++ .sent (.data (v.cells k).id [] true) :: events ∧
      ∀ e ∈ events, isLoud e = false := by
  obtain ⟨events, history, quiet⟩ := history_quiets steps
  refine ⟨events, history.trans ?_, quiet⟩
  simp only [View.finish, View.log, List.append_assoc]
  rfl

namespace Client

/-! ## Views of updates -/

@[simp] theorem view_record (c : Client) (e : Event) : (c.record e).view = c.view.log e := rfl

@[simp] theorem view_wakeSlotWaiters (c : Client) : c.wakeSlotWaiters.view = c.view := rfl

theorem view_modifyCell (c : Client) (k : Nat) {f : Cell → Cell} {g : CellView → CellView}
    (same : (f (c.cells k)).view = g (c.cells k).view) :
    (c.modifyCell k f).view = c.view.setCell k g := by
  have cells : (fun j => (Function.update c.cells k (f (c.cells k)) j).view) =
      Function.update (fun j => (c.cells j).view) k (g (c.cells k).view) := by
    funext j
    by_cases eq : j = k
    · subst eq
      simp [same]
    · simp [eq]
  simp only [view, modifyCell, View.setCell, cells]

/-- A change the view does not see. -/
theorem view_modifyCell_same (c : Client) (k : Nat) {f : Cell → Cell}
    (same : (f (c.cells k)).view = (c.cells k).view) : (c.modifyCell k f).view = c.view := by
  rw [c.view_modifyCell k (g := id) same]
  simp [View.setCell]

@[simp] theorem view_wakePumps (c : Client) (wakers : List Nat) :
    (c.wakePumps wakers).view = c.view := by
  have cells : (fun k => (if k ∈ wakers then { c.cells k with parked := false } else c.cells k).view)
      = fun k => (c.cells k).view := by
    funext k
    split <;> rfl
  simp only [view, wakePumps, cells]

theorem view_modifyStream (c : Client) (id : UInt32) {f : StreamState → StreamState}
    {g : StreamView → StreamView}
    (same : ∀ s, c.streams.lookup id = some s → (f s).view = g s.view) :
    (c.modifyStream id f).view = c.view.setStream id g := by
  have streams : (fun id' => ((c.streams.modify id f).lookup id').map StreamState.view) =
      Function.update (fun id' => (c.streams.lookup id').map StreamState.view) id
        (((c.streams.lookup id).map StreamState.view).map g) := by
    funext id'
    by_cases eq : id' = id
    · subst eq
      cases found : c.streams.lookup id' with
      | none => simp [found]
      | some s => simp [found, same s found]
    · simp [KeyMap.lookup_modify_ne eq, eq]
  simp only [view, modifyStream, View.setStream, streams]

theorem view_erase (c : Client) (id : UInt32) :
    Client.view { c with streams := c.streams.erase id } =
      { c.view with streams := Function.update c.view.streams id none } := by
  have streams : (fun id' => ((c.streams.erase id).lookup id').map StreamState.view) =
      Function.update (fun id' => (c.streams.lookup id').map StreamState.view) id none := by
    funext id'
    by_cases eq : id' = id
    · subst eq
      simp
    · simp [AList.lookup_erase_ne eq, eq]
  simp only [view, streams]

theorem view_streams {c : Client} {id : UInt32} {s : StreamState}
    (found : c.streams.lookup id = some s) : c.view.streams id = some s.view := by
  simp [view, found]

theorem view_streams_none {c : Client} {id : UInt32} (missing : c.streams.lookup id = none) :
    c.view.streams id = none := by
  simp [view, missing]

/-! ## Sending -/

theorem view_sendFrame {c : Client} (live : c.closed = false) (outTx : c.outTx = true)
    (frame : Frame) : (c.sendFrame frame).view = c.view.log (.sent frame) := by
  simp [sendFrame, live, outTx]

theorem quiets_sendFrame {mayFail : UInt32 → Prop} (c : Client) {f : Frame}
    (control : f.isControl = true) : Quiets mayFail c.view (c.sendFrame f).view := by
  unfold sendFrame
  split
  next live =>
    have isOpen : c.closed = false := by simpa using (Bool.and_eq_true_iff.mp live).1
    exact .single (.send f control isOpen)
  next => exact .refl

theorem quiets_replenishRecvWindow {mayFail : UInt32 → Prop} (c : Client) (id : UInt32) (n : Nat) :
    Quiets mayFail c.view (c.replenishRecvWindow id n).view := by
  unfold replenishRecvWindow
  split
  · exact .refl
  · simp only []
    split
    · exact (c.quiets_sendFrame rfl).trans (quiets_sendFrame _ rfl)
    · exact c.quiets_sendFrame rfl

/-! ## Removing streams -/

theorem view_fail (s : StreamState) (cell : Cell) (err : H2Error) :
    ((s.fail cell err).1.drop (s.fail cell err).2).view =
      { cell.view with recv := cell.recv.fail err } := by
  obtain ⟨id, window, headTx, k, gotHead, localClosed, remoteClosed⟩ := s
  cases gotHead <;> cases headTx <;> rfl

theorem cell_fail (s : StreamState) (cell : Cell) (err : H2Error) :
    (s.fail cell err).1.cell = s.cell := by
  obtain ⟨id, window, headTx, k, gotHead, localClosed, remoteClosed⟩ := s
  cases gotHead <;> rfl

theorem view_removeAndFail (c : Client) (id : UInt32) (err : H2Error) :
    (c.removeAndFail id err).view = c.view.remove id err := by
  unfold removeAndFail View.remove
  cases found : c.streams.lookup id with
  | none => simp only [view_streams_none found]
  | some s =>
      simp only [view_streams found, view_record]
      congr 1
      rw [cell_fail]
      refine (view_modifyCell _ s.cell (g := fun cell =>
        { cell with recv := cell.recv.fail err }) ?_).trans ?_
      · rw [view_fail]
        rfl
      · rw [view_wakePumps, view_erase]
        rfl

theorem quiets_resetStream {mayFail : UInt32 → Prop} (c : Client) {id : UInt32} (code : ErrorCode)
    (may : mayFail id) : Quiets mayFail c.view (c.resetStream id code).view := by
  unfold resetStream
  refine (c.quiets_sendFrame (f := .rstStream id code.value) rfl).trans (.single ?_)
  rw [view_wakeSlotWaiters, view_removeAndFail, view_record]
  exact .cut _ id _ may (by simp [isCut])

theorem view_drop (s : StreamState) (cell : Cell) : (s.drop cell).view = cell.view := by
  unfold StreamState.drop
  split <;> rfl

theorem quiets_retireIfFullyClosed {mayFail : UInt32 → Prop} (c : Client) (id : UInt32) :
    Quiets mayFail c.view (c.retireIfFullyClosed id).view := by
  unfold retireIfFullyClosed
  split
  · exact .refl
  next s found =>
    split
    next both =>
      obtain ⟨sent, received⟩ := Bool.and_eq_true_iff.mp both
      simp only [view_wakeSlotWaiters, view_record]
      rw [view_modifyCell_same _ _ (view_drop s _), view_erase]
      exact .single (.retire (view_streams found) sent received)
    next => exact .refl

theorem quiets_removeAll {mayFail : UInt32 → Prop} {err : H2Error} (c : Client) (ids : List UInt32)
    (may : ∀ id ∈ ids, mayFail id)
    (cause : ∀ id ∈ ids, c.closed = true ∨ ∃ e ∈ c.history, isGoawayBelow id e = true) :
    Quiets mayFail c.view (ids.foldl (fun c id => c.removeAndFail id err) c).view := by
  induction ids generalizing c with
  | nil => exact .refl
  | cons id ids ih =>
      have failed : Quiet mayFail c.view (c.removeAndFail id err).view := by
        rw [view_removeAndFail]
        exact .fail id err (may id (.head _)) (cause id (.head _))
      refine .head failed (ih _ (fun id' mem => may id' (.tail _ mem)) fun id' mem => ?_)
      have same : (c.removeAndFail id err).closed = c.closed :=
        congrArg Slots.closed (c.slots_removeAndFail id err)
      have extends_ : c.history <+: (c.removeAndFail id err).history := by
        unfold removeAndFail
        split
        · exact List.prefix_rfl
        · exact List.prefix_append _ _
      rcases cause id' (.tail _ mem) with closed | ⟨e, earlier, below⟩
      · exact .inl (same.trans closed)
      · exact .inr ⟨e, extends_.subset earlier, below⟩

theorem quiets_destroy {mayFail : UInt32 → Prop} (c : Client) (err : H2Error)
    (may : ∀ id, mayFail id) : Quiets mayFail c.view (c.destroy err).view := by
  unfold destroy
  split
  · exact .refl
  · have closing : Quiet mayFail c.view (c.shutDown err).view := by
      rw [shutDown, view_wakePumps]
      exact .shut
    exact .head closing (quiets_removeAll (c.shutDown err) (c.shutDown err).streams.keys
      (fun id _ => may id) fun _ _ => .inl rfl)

theorem quiets_connectionError {mayFail : UInt32 → Prop} (c : Client) (err : H2Error)
    (may : ∀ id, mayFail id) : Quiets mayFail c.view (c.connectionError err).view :=
  (c.quiets_sendFrame rfl).trans (quiets_destroy _ err may)

/-! ## Connection errors -/

/-- The header block made of these fragments is refused: it is too long, or it is
complete and cannot be decoded. -/
def rejectsBlock (c : Client) (fragments : List Bytes) (size : Nat) (endHeaders : Bool) : Bool :=
  decide (size > MAX_HEADER_BLOCK_SIZE) ||
    (endHeaders && !(c.decoder.decode fragments.flatten).2.isOk)

/-- The setting is out of range. -/
def rejectsSettings (s : Settings) : Bool :=
  s.initialWindowSize.any (fun iw => decide (iw > 0x7fffffff)) ||
    s.maxFrameSize.any fun mfs => !decide (16384 ≤ mfs.toNat ∧ mfs.toNat ≤ 16777215)

/-- The frame is a connection error, even if it may come now. -/
def rejectsFrame (c : Client) : Frame → Bool
  | .settings ack settings => !ack && rejectsSettings settings
  | .headers _ fragment _ endHeaders _ => c.rejectsBlock [fragment] fragment.length endHeaders
  | .pushPromise _ _ fragment endHeaders => c.rejectsBlock [fragment] fragment.length endHeaders
  | .continuation id fragment endHeaders =>
      match c.pendingHeaderBlock with
      | none => true
      | some pb => pb.streamId != id ||
          c.rejectsBlock (pb.fragments ++ [fragment]) (pb.size + fragment.length) endHeaders
  | .windowUpdate id increment => id == 0 && increment == 0
  | _ => false

/-- The frame is a connection error. -/
def rejects (c : Client) (frame : Frame) : Bool :=
  (c.pendingHeaderBlock.isSome && !isContinuation frame) || c.rejectsFrame frame

/-- The frame is aimed at a stream. -/
def Kills (id : UInt32) : Frame → Prop
  | .rstStream id' _ => id' = id
  | .windowUpdate id' increment => id' = id ∧ increment = 0
  | .goaway lastStreamId errorCode _ => lastStreamId < id ∨ errorCode ≠ 0
  | _ => False

/-- The streams a section may fail. -/
def Fails (c : Client) (id : UInt32) : Action → Prop
  | .frame frame => c.rejects frame = true ∨ Kills id frame
  | .corrupt _ => True
  | .transportClosed => True
  | .writeFailed => True
  | .close => True
  | .dropBody k => (c.cells k).id = id ∧ (c.cells k).holder = .reading ∧
      (c.cells k).recv.ended = false
  | _ => False

/-! ## Frames -/

theorem quiets_of_eq {mayFail : UInt32 → Prop} {v w : View} (same : w = v) : Quiets mayFail v w :=
  same ▸ .refl

theorem view_adjustWindows (c : Client) (initial : Int) :
    (c.adjustWindows initial).view = c.view.adjust initial := by
  unfold adjustWindows
  rw [view_wakePumps]
  simp only [view, View.adjust, KeyMap.lookup_mapWithKey, Option.map_map]
  congr 1
  funext id
  cases c.streams.lookup id with
  | none => rfl
  | some s => simp [StreamState.view]

theorem quiets_applyOtherSettings {mayFail : UInt32 → Prop} (c : Client) (s : Settings) :
    Quiets mayFail c.view (c.applyOtherSettings s).view := by
  unfold applyOtherSettings
  cases s.maxConcurrentStreams with
  | none => exact .refl
  | some mcs => exact .single (.limit mcs)

theorem quiets_andThen {mayFail : UInt32 → Prop} {v : View} {o : Outcome}
    {next : Client → Outcome} (first : Quiets mayFail v o.1.view)
    (later : ∀ c, Quiets mayFail c.view (next c).1.view) :
    Quiets mayFail v (o.andThen next).1.view := by
  obtain ⟨c, fault | done⟩ := o
  · exact first
  · exact first.trans (later c)

theorem isOk_andThen (o : Outcome) (next : Client → Outcome) :
    (o.andThen next).2.isOk = (o.2.isOk && (next o.1).2.isOk) := by
  obtain ⟨c, fault | done⟩ := o <;> rfl

theorem applyInitialWindowSize_spec (mayFail : UInt32 → Prop) (c : Client)
    (setting : Option UInt32) :
    Quiets mayFail c.view (c.applyInitialWindowSize setting).1.view ∧
      (c.applyInitialWindowSize setting).2.isOk =
        !setting.any fun iw => decide (iw > 0x7fffffff) := by
  cases setting with
  | none => exact ⟨.refl, rfl⟩
  | some iw =>
      rw [applyInitialWindowSize]
      by_cases large : iw > 0x7fffffff
      · simp only [large, if_true, Option.any_some, decide_true]
        exact ⟨.refl, rfl⟩
      · simp only [large, if_false, Option.any_some, decide_false, view_adjustWindows]
        exact ⟨.single (.adjust _), rfl⟩

theorem applyMaxFrameSize_spec (mayFail : UInt32 → Prop) (c : Client) (setting : Option UInt32) :
    Quiets mayFail c.view (c.applyMaxFrameSize setting).1.view ∧
      (c.applyMaxFrameSize setting).2.isOk =
        !setting.any fun mfs => !decide (16384 ≤ mfs.toNat ∧ mfs.toNat ≤ 16777215) := by
  cases setting with
  | none => exact ⟨.refl, rfl⟩
  | some mfs =>
      rw [applyMaxFrameSize]
      by_cases inside : 16384 ≤ mfs.toNat ∧ mfs.toNat ≤ 16777215
      · rw [if_pos inside, Option.any_some, decide_eq_true inside]
        exact ⟨.refl, rfl⟩
      · rw [if_neg inside, Option.any_some, decide_eq_false inside]
        exact ⟨.refl, rfl⟩

/-- SETTINGS fail exactly when a value is out of range. -/
theorem applyRemoteSettings_spec (mayFail : UInt32 → Prop) (c : Client) (s : Settings) :
    Quiets mayFail c.view (c.applyRemoteSettings s).1.view ∧
      (c.applyRemoteSettings s).2.isOk = !rejectsSettings s := by
  refine ⟨?_, ?_⟩
  · exact quiets_andThen (c.applyInitialWindowSize_spec mayFail _).1 fun c =>
      quiets_andThen (c.applyMaxFrameSize_spec mayFail _).1 fun c => c.quiets_applyOtherSettings s
  · rw [applyRemoteSettings, isOk_andThen, isOk_andThen, rejectsSettings, Bool.not_or,
      (applyInitialWindowSize_spec mayFail c _).2,
      (applyMaxFrameSize_spec mayFail _ _).2]
    exact congrArg _ (Bool.and_true _)

/-! ### Header blocks -/

theorem view_receiveHeaders (s : StreamState) (cell : Cell) (headers : List Header)
    (endStream : Bool) (interim : (!s.gotHead && isInterim headers) = false) :
    ((s.receiveHeaders cell headers endStream).1.closeRemote endStream).view =
        { s.view with gotHead := true, remoteClosed := s.remoteClosed || endStream } ∧
      (s.receiveHeaders cell headers endStream).2.view =
        { cell.view with recv := if endStream then cell.recv.endBody else cell.recv } := by
  unfold StreamState.receiveHeaders
  rw [interim]
  obtain ⟨id, window, headTx, k, gotHead, localClosed, remoteClosed⟩ := s
  cases gotHead <;> cases headTx <;> cases endStream <;> exact ⟨rfl, rfl⟩

theorem view_withStream (c : Client) {id : UInt32} {s : StreamState}
    (found : c.streams.lookup id = some s) {f : StreamState → Cell → StreamState × Cell}
    {g : StreamView → StreamView} {h : CellView → CellView}
    (onStream : (f s (c.cells s.cell)).1.view = g s.view)
    (onCell : (f s (c.cells s.cell)).2.view = h (c.cells s.cell).view) :
    (c.withStream id f).view = (c.view.setStream id g).setCell s.cell h := by
  unfold withStream
  simp only [found]
  rw [view_modifyCell (g := h) _ _ onCell, view_modifyStream (g := g)]
  intro s' found'
  rw [found] at found'
  obtain rfl := Option.some.inj found'
  exact onStream

theorem withStream_none (c : Client) {id : UInt32} (missing : c.streams.lookup id = none)
    (f : StreamState → Cell → StreamState × Cell) : c.withStream id f = c := by
  unfold withStream
  rw [missing]

theorem view_receiveBlock (c : Client) (id : UInt32) (headers : List Header) (endStream : Bool) :
    (c.receiveBlock id headers endStream).view = c.view.block id headers endStream := by
  unfold receiveBlock View.block
  cases found : c.streams.lookup id with
  | none =>
      simp only [view_streams_none found]
      rw [withStream_none]
      · rfl
      · exact found
  | some s =>
      simp only [view_streams found]
      cases interim : !s.gotHead && isInterim headers with
      | true =>
          have hidden : (!s.view.gotHead && isInterim headers) = true := interim
          simp only [hidden, if_true]
          rw [view_withStream (c.record (.block id headers endStream)) found
            (g := fun s => { s with remoteClosed := s.remoteClosed || endStream }) (h := fun x => x)]
          · simp [View.setCell, View.log, View.setStream]
          · simp only [StreamState.receiveHeaders, interim, if_true]
            rfl
          · simp only [StreamState.receiveHeaders, interim, if_true]
      | false =>
          have shown : ¬ (!s.view.gotHead && isInterim headers) = true := by
            rw [show (!s.view.gotHead && isInterim headers) = false from interim]
            simp
          simp only [shown]
          obtain ⟨onStream, onCell⟩ :=
            view_receiveHeaders s (c.cells s.cell) headers endStream interim
          rw [view_withStream (c.record (.block id headers endStream)) found
            (g := fun s => { s with gotHead := true, remoteClosed := s.remoteClosed || endStream })
            (h := fun cell =>
              { cell with recv := if endStream then cell.recv.endBody else cell.recv })]
          · rfl
          · exact onStream
          · exact onCell

theorem quiets_receiveDataFrame {mayFail : UInt32 → Prop} (c : Client) (id : UInt32) (data : Bytes)
    (endStream : Bool) (nobody : ∀ id, ¬ mayFail id) :
    Quiets mayFail c.view (c.receiveDataFrame id data endStream).view := by
  have received : Quiets mayFail c.view (c.view.data id data endStream) :=
    .single (.data id data endStream nobody)
  unfold receiveDataFrame
  simp only []
  unfold View.data at received
  cases found : c.streams.lookup id with
  | none =>
      have missing : id ∉ (c.record (.data id data endStream)).streams :=
        AList.lookup_eq_none.mp found
      simp only [view_streams_none found] at received
      rw [if_neg missing]
      split
      · exact received.trans (quiets_sendFrame (c.record (.data id data endStream)) rfl)
      · exact received
  | some s =>
      have mem : id ∈ (c.record (.data id data endStream)).streams :=
        AList.lookup_isSome.mp (by rw [Option.isSome_iff_exists]; exact ⟨s, found⟩)
      simp only [view_streams found] at received
      rw [if_pos mem, view_withStream (c.record (.data id data endStream)) found
        (g := fun s => { s with remoteClosed := s.remoteClosed || endStream })
        (h := fun cell => { cell with recv := cell.recv.receiveData data endStream })]
      · exact received
      · rfl
      · rfl

theorem quiets_takeHeaderBlock {mayFail : UInt32 → Prop} (c : Client) (pb : PendingHeaderBlock)
    (headers : List Header) (nobody : ∀ id, ¬ mayFail id) :
    Quiets mayFail c.view (c.takeHeaderBlock pb headers).view := by
  unfold takeHeaderBlock
  cases pb.kind with
  | push =>
      simp only [refusePush]
      refine .trans (quiets_of_eq ?_) (quiets_sendFrame _ rfl)
      split <;> rfl
  | response =>
      have received : Quiets mayFail c.view
          (c.receiveBlock pb.streamId headers pb.endStream).view := by
        rw [view_receiveBlock]
        exact .single (.block _ _ _ nobody)
      simp only []
      split
      · exact received.trans (quiets_retireIfFullyClosed _ _)
      · exact received

/-- A header block that is refused changes nothing; one that is not fails
nobody. -/
theorem growHeaderBlock_spec {mayFail : UInt32 → Prop} (c : Client) (pb : PendingHeaderBlock)
    (endHeaders : Bool)
    (nobody : c.rejectsBlock pb.fragments pb.size endHeaders = false → ∀ id, ¬ mayFail id) :
    Quiets mayFail c.view (c.growHeaderBlock pb endHeaders).1.view ∧
      (c.growHeaderBlock pb endHeaders).2.isOk =
        !c.rejectsBlock pb.fragments pb.size endHeaders := by
  unfold growHeaderBlock guardHeaderBlockSize
  unfold rejectsBlock at nobody ⊢
  by_cases long : pb.size > MAX_HEADER_BLOCK_SIZE
  · simp only [long, if_true, decide_true, Bool.true_or]
    exact ⟨.refl, rfl⟩
  · simp only [long, if_false, decide_false, Bool.false_or] at nobody ⊢
    cases endHeaders with
    | false => exact ⟨.refl, rfl⟩
    | true =>
        simp only [if_true, completeHeaderBlock]
        cases result : (c.decoder.decode pb.fragments.flatten).2 with
        | error fault => exact ⟨.refl, rfl⟩
        | ok headers =>
            have nobody := nobody (by rw [result]; rfl)
            exact ⟨quiets_takeHeaderBlock { c with pendingHeaderBlock := none, decoder := _ } pb
              headers nobody, rfl⟩

/-! ### Dispatch -/

theorem quiets_failAbove {mayFail : UInt32 → Prop} (c : Client) {lastStreamId : UInt32}
    (err : H2Error) (may : ∀ id, lastStreamId < id → mayFail id)
    (noted : .goaway lastStreamId ∈ c.history) :
    Quiets mayFail c.view (c.failAbove lastStreamId err).view := by
  have above {id : UInt32} (mem : id ∈ c.streams.keys.filter (lastStreamId < ·)) :
      lastStreamId < id := by simpa using (List.mem_filter.mp mem).2
  refine quiets_removeAll c _ (fun id mem => may id (above mem)) fun id mem => ?_
  exact .inr ⟨_, noted, by simpa [isGoawayBelow] using above mem⟩

theorem quiets_receiveGoaway (c : Client) (lastStreamId errorCode : UInt32)
    {mayFail : UInt32 → Prop} (may : ∀ id, lastStreamId < id ∨ errorCode ≠ 0 → mayFail id) :
    Quiets mayFail c.view (c.receiveGoaway lastStreamId errorCode).view := by
  unfold receiveGoaway
  have noted : Quiet mayFail c.view
      ({ c with goawayReceived := true }.record (.goaway lastStreamId)).view :=
    .goaway lastStreamId
  have removed (err : H2Error) := Relation.ReflTransGen.head noted (quiets_failAbove
    ({ c with goawayReceived := true }.record (.goaway lastStreamId)) err
    (fun id above => may id (.inl above)) (List.mem_append_right _ (.head _)))
  simp only []
  split
  next error =>
    refine .trans ?_ (quiets_destroy _ _ fun id => may id (.inr error))
    rw [view_wakeSlotWaiters]
    exact removed _
  next =>
    rw [view_wakeSlotWaiters]
    exact removed _

theorem quiets_receivePing {mayFail : UInt32 → Prop} (c : Client) (ack : Bool)
    (opaqueData : OpaqueData) : Quiets mayFail c.view (c.receivePing ack opaqueData).view := by
  unfold receivePing
  split
  · split <;> exact .refl
  · exact c.quiets_sendFrame rfl

theorem quiets_creditStream {mayFail : UInt32 → Prop} (c : Client) {id : UInt32} (n : UInt32)
    (nonzero : id ≠ 0) : Quiets mayFail c.view (c.creditStream id n).view := by
  have credited : Quiets mayFail c.view _ := .single (.creditStream id n nonzero)
  unfold creditStream
  simp only []
  cases found : c.streams.lookup id with
  | none =>
      have missing : (c.record (.credit id n)).streams.lookup id = none := found
      rw [missing]
      rw [View.setStream, view_streams_none found, Option.map_none,
        Function.update_eq_self_iff.mpr (view_streams_none found).symm] at credited
      exact credited
  | some s =>
      have present : (c.record (.credit id n)).streams.lookup id = some s := found
      rw [present]
      simp only [view_wakePumps]
      rw [view_modifyStream (g := fun s => { s with window := s.window + Int64.ofInt n.toNat })]
      · exact credited
      · intro s' found'
        rw [present] at found'
        obtain rfl := Option.some.inj found'
        simp [StreamState.view]

theorem receiveWindowUpdate_spec (c : Client) (id increment : UInt32) {mayFail : UInt32 → Prop}
    (may : increment = 0 → mayFail id) :
    Quiets mayFail c.view (c.receiveWindowUpdate id increment).1.view ∧
      (c.receiveWindowUpdate id increment).2.isOk = !(id == 0 && increment == 0) := by
  unfold receiveWindowUpdate
  by_cases zero : increment = 0
  · by_cases connection : id = 0
    · simp only [zero, connection, if_true]
      exact ⟨.refl, rfl⟩
    · simp only [zero, connection, if_true, if_false]
      refine ⟨c.quiets_resetStream _ (may zero), ?_⟩
      simp [connection, Except.isOk, Except.toBool]
  · by_cases connection : id = 0
    · simp only [zero, connection, if_true, if_false]
      refine ⟨?_, by simp [zero, Except.isOk, Except.toBool]⟩
      rw [creditConnection, view_wakePumps, view_record]
      have same : Client.view { c with
          connSendWindow := (c.connSendWindow.update increment.toNat).1 } =
            { c.view with connWindow := c.view.connWindow + Int64.ofInt increment.toNat } := by
        simp [view]
      rw [same]
      exact .single (.creditConnection increment)
    · simp only [zero, connection, if_false]
      refine ⟨c.quiets_creditStream increment connection, ?_⟩
      simp [zero, Except.isOk, Except.toBool]

theorem dispatchFrame_spec (c : Client) (frame : Frame) {mayFail : UInt32 → Prop}
    (may : ∀ id, Kills id frame → mayFail id)
    (only : c.rejectsFrame frame = false → ∀ id, mayFail id → Kills id frame) :
    Quiets mayFail c.view (c.dispatchFrame frame).1.view ∧
      (c.dispatchFrame frame).2.isOk = !c.rejectsFrame frame := by
  cases frame with
  | settings ack settings =>
      cases ack with
      | true => exact ⟨.refl, rfl⟩
      | false =>
          obtain ⟨applied, ok⟩ := applyRemoteSettings_spec mayFail c settings
          refine ⟨quiets_andThen applied fun c => c.quiets_sendFrame rfl, ?_⟩
          refine (isOk_andThen _ _).trans ?_
          rw [ok]
          exact Bool.and_true _
  | headers id fragment endStream endHeaders priority =>
      exact c.growHeaderBlock_spec _ endHeaders fun accepted id => only accepted id
  | pushPromise id promised fragment endHeaders =>
      exact c.growHeaderBlock_spec _ endHeaders fun accepted id => only accepted id
  | continuation id fragment endHeaders =>
      rw [dispatchFrame]
      rw [rejectsFrame] at only ⊢
      cases pending : c.pendingHeaderBlock with
      | none => exact ⟨.refl, rfl⟩
      | some pb =>
          rw [pending] at only
          by_cases same : pb.streamId = id
          · simp only [same, if_true, bne_self_eq_false, Bool.false_or] at only ⊢
            exact c.growHeaderBlock_spec _ endHeaders fun accepted id => only accepted id
          · have different : (pb.streamId != id) = true := by simpa using same
            simp only [same, if_false, different, Bool.true_or]
            exact ⟨.refl, rfl⟩
  | data id data endStream =>
      have received := c.quiets_receiveDataFrame id data endStream fun id => only rfl id
      rw [dispatchFrame]
      simp only []
      split
      · exact ⟨received.trans (quiets_retireIfFullyClosed _ _), rfl⟩
      · exact ⟨received, rfl⟩
  | rstStream id errorCode =>
      refine ⟨.single ?_, rfl⟩
      rw [dispatchFrame, receiveReset, view_removeAndFail, view_record]
      exact .cut _ id _ (may id rfl) (by simp [isCut])
  | windowUpdate id increment =>
      exact c.receiveWindowUpdate_spec id increment fun zero => may id ⟨rfl, zero⟩
  | ping ack opaqueData => exact ⟨c.quiets_receivePing ack opaqueData, rfl⟩
  | goaway lastStreamId errorCode debugData =>
      exact ⟨c.quiets_receiveGoaway lastStreamId errorCode may, rfl⟩
  | priority id priority => exact ⟨.refl, rfl⟩

/-- A frame is an error exactly when it is rejected. -/
theorem dispatch_spec (c : Client) (frame : Frame) :
    Quiets (fun id => c.Fails id (.frame frame)) c.view (c.dispatch frame).1.view ∧
      (c.dispatch frame).2.isOk = !c.rejects frame := by
  unfold dispatch
  cases expected : c.pendingHeaderBlock.isSome && !isContinuation frame with
  | true =>
      rw [if_pos rfl, rejects, expected]
      exact ⟨.refl, rfl⟩
  | false =>
      have same : c.rejects frame = c.rejectsFrame frame := by rw [rejects, expected, Bool.false_or]
      rw [if_neg Bool.false_ne_true, same]
      refine c.dispatchFrame_spec frame (fun id kills => .inr kills) fun accepted id fails => ?_
      rcases fails with rejected | kills
      · exact Bool.noConfusion ((same.trans accepted).symm.trans rejected)
      · exact kills

theorem quiets_onFrame (c : Client) (frame : Frame) :
    Quiets (fun id => c.Fails id (.frame frame)) c.view (c.onFrame frame).view := by
  obtain ⟨dispatched, ok⟩ := c.dispatch_spec frame
  unfold onFrame
  rcases result : c.dispatch frame with ⟨c', fault | done⟩
  · rw [result] at dispatched ok
    have rejected : c.rejects frame = true := by
      cases reject : c.rejects frame with
      | true => rfl
      | false => rw [reject] at ok; cases ok
    cases fault with
    | h2 err => exact dispatched.trans (quiets_connectionError _ err fun id => .inl rejected)
    | panic => exact dispatched
  · rw [result] at dispatched
    exact dispatched

/-! ## Requests -/

theorem view_foldl_sendFrame (frames : List Frame) {c : Client} (live : c.closed = false)
    (outTx : c.outTx = true) :
    (frames.foldl sendFrame c).view =
      { c.view with history := c.view.history ++ frames.map .sent } := by
  induction frames generalizing c with
  | nil => simp
  | cons frame frames ih =>
      have slots := c.slots_sendFrame frame
      rw [List.foldl_cons, ih ((congrArg Slots.closed slots).trans live)
        ((congrArg Slots.outTx slots).trans outTx), view_sendFrame live outTx]
      simp [View.log]

/-- A stream in the place of one with the same id. -/
theorem view_insertStream (c : Client) (s : StreamState) :
    (c.insertStream s).view =
      { c.view with streams := Function.update c.view.streams s.id (some s.view) } := by
  have inserted (c : Client) : Client.view { c with streams := c.streams.insert s.id s } =
      { c.view with streams := Function.update c.view.streams s.id (some s.view) } := by
    simp only [view]
    congr 1
    funext id
    by_cases same : id = s.id
    · subst same
      simp
    · simp [AList.lookup_insert_ne same, same]
  unfold insertStream
  simp only []
  split
  · exact inserted c
  next old _ => rw [inserted, view_modifyCell_same _ _ (view_drop old _)]

theorem remote_registerStream (c : Client) (i : Nat) (body : RequestBody) :
    (c.registerStream i body).remote = c.remote := by
  simp only [registerStream, insertStream]
  split <;> rfl

theorem view_registerStream (c : Client) (i : Nat) (body : RequestBody) :
    (c.registerStream i body).view = c.view.openStream body [] := by
  have inserted := view_insertStream
    { c with nextStreamId := c.nextStreamId + 2, opened := c.opened + 1 } (c.newStream body)
  have celled := view_modifyCell
    (insertStream { c with nextStreamId := c.nextStreamId + 2, opened := c.opened + 1 }
      (c.newStream body))
    c.opened (f := fun _ => newCell c.nextStreamId body)
    (g := fun _ => (newCell c.nextStreamId body).view) rfl
  rw [inserted] at celled
  exact congrArg (View.log · (.opened c.nextStreamId)) celled

theorem view_openStream {c : Client} (live : c.closed = false) (outTx : c.outTx = true) (i : Nat)
    (request : Request) :
    (c.openStream i request).view = c.view.openStream request.body
      (headerFrames c.nextStreamId c.remote.maxFrameSize (encode request.headers)
        request.body.isEmpty) := by
  have slots := c.slots_registerStream i request.body
  rw [openStream, sendHeaders, remote_registerStream,
    view_foldl_sendFrame _ ((congrArg Slots.closed slots).trans live)
      ((congrArg Slots.outTx slots).trans outTx), view_registerStream]
  simp [View.openStream]

theorem mem_continuationFrames {id : UInt32} {max fuel : Nat} {rest : Bytes} {frame : Frame}
    (mem : frame ∈ continuationFrames id max fuel rest) :
    ∃ fragment endHeaders, frame = .continuation id fragment endHeaders := by
  induction fuel generalizing rest with
  | zero => cases mem
  | succ fuel ih =>
      rw [continuationFrames] at mem
      split at mem
      · cases mem
      · cases mem with
        | head => exact ⟨_, _, rfl⟩
        | tail _ later => exact ih later

/-- One HEADERS frame, and CONTINUATION frames after it. -/
theorem headerFrames_eq (id : UInt32) (max : Nat) (block : Bytes) (endStream : Bool) :
    ∃ fragment endHeaders rest,
      headerFrames id max block endStream =
        .headers id fragment endStream endHeaders none :: rest ∧
      ∀ frame ∈ rest, ∃ fragment endHeaders, frame = .continuation id fragment endHeaders := by
  unfold headerFrames
  split
  · exact ⟨_, _, [], rfl, by simp⟩
  · exact ⟨_, _, _, rfl, fun _ mem => mem_continuationFrames mem⟩

/-! ## Sections -/

/-- The request a section is about: a new one, or one that waits for a slot. -/
def asks (c : Client) : Action → Option Request
  | .request request => some request
  | .pollCall i =>
      match c.calls i with
      | .parked request => some request
      | _ => none
  | _ => none

/-- What a section does, with what it has checked before. -/
inductive Effect (c : Client) (a : Action) : Prop
  | quiet (steps : Quiets (fun id => c.Fails id a) c.view (c.step a).view)
  | opens (request : Request) (live : c.closed = false) (staying : c.goawayReceived = false)
      (free : c.activeStreams < c.remote.maxConcurrentStreams.toNat)
      (same : (c.step a).view = c.view.openStream request.body
        (headerFrames c.nextStreamId c.remote.maxFrameSize (encode request.headers)
          request.body.isEmpty))
      (asked : c.asks a = some request)
  | uploads {k : Nat} {chunk : Bytes} {offset : Nat} {rest : List Bytes} {s : StreamState} (n : Nat)
      (pumping : (c.cells k).pump = .sending chunk offset rest)
      (found : c.streams.lookup (c.cells k).id = some s) (live : c.closed = false)
      (positive : 0 < n) (remaining : n ≤ chunk.length - offset)
      (connection : (n : Int) ≤ c.connSendWindow.value) (stream : (n : Int) ≤ s.sendWindow.value)
      (frame : n ≤ c.remote.maxFrameSize)
      (same : (c.step a).view =
        (c.view.upload (c.cells k).id ((chunk.drop offset).take n)).setPump k
          (if offset + n < chunk.length then .sending chunk (offset + n) rest else .pulling rest))
  | finishes {k : Nat} {s : StreamState} (pumping : (c.cells k).pump = .pulling [])
      (found : c.streams.lookup (c.cells k).id = some s) (live : c.closed = false)
      (steps : Quiets (fun _ => False) (c.view.finish k) (c.step a).view)

theorem view_setPump (c : Client) (k : Nat) (pump : Pump) (parked : Bool) :
    (c.setPump k pump parked).view = c.view.setPump k pump :=
  c.view_modifyCell k rfl

/-- The view does not see an upload park. -/
theorem view_setPump_same {c : Client} {k : Nat} {pump : Pump} (same : (c.cells k).pump = pump)
    (parked : Bool) : (c.setPump k pump parked).view = c.view := by
  refine c.view_modifyCell_same k ?_
  simp [Cell.view, same]

theorem view_registerWakers (c : Client) (id : UInt32) (s : StreamState) (k : Nat) :
    (c.registerWakers id s k).view = c.view := by
  have parked (c : Client) : (c.modifyStream id fun s =>
      { s with sendWindow := s.sendWindow.registerWaker k }).view = c.view := by
    rw [c.view_modifyStream id
      (f := fun s => { s with sendWindow := s.sendWindow.registerWaker k }) (g := fun s => s)
      fun _ _ => rfl]
    simp [View.setStream]
  unfold registerWakers
  simp only []
  split
  · split <;> rfl
  · rw [parked]
    split <;> rfl

theorem view_sendData {c : Client} (live : c.closed = false) (outTx : c.outTx = true) (id : UInt32)
    (data : Bytes) : (c.sendData id data).view = c.view.upload id data := by
  unfold sendData
  refine (view_sendFrame ?_ ?_ _).trans ?_
  · exact live
  · exact outTx
  rw [view_modifyStream _ id (f := fun s =>
      { s with sendWindow := s.sendWindow.consume data.length })
    (g := fun s => { s with window := s.window - Int64.ofInt data.length }) fun _ _ => rfl]
  rfl

theorem effect_pumpChunk {c : Client} (sound : c.Sealed) {k : Nat} {chunk : Bytes} {offset : Nat}
    {rest : List Bytes} (pumping : (c.cells k).pump = .sending chunk offset rest)
    (same : c.step (.pump k) = c.pumpChunk k chunk offset rest) : Effect c (.pump k) := by
  have unfinished : (c.view.cells k).pump.unfinished = true := by
    change (c.cells k).pump.unfinished = true
    rw [pumping]
    rfl
  have halts (gone : c.view.closed = true ∨
      ∀ s, c.view.streams (c.view.cells k).id = some s → s.windowClosed = true)
      (stopped : c.step (.pump k) = c.setPump k (.finished false) false) : Effect c (.pump k) := by
    refine .quiet ?_
    rw [stopped, view_setPump]
    exact .single (.halt unfinished gone)
  unfold pumpChunk at same
  simp only [] at same
  split at same
  next missing =>
    refine halts (.inr fun s present => ?_) same
    rw [show c.view.streams (c.view.cells k).id = none from view_streams_none missing] at present
    cases present
  next s found =>
    split at same
    next closed => exact halts (.inl closed) same
    next isOpen =>
      have live : c.closed = false := by simpa using isOpen
      split at same
      next =>
        split at same
        next windowClosed =>
          refine halts (.inr fun s' present => ?_) same
          rw [show c.view.streams (c.view.cells k).id = some s.view from view_streams found]
            at present
          obtain rfl := Option.some.inj present
          exact windowClosed
        next =>
          split at same
          next => exact .quiet (quiets_of_eq (by rw [same, view_setPump_same pumping]))
          next positive =>
            have bounds : (c.grant s (chunk.length - offset)).toNat ≤ chunk.length - offset ∧
                ((c.grant s (chunk.length - offset)).toNat : Int) ≤ c.connSendWindow.value ∧
                ((c.grant s (chunk.length - offset)).toNat : Int) ≤ s.sendWindow.value ∧
                (c.grant s (chunk.length - offset)).toNat ≤ c.remote.maxFrameSize := by
              unfold grant at positive ⊢
              omega
            refine .uploads (c.grant s (chunk.length - offset)).toNat pumping found live (by omega)
              bounds.1 bounds.2.1 bounds.2.2.1 bounds.2.2.2 ?_
            rw [same, view_setPump, view_sendData live (sound.outTx live)]
      next =>
        refine .quiet (quiets_of_eq ?_)
        rw [same, view_setPump_same, view_registerWakers]
        have cells : (c.registerWakers (c.cells k).id s k).cells = c.cells := by
          unfold registerWakers
          simp only []
          split
          · split <;> rfl
          · simp only [modifyStream]
            split <;> rfl
        rw [cells, pumping]

theorem effect_finishUpload {c : Client} (sound : c.Sealed) {k : Nat}
    (pumping : (c.cells k).pump = .pulling []) (same : c.step (.pump k) = c.finishUpload k) :
    Effect c (.pump k) := by
  unfold finishUpload at same
  simp only [] at same
  split at same
  next mem =>
    obtain ⟨s, found⟩ := Option.isSome_iff_exists.mp (AList.lookup_isSome.mpr mem)
    have live : c.closed = false := by
      by_contra closed
      have empty := sound.empty (show c.closed = true by simpa using closed)
      have absent : (c.cells k).id ∉ c.slots.ids := by simp [empty]
      exact absent mem
    refine .finishes pumping found live ?_
    rw [same]
    refine .trans (quiets_of_eq ?_) (quiets_retireIfFullyClosed _ _)
    rw [view_setPump, view_modifyStream (g := fun s => { s with localClosed := true })
      _ _ fun _ _ => rfl, view_sendFrame live (sound.outTx live)]
    rfl
  next missing =>
    refine .quiet ?_
    rw [same, view_setPump]
    refine .single (.halt ?_ (.inr fun s present => ?_))
    · change (c.cells k).pump.unfinished = true
      rw [pumping]
      rfl
    · rw [show c.view.streams (c.view.cells k).id = none from
        view_streams_none (AList.lookup_eq_none.mpr missing)] at present
      cases present

theorem effect_pump {c : Client} (sound : c.Sealed) (k : Nat) : Effect c (.pump k) := by
  have same : c.step (.pump k) = c.pump k := rfl
  unfold pump at same
  split at same
  next => exact .quiet (quiets_of_eq (by rw [same]))
  next pumping => exact effect_finishUpload sound pumping same
  next chunk rest pumping =>
    refine .quiet ?_
    rw [same, view_setPump]
    exact .single (.pull pumping)
  next chunk offset rest pumping => exact effect_pumpChunk sound pumping same
  next => exact .quiet (quiets_of_eq (by rw [same]))

theorem effect_tryOpen {c c' : Client} {a : Action} (sound : c'.Sealed) (i : Nat) (request : Request)
    (sameView : c'.view = c.view) (sameFields : c'.slots = c.slots)
    (sameRemote : c'.remote = c.remote) (asked : c.asks a = some request)
    (same : c.step a = c'.tryOpen i request) : Effect c a := by
  unfold tryOpen at same
  cases refusal : c'.unavailable with
  | some err =>
      rw [refusal] at same
      exact .quiet (quiets_of_eq (by rw [same]; exact sameView))
  | none =>
      obtain ⟨live, staying⟩ := available_of_unavailable refusal
      rw [refusal] at same
      by_cases free : c'.canOpenStream
      · simp only [free, if_true] at same
        have sameId : c'.nextStreamId = c.nextStreamId := congrArg View.nextStreamId sameView
        refine .opens request ((congrArg Slots.closed sameFields).symm.trans live)
          ((congrArg Slots.goaway sameFields).symm.trans staying) ?_ ?_ asked
        · rw [activeStreams_eq, ← sameFields, ← sameRemote]
          exact of_decide_eq_true free
        · rw [same, view_openStream live (sound.outTx live), sameView, sameId, sameRemote]
      · simp only [free] at same
        exact .quiet (quiets_of_eq (by rw [same]; exact sameView))

theorem view_settle (c : Client) (i k : Nat) (call : Call) (holder : Holder) :
    (c.settle i k call holder).view = c.view :=
  view_modifyCell_same { c with calls := Function.update c.calls i call } k rfl

theorem quiets_read {mayFail : UInt32 → Prop} (c : Client) (k : Nat) :
    Quiets mayFail c.view (c.read k).view := by
  unfold read
  simp only []
  split
  · split
    next chunk queue queued =>
      have yielded := view_modifyCell c k
        (f := fun cell => { cell with
          recv := { (c.cells k).recv with
            queue := queue, buffered := (c.cells k).recv.buffered - chunk.length }
          yields := cell.yields ++ [.chunk chunk] })
        (g := fun cell => { cell with
          recv := { cell.recv with
            queue := queue, buffered := cell.recv.buffered - chunk.length }
          yields := cell.yields ++ [.chunk chunk] }) rfl
      refine .head ?_ (quiets_replenishRecvWindow _ _ _)
      rw [yieldTo, yielded]
      exact .chunk queued
    next drained =>
      split
      next err failed =>
        have yielded := view_modifyCell c k
          (f := fun cell => { cell with
            recv := { (c.cells k).recv with error := none }
            yields := cell.yields ++ [.failed err] })
          (g := fun cell => { cell with
            recv := { cell.recv with error := none }
            yields := cell.yields ++ [.failed err] }) rfl
        rw [yieldTo, yielded]
        exact .single (.error drained failed)
      next clean =>
        split
        next ended =>
          have yielded := view_modifyCell c k
            (f := fun cell => { cell with
              recv := (c.cells k).recv
              yields := cell.yields ++ [.done] })
            (g := fun cell => { cell with yields := cell.yields ++ [.done] }) rfl
          rw [yieldTo, yielded]
          exact .single (.done drained clean ended)
        next =>
          rw [c.view_modifyCell k (g := fun cell =>
            { cell with recv := { cell.recv with waker := true } }) rfl]
          exact .single .listen
  · exact .refl

theorem quiets_dropBody (c : Client) (k : Nat) :
    Quiets (fun id => c.Fails id (.dropBody k)) c.view (c.dropBody k).view := by
  unfold dropBody
  simp only []
  split
  next reading =>
    have released : (c.modifyCell k fun cell => { cell with holder := .gone }).view = c.view :=
      c.view_modifyCell_same k rfl
    have returned : Quiets (fun id => c.Fails id (.dropBody k)) c.view _ :=
      released ▸ quiets_replenishRecvWindow
        (c.modifyCell k fun cell => { cell with holder := .gone }) (c.cells k).id
        (c.cells k).recv.buffered
    split
    next => exact returned
    next unended =>
      exact returned.trans (quiets_resetStream _ _ ⟨rfl, reading, by simpa using unended⟩)
  next => exact .refl

theorem quiets_ping {mayFail : UInt32 → Prop} (c : Client) : Quiets mayFail c.view c.ping.view := by
  unfold ping
  simp only []
  split
  · exact .refl
  · refine .trans (quiets_of_eq ?_) (quiets_sendFrame _ rfl)
    split <;> rfl

/-- Every section is quiet, opens a stream, sends a piece of a body or ends one. -/
theorem step_cases {c : Client} (sound : c.Sealed) (a : Action) : Effect c a := by
  cases a with
  | frame frame => exact .quiet (c.quiets_onFrame frame)
  | corrupt err => exact .quiet (c.quiets_connectionError err fun _ => trivial)
  | transportClosed => exact .quiet (c.quiets_destroy _ fun _ => trivial)
  | writeFailed => exact .quiet (c.quiets_destroy _ fun _ => trivial)
  | request request =>
      exact @effect_tryOpen c { c with called := c.called + 1 } _ sound c.called request rfl rfl rfl rfl
        rfl
  | pollCall i =>
      have same : c.step (.pollCall i) = c.pollCall i := rfl
      unfold pollCall at same
      split at same
      next request parked =>
        split at same
        · exact .quiet (quiets_of_eq (by rw [same]))
        · exact effect_tryOpen sound i request rfl rfl rfl (by rw [asks, parked]) same
      next =>
        split at same
        · exact .quiet (quiets_of_eq (by rw [same]))
        all_goals exact .quiet (quiets_of_eq (by rw [same, view_settle]))
      next => exact .quiet (quiets_of_eq (by rw [same]))
  | dropCall i =>
      have same : c.step (.dropCall i) = c.dropCall i := rfl
      unfold dropCall at same
      split at same
      · exact .quiet (quiets_of_eq (by rw [same]; rfl))
      · exact .quiet (quiets_of_eq (by rw [same, view_settle]))
      · exact .quiet (quiets_of_eq (by rw [same]))
  | pump k => exact effect_pump sound k
  | read k => exact .quiet (c.quiets_read k)
  | dropBody k => exact .quiet (c.quiets_dropBody k)
  | ping => exact .quiet c.quiets_ping
  | close =>
      refine .quiet ?_
      rw [step, close]
      split
      · exact .refl
      · exact (c.quiets_sendFrame rfl).trans (quiets_destroy _ _ fun _ => trivial)

end Client

end H2ts
