import H2ts.Connection.TableSize
import H2ts.FrameStream

/-!
# What goes on the wire

The history of a connection has the frames that were sent, and the channel to the
transport has their bytes.  No frame is larger than the peer has allowed, so the
peer reads the frames back, however the bytes come (`outbound_after`).

The wire has 31 bits for a stream id and for an increment, and the client does
not count that far everywhere.  What the peer reads is the frame as it is
`onWire`.
-/

namespace H2ts

open BigEndian Hpack

/-! ## Frames on the wire -/

/-- The frame with its ids and its increment in 31 bits. -/
def Frame.onWire : Frame → Frame
  | .data id bytes endStream => .data (low31 id) bytes endStream
  | .headers id fragment endStream endHeaders given =>
      .headers (low31 id) fragment endStream endHeaders given
  | .priority id given => .priority (low31 id) given
  | .rstStream id errorCode => .rstStream (low31 id) errorCode
  | .settings ack carried => .settings ack carried
  | .pushPromise id promised fragment endHeaders =>
      .pushPromise (low31 id) (low31 promised) fragment endHeaders
  | .ping ack opaqueData => .ping ack opaqueData
  | .goaway lastStreamId errorCode debugData => .goaway (low31 lastStreamId) errorCode debugData
  | .windowUpdate id increment => .windowUpdate (low31 id) (low31 increment)
  | .continuation id fragment endHeaders => .continuation (low31 id) fragment endHeaders

theorem toNat_low31_lt (v : UInt32) : (low31 v).toNat < 2 ^ 31 := by
  rw [toNat_low31]
  exact Nat.mod_lt _ (by decide)

theorem low31_low31 (v : UInt32) : low31 (low31 v) = low31 v := low31_eq_self (toNat_low31_lt v)

/-- The writer masks what it writes. -/
theorem serializeFrame_onWire (frame : Frame) : serializeFrame frame.onWire = serializeFrame frame := by
  have masked (e e' : Encoded) (typeId : e'.typeId = e.typeId) (flags : e'.flags = e.flags)
      (id : low31 e'.streamId = low31 e.streamId) (payload : e'.payload = e.payload) :
      be24 (UInt32.ofNat e'.payload.length) ++ [e'.typeId, e'.flags] ++
        be32 (low31 e'.streamId) ++ e'.payload =
        be24 (UInt32.ofNat e.payload.length) ++ [e.typeId, e.flags] ++
          be32 (low31 e.streamId) ++ e.payload := by
    rw [typeId, flags, id, payload]
  cases frame with
  | data id data endStream => exact masked _ _ rfl rfl (low31_low31 id) rfl
  | headers id fragment endStream endHeaders priority =>
      cases priority with
      | none => exact masked _ _ rfl rfl (low31_low31 id) rfl
      | some priority => exact masked _ _ rfl rfl (low31_low31 id) rfl
  | priority id priority => exact masked _ _ rfl rfl (low31_low31 id) rfl
  | rstStream id errorCode => exact masked _ _ rfl rfl (low31_low31 id) rfl
  | settings ack settings => rfl
  | pushPromise id promised fragment endHeaders =>
      refine masked _ _ rfl rfl (low31_low31 id) ?_
      show be32 (low31 (low31 promised)) ++ fragment = be32 (low31 promised) ++ fragment
      rw [low31_low31]
  | ping ack opaqueData => rfl
  | goaway lastStreamId errorCode debugData =>
      refine masked _ _ rfl rfl rfl ?_
      show be32 (low31 (low31 lastStreamId)) ++ be32 errorCode ++ debugData = _
      rw [low31_low31]
      rfl
  | windowUpdate id increment =>
      refine masked _ _ rfl rfl (low31_low31 id) ?_
      show be32 (low31 (low31 increment)) = be32 (low31 increment)
      rw [low31_low31]
  | continuation id fragment endHeaders => exact masked _ _ rfl rfl (low31_low31 id) rfl

/-- The frame is one that a client sends, and has a payload of at most `limit` bytes. -/
def Sendable (limit : Nat) : Frame → Prop
  | .data _ data _ => data.length ≤ limit
  | .headers _ fragment _ _ priority => fragment.length ≤ limit ∧ priority = none
  | .rstStream .. => True
  | .settings ack settings => ack = true → settings = {}
  | .ping .. => True
  | .goaway _ _ debugData => debugData = []
  | .windowUpdate .. => True
  | .continuation _ fragment _ => fragment.length ≤ limit
  | .priority .. => False
  | .pushPromise .. => False

theorem settingsCount_le (s : Settings) : settingsCount s ≤ 6 := by
  have one (value : Option UInt32) : settingCount value ≤ 1 := by
    cases value with
    | none => exact Nat.zero_le 1
    | some value => exact Nat.le_refl 1
  have h1 := one s.headerTableSize
  have h2 := one (s.enablePush.map boolToU32)
  have h3 := one s.maxConcurrentStreams
  have h4 := one s.initialWindowSize
  have h5 := one s.maxFrameSize
  have h6 := one s.maxHeaderListSize
  rw [settingsCount]
  omega

theorem Sendable.wellFormed {limit : Nat} (large : 16384 ≤ limit)
    {frame : Frame} (fits : Sendable limit frame) :
    frame.onWire.WellFormed limit := by
  cases frame with
  | data id data endStream => exact ⟨toNat_low31_lt id, fits⟩
  | headers id fragment endStream endHeaders priority =>
      obtain ⟨short, rfl⟩ := fits
      exact ⟨⟨toNat_low31_lt id, fun p mem => absurd mem (Option.not_mem_none p)⟩, short⟩
  | priority => exact fits.elim
  | rstStream id errorCode => exact ⟨toNat_low31_lt id, Nat.le_trans (by decide : 4 ≤ 16384) large⟩
  | settings ack settings =>
      have short : (encodeSettings settings).length ≤ 36 := by
        rw [length_encodeSettings]
        have few := settingsCount_le settings
        omega
      exact ⟨fits, short.trans (Nat.le_trans (by decide) large)⟩
  | pushPromise => exact fits.elim
  | ping ack opaqueData =>
      have eight : (encodeBody (.ping ack opaqueData)).payload.length = 8 := opaqueData.2
      refine ⟨trivial, ?_⟩
      show (encodeBody (.ping ack opaqueData)).payload.length ≤ limit
      rw [eight]
      exact Nat.le_trans (by decide) large
  | goaway lastStreamId errorCode debugData =>
      rw [Sendable] at fits
      subst fits
      exact ⟨toNat_low31_lt lastStreamId, Nat.le_trans (by decide : 8 ≤ 16384) large⟩
  | windowUpdate id increment =>
      exact ⟨⟨toNat_low31_lt id, toNat_low31_lt increment⟩, Nat.le_trans (by decide : 4 ≤ 16384) large⟩
  | continuation id fragment endHeaders => exact ⟨toNat_low31_lt id, fits⟩

namespace History

/-- The chunk that an event puts into the channel. -/
def chunk? : Event → Option Bytes
  | .preface bytes => some bytes
  | .sent frame => some (serializeFrame frame)
  | _ => none

/-- The chunks that went to the transport. -/
def chunks (history : List Event) : List Bytes := history.filterMap chunk?

/-- Their bytes. -/
def outbound (history : List Event) : Bytes := (chunks history).flatten

/-- The frames that were sent. -/
def sentFrames (history : List Event) : List Frame := history.filterMap Event.frame?

end History

namespace Client

/-! ## What a section sends -/

variable {limit : Nat} {c d e : Client}

/-- An event after the preface. -/
def Allowed (limit : Nat) : Event → Prop
  | .preface _ => False
  | .sent frame => Sendable limit frame
  | _ => True

/-- What was sent is allowed, and the limit on frames stays. -/
structure Speaks (limit : Nat) (c d : Client) : Prop where
  bounded : c.remote.maxFrameSize ≤ limit → d.remote.maxFrameSize ≤ limit
  said : ∃ events, d.history = c.history ++ events ∧ ∀ e ∈ events, Allowed limit e

/-- Nothing is said. -/
theorem speaks_silent (bounded : c.remote.maxFrameSize ≤ limit → d.remote.maxFrameSize ≤ limit)
    (history : d.history = c.history) : Speaks limit c d :=
  ⟨bounded, [], by rw [history, List.append_nil], fun _ mem => absurd mem List.not_mem_nil⟩

theorem speaks_none (remote : d.remote = c.remote) (history : d.history = c.history) : Speaks limit c d :=
  speaks_silent (fun bounded => remote ▸ bounded) history

theorem Speaks.trans (first : Speaks limit c d) (later : Speaks limit d e) : Speaks limit c e := by
  obtain ⟨bounded, events, history, allowed⟩ := first
  obtain ⟨bounded', events', history', allowed'⟩ := later
  refine ⟨bounded' ∘ bounded, events ++ events', ?_, fun event mem => ?_⟩
  · rw [history', history, List.append_assoc]
  · rcases List.mem_append.mp mem with mem | mem
    · exact allowed event mem
    · exact allowed' event mem

/-- Changes before, of which nothing goes out. -/
theorem Speaks.after (later : Speaks limit d e) (remote : d.remote = c.remote)
    (history : d.history = c.history) :
    Speaks limit c e :=
  (speaks_none remote history).trans later

theorem speaks_event (event : Event) (remote : d.remote = c.remote)
    (history : d.history = c.history ++ [event])
    (allowed : Allowed limit event) : Speaks limit c d := by
  refine ⟨fun bounded => remote ▸ bounded, [event], history, fun e mem => ?_⟩
  rw [List.mem_singleton.mp mem]
  exact allowed

theorem speaks_record (c : Client) (event : Event) (allowed : Allowed limit event) :
    Speaks limit c (c.record event) :=
  speaks_event event rfl rfl allowed

theorem speaks_sendFrame (c : Client) (frame : Frame) (fit : Sendable limit frame) :
    Speaks limit c (c.sendFrame frame) := by
  unfold sendFrame
  split
  · exact c.speaks_record (.sent frame) fit
  · exact speaks_none rfl rfl

theorem speaks_sendFrames (c : Client) {frames : List Frame} (fit : ∀ frame ∈ frames, Sendable limit frame) :
    Speaks limit c (frames.foldl sendFrame c) := by
  induction frames generalizing c with
  | nil => exact speaks_none rfl rfl
  | cons frame frames ih =>
      exact (c.speaks_sendFrame frame (fit frame (.head _))).trans
        (ih _ fun other mem => fit other (.tail _ mem))

theorem speaks_removeAndFail (c : Client) (id : UInt32) (err : H2Error) :
    Speaks limit c (c.removeAndFail id err) := by
  unfold removeAndFail
  split
  · exact speaks_none rfl rfl
  next s found => exact speaks_event (.failed id) rfl rfl trivial

theorem speaks_removeAll (c : Client) (ids : List UInt32) (err : H2Error) :
    Speaks limit c (ids.foldl (fun c id => c.removeAndFail id err) c) := by
  induction ids generalizing c with
  | nil => exact speaks_none rfl rfl
  | cons id ids ih => exact (c.speaks_removeAndFail id err).trans (ih _)

theorem speaks_resetStream (c : Client) (id : UInt32) (code : ErrorCode) :
    Speaks limit c (c.resetStream id code) := by
  have said : Speaks limit c (c.sendFrame (.rstStream id code.value)) := c.speaks_sendFrame _ trivial
  have recorded := said.trans (speaks_record _ (.reset id) trivial)
  exact (recorded.trans (speaks_removeAndFail _ id _)).trans (speaks_none rfl rfl)

theorem speaks_retireIfFullyClosed (c : Client) (id : UInt32) :
    Speaks limit c (c.retireIfFullyClosed id) := by
  unfold retireIfFullyClosed
  split
  · exact speaks_none rfl rfl
  next s found =>
    split
    · exact speaks_event (.retired id) rfl rfl trivial
    · exact speaks_none rfl rfl

theorem speaks_replenishRecvWindow (c : Client) (id : UInt32) (n : Nat) :
    Speaks limit c (c.replenishRecvWindow id n) := by
  unfold replenishRecvWindow
  split
  · exact speaks_none rfl rfl
  · have own : Speaks limit c
      (if id ∈ c.streams then c.sendFrame (.windowUpdate id (UInt32.ofNat n)) else c) := by
      split
      · exact c.speaks_sendFrame _ trivial
      · exact speaks_none rfl rfl
    exact own.trans (speaks_sendFrame _ _ trivial)

theorem speaks_destroy (c : Client) (err : H2Error) : Speaks limit c (c.destroy err) := by
  unfold destroy
  split
  · exact speaks_none rfl rfl
  · have shut : Speaks limit c (c.shutDown err) := speaks_none rfl rfl
    exact (shut.trans (speaks_removeAll _ _ err)).trans (speaks_none rfl rfl)

theorem speaks_farewell (c : Client) (lastStreamId errorCode : UInt32) (err : H2Error) :
    Speaks limit c ((c.sendFrame (.goaway lastStreamId errorCode [])).destroy err) :=
  (c.speaks_sendFrame (.goaway lastStreamId errorCode []) rfl).trans (speaks_destroy _ err)

theorem speaks_andThen {o : Outcome} {next : Client → Outcome} (first : Speaks limit c o.1)
    (later : ∀ d, Speaks limit d (next d).1) : Speaks limit c (o.andThen next).1 := by
  obtain ⟨d, fault | done⟩ := o
  · exact first
  · exact first.trans (later d)

/-- The peer allows no frame above the limit.  A size that is out of range allows nothing. -/
def Announces (limit : Nat) : Action → Prop
  | .frame (.settings false settings) => ∀ size, settings.maxFrameSize = some size →
      size.toNat ≤ 16777215 → size.toNat ≤ limit
  | _ => True

/-- Nobody allows more than the largest size there is. -/
theorem announces_largest (a : Action) : Announces (2 ^ 24 - 1) a := by
  unfold Announces
  split
  · exact fun size _ inside => inside
  · trivial

theorem speaks_applyRemoteSettings (c : Client) {s : Settings}
    (announced : Announces limit (.frame (.settings false s))) :
    Speaks limit c (c.applyRemoteSettings s).1 := by
  refine speaks_andThen ?_ fun c => speaks_andThen ?_ fun c => ?_
  · cases s.initialWindowSize with
    | none => exact speaks_none rfl rfl
    | some iw =>
        rw [applyInitialWindowSize]
        split
        · exact speaks_none rfl rfl
        · exact speaks_silent id rfl
  · cases size : s.maxFrameSize with
    | none => exact speaks_none rfl rfl
    | some mfs =>
        rw [applyMaxFrameSize]
        split
        next inside => exact speaks_silent (fun _ => announced mfs size inside.2) rfl
        next => exact speaks_none rfl rfl
  · rw [applyOtherSettings]
    cases s.maxConcurrentStreams with
    | none => exact speaks_silent id rfl
    | some mcs =>
        refine ⟨id, [.limit mcs], rfl, fun e mem => ?_⟩
        rw [List.mem_singleton.mp mem]
        exact trivial

theorem speaks_withStream (c : Client) (id : UInt32) (f : StreamState → Cell → StreamState × Cell) :
    Speaks limit c (c.withStream id f) := by
  unfold withStream
  split
  · exact speaks_none rfl rfl
  · exact speaks_none rfl rfl

theorem speaks_takeHeaderBlock (c : Client) (pb : PendingHeaderBlock) (headers : List Header) :
    Speaks limit c (c.takeHeaderBlock pb headers) := by
  unfold takeHeaderBlock
  split
  · have received : Speaks limit c (c.receiveBlock pb.streamId headers pb.endStream) :=
      (c.speaks_record (.block pb.streamId headers pb.endStream) trivial).trans (speaks_withStream _ _ _)
    simp only []
    split
    · exact received.trans (speaks_retireIfFullyClosed _ _)
    · exact received
  · have promised (promised : UInt32) : Speaks limit c
        (if promised > c.highestPromised then { c with highestPromised := promised } else c) := by
      split <;> exact speaks_none rfl rfl
    exact (promised _).trans (speaks_sendFrame _ _ trivial)

theorem speaks_growHeaderBlock (c : Client) (pb : PendingHeaderBlock) (endHeaders : Bool) :
    Speaks limit c (c.growHeaderBlock pb endHeaders).1 := by
  simp only [growHeaderBlock]
  split
  · exact speaks_none rfl rfl
  · split
    · simp only [completeHeaderBlock]
      split
      · exact speaks_none rfl rfl
      next headers decoded =>
        have before : Speaks limit c { c with
            pendingHeaderBlock := none
            decoder := (c.decoder.decode pb.fragments.flatten).1 } := speaks_none rfl rfl
        exact before.trans (speaks_takeHeaderBlock _ pb headers)
    · exact speaks_none rfl rfl

theorem speaks_receiveDataFrame (c : Client) (id : UInt32) (bytes : Bytes) (endStream : Bool) :
    Speaks limit c (c.receiveDataFrame id bytes endStream) := by
  have recorded : Speaks limit c (c.record (.data id bytes endStream)) := c.speaks_record _ trivial
  unfold receiveDataFrame
  simp only []
  split
  · exact recorded.trans (speaks_withStream _ _ _)
  · split
    · exact recorded.trans (speaks_sendFrame _ _ trivial)
    · exact recorded

theorem speaks_receiveGoaway (c : Client) (lastStreamId errorCode : UInt32) :
    Speaks limit c (c.receiveGoaway lastStreamId errorCode) := by
  have failed (err : H2Error) : Speaks limit c
      ((({ c with goawayReceived := true }.record (.goaway lastStreamId)).failAbove lastStreamId
        err).wakeSlotWaiters) := by
    have noted : Speaks limit c ({ c with goawayReceived := true }.record (.goaway lastStreamId)) :=
      speaks_event (.goaway lastStreamId) rfl rfl trivial
    exact (noted.trans (speaks_removeAll _ _ err)).trans (speaks_none rfl rfl)
  unfold receiveGoaway
  simp only []
  split
  · exact (failed _).trans (speaks_destroy _ _)
  · exact failed _

theorem speaks_receiveWindowUpdate (c : Client) (id increment : UInt32) :
    Speaks limit c (c.receiveWindowUpdate id increment).1 := by
  unfold receiveWindowUpdate
  split
  · split
    · exact speaks_none rfl rfl
    · exact c.speaks_resetStream id .protocolError
  · split
    · exact speaks_event (.credit 0 increment) rfl rfl trivial
    · have credited : Speaks limit c (c.record (.credit id increment)) := c.speaks_record _ trivial
      simp only [creditStream]
      split
      · exact credited
      · exact credited.trans (speaks_none rfl rfl)

theorem speaks_dispatchFrame (c : Client) {frame : Frame} (announced : Announces limit (.frame frame)) :
    Speaks limit c (c.dispatchFrame frame).1 := by
  cases frame with
  | settings ack settings =>
      rw [dispatchFrame]
      cases ack with
      | true => exact speaks_none rfl rfl
      | false =>
          exact speaks_andThen (c.speaks_applyRemoteSettings announced) fun c =>
            c.speaks_sendFrame _ fun _ => rfl
  | headers id fragment endStream endHeaders priority => exact c.speaks_growHeaderBlock _ _
  | pushPromise id promised fragment endHeaders => exact c.speaks_growHeaderBlock _ _
  | continuation id fragment endHeaders =>
      rw [dispatchFrame]
      split
      · exact speaks_none rfl rfl
      · split
        · exact c.speaks_growHeaderBlock _ _
        · exact speaks_none rfl rfl
  | data id bytes endStream =>
      have received : Speaks limit c _ := c.speaks_receiveDataFrame id bytes endStream
      rw [dispatchFrame]
      simp only []
      split
      · exact received.trans (speaks_retireIfFullyClosed _ _)
      · exact received
  | rstStream id errorCode =>
      exact (c.speaks_record (.rst id) trivial).trans (speaks_removeAndFail _ _ _)
  | windowUpdate id increment => exact c.speaks_receiveWindowUpdate id increment
  | ping ack opaqueData =>
      simp only [dispatchFrame, receivePing]
      split
      · split <;> exact speaks_none rfl rfl
      · exact c.speaks_sendFrame _ trivial
  | goaway lastStreamId errorCode debugData => exact c.speaks_receiveGoaway lastStreamId errorCode
  | priority id priority => exact speaks_none rfl rfl

theorem speaks_onFrame (c : Client) {frame : Frame} (announced : Announces limit (.frame frame)) :
    Speaks limit c (c.onFrame frame) := by
  have dispatched : Speaks limit c (c.dispatch frame).1 := by
    unfold dispatch
    split
    · exact speaks_none rfl rfl
    · exact c.speaks_dispatchFrame announced
  unfold onFrame
  rcases result : c.dispatch frame with ⟨c', fault | done⟩
  · rw [result] at dispatched
    cases fault with
    | h2 err => exact dispatched.trans (speaks_farewell _ _ _ err)
    | panic => exact dispatched
  · rw [result] at dispatched
    exact dispatched

theorem sendable_continuationFrames {id : UInt32} {max fuel : Nat} {rest : Bytes} (bounded : max ≤ limit)
    {frame : Frame} (mem : frame ∈ continuationFrames id max fuel rest) : Sendable limit frame := by
  induction fuel generalizing rest with
  | zero => cases mem
  | succ fuel ih =>
      rw [continuationFrames] at mem
      split at mem
      · cases mem
      · rcases List.mem_cons.mp mem with rfl | mem
        · exact (List.length_take_le _ _).trans bounded
        · exact ih mem

theorem sendable_headerFrames (id : UInt32) {max : Nat} (bounded : max ≤ limit) (block : Bytes)
    (endStream : Bool) : ∀ frame ∈ headerFrames id max block endStream, Sendable limit frame := by
  intro frame mem
  unfold headerFrames at mem
  split at mem
  next short =>
    cases List.mem_singleton.mp mem
    exact ⟨short.trans bounded, rfl⟩
  next =>
    rcases List.mem_cons.mp mem with rfl | mem
    · exact ⟨(List.length_take_le _ _).trans bounded, rfl⟩
    · exact sendable_continuationFrames bounded mem

theorem speaks_openStream (c : Client) (i : Nat) (request : Request)
    (bounded : c.remote.maxFrameSize ≤ limit) : Speaks limit c (c.openStream i request) := by
  have inserted (c : Client) (s : StreamState) : Speaks limit c (c.insertStream s) := by
    unfold insertStream
    split <;> exact speaks_none rfl rfl
  have numbered : Speaks limit c { c with nextStreamId := c.nextStreamId + 2, opened := c.opened + 1 } :=
    speaks_none rfl rfl
  have registered : Speaks limit c (c.registerStream i request.body) :=
    (numbered.trans (inserted _ (c.newStream request.body))).trans
      (speaks_event (.opened c.nextStreamId) rfl rfl trivial)
  exact registered.trans
    (speaks_sendFrames _ (sendable_headerFrames _ (registered.bounded bounded) _ _))

theorem speaks_tryOpen (c : Client) (i : Nat) (request : Request)
    (bounded : c.remote.maxFrameSize ≤ limit) : Speaks limit c (c.tryOpen i request) := by
  unfold tryOpen
  split
  · exact speaks_none rfl rfl
  · split
    · exact c.speaks_openStream i request bounded
    · exact speaks_none rfl rfl

theorem speaks_pumpChunk (c : Client) (k : Nat) (chunk : Bytes) (offset : Nat) (rest : List Bytes)
    (bounded : c.remote.maxFrameSize ≤ limit) : Speaks limit c (c.pumpChunk k chunk offset rest) := by
  have set (c : Client) (pump : Pump) (parked : Bool) : Speaks limit c (c.setPump k pump parked) :=
    speaks_none rfl rfl
  unfold pumpChunk
  simp only []
  split
  · exact set c _ _
  next s found =>
    split
    · exact set c _ _
    · split
      · split
        · exact set c _ _
        · split
          · exact set c _ _
          · have short : ((chunk.drop offset).take
              (c.grant s (chunk.length - offset)).toNat).length ≤ limit := by
              have granted : c.grant s (chunk.length - offset) ≤ (c.remote.maxFrameSize : Int) :=
                min_le_right _ _
              have taken := List.length_take_le (c.grant s (chunk.length - offset)).toNat (chunk.drop offset)
              omega
            have sent : Speaks limit c (c.sendData (c.cells k).id
                ((chunk.drop offset).take (c.grant s (chunk.length - offset)).toNat)) :=
              (speaks_sendFrame _ (.data _ _ false) short).after rfl rfl
            exact sent.trans (set _ _ _)
      · have registered : Speaks limit c (c.registerWakers (c.cells k).id s k) := by
          simp only [registerWakers]
          split <;> split <;> exact speaks_none rfl rfl
        exact registered.trans (set _ _ _)

theorem speaks_pump (c : Client) (k : Nat) (bounded : c.remote.maxFrameSize ≤ limit) :
    Speaks limit c (c.pump k) := by
  unfold pump
  split
  · exact speaks_none rfl rfl
  · simp only [finishUpload]
    split
    · have ended : Speaks limit c (c.sendFrame (.data (c.cells k).id [] true)) :=
        c.speaks_sendFrame _ (Nat.zero_le limit)
      exact ended.trans ((speaks_retireIfFullyClosed _ _).after rfl rfl)
    · exact speaks_none rfl rfl
  · exact speaks_none rfl rfl
  · exact c.speaks_pumpChunk k _ _ _ bounded
  · exact speaks_none rfl rfl

/-- What a section sends is within the limit of the peer. -/
theorem speaks_step (c : Client) {a : Action} (announced : Announces limit a)
    (bounded : c.remote.maxFrameSize ≤ limit) : Speaks limit c (c.step a) := by
  cases a with
  | frame frame => exact c.speaks_onFrame announced
  | corrupt err => exact c.speaks_farewell _ _ err
  | transportClosed => exact c.speaks_destroy _
  | writeFailed => exact c.speaks_destroy _
  | request request =>
      have called : Speaks limit c { c with called := c.called + 1 } := speaks_none rfl rfl
      exact called.trans (speaks_tryOpen _ c.called request bounded)
  | pollCall i =>
      simp only [step, pollCall]
      split
      · split
        · exact speaks_none rfl rfl
        · exact c.speaks_tryOpen i _ bounded
      · split <;> exact speaks_none rfl rfl
      · exact speaks_none rfl rfl
  | dropCall i =>
      simp only [step, dropCall]
      split <;> exact speaks_none rfl rfl
  | pump k => exact c.speaks_pump k bounded
  | read k =>
      simp only [step, read]
      split
      · split
        · exact (speaks_replenishRecvWindow _ _ _).after rfl rfl
        · split
          · exact speaks_none rfl rfl
          · split <;> exact speaks_none rfl rfl
      · exact speaks_none rfl rfl
  | dropBody k =>
      simp only [step, dropBody]
      split
      · have released : Speaks limit c
          ((c.modifyCell k fun cell => { cell with holder := .gone }).replenishRecvWindow
            (c.cells k).id (c.cells k).recv.buffered) :=
          (speaks_replenishRecvWindow _ _ _).after rfl rfl
        split
        · exact released
        · exact released.trans (speaks_resetStream _ _ _)
      · exact speaks_none rfl rfl
  | ping =>
      simp only [step, ping]
      split
      · exact speaks_none rfl rfl
      · refine Speaks.trans ?_ (speaks_sendFrame _ _ trivial)
        cases c.pings.lookup (pingData (c.pingCounter + 1)) <;> exact speaks_none rfl rfl
  | close =>
      simp only [step, close]
      split
      · exact speaks_none rfl rfl
      · exact c.speaks_farewell _ _ _

/-! ## Runs -/

/-- The channel has the preface, and then what is allowed. -/
structure Outgoing (limit : Nat) (c : Client) : Prop where
  bounded : c.remote.maxFrameSize ≤ limit
  history : ∃ events, c.history = .preface CONNECTION_PREFACE :: events ∧ ∀ e ∈ events, Allowed limit e

theorem Outgoing.speaks (outgoing : Outgoing limit c) (speaks : Speaks limit c d) : Outgoing limit d := by
  obtain ⟨bounded, events, history, allowed⟩ := outgoing
  obtain ⟨stays, events', history', allowed'⟩ := speaks
  refine ⟨stays bounded, events ++ events', ?_, fun e mem => ?_⟩
  · rw [history', history, List.cons_append]
  · rcases List.mem_append.mp mem with mem | mem
    · exact allowed e mem
    · exact allowed' e mem

theorem outgoing_connect (large : 16384 ≤ limit) (options : ConnectOptions) :
    Outgoing limit (connect options) := by
  have began : Outgoing limit
      ((Client.fresh (options.headerTableSize.getD 4096)).record (.preface CONNECTION_PREFACE)) :=
    ⟨large, [], rfl, fun e mem => absurd mem List.not_mem_nil⟩
  have greeted := began.speaks (speaks_sendFrame _ (.settings false {
    headerTableSize := some (UInt32.ofNat (options.headerTableSize.getD 4096))
    enablePush := some (options.enablePush.getD true)
    initialWindowSize := some (options.initialWindowSize.getD (1024 * 1024))
    maxFrameSize := some
      (UInt32.ofNat (options.maxFrameSize.getD DEFAULT_MAX_FRAME_SIZE)) }) Bool.noConfusion)
  unfold connect
  simp only []
  split
  · exact greeted.speaks (speaks_sendFrame _ _ trivial)
  · exact greeted

/-- What was allowed is bytes of frames, and nothing else. -/
theorem outbound_allowed {events : List Event} (allowed : ∀ e ∈ events, Allowed limit e) :
    History.outbound events = (History.sentFrames events).flatMap serializeFrame := by
  induction events with
  | nil => rfl
  | cons e events ih =>
      have rest := ih fun other mem => allowed other (.tail _ mem)
      cases e with
      | preface bytes => exact (allowed _ (.head _)).elim
      | sent frame =>
          show (serializeFrame frame :: History.chunks events).flatten = _
          rw [List.flatten_cons]
          show serializeFrame frame ++ History.outbound events = _
          rw [rest]
          rfl
      | _ => exact rest

theorem sendable_sentFrames {events : List Event} (allowed : ∀ e ∈ events, Allowed limit e) :
    ∀ frame ∈ History.sentFrames events, Sendable limit frame := by
  intro frame mem
  obtain ⟨e, inside, framed⟩ := List.mem_filterMap.mp mem
  have ok := allowed e inside
  cases e with
  | sent sent =>
      cases framed
      exact ok
  | _ => cases framed

theorem written_after (options : ConnectOptions) (actions : List Action) {limit : Nat}
    (large : 16384 ≤ limit) (announced : ∀ a ∈ actions, Announces limit a) :
    let sent := (History.sentFrames (after options actions).history).map Frame.onWire
    History.outbound (after options actions).history = CONNECTION_PREFACE ++ sent.flatMap serializeFrame ∧
      ∀ frame ∈ sent, frame.WellFormed limit := by
  intro sent
  have outgoing : Outgoing limit (after options actions) :=
    Machine.run_invariant_along
      (fun c _ outgoing announced => outgoing.speaks (c.speaks_step announced outgoing.bounded))
      (outgoing_connect large options) (Machine.along_of_forall announced)
  obtain ⟨-, events, history, allowed⟩ := outgoing
  have frames : sent = (History.sentFrames events).map Frame.onWire := by
    show (History.sentFrames (after options actions).history).map Frame.onWire = _
    rw [history]
    rfl
  have masked : (History.sentFrames events).flatMap serializeFrame = sent.flatMap serializeFrame := by
    rw [frames, List.flatMap_map]
    exact List.flatMap_congr fun frame _ => (serializeFrame_onWire frame).symm
  refine ⟨?_, fun frame mem => ?_⟩
  · rw [history, ← masked, ← outbound_allowed allowed]
    rfl
  · rw [frames] at mem
    obtain ⟨plain, inside, rfl⟩ := List.mem_map.mp mem
    exact (sendable_sentFrames allowed plain inside).wellFormed large

/-- In every run, a peer that allows frames up to `limit` reads the preface, and then the frames that were
sent, and is left with nothing. -/
theorem outbound_after (options : ConnectOptions) (actions : List Action) {limit : Nat}
    (large : 16384 ≤ limit) (small : limit ≤ 2 ^ 24 - 1) (announced : ∀ a ∈ actions, Announces limit a) :
    ∃ bytes, History.outbound (after options actions).history = CONNECTION_PREFACE ++ bytes ∧
      ∀ chunks, chunks.flatten = bytes → (FrameDecoder.new limit).pushAll chunks =
        (.new limit, .ok ((History.sentFrames (after options actions).history).map Frame.onWire)) := by
  obtain ⟨written, formed⟩ := written_after options actions large announced
  refine ⟨_, written, fun chunks cut => ?_⟩
  rw [FrameDecoder.pushAll_new, cut, drain_serializeFrame small formed]
  rfl

/-- A ping to a peer that allows frames of 20000 bytes. -/
theorem outbound_after_ping :
    ∃ bytes, History.outbound
        (after {} [.frame (.settings false { maxFrameSize := some 20000 }), .ping]).history =
          CONNECTION_PREFACE ++ bytes ∧
      ∀ chunks, chunks.flatten = bytes → (FrameDecoder.new 20000).pushAll chunks =
        (.new 20000, .ok ((History.sentFrames
          (after {} [.frame (.settings false { maxFrameSize := some 20000 }), .ping]).history).map
            Frame.onWire)) := by
  refine outbound_after {} _ (by decide) (by decide) fun a mem => ?_
  rcases List.mem_cons.mp mem with rfl | mem
  · intro size same _
    cases same
    decide
  · rw [List.mem_singleton.mp mem]
    exact trivial

end Client

end H2ts
