import H2ts.Connection.HeaderBlocks
import H2ts.Connection.WellFormed

/-!
# Isolation of streams

What inbound frames do to one stream can be told from little more than the stream
(`Side`): its entry in the map, its cells, the header context and the initial
window.  `Side.next` is the receive side of a connection with one stream, and
DATA, RST_STREAM and WINDOW_UPDATE of other streams are nothing to it.  A client
refines it, for each of its streams (`side_onFrame`), because a stream in the map
shares its cells with no other.

So the caller of a stream sees the same with and without the frames of other
streams (`isolated_after`).
-/

namespace H2ts

open Hpack

/-- The cells, but for the wakers of the upload. -/
def Cell.steady (x : Cell) : Cell := { x with parked := false }

/-- The part of a client that one stream has to do with. -/
structure Side where
  decoder : HpackDecoder
  pending : Option PendingHeaderBlock
  initialWindow : Int
  stream : Option StreamState
  cell : Cell
  calls : Nat → Call
  closeError : Option H2Error

/-- The side of the stream with this id and these cells. -/
def Client.side (c : Client) (id : UInt32) (k : Nat) : Side where
  decoder := c.decoder
  pending := c.pendingHeaderBlock
  initialWindow := c.remote.initialWindowSize
  stream := c.streams.lookup id
  cell := (c.cells k).steady
  calls := c.calls
  closeError := c.closeError

/-! ## The receive side of one stream -/

/-- A header block for the stream. -/
def StreamState.takeHeaders (headers : List Header) (endStream : Bool) (s : StreamState)
    (cell : Cell) : StreamState × Cell :=
  ((s.receiveHeaders cell headers endStream).1.closeRemote endStream,
    (s.receiveHeaders cell headers endStream).2)

/-- A DATA frame for the stream. -/
def StreamState.takeData (data : Bytes) (endStream : Bool) (s : StreamState) (cell : Cell) :
    StreamState × Cell :=
  ((s.receiveData cell data endStream).1.closeRemote endStream,
    (s.receiveData cell data endStream).2)

namespace Side

def withStream (v : Side) (f : StreamState → Cell → StreamState × Cell) : Side :=
  match v.stream with
  | none => v
  | some s => { v with stream := some (f s v.cell).1, cell := (f s v.cell).2 }

/-- The stream fails and leaves the map. -/
def remove (v : Side) (err : H2Error) : Side :=
  match v.stream with
  | none => v
  | some s => { v with
      stream := none
      cell := (s.fail v.cell err).1.drop (s.fail v.cell err).2 }

def retire (v : Side) : Side :=
  match v.stream with
  | none => v
  | some s =>
      if s.localClosed && s.remoteClosed then { v with stream := none, cell := s.drop v.cell } else v

def credit (v : Side) (n : UInt32) : Side :=
  { v with stream := v.stream.map fun s =>
      { s with sendWindow := (s.sendWindow.update n.toNat).1 } }

def adjust (v : Side) (initial : Int) : Side :=
  { v with
    initialWindow := initial
    stream := v.stream.map fun s =>
      { s with sendWindow := (s.sendWindow.adjust (initial - v.initialWindow)).1 } }

/-- A decoded block: a response of this stream, or nothing to it. -/
def takeBlock (v : Side) (id : UInt32) (pb : PendingHeaderBlock) (headers : List Header) : Side :=
  if pb.kind = .response ∧ pb.streamId = id then
    let v := v.withStream (StreamState.takeHeaders headers pb.endStream)
    if pb.endStream then v.retire else v
  else v

/-- A header block has grown. -/
def growBlock (v : Side) (id : UInt32) (pb : PendingHeaderBlock) (endHeaders : Bool) : Side :=
  if endHeaders then
    let decoded := v.decoder.decode pb.fragments.flatten
    let v := { v with pending := none, decoder := decoded.1 }
    match decoded.2 with
    | .error _ => v
    | .ok headers => v.takeBlock id pb headers
  else { v with pending := some pb }

/-- A frame that is not an error. -/
def next (id : UInt32) (v : Side) : Frame → Side
  | .settings ack settings =>
      if ack then v
      else
        match settings.initialWindowSize with
        | none => v
        | some iw => v.adjust iw.toNat
  | .headers id' fragment endStream endHeaders _ =>
      v.growBlock id ⟨id', .response, endStream, none, [fragment], fragment.length⟩ endHeaders
  | .continuation _ fragment endHeaders =>
      match v.pending with
      | none => v
      | some pb => v.growBlock id { pb with
          size := pb.size + fragment.length
          fragments := pb.fragments ++ [fragment] } endHeaders
  | .pushPromise id' promised fragment endHeaders =>
      v.growBlock id ⟨id', .push, false, some promised, [fragment], fragment.length⟩ endHeaders
  | .data id' data endStream =>
      if id' = id then
        let v := v.withStream (StreamState.takeData data endStream)
        if endStream then v.retire else v
      else v
  | .rstStream id' errorCode =>
      if id' = id then
        v.remove (H2Error.stream ((ErrorCode.fromValue errorCode).getD .protocolError)
          ("stream " ++ toString id.toNat ++ " reset by peer") id)
      else v
  | .windowUpdate id' increment =>
      if id' = id then
        if increment = 0 then
          v.remove (H2Error.stream .protocolError ("stream " ++ toString id.toNat ++ " reset") id)
        else v.credit increment
      else v
  | _ => v

end Side

/-- Frames do not touch the calls. -/
theorem Side.calls_next (id : UInt32) (v : Side) (frame : Frame) :
    (v.next id frame).calls = v.calls := by
  have within (v : Side) (f : StreamState → Cell → StreamState × Cell) :
      (v.withStream f).calls = v.calls := by
    unfold Side.withStream
    split <;> rfl
  have removed (v : Side) (err : H2Error) : (v.remove err).calls = v.calls := by
    unfold Side.remove
    split <;> rfl
  have retired (v : Side) : v.retire.calls = v.calls := by
    unfold Side.retire
    split
    · rfl
    · split <;> rfl
  have taken (v : Side) (pb : PendingHeaderBlock) (headers : List Header) :
      (v.takeBlock id pb headers).calls = v.calls := by
    unfold Side.takeBlock
    split
    · simp only []
      split
      · rw [retired, within]
      · rw [within]
    · rfl
  have grown (pb : PendingHeaderBlock) (endHeaders : Bool) :
      (v.growBlock id pb endHeaders).calls = v.calls := by
    unfold Side.growBlock
    split
    · simp only []
      split
      · rfl
      · exact taken _ _ _
    · rfl
  cases frame with
  | settings ack settings =>
      rw [Side.next]
      split
      · rfl
      · split <;> rfl
  | headers => exact grown _ _
  | pushPromise => exact grown _ _
  | continuation id' fragment endHeaders =>
      rw [Side.next]
      split
      · rfl
      · exact grown _ _
  | data id' data endStream =>
      rw [Side.next]
      split
      · simp only []
        split
        · rw [retired, within]
        · rw [within]
      · rfl
  | rstStream id' errorCode =>
      rw [Side.next]
      split
      · exact removed _ _
      · rfl
  | windowUpdate id' increment =>
      rw [Side.next]
      split
      · split
        · exact removed _ _
        · rfl
      · rfl
  | _ => rfl

/-- A frame that another stream gets. -/
def Frame.isElsewhere (id : UInt32) : Frame → Bool
  | .data id' _ _ => id' ≠ 0 && id' ≠ id
  | .rstStream id' _ => id' ≠ 0 && id' ≠ id
  | .windowUpdate id' _ => id' ≠ 0 && id' ≠ id
  | _ => false

/-- The frames of other streams are nothing to a stream. -/
theorem Side.next_elsewhere {id : UInt32} (v : Side) {frame : Frame}
    (elsewhere : frame.isElsewhere id = true) : v.next id frame = v := by
  cases frame with
  | data id' data endStream =>
      have ne : id' ≠ id := by simpa [Frame.isElsewhere] using (Bool.and_eq_true_iff.mp elsewhere).2
      simp [Side.next, ne]
  | rstStream id' errorCode =>
      have ne : id' ≠ id := by simpa [Frame.isElsewhere] using (Bool.and_eq_true_iff.mp elsewhere).2
      simp [Side.next, ne]
  | windowUpdate id' increment =>
      have ne : id' ≠ id := by simpa [Frame.isElsewhere] using (Bool.and_eq_true_iff.mp elsewhere).2
      simp [Side.next, ne]
  | _ => cases elsewhere

namespace Client

/-! ## Updates of this stream and of others -/

variable {id : UInt32} {k : Nat}

/-- The stream of the id in the map is that of the cells, and no other stream has
them. -/
def Owns (c : Client) (id : UInt32) (k : Nat) : Prop :=
  ∀ id' s, c.streams.lookup id' = some s → (s.cell = k ↔ id' = id)

@[simp] theorem side_record (c : Client) (e : Event) : (c.record e).side id k = c.side id k := rfl

@[simp] theorem side_wakeSlotWaiters (c : Client) :
    c.wakeSlotWaiters.side id k = c.side id k := rfl

@[simp] theorem side_wakePumps (c : Client) (wakers : List Nat) :
    (c.wakePumps wakers).side id k = c.side id k := by
  have cell : (if k ∈ wakers then { c.cells k with parked := false } else c.cells k).steady =
      (c.cells k).steady := by
    split <;> rfl
  simp only [side, wakePumps, cell]

@[simp] theorem side_sendFrame (c : Client) (frame : Frame) :
    (c.sendFrame frame).side id k = c.side id k := by
  unfold sendFrame
  split <;> rfl

/-- A method of a stream does not look at the wakers of its upload. -/
def Steady (f : StreamState → Cell → StreamState × Cell) : Prop :=
  ∀ s x, f s x.steady = ((f s x).1, (f s x).2.steady)

theorem steady_takeHeaders (headers : List Header) (endStream : Bool) :
    Steady (StreamState.takeHeaders headers endStream) := by
  intro s x
  unfold StreamState.takeHeaders StreamState.receiveHeaders StreamState.sendHead
  cases endStream <;> cases s.gotHead <;> cases s.headTx <;> cases isInterim headers <;> rfl

theorem steady_takeData (data : Bytes) (endStream : Bool) :
    Steady (StreamState.takeData data endStream) :=
  fun _ _ => rfl

theorem steady_drop (s : StreamState) (x : Cell) : s.drop x.steady = (s.drop x).steady := by
  unfold StreamState.drop
  split <;> rfl

theorem steady_fail (s : StreamState) (x : Cell) (err : H2Error) :
    (s.fail x.steady err).1.drop (s.fail x.steady err).2 =
      ((s.fail x err).1.drop (s.fail x err).2).steady := by
  obtain ⟨id, window, headTx, k, gotHead, localClosed, remoteClosed⟩ := s
  cases gotHead <;> cases headTx <;> rfl

theorem steady_wake (k : Nat) (wakers : List Nat) (x : Cell) :
    (if k ∈ wakers then { x with parked := false } else x).steady = x.steady := by
  split <;> rfl

theorem side_withStream {c : Client} (owns : c.Owns id k)
    {f : StreamState → Cell → StreamState × Cell} (steady : Steady f) :
    (c.withStream id f).side id k = (c.side id k).withStream f := by
  unfold withStream Side.withStream
  cases found : c.streams.lookup id with
  | none => simp only [side, found]
  | some s =>
      obtain rfl := (owns id s found).mpr rfl
      have same := steady s (c.cells s.cell)
      simp only [side, modifyStream, modifyCell, KeyMap.lookup_modify, found, Option.map_some,
        Function.update_self, same]

theorem side_withStream_ne {c : Client} (owns : c.Owns id k) {id' : UInt32} (ne : id' ≠ id)
    (f : StreamState → Cell → StreamState × Cell) :
    (c.withStream id' f).side id k = c.side id k := by
  unfold withStream
  cases found : c.streams.lookup id' with
  | none => rfl
  | some s =>
      have other : k ≠ s.cell := fun same => ne ((owns id' s found).mp same.symm)
      simp only [side, modifyStream, modifyCell, KeyMap.lookup_modify_ne ne.symm,
        Function.update_of_ne other]

theorem side_removeAndFail {c : Client} (owns : c.Owns id k) (err : H2Error) :
    (c.removeAndFail id err).side id k = (c.side id k).remove err := by
  unfold removeAndFail Side.remove
  cases found : c.streams.lookup id with
  | none => simp only [side, found]
  | some s =>
      obtain rfl := (owns id s found).mpr rfl
      simp only [side, modifyCell, record, wakePumps, found, AList.lookup_erase, cell_fail,
        Function.update_self, ← steady_fail, steady_wake]

theorem side_removeAndFail_ne {c : Client} (owns : c.Owns id k) {id' : UInt32} (ne : id' ≠ id)
    (err : H2Error) : (c.removeAndFail id' err).side id k = c.side id k := by
  unfold removeAndFail
  cases found : c.streams.lookup id' with
  | none => rfl
  | some s =>
      have other : k ≠ s.cell := fun same => ne ((owns id' s found).mp same.symm)
      simp only [side, modifyCell, record, wakePumps, AList.lookup_erase_ne ne.symm, cell_fail,
        Function.update_of_ne other, steady_wake]

theorem side_retireIfFullyClosed {c : Client} (owns : c.Owns id k) :
    (c.retireIfFullyClosed id).side id k = (c.side id k).retire := by
  unfold retireIfFullyClosed Side.retire
  cases found : c.streams.lookup id with
  | none => simp only [side, found]
  | some s =>
      obtain rfl := (owns id s found).mpr rfl
      have stream : (c.side id s.cell).stream = some s := found
      simp only [stream]
      split
      · simp only [side, wakeSlotWaiters, record, modifyCell, AList.lookup_erase,
          Function.update_self, steady_drop]
      · rfl

theorem side_retireIfFullyClosed_ne {c : Client} (owns : c.Owns id k) {id' : UInt32}
    (ne : id' ≠ id) : (c.retireIfFullyClosed id').side id k = c.side id k := by
  unfold retireIfFullyClosed
  cases found : c.streams.lookup id' with
  | none => rfl
  | some s =>
      have other : k ≠ s.cell := fun same => ne ((owns id' s found).mp same.symm)
      simp only []
      split
      · simp only [side, wakeSlotWaiters, record, modifyCell, AList.lookup_erase_ne ne.symm,
          Function.update_of_ne other]
      · rfl

theorem owns_withStream {c : Client} (owns : c.Owns id k) (id' : UInt32)
    {f : StreamState → Cell → StreamState × Cell} (cell : ∀ s x, (f s x).1.cell = s.cell) :
    (c.withStream id' f).Owns id k := by
  unfold withStream
  cases found : c.streams.lookup id' with
  | none => exact owns
  | some s =>
      intro id'' s' present
      by_cases same : id'' = id'
      · subst same
        simp only [modifyCell, modifyStream, KeyMap.lookup_modify, found, Option.map_some,
          Option.some.injEq] at present
        rw [← present, cell]
        exact owns id'' s found
      · simp only [modifyCell, modifyStream, KeyMap.lookup_modify_ne same] at present
        exact owns id'' s' present

theorem cell_takeHeaders (headers : List Header) (endStream : Bool) (s : StreamState) (x : Cell) :
    (s.takeHeaders headers endStream x).1.cell = s.cell := by
  unfold StreamState.takeHeaders StreamState.receiveHeaders StreamState.sendHead
  cases s.gotHead <;> cases isInterim headers <;> rfl

/-! ## Frames -/

theorem side_takeHeaderBlock {c : Client} (owns : c.Owns id k) (pb : PendingHeaderBlock)
    (headers : List Header) :
    (c.takeHeaderBlock pb headers).side id k = (c.side id k).takeBlock id pb headers := by
  unfold takeHeaderBlock Side.takeBlock
  cases kind : pb.kind with
  | push =>
      simp only [reduceCtorEq, false_and, if_false, refusePush, side_sendFrame]
      split <;> rfl
  | response =>
      have owns' : (c.receiveBlock pb.streamId headers pb.endStream).Owns id k :=
        owns_withStream (c := c.record _) owns pb.streamId (cell_takeHeaders headers pb.endStream)
      by_cases same : pb.streamId = id
      · have received : (c.receiveBlock pb.streamId headers pb.endStream).side id k =
            (c.side id k).withStream (StreamState.takeHeaders headers pb.endStream) := by
          rw [same]
          exact side_withStream (c := c.record _) owns (steady_takeHeaders headers pb.endStream)
        simp only [same, and_self, if_true]
        rw [same] at received owns'
        split
        · rw [side_retireIfFullyClosed owns', received]
        · exact received
      · have received : (c.receiveBlock pb.streamId headers pb.endStream).side id k = c.side id k :=
          side_withStream_ne (c := c.record _) owns same _
        simp only [same, and_false, if_false]
        split
        · rw [side_retireIfFullyClosed_ne owns' same, received]
        · exact received

theorem side_growHeaderBlock {c : Client} (owns : c.Owns id k) (pb : PendingHeaderBlock)
    (endHeaders : Bool) (accepted : (c.growHeaderBlock pb endHeaders).2 = .ok ()) :
    (c.growHeaderBlock pb endHeaders).1.side id k = (c.side id k).growBlock id pb endHeaders := by
  simp only [growHeaderBlock, guardHeaderBlockSize] at accepted ⊢
  by_cases long : pb.size > MAX_HEADER_BLOCK_SIZE
  · simp only [long, if_true] at accepted
    cases accepted
  · simp only [long, if_false] at accepted ⊢
    cases endHeaders with
    | false => rfl
    | true =>
        simp only [if_true, completeHeaderBlock, Side.growBlock] at accepted ⊢
        have decoder : (c.side id k).decoder = c.decoder := rfl
        rw [decoder]
        cases (c.decoder.decode pb.fragments.flatten).2 with
        | error fault => rfl
        | ok headers =>
            exact side_takeHeaderBlock
              (c := { c with pendingHeaderBlock := none, decoder := _ }) owns pb headers

theorem side_creditStream {c : Client} (n : UInt32) :
    (c.creditStream id n).side id k = (c.side id k).credit n := by
  unfold creditStream Side.credit
  cases found : c.streams.lookup id with
  | none =>
      have missing : (c.record (.credit id n)).streams.lookup id = none := found
      simp only [missing, side_record]
      simp only [side, found, Option.map_none]
  | some s =>
      have present : (c.record (.credit id n)).streams.lookup id = some s := found
      simp only [present, side_wakePumps]
      simp only [side, modifyStream, record, KeyMap.lookup_modify, found, Option.map_some]

theorem side_creditStream_ne (c : Client) {id' : UInt32} (ne : id' ≠ id) (n : UInt32) :
    (c.creditStream id' n).side id k = c.side id k := by
  unfold creditStream
  simp only []
  split
  · rfl
  · simp only [side_wakePumps]
    simp only [side, modifyStream, record, KeyMap.lookup_modify_ne ne.symm]

theorem side_adjustWindows (c : Client) (initial : Int) :
    (c.adjustWindows initial).side id k = (c.side id k).adjust initial := by
  unfold adjustWindows
  rw [side_wakePumps]
  simp only [side, Side.adjust, KeyMap.lookup_mapWithKey]

/-- Of the settings only the initial window matters. -/
theorem side_applyRemoteSettings (c : Client) (s : Settings)
    (accepted : (c.applyRemoteSettings s).2 = .ok ()) :
    (c.applyRemoteSettings s).1.side id k =
      match s.initialWindowSize with
      | none => c.side id k
      | some iw => (c.side id k).adjust iw.toNat := by
  have others (c : Client) : (c.applyOtherSettings s).side id k = c.side id k := by
    unfold applyOtherSettings
    split <;> rfl
  have size (c : Client) : (c.applyMaxFrameSize s.maxFrameSize).1.side id k = c.side id k := by
    unfold applyMaxFrameSize
    split
    · rfl
    · split <;> rfl
  have rest (c : Client) : (Outcome.andThen (c.applyMaxFrameSize s.maxFrameSize)
      fun c => (c.applyOtherSettings s, .ok ())).1.side id k = c.side id k := by
    have same := size c
    rcases result : c.applyMaxFrameSize s.maxFrameSize with ⟨c', fault | done⟩
    · rw [result] at same
      exact same
    · rw [result] at same
      exact (others c').trans same
  unfold applyRemoteSettings applyInitialWindowSize at accepted ⊢
  cases given : s.initialWindowSize with
  | none => exact rest c
  | some iw =>
      rw [given] at accepted
      by_cases large : iw > 0x7fffffff
      · simp only [large, if_true] at accepted
        cases accepted
      · simp only [large, if_false]
        rw [← side_adjustWindows]
        exact rest _

theorem side_receiveDataFrame {c : Client} (owns : c.Owns id k) (data : Bytes)
    (endStream : Bool) :
    (c.receiveDataFrame id data endStream).side id k =
      (c.side id k).withStream (StreamState.takeData data endStream) := by
  unfold receiveDataFrame
  simp only []
  split
  next mem => exact side_withStream (c := c.record _) owns (steady_takeData data endStream)
  next missing =>
    have none : (c.side id k).stream = none := AList.lookup_eq_none.mpr missing
    have still : (c.side id k).withStream (StreamState.takeData data endStream) = c.side id k := by
      simp only [Side.withStream, none]
    rw [still]
    split <;> simp

theorem side_receiveDataFrame_ne {c : Client} (owns : c.Owns id k) {id' : UInt32} (ne : id' ≠ id)
    (data : Bytes) (endStream : Bool) :
    (c.receiveDataFrame id' data endStream).side id k = c.side id k := by
  unfold receiveDataFrame
  simp only []
  split
  · exact side_withStream_ne (c := c.record _) owns ne _
  · split <;> simp

theorem owns_sendFrame {c : Client} (owns : c.Owns id k) (frame : Frame) :
    (c.sendFrame frame).Owns id k := by
  unfold sendFrame
  split <;> exact owns

theorem owns_receiveDataFrame {c : Client} (owns : c.Owns id k) (id' : UInt32) (data : Bytes)
    (endStream : Bool) : (c.receiveDataFrame id' data endStream).Owns id k := by
  unfold receiveDataFrame
  simp only []
  split
  · exact owns_withStream (c := c.record _) owns id' fun _ _ => rfl
  · split
    · exact owns_sendFrame (c := c.record _) owns _
    · exact owns

theorem side_resetStream {c : Client} (owns : c.Owns id k) (code : ErrorCode) :
    (c.resetStream id code).side id k = (c.side id k).remove
      (H2Error.stream code ("stream " ++ toString id.toNat ++ " reset") id) := by
  have sent : ((c.sendFrame (.rstStream id code.value)).record (.reset id)).Owns id k :=
    owns_sendFrame owns _
  rw [resetStream, side_wakeSlotWaiters, side_removeAndFail sent, side_record, side_sendFrame]

theorem side_resetStream_ne {c : Client} (owns : c.Owns id k) {id' : UInt32} (ne : id' ≠ id)
    (code : ErrorCode) : (c.resetStream id' code).side id k = c.side id k := by
  have sent : ((c.sendFrame (.rstStream id' code.value)).record (.reset id')).Owns id k :=
    owns_sendFrame owns _
  rw [resetStream, side_wakeSlotWaiters, side_removeAndFail_ne sent ne, side_record, side_sendFrame]

theorem side_receiveWindowUpdate {c : Client} (owns : c.Owns id k) (nonzero : id ≠ 0)
    (id' increment : UInt32) :
    (c.receiveWindowUpdate id' increment).1.side id k =
      (c.side id k).next id (.windowUpdate id' increment) := by
  unfold receiveWindowUpdate Side.next
  by_cases same : id' = id
  · subst same
    by_cases zero : increment = 0
    · simp only [zero, nonzero, if_true, if_false]
      exact side_resetStream owns _
    · simp only [zero, nonzero, if_true, if_false]
      exact side_creditStream increment
  · simp only [same, if_false]
    split
    · split
      · rfl
      · exact side_resetStream_ne owns same _
    · split
      · exact side_wakePumps _ _
      · exact side_creditStream_ne c same increment

/-- A frame that is neither an error nor a GOAWAY does to a stream what it does to
the stream alone. -/
theorem side_dispatchFrame {c : Client} (owns : c.Owns id k) (nonzero : id ≠ 0) (frame : Frame)
    (staying : ∀ lastStreamId errorCode debugData, frame ≠ .goaway lastStreamId errorCode debugData)
    (accepted : (c.dispatchFrame frame).2 = .ok ()) :
    (c.dispatchFrame frame).1.side id k = (c.side id k).next id frame := by
  cases frame with
  | settings ack settings =>
      simp only [dispatchFrame, Side.next] at accepted ⊢
      split
      · rfl
      · rcases result : c.applyRemoteSettings settings with ⟨c', fault | done⟩
        · simp only [*] at accepted
          cases accepted
        · have applied : (c.applyRemoteSettings settings).1.side id k = _ :=
            c.side_applyRemoteSettings settings (by rw [result])
          rw [result] at applied
          exact (c'.side_sendFrame _).trans applied
  | headers id' fragment endStream endHeaders priority =>
      exact side_growHeaderBlock owns _ endHeaders accepted
  | pushPromise id' promised fragment endHeaders =>
      exact side_growHeaderBlock owns _ endHeaders accepted
  | continuation id' fragment endHeaders =>
      simp only [dispatchFrame, Side.next] at accepted ⊢
      have pending : (c.side id k).pending = c.pendingHeaderBlock := rfl
      rw [pending]
      cases waiting : c.pendingHeaderBlock with
      | none => rfl
      | some pb =>
          rw [waiting] at accepted
          by_cases same : pb.streamId = id'
          · simp only [same, if_true] at accepted ⊢
            exact side_growHeaderBlock owns _ endHeaders accepted
          · simp only [same, if_false] at accepted
            cases accepted
  | data id' data endStream =>
      have owns' := owns_receiveDataFrame owns id' data endStream
      simp only [dispatchFrame, Side.next]
      by_cases same : id' = id
      · subst same
        simp only [if_true]
        split
        · rw [side_retireIfFullyClosed owns', side_receiveDataFrame owns]
        · exact side_receiveDataFrame owns data endStream
      · simp only [same, if_false]
        split
        · rw [side_retireIfFullyClosed_ne owns' same, side_receiveDataFrame_ne owns same]
        · exact side_receiveDataFrame_ne owns same data endStream
  | rstStream id' errorCode =>
      simp only [dispatchFrame, Side.next, receiveReset]
      by_cases same : id' = id
      · subst same
        rw [if_pos rfl]
        exact side_removeAndFail (c := c.record _) owns _
      · rw [if_neg same]
        exact side_removeAndFail_ne (c := c.record _) owns same _
  | windowUpdate id' increment => exact side_receiveWindowUpdate owns nonzero id' increment
  | ping ack opaqueData =>
      simp only [dispatchFrame, Side.next, receivePing]
      split
      · split <;> rfl
      · simp
  | goaway lastStreamId errorCode debugData => exact absurd rfl (staying _ _ _)
  | priority => rfl

theorem side_onFrame {c : Client} (owns : c.Owns id k) (nonzero : id ≠ 0) {frame : Frame}
    (staying : ∀ lastStreamId errorCode debugData, frame ≠ .goaway lastStreamId errorCode debugData)
    (accepted : (c.dispatch frame).2 = .ok ()) :
    (c.onFrame frame).side id k = (c.side id k).next id frame := by
  have same : c.onFrame frame = (c.dispatch frame).1 := by
    unfold onFrame
    rcases result : c.dispatch frame with ⟨c', fault | done⟩
    · rw [result] at accepted
      cases accepted
    · rfl
  rw [same]
  unfold dispatch at accepted ⊢
  split at accepted
  · cases accepted
  · rw [if_neg (by assumption)]
    exact side_dispatchFrame owns nonzero frame staying accepted

/-! ## The caller -/

end Client

/-- The cells after a poll of the body. -/
def Cell.polled (x : Cell) : Cell :=
  if x.holder = .reading then
    match x.recv.queue with
    | chunk :: queue => { x with
        recv := { x.recv with queue := queue, buffered := x.recv.buffered - chunk.length }
        yields := x.yields ++ [.chunk chunk] }
    | [] =>
        match x.recv.error with
        | some err => { x with
            recv := { x.recv with error := none }, yields := x.yields ++ [.failed err] }
        | none =>
            if x.recv.ended then { x with yields := x.yields ++ [.done] }
            else { x with recv := { x.recv with waker := true } }
  else x

theorem Cell.steady_polled (x : Cell) : x.polled.steady = x.steady.polled := by
  obtain ⟨id, ⟨queue, buffered, ended, error, waker⟩, trailers, head, pump, parked, holder, body, yields⟩ := x
  unfold Cell.polled Cell.steady
  simp only []
  split
  · cases queue with
    | nil =>
        cases error with
        | none => cases ended <;> rfl
        | some err => rfl
    | cons chunk queue => rfl
  · rfl

namespace Side

/-- A poll of the body. -/
def read (v : Side) : Side := { v with cell := v.cell.polled }

/-- The call ends. -/
def settle (v : Side) (i : Nat) (call : Call) (holder : Holder) : Side :=
  { v with calls := Function.update v.calls i call, cell := { v.cell with holder := holder } }

/-- A poll of the call. -/
def poll (v : Side) (i k : Nat) : Side :=
  match v.calls i with
  | .awaiting _ =>
      match v.cell.head with
      | .empty => v
      | .sent (.ok head) => v.settle i (.responded head k) .reading
      | .sent (.error err) => v.settle i (.refused err) .gone
      | .canceled => v.settle i (.refused (v.closeError.getD Client.connectionClosed)) .gone
  | _ => v

end Side

namespace Client

variable {id : UInt32} {k i : Nat}

@[simp] theorem side_replenishRecvWindow (c : Client) (id' : UInt32) (n : Nat) :
    (c.replenishRecvWindow id' n).side id k = c.side id k := by
  unfold replenishRecvWindow
  split
  · rfl
  · simp only [side_sendFrame]
    split <;> simp

theorem side_modifyCell (c : Client) (f : Cell → Cell) :
    (c.modifyCell k f).side id k = { c.side id k with cell := (f (c.cells k)).steady } := by
  simp [side, modifyCell]

theorem side_read (c : Client) : (c.read k).side id k = (c.side id k).read := by
  have polled : (c.read k).side id k = { c.side id k with cell := (c.cells k).polled.steady } := by
    simp only [read, Cell.polled]
    by_cases reading : (c.cells k).holder = .reading
    · rw [if_pos reading, if_pos reading]
      cases queued : (c.cells k).recv.queue with
      | cons chunk queue => rw [side_replenishRecvWindow, yieldTo, side_modifyCell]
      | nil =>
          cases failed : (c.cells k).recv.error with
          | some err => exact c.side_modifyCell _
          | none =>
              cases ended : (c.cells k).recv.ended with
              | true =>
                  simp only [if_true]
                  exact c.side_modifyCell _
              | false =>
                  simp only [Bool.false_eq_true, if_false]
                  exact c.side_modifyCell _
    · rw [if_neg reading, if_neg reading]
      rfl
  rw [polled, Cell.steady_polled]
  rfl

/-- The call waits for the head of these cells, or waits no more. -/
def Awaits (k : Nat) : Call → Prop
  | .parked _ => False
  | .awaiting j => j = k
  | _ => True

theorem side_settle (c : Client) (call : Call) (holder : Holder) :
    (c.settle i k call holder).side id k = (c.side id k).settle i call holder := by
  simp [side, settle, Side.settle, modifyCell, Cell.steady]

theorem side_pollCall {c : Client} (own : Awaits k (c.calls i)) :
    (c.pollCall i).side id k = (c.side id k).poll i k := by
  unfold pollCall Side.poll
  have calls : (c.side id k).calls = c.calls := rfl
  have head : (c.side id k).cell.head = (c.cells k).head := rfl
  rw [calls]
  cases call : c.calls i with
  | parked request =>
      rw [call] at own
      cases own
  | awaiting j =>
      rw [call] at own
      obtain rfl : j = k := own
      simp only [head]
      cases (c.cells j).head with
      | empty => rfl
      | canceled => exact c.side_settle _ _
      | sent result =>
          cases result with
          | ok head => exact c.side_settle _ _
          | error err => exact c.side_settle _ _
  | _ => rfl

/-! ## Runs -/

/-- The steps of a run: frames that are neither errors nor GOAWAYs, and polls of the
body and of the call. -/
def Heeds (i k : Nat) (c : Client) : Action → Prop
  | .frame frame => (c.dispatch frame).2 = .ok () ∧
      ∀ lastStreamId errorCode debugData, frame ≠ .goaway lastStreamId errorCode debugData
  | .read j => j = k
  | .pollCall j => j = i
  | _ => False

/-- The step is not a frame of another stream. -/
def concerns (id : UInt32) : Action → Bool
  | .frame frame => !frame.isElsewhere id
  | _ => true

/-- A client whose `k`-th stream is the latest with its id, and whose call `i` is
that of the stream. -/
structure Ready (i k : Nat) (c : Client) : Prop where
  sound : c.Sealed
  wf : WellFormed c.view
  latest : c.view.Latest k
  awaits : Awaits k (c.calls i)

namespace Ready

variable {c : Client}

theorem owns (ready : Ready i k c) : c.Owns (idOf k) k := by
  intro id' s found
  obtain ⟨opened, named, -⟩ := ready.wf.mapped id' s.view (view_streams found)
  have mine : (c.view.cells k).id = idOf k := ready.wf.ids k ready.latest.1
  constructor
  · intro same
    have cell : s.view.cell = k := same
    rw [← named, cell, mine]
  · intro same
    refine ready.wf.cell_eq ready.latest (s := s.view) ?_
    rw [mine, ← same]
    exact view_streams found

theorem side_frame (ready : Ready i k c) {frame : Frame} (heeds : Heeds i k c (.frame frame)) :
    (c.step (.frame frame)).side (idOf k) k = (c.side (idOf k) k).next (idOf k) frame :=
  side_onFrame ready.owns (idOf_ne_zero k) heeds.2 heeds.1

/-- Such steps open no stream. -/
theorem opened_step (ready : Ready i k c) {a : Action} (heeds : Heeds i k c a) :
    (c.step a).opened = c.opened := by
  cases a with
  | frame frame => exact opened_quiets (c.quiets_onFrame frame)
  | read j =>
      have quiets : Quiets (fun _ => False) c.view (c.read j).view := c.quiets_read j
      exact opened_quiets quiets
  | pollCall j =>
      obtain rfl : j = i := heeds
      have awaits := ready.awaits
      rw [step, pollCall]
      cases call : c.calls j with
      | parked request =>
          rw [call] at awaits
          cases awaits
      | awaiting j' =>
          simp only []
          split <;> rfl
      | _ => rfl
  | _ => cases heeds

theorem awaits_step (ready : Ready i k c) {a : Action} (heeds : Heeds i k c a) :
    Awaits k ((c.step a).calls i) := by
  cases a with
  | frame frame =>
      have same := congrArg Side.calls (ready.side_frame heeds)
      rw [Side.calls_next] at same
      have calls : (c.step (.frame frame)).calls = c.calls := same
      rw [calls]
      exact ready.awaits
  | read j =>
      obtain rfl : j = k := heeds
      have side : (c.read j).side 0 j = (c.side 0 j).read := c.side_read
      have calls : (c.step (.read j)).calls = c.calls := congrArg Side.calls side
      rw [calls]
      exact ready.awaits
  | pollCall j =>
      obtain rfl : j = i := heeds
      have side : (c.pollCall j).side 0 k = (c.side 0 k).poll j k := side_pollCall ready.awaits
      have calls : (c.step (.pollCall j)).calls = ((c.side 0 k).poll j k).calls :=
        congrArg Side.calls side
      have awaits : Awaits k ((c.side 0 k).calls j) := ready.awaits
      rw [calls, Side.poll]
      cases call : (c.side 0 k).calls j with
      | awaiting j' =>
          simp only []
          split
          · exact awaits
          all_goals simp [Side.settle, Awaits]
      | _ =>
          simp only []
          exact awaits
  | _ => cases heeds

theorem step (ready : Ready i k c) {a : Action} (heeds : Heeds i k c a) :
    Ready i k (c.step a) := by
  have wf := wellFormed_step ready.sound a ready.wf
  exact ⟨c.sealed_step a ready.sound, wf,
    (ready.wf.latest_iff wf (ready.opened_step heeds)).mpr ready.latest, ready.awaits_step heeds⟩

end Ready

/-- Clients that are alike to a stream stay alike, when one of them gets the frames
of other streams and the other does not. -/
theorem side_run {c c' : Client} (ready : Ready i k c) (ready' : Ready i k c')
    (same : c.side (idOf k) k = c'.side (idOf k) k) {script : List Action}
    (heeds : Machine.Along step (Heeds i k) c script) :
    (Machine.run step c script).side (idOf k) k =
      (Machine.run step c' (script.filter (concerns (idOf k)))).side (idOf k) k := by
  induction script generalizing c c' with
  | nil => exact same
  | cons a script ih =>
      obtain ⟨now, later⟩ := heeds
      have context : c.headerContext = c'.headerContext :=
        congrArg (fun v : Side => (v.decoder, v.pending)) same
      rw [List.filter_cons]
      cases a with
      | frame frame =>
          have forward := ready.side_frame now
          cases elsewhere : frame.isElsewhere (idOf k) with
          | true =>
              have skipped : concerns (idOf k) (.frame frame) = false := by
                rw [concerns, elsewhere]
                rfl
              rw [Side.next_elsewhere _ elsewhere] at forward
              rw [skipped]
              exact ih (ready.step now) ready' (forward.trans same) later
          | false =>
              have kept : concerns (idOf k) (.frame frame) = true := by
                rw [concerns, elsewhere]
                rfl
              have accepted : (c'.dispatch frame).2 = .ok () :=
                (headerContext_dispatch context frame).2.symm.trans now.1
              have now' : Heeds i k c' (.frame frame) := ⟨accepted, now.2⟩
              rw [kept, if_pos rfl]
              refine ih (ready.step now) (ready'.step now') ?_ later
              rw [forward, ready'.side_frame now', same]
      | read j =>
          have now' : Heeds i k c' (.read j) := now
          obtain rfl : j = k := now
          refine ih (ready.step rfl) (ready'.step now') ?_ later
          change (c.read j).side _ j = (c'.read j).side _ j
          rw [side_read, side_read, same]
      | pollCall j =>
          have now' : Heeds i k c' (.pollCall j) := now
          obtain rfl : j = i := now
          refine ih (ready.step rfl) (ready'.step now') ?_ later
          change (c.pollCall j).side _ k = (c'.pollCall j).side _ k
          rw [side_pollCall ready.awaits, side_pollCall ready'.awaits, same]
      | _ => cases now

/-! ## A graceful GOAWAY -/

theorem owns_removeAndFail {c : Client} (owns : c.Owns id k) (id' : UInt32) (err : H2Error) :
    (c.removeAndFail id' err).Owns id k := by
  unfold removeAndFail
  split
  · exact owns
  · intro id'' s present
    by_cases same : id'' = id'
    · subst same
      have none : (c.streams.erase id'').lookup id'' = some s := present
      rw [AList.lookup_erase] at none
      cases none
    · have kept : (c.streams.erase id').lookup id'' = some s := present
      rw [AList.lookup_erase_ne same] at kept
      exact owns id'' s kept

theorem side_removeAll {c : Client} (owns : c.Owns id k) {ids : List UInt32} (others : id ∉ ids)
    (err : H2Error) :
    (ids.foldl (fun c id => c.removeAndFail id err) c).side id k = c.side id k := by
  induction ids generalizing c with
  | nil => rfl
  | cons id' ids ih =>
      have ne : id' ≠ id := fun same => others (same ▸ .head _)
      rw [List.foldl_cons, ih (owns_removeAndFail owns id' err) fun mem => others (.tail _ mem),
        side_removeAndFail_ne owns ne]

/-- A GOAWAY without an error is nothing to the streams it covers. -/
theorem side_receiveGoaway {c : Client} (owns : c.Owns id k) {lastStreamId : UInt32}
    (served : id ≤ lastStreamId) :
    (c.receiveGoaway lastStreamId 0).side id k = c.side id k := by
  have others : id ∉ c.streams.keys.filter (lastStreamId < ·) := by
    intro mem
    have above : lastStreamId < id := by simpa using (List.mem_filter.mp mem).2
    exact absurd served (UInt32.not_le.mpr above)
  unfold receiveGoaway
  simp only [ne_eq, not_true_eq_false, if_false, side_wakeSlotWaiters]
  exact side_removeAll
    (c := { c with goawayReceived := true }.record (.goaway lastStreamId)) owns others _

/-- The caller of an open stream sees the same whether or not the peer also sends
DATA, RST_STREAM and WINDOW_UPDATE frames on other streams: the same head, the same
chunks, the same end or error and the same trailers.  And a GOAWAY without an error
leaves the streams it covers as they are. -/
theorem isolated_after (options : ConnectOptions) (actions : List Action) (id : UInt32)
    (s : StreamState) (i : Nat)
    (found : (Client.after options actions).streams.lookup id = some s)
    (own : Awaits s.cell ((Client.after options actions).calls i)) :
    let c := Client.after options actions
    (∀ script, Machine.Along step (Heeds i s.cell) c script →
      let seen := Machine.run step c script
      let alone := Machine.run step c (script.filter (concerns id))
      (seen.cells s.cell).steady = (alone.cells s.cell).steady ∧ seen.calls i = alone.calls i) ∧
    ∀ lastStreamId debugData, id ≤ lastStreamId → c.pendingHeaderBlock = none →
      let later := c.onFrame (.goaway lastStreamId 0 debugData)
      later.streams.lookup id = some s ∧
        (later.cells s.cell).steady = (c.cells s.cell).steady := by
  intro c
  have wf := wellFormed_after options actions
  obtain ⟨opened, named, -⟩ := wf.mapped id s.view (view_streams found)
  have latest : c.view.Latest s.cell := by
    refine ⟨opened, fun j later below => ?_⟩
    rw [show (c.view.cells s.cell).id = id from named]
    exact wf.current id s.view (view_streams found) j later below
  have ready : Ready i s.cell c := ⟨sealed_after options actions, wf, latest, own⟩
  obtain rfl : idOf s.cell = id := (wf.ids s.cell opened).symm.trans named
  refine ⟨fun script heeds => ?_, fun lastStreamId debugData served idle => ?_⟩
  · have same := side_run ready ready rfl heeds
    exact ⟨congrArg Side.cell same, congrFun (congrArg Side.calls same) i⟩
  · have same : (c.onFrame (.goaway lastStreamId 0 debugData)).side (idOf s.cell) s.cell =
        c.side (idOf s.cell) s.cell := by
      have dispatched : c.onFrame (.goaway lastStreamId 0 debugData) =
          c.receiveGoaway lastStreamId 0 := by
        simp only [onFrame, dispatch, idle, Option.isSome_none, Bool.false_and, Bool.false_eq_true,
          if_false, dispatchFrame]
      rw [dispatched]
      exact side_receiveGoaway ready.owns served
    exact ⟨(congrArg Side.stream same).trans found, congrArg Side.cell same⟩

/-- Two requests. -/
def twoStreams : List Action := [.request (.bare .empty), .request (.bare .empty)]

/-- A response on the first stream, with frames of the second between. -/
def mixedFrames : List Action :=
  [.frame (.data 3 [1] false), .frame (.headers 1 [0x88] false true none), .pollCall 0,
    .frame (.data 1 [7] false), .frame (.rstStream 3 8), .read 0, .frame (.data 1 [8] true), .read 0]

theorem isolated_twoStreams :
    (((Machine.run step (Client.after {} twoStreams) mixedFrames).cells 0).steady =
      ((Machine.run step (Client.after {} twoStreams)
        (mixedFrames.filter (concerns 1))).cells 0).steady) ∧
      ((Machine.run step (Client.after {} twoStreams) mixedFrames).cells 0).yields =
        [.chunk [7], .chunk [8]] := by
  have found : (Client.after {} twoStreams).streams.lookup 1 =
      some ⟨1, .new 65535, true, 0, false, true, false⟩ := by decide +kernel
  have own : (Client.after {} twoStreams).calls 0 = .awaiting 0 := by decide +kernel
  have heeds : Machine.Along step (Heeds 0 0) (Client.after {} twoStreams) mixedFrames := by
    refine ⟨⟨?_, nofun⟩, ⟨?_, nofun⟩, rfl, ⟨?_, nofun⟩, ⟨?_, nofun⟩, rfl, ⟨?_, nofun⟩, rfl, trivial⟩
    all_goals decide +kernel
  exact ⟨((isolated_after {} twoStreams 1 _ 0 found (by rw [own]; rfl)).1 mixedFrames heeds).1,
    by decide +kernel⟩

end Client

end H2ts
