import H2ts.Connection.Client

/-!
# Stream slots

Which requests are admitted depends on six fields of the client only (`Slots`):
the ids in the map, the parked calls, the limit of the peer and three flags.  For
each function there is one lemma that says what it does to them.

Two invariants follow.  `Sealed`: a closed connection has no stream left, and an
open one still has its outbound channel.  `Fair`: requests are parked only while
no slot is free.  Every step keeps `Sealed`.  One step breaks `Fair`: a
RST_STREAM takes a stream out of the map and wakes nobody (`fair_after`).
-/

namespace H2ts

/-- The fields admission depends on. -/
structure Slots where
  ids : List UInt32
  waiters : List Nat
  limit : UInt32
  closed : Bool
  goaway : Bool
  outTx : Bool

namespace Slots

/-- Client-initiated streams among the ids. -/
def active (ids : List UInt32) : Nat := ids.countP fun id => id.toNat % 2 == 1

/-- Nobody is parked any more. -/
def woken (s : Slots) : Slots := { s with waiters := [] }

/-- The slots without an id. -/
def without (s : Slots) (id : UInt32) : Slots := { s with ids := s.ids.erase id }

end Slots

namespace Client

open Slots

def slots (c : Client) : Slots :=
  ⟨c.streams.keys, c.slotWaiters, c.remote.maxConcurrentStreams, c.closed, c.goawayReceived, c.outTx⟩

theorem activeStreams_eq (c : Client) : c.activeStreams = active c.slots.ids := rfl

/-! ## What the functions do to the slots -/

@[simp] theorem slots_record (c : Client) (e : Event) : (c.record e).slots = c.slots := rfl

@[simp] theorem slots_modifyCell (c : Client) (k : Nat) (f : Cell → Cell) :
    (c.modifyCell k f).slots = c.slots := rfl

@[simp] theorem slots_wakePumps (c : Client) (wakers : List Nat) :
    (c.wakePumps wakers).slots = c.slots := rfl

@[simp] theorem slots_modifyStream (c : Client) (id : UInt32) (f : StreamState → StreamState) :
    (c.modifyStream id f).slots = c.slots := by
  simp [slots, modifyStream]

@[simp] theorem slots_sendFrame (c : Client) (frame : Frame) :
    (c.sendFrame frame).slots = c.slots := by
  unfold sendFrame
  split <;> rfl

@[simp] theorem slots_foldl_sendFrame (c : Client) (frames : List Frame) :
    (frames.foldl sendFrame c).slots = c.slots := by
  induction frames generalizing c with
  | nil => rfl
  | cons frame frames ih => rw [List.foldl_cons, ih, slots_sendFrame]

@[simp] theorem slots_wakeSlotWaiters (c : Client) : c.wakeSlotWaiters.slots = c.slots.woken := rfl

@[simp] theorem slots_withStream (c : Client) (id : UInt32)
    (f : StreamState → Cell → StreamState × Cell) : (c.withStream id f).slots = c.slots := by
  unfold withStream
  split <;> simp

theorem erase_of_lookup_none {c : Client} {id : UInt32} (missing : c.streams.lookup id = none) :
    c.slots.ids.erase id = c.slots.ids :=
  List.erase_of_not_mem (AList.lookup_eq_none.mp missing)

@[simp] theorem slots_removeAndFail (c : Client) (id : UInt32) (err : H2Error) :
    (c.removeAndFail id err).slots = c.slots.without id := by
  unfold removeAndFail
  split
  next missing => rw [without, erase_of_lookup_none missing]
  next s found => simp [slots, without, record, modifyCell, wakePumps]

@[simp] theorem slots_resetStream (c : Client) (id : UInt32) (code : ErrorCode) :
    (c.resetStream id code).slots = (c.slots.without id).woken := by
  simp [resetStream]

/-- A stream is retired with a wake-up, or not at all. -/
theorem slots_retireIfFullyClosed (c : Client) (id : UInt32) :
    (c.retireIfFullyClosed id).slots = c.slots ∨
      (c.retireIfFullyClosed id).slots = (c.slots.without id).woken := by
  unfold retireIfFullyClosed
  split
  · exact .inl rfl
  · split
    · right
      simp only [slots_wakeSlotWaiters, slots_record, slots_modifyCell]
      simp [slots, without]
    · exact .inl rfl

@[simp] theorem slots_replenishRecvWindow (c : Client) (id : UInt32) (n : Nat) :
    (c.replenishRecvWindow id n).slots = c.slots := by
  unfold replenishRecvWindow
  split
  · rfl
  · simp only [slots_sendFrame]
    split <;> simp

theorem slots_foldl_removeAndFail (c : Client) (ids : List UInt32) (err : H2Error) :
    (ids.foldl (fun c id => c.removeAndFail id err) c).slots =
      { c.slots with ids := c.slots.ids.diff ids } := by
  induction ids generalizing c with
  | nil => rfl
  | cons id ids ih =>
      rw [List.foldl_cons, ih, slots_removeAndFail, List.diff_cons]
      rfl

@[simp] theorem slots_shutDown (c : Client) (err : H2Error) :
    (c.shutDown err).slots = { c.slots with closed := true } := rfl

theorem diff_self (ids : List UInt32) : ids.diff ids = [] := by
  induction ids with
  | nil => rfl
  | cons id ids ih => rw [List.diff_cons, List.erase_cons_head, ih]

/-- Teardown leaves nothing. -/
theorem slots_destroy (c : Client) (err : H2Error) :
    (c.destroy err).slots =
      if c.closed then c.slots else ⟨[], [], c.slots.limit, true, c.slots.goaway, false⟩ := by
  unfold destroy
  split
  · rfl
  · have removed := slots_foldl_removeAndFail (c.shutDown err) (c.shutDown err).streams.keys err
    have none : (c.shutDown err).slots.ids.diff (c.shutDown err).streams.keys = [] :=
      diff_self _
    rw [none, slots_shutDown] at removed
    have fields := Slots.mk.inj removed
    simp only [slots, failPings, wakeSlotWaiters, Slots.mk.injEq]
    exact ⟨fields.1, trivial, fields.2.2.1, fields.2.2.2.1, fields.2.2.2.2.1, trivial⟩

end Client

/-! ## What a step can do to the slots -/

namespace Slots

/-- The moves that wake everybody they ought to. -/
inductive Move : Slots → Slots → Prop
  | remove (s : Slots) (id : UInt32) : Move s (s.without id).woken
  | limit (s : Slots) (n : UInt32) : Move s { s with limit := n }.woken
  | goaway (s : Slots) (doomed : List UInt32) :
      Move s { s with ids := s.ids.diff doomed, goaway := true }.woken
  | destroy (s : Slots) : Move s ⟨[], [], s.limit, true, s.goaway, false⟩
  | park {s : Slots} (i : Nat) (live : s.closed = false) (staying : s.goaway = false)
      (full : s.limit.toNat ≤ active s.ids) : Move s { s with waiters := s.waiters ++ [i] }
  | tryOpen {s : Slots} (id : UInt32) (live : s.closed = false) (staying : s.goaway = false)
      (free : active s.ids < s.limit.toNat) : Move s { s with ids := id :: s.ids.erase id }

/-- Any number of moves. -/
abbrev Moves : Slots → Slots → Prop := Relation.ReflTransGen Move

end Slots

namespace Client

open Slots

theorem moves_of_eq {s t : Slots} (same : t = s) : Moves s t := same ▸ .refl

theorem moves_retireIfFullyClosed (c : Client) (id : UInt32) :
    Moves c.slots (c.retireIfFullyClosed id).slots := by
  rcases c.slots_retireIfFullyClosed id with same | retired
  · exact moves_of_eq same
  · rw [retired]
    exact .single (.remove _ id)

theorem moves_destroy (c : Client) (err : H2Error) : Moves c.slots (c.destroy err).slots := by
  rw [slots_destroy]
  split
  · exact .refl
  · exact .single (.destroy _)

theorem moves_connectionError (c : Client) (err : H2Error) :
    Moves c.slots (c.connectionError err).slots := by
  have moves := (c.sendFrame (.goaway c.highestPromised err.code.value [])).moves_destroy err
  rwa [slots_sendFrame] at moves

theorem moves_andThen {s : Slots} {o : Outcome} {next : Client → Outcome}
    (first : Moves s o.1.slots) (later : ∀ c, Moves c.slots (next c).1.slots) :
    Moves s (o.andThen next).1.slots := by
  obtain ⟨c, fault | done⟩ := o
  · exact first
  · exact first.trans (later c)

theorem moves_applyOtherSettings (c : Client) (s : Settings) :
    Moves c.slots (c.applyOtherSettings s).slots := by
  unfold applyOtherSettings
  cases s.maxConcurrentStreams with
  | none => exact .refl
  | some mcs => exact .single (.limit _ mcs)

theorem moves_applyRemoteSettings (c : Client) (s : Settings) :
    Moves c.slots (c.applyRemoteSettings s).1.slots := by
  refine moves_andThen ?_ fun c => moves_andThen ?_ fun c => c.moves_applyOtherSettings s
  · cases s.initialWindowSize with
    | none => exact .refl
    | some iw =>
        rw [applyInitialWindowSize]
        split
        · exact .refl
        · exact moves_of_eq (by simp [adjustWindows, slots, wakePumps])
  · cases s.maxFrameSize with
    | none => exact .refl
    | some mfs =>
        rw [applyMaxFrameSize]
        split <;> exact .refl

theorem slots_receiveBlock (c : Client) (id : UInt32) (headers : List Hpack.Header)
    (endStream : Bool) : (c.receiveBlock id headers endStream).slots = c.slots := by
  simp [receiveBlock]

theorem slots_refusePush (c : Client) (promised : UInt32) :
    (c.refusePush promised).slots = c.slots := by
  simp only [refusePush, slots_sendFrame]
  split <;> rfl

theorem moves_takeHeaderBlock (c : Client) (pb : PendingHeaderBlock)
    (headers : List Hpack.Header) : Moves c.slots (c.takeHeaderBlock pb headers).slots := by
  unfold takeHeaderBlock
  cases pb.kind with
  | push => exact moves_of_eq (slots_refusePush _ _)
  | response =>
      have received := moves_of_eq (c.slots_receiveBlock pb.streamId headers pb.endStream)
      simp only []
      split
      · exact received.trans (moves_retireIfFullyClosed _ _)
      · exact received

theorem moves_completeHeaderBlock (c : Client) : Moves c.slots c.completeHeaderBlock.1.slots := by
  unfold completeHeaderBlock
  split
  · exact .refl
  · next pb _ =>
    simp only []
    split
    · exact .refl
    · exact moves_takeHeaderBlock { c with pendingHeaderBlock := none, decoder := _ } pb _

theorem moves_growHeaderBlock (c : Client) (pb : PendingHeaderBlock) (endHeaders : Bool) :
    Moves c.slots (c.growHeaderBlock pb endHeaders).1.slots := by
  unfold growHeaderBlock
  simp only []
  split
  · exact .refl
  · split
    · exact moves_completeHeaderBlock { c with pendingHeaderBlock := some pb }
    · exact .refl

theorem slots_receiveDataFrame (c : Client) (id : UInt32) (data : Bytes) (endStream : Bool) :
    (c.receiveDataFrame id data endStream).slots = c.slots := by
  unfold receiveDataFrame
  simp only []
  split
  · simp
  · split <;> simp

theorem moves_receiveGoaway (c : Client) (lastStreamId errorCode : UInt32) :
    Moves c.slots (c.receiveGoaway lastStreamId errorCode).slots := by
  unfold receiveGoaway
  have away (err : H2Error) :
      (({ c with goawayReceived := true }.record (.goaway lastStreamId)).failAbove
        lastStreamId err).wakeSlotWaiters.slots =
        { c.slots with
          ids := c.slots.ids.diff (c.streams.keys.filter (lastStreamId < ·))
          goaway := true }.woken := by
    rw [slots_wakeSlotWaiters, failAbove, slots_foldl_removeAndFail]
    rfl
  have moved (err : H2Error) := Relation.ReflTransGen.single (away err ▸ Move.goaway c.slots _)
  simp only []
  split
  · exact (moved _).trans (moves_destroy _ _)
  · exact moved _

theorem slots_receivePing (c : Client) (ack : Bool) (opaqueData : OpaqueData) :
    (c.receivePing ack opaqueData).slots = c.slots := by
  unfold receivePing
  split
  · split <;> rfl
  · simp

theorem moves_receiveWindowUpdate (c : Client) (id increment : UInt32) :
    Moves c.slots (c.receiveWindowUpdate id increment).1.slots := by
  unfold receiveWindowUpdate
  split
  · split
    · exact .refl
    · rw [slots_resetStream]
      exact .single (.remove _ id)
  · split
    · exact .refl
    · refine moves_of_eq ?_
      simp only [creditStream]
      split
      · rfl
      · simp

theorem moves_dispatchFrame (c : Client) {frame : Frame}
    (notReset : ∀ id errorCode, frame ≠ .rstStream id errorCode) :
    Moves c.slots (c.dispatchFrame frame).1.slots := by
  cases frame with
  | settings ack settings =>
      rw [dispatchFrame]
      split
      · exact .refl
      · exact moves_andThen (c.moves_applyRemoteSettings settings) fun c => moves_of_eq (by simp)
  | headers => exact moves_growHeaderBlock _ _ _
  | continuation =>
      rw [dispatchFrame]
      split
      · exact .refl
      · split
        · exact moves_growHeaderBlock _ _ _
        · exact .refl
  | pushPromise => exact moves_growHeaderBlock _ _ _
  | data id data endStream =>
      rw [dispatchFrame]
      simp only []
      split
      · have moves := (c.receiveDataFrame id data endStream).moves_retireIfFullyClosed id
        rwa [slots_receiveDataFrame] at moves
      · exact moves_of_eq (c.slots_receiveDataFrame id data endStream)
  | rstStream id errorCode => exact absurd rfl (notReset id errorCode)
  | windowUpdate id increment => exact c.moves_receiveWindowUpdate id increment
  | ping ack opaqueData => exact moves_of_eq (c.slots_receivePing ack opaqueData)
  | goaway lastStreamId errorCode => exact c.moves_receiveGoaway lastStreamId errorCode
  | priority => exact .refl

/-- The dispatch of a frame: moves, unless it is a RST_STREAM. -/
theorem moves_dispatch (c : Client) (frame : Frame) :
    Moves c.slots (c.dispatch frame).1.slots ∨
      ∃ id errorCode, frame = .rstStream id errorCode ∧ c.pendingHeaderBlock = none ∧
        c.dispatch frame = (c.receiveReset id errorCode, .ok ()) := by
  unfold dispatch
  by_cases rejected : c.pendingHeaderBlock.isSome && !isContinuation frame
  · rw [if_pos rejected]
    exact .inl .refl
  · rw [if_neg rejected]
    by_cases reset : ∃ id errorCode, frame = .rstStream id errorCode
    · obtain ⟨id, errorCode, rfl⟩ := reset
      refine .inr ⟨id, errorCode, rfl, ?_, rfl⟩
      simpa [isContinuation] using rejected
    · exact .inl (c.moves_dispatchFrame fun id errorCode same => reset ⟨id, errorCode, same⟩)

theorem slots_insertStream (c : Client) (s : StreamState) :
    (c.insertStream s).slots = { c.slots with ids := s.id :: c.slots.ids.erase s.id } := by
  unfold insertStream
  split <;> simp [slots, modifyCell]

theorem slots_registerStream (c : Client) (i : Nat) (body : RequestBody) :
    (c.registerStream i body).slots =
      { c.slots with ids := c.nextStreamId :: c.slots.ids.erase c.nextStreamId } :=
  slots_insertStream _ (c.newStream body)

theorem slots_openStream (c : Client) (i : Nat) (request : Request) :
    (c.openStream i request).slots =
      { c.slots with ids := c.nextStreamId :: c.slots.ids.erase c.nextStreamId } := by
  rw [openStream, sendHeaders, slots_foldl_sendFrame, slots_registerStream]

theorem available_of_unavailable {c : Client} (available : c.unavailable = none) :
    c.closed = false ∧ c.goawayReceived = false := by
  unfold unavailable at available
  cases closed : c.closed with
  | true => simp [closed] at available
  | false =>
      cases goaway : c.goawayReceived with
      | true => simp [closed, goaway] at available
      | false => exact ⟨rfl, rfl⟩

/-- Admission refuses, opens a stream or parks. -/
theorem moves_tryOpen (c : Client) (i : Nat) (request : Request) :
    Moves c.slots (c.tryOpen i request).slots := by
  unfold tryOpen
  cases refusal : c.unavailable with
  | some err => exact .refl
  | none =>
      obtain ⟨live, staying⟩ := available_of_unavailable refusal
      by_cases free : c.canOpenStream
      · simp only [free, if_true]
        rw [slots_openStream]
        exact .single (.tryOpen _ live staying (of_decide_eq_true free))
      · simp only [free]
        exact .single (.park i live staying
          (Nat.le_of_not_lt fun less => free (decide_eq_true less)))

@[simp] theorem slots_setPump (c : Client) (k : Nat) (pump : Pump) (parked : Bool) :
    (c.setPump k pump parked).slots = c.slots := rfl

@[simp] theorem slots_sendData (c : Client) (id : UInt32) (data : Bytes) :
    (c.sendData id data).slots = c.slots := by
  simp only [sendData, slots_sendFrame, slots_modifyStream]
  rfl

@[simp] theorem slots_registerWakers (c : Client) (id : UInt32) (s : StreamState) (k : Nat) :
    (c.registerWakers id s k).slots = c.slots := by
  unfold registerWakers
  simp only []
  split
  · split <;> rfl
  · rw [slots_modifyStream]
    split <;> rfl

theorem slots_pumpChunk (c : Client) (k : Nat) (chunk : Bytes) (offset : Nat) (rest : List Bytes) :
    (c.pumpChunk k chunk offset rest).slots = c.slots := by
  unfold pumpChunk
  simp only []
  split
  · rfl
  · split
    · rfl
    · split
      · split
        · rfl
        · split
          · rfl
          · simp
      · simp

theorem moves_pump (c : Client) (k : Nat) : Moves c.slots (c.pump k).slots := by
  unfold pump
  split
  · exact .refl
  · unfold finishUpload
    simp only []
    split
    · refine .trans (moves_of_eq ?_) (moves_retireIfFullyClosed _ _)
      simp
    · exact .refl
  · exact .refl
  · exact moves_of_eq (slots_pumpChunk _ _ _ _ _)
  · exact .refl

theorem moves_read (c : Client) (k : Nat) : Moves c.slots (c.read k).slots := by
  refine moves_of_eq ?_
  unfold read
  simp only []
  split
  · split
    · simp [yieldTo]
    · split
      · simp [yieldTo]
      · split <;> simp [yieldTo]
  · rfl

theorem moves_dropBody (c : Client) (k : Nat) : Moves c.slots (c.dropBody k).slots := by
  unfold dropBody
  simp only []
  split
  · split
    · exact moves_of_eq (by simp)
    · rw [slots_resetStream, slots_replenishRecvWindow, slots_modifyCell]
      exact .single (.remove _ _)
  · exact .refl

theorem moves_ping (c : Client) : Moves c.slots c.ping.slots := by
  refine moves_of_eq ?_
  unfold ping
  simp only []
  split
  · rfl
  · rw [slots_sendFrame]
    split <;> rfl

/-- A step: moves, unless it dispatches a RST_STREAM. -/
theorem moves_step (c : Client) (a : Action) :
    Moves c.slots (c.step a).slots ∨
      ∃ id errorCode, a = .frame (.rstStream id errorCode) ∧ c.pendingHeaderBlock = none ∧
        (c.step a).slots = c.slots.without id := by
  cases a with
  | frame frame =>
      rw [step, onFrame]
      rcases c.moves_dispatch frame with moves | ⟨id, errorCode, rfl, pending, dispatched⟩
      · left
        rcases dispatched : c.dispatch frame with ⟨c', fault | done⟩
        · rw [dispatched] at moves
          cases fault with
          | h2 err => exact moves.trans (moves_connectionError _ err)
          | panic => exact moves
        · rwa [dispatched] at moves
      · right
        refine ⟨id, errorCode, rfl, pending, ?_⟩
        rw [dispatched, receiveReset]
        exact slots_removeAndFail _ _ _
  | corrupt err => exact .inl (c.moves_connectionError err)
  | transportClosed => exact .inl (c.moves_destroy _)
  | writeFailed => exact .inl (c.moves_destroy _)
  | request request => exact .inl (moves_tryOpen { c with called := c.called + 1 } _ request)
  | pollCall i =>
      left
      rw [step, pollCall]
      split
      · split
        · exact .refl
        · exact c.moves_tryOpen i _
      · split <;> exact .refl
      · exact .refl
  | dropCall i =>
      left
      rw [step, dropCall]
      split <;> exact .refl
  | pump k => exact .inl (c.moves_pump k)
  | read k => exact .inl (c.moves_read k)
  | dropBody k => exact .inl (c.moves_dropBody k)
  | ping => exact .inl c.moves_ping
  | close =>
      left
      rw [step, close]
      split
      · exact .refl
      · have moves := (c.sendFrame (.goaway c.highestPromised 0 [])).moves_destroy
          (.new .noError "connection closed by client")
        rwa [slots_sendFrame] at moves

end Client

/-! ## A closed connection has no streams -/

/-- A closed connection has no stream left, and an open one its channel. -/
structure Slots.Sealed (s : Slots) : Prop where
  empty : s.closed = true → s.ids = []
  outTx : s.closed = false → s.outTx = true

theorem Slots.Move.keeps_sealed {s t : Slots} (move : Move s t) (sound : s.Sealed) : t.Sealed := by
  obtain ⟨empty, outTx⟩ := sound
  cases move with
  | remove id =>
      refine ⟨fun closed => ?_, outTx⟩
      rw [woken, without, empty closed]
      rfl
  | limit n => exact ⟨empty, outTx⟩
  | goaway doomed =>
      refine ⟨fun closed => ?_, outTx⟩
      rw [woken, empty closed, List.nil_diff]
  | destroy => exact ⟨fun _ => rfl, fun isOpen => Bool.noConfusion isOpen⟩
  | park i live => exact ⟨fun closed => Bool.noConfusion (live.symm.trans closed), outTx⟩
  | tryOpen id live => exact ⟨fun closed => Bool.noConfusion (live.symm.trans closed), outTx⟩

namespace Client

open Slots

def Sealed (c : Client) : Prop := c.slots.Sealed

theorem Moves.keeps_sealed {s t : Slots} (moves : Moves s t) (sound : s.Sealed) : t.Sealed := by
  induction moves with
  | refl => exact sound
  | tail _ move ih => exact move.keeps_sealed ih

theorem sealed_step (c : Client) (a : Action) (sound : c.Sealed) : (c.step a).Sealed := by
  rcases c.moves_step a with moves | ⟨id, errorCode, -, -, removed⟩
  · exact Moves.keeps_sealed moves sound
  · refine ⟨fun closed => ?_, fun isOpen => ?_⟩
    · rw [removed] at closed ⊢
      rw [without, sound.empty closed]
      rfl
    · rw [removed] at isOpen ⊢
      exact sound.outTx isOpen

theorem slots_connect (options : ConnectOptions) :
    (connect options).slots = ⟨[], [], 0xffffffff, false, false, true⟩ := by
  simp only [connect]
  split
  · simp only [slots_sendFrame, slots_record]
    rfl
  · simp only [slots_sendFrame, slots_record]
    rfl

theorem sealed_connect (options : ConnectOptions) : (connect options).Sealed := by
  rw [Sealed, slots_connect]
  exact ⟨fun closed => Bool.noConfusion closed, fun _ => rfl⟩

theorem sealed_after (options : ConnectOptions) (actions : List Action) :
    (Client.after options actions).Sealed :=
  Machine.run_invariant sealed_step (sealed_connect options) actions

/-! ## Parked requests -/

/-- Requests are parked only while no slot is free. -/
def Fair (c : Client) : Prop :=
  c.slotWaiters ≠ [] →
    c.closed = false ∧ c.goawayReceived = false ∧
      c.remote.maxConcurrentStreams.toNat ≤ c.activeStreams

/-- The step takes a stream away by a RST_STREAM while requests are parked, and
that frees a slot. -/
def Strands (c : Client) (a : Action) : Prop :=
  ∃ id errorCode, a = .frame (.rstStream id errorCode) ∧ c.pendingHeaderBlock = none ∧
    id ∈ c.streams ∧ id.toNat % 2 = 1 ∧ c.slotWaiters ≠ [] ∧
    c.activeStreams ≤ c.remote.maxConcurrentStreams.toNat

/-- `Fair` in terms of the slots. -/
def FairSlots (s : Slots) : Prop :=
  s.waiters ≠ [] → s.closed = false ∧ s.goaway = false ∧ s.limit.toNat ≤ active s.ids

theorem Moves.keeps_fair {s t : Slots} (moves : Moves s t) (fair : FairSlots s) : FairSlots t := by
  induction moves with
  | refl => exact fair
  | tail _ move ih =>
      cases move with
      | remove id => exact fun waiting => absurd rfl waiting
      | limit n => exact fun waiting => absurd rfl waiting
      | goaway doomed => exact fun waiting => absurd rfl waiting
      | destroy => exact fun waiting => absurd rfl waiting
      | park i live staying full => exact fun _ => ⟨live, staying, full⟩
      | tryOpen id live staying free =>
          intro waiting
          exact absurd (ih waiting).2.2 (Nat.not_le_of_lt free)

theorem active_erase (ids : List UInt32) {id : UInt32} (mem : id ∈ ids) (odd : id.toNat % 2 = 1) :
    active (ids.erase id) + 1 = active ids := by
  have positive : 0 < active ids := List.countP_pos_iff.mpr ⟨id, mem, by simp [odd]⟩
  rw [active, List.countP_erase]
  simp only [mem, odd, beq_self_eq_true, and_self, if_true]
  exact Nat.sub_add_cancel positive

theorem active_erase_even {ids : List UInt32} {id : UInt32} (even : id.toNat % 2 ≠ 1) :
    active (ids.erase id) = active ids := by
  rw [active, List.countP_erase]
  simp [even, active]

/-- A step that strands nobody keeps requests fair. -/
theorem fair_step (c : Client) (a : Action) (fair : c.Fair) (condition : ¬ c.Strands a) :
    (c.step a).Fair := by
  rcases c.moves_step a with moves | ⟨id, errorCode, rfl, pending, removed⟩
  · exact Moves.keeps_fair moves fair
  · change FairSlots (c.step _).slots
    rw [removed]
    intro waiting
    obtain ⟨live, staying, full⟩ := fair waiting
    refine ⟨live, staying, ?_⟩
    by_cases mem : id ∈ c.streams
    · by_cases odd : id.toNat % 2 = 1
      · have beyond : ¬ c.activeStreams ≤ c.remote.maxConcurrentStreams.toNat := fun within =>
          condition ⟨id, errorCode, rfl, pending, mem, odd, waiting, within⟩
        have one := active_erase c.slots.ids mem odd
        change c.remote.maxConcurrentStreams.toNat ≤ active (c.slots.ids.erase id)
        rw [activeStreams_eq] at beyond
        omega
      · change c.remote.maxConcurrentStreams.toNat ≤ active (c.slots.ids.erase id)
        rw [active_erase_even odd]
        exact full
    · change c.remote.maxConcurrentStreams.toNat ≤ active (c.slots.ids.erase id)
      have kept : c.slots.ids.erase id = c.slots.ids := List.erase_of_not_mem mem
      rw [kept]
      exact full

/-- A step that strands requests leaves them parked with a slot free. -/
theorem not_fair_step (c : Client) (a : Action) (strands : c.Strands a) : ¬ (c.step a).Fair := by
  obtain ⟨id, errorCode, rfl, pending, mem, odd, waiting, within⟩ := strands
  have removed : (c.step (.frame (.rstStream id errorCode))).slots = c.slots.without id := by
    simp only [step, onFrame, dispatch, dispatchFrame, pending, Option.isSome_none,
      Bool.false_and, if_false, Bool.false_eq_true, receiveReset, slots_removeAndFail, slots_record]
  change ¬ FairSlots (c.step _).slots
  rw [removed]
  intro fair
  have full := (fair waiting).2.2
  have one := active_erase c.slots.ids mem odd
  change c.remote.maxConcurrentStreams.toNat ≤ active (c.slots.ids.erase id) at full
  rw [activeStreams_eq] at within
  omega

theorem fair_connect (options : ConnectOptions) : (connect options).Fair := by
  change FairSlots (connect options).slots
  rw [slots_connect]
  exact fun waiting => absurd rfl waiting

/-- In a run that strands nobody, requests are parked only while no slot is free;
the first step that does strand somebody leaves a state where it is otherwise. -/
theorem fair_after (options : ConnectOptions) (actions : List Action)
    (condition : Machine.Along step (fun c a => ¬ c.Strands a) (connect options) actions) :
    (Client.after options actions).Fair ∧
      ∀ a, (Client.after options actions).Strands a →
        ¬ (Client.after options (actions ++ [a])).Fair := by
  refine ⟨Machine.run_invariant_along fair_step (fair_connect options) condition, ?_⟩
  intro a strands
  rw [Client.after, Machine.run_append]
  exact not_fair_step _ a strands

/-- A limit of one stream, and two requests. -/
def oneSlot : List Action :=
  [.frame (.settings false { maxConcurrentStreams := some 1 }), .request (.bare .empty),
    .request (.bare .empty)]

theorem fair_after_oneSlot : (Client.after {} oneSlot).Fair :=
  (fair_after {} oneSlot (by
    refine ⟨?_, ?_, ?_, trivial⟩ <;> rintro ⟨id, errorCode, same, -⟩ <;> cases same)).1

/-- The peer resets the first request, and the second stays parked. -/
theorem not_fair_after_rst :
    ¬ ∀ (options : ConnectOptions) (actions : List Action), (Client.after options actions).Fair := by
  intro fair
  have state : (Client.after {} (oneSlot ++ [.frame (.rstStream 1 0)])).slotWaiters = [1] ∧
      (Client.after {} (oneSlot ++ [.frame (.rstStream 1 0)])).activeStreams = 0 ∧
      (Client.after {} (oneSlot ++ [.frame (.rstStream 1 0)])).remote.maxConcurrentStreams = 1 := by
    decide +kernel
  have full := (fair {} (oneSlot ++ [.frame (.rstStream 1 0)]) (by rw [state.1]; simp)).2.2
  rw [state.2.1, state.2.2] at full
  exact absurd full (by decide)

end Client

end H2ts
