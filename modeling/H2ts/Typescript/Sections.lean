import H2ts.Typescript.Connection

/-!
# What a synchronous section does

Sections that open no stream only shrink the map of streams, settle heads, and append
frames.  `Section` says this once, for the results about whole runs, with three
allowances: the frames that may be sent, the entries that may leave the map unsettled,
and the streams whose upload or abort listener may start.

There is one lemma for each function of the connection.
-/

namespace H2ts

namespace Typescript

open Hpack

/-! ## Streams -/

namespace H2Stream

/-- A stream object later on: its id stays, and its head settles once. -/
structure Follows (s t : H2Stream) : Prop where
  id : t.id = s.id
  pushed : t.pushed = s.pushed
  head : t.gotHead = s.gotHead ∧ t.head = s.head ∨
    s.gotHead = false ∧ t.gotHead = true ∧ t.head ≠ .pending

namespace Follows

variable {s t u : H2Stream}

theorem same (id : t.id = s.id) (pushed : t.pushed = s.pushed) (gotHead : t.gotHead = s.gotHead)
    (head : t.head = s.head) : Follows s t :=
  ⟨id, pushed, .inl ⟨gotHead, head⟩⟩

theorem refl (s : H2Stream) : Follows s s := same rfl rfl rfl rfl

theorem gotHead (follows : Follows s t) (settled : s.gotHead = true) :
    t.gotHead = true ∧ t.head = s.head := by
  rcases follows.head with ⟨got, head⟩ | ⟨unsettled, -, -⟩
  · exact ⟨got.trans settled, head⟩
  · rw [settled] at unsettled
    cases unsettled

theorem trans (first : Follows s t) (second : Follows t u) : Follows s u := by
  refine ⟨second.id.trans first.id, second.pushed.trans first.pushed, ?_⟩
  rcases first.head with ⟨got, head⟩ | ⟨unsettled, got, head⟩
  · rw [← got, ← head]
    exact second.head
  · obtain ⟨later, same⟩ := second.gotHead got
    exact .inr ⟨unsettled, later, by rwa [same]⟩

theorem receiveHeaders (s : H2Stream) (raw : List Header) (endStream : Bool) :
    Follows s (s.receiveHeaders raw endStream) := by
  cases got : s.gotHead with
  | true =>
      simp only [H2Stream.receiveHeaders, got, Bool.not_true, Bool.false_eq_true, if_false]
      cases endStream <;> exact same rfl rfl got.symm rfl
  | false =>
      simp only [H2Stream.receiveHeaders, got, Bool.not_false, if_true]
      cases (collectHeaders raw).interim with
      | true => exact refl s
      | false =>
          cases endStream <;> exact ⟨rfl, rfl, .inr ⟨got, rfl, nofun⟩⟩

theorem receiveData (s : H2Stream) (data : Bytes) (endStream : Bool) :
    Follows s (s.receiveData data endStream) := by
  unfold H2Stream.receiveData
  cases 0 < data.length && !s.bodyDone <;> cases endStream <;> exact same rfl rfl rfl rfl

theorem fail (s : H2Stream) (err : Reason) : Follows s (s.fail err) := by
  cases got : s.gotHead with
  | true =>
      simp only [H2Stream.fail, got, Bool.not_true, Bool.false_eq_true, if_false]
      exact same rfl rfl got.symm rfl
  | false =>
      simp only [H2Stream.fail, got, Bool.not_false, if_true]
      exact ⟨rfl, rfl, .inr ⟨got, rfl, nofun⟩⟩

end Follows

@[simp] theorem gotHead_fail (s : H2Stream) (err : Reason) : (s.fail err).gotHead = true := by
  cases got : s.gotHead <;> simp [fail, got]

@[simp] theorem pump_fail (s : H2Stream) (err : Reason) : (s.fail err).pump = s.pump := by
  cases got : s.gotHead <;> simp [fail, got]

/-- What leaves the head open is an interim response. -/
theorem gotHead_receiveHeaders {s : H2Stream} {raw : List Header} {endStream : Bool}
    (unsettled : (s.receiveHeaders raw endStream).gotHead = false) :
    s.gotHead = false ∧ (collectHeaders raw).interim = true := by
  cases got : s.gotHead with
  | true =>
      obtain ⟨later, -⟩ := (Follows.receiveHeaders s raw endStream).gotHead got
      rw [unsettled] at later
      cases later
  | false =>
      refine ⟨rfl, ?_⟩
      cases interim : (collectHeaders raw).interim with
      | true => rfl
      | false =>
          simp only [receiveHeaders, got, interim, Bool.not_false, if_true] at unsettled
          cases endStream <;> cases unsettled

@[simp] theorem localClosed_receiveHeaders (s : H2Stream) (raw : List Header) (endStream : Bool) :
    (s.receiveHeaders raw endStream).localClosed = s.localClosed := by
  unfold receiveHeaders
  dsimp only
  cases !s.gotHead <;> cases (collectHeaders raw).interim <;> cases endStream <;> rfl

@[simp] theorem localClosed_receiveData (s : H2Stream) (data : Bytes) (endStream : Bool) :
    (s.receiveData data endStream).localClosed = s.localClosed := by
  unfold receiveData
  cases 0 < data.length && !s.bodyDone <;> cases endStream <;> rfl

@[simp] theorem gotHead_receiveData (s : H2Stream) (data : Bytes) (endStream : Bool) :
    (s.receiveData data endStream).gotHead = s.gotHead := by
  unfold receiveData
  cases 0 < data.length && !s.bodyDone <;> cases endStream <;> rfl

@[simp] theorem pump_receiveHeaders (s : H2Stream) (raw : List Header) (endStream : Bool) :
    (s.receiveHeaders raw endStream).pump = s.pump := by
  unfold receiveHeaders
  dsimp only
  cases !s.gotHead <;> cases (collectHeaders raw).interim <;> cases endStream <;> rfl

@[simp] theorem pump_receiveData (s : H2Stream) (data : Bytes) (endStream : Bool) :
    (s.receiveData data endStream).pump = s.pump := by
  unfold receiveData
  cases 0 < data.length && !s.bodyDone <;> cases endStream <;> rfl

end H2Stream

/-! ## Sections -/

/-- The stream of a frame; 0 is the connection. -/
def Frame.streamId : Frame → Int
  | .data id .. | .headers id .. | .priority id _ | .rstStream id _ | .pushPromise id .. |
    .windowUpdate id _ | .continuation id .. => id
  | .settings .. | .ping .. | .goaway .. => 0

def Frame.isHeaders : Frame → Bool
  | .headers .. => true
  | _ => false

/-- All frames on a stream but HEADERS may be sent. -/
def On (id : Int) (frames : Frame → Prop) : Prop :=
  ∀ frame : Frame, frame.isHeaders = false → frame.streamId = id → frames frame

namespace H2Connection

variable {D : Type}

@[simp] theorem objects_send (c : H2Connection D) (frame : Frame) :
    (c.send frame).objects = c.objects := by
  unfold send
  cases c.closedFlag <;> rfl

@[simp] theorem streams_send (c : H2Connection D) (frame : Frame) :
    (c.send frame).streams = c.streams := by
  unfold send
  cases c.closedFlag <;> rfl

@[simp] theorem streams_replenishRecvWindow (c : H2Connection D) (id : Int) (n : Nat) :
    (c.replenishRecvWindow id n).streams = c.streams := by
  unfold replenishRecvWindow
  split
  · rfl
  · rw [streams_send]
    split
    · exact streams_send c _
    · rfl

@[simp] theorem modify_self (c : H2Connection D) (k : Nat) (f : H2Stream → H2Stream) :
    (c.modify k f).objects k = f (c.objects k) :=
  Function.update_self k _ c.objects

theorem modify_ne (c : H2Connection D) {j k : Nat} (different : j ≠ k) (f : H2Stream → H2Stream) :
    (c.modify k f).objects j = c.objects j :=
  Function.update_of_ne different _ c.objects

/-- A part of a section that opens no stream. -/
structure Section (frames : Frame → Prop) (lost started : Nat → Prop) (s t : H2Connection D) :
    Prop where
  made : t.made = s.made
  next : t.nextStreamId = s.nextStreamId
  objects : ∀ k, (s.objects k).Follows (t.objects k)
  pumps : ∀ k, (t.objects k).pump ≠ .none → (s.objects k).pump ≠ .none ∨ started k
  listeners : ∀ i k, t.listeners i = some k → s.listeners i = some k ∨ started k
  streams : ∀ id k, t.streams.lookup id = some k → s.streams.lookup id = some k
  dropped : ∀ id k, s.streams.lookup id = some k →
    t.streams.lookup id = some k ∨ (t.objects k).gotHead = true ∨ lost k
  closed : s.closedFlag = true → t.closedFlag = true
  swept : t.closedFlag = true → s.closedFlag = true ∨ ∀ id, t.streams.lookup id = none
  out : ∃ sent, t.out = s.out ++ sent ∧ (∀ frame ∈ sent, frames frame) ∧
    (s.closedFlag = true → sent = [])

namespace Section

variable {frames : Frame → Prop} {lost started : Nat → Prop} {s t u : H2Connection D}

/-- Nothing that counts changes but objects. -/
theorem settles (made : t.made = s.made) (next : t.nextStreamId = s.nextStreamId)
    (objects : ∀ k, (s.objects k).Follows (t.objects k))
    (pumps : ∀ k, (t.objects k).pump ≠ .none → (s.objects k).pump ≠ .none ∨ started k)
    (listeners : t.listeners = s.listeners) (streams : t.streams = s.streams)
    (closed : t.closedFlag = s.closedFlag) (out : t.out = s.out) :
    Section frames lost started s t where
  made := made
  next := next
  objects := objects
  pumps := pumps
  listeners i k h := .inl (by rwa [← listeners])
  streams id k h := by rwa [← streams]
  dropped id k h := .inl (by rwa [streams])
  closed h := closed.trans h
  swept h := .inl (closed.symm.trans h)
  out := ⟨[], by rw [out, List.append_nil], nofun, fun _ => rfl⟩

/-- Nothing that counts changes. -/
theorem quiet (made : t.made = s.made) (next : t.nextStreamId = s.nextStreamId)
    (objects : t.objects = s.objects) (listeners : t.listeners = s.listeners)
    (streams : t.streams = s.streams) (closed : t.closedFlag = s.closedFlag)
    (out : t.out = s.out) : Section frames lost started s t :=
  settles made next (fun _ => objects ▸ .refl _) (fun _ h => .inl (objects ▸ h)) listeners streams
    closed out

theorem refl (s : H2Connection D) : Section frames lost started s s :=
  quiet rfl rfl rfl rfl rfl rfl rfl

theorem trans (first : Section frames lost started s t) (second : Section frames lost started t u) :
    Section frames lost started s u where
  made := second.made.trans first.made
  next := second.next.trans first.next
  objects k := (first.objects k).trans (second.objects k)
  pumps k h := (second.pumps k h).elim (first.pumps k) .inr
  listeners i k h := (second.listeners i k h).elim (first.listeners i k) .inr
  streams id k h := first.streams id k (second.streams id k h)
  dropped id k h := by
    rcases first.dropped id k h with kept | settled | gone
    · exact second.dropped id k kept
    · exact .inr (.inl ((second.objects k).gotHead settled).1)
    · exact .inr (.inr gone)
  closed h := second.closed (first.closed h)
  swept h := by
    rcases second.swept h with earlier | empty
    · rcases first.swept earlier with earliest | empty
      · exact .inl earliest
      · refine .inr fun id => Option.eq_none_iff_forall_ne_some.mpr fun k found => ?_
        have before := second.streams id k found
        rw [empty id] at before
        cases before
    · exact .inr empty
  out := by
    obtain ⟨sent, grown, fine, silent⟩ := first.out
    obtain ⟨sent', grown', fine', silent'⟩ := second.out
    refine ⟨sent ++ sent', by rw [grown', grown, List.append_assoc], fun frame mem => ?_, ?_⟩
    · exact (List.mem_append.mp mem).elim (fine frame) (fine' frame)
    · intro shut
      rw [silent shut, silent' (first.closed shut), List.append_nil]

/-! ### Streams and frames -/

theorem send (c : H2Connection D) {frame : Frame} (fine : frames frame) :
    Section frames lost started c (c.send frame) := by
  cases shut : c.closedFlag with
  | true =>
      have same : c.send frame = c := by simp only [H2Connection.send, shut, if_true]
      rw [same]
      exact refl c
  | false =>
      have same : c.send frame = { c with out := c.out ++ [frame] } := by
        simp only [H2Connection.send, shut, Bool.false_eq_true, if_false]
      rw [same]
      have still : Section frames lost started c c := refl c
      refine { still with out := ⟨[frame], rfl, ?_, ?_⟩ }
      · intro sent mem
        obtain rfl := List.mem_singleton.mp mem
        exact fine
      · intro closed
        rw [shut] at closed
        cases closed

theorem modify (c : H2Connection D) {k : Nat} {f : H2Stream → H2Stream}
    (follows : (c.objects k).Follows (f (c.objects k)))
    (pump : (f (c.objects k)).pump ≠ .none → (c.objects k).pump ≠ .none ∨ started k) :
    Section frames lost started c (c.modify k f) := by
  refine settles rfl rfl (fun j => ?_) (fun j => ?_) rfl rfl rfl rfl
  · rcases eq_or_ne j k with rfl | different
    · rwa [modify_self]
    · rw [modify_ne c different]
      exact .refl _
  · rcases eq_or_ne j k with rfl | different
    · rwa [modify_self]
    · rw [modify_ne c different]
      exact .inl

/-- A change that leaves the head and the upload alone. -/
theorem touch (c : H2Connection D) (k : Nat) {f : H2Stream → H2Stream}
    (id : ∀ s, (f s).id = s.id) (pushed : ∀ s, (f s).pushed = s.pushed)
    (gotHead : ∀ s, (f s).gotHead = s.gotHead) (head : ∀ s, (f s).head = s.head)
    (pump : ∀ s, (f s).pump = s.pump) : Section frames lost started c (c.modify k f) :=
  modify c (.same (id _) (pushed _) (gotHead _) (head _)) fun pumping => .inl (pump _ ▸ pumping)

theorem fail (c : H2Connection D) (k : Nat) (err : Reason) :
    Section frames lost started c (c.modify k (·.fail err)) :=
  modify c (.fail _ err) fun pumping => .inl (H2Stream.pump_fail _ err ▸ pumping)

theorem setCall (c : H2Connection D) (i : Nat) (call : Call) :
    Section frames lost started c (c.setCall i call) :=
  quiet rfl rfl rfl rfl rfl rfl rfl

theorem wakeStreamSlots (c : H2Connection D) : Section frames lost started c c.wakeStreamSlots :=
  quiet rfl rfl rfl rfl rfl rfl rfl

theorem deleteStream (c : H2Connection D) {id : Int}
    (settled : ∀ k, c.streams.lookup id = some k → (c.objects k).gotHead = true ∨ lost k) :
    Section frames lost started c (c.deleteStream id) := by
  have still : Section frames lost started c c := refl c
  refine { still with streams := ?_, dropped := ?_, swept := .inl }
  · intro other k found
    rcases eq_or_ne other id with rfl | different
    · rw [H2Connection.deleteStream, AList.lookup_erase] at found
      cases found
    · rwa [H2Connection.deleteStream, AList.lookup_erase_ne different] at found
  · intro other k found
    rcases eq_or_ne other id with rfl | different
    · exact .inr (settled k found)
    · exact .inl (by rwa [H2Connection.deleteStream, AList.lookup_erase_ne different])

theorem resetStream (c : H2Connection D) {id : Int} {code : ErrorCode}
    (fine : frames (.rstStream id code.value.toNat)) :
    Section frames lost started c (c.resetStream id code) := by
  have told : Section frames lost started c (c.send (.rstStream id code.value.toNat)) := send c fine
  unfold H2Connection.resetStream
  cases found : c.streams.lookup id with
  | none => exact told
  | some k =>
      -- The order of the failure and the deletion does not matter.
      refine (told.trans (fail _ k _)).trans ((deleteStream _ fun j there => ?_).trans
        (wakeStreamSlots _))
      have same : j = k := by
        have there : (c.send (.rstStream id code.value.toNat)).streams.lookup id = some j := there
        rw [streams_send, found] at there
        exact (Option.some.inj there).symm
      subst same
      simp only [modify_self, H2Stream.gotHead_fail, true_or]

theorem retireIfFullyClosed (c : H2Connection D) {id : Int}
    (settled : ∀ k, c.streams.lookup id = some k → (c.objects k).localClosed = true →
      (c.objects k).remoteClosed = true → (c.objects k).gotHead = true ∨ lost k) :
    Section frames lost started c (c.retireIfFullyClosed id) := by
  unfold H2Connection.retireIfFullyClosed
  cases found : c.streams.lookup id with
  | none => exact refl c
  | some k =>
      show Section frames lost started c (if _ then _ else _)
      split
      · next both =>
          rw [Bool.and_eq_true] at both
          refine (deleteStream c fun j there => ?_).trans (wakeStreamSlots _)
          obtain rfl : k = j := Option.some.inj (found.symm.trans there)
          exact settled k found both.1 both.2
      · exact refl c

theorem replenishRecvWindow (c : H2Connection D) {id : Int} {n : Nat}
    (control : On 0 frames)
    (fine : n ≠ 0 → id ∈ c.streams → frames (.windowUpdate id n)) :
    Section frames lost started c (c.replenishRecvWindow id n) := by
  unfold H2Connection.replenishRecvWindow
  split
  · exact refl c
  · next open_ =>
      simp only [Bool.or_eq_true, beq_iff_eq, not_or] at open_
      refine trans (t := if id ∈ c.streams then c.send (.windowUpdate id n) else c) ?_
        (send _ (control _ rfl rfl))
      split
      · next inside => exact send c (fine open_.2 inside)
      · exact refl c

/-! ### Teardown -/

theorem failAll (c : H2Connection D) (ks : List Nat) (err : Reason) :
    Section frames lost started c (c.failAll ks err) := by
  refine settles rfl rfl (fun k => ?_) (fun k => ?_) rfl rfl rfl rfl
  · simp only [H2Connection.failAll]
    split
    · exact .fail _ err
    · exact .refl _
  · simp only [H2Connection.failAll]
    split
    · rw [H2Stream.pump_fail]
      exact .inl
    · exact .inl

theorem gotHead_failAll (c : H2Connection D) {ks : List Nat} {k : Nat} (mem : k ∈ ks)
    (err : Reason) : ((c.failAll ks err).objects k).gotHead = true := by
  simp only [H2Connection.failAll, if_pos mem, H2Stream.gotHead_fail]

/-- Every entry of the map is failed and the map cleared. -/
theorem clear (c : H2Connection D) (err : Reason) :
    Section frames lost started c
      { c.failAll (c.streams.entries.map Sigma.snd) err with streams := ∅, closedFlag := true } := by
  have failed : Section frames lost started c _ := failAll c (c.streams.entries.map Sigma.snd) err
  refine { failed with streams := nofun, dropped := ?_, closed := fun _ => rfl, swept := ?_ }
  · intro id k found
    refine .inr (.inl (gotHead_failAll c ?_ err))
    exact List.mem_map.mpr ⟨_, AList.mem_lookup_iff.mp found, rfl⟩
  · exact fun _ => .inr fun id => AList.lookup_empty id

theorem destroy (c : H2Connection D) (err : Reason) :
    Section frames lost started c (c.destroy err) := by
  unfold H2Connection.destroy
  split
  · exact refl c
  · exact (clear c err).trans (quiet rfl rfl rfl rfl rfl rfl rfl)

theorem connectionError (c : H2Connection D) (thrown : Thrown)
    (control : On 0 frames) :
    Section frames lost started c (c.connectionError thrown) :=
  (send c (control _ rfl rfl)).trans (destroy _ _)

/-! ### Frames from the peer -/

theorem applyInitialWindowSize (c : H2Connection D) (size : Option Int) :
    Section frames lost started c (c.applyInitialWindowSize size).1 := by
  cases size with
  | none => exact refl c
  | some size =>
      show Section frames lost started c (if _ then _ else _ : Outcome D).1
      split
      · exact refl c
      · refine settles rfl rfl (fun k => ?_) (fun k => ?_) rfl rfl rfl rfl
        · dsimp only
          split
          · exact .same rfl rfl rfl rfl
          · exact .refl _
        · dsimp only
          split <;> exact .inl

theorem applyMaxFrameSize (c : H2Connection D) (size : Option Int) :
    Section frames lost started c (c.applyMaxFrameSize size).1 := by
  cases size with
  | none => exact refl c
  | some size =>
      show Section frames lost started c (if _ then _ else _ : Outcome D).1
      split
      · exact refl c
      · exact quiet rfl rfl rfl rfl rfl rfl rfl

theorem applyOtherSettings (c : H2Connection D) (settings : Settings) :
    Section frames lost started c (c.applyOtherSettings settings) := by
  unfold H2Connection.applyOtherSettings
  cases settings.maxConcurrentStreams with
  | none => exact quiet rfl rfl rfl rfl rfl rfl rfl
  | some max => exact quiet rfl rfl rfl rfl rfl rfl rfl

theorem applyRemoteSettings (c : H2Connection D) (settings : Settings) :
    Section frames lost started c (c.applyRemoteSettings settings).1 := by
  unfold H2Connection.applyRemoteSettings
  have first : Section frames lost started c _ := applyInitialWindowSize c settings.initialWindowSize
  rcases initial : c.applyInitialWindowSize settings.initialWindowSize with ⟨c', result⟩
  rw [initial] at first
  cases result with
  | error thrown => exact first
  | ok =>
      have second : Section frames lost started c' _ := applyMaxFrameSize c' settings.maxFrameSize
      rcases max : c'.applyMaxFrameSize settings.maxFrameSize with ⟨c'', result⟩
      rw [max] at second
      cases result with
      | error thrown => simpa only [max] using first.trans second
      | ok => simpa only [max] using (first.trans second).trans (applyOtherSettings c'' settings)

/-- The end of the peer's side. -/
theorem endRemote (c : H2Connection D) {id : Int} {k : Nat}
    (settled : ∀ j, c.streams.lookup id = some j → (c.objects j).localClosed = true →
      (c.objects j).gotHead = false → lost j) :
    Section frames lost started c
      ((c.modify k fun s => { s with remoteClosed := true }).retireIfFullyClosed id) := by
  have ended : Section frames lost started c (c.modify k fun s => { s with remoteClosed := true }) := by
    refine touch c k ?_ ?_ ?_ ?_ ?_ <;> exact fun _ => rfl
  refine ended.trans (retireIfFullyClosed _ fun j there shut _ => ?_)
  have shut : (c.objects j).localClosed = true := by
    rcases eq_or_ne j k with rfl | different
    · rwa [modify_self] at shut
    · rwa [modify_ne c different] at shut
  cases got : (c.objects j).gotHead with
  | true => exact .inl ((ended.objects j).gotHead got).1
  | false => exact .inr (settled j there shut got)

theorem receiveResponse (c : H2Connection D) {id : Int} {headers : List Header} {endStream : Bool}
    (settled : ∀ k, c.streams.lookup id = some k → endStream = true →
      (c.objects k).localClosed = true → (c.objects k).gotHead = false →
      (collectHeaders headers).interim = true → lost k) :
    Section frames lost started c (c.receiveResponse id headers endStream) := by
  unfold H2Connection.receiveResponse
  cases found : c.streams.lookup id with
  | none => exact refl c
  | some k =>
      have taken : Section frames lost started c (c.modify k (·.receiveHeaders headers endStream)) :=
        modify c (.receiveHeaders _ headers endStream) fun pumping =>
          .inl (H2Stream.pump_receiveHeaders _ headers endStream ▸ pumping)
      cases endStream with
      | false => exact taken
      | true =>
          refine taken.trans (endRemote _ fun j there shut unsettled => ?_)
          obtain rfl : k = j := Option.some.inj (found.symm.trans there)
          rw [modify_self] at shut unsettled
          obtain ⟨before, interim⟩ := H2Stream.gotHead_receiveHeaders unsettled
          exact settled k found rfl (H2Stream.localClosed_receiveHeaders _ _ _ ▸ shut) before interim

theorem receiveData (c : H2Connection D) {id : Int} {data : Bytes} {endStream : Bool}
    (control : On 0 frames)
    (settled : ∀ k, c.streams.lookup id = some k → endStream = true →
      (c.objects k).localClosed = true → (c.objects k).gotHead = false → lost k) :
    Section frames lost started c (c.receiveData id data endStream) := by
  unfold H2Connection.receiveData
  cases found : c.streams.lookup id with
  | none =>
      show Section frames lost started c (if _ then _ else _)
      split
      · exact send c (control _ rfl rfl)
      · exact refl c
  | some k =>
      have taken : Section frames lost started c (c.modify k (·.receiveData data endStream)) :=
        modify c (.receiveData _ data endStream) fun pumping =>
          .inl (H2Stream.pump_receiveData _ data endStream ▸ pumping)
      cases endStream with
      | false => exact taken
      | true =>
          refine taken.trans (endRemote _ fun j there shut unsettled => ?_)
          obtain rfl : k = j := Option.some.inj (found.symm.trans there)
          rw [modify_self] at shut unsettled
          exact settled k found rfl (H2Stream.localClosed_receiveData _ _ _ ▸ shut)
            (H2Stream.gotHead_receiveData _ _ _ ▸ unsettled)

theorem receiveRstStream (c : H2Connection D) (id errorCode : Int) :
    Section frames lost started c (c.receiveRstStream id errorCode) := by
  unfold H2Connection.receiveRstStream
  cases found : c.streams.lookup id with
  | none => exact refl c
  | some k =>
      refine (fail c k _).trans (deleteStream _ fun j there => ?_)
      obtain rfl : k = j := Option.some.inj (found.symm.trans there)
      simp only [modify_self, H2Stream.gotHead_fail, true_or]

theorem receiveWindowUpdate (c : H2Connection D) {id increment : Int}
    (fine : increment = 0 → id ≠ 0 → ∀ code, frames (.rstStream id code)) :
    Section frames lost started c (c.receiveWindowUpdate id increment).1 := by
  unfold H2Connection.receiveWindowUpdate
  split
  · next zero =>
      split
      · exact refl c
      · next stream => exact resetStream c (fine zero stream _)
  · split
    · exact quiet rfl rfl rfl rfl rfl rfl rfl
    · cases c.streams.lookup id with
      | none => exact refl c
      | some k =>
          dsimp only
          refine touch c k ?_ ?_ ?_ ?_ ?_ <;> exact fun _ => rfl

theorem receivePing (c : H2Connection D) (ack : Bool) (opaqueData : Bytes)
    (control : On 0 frames) :
    Section frames lost started c (c.receivePing ack opaqueData) := by
  unfold H2Connection.receivePing
  split
  · cases c.pings.lookup opaqueData with
    | none => exact refl c
    | some j => exact quiet rfl rfl rfl rfl rfl rfl rfl
  · exact send c (control _ rfl rfl)

theorem deleteStreams (c : H2Connection D) (ids : List Int)
    (settled : ∀ id ∈ ids, ∀ k, c.streams.lookup id = some k → (c.objects k).gotHead = true) :
    Section frames lost started c (ids.foldl H2Connection.deleteStream c) := by
  induction ids generalizing c with
  | nil => exact refl c
  | cons id ids ih =>
      have first : Section frames lost started c (c.deleteStream id) :=
        deleteStream c fun k found => .inl (settled id (.head _) k found)
      refine first.trans (ih _ fun other mem k found => ?_)
      exact settled other (.tail _ mem) k (first.streams other k found)

theorem receiveGoaway (c : H2Connection D) (lastStreamId errorCode : Int) :
    Section frames lost started c (c.receiveGoaway lastStreamId errorCode) := by
  unfold H2Connection.receiveGoaway
  dsimp only
  have gone (err : Reason) : Section frames lost started c
      (((c.streams.keys.filter (lastStreamId < ·)).foldl H2Connection.deleteStream
        ({ c with goawayReceived := true }.failAll
          ((c.streams.keys.filter (lastStreamId < ·)).filterMap c.streams.lookup)
          err)).wakeStreamSlots) := by
    refine .trans (t := { c with goawayReceived := true }) (quiet rfl rfl rfl rfl rfl rfl rfl) ?_
    refine (failAll _ _ err).trans ((deleteStreams _ _ fun id mem k found => ?_).trans
      (wakeStreamSlots _))
    exact gotHead_failAll _ (List.mem_filterMap.mpr ⟨id, mem, found⟩) err
  split
  · exact (gone _).trans (destroy _ _)
  · exact gone _

/-! ### The application -/

theorem request (c : H2Connection D) (i : Nat) (init : H2RequestInit) :
    Section frames lost started c (c.request i init) := by
  unfold H2Connection.request
  split
  · cases c.refusal with
    | none => exact setCall c i _
    | some reason => exact setCall c i _
  · exact refl c

theorem sendHeaders (c : H2Connection D) {id : Int} {block : Bytes} {endStream : Bool}
    (fine : ∀ frame ∈ headerFrames id c.remote.maxFrameSize.toNat block endStream, frames frame) :
    Section frames lost started c (c.sendHeaders id block endStream) := by
  unfold H2Connection.sendHeaders
  generalize headerFrames id c.remote.maxFrameSize.toNat block endStream = queue at fine
  induction queue generalizing c with
  | nil => exact refl c
  | cons frame queue ih =>
      exact (send c (fine frame (.head _))).trans (ih _ fun later mem => fine later (.tail _ mem))

theorem issue (coder : Coder D) (c : H2Connection D) (i k : Nat) {id : Int} {init : H2RequestInit}
    (start : started k)
    (fine : ∀ frame ∈ headerFrames id c.remote.maxFrameSize.toNat
      (coder.encode init.request.headers) init.request.body.isEmpty, frames frame) :
    Section frames lost started c (c.issue coder i k id init) := by
  unfold H2Connection.issue
  have listened : Section frames lost started c (if init.signal = true then
      { c with listeners := Function.update c.listeners i (some k) } else c) := by
    split
    · have still : Section frames lost started c c := refl c
      refine { still with listeners := fun other j heard => ?_ }
      rcases eq_or_ne other i with rfl | different
      · simp only [Function.update_self, Option.some.injEq] at heard
        exact .inr (heard ▸ start)
      · exact .inl (by simpa only [Function.update_of_ne different] using heard)
    · exact refl c
  have same : (if init.signal = true then
      { c with listeners := Function.update c.listeners i (some k) } else c).remote = c.remote := by
    split <;> rfl
  rw [← same] at fine
  refine listened.trans ((sendHeaders _ fine).trans (.trans (modify _ ?_ ?_) (setCall _ i _)))
  · exact .same rfl rfl rfl rfl
  · exact fun _ => .inr start

theorem abort (c : H2Connection D) {i : Nat}
    (fine : ∀ k, c.listeners i = some k → ∀ code, frames (.rstStream (c.objects k).id code)) :
    Section frames lost started c (c.abort i) := by
  unfold H2Connection.abort
  dsimp only
  cases heard : c.listeners i with
  | none => exact quiet rfl rfl rfl rfl rfl rfl rfl
  | some k =>
      have deaf : Section frames lost started c { c with
          aborted := Function.update c.aborted i true
          listeners := Function.update c.listeners i none } := by
        have still : Section frames lost started c c := refl c
        refine { still with listeners := fun other j heard => ?_ }
        rcases eq_or_ne other i with rfl | different
        · simp only [Function.update_self] at heard
          cases heard
        · exact .inl (by simpa only [Function.update_of_ne different] using heard)
      dsimp only
      split
      · exact deaf.trans ((fail _ k _).trans (resetStream _ (fine k heard _)))
      · exact deaf

theorem setPump (c : H2Connection D) {k : Nat} {pump : Pump} (pumping : (c.objects k).pump ≠ .none) :
    Section frames lost started c (c.setPump k pump) :=
  modify c (.same rfl rfl rfl rfl) fun _ => .inl pumping

theorem pumpChunk (c : H2Connection D) {k : Nat} {chunk : Bytes} {offset : Nat} {rest : List Bytes}
    (pumping : (c.objects k).pump ≠ .none) :
    Section frames lost started c (c.pumpChunk k chunk offset rest) := by
  unfold H2Connection.pumpChunk
  split
  · split <;> exact setPump c pumping
  · exact setPump c pumping

theorem pumpSend (c : H2Connection D) {k : Nat} {chunk : Bytes} {offset : Nat} {rest : List Bytes}
    (pumping : (c.objects k).pump ≠ .none)
    (fine : ∀ data endStream, frames (.data (c.objects k).id data endStream)) :
    Section frames lost started c (c.pumpSend k chunk offset rest) := by
  unfold H2Connection.pumpSend
  dsimp only
  split
  · exact setPump c pumping
  · split
    · exact pumpChunk c pumping
    · generalize min (min (min ((chunk.length : Int) - offset) c.connSendWindow.available)
        (c.objects k).sendWindow.available) c.remote.maxFrameSize = grant
      have spent : Section frames lost started c
          ({ c with connSendWindow := c.connSendWindow.consume grant }.modify k fun s =>
            { s with sendWindow := s.sendWindow.consume grant }) := by
        refine .trans (t := { c with connSendWindow := c.connSendWindow.consume grant })
          (quiet rfl rfl rfl rfl rfl rfl rfl) ?_
        refine touch _ k ?_ ?_ ?_ ?_ ?_ <;> exact fun _ => rfl
      have sent := spent.trans (send _ (fine ((chunk.drop offset).take grant.toNat) false))
      refine sent.trans (setPump _ ?_)
      simpa only [objects_send, modify_self] using pumping

theorem pump (c : H2Connection D) {k : Nat}
    (fine : (c.objects k).pump ≠ .none → ∀ data endStream,
      frames (.data (c.objects k).id data endStream))
    (settled : ∀ j, (c.objects k).pump = .ending → c.streams.lookup (c.objects k).id = some j →
      (j = k ∨ (c.objects j).localClosed = true) → (c.objects j).remoteClosed = true →
      (c.objects j).gotHead = false → lost j) :
    Section frames lost started c (c.pump k) := by
  unfold H2Connection.pump
  dsimp only
  cases stage : (c.objects k).pump with
  | none => exact refl c
  | pulling chunks =>
      have pumping : (c.objects k).pump ≠ .none := by rw [stage]; exact nofun
      cases chunks with
      | nil =>
          dsimp only
          split
          · exact setPump c pumping
          · refine (send c (fine pumping [] true)).trans (setPump _ ?_)
            rwa [objects_send]
      | cons chunk rest => exact pumpChunk c pumping
  | waitConn chunk offset rest => exact setPump c (by rw [stage]; exact nofun)
  | waitStream chunk offset rest =>
      have pumping : (c.objects k).pump ≠ .none := by rw [stage]; exact nofun
      exact pumpSend c pumping (fine pumping)
  | sending chunk offset rest => exact pumpChunk c (by rw [stage]; exact nofun)
  | ending =>
      have ended : Section frames lost started c
          (c.modify k fun s => { s with localClosed := true, pump := .none }) :=
        modify c (.same rfl rfl rfl rfl) fun pumping => absurd rfl pumping
      refine ended.trans (retireIfFullyClosed _ fun j there shut finished => ?_)
      cases got : (c.objects j).gotHead with
      | true => exact .inl ((ended.objects j).gotHead got).1
      | false =>
          rcases eq_or_ne j k with rfl | different
          · rw [modify_self] at finished
            exact .inr (settled j stage there (.inl rfl) finished got)
          · rw [modify_ne c different] at shut finished
            exact .inr (settled j stage there (.inr shut) finished got)

theorem pumpThrow (c : H2Connection D) {k : Nat} (reason : Reason)
    (fine : (c.objects k).pump ≠ .none → ∀ code, frames (.rstStream (c.objects k).id code)) :
    Section frames lost started c (c.pumpThrow k reason) := by
  have thrown (pumping : (c.objects k).pump ≠ .none) : Section frames lost started c
      (if (c.objects k).id ∈ (c.modify k fun s => { s.fail reason with pump := .none }).streams then
        (c.modify k fun s => { s.fail reason with pump := .none }).resetStream (c.objects k).id .cancel
      else c.modify k fun s => { s.fail reason with pump := .none }) := by
    have failed : Section frames lost started c
        (c.modify k fun s => { s.fail reason with pump := .none }) := by
      refine modify c ?_ fun still => absurd rfl still
      exact (H2Stream.Follows.fail _ reason).trans (.same rfl rfl rfl rfl)
    split
    · exact failed.trans (resetStream _ (fine pumping _))
    · exact failed
  unfold H2Connection.pumpThrow
  dsimp only
  cases stage : (c.objects k).pump with
  | none => exact refl c
  | pulling chunks => exact thrown (by rw [stage]; exact nofun)
  | waitConn chunk offset rest => exact refl c
  | waitStream chunk offset rest => exact refl c
  | sending chunk offset rest => exact thrown (by rw [stage]; exact nofun)
  | ending => exact thrown (by rw [stage]; exact nofun)

theorem pull (c : H2Connection D) {k : Nat}
    (control : On 0 frames)
    (fine : ∀ chunk queue, c.bodyOpen k = true → (c.objects k).recvQueue = chunk :: queue →
      chunk.length ≠ 0 → (c.objects k).id ∈ c.streams →
      frames (.windowUpdate (c.objects k).id chunk.length)) :
    Section frames lost started c (c.pull k) := by
  unfold H2Connection.pull
  dsimp only
  split
  · next readable =>
      cases queued : (c.objects k).recvQueue with
      | nil =>
          dsimp only
          split
          · refine touch c k ?_ ?_ ?_ ?_ ?_ <;> exact fun _ => rfl
          · exact refl c
      | cons chunk queue =>
          have taken : Section frames lost started c (c.modify k fun s => { s with
              recvQueue := queue
              recvBuffered := s.recvBuffered - chunk.length }) := by
            refine touch c k ?_ ?_ ?_ ?_ ?_ <;> exact fun _ => rfl
          exact taken.trans (replenishRecvWindow _ control (fine chunk queue readable queued))
  · exact refl c

theorem cancel (c : H2Connection D) {k : Nat}
    (control : On 0 frames)
    (fine : c.bodyOpen k = true → (c.objects k).id ∈ c.streams →
      (c.objects k).recvBuffered ≠ 0 ∨ (c.objects k).live = true →
      On (c.objects k).id frames) :
    Section frames lost started c (c.cancel k) := by
  unfold H2Connection.cancel
  dsimp only
  split
  · next readable =>
      have dropped : Section frames lost started c (c.modify k fun s => { s with
          bodyDone := true, recvBuffered := 0, recvQueue := [] }) := by
        refine touch c k ?_ ?_ ?_ ?_ ?_ <;> exact fun _ => rfl
      have returned : Section frames lost started c ((c.modify k fun s => { s with
          bodyDone := true, recvBuffered := 0, recvQueue := [] }).replenishRecvWindow
            (c.objects k).id (c.objects k).recvBuffered) :=
        dropped.trans (replenishRecvWindow _ control fun some inside =>
          fine readable inside (.inl some) _ rfl rfl)
      split
      · next both =>
          simp only [Bool.and_eq_true, decide_eq_true_eq, streams_replenishRecvWindow] at both
          exact returned.trans (resetStream _ (fine readable both.2 (.inr both.1) _ rfl rfl))
      · exact returned
  · exact refl c

theorem cancelPush (c : H2Connection D) {j : Nat}
    (fine : ∀ id, c.pushes[j]? = some id → ∀ code, frames (.rstStream id code)) :
    Section frames lost started c (c.cancelPush j) := by
  unfold H2Connection.cancelPush
  cases promised : c.pushes[j]? with
  | none => exact refl c
  | some id => exact resetStream c (fine id promised _)

theorem ping (c : H2Connection D) (control : On 0 frames) :
    Section frames lost started c c.ping := by
  unfold H2Connection.ping
  dsimp only
  split
  · exact quiet rfl rfl rfl rfl rfl rfl rfl
  · refine .trans (t := { c with
      pingCounter := c.pingCounter + 1
      pings := c.pings.insert (pingData (c.pingCounter + 1)) (c.pingCounter + 1) })
      (quiet rfl rfl rfl rfl rfl rfl rfl) (send _ (control _ rfl rfl))

theorem close (c : H2Connection D) (control : On 0 frames) :
    Section frames lost started c c.close := by
  unfold H2Connection.close
  split
  · exact refl c
  · exact (send c (control (.goaway c.highestPromised 0 []) rfl rfl)).trans
      (quiet rfl rfl rfl rfl rfl rfl rfl)

theorem finishClose (c : H2Connection D) : Section frames lost started c c.finishClose := by
  unfold H2Connection.finishClose
  split
  · exact refl c
  · exact .trans (t := { c with closing := c.closing - 1 }) (quiet rfl rfl rfl rfl rfl rfl rfl)
      (destroy _ _)

theorem writeFailed (c : H2Connection D) (reason : Reason) :
    Section frames lost started c (c.writeFailed reason) := by
  refine .trans (t := if c.ready = .pending then { c with ready := .rejected reason } else c) ?_
    (destroy _ reason)
  split <;> exact quiet rfl rfl rfl rfl rfl rfl rfl

theorem written (c : H2Connection D) : Section frames lost started c c.written := by
  unfold H2Connection.written
  split <;> exact quiet rfl rfl rfl rfl rfl rfl rfl

end Section

end H2Connection

end Typescript

end H2ts
