import H2ts.Typescript.Heads

/-!
# The first frame on a stream

A request that is let through announces its stream with HEADERS before anything else is
sent on it, unless its signal is aborted by then: the id is reserved first, and the reset
goes out on a stream the peer has never heard of.  The reset of a stream that the peer
names in a zero WINDOW_UPDATE or in a promise does not ask whether it was announced
either.

In every run the HEADERS of odd streams come first exactly if no step is `Premature`
(`headersFirst_after_iff`).
-/

namespace H2ts

namespace Typescript

open Hpack

/-- A HEADERS frame for the stream is among the frames. -/
def Announced (out : List Frame) (id : Int) : Prop :=
  ∃ frame ∈ out, frame.isHeaders = true ∧ frame.streamId = id

theorem Announced.append {out : List Frame} {id : Int} (announced : Announced out id)
    (sent : List Frame) : Announced (out ++ sent) id := by
  obtain ⟨frame, mem, headers, same⟩ := announced
  exact ⟨frame, List.mem_append_left _ mem, headers, same⟩

theorem announced_append {out sent : List Frame} {id : Int} :
    Announced (out ++ sent) id ↔ Announced out id ∨ Announced sent id := by
  constructor
  · rintro ⟨frame, mem, headers, same⟩
    exact (List.mem_append.mp mem).imp (⟨frame, ·, headers, same⟩) (⟨frame, ·, headers, same⟩)
  · rintro (announced | ⟨frame, mem, headers, same⟩)
    · exact announced.append sent
    · exact ⟨frame, List.mem_append_right _ mem, headers, same⟩

/-- Every frame on an odd stream is the HEADERS of the stream or comes behind it. -/
def HeadersFirst (out : List Frame) : Prop :=
  ∀ before frame after, out = before ++ frame :: after → frame.streamId % 2 = 1 →
    Announced (before ++ [frame]) frame.streamId

theorem HeadersFirst.append {out sent : List Frame} (first : HeadersFirst out)
    (known : ∀ before frame after, sent = before ++ frame :: after → frame.streamId % 2 = 1 →
      Announced (out ++ before ++ [frame]) frame.streamId) : HeadersFirst (out ++ sent) := by
  intro before frame after split odd
  rcases List.append_eq_append_iff.mp split with ⟨rest, rfl, rest_eq⟩ | ⟨rest, rfl, rest_eq⟩
  · exact known rest frame after rest_eq odd
  · cases rest with
    | nil =>
        simpa only [List.append_nil] using known [] frame after rest_eq.symm odd
    | cons other rest =>
        obtain ⟨rfl, rfl⟩ := List.cons.inj rest_eq
        exact first before frame rest rfl odd

/-- Frames on announced streams may follow. -/
theorem HeadersFirst.known {out sent : List Frame} (first : HeadersFirst out)
    (known : ∀ frame ∈ sent, frame.streamId % 2 = 1 → Announced out frame.streamId) :
    HeadersFirst (out ++ sent) := by
  refine first.append fun before frame after split odd => ?_
  rw [List.append_assoc]
  exact (known frame (by simp [split]) odd).append _

namespace H2Connection

theorem mem_continuationFrames {id : Int} {max fuel : Nat} {rest : Bytes} {frame : Frame}
    (mem : frame ∈ continuationFrames id max fuel rest) :
    frame.streamId = id ∧ frame.isHeaders = false := by
  induction fuel generalizing rest with
  | zero => cases mem
  | succ fuel ih =>
      unfold continuationFrames at mem
      split at mem
      · cases mem
      · rcases List.mem_cons.mp mem with rfl | later
        · exact ⟨rfl, rfl⟩
        · exact ih later

theorem headerFrames_cons (id : Int) (max : Nat) (block : Bytes) (endStream : Bool) :
    ∃ frame rest, headerFrames id max block endStream = frame :: rest ∧ frame.isHeaders = true ∧
      frame.streamId = id ∧ ∀ other ∈ rest, other.streamId = id ∧ other.isHeaders = false := by
  unfold headerFrames
  split
  · exact ⟨_, [], rfl, rfl, rfl, fun _ mem => absurd mem List.not_mem_nil⟩
  · exact ⟨_, _, rfl, rfl, rfl, fun _ mem => mem_continuationFrames mem⟩

theorem streamId_headerFrames {id : Int} {max : Nat} {block : Bytes} {endStream : Bool}
    {frame : Frame} (mem : frame ∈ headerFrames id max block endStream) : frame.streamId = id := by
  obtain ⟨first, rest, same, -, stream, others⟩ := headerFrames_cons id max block endStream
  rw [same] at mem
  rcases List.mem_cons.mp mem with rfl | later
  · exact stream
  · exact (others frame later).1

end H2Connection

/-- A header block may follow. -/
theorem HeadersFirst.headerFrames {out : List Frame} (first : HeadersFirst out) (id : Int)
    (max : Nat) (block : Bytes) (endStream : Bool) :
    HeadersFirst (out ++ H2Connection.headerFrames id max block endStream) := by
  obtain ⟨frame, rest, same, headers, stream, others⟩ :=
    H2Connection.headerFrames_cons id max block endStream
  refine first.append fun before sent after split _ => ?_
  rw [same] at split
  refine announced_append.mpr ?_
  cases before with
  | nil =>
      obtain ⟨rfl, -⟩ := List.cons.inj split
      exact .inr ⟨frame, .head _, headers, rfl⟩
  | cons other before =>
      obtain ⟨rfl, rest_eq⟩ := List.cons.inj split
      obtain ⟨here, -⟩ := others sent (by simp [rest_eq])
      exact .inl (announced_append.mpr (.inr ⟨frame, .head _, headers, stream.trans here.symm⟩))

/-- Nothing else may come first. -/
theorem not_headersFirst {out rest : List Frame} {frame : Frame} (odd : frame.streamId % 2 = 1)
    (silent : ¬ Announced out frame.streamId) (other : frame.isHeaders = false) :
    ¬ HeadersFirst (out ++ frame :: rest) := by
  intro first
  rcases announced_append.mp (first out frame rest rfl odd) with announced | ⟨sent, mem, headers, -⟩
  · exact silent announced
  · obtain rfl := List.mem_singleton.mp mem
    rw [other] at headers
    cases headers

namespace H2Connection

variable {D : Type} {coder : Coder D} {c t : H2Connection D}

/-! ## Frames that go out -/

theorem out_send (live : c.closedFlag = false) (frame : Frame) :
    (c.send frame).out = c.out ++ [frame] := by
  simp only [send, live, Bool.false_eq_true, if_false]

@[simp] theorem closedFlag_send (c : H2Connection D) (frame : Frame) :
    (c.send frame).closedFlag = c.closedFlag := by
  unfold send
  cases shut : c.closedFlag with
  | true => exact shut
  | false => rfl

theorem out_resetStream (live : c.closedFlag = false) (id : Int) (code : ErrorCode) :
    (c.resetStream id code).out = c.out ++ [.rstStream id code.value.toNat] := by
  refine Eq.trans ?_ (out_send live _)
  unfold resetStream
  cases c.streams.lookup id <;> rfl

theorem out_replenishRecvWindow (live : c.closedFlag = false) {id : Int} {n : Nat} (some : n ≠ 0)
    (mapped : id ∈ c.streams) :
    (c.replenishRecvWindow id n).out = c.out ++ [.windowUpdate id n, .windowUpdate 0 n] := by
  have due : (n == 0) = false := beq_eq_false_iff_ne.mpr some
  simp only [replenishRecvWindow, live, due, Bool.or_self, Bool.false_eq_true, if_false,
    if_pos mapped]
  rw [out_send (by rwa [closedFlag_send]), out_send live, List.append_assoc]
  rfl

theorem out_sendHeaders (live : c.closedFlag = false) (id : Int) (block : Bytes)
    (endStream : Bool) : (c.sendHeaders id block endStream).out =
      c.out ++ headerFrames id c.remote.maxFrameSize.toNat block endStream := by
  unfold sendHeaders
  generalize headerFrames id c.remote.maxFrameSize.toNat block endStream = queue
  induction queue generalizing c with
  | nil => exact (List.append_nil _).symm
  | cons frame queue ih =>
      have next : (c.send frame).closedFlag = false := by rwa [closedFlag_send]
      rw [List.foldl_cons, ih next, out_send live, List.append_assoc]
      rfl

theorem out_issue (live : c.closedFlag = false) (i k : Nat) (id : Int) (init : H2RequestInit) :
    (c.issue coder i k id init).out = c.out ++ headerFrames id c.remote.maxFrameSize.toNat
      (coder.encode init.request.headers) init.request.body.isEmpty := by
  unfold issue
  cases init.signal with
  | true =>
      exact out_sendHeaders (c := { c with listeners := Function.update c.listeners i (some k) })
        live id _ _
  | false => exact out_sendHeaders live id _ _

/-! ## Streams that are not announced -/

/-- Frames still go out, and no HEADERS did for the stream, which is odd. -/
structure Idle (c : H2Connection D) (id : Int) : Prop where
  live : c.closedFlag = false
  odd : id % 2 = 1
  silent : ¬ Announced c.out id

variable (coder) (c)

/-- The step sends on a stream that has not been announced. -/
inductive Premature : Action → Prop where
  /-- A request is let through and its signal is aborted. -/
  | born {i : Nat} {init : H2RequestInit} (live : c.closedFlag = false)
      (admitted : c.admitted i = some init) (signal : init.signal = true)
      (aborted : c.aborted i = true) : Premature (.resume i)
  /-- The peer sends a zero WINDOW_UPDATE for such a stream. -/
  | zeroUpdate {id : Int} (idle : c.Idle id) (free : c.pendingHeaderBlock = none) :
      Premature (.frame (.windowUpdate id 0))
  /-- The peer promises it, and there is no `onPush`. -/
  | refused {frame : Frame} {pb : PendingHeaderBlock} {headers : List Header}
      (idle : c.Idle pb.promisedStreamId)
      (complete : c.completed coder frame = some (pb, headers)) (push : pb.kind = .push)
      (refused : c.onPush = false) : Premature (.frame frame)
  /-- The body of a pushed stream is read. -/
  | pulled {k : Nat} {chunk : Bytes} {queue : List Bytes} (idle : c.Idle (c.objects k).id)
      (pushed : (c.objects k).pushed = true) (readable : c.bodyOpen k = true)
      (queued : (c.objects k).recvQueue = chunk :: queue) (some : chunk.length ≠ 0)
      (mapped : (c.objects k).id ∈ c.streams) : Premature (.pull k)
  /-- It is cancelled. -/
  | cancelled {k : Nat} (idle : c.Idle (c.objects k).id) (pushed : (c.objects k).pushed = true)
      (readable : c.bodyOpen k = true) (mapped : (c.objects k).id ∈ c.streams)
      (due : (c.objects k).recvBuffered ≠ 0 ∨ (c.objects k).live = true) : Premature (.cancel k)
  /-- The push is cancelled. -/
  | pushCancelled {j : Nat} {id : Int} (idle : c.Idle id) (promised : c.pushes[j]? = some id) :
      Premature (.cancelPush j)

variable {coder} {c}

/-- Frames may be sent on the stream: it was announced, or no frame goes out any longer. -/
def Spoken (c : H2Connection D) (k : Nat) : Prop :=
  c.closedFlag = true ∨ Announced c.out (c.objects k).id

/-- Which streams are announced. -/
structure Ordered (c : H2Connection D) : Prop where
  odd : c.nextStreamId % 2 = 1
  below : ∀ id, Announced c.out id → id < c.nextStreamId
  pumps : ∀ k, (c.objects k).pump ≠ .none → k < c.made ∧ c.Spoken k
  listeners : ∀ i k, c.listeners i = some k → k < c.made ∧ c.Spoken k
  /-- A request whose stream was not announced has been rejected. -/
  requests : ∀ k, (c.objects k).pushed = false →
    c.Spoken k ∨ (c.objects k).gotHead = true ∧ ∀ head, (c.objects k).head ≠ .resolved head

namespace Ordered

theorem spoken {frames : Frame → Prop} {lost started : Nat → Prop}
    (turn : Section frames lost started c t) {k : Nat} (spoken : c.Spoken k) : t.Spoken k := by
  rcases spoken with closed | announced
  · exact .inl (turn.closed closed)
  · obtain ⟨sent, grown, -, -⟩ := turn.out
    refine .inr ?_
    rw [(turn.objects k).id, grown]
    exact announced.append sent

theorem turn (turn : Section (·.isHeaders = false) (fun _ => True) (fun _ => False) c t)
    (ordered : c.Ordered) : t.Ordered where
  odd := by rw [turn.next]; exact ordered.odd
  below id announced := by
    obtain ⟨sent, grown, plain, -⟩ := turn.out
    rw [grown] at announced
    rw [turn.next]
    rcases announced_append.mp announced with before | ⟨frame, mem, headers, -⟩
    · exact ordered.below id before
    · rw [plain frame mem] at headers
      cases headers
  pumps k pumping := by
    obtain ⟨small, known⟩ := ordered.pumps k ((turn.pumps k pumping).resolve_right id)
    exact ⟨turn.made ▸ small, spoken turn known⟩
  listeners i k listens := by
    obtain ⟨small, known⟩ := ordered.listeners i k ((turn.listeners i k listens).resolve_right id)
    exact ⟨turn.made ▸ small, spoken turn known⟩
  requests k own := by
    rw [(turn.objects k).pushed] at own
    rcases ordered.requests k own with known | ⟨got, rejected⟩
    · exact .inl (spoken turn known)
    · obtain ⟨later, head⟩ := (turn.objects k).gotHead got
      exact .inr ⟨later, fun value => head ▸ rejected value⟩

theorem takePush (ordered : c.Ordered) (promisedId : Int) : (c.takePush promisedId).Ordered := by
  have new : (c.takePush promisedId).objects c.made = c.pushedStream promisedId :=
    Function.update_self _ _ _
  have old {k : Nat} (different : k ≠ c.made) :
      (c.takePush promisedId).objects k = c.objects k := Function.update_of_ne different _ _
  have same {k : Nat} (different : k ≠ c.made) (known : c.Spoken k) :
      (c.takePush promisedId).Spoken k :=
    known.imp id fun announced => by rw [old different]; exact announced
  refine ⟨ordered.odd, ordered.below, fun k pumping => ?_, fun i k listens => ?_, fun k own => ?_⟩
  · rcases eq_or_ne k c.made with rfl | different
    · rw [new] at pumping
      exact absurd rfl pumping
    · rw [old different] at pumping
      obtain ⟨small, known⟩ := ordered.pumps k pumping
      exact ⟨small.trans (Nat.lt_succ_self _), same different known⟩
  · obtain ⟨small, known⟩ := ordered.listeners i k listens
    exact ⟨small.trans (Nat.lt_succ_self _), same small.ne known⟩
  · rcases eq_or_ne k c.made with rfl | different
    · rw [new] at own
      cases own
    · rw [old different] at own ⊢
      exact (ordered.requests k own).imp (same different) id

theorem openStream {i : Nat} {init : H2RequestInit} (ordered : c.Ordered)
    (turn : Section (fun frame => frame.isHeaders = true → frame.streamId = c.nextStreamId)
      (fun _ => True) (fun k => k = c.made ∧ (c.openStream coder i init).Spoken k) c.reserve
      (c.openStream coder i init))
    (own : (c.openStream coder i init).Spoken c.made ∨
      ((c.openStream coder i init).objects c.made).gotHead = true ∧
        ∀ head, ((c.openStream coder i init).objects c.made).head ≠ .resolved head) :
    (c.openStream coder i init).Ordered := by
  have next : (c.openStream coder i init).nextStreamId = c.nextStreamId + 2 := turn.next
  have made : (c.openStream coder i init).made = c.made + 1 := turn.made
  have new : c.reserve.objects c.made = H2Stream.new c.nextStreamId c.remote.initialWindowSize false :=
    Function.update_self _ _ _
  have old {k : Nat} (different : k ≠ c.made) : c.reserve.objects k = c.objects k :=
    Function.update_of_ne different _ _
  have same {k : Nat} (different : k ≠ c.made) (known : c.Spoken k) :
      (c.openStream coder i init).Spoken k := by
    refine spoken turn (known.imp id fun announced => ?_)
    rw [old different]
    exact announced
  refine ⟨?_, fun id announced => ?_, fun k pumping => ?_, fun j k listens => ?_, fun k request => ?_⟩
  · rw [next]
    have odd := ordered.odd
    omega
  · obtain ⟨sent, grown, fine, -⟩ := turn.out
    rw [grown] at announced
    rw [next]
    rcases announced_append.mp announced with before | ⟨frame, mem, headers, rfl⟩
    · have below := ordered.below id before
      omega
    · rw [fine frame mem headers]
      omega
  · rcases turn.pumps k pumping with before | ⟨rfl, known⟩
    · rcases eq_or_ne k c.made with rfl | different
      · rw [new] at before
        exact absurd rfl before
      · rw [old different] at before
        obtain ⟨small, known⟩ := ordered.pumps k before
        exact ⟨made ▸ small.trans (Nat.lt_succ_self _), same different known⟩
    · exact ⟨made ▸ Nat.lt_succ_self _, known⟩
  · rcases turn.listeners j k listens with before | ⟨rfl, known⟩
    · obtain ⟨small, known⟩ := ordered.listeners j k before
      exact ⟨made ▸ small.trans (Nat.lt_succ_self _), same small.ne known⟩
    · exact ⟨made ▸ Nat.lt_succ_self _, known⟩
  · rcases eq_or_ne k c.made with rfl | different
    · exact own
    · have before : (c.objects k).pushed = false := by
        rw [← old different, ← (turn.objects k).pushed]
        exact request
      rcases ordered.requests k before with known | ⟨got, rejected⟩
      · exact .inl (same different known)
      · rw [← old different] at got rejected
        obtain ⟨later, head⟩ := (turn.objects k).gotHead got
        exact .inr ⟨later, fun value => head ▸ rejected value⟩

end Ordered

/-- The stream of a request is announced, or rejected at birth. -/
theorem ordered_openStream (coder : Coder D) (ordered : c.Ordered) (i : Nat) (init : H2RequestInit) :
    (c.openStream coder i init).Ordered := by
  have new : c.reserve.objects c.made = H2Stream.new c.nextStreamId c.remote.initialWindowSize false :=
    Function.update_self _ _ _
  have found : c.reserve.streams.lookup c.nextStreamId = some c.made := AList.lookup_insert _
  cases aborted : init.signal && c.aborted i with
  | true =>
      have same : c.openStream coder i init =
          (c.reserve.resetStream c.nextStreamId .cancel).setCall i (.rejected (abortError i)) := by
        simp only [openStream, aborted, if_true]
      refine ordered.openStream ?_ (.inr ?_)
      · rw [same]
        refine (Section.resetStream _ ?_).trans (.setCall _ i _)
        intro headers
        cases headers
      · have failed : (c.openStream coder i init).objects c.made =
            (c.reserve.objects c.made).fail (.thrown (.h2 .cancel
              ("stream " ++ toString c.nextStreamId ++ " reset") (some c.nextStreamId))) := by
          rw [same]
          simp only [resetStream, found, setCall]
          rw [modify_self]
          show H2Stream.fail ((c.reserve.send _).objects c.made) _ = _
          rw [objects_send]
        rw [failed, new]
        refine ⟨rfl, ?_⟩
        intro head resolved
        cases resolved
  | false =>
      have same : c.openStream coder i init = c.reserve.issue coder i c.made c.nextStreamId init := by
        simp only [openStream, aborted, Bool.false_eq_true, if_false]
      have turn : c.reserve.Turn (c.openStream coder i init) :=
        .openStream trivial (fun _ _ _ _ _ => trivial) fun _ _ => trivial
      have known : (c.openStream coder i init).Spoken c.made := by
        cases live : c.closedFlag with
        | true => exact .inl (turn.closed live)
        | false =>
            obtain ⟨frame, rest, frames, headers, stream, -⟩ :=
              headerFrames_cons c.nextStreamId c.remote.maxFrameSize.toNat
                (coder.encode init.request.headers) init.request.body.isEmpty
            refine .inr ⟨frame, ?_, headers, ?_⟩
            · rw [same, out_issue (c := c.reserve) live]
              exact List.mem_append_right _ (frames ▸ .head _)
            · rw [(turn.objects c.made).id, new]
              exact stream
      refine ordered.openStream ?_ (.inl known)
      rw [same]
      refine .issue coder c.reserve i c.made ⟨rfl, same ▸ known⟩ fun frame mem _ => ?_
      exact streamId_headerFrames mem

theorem ordered_step (ordered : c.Ordered) (a : Action) : (c.step coder a).Ordered := by
  rcases step_cases coder a (fun _ plain _ => plain) (fun _ _ _ plain _ => plain)
    fun _ _ => trivial with turn | ⟨i, init, rfl, -, same⟩ |
    ⟨frame, pb, headers, u, rfl, -, -, -, turn, -, -, -, same⟩
  · exact ordered.turn turn
  · rw [same]
    exact ordered_openStream coder ordered i init
  · rw [same]
    exact (ordered.turn turn).takePush _

/-! ## Steps that announce -/

/-- What a step that is not premature addresses is announced. -/
theorem addresses_known {a : Action} {id : Int} (ordered : c.Ordered)
    (timely : ¬ Premature coder c a) (addresses : Addresses coder c a id) (odd : id % 2 = 1) :
    c.closedFlag = true ∨ Announced c.out id := by
  by_contra idle
  rw [not_or, Bool.not_eq_true] at idle
  have idle : c.Idle id := ⟨idle.1, odd, idle.2⟩
  have silent {k : Nat} (same : (c.objects k).id = id) : ¬ c.Spoken k := by
    rintro (closed | announced)
    · rw [idle.live] at closed
      cases closed
    · exact idle.silent (same ▸ announced)
  -- The body of a request's stream that is not announced cannot be read.
  have pushed {k : Nat} (same : (c.objects k).id = id) (readable : c.bodyOpen k = true) :
      (c.objects k).pushed = true := by
    cases own : (c.objects k).pushed with
    | true => rfl
    | false =>
        obtain ⟨-, rejected⟩ := (ordered.requests k own).resolve_left (silent same)
        unfold bodyOpen at readable
        split at readable
        · next head resolved => exact absurd resolved (rejected head)
        · cases readable
  cases addresses with
  | zeroUpdate free stream => exact timely (.zeroUpdate idle free)
  | refused complete push refused => exact timely (.refused idle complete push refused)
  | born admitted signal aborted => exact timely (.born idle.live admitted signal aborted)
  | aborted listens => exact silent rfl (ordered.listeners _ _ listens).2
  | uploads pumping => exact silent rfl (ordered.pumps _ pumping).2
  | uploadFails pumping => exact silent rfl (ordered.pumps _ pumping).2
  | pulled readable queued some mapped =>
      exact timely (.pulled idle (pushed rfl readable) readable queued some mapped)
  | cancelled readable mapped due =>
      exact timely (.cancelled idle (pushed rfl readable) readable mapped due)
  | pushCancelled promised => exact timely (.pushCancelled idle promised)

/-- Frames on announced streams come behind their HEADERS. -/
theorem headersFirst_turn {lost started : Nat → Prop}
    (turn : Section (fun frame => frame.streamId % 2 = 1 →
      c.closedFlag = true ∨ Announced c.out frame.streamId) lost started c t)
    (first : HeadersFirst c.out) : HeadersFirst t.out := by
  obtain ⟨sent, grown, known, silent⟩ := turn.out
  rw [grown]
  cases live : c.closedFlag with
  | true => rwa [silent live, List.append_nil]
  | false =>
      refine first.known fun frame mem odd => (known frame mem odd).resolve_left ?_
      rw [live]
      exact nofun

theorem headersFirst_step {a : Action} (ordered : c.Ordered) (first : HeadersFirst c.out)
    (timely : ¬ Premature coder c a) : HeadersFirst (c.step coder a).out := by
  have control : On 0 fun frame => frame.streamId % 2 = 1 →
      c.closedFlag = true ∨ Announced c.out frame.streamId := by
    intro frame _ zero odd
    rw [zero] at odd
    cases odd
  have known (id : Int) (addresses : Addresses coder c a id) : On id fun frame =>
      frame.streamId % 2 = 1 → c.closedFlag = true ∨ Announced c.out frame.streamId := by
    rintro frame - rfl odd
    exact addresses_known ordered timely addresses odd
  rcases step_cases coder a control known fun _ _ => trivial with turn | ⟨i, init, rfl, admits, same⟩ |
    ⟨frame, pb, headers, u, rfl, -, -, -, turn, -, -, -, same⟩
  · exact headersFirst_turn (turn : Section _ (fun _ => True) (fun _ => True) c _) first
  · rw [same]
    have turn : c.reserve.Turn (c.openStream coder i init) :=
      .openStream trivial (fun _ _ _ _ _ => trivial) fun _ _ => trivial
    cases live : c.closedFlag with
    | true =>
        obtain ⟨sent, grown, -, silent⟩ := turn.out
        rw [grown, silent live, List.append_nil]
        exact first
    | false =>
        have issued : c.openStream coder i init =
            c.reserve.issue coder i c.made c.nextStreamId init := by
          unfold openStream
          split
          · next both =>
              rw [Bool.and_eq_true] at both
              exact absurd (.born live admits both.1 both.2) timely
          · rfl
        rw [issued, out_issue (c := c.reserve) live]
        exact first.headerFrames _ _ _ _
  · rw [same]
    have quiet := headersFirst_turn (turn : Section _ (fun _ => True) (fun _ => True) c _) first
    exact quiet

/-! ## Premature steps -/

theorem cancel_premature {k : Nat} (idle : c.Idle (c.objects k).id) (readable : c.bodyOpen k = true)
    (mapped : (c.objects k).id ∈ c.streams)
    (due : (c.objects k).recvBuffered ≠ 0 ∨ (c.objects k).live = true) :
    ¬ HeadersFirst (c.cancel k).out := by
  let discarded := c.modify k fun s => { s with bodyDone := true, recvBuffered := 0, recvQueue := [] }
  let returned := discarded.replenishRecvWindow (c.objects k).id (c.objects k).recvBuffered
  have cancelled : c.cancel k = if (c.objects k).live = true then
      returned.resetStream (c.objects k).id .cancel else returned := by
    have inside : (c.objects k).id ∈ returned.streams := by
      rw [streams_replenishRecvWindow]
      exact mapped
    simp only [cancel, readable, if_true, Bool.and_eq_true, decide_eq_true_eq]
    simp only [inside, and_true, returned, discarded]
  rw [cancelled]
  by_cases some : (c.objects k).recvBuffered = 0
  · have alive := due.resolve_left (absurd some)
    have same : returned = discarded := by
      simp only [returned, replenishRecvWindow, some, beq_self_eq_true, Bool.or_true, if_true]
    rw [if_pos alive, same, out_resetStream (c := discarded) idle.live]
    exact not_headersFirst idle.odd idle.silent rfl
  · have out : returned.out = c.out ++ [.windowUpdate (c.objects k).id (c.objects k).recvBuffered,
        .windowUpdate 0 (c.objects k).recvBuffered] :=
      out_replenishRecvWindow (c := discarded) idle.live some mapped
    have turn : returned.Turn (if (c.objects k).live = true then
        returned.resetStream (c.objects k).id .cancel else returned) := by
      split
      · exact .resetStream _ trivial
      · exact .refl _
    obtain ⟨sent, grown, -, -⟩ := turn.out
    rw [grown, out, List.append_assoc]
    exact not_headersFirst idle.odd idle.silent rfl

theorem premature_step {a : Action} (ordered : c.Ordered) (premature : Premature coder c a) :
    ¬ HeadersFirst (c.step coder a).out := by
  -- It is enough that such a frame is sent before others.
  have broken {id : Int} {frame : Frame} {rest : List Frame} (idle : c.Idle id)
      (stream : frame.streamId = id) (other : frame.isHeaders = false)
      (out : (c.step coder a).out = c.out ++ frame :: rest) :
      ¬ HeadersFirst (c.step coder a).out := by
    subst stream
    rw [out]
    exact not_headersFirst idle.odd idle.silent other
  cases premature with
  | born live admitted signal aborted =>
      rename_i i init
      have idle : c.Idle c.nextStreamId :=
        ⟨live, ordered.odd, fun announced => lt_irrefl _ (ordered.below _ announced)⟩
      have step : c.step coder (.resume i) =
          (c.reserve.resetStream c.nextStreamId .cancel).setCall i (.rejected (abortError i)) := by
        refine (resume_admitted admitted).trans ?_
        simp only [openStream, signal, aborted, Bool.and_self, if_true]
      have out := out_resetStream (c := c.reserve) live c.nextStreamId .cancel
      exact broken idle rfl rfl (by rw [step]; exact out)
  | zeroUpdate idle free =>
      rename_i id
      have stream : id ≠ 0 := by
        rintro rfl
        cases idle.odd
      have step : c.step coder (.frame (.windowUpdate id 0)) = c.resetStream id .protocolError := by
        simp [H2Connection.step, onFrame, dispatch, free, dispatchFrame, receiveWindowUpdate, stream]
      have out := out_resetStream idle.live id .protocolError
      exact broken idle rfl rfl (by rw [step]; exact out)
  | refused idle complete push refused =>
      rename_i frame pb headers
      have step : c.step coder (.frame frame) =
          (c.decoded coder pb).handlePush pb.promisedStreamId := by
        refine (onFrame_completed complete).trans ?_
        simp only [takeHeaderBlock, push]
      have out : ((c.decoded coder pb).handlePush pb.promisedStreamId).out = c.out ++
          [.rstStream pb.promisedStreamId ErrorCode.refusedStream.value.toNat] := by
        unfold handlePush
        dsimp only
        split <;> simp [decoded, refused, send, idle.live]
      exact broken idle rfl rfl (by rw [step]; exact out)
  | pulled idle pushed readable queued some mapped =>
      rename_i k chunk queue
      have step : c.step coder (.pull k) = (c.modify k fun s => { s with
          recvQueue := queue
          recvBuffered := s.recvBuffered - chunk.length }).replenishRecvWindow (c.objects k).id
            chunk.length := by
        simp only [H2Connection.step, pull, readable, queued, if_true]
      have out := out_replenishRecvWindow (c := c.modify k fun s => { s with
        recvQueue := queue
        recvBuffered := s.recvBuffered - chunk.length }) idle.live some mapped
      exact broken idle rfl rfl (by rw [step]; exact out)
  | cancelled idle pushed readable mapped due =>
      rename_i k
      exact cancel_premature idle readable mapped due
  | pushCancelled idle promised =>
      rename_i j id
      have step : c.step coder (.cancelPush j) = c.resetStream id .cancel := by
        simp only [H2Connection.step, cancelPush, promised]
      have out := out_resetStream idle.live id .cancel
      exact broken idle rfl rfl (by rw [step]; exact out)

theorem headersFirst_step_iff (ordered : c.Ordered) (first : HeadersFirst c.out) (a : Action) :
    HeadersFirst (c.step coder a).out ↔ ¬ Premature coder c a :=
  ⟨fun later premature => premature_step ordered premature later, headersFirst_step ordered first⟩

/-- In every run, the HEADERS of odd streams come first exactly if no step is premature. -/
theorem headersFirst_after_iff (coder : Coder D) (decoder : D) (options : ConnectOptions)
    (actions : List Action) :
    Machine.Along (step coder) (fun s a => HeadersFirst (s.step coder a).out)
        (connect decoder options) actions ↔
      Machine.Along (step coder) (fun s a => ¬ Premature coder s a)
        (connect decoder options) actions := by
  have fresh_ordered : (fresh decoder options.onPush).Ordered := by
    refine ⟨rfl, fun id announced => ?_, fun k pumping => absurd rfl pumping, fun i k listens => ?_,
      fun k own => ?_⟩
    · obtain ⟨frame, mem, -⟩ := announced
      cases mem
    · cases listens
    · cases own
  have connected : (connect decoder options).Ordered :=
    fresh_ordered.turn (.connect decoder options fun _ plain _ => plain)
  refine Machine.along_next_iff (P := Ordered) (fun _ a ordered _ => ordered_step ordered a)
    (fun _ a ordered first => headersFirst_step_iff ordered first a) connected ?_ actions
  have silent : HeadersFirst (fresh decoder options.onPush).out := by
    intro before frame after split
    cases before <;> cases split
  have turn : Section (fun frame => frame.streamId % 2 = 1 →
      (fresh decoder options.onPush).closedFlag = true ∨
        Announced (fresh decoder options.onPush).out frame.streamId) (fun _ => True) (fun _ => True)
      (fresh decoder options.onPush) (connect decoder options) := by
    refine .connect decoder options fun frame _ zero odd => ?_
    rw [zero] at odd
    cases odd
  exact headersFirst_turn turn silent

/-- The signal of a request is aborted while it waits for `ready`. -/
def abortedRun : List Action := [.request 0 ⟨.bare .empty, true⟩, .abort 0, .written]

theorem not_headersFirst_aborted : ¬ Machine.Along (step hpack)
    (fun s a => HeadersFirst (s.step hpack a).out) (connect (.new 4096) {})
    (abortedRun ++ [.resume 0]) := by
  intro along
  have first := (Machine.along_append.mp along).2.1
  have out : (after hpack (.new 4096) {} (abortedRun ++ [.resume 0])).out =
      (connect (D := HpackDecoder) (.new 4096) {}).out ++ [.rstStream 1 8] := by
    decide +kernel
  have first : HeadersFirst (after hpack (.new 4096) {} (abortedRun ++ [.resume 0])).out := first
  rw [out] at first
  refine not_headersFirst rfl ?_ rfl first
  rintro ⟨frame, mem, headers, -⟩
  have plain : ∀ frame ∈ (connect (D := HpackDecoder) (.new 4096) {}).out,
      frame.isHeaders = false := by
    decide +kernel
  rw [plain frame mem] at headers
  cases headers

end H2Connection

end Typescript

end H2ts
