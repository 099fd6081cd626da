import H2ts.Typescript.Sections

/-!
# The steps of the TypeScript connection

A step opens a stream in two places, the admission of a request (`admitted`) and a push
that is taken (`completed`).  Every other step is a `Section`.  It sends only on streams
that it `Addresses`, and an entry leaves the map with its head open only if the step
`Forgets` it.  `step_cases` is the case analysis.
-/

namespace H2ts

namespace Typescript

open Hpack

namespace H2Connection

variable {D : Type} {coder : Coder D} {c : H2Connection D}

/-! ## Requests and header blocks -/

/-- The request of a call that opens its stream when it is resumed. -/
def admitted (c : H2Connection D) (i : Nat) : Option H2RequestInit :=
  if c.canOpenStream then
    match c.calls i with
    | .awaitingReady init => if c.ready = .resolved () then some init else none
    | .parked init => if i ∈ c.streamSlotWaiters then none else some init
    | _ => none
  else none

/-- The header block that a frame starts or continues, and whether it ends there. -/
def grown (c : H2Connection D) : Frame → Option (PendingHeaderBlock × Bool)
  | .headers id fragment endStream endHeaders _ =>
      if c.pendingHeaderBlock.isSome then none
      else some (⟨id, .response, endStream, 0, [fragment], fragment.length⟩, endHeaders)
  | .pushPromise id promised fragment endHeaders =>
      if c.pendingHeaderBlock.isSome then none
      else some (⟨id, .push, false, promised, [fragment], fragment.length⟩, endHeaders)
  | .continuation id fragment endHeaders =>
      c.pendingHeaderBlock.bind fun pb =>
        if pb.streamId = id then some ({ pb with
          fragments := pb.fragments ++ [fragment]
          size := pb.size + fragment.length }, endHeaders)
        else none
  | _ => none

/-- The header block that a frame completes, with its headers. -/
def completed (coder : Coder D) (c : H2Connection D) (frame : Frame) :
    Option (PendingHeaderBlock × List Header) :=
  match c.grown frame with
  | some (pb, true) =>
      if pb.size > MAX_HEADER_BLOCK_SIZE then none
      else
        match (coder.decode c.decoder pb.fragments.flatten).2 with
        | .ok headers => some (pb, headers)
        | .error _ => none
  | _ => none

/-- The connection when a block is decoded. -/
def decoded (coder : Coder D) (c : H2Connection D) (pb : PendingHeaderBlock) : H2Connection D :=
  { c with
    pendingHeaderBlock := none
    decoder := (coder.decode c.decoder pb.fragments.flatten).1 }

/-- The connection when a push was accepted. -/
def takePush (c : H2Connection D) (promisedId : Int) : H2Connection D :=
  let c := c.addStream (c.pushedStream promisedId)
  { c with pushes := c.pushes ++ [promisedId] }

/-! ## What a step sends and forgets -/

variable (coder) (c)

/-- The step sends other frames than HEADERS on a stream. -/
inductive Addresses : Action → Int → Prop where
  | zeroUpdate {id : Int} (free : c.pendingHeaderBlock = none) (stream : id ≠ 0) :
      Addresses (.frame (.windowUpdate id 0)) id
  | refused {frame : Frame} {pb : PendingHeaderBlock} {headers : List Header}
      (complete : c.completed coder frame = some (pb, headers)) (push : pb.kind = .push)
      (refused : c.onPush = false) : Addresses (.frame frame) pb.promisedStreamId
  | born {i : Nat} {init : H2RequestInit} (admitted : c.admitted i = some init)
      (signal : init.signal = true) (aborted : c.aborted i = true) :
      Addresses (.resume i) c.nextStreamId
  | aborted {i k : Nat} (listens : c.listeners i = some k) : Addresses (.abort i) (c.objects k).id
  | uploads {k : Nat} (pumping : (c.objects k).pump ≠ .none) : Addresses (.pump k) (c.objects k).id
  | uploadFails {k : Nat} {reason : Reason} (pumping : (c.objects k).pump ≠ .none) :
      Addresses (.pumpThrow k reason) (c.objects k).id
  | pulled {k : Nat} {chunk : Bytes} {queue : List Bytes} (readable : c.bodyOpen k = true)
      (queued : (c.objects k).recvQueue = chunk :: queue) (some : chunk.length ≠ 0)
      (mapped : (c.objects k).id ∈ c.streams) : Addresses (.pull k) (c.objects k).id
  | cancelled {k : Nat} (readable : c.bodyOpen k = true) (mapped : (c.objects k).id ∈ c.streams)
      (due : (c.objects k).recvBuffered ≠ 0 ∨ (c.objects k).live = true) :
      Addresses (.cancel k) (c.objects k).id
  | pushCancelled {j : Nat} {id : Int} (promised : c.pushes[j]? = some id) :
      Addresses (.cancelPush j) id

/-- The step takes a stream out of the map whose head is open. -/
inductive Forgets : Action → Nat → Prop where
  /-- DATA ends the stream before its head came. -/
  | data {id : Int} {data : Bytes} {k : Nat} (free : c.pendingHeaderBlock = none)
      (found : c.streams.lookup id = some k) (shut : (c.objects k).localClosed = true)
      (unsettled : (c.objects k).gotHead = false) : Forgets (.frame (.data id data true)) k
  /-- An interim response ends it. -/
  | interim {frame : Frame} {pb : PendingHeaderBlock} {headers : List Header} {k : Nat}
      (complete : c.completed coder frame = some (pb, headers)) (response : pb.kind = .response)
      (ends : pb.endStream = true) (found : c.streams.lookup pb.streamId = some k)
      (shut : (c.objects k).localClosed = true) (unsettled : (c.objects k).gotHead = false)
      (interim : (collectHeaders headers).interim = true) : Forgets (.frame frame) k
  /-- A push is promised under its id. -/
  | pushed {frame : Frame} {pb : PendingHeaderBlock} {headers : List Header} {k : Nat}
      (complete : c.completed coder frame = some (pb, headers)) (push : pb.kind = .push)
      (taken : c.onPush = true) (found : c.streams.lookup pb.promisedStreamId = some k)
      (unsettled : (c.objects k).gotHead = false) : Forgets (.frame frame) k
  /-- The upload ends after the peer's side. -/
  | uploaded {j k : Nat} (ending : (c.objects j).pump = .ending)
      (found : c.streams.lookup (c.objects j).id = some k)
      (shut : k = j ∨ (c.objects k).localClosed = true)
      (ended : (c.objects k).remoteClosed = true) (unsettled : (c.objects k).gotHead = false) :
      Forgets (.pump j) k
  /-- A request gets its id. -/
  | reserved {i : Nat} {init : H2RequestInit} {k : Nat} (admitted : c.admitted i = some init)
      (found : c.streams.lookup c.nextStreamId = some k)
      (unsettled : (c.objects k).gotHead = false) : Forgets (.resume i) k

variable {coder} {c} {frames : Frame → Prop} {lost started : Nat → Prop}

/-! ## Resumed calls -/

theorem resume_admitted {i : Nat} {init : H2RequestInit} (admits : c.admitted i = some init) :
    c.resume coder i = c.openStream coder i init := by
  unfold admitted at admits
  unfold resume tryOpen
  cases room : c.canOpenStream with
  | false => simp only [room, Bool.false_eq_true, if_false] at admits; cases admits
  | true =>
      simp only [room, if_true] at admits
      cases call : c.calls i with
      | awaitingReady waiting =>
          simp only [call] at admits
          split at admits
          · next ready =>
              obtain rfl := Option.some.inj admits
              simp only [ready, if_true]
          · cases admits
      | parked waiting =>
          simp only [call] at admits
          split at admits
          · cases admits
          · next woken =>
              obtain rfl := Option.some.inj admits
              simp only [if_neg woken, if_true]
      | _ => simp only [call] at admits; cases admits

/-- The rest of a request, once its slot is reserved. -/
theorem Section.openStream {i : Nat} {init : H2RequestInit} (start : started c.made)
    (reset : init.signal = true → c.aborted i = true → On c.nextStreamId frames)
    (fine : ∀ frame ∈ headerFrames c.nextStreamId c.remote.maxFrameSize.toNat
      (coder.encode init.request.headers) init.request.body.isEmpty, frames frame) :
    Section frames lost started c.reserve (c.openStream coder i init) := by
  unfold H2Connection.openStream
  split
  · next both =>
      rw [Bool.and_eq_true] at both
      exact (resetStream _ (reset both.1 both.2 _ rfl rfl)).trans (setCall _ i _)
  · exact issue coder _ i c.made start fine

/-- A call that finds no free slot waits or rejects. -/
theorem Section.tryOpen {i : Nat} {init : H2RequestInit} (full : c.canOpenStream = false) :
    Section frames lost started c (c.tryOpen coder i init) := by
  simp only [H2Connection.tryOpen, full, Bool.false_eq_true, if_false]
  cases c.refusal with
  | none => exact .quiet rfl rfl rfl rfl rfl rfl rfl
  | some reason => exact .setCall c i _

theorem Section.resume {i : Nat} (waits : c.admitted i = none) :
    Section frames lost started c (c.resume coder i) := by
  unfold admitted at waits
  unfold H2Connection.resume
  cases call : c.calls i with
  | awaitingReady init =>
      cases ready : c.ready with
      | pending => exact .refl c
      | rejected reason => exact .setCall c i _
      | resolved value =>
          cases room : c.canOpenStream with
          | false => exact .tryOpen room
          | true => simp only [room, call, ready, if_true] at waits; cases waits
  | parked init =>
      dsimp only
      split
      · exact .refl c
      · next woken =>
          cases room : c.canOpenStream with
          | false => exact .tryOpen room
          | true => simp only [room, call, if_neg woken, if_true] at waits; cases waits
  | awaitingHead k =>
      dsimp only
      cases (c.objects k).head with
      | pending => exact .refl c
      | resolved head => exact .setCall c i _
      | rejected reason => exact .setCall c i _
  | _ => exact .refl c

/-! ## Dispatched frames -/

theorem Section.onFrame {frame : Frame} {result : Outcome D}
    (dispatched : c.dispatch coder frame = result)
    (taken : Section frames lost started c result.1) (control : On 0 frames) :
    Section frames lost started c (c.onFrame coder frame) := by
  obtain ⟨c', result⟩ := result
  unfold H2Connection.onFrame
  rw [dispatched]
  cases result with
  | ok value => exact taken
  | error thrown => exact taken.trans (.connectionError c' thrown control)

theorem dispatch_grown {frame : Frame} {pb : PendingHeaderBlock} {endHeaders : Bool}
    (grows : c.grown frame = some (pb, endHeaders)) :
    c.dispatch coder frame = c.growHeaderBlock coder pb endHeaders := by
  cases frame with
  | headers id fragment endStream ends priority =>
      simp only [grown] at grows
      split at grows
      · cases grows
      · next free =>
          obtain ⟨rfl, rfl⟩ := Prod.mk.inj (Option.some.inj grows)
          simp only [dispatch, free, Bool.false_and, Bool.false_eq_true, if_false, dispatchFrame]
  | pushPromise id promised fragment ends =>
      simp only [grown] at grows
      split at grows
      · cases grows
      · next free =>
          obtain ⟨rfl, rfl⟩ := Prod.mk.inj (Option.some.inj grows)
          simp only [dispatch, free, Bool.false_and, Bool.false_eq_true, if_false, dispatchFrame]
  | continuation id fragment ends =>
      simp only [grown] at grows
      obtain ⟨before, pending, here⟩ := Option.bind_eq_some_iff.mp grows
      split at here
      · next same =>
          obtain ⟨rfl, rfl⟩ := Prod.mk.inj (Option.some.inj here)
          simp only [dispatch, isContinuation, Bool.not_true, Bool.and_false, Bool.false_eq_true,
            if_false, dispatchFrame, pending, if_pos same]
      · cases here
  | _ => cases grows

/-- A frame that completes a header block. -/
theorem onFrame_completed {frame : Frame} {pb : PendingHeaderBlock} {headers : List Header}
    (complete : c.completed coder frame = some (pb, headers)) :
    c.onFrame coder frame = (c.decoded coder pb).takeHeaderBlock pb headers := by
  unfold completed at complete
  rcases grows : c.grown frame with _ | ⟨grown, ends⟩
  · rw [grows] at complete
    cases complete
  · rw [grows] at complete
    cases ends with
    | false => cases complete
    | true =>
        simp only at complete
        split at complete
        · cases complete
        · next small =>
            rcases decodes : (coder.decode c.decoder grown.fragments.flatten).2 with thrown | raw
            · rw [decodes] at complete
              cases complete
            · rw [decodes] at complete
              obtain ⟨rfl, rfl⟩ := Prod.mk.inj (Option.some.inj complete)
              unfold onFrame
              rw [dispatch_grown grows]
              simp only [growHeaderBlock, if_neg small, if_true, completeHeaderBlock, decodes, decoded]

/-- A frame that is out of place, or belongs to no header block. -/
theorem Section.plain {frame : Frame} (other : c.grown frame = none) (control : On 0 frames)
    (fine : ∀ id, Addresses coder c (.frame frame) id → On id frames)
    (settled : ∀ k, Forgets coder c (.frame frame) k → lost k) :
    Section frames lost started c (c.onFrame coder frame) := by
  cases pending : c.pendingHeaderBlock with
  | some pb =>
      -- Only the CONTINUATION of another block gets as far as its own check.
      have refused : ∃ thrown, c.dispatch coder frame = (c, .error thrown) := by
        cases frame with
        | continuation id fragment endHeaders =>
            simp only [grown, pending, Option.bind_some] at other
            split at other
            · cases other
            · next different =>
                refine ⟨.h2 .protocolError "unexpected CONTINUATION" none, ?_⟩
                simp only [H2Connection.dispatch, dispatchFrame, isContinuation, pending,
                  if_neg different, Bool.not_true, Bool.and_false, Bool.false_eq_true, if_false]
        | _ => exact ⟨.h2 .protocolError "expected CONTINUATION frame" none, by
            simp [H2Connection.dispatch, pending, isContinuation]⟩
      obtain ⟨thrown, dispatched⟩ := refused
      exact .onFrame dispatched (.refl c) control
  | none =>
      have dispatched : c.dispatch coder frame = c.dispatchFrame coder frame := by
        simp only [H2Connection.dispatch, pending, Option.isSome_none, Bool.false_and,
          Bool.false_eq_true, if_false]
      refine .onFrame dispatched ?_ control
      cases frame with
      | settings ack settings =>
          unfold dispatchFrame
          cases ack with
          | true => exact .refl c
          | false =>
              have applied : Section frames lost started c _ := .applyRemoteSettings c settings
              rcases changed : c.applyRemoteSettings settings with ⟨c', result⟩
              rw [changed] at applied
              cases result with
              | error thrown => simpa only [changed, Bool.false_eq_true, if_false] using applied
              | ok value =>
                  simpa only [changed, Bool.false_eq_true, if_false] using
                    applied.trans (.send c' (control _ rfl rfl))
      | headers | pushPromise => simp [grown, pending] at other
      | continuation id fragment endHeaders =>
          simp only [dispatchFrame, pending]
          exact .refl c
      | data id data endStream =>
          refine .receiveData c control fun k found ends shut unsettled => ?_
          subst ends
          exact settled k (.data pending found shut unsettled)
      | rstStream id errorCode => exact .receiveRstStream c id errorCode
      | windowUpdate id increment =>
          refine .receiveWindowUpdate c fun zero stream code => ?_
          subst zero
          exact fine id (.zeroUpdate pending stream) _ rfl rfl
      | ping ack opaqueData => exact .receivePing c ack opaqueData control
      | goaway lastStreamId errorCode debugData => exact .receiveGoaway c lastStreamId errorCode
      | priority id priority => exact .refl c

/-- A frame that completes no header block. -/
theorem Section.dispatch {frame : Frame} (incomplete : c.completed coder frame = none)
    (control : On 0 frames)
    (fine : ∀ id, Addresses coder c (.frame frame) id → On id frames)
    (settled : ∀ k, Forgets coder c (.frame frame) k → lost k) :
    Section frames lost started c (c.onFrame coder frame) := by
  unfold completed at incomplete
  rcases grows : c.grown frame with _ | ⟨pb, ends⟩
  · exact .plain grows control fine settled
  · -- The block stays pending, is too large or does not decode.
    refine .onFrame (dispatch_grown grows) ?_ control
    unfold growHeaderBlock
    dsimp only
    split
    · exact .quiet rfl rfl rfl rfl rfl rfl rfl
    · next small =>
        cases ends with
        | false => exact .quiet rfl rfl rfl rfl rfl rfl rfl
        | true =>
            rw [grows] at incomplete
            simp only [if_neg small] at incomplete
            simp only [if_true, completeHeaderBlock]
            rcases decodes : (coder.decode c.decoder pb.fragments.flatten).2 with thrown | raw
            · exact .quiet rfl rfl rfl rfl rfl rfl rfl
            · rw [decodes] at incomplete
              cases incomplete

/-! ## Header blocks -/

theorem handlePush_taken (taken : c.onPush = true) (promisedId : Int) :
    ∃ u : H2Connection D, Section frames lost started c u ∧ u.made = c.made ∧
      u.streams = c.streams ∧ u.objects = c.objects ∧
      c.handlePush promisedId = u.takePush promisedId := by
  refine ⟨if promisedId > c.highestPromised then { c with highestPromised := promisedId } else c,
    ?_, ?_, ?_, ?_, ?_⟩
  · split <;> exact .quiet rfl rfl rfl rfl rfl rfl rfl
  · split <;> rfl
  · split <;> rfl
  · split <;> rfl
  · unfold handlePush takePush
    dsimp only
    split <;> simp [taken]

theorem Section.handlePush (refuses : c.onPush = false) {promisedId : Int}
    (fine : On promisedId frames) : Section frames lost started c (c.handlePush promisedId) := by
  have told : c.handlePush promisedId = (if promisedId > c.highestPromised then
      { c with highestPromised := promisedId } else c).send
        (.rstStream promisedId ErrorCode.refusedStream.value.toNat) := by
    unfold H2Connection.handlePush
    dsimp only
    split <;> simp [refuses]
  rw [told]
  refine .trans ?_ (.send _ (fine _ rfl rfl))
  split <;> exact .quiet rfl rfl rfl rfl rfl rfl rfl

/-! ## Steps -/

/-- A step opens the stream of a request, takes a push, or opens no stream. -/
theorem step_cases (coder : Coder D) (a : Action) (control : On 0 frames)
    (fine : ∀ id, Addresses coder c a id → On id frames)
    (settled : ∀ k, Forgets coder c a k → lost k) :
    Section frames lost started c (c.step coder a) ∨
      (∃ i init, a = .resume i ∧ c.admitted i = some init ∧
        c.step coder a = c.openStream coder i init) ∨
      ∃ frame pb headers u, a = .frame frame ∧ c.completed coder frame = some (pb, headers) ∧
        pb.kind = .push ∧ c.onPush = true ∧ Section frames lost started c u ∧
        u.made = c.made ∧ u.streams = c.streams ∧ u.objects = c.objects ∧
        c.step coder a = u.takePush pb.promisedStreamId := by
  cases a with
  | frame frame =>
      rcases complete : c.completed coder frame with _ | ⟨pb, headers⟩
      · exact .inl (.dispatch complete control fine settled)
      · have ready : Section frames lost started c (c.decoded coder pb) :=
          .quiet rfl rfl rfl rfl rfl rfl rfl
        have step : c.step coder (.frame frame) = (c.decoded coder pb).takeHeaderBlock pb headers :=
          onFrame_completed complete
        rw [step]
        unfold takeHeaderBlock
        cases kind : pb.kind with
        | response =>
            refine .inl (ready.trans (.receiveResponse _ fun k found ends shut unsettled interim => ?_))
            exact settled k (.interim complete kind ends found shut unsettled interim)
        | push =>
            cases pushes : c.onPush with
            | false =>
                have refuses : (c.decoded coder pb).onPush = false := pushes
                exact .inl (ready.trans (.handlePush refuses (fine _ (.refused complete kind pushes))))
            | true =>
                obtain ⟨u, quiet, made, streams, objects, taken⟩ :=
                  handlePush_taken (c := c.decoded coder pb) pushes pb.promisedStreamId
                exact .inr (.inr ⟨frame, pb, headers, u, rfl, complete, kind, rfl,
                  ready.trans quiet, made, streams, objects, taken⟩)
  | resume i =>
      rcases admits : c.admitted i with _ | init
      · exact .inl (.resume admits)
      · exact .inr (.inl ⟨i, init, rfl, admits, resume_admitted admits⟩)
  | corrupt thrown => exact .inl (.connectionError c thrown control)
  | transportClosed => exact .inl (.destroy c _)
  | readFailed reason => exact .inl (.destroy c reason)
  | writeFailed reason => exact .inl (.writeFailed c reason)
  | written => exact .inl (.written c)
  | request i init => exact .inl (.request c i init)
  | abort i => exact .inl (.abort c fun k listens code => fine _ (.aborted listens) _ rfl rfl)
  | pump k =>
      refine .inl (.pump c (fun pumping data endStream => ?_) fun j ending found shut ended unsettled => ?_)
      · exact fine _ (.uploads pumping) _ rfl rfl
      · exact settled j (.uploaded ending found shut ended unsettled)
  | pumpThrow k reason =>
      exact .inl (.pumpThrow c reason fun pumping code => fine _ (.uploadFails pumping) _ rfl rfl)
  | pull k =>
      refine .inl (.pull c control fun chunk queue readable queued some mapped => ?_)
      exact fine _ (.pulled readable queued some mapped) _ rfl rfl
  | cancel k =>
      exact .inl (.cancel c control fun readable mapped due => fine _ (.cancelled readable mapped due))
  | cancelPush j =>
      exact .inl (.cancelPush c fun id promised code => fine _ (.pushCancelled promised) _ rfl rfl)
  | ping => exact .inl (.ping c control)
  | close => exact .inl (.close c control)
  | finishClose => exact .inl (.finishClose c)

/-- What holds of every section. -/
abbrev Turn (s t : H2Connection D) : Prop :=
  Section (fun _ => True) (fun _ => True) (fun _ => True) s t

theorem Section.turn {s t : H2Connection D} (section_ : Section frames lost started s t) :
    s.Turn t where
  made := section_.made
  next := section_.next
  objects := section_.objects
  pumps _ _ := .inr trivial
  listeners _ _ _ := .inr trivial
  streams := section_.streams
  dropped _ _ _ := .inr (.inr trivial)
  closed := section_.closed
  swept := section_.swept
  out := by
    obtain ⟨sent, grown, -, silent⟩ := section_.out
    exact ⟨sent, grown, fun _ _ => trivial, silent⟩

theorem turn_cases (coder : Coder D) (c : H2Connection D) (a : Action) :
    c.Turn (c.step coder a) ∨
      (∃ i init, a = .resume i ∧ c.admitted i = some init ∧ c.reserve.Turn (c.step coder a) ∧
        c.step coder a = c.openStream coder i init) ∨
      ∃ frame pb headers u, a = .frame frame ∧ c.completed coder frame = some (pb, headers) ∧
        pb.kind = .push ∧ c.onPush = true ∧ c.Turn u ∧ c.step coder a = u.takePush pb.promisedStreamId := by
  rcases step_cases coder a (fun _ _ _ => trivial) (fun _ _ _ _ _ => trivial) fun _ _ => trivial with
    turn | ⟨i, init, rfl, admits, same⟩ |
    ⟨frame, pb, headers, u, rfl, complete, push, taken, turn, -, -, -, same⟩
  · exact .inl turn
  · refine .inr (.inl ⟨i, init, rfl, admits, ?_, same⟩)
    rw [same]
    exact .openStream trivial (fun _ _ _ _ _ => trivial) fun _ _ => trivial
  · exact .inr (.inr ⟨frame, pb, headers, u, rfl, complete, push, taken, turn, same⟩)

/-- The constructor sends control frames. -/
theorem Section.connect (decoder : D) (options : ConnectOptions) (control : On 0 frames) :
    Section frames lost started (fresh decoder options.onPush) (connect decoder options) := by
  unfold Typescript.connect
  dsimp only
  split
  · exact .trans (.send _ (control _ rfl rfl)) (.send _ (control _ rfl rfl))
  · exact .send _ (control _ rfl rfl)

end H2Connection

end Typescript

end H2ts
