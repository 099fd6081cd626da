import H2ts.Connection.Teardown
import H2ts.FrameStream
import H2ts.Hpack.Safety

/-!
# Bytes in chunks

The read loop of the driver pushes chunks into the frame decoder and dispatches the
frames that are complete (`onChunks`).  If a push fails, the frames that were
complete before the bad one in the same chunk are dropped with it.  So what callers
observe is what it is if all frames are dispatched before the failure, provided a
chunk ends between the last good frame and the octet at which the bad one is
rejected (`observed_onChunks`).

Frames may be dispatched after the connection is closed, until the end of the chunk.
Nobody observes that (`observed_onFrames`): no stream is left, and no ping.
-/

namespace H2ts

open Hpack

/-- What callers can observe. -/
structure Observation where
  heads : Nat → Oneshot (Except H2Error Head)
  trailers : Nat → Option HeaderMap
  bodies : Nat → RecvState
  yields : Nat → List Yield
  calls : Nat → Call
  pings : Nat → Oneshot (Except H2Error Unit)
  closeError : Option H2Error

namespace Client

variable {c d : Client}

def observed (c : Client) : Observation where
  heads := fun k => (c.cells k).head
  trailers := fun k => (c.cells k).trailers
  bodies := fun k => (c.cells k).recv
  yields := fun k => (c.cells k).yields
  calls := c.calls
  pings := c.answers
  closeError := c.closeError

/-! ## Dispatch does not panic -/

theorem calm_andThen {o : Outcome} {next : Client → Outcome} (first : Calm o.2)
    (later : ∀ c, Calm (next c).2) : Calm (o.andThen next).2 := by
  obtain ⟨c, fault | done⟩ := o
  · exact first
  · exact later c

theorem calm_applyRemoteSettings (c : Client) (s : Settings) : Calm (c.applyRemoteSettings s).2 := by
  refine calm_andThen ?_ fun c => calm_andThen ?_ fun c => .ok _
  · cases s.initialWindowSize with
    | none => exact .ok _
    | some iw =>
        rw [applyInitialWindowSize]
        split
        · exact .error _
        · exact .ok _
  · cases s.maxFrameSize with
    | none => exact .ok _
    | some mfs =>
        rw [applyMaxFrameSize]
        split
        · exact .ok _
        · exact .error _

theorem calm_growHeaderBlock (c : Client) (pb : PendingHeaderBlock) (endHeaders : Bool) :
    Calm (c.growHeaderBlock pb endHeaders).2 := by
  simp only [growHeaderBlock, guardHeaderBlockSize]
  split
  next fault large =>
    split at large
    · cases large
      exact .error _
    · cases large
  next =>
    split
    · have calm := c.decoder.decode_calm pb.fragments.flatten
      simp only [completeHeaderBlock]
      split
      next fault failed =>
        intro same
        cases same
        exact calm failed
      next => exact .ok _
    · exact .ok _

/-- Dispatching a frame does not panic. -/
theorem calm_dispatch (c : Client) (frame : Frame) : Calm (c.dispatch frame).2 := by
  unfold dispatch
  split
  · exact .error _
  · cases frame with
    | settings ack settings =>
        rw [dispatchFrame]
        split
        · exact .ok _
        · exact calm_andThen (c.calm_applyRemoteSettings settings) fun _ => .ok _
    | headers id fragment endStream endHeaders priority => exact c.calm_growHeaderBlock _ _
    | continuation id fragment endHeaders =>
        rw [dispatchFrame]
        split
        · exact .error _
        · split
          · exact c.calm_growHeaderBlock _ _
          · exact .error _
    | pushPromise id promised fragment endHeaders => exact c.calm_growHeaderBlock _ _
    | windowUpdate id increment =>
        simp only [dispatchFrame, receiveWindowUpdate]
        split
        · split
          · exact .error _
          · exact .ok _
        · split
          · exact .ok _
          · exact .ok _
    | _ => exact .ok _

/-! ## Closed connections -/

theorem lookup_of_keys (empty : c.streams.keys = []) (id : UInt32) : c.streams.lookup id = none := by
  rw [AList.lookup_eq_none]
  intro mem
  have key : id ∈ c.streams.keys := mem
  rw [empty] at key
  cases key

/-- Without streams, nobody observes a chore. -/
theorem observed_chore (chore : Chore c d) (empty : c.streams.keys = []) :
    d.observed = c.observed ∧ d.streams.keys = [] := by
  have missing := lookup_of_keys empty
  cases chore with
  | note e plain unsent => exact ⟨rfl, empty⟩
  | send frame plain live => exact ⟨rfl, empty⟩
  | tune => exact ⟨rfl, empty⟩
  | restream f alike => exact ⟨rfl, (KeyMap.keys_mapWithKey f c.streams).trans empty⟩
  | repump f same =>
      refine ⟨?_, empty⟩
      have cells (k : Nat) := same k (c.cells k)
      simp only [observed]
      congr 1
      all_goals
        funext k
        rw [cells k]
  | block id headers endStream =>
      have nobody : (c.record (.block id headers endStream)).streams.lookup id = none := missing id
      simp only [receiveBlock, withStream, nobody]
      exact ⟨rfl, empty⟩
  | remove id err =>
      have same : c.removeAndFail id err = c := by simp only [removeAndFail, missing id]
      rw [same]
      exact ⟨rfl, empty⟩
  | retire id =>
      have same : c.retireIfFullyClosed id = c := by simp only [retireIfFullyClosed, missing id]
      rw [same]
      exact ⟨rfl, empty⟩

theorem observed_chores (chores : Chores c d) (empty : c.streams.keys = []) :
    d.observed = c.observed ∧ d.streams.keys = [] := by
  induction chores with
  | refl => exact ⟨rfl, empty⟩
  | tail _ chore ih =>
      obtain ⟨same, still⟩ := ih
      obtain ⟨same', still'⟩ := observed_chore chore still
      exact ⟨same'.trans same, still'⟩

theorem connectionError_closed (closed : c.closed = true) (err : H2Error) :
    c.connectionError err = c := by
  rw [connectionError, sendFrame_closed closed, destroy_closed closed]

/-- A frame that comes after the end. -/
theorem observed_dispatchFrame (closed : c.closed = true) (empty : c.streams.keys = [])
    (rung : c.pings = ∅) (frame : Frame) :
    (c.dispatchFrame frame).1.observed = c.observed ∧ (c.dispatchFrame frame).1.closed = true := by
  have chored {d : Client} (chores : Chores c d) : d.observed = c.observed ∧ d.closed = true :=
    ⟨(observed_chores chores empty).1, (congrArg Desk.closed (desk_chores chores)).trans closed⟩
  rcases c.chores_dispatchFrame frame with chores | ⟨id, increment, rfl, chores⟩ |
    ⟨id, bytes, endStream, rfl⟩ | ⟨data, rfl⟩ | ⟨lastStreamId, errorCode, debugData, rfl⟩
  · exact chored chores
  · exact ⟨(observed_chores chores empty).1, (congrArg Desk.closed (desk_chores chores)).trans closed⟩
  · have nobody : id ∉ (c.record (.data id bytes endStream)).streams :=
      AList.lookup_eq_none.mp (lookup_of_keys empty id)
    have received : c.receiveDataFrame id bytes endStream = c.record (.data id bytes endStream) := by
      simp only [receiveDataFrame, nobody, if_false]
      split
      · exact @sendFrame_closed (c.record (.data id bytes endStream)) closed _
      · rfl
    have retired : (c.record (.data id bytes endStream)).retireIfFullyClosed id =
        c.record (.data id bytes endStream) := by
      have missing : (c.record (.data id bytes endStream)).streams.lookup id = none :=
        lookup_of_keys empty id
      simp only [retireIfFullyClosed, missing]
    simp only [dispatchFrame, received, retired, ite_self]
    exact ⟨rfl, closed⟩
  · have silent : c.pings.lookup data = none := by
      rw [rung]
      rfl
    have same : (c.dispatchFrame (.ping true data)).1 = c := by
      simp only [dispatchFrame, receivePing, if_true, silent]
    rw [same]
    exact ⟨rfl, closed⟩
  · obtain ⟨d, chores, same | ⟨err, same⟩⟩ := c.chores_receiveGoaway lastStreamId errorCode
    · simp only [dispatchFrame, same]
      exact chored chores
    · obtain ⟨unseen, closed'⟩ := chored chores
      simp only [dispatchFrame, same, destroy_closed closed']
      exact ⟨unseen, closed'⟩

theorem observed_onFrame (closed : c.closed = true) (empty : c.streams.keys = [])
    (rung : c.pings = ∅) (frame : Frame) :
    (c.onFrame frame).observed = c.observed ∧ (c.onFrame frame).closed = true := by
  have dispatched : (c.dispatch frame).1.observed = c.observed ∧
      (c.dispatch frame).1.closed = true := by
    unfold dispatch
    split
    · exact ⟨rfl, closed⟩
    · exact observed_dispatchFrame closed empty rung frame
  unfold onFrame
  revert dispatched
  obtain ⟨d, result⟩ := c.dispatch frame
  rintro ⟨unseen, closed'⟩
  cases result with
  | ok done => exact ⟨unseen, closed'⟩
  | error fault =>
      cases fault with
      | h2 err =>
          show (d.connectionError err).observed = c.observed ∧ (d.connectionError err).closed = true
          rw [connectionError_closed closed']
          exact ⟨unseen, closed'⟩
      | panic => exact ⟨unseen, closed'⟩

/-- A connection that was destroyed has no ping left. -/
theorem pings_destroy (rung : c.closed = true → c.pings = ∅) (err : H2Error) :
    (c.destroy err).pings = ∅ := by
  cases closed : c.closed with
  | true =>
      rw [destroy_closed closed]
      exact rung closed
  | false => exact (tornDown_destroy closed err).pings

theorem pings_farewell (rung : c.closed = true → c.pings = ∅) (frame : Frame) (err : H2Error) :
    ((c.sendFrame frame).destroy err).pings = ∅ := by
  have desk := c.desk_sendFrame frame
  refine pings_destroy (fun closed => ?_) err
  rw [show (c.sendFrame frame).pings = c.pings from congrArg Desk.pings desk]
  exact rung ((congrArg Desk.closed desk).symm.trans closed)

theorem pings_onFrame (live : c.closed = false) (frame : Frame) :
    (c.onFrame frame).closed = true → (c.onFrame frame).pings = ∅ := by
  -- Only a GOAWAY closes the connection before its frame is dispatched.
  have dispatched : (c.dispatch frame).1.closed = true → (c.dispatch frame).1.pings = ∅ := by
    have stays {d : Client} (same : d.desk.closed = c.desk.closed) (closed : d.closed = true) :
        d.pings = ∅ := by
      rw [show d.closed = c.closed from same, live] at closed
      cases closed
    unfold dispatch
    split
    · exact stays rfl
    · rcases c.chores_dispatchFrame frame with chores | ⟨id, increment, rfl, chores⟩ |
        ⟨id, bytes, endStream, rfl⟩ | ⟨data, rfl⟩ | ⟨lastStreamId, errorCode, debugData, rfl⟩
      · exact stays (congrArg Desk.closed (desk_chores chores))
      · have same := congrArg Desk.closed (desk_chores chores)
        exact stays same
      · have received : (c.receiveDataFrame id bytes endStream).desk.closed = c.desk.closed := by
          cases found : c.streams.lookup id with
          | none => rw [desk_receiveDataFrame_none found]
          | some s => rw [desk_receiveDataFrame found]
        simp only [dispatchFrame]
        split
        · have retired : Chore (c.receiveDataFrame id bytes endStream) _ := .retire id
          exact stays ((congrArg Desk.closed retired.desk).trans received)
        · exact stays received
      · simp only [dispatchFrame, receivePing, if_true]
        split
        · exact stays rfl
        · exact stays rfl
      · obtain ⟨d, chores, same | ⟨err, same⟩⟩ := c.chores_receiveGoaway lastStreamId errorCode
        · simp only [dispatchFrame, same]
          exact stays (congrArg Desk.closed (desk_chores chores))
        · simp only [dispatchFrame, same]
          exact fun _ => pings_destroy (stays (congrArg Desk.closed (desk_chores chores))) err
  unfold onFrame
  revert dispatched
  obtain ⟨d, result⟩ := c.dispatch frame
  intro dispatched
  cases result with
  | ok done => exact dispatched
  | error fault =>
      cases fault with
      | h2 err => exact fun _ => pings_farewell dispatched _ err
      | panic => exact dispatched

theorem closed_tryOpen (c : Client) (i : Nat) (request : Request) :
    (c.tryOpen i request).closed = c.closed := by
  have opened : (c.openStream i request).closed = c.closed := by
    have sent := desk_chores ((c.registerStream i request.body).chores_sendHeaders c.nextStreamId
      (encode request.headers) request.body.isEmpty)
    exact congrArg Desk.closed (sent.trans (c.desk_registerStream i request.body))
  unfold tryOpen
  split
  · rfl
  · split
    · exact opened
    · rfl

theorem pings_step (attended : Attended c) (rung : c.closed = true → c.pings = ∅) (a : Action) :
    (c.step a).closed = true → (c.step a).pings = ∅ := by
  cases live : c.closed with
  | true =>
      have turns := attended.turns a
      exact fun _ => (closed_turns turns live (rung live)).2.1
  | false =>
      -- Callers do not close a connection, except by `close`.
      have stays (same : (c.step a).closed = c.closed) (closed : (c.step a).closed = true) :
          (c.step a).pings = ∅ := by
        rw [same, live] at closed
        cases closed
      cases a with
      | frame frame => exact pings_onFrame live frame
      | corrupt err => exact fun _ => pings_farewell rung _ err
      | transportClosed => exact fun _ => pings_destroy rung _
      | writeFailed => exact fun _ => pings_destroy rung _
      | request request => exact stays (closed_tryOpen _ _ _)
      | pollCall i =>
          refine stays ?_
          simp only [step, pollCall]
          split
          · split
            · rfl
            · exact closed_tryOpen _ _ _
          · split <;> rfl
          · rfl
      | dropCall i =>
          refine stays ?_
          simp only [step, dropCall]
          split <;> rfl
      | pump k => exact stays (congrArg Desk.closed (desk_chores (c.chores_pump k)))
      | read k =>
          refine stays ?_
          simp only [step, read]
          split
          · split
            · exact congrArg Desk.closed (desk_replenishRecvWindow _ _ _)
            · split
              · rfl
              · split <;> rfl
          · rfl
      | dropBody k =>
          by_cases reading : (c.cells k).holder = .reading
          · exact stays (congrArg Desk.closed (desk_dropBody reading))
          · refine stays ?_
            simp only [step, dropBody, reading, if_false]
      | ping => exact stays (congrArg Desk.closed (desk_ping live))
      | close =>
          simp only [step, close, live, Bool.false_eq_true, if_false]
          exact fun _ => pings_farewell rung _ _

/-- What a client keeps in every run. -/
structure Orderly (c : Client) : Prop where
  attended : Attended c
  sound : c.Sealed
  rung : c.closed = true → c.pings = ∅

theorem orderly_step (orderly : Orderly c) (a : Action) : Orderly (c.step a) :=
  ⟨attended_step orderly.attended a, sealed_step c a orderly.sound,
    pings_step orderly.attended orderly.rung a⟩

theorem orderly_after (options : ConnectOptions) (actions : List Action) :
    Orderly (after options actions) := by
  refine Machine.run_invariant (P := Orderly) (fun _ a orderly => orderly_step orderly a) ?_ actions
  refine ⟨attended_connect options, sealed_connect options, fun closed => ?_⟩
  have live : (connect options).closed = false := congrArg Desk.closed (desk_connect options)
  rw [live] at closed
  cases closed

/-! ## Frames after the end -/

theorem observed_onFrames (orderly : Orderly c) (closed : c.closed = true) (frames : List Frame) :
    (c.onFrames frames).observed = c.observed ∧ (c.onFrames frames).closed = true := by
  induction frames generalizing c with
  | nil => exact ⟨rfl, closed⟩
  | cons frame frames ih =>
      obtain ⟨same, closed'⟩ :=
        observed_onFrame closed (orderly.sound.empty closed) (orderly.rung closed) frame
      rw [onFrames]
      split
      · obtain ⟨later, last⟩ := ih (orderly_step orderly (.frame frame)) closed'
        exact ⟨later.trans same, last⟩
      · exact ⟨same, closed'⟩

/-- A frame that cannot be dispatched closes the connection. -/
theorem closed_onFrame {frame : Frame} {fault : Fault} (failed : (c.dispatch frame).2 = .error fault) :
    (c.onFrame frame).closed = true := by
  have calm := c.calm_dispatch frame
  unfold onFrame
  revert failed calm
  obtain ⟨d, result⟩ := c.dispatch frame
  rintro rfl calm
  cases fault with
  | h2 err => exact closed_destroy _ err
  | panic => exact absurd rfl calm

/-- Frames in two parts, if the connection stays open. -/
theorem onFrames_append {first : List Frame} (live : (c.onFrames first).closed = false)
    (second : List Frame) : c.onFrames (first ++ second) = (c.onFrames first).onFrames second := by
  induction first generalizing c with
  | nil => rfl
  | cons frame first ih =>
      rw [onFrames] at live ⊢
      rw [List.cons_append, onFrames]
      cases result : (c.dispatch frame).2 with
      | ok done =>
          simp only [result] at live ⊢
          exact ih live
      | error fault =>
          simp only [result] at live
          rw [closed_onFrame result] at live
          cases live

/-- If it does not, the second part is not observed. -/
theorem observed_onFrames_append (orderly : Orderly c) {first : List Frame}
    (closed : (c.onFrames first).closed = true) (second : List Frame) :
    (c.onFrames (first ++ second)).observed = (c.onFrames first).observed ∧
      (c.onFrames (first ++ second)).closed = true := by
  induction first generalizing c with
  | nil => exact observed_onFrames orderly closed second
  | cons frame first ih =>
      rw [onFrames] at closed ⊢
      rw [List.cons_append, onFrames]
      cases result : (c.dispatch frame).2 with
      | ok done =>
          simp only [result] at closed ⊢
          exact ih (orderly_step orderly (.frame frame)) closed
      | error fault =>
          simp only [result] at closed ⊢
          exact ⟨trivial, closed⟩

theorem orderly_onFrames (orderly : Orderly c) (frames : List Frame) :
    Orderly (c.onFrames frames) := by
  obtain ⟨dispatched, -, same⟩ := c.onFrames_eq_run frames
  rw [same]
  exact Machine.run_invariant (P := Orderly) (fun _ a orderly => orderly_step orderly a) orderly _

/-! ## The read loop -/

/-- The read loop of the driver.  Empty chunks are skipped, and the loop ends once
the connection is closed. -/
def onChunks (d : FrameDecoder) (c : Client) : List Bytes → FrameDecoder × Client
  | [] => (d, c)
  | chunk :: chunks =>
      let (d, c) := if chunk.isEmpty then (d, c) else c.onBytes d chunk
      if c.closed then (d, c) else onChunks d c chunks

theorem onBytes_ok {d : FrameDecoder} {chunk left : Bytes} {frames : List Frame}
    (drained : (frameScanner d.maxFrameSize).drain (d.pending ++ chunk) = .ok (frames, left)) :
    c.onBytes d chunk = ({ d with pending := left }, c.onFrames frames) := by
  simp only [onBytes, FrameDecoder.push, drained]

theorem onBytes_error {d : FrameDecoder} {chunk : Bytes} {err : H2Error}
    (failed : (frameScanner d.maxFrameSize).drain (d.pending ++ chunk) = .error (.h2 err)) :
    c.onBytes d chunk = ({ d with pending := [] }, c.connectionError err) := by
  simp only [onBytes, FrameDecoder.push, failed]

/-- An empty chunk would give no frames. -/
theorem onChunks_cons {d : FrameDecoder} (drained : d.Drained) (chunk : Bytes)
    (chunks : List Bytes) :
    c.onChunks d (chunk :: chunks) =
      if (c.onBytes d chunk).2.closed then c.onBytes d chunk
      else (c.onBytes d chunk).2.onChunks (c.onBytes d chunk).1 chunks := by
  cases chunk with
  | nil =>
      have none : (frameScanner d.maxFrameSize).drain (d.pending ++ []) = .ok ([], d.pending) := by
        rw [List.append_nil]
        exact (frameScanner d.maxFrameSize).drain_more drained
      rw [onBytes_ok none]
      rfl
  | cons byte chunk => rfl

/-- Nobody observes what comes after the end. -/
theorem observed_onChunks_closed (orderly : Orderly c) (closed : c.closed = true)
    {d : FrameDecoder} (drained : d.Drained) (chunks : List Bytes) :
    (c.onChunks d chunks).2.observed = c.observed := by
  cases chunks with
  | nil => rfl
  | cons chunk chunks =>
      have unseen : (c.onBytes d chunk).2.observed = c.observed ∧
          (c.onBytes d chunk).2.closed = true := by
        unfold onBytes
        obtain ⟨d, fault | frames⟩ := d.push chunk
        · cases fault with
          | h2 err =>
              show (c.connectionError err).observed = c.observed ∧ (c.connectionError err).closed = true
              rw [connectionError_closed closed]
              exact ⟨rfl, closed⟩
          | panic => exact ⟨rfl, closed⟩
        · exact observed_onFrames orderly closed frames
      rw [onChunks_cons drained, if_pos unseen.2]
      exact unseen.1

/-- Chunks that the decoder takes. -/
theorem onChunks_fed (orderly : Orderly c) {d : FrameDecoder} (drained : d.Drained)
    {before : List Bytes} {frames : List Frame} {left : Bytes}
    (fed : (frameScanner d.maxFrameSize).feed d.pending before = .ok (frames, left))
    (after : List Bytes) :
    (c.onFrames frames).closed = true ∧
        (c.onChunks d (before ++ after)).2.observed = (c.onFrames frames).observed ∨
      (c.onFrames frames).closed = false ∧
        c.onChunks d (before ++ after) = (c.onFrames frames).onChunks { d with pending := left } after := by
  induction before generalizing c d frames with
  | nil =>
      cases fed
      cases closed : c.closed with
      | true => exact .inl ⟨closed, observed_onChunks_closed orderly closed drained after⟩
      | false => exact .inr ⟨closed, rfl⟩
  | cons chunk before ih =>
      simp only [Scanner.feed] at fed
      cases first : (frameScanner d.maxFrameSize).drain (d.pending ++ chunk) with
      | error fault =>
          rw [first] at fed
          cases fed
      | ok now =>
          obtain ⟨frames₁, left₁⟩ := now
          rw [first] at fed
          simp only [Except.bind] at fed
          cases second : (frameScanner d.maxFrameSize).feed left₁ before with
          | error fault =>
              rw [second] at fed
              cases fed
          | ok later =>
              obtain ⟨frames₂, left₂⟩ := later
              rw [second] at fed
              cases fed
              have drained' : FrameDecoder.Drained { d with pending := left₁ } :=
                (frameScanner d.maxFrameSize).scan_of_drain_ok first
              rw [List.cons_append, onChunks_cons drained, onBytes_ok first]
              cases closed : (c.onFrames frames₁).closed with
              | true =>
                  obtain ⟨same, last⟩ := observed_onFrames_append orderly closed frames₂
                  exact .inl ⟨last, same.symm⟩
              | false =>
                  have rest := ih (orderly_onFrames orderly frames₁) drained' second
                  rw [onFrames_append closed]
                  exact rest

/-- A chunk ends where the last of the decoded frames is complete, or later but before the next one
is rejected: no decoded frame is completed in the chunk in which the decoder fails. -/
def CleanCut (d : FrameDecoder) (good : Bytes) (frames : List Frame) (chunks : List Bytes) : Prop :=
  ∃ before after, chunks = before ++ after ∧
    ((∃ head, (frameScanner d.maxFrameSize).drain head = .ok (frames, []) ∧
        head <+: d.pending ++ before.flatten ∧ before.flatten <+: good) ∨
      ∃ rest, before.flatten = good ++ rest ∧ scanFrame d.maxFrameSize rest = .more)

section

variable {d : FrameDecoder} {good bad : Bytes} {frames : List Frame} {err : H2Error}

/-- Chunks that a decoder takes of good frames and a bad one give part of the good
ones. -/
theorem prefix_of_feed (drained : d.Drained)
    (complete : (frameScanner d.maxFrameSize).drain (d.pending ++ good) = .ok (frames, []))
    (rejected : scanFrame d.maxFrameSize bad = .fail (.h2 err)) {before after : List Bytes}
    (bytes : (before ++ after).flatten = good ++ bad) {delivered : List Frame} {left : Bytes}
    (fed : (frameScanner d.maxFrameSize).feed d.pending before = .ok (delivered, left)) :
    delivered <+: frames := by
  rw [(frameScanner d.maxFrameSize).feed_eq_drain before d.pending drained] at fed
  rw [List.flatten_append] at bytes
  rcases List.append_eq_append_iff.mp bytes with ⟨rest, whole, -⟩ | ⟨rest, front, back⟩
  · rw [whole, ← List.append_assoc] at complete
    exact (frameScanner d.maxFrameSize).drain_front fed complete
  · rw [front, ← List.append_assoc, (frameScanner d.maxFrameSize).drain_append, complete] at fed
    simp only [Except.bind, List.nil_append] at fed
    cases last : (frameScanner d.maxFrameSize).drain rest with
    | error fault =>
        rw [last] at fed
        cases fed
    | ok found =>
        rw [last] at fed
        cases fed
        rw [back] at rejected
        rw [(frameScanner d.maxFrameSize).drain_of_fail rejected last, List.append_nil]

/-- Chunks that a decoder takes, and one at which it fails. -/
theorem observed_onChunks_failed (orderly : Orderly c) (drained : d.Drained)
    {before after : List Bytes} {chunk : Bytes} {now : List Frame × Bytes}
    (fed : (frameScanner d.maxFrameSize).feed d.pending before = .ok now)
    (failed : (frameScanner d.maxFrameSize).drain (now.2 ++ chunk) = .error (.h2 err)) :
    (c.onChunks d (before ++ chunk :: after)).2.observed =
      ((c.onFrames now.1).connectionError err).observed := by
  rcases onChunks_fed orderly drained fed (chunk :: after) with ⟨closed, same⟩ | ⟨live, same⟩
  · rw [same, connectionError_closed closed]
  · have drained' : FrameDecoder.Drained { d with pending := now.2 } :=
      (frameScanner d.maxFrameSize).scan_of_feed_ok drained fed
    have error : (c.onFrames now.1).onBytes { d with pending := now.2 } chunk =
        ({ d with pending := [] }, (c.onFrames now.1).connectionError err) := onBytes_error failed
    have closed : ((c.onFrames now.1).connectionError err).closed = true := closed_destroy _ _
    rw [same, onChunks_cons drained', error, if_pos closed]

/-- The first chunks of a clean cut have all of the frames. -/
theorem units_of_cleanCut
    (complete : (frameScanner d.maxFrameSize).drain (d.pending ++ good) = .ok (frames, []))
    {chunks : List Bytes} (cut : CleanCut d good frames chunks) :
    ∃ before after units left, chunks = before ++ after ∧
      (frameScanner d.maxFrameSize).drain (d.pending ++ before.flatten) = .ok (units, left) ∧
      frames <+: units := by
  obtain ⟨before, after, same, reaches⟩ := cut
  rcases reaches with ⟨head, whole, ⟨tail, within⟩, ⟨short, behind⟩⟩ | ⟨past, beyond, more⟩
  · rw [← behind, ← List.append_assoc] at complete
    obtain ⟨units, left, taken, -⟩ := (frameScanner d.maxFrameSize).drain_part complete
    refine ⟨before, after, units, left, same, taken, ?_⟩
    rw [← within] at taken
    exact (frameScanner d.maxFrameSize).drain_front whole taken
  · refine ⟨before, after, frames, past, same, ?_, List.prefix_rfl⟩
    rw [beyond, ← List.append_assoc, (frameScanner d.maxFrameSize).drain_append, complete]
    simp only [Except.bind, List.nil_append]
    rw [(frameScanner d.maxFrameSize).drain_more more]
    simp [Except.map]

/-- With a clean cut, the chunks before the failure have all of the frames. -/
theorem prefix_of_cleanCut (drained : d.Drained)
    (complete : (frameScanner d.maxFrameSize).drain (d.pending ++ good) = .ok (frames, []))
    {before after : List Bytes} {chunk : Bytes} {now : List Frame × Bytes}
    (fed : (frameScanner d.maxFrameSize).feed d.pending before = .ok now)
    (failed : (frameScanner d.maxFrameSize).drain (now.2 ++ chunk) = .error (.h2 err))
    (cut : CleanCut d good frames (before ++ chunk :: after)) : frames <+: now.1 := by
  rw [(frameScanner d.maxFrameSize).feed_eq_drain before d.pending drained] at fed
  obtain ⟨front, rest, units, left, same, taken, all⟩ := units_of_cleanCut complete cut
  refine all.trans ?_
  rcases List.append_eq_append_iff.mp same with ⟨later, rfl, next⟩ | ⟨later, rfl, -⟩
  · cases later with
    | nil =>
        rw [List.append_nil, fed] at taken
        cases taken
        exact List.prefix_rfl
    | cons first later =>
        -- the front would have the chunk that fails
        obtain ⟨rfl, -⟩ := List.cons.inj next
        rw [List.flatten_append, List.flatten_cons, ← List.append_assoc,
          (frameScanner d.maxFrameSize).drain_append, fed] at taken
        simp only [Except.bind] at taken
        rw [← List.append_assoc, (frameScanner d.maxFrameSize).drain_append, failed] at taken
        cases taken
  · rw [List.flatten_append, ← List.append_assoc] at fed
    exact (frameScanner d.maxFrameSize).drain_front taken fed

end

/-- Frames that arrive before a malformed one are dispatched before the failure,
apart from those that are complete only in the chunk of the failure.  A clean cut
leaves none of them there. -/
theorem observed_onChunks (options : ConnectOptions) (actions : List Action) {d : FrameDecoder}
    (drained : d.Drained) {good bad : Bytes} {frames : List Frame} {err : H2Error}
    (complete : (frameScanner d.maxFrameSize).drain (d.pending ++ good) = .ok (frames, []))
    (rejected : scanFrame d.maxFrameSize bad = .fail (.h2 err)) {chunks : List Bytes}
    (bytes : chunks.flatten = good ++ bad) :
    ∃ delivered, delivered <+: frames ∧ (CleanCut d good frames chunks → delivered = frames) ∧
      ((after options actions).onChunks d chunks).2.observed =
        (((after options actions).onFrames delivered).connectionError err).observed := by
  have orderly := orderly_after options actions
  have fails : (frameScanner d.maxFrameSize).feed d.pending chunks = .error (.h2 err) := by
    rw [(frameScanner d.maxFrameSize).feed_eq_drain chunks d.pending drained, bytes,
      ← List.append_assoc, (frameScanner d.maxFrameSize).drain_append, complete]
    simp only [Except.bind, List.nil_append]
    rw [(frameScanner d.maxFrameSize).drain_fail rejected]
    rfl
  obtain ⟨before, chunk, later, now, rfl, fed, failed⟩ :=
    (frameScanner d.maxFrameSize).feed_error fails
  have part := prefix_of_feed drained complete rejected bytes fed
  refine ⟨now.1, part, fun cut => ?_, observed_onChunks_failed orderly drained fed failed⟩
  exact part.eq_of_length_le (prefix_of_cleanCut drained complete fed failed cut).length_le

/-- A response without a body, on stream 1. -/
def responseBytes : Bytes := serializeFrame (.headers 1 [0x88] true true none)

/-- An empty frame of a type that is not known. -/
def unknownFrame : Bytes := [0, 0, 0, 10, 0, 0, 0, 0, 0]

/-- A WINDOW_UPDATE of three octets. -/
def shortUpdate : Bytes := [0, 0, 3, 8, 0, 0, 0, 0, 0, 0, 0, 1]

def shortUpdateError : H2Error := .new .frameSizeError "WINDOW_UPDATE must be 4 bytes"

/-- The response comes in a chunk of its own.  A frame that is skipped may come with the bad one. -/
theorem observed_onChunks_twoChunks :
    ((after {} [.request (.bare .empty)]).onChunks (.new DEFAULT_MAX_FRAME_SIZE)
        [responseBytes, unknownFrame ++ shortUpdate]).2.observed =
      (((after {} [.request (.bare .empty)]).onFrames
        [.headers 1 [0x88] true true none]).connectionError shortUpdateError).observed := by
  have whole : (frameScanner DEFAULT_MAX_FRAME_SIZE).drain responseBytes =
      .ok ([.headers 1 [0x88] true true none], []) := by decide +kernel
  have cut : CleanCut (.new DEFAULT_MAX_FRAME_SIZE) (responseBytes ++ unknownFrame)
      [.headers 1 [0x88] true true none] [responseBytes, unknownFrame ++ shortUpdate] :=
    ⟨[responseBytes], [unknownFrame ++ shortUpdate], rfl, .inl ⟨responseBytes, whole,
      by decide +kernel, by decide +kernel⟩⟩
  have complete : (frameScanner DEFAULT_MAX_FRAME_SIZE).drain ([] ++ (responseBytes ++ unknownFrame)) =
      .ok ([.headers 1 [0x88] true true none], []) := by decide +kernel
  have rejected : scanFrame DEFAULT_MAX_FRAME_SIZE shortUpdate = .fail (.h2 shortUpdateError) := by
    decide +kernel
  have bytes : [responseBytes, unknownFrame ++ shortUpdate].flatten =
      responseBytes ++ unknownFrame ++ shortUpdate := by decide +kernel
  obtain ⟨delivered, -, all, same⟩ := observed_onChunks {} [.request (.bare .empty)]
    (FrameDecoder.drained_new DEFAULT_MAX_FRAME_SIZE) complete rejected bytes
  rw [same, all cut]

/-- The same bytes in one chunk: the caller gets an error for the response. -/
theorem not_observed_oneChunk :
    (frameScanner DEFAULT_MAX_FRAME_SIZE).drain responseBytes =
        .ok ([.headers 1 [0x88] true true none], []) ∧
      scanFrame DEFAULT_MAX_FRAME_SIZE shortUpdate = .fail (.h2 shortUpdateError) ∧
      ((after {} [.request (.bare .empty)]).onChunks (.new DEFAULT_MAX_FRAME_SIZE)
          [responseBytes ++ shortUpdate]).2.observed ≠
        (((after {} [.request (.bare .empty)]).onFrames
          [.headers 1 [0x88] true true none]).connectionError shortUpdateError).observed := by
  refine ⟨by decide +kernel, by decide +kernel, fun same => ?_⟩
  have heads := congrArg (fun o => o.heads 0) same
  exact absurd heads (by decide +kernel)

end Client

end H2ts
