import H2ts.Connection.Chunks
import H2ts.Connection.HeaderBlocks
import H2ts.Connection.Padding

/-!
# Unterminated header blocks

Between a HEADERS or PUSH_PROMISE frame without END_HEADERS and the end of its block
the peer may send nothing but CONTINUATION frames of that block.  The guard of `dispatch`
ends the connection at any other frame it is given, and the frame decoder ends it at a
frame it rejects.  But the decoder skips the frames of unknown types, so that the guard
does not see them: a frame that does not continue the block ends the connection if and
only if its type is known or it is too long (`interrupted_iff`).

The fragments of a block are counted by their bytes, and a block of more than `2^20` bytes
ends the connection.  A fragment may be empty.  So the bytes of a pending block are bounded
in every run, and its fragments exactly in the runs that bound the empty ones
(`bounded_iff`).
-/

namespace H2ts

open BigEndian Hpack

/-! ## Interrupting a block -/

namespace RawFrame

/-- The frame goes on with a pending block. -/
def Continues (raw : RawFrame) (pb : PendingHeaderBlock) : Prop :=
  raw.typeId = FrameType.CONTINUATION ∧ low31 raw.streamId = pb.streamId

theorem parse_continuation {raw : RawFrame} {id : UInt32} {fragment : Bytes} {endHeaders : Bool}
    (parsed : raw.parse = .ok (some (.continuation id fragment endHeaders))) :
    raw.typeId = FrameType.CONTINUATION ∧ low31 raw.streamId = id := by
  have typeId : FrameType.CONTINUATION = raw.typeId := typeId_parsePayload parsed
  rw [parse, ← typeId] at parsed
  obtain ⟨frame, same, made⟩ := map_some_eq_ok.mp parsed
  cases same
  rw [parseContinuation, readBytes_self, bind_ok] at made
  cases made
  exact ⟨typeId.symm, rfl⟩

/-- A frame that is too long is rejected at its header. -/
theorem scanFrame_oversize (raw : RawFrame) {maxFrameSize : Nat}
    (large : maxFrameSize < raw.payload.length) :
    ∃ fault, (frameScanner maxFrameSize).scan raw.bytes = .fail fault := by
  have lengthRead : (UInt32.ofNat raw.payload.length).toNat % 2 ^ 24 = raw.payload.length := by
    have short := raw.short
    rw [UInt32.toNat_ofNat']
    omega
  have scanned : scanFrame maxFrameSize raw.bytes = .fail (.new .frameSizeError
      ("frame length " ++ toString raw.payload.length ++ " exceeds max " ++
        toString maxFrameSize)) := by
    simp only [bytes, be24, be32, List.cons_append, List.nil_append, scanFrame_cons, ofBe24_be24,
      lengthRead]
    exact if_pos large
  exact ⟨_, scanned⟩

/-- What the decoder makes of a frame, whatever follows it. -/
theorem scanFrame_append (raw : RawFrame) (maxFrameSize : Nat) (rest : Bytes) :
    (∃ fault, (frameScanner maxFrameSize).scan (raw.bytes ++ rest) = .fail fault) ∨
      (∃ frame, raw.parse = .ok (some frame) ∧
        (frameScanner maxFrameSize).scan (raw.bytes ++ rest) = .item (some frame) rest) ∨
      ¬ Known raw.typeId ∧ raw.payload.length ≤ maxFrameSize ∧
        (frameScanner maxFrameSize).scan (raw.bytes ++ rest) = .item none rest := by
  by_cases large : maxFrameSize < raw.payload.length
  · obtain ⟨fault, failed⟩ := raw.scanFrame_oversize large
    exact .inl ⟨fault, (frameScanner maxFrameSize).fail_append rest failed⟩
  · have fits := Nat.le_of_not_lt large
    have scanned : (frameScanner maxFrameSize).scan raw.bytes = _ := raw.scanFrame_bytes fits
    rcases parsePayload_cases raw.typeId raw.flagBits (low31 raw.streamId) raw.payload with
      ⟨-, result, parsed⟩ | ⟨unknown, parsed⟩
    · have parsed : raw.parse = some <$> result := parsed
      rw [parsed] at scanned
      cases result with
      | error fault => exact .inl ⟨fault, (frameScanner maxFrameSize).fail_append rest scanned⟩
      | ok frame =>
          exact .inr (.inl ⟨frame, parsed, (frameScanner maxFrameSize).item_append rest scanned⟩)
    · have parsed : raw.parse = .ok none := parsed
      rw [parsed] at scanned
      exact .inr (.inr ⟨unknown, fits, (frameScanner maxFrameSize).item_append rest scanned⟩)

end RawFrame

namespace Client

variable {c : Client} {pb : PendingHeaderBlock}

/-- The connection ended with an error. -/
def Ended (c : Client) : Prop := ∃ err, TornDown err c

theorem ended_connectionError (live : c.closed = false) (err : H2Error) :
    Ended (c.connectionError err) := by
  refine ⟨err, tornDown_destroy ?_ err⟩
  exact (congrArg Slots.closed (c.slots_sendFrame _)).trans live

/-- The guard: a frame that does not continue the pending block is refused. -/
theorem dispatch_interrupting (pending : c.pendingHeaderBlock = some pb) {frame : Frame}
    (other : ∀ fragment endHeaders, frame ≠ .continuation pb.streamId fragment endHeaders) :
    ∃ err, c.dispatch frame = (c, .error (.h2 err)) := by
  cases frame with
  | continuation id fragment endHeaders =>
      have ne : pb.streamId ≠ id := by
        rintro rfl
        exact other fragment endHeaders rfl
      refine ⟨.new .protocolError "unexpected CONTINUATION", ?_⟩
      simp only [dispatch, pending, isContinuation, Option.isSome_some, Bool.not_true,
        Bool.and_false, Bool.false_eq_true, if_false, dispatchFrame, ne]
      rfl
  | _ =>
      refine ⟨.new .protocolError "expected CONTINUATION frame", ?_⟩
      simp only [dispatch, pending, isContinuation, Option.isSome_some, Bool.not_false,
        Bool.and_true, if_true]
      rfl

/-- Nothing is dispatched behind a frame that is refused. -/
theorem ended_onFrames {frames later : List Frame} {frame : Frame}
    (live : (c.onFrames frames).closed = false) {err : H2Error}
    (refused : (c.onFrames frames).dispatch frame = (c.onFrames frames, .error (.h2 err))) :
    Ended (c.onFrames (frames ++ frame :: later)) := by
  rw [onFrames_append live, onFrames, onFrame, refused]
  exact ended_connectionError live err

theorem ended_of_drain {d : FrameDecoder} {chunk : Bytes} {fault : Fault} (live : c.closed = false)
    (failed : (frameScanner d.maxFrameSize).drain (d.pending ++ chunk) = .error fault) :
    Ended (c.onBytes d chunk).2 := by
  obtain ⟨err, rfl, -⟩ := refusal_drain failed
  rw [onBytes_error failed]
  exact ended_connectionError live err

section

variable {d : FrameDecoder} {before : Bytes} {frames : List Frame}

/-- A frame that interrupts the block, with anything before and behind it in its chunk. -/
theorem ended_onBytes (start : c.closed = false)
    (decoded : (frameScanner d.maxFrameSize).drain before = .ok (frames, []))
    (live : (c.onFrames frames).closed = false)
    (pending : (c.onFrames frames).pendingHeaderBlock = some pb) {raw : RawFrame}
    (other : ¬ raw.Continues pb) (seen : Known raw.typeId ∨ d.maxFrameSize < raw.payload.length)
    {chunk rest : Bytes} (bytes : d.pending ++ chunk = before ++ raw.bytes ++ rest) :
    Ended (c.onBytes d chunk).2 := by
  have drained := (frameScanner d.maxFrameSize).drain_append before (raw.bytes ++ rest)
  rw [← List.append_assoc, ← bytes, decoded] at drained
  simp only [Except.bind, List.nil_append] at drained
  rcases raw.scanFrame_append d.maxFrameSize rest with ⟨fault, failed⟩ | ⟨frame, parsed, found⟩ |
    ⟨unknown, fits, -⟩
  · rw [(frameScanner d.maxFrameSize).drain_fail failed] at drained
    exact ended_of_drain start drained
  · obtain ⟨err, refused⟩ : ∃ err, (c.onFrames frames).dispatch frame =
        (c.onFrames frames, .error (.h2 err)) := by
      refine dispatch_interrupting pending fun fragment endHeaders same => other ?_
      rw [same] at parsed
      exact RawFrame.parse_continuation parsed
    rw [(frameScanner d.maxFrameSize).drain_item found] at drained
    cases behind : (frameScanner d.maxFrameSize).drain rest with
    | error fault =>
        rw [behind] at drained
        exact ended_of_drain start drained
    | ok later =>
        rw [behind] at drained
        rw [onBytes_ok drained]
        exact ended_onFrames live refused
  · rcases seen with known | large
    · exact absurd known unknown
    · exact absurd fits (Nat.not_le_of_lt large)

/-- A frame of an unknown type is skipped. -/
theorem onBytes_unknown (decoded : (frameScanner d.maxFrameSize).drain before = .ok (frames, []))
    {raw : RawFrame} (unknown : ¬ Known raw.typeId) (fits : raw.payload.length ≤ d.maxFrameSize)
    {chunk : Bytes} (bytes : d.pending ++ chunk = before ++ raw.bytes) :
    (c.onBytes d chunk).2 = c.onFrames frames := by
  have scanned : (frameScanner d.maxFrameSize).scan raw.bytes = _ := raw.scanFrame_bytes fits
  have skipped : raw.parse = .ok none := by
    rcases parsePayload_cases raw.typeId raw.flagBits (low31 raw.streamId) raw.payload with
      ⟨known, -⟩ | ⟨-, parsed⟩
    · exact absurd known unknown
    · exact parsed
  rw [skipped] at scanned
  have nothing : (frameScanner d.maxFrameSize).drain [] = .ok ([], []) :=
    (frameScanner d.maxFrameSize).drain_more rfl
  have drained := (frameScanner d.maxFrameSize).drain_append before raw.bytes
  rw [← bytes, decoded] at drained
  simp only [Except.bind, List.nil_append] at drained
  rw [(frameScanner d.maxFrameSize).drain_item scanned, nothing] at drained
  have taken : (frameScanner d.maxFrameSize).drain (d.pending ++ chunk) = .ok (frames, []) := by
    rw [drained]
    simp [Except.map, Scanner.keep]
  rw [onBytes_ok taken]

/-- While a block is pending, the next frame continues it or ends the connection, if and
only if its type is known or it is too long.  Part of it may have come in chunks before, and
frames of its own chunk stand before and behind it. -/
theorem interrupted_iff (start : c.closed = false)
    (decoded : (frameScanner d.maxFrameSize).drain before = .ok (frames, []))
    (live : (c.onFrames frames).closed = false)
    (pending : (c.onFrames frames).pendingHeaderBlock = some pb) (raw : RawFrame)
    (begun : d.pending <+: before ++ raw.bytes) :
    (∀ chunk rest, d.pending ++ chunk = before ++ raw.bytes ++ rest →
        raw.Continues pb ∨ Ended (c.onBytes d chunk).2) ↔
      Known raw.typeId ∨ d.maxFrameSize < raw.payload.length := by
  constructor
  · intro all
    by_contra unseen
    obtain ⟨unknown, fits⟩ := not_or.mp unseen
    obtain ⟨chunk, bytes⟩ := begun
    rcases all chunk [] (by rw [bytes, List.append_nil]) with ⟨typeId, -⟩ | ⟨err, torn⟩
    · exact unknown (by rw [typeId]; decide)
    · rw [onBytes_unknown decoded unknown (Nat.le_of_not_lt fits) bytes] at torn
      have closed := torn.closed
      rw [live] at closed
      cases closed
  · intro seen chunk rest bytes
    by_cases continues : raw.Continues pb
    · exact .inl continues
    · exact .inr (ended_onBytes start decoded live pending continues seen bytes)

end

/-- HEADERS without END_HEADERS came on stream 1. -/
def unterminated : Client :=
  after {} [.request (.bare .empty), .frame (.headers 1 [0x88] false false none)]

/-- An empty DATA frame on stream 1. -/
def interruption : RawFrame := ⟨FrameType.DATA, 0, 1, [], by decide⟩

/-- An empty frame of type 10 on stream 1. -/
def extension : RawFrame := ⟨0x0a, 0, 1, [], by decide⟩

theorem interrupted_data : Ended (unterminated.onBytes (.new 16384) interruption.bytes).2 := by
  have start : unterminated.closed = false := by decide +kernel
  have decoded : (frameScanner (FrameDecoder.new 16384).maxFrameSize).drain [] = .ok ([], []) := rfl
  have live : (unterminated.onFrames []).closed = false := by decide +kernel
  have pending : (unterminated.onFrames []).pendingHeaderBlock =
      some ⟨1, .response, false, none, [[0x88]], 1⟩ := by decide +kernel
  have begun : (FrameDecoder.new 16384).pending <+: [] ++ interruption.bytes := List.nil_prefix
  have all := (interrupted_iff start decoded live pending interruption begun).mpr (.inl (by decide))
  rcases all interruption.bytes [] (by rfl) with ⟨typeId, -⟩ | ended
  · cases typeId
  · exact ended

/-- A frame of an unknown type stands in the middle of a header block, and the block goes
on. -/
theorem not_interrupted_extension :
    unterminated.closed = false ∧ unterminated.pendingHeaderBlock.isSome = true ∧
      ¬ extension.typeId = FrameType.CONTINUATION ∧
      (unterminated.onBytes (.new 16384) extension.bytes).2.closed = false ∧
      (unterminated.onBytes (.new 16384) extension.bytes).2.pendingHeaderBlock =
        unterminated.pendingHeaderBlock := by
  decide +kernel

/-! ## Flooding a block -/

end Client

namespace PendingHeaderBlock

/-- The size counts the bytes of the fragments, and they are not too many. -/
structure Sized (pb : PendingHeaderBlock) : Prop where
  size : pb.size = (pb.fragments.map List.length).sum
  short : pb.size ≤ MAX_HEADER_BLOCK_SIZE

/-- The empty fragments. -/
def empties (pb : PendingHeaderBlock) : Nat := pb.fragments.count []

theorem empties_le (pb : PendingHeaderBlock) : pb.empties ≤ pb.fragments.length :=
  List.count_le_length

/-- A fragment is empty, or it has a byte. -/
theorem length_le (fragments : List Bytes) :
    fragments.length ≤ fragments.count [] + (fragments.map List.length).sum := by
  induction fragments with
  | nil => exact Nat.zero_le _
  | cons fragment fragments ih =>
      rw [List.length_cons, List.map_cons, List.sum_cons, List.count_cons]
      cases fragment with
      | nil =>
          simp only [beq_self_eq_true, if_true, List.length_nil]
          omega
      | cons byte fragment =>
          simp only [List.length_cons]
          omega

theorem Sized.length_le {pb : PendingHeaderBlock} (sized : pb.Sized) :
    pb.fragments.length ≤ pb.empties + MAX_HEADER_BLOCK_SIZE := by
  have all := PendingHeaderBlock.length_le pb.fragments
  have short := sized.short
  rw [sized.size] at short
  exact all.trans (Nat.add_le_add_left short _)

end PendingHeaderBlock

namespace Client

variable {c : Client}

/-- While the connection is open, its pending block is within bounds. -/
def Bounded (bound : Nat) (c : Client) : Prop :=
  c.closed = false → ∀ pb, c.pendingHeaderBlock = some pb →
    pb.size = (pb.fragments.map List.length).sum ∧ pb.size ≤ 2 ^ 20 ∧ pb.fragments.length ≤ bound

/-- A block that holds so many empty fragments gets no further one. -/
def Sparse (limit : Nat) (c : Client) (a : Action) : Prop :=
  c.closed = false → ∀ pb, c.pendingHeaderBlock = some pb →
    a = .frame (.continuation pb.streamId [] false) → pb.empties < limit

/-- What a block is after a frame. -/
inductive Grown (c : Client) (a : Action) : Option PendingHeaderBlock → Prop where
  | same {pending : Option PendingHeaderBlock} (unchanged : pending = c.pendingHeaderBlock) :
      Grown c a pending
  | done : Grown c a none
  | opened {pb : PendingHeaderBlock} (fragment : Bytes) (one : pb.fragments = [fragment])
      (size : pb.size = fragment.length) (short : pb.size ≤ MAX_HEADER_BLOCK_SIZE) :
      Grown c a (some pb)
  | continued {pb : PendingHeaderBlock} (fragment : Bytes)
      (pending : c.pendingHeaderBlock = some pb)
      (continues : a = .frame (.continuation pb.streamId fragment false))
      (short : pb.size + fragment.length ≤ MAX_HEADER_BLOCK_SIZE) :
      Grown c a (some { pb with
        size := pb.size + fragment.length
        fragments := pb.fragments ++ [fragment] })

/-- A block that has grown waits if it is short and not at its end. -/
theorem pending_growHeaderBlock {pb : PendingHeaderBlock} {endHeaders : Bool}
    (grown : (c.growHeaderBlock pb endHeaders).2 = .ok ()) :
    (c.growHeaderBlock pb endHeaders).1.pendingHeaderBlock = none ∨
      endHeaders = false ∧ pb.size ≤ MAX_HEADER_BLOCK_SIZE ∧
        (c.growHeaderBlock pb endHeaders).1.pendingHeaderBlock = some pb := by
  simp only [growHeaderBlock, guardHeaderBlockSize] at grown ⊢
  by_cases long : pb.size > MAX_HEADER_BLOCK_SIZE
  · rw [if_pos long] at grown
    cases grown
  · rw [if_neg long] at grown ⊢
    cases endHeaders with
    | false => exact .inr ⟨rfl, Nat.le_of_not_lt long, rfl⟩
    | true =>
        left
        simp only [if_true, completeHeaderBlock] at grown ⊢
        split at grown
        next => cases grown
        next headers decoded =>
          have context := headerContext_of_inbound (inbound_takeHeaderBlock
            { c with pendingHeaderBlock := none, decoder := (c.decoder.decode pb.fragments.flatten).1 }
            pb headers)
          exact congrArg Prod.snd context

theorem grown_dispatch {frame : Frame} (dispatched : (c.dispatch frame).2 = .ok ()) :
    Grown c (.frame frame) (c.dispatch frame).1.pendingHeaderBlock := by
  have opening {pb : PendingHeaderBlock} {fragment : Bytes} {endHeaders : Bool}
      (one : pb.fragments = [fragment]) (size : pb.size = fragment.length)
      (grown : (c.growHeaderBlock pb endHeaders).2 = .ok ()) :
      Grown c (.frame frame) (c.growHeaderBlock pb endHeaders).1.pendingHeaderBlock := by
    rcases pending_growHeaderBlock grown with same | ⟨-, short, same⟩
    · rw [same]
      exact .done
    · rw [same]
      exact .opened fragment one size short
  unfold dispatch at dispatched ⊢
  split at dispatched
  next => cases dispatched
  next allowed =>
    rw [if_neg allowed]
    cases frame with
    | headers id fragment endStream endHeaders priority => exact opening rfl rfl dispatched
    | pushPromise id promised fragment endHeaders => exact opening rfl rfl dispatched
    | continuation id fragment endHeaders =>
        simp only [dispatchFrame] at dispatched ⊢
        cases pending : c.pendingHeaderBlock with
        | none =>
            rw [pending] at dispatched
            cases dispatched
        | some pb =>
            rw [pending] at dispatched
            simp only [] at dispatched ⊢
            split at dispatched
            next own =>
              rw [if_pos own]
              rcases pending_growHeaderBlock dispatched with same | ⟨unfinished, short, same⟩
              · rw [same]
                exact .done
              · rw [same]
                refine .continued fragment pending ?_ short
                rw [own, unfinished]
            next => cases dispatched
    | _ => exact .same (congrArg Prod.snd (c.headerContext_dispatchFrame rfl))

theorem grown_step (a : Action) (live : (c.step a).closed = false) :
    Grown c a (c.step a).pendingHeaderBlock := by
  by_cases own : ∀ frame, a ≠ .frame frame
  · exact .same (congrArg Prod.snd (headerContext_of_inbound (c.inbound_step own)))
  · obtain ⟨frame, rfl⟩ : ∃ frame, a = .frame frame := by simpa using own
    have live : (c.onFrame frame).closed = false := live
    have dispatched : (c.dispatch frame).2 = .ok () := by
      cases result : (c.dispatch frame).2 with
      | ok done => rfl
      | error fault =>
          rw [closed_onFrame result] at live
          cases live
    have same : c.onFrame frame = (c.dispatch frame).1 := by
      unfold onFrame
      revert dispatched
      obtain ⟨d, result⟩ := c.dispatch frame
      rintro rfl
      rfl
    have grown := grown_dispatch dispatched
    rw [← same] at grown
    exact grown

/-! ### Runs -/

/-- The pending block of an open connection is sized. -/
structure Weighed (c : Client) : Prop where
  attended : Attended c
  sized : c.closed = false → ∀ pb, c.pendingHeaderBlock = some pb → pb.Sized

theorem weighed_step (weighed : Weighed c) (a : Action) : Weighed (c.step a) := by
  refine ⟨attended_step weighed.attended a, fun live pb pending => ?_⟩
  have turns := weighed.attended.turns a
  have before := weighed.sized (live_turns turns live).1
  have grown := grown_step a live
  rw [pending] at grown
  cases grown with
  | same unchanged => exact before pb unchanged.symm
  | opened fragment one size short =>
      refine ⟨?_, short⟩
      rw [one, size]
      rfl
  | continued fragment held continues short =>
      refine ⟨?_, short⟩
      rw [(before _ held).size, List.map_append, List.sum_append]
      rfl

theorem pending_connect (options : ConnectOptions) : (connect options).pendingHeaderBlock = none := by
  simp only [connect]
  split <;> rfl

theorem weighed_connect (options : ConnectOptions) : Weighed (connect options) := by
  refine ⟨attended_connect options, fun _ pb pending => ?_⟩
  rw [pending_connect] at pending
  cases pending

/-- In a run that is sparse the empty fragments are few. -/
structure Frugal (limit : Nat) (c : Client) : Prop where
  weighed : Weighed c
  few : c.closed = false → ∀ pb, c.pendingHeaderBlock = some pb → pb.empties ≤ limit + 1

theorem frugal_step {limit : Nat} (frugal : Frugal limit c) {a : Action} (sparse : Sparse limit c a) :
    Frugal limit (c.step a) := by
  refine ⟨weighed_step frugal.weighed a, fun live pb pending => ?_⟩
  have turns := frugal.weighed.attended.turns a
  have before := (live_turns turns live).1
  have grown := grown_step a live
  rw [pending] at grown
  cases grown with
  | same unchanged => exact frugal.few before pb unchanged.symm
  | opened fragment one size short =>
      have most := pb.empties_le
      rw [one] at most
      exact most.trans (Nat.le_add_left 1 limit)
  | continued fragment held continues short =>
      rename_i old
      have few := frugal.few before old held
      have sum : (old.fragments ++ [fragment]).count [] = old.empties + [fragment].count [] :=
        List.count_append
      show (old.fragments ++ [fragment]).count [] ≤ limit + 1
      cases fragment with
      | nil =>
          have less := sparse before old held continues
          rw [sum]
          exact Nat.add_le_add_right less.le 1
      | cons byte fragment =>
          rw [sum]
          exact few

theorem frugal_connect (limit : Nat) (options : ConnectOptions) : Frugal limit (connect options) := by
  refine ⟨weighed_connect options, fun _ pb pending => ?_⟩
  rw [pending_connect] at pending
  cases pending

theorem Frugal.bounded {limit : Nat} (frugal : Frugal limit c) : Bounded (limit + 1 + 2 ^ 20) c := by
  intro live pb pending
  have sized := frugal.weighed.sized live pb pending
  refine ⟨sized.size, sized.short, ?_⟩
  exact sized.length_le.trans (Nat.add_le_add_right (frugal.few live pb pending) _)

/-- In every run the bytes of a pending block are counted and bounded.  Its fragments are
bounded in exactly the runs that bound the empty ones. -/
theorem bounded_iff (options : ConnectOptions) (runs : Set (List Action)) :
    (∀ actions, (after options actions).closed = false → ∀ pb,
        (after options actions).pendingHeaderBlock = some pb →
        pb.size = (pb.fragments.map List.length).sum ∧ pb.size ≤ 2 ^ 20) ∧
      ((∃ bound, ∀ actions ∈ runs,
          Machine.Along step (fun c a => Bounded bound (c.step a)) (connect options) actions) ↔
        ∃ limit, ∀ actions ∈ runs, Machine.Along step (Sparse limit) (connect options) actions) := by
  refine ⟨fun actions live pb pending => ?_, ?_, ?_⟩
  · have weighed := Machine.run_invariant (P := Weighed) (fun _ a weighed => weighed_step weighed a)
      (weighed_connect options) actions
    have sized := weighed.sized live pb pending
    exact ⟨sized.size, sized.short⟩
  · rintro ⟨bound, all⟩
    refine ⟨bound + 1, fun actions mem => ?_⟩
    have start : Bounded bound (connect options) := by
      intro live pb pending
      rw [pending_connect] at pending
      cases pending
    refine Machine.along_mono ?_ (Machine.along_before start (all actions mem))
    intro c a bounded live pb pending _
    exact Nat.lt_succ_of_le (pb.empties_le.trans (bounded live pb pending).2.2)
  · rintro ⟨limit, all⟩
    refine ⟨limit + 1 + 2 ^ 20, fun actions mem => ?_⟩
    have along := Machine.along_next (P := Frugal limit) (fun _ _ frugal sparse =>
      frugal_step frugal sparse) (frugal_connect limit options) (all actions mem)
    exact Machine.along_mono (fun _ _ frugal => frugal.bounded) along

/-- Empty CONTINUATION frames. -/
def emptyFlood (n : Nat) : List Action :=
  .frame (.headers 1 [] false false none) :: List.replicate n (.frame (.continuation 1 [] false))

/-- An open block takes an empty fragment. -/
theorem step_empty (c : Client) (opening : Opening) {fragments : List Bytes}
    (short : fragments.flatten.length ≤ MAX_HEADER_BLOCK_SIZE) :
    (c.await opening fragments).step (.frame (.continuation opening.streamId [] false)) =
      c.await opening (fragments ++ [[]]) := by
  have still : (fragments ++ [[]]).flatten.length ≤ MAX_HEADER_BLOCK_SIZE := by simpa using short
  show onFrame _ _ = _
  rw [onFrame, dispatch_continuation, growHeaderBlock_short c opening still]
  rfl

theorem run_empties (c : Client) (opening : Opening) (n : Nat) {fragments : List Bytes}
    (short : fragments.flatten.length ≤ MAX_HEADER_BLOCK_SIZE) :
    Machine.run step (c.await opening fragments)
        (List.replicate n (.frame (.continuation opening.streamId [] false))) =
      c.await opening (fragments ++ List.replicate n []) := by
  induction n generalizing fragments with
  | zero => rw [List.replicate_zero, List.replicate_zero, Machine.run_nil, List.append_nil]
  | succ n ih =>
      have still : (fragments ++ [[]]).flatten.length ≤ MAX_HEADER_BLOCK_SIZE := by simpa using short
      rw [List.replicate_succ, List.replicate_succ, Machine.run_cons, step_empty c opening short,
        ih still, List.append_assoc, List.singleton_append]

theorem after_emptyFlood (n : Nat) :
    after {} (emptyFlood n) =
      (connect {}).await (.headers 1 false none) ([] :: List.replicate n []) := by
  have opened : (connect {}).step (.frame (.headers 1 [] false false none)) =
      (connect {}).await (.headers 1 false none) [[]] := rfl
  rw [after, emptyFlood, Machine.run_cons, opened]
  exact (connect {}).run_empties (.headers 1 false none) n (Nat.zero_le _)

/-- No bound holds for every run. -/
theorem not_bounded_emptyFlood :
    ¬ ∃ bound, ∀ actions, Bounded bound (after {} actions) := by
  rintro ⟨bound, all⟩
  have held := all (emptyFlood bound)
  rw [after_emptyFlood] at held
  have few := (held rfl _ rfl).2.2
  simp only [Opening.pending, List.length_cons, List.length_replicate] at few
  exact absurd few (Nat.not_succ_le_self bound)

end Client

end H2ts
