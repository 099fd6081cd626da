import H2ts.FrameCodec

/-!
# Cutting a byte stream

A transport may cut the bytes of a connection anywhere.  `FrameDecoder` does not
notice: pushing the chunks of a string one by one gives the frames and the rest
that pushing the string at once gives, and fails with the same error if that
fails (`pushAll_flatten`).  This is `Scanner.feed_eq_drain` for `frameScanner`.

Between pushes the decoder holds back part of one frame.  The bytes it holds do
not exceed what it may have to wait for (`partialFrame_of_scan`).
-/

namespace H2ts

open BigEndian

/-! ## Partial frames -/

/-- The layout of a frame: a 9-byte header, and as many bytes as it announces.  The
payload may be anything. -/
def IsFrame (bytes : Bytes) : Prop :=
  ∃ l0 l1 l2 typeId flagBits s0 s1 s2 s3 payload,
    bytes = l0 :: l1 :: l2 :: typeId :: flagBits :: s0 :: s1 :: s2 :: s3 :: payload ∧
      payload.length = ofBe24 l0 l1 l2

/-- The beginning of a frame, but not the whole of it. -/
def PartialFrame (bytes : Bytes) : Prop := ∃ frame, IsFrame frame ∧ bytes <+: frame ∧ bytes ≠ frame

theorem header_of_length {bytes : Bytes} (long : FRAME_HEADER_SIZE ≤ bytes.length) :
    ∃ l0 l1 l2 typeId flagBits s0 s1 s2 s3 rest,
      bytes = l0 :: l1 :: l2 :: typeId :: flagBits :: s0 :: s1 :: s2 :: s3 :: rest := by
  match bytes, long with
  | l0 :: l1 :: l2 :: typeId :: flagBits :: s0 :: s1 :: s2 :: s3 :: rest, _ =>
      exact ⟨l0, l1, l2, typeId, flagBits, s0, s1, s2, s3, rest, rfl⟩

theorem isFrame_header {header : Bytes} (nine : header.length = FRAME_HEADER_SIZE) :
    ∃ payload, IsFrame (header ++ payload) := by
  match header, nine with
  | [l0, l1, l2, typeId, flagBits, s0, s1, s2, s3], _ =>
      exact ⟨List.replicate (ofBe24 l0 l1 l2) 0, l0, l1, l2, typeId, flagBits, s0, s1, s2, s3, _,
        rfl, List.length_replicate⟩

/-- Fewer bytes than a header can go on to a frame. -/
theorem partialFrame_of_short {bytes : Bytes} (short : bytes.length < FRAME_HEADER_SIZE) :
    PartialFrame bytes := by
  have nine : (bytes ++ List.replicate (FRAME_HEADER_SIZE - bytes.length) 0).length =
      FRAME_HEADER_SIZE := by
    rw [List.length_append, List.length_replicate]
    omega
  obtain ⟨payload, frame⟩ := isFrame_header nine
  rw [List.append_assoc] at frame
  refine ⟨_, frame, List.prefix_append _ _, fun same => ?_⟩
  have length := congrArg List.length same
  rw [List.length_append, List.length_append, List.length_replicate] at length
  omega

/-- A decoder that asks for more holds part of a frame, and not more of it than the
largest frame has. -/
theorem partialFrame_of_scan {maxFrameSize : Nat} {bytes : Bytes}
    (more : scanFrame maxFrameSize bytes = .more) :
    PartialFrame bytes ∧ bytes.length < FRAME_HEADER_SIZE + maxFrameSize := by
  by_cases short : bytes.length < FRAME_HEADER_SIZE
  · exact ⟨partialFrame_of_short short, Nat.lt_add_right _ short⟩
  obtain ⟨l0, l1, l2, typeId, flagBits, s0, s1, s2, s3, rest, rfl⟩ :=
    header_of_length (Nat.le_of_not_lt short)
  rw [scanFrame_cons] at more
  split at more
  next => cases more
  next within =>
    split at more
    next waiting =>
      refine ⟨⟨l0 :: l1 :: l2 :: typeId :: flagBits :: s0 :: s1 :: s2 :: s3 ::
        (rest ++ List.replicate (ofBe24 l0 l1 l2 - rest.length) 0), ?_, ?_, ?_⟩, ?_⟩
      · refine ⟨l0, l1, l2, typeId, flagBits, s0, s1, s2, s3, _, rfl, ?_⟩
        rw [List.length_append, List.length_replicate]
        omega
      · simp
      · intro same
        have length := congrArg List.length same
        simp only [List.length_cons, List.length_append, List.length_replicate] at length
        omega
      · simp only [List.length_cons, FRAME_HEADER_SIZE]
        omega
    next => split at more <;> cases more

/-! ## Chunks -/

namespace FrameDecoder

/-- The decoder has taken every frame it can out of its bytes. -/
def Drained (d : FrameDecoder) : Prop := scanFrame d.maxFrameSize d.pending = .more

theorem drained_new (maxFrameSize : Nat) : (new maxFrameSize).Drained := rfl

/-- Pushes that succeed leave a drained decoder. -/
theorem Drained.pushAll {d d' : FrameDecoder} (drained : d.Drained) {chunks : List Bytes}
    {frames : List Frame} (pushed : d.pushAll chunks = (d', .ok frames)) :
    d'.Drained ∧ d'.maxFrameSize = d.maxFrameSize := by
  rw [pushAll_eq_feed] at pushed
  rcases fed : (frameScanner d.maxFrameSize).feed d.pending chunks with fault | ⟨now, left⟩
  · rw [fed] at pushed
    cases pushed
  · rw [fed] at pushed
    cases pushed
    exact ⟨(frameScanner d.maxFrameSize).scan_of_feed_ok drained fed, rfl⟩

/-- Chunk by chunk or at once, a drained decoder ends alike. -/
theorem Drained.pushAll_eq_push {d : FrameDecoder} (drained : d.Drained) (chunks : List Bytes) :
    d.pushAll chunks = d.push chunks.flatten := by
  rw [pushAll_eq_feed, push_eq_drain,
    (frameScanner d.maxFrameSize).feed_eq_drain chunks d.pending drained]

/-- The chunk at which the pushes fail. -/
theorem pushAll_error {d d' : FrameDecoder} {chunks : List Bytes} {fault : Fault}
    (failed : d.pushAll chunks = (d', .error fault)) :
    ∃ before chunk after now frames, chunks = before ++ chunk :: after ∧
      d.pushAll before = (now, .ok frames) ∧ (now.push chunk).2 = .error fault := by
  rw [pushAll_eq_feed] at failed
  rcases fed : (frameScanner d.maxFrameSize).feed d.pending chunks with error | now
  · rw [fed] at failed
    cases failed
    obtain ⟨before, chunk, after, now, split, first, stuck⟩ := Scanner.feed_error _ fed
    refine ⟨before, chunk, after, { d with pending := now.2 }, now.1, split, ?_, ?_⟩
    · rw [pushAll_eq_feed, first]
      rfl
    · rw [push_eq_drain]
      exact congrArg (fun result => (finish _ result).2) stuck
  · rw [fed] at failed
    cases failed

end FrameDecoder

/-- However a string is cut into chunks, a new decoder gives the frames of the
string and keeps the same bytes back; or it fails at one of the chunks, with the
error of the string.  Between the chunks it holds part of one frame. -/
theorem pushAll_flatten (maxFrameSize : Nat) (chunks : List Bytes) :
    (match (FrameDecoder.new maxFrameSize).push chunks.flatten with
      | (d, .ok frames) => (FrameDecoder.new maxFrameSize).pushAll chunks = (d, .ok frames)
      | (_, .error fault) => ∃ before chunk after d frames, chunks = before ++ chunk :: after ∧
          (FrameDecoder.new maxFrameSize).pushAll before = (d, .ok frames) ∧
          (d.push chunk).2 = .error fault) ∧
    ∀ before after d frames, chunks = before ++ after →
      (FrameDecoder.new maxFrameSize).pushAll before = (d, .ok frames) →
      PartialFrame d.pending ∧ d.pending.length < FRAME_HEADER_SIZE + maxFrameSize := by
  have fresh := FrameDecoder.drained_new maxFrameSize
  refine ⟨?_, fun before after d frames split pushed => ?_⟩
  · rw [← fresh.pushAll_eq_push]
    rcases pushed : (FrameDecoder.new maxFrameSize).pushAll chunks with ⟨d, fault | frames⟩
    · exact FrameDecoder.pushAll_error pushed
    · rfl
  · obtain ⟨drained, same⟩ := fresh.pushAll pushed
    have held := partialFrame_of_scan drained
    rwa [same] at held

end H2ts
