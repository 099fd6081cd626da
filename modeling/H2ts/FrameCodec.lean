import H2ts.Frames

/-!
# The frame codec round trip

A frame is well formed when its 31-bit fields fit, its weights are in range, an
ACK carries no settings and its payload is within the frame size.  Such a frame
is read back from its serialization (`parsePayload_encodeBody`, one case per
frame shape), also with other bytes behind it (`scanFrame_serializeFrame`).  The
scanner library lifts this to streams: the frames of a concatenation of
serializations come back in order however the bytes are cut.
-/

namespace H2ts

open BigEndian

/-! ## Well-formed frames -/

/-- A dependency below `2^31` and a weight from 1 to 256. -/
def Priority.WellFormed (p : Priority) : Prop :=
  p.streamDependency.toNat < 2 ^ 31 ∧ 1 ≤ p.weight.toNat ∧ p.weight.toNat ≤ 256

instance (p : Priority) : Decidable p.WellFormed := inferInstanceAs (Decidable (_ ∧ _))

/-- The fields of a frame are in the ranges the wire format has for them. -/
def Frame.FieldsInRange : Frame → Prop
  | .data streamId _ _ => streamId.toNat < 2 ^ 31
  | .headers streamId _ _ _ given =>
      streamId.toNat < 2 ^ 31 ∧ ∀ p ∈ given, p.WellFormed
  | .priority streamId given => streamId.toNat < 2 ^ 31 ∧ given.WellFormed
  | .rstStream streamId _ => streamId.toNat < 2 ^ 31
  | .settings ack carried => ack = true → carried = {}
  | .pushPromise streamId promisedStreamId _ _ =>
      streamId.toNat < 2 ^ 31 ∧ promisedStreamId.toNat < 2 ^ 31
  | .ping _ _ => True
  | .goaway lastStreamId _ _ => lastStreamId.toNat < 2 ^ 31
  | .windowUpdate streamId windowSizeIncrement =>
      streamId.toNat < 2 ^ 31 ∧ windowSizeIncrement.toNat < 2 ^ 31
  | .continuation streamId _ _ => streamId.toNat < 2 ^ 31

instance (f : Frame) : Decidable f.FieldsInRange := by
  cases f <;> unfold Frame.FieldsInRange <;> infer_instance

/-- A frame the codec is meant for, under a bound on the payload. -/
def Frame.WellFormed (maxFrameSize : Nat) (f : Frame) : Prop :=
  f.FieldsInRange ∧ (encodeBody f).payload.length ≤ maxFrameSize

instance (maxFrameSize : Nat) (f : Frame) : Decidable (f.WellFormed maxFrameSize) :=
  inferInstanceAs (Decidable (_ ∧ _))

/-! ## Reading back the parts of a payload -/

theorem readBytes_append (front r : Bytes) :
    readBytes (front ++ r) front.length = .ok (front, r) := by
  simp [readBytes, ByteReader.bytes_append]

theorem readBytes_self (all : Bytes) : readBytes all all.length = .ok (all, []) := by
  simpa using readBytes_append all []

theorem readPriority_encodePriority {p : Priority} (wf : p.WellFormed) (r : Bytes) :
    readPriority (encodePriority p ++ r) = .ok (p, r) := by
  obtain ⟨dependency, weight, exclusive⟩ := p
  obtain ⟨small, low, high⟩ := wf
  have weightBack : (weight - 1).toUInt8.toUInt16 + 1 = weight := by
    apply UInt16.toNat_inj.mp
    have one : (1 : UInt16) ≤ weight := low
    simp only [UInt16.toNat_add, UInt8.toNat_toUInt16, UInt16.toNat_toUInt8,
      UInt16.toNat_sub_of_le _ _ one]
    change (_ + 1) % 2 ^ 16 = _
    have same : (weight.toNat - (1 : UInt16).toNat) = weight.toNat - 1 := rfl
    simp only at high low
    rw [same]
    omega
  cases exclusive with
  | false =>
      simp only [encodePriority, low31_eq_self small, List.append_assoc, List.singleton_append,
        readPriority, ByteReader.u32_be32, ByteReader.u8_cons, top_eq_false small, weightBack,
        Bool.false_eq_true, if_false, bind, Except.bind, pure, Except.pure]
  | true =>
      simp only [encodePriority, low31_eq_self small, List.append_assoc, List.singleton_append,
        readPriority, ByteReader.u32_be32, ByteReader.u8_cons, low31_or_top small,
        top_or_top small, weightBack, if_true, bind, Except.bind, pure, Except.pure]

theorem length_encodePriority (p : Priority) : (encodePriority p).length = 5 := rfl

/-! ## SETTINGS entries

Each present parameter is six bytes, and reading an entry records it.  The
entries are read left to right, so the settings read so far are those written
so far. -/

/-- The number of entries written for a parameter. -/
def settingCount (value : Option UInt32) : Nat := value.toList.length

theorem length_encodeSetting (id : UInt16) (value : Option UInt32) :
    (encodeSetting id value).length = 6 * settingCount value := by
  cases value <;> rfl

theorem readSettings_encodeSetting (id : UInt16) (value : Option UInt32) (count : Nat)
    (settings : Settings) (r : Bytes) :
    readSettings (settingCount value + count) settings (encodeSetting id value ++ r) =
      readSettings count ((value.map (applySetting settings id)).getD settings) r := by
  cases value with
  | none => simp [encodeSetting, settingCount]
  | some v =>
      rw [show settingCount (some v) + count = count + 1 by simp [settingCount, Nat.add_comm]]
      simp only [encodeSetting, List.append_assoc, readSettings, ByteReader.u16_be16,
        ByteReader.u32_be32, bind, Except.bind, Option.map_some, Option.getD_some]

/-- The number of entries of a SETTINGS payload. -/
def settingsCount (s : Settings) : Nat :=
  settingCount s.headerTableSize + (settingCount (s.enablePush.map boolToU32) +
    (settingCount s.maxConcurrentStreams + (settingCount s.initialWindowSize +
      (settingCount s.maxFrameSize + (settingCount s.maxHeaderListSize + 0)))))

theorem length_encodeSettings (s : Settings) :
    (encodeSettings s).length = 6 * settingsCount s := by
  simp only [encodeSettings, List.length_append, length_encodeSetting, settingsCount]
  omega

theorem boolToU32_ne_zero (b : Bool) : (boolToU32 b != 0) = b := by
  cases b <;> rfl

theorem readSettings_encodeSettings (s : Settings) :
    readSettings (settingsCount s) {} (encodeSettings s) = .ok s := by
  obtain ⟨tableSize, push, streams, window, frameSize, listSize⟩ := s
  rw [← List.append_nil (encodeSettings _)]
  simp only [encodeSettings, List.append_assoc, settingsCount, readSettings_encodeSetting,
    readSettings]
  cases tableSize <;> cases push <;> cases streams <;> cases window <;> cases frameSize <;>
    cases listSize <;> simp [applySetting, boolToU32_ne_zero]

/-! ## Reading back a payload -/

/-- The flag bits of the encoder are the ones the parser looks for. -/
theorem hasFlag_flagIf (condition : Bool) :
    hasFlag (flagIf condition 0x1) 0x1 = condition ∧
    hasFlag (flagIf condition 0x1) 0x8 = false ∧
    hasFlag (flagIf condition 0x4) 0x4 = condition ∧
    hasFlag (flagIf condition 0x4) 0x8 = false := by
  cases condition <;> decide

theorem hasFlag_headers (endHeaders endStream hasPriority : Bool) :
    let flags := flagIf endHeaders 0x4 ||| flagIf endStream 0x1 ||| flagIf hasPriority 0x20
    hasFlag flags 0x1 = endStream ∧ hasFlag flags 0x4 = endHeaders ∧
    hasFlag flags 0x8 = false ∧ hasFlag flags 0x20 = hasPriority := by
  cases endHeaders <;> cases endStream <;> cases hasPriority <;> decide

theorem checkedSub_zero (n : Nat) (fault : Fault) : checkedSub n 0 fault = .ok n := by
  simp [checkedSub]

theorem checkedSub_add (n k : Nat) (fault : Fault) : checkedSub (n + k) n fault = .ok k := by
  simp [checkedSub]

theorem parseData_encode (streamId : UInt32) (data : Bytes) (endStream : Bool) :
    parseData (flagIf endStream 0x1) streamId data = .ok (.data streamId data endStream) := by
  obtain ⟨endFlag, padFlag, -, -⟩ := hasFlag_flagIf endStream
  simp only [parseData, readPadded, endFlag, padFlag, readBytes_self, Bool.not_false, if_true,
    bind, Except.bind, pure, Except.pure]

theorem parseHeaders_encode_none (streamId : UInt32) (fragment : Bytes)
    (endStream endHeaders : Bool) :
    parseHeaders (flagIf endHeaders 0x4 ||| flagIf endStream 0x1) streamId fragment =
      .ok (.headers streamId fragment endStream endHeaders none) := by
  have flags := hasFlag_headers endHeaders endStream false
  simp only [flagIf, Bool.false_eq_true, if_false, UInt8.or_zero] at flags
  obtain ⟨streamFlag, headersFlag, padFlag, priorityFlag⟩ := flags
  simp only [flagIf, parseHeaders, readPadLength, streamFlag, headersFlag, padFlag, priorityFlag,
    Bool.false_eq_true, if_false, Bool.toNat_false, Nat.add_zero, checkedSub_zero, readBytes_self,
    bind, Except.bind, pure, Except.pure]

theorem parseHeaders_encode_some (streamId : UInt32) (fragment : Bytes)
    (endStream endHeaders : Bool) {p : Priority} (wf : p.WellFormed) :
    parseHeaders (flagIf endHeaders 0x4 ||| flagIf endStream 0x1 ||| 0x20) streamId
        (encodePriority p ++ fragment) =
      .ok (.headers streamId fragment endStream endHeaders (some p)) := by
  have flags := hasFlag_headers endHeaders endStream true
  rw [show flagIf true 0x20 = 0x20 from rfl] at flags
  obtain ⟨streamFlag, headersFlag, padFlag, priorityFlag⟩ := flags
  have length : (encodePriority p ++ fragment).length = 5 + fragment.length := by
    rw [List.length_append, length_encodePriority]
  have long : ¬ ByteReader.remaining (encodePriority p ++ fragment) < 5 := by
    rw [ByteReader.remaining, length]
    omega
  simp only [parseHeaders, readPadLength, streamFlag, headersFlag, padFlag, priorityFlag, long,
    Bool.false_eq_true, if_false, if_true, Bool.toNat_false, Nat.add_zero, Nat.zero_add, length,
    readPriority_encodePriority wf, checkedSub_add, readBytes_self, bind, Except.bind, pure,
    Except.pure]

theorem parsePriority_encode (streamId : UInt32) {p : Priority} (wf : p.WellFormed) :
    parsePriority streamId (encodePriority p) = .ok (.priority streamId p) := by
  have back := readPriority_encodePriority wf []
  rw [List.append_nil] at back
  simp [parsePriority, length_encodePriority, back, bind, Except.bind, pure, Except.pure]

theorem u32_be32_nil (v : UInt32) : ByteReader.u32 (be32 v) = .ok (v, []) := by
  simpa using ByteReader.u32_be32 v []

theorem parseRstStream_encode (streamId errorCode : UInt32) :
    parseRstStream streamId (be32 errorCode) = .ok (.rstStream streamId errorCode) := by
  simp [parseRstStream, u32_be32_nil, bind, Except.bind, pure, Except.pure]

theorem parseSettings_encode {ack : Bool} {settings : Settings}
    (empty : ack = true → settings = {}) :
    parseSettings (flagIf ack 0x1) (encodeSettings settings) = .ok (.settings ack settings) := by
  obtain ⟨ackFlag, -, -, -⟩ := hasFlag_flagIf ack
  have noPayload : (ack && decide ((encodeSettings settings).length ≠ 0)) = false := by
    cases ack with
    | false => rfl
    | true => rw [empty rfl]; rfl
  have whole : (encodeSettings settings).length % 6 = 0 := by
    rw [length_encodeSettings]
    omega
  have entries : (encodeSettings settings).length / 6 = settingsCount settings := by
    rw [length_encodeSettings]
    omega
  simp only [parseSettings, ackFlag, noPayload, whole, entries, readSettings_encodeSettings,
    Bool.false_eq_true, if_false, ne_eq, not_true_eq_false, bind, Except.bind, pure, Except.pure]

theorem parsePushPromise_encode (streamId : UInt32) {promised : UInt32} (fragment : Bytes)
    (endHeaders : Bool) (small : promised.toNat < 2 ^ 31) :
    parsePushPromise (flagIf endHeaders 0x4) streamId (be32 (low31 promised) ++ fragment) =
      .ok (.pushPromise streamId promised fragment endHeaders) := by
  obtain ⟨-, -, headersFlag, padFlag⟩ := hasFlag_flagIf endHeaders
  have length : (be32 promised ++ fragment).length = 4 + fragment.length := by
    rw [List.length_append, length_be32]
  have long : ¬ ByteReader.remaining (be32 promised ++ fragment) < 4 := by
    rw [ByteReader.remaining, length]
    omega
  simp only [parsePushPromise, readPadLength, headersFlag, padFlag, low31_eq_self small, long,
    Bool.false_eq_true, if_false, Bool.toNat_false, Nat.add_zero, Nat.zero_add, length,
    ByteReader.u32_be32, checkedSub_add, readBytes_self, bind, Except.bind, pure, Except.pure]

theorem parsePing_encode (ack : Bool) (opaqueData : OpaqueData) :
    parsePing (flagIf ack 0x1) opaqueData = .ok (.ping ack opaqueData) := by
  obtain ⟨data, eight⟩ := opaqueData
  obtain ⟨ackFlag, -, -, -⟩ := hasFlag_flagIf ack
  have back : readBytes data 8 = .ok (data, []) := by
    rw [← eight]
    exact readBytes_self data
  simp only [parsePing, ackFlag, eight, back, ne_eq, not_true_eq_false, if_false, dif_pos, bind,
    Except.bind, pure, Except.pure]

theorem parseGoaway_encode {lastStreamId : UInt32} (errorCode : UInt32) (debugData : Bytes)
    (small : lastStreamId.toNat < 2 ^ 31) :
    parseGoaway (be32 (low31 lastStreamId) ++ be32 errorCode ++ debugData) =
      .ok (.goaway lastStreamId errorCode debugData) := by
  have length : (be32 lastStreamId ++ (be32 errorCode ++ debugData)).length =
      8 + debugData.length := by
    rw [List.length_append, List.length_append, length_be32, length_be32]
    omega
  have long : ¬ (8 + debugData.length < 8) := by omega
  simp only [low31_eq_self small, List.append_assoc, parseGoaway, length, long, if_false,
    ByteReader.u32_be32, Nat.add_sub_cancel_left, readBytes_self, bind, Except.bind, pure,
    Except.pure]

theorem parseWindowUpdate_encode (streamId : UInt32) {increment : UInt32}
    (small : increment.toNat < 2 ^ 31) :
    parseWindowUpdate streamId (be32 (low31 increment)) =
      .ok (.windowUpdate streamId increment) := by
  simp [parseWindowUpdate, low31_eq_self small, u32_be32_nil, bind, Except.bind, pure,
    Except.pure]

theorem parseContinuation_encode (streamId : UInt32) (fragment : Bytes) (endHeaders : Bool) :
    parseContinuation (flagIf endHeaders 0x4) streamId fragment =
      .ok (.continuation streamId fragment endHeaders) := by
  obtain ⟨-, -, headersFlag, -⟩ := hasFlag_flagIf endHeaders
  simp only [parseContinuation, headersFlag, readBytes_self, bind, Except.bind, pure, Except.pure]

/-- The payload of a frame with fields in range parses to that frame. -/
theorem parsePayload_encodeBody {f : Frame} (inRange : f.FieldsInRange) :
    parsePayload (encodeBody f).typeId (encodeBody f).flags (low31 (encodeBody f).streamId)
      (encodeBody f).payload = .ok (some f) := by
  cases f with
  | data streamId data endStream =>
      simp only [encodeBody, parsePayload, low31_eq_self inRange]
      rw [parseData_encode]
      rfl
  | headers streamId fragment endStream endHeaders given =>
      cases given with
      | none =>
          simp only [encodeBody, parsePayload, low31_eq_self inRange.1]
          rw [parseHeaders_encode_none]
          rfl
      | some p =>
          simp only [encodeBody, parsePayload, low31_eq_self inRange.1]
          rw [parseHeaders_encode_some streamId fragment endStream endHeaders (inRange.2 p rfl)]
          rfl
  | priority streamId given =>
      simp only [encodeBody, parsePayload, low31_eq_self inRange.1]
      rw [parsePriority_encode streamId inRange.2]
      rfl
  | rstStream streamId errorCode =>
      simp only [encodeBody, parsePayload, low31_eq_self inRange]
      rw [parseRstStream_encode]
      rfl
  | settings ack carried =>
      simp only [encodeBody, parsePayload]
      rw [parseSettings_encode inRange]
      rfl
  | pushPromise streamId promised fragment endHeaders =>
      simp only [encodeBody, parsePayload, low31_eq_self inRange.1]
      rw [parsePushPromise_encode streamId fragment endHeaders inRange.2]
      rfl
  | ping ack opaqueData =>
      simp only [encodeBody, parsePayload]
      rw [parsePing_encode]
      rfl
  | goaway lastStreamId errorCode debugData =>
      simp only [encodeBody, parsePayload]
      rw [parseGoaway_encode errorCode debugData inRange]
      rfl
  | windowUpdate streamId increment =>
      simp only [encodeBody, parsePayload, low31_eq_self inRange.1]
      rw [parseWindowUpdate_encode streamId inRange.2]
      rfl
  | continuation streamId fragment endHeaders =>
      simp only [encodeBody, parsePayload, low31_eq_self inRange]
      rw [parseContinuation_encode]
      rfl

/-! ## Reading back a stream of frames -/

/-- A serialized frame is the next unit of the decoding loop. -/
theorem scanFrame_serializeFrame {maxFrameSize : Nat} (small : maxFrameSize ≤ 2 ^ 24 - 1)
    {f : Frame} (wf : f.WellFormed maxFrameSize) (later : Bytes) :
    scanFrame maxFrameSize (serializeFrame f ++ later) = .item (some f) later := by
  obtain ⟨inRange, fits⟩ := wf
  have parsed := parsePayload_encodeBody inRange
  generalize encoded : encodeBody f = e at fits parsed
  have lengthRead : (UInt32.ofNat e.payload.length).toNat % 2 ^ 24 = e.payload.length := by
    rw [UInt32.toNat_ofNat']
    omega
  have clear : low31 (low31 e.streamId) = low31 e.streamId :=
    low31_eq_self (by rw [toNat_low31]; omega)
  have within : ¬ e.payload.length > maxFrameSize := Nat.not_lt_of_le fits
  have complete : ¬ (e.payload ++ later).length < e.payload.length := by simp
  simp only [serializeFrame, encoded, be24, be32, List.cons_append, List.nil_append,
    scanFrame_cons, ofBe24_be24, lengthRead, within, complete, if_false,
    ofBe32_be32, clear, List.take_left, List.drop_left, parsed]

/-- The decoder after draining, and what it returns. -/
def FrameDecoder.finish (d : FrameDecoder) :
    Except Fault (List Frame × Bytes) → FrameDecoder × Except Fault (List Frame)
  | .ok (frames, left) => ({ d with pending := left }, .ok frames)
  | .error fault => ({ d with pending := [] }, .error fault)

theorem FrameDecoder.push_eq_drain (d : FrameDecoder) (chunk : Bytes) :
    d.push chunk = d.finish ((frameScanner d.maxFrameSize).drain (d.pending ++ chunk)) := by
  rw [push]
  rcases (frameScanner d.maxFrameSize).drain (d.pending ++ chunk) with fault | ⟨frames, left⟩ <;> rfl

/-- Pushing chunk by chunk is feeding the scanner. -/
theorem FrameDecoder.pushAll_eq_feed (chunks : List Bytes) (d : FrameDecoder) :
    d.pushAll chunks = d.finish ((frameScanner d.maxFrameSize).feed d.pending chunks) := by
  induction chunks generalizing d with
  | nil => rfl
  | cons chunk chunks ih =>
      rw [pushAll, push_eq_drain, Scanner.feed]
      rcases (frameScanner d.maxFrameSize).drain (d.pending ++ chunk) with fault | ⟨frames, left⟩
      · rfl
      · have tail := ih { d with pending := left }
        simp only [finish, tail, Except.bind]
        rcases (frameScanner d.maxFrameSize).feed left chunks with fault | ⟨later, left⟩ <;> rfl

/-- A new decoder drains the chunks joined. -/
theorem FrameDecoder.pushAll_new (maxFrameSize : Nat) (chunks : List Bytes) :
    (new maxFrameSize).pushAll chunks =
      (new maxFrameSize).finish ((frameScanner maxFrameSize).drain chunks.flatten) := by
  rw [pushAll_eq_feed]
  change finish _ ((frameScanner maxFrameSize).feed [] chunks) = _
  rw [Scanner.feed_eq_drain _ chunks [] rfl, List.nil_append]

theorem drain_serializeFrame {maxFrameSize : Nat} (small : maxFrameSize ≤ 2 ^ 24 - 1)
    {frames : List Frame} (wf : ∀ f ∈ frames, f.WellFormed maxFrameSize) :
    (frameScanner maxFrameSize).drain (frames.flatMap serializeFrame) = .ok (frames, []) :=
  Scanner.drain_flatMap _ rfl frames fun f mem later =>
    scanFrame_serializeFrame small (wf f mem) later

/-- However the serializations of well-formed frames are cut into chunks, the
decoder returns exactly those frames, in order, and keeps no byte back. -/
theorem pushAll_serializeFrame {maxFrameSize : Nat} (small : maxFrameSize ≤ 2 ^ 24 - 1)
    (frames : List Frame) (wf : ∀ f ∈ frames, f.WellFormed maxFrameSize) (chunks : List Bytes)
    (cut : chunks.flatten = frames.flatMap serializeFrame) :
    (FrameDecoder.new maxFrameSize).pushAll chunks =
      (FrameDecoder.new maxFrameSize, .ok frames) := by
  rw [FrameDecoder.pushAll_new, cut, drain_serializeFrame small wf]
  rfl

/-- The cut runs inside the header of the second frame and the payload of the
first. -/
theorem pushAll_serializeFrame_two :
    (FrameDecoder.new 16384).pushAll
        [[0, 0, 3, 0, 1, 0, 0, 0, 1, 7], [8, 9, 0, 0, 4, 8], [0, 0, 0, 0, 0, 0, 0, 1, 0]] =
      (FrameDecoder.new 16384, .ok [.data 1 [7, 8, 9] true, .windowUpdate 0 256]) :=
  pushAll_serializeFrame (by decide) [.data 1 [7, 8, 9] true, .windowUpdate 0 256] (by decide) _
    (by decide)

end H2ts
