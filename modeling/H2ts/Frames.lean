import H2ts.Bytes
import H2ts.Lib.Scanner

/-!
# Frames

The HTTP/2 frame model and codec of `frames.rs` (RFC 7540 §6).  `serializeFrame`
writes the 9-byte header and the payload.  `FrameDecoder.push` takes complete
frames out of arbitrary byte chunks, skipping unknown frame types, and keeps a
partial frame for the next chunk.

The decoding loop is an instance of the scanner library: `scanFrame` is the loop
body of `FrameDecoder::push` on the bytes from `offset` on, and `frameScanner`
packs it with the laws that make it independent of the cuts between chunks.
-/

namespace H2ts

open BigEndian

def FRAME_HEADER_SIZE : Nat := 9

def DEFAULT_MAX_FRAME_SIZE : Nat := 16384

/-! ## Frame types and flags -/

namespace FrameType

@[match_pattern] abbrev DATA : UInt8 := 0x0
@[match_pattern] abbrev HEADERS : UInt8 := 0x1
@[match_pattern] abbrev PRIORITY : UInt8 := 0x2
@[match_pattern] abbrev RST_STREAM : UInt8 := 0x3
@[match_pattern] abbrev SETTINGS : UInt8 := 0x4
@[match_pattern] abbrev PUSH_PROMISE : UInt8 := 0x5
@[match_pattern] abbrev PING : UInt8 := 0x6
@[match_pattern] abbrev GOAWAY : UInt8 := 0x7
@[match_pattern] abbrev WINDOW_UPDATE : UInt8 := 0x8
@[match_pattern] abbrev CONTINUATION : UInt8 := 0x9

end FrameType

namespace Flags

abbrev DATA_END_STREAM : UInt8 := 0x1
abbrev DATA_PADDED : UInt8 := 0x8
abbrev HEADERS_END_STREAM : UInt8 := 0x1
abbrev HEADERS_END_HEADERS : UInt8 := 0x4
abbrev HEADERS_PADDED : UInt8 := 0x8
abbrev HEADERS_PRIORITY : UInt8 := 0x20
abbrev SETTINGS_ACK : UInt8 := 0x1
abbrev PING_ACK : UInt8 := 0x1
abbrev PUSH_PROMISE_END_HEADERS : UInt8 := 0x4
abbrev PUSH_PROMISE_PADDED : UInt8 := 0x8
abbrev CONTINUATION_END_HEADERS : UInt8 := 0x4

end Flags

/-- Whether a flag bit is set. -/
def hasFlag (flagBits flag : UInt8) : Bool := flagBits &&& flag != 0

/-! ## The frame model -/

/-- SETTINGS parameters; an absent one is `none`. -/
structure Settings where
  headerTableSize : Option UInt32 := none
  enablePush : Option Bool := none
  maxConcurrentStreams : Option UInt32 := none
  initialWindowSize : Option UInt32 := none
  maxFrameSize : Option UInt32 := none
  maxHeaderListSize : Option UInt32 := none
deriving DecidableEq, Repr

/-- Stream priority.  The weight is the human value, 1 to 256. -/
structure Priority where
  streamDependency : UInt32
  weight : UInt16
  exclusive : Bool
deriving DecidableEq, Repr

/-- The eight opaque bytes of a PING. -/
abbrev OpaqueData := { data : Bytes // data.length = 8 }

/-- A frame.  SETTINGS, PING and GOAWAY carry stream id 0 implicitly. -/
inductive Frame where
  | data (streamId : UInt32) (data : Bytes) (endStream : Bool)
  | headers (streamId : UInt32) (headerBlockFragment : Bytes) (endStream endHeaders : Bool)
      (priority : Option Priority)
  | priority (streamId : UInt32) (priority : Priority)
  | rstStream (streamId : UInt32) (errorCode : UInt32)
  | settings (ack : Bool) (settings : Settings)
  | pushPromise (streamId promisedStreamId : UInt32) (headerBlockFragment : Bytes)
      (endHeaders : Bool)
  | ping (ack : Bool) (opaqueData : OpaqueData)
  | goaway (lastStreamId errorCode : UInt32) (debugData : Bytes)
  | windowUpdate (streamId windowSizeIncrement : UInt32)
  | continuation (streamId : UInt32) (headerBlockFragment : Bytes) (endHeaders : Bool)
deriving DecidableEq, Repr

/-! ## Encoding -/

/-- A frame before its header is written. -/
structure Encoded where
  typeId : UInt8
  flags : UInt8
  streamId : UInt32
  payload : Bytes

/-- The flag when the condition holds. -/
def flagIf (condition : Bool) (flag : UInt8) : UInt8 := if condition then flag else 0

/-- The five priority bytes: the dependency with the exclusive bit, and the
weight less one. -/
def encodePriority (p : Priority) : Bytes :=
  let dep := low31 p.streamDependency
  be32 (if p.exclusive then dep ||| 0x80000000 else dep) ++ [(p.weight - 1).toUInt8]

/-- One SETTINGS entry, if the parameter is present. -/
def encodeSetting (id : UInt16) : Option UInt32 → Bytes
  | none => []
  | some value => be16 id ++ be32 value

/-- `u32::from` of a flag. -/
def boolToU32 (b : Bool) : UInt32 := if b then 1 else 0

def encodeSettings (s : Settings) : Bytes :=
  encodeSetting 0x1 s.headerTableSize ++ encodeSetting 0x2 (s.enablePush.map boolToU32) ++
    encodeSetting 0x3 s.maxConcurrentStreams ++ encodeSetting 0x4 s.initialWindowSize ++
    encodeSetting 0x5 s.maxFrameSize ++ encodeSetting 0x6 s.maxHeaderListSize

def encodeBody : Frame → Encoded
  | .data streamId data endStream =>
      ⟨FrameType.DATA, flagIf endStream Flags.DATA_END_STREAM, streamId, data⟩
  | .headers streamId fragment endStream endHeaders priority =>
      let f := flagIf endHeaders Flags.HEADERS_END_HEADERS |||
        flagIf endStream Flags.HEADERS_END_STREAM
      match priority with
      | some p => ⟨FrameType.HEADERS, f ||| Flags.HEADERS_PRIORITY, streamId,
          encodePriority p ++ fragment⟩
      | none => ⟨FrameType.HEADERS, f, streamId, fragment⟩
  | .priority streamId priority => ⟨FrameType.PRIORITY, 0, streamId, encodePriority priority⟩
  | .rstStream streamId errorCode => ⟨FrameType.RST_STREAM, 0, streamId, be32 errorCode⟩
  | .settings ack settings =>
      ⟨FrameType.SETTINGS, flagIf ack Flags.SETTINGS_ACK, 0, encodeSettings settings⟩
  | .pushPromise streamId promisedStreamId fragment endHeaders =>
      ⟨FrameType.PUSH_PROMISE, flagIf endHeaders Flags.PUSH_PROMISE_END_HEADERS, streamId,
        be32 (low31 promisedStreamId) ++ fragment⟩
  | .ping ack opaqueData => ⟨FrameType.PING, flagIf ack Flags.PING_ACK, 0, opaqueData⟩
  | .goaway lastStreamId errorCode debugData =>
      ⟨FrameType.GOAWAY, 0, 0, be32 (low31 lastStreamId) ++ be32 errorCode ++ debugData⟩
  | .windowUpdate streamId windowSizeIncrement =>
      ⟨FrameType.WINDOW_UPDATE, 0, streamId, be32 (low31 windowSizeIncrement)⟩
  | .continuation streamId fragment endHeaders =>
      ⟨FrameType.CONTINUATION, flagIf endHeaders Flags.CONTINUATION_END_HEADERS, streamId,
        fragment⟩

/-- Serialize a frame: the 9-byte header, then the payload. -/
def serializeFrame (frame : Frame) : Bytes :=
  let e := encodeBody frame
  be24 (UInt32.ofNat e.payload.length) ++ [e.typeId, e.flags] ++ be32 (low31 e.streamId) ++
    e.payload

/-! ## Parsing payloads -/

def truncated : Fault := .new .protocolError "truncated frame payload"

/-- `r.bytes(n).ok_or_else(truncated)`. -/
def readBytes (r : ByteReader) (n : Nat) : Except Fault (Bytes × ByteReader) :=
  match r.bytes n with
  | some read => .ok read
  | none => .error truncated

/-- `a.checked_sub(b).ok_or_else(..)`. -/
def checkedSub (a b : Nat) (fault : Fault) : Except Fault Nat :=
  if a < b then .error fault else .ok (a - b)

def readPadded (r : ByteReader) (len : Nat) (padded : Bool) : Except Fault Bytes := do
  if !padded then
    let (data, _) ← readBytes r len
    return data
  if len < 1 then
    throw (.new .protocolError "padded frame missing pad length")
  let (padLength, r) ← r.u8
  let dataLength ← checkedSub (len - 1) padLength.toNat
    (.new .protocolError "pad length exceeds frame payload")
  let (data, _) ← readBytes r dataLength
  return data

/-- Read the pad length octet of a padded HEADERS or PUSH_PROMISE payload. -/
def readPadLength (r : ByteReader) (len : Nat) (padded : Bool) (fault : Fault) :
    Except Fault (Nat × ByteReader) := do
  if padded then
    if len < 1 then
      throw fault
    let (padLength, r) ← r.u8
    return (padLength.toNat, r)
  else
    return (0, r)

/-- Read the dependency and the weight. -/
def readPriority (r : ByteReader) : Except Fault (Priority × ByteReader) := do
  let (dep, r) ← r.u32
  let (weight, r) ← r.u8
  return (⟨low31 dep, weight.toUInt16 + 1, top dep⟩, r)

def parseData (flagBits : UInt8) (streamId : UInt32) (payload : Bytes) : Except Fault Frame := do
  let data ← readPadded payload payload.length (hasFlag flagBits Flags.DATA_PADDED)
  return .data streamId data (hasFlag flagBits Flags.DATA_END_STREAM)

def parseHeaders (flagBits : UInt8) (streamId : UInt32) (payload : Bytes) :
    Except Fault Frame := do
  let len := payload.length
  let padded := hasFlag flagBits Flags.HEADERS_PADDED
  let hasPriority := hasFlag flagBits Flags.HEADERS_PRIORITY
  let invalidPadding := Fault.new .protocolError "invalid HEADERS padding"
  let (padLength, r) ← readPadLength payload len padded invalidPadding
  let (priority, r) ←
    if hasPriority then
      if r.remaining < 5 then
        throw (.new .protocolError "HEADERS priority truncated")
      let (priority, r) ← readPriority r
      pure (some priority, r)
    else
      pure (none, r)
  let overhead := padded.toNat + (if hasPriority then 5 else 0) + padLength
  let fragLength ← checkedSub len overhead invalidPadding
  let (fragment, _) ← readBytes r fragLength
  return .headers streamId fragment (hasFlag flagBits Flags.HEADERS_END_STREAM)
    (hasFlag flagBits Flags.HEADERS_END_HEADERS) priority

def parsePriority (streamId : UInt32) (payload : Bytes) : Except Fault Frame := do
  if payload.length ≠ 5 then
    throw (.stream .frameSizeError "PRIORITY must be 5 bytes" streamId)
  let (priority, _) ← readPriority payload
  return .priority streamId priority

def parseRstStream (streamId : UInt32) (payload : Bytes) : Except Fault Frame := do
  if payload.length ≠ 4 then
    throw (.new .frameSizeError "RST_STREAM must be 4 bytes")
  let (errorCode, _) ← ByteReader.u32 payload
  return .rstStream streamId errorCode

/-- Record one SETTINGS entry; unknown ones are ignored (RFC 7540 §6.5.2). -/
def applySetting (settings : Settings) (id : UInt16) (value : UInt32) : Settings :=
  match id with
  | 0x1 => { settings with headerTableSize := some value }
  | 0x2 => { settings with enablePush := some (value != 0) }
  | 0x3 => { settings with maxConcurrentStreams := some value }
  | 0x4 => { settings with initialWindowSize := some value }
  | 0x5 => { settings with maxFrameSize := some value }
  | 0x6 => { settings with maxHeaderListSize := some value }
  | _ => settings

/-- Read `count` SETTINGS entries. -/
def readSettings : Nat → Settings → ByteReader → Except Fault Settings
  | 0, settings, _ => .ok settings
  | count + 1, settings, r => do
      let (id, r) ← r.u16
      let (value, r) ← r.u32
      readSettings count (applySetting settings id value) r

def parseSettings (flagBits : UInt8) (payload : Bytes) : Except Fault Frame := do
  let ack := hasFlag flagBits Flags.SETTINGS_ACK
  if ack && payload.length ≠ 0 then
    throw (.new .frameSizeError "SETTINGS ACK must be empty")
  if payload.length % 6 ≠ 0 then
    throw (.new .frameSizeError "SETTINGS length not multiple of 6")
  let settings ← readSettings (payload.length / 6) {} payload
  return .settings ack settings

def parsePushPromise (flagBits : UInt8) (streamId : UInt32) (payload : Bytes) :
    Except Fault Frame := do
  let len := payload.length
  let padded := hasFlag flagBits Flags.PUSH_PROMISE_PADDED
  let invalidPadding := Fault.new .protocolError "invalid PUSH_PROMISE padding"
  let (padLength, r) ← readPadLength payload len padded invalidPadding
  if r.remaining < 4 then
    throw (.new .protocolError "PUSH_PROMISE truncated")
  let (promised, r) ← r.u32
  let overhead := padded.toNat + 4 + padLength
  let fragLength ← checkedSub len overhead invalidPadding
  let (fragment, _) ← readBytes r fragLength
  return .pushPromise streamId (low31 promised) fragment
    (hasFlag flagBits Flags.PUSH_PROMISE_END_HEADERS)

def parsePing (flagBits : UInt8) (payload : Bytes) : Except Fault Frame := do
  if payload.length ≠ 8 then
    throw (.new .frameSizeError "PING must be 8 bytes")
  let (data, _) ← readBytes payload 8
  -- `copy_from_slice` into the array of eight panics on another length.
  if h : data.length = 8 then
    return .ping (hasFlag flagBits Flags.PING_ACK) ⟨data, h⟩
  else
    throw .panic

def parseGoaway (payload : Bytes) : Except Fault Frame := do
  if payload.length < 8 then
    throw (.new .frameSizeError "GOAWAY too short")
  let (lastStreamId, r) ← ByteReader.u32 payload
  let (errorCode, r) ← r.u32
  let (debugData, _) ← readBytes r (payload.length - 8)
  return .goaway (low31 lastStreamId) errorCode debugData

def parseWindowUpdate (streamId : UInt32) (payload : Bytes) : Except Fault Frame := do
  if payload.length ≠ 4 then
    throw (.new .frameSizeError "WINDOW_UPDATE must be 4 bytes")
  let (increment, _) ← ByteReader.u32 payload
  return .windowUpdate streamId (low31 increment)

def parseContinuation (flagBits : UInt8) (streamId : UInt32) (payload : Bytes) :
    Except Fault Frame := do
  let (fragment, _) ← readBytes payload payload.length
  return .continuation streamId fragment (hasFlag flagBits Flags.CONTINUATION_END_HEADERS)

/-- Parse one frame payload.  `none` is an unknown frame type to skip. -/
def parsePayload (typeId flagBits : UInt8) (streamId : UInt32) (payload : Bytes) :
    Except Fault (Option Frame) :=
  match typeId with
  | FrameType.DATA => some <$> parseData flagBits streamId payload
  | FrameType.HEADERS => some <$> parseHeaders flagBits streamId payload
  | FrameType.PRIORITY => some <$> parsePriority streamId payload
  | FrameType.RST_STREAM => some <$> parseRstStream streamId payload
  | FrameType.SETTINGS => some <$> parseSettings flagBits payload
  | FrameType.PUSH_PROMISE => some <$> parsePushPromise flagBits streamId payload
  | FrameType.PING => some <$> parsePing flagBits payload
  | FrameType.GOAWAY => some <$> parseGoaway payload
  | FrameType.WINDOW_UPDATE => some <$> parseWindowUpdate streamId payload
  | FrameType.CONTINUATION => some <$> parseContinuation flagBits streamId payload
  | _ => .ok none

/-! ## The streaming decoder -/

/-- One round of the decoding loop on the bytes from `offset` on. -/
def scanFrame (maxFrameSize : Nat) : Bytes → Scan UInt8 Frame Fault
  | l0 :: l1 :: l2 :: typeId :: flagBits :: s0 :: s1 :: s2 :: s3 :: rest =>
      let length := ofBe24 l0 l1 l2
      if length > maxFrameSize then
        .fail (.new .frameSizeError
          ("frame length " ++ toString length ++ " exceeds max " ++ toString maxFrameSize))
      else if rest.length < length then
        .more
      else
        match parsePayload typeId flagBits (low31 (ofBe32 s0 s1 s2 s3)) (rest.take length) with
        | .error fault => .fail fault
        | .ok found => .item found (rest.drop length)
  | _ => .more

/-- The three outcomes of a round, over a buffer long enough for a header. -/
theorem scanFrame_cons (maxFrameSize : Nat) (l0 l1 l2 typeId flagBits s0 s1 s2 s3 : UInt8)
    (rest : Bytes) :
    scanFrame maxFrameSize (l0 :: l1 :: l2 :: typeId :: flagBits :: s0 :: s1 :: s2 :: s3 :: rest) =
      if ofBe24 l0 l1 l2 > maxFrameSize then
        .fail (.new .frameSizeError
          ("frame length " ++ toString (ofBe24 l0 l1 l2) ++ " exceeds max " ++
            toString maxFrameSize))
      else if rest.length < ofBe24 l0 l1 l2 then
        .more
      else
        match parsePayload typeId flagBits (low31 (ofBe32 s0 s1 s2 s3))
            (rest.take (ofBe24 l0 l1 l2)) with
        | .error fault => .fail fault
        | .ok found => .item found (rest.drop (ofBe24 l0 l1 l2)) := rfl

/-- A round that does not ask for more sees a whole header. -/
theorem scanFrame_header {maxFrameSize : Nat} {buf : Bytes}
    (h : scanFrame maxFrameSize buf ≠ .more) :
    ∃ l0 l1 l2 typeId flagBits s0 s1 s2 s3 rest,
      buf = l0 :: l1 :: l2 :: typeId :: flagBits :: s0 :: s1 :: s2 :: s3 :: rest := by
  unfold scanFrame at h
  split at h
  · exact ⟨_, _, _, _, _, _, _, _, _, _, rfl⟩
  · exact absurd rfl h

/-- Input behind a frame, or behind an error, does not change the round. -/
theorem scanFrame_append {maxFrameSize : Nat} {buf : Bytes} (later : Bytes)
    (h : scanFrame maxFrameSize buf ≠ .more) :
    scanFrame maxFrameSize (buf ++ later) =
      match scanFrame maxFrameSize buf with
      | .item found rest => .item found (rest ++ later)
      | other => other := by
  obtain ⟨l0, l1, l2, typeId, flagBits, s0, s1, s2, s3, rest, rfl⟩ := scanFrame_header h
  simp only [List.cons_append, scanFrame_cons] at h ⊢
  by_cases large : ofBe24 l0 l1 l2 > maxFrameSize
  · simp only [large, if_true]
  · simp only [large, if_false] at h ⊢
    by_cases short : rest.length < ofBe24 l0 l1 l2
    · simp [short] at h
    · have fits : ofBe24 l0 l1 l2 ≤ rest.length := Nat.le_of_not_lt short
      have still : ¬ (rest ++ later).length < ofBe24 l0 l1 l2 := by
        rw [List.length_append]
        omega
      simp only [short, still, if_false, List.take_append_of_le_length fits,
        List.drop_append_of_le_length fits]
      cases parsePayload typeId flagBits (low31 (ofBe32 s0 s1 s2 s3))
          (rest.take (ofBe24 l0 l1 l2)) with
      | error fault => rfl
      | ok found => rfl

/-- A frame uses up at least its header. -/
theorem length_of_scanFrame {maxFrameSize : Nat} {buf rest : Bytes} {found : Option Frame}
    (h : scanFrame maxFrameSize buf = .item found rest) : rest.length < buf.length := by
  obtain ⟨l0, l1, l2, typeId, flagBits, s0, s1, s2, s3, tail, rfl⟩ :=
    scanFrame_header (by rw [h]; simp)
  rw [scanFrame_cons] at h
  split at h
  · cases h
  · split at h
    · cases h
    · split at h
      · cases h
      · cases h
        simp only [List.length_drop, List.length_cons]
        omega

/-- The decoding loop as a scanner. -/
def frameScanner (maxFrameSize : Nat) : Scanner UInt8 Frame Fault where
  scan := scanFrame maxFrameSize
  shorter := length_of_scanFrame
  item_append := by
    intro buf found rest later h
    rw [scanFrame_append later (by rw [h]; simp), h]
  fail_append := by
    intro buf error later h
    rw [scanFrame_append later (by rw [h]; simp), h]

/-- The streaming decoder: the bytes of a partial frame, and the largest payload
length it accepts. -/
structure FrameDecoder where
  pending : Bytes
  maxFrameSize : Nat
deriving DecidableEq, Repr

namespace FrameDecoder

def new (maxFrameSize : Nat) : FrameDecoder := ⟨[], maxFrameSize⟩

/-- Feed one chunk; the frames that are now complete. -/
def push (d : FrameDecoder) (chunk : Bytes) : FrameDecoder × Except Fault (List Frame) :=
  match (frameScanner d.maxFrameSize).drain (d.pending ++ chunk) with
  | .ok (frames, left) => ({ d with pending := left }, .ok frames)
  -- The buffer was taken out of `pending` before the loop, and is dropped with
  -- the frames found before the error.
  | .error fault => ({ d with pending := [] }, .error fault)

/-- Push chunks one by one, stopping at the first failure. -/
def pushAll (d : FrameDecoder) : List Bytes → FrameDecoder × Except Fault (List Frame)
  | [] => (d, .ok [])
  | chunk :: chunks =>
      match d.push chunk with
      | (d, .error fault) => (d, .error fault)
      | (d, .ok frames) =>
          match pushAll d chunks with
          | (d, .error fault) => (d, .error fault)
          | (d, .ok later) => (d, .ok (frames ++ later))

end FrameDecoder

end H2ts
