import H2ts.Errors
import H2ts.Bytes
import H2ts.Lib.Js

/-!
# The TypeScript frame codec

`frames/types.ts` and `frames/codec.ts`, with the readers and writers of `bytes.ts`.
Numbers are integers, and a `Uint8Array` is the list of its bytes; a writer grows by
itself, so what it writes is a concatenation.

A read beyond the end of a `DataView` throws a `RangeError`, whereas `subarray` clamps.
-/

namespace H2ts

namespace Typescript

open BigEndian Js

/-! ## The frame model -/

def FRAME_HEADER_SIZE : Nat := 9

namespace FrameType

@[match_pattern] abbrev DATA : Int := 0x0
@[match_pattern] abbrev HEADERS : Int := 0x1
@[match_pattern] abbrev PRIORITY : Int := 0x2
@[match_pattern] abbrev RST_STREAM : Int := 0x3
@[match_pattern] abbrev SETTINGS : Int := 0x4
@[match_pattern] abbrev PUSH_PROMISE : Int := 0x5
@[match_pattern] abbrev PING : Int := 0x6
@[match_pattern] abbrev GOAWAY : Int := 0x7
@[match_pattern] abbrev WINDOW_UPDATE : Int := 0x8
@[match_pattern] abbrev CONTINUATION : Int := 0x9

end FrameType

namespace Flags

abbrev DATA_END_STREAM : Int := 0x1
abbrev DATA_PADDED : Int := 0x8
abbrev HEADERS_END_STREAM : Int := 0x1
abbrev HEADERS_END_HEADERS : Int := 0x4
abbrev HEADERS_PADDED : Int := 0x8
abbrev HEADERS_PRIORITY : Int := 0x20
abbrev SETTINGS_ACK : Int := 0x1
abbrev PING_ACK : Int := 0x1
abbrev PUSH_PROMISE_END_HEADERS : Int := 0x4
abbrev PUSH_PROMISE_PADDED : Int := 0x8
abbrev CONTINUATION_END_HEADERS : Int := 0x4

end Flags

/-- SETTINGS parameters; an absent one is `none`. -/
structure Settings where
  headerTableSize : Option Int := none
  enablePush : Option Bool := none
  maxConcurrentStreams : Option Int := none
  initialWindowSize : Option Int := none
  maxFrameSize : Option Int := none
  maxHeaderListSize : Option Int := none
deriving DecidableEq, Repr

structure Priority where
  streamDependency : Int
  weight : Int
  exclusive : Bool
deriving DecidableEq, Repr

inductive Frame where
  | data (streamId : Int) (data : Bytes) (endStream : Bool)
  | headers (streamId : Int) (headerBlockFragment : Bytes) (endStream endHeaders : Bool)
      (priority : Option Priority)
  | priority (streamId : Int) (priority : Priority)
  | rstStream (streamId errorCode : Int)
  | settings (ack : Bool) (settings : Settings)
  | pushPromise (streamId promisedStreamId : Int) (headerBlockFragment : Bytes) (endHeaders : Bool)
  | ping (ack : Bool) (opaqueData : Bytes)
  | goaway (lastStreamId errorCode : Int) (debugData : Bytes)
  | windowUpdate (streamId windowSizeIncrement : Int)
  | continuation (streamId : Int) (headerBlockFragment : Bytes) (endHeaders : Bool)
deriving DecidableEq, Repr

/-- What the codec throws. -/
inductive Thrown where
  | h2 (code : ErrorCode) (message : String) (streamId : Option Int)
  /-- A `RangeError` of a `DataView`. -/
  | range
  | unknownFrameType (typeId : Int)
deriving DecidableEq, Repr

/-- The code that `connectionError` sends. -/
def Thrown.code : Thrown → ErrorCode
  | .h2 code _ _ => code
  | _ => .protocolError

/-! ## Writing -/

namespace ByteWriter

def u8 (v : Int) : Bytes := [UInt8.ofNat (band v 0xff).toNat]

def u16 (v : Int) : Bytes := be16 (UInt16.ofNat (band v 0xffff).toNat)

def u24 (v : Int) : Bytes := u8 (ushr v 16) ++ u8 (ushr v 8) ++ u8 v

def u32 (v : Int) : Bytes := be32 (UInt32.ofNat (ushr v 0).toNat)

end ByteWriter

open ByteWriter

/-- A frame before its header is written. -/
structure Encoded where
  typeId : Int
  flags : Int
  streamId : Int
  payload : Bytes

def encodePriority (p : Priority) : Bytes :=
  let dep := band p.streamDependency 0x7fffffff
  u32 (if p.exclusive then bor dep 0x80000000 else dep) ++ u8 (band (p.weight - 1) 0xff)

/-- One SETTINGS entry, if the parameter is present. -/
def encodeSetting (id : Int) : Option Int → Bytes
  | none => []
  | some value => u16 id ++ u32 value

/-- The entries in the order of `SETTINGS_IDS`. -/
def encodeSettings (s : Settings) : Bytes :=
  encodeSetting 0x1 s.headerTableSize ++
    encodeSetting 0x2 (s.enablePush.map fun value => if value then 1 else 0) ++
    encodeSetting 0x3 s.maxConcurrentStreams ++ encodeSetting 0x4 s.initialWindowSize ++
    encodeSetting 0x5 s.maxFrameSize ++ encodeSetting 0x6 s.maxHeaderListSize

/-- The payload bytes and header fields of a frame. -/
def encodeBody : Frame → Encoded
  | .data streamId data endStream =>
      ⟨FrameType.DATA, if endStream then Flags.DATA_END_STREAM else 0, streamId, data⟩
  | .headers streamId fragment endStream endHeaders priority =>
      let flags := if endHeaders then Flags.HEADERS_END_HEADERS else 0
      let flags := if endStream then bor flags Flags.HEADERS_END_STREAM else flags
      match priority with
      | some p => ⟨FrameType.HEADERS, bor flags Flags.HEADERS_PRIORITY, streamId,
          encodePriority p ++ fragment⟩
      | none => ⟨FrameType.HEADERS, flags, streamId, fragment⟩
  | .priority streamId priority => ⟨FrameType.PRIORITY, 0, streamId, encodePriority priority⟩
  | .rstStream streamId errorCode => ⟨FrameType.RST_STREAM, 0, streamId, u32 errorCode⟩
  | .settings ack settings =>
      ⟨FrameType.SETTINGS, if ack then Flags.SETTINGS_ACK else 0, 0, encodeSettings settings⟩
  | .pushPromise streamId promisedStreamId fragment endHeaders =>
      ⟨FrameType.PUSH_PROMISE, if endHeaders then Flags.PUSH_PROMISE_END_HEADERS else 0, streamId,
        u32 (band promisedStreamId 0x7fffffff) ++ fragment⟩
  | .ping ack opaqueData =>
      ⟨FrameType.PING, if ack then Flags.PING_ACK else 0, 0,
        if opaqueData.length = 8 then opaqueData else List.replicate 8 0⟩
  | .goaway lastStreamId errorCode debugData =>
      ⟨FrameType.GOAWAY, 0, 0, u32 (band lastStreamId 0x7fffffff) ++ u32 errorCode ++ debugData⟩
  | .windowUpdate streamId windowSizeIncrement =>
      ⟨FrameType.WINDOW_UPDATE, 0, streamId, u32 (band windowSizeIncrement 0x7fffffff)⟩
  | .continuation streamId fragment endHeaders =>
      ⟨FrameType.CONTINUATION, if endHeaders then Flags.CONTINUATION_END_HEADERS else 0, streamId,
        fragment⟩

/-- Serialize a frame: the 9-byte header, then the payload. -/
def serializeFrame (frame : Frame) : Bytes :=
  let e := encodeBody frame
  u24 e.payload.length ++ u8 e.typeId ++ u8 e.flags ++ u32 (band e.streamId 0x7fffffff) ++ e.payload

/-! ## Reading -/

/-- A cursor over a buffer. -/
structure ByteReader where
  buf : Bytes
  cursor : Nat

namespace ByteReader

def u8 (r : ByteReader) : Except Thrown (Int × ByteReader) :=
  match r.buf.drop r.cursor with
  | a :: _ => .ok (a.toNat, { r with cursor := r.cursor + 1 })
  | _ => .error .range

def u16 (r : ByteReader) : Except Thrown (Int × ByteReader) :=
  match r.buf.drop r.cursor with
  | a :: b :: _ => .ok ((ofBe16 a b).toNat, { r with cursor := r.cursor + 2 })
  | _ => .error .range

def u32 (r : ByteReader) : Except Thrown (Int × ByteReader) :=
  match r.buf.drop r.cursor with
  | a :: b :: c :: d :: _ => .ok (ushr (ofBe32 a b c d).toNat 0, { r with cursor := r.cursor + 4 })
  | _ => .error .range

/-- Read bytes; `subarray` gives fewer at the end of the buffer. -/
def bytes (r : ByteReader) (n : Nat) : Bytes × ByteReader :=
  ((r.buf.drop r.cursor).take n, { r with cursor := r.cursor + n })

end ByteReader

/-! ## Parsing payloads -/

def readPadded (r : ByteReader) (length : Nat) (padded : Bool) : Except Thrown Bytes := do
  if !padded then
    return (r.bytes length).1
  let (padLength, r) ← r.u8
  let dataLength := length - 1 - padLength
  if dataLength < 0 then
    throw (.h2 .protocolError "pad length exceeds frame payload" none)
  return (r.bytes dataLength.toNat).1

/-- Read the dependency and the weight. -/
def readPriority (r : ByteReader) : Except Thrown (Priority × ByteReader) := do
  let (dep, r) ← r.u32
  let (weight, r) ← r.u8
  return (⟨band dep 0x7fffffff, weight + 1, band dep 0x80000000 != 0⟩, r)

def parseData (flags streamId : Int) (payload : Bytes) : Except Thrown Frame := do
  let data ← readPadded ⟨payload, 0⟩ payload.length (band flags Flags.DATA_PADDED != 0)
  return .data streamId data (band flags Flags.DATA_END_STREAM != 0)

/-- The pad length octet, if there is one. -/
def readPadLength (r : ByteReader) (padded : Bool) : Except Thrown (Int × ByteReader) :=
  if padded then r.u8 else .ok (0, r)

def parseHeaders (flags streamId : Int) (payload : Bytes) : Except Thrown Frame := do
  let len : Int := payload.length
  let padded := band flags Flags.HEADERS_PADDED != 0
  let (padLength, r) ← readPadLength ⟨payload, 0⟩ padded
  let hasPriority := band flags Flags.HEADERS_PRIORITY != 0
  let (priority, r) ←
    if hasPriority then do
      let (priority, r) ← readPriority r
      pure (some priority, r)
    else
      pure (none, r)
  let fragLength := len - (if padded then 1 else 0) - (if hasPriority then 5 else 0) - padLength
  if fragLength < 0 then
    throw (.h2 .protocolError "invalid HEADERS padding" none)
  return .headers streamId (r.bytes fragLength.toNat).1 (band flags Flags.HEADERS_END_STREAM != 0)
    (band flags Flags.HEADERS_END_HEADERS != 0) priority

def parsePriority (streamId : Int) (payload : Bytes) : Except Thrown Frame := do
  if payload.length ≠ 5 then
    throw (.h2 .frameSizeError "PRIORITY must be 5 bytes" (some streamId))
  let (priority, _) ← readPriority ⟨payload, 0⟩
  return .priority streamId priority

def parseRstStream (streamId : Int) (payload : Bytes) : Except Thrown Frame := do
  if payload.length ≠ 4 then
    throw (.h2 .frameSizeError "RST_STREAM must be 4 bytes" none)
  let (errorCode, _) ← ByteReader.u32 ⟨payload, 0⟩
  return .rstStream streamId errorCode

/-- Record one SETTINGS entry; unknown ones are ignored. -/
def applySetting (settings : Settings) (id value : Int) : Settings :=
  match id with
  | 0x1 => { settings with headerTableSize := some value }
  | 0x2 => { settings with enablePush := some (value != 0) }
  | 0x3 => { settings with maxConcurrentStreams := some value }
  | 0x4 => { settings with initialWindowSize := some value }
  | 0x5 => { settings with maxFrameSize := some value }
  | 0x6 => { settings with maxHeaderListSize := some value }
  | _ => settings

/-- Read `count` SETTINGS entries. -/
def readSettings : Nat → Settings → ByteReader → Except Thrown Settings
  | 0, settings, _ => .ok settings
  | count + 1, settings, r => do
      let (id, r) ← r.u16
      let (value, r) ← r.u32
      readSettings count (applySetting settings id value) r

def parseSettings (flags : Int) (payload : Bytes) : Except Thrown Frame := do
  let ack := band flags Flags.SETTINGS_ACK != 0
  if ack && payload.length ≠ 0 then
    throw (.h2 .frameSizeError "SETTINGS ACK must be empty" none)
  if payload.length % 6 ≠ 0 then
    throw (.h2 .frameSizeError "SETTINGS length not multiple of 6" none)
  let settings ← readSettings (payload.length / 6) {} ⟨payload, 0⟩
  return .settings ack settings

def parsePushPromise (flags streamId : Int) (payload : Bytes) : Except Thrown Frame := do
  let len : Int := payload.length
  let padded := band flags Flags.PUSH_PROMISE_PADDED != 0
  let (padLength, r) ← readPadLength ⟨payload, 0⟩ padded
  let (promised, r) ← r.u32
  let fragLength := len - (if padded then 1 else 0) - 4 - padLength
  if fragLength < 0 then
    throw (.h2 .protocolError "invalid PUSH_PROMISE padding" none)
  return .pushPromise streamId (band promised 0x7fffffff) (r.bytes fragLength.toNat).1
    (band flags Flags.PUSH_PROMISE_END_HEADERS != 0)

def parsePing (flags : Int) (payload : Bytes) : Except Thrown Frame := do
  if payload.length ≠ 8 then
    throw (.h2 .frameSizeError "PING must be 8 bytes" none)
  return .ping (band flags Flags.PING_ACK != 0) (ByteReader.bytes ⟨payload, 0⟩ 8).1

def parseGoaway (payload : Bytes) : Except Thrown Frame := do
  if payload.length < 8 then
    throw (.h2 .frameSizeError "GOAWAY too short" none)
  let (lastStreamId, r) ← ByteReader.u32 ⟨payload, 0⟩
  let (errorCode, r) ← r.u32
  return .goaway (band lastStreamId 0x7fffffff) errorCode (r.bytes (payload.length - 8)).1

def parseWindowUpdate (streamId : Int) (payload : Bytes) : Except Thrown Frame := do
  if payload.length ≠ 4 then
    throw (.h2 .frameSizeError "WINDOW_UPDATE must be 4 bytes" none)
  let (increment, _) ← ByteReader.u32 ⟨payload, 0⟩
  return .windowUpdate streamId (band increment 0x7fffffff)

def parseContinuation (flags streamId : Int) (payload : Bytes) : Except Thrown Frame :=
  .ok (.continuation streamId (ByteReader.bytes ⟨payload, 0⟩ payload.length).1
    (band flags Flags.CONTINUATION_END_HEADERS != 0))

def parsePayload (typeId flags streamId : Int) (payload : Bytes) : Except Thrown Frame :=
  match typeId with
  | FrameType.DATA => parseData flags streamId payload
  | FrameType.HEADERS => parseHeaders flags streamId payload
  | FrameType.PRIORITY => parsePriority streamId payload
  | FrameType.RST_STREAM => parseRstStream streamId payload
  | FrameType.SETTINGS => parseSettings flags payload
  | FrameType.PUSH_PROMISE => parsePushPromise flags streamId payload
  | FrameType.PING => parsePing flags payload
  | FrameType.GOAWAY => parseGoaway payload
  | FrameType.WINDOW_UPDATE => parseWindowUpdate streamId payload
  | FrameType.CONTINUATION => parseContinuation flags streamId payload
  | _ => .error (.unknownFrameType typeId)

/-! ## The streaming decoder -/

structure FrameDecoder where
  pending : Bytes
  maxFrameSize : Nat
deriving DecidableEq, Repr

namespace FrameDecoder

def new (maxFrameSize : Nat) : FrameDecoder := ⟨[], maxFrameSize⟩

/-- `buf[i]!` of an index inside. -/
def byteAt (buf : Bytes) (i : Nat) : Int := (buf.getD i 0).toNat

/-- The loop of `push`.  Every round takes at least a header, so the length of the
buffer is fuel enough. -/
def decode (maxFrameSize : Nat) (buf : Bytes) :
    Nat → Nat → List Frame → Except Thrown (List Frame × Nat)
  | 0, offset, frames => .ok (frames, offset)
  | fuel + 1, offset, frames =>
      if FRAME_HEADER_SIZE ≤ buf.length - offset then
        let length := bor (bor (shl (byteAt buf offset) 16) (shl (byteAt buf (offset + 1)) 8))
          (byteAt buf (offset + 2))
        if length > maxFrameSize then
          .error (.h2 .frameSizeError
            ("frame length " ++ toString length ++ " exceeds max " ++ toString maxFrameSize) none)
        else
          let total := FRAME_HEADER_SIZE + length.toNat
          if buf.length - offset < total then .ok (frames, offset)
          else
            let typeId := byteAt buf (offset + 3)
            let flags := byteAt buf (offset + 4)
            let streamId := band (bor (bor (bor (shl (byteAt buf (offset + 5)) 24)
              (shl (byteAt buf (offset + 6)) 16)) (shl (byteAt buf (offset + 7)) 8))
              (byteAt buf (offset + 8))) 0x7fffffff
            let payload := (buf.drop (offset + FRAME_HEADER_SIZE)).take length.toNat
            match parsePayload typeId flags streamId payload with
            | .ok frame => decode maxFrameSize buf fuel (offset + total) (frames ++ [frame])
            -- Unknown frame types are ignored.
            | .error (.unknownFrameType _) => decode maxFrameSize buf fuel (offset + total) frames
            | .error thrown => .error thrown
      else .ok (frames, offset)

/-- Feed one chunk; the frames that are now complete. -/
def push (d : FrameDecoder) (chunk : Bytes) : FrameDecoder × Except Thrown (List Frame) :=
  let buf := if d.pending.length = 0 then chunk else d.pending ++ chunk
  match decode d.maxFrameSize buf buf.length 0 [] with
  | .ok (frames, offset) => ({ d with pending := buf.drop offset }, .ok frames)
  | .error thrown => (d, .error thrown)

end FrameDecoder

end Typescript

end H2ts
