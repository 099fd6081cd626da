import H2ts.FrameStream
import H2ts.Typescript.Codec

/-!
# The two codecs agree

A Rust frame is a TypeScript frame whose numbers are the same (`ofFrame`).  Both
codecs write it as the same bytes (`serializeFrame_ofFrame`).  On every payload the
parsers give the same frame or fail with the same code, the one by a length check
where the other throws a `RangeError` (`parsePayload_agrees`), so the decoders give the
same frames for the same chunks (`codecs_agree`).
-/

namespace H2ts

namespace Typescript

open BigEndian Js

/-! ## Rust frames -/

def ofPriority (p : H2ts.Priority) : Priority :=
  ⟨p.streamDependency.toNat, p.weight.toNat, p.exclusive⟩

def ofSettings (s : H2ts.Settings) : Settings where
  headerTableSize := s.headerTableSize.map fun v => (v.toNat : Int)
  enablePush := s.enablePush
  maxConcurrentStreams := s.maxConcurrentStreams.map fun v => (v.toNat : Int)
  initialWindowSize := s.initialWindowSize.map fun v => (v.toNat : Int)
  maxFrameSize := s.maxFrameSize.map fun v => (v.toNat : Int)
  maxHeaderListSize := s.maxHeaderListSize.map fun v => (v.toNat : Int)

def ofFrame : H2ts.Frame → Frame
  | .data streamId data endStream => .data streamId.toNat data endStream
  | .headers streamId fragment endStream endHeaders priority =>
      .headers streamId.toNat fragment endStream endHeaders (priority.map ofPriority)
  | .priority streamId priority => .priority streamId.toNat (ofPriority priority)
  | .rstStream streamId errorCode => .rstStream streamId.toNat errorCode.toNat
  | .settings ack settings => .settings ack (ofSettings settings)
  | .pushPromise streamId promisedStreamId fragment endHeaders =>
      .pushPromise streamId.toNat promisedStreamId.toNat fragment endHeaders
  | .ping ack opaqueData => .ping ack opaqueData
  | .goaway lastStreamId errorCode debugData => .goaway lastStreamId.toNat errorCode.toNat debugData
  | .windowUpdate streamId increment => .windowUpdate streamId.toNat increment.toNat
  | .continuation streamId fragment endHeaders => .continuation streamId.toNat fragment endHeaders

/-! ## Serializing -/

namespace ByteWriter

theorem u8_byte (b : UInt8) : u8 b.toNat = [b] := by
  have masked : band b.toNat 0xff = (b.toNat : Int) % 2 ^ 8 := band_mask b.toNat (k := 8) (by omega)
  have bound := b.toNat_lt
  rw [u8, masked, Int.emod_eq_of_lt (by omega) (by omega), Int.toNat_natCast, UInt8.ofNat_toNat]

theorem u16_small {n : Nat} (small : n < 2 ^ 16) : u16 n = be16 (UInt16.ofNat n) := by
  have masked : band n 0xffff = (n : Int) % 2 ^ 16 := band_mask n (k := 16) (by omega)
  rw [u16, masked, Int.emod_eq_of_lt (by omega) (by omega), Int.toNat_natCast]

theorem u32_eq {a : Int} {v : UInt32} (same : int32 a = v.toBitVec) : u32 a = be32 v := by
  rw [u32, ushr_zero, same, Int.toNat_natCast]
  congr 1
  exact UInt32.ofNat_toNat

theorem u32_word (v : UInt32) : u32 v.toNat = be32 v := u32_eq (int32_word v)

theorem u32_low31 (v : UInt32) : u32 (band v.toNat 0x7fffffff) = be32 (low31 v) := by
  rw [band_low31, u32_word]

theorem u24_length (n : Nat) : u24 n = be24 (UInt32.ofNat n) := by
  have low (a : Int) : u8 a = [UInt8.ofNat (a % 256).toNat] := by
    rw [u8, show band a 0xff = a % 2 ^ 8 from band_mask a (k := 8) (by omega)]
    rfl
  have word : (int32 (n : Int)).toNat = n % 2 ^ 32 := by
    rw [int32, BitVec.ofInt_natCast, BitVec.toNat_ofNat]
  have shifted (i : Nat) : ushr n i = ((n % 2 ^ 32 / 2 ^ i : Nat) : Int) := by
    rw [ushr, BitVec.toNat_ushiftRight, word, Nat.shiftRight_eq_div_pow]
  have byte {a b : Nat} (same : a % 256 = b % 256) : UInt8.ofNat a = UInt8.ofNat b := by
    apply UInt8.toNat_inj.mp
    rw [UInt8.toNat_ofNat', UInt8.toNat_ofNat']
    exact same
  rw [u24, low, low, low, shifted, shifted, be24, UInt32.toNat_ofNat']
  simp only [List.cons_append, List.nil_append, List.cons.injEq, and_true]
  refine ⟨byte ?_, byte ?_, byte ?_⟩ <;> omega

end ByteWriter

open ByteWriter

theorem encodePriority_ofPriority (p : H2ts.Priority) :
    encodePriority (ofPriority p) = H2ts.encodePriority p := by
  have weight : u8 (band ((p.weight.toNat : Int) - 1) 0xff) = [(p.weight - 1).toUInt8] := by
    have masked : band ((p.weight.toNat : Int) - 1) 0xff = ((p.weight - 1).toUInt8.toNat : Int) := by
      have bound := p.weight.toNat_lt
      rw [show band ((p.weight.toNat : Int) - 1) 0xff = ((p.weight.toNat : Int) - 1) % 2 ^ 8 from
        band_mask _ (k := 8) (by omega), UInt16.toNat_toUInt8, UInt16.toNat_sub]
      simp only [UInt16.reduceToNat]
      omega
    rw [masked, u8_byte]
  have dep : int32 (band p.streamDependency.toNat 0x7fffffff) = (low31 p.streamDependency).toBitVec := by
    rw [band_low31, int32_word]
  show u32 (if p.exclusive then bor (band p.streamDependency.toNat 0x7fffffff) 0x80000000
    else band p.streamDependency.toNat 0x7fffffff) ++ u8 (band ((p.weight.toNat : Int) - 1) 0xff) = _
  rw [weight, H2ts.encodePriority]
  congr 1
  cases p.exclusive with
  | true =>
      refine u32_eq ?_
      rw [if_pos rfl, bor, int32_toInt, dep, if_pos rfl, UInt32.toBitVec_or]
      rfl
  | false => exact u32_eq dep

theorem encodeSettings_ofSettings (s : H2ts.Settings) :
    encodeSettings (ofSettings s) = H2ts.encodeSettings s := by
  have entry {id : Nat} (small : id < 2 ^ 16) (value : Option UInt32) :
      encodeSetting id (value.map fun v => (v.toNat : Int)) =
        H2ts.encodeSetting (UInt16.ofNat id) value := by
    cases value with
    | none => rfl
    | some v =>
        simp only [Option.map_some, encodeSetting, H2ts.encodeSetting, u16_small small, u32_word]
  have flag : (s.enablePush.map fun value => if value then (1 : Int) else 0) =
      (s.enablePush.map boolToU32).map fun v => (v.toNat : Int) := by
    cases s.enablePush with
    | none => rfl
    | some value => cases value <;> rfl
  simp only [encodeSettings, ofSettings, flag, H2ts.encodeSettings]
  rw [show (0x1 : Int) = (1 : Nat) from rfl, show (0x2 : Int) = (2 : Nat) from rfl,
    show (0x3 : Int) = (3 : Nat) from rfl, show (0x4 : Int) = (4 : Nat) from rfl,
    show (0x5 : Int) = (5 : Nat) from rfl, show (0x6 : Int) = (6 : Nat) from rfl,
    entry (by omega), entry (by omega), entry (by omega), entry (by omega), entry (by omega),
    entry (by omega)]
  rfl

/-- The header fields and the payload of a frame are the same. -/
theorem encodeBody_ofFrame (f : H2ts.Frame) :
    encodeBody (ofFrame f) = ⟨(H2ts.encodeBody f).typeId.toNat, (H2ts.encodeBody f).flags.toNat,
      (H2ts.encodeBody f).streamId.toNat, (H2ts.encodeBody f).payload⟩ := by
  cases f with
  | data streamId data endStream => cases endStream <;> rfl
  | headers streamId fragment endStream endHeaders priority =>
      cases priority with
      | none => cases endStream <;> cases endHeaders <;> rfl
      | some p =>
          have payload := encodePriority_ofPriority p
          cases endStream <;> cases endHeaders <;>
            simp only [ofFrame, encodeBody, H2ts.encodeBody, Option.map_some, payload] <;> rfl
  | priority streamId priority =>
      simp only [ofFrame, encodeBody, H2ts.encodeBody, encodePriority_ofPriority]
      rfl
  | rstStream streamId errorCode =>
      simp only [ofFrame, encodeBody, H2ts.encodeBody, u32_word]
      rfl
  | settings ack settings =>
      simp only [ofFrame, encodeBody, H2ts.encodeBody, encodeSettings_ofSettings]
      cases ack <;> rfl
  | pushPromise streamId promised fragment endHeaders =>
      simp only [ofFrame, encodeBody, H2ts.encodeBody, u32_low31]
      cases endHeaders <;> rfl
  | ping ack opaqueData =>
      simp only [ofFrame, encodeBody, H2ts.encodeBody, opaqueData.2, if_true]
      cases ack <;> rfl
  | goaway lastStreamId errorCode debugData =>
      simp only [ofFrame, encodeBody, H2ts.encodeBody, u32_low31, u32_word]
      rfl
  | windowUpdate streamId increment =>
      simp only [ofFrame, encodeBody, H2ts.encodeBody, u32_low31]
      rfl
  | continuation streamId fragment endHeaders => cases endHeaders <;> rfl

theorem serializeFrame_ofFrame (f : H2ts.Frame) :
    serializeFrame (ofFrame f) = H2ts.serializeFrame f := by
  simp only [serializeFrame, encodeBody_ofFrame, H2ts.serializeFrame, u24_length, u8_byte, u32_low31]
  simp only [List.append_assoc, List.cons_append, List.nil_append]

/-! ## Parsing -/

/-- The same result, or a failure with the same code. -/
inductive Agrees {α β : Type} (same : α → β → Prop) : Except Thrown α → Except Fault β → Prop
  | ok {a : α} {b : β} (eq : same a b) : Agrees same (.ok a) (.ok b)
  | error {thrown : Thrown} {err : H2Error} (code : thrown.code = err.code)
      (known : ∀ typeId, thrown ≠ .unknownFrameType typeId) : Agrees same (.error thrown) (.error (.h2 err))

namespace Agrees

variable {α β γ δ : Type} {same : α → β → Prop} {same' : γ → δ → Prop}

theorem bind {x : Except Thrown α} {y : Except Fault β} (first : Agrees same x y)
    {f : α → Except Thrown γ} {g : β → Except Fault δ}
    (later : ∀ a b, same a b → Agrees same' (f a) (g b)) : Agrees same' (x >>= f) (y >>= g) := by
  cases first with
  | ok eq => exact later _ _ eq
  | error code known => exact .error code known

theorem protocolError {message : String} :
    Agrees same (.error .range) (.error (.new .protocolError message)) :=
  .error rfl (by simp)

theorem throw {code : ErrorCode} {message message' : String} {streamId : Option Int} :
    Agrees same (.error (.h2 code message streamId)) (.error (.new code message')) :=
  .error rfl (by simp)

end Agrees

/-- The cursor stands where the other reader starts. -/
def Reads (r : ByteReader) (rest : H2ts.ByteReader) : Prop := r.buf.drop r.cursor = rest

theorem Reads.start (payload : Bytes) : Reads ⟨payload, 0⟩ payload := rfl

theorem Reads.next {r : ByteReader} (front : Bytes) {rest : Bytes} (reads : Reads r (front ++ rest)) :
    Reads { r with cursor := r.cursor + front.length } rest := by
  show r.buf.drop (r.cursor + front.length) = rest
  rw [← List.drop_drop, show r.buf.drop r.cursor = front ++ rest from reads, List.drop_left]

theorem Reads.bytes {r : ByteReader} {rest : Bytes} (reads : Reads r rest) (n : Nat) :
    (r.bytes n).1 = rest.take n := by
  rw [← (reads : r.buf.drop r.cursor = rest)]
  rfl

theorem Reads.u8_cons {r : ByteReader} {a : UInt8} {rest : Bytes} (reads : Reads r (a :: rest)) :
    ∃ next, r.u8 = .ok (a.toNat, next) ∧ Reads next rest := by
  refine ⟨_, ?_, Reads.next [a] reads⟩
  rw [ByteReader.u8, show r.buf.drop r.cursor = a :: rest from reads]
  rfl

theorem Reads.u8_nil {r : ByteReader} (reads : Reads r []) : r.u8 = .error .range := by
  rw [ByteReader.u8, show r.buf.drop r.cursor = [] from reads]

theorem Reads.u16_cons {r : ByteReader} {a b : UInt8} {rest : Bytes} (reads : Reads r (a :: b :: rest)) :
    ∃ next, r.u16 = .ok ((ofBe16 a b).toNat, next) ∧ Reads next rest := by
  refine ⟨_, ?_, Reads.next [a, b] reads⟩
  rw [ByteReader.u16, show r.buf.drop r.cursor = a :: b :: rest from reads]
  rfl

theorem word_of_length {bytes : Bytes} (long : 4 ≤ bytes.length) :
    ∃ a b c d rest, bytes = a :: b :: c :: d :: rest := by
  match bytes, long with
  | a :: b :: c :: d :: rest, _ => exact ⟨a, b, c, d, rest, rfl⟩

theorem Reads.u32_cons {r : ByteReader} {a b c d : UInt8} {rest : Bytes}
    (reads : Reads r (a :: b :: c :: d :: rest)) :
    ∃ next, r.u32 = .ok ((ofBe32 a b c d).toNat, next) ∧ Reads next rest := by
  refine ⟨_, ?_, Reads.next [a, b, c, d] reads⟩
  rw [ByteReader.u32, show r.buf.drop r.cursor = a :: b :: c :: d :: rest from reads]
  simp only [ushr_zero, int32_word]
  rfl

theorem Reads.u32_short {r : ByteReader} {rest : Bytes} (reads : Reads r rest) (short : rest.length < 4) :
    r.u32 = .error .range := by
  rw [ByteReader.u32, show r.buf.drop r.cursor = rest from reads]
  match rest, short with
  | [], _ => rfl
  | [_], _ => rfl
  | [_, _], _ => rfl
  | [_, _, _], _ => rfl

/-- The pad length octet, and what follows it. -/
theorem readPadLength_agrees {r : ByteReader} {rest : Bytes} (reads : Reads r rest) (padded : Bool)
    (message : String) :
    Agrees (fun (n, r) (m, rest') => n = (m : Int) ∧ Reads r rest' ∧
        rest'.length + padded.toNat = rest.length)
      (readPadLength r padded)
      (H2ts.readPadLength rest rest.length padded (.new .protocolError message)) := by
  cases padded with
  | false => exact .ok ⟨rfl, reads, rfl⟩
  | true =>
      cases rest with
      | nil =>
          simp only [readPadLength, if_true, reads.u8_nil]
          exact .protocolError
      | cons a rest =>
          obtain ⟨next, read, reads⟩ := reads.u8_cons
          simp only [readPadLength, if_true, read]
          exact .ok ⟨rfl, reads, rfl⟩

/-- The five octets of a priority. -/
theorem readPriority_long {r : ByteReader} {rest : Bytes} (reads : Reads r rest)
    (long : 5 ≤ rest.length) :
    ∃ p next rest', readPriority r = .ok (ofPriority p, next) ∧
      H2ts.readPriority rest = .ok (p, rest') ∧ Reads next rest' ∧ rest'.length + 5 = rest.length := by
  obtain ⟨a, b, c, d, rest, rfl⟩ := word_of_length (Nat.le_of_succ_le long)
  cases rest with
  | nil => exact absurd long (Nat.not_succ_le_self 4)
  | cons w rest =>
      obtain ⟨next, dep, reads⟩ := reads.u32_cons
      obtain ⟨next', weight, reads⟩ := reads.u8_cons
      refine ⟨⟨low31 (ofBe32 a b c d), w.toUInt16 + 1, top (ofBe32 a b c d)⟩, next', rest, ?_, rfl, reads,
        rfl⟩
      have sum : ((w.toUInt16 + 1).toNat : Int) = (w.toNat : Int) + 1 := by
        have bound := w.toNat_lt
        rw [UInt16.toNat_add, UInt8.toNat_toUInt16]
        simp only [UInt16.reduceToNat]
        omega
      rw [readPriority, dep]
      show (next.u8 >>= _) = _
      rw [weight]
      simp only [ofPriority, ← band_low31, ← band_top, sum]
      rfl

theorem readPriority_short {r : ByteReader} {rest : Bytes} (reads : Reads r rest)
    (short : rest.length < 5) : readPriority r = .error .range := by
  rcases Nat.lt_or_ge rest.length 4 with word | long
  · rw [readPriority, reads.u32_short word]
    rfl
  · obtain ⟨a, b, c, d, rest, rfl⟩ := word_of_length long
    simp only [List.length_cons] at short
    obtain rfl : rest = [] := List.eq_nil_of_length_eq_zero (by omega)
    obtain ⟨next, dep, reads⟩ := reads.u32_cons
    rw [readPriority, dep]
    show (next.u8 >>= _) = _
    rw [reads.u8_nil]
    rfl

/-- What is left of the rest without the padding. -/
theorem fragment_agrees {r : ByteReader} {rest : Bytes} (reads : Reads r rest) {a b : Nat}
    (fits : a - b ≤ rest.length) {message : String} {fragLength : Int} (eq : fragLength = a - b)
    {α β : Type} {same : α → β → Prop} (f : Bytes → α) (g : Bytes → β)
    (build : ∀ fragment, same (f fragment) (g fragment)) :
    Agrees same
      (if fragLength < 0 then Except.error (.h2 .protocolError message none)
        else .ok (f (r.bytes fragLength.toNat).1))
      (checkedSub a b (.new .protocolError message) >>= fun n =>
        readBytes rest n >>= fun read => .ok (g read.1)) := by
  by_cases short : a < b
  · rw [if_pos (by omega), checkedSub, if_pos short]
    exact .throw
  · have length : fragLength.toNat = a - b := by omega
    have read : readBytes rest (a - b) = .ok (rest.take (a - b), rest.drop (a - b)) := by
      rw [readBytes, H2ts.ByteReader.bytes, H2ts.ByteReader.remaining, if_neg (Nat.not_lt.mpr fits)]
    rw [if_neg (by omega), checkedSub, if_neg short, reads.bytes, length]
    show Agrees same _ (readBytes rest (a - b) >>= _)
    rw [read]
    exact .ok (build _)

/-- The same frame. -/
def SameFrame (frame : Frame) (f : H2ts.Frame) : Prop := frame = ofFrame f

theorem hasFlag_eq (flags mask : UInt8) : (band flags.toNat mask.toNat != 0) = hasFlag flags mask :=
  band_byte flags mask

theorem readBytes_all (payload : Bytes) : readBytes payload payload.length = .ok (payload, []) := by
  rw [readBytes, H2ts.ByteReader.bytes, H2ts.ByteReader.remaining, if_neg (Nat.lt_irrefl _),
    List.take_length, List.drop_length]

theorem parseData_agrees (flags : UInt8) (streamId : UInt32) (payload : Bytes) :
    Agrees SameFrame (parseData flags.toNat streamId.toNat payload)
      (H2ts.parseData flags streamId payload) := by
  have padded : (band flags.toNat Flags.DATA_PADDED != 0) = hasFlag flags H2ts.Flags.DATA_PADDED :=
    hasFlag_eq flags 0x8
  have ends : (band flags.toNat Flags.DATA_END_STREAM != 0) = hasFlag flags H2ts.Flags.DATA_END_STREAM :=
    hasFlag_eq flags 0x1
  rw [parseData, padded, ends, H2ts.parseData]
  have data : Agrees (fun a b => a = b)
      (readPadded ⟨payload, 0⟩ payload.length (hasFlag flags H2ts.Flags.DATA_PADDED))
      (H2ts.readPadded payload payload.length (hasFlag flags H2ts.Flags.DATA_PADDED)) := by
    cases hasFlag flags H2ts.Flags.DATA_PADDED with
    | false =>
        simp only [readPadded, H2ts.readPadded, Bool.not_false, if_true]
        rw [readBytes_all]
        exact .ok ((Reads.start payload).bytes payload.length |>.trans List.take_length)
    | true =>
        cases payload with
        | nil => exact .protocolError
        | cons pad rest =>
            obtain ⟨next, read, reads⟩ := (Reads.start (pad :: rest)).u8_cons
            have left : readPadded ⟨pad :: rest, 0⟩ (pad :: rest).length true =
                if ((pad :: rest).length : Int) - 1 - pad.toNat < 0 then
                  .error (.h2 .protocolError "pad length exceeds frame payload" none)
                else .ok (next.bytes (((pad :: rest).length : Int) - 1 - pad.toNat).toNat).1 := by
              simp only [readPadded, Bool.not_true, Bool.false_eq_true, if_false, read]
              rfl
            have right : H2ts.readPadded (pad :: rest) (pad :: rest).length true =
                (checkedSub rest.length pad.toNat
                  (.new .protocolError "pad length exceeds frame payload") >>= fun n =>
                    readBytes rest n >>= fun read => .ok read.1) := rfl
            rw [left, right]
            refine fragment_agrees reads (Nat.sub_le _ _) ?_ id id fun _ => rfl
            rw [List.length_cons]
            omega
  exact data.bind fun a b eq => .ok (eq ▸ rfl)

theorem parseHeaders_agrees (flags : UInt8) (streamId : UInt32) (payload : Bytes) :
    Agrees SameFrame (parseHeaders flags.toNat streamId.toNat payload)
      (H2ts.parseHeaders flags streamId payload) := by
  have padded : (band flags.toNat Flags.HEADERS_PADDED != 0) =
      hasFlag flags H2ts.Flags.HEADERS_PADDED := hasFlag_eq flags 0x8
  have priority : (band flags.toNat Flags.HEADERS_PRIORITY != 0) =
      hasFlag flags H2ts.Flags.HEADERS_PRIORITY := hasFlag_eq flags 0x20
  have ends : (band flags.toNat Flags.HEADERS_END_STREAM != 0) =
      hasFlag flags H2ts.Flags.HEADERS_END_STREAM := hasFlag_eq flags 0x1
  have complete : (band flags.toNat Flags.HEADERS_END_HEADERS != 0) =
      hasFlag flags H2ts.Flags.HEADERS_END_HEADERS := hasFlag_eq flags 0x4
  let frame (priority : Option Priority) (fragment : Bytes) : Frame :=
    .headers streamId.toNat fragment (hasFlag flags H2ts.Flags.HEADERS_END_STREAM)
      (hasFlag flags H2ts.Flags.HEADERS_END_HEADERS) priority
  let frame' (priority : Option H2ts.Priority) (fragment : Bytes) : H2ts.Frame :=
    .headers streamId fragment (hasFlag flags H2ts.Flags.HEADERS_END_STREAM)
      (hasFlag flags H2ts.Flags.HEADERS_END_HEADERS) priority
  simp only [parseHeaders, padded, priority, ends, complete, H2ts.parseHeaders]
  refine (readPadLength_agrees (Reads.start payload) _ _).bind ?_
  rintro ⟨n, r⟩ ⟨m, rest⟩ ⟨eq, reads, length⟩
  have one (b : Bool) : (if b then (1 : Int) else 0) = b.toNat := by cases b <;> rfl
  simp only [one]
  have eq : n = m := eq
  have length : rest.length + (hasFlag flags H2ts.Flags.HEADERS_PADDED).toNat = payload.length := length
  cases hasFlag flags H2ts.Flags.HEADERS_PRIORITY with
  | false =>
      refine fragment_agrees reads ?_ ?_ (frame none) (frame' none) fun _ => rfl
      · simp only [Bool.false_eq_true, if_false]
        omega
      · simp only [Bool.false_eq_true, if_false]
        omega
  | true =>
      simp only [if_true]
      by_cases short : rest.length < 5
      · rw [readPriority_short reads short, H2ts.ByteReader.remaining, if_pos short]
        exact .protocolError
      · obtain ⟨p, next, rest', read, read', reads, shorter⟩ :=
          readPriority_long reads (Nat.le_of_not_lt short)
        rw [H2ts.ByteReader.remaining, if_neg short, read, read']
        refine fragment_agrees reads ?_ ?_ (frame (some (ofPriority p))) (frame' (some p)) fun _ => rfl
        · omega
        · omega

theorem parsePriority_agrees (streamId : UInt32) (payload : Bytes) :
    Agrees SameFrame (parsePriority streamId.toNat payload) (H2ts.parsePriority streamId payload) := by
  by_cases five : payload.length = 5
  · obtain ⟨p, next, rest, read, read', -⟩ := readPriority_long (Reads.start payload) five.ge
    simp only [parsePriority, H2ts.parsePriority, five, ne_eq, not_true_eq_false, if_false, read, read']
    exact .ok rfl
  · simp only [parsePriority, H2ts.parsePriority, five, ne_eq, not_false_eq_true, if_true]
    exact .error rfl (by simp)

/-- A payload of four octets is one word. -/
theorem word_agrees {payload : Bytes} (four : payload.length = 4) :
    ∃ v next, ByteReader.u32 ⟨payload, 0⟩ = .ok ((v.toNat : Int), next) ∧
      H2ts.ByteReader.u32 payload = .ok (v, []) := by
  match payload, four with
  | [a, b, c, d], _ =>
      obtain ⟨next, read, -⟩ := (Reads.start [a, b, c, d]).u32_cons
      exact ⟨ofBe32 a b c d, next, read, rfl⟩

theorem parseRstStream_agrees (streamId : UInt32) (payload : Bytes) :
    Agrees SameFrame (parseRstStream streamId.toNat payload) (H2ts.parseRstStream streamId payload) := by
  by_cases four : payload.length = 4
  · obtain ⟨v, next, read, read'⟩ := word_agrees four
    simp only [parseRstStream, H2ts.parseRstStream, four, ne_eq, not_true_eq_false, if_false, read, read']
    exact .ok rfl
  · simp only [parseRstStream, H2ts.parseRstStream, four, ne_eq, not_false_eq_true, if_true]
    exact .throw

theorem parseWindowUpdate_agrees (streamId : UInt32) (payload : Bytes) :
    Agrees SameFrame (parseWindowUpdate streamId.toNat payload)
      (H2ts.parseWindowUpdate streamId payload) := by
  by_cases four : payload.length = 4
  · obtain ⟨v, next, read, read'⟩ := word_agrees four
    simp only [parseWindowUpdate, H2ts.parseWindowUpdate, four, ne_eq, not_true_eq_false, if_false,
      read, read']
    exact .ok (congrArg (Frame.windowUpdate streamId.toNat) (band_low31 v))
  · simp only [parseWindowUpdate, H2ts.parseWindowUpdate, four, ne_eq, not_false_eq_true, if_true]
    exact .throw

theorem applySetting_ofSettings (settings : H2ts.Settings) (id : UInt16) (value : UInt32) :
    applySetting (ofSettings settings) id.toNat value.toNat =
      ofSettings (H2ts.applySetting settings id value) := by
  have distinct {n : Nat} (other : id ≠ UInt16.ofNat n) : (id.toNat : Int) ≠ n := by
    intro eq
    refine other ?_
    rw [← UInt16.ofNat_toNat (x := id)]
    exact congrArg UInt16.ofNat (by exact_mod_cast eq)
  unfold H2ts.applySetting
  split
  · rfl
  · have flag : ((value.toNat : Int) != 0) = (value != 0) := by
      rw [Bool.eq_iff_iff, bne_iff_ne, bne_iff_ne]
      refine not_congr ⟨fun eq => UInt32.toNat_inj.mp (by exact_mod_cast eq), fun eq => ?_⟩
      rw [eq]
      rfl
    simp only [applySetting, flag]
    rfl
  · rfl
  · rfl
  · rfl
  · rfl
  next h1 h2 h3 h4 h5 h6 =>
    unfold applySetting
    split
    next eq => exact absurd eq (distinct h1)
    next eq => exact absurd eq (distinct h2)
    next eq => exact absurd eq (distinct h3)
    next eq => exact absurd eq (distinct h4)
    next eq => exact absurd eq (distinct h5)
    next eq => exact absurd eq (distinct h6)
    · rfl

/-- Six octets for each entry. -/
theorem readSettings_agrees (count : Nat) (settings : H2ts.Settings) {r : ByteReader} {rest : Bytes}
    (reads : Reads r rest) (long : 6 * count ≤ rest.length) :
    Agrees (fun s s' => s = ofSettings s') (readSettings count (ofSettings settings) r)
      (H2ts.readSettings count settings rest) := by
  induction count generalizing settings r rest with
  | zero => exact .ok rfl
  | succ count ih =>
      match rest, long with
      | a :: b :: c :: d :: e :: f :: rest, long =>
          obtain ⟨next, id, reads⟩ := reads.u16_cons
          obtain ⟨next', value, reads⟩ := reads.u32_cons
          have later := ih (H2ts.applySetting settings (ofBe16 a b) (ofBe32 c d e f)) reads (by
            simp only [List.length_cons] at long
            omega)
          rw [← applySetting_ofSettings] at later
          rw [readSettings, id]
          show Agrees _ (next.u32 >>= _) _
          rw [value]
          exact later
      | [_, _, _, _, _], long => simp at long; omega
      | [_, _, _, _], long => simp at long; omega
      | [_, _, _], long => simp at long; omega
      | [_, _], long => simp at long; omega
      | [_], long => simp at long; omega
      | [], long => simp at long

theorem parseSettings_agrees (flags : UInt8) (payload : Bytes) :
    Agrees SameFrame (parseSettings flags.toNat payload) (H2ts.parseSettings flags payload) := by
  have ack : (band flags.toNat Flags.SETTINGS_ACK != 0) = hasFlag flags H2ts.Flags.SETTINGS_ACK :=
    hasFlag_eq flags 0x1
  simp only [parseSettings, ack, H2ts.parseSettings]
  split
  · exact .throw
  · split
    · exact .throw
    next six =>
      have read := readSettings_agrees (payload.length / 6) {} (Reads.start payload) (by omega)
      exact read.bind fun s s' eq => .ok (eq ▸ rfl)

theorem parsePushPromise_agrees (flags : UInt8) (streamId : UInt32) (payload : Bytes) :
    Agrees SameFrame (parsePushPromise flags.toNat streamId.toNat payload)
      (H2ts.parsePushPromise flags streamId payload) := by
  have padded : (band flags.toNat Flags.PUSH_PROMISE_PADDED != 0) =
      hasFlag flags H2ts.Flags.PUSH_PROMISE_PADDED := hasFlag_eq flags 0x8
  have complete : (band flags.toNat Flags.PUSH_PROMISE_END_HEADERS != 0) =
      hasFlag flags H2ts.Flags.PUSH_PROMISE_END_HEADERS := hasFlag_eq flags 0x4
  simp only [parsePushPromise, padded, complete, H2ts.parsePushPromise]
  refine (readPadLength_agrees (Reads.start payload) _ _).bind ?_
  rintro ⟨n, r⟩ ⟨m, rest⟩ ⟨eq, reads, length⟩
  have one (b : Bool) : (if b then (1 : Int) else 0) = b.toNat := by cases b <;> rfl
  simp only [one]
  have eq : n = m := eq
  have length : rest.length + (hasFlag flags H2ts.Flags.PUSH_PROMISE_PADDED).toNat = payload.length :=
    length
  by_cases short : rest.length < 4
  · rw [reads.u32_short short, H2ts.ByteReader.remaining, if_pos short]
    exact .protocolError
  · obtain ⟨a, b, c, d, rest, rfl⟩ := word_of_length (Nat.le_of_not_lt short)
    obtain ⟨next, read, reads⟩ := reads.u32_cons
    rw [read, H2ts.ByteReader.remaining, if_neg short]
    simp only [List.length_cons] at length
    refine fragment_agrees reads ?_ ?_
      (fun fragment => Frame.pushPromise streamId.toNat (band (ofBe32 a b c d).toNat 0x7fffffff)
        fragment (hasFlag flags H2ts.Flags.PUSH_PROMISE_END_HEADERS))
      (fun fragment => H2ts.Frame.pushPromise streamId (low31 (ofBe32 a b c d)) fragment
        (hasFlag flags H2ts.Flags.PUSH_PROMISE_END_HEADERS)) fun fragment => ?_
    · omega
    · omega
    · simp only [SameFrame, ofFrame, band_low31]

theorem parsePing_agrees (flags : UInt8) (payload : Bytes) :
    Agrees SameFrame (parsePing flags.toNat payload) (H2ts.parsePing flags payload) := by
  have ack : (band flags.toNat Flags.PING_ACK != 0) = hasFlag flags H2ts.Flags.PING_ACK :=
    hasFlag_eq flags 0x1
  simp only [parsePing, ack, H2ts.parsePing]
  by_cases eight : payload.length = 8
  · have all : (ByteReader.bytes ⟨payload, 0⟩ 8).1 = payload := by
      rw [(Reads.start payload).bytes, ← eight, List.take_length]
    have read : readBytes payload 8 = .ok (payload, []) := by rw [← eight, readBytes_all]
    rw [if_neg (not_not.mpr eight), if_neg (not_not.mpr eight), all, read]
    show Agrees SameFrame _ (dite (payload.length = 8) _ _)
    rw [dif_pos eight]
    exact .ok rfl
  · rw [if_pos eight, if_pos eight]
    exact .throw

theorem parseGoaway_agrees (payload : Bytes) :
    Agrees SameFrame (parseGoaway payload) (H2ts.parseGoaway payload) := by
  simp only [parseGoaway, H2ts.parseGoaway]
  by_cases short : payload.length < 8
  · rw [if_pos short, if_pos short]
    exact .throw
  · rw [if_neg short, if_neg short]
    obtain ⟨a, b, c, d, rest, rfl⟩ := word_of_length (Nat.le_trans (by decide) (Nat.le_of_not_lt short))
    have second : 4 ≤ rest.length := by
      simp only [List.length_cons] at short
      omega
    obtain ⟨e, f, g, h, rest, rfl⟩ := word_of_length second
    obtain ⟨next, last, reads⟩ := (Reads.start (a :: b :: c :: d :: e :: f :: g :: h :: rest)).u32_cons
    obtain ⟨next', code, reads⟩ := reads.u32_cons
    rw [last]
    show Agrees SameFrame (next.u32 >>= _) (readBytes rest rest.length >>= _)
    rw [code, readBytes_all]
    refine .ok ?_
    show Frame.goaway _ _ (next'.bytes rest.length).1 = _
    rw [reads.bytes, List.take_length, band_low31]
    rfl

theorem parseContinuation_agrees (flags : UInt8) (streamId : UInt32) (payload : Bytes) :
    Agrees SameFrame (parseContinuation flags.toNat streamId.toNat payload)
      (H2ts.parseContinuation flags streamId payload) := by
  have complete : (band flags.toNat Flags.CONTINUATION_END_HEADERS != 0) =
      hasFlag flags H2ts.Flags.CONTINUATION_END_HEADERS := hasFlag_eq flags 0x4
  simp only [parseContinuation, complete, H2ts.parseContinuation, (Reads.start payload).bytes,
    List.take_length, readBytes_all]
  exact .ok rfl

/-- A parsed frame, a type to ignore, or a failure with the same code. -/
inductive SameResult : Except Thrown Frame → Except Fault (Option H2ts.Frame) → Prop
  | frame (f : H2ts.Frame) : SameResult (.ok (ofFrame f)) (.ok (some f))
  | unknown (typeId : Int) : SameResult (.error (.unknownFrameType typeId)) (.ok none)
  | error {thrown : Thrown} {err : H2Error} (code : thrown.code = err.code)
      (known : ∀ typeId, thrown ≠ .unknownFrameType typeId) :
      SameResult (.error thrown) (.error (.h2 err))

theorem Agrees.result {x : Except Thrown Frame} {y : Except Fault H2ts.Frame}
    (agrees : Agrees SameFrame x y) : SameResult x (some <$> y) := by
  cases agrees with
  | ok eq =>
      cases eq
      exact .frame _
  | error code known => exact .error code known

theorem parsePayload_agrees (typeId flags : UInt8) (streamId : UInt32) (payload : Bytes) :
    SameResult (parsePayload typeId.toNat flags.toNat streamId.toNat payload)
      (H2ts.parsePayload typeId flags streamId payload) := by
  have distinct {n : Nat} (other : typeId ≠ UInt8.ofNat n) : (typeId.toNat : Int) ≠ n := by
    intro eq
    refine other ?_
    rw [← UInt8.ofNat_toNat (x := typeId)]
    exact congrArg UInt8.ofNat (by exact_mod_cast eq)
  unfold H2ts.parsePayload
  split
  · exact (parseData_agrees flags streamId payload).result
  · exact (parseHeaders_agrees flags streamId payload).result
  · exact (parsePriority_agrees streamId payload).result
  · exact (parseRstStream_agrees streamId payload).result
  · exact (parseSettings_agrees flags payload).result
  · exact (parsePushPromise_agrees flags streamId payload).result
  · exact (parsePing_agrees flags payload).result
  · exact (parseGoaway_agrees payload).result
  · exact (parseWindowUpdate_agrees streamId payload).result
  · exact (parseContinuation_agrees flags streamId payload).result
  next h0 h1 h2 h3 h4 h5 h6 h7 h8 h9 =>
    have ignored : parsePayload typeId.toNat flags.toNat streamId.toNat payload =
        .error (.unknownFrameType typeId.toNat) := by
      unfold parsePayload
      split
      next eq => exact absurd eq (distinct h0)
      next eq => exact absurd eq (distinct h1)
      next eq => exact absurd eq (distinct h2)
      next eq => exact absurd eq (distinct h3)
      next eq => exact absurd eq (distinct h4)
      next eq => exact absurd eq (distinct h5)
      next eq => exact absurd eq (distinct h6)
      next eq => exact absurd eq (distinct h7)
      next eq => exact absurd eq (distinct h8)
      next eq => exact absurd eq (distinct h9)
      · rfl
    rw [ignored]
    exact .unknown _

/-! ## Decoding -/

namespace FrameDecoder

theorem byteAt_drop {buf : Bytes} {offset : Nat} {rest : Bytes} (here : buf.drop offset = rest) (i : Nat) :
    byteAt buf (offset + i) = (rest.getD i 0).toNat := by
  rw [byteAt, ← here, List.getD_eq_getElem?_getD, List.getD_eq_getElem?_getD, List.getElem?_drop]

/-- One round of the loop over a whole header. -/
theorem decode_header {maxFrameSize : Nat} {buf : Bytes} {offset : Nat}
    {l0 l1 l2 typeId flags s0 s1 s2 s3 : UInt8} {rest : Bytes}
    (here : buf.drop offset = l0 :: l1 :: l2 :: typeId :: flags :: s0 :: s1 :: s2 :: s3 :: rest)
    (fuel : Nat) (frames : List Frame) :
    decode maxFrameSize buf (fuel + 1) offset frames =
      if ofBe24 l0 l1 l2 > maxFrameSize then
        .error (.h2 .frameSizeError ("frame length " ++ toString (ofBe24 l0 l1 l2 : Int) ++
          " exceeds max " ++ toString maxFrameSize) none)
      else if rest.length < ofBe24 l0 l1 l2 then .ok (frames, offset)
      else
        match parsePayload typeId.toNat flags.toNat (low31 (ofBe32 s0 s1 s2 s3)).toNat
            (rest.take (ofBe24 l0 l1 l2)) with
        | .ok frame => decode maxFrameSize buf fuel (offset + (9 + ofBe24 l0 l1 l2)) (frames ++ [frame])
        | .error (.unknownFrameType _) =>
            decode maxFrameSize buf fuel (offset + (9 + ofBe24 l0 l1 l2)) frames
        | .error thrown => .error thrown := by
  have size : buf.length - offset = rest.length + 9 := by
    have length := congrArg List.length here
    rw [List.length_drop] at length
    exact length
  have length : bor (bor (shl (byteAt buf offset) 16) (shl (byteAt buf (offset + 1)) 8))
      (byteAt buf (offset + 2)) = ofBe24 l0 l1 l2 := by
    rw [show byteAt buf offset = l0.toNat from byteAt_drop here 0, byteAt_drop here 1,
      byteAt_drop here 2]
    exact length_of_bytes l0 l1 l2
  have streamId : band (bor (bor (bor (shl (byteAt buf (offset + 5)) 24)
      (shl (byteAt buf (offset + 6)) 16)) (shl (byteAt buf (offset + 7)) 8))
      (byteAt buf (offset + 8))) 0x7fffffff = (low31 (ofBe32 s0 s1 s2 s3)).toNat := by
    rw [byteAt_drop here 5, byteAt_drop here 6, byteAt_drop here 7, byteAt_drop here 8, ← band_low31]
    show (int32 _ &&& _).toInt = (int32 _ &&& _).toInt
    rw [int32_word]
    exact congrArg (fun v => (v &&& int32 0x7fffffff).toInt) (word_of_bytes s0 s1 s2 s3)
  have payload : buf.drop (offset + FRAME_HEADER_SIZE) = rest := by
    rw [← List.drop_drop, here]
    rfl
  have enough : FRAME_HEADER_SIZE ≤ rest.length + 9 := Nat.le_add_left 9 _
  rw [decode]
  simp only [size, length, streamId, payload, enough, if_true, byteAt_drop here 3, byteAt_drop here 4,
    Int.toNat_natCast]
  refine if_congr ⟨fun large => by omega, fun large => by omega⟩ rfl ?_
  refine if_congr ?_ rfl rfl
  show rest.length + 9 < 9 + ofBe24 l0 l1 l2 ↔ rest.length < ofBe24 l0 l1 l2
  omega

/-- The same frames and the same rest, or a failure with the same code. -/
inductive SameDrain (buf : Bytes) (frames : List Frame) :
    Except Thrown (List Frame × Nat) → Except Fault (List H2ts.Frame × Bytes) → Prop
  | ok (found : List H2ts.Frame) (offset : Nat) :
      SameDrain buf frames (.ok (frames ++ found.map ofFrame, offset)) (.ok (found, buf.drop offset))
  | error {thrown : Thrown} {err : H2Error} (code : thrown.code = err.code) :
      SameDrain buf frames (.error thrown) (.error (.h2 err))

/-- A unit taken before the rest. -/
theorem SameDrain.keep {buf : Bytes} {frames : List Frame} {x : Except Thrown (List Frame × Nat)}
    {y : Except Fault (List H2ts.Frame × Bytes)} (unit : Option H2ts.Frame)
    (later : SameDrain buf (frames ++ unit.toList.map ofFrame) x y) :
    SameDrain buf frames x (y.map (Scanner.keep unit)) := by
  cases later with
  | ok found offset =>
      rw [List.append_assoc, ← List.map_append]
      exact .ok (unit.toList ++ found) offset
  | error code => exact .error code

theorem decode_agrees (maxFrameSize : Nat) (buf : Bytes) (fuel offset : Nat) (frames : List Frame)
    (enough : buf.length - offset ≤ fuel) :
    SameDrain buf frames (decode maxFrameSize buf fuel offset frames)
      ((frameScanner maxFrameSize).drain (buf.drop offset)) := by
  have pause {offset : Nat} {frames : List Frame} {result : Except Thrown (List Frame × Nat)}
      (same : result = .ok (frames, offset))
      (more : scanFrame maxFrameSize (buf.drop offset) = .more) :
      SameDrain buf frames result ((frameScanner maxFrameSize).drain (buf.drop offset)) := by
    rw [same, (frameScanner maxFrameSize).drain_more more]
    have kept : SameDrain buf frames (.ok (frames ++ [].map ofFrame, offset))
      (.ok ([], buf.drop offset)) := .ok [] offset
    rwa [List.map_nil, List.append_nil] at kept
  induction fuel generalizing offset frames with
  | zero =>
      refine pause rfl ?_
      rw [List.drop_eq_nil_of_le (by omega)]
      rfl
  | succ fuel ih =>
      by_cases long : FRAME_HEADER_SIZE ≤ (buf.drop offset).length
      · obtain ⟨l0, l1, l2, typeId, flags, s0, s1, s2, s3, rest, here⟩ := header_of_length long
        have scan := scanFrame_cons maxFrameSize l0 l1 l2 typeId flags s0 s1 s2 s3 rest
        have size : buf.length - offset = rest.length + 9 := by
          have length := congrArg List.length here
          rwa [List.length_drop] at length
        rw [← here] at scan
        rw [decode_header here]
        by_cases large : ofBe24 l0 l1 l2 > maxFrameSize
        · rw [if_pos large] at scan ⊢
          rw [(frameScanner maxFrameSize).drain_fail scan]
          exact .error rfl
        · rw [if_neg large] at scan ⊢
          by_cases short : rest.length < ofBe24 l0 l1 l2
          · rw [if_pos short] at scan ⊢
            exact pause rfl scan
          · rw [if_neg short] at scan ⊢
            -- What is left is the buffer from the next offset on.
            have next : rest.drop (ofBe24 l0 l1 l2) = buf.drop (offset + (9 + ofBe24 l0 l1 l2)) := by
              rw [← List.drop_drop, here, ← List.drop_drop]
              rfl
            have fuelled : buf.length - (offset + (9 + ofBe24 l0 l1 l2)) ≤ fuel := by omega
            rw [next] at scan
            have parsed := parsePayload_agrees typeId flags (low31 (ofBe32 s0 s1 s2 s3))
              (rest.take (ofBe24 l0 l1 l2))
            generalize parsePayload typeId.toNat flags.toNat (low31 (ofBe32 s0 s1 s2 s3)).toNat
              (rest.take (ofBe24 l0 l1 l2)) = result at parsed ⊢
            generalize H2ts.parsePayload typeId flags (low31 (ofBe32 s0 s1 s2 s3))
              (rest.take (ofBe24 l0 l1 l2)) = result' at parsed scan
            cases parsed with
            | frame f =>
                rw [(frameScanner maxFrameSize).drain_item scan]
                exact (ih _ (frames ++ [ofFrame f]) fuelled).keep (some f)
            | unknown typeId =>
                rw [(frameScanner maxFrameSize).drain_item scan]
                refine SameDrain.keep none ?_
                rw [Option.toList_none, List.map_nil, List.append_nil]
                exact ih _ frames fuelled
            | error code known =>
                rw [(frameScanner maxFrameSize).drain_fail scan]
                split
                next same => cases same
                next typeId same => exact absurd (Except.error.inj same) (known typeId)
                next thrown _ same =>
                  cases same
                  exact .error code
      · refine pause ?_ ?_
        · rw [List.length_drop] at long
          rw [decode, if_neg long]
        · by_contra whole
          obtain ⟨l0, l1, l2, typeId, flags, s0, s1, s2, s3, rest, here⟩ := scanFrame_header whole
          rw [here] at long
          exact long (Nat.le_add_left 9 _)

/-- The results of the pushes, chunk by chunk, and the failure that ends them. -/
def outcomes {δ φ ε : Type} (push : δ → Bytes → δ × Except ε (List φ)) :
    δ → List Bytes → List (List φ) × Option ε
  | _, [] => ([], none)
  | d, chunk :: chunks =>
      match push d chunk with
      | (_, .error fault) => ([], some fault)
      | (d, .ok frames) => ((frames :: (outcomes push d chunks).1), (outcomes push d chunks).2)

/-- The code of a failure; a panic has none. -/
def faultCode : Fault → Option ErrorCode
  | .h2 err => some err.code
  | .panic => none

theorem outcomes_agree (chunks : List Bytes) (d : FrameDecoder) (e : H2ts.FrameDecoder)
    (pending : d.pending = e.pending) (size : d.maxFrameSize = e.maxFrameSize) :
    Prod.map id (Option.map fun thrown => some thrown.code) (outcomes push d chunks) =
      Prod.map (List.map (List.map ofFrame)) (Option.map faultCode)
        (outcomes H2ts.FrameDecoder.push e chunks) := by
  induction chunks generalizing d e with
  | nil => rfl
  | cons chunk chunks ih =>
      have buffer : (if d.pending.length = 0 then chunk else d.pending ++ chunk) =
          e.pending ++ chunk := by
        rw [← pending]
        split
        next empty => rw [List.eq_nil_of_length_eq_zero empty, List.nil_append]
        · rfl
      have same := decode_agrees d.maxFrameSize (e.pending ++ chunk) (e.pending ++ chunk).length 0 []
        (Nat.sub_le _ _)
      rw [List.drop_zero] at same
      simp only [outcomes, push, buffer, H2ts.FrameDecoder.push, ← size]
      generalize decode d.maxFrameSize (e.pending ++ chunk) (e.pending ++ chunk).length 0 [] = result
        at same ⊢
      generalize (frameScanner d.maxFrameSize).drain (e.pending ++ chunk) = result' at same ⊢
      cases same with
      | ok found offset =>
          have later := ih { d with pending := (e.pending ++ chunk).drop offset }
            ⟨(e.pending ++ chunk).drop offset, d.maxFrameSize⟩ rfl rfl
          have first := congrArg Prod.fst later
          have second := congrArg Prod.snd later
          rw [List.nil_append]
          exact Prod.ext (congrArg (List.cons (found.map ofFrame)) first) second
      | error code => exact Prod.ext rfl (congrArg (fun code => some (some code)) code)

end FrameDecoder

/-- The codecs write the same bytes for the same frame, and read the same frames off the
same chunks until they fail at the same chunk with the same code. -/
theorem codecs_agree :
    (∀ f : H2ts.Frame, serializeFrame (ofFrame f) = H2ts.serializeFrame f) ∧
      ∀ (maxFrameSize : Nat) (chunks : List Bytes),
        Prod.map id (Option.map fun thrown => some thrown.code)
            (FrameDecoder.outcomes FrameDecoder.push (.new maxFrameSize) chunks) =
          Prod.map (List.map (List.map ofFrame)) (Option.map FrameDecoder.faultCode)
            (FrameDecoder.outcomes H2ts.FrameDecoder.push (.new maxFrameSize) chunks) :=
  ⟨serializeFrame_ofFrame, fun maxFrameSize chunks =>
    FrameDecoder.outcomes_agree chunks (.new maxFrameSize) (.new maxFrameSize) rfl rfl⟩

end Typescript

end H2ts
