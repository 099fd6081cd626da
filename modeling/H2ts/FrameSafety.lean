import H2ts.FramePadding
import H2ts.FrameStream

/-!
# Any bytes

Whatever a peer sends, `push` comes to an end, and every byte it reads is there.

The fixed-width reads panic when the bytes run out, and the parsers guard them by
comparing lengths.  A parser is `Guarded` if it gives a result or refuses the payload: no
panic, and no error of `readBytes`, whose slices are always long enough.  All of them are
(`guarded_parsePayload`).

The loop of `push` stands in `scanFrame` without its indices.  `pushRound` and
`pushRounds` have them, with every index and slice checked: each round reads inside the
buffer (`pushRound_eq`) and moves on, so that the loop ends with what `push` returns
(`push_safe`).
-/

namespace H2ts

open BigEndian

/-! ## Guarded parsers -/

/-- The error a payload is refused with. -/
def Refusal (fault : Fault) : Prop :=
  ∃ err, fault = .h2 err ∧ (err.code = .protocolError ∨ err.code = .frameSizeError) ∧
    fault ≠ truncated

/-- A result, or a refusal. -/
def Guarded {α : Type} (result : Except Fault α) : Prop :=
  ∀ fault, result = .error fault → Refusal fault

theorem Refusal.new {code : ErrorCode} {message : String}
    (refuses : code = .protocolError ∨ code = .frameSizeError)
    (other : message ≠ "truncated frame payload") : Refusal (.new code message) := by
  refine ⟨_, rfl, refuses, fun same => other ?_⟩
  exact Option.some.inj (congrArg H2Error.message (Fault.h2.inj same))

theorem Refusal.stream (message : String) (id : UInt32) :
    Refusal (.stream .frameSizeError message id) := by
  refine ⟨_, rfl, .inr rfl, fun same => ?_⟩
  cases congrArg H2Error.code (Fault.h2.inj same)

namespace Guarded

theorem ok {α : Type} (a : α) : Guarded (.ok a) := by
  intro fault failed
  cases failed

theorem error {α : Type} {fault : Fault} (refusal : Refusal fault) :
    Guarded (.error fault : Except Fault α) := by
  intro fault' failed
  cases failed
  exact refusal

theorem bind {α β : Type} {result : Except Fault α} {next : α → Except Fault β}
    (first : Guarded result) (later : ∀ a, result = .ok a → Guarded (next a)) :
    Guarded (result >>= next) := by
  cases result with
  | error fault => exact error (first fault rfl)
  | ok a => exact later a rfl

/-- A check that throws. -/
theorem check {α : Type} {condition : Prop} [Decidable condition] {fault : Fault}
    {next : PUnit → Except Fault α} (refusal : Refusal fault)
    (later : ¬ condition → Guarded (next ⟨⟩)) :
    Guarded (if condition then throw fault >>= next else next ⟨⟩) := by
  split
  next => exact error refusal
  next passed => exact later passed

theorem map {result : Except Fault Frame} (guarded : Guarded result) :
    Guarded (some <$> result) := by
  cases result with
  | error fault => exact error (guarded fault rfl)
  | ok frame => exact ok _

end Guarded

theorem guarded_fieldOf {fixed pad : Nat} {fault : Fault} {rest : Bytes} (refusal : Refusal fault) :
    Guarded (fieldOf fixed pad fault rest) := by
  unfold fieldOf
  split
  · exact .error refusal
  · exact .ok _

theorem guarded_fixedAndField {α : Type} {read : ByteReader → Except Fault (α × ByteReader)}
    {fixed pad : Nat} {short invalid : Fault} {make : α → Bytes → Frame} {rest : Bytes}
    (reads : Reads read fixed) (refusal : Refusal short) (refusal' : Refusal invalid) :
    Guarded (fixedAndField read fixed short make pad invalid rest) := by
  unfold fixedAndField
  split
  next => exact .error refusal
  next long =>
    obtain ⟨a, front⟩ := reads.exact (Nat.le_of_not_lt long)
    rw [front, bind_ok]
    exact (guarded_fieldOf refusal').bind fun field _ => .ok _

theorem guarded_readPadLength {payload : Bytes} {padded : Bool} {fault : Fault}
    (refusal : Refusal fault) : Guarded (readPadLength payload payload.length padded fault) := by
  rcases readPadLength_cases payload padded fault with ⟨-, -, failed⟩ | ⟨pad, rest, read, -⟩
  · rw [failed]
    exact .error refusal
  · rw [read]
    exact .ok _

theorem guarded_parseData (flagBits : UInt8) (id : UInt32) (payload : Bytes) :
    Guarded (parseData flagBits id payload) := by
  rw [parseData_eq]
  refine (guarded_readPadLength (.new (.inl rfl) (by decide))).bind fun read _ => ?_
  exact (guarded_fieldOf (.new (.inl rfl) (by decide))).bind fun data _ => .ok _

theorem guarded_parseHeaders (flagBits : UInt8) (id : UInt32) (payload : Bytes) :
    Guarded (parseHeaders flagBits id payload) := by
  have invalid : Refusal (.new .protocolError "invalid HEADERS padding") :=
    .new (.inl rfl) (by decide)
  rw [parseHeaders_eq]
  refine (guarded_readPadLength invalid).bind fun read _ => ?_
  unfold headersRest
  simp only []
  split
  · exact guarded_fixedAndField reads_priority (.new (.inl rfl) (by decide)) invalid
  · exact (guarded_fieldOf invalid).bind fun fragment _ => .ok _

theorem guarded_parsePushPromise (flagBits : UInt8) (id : UInt32) (payload : Bytes) :
    Guarded (parsePushPromise flagBits id payload) := by
  have invalid : Refusal (.new .protocolError "invalid PUSH_PROMISE padding") :=
    .new (.inl rfl) (by decide)
  rw [parsePushPromise_eq]
  refine (guarded_readPadLength invalid).bind fun read _ => ?_
  exact guarded_fixedAndField reads_u32 (.new (.inl rfl) (by decide)) invalid

theorem guarded_parsePriority (id : UInt32) (payload : Bytes) :
    Guarded (parsePriority id payload) := by
  unfold parsePriority
  refine .check (.stream _ id) fun five => ?_
  obtain ⟨priority, front⟩ := reads_priority.exact (Nat.le_of_eq (not_ne_iff.mp five).symm)
  rw [front]
  exact .ok _

theorem guarded_parseRstStream (id : UInt32) (payload : Bytes) :
    Guarded (parseRstStream id payload) := by
  unfold parseRstStream
  refine .check ?_ fun four => ?_
  · exact .new (.inr rfl) (by decide)
  obtain ⟨word, front⟩ := reads_u32.exact (Nat.le_of_eq (not_ne_iff.mp four).symm)
  rw [front]
  exact .ok _

theorem guarded_parseWindowUpdate (id : UInt32) (payload : Bytes) :
    Guarded (parseWindowUpdate id payload) := by
  unfold parseWindowUpdate
  refine .check ?_ fun four => ?_
  · exact .new (.inr rfl) (by decide)
  obtain ⟨word, front⟩ := reads_u32.exact (Nat.le_of_eq (not_ne_iff.mp four).symm)
  rw [front]
  exact .ok _

/-- Each entry has six bytes. -/
theorem readSettings_total (count : Nat) (settings : Settings) {r : ByteReader}
    (long : 6 * count ≤ r.length) : ∃ result, readSettings count settings r = .ok result := by
  induction count generalizing settings r with
  | zero => exact ⟨settings, rfl⟩
  | succ count ih =>
      match r, long with
      | a :: b :: v0 :: v1 :: v2 :: v3 :: r, long =>
          refine ih (applySetting settings (ofBe16 a b) (ofBe32 v0 v1 v2 v3)) (r := r) ?_
          simp only [List.length_cons] at long
          omega

theorem guarded_parseSettings (flagBits : UInt8) (payload : Bytes) :
    Guarded (parseSettings flagBits payload) := by
  unfold parseSettings
  refine .check ?_ fun _ => ?_
  · exact .new (.inr rfl) (by decide)
  refine .check ?_ fun _ => ?_
  · exact .new (.inr rfl) (by decide)
  obtain ⟨settings, read⟩ :=
    readSettings_total (payload.length / 6) {} (r := payload) (Nat.mul_div_le _ _)
  rw [read]
  exact .ok _

theorem guarded_parsePing (flagBits : UInt8) (payload : Bytes) :
    Guarded (parsePing flagBits payload) := by
  unfold parsePing
  refine .check ?_ fun eight => ?_
  · exact .new (.inr rfl) (by decide)
  have eight : payload.length = 8 := not_ne_iff.mp eight
  have taken : (payload.take 8).length = 8 := by
    rw [List.length_take]
    omega
  rw [readBytes_of_le (Nat.le_of_eq eight.symm), bind_ok]
  simp only [taken, dif_pos]
  exact .ok _

theorem guarded_parseGoaway (payload : Bytes) : Guarded (parseGoaway payload) := by
  unfold parseGoaway
  refine .check ?_ fun short => ?_
  · exact .new (.inr rfl) (by decide)
  obtain ⟨last, front⟩ := reads_u32.exact (r := payload) (by omega)
  have left : (payload.drop 4).length = payload.length - 4 := List.length_drop
  obtain ⟨code, behind⟩ := reads_u32.exact (r := payload.drop 4) (by omega)
  have enough : payload.length - 8 ≤ ((payload.drop 4).drop 4).length := by
    rw [List.length_drop]
    omega
  rw [front, bind_ok]
  simp only [behind, bind_ok, readBytes_of_le enough]
  exact .ok _

theorem guarded_parseContinuation (flagBits : UInt8) (id : UInt32) (payload : Bytes) :
    Guarded (parseContinuation flagBits id payload) := by
  unfold parseContinuation
  rw [readBytes_self]
  exact .ok _

/-- Every payload is parsed or refused. -/
theorem guarded_parsePayload (typeId flagBits : UInt8) (id : UInt32) (payload : Bytes) :
    Guarded (parsePayload typeId flagBits id payload) := by
  unfold parsePayload
  split
  · exact (guarded_parseData _ _ _).map
  · exact (guarded_parseHeaders _ _ _).map
  · exact (guarded_parsePriority _ _).map
  · exact (guarded_parseRstStream _ _).map
  · exact (guarded_parseSettings _ _).map
  · exact (guarded_parsePushPromise _ _ _).map
  · exact (guarded_parsePing _ _).map
  · exact (guarded_parseGoaway _).map
  · exact (guarded_parseWindowUpdate _ _).map
  · exact (guarded_parseContinuation _ _ _).map
  · exact .ok _

/-- The frame types that the parser knows. -/
def Known (typeId : UInt8) : Prop := typeId ≤ FrameType.CONTINUATION

instance (typeId : UInt8) : Decidable (Known typeId) :=
  inferInstanceAs (Decidable (typeId ≤ FrameType.CONTINUATION))

theorem known_cases {typeId : UInt8} (known : Known typeId) :
    typeId = 0 ∨ typeId = 1 ∨ typeId = 2 ∨ typeId = 3 ∨ typeId = 4 ∨ typeId = 5 ∨ typeId = 6 ∨
      typeId = 7 ∨ typeId = 8 ∨ typeId = 9 := by
  have all : ∀ n : Fin 256, Known ⟨⟨n⟩⟩ → (⟨⟨n⟩⟩ : UInt8) = 0 ∨ (⟨⟨n⟩⟩ : UInt8) = 1 ∨
      (⟨⟨n⟩⟩ : UInt8) = 2 ∨ (⟨⟨n⟩⟩ : UInt8) = 3 ∨ (⟨⟨n⟩⟩ : UInt8) = 4 ∨ (⟨⟨n⟩⟩ : UInt8) = 5 ∨
      (⟨⟨n⟩⟩ : UInt8) = 6 ∨ (⟨⟨n⟩⟩ : UInt8) = 7 ∨ (⟨⟨n⟩⟩ : UInt8) = 8 ∨ (⟨⟨n⟩⟩ : UInt8) = 9 := by
    decide +kernel
  exact all typeId.toBitVec.toFin known

/-- A payload of a known type is parsed, and one of an unknown type is skipped. -/
theorem parsePayload_cases (typeId flagBits : UInt8) (id : UInt32) (payload : Bytes) :
    (Known typeId ∧ ∃ result, parsePayload typeId flagBits id payload = some <$> result) ∨
      ¬ Known typeId ∧ parsePayload typeId flagBits id payload = .ok none := by
  by_cases known : Known typeId
  · refine .inl ⟨known, ?_⟩
    rcases known_cases known with rfl | rfl | rfl | rfl | rfl | rfl | rfl | rfl | rfl | rfl <;>
      exact ⟨_, rfl⟩
  · refine .inr ⟨known, ?_⟩
    unfold parsePayload
    split
    case h_11 => rfl
    all_goals exact absurd (by decide) known

/-! ## Types -/

/-- A parser that makes frames of one type. -/
def Makes (typeId : UInt8) (result : Except Fault Frame) : Prop :=
  ∀ frame, result = .ok frame → (encodeBody frame).typeId = typeId

namespace Makes

variable {typeId : UInt8}

theorem error (fault : Fault) : Makes typeId (throw fault) := by
  intro frame same
  cases same

theorem frame {frame : Frame} (made : (encodeBody frame).typeId = typeId) :
    Makes typeId (pure frame) := by
  intro frame' same
  cases same
  exact made

theorem bind {α : Type} (result : Except Fault α) {next : α → Except Fault Frame}
    (makes : ∀ a, Makes typeId (next a)) : Makes typeId (result >>= next) := by
  cases result with
  | error fault => exact .error fault
  | ok a => exact makes a

/-- A check that throws. -/
theorem check {condition : Prop} [Decidable condition] (fault : Fault)
    {next : PUnit → Except Fault Frame} (makes : Makes typeId (next ⟨⟩)) :
    Makes typeId (if condition then throw fault >>= next else next ⟨⟩) := by
  split
  · exact .error fault
  · exact makes

/-- What a parser of the table gives. -/
theorem of_map {result : Except Fault Frame} (makes : Makes typeId result) {frame : Frame}
    (mapped : some <$> result = .ok (some frame)) : (encodeBody frame).typeId = typeId := by
  obtain ⟨frame, same, made⟩ := map_some_eq_ok.mp mapped
  cases same
  exact makes frame made

end Makes

theorem makes_parseData (flagBits : UInt8) (id : UInt32) (payload : Bytes) :
    Makes FrameType.DATA (parseData flagBits id payload) :=
  .bind _ fun _ => .frame rfl

theorem makes_parseHeaders (flagBits : UInt8) (id : UInt32) (payload : Bytes) :
    Makes FrameType.HEADERS (parseHeaders flagBits id payload) := by
  have made (fragment : Bytes) (endStream endHeaders : Bool) (priority : Option Priority) :
      (encodeBody (.headers id fragment endStream endHeaders priority)).typeId =
        FrameType.HEADERS := by
    cases priority <;> rfl
  refine .bind _ fun (padLength, r) => ?_
  simp only []
  split
  · refine .check _ ?_
    exact .bind _ fun _ => .bind _ fun _ => .bind _ fun _ => .bind _ fun _ => .frame (made _ _ _ _)
  · exact .bind _ fun _ => .bind _ fun _ => .bind _ fun _ => .frame (made _ _ _ _)

theorem makes_parsePriority (id : UInt32) (payload : Bytes) :
    Makes FrameType.PRIORITY (parsePriority id payload) := by
  unfold parsePriority
  exact .check _ (.bind _ fun _ => .frame rfl)

theorem makes_parseRstStream (id : UInt32) (payload : Bytes) :
    Makes FrameType.RST_STREAM (parseRstStream id payload) := by
  unfold parseRstStream
  exact .check _ (.bind _ fun _ => .frame rfl)

theorem makes_parseSettings (flagBits : UInt8) (payload : Bytes) :
    Makes FrameType.SETTINGS (parseSettings flagBits payload) := by
  unfold parseSettings
  refine .check _ ?_
  exact .check _ (.bind _ fun _ => .frame rfl)

theorem makes_parsePushPromise (flagBits : UInt8) (id : UInt32) (payload : Bytes) :
    Makes FrameType.PUSH_PROMISE (parsePushPromise flagBits id payload) := by
  refine .bind _ fun (padLength, r) => ?_
  refine .check _ ?_
  exact .bind _ fun _ => .bind _ fun _ => .bind _ fun _ => .frame rfl

theorem makes_parsePing (flagBits : UInt8) (payload : Bytes) :
    Makes FrameType.PING (parsePing flagBits payload) := by
  unfold parsePing
  refine .check _ (.bind _ fun read => ?_)
  simp only []
  split
  · exact .frame rfl
  · exact .error _

theorem makes_parseGoaway (payload : Bytes) : Makes FrameType.GOAWAY (parseGoaway payload) := by
  unfold parseGoaway
  exact .check _ (.bind _ fun _ => .bind _ fun _ => .bind _ fun _ => .frame rfl)

theorem makes_parseWindowUpdate (id : UInt32) (payload : Bytes) :
    Makes FrameType.WINDOW_UPDATE (parseWindowUpdate id payload) := by
  unfold parseWindowUpdate
  exact .check _ (.bind _ fun _ => .frame rfl)

theorem makes_parseContinuation (flagBits : UInt8) (id : UInt32) (payload : Bytes) :
    Makes FrameType.CONTINUATION (parseContinuation flagBits id payload) :=
  .bind _ fun _ => .frame rfl

/-- A parsed frame has the type of its payload. -/
theorem typeId_parsePayload {typeId flagBits : UInt8} {id : UInt32} {payload : Bytes} {frame : Frame}
    (parsed : parsePayload typeId flagBits id payload = .ok (some frame)) :
    (encodeBody frame).typeId = typeId := by
  unfold parsePayload at parsed
  split at parsed
  · exact (makes_parseData _ _ _).of_map parsed
  · exact (makes_parseHeaders _ _ _).of_map parsed
  · exact (makes_parsePriority _ _).of_map parsed
  · exact (makes_parseRstStream _ _).of_map parsed
  · exact (makes_parseSettings _ _).of_map parsed
  · exact (makes_parsePushPromise _ _ _).of_map parsed
  · exact (makes_parsePing _ _).of_map parsed
  · exact (makes_parseGoaway _).of_map parsed
  · exact (makes_parseWindowUpdate _ _).of_map parsed
  · exact (makes_parseContinuation _ _ _).of_map parsed
  · cases parsed

/-! ## The loop with its indices -/

/-- `buf[i]`. -/
def byteAt (buf : Bytes) (i : Nat) : Except Fault UInt8 :=
  match buf[i]? with
  | some byte => .ok byte
  | none => .error .panic

/-- `&buf[start..stop]`. -/
def slice (buf : Bytes) (start stop : Nat) : Except Fault Bytes :=
  if start ≤ stop ∧ stop ≤ buf.length then .ok ((buf.drop start).take (stop - start))
  else .error .panic

/-- A round of the loop: nothing when it is left, or what was parsed and the next offset.
A difference of lengths that is negative panics. -/
def pushRound (maxFrameSize : Nat) (buf : Bytes) (offset : Nat) :
    Except Fault (Option (Option Frame × Nat)) := do
  let left ← checkedSub buf.length offset .panic
  if left < FRAME_HEADER_SIZE then
    return none
  let l0 ← byteAt buf offset
  let l1 ← byteAt buf (offset + 1)
  let l2 ← byteAt buf (offset + 2)
  let length := ofBe24 l0 l1 l2
  if length > maxFrameSize then
    throw (.new .frameSizeError
      ("frame length " ++ toString length ++ " exceeds max " ++ toString maxFrameSize))
  let total := FRAME_HEADER_SIZE + length
  let left ← checkedSub buf.length offset .panic
  if left < total then
    return none
  let typeId ← byteAt buf (offset + 3)
  let flagBits ← byteAt buf (offset + 4)
  let s0 ← byteAt buf (offset + 5)
  let s1 ← byteAt buf (offset + 6)
  let s2 ← byteAt buf (offset + 7)
  let s3 ← byteAt buf (offset + 8)
  let payload ← slice buf (offset + FRAME_HEADER_SIZE) (offset + total)
  let found ← parsePayload typeId flagBits (low31 (ofBe32 s0 s1 s2 s3)) payload
  return some (found, offset + total)

/-- At most so many rounds.  Without a result they were too few. -/
def pushRounds (maxFrameSize : Nat) (buf : Bytes) :
    Nat → List Frame → Nat → Option (Except Fault (List Frame × Nat))
  | 0, _, _ => none
  | rounds + 1, frames, offset =>
      match pushRound maxFrameSize buf offset with
      | .error fault => some (.error fault)
      | .ok none => some (.ok (frames, offset))
      | .ok (some (found, next)) => pushRounds maxFrameSize buf rounds (frames ++ found.toList) next

namespace FrameDecoder

/-- `push`, index by index. -/
def pushIndexed (d : FrameDecoder) (rounds : Nat) (chunk : Bytes) :
    Option (FrameDecoder × Except Fault (List Frame)) :=
  let buf := if d.pending.isEmpty then chunk else d.pending ++ chunk
  match pushRounds d.maxFrameSize buf rounds [] 0 with
  | none => none
  | some (.error fault) => some ({ d with pending := [] }, .error fault)
  | some (.ok (frames, offset)) =>
      if offset = buf.length then some ({ d with pending := [] }, .ok frames)
      else
        match slice buf offset buf.length with
        | .error fault => some ({ d with pending := [] }, .error fault)
        | .ok left => some ({ d with pending := left }, .ok frames)

end FrameDecoder

theorem byteAt_drop (buf : Bytes) (offset i : Nat) :
    byteAt buf (offset + i) = byteAt (buf.drop offset) i := by
  rw [byteAt, byteAt, List.getElem?_drop]

theorem slice_drop (buf : Bytes) {offset : Nat} (inside : offset ≤ buf.length) (start stop : Nat) :
    slice buf (offset + start) (offset + stop) = slice (buf.drop offset) start stop := by
  have same : (offset + start ≤ offset + stop ∧ offset + stop ≤ buf.length) ↔
      (start ≤ stop ∧ stop ≤ (buf.drop offset).length) := by
    rw [List.length_drop]
    omega
  simp only [slice, same, List.drop_drop, Nat.add_sub_add_left]

theorem scanFrame_short {maxFrameSize : Nat} {bytes : Bytes}
    (short : bytes.length < FRAME_HEADER_SIZE) : scanFrame maxFrameSize bytes = .more := by
  by_contra found
  obtain ⟨l0, l1, l2, typeId, flagBits, s0, s1, s2, s3, rest, rfl⟩ := scanFrame_header found
  simp only [List.length_cons, FRAME_HEADER_SIZE] at short
  omega

/-- A round reads inside the buffer, and is the scan of the bytes from the offset on. -/
theorem pushRound_eq (maxFrameSize : Nat) {buf : Bytes} {offset : Nat}
    (inside : offset ≤ buf.length) :
    pushRound maxFrameSize buf offset =
      match scanFrame maxFrameSize (buf.drop offset) with
      | .more => .ok none
      | .fail fault => .error fault
      | .item found rest => .ok (some (found, buf.length - rest.length)) := by
  have left : checkedSub buf.length offset .panic = .ok (buf.drop offset).length := by
    rw [checkedSub, if_neg (Nat.not_lt.mpr inside), List.length_drop]
  have first : byteAt buf offset = byteAt (buf.drop offset) 0 := byteAt_drop buf offset 0
  have sum : (buf.drop offset).length + offset = buf.length := by
    rw [List.length_drop]
    omega
  unfold pushRound
  simp only [left, bind_ok, first, byteAt_drop, slice_drop buf inside]
  revert sum
  generalize buf.drop offset = bytes
  intro sum
  by_cases short : bytes.length < FRAME_HEADER_SIZE
  · rw [if_pos short, scanFrame_short short]
    rfl
  · obtain ⟨l0, l1, l2, typeId, flagBits, s0, s1, s2, s3, rest, rfl⟩ :=
      header_of_length (Nat.le_of_not_lt short)
    rw [if_neg short, scanFrame_cons]
    show ite _ _ _ = _
    split
    next large => rfl
    next within =>
      have total : (l0 :: l1 :: l2 :: typeId :: flagBits :: s0 :: s1 :: s2 :: s3 :: rest).length =
          FRAME_HEADER_SIZE + rest.length := by
        simp only [List.length_cons, FRAME_HEADER_SIZE]
        omega
      rw [total] at sum ⊢
      by_cases waiting : rest.length < ofBe24 l0 l1 l2
      · rw [if_pos waiting, if_pos (Nat.add_lt_add_left waiting _)]
        rfl
      · have cut : slice (l0 :: l1 :: l2 :: typeId :: flagBits :: s0 :: s1 :: s2 :: s3 :: rest)
            FRAME_HEADER_SIZE (FRAME_HEADER_SIZE + ofBe24 l0 l1 l2) =
            .ok (rest.take (ofBe24 l0 l1 l2)) := by
          rw [slice, total, if_pos (by omega), Nat.add_sub_cancel_left]
          rfl
        have next : offset + (FRAME_HEADER_SIZE + ofBe24 l0 l1 l2) =
            buf.length - (rest.drop (ofBe24 l0 l1 l2)).length := by
          rw [List.length_drop]
          omega
        rw [if_neg waiting, if_neg (by omega), next]
        show (slice _ _ _ >>= fun payload => _) = _
        rw [cut, bind_ok]
        show (parsePayload typeId flagBits _ _ >>= fun found => _) = _
        cases parsePayload typeId flagBits (low31 (ofBe32 s0 s1 s2 s3))
            (rest.take (ofBe24 l0 l1 l2)) with
        | error fault => rfl
        | ok found => rfl

/-- What follows a frame is the end of the buffer. -/
theorem suffix_of_scanFrame {maxFrameSize : Nat} {bytes rest : Bytes} {found : Option Frame}
    (scanned : scanFrame maxFrameSize bytes = .item found rest) : rest <:+ bytes := by
  obtain ⟨l0, l1, l2, typeId, flagBits, s0, s1, s2, s3, tail, rfl⟩ :=
    scanFrame_header (by rw [scanned]; simp)
  rw [scanFrame_cons] at scanned
  split at scanned
  · cases scanned
  · split at scanned
    · cases scanned
    · split at scanned
      · cases scanned
      · cases scanned
        have header : tail <:+ l0 :: l1 :: l2 :: typeId :: flagBits :: s0 :: s1 :: s2 :: s3 :: tail :=
          ⟨[l0, l1, l2, typeId, flagBits, s0, s1, s2, s3], rfl⟩
        exact (List.drop_suffix _ _).trans header

/-- With rounds enough, the loop takes off what `drain` takes off, and stops where the rest
begins. -/
theorem pushRounds_eq (maxFrameSize : Nat) (buf : Bytes) {rounds offset : Nat} (frames : List Frame)
    (inside : offset ≤ buf.length) (enough : (buf.drop offset).length < rounds) :
    match (frameScanner maxFrameSize).drain (buf.drop offset) with
    | .error fault => pushRounds maxFrameSize buf rounds frames offset = some (.error fault)
    | .ok (later, left) => ∃ stop ≤ buf.length, buf.drop stop = left ∧
        pushRounds maxFrameSize buf rounds frames offset = some (.ok (frames ++ later, stop)) := by
  induction rounds generalizing frames offset with
  | zero => exact absurd enough (Nat.not_lt_zero _)
  | succ rounds ih =>
      have round := pushRound_eq maxFrameSize inside
      cases scanned : scanFrame maxFrameSize (buf.drop offset) with
      | more =>
          rw [(frameScanner maxFrameSize).drain_more scanned]
          rw [scanned] at round
          refine ⟨offset, inside, rfl, ?_⟩
          rw [pushRounds, round, List.append_nil]
      | fail fault =>
          rw [(frameScanner maxFrameSize).drain_fail scanned]
          rw [scanned] at round
          rw [pushRounds, round]
      | item found rest =>
          have less := length_of_scanFrame scanned
          have behind : rest <:+ buf := (suffix_of_scanFrame scanned).trans (List.drop_suffix _ _)
          have dropped : buf.drop (buf.length - rest.length) = rest :=
            (List.suffix_iff_eq_drop.mp behind).symm
          have later := ih (frames ++ found.toList) (Nat.sub_le buf.length rest.length)
            (by rw [dropped]; omega)
          rw [scanned] at round
          rw [dropped] at later
          rw [(frameScanner maxFrameSize).drain_item scanned, pushRounds, round]
          cases drained : (frameScanner maxFrameSize).drain rest with
          | error fault =>
              rw [drained] at later
              exact later
          | ok result =>
              obtain ⟨units, left⟩ := result
              rw [drained] at later
              obtain ⟨stop, below, same, taken⟩ := later
              refine ⟨stop, below, same, ?_⟩
              show pushRounds maxFrameSize buf rounds _ _ = _
              rw [taken, List.append_assoc]

namespace FrameDecoder

theorem pushIndexed_eq (d : FrameDecoder) (chunk : Bytes) {rounds : Nat}
    (enough : (d.pending ++ chunk).length < rounds) :
    d.pushIndexed rounds chunk = some (d.push chunk) := by
  have buf : (if d.pending.isEmpty then chunk else d.pending ++ chunk) = d.pending ++ chunk := by
    cases d.pending <;> rfl
  have looped := pushRounds_eq d.maxFrameSize (d.pending ++ chunk) [] (Nat.zero_le _) enough
  unfold pushIndexed push
  simp only [buf]
  rw [List.drop_zero] at looped
  cases drained : (frameScanner d.maxFrameSize).drain (d.pending ++ chunk) with
  | error fault =>
      rw [drained] at looped
      rw [looped]
  | ok result =>
      obtain ⟨frames, left⟩ := result
      rw [drained] at looped
      obtain ⟨stop, below, rfl, taken⟩ := looped
      rw [taken, List.nil_append]
      by_cases done : stop = (d.pending ++ chunk).length
      · simp only [done, if_true, List.drop_length]
      · have cut : slice (d.pending ++ chunk) stop (d.pending ++ chunk).length =
            .ok ((d.pending ++ chunk).drop stop) := by
          rw [slice, if_pos ⟨below, le_rfl⟩, List.take_of_length_le (by rw [List.length_drop])]
        simp only [done, if_false, cut]

end FrameDecoder

/-! ## Pushing any chunk -/

theorem refusal_oversize (length maxFrameSize : Nat) :
    Refusal (.new .frameSizeError
      ("frame length " ++ toString length ++ " exceeds max " ++ toString maxFrameSize)) := by
  refine .new (.inr rfl) fun same => ?_
  have first := congrArg (fun message => message.toList.head?) same
  simp [String.toList_append] at first

/-- A round fails as the parser does, or at a frame that is too long. -/
theorem refusal_scanFrame {maxFrameSize : Nat} {bytes : Bytes} {fault : Fault}
    (failed : scanFrame maxFrameSize bytes = .fail fault) : Refusal fault := by
  obtain ⟨l0, l1, l2, typeId, flagBits, s0, s1, s2, s3, tail, rfl⟩ :=
    scanFrame_header (by rw [failed]; simp)
  rw [scanFrame_cons] at failed
  split at failed
  · cases failed
    exact refusal_oversize _ _
  · split at failed
    · cases failed
    · split at failed
      next fault' parsed =>
        cases failed
        exact guarded_parsePayload _ _ _ _ _ parsed
      next => cases failed

theorem refusal_drain {maxFrameSize : Nat} {bytes : Bytes} {fault : Fault}
    (failed : (frameScanner maxFrameSize).drain bytes = .error fault) : Refusal fault := by
  induction size : bytes.length using Nat.strong_induction_on generalizing bytes with
  | _ size ih =>
      cases scanned : scanFrame maxFrameSize bytes with
      | more =>
          rw [(frameScanner maxFrameSize).drain_more scanned] at failed
          cases failed
      | fail fault' =>
          rw [(frameScanner maxFrameSize).drain_fail scanned] at failed
          cases failed
          exact refusal_scanFrame scanned
      | item found rest =>
          have less := length_of_scanFrame scanned
          rw [(frameScanner maxFrameSize).drain_item scanned] at failed
          cases drained : (frameScanner maxFrameSize).drain rest with
          | error fault' =>
              rw [drained] at failed
              cases failed
              exact ih rest.length (size ▸ less) drained rfl
          | ok result =>
              rw [drained] at failed
              cases failed

theorem guarded_push (d : FrameDecoder) (chunk : Bytes) : Guarded (d.push chunk).2 := by
  intro fault failed
  unfold FrameDecoder.push at failed
  cases drained : (frameScanner d.maxFrameSize).drain (d.pending ++ chunk) with
  | error fault' =>
      rw [drained] at failed
      cases failed
      exact refusal_drain drained
  | ok result =>
      rw [drained] at failed
      cases failed

/-- For any decoder and any chunk, the loop of `push` ends, with every index and slice in
bounds, and gives frames or refuses them.  A payload of a known type becomes a frame, or is
refused. -/
theorem push_safe (d : FrameDecoder) (chunk : Bytes) :
    (∃ rounds, d.pushIndexed rounds chunk = some (d.push chunk)) ∧
      ((∃ frames, (d.push chunk).2 = .ok frames) ∨
        ∃ fault, (d.push chunk).2 = .error fault ∧ Refusal fault) ∧
      ∀ (typeId flagBits : UInt8) (id : UInt32) (payload : Bytes), Known typeId →
        (∃ frame, parsePayload typeId flagBits id payload = .ok (some frame)) ∨
          ∃ fault, parsePayload typeId flagBits id payload = .error fault ∧ Refusal fault := by
  refine ⟨⟨_, d.pushIndexed_eq chunk (Nat.lt_succ_self _)⟩, ?_, ?_⟩
  · cases pushed : (d.push chunk).2 with
    | error fault => exact .inr ⟨fault, rfl, guarded_push d chunk fault pushed⟩
    | ok frames => exact .inl ⟨frames, rfl⟩
  · intro typeId flagBits id payload known
    rcases parsePayload_cases typeId flagBits id payload with ⟨-, result, parsed⟩ | ⟨unknown, -⟩
    · have guarded := guarded_parsePayload typeId flagBits id payload
      rw [parsed] at guarded ⊢
      cases result with
      | error fault => exact .inr ⟨fault, rfl, guarded fault rfl⟩
      | ok frame => exact .inl ⟨frame, rfl⟩
    · exact absurd known unknown

end H2ts
