import H2ts.FrameCodec

/-!
# Padding

Three kinds of frames may be padded.  Their parsers take the pad length, the fixed
fields and the padding off the length of the payload, each in its own way, and look for
the fixed fields before they know whether what they read is padding.  All the same they
read one thing: what stands behind the fixed fields and before the padding (`fieldOf`).

So the content of a padded payload is parsed as it is without padding, and is rejected
if it is too short, whatever the padding has in the place of the missing bytes
(`padding_transparent`).
-/

namespace H2ts

open BigEndian

/-! ## Behind the pad length -/

/-- What stands behind the fixed fields and before the padding. -/
def fieldOf (fixed pad : Nat) (fault : Fault) (rest : Bytes) : Except Fault Bytes :=
  if rest.length < fixed + pad then .error fault
  else .ok ((rest.drop fixed).take (rest.length - (fixed + pad)))

/-- Fixed fields of a size, and what stands behind them. -/
def fixedAndField {α : Type} (read : ByteReader → Except Fault (α × ByteReader)) (fixed : Nat)
    (truncated : Fault) (make : α → Bytes → Frame) (pad : Nat) (invalid : Fault) (rest : Bytes) :
    Except Fault Frame :=
  if rest.length < fixed then .error truncated
  else do
    let (first, _) ← read rest
    let field ← fieldOf fixed pad invalid rest
    return make first field

/-- A reader of a number of bytes. -/
def Reads {α : Type} (read : ByteReader → Except Fault (α × ByteReader)) (fixed : Nat) : Prop :=
  ∀ r : ByteReader, fixed ≤ r.length →
    ∃ a, ∀ later, read (r ++ later) = .ok (a, r.drop fixed ++ later)

theorem Reads.exact {α : Type} {read : ByteReader → Except Fault (α × ByteReader)} {fixed : Nat}
    (reads : Reads read fixed) {r : ByteReader} (long : fixed ≤ r.length) :
    ∃ a, read r = .ok (a, r.drop fixed) := by
  obtain ⟨a, front⟩ := reads r long
  have front := front []
  rw [List.append_nil, List.append_nil] at front
  exact ⟨a, front⟩

theorem reads_u32 : Reads ByteReader.u32 4 := by
  intro r long
  match r, long with
  | a :: b :: c :: d :: r, _ => exact ⟨ofBe32 a b c d, fun later => rfl⟩

theorem reads_priority : Reads readPriority 5 := by
  intro r long
  match r, long with
  | a :: b :: c :: d :: weight :: r, _ =>
      exact ⟨⟨low31 (ofBe32 a b c d), weight.toUInt16 + 1, top (ofBe32 a b c d)⟩, fun later => rfl⟩

theorem readBytes_of_le {r : ByteReader} {n : Nat} (enough : n ≤ r.length) :
    readBytes r n = .ok (r.take n, r.drop n) := by
  have there : ¬ r.remaining < n := Nat.not_lt.mpr enough
  rw [readBytes, ByteReader.bytes, if_neg there]

theorem bind_ok {α β : Type} (a : α) (next : α → Except Fault β) :
    (Except.ok a >>= next) = next a := rfl

/-- The overhead taken off the length of the payload leaves the field. -/
theorem bind_fieldOf {α : Type} {rest : Bytes} {fixed pad len overhead : Nat} (fault : Fault)
    (next : Bytes → Except Fault α) (inside : fixed ≤ rest.length)
    (counted : len + (fixed + pad) = rest.length + overhead) :
    (checkedSub len overhead fault >>= fun n =>
      readBytes (rest.drop fixed) n >>= fun field => next field.1) =
      fieldOf fixed pad fault rest >>= next := by
  rw [checkedSub, fieldOf]
  by_cases short : rest.length < fixed + pad
  · rw [if_pos (by omega), if_pos short]
    rfl
  · have enough : len - overhead ≤ (rest.drop fixed).length := by
      rw [List.length_drop]
      omega
    have same : len - overhead = rest.length - (fixed + pad) := by omega
    rw [if_neg (by omega), if_neg short, bind_ok, readBytes_of_le enough, same]
    rfl

/-- A payload without the PADDED flag, or behind its pad length. -/
theorem readPadLength_cases (payload : Bytes) (padded : Bool) (fault : Fault) :
    (padded = true ∧ payload = [] ∧ readPadLength payload payload.length padded fault = .error fault) ∨
      ∃ pad rest, readPadLength payload payload.length padded fault = .ok (pad, rest) ∧
        payload.length = rest.length + padded.toNat := by
  unfold readPadLength
  cases padded with
  | false => exact .inr ⟨0, payload, rfl, rfl⟩
  | true =>
      cases payload with
      | nil => exact .inl ⟨rfl, rfl, rfl⟩
      | cons p rest => exact .inr ⟨p.toNat, rest, rfl, rfl⟩

/-! ## The three parsers -/

/-- A DATA payload behind its pad length. -/
def dataRest (flagBits : UInt8) (id : UInt32) (pad : Nat) (rest : Bytes) : Except Fault Frame := do
  let data ← fieldOf 0 pad (.new .protocolError "pad length exceeds frame payload") rest
  return .data id data (hasFlag flagBits Flags.DATA_END_STREAM)

theorem readPadded_eq (payload : Bytes) (padded : Bool) :
    readPadded payload payload.length padded =
      readPadLength payload payload.length padded
          (.new .protocolError "padded frame missing pad length") >>= fun read =>
        fieldOf 0 read.1 (.new .protocolError "pad length exceeds frame payload") read.2 := by
  cases padded with
  | false =>
      show (readBytes payload payload.length >>= fun read => pure read.1) =
        fieldOf 0 0 (.new .protocolError "pad length exceeds frame payload") payload
      rw [readBytes_self, fieldOf, if_neg (Nat.not_lt_zero _), List.drop_zero, Nat.sub_zero,
        List.take_length]
      rfl
  | true =>
      cases payload with
      | nil => rfl
      | cons p rest =>
          have sum : rest.length + (0 + p.toNat) = rest.length + p.toNat := by omega
          exact (bind_fieldOf (.new .protocolError "pad length exceeds frame payload") pure
            (Nat.zero_le _) sum).trans (bind_pure _)

theorem parseData_eq (flagBits : UInt8) (id : UInt32) (payload : Bytes) :
    parseData flagBits id payload =
      readPadLength payload payload.length (hasFlag flagBits Flags.DATA_PADDED)
          (.new .protocolError "padded frame missing pad length") >>= fun read =>
        dataRest flagBits id read.1 read.2 := by
  rw [parseData, readPadded_eq, bind_assoc]
  rfl

/-- A HEADERS payload behind its pad length. -/
def headersRest (flagBits : UInt8) (id : UInt32) (pad : Nat) (rest : Bytes) : Except Fault Frame :=
  let frame (priority : Option Priority) (fragment : Bytes) : Frame :=
    .headers id fragment (hasFlag flagBits Flags.HEADERS_END_STREAM)
      (hasFlag flagBits Flags.HEADERS_END_HEADERS) priority
  let invalidPadding := Fault.new .protocolError "invalid HEADERS padding"
  if hasFlag flagBits Flags.HEADERS_PRIORITY then
    fixedAndField readPriority 5 (.new .protocolError "HEADERS priority truncated")
      (fun priority => frame (some priority)) pad invalidPadding rest
  else do
    let fragment ← fieldOf 0 pad invalidPadding rest
    return frame none fragment

theorem parseHeaders_eq (flagBits : UInt8) (id : UInt32) (payload : Bytes) :
    parseHeaders flagBits id payload =
      readPadLength payload payload.length (hasFlag flagBits Flags.HEADERS_PADDED)
          (.new .protocolError "invalid HEADERS padding") >>= fun read =>
        headersRest flagBits id read.1 read.2 := by
  unfold parseHeaders
  rcases readPadLength_cases payload (hasFlag flagBits Flags.HEADERS_PADDED)
    (.new .protocolError "invalid HEADERS padding") with ⟨-, -, failed⟩ | ⟨pad, rest, read, counted⟩
  · simp only [failed]
    rfl
  · simp only [read, bind_ok]
    unfold headersRest fixedAndField
    cases hasFlag flagBits Flags.HEADERS_PRIORITY with
    | false =>
        have sum : payload.length + (0 + pad) =
            rest.length + ((hasFlag flagBits Flags.HEADERS_PADDED).toNat + 0 + pad) := by omega
        simp only [Bool.false_eq_true, if_false, pure_bind]
        rw [← bind_fieldOf _ _ (Nat.zero_le _) sum]
        rfl
    | true =>
        have sum : payload.length + (5 + pad) =
            rest.length + ((hasFlag flagBits Flags.HEADERS_PADDED).toNat + 5 + pad) := by omega
        simp only [if_true]
        by_cases short : rest.length < 5
        · have few : ByteReader.remaining rest < 5 := short
          simp only [few, short, if_true]
          rfl
        · have enough : ¬ ByteReader.remaining rest < 5 := short
          obtain ⟨priority, front⟩ := reads_priority.exact (Nat.le_of_not_lt short)
          simp only [enough, short, if_false, front, bind_ok, pure_bind]
          rw [← bind_fieldOf _ _ (Nat.le_of_not_lt short) sum]

/-- A PUSH_PROMISE payload behind its pad length. -/
def pushPromiseRest (flagBits : UInt8) (id : UInt32) (pad : Nat) (rest : Bytes) :
    Except Fault Frame :=
  fixedAndField ByteReader.u32 4 (.new .protocolError "PUSH_PROMISE truncated")
    (fun promised fragment => .pushPromise id (low31 promised) fragment
      (hasFlag flagBits Flags.PUSH_PROMISE_END_HEADERS)) pad
    (.new .protocolError "invalid PUSH_PROMISE padding") rest

theorem parsePushPromise_eq (flagBits : UInt8) (id : UInt32) (payload : Bytes) :
    parsePushPromise flagBits id payload =
      readPadLength payload payload.length (hasFlag flagBits Flags.PUSH_PROMISE_PADDED)
          (.new .protocolError "invalid PUSH_PROMISE padding") >>= fun read =>
        pushPromiseRest flagBits id read.1 read.2 := by
  unfold parsePushPromise
  rcases readPadLength_cases payload (hasFlag flagBits Flags.PUSH_PROMISE_PADDED)
    (.new .protocolError "invalid PUSH_PROMISE padding") with
    ⟨-, -, failed⟩ | ⟨pad, rest, read, counted⟩
  · simp only [failed]
    rfl
  · have sum : payload.length + (4 + pad) =
        rest.length + ((hasFlag flagBits Flags.PUSH_PROMISE_PADDED).toNat + 4 + pad) := by omega
    simp only [read, bind_ok]
    unfold pushPromiseRest fixedAndField
    by_cases short : rest.length < 4
    · have few : ByteReader.remaining rest < 4 := short
      simp only [few, short, if_true]
      rfl
    · have enough : ¬ ByteReader.remaining rest < 4 := short
      obtain ⟨word, front⟩ := reads_u32.exact (Nat.le_of_not_lt short)
      simp only [enough, short, if_false, front, bind_ok]
      rw [← bind_fieldOf _ _ (Nat.le_of_not_lt short) sum]

/-! ## Padding and no padding -/

/-- The PADDED flag of all three kinds. -/
abbrev PADDED : UInt8 := 0x8

theorem fieldOf_short {fixed pad : Nat} (fault : Fault) {rest : Bytes}
    (short : rest.length < fixed + pad) : fieldOf fixed pad fault rest = .error fault := by
  rw [fieldOf, if_pos short]

/-- The padding changes neither the field nor its absence. -/
theorem fieldOf_append (fixed : Nat) (fault : Fault) (content padding : Bytes) :
    fieldOf fixed padding.length fault (content ++ padding) = fieldOf fixed 0 fault content := by
  unfold fieldOf
  rw [List.length_append, Nat.add_zero]
  by_cases short : content.length < fixed
  · rw [if_pos (by omega), if_pos short]
  · have left : content.length + padding.length - (fixed + padding.length) =
        content.length - fixed := by omega
    have enough : content.length - fixed ≤ (content.drop fixed).length := by rw [List.length_drop]
    rw [if_neg (by omega), if_neg short, left, List.drop_append_of_le_length (Nat.le_of_not_lt short),
      List.take_append_of_le_length enough]

theorem fixedAndField_append {α : Type} {read : ByteReader → Except Fault (α × ByteReader)}
    {fixed : Nat} (reads : Reads read fixed) (truncated : Fault) (make : α → Bytes → Frame)
    (invalid : Fault) (content padding : Bytes) (frame : Frame) :
    fixedAndField read fixed truncated make padding.length invalid (content ++ padding) = .ok frame ↔
      fixedAndField read fixed truncated make 0 invalid content = .ok frame := by
  unfold fixedAndField
  by_cases short : content.length < fixed
  · have none : fieldOf fixed padding.length invalid (content ++ padding) = .error invalid := by
      rw [fieldOf_append, fieldOf_short invalid short]
    rw [if_pos short]
    by_cases covered : (content ++ padding).length < fixed
    · rw [if_pos covered]
    · -- the padding stands in for the fixed fields, and the overhead is too large
      obtain ⟨a, front⟩ := reads.exact (Nat.le_of_not_lt covered)
      rw [if_neg covered, front, none]
      constructor <;> intro accepted <;> cases accepted
  · have long := Nat.le_of_not_lt short
    have enough : ¬ (content ++ padding).length < fixed := by
      rw [List.length_append]
      omega
    obtain ⟨a, front⟩ := reads content long
    have plain := front []
    rw [List.append_nil, List.append_nil] at plain
    rw [if_neg short, if_neg enough, front padding, plain]
    simp only [bind_ok, fieldOf_append]

theorem fixedAndField_overlong {α : Type} {read : ByteReader → Except Fault (α × ByteReader)}
    {fixed : Nat} (reads : Reads read fixed) (truncated : Fault) (make : α → Bytes → Frame)
    {pad : Nat} (invalid : Fault) {rest : Bytes} (overlong : rest.length < pad) :
    fixedAndField read fixed truncated make pad invalid rest =
      .error (if rest.length < fixed then truncated else invalid) := by
  unfold fixedAndField
  by_cases short : rest.length < fixed
  · rw [if_pos short, if_pos short]
  · obtain ⟨a, front⟩ := reads.exact (Nat.le_of_not_lt short)
    rw [if_neg short, if_neg short, front, bind_ok, fieldOf_short invalid (by omega)]
    rfl

/-- Two flag octets that differ in PADDED only. -/
structure SameFlags (f f' : UInt8) : Prop where
  endStream : hasFlag f 0x1 = hasFlag f' 0x1
  endHeaders : hasFlag f 0x4 = hasFlag f' 0x4
  priority : hasFlag f 0x20 = hasFlag f' 0x20

theorem flags_padded (f : UInt8) :
    hasFlag (f ||| PADDED) PADDED = true ∧ hasFlag (f &&& ~~~PADDED) PADDED = false ∧
      SameFlags (f ||| PADDED) (f &&& ~~~PADDED) := by
  have all : ∀ n : Fin 256, hasFlag (⟨⟨n⟩⟩ ||| PADDED) PADDED = true ∧
      hasFlag (⟨⟨n⟩⟩ &&& ~~~PADDED) PADDED = false ∧
      hasFlag (⟨⟨n⟩⟩ ||| PADDED) 0x1 = hasFlag (⟨⟨n⟩⟩ &&& ~~~PADDED) 0x1 ∧
      hasFlag (⟨⟨n⟩⟩ ||| PADDED) 0x4 = hasFlag (⟨⟨n⟩⟩ &&& ~~~PADDED) 0x4 ∧
      hasFlag (⟨⟨n⟩⟩ ||| PADDED) 0x20 = hasFlag (⟨⟨n⟩⟩ &&& ~~~PADDED) 0x20 := by
    decide +kernel
  obtain ⟨padded, plain, endStream, endHeaders, priority⟩ := all f.toBitVec.toFin
  exact ⟨padded, plain, endStream, endHeaders, priority⟩

/-- Two parsers of what is behind the pad length: padding makes no difference between
them, and the first one checks the pad length. -/
structure Transparent (rest rest' : Nat → Bytes → Except Fault Frame) : Prop where
  append : ∀ content padding frame,
    rest padding.length (content ++ padding) = .ok frame ↔ rest' 0 content = .ok frame
  overlong : ∀ pad bytes, bytes.length < pad →
    ∃ message, rest pad bytes = .error (.new .protocolError message)

section Parsers

variable {f f' : UInt8}

theorem transparent_data (same : SameFlags f f') (id : UInt32) :
    Transparent (dataRest f id) (dataRest f' id) := by
  refine ⟨fun content padding frame => ?_, fun pad bytes overlong => ?_⟩
  · unfold dataRest
    rw [fieldOf_append, same.endStream]
  · unfold dataRest
    rw [fieldOf_short _ (by omega)]
    exact ⟨_, rfl⟩

theorem transparent_headers (same : SameFlags f f') (id : UInt32) :
    Transparent (headersRest f id) (headersRest f' id) := by
  refine ⟨fun content padding frame => ?_, fun pad bytes overlong => ?_⟩
  · unfold headersRest
    rw [same.priority, same.endStream, same.endHeaders]
    cases hasFlag f' Flags.HEADERS_PRIORITY with
    | false => simp only [Bool.false_eq_true, if_false, fieldOf_append]
    | true =>
        simp only [if_true]
        exact fixedAndField_append reads_priority _ _ _ content padding frame
  · unfold headersRest
    cases hasFlag f Flags.HEADERS_PRIORITY with
    | false =>
        simp only [Bool.false_eq_true, if_false]
        rw [fieldOf_short _ (by omega)]
        exact ⟨_, rfl⟩
    | true =>
        simp only [if_true]
        rw [fixedAndField_overlong reads_priority _ _ _ overlong]
        split <;> exact ⟨_, rfl⟩

theorem transparent_pushPromise (same : SameFlags f f') (id : UInt32) :
    Transparent (pushPromiseRest f id) (pushPromiseRest f' id) := by
  refine ⟨fun content padding frame => ?_, fun pad bytes overlong => ?_⟩
  · unfold pushPromiseRest
    rw [same.endHeaders]
    exact fixedAndField_append reads_u32 _ _ _ content padding frame
  · unfold pushPromiseRest
    rw [fixedAndField_overlong reads_u32 _ _ _ overlong]
    split <;> exact ⟨_, rfl⟩

end Parsers

/-- The frame types with a PADDED flag. -/
def Paddable (typeId : UInt8) : Prop :=
  typeId = FrameType.DATA ∨ typeId = FrameType.HEADERS ∨ typeId = FrameType.PUSH_PROMISE

/-- A paddable payload is parsed behind its pad length. -/
theorem parsePayload_rest {typeId : UInt8} (paddable : Paddable typeId) (id : UInt32) {f f' : UInt8}
    (same : SameFlags f f') (padded : hasFlag f PADDED = true) (plain : hasFlag f' PADDED = false) :
    ∃ rest rest', Transparent rest rest' ∧
      (∀ p payload, parsePayload typeId f id (p :: payload) = some <$> rest p.toNat payload) ∧
      ∀ payload, parsePayload typeId f' id payload = some <$> rest' 0 payload := by
  rcases paddable with rfl | rfl | rfl
  · refine ⟨_, _, transparent_data same id, fun p payload => ?_, fun payload => ?_⟩
    · show some <$> parseData f id (p :: payload) = _
      rw [parseData_eq, padded]
      rfl
    · show some <$> parseData f' id payload = _
      rw [parseData_eq, plain]
      rfl
  · refine ⟨_, _, transparent_headers same id, fun p payload => ?_, fun payload => ?_⟩
    · show some <$> parseHeaders f id (p :: payload) = _
      rw [parseHeaders_eq, padded]
      rfl
    · show some <$> parseHeaders f' id payload = _
      rw [parseHeaders_eq, plain]
      rfl
  · refine ⟨_, _, transparent_pushPromise same id, fun p payload => ?_, fun payload => ?_⟩
    · show some <$> parsePushPromise f id (p :: payload) = _
      rw [parsePushPromise_eq, padded]
      rfl
    · show some <$> parsePushPromise f' id payload = _
      rw [parsePushPromise_eq, plain]
      rfl

theorem map_some_eq_ok {result : Except Fault Frame} {found : Option Frame} :
    some <$> result = .ok found ↔ ∃ frame, found = some frame ∧ result = .ok frame := by
  cases result with
  | error fault =>
      constructor
      · intro mapped
        cases mapped
      · rintro ⟨frame, -, ok⟩
        cases ok
  | ok frame =>
      constructor
      · intro mapped
        cases mapped
        exact ⟨frame, rfl, rfl⟩
      · rintro ⟨frame', rfl, ok⟩
        cases ok
        rfl

/-- A padded payload is accepted exactly if its content is, and gives the same frame.
One whose pad length exceeds what is left is a protocol error. -/
theorem padding_transparent {typeId : UInt8} (paddable : Paddable typeId) (flagBits : UInt8)
    (id : UInt32) :
    (∀ (p : UInt8) (content padding : Bytes), padding.length = p.toNat → ∀ found,
      parsePayload typeId (flagBits ||| PADDED) id (p :: (content ++ padding)) = .ok found ↔
        parsePayload typeId (flagBits &&& ~~~PADDED) id content = .ok found) ∧
      ∀ (p : UInt8) (rest : Bytes), rest.length < p.toNat →
        ∃ message, parsePayload typeId (flagBits ||| PADDED) id (p :: rest) =
          .error (.new .protocolError message) := by
  obtain ⟨padded, plain, same⟩ := flags_padded flagBits
  obtain ⟨rest, rest', transparent, front, front'⟩ := parsePayload_rest paddable id same padded plain
  refine ⟨fun p content padding counted found => ?_, fun p bytes overlong => ?_⟩
  · rw [front, front', ← counted, map_some_eq_ok, map_some_eq_ok]
    exact exists_congr fun frame => and_congr_right fun _ => transparent.append content padding frame
  · obtain ⟨message, rejected⟩ := transparent.overlong p.toNat bytes overlong
    rw [front, rejected]
    exact ⟨message, rfl⟩

/-- HEADERS with a priority and two bytes of padding. -/
theorem padding_transparent_headers :
    parsePayload FrameType.HEADERS (0x2c ||| PADDED) 1 (2 :: ([0, 0, 0, 0, 15, 0x88] ++ [0, 0])) =
      .ok (some (.headers 1 [0x88] false true (some ⟨0, 16, false⟩))) :=
  ((padding_transparent (.inr (.inl rfl)) 0x2c 1).1 2 [0, 0, 0, 0, 15, 0x88] [0, 0] rfl _).mpr
    (by decide +kernel)

end H2ts
