import H2ts.Wslay.Reader

/-!
# What a client sends

A client that keeps to RFC 6455 sends masked frames that are legal: messages one after the other, in one frame
or more, with control frames between them and in the middle of them, and text that is UTF-8.
From such a stream, cut anywhere, the reader gets the data that is in it, and the pings and
pongs that are complete (`reader_of_compliant`).
-/

namespace H2ts

namespace Wslay

open BigEndian Bridge WebSocket

variable {f : WebSocket.Frame} {frames : List WebSocket.Frame}

/-- The bytes in front of the payload. -/
def headLength (f : WebSocket.Frame) : Nat := 2 + f.ext.length + f.keyBytes.length

/-- The data in the first bytes of a frame. -/
def dataIn (f : WebSocket.Frame) (n : Nat) : Bytes :=
  if 8 ≤ (f.opcode : Nat) then [] else f.data.take (n - headLength f)

def eventOf (f : WebSocket.Frame) : List ControlEvent :=
  if (f.opcode : Nat) = 9 then [.ping f.data] else if (f.opcode : Nat) = 10 then [.pong f.data] else []

/-- The data in the first bytes of a stream, up to a Close. -/
def carried : List WebSocket.Frame → Nat → Bytes
  | [], _ => []
  | f :: frames, n =>
      dataIn f n ++
        if f.bytes.length ≤ n ∧ (f.opcode : Nat) ≠ 8 then carried frames (n - f.bytes.length) else []

/-- The pings and pongs that are complete there. -/
def heard : List WebSocket.Frame → Nat → List ControlEvent
  | [], _ => []
  | f :: frames, n =>
      if f.bytes.length ≤ n ∧ (f.opcode : Nat) ≠ 8 then eventOf f ++ heard frames (n - f.bytes.length) else []

/-- The message that a frame of data belongs to: whether it is text, and what came before. -/
def belongs (message : Option (Bool × Bytes)) (opcode : Nat) : Option (Bool × Bytes) :=
  match message with
  | none => if opcode = 1 then some (true, []) else if opcode = 2 then some (false, []) else none
  | some message => if opcode = 0 then some message else none

/-- The bytes are text, or begin one if more follows. -/
def Formed (fin : Bool) (bytes : Bytes) : Prop :=
  if fin then ∃ text : String, bytes = Utf8.octets text
  else ∃ later, ∃ text : String, bytes ++ later = Utf8.octets text

/-- What RFC 6455 allows a client, in the middle of a message or not, with at most
`MAX_RECV_MSG_LENGTH` bytes in a frame.  That limit is wslay's, which answers a longer frame with
a Close. -/
def Compliant : Option (Bool × Bytes) → List WebSocket.Frame → Prop
  | _, [] => True
  | message, f :: frames =>
      f.Legal ∧ f.key.isSome = true ∧ f.payload.length ≤ MAX_RECV_MSG_LENGTH ∧
        if (f.opcode : Nat) = 8 then True
        else if 8 ≤ (f.opcode : Nat) then Compliant message frames
        else ∃ text got, belongs message f.opcode = some (text, got) ∧
          (text = true → Formed f.fin (got ++ f.data)) ∧
          Compliant (if f.fin then none else some (text, got ++ f.data)) frames

/-! ## Headers -/

theorem memoOf_eq (b : UInt8) :
    memoOf b = ⟨decide (128 ≤ b.toNat), UInt8.ofNat (b.toNat / 16 % 8), UInt8.ofNat (b.toNat % 16)⟩ := by
  have all : ∀ n : Fin 256, memoOf (UInt8.ofNat n) = ⟨decide (128 ≤ (UInt8.ofNat n).toNat),
      UInt8.ofNat ((UInt8.ofNat n).toNat / 16 % 8), UInt8.ofNat ((UInt8.ofNat n).toNat % 16)⟩ := by
    decide +kernel
  have here := all ⟨b.toNat, b.toNat_lt⟩
  simpa using here

theorem maskOf_eq (b : UInt8) : maskOf b = decide (128 ≤ b.toNat) := by
  have all : ∀ n : Fin 256, maskOf (UInt8.ofNat n) = decide (128 ≤ (UInt8.ofNat n).toNat) := by
    decide +kernel
  have here := all ⟨b.toNat, b.toNat_lt⟩
  simpa using here

theorem payloadlenOf_eq (b : UInt8) : payloadlenOf b = b.toNat % 128 := by
  have all : ∀ n : Fin 256, payloadlenOf (UInt8.ofNat n) = (UInt8.ofNat n).toNat % 128 := by
    decide +kernel
  have here := all ⟨b.toNat, b.toNat_lt⟩
  simpa using here

/-- The header of a frame, for wslay. -/
def headOf (f : WebSocket.Frame) : Head := ⟨⟨f.fin, 0, UInt8.ofNat f.opcode⟩, true⟩

theorem memoOf_first (f : WebSocket.Frame) : memoOf f.first = (headOf f).memo := by
  have first := f.toNat_first
  have opcode := f.opcode.isLt
  have fin : decide (128 ≤ f.first.toNat) = f.fin := by
    rw [Bool.eq_iff_iff, decide_eq_true_iff]
    exact f.fin_iff
  have rsv : f.first.toNat / 16 % 8 = 0 := by
    have bit := f.fin.toNat_le
    omega
  have low : f.first.toNat % 16 = f.opcode := by omega
  rw [memoOf_eq, fin, rsv, low]
  rfl

theorem maskOf_second (masked : f.key.isSome = true) : maskOf f.second = true := by
  have second := f.toNat_second
  rw [masked] at second
  rw [maskOf_eq, decide_eq_true_iff, second, Bool.toNat_true]
  exact Nat.le_add_right 128 _

theorem payloadlenOf_second (f : WebSocket.Frame) : payloadlenOf f.second = shortLength f.payload.length := by
  rw [payloadlenOf_eq, f.second_mod]

theorem isCtrlFrame_ofNat (opcode : Fin 16) :
    isCtrlFrame (UInt8.ofNat opcode) = decide (8 ≤ (opcode : Nat)) := by
  have all : ∀ n : Fin 16, isCtrlFrame (UInt8.ofNat n) = decide (8 ≤ (n : Nat)) := by decide
  exact all opcode

namespace Reader

variable {r : Reader}

/-- The first two bytes of a legal frame. -/
theorem feed_two (legal : f.Legal) (masked : f.key.isSome = true) (live : r.standing = .live)
    (first : r.phase = .first) :
    r.feed [f.first, f.second] = if f.ext.length = 0 then r.sized (headOf f) f.payload.length
      else { r with phase := .ext (headOf f) f.ext.length [] } := by
  obtain ⟨-, whole, fits⟩ := legal
  have fine : (isCtrlFrame (headOf f).memo.opcode &&
      (decide (125 < shortLength f.payload.length) || !(headOf f).memo.fin)) = false := by
    rw [headOf, isCtrlFrame_ofNat]
    by_cases control : 8 ≤ (f.opcode : Nat)
    · obtain ⟨fin, short⟩ := whole control
      have same : shortLength f.payload.length = f.payload.length := if_pos short
      rw [fin, same, decide_eq_false (Nat.not_lt.mpr short)]
      exact Bool.and_false _
    · rw [decide_eq_false control]
      rfl
  have head : (⟨(headOf f).memo, true⟩ : Head) = headOf f := rfl
  rw [feed_header live first f.first f.second, header, memoOf_first, maskOf_second masked,
    payloadlenOf_second, fine, if_neg Bool.false_ne_true, WebSocket.Frame.ext, length_be, head]
  unfold extWidth
  by_cases two : shortLength f.payload.length = 126
  · rw [if_pos two, if_pos two, if_neg (by decide)]
  · by_cases eight : shortLength f.payload.length = 127
    · rw [if_neg two, if_pos eight, if_neg two, if_pos eight, if_neg (by decide)]
    · have short : shortLength f.payload.length = f.payload.length := by
        unfold shortLength at two eight ⊢
        split
        · rfl
        next long =>
          rw [if_neg long] at two eight
          split at two
          · exact absurd rfl two
          next far =>
            rw [if_neg far] at eight
            exact absurd rfl eight
      rw [if_neg two, if_neg eight, if_neg two, if_neg eight, if_pos rfl, short]

/-- The extended length, where there is one, has no shorter form. -/
theorem shortest_ext (legal : f.Legal) (long : f.ext.length ≠ 0) :
    shortest f.ext.length f.payload.length = true ∧ ofBe f.ext = f.payload.length := by
  obtain ⟨-, -, fits⟩ := legal
  rw [WebSocket.Frame.ext, length_be] at long ⊢
  unfold shortLength at long ⊢
  by_cases small : f.payload.length ≤ 125
  · have none : extWidth f.payload.length = 0 := by
      unfold extWidth
      rw [if_neg (by omega), if_neg (by omega)]
    rw [if_pos small] at long
    exact absurd none long
  · rw [if_neg small]
    by_cases medium : f.payload.length < 2 ^ 16
    · rw [if_pos medium]
      refine ⟨?_, ofBe_be medium⟩
      show shortest 2 f.payload.length = true
      rw [shortest, if_neg (by decide), decide_eq_true_iff]
      omega
    · have wide : f.payload.length < 2 ^ (8 * 8) := by omega
      rw [if_neg medium]
      refine ⟨?_, ofBe_be wide⟩
      show shortest 8 f.payload.length = true
      rw [shortest, if_pos rfl, Bool.and_eq_true, decide_eq_true_iff, decide_eq_true_iff]
      exact ⟨Nat.le_of_not_lt medium, fits⟩

/-- The header of a legal frame, up to the length. -/
theorem feed_sized (legal : f.Legal) (masked : f.key.isSome = true) (live : r.standing = .live)
    (first : r.phase = .first) :
    r.feed (f.first :: f.second :: f.ext) = r.sized (headOf f) f.payload.length := by
  show r.feed ([f.first, f.second] ++ f.ext) = _
  rw [feed_append, feed_two legal masked live first]
  by_cases none : f.ext.length = 0
  · rw [if_pos none, List.eq_nil_of_length_eq_zero none, feed_nil]
  · obtain ⟨least, length⟩ := shortest_ext legal none
    have read := feed_ext (r := { r with phase := .ext (headOf f) f.ext.length [] }) f.ext live rfl
      (List.ne_nil_of_length_pos (Nat.pos_of_ne_zero none)) rfl
    rw [if_neg none, read, extended_phase, extended, length, if_pos least]

/-- The header of a frame that is legal and masked. -/
theorem feed_head {key : Fin 4 → UInt8} (legal : f.Legal)
    (masked : f.key = some key) (live : r.standing = .live)
    (first : r.phase = .first) :
    r.feed (f.first :: f.second :: (f.ext ++ f.keyBytes)) = r.enter (headOf f) f.payload.length key := by
  have some : f.key.isSome = true := by rw [masked]; rfl
  have keyBytes : f.keyBytes = List.ofFn key := by
    rw [WebSocket.Frame.keyBytes, masked]
    rfl
  have four : f.keyBytes.length = 4 := by rw [keyBytes, List.length_ofFn]
  have read := feed_key (r := { r with phase := .key (headOf f) f.payload.length [] }) f.keyBytes live rfl
    (List.ne_nil_of_length_eq_add_one four) four
  have same : (fun i : Fin 4 => f.keyBytes.getD i 0) = key := by
    funext i
    rw [keyBytes, List.getD_eq_getElem _ _ (by rw [List.length_ofFn]; exact i.isLt), List.getElem_ofFn]
  have set : (headOf f).masked = true := rfl
  show r.feed ((f.first :: f.second :: f.ext) ++ f.keyBytes) = _
  rw [feed_append, feed_sized legal some live first, sized, if_pos set, read, enter_phase, same]

/-! ## A frame that comes in part -/

/-- A part of a header changes nothing but the phase. -/
theorem feed_head_part (legal : f.Legal) (masked : f.key.isSome = true) (live : r.standing = .live)
    (first : r.phase = .first) {n : Nat} (short : n < headLength f) :
    ∃ phase, r.feed ((f.first :: f.second :: (f.ext ++ f.keyBytes)).take n) = { r with phase := phase } := by
  obtain ⟨key, same⟩ := Option.isSome_iff_exists.mp masked
  have four : f.keyBytes.length = 4 := by
    rw [WebSocket.Frame.keyBytes, same]
    exact List.length_ofFn
  rw [headLength, four] at short
  rcases n with _ | _ | n
  · exact ⟨r.phase, rfl⟩
  · refine ⟨.second f.first, ?_⟩
    show r.byte f.first = _
    rw [byte, if_neg (not_not.mpr live), first]
  · show ∃ phase, r.feed ([f.first, f.second] ++ (f.ext ++ f.keyBytes).take n) = _
    rw [List.take_append]
    by_cases inside : n < f.ext.length
    · have none : n - f.ext.length = 0 := by omega
      have part := feed_ext_part (r := { r with phase := .ext (headOf f) f.ext.length [] })
        (f.ext.take n) live rfl (by
          rw [List.length_nil, List.length_take]
          omega)
      rw [none, List.take_zero, List.append_nil, feed_append, feed_two legal masked live first,
        if_neg (by omega), part]
      exact ⟨_, rfl⟩
    · have all : f.ext.take n = f.ext := List.take_of_length_le (by omega)
      have part := feed_key_part (r := { r with phase := .key (headOf f) f.payload.length [] })
        (f.keyBytes.take (n - f.ext.length)) live rfl (by
          rw [List.length_nil, List.length_take]
          omega)
      have set : (headOf f).masked = true := rfl
      rw [all, ← List.append_assoc, feed_append]
      show ∃ phase, (r.feed (f.first :: f.second :: f.ext)).feed _ = _
      rw [feed_sized legal masked live first, sized, if_pos set, part]
      exact ⟨_, rfl⟩

/-! ## A payload -/

/-- Text that is formed is never rejected, with any part of it. -/
theorem formed_prefix {fin : Bool} {bytes part : Bytes}
    (formed : Formed fin bytes) (inside : part <+: bytes) :
    part.foldl decode UTF8_ACCEPT ≠ UTF8_REJECT := by
  intro reject
  obtain ⟨rest, rfl⟩ := inside
  have whole : ∃ later, ∃ text : String, part ++ rest ++ later = Utf8.octets text := by
    unfold Formed at formed
    split at formed
    · obtain ⟨text, same⟩ := formed
      exact ⟨[], text, by rw [List.append_nil]; exact same⟩
    · exact formed
  obtain ⟨later, text, same⟩ := whole
  refine (decode_reject_iff part).mp reject ⟨rest ++ later, text, ?_⟩
  rw [← List.append_assoc]
  exact same

/-- The text of the message so far. -/
def textOf : Option (Bool × Bytes) → Bytes
  | some (true, got) => got
  | _ => []

/-- The reader between two frames of a client, in the middle of a message or not. -/
structure At (state : Option (Bool × Bytes)) (r : Reader) : Prop where
  live : r.standing = .live
  first : r.phase = .first
  message : r.message = state.map Prod.fst
  utf8 : r.utf8 = (textOf state).foldl decode UTF8_ACCEPT

/-- What the reader can have made of a part of a stream, in which there may be a Close. -/
structure Got (close : Prop) (out : Bytes) (seen : List ControlEvent) (r r' : Reader) : Prop where
  standing : r'.standing = .live ∨ r'.standing = .closed ∧ close
  out : r'.out = r.out ++ out
  seen : r'.seen = r.seen ++ seen

variable {state : Option (Bool × Bytes)}

theorem fine_compliant (known : allowed r.message (headOf f).memo.opcode = true)
    (fits : f.payload.length ≤ MAX_RECV_MSG_LENGTH) : ¬ r.Faulty (headOf f) f.payload.length := by
  rintro (rsv | mask | opcode | far)
  · exact rsv rfl
  · exact Bool.noConfusion mask
  · exact absurd (opcode.symm.trans known) Bool.false_ne_true
  · exact absurd far (Nat.not_lt.mpr fits)

theorem length_data (f : WebSocket.Frame) : f.data.length = f.payload.length := by
  rw [WebSocket.Frame.data]
  cases f.key with
  | none => rfl
  | some key => exact length_mask key 0 f.payload

theorem data_masked {key : Fin 4 → UInt8} (masked : f.key = some key) : f.data = mask key 0 f.payload := by
  rw [WebSocket.Frame.data, masked]

/-- Some of a ping or a pong. -/
theorem puts_ping (live : r.standing = .live) (kind : (f.opcode : Nat) = 9 ∨ (f.opcode : Nat) = 10)
    (fits : f.payload.length ≤ MAX_RECV_MSG_LENGTH) (data : Bytes) :
    isCtrlFrame (headOf f).memo.opcode = true ∧
      (r.begun (headOf f) f.payload.length 0).puts (headOf f) data = { r with control := data } := by
  have control : isCtrlFrame (headOf f).memo.opcode = true := by
    rw [headOf, isCtrlFrame_ofNat, decide_eq_true_iff]
    omega
  have known : allowed r.message (headOf f).memo.opcode = true := by
    unfold headOf
    rcases kind with same | same <;> rw [same] <;> rfl
  have other (n : Nat) : n = 9 ∨ n = 10 → UInt8.ofNat n ≠ CONNECTION_CLOSE := by
    rintro (rfl | rfl) <;> decide
  have close : (headOf f).memo.opcode ≠ CONNECTION_CLOSE := other f.opcode kind
  refine ⟨control, ?_⟩
  rw [begun, if_pos rfl, start_fine (fine_compliant known fits), if_neg close, if_pos control,
    puts_control (r := { r with control := [] }) live control]
  rfl

/-- A ping or a pong. -/
theorem chunk_control {key : Fin 4 → UInt8} (at_ : At state r) (masked : f.key = some key)
    (kind : (f.opcode : Nat) = 9 ∨ (f.opcode : Nat) = 10) (fits : f.payload.length ≤ MAX_RECV_MSG_LENGTH) :
    At state (r.chunk (headOf f) f.payload.length key 0 f.payload) ∧
      Got False [] (eventOf f) r (r.chunk (headOf f) f.payload.length key 0 f.payload) := by
  obtain ⟨control, puts⟩ := puts_ping at_.live kind fits (mask key 0 f.payload)
  have event : [if (headOf f).memo.opcode = PING then ControlEvent.ping (mask key 0 f.payload)
      else ControlEvent.pong (mask key 0 f.payload)] = eventOf f := by
    rw [eventOf, data_masked masked]
    unfold headOf
    rcases kind with nine | ten
    · rw [nine]
      rfl
    · rw [ten]
      rfl
  have whole : r.chunk (headOf f) f.payload.length key 0 f.payload =
      { r with phase := .first, control := mask key 0 f.payload, seen := r.seen ++ eventOf f } := by
    rw [chunk, puts, Nat.zero_add, reach, if_neg (not_not.mpr at_.live), if_pos rfl, finish, ← event]
    exact if_pos control
  rw [whole]
  exact ⟨⟨at_.live, rfl, at_.message, at_.utf8⟩, ⟨.inl at_.live, (List.append_nil _).symm, rfl⟩⟩

/-- A part of a ping or a pong. -/
theorem chunk_control_part {key : Fin 4 → UInt8} (at_ : At state r)
    (kind : (f.opcode : Nat) = 9 ∨ (f.opcode : Nat) = 10) (fits : f.payload.length ≤ MAX_RECV_MSG_LENGTH)
    {raw : Bytes} (part : raw.length < f.payload.length) :
    Got False [] [] r (r.chunk (headOf f) f.payload.length key 0 raw) := by
  obtain ⟨-, puts⟩ := puts_ping at_.live kind fits (mask key 0 raw)
  rw [chunk, puts, Nat.zero_add, reach, if_neg (not_not.mpr at_.live), if_neg part.ne]
  exact ⟨.inl at_.live, (List.append_nil _).symm, (List.append_nil _).symm⟩

/-- A Close. -/
theorem chunk_close (kind : (f.opcode : Nat) = 8)
    (fits : f.payload.length ≤ MAX_RECV_MSG_LENGTH) (key : Fin 4 → UInt8) (raw : Bytes) :
    r.chunk (headOf f) f.payload.length key 0 raw = r.stop .closed := by
  have close : (headOf f).memo.opcode = CONNECTION_CLOSE := by
    unfold headOf
    rw [kind]
    rfl
  have known : allowed r.message (headOf f).memo.opcode = true := by
    rw [close]
    rfl
  have ended : (r.stop .closed).standing ≠ .live := Standing.noConfusion
  rw [chunk, begun, if_pos rfl, start_fine (fine_compliant known fits), if_pos close, puts_of_ended ended,
    reach_of_ended ended]
  rfl

/-- The begin of a frame of data. -/
theorem start_data {text : Bool} {got : Bytes} (at_ : At state r)
    (belong : belongs state f.opcode = some (text, got))
    (fits : f.payload.length ≤ MAX_RECV_MSG_LENGTH) :
    r.start (headOf f) f.payload.length = { r with message := some text } ∧
      r.utf8 = (if text then got else []).foldl decode UTF8_ACCEPT := by
  have message := at_.message
  have utf8 := at_.utf8
  unfold belongs at belong
  cases state with
  | none =>
      dsimp only at belong
      have fresh : r.utf8 = (if text then got else []).foldl decode UTF8_ACCEPT ∧
          ((f.opcode : Nat) = 1 ∧ text = true ∨ (f.opcode : Nat) = 2 ∧ text = false) := by
        split at belong
        next one =>
          cases belong
          exact ⟨utf8, .inl ⟨one, rfl⟩⟩
        next =>
          split at belong
          next two =>
            cases belong
            exact ⟨utf8, .inr ⟨two, rfl⟩⟩
          next => cases belong
      refine ⟨?_, fresh.1⟩
      have opcode : (headOf f).memo.opcode = TEXT_FRAME ∧ text = true ∨
          (headOf f).memo.opcode = BINARY_FRAME ∧ text = false := by
        unfold headOf
        rcases fresh.2 with ⟨same, kind⟩ | ⟨same, kind⟩ <;> rw [same]
        · exact .inl ⟨rfl, kind⟩
        · exact .inr ⟨rfl, kind⟩
      have known : allowed r.message (headOf f).memo.opcode = true := by
        rw [message]
        rcases opcode with ⟨same, -⟩ | ⟨same, -⟩ <;> rw [same] <;> rfl
      rw [start_fine (fine_compliant known fits)]
      rcases opcode with ⟨same, kind⟩ | ⟨same, kind⟩ <;> rw [same, kind] <;> rfl
  | some open_ =>
      dsimp only at belong
      split at belong
      next zero =>
        cases belong
        have opcode : (headOf f).memo.opcode = CONTINUATION_FRAME := by
          unfold headOf
          rw [zero]
          rfl
        have known : allowed r.message (headOf f).memo.opcode = true := by
          rw [message, opcode]
          rfl
        have same : r.message = some text := message
        refine ⟨?_, ?_⟩
        · rw [start_fine (fine_compliant known fits), opcode, ← same]
          rfl
        · rw [utf8]
          cases text <;> rfl
      next => cases belong

/-- Some of the data of a frame. -/
theorem puts_data {text : Bool} {got : Bytes} {key : Fin 4 → UInt8}
    (at_ : At state r) (masked : f.key = some key)
    (belong : belongs state f.opcode = some (text, got))
    (formed : text = true → Formed f.fin (got ++ f.data)) (fits : f.payload.length ≤ MAX_RECV_MSG_LENGTH)
    (k : Nat) :
    (r.begun (headOf f) f.payload.length 0).puts (headOf f) (mask key 0 (f.payload.take k)) =
      { r with
        message := some text
        utf8 := (if text then got ++ f.data.take k else []).foldl decode UTF8_ACCEPT
        out := r.out ++ f.data.take k } := by
  obtain ⟨starts, utf8⟩ := start_data at_ belong fits
  have isData : isCtrlFrame (headOf f).memo.opcode = false := by
    have low : (f.opcode : Nat) < 8 := by
      unfold belongs at belong
      by_contra high
      cases state with
      | none =>
          dsimp only at belong
          rw [if_neg (by omega), if_neg (by omega)] at belong
          cases belong
      | some open_ =>
          dsimp only at belong
          rw [if_neg (by omega)] at belong
          cases belong
    rw [headOf, isCtrlFrame_ofNat, decide_eq_false_iff_not]
    omega
  rw [begun, if_pos rfl, starts, mask_take, ← data_masked masked]
  cases text with
  | false =>
      have binary : some false ≠ some true := by decide
      rw [puts_binary (r := { r with message := some false }) at_.live isData binary, utf8]
      rfl
  | true =>
      have sound : (f.data.take k).foldl decode r.utf8 ≠ UTF8_REJECT := by
        rw [utf8, if_pos rfl, ← List.foldl_append]
        exact formed_prefix (formed rfl) ((List.prefix_append_right_inj got).mpr (List.take_prefix k f.data))
      rw [puts_text (r := { r with message := some true }) at_.live isData rfl sound, utf8,
        if_pos rfl, if_pos rfl, List.foldl_append]

/-- Some of a frame of data. -/
theorem chunk_part {text : Bool} {got : Bytes} {key : Fin 4 → UInt8}
    (at_ : At state r) (masked : f.key = some key)
    (belong : belongs state f.opcode = some (text, got))
    (formed : text = true → Formed f.fin (got ++ f.data)) (fits : f.payload.length ≤ MAX_RECV_MSG_LENGTH)
    {k : Nat} (part : k < f.payload.length) :
    Got False (f.data.take k) [] r (r.chunk (headOf f) f.payload.length key 0 (f.payload.take k)) := by
  have length : 0 + (f.payload.take k).length ≠ f.payload.length := by
    rw [List.length_take]
    omega
  rw [chunk, puts_data at_ masked belong formed fits, reach, if_neg (not_not.mpr at_.live), if_neg length]
  exact ⟨.inl at_.live, rfl, (List.append_nil _).symm⟩

/-- A whole frame of data. -/
theorem chunk_data {text : Bool} {got : Bytes} {key : Fin 4 → UInt8}
    (at_ : At state r) (masked : f.key = some key)
    (belong : belongs state f.opcode = some (text, got))
    (formed : text = true → Formed f.fin (got ++ f.data)) (fits : f.payload.length ≤ MAX_RECV_MSG_LENGTH)
    (low : (f.opcode : Nat) < 8) :
    At (if f.fin then none else some (text, got ++ f.data))
        (r.chunk (headOf f) f.payload.length key 0 f.payload) ∧
      Got False f.data [] r (r.chunk (headOf f) f.payload.length key 0 f.payload) := by
  have isData : isCtrlFrame (headOf f).memo.opcode = false := by
    rw [headOf, isCtrlFrame_ofNat, decide_eq_false_iff_not]
    omega
  have puts := puts_data at_ masked belong formed fits f.payload.length
  have dataLength := length_data f
  rw [List.take_length, ← dataLength, List.take_length, dataLength] at puts
  rw [chunk, puts, Nat.zero_add, reach, if_neg (not_not.mpr at_.live), if_pos rfl, finish]
  dsimp only
  rw [isData, if_neg Bool.false_ne_true]
  show At (if f.fin then none else some (text, got ++ f.data)) (if f.fin = true then _ else _) ∧
    Got False f.data [] r (if f.fin = true then _ else _)
  unfold Formed at formed
  cases fin : f.fin with
  | false =>
      rw [if_neg Bool.false_ne_true, if_neg Bool.false_ne_true]
      refine ⟨⟨at_.live, rfl, rfl, ?_⟩, ⟨.inl at_.live, rfl, (List.append_nil _).symm⟩⟩
      cases text <;> rfl
  | true =>
      have complete : ¬ (some text = some true ∧
          (if text then got ++ f.data else []).foldl decode UTF8_ACCEPT ≠ UTF8_ACCEPT) := by
        rintro ⟨same, open_⟩
        have isText : text = true := Option.some.inj same
        have whole := formed isText
        rw [fin, if_pos rfl] at whole
        rw [if_pos isText] at open_
        exact open_ ((decode_accept_iff _).mpr whole)
      rw [if_pos rfl, if_pos rfl, if_neg complete]
      exact ⟨⟨at_.live, rfl, rfl, rfl⟩, ⟨.inl at_.live, rfl, (List.append_nil _).symm⟩⟩

/-! ## A stream -/

theorem bytes_head (f : WebSocket.Frame) :
    f.bytes = (f.first :: f.second :: (f.ext ++ f.keyBytes)) ++ f.payload := by
  rw [WebSocket.Frame.bytes, List.cons_append, List.cons_append, List.append_assoc]

theorem length_head (f : WebSocket.Frame) :
    (f.first :: f.second :: (f.ext ++ f.keyBytes)).length = headLength f := by
  rw [headLength, List.length_cons, List.length_cons, List.length_append]
  omega

/-- A whole frame. -/
theorem feed_frame {key : Fin 4 → UInt8} (legal : f.Legal)
    (masked : f.key = some key) (live : r.standing = .live)
    (first : r.phase = .first) :
    r.feed f.bytes = r.chunk (headOf f) f.payload.length key 0 f.payload := by
  rw [bytes_head, feed_append, feed_head legal masked live first, enter]
  by_cases empty : f.payload.length = 0
  · rw [if_pos empty, empty, List.eq_nil_of_length_eq_zero empty, feed_nil]
  · have read : Reader.feed { r with phase := .payload (headOf f) f.payload.length key 0 } f.payload = _ :=
      feed_payload live rfl (List.ne_nil_of_length_pos (Nat.pos_of_ne_zero empty)) (Nat.zero_add _).le
    rw [if_neg empty, read, chunk_phase]

/-- A part of a frame: a part of the header, or the header and a part of the payload. -/
theorem feed_frame_part {key : Fin 4 → UInt8} (legal : f.Legal) (masked : f.key = some key)
    (live : r.standing = .live) (first : r.phase = .first) {n : Nat} (part : n < f.bytes.length) :
    (∃ phase, r.feed (f.bytes.take n) = { r with phase := phase }) ∧ n ≤ headLength f ∨
      headLength f < n ∧ n - headLength f < f.payload.length ∧
        r.feed (f.bytes.take n) =
          r.chunk (headOf f) f.payload.length key 0 (f.payload.take (n - headLength f)) := by
  have some : f.key.isSome = true := by rw [masked]; rfl
  have total : f.bytes.length = headLength f + f.payload.length := by
    rw [bytes_head, List.length_append, length_head]
  have front : f.bytes.take n = (f.first :: f.second :: (f.ext ++ f.keyBytes)).take n ++
      f.payload.take (n - headLength f) := by
    rw [bytes_head, List.take_append, length_head]
  by_cases short : n < headLength f
  · have none : n - headLength f = 0 := by omega
    have header := feed_head_part legal some live first short
    rw [front, none, List.take_zero, List.append_nil]
    exact .inl ⟨header, by omega⟩
  · have whole : (f.first :: f.second :: (f.ext ++ f.keyBytes)).take n =
        f.first :: f.second :: (f.ext ++ f.keyBytes) := List.take_of_length_le (by rw [length_head]; omega)
    have filled : f.payload.length ≠ 0 := by omega
    rw [front, whole, feed_append, feed_head legal masked live first, enter, if_neg filled]
    by_cases exact_ : n = headLength f
    · have none : n - headLength f = 0 := by omega
      rw [none, List.take_zero, feed_nil]
      exact .inl ⟨⟨_, rfl⟩, by omega⟩
    · have raw : f.payload.take (n - headLength f) ≠ [] := by
        rw [Ne, List.take_eq_nil_iff]
        rintro (none | none)
        · omega
        · rw [none] at filled
          exact filled rfl
      have read := feed_payload
        (r := { r with phase := .payload (headOf f) f.payload.length key 0 }) live rfl raw (by
        rw [List.length_take]
        omega)
      rw [read, chunk_phase]
      exact .inr ⟨by omega, by omega, rfl⟩

theorem Got.mono {close close' : Prop} {out : Bytes} {seen : List ControlEvent} {r' : Reader}
    (got : Got close out seen r r') (weaker : close → close') : Got close' out seen r r' :=
  ⟨got.standing.imp_right (And.imp_right weaker), got.out, got.seen⟩

theorem Got.trans {close : Prop} {out out' : Bytes} {seen seen' : List ControlEvent} {r' r'' : Reader}
    (first : Got False out seen r r') (later : Got close out' seen' r' r'') :
    Got close (out ++ out') (seen ++ seen') r r'' := by
  refine ⟨later.standing, ?_, ?_⟩
  · rw [later.out, first.out, List.append_assoc]
  · rw [later.seen, first.seen, List.append_assoc]

/-- Nothing has come of it. -/
theorem got_phase (at_ : At state r) (phase : Phase) : Got False [] [] r { r with phase := phase } :=
  ⟨.inl at_.live, (List.append_nil _).symm, (List.append_nil _).symm⟩

/-- A frame that a client may send, and what it is about. -/
theorem got_frame (at_ : At state r) (compliant : Compliant state (f :: frames)) :
    if (f.opcode : Nat) = 8 then
      Got True (dataIn f f.bytes.length) [] r (r.feed f.bytes) ∧ (r.feed f.bytes).standing = .closed
    else
      Got False (dataIn f f.bytes.length) (eventOf f) r (r.feed f.bytes) ∧
        ∃ state', At state' (r.feed f.bytes) ∧ Compliant state' frames := by
  obtain ⟨legal, some, fits, rest⟩ := compliant
  obtain ⟨key, masked⟩ := Option.isSome_iff_exists.mp some
  have total : f.bytes.length - headLength f = f.payload.length := by
    rw [bytes_head, List.length_append, length_head]
    omega
  have dataLength := length_data f
  rw [feed_frame legal masked at_.live at_.first]
  by_cases close : (f.opcode : Nat) = 8
  · rw [dataIn, if_pos close.ge, if_pos close, chunk_close close fits]
    exact ⟨⟨.inr ⟨rfl, trivial⟩, (List.append_nil _).symm, (List.append_nil _).symm⟩, rfl⟩
  · rw [if_neg close] at rest
    rw [if_neg close]
    by_cases control : 8 ≤ (f.opcode : Nat)
    · have kind : (f.opcode : Nat) = 9 ∨ (f.opcode : Nat) = 10 := by
        have known := legal.1
        unfold WebSocket.Known at known
        omega
      obtain ⟨after, got⟩ := chunk_control at_ masked kind fits
      rw [if_pos control] at rest
      rw [dataIn, if_pos control]
      exact ⟨got, state, after, rest⟩
    · rw [if_neg control] at rest
      obtain ⟨text, sofar, belong, formed, rest⟩ := rest
      obtain ⟨after, got⟩ := chunk_data at_ masked belong formed fits (Nat.lt_of_not_le control)
      have noEvent : eventOf f = [] := by
        rw [eventOf, if_neg (by omega), if_neg (by omega)]
      rw [dataIn, if_neg control, total, List.take_of_length_le dataLength.le, noEvent]
      exact ⟨got, _, after, rest⟩

/-- A part of a frame that a client may send. -/
theorem got_frame_part (at_ : At state r) (compliant : Compliant state (f :: frames)) {n : Nat}
    (part : n < f.bytes.length) :
    Got ((f.opcode : Nat) = 8) (dataIn f n) [] r (r.feed (f.bytes.take n)) := by
  obtain ⟨legal, some, fits, rest⟩ := compliant
  obtain ⟨key, masked⟩ := Option.isSome_iff_exists.mp some
  rcases feed_frame_part legal masked at_.live at_.first part with ⟨⟨phase, fed⟩, short⟩ | ⟨long, inside, fed⟩
  · have none : dataIn f n = [] := by
      unfold dataIn
      split
      · rfl
      · rw [Nat.sub_eq_zero_of_le short, List.take_zero]
    rw [fed, none]
    exact (got_phase at_ phase).mono False.elim
  · rw [fed]
    by_cases close : (f.opcode : Nat) = 8
    · rw [dataIn, if_pos close.ge, chunk_close close fits]
      exact ⟨.inr ⟨rfl, close⟩, (List.append_nil _).symm, (List.append_nil _).symm⟩
    · rw [if_neg close] at rest
      by_cases control : 8 ≤ (f.opcode : Nat)
      · have kind : (f.opcode : Nat) = 9 ∨ (f.opcode : Nat) = 10 := by
          have known := legal.1
          unfold WebSocket.Known at known
          omega
        rw [dataIn, if_pos control]
        refine (chunk_control_part at_ kind fits ?_).mono False.elim
        rw [List.length_take]
        omega
      · rw [if_neg control] at rest
        obtain ⟨text, sofar, belong, formed, -⟩ := rest
        rw [dataIn, if_neg control]
        exact (chunk_part at_ masked belong formed fits inside).mono False.elim

theorem got_compliant (at_ : At state r) (compliant : Compliant state frames) (n : Nat) :
    Got (∃ f ∈ frames, (f.opcode : Nat) = 8) (carried frames n) (heard frames n) r
      (r.feed ((frames.flatMap WebSocket.Frame.bytes).take n)) := by
  induction frames generalizing r state n with
  | nil =>
      rw [List.flatMap_nil, List.take_nil, feed_nil]
      exact ⟨.inl at_.live, (List.append_nil _).symm, (List.append_nil _).symm⟩
  | cons f frames ih =>
      rw [List.flatMap_cons, List.take_append, carried, heard]
      by_cases whole : f.bytes.length ≤ n
      · have got := got_frame at_ compliant
        have total : f.bytes.length = headLength f + f.payload.length := by
          rw [bytes_head, List.length_append, length_head]
        have length := length_data f
        have data : dataIn f n = dataIn f f.bytes.length := by
          unfold dataIn
          rw [List.take_of_length_le (i := n - headLength f) (by omega),
            List.take_of_length_le (i := f.bytes.length - headLength f) (by omega)]
        rw [List.take_of_length_le whole, feed_append, data]
        by_cases close : (f.opcode : Nat) = 8
        · have both : ¬ (f.bytes.length ≤ n ∧ (f.opcode : Nat) ≠ 8) := fun both => both.2 close
          rw [if_pos close] at got
          have ended : (r.feed f.bytes).standing ≠ .live := by
            rw [got.2]
            exact Standing.noConfusion
          rw [if_neg both, if_neg both, feed_of_ended ended, List.append_nil]
          exact got.1.mono fun _ => ⟨f, .head _, close⟩
        · rw [if_neg close] at got
          obtain ⟨got, state', after, rest⟩ := got
          rw [if_pos ⟨whole, close⟩, if_pos ⟨whole, close⟩]
          refine (got.trans (ih after rest _)).mono ?_
          rintro ⟨f', mem, same⟩
          exact ⟨f', .tail _ mem, same⟩
      · have part : n < f.bytes.length := Nat.lt_of_not_le whole
        have got := got_frame_part at_ compliant part
        have both : ¬ (f.bytes.length ≤ n ∧ (f.opcode : Nat) ≠ 8) := fun both => whole both.1
        have none : n - f.bytes.length = 0 := by omega
        rw [if_neg both, if_neg both, none, List.take_zero, List.append_nil, List.append_nil]
        exact got.mono fun close => ⟨f, .head _, close⟩

/-- From the stream of a client that keeps to the rules, cut anywhere, the reader gets the data
up to the cut or a Close, and the pings and pongs that are complete; and nothing is refused. -/
theorem reader_of_compliant (compliant : Compliant none frames) (n : Nat) :
    Got (∃ f ∈ frames, (f.opcode : Nat) = 8) (carried frames n) (heard frames n) fresh
      (fresh.feed ((frames.flatMap WebSocket.Frame.bytes).take n)) :=
  got_compliant ⟨rfl, rfl, rfl, rfl⟩ compliant n

end Reader

end Wslay

end H2ts
