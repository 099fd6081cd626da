import H2ts.Go.Goroutines
import H2ts.Lib.WebSocket

/-!
# What a Go connection writes

`Write`, `Ping` and `Pong` from any goroutines, in the order in which they got `writeMu`.
A data frame is a header and a payload, two buffers of one vectored write; a control frame
is copied together first.  Either way it is the frame of the call (`buffers_flatten`), and
what a sequence of calls writes is read as the frames of the calls that were accepted
(`outbound_frames`).  With the frames of the goroutines between them, it is still a stream of
legal frames (`drain_after`).
-/

namespace H2ts

namespace Go

open Bufio WebSocket

/-- A slice of bytes.  Its length is an `int`. -/
structure Slice where
  bytes : Bytes
  fits : bytes.length ≤ maxInt64

namespace Conn

/-- `net.Buffers.WriteTo`: one buffer after the other, up to an error. -/
def writeTo (c : Conn) : List Bytes → Option GoError × Conn
  | [] => (none, c)
  | buf :: bufs =>
      match c.write buf with
      | (some err, c) => (some err, c)
      | (none, c) => c.writeTo bufs

/-- `Write`: the number of bytes that it took, and its error. -/
def writeBinary (c : Conn) (p : Slice) : (Nat × Option GoError) × Conn :=
  if p.bytes.length = 0 then ((0, none), c)
  else
    match c.writeTo [encodeHeader opBinary p.bytes.length, p.bytes] with
    | (some err, c) => ((0, some err), c)
    | (none, c) => ((p.bytes.length, none), c)

def ping (c : Conn) (payload : Slice) : Option GoError × Conn := c.writeControl opPing payload.bytes

def pong (c : Conn) (payload : Slice) : Option GoError × Conn := c.writeControl opPong payload.bytes

end Conn

inductive Call where
  | write (p : Slice)
  | ping (payload : Slice)
  | pong (payload : Slice)

/-- What a call returns. -/
inductive Answer where
  | write (n : Nat) (err : Option GoError)
  | control (err : Option GoError)
deriving DecidableEq, Repr

namespace Conn

def perform (c : Conn) : Call → Answer × Conn
  | .write p =>
      let ((n, err), c) := c.writeBinary p
      (.write n err, c)
  | .ping payload =>
      let (err, c) := c.ping payload
      (.control err, c)
  | .pong payload =>
      let (err, c) := c.pong payload
      (.control err, c)

/-- Calls in the order in which they get `writeMu`. -/
def performAll (c : Conn) : List Call → List Answer × Conn
  | [] => ([], c)
  | call :: calls =>
      let (answer, c) := c.perform call
      let (answers, c) := c.performAll calls
      (answer :: answers, c)

end Conn

/-! ## The frames -/

/-- What a server sends: one whole frame, and no mask. -/
def serverFrame (opcode : Fin 16) (payload : Bytes) : WebSocket.Frame where
  fin := true
  opcode := opcode
  key := none
  payload := payload

theorem legal_data {p : Bytes} (fits : p.length ≤ maxInt64) : (serverFrame 0x2 p).Legal := by
  have known : WebSocket.Known (0x2 : Fin 16) := by decide
  have data : ¬ 8 ≤ ((0x2 : Fin 16) : Nat) := by decide
  exact ⟨known, fun control => absurd control data, Nat.lt_of_le_of_lt fits (by decide)⟩

theorem legal_control {opcode : Fin 16} (known : WebSocket.Known opcode) {payload : Bytes}
    (short : payload.length ≤ 125) : (serverFrame opcode payload).Legal :=
  ⟨known, fun _ => ⟨rfl, short⟩, Nat.lt_of_le_of_lt short (by decide)⟩

namespace Call

/-- The frame of a call that is accepted and has something to write. -/
def frame : Call → Option WebSocket.Frame
  | write p => if p.bytes.length = 0 then none else some (serverFrame (opcodeOf 0x2) p.bytes)
  | ping payload =>
      if payload.bytes.length > 125 then none else some (serverFrame (opcodeOf 0x9) payload.bytes)
  | pong payload =>
      if payload.bytes.length > 125 then none else some (serverFrame (opcodeOf 0xA) payload.bytes)

/-- What is handed to the transport, if it takes all. -/
def buffers : Call → List Bytes
  | write p =>
      if p.bytes.length = 0 then [] else [Conn.encodeHeader opBinary p.bytes.length, p.bytes]
  | ping payload =>
      if payload.bytes.length > 125 then [] else [Conn.controlFrame opPing payload.bytes]
  | pong payload =>
      if payload.bytes.length > 125 then [] else [Conn.controlFrame opPong payload.bytes]

/-- The error of a control frame that is too long. -/
def refusal (payload : Slice) : Option GoError :=
  if payload.bytes.length > 125 then
    some (.other ("h2ts: control frame payload is " ++ toString payload.bytes.length ++
      " bytes, max 125"))
  else none

/-- What is returned, if the transport takes all. -/
def answer : Call → Answer
  | write p => .write p.bytes.length none
  | ping payload => .control (refusal payload)
  | pong payload => .control (refusal payload)

end Call

/-! ## A call writes its frame -/

namespace Conn

/-- The three forms of a header, as the shortest length. -/
theorem encodeHeader_eq (opcode : Fin 16) (n : Nat) :
    encodeHeader (UInt8.ofNat opcode) n =
      UInt8.ofNat (128 + opcode) :: UInt8.ofNat (shortLength n) ::
        BigEndian.be (extWidth (shortLength n)) n := by
  have fin : 0x80 ||| UInt8.ofNat opcode = UInt8.ofNat (128 + opcode) := by
    revert opcode
    decide
  unfold encodeHeader shortLength
  rw [fin]
  split
  next short =>
    have none : extWidth n = 0 := by
      unfold extWidth
      rw [if_neg (by omega), if_neg (by omega)]
    rw [none]
    rfl
  next =>
    split
    next medium =>
      rw [if_pos (show n < 2 ^ 16 by omega), BigEndian.be16_ofNat]
      rfl
    next long =>
      rw [if_neg (show ¬ n < 2 ^ 16 by omega), List.append_assoc, BigEndian.be32_ofNat,
        BigEndian.be32_ofNat]
      exact congrArg (_ :: _ :: ·) (BigEndian.be_add 4 4 n).symm

/-- A short frame that is copied together is the one of a vectored write. -/
theorem controlFrame_eq {opcode : UInt8} {payload : Bytes} (short : payload.length ≤ 125) :
    controlFrame opcode payload = encodeHeader opcode payload.length ++ payload := by
  rw [encodeHeader, if_pos short]
  rfl

theorem encodeHeader_append (opcode : Fin 16) (payload : Bytes) :
    encodeHeader (UInt8.ofNat opcode) payload.length ++ payload = (serverFrame opcode payload).bytes := by
  have first : UInt8.ofNat (128 + opcode) = (serverFrame opcode payload).first := by
    simp only [WebSocket.Frame.first, serverFrame, Bool.toNat_true, Nat.mul_one]
  have second : UInt8.ofNat (shortLength payload.length) = (serverFrame opcode payload).second := by
    simp only [WebSocket.Frame.second, serverFrame, Option.isSome_none, Bool.toNat_false,
      Nat.mul_zero, Nat.zero_add]
  rw [encodeHeader_eq, first, second]
  rfl

theorem writeTo_accepts {c : Conn} (accepts : c.writeErr = none) (bufs : List Bytes) :
    c.writeTo bufs = (none, { c with out := c.out ++ bufs }) := by
  induction bufs generalizing c with
  | nil => rw [writeTo, List.append_nil]
  | cons buf bufs ih =>
      have taken : c.write buf = (none, { c with out := c.out ++ [buf] }) := by rw [write, accepts]
      have rest := @ih { c with out := c.out ++ [buf] } accepts
      rw [writeTo, taken]
      simp only [rest, List.append_assoc, List.singleton_append]

theorem writeControl_accepts {c : Conn} (accepts : c.writeErr = none) (opcode : UInt8) (payload : Slice) :
    c.writeControl opcode payload.bytes =
      (Call.refusal payload, { c with
        out := c.out ++
          if payload.bytes.length > 125 then [] else [controlFrame opcode payload.bytes] }) := by
  unfold writeControl Call.refusal
  split
  · rw [List.append_nil]
  · rw [write, accepts]

/-- What one call returns and writes. -/
theorem perform_accepts {c : Conn} (accepts : c.writeErr = none) (call : Call) :
    c.perform call = (call.answer, { c with out := c.out ++ call.buffers }) := by
  cases call with
  | write p =>
      simp only [perform, writeBinary, Call.answer, Call.buffers]
      split
      next empty => rw [List.append_nil, empty]
      next => rw [writeTo_accepts accepts]
  | ping payload =>
      simp only [perform, ping, writeControl_accepts accepts]
      rfl
  | pong payload =>
      simp only [perform, pong, writeControl_accepts accepts]
      rfl

/-- What a sequence of calls returns and writes. -/
theorem performAll_accepts {c : Conn} (accepts : c.writeErr = none) (calls : List Call) :
    c.performAll calls = (calls.map Call.answer, { c with out := c.out ++ calls.flatMap Call.buffers }) := by
  induction calls generalizing c with
  | nil => simp only [performAll, List.map_nil, List.flatMap_nil, List.append_nil]
  | cons call calls ih =>
      have rest := @ih { c with out := c.out ++ call.buffers } accepts
      simp only [performAll, perform_accepts accepts, rest, List.map_cons,
        List.flatMap_cons, List.append_assoc]

end Conn

namespace Call

theorem control_flatten (opcode : Fin 16) (payload : Bytes) :
    (if payload.length > 125 then [] else [Conn.controlFrame (UInt8.ofNat opcode) payload]).flatten =
      ((if payload.length > 125 then none else some (serverFrame opcode payload)).map
        WebSocket.Frame.bytes).getD [] := by
  split
  · rfl
  next short =>
    simp only [List.flatten_singleton, Option.map_some, Option.getD_some]
    rw [Conn.controlFrame_eq (Nat.le_of_not_lt short)]
    exact Conn.encodeHeader_append opcode payload

/-- The buffers of a call are its frame. -/
theorem buffers_flatten (call : Call) :
    call.buffers.flatten = (call.frame.map WebSocket.Frame.bytes).getD [] := by
  cases call with
  | write p =>
      simp only [buffers, frame]
      split
      · rfl
      · simp only [List.flatten_cons, List.flatten_nil, List.append_nil, Option.map_some, Option.getD_some]
        exact Conn.encodeHeader_append 0x2 p.bytes
  | ping payload => exact control_flatten 0x9 payload.bytes
  | pong payload => exact control_flatten 0xA payload.bytes

theorem control_legal {opcode : Fin 16} (known : WebSocket.Known opcode) {payload : Bytes}
    {f : WebSocket.Frame}
    (framed : (if payload.length > 125 then none else some (serverFrame opcode payload)) = some f) :
    f.Legal := by
  split at framed
  · cases framed
  next short =>
    cases framed
    exact legal_control known (Nat.le_of_not_lt short)

theorem frame_legal {call : Call} {f : WebSocket.Frame} (framed : call.frame = some f) : f.Legal := by
  cases call with
  | write p =>
      simp only [frame] at framed
      split at framed
      · cases framed
      · cases framed
        exact legal_data p.fits
  | ping payload => exact control_legal (.inr (by decide)) framed
  | pong payload => exact control_legal (.inr (by decide)) framed

/-- What calls write is the bytes of their frames. -/
theorem flatten_flatMap_buffers (calls : List Call) :
    (calls.flatMap buffers).flatten = (calls.filterMap frame).flatMap WebSocket.Frame.bytes := by
  induction calls with
  | nil => rfl
  | cons call calls ih =>
      rw [List.flatMap_cons, List.flatten_append, buffers_flatten, ih, List.filterMap_cons]
      cases call.frame with
      | none => rfl
      | some f => rfl

end Call

/-- What a sequence of calls writes is read as one frame for each call that was accepted
and had something to write, in their order.  The others write nothing. -/
theorem outbound_frames {c : Conn} (accepts : c.writeErr = none) (calls : List Call) :
    ∃ written, (c.performAll calls).2.out.flatten = c.out.flatten ++ written ∧
      grammar.drain written = .ok (calls.filterMap Call.frame, []) ∧
      (c.performAll calls).1 = calls.map Call.answer := by
  refine ⟨(calls.flatMap Call.buffers).flatten, ?_, ?_, ?_⟩
  · rw [Conn.performAll_accepts accepts, List.flatten_append]
  · apply drain_iff.mpr
    constructor
    · intro f mem
      obtain ⟨call, _, framed⟩ := List.mem_filterMap.mp mem
      exact Call.frame_legal framed
    · exact Call.flatten_flatMap_buffers calls
  · rw [Conn.performAll_accepts accepts]

set_option maxRecDepth 4000 in
theorem outbound_frames_mixed :
    ∃ written,
      ((newConn ⟨4096, [], []⟩ none 0).performAll [.write ⟨[1, 2, 3], by decide⟩, .ping ⟨[], by decide⟩,
        .write ⟨[], by decide⟩, .pong ⟨List.replicate 126 0, by decide⟩]).2.out.flatten = [] ++ written ∧
      grammar.drain written = .ok ([serverFrame 0x2 [1, 2, 3], serverFrame 0x9 []], []) ∧
      ((newConn ⟨4096, [], []⟩ none 0).performAll [.write ⟨[1, 2, 3], by decide⟩, .ping ⟨[], by decide⟩,
        .write ⟨[], by decide⟩, .pong ⟨List.replicate 126 0, by decide⟩]).1 =
        [.write 3 none, .control none, .write 0 none,
          .control (some (.other "h2ts: control frame payload is 126 bytes, max 125"))] :=
  outbound_frames rfl _

/-! ## Any interleaving

The reader answers pings and a Close, the keepalive pings and closes, and so does `Close`.
Whatever goes on when, a step writes one frame at most, and it is a legal one. -/

/-- At most one frame was written. -/
def Emits (c d : Conn) : Prop :=
  d.out = c.out ∨ ∃ opcode payload, (serverFrame opcode payload).Legal ∧
    d.out = c.out ++ [(serverFrame opcode payload).bytes]

namespace Conn

theorem emits_writeControl (c : Conn) {opcode : Fin 16} (known : WebSocket.Known opcode)
    (payload : Bytes) : Emits c (c.writeControl (UInt8.ofNat opcode) payload).2 := by
  rcases c.writeControl_cases (UInt8.ofNat opcode) payload with same | ⟨short, -, written⟩
  · exact .inl (congrArg Conn.out same)
  · refine .inr ⟨opcode, payload, legal_control known short, ?_⟩
    rw [written, controlFrame_eq short, encodeHeader_append]

theorem emits_ping (c : Conn) (payload : Bytes) : Emits c (c.writeControl opPing payload).2 :=
  c.emits_writeControl (show WebSocket.Known (0x9 : Fin 16) by decide) payload

theorem emits_pong (c : Conn) (payload : Bytes) : Emits c (c.writeControl opPong payload).2 :=
  c.emits_writeControl (show WebSocket.Known (0xA : Fin 16) by decide) payload

theorem emits_writeClose (c : Conn) (code : UInt16) (reason : Bytes) :
    Emits c (c.writeClose code reason).2 :=
  c.emits_writeControl (show WebSocket.Known (0x8 : Fin 16) by decide) (closePayload code reason)

theorem emits_writeData (c : Conn) {p : Bytes} (fits : p.length ≤ maxInt64) : Emits c (c.writeData p) := by
  unfold writeData
  split
  · exact .inl rfl
  · rcases c.write_cases (encodeHeader opBinary p.length ++ p) with same | ⟨-, written⟩
    · exact .inl (congrArg Conn.out same)
    · refine .inr ⟨0x2, p, legal_data fits, ?_⟩
      rw [written]
      exact congrArg (fun bytes => c.out ++ [bytes]) (encodeHeader_append 0x2 p)

/-- What the goroutines write of a slice is what `Write` does. -/
theorem writeData_flatten (c : Conn) (p : Slice) :
    (c.writeData p.bytes).out.flatten = (c.writeBinary p).2.out.flatten := by
  obtain ⟨bytes, fits⟩ := p
  cases bytes with
  | nil => rfl
  | cons first rest =>
      cases err : c.writeErr with
      | some err => simp [writeData, writeBinary, writeTo, write, err]
      | none =>
          have written := @writeTo_accepts c err [encodeHeader opBinary (first :: rest).length, first :: rest]
          rw [List.length_cons] at written
          simp [writeData, writeBinary, written, write, err]

end Conn

namespace System

open Machine

variable {s : System} {ka : KeepAlive}

theorem emits_startRead (n : Nat) : Emits s.conn (s.startRead n).conn := by
  unfold startRead
  split
  · split <;> exact .inl rfl
  · exact .inl rfl

theorem emits_readHeader (n : Nat) : Emits s.conn (s.readHeader n).conn := by
  obtain ⟨r, key, only⟩ := s.conn.readHeader_only
  unfold readHeader
  rcases reads : s.conn.readHeader with ⟨err | ⟨opcode, masked, length⟩, c⟩ <;> rw [reads] at only <;>
    obtain rfl := only
  · dsimp only
    split <;> exact .inl rfl
  · exact .inl rfl

theorem emits_storeActivity (n : Nat) (opcode : UInt8) (masked : Bool) (length time : Nat) :
    Emits s.conn (s.storeActivity n opcode masked length time).conn := by
  unfold storeActivity
  split
  · exact .inl rfl
  · split <;> exact .inl rfl

theorem emits_handleControl {n : Nat} {opcode : UInt8} {payload : Bytes} {r : Reader UInt8} :
    Emits s.conn
      (({ s with conn := { s.conn with r := r } } : System).handleControl n opcode payload).conn := by
  unfold handleControl
  split
  · exact .inl rfl
  · split <;> exact .inl rfl

theorem emits_readControl (n : Nat) (opcode : UInt8) (masked : Bool) (length : Nat) :
    Emits s.conn (s.readControl n opcode masked length).conn := by
  obtain ⟨r, only⟩ := s.conn.readControlPayload_only masked length
  unfold readControl
  rcases reads : s.conn.readControlPayload masked length with ⟨err | payload, c⟩ <;>
    rw [reads] at only <;> obtain rfl := only
  · dsimp only
    split
    · split
      · exact emits_handleControl
      · exact .inl rfl
    · exact .inl rfl
  · exact emits_handleControl

theorem emits_writePong (n : Nat) (payload : Bytes) : Emits s.conn (s.writePong n payload).conn := by
  have emits := s.conn.emits_pong payload
  unfold writePong
  rcases writes : s.conn.writeControl opPong payload with ⟨_ | err, c⟩ <;> rw [writes] at emits
  · exact emits
  · exact emits

theorem emits_readData (n : Nat) : Emits s.conn (s.readData n).conn := by
  unfold readData
  rcases s.conn.r.read (min n s.conn.frameRemaining) with ⟨⟨bytes, err⟩, r⟩
  dsimp only
  split
  · exact .inl rfl
  · split <;> exact .inl rfl

theorem emits_recordError (err : GoError) : Emits s.conn (s.recordError err).conn := by
  cases err <;> exact .inl rfl

theorem emits_reader : Emits s.conn s.readerStep.conn := by
  unfold readerStep
  cases s.reader with
  | header n => exact emits_readHeader n
  | store n opcode masked length time => exact emits_storeActivity n opcode masked length time
  | control n opcode masked length => exact emits_readControl n opcode masked length
  | pong n payload => exact emits_writePong n payload
  | fail err => exact emits_recordError err
  | closing code first => exact s.conn.emits_writeClose _ _
  | data n => exact emits_readData n
  | _ => exact .inl rfl

theorem emits_keeper : Emits s.conn (s.keeperStep ka).conn := by
  unfold keeperStep
  cases s.keeper with
  | loaded last =>
      dsimp only
      split <;> exact .inl rfl
  | sleeping deadline =>
      dsimp only
      split <;> exact .inl rfl
  | ping =>
      have emits := s.conn.emits_ping []
      dsimp only
      rcases writes : s.conn.writeControl opPing [] with ⟨_ | err, c⟩ <;> rw [writes] at emits
      · exact emits
      · exact emits
  | waiting pingedAt deadline =>
      dsimp only
      split <;> exact .inl rfl
  | closing => exact s.conn.emits_writeClose _ _
  | _ => exact .inl rfl

theorem emits_keeperDone : Emits s.conn s.keeperDone.conn := by
  unfold keeperDone
  split
  · split <;> exact .inl rfl
  · split <;> exact .inl rfl
  · exact .inl rfl

theorem emits_closer : Emits s.conn s.closerStep.conn := by
  unfold closerStep
  cases s.closer with
  | closing => exact s.conn.emits_writeClose _ _
  | _ => exact .inl rfl

/-- What is written with `Write` is a slice. -/
def Fits : Act → Prop
  | .write p => p.length ≤ maxInt64
  | _ => True

theorem emits_step {a : Act} (fits : Fits a) : Emits s.conn (s.step ka a).conn := by
  cases a with
  | arrive segment =>
      simp only [step]
      split <;> exact .inl rfl
  | read n => exact emits_startRead n
  | write p => exact s.conn.emits_writeData fits
  | ping payload => exact s.conn.emits_ping payload
  | pong payload => exact s.conn.emits_pong payload
  | close =>
      simp only [step, startClose]
      split <;> exact .inl rfl
  | reader => exact emits_reader
  | keeper => exact emits_keeper
  | keeperDone => exact emits_keeperDone
  | closer => exact emits_closer
  | _ => exact .inl rfl

/-- What is on the wire is legal frames of a server. -/
def Framed (s : System) : Prop :=
  ∃ frames : List WebSocket.Frame, (∀ f ∈ frames, f.Legal ∧ f.fin = true ∧ f.key = none) ∧
    s.conn.out = frames.map WebSocket.Frame.bytes

theorem framed_step {a : Act} (framed : s.Framed) (fits : Fits a) : (s.step ka a).Framed := by
  obtain ⟨frames, legal, out⟩ := framed
  rcases @emits_step s ka a fits with same | ⟨opcode, payload, one, written⟩
  · exact ⟨frames, legal, same.trans out⟩
  · refine ⟨frames ++ [serverFrame opcode payload], ?_, ?_⟩
    · intro f mem
      rcases List.mem_append.mp mem with mem | mem
      · exact legal f mem
      · obtain rfl := List.mem_singleton.mp mem
        exact ⟨one, rfl, rfl⟩
    · rw [written, out, List.map_append, List.map_singleton]

/-- Whatever the goroutines do and in which order, what is written is read whole, as legal
frames of a server. -/
theorem drain_after (ka : KeepAlive) (r : Reader UInt8) (now : Nat) {actions : List Act}
    (fits : ∀ a ∈ actions, Fits a) :
    ∃ frames, (∀ f ∈ frames, f.Legal ∧ f.fin = true ∧ f.key = none) ∧
      grammar.drain (run (step ka) (new r now) actions).conn.out.flatten = .ok (frames, []) := by
  have framed : (run (step ka) (new r now) actions).Framed :=
    run_invariant_along (P := Framed) (fun _ _ framed fits => framed_step framed fits)
      ⟨[], fun f mem => absurd mem List.not_mem_nil, rfl⟩ (along_of_forall fits)
  obtain ⟨frames, legal, out⟩ := framed
  refine ⟨frames, legal, drain_iff.mpr ⟨fun f mem => (legal f mem).1, ?_⟩⟩
  rw [out, List.flatMap_def]

end System

end Go

end H2ts
