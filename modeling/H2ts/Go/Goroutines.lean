import H2ts.Go.Conn
import H2ts.Lib.Machine

/-!
# The goroutines of a Go connection

`Read`, `runKeepAlive` and `Close` run on goroutines of their own, next to any number of
calls of `Write`, `Ping` and `Pong`.  They share the connection.  What happens between two
accesses to it is one step: a frame is written at once, as `writeMu` says, and the reason of
a close is recorded at once, as `reasonMu` says.  An action picks who goes on; one that
cannot go on does nothing.

Bytes arrive while the goroutines run, so a read may block.  It blocks as long as what has
arrived is too short, unless the transport has ended.
-/

namespace H2ts

namespace Go

open Bufio

structure KeepAlive where
  interval : Int
  timeout : Int
  close : CloseFrame
deriving DecidableEq, Repr

def closeNormal : UInt16 := 1000

namespace Conn

/-- The header of a frame with `n` bytes of payload. -/
def encodeHeader (opcode : UInt8) (n : Nat) : Bytes :=
  if n ≤ 125 then [0x80 ||| opcode, UInt8.ofNat n]
  else if n ≤ 65535 then [0x80 ||| opcode, 126] ++ BigEndian.be16 (UInt16.ofNat n)
  else [0x80 ||| opcode, 127] ++ BigEndian.be32 (UInt32.ofNat (n / 2 ^ 32)) ++
    BigEndian.be32 (UInt32.ofNat n)

/-- `Write`: one binary frame. -/
def writeData (c : Conn) (p : Bytes) : Conn :=
  if p.isEmpty then c else (c.write (encodeHeader opBinary p.length ++ p)).2

/-! What reads and writes change of a connection. -/

theorem readFull_only (c : Conn) (n : Nat) : ∃ r, (c.readFull n).2 = { c with r := r } := by
  unfold readFull
  rcases c.r.readFull n with ⟨⟨data, _ | err⟩, r⟩ <;> exact ⟨r, rfl⟩

theorem readLength_only (c : Conn) (short : UInt8) :
    ∃ r, (c.readLength short).2 = { c with r := r } := by
  unfold readLength
  split
  · obtain ⟨r, only⟩ := c.readFull_only 2
    rcases reads : c.readFull 2 with ⟨err | ext, c'⟩ <;> rw [reads] at only <;> exact ⟨r, only⟩
  · split
    · obtain ⟨r, only⟩ := c.readFull_only 8
      rcases reads : c.readFull 8 with ⟨err | ext, c'⟩ <;> rw [reads] at only
      · exact ⟨r, only⟩
      · dsimp only
        split <;> exact ⟨r, only⟩
    · exact ⟨c.r, rfl⟩

theorem readHeader_only (c : Conn) :
    ∃ r key, (c.readHeader).2 = { c with r := r, maskKey := key } := by
  unfold readHeader
  obtain ⟨r, only⟩ := c.readFull_only 2
  rcases first : c.readFull 2 with ⟨err | h, c₁⟩ <;> rw [first] at only <;> obtain rfl := only
  · exact ⟨r, c.maskKey, rfl⟩
  · dsimp only
    split
    · exact ⟨r, c.maskKey, rfl⟩
    · split
      · exact ⟨r, c.maskKey, rfl⟩
      · obtain ⟨r₂, only⟩ := ({ c with r := r } : Conn).readLength_only (h.getD 1 0 &&& 0x7F)
        rcases lengths : ({ c with r := r } : Conn).readLength (h.getD 1 0 &&& 0x7F) with
          ⟨err | length, c₂⟩ <;> rw [lengths] at only <;> obtain rfl := only
        · exact ⟨r₂, c.maskKey, rfl⟩
        · dsimp only
          split
          · exact ⟨r₂, c.maskKey, rfl⟩
          · obtain ⟨r₃, only⟩ := ({ c with r := r₂ } : Conn).readFull_only 4
            rcases last : ({ c with r := r₂ } : Conn).readFull 4 with ⟨err | key, c₃⟩ <;>
              rw [last] at only <;> obtain rfl := only
            · exact ⟨r₃, c.maskKey, rfl⟩
            · exact ⟨r₃, _, rfl⟩

theorem readControlPayload_only (c : Conn) (masked : Bool) (length : Nat) :
    ∃ r, (c.readControlPayload masked length).2 = { c with r := r } := by
  unfold readControlPayload
  split
  · exact ⟨c.r, rfl⟩
  · obtain ⟨r, only⟩ := c.readFull_only length
    rcases reads : c.readFull length with ⟨err | buf, c'⟩ <;> rw [reads] at only <;> exact ⟨r, only⟩

/-- A frame is written if the transport takes it. -/
theorem write_cases (c : Conn) (frame : Bytes) :
    (c.write frame).2 = c ∨
      c.writeErr = none ∧ (c.write frame).2 = { c with out := c.out ++ [frame] } := by
  unfold write
  cases err : c.writeErr with
  | some err => exact .inl rfl
  | none => exact .inr ⟨rfl, rfl⟩

theorem writeControl_cases (c : Conn) (opcode : UInt8) (payload : Bytes) :
    (c.writeControl opcode payload).2 = c ∨ payload.length ≤ 125 ∧ c.writeErr = none ∧
      (c.writeControl opcode payload).2 = { c with out := c.out ++ [controlFrame opcode payload] } := by
  unfold writeControl
  split
  · exact .inl rfl
  · rename_i short
    rcases c.write_cases (controlFrame opcode payload) with same | ⟨fine, written⟩
    · exact .inl same
    · exact .inr ⟨Nat.le_of_not_lt short, fine, written⟩

end Conn

/-- Where a `Read` stands, with the size of its buffer. -/
inductive Reading where
  /-- No call is under way. -/
  | outside
  | header (n : Nat)
  /-- The header is read, and `touch` is to look at the clock. -/
  | touch (n : Nat) (opcode : UInt8) (masked : Bool) (length : Nat)
  | store (n : Nat) (opcode : UInt8) (masked : Bool) (length : Nat) (time : Nat)
  /-- The payload of a control frame is to be read. -/
  | control (n : Nat) (opcode : UInt8) (masked : Bool) (length : Nat)
  | pong (n : Nat) (payload : Bytes)
  /-- `readErr` is to record an error. -/
  | fail (err : GoError)
  /-- A pong could not be written. -/
  | quit (err : GoError)
  /-- The peer's close is to be recorded. -/
  | settle (code : UInt16) (reason : Bytes)
  /-- A Close is to be written; whether the reason was the first one, nobody looks at. -/
  | closing (code : UInt16) (first : Bool)
  | data (n : Nat)
deriving DecidableEq, Repr

/-- Where `runKeepAlive` stands. -/
inductive Keeping where
  | head
  | loaded (last : Nat)
  | sleeping (deadline : Nat)
  | ping
  /-- The ping is written, and `pingedAt` is to be read off the clock. -/
  | pinged
  | stamped (pingedAt : Nat)
  | waiting (pingedAt deadline : Nat)
  | expired (pingedAt deadline : Nat)
  /-- The peer has timed out. -/
  | settle
  | closing
  | hangUp
  | stopped
deriving DecidableEq, Repr

/-- Where the one call of `Close` stands that gets through `closeOnce`. -/
inductive Closing where
  | idle
  | settle
  | closing
  | hangUp
  | done
deriving DecidableEq, Repr

/-- What happened since the last keepalive ping. -/
inductive Mark where
  /-- A frame header was stamped. -/
  | header (stamp : Nat)
  /-- `Read` returned data, or a control frame was handled. -/
  | progress (time : Nat)
deriving DecidableEq, Repr

structure System where
  conn : Conn
  /-- What a read of the transport fails with when nothing is left. -/
  ended : Option GoError
  reader : Reading
  keeper : Keeping
  closer : Closing
  /-- The channel that stops the keepalive is closed. -/
  done : Bool
  since : List Mark

inductive Act where
  | tick (passed : Nat)
  /-- Bytes arrive. -/
  | arrive (segment : Segment UInt8)
  /-- The peer ends its side, or reads of the transport fail. -/
  | finish (err : GoError)
  /-- Writes fail from now on. -/
  | fault (err : GoError)
  /-- A call of `Read`. -/
  | read (n : Nat)
  | write (p : Bytes)
  | ping (payload : Bytes)
  | pong (payload : Bytes)
  /-- A call of `Close`. -/
  | close
  /-- `ServeConn` is back, and the channel is closed. -/
  | done
  /-- The goroutines go on. -/
  | reader
  | keeper
  /-- The keepalive sees the closed channel. -/
  | keeperDone
  | closer

namespace System

def closedConn : GoError := .other "use of closed network connection"

/-- `conn.Close()` on the transport. -/
def hangUp (s : System) : System :=
  { s with
    conn := { s.conn with writeErr := some (s.conn.writeErr.getD closedConn) }
    ended := some (s.ended.getD closedConn) }

/-- What a failed read comes to; `none` if it blocks. -/
def failure (s : System) (err : GoError) : Option GoError :=
  match err, s.ended with
  | .protocol message, _ => some (.protocol message)
  | _, none => none
  | err, some .eof => some err
  | _, some ended => some ended

def progress (s : System) : System := { s with since := s.since ++ [Mark.progress s.conn.now] }

/-! ## Read -/

/-- The loop of `Read`: to the payload, or to the next frame. -/
def advance (s : System) (n : Nat) : System :=
  { s with reader := if s.conn.frameRemaining = 0 then .header n else .data n }

def startRead (s : System) (n : Nat) : System :=
  match s.reader with
  | .outside => if n = 0 then s else s.advance n
  | _ => s

def readHeader (s : System) (n : Nat) : System :=
  match s.conn.readHeader with
  | (.ok (opcode, masked, length), c) => { s with conn := c, reader := .touch n opcode masked length }
  | (.error err, c) =>
      match s.failure err with
      | some err => { s with conn := c, reader := .fail err }
      | none => s

/-- The stamp is stored, and the opcode decides. -/
def storeActivity (s : System) (n : Nat) (opcode : UInt8) (masked : Bool) (length time : Nat) :
    System :=
  let s := { s with
    conn := { s.conn with lastActivity := time }
    since := s.since ++ [Mark.header time] }
  if opcode = opBinary || opcode = opText || opcode = opContinuation then
    { s with conn := { s.conn with frameRemaining := length, maskPos := 0 } }.advance n
  else if opcode = opPing || opcode = opPong || opcode = opClose then
    { s with reader := .control n opcode masked length }
  else { s with reader := .fail (Conn.reservedOpcode opcode) }

/-- A control frame is there. -/
def handleControl (s : System) (n : Nat) (opcode : UInt8) (payload : Bytes) : System :=
  if opcode = opPing then { s with reader := .pong n payload }.progress
  else if opcode = opPong then
    { s with conn := s.conn.observe opPong payload, reader := .header n }.progress
  else
    { s with reader := .settle (Conn.parseClose payload).1 (Conn.parseClose payload).2 }.progress

def readControl (s : System) (n : Nat) (opcode : UInt8) (masked : Bool) (length : Nat) : System :=
  match s.conn.readControlPayload masked length with
  | (.ok payload, c) => { s with conn := c }.handleControl n opcode payload
  | (.error err, c) =>
      match s.failure err with
      | some err =>
          -- the error of a Close is ignored
          if opcode = opClose then { s with conn := c }.handleControl n opcode []
          else { s with conn := c, reader := .fail err }
      | none => s

def writePong (s : System) (n : Nat) (payload : Bytes) : System :=
  match s.conn.writeControl opPong payload with
  | (some err, c) => { s with conn := c, reader := .quit err }
  | (none, c) => { s with conn := c.observe opPing payload, reader := .header n }.progress

/-- `readErr` up to the Close that it may write. -/
def recordError (s : System) (err : GoError) : System :=
  match err with
  | .protocol message =>
      { s with
        conn := s.conn.setReason ⟨closeProtocolError, Utf8.octets message⟩
        reader := .closing closeProtocolError s.conn.reason.isNone }
  | .eof => { s with conn := s.conn.setReason ⟨closeAbnormal, []⟩, reader := .outside }
  | err =>
      { s with conn := s.conn.setReason ⟨closeAbnormal, Utf8.octets err.error⟩, reader := .outside }

def readData (s : System) (n : Nat) : System :=
  match s.conn.r.read (min n s.conn.frameRemaining) with
  | ((data, err), r) =>
      if 0 < data.length then
        let (data, c) := { s.conn with r := r }.unmask data
        { s with
          conn := { c with frameRemaining := c.frameRemaining - data.length }
          reader := .outside }.progress
      else
        match s.failure ((err.map .ofRead).getD .unexpectedEof) with
        | some err => { s with conn := { s.conn with r := r }, reader := .fail err }
        | none => s

def readerStep (s : System) : System :=
  match s.reader with
  | .outside => s
  | .header n => s.readHeader n
  | .touch n opcode masked length => { s with reader := .store n opcode masked length s.conn.now }
  | .store n opcode masked length time => s.storeActivity n opcode masked length time
  | .control n opcode masked length => s.readControl n opcode masked length
  | .pong n payload => s.writePong n payload
  | .fail err => s.recordError err
  | .quit err =>
      { s with conn := s.conn.setReason ⟨closeAbnormal, Utf8.octets err.error⟩, reader := .outside }
  | .settle code reason =>
      { s with
        conn := s.conn.setReason ⟨code, reason⟩
        reader := .closing code s.conn.reason.isNone }
  | .closing code _ => { s with conn := (s.conn.writeClose code []).2, reader := .outside }
  | .data n => s.readData n

/-! ## runKeepAlive and Close -/

/-- One step of `runKeepAlive`.  When a timer of `sleepOrDone` has fired and the channel is
closed, `keeperStep` and `keeperDone` are both possible. -/
def keeperStep (ka : KeepAlive) (s : System) : System :=
  match s.keeper with
  | .head => { s with keeper := .loaded s.conn.lastActivity }
  | .loaded last =>
      if (s.conn.now : Int) - last < ka.interval then
        { s with keeper := .sleeping (s.conn.now + (ka.interval - (s.conn.now - last)).toNat) }
      else { s with keeper := .ping }
  | .sleeping deadline => if deadline ≤ s.conn.now then { s with keeper := .head } else s
  | .ping =>
      match s.conn.writeControl opPing [] with
      | (some _, c) => { s with conn := c, keeper := .stopped }
      | (none, c) => { s with conn := c, keeper := .pinged, since := [] }
  | .pinged => { s with keeper := .stamped s.conn.now }
  | .stamped pingedAt => { s with keeper := .waiting pingedAt (s.conn.now + ka.timeout.toNat) }
  | .waiting pingedAt deadline =>
      if deadline ≤ s.conn.now then { s with keeper := .expired pingedAt deadline } else s
  | .expired pingedAt _ =>
      { s with keeper := if s.conn.lastActivity ≤ pingedAt then .settle else .head }
  | .settle =>
      { s with
        conn := s.conn.setReason ka.close
        keeper := if s.conn.reason.isNone then .closing else .hangUp }
  | .closing =>
      { s with conn := (s.conn.writeClose ka.close.code ka.close.reason).2, keeper := .hangUp }
  | .hangUp => { s.hangUp with keeper := .stopped }
  | .stopped => s

def keeperDone (s : System) : System :=
  match s.keeper with
  | .sleeping _ => if s.done then { s with keeper := .stopped } else s
  | .waiting _ _ => if s.done then { s with keeper := .stopped } else s
  | _ => s

def closerStep (s : System) : System :=
  match s.closer with
  | .idle => s
  | .settle =>
      { s with
        conn := s.conn.setReason ⟨closeNormal, []⟩
        closer := if s.conn.reason.isNone then .closing else .hangUp }
  | .closing => { s with conn := (s.conn.writeClose closeNormal []).2, closer := .hangUp }
  | .hangUp => { s.hangUp with closer := .done }
  | .done => s

/-- The first call of `Close` is the one that `closeOnce` lets through. -/
def startClose (s : System) : System :=
  match s.closer with
  | .idle => { s with closer := .settle }
  | _ => s

/-! ## Runs -/

def step (ka : KeepAlive) (s : System) : Act → System
  | .tick passed => { s with conn := { s.conn with now := s.conn.now + passed } }
  | .arrive segment =>
      match s.ended with
      | none =>
          let r := { s.conn.r with segments := s.conn.r.segments ++ [segment] }
          { s with conn := { s.conn with r := r } }
      | some _ => s
  | .finish err => { s with ended := some (s.ended.getD err) }
  | .fault err => { s with conn := { s.conn with writeErr := some (s.conn.writeErr.getD err) } }
  | .read n => s.startRead n
  | .write p => { s with conn := s.conn.writeData p }
  | .ping payload => { s with conn := (s.conn.writeControl opPing payload).2 }
  | .pong payload => { s with conn := (s.conn.writeControl opPong payload).2 }
  | .close => s.startClose
  | .done => { s with done := true }
  | .reader => s.readerStep
  | .keeper => s.keeperStep ka
  | .keeperDone => s.keeperDone
  | .closer => s.closerStep

/-- A connection after the handshake, with what has arrived so far. -/
def new (r : Reader UInt8) (now : Nat) : System where
  conn := newConn r none now
  ended := none
  reader := .outside
  keeper := .head
  closer := .idle
  done := false
  since := []

/-! ## The reader alone

When all input has arrived and no other goroutine moves, a call of `Read` is the sequential
one of `Conn`. -/

/-- The reader alone gets to a state of this kind. -/
def Leads (s : System) (P : System → Prop) : Prop := ∃ k, P (readerStep^[k] s)

variable {s t : System} {n : Nat} {P Q : System → Prop}

theorem Leads.here (holds : P s) : s.Leads P := ⟨0, holds⟩

theorem Leads.step (next : s.readerStep = t) (later : t.Leads P) : s.Leads P := by
  obtain ⟨k, holds⟩ := later
  refine ⟨k + 1, ?_⟩
  rw [Function.iterate_succ_apply, next]
  exact holds

theorem Leads.trans (first : s.Leads P) (later : ∀ t, P t → t.Leads Q) : s.Leads Q := by
  obtain ⟨k, holds⟩ := first
  obtain ⟨m, holds⟩ := later _ holds
  refine ⟨m + k, ?_⟩
  rw [Function.iterate_add_apply]
  exact holds

theorem failure_eof (ended : s.ended = some .eof) (err : GoError) : s.failure err = some err := by
  unfold failure
  rw [ended]
  cases err <;> rfl

/-- Where the reader stands when `nextFrame` is done with a frame. -/
def stand (n : Nat) (c : Conn) : Option (Option GoError) → Reading
  | none => .header n
  | some none => if c.frameRemaining = 0 then .header n else .data n
  | some (some _) => .outside

/-- The reader is done with a frame, as `nextFrame` is. -/
structure Done (n : Nat) (result : Option (Option GoError) × Conn) (s : System) : Prop where
  conn : s.conn = result.2
  reader : s.reader = stand n result.2 result.1
  ended : s.ended = some .eof

theorem leads_fail {err : GoError} (ended : s.ended = some .eof) (fails : s.reader = .fail err) :
    s.Leads (Done n (some (some (s.conn.readErr err).1), (s.conn.readErr err).2)) := by
  have next : s.readerStep = s.recordError err := by rw [readerStep, fails]
  refine .step next ?_
  cases err with
  | protocol message => exact .step rfl (.here ⟨rfl, rfl, ended⟩)
  | eof => exact .here ⟨rfl, rfl, ended⟩
  | unexpectedEof => exact .here ⟨rfl, rfl, ended⟩
  | other text => exact .here ⟨rfl, rfl, ended⟩

theorem leads_control {opcode : UInt8} {masked : Bool} {length : Nat}
    (ended : s.ended = some .eof) (control : s.reader = .control n opcode masked length)
    (known : opcode = opPing ∨ opcode = opPong ∨ opcode = opClose) :
    s.Leads (Done n (s.conn.handleFrame opcode masked length)) := by
  have next : s.readerStep = s.readControl n opcode masked length := by rw [readerStep, control]
  refine .step next ?_
  unfold readControl Conn.handleFrame
  rcases known with rfl | rfl | rfl
  · rw [if_neg (by decide), if_pos rfl]
    rcases s.conn.readControlPayload masked length with ⟨err | payload, c⟩
    · simp only [failure_eof ended]
      rw [if_neg (by decide)]
      exact leads_fail ended rfl
    · dsimp only
      rw [handleControl, if_pos rfl]
      refine .step (t := writePong _ n payload) rfl ?_
      unfold writePong
      show Leads (match c.writeControl opPong payload with
        | (some err, c) => _
        | (none, c) => _) _
      rcases c.writeControl opPong payload with ⟨_ | err, c'⟩
      · exact .here ⟨rfl, rfl, ended⟩
      · exact .step rfl (.here ⟨rfl, rfl, ended⟩)
  · rw [if_neg (by decide), if_neg (by decide), if_pos rfl]
    rcases s.conn.readControlPayload masked length with ⟨err | payload, c⟩
    · simp only [failure_eof ended]
      rw [if_neg (by decide)]
      exact leads_fail ended rfl
    · dsimp only
      rw [handleControl, if_neg (by decide), if_pos rfl]
      exact .here ⟨rfl, rfl, ended⟩
  · rw [if_neg (by decide), if_neg (by decide), if_neg (by decide), if_pos rfl]
    rcases s.conn.readControlPayload masked length with ⟨err | payload, c⟩
    · simp only [failure_eof ended, if_true]
      rw [handleControl, if_neg (by decide), if_neg (by decide)]
      exact .step rfl (.step rfl (.here ⟨rfl, rfl, ended⟩))
    · dsimp only
      rw [handleControl, if_neg (by decide), if_neg (by decide)]
      exact .step rfl (.step rfl (.here ⟨rfl, rfl, ended⟩))

theorem leads_store {opcode : UInt8} {masked : Bool} {length : Nat} (ended : s.ended = some .eof)
    (store : s.reader = .store n opcode masked length s.conn.now) :
    s.Leads (Done n (s.conn.touch.handleFrame opcode masked length)) := by
  have next : s.readerStep = s.storeActivity n opcode masked length s.conn.now := by
    rw [readerStep, store]
  refine .step next ?_
  by_cases data : (opcode = opBinary || opcode = opText || opcode = opContinuation) = true
  · have handled : s.conn.touch.handleFrame opcode masked length =
        (some none, { s.conn.touch with frameRemaining := length, maskPos := 0 }) := if_pos data
    rw [storeActivity, if_pos data, handled]
    exact .here ⟨rfl, rfl, ended⟩
  · by_cases known : (opcode = opPing || opcode = opPong || opcode = opClose) = true
    · rw [storeActivity, if_neg data, if_pos known]
      exact leads_control ended rfl (by simpa [or_assoc] using known)
    · have handled : s.conn.touch.handleFrame opcode masked length =
          (some (some (s.conn.touch.readErr (Conn.reservedOpcode opcode)).1),
            (s.conn.touch.readErr (Conn.reservedOpcode opcode)).2) := by
        simp only [Bool.or_eq_true, decide_eq_true_eq, not_or] at known
        rw [Conn.handleFrame, if_neg data, if_neg known.1.1, if_neg known.1.2, if_neg known.2]
      rw [storeActivity, if_neg data, if_neg known, handled]
      exact leads_fail ended rfl

/-- A round of `nextDataFrame`. -/
theorem leads_nextFrame (ended : s.ended = some .eof) (header : s.reader = .header n) :
    s.Leads (Done n s.conn.nextFrame) := by
  have next : s.readerStep = s.readHeader n := by rw [readerStep, header]
  refine .step next ?_
  unfold readHeader Conn.nextFrame
  rcases s.conn.readHeader with ⟨err | ⟨opcode, masked, length⟩, c⟩
  · simp only [failure_eof ended]
    exact leads_fail ended rfl
  · exact .step rfl (leads_store ended rfl)

theorem leads_nextDataFrame (c : Conn) : ∀ s : System, s.conn = c → s.ended = some .eof →
    s.reader = .header n → s.Leads (Done n (some c.nextDataFrame.1, c.nextDataFrame.2)) := by
  induction c using Conn.nextDataFrame.induct with
  | case1 c result c' step =>
      rintro s rfl ended header
      rw [Conn.nextDataFrame, step]
      simpa only [step] using leads_nextFrame ended header
  | case2 c c' step ih =>
      rintro s rfl ended header
      rw [Conn.nextDataFrame, step]
      refine (leads_nextFrame ended header).trans fun t done => ?_
      rw [step] at done
      exact ih t done.conn done.ended done.reader

/-- The reader stands before the payload, or is back with an error. -/
structure Awaited (n : Nat) (result : Option GoError × Conn) (s : System) : Prop where
  conn : s.conn = result.2
  reader : s.reader = if result.1 = none then .data n else .outside
  ended : s.ended = some .eof

theorem leads_awaitData (c : Conn) : ∀ s : System, s.conn = c → s.ended = some .eof →
    s.reader = (if c.frameRemaining = 0 then .header n else .data n) →
    s.Leads (Awaited n c.awaitData) := by
  induction c using Conn.awaitData.induct with
  | case1 c idle err c' step =>
      rintro s rfl ended reader
      rw [if_pos idle] at reader
      rw [Conn.awaitData, if_pos idle, step]
      refine (leads_nextDataFrame _ s rfl ended reader).trans fun t done => .here ?_
      rw [step] at done
      exact ⟨done.conn, done.reader, done.ended⟩
  | case2 c idle c' step ih =>
      rintro s rfl ended reader
      rw [if_pos idle] at reader
      rw [Conn.awaitData, if_pos idle, step]
      refine (leads_nextDataFrame _ s rfl ended reader).trans fun t done => ?_
      rw [step] at done
      exact ih t done.conn done.ended done.reader
  | case3 c busy =>
      rintro s rfl ended reader
      rw [if_neg busy] at reader
      rw [Conn.awaitData, if_neg busy]
      exact .here ⟨rfl, reader, ended⟩

/-- A whole call of `Read`. -/
theorem leads_read (ended : s.ended = some .eof) (outside : s.reader = .outside) (n : Nat) :
    (s.startRead n).Leads fun t => t.conn = (s.conn.read n).2 ∧ t.reader = .outside := by
  unfold startRead Conn.read
  rw [outside]
  by_cases zero : n = 0
  · simp only [if_pos zero]
    exact .here ⟨rfl, outside⟩
  · simp only [if_neg zero]
    refine (leads_awaitData s.conn (s.advance n) rfl ended rfl).trans fun t awaited => ?_
    rcases found : s.conn.awaitData with ⟨_ | err, c⟩ <;> rw [found] at awaited
    · have next : t.readerStep = t.readData n := by rw [readerStep, awaited.reader]; rfl
      refine .step next ?_
      unfold readData
      simp only [awaited.conn]
      rcases c.r.read (min n c.frameRemaining) with ⟨⟨data, err⟩, r⟩
      by_cases some : 0 < data.length
      · simp only [if_pos some]
        exact .here ⟨rfl, rfl⟩
      · simp only [if_neg some, failure_eof awaited.ended]
        refine Leads.trans (leads_fail (n := n) ?_ rfl) fun u done => .here ⟨done.conn, done.reader⟩
        exact awaited.ended
    · exact .here ⟨awaited.conn, awaited.reader⟩

end System

end Go

end H2ts
