import H2ts.Go.Goroutines

/-!
# Nothing follows a Close

Whoever ends the connection first records a reason and, in `Close` and `runKeepAlive`, only
the first one writes a Close frame.  `Read` writes its Close in any case, and data frames,
pings and pongs are written whether or not a Close is out.

What tells whether a Close may be out is the reason: a goroutine records it before it writes
its Close, and a failed read records a reason of its own, without a Close (`quiet`).  So a run
leaves the Close as the last frame if nothing else is written to an open transport once there is
a reason with a Close, unless its goroutine has yet to write that, and if `Read` writes a Close
only where its reason is the first (`final_after`).
-/

namespace H2ts

namespace Go

open Bufio Machine

/-- It starts as a Close does. -/
def isClose (frame : Bytes) : Bool := frame.head? == some 0x88

/-- At most one Close was written, and no frame after it. -/
structure Final (out : List Bytes) : Prop where
  once : out.countP isClose ≤ 1
  last : ∀ frame ∈ out.dropLast, isClose frame = false

namespace Reading

/-- It is to write a Close, and its reason was the first. -/
def claim : Reading → Nat
  | closing _ first => first.toNat
  | _ => 0

end Reading

namespace Keeping

def claim : Keeping → Nat
  | closing => 1
  | _ => 0

end Keeping

namespace Closing

def claim : Closing → Nat
  | closing => 1
  | _ => 0

end Closing

namespace System

/-- How many goroutines are to write a Close because their reason was the first. -/
def claims (s : System) : Nat := s.reader.claim + s.keeper.claim + s.closer.claim

/-- The step writes a data frame, a ping or a pong, if the transport takes it. -/
def plain (s : System) : Act → Bool
  | .write p => !p.isEmpty
  | .ping payload => payload.length ≤ 125
  | .pong payload => payload.length ≤ 125
  | .reader =>
      match s.reader with
      | .pong _ _ => true
      | _ => false
  | .keeper => s.keeper = .ping
  | _ => false

/-- `Read` writes a Close although another reason was the first. -/
def answers (s : System) : Act → Bool
  | .reader =>
      match s.reader with
      | .closing _ first => !first
      | _ => false
  | _ => false

/-- No Close goes with what is recorded: there is no reason yet, or a read has failed. -/
def quiet (s : System) : Bool := s.conn.reason.all fun reason => reason.code == closeAbnormal

/-- The reason of a Close is recorded with the code of a failed read, which no endpoint may
send. -/
def feigns (ka : KeepAlive) (s : System) : Act → Bool
  | .reader =>
      match s.reader with
      | .settle code _ => s.conn.reason.isNone && code == closeAbnormal
      | _ => false
  | .keeper => s.keeper = .settle && s.conn.reason.isNone && ka.close.code == closeAbnormal
  | _ => false

/-- On an open transport a data frame, a ping or a pong is written only as long as no Close goes
with the reason, or the goroutine that recorded it has yet to write its Close; and `Read` writes
no Close after another reason. -/
def Orderly (ka : KeepAlive) (s : System) (a : Act) : Prop :=
  s.feigns ka a = false ∧ (s.conn.writeErr = none →
    (s.plain a = true → s.quiet = true ∨ s.claims ≠ 0) ∧ s.answers a = false)

instance (ka : KeepAlive) (s : System) (a : Act) : Decidable (s.Orderly ka a) :=
  inferInstanceAs (Decidable (s.feigns ka a = false ∧ (s.conn.writeErr = none →
    (s.plain a = true → s.quiet = true ∨ s.claims ≠ 0) ∧ s.answers a = false)))

/-! ## What a step does to what was written -/

/-- A step keeps what was written, records the first reason, writes a frame that is no Close
while it may, or writes the Close of the first reason. -/
inductive Moves (s t : System) : Prop where
  | keeps (out : t.conn.out = s.conn.out) (reason : t.conn.reason = s.conn.reason)
      (claims : t.claims ≤ s.claims)
  | records (none : s.conn.reason = none) (some : t.conn.reason.isSome = true)
      (out : t.conn.out = s.conn.out) (claims : t.claims ≤ s.claims + 1)
      (silent : t.quiet = true → t.claims ≤ s.claims)
  | plain (frame : Bytes) (plain : isClose frame = false) (may : s.quiet = true ∨ s.claims ≠ 0)
      (out : t.conn.out = s.conn.out ++ [frame]) (reason : t.conn.reason = s.conn.reason)
      (claims : t.claims ≤ s.claims)
  | closes (frame : Bytes) (out : t.conn.out = s.conn.out ++ [frame])
      (reason : t.conn.reason = s.conn.reason) (claims : t.claims + 1 ≤ s.claims)

/-- What holds in every state of an orderly run: a Close that was written or is claimed belongs
to the first reason, and is none without a Close. -/
structure Settled (s : System) : Prop where
  claimed : s.conn.out.countP isClose + s.claims ≤ s.conn.reason.isSome.toNat
  silent : s.quiet = true → s.conn.out.countP isClose + s.claims = 0
  last : ∀ frame ∈ s.conn.out.dropLast, isClose frame = false

variable {s t : System} {ka : KeepAlive}

theorem quiet_congr (reason : t.conn.reason = s.conn.reason) : t.quiet = s.quiet := by
  rw [quiet, quiet, reason]

/-- While a frame may be written, no Close is out. -/
theorem Settled.unclosed (settled : s.Settled) (may : s.quiet = true ∨ s.claims ≠ 0) :
    s.conn.out.countP isClose = 0 := by
  have claimed := settled.claimed
  have bound : s.conn.reason.isSome.toNat ≤ 1 := Bool.toNat_le _
  rcases may with quiet | claims
  · have silent := settled.silent quiet
    omega
  · omega

theorem Settled.moves (settled : s.Settled) (moves : s.Moves t) : t.Settled := by
  have claimed := settled.claimed
  cases moves with
  | keeps out reason claims =>
      refine ⟨?_, fun quiet => ?_, by rw [out]; exact settled.last⟩
      · rw [out, reason]
        omega
      · have silent := settled.silent (quiet_congr reason ▸ quiet)
        rw [out]
        omega
  | records none some out claims silent =>
      rw [none, Option.isSome_none, Bool.toNat_false] at claimed
      refine ⟨?_, fun quiet => ?_, by rw [out]; exact settled.last⟩
      · rw [out, some, Bool.toNat_true]
        omega
      · have fewer := silent quiet
        rw [out]
        omega
  | plain frame plain may out reason claims =>
      have same : t.conn.out.countP isClose = s.conn.out.countP isClose := by
        rw [out, List.countP_append, List.countP_singleton, plain]
        rfl
      refine ⟨?_, fun quiet => ?_, ?_⟩
      · rw [same, reason]
        omega
      · have silent := settled.silent (quiet_congr reason ▸ quiet)
        rw [same]
        omega
      · rw [out, List.dropLast_concat]
        intro f mem
        simpa using List.countP_eq_zero.mp (settled.unclosed may) f mem
  | closes frame out reason claims =>
      have unclosed := settled.unclosed (.inr (by omega))
      refine ⟨?_, fun quiet => ?_, ?_⟩
      · have one : [frame].countP isClose ≤ 1 := List.countP_le_length
        rw [out, List.countP_append, reason]
        omega
      · have silent := settled.silent (quiet_congr reason ▸ quiet)
        omega
      · rw [out, List.dropLast_concat]
        intro f mem
        simpa using List.countP_eq_zero.mp unclosed f mem

/-! ## Every step is one of these -/

theorem Moves.refl : s.Moves s := .keeps rfl rfl le_rfl

/-- A reason is recorded, and the goroutine that does it claims a Close at most if it is the
first, and none with the code of a failed read. -/
theorem Moves.of_record {reason : CloseFrame} (conn : t.conn = s.conn.setReason reason)
    (claims : t.claims ≤ s.claims + s.conn.reason.isNone.toNat)
    (silent : s.conn.reason = none → reason.code = closeAbnormal → t.claims ≤ s.claims) :
    s.Moves t := by
  have out : t.conn.out = s.conn.out := by rw [conn]; rfl
  have recorded : t.conn.reason = s.conn.reason.or (some reason) := by rw [conn]; rfl
  cases known : s.conn.reason with
  | none =>
      rw [known] at claims recorded
      refine .records known (by rw [recorded]; rfl) out claims fun quiet => silent known ?_
      simpa [System.quiet, recorded] using quiet
  | some first =>
      rw [known] at claims recorded
      exact .keeps out (recorded.trans known.symm) claims

/-- A reason without a Close. -/
theorem Moves.of_silent {reason : CloseFrame} (conn : t.conn = s.conn.setReason reason)
    (claims : t.claims ≤ s.claims) : s.Moves t :=
  .of_record conn (Nat.le_add_right_of_le claims) fun _ _ => claims

/-- The Close of the first reason is written. -/
theorem Moves.of_close {code : UInt16} {reason : Bytes}
    (conn : t.conn = (s.conn.writeClose code reason).2) (claims : t.claims + 1 ≤ s.claims) :
    s.Moves t := by
  rw [Conn.writeClose] at conn
  rcases s.conn.writeControl_cases opClose (Conn.closePayload code reason) with
    same | ⟨-, -, written⟩
  · rw [same] at conn
    exact .keeps (by rw [conn]) (by rw [conn]) (by omega)
  · rw [written] at conn
    exact .closes _ (by rw [conn]) (by rw [conn]) claims

/-- A ping or a pong is written, while it may. -/
theorem Moves.of_control (opcode : UInt8) (payload : Bytes)
    (plain : isClose (Conn.controlFrame opcode payload) = false)
    (may : s.conn.writeErr = none → payload.length ≤ 125 → s.quiet = true ∨ s.claims ≠ 0)
    (out : t.conn.out = (s.conn.writeControl opcode payload).2.out)
    (reason : t.conn.reason = s.conn.reason) (claims : t.claims ≤ s.claims) : s.Moves t := by
  rcases s.conn.writeControl_cases opcode payload with same | ⟨short, fine, written⟩
  · exact .keeps (by rw [out, same]) reason claims
  · exact .plain _ plain (may fine short) (by rw [out, written]) reason claims

theorem reason_writeControl (c : Conn) (opcode : UInt8) (payload : Bytes) :
    (c.writeControl opcode payload).2.reason = c.reason := by
  rcases c.writeControl_cases opcode payload with same | ⟨-, -, written⟩
  · rw [same]
  · rw [written]

theorem isClose_encodeHeader (n : Nat) (p : Bytes) :
    isClose (Conn.encodeHeader opBinary n ++ p) = false := by
  unfold Conn.encodeHeader
  split
  · rfl
  · split <;> rfl

/-! ### Read -/

/-- The reader goes on to a state in which it claims nothing. -/
theorem claims_le (keeper : t.keeper = s.keeper) (closer : t.closer = s.closer)
    (none : t.reader.claim = 0) : t.claims ≤ s.claims := by
  unfold claims
  rw [keeper, closer, none]
  omega

/-- So does the keepalive. -/
theorem claims_le_keeper (reader : t.reader = s.reader) (closer : t.closer = s.closer)
    (none : t.keeper.claim = 0) : t.claims ≤ s.claims := by
  unfold claims
  rw [reader, closer, none]
  omega

theorem claim_advance (n : Nat) : (s.advance n).reader.claim = 0 := by
  unfold advance
  dsimp only
  split <;> rfl

theorem moves_startRead (n : Nat) : s.Moves (s.startRead n) := by
  unfold startRead
  split
  · split
    · exact .refl
    · exact .keeps rfl rfl (claims_le rfl rfl (claim_advance n))
  · exact .refl

theorem moves_readHeader (n : Nat) : s.Moves (s.readHeader n) := by
  obtain ⟨r, key, only⟩ := s.conn.readHeader_only
  unfold readHeader
  rcases reads : s.conn.readHeader with ⟨err | ⟨opcode, masked, length⟩, c⟩ <;> rw [reads] at only <;>
    obtain rfl := only
  · dsimp only
    split
    · exact .keeps rfl rfl (claims_le rfl rfl rfl)
    · exact .refl
  · exact .keeps rfl rfl (claims_le rfl rfl rfl)

theorem moves_storeActivity (n : Nat) (opcode : UInt8) (masked : Bool) (length time : Nat) :
    s.Moves (s.storeActivity n opcode masked length time) := by
  unfold storeActivity
  split
  · exact .keeps rfl rfl (claims_le rfl rfl (claim_advance n))
  · split <;> exact .keeps rfl rfl (claims_le rfl rfl rfl)

theorem moves_handleControl {n : Nat} {opcode : UInt8} {payload : Bytes} {r : Reader UInt8} :
    s.Moves (({ s with conn := { s.conn with r := r } } : System).handleControl n opcode payload) := by
  unfold handleControl
  split
  · exact .keeps rfl rfl (claims_le rfl rfl rfl)
  · split <;> exact .keeps rfl rfl (claims_le rfl rfl rfl)

theorem moves_readControl (n : Nat) (opcode : UInt8) (masked : Bool) (length : Nat) :
    s.Moves (s.readControl n opcode masked length) := by
  obtain ⟨r, only⟩ := s.conn.readControlPayload_only masked length
  unfold readControl
  rcases reads : s.conn.readControlPayload masked length with ⟨err | payload, c⟩ <;>
    rw [reads] at only <;> obtain rfl := only
  · dsimp only
    split
    · split
      · exact moves_handleControl
      · exact .keeps rfl rfl (claims_le rfl rfl rfl)
    · exact .refl
  · exact moves_handleControl

theorem moves_writePong {n : Nat} {payload : Bytes}
    (may : s.conn.writeErr = none → s.quiet = true ∨ s.claims ≠ 0) :
    s.Moves (s.writePong n payload) := by
  have reason := reason_writeControl s.conn opPong payload
  unfold writePong
  rcases writes : s.conn.writeControl opPong payload with ⟨_ | err, c⟩ <;> rw [writes] at reason
  · exact .of_control opPong payload rfl (fun fine _ => may fine) (by rw [writes]; rfl) reason
      (claims_le rfl rfl rfl)
  · exact .of_control opPong payload rfl (fun fine _ => may fine) (by rw [writes]) reason
      (claims_le rfl rfl rfl)

theorem moves_readData (n : Nat) : s.Moves (s.readData n) := by
  unfold readData
  rcases s.conn.r.read (min n s.conn.frameRemaining) with ⟨⟨bytes, err⟩, r⟩
  dsimp only
  split
  · exact .keeps rfl rfl (claims_le rfl rfl rfl)
  · split
    · exact .keeps rfl rfl (claims_le rfl rfl rfl)
    · exact .refl

theorem moves_recordError (err : GoError) : s.Moves (s.recordError err) := by
  cases err with
  | protocol message =>
      refine .of_record rfl ?_ fun _ abnormal => ?_
      · simp only [claims, recordError, Reading.claim]
        omega
      · have other : closeProtocolError ≠ closeAbnormal := by decide
        exact absurd abnormal other
  | _ => exact .of_silent rfl (claims_le rfl rfl rfl)

theorem moves_reader (orderly : s.Orderly ka .reader) : s.Moves s.readerStep := by
  unfold readerStep
  cases reader : s.reader with
  | outside => exact .refl
  | header n => exact moves_readHeader n
  | touch n opcode masked length =>
      exact .keeps rfl rfl (claims_le rfl rfl rfl)
  | store n opcode masked length time => exact moves_storeActivity n opcode masked length time
  | control n opcode masked length => exact moves_readControl n opcode masked length
  | pong n payload =>
      exact moves_writePong fun fine => (orderly.2 fine).1 (by simp [plain, reader])
  | fail err => exact moves_recordError err
  | quit err => exact .of_silent rfl (claims_le rfl rfl rfl)
  | settle code reason =>
      refine .of_record rfl ?_ fun none abnormal => ?_
      · simp only [claims, reader, Reading.claim]
        omega
      · have honest := orderly.1
        simp [feigns, reader, none, show code = closeAbnormal from abnormal] at honest
  | closing code first =>
      cases first with
      | true =>
          refine .of_close rfl ?_
          simp only [claims, reader, Reading.claim, Bool.toNat_true]
          omega
      | false =>
          -- the transport is closed, so that the frame is lost
          have closed : s.conn.writeErr ≠ none := by
            intro fine
            have late := (orderly.2 fine).2
            simp [answers, reader] at late
          have same : (s.conn.writeClose code []).2 = s.conn := by
            rcases s.conn.writeControl_cases opClose (Conn.closePayload code []) with same | ⟨-, fine, -⟩
            · exact same
            · exact absurd fine closed
          dsimp only
          rw [same]
          exact .keeps rfl rfl (claims_le rfl rfl rfl)
  | data n => exact moves_readData n

/-! ### The others -/

theorem moves_keeper (orderly : s.Orderly ka .keeper) : s.Moves (s.keeperStep ka) := by
  unfold keeperStep
  cases keeper : s.keeper with
  | head => exact .keeps rfl rfl (claims_le_keeper rfl rfl rfl)
  | loaded last =>
      dsimp only
      split <;> exact .keeps rfl rfl (claims_le_keeper rfl rfl rfl)
  | sleeping deadline =>
      dsimp only
      split
      · exact .keeps rfl rfl (claims_le_keeper rfl rfl rfl)
      · exact .refl
  | ping =>
      have reason := reason_writeControl s.conn opPing []
      have may (fine : s.conn.writeErr = none) : s.quiet = true ∨ s.claims ≠ 0 :=
        (orderly.2 fine).1 (decide_eq_true keeper)
      dsimp only
      rcases writes : s.conn.writeControl opPing [] with ⟨_ | err, c⟩ <;> rw [writes] at reason
      · exact .of_control opPing [] rfl (fun fine _ => may fine) (by rw [writes]) reason
          (claims_le_keeper rfl rfl rfl)
      · exact .of_control opPing [] rfl (fun fine _ => may fine) (by rw [writes]) reason
          (claims_le_keeper rfl rfl rfl)
  | pinged => exact .keeps rfl rfl (claims_le_keeper rfl rfl rfl)
  | stamped pingedAt => exact .keeps rfl rfl (claims_le_keeper rfl rfl rfl)
  | waiting pingedAt deadline =>
      dsimp only
      split
      · exact .keeps rfl rfl (claims_le_keeper rfl rfl rfl)
      · exact .refl
  | expired pingedAt deadline =>
      refine .keeps rfl rfl (claims_le_keeper rfl rfl ?_)
      dsimp only
      split <;> rfl
  | settle =>
      refine .of_record rfl ?_ fun none abnormal => ?_
      · simp only [claims, keeper]
        cases s.conn.reason with
        | none =>
            simp only [Option.isNone_none, if_true, Keeping.claim, Bool.toNat_true]
            omega
        | some first => simp [Keeping.claim]
      · have honest := orderly.1
        simp [feigns, keeper, none, show ka.close.code = closeAbnormal from abnormal] at honest
  | closing =>
      refine .of_close rfl ?_
      simp only [claims, keeper, Keeping.claim]
      omega
  | hangUp => exact .keeps rfl rfl (claims_le_keeper rfl rfl rfl)
  | stopped => exact .refl

theorem moves_keeperDone : s.Moves s.keeperDone := by
  unfold keeperDone
  cases keeper : s.keeper with
  | sleeping deadline =>
      dsimp only
      split
      · exact .keeps rfl rfl (claims_le_keeper rfl rfl rfl)
      · exact .refl
  | waiting pingedAt deadline =>
      dsimp only
      split
      · exact .keeps rfl rfl (claims_le_keeper rfl rfl rfl)
      · exact .refl
  | _ => exact .refl

theorem moves_closer : s.Moves s.closerStep := by
  unfold closerStep
  cases closer : s.closer with
  | idle => exact .refl
  | settle =>
      refine .of_record rfl ?_ fun _ abnormal => absurd abnormal (by decide)
      simp only [claims, closer]
      cases s.conn.reason with
      | none =>
          simp only [Option.isNone_none, if_true, Closing.claim, Bool.toNat_true]
          omega
      | some first => simp [Closing.claim]
  | closing =>
      refine .of_close rfl ?_
      simp only [claims, closer, Closing.claim]
      omega
  | hangUp => exact .keeps rfl rfl (by simp [claims, hangUp, closer, Closing.claim])
  | done => exact .refl

theorem moves_step {a : Act} (orderly : s.Orderly ka a) : s.Moves (s.step ka a) := by
  cases a with
  | tick passed => exact .keeps rfl rfl le_rfl
  | arrive segment =>
      simp only [step]
      split
      · exact .keeps rfl rfl le_rfl
      · exact .refl
  | finish err => exact .keeps rfl rfl le_rfl
  | fault err => exact .keeps rfl rfl le_rfl
  | read n => exact moves_startRead n
  | write p =>
      simp only [step, Conn.writeData]
      split
      · exact .refl
      · rename_i some
        rcases s.conn.write_cases (Conn.encodeHeader opBinary p.length ++ p) with
          same | ⟨fine, written⟩
        · rw [same]
          exact .refl
        · have may := (orderly.2 fine).1 (by simpa [plain] using some)
          rw [written]
          exact .plain _ (isClose_encodeHeader _ _) may rfl rfl le_rfl
  | ping payload =>
      exact .of_control opPing payload rfl
        (fun fine short => (orderly.2 fine).1 (decide_eq_true short)) rfl
        (reason_writeControl _ _ _) le_rfl
  | pong payload =>
      exact .of_control opPong payload rfl
        (fun fine short => (orderly.2 fine).1 (decide_eq_true short)) rfl
        (reason_writeControl _ _ _) le_rfl
  | close =>
      simp only [step, startClose]
      split
      · rename_i idle
        exact .keeps rfl rfl (by simp [claims, idle, Closing.claim])
      · exact .refl
  | done => exact .keeps rfl rfl le_rfl
  | reader => exact moves_reader orderly
  | keeper => exact moves_keeper orderly
  | keeperDone => exact moves_keeperDone
  | closer => exact moves_closer

theorem Settled.new (r : Reader UInt8) (now : Nat) : (new r now).Settled :=
  ⟨le_rfl, fun _ => rfl, fun _ mem => by cases mem⟩

theorem Settled.final (settled : s.Settled) : Final s.conn.out := by
  refine ⟨?_, settled.last⟩
  have claimed := settled.claimed
  have bound : s.conn.reason.isSome.toNat ≤ 1 := Bool.toNat_le _
  omega

/-- In every run whose steps are orderly, at most one Close is written, and no frame after
it. -/
theorem final_after (ka : KeepAlive) (r : Reader UInt8) (now : Nat) (actions : List Act)
    (orderly : Along (step ka) (Orderly ka) (new r now) actions) :
    Final (run (step ka) (new r now) actions).conn.out :=
  (run_invariant_along (P := Settled) (fun _ _ settled orderly => settled.moves (moves_step orderly))
    (Settled.new r now) orderly).final

/-- A peer's Close, with the code 1000 under a zero key. -/
def closing1000 : Reader UInt8 := ⟨4096, [0x88, 0x82, 0, 0, 0, 0, 0x03, 0xE8], []⟩

/-- `Read` answers the Close, and then the HTTP/2 server writes its next frame. -/
theorem not_final_written : ¬ Final (run (step ⟨30, 15, ⟨1001, []⟩⟩) (new closing1000 0)
    [.read 1, .reader, .reader, .reader, .reader, .reader, .reader, .write [0x61]]).conn.out := by
  have out : (run (step ⟨30, 15, ⟨1001, []⟩⟩) (new closing1000 0)
      [.read 1, .reader, .reader, .reader, .reader, .reader, .reader, .write [0x61]]).conn.out =
        [[0x88, 2, 0x03, 0xE8], [0x82, 1, 0x61]] := by
    decide +kernel
  rw [out]
  intro final
  have last := final.last [0x88, 2, 0x03, 0xE8] (by decide)
  revert last
  decide

/-- A ping with the payload `[7]`, and then a Close. -/
def pingedAndClosed : Reader UInt8 :=
  ⟨4096, [0x89, 0x81, 0, 0, 0, 0, 7, 0x88, 0x82, 0, 0, 0, 0, 0x03, 0xE8], []⟩

/-- A keepalive ping, a data frame and two pongs; the Close comes, and before it is answered a
ping and a data frame; then `Close`, and a write that fails. -/
def answeredRun : List Act :=
  [.tick 40, .keeper, .keeper, .keeper, .write [0x61], .read 1] ++ List.replicate 5 .reader ++
    [.pong [8]] ++ List.replicate 5 .reader ++ [.ping [9], .write [0x62], .reader, .close, .closer,
      .closer, .write [0x63]]

/-- What else is written comes before the Close, and that is the only one. -/
theorem final_after_answered :
    Final (run (step ⟨30, 15, ⟨1001, []⟩⟩) (new pingedAndClosed 0) answeredRun).conn.out ∧
    (run (step ⟨30, 15, ⟨1001, []⟩⟩) (new pingedAndClosed 0) answeredRun).conn.out =
      [[0x89, 0], [0x82, 1, 0x61], [0x8A, 1, 7], [0x8A, 1, 8], [0x89, 1, 9], [0x82, 1, 0x62],
        [0x88, 2, 0x03, 0xE8]] :=
  ⟨final_after _ _ _ _ (by decide +kernel), by decide +kernel⟩

end System

end Go

end H2ts
