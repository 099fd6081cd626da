import H2ts.Go.Goroutines

/-!
# The keepalive of a Go connection

`runKeepAlive` pings a connection that was idle, and closes it if `lastActivity` is then not
later than the ping.  But `lastActivity` is the time of the last frame header.  Payload that
is still being read does not count, and neither does a frame whose header came between the
ping and the look at the clock.

So a peer that is not silent is spared exactly if, by the end of the wait, a header was
stamped later than the ping (`spares_lively_iff`).
-/

namespace H2ts

namespace Go

open Bufio Machine

namespace Mark

def stamp? : Mark → Option Nat
  | header stamp => some stamp
  | progress _ => none

end Mark

namespace Reading

/-- The stamp that is still to be stored. -/
def stamp? : Reading → Option Nat
  | store _ _ _ _ time => some time
  | _ => none

end Reading

namespace Keeping

/-- The time that the ping got. -/
def pingedAt? : Keeping → Option Nat
  | stamped pingedAt => some pingedAt
  | waiting pingedAt _ => some pingedAt
  | expired pingedAt _ => some pingedAt
  | _ => none

end Keeping

namespace System

/-- The stamps of the frame headers since the last ping. -/
def stamps (s : System) : List Nat := s.since.filterMap Mark.stamp?

/-- Data was returned or a control frame handled, before the timeout expired. -/
def Progressed (s : System) (deadline : Nat) : Prop :=
  ∃ time ≤ deadline, Mark.progress time ∈ s.since

/-- If the keepalive gives up in this step, the peer was silent. -/
def SparesLively (ka : KeepAlive) (s : System) (a : Act) : Prop :=
  ∀ pingedAt deadline, s.keeper = .expired pingedAt deadline →
    (s.step ka a).keeper = .settle → ¬ s.Progressed deadline

/-- If the wait is over in this step and the peer was not silent, a header was stamped later
than the ping. -/
def Stamped (s : System) (a : Act) : Prop :=
  a = .keeper → ∀ pingedAt deadline, s.keeper = .expired pingedAt deadline →
    s.Progressed deadline → ∃ stamp ∈ s.stamps, pingedAt < stamp

/-! ## The last activity is the last stamp -/

/-- What holds in every reachable state: stamps come in their order and from the past, and
what is later than the ping was stamped since. -/
structure Timely (s : System) : Prop where
  past : s.conn.lastActivity ≤ s.conn.now
  storing : ∀ time, s.reader.stamp? = some time → s.conn.lastActivity ≤ time ∧ time ≤ s.conn.now
  stamps : ∀ stamp ∈ s.stamps, stamp ≤ s.conn.lastActivity
  pinged : ∀ pingedAt, s.keeper.pingedAt? = some pingedAt →
    s.conn.lastActivity ≤ pingedAt ∨ s.conn.lastActivity ∈ s.stamps

variable {s t : System} {ka : KeepAlive}

/-- The clock, the stamps and the keepalive stay, and the reader has nothing to store. -/
structure Still (s t : System) : Prop where
  now : t.conn.now = s.conn.now
  activity : t.conn.lastActivity = s.conn.lastActivity
  stamps : t.stamps = s.stamps
  keeper : t.keeper = s.keeper
  storing : t.reader.stamp? = none ∨ t.reader = s.reader

theorem Still.refl : s.Still s := ⟨rfl, rfl, rfl, rfl, .inr rfl⟩

theorem Timely.still (timely : s.Timely) (still : s.Still t) : t.Timely where
  past := by
    rw [still.now, still.activity]
    exact timely.past
  storing time stores := by
    rw [still.now, still.activity]
    rcases still.storing with none | same
    · rw [none] at stores
      cases stores
    · rw [same] at stores
      exact timely.storing time stores
  stamps := by
    rw [still.stamps, still.activity]
    exact timely.stamps
  pinged := by
    rw [still.stamps, still.activity, still.keeper]
    exact timely.pinged

theorem stamps_progress : s.progress.stamps = s.stamps := by
  rw [stamps, progress, List.filterMap_append]
  exact List.append_nil _

theorem still_advance {n : Nat} (s : System) : s.Still (s.advance n) := by
  refine ⟨rfl, rfl, rfl, rfl, .inl ?_⟩
  unfold advance
  dsimp only
  split <;> rfl

theorem still_startRead (n : Nat) : s.Still (s.startRead n) := by
  unfold startRead
  split
  · split
    · exact .refl
    · exact still_advance s
  · exact .refl

theorem still_readHeader (n : Nat) : s.Still (s.readHeader n) := by
  obtain ⟨r, key, only⟩ := s.conn.readHeader_only
  unfold readHeader
  rcases reads : s.conn.readHeader with ⟨err | ⟨opcode, masked, length⟩, c⟩ <;> rw [reads] at only <;>
    obtain rfl := only
  · dsimp only
    split
    · exact ⟨rfl, rfl, rfl, rfl, .inl rfl⟩
    · exact .refl
  · exact ⟨rfl, rfl, rfl, rfl, .inl rfl⟩

theorem still_handleControl {r : Reader UInt8} (n : Nat) (opcode : UInt8) (payload : Bytes) :
    s.Still (({ s with conn := { s.conn with r := r } } : System).handleControl n opcode payload) := by
  unfold handleControl
  split
  · exact ⟨rfl, rfl, stamps_progress, rfl, .inl rfl⟩
  · split <;> exact ⟨rfl, rfl, stamps_progress, rfl, .inl rfl⟩

theorem still_readControl (n : Nat) (opcode : UInt8) (masked : Bool) (length : Nat) :
    s.Still (s.readControl n opcode masked length) := by
  obtain ⟨r, only⟩ := s.conn.readControlPayload_only masked length
  unfold readControl
  rcases reads : s.conn.readControlPayload masked length with ⟨err | payload, c⟩ <;>
    rw [reads] at only <;> obtain rfl := only
  · dsimp only
    split
    · split
      · exact still_handleControl n opcode []
      · exact ⟨rfl, rfl, rfl, rfl, .inl rfl⟩
    · exact .refl
  · exact still_handleControl n opcode payload

/-- Writing changes neither the clock nor the last activity. -/
theorem times_writeControl (c : Conn) (opcode : UInt8) (payload : Bytes) :
    (c.writeControl opcode payload).2.now = c.now ∧
      (c.writeControl opcode payload).2.lastActivity = c.lastActivity := by
  rcases c.writeControl_cases opcode payload with same | ⟨-, -, written⟩
  · rw [same]
    exact ⟨rfl, rfl⟩
  · rw [written]
    exact ⟨rfl, rfl⟩

theorem still_writePong (n : Nat) (payload : Bytes) : s.Still (s.writePong n payload) := by
  obtain ⟨now, activity⟩ := times_writeControl s.conn opPong payload
  unfold writePong
  rcases writes : s.conn.writeControl opPong payload with ⟨_ | err, c⟩ <;> rw [writes] at now activity
  · exact ⟨now, activity, stamps_progress, rfl, .inl rfl⟩
  · exact ⟨now, activity, rfl, rfl, .inl rfl⟩

theorem still_recordError (err : GoError) : s.Still (s.recordError err) := by
  cases err <;> exact ⟨rfl, rfl, rfl, rfl, .inl rfl⟩

theorem still_readData (n : Nat) : s.Still (s.readData n) := by
  unfold readData
  rcases s.conn.r.read (min n s.conn.frameRemaining) with ⟨⟨bytes, err⟩, r⟩
  dsimp only
  split
  · exact ⟨rfl, rfl, stamps_progress, rfl, .inl rfl⟩
  · split
    · exact ⟨rfl, rfl, rfl, rfl, .inl rfl⟩
    · exact .refl

theorem Timely.touch (timely : s.Timely) {n : Nat} {opcode : UInt8} {masked : Bool} {length : Nat} :
    ({ s with reader := .store n opcode masked length s.conn.now } : System).Timely where
  past := timely.past
  storing time stores := by
    cases stores
    exact ⟨timely.past, le_rfl⟩
  stamps := timely.stamps
  pinged := timely.pinged

theorem Timely.store (timely : s.Timely) {n : Nat} {opcode : UInt8} {masked : Bool}
    {length time : Nat} (stores : s.reader = .store n opcode masked length time) :
    (s.storeActivity n opcode masked length time).Timely := by
  obtain ⟨later, past⟩ := timely.storing time (by rw [stores]; rfl)
  -- the state in which the stamp is stored and nothing more
  have stored (c : Conn) (reader : Reading) (activity : c.lastActivity = time)
      (now : c.now = s.conn.now) (none : reader.stamp? = none) :
      ({ s with conn := c, reader := reader, since := s.since ++ [.header time] } : System).Timely := by
    have stamps : ({ s with conn := c, reader := reader, since := s.since ++ [.header time] } :
        System).stamps = s.stamps ++ [time] := by
      rw [System.stamps, List.filterMap_append]
      rfl
    constructor
    · show c.lastActivity ≤ c.now
      rw [activity, now]
      exact past
    · intro t found
      exact absurd (none.symm.trans found) (by simp)
    · rw [stamps]
      show ∀ stamp ∈ _, stamp ≤ c.lastActivity
      rw [activity]
      exact bound_append timely.stamps later
    · intro pingedAt pinged
      right
      rw [stamps]
      show c.lastActivity ∈ _
      rw [activity]
      exact List.mem_append_right _ (List.mem_singleton_self _)
  unfold storeActivity
  split
  · refine stored _ _ rfl rfl ?_
    split <;> rfl
  · split <;> exact stored _ _ rfl rfl rfl

theorem Timely.reader (timely : s.Timely) : s.readerStep.Timely := by
  unfold readerStep
  cases reader : s.reader with
  | outside => exact timely
  | header n => exact timely.still (still_readHeader n)
  | touch n opcode masked length => exact timely.touch
  | store n opcode masked length time => exact timely.store reader
  | control n opcode masked length => exact timely.still (still_readControl n opcode masked length)
  | pong n payload => exact timely.still (still_writePong n payload)
  | fail err => exact timely.still (still_recordError err)
  | quit err => exact timely.still ⟨rfl, rfl, rfl, rfl, .inl rfl⟩
  | settle code reason => exact timely.still ⟨rfl, rfl, rfl, rfl, .inl rfl⟩
  | closing code first =>
      obtain ⟨now, activity⟩ := times_writeControl s.conn opClose (Conn.closePayload code [])
      exact timely.still ⟨now, activity, rfl, rfl, .inl rfl⟩
  | data n => exact timely.still (still_readData n)

/-! ## The keepalive -/

/-- The keepalive goes on to a state in which it remembers no other ping. -/
theorem Timely.keep (timely : s.Timely) {keeper : Keeping}
    (same : ∀ pingedAt, keeper.pingedAt? = some pingedAt → s.keeper.pingedAt? = some pingedAt) :
    ({ s with keeper := keeper } : System).Timely where
  past := timely.past
  storing := timely.storing
  stamps := timely.stamps
  pinged pingedAt found := timely.pinged pingedAt (same pingedAt found)

/-- The connection of the keepalive changes, and neither the clock nor the last activity. -/
theorem Timely.conn (timely : s.Timely) {c : Conn} (now : c.now = s.conn.now)
    (activity : c.lastActivity = s.conn.lastActivity) : ({ s with conn := c } : System).Timely :=
  timely.still ⟨now, activity, rfl, rfl, .inr rfl⟩

theorem Timely.keeper (timely : s.Timely) : (s.keeperStep ka).Timely := by
  unfold keeperStep
  cases keeper : s.keeper with
  | head => exact timely.keep (by simp [Keeping.pingedAt?])
  | loaded last =>
      dsimp only
      split <;> exact timely.keep (by simp [Keeping.pingedAt?])
  | sleeping deadline =>
      dsimp only
      split
      · exact timely.keep (by simp [Keeping.pingedAt?])
      · exact timely
  | ping =>
      obtain ⟨now, activity⟩ := times_writeControl s.conn opPing []
      dsimp only
      rcases writes : s.conn.writeControl opPing [] with ⟨_ | err, c⟩ <;> rw [writes] at now activity
      · -- a new wait begins, without any stamp
        have moved := timely.conn now activity
        exact ⟨moved.past, moved.storing, by rintro stamp (_ | _), by rintro pingedAt (_ | _)⟩
      · exact (timely.conn now activity).keep (by simp [Keeping.pingedAt?])
  | pinged =>
      refine ⟨timely.past, timely.storing, timely.stamps, fun pingedAt found => ?_⟩
      cases found
      exact .inl timely.past
  | stamped pingedAt => exact timely.keep (by rw [keeper]; exact fun _ found => found)
  | waiting pingedAt deadline =>
      dsimp only
      split
      · exact timely.keep (by rw [keeper]; exact fun _ found => found)
      · exact timely
  | expired pingedAt deadline =>
      refine timely.keep ?_
      split <;> simp [Keeping.pingedAt?]
  | settle =>
      refine (timely.conn (c := s.conn.setReason ka.close) rfl rfl).keep ?_
      split <;> simp [Keeping.pingedAt?]
  | closing =>
      obtain ⟨now, activity⟩ :=
        times_writeControl s.conn opClose (Conn.closePayload ka.close.code ka.close.reason)
      exact (timely.conn now activity).keep (by simp [Keeping.pingedAt?])
  | hangUp =>
      have hung : s.hangUp.Timely := timely.still ⟨rfl, rfl, rfl, rfl, .inr rfl⟩
      exact hung.keep (by simp [Keeping.pingedAt?])
  | stopped => exact timely

theorem Timely.keeperDone (timely : s.Timely) : s.keeperDone.Timely := by
  unfold System.keeperDone
  cases keeper : s.keeper with
  | sleeping deadline =>
      dsimp only
      split
      · exact timely.keep (by simp [Keeping.pingedAt?])
      · exact timely
  | waiting pingedAt deadline =>
      dsimp only
      split
      · exact timely.keep (by simp [Keeping.pingedAt?])
      · exact timely
  | _ => exact timely

theorem still_closer : s.Still s.closerStep := by
  unfold closerStep
  cases s.closer with
  | idle => exact .refl
  | settle => exact ⟨rfl, rfl, rfl, rfl, .inr rfl⟩
  | closing =>
      obtain ⟨now, activity⟩ := times_writeControl s.conn opClose (Conn.closePayload closeNormal [])
      exact ⟨now, activity, rfl, rfl, .inr rfl⟩
  | hangUp => exact ⟨rfl, rfl, rfl, rfl, .inr rfl⟩
  | done => exact .refl

theorem Timely.step (timely : s.Timely) (a : Act) : (s.step ka a).Timely := by
  cases a with
  | tick passed =>
      have past := timely.past.trans (Nat.le_add_right _ passed)
      refine ⟨past, fun time stores => ?_, timely.stamps, timely.pinged⟩
      obtain ⟨later, past⟩ := timely.storing time stores
      exact ⟨later, past.trans (Nat.le_add_right _ _)⟩
  | arrive segment =>
      simp only [System.step]
      split
      · exact timely.still ⟨rfl, rfl, rfl, rfl, .inr rfl⟩
      · exact timely
  | finish err => exact timely.still ⟨rfl, rfl, rfl, rfl, .inr rfl⟩
  | fault err => exact timely.still ⟨rfl, rfl, rfl, rfl, .inr rfl⟩
  | read n => exact timely.still (still_startRead n)
  | write p =>
      simp only [System.step, Conn.writeData]
      split
      · exact timely
      · rcases s.conn.write_cases (Conn.encodeHeader opBinary p.length ++ p) with same | ⟨-, written⟩
        · rw [same]
          exact timely
        · rw [written]
          exact timely.conn rfl rfl
  | ping payload =>
      obtain ⟨now, activity⟩ := times_writeControl s.conn opPing payload
      exact timely.conn now activity
  | pong payload =>
      obtain ⟨now, activity⟩ := times_writeControl s.conn opPong payload
      exact timely.conn now activity
  | close =>
      simp only [System.step, startClose]
      split
      · exact timely.still ⟨rfl, rfl, rfl, rfl, .inr rfl⟩
      · exact timely
  | done => exact timely.still ⟨rfl, rfl, rfl, rfl, .inr rfl⟩
  | reader => exact timely.reader
  | keeper => exact timely.keeper
  | keeperDone => exact timely.keeperDone
  | closer => exact timely.still still_closer

theorem Timely.new (r : Reader UInt8) (now : Nat) : (new r now).Timely :=
  ⟨le_rfl, by rintro time (_ | _), by rintro stamp (_ | _), by rintro pingedAt (_ | _)⟩

/-! ## When it gives up -/

theorem keeper_reader : s.readerStep.keeper = s.keeper := by
  unfold readerStep
  cases s.reader with
  | header n => exact (still_readHeader n).keeper
  | store n opcode masked length time =>
      dsimp only [storeActivity]
      split
      · rfl
      · split <;> rfl
  | control n opcode masked length => exact (still_readControl n opcode masked length).keeper
  | pong n payload => exact (still_writePong n payload).keeper
  | fail err => exact (still_recordError err).keeper
  | data n => exact (still_readData n).keeper
  | _ => rfl

/-- Only the keepalive itself ends its wait. -/
theorem expired_step {a : Act} (other : a ≠ .keeper) {pingedAt deadline : Nat}
    (expired : s.keeper = .expired pingedAt deadline) :
    (s.step ka a).keeper = .expired pingedAt deadline := by
  cases a with
  | keeper => exact absurd rfl other
  | reader => exact keeper_reader.trans expired
  | keeperDone => simp [System.step, System.keeperDone, expired]
  | closer => exact still_closer.keeper.trans expired
  | read n => exact (still_startRead n).keeper.trans expired
  | arrive segment =>
      simp only [System.step]
      split <;> exact expired
  | close =>
      simp only [System.step, startClose]
      split <;> exact expired
  | _ => exact expired

theorem settle_iff {a : Act} {pingedAt deadline : Nat}
    (expired : s.keeper = .expired pingedAt deadline) :
    (s.step ka a).keeper = .settle ↔ a = .keeper ∧ s.conn.lastActivity ≤ pingedAt := by
  by_cases own : a = .keeper
  · rw [own]
    simp only [System.step, keeperStep, expired, true_and]
    split <;> simp [*]
  · rw [expired_step own expired]
    simp [own]

/-- What is later than the ping was stamped since, and the other way round. -/
theorem Timely.stamped_iff (timely : s.Timely) {pingedAt : Nat}
    (pinged : s.keeper.pingedAt? = some pingedAt) :
    (∃ stamp ∈ s.stamps, pingedAt < stamp) ↔ pingedAt < s.conn.lastActivity :=
  exists_later_iff timely.stamps (timely.pinged pingedAt pinged)

theorem sparesLively_iff (timely : s.Timely) (a : Act) : s.SparesLively ka a ↔ s.Stamped a := by
  constructor
  · rintro spares rfl pingedAt deadline expired progressed
    by_contra none
    rw [timely.stamped_iff (by rw [expired]; rfl), not_lt] at none
    exact spares pingedAt deadline expired ((settle_iff expired).mpr ⟨rfl, none⟩) progressed
  · intro stamped pingedAt deadline expired settles progressed
    obtain ⟨rfl, past⟩ := (settle_iff expired).mp settles
    have later := stamped rfl pingedAt deadline expired progressed
    rw [timely.stamped_iff (by rw [expired]; rfl)] at later
    exact absurd later (not_lt.mpr past)

/-- Along every run, the keepalive only gives up on a silent peer if and only if, whenever a
wait is over in which the peer was not silent, a header was stamped later than the ping. -/
theorem spares_lively_iff (ka : KeepAlive) (r : Reader UInt8) (now : Nat) (actions : List Act) :
    Along (step ka) (SparesLively ka) (new r now) actions ↔
      Along (step ka) Stamped (new r now) actions :=
  along_iff (P := Timely) (fun _ a timely => timely.step a)
    (fun _ a timely => sparesLively_iff timely a) (Timely.new r now) actions

/-- The header of a data frame of 256 bytes, and the first of them. -/
def largeFrame : Reader UInt8 := ⟨4096, [0x82, 0xFE, 1, 0, 0, 0, 0, 0, 0x61], []⟩

/-- The frame is read on both sides of a ping, and its next byte arrives in the wait. -/
def largeFrameRun : List Act :=
  [.read 1, .reader, .reader, .reader, .reader, .tick 10, .keeper, .keeper, .keeper, .keeper, .keeper,
    .arrive ⟨[0x62], by decide⟩, .read 1, .reader, .tick 5, .keeper]

/-- The keepalive gives up in the middle of a frame whose payload is being read, and closes the
transport. -/
theorem not_spares_lively_large :
    ¬ Along (step ⟨10, 5, ⟨1001, []⟩⟩) (SparesLively ⟨10, 5, ⟨1001, []⟩⟩) (new largeFrame 0)
        (largeFrameRun ++ [.keeper]) ∧
      (run (step ⟨10, 5, ⟨1001, []⟩⟩) (new largeFrame 0)
        (largeFrameRun ++ [.keeper, .keeper, .keeper, .keeper])).conn.writeErr = some closedConn := by
  refine ⟨?_, by decide +kernel⟩
  intro along
  obtain ⟨-, spares, -⟩ := along_append.mp along
  refine spares 10 15 (by decide +kernel) (by decide +kernel) ⟨10, by decide, ?_⟩
  decide +kernel

end System

end Go

end H2ts
