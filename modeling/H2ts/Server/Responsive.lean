import H2ts.Lib.Machine
import H2ts.Server.Bridge

/-!
# The keepalive of the bridge

`last_activity` is the time of the last read from the WebSocket, and the direction that reads
is also the one that writes to the peer.  While it waits for a slow peer, nothing is read.  So
a client that has answered is spared exactly if, by the end of the wait, a read came later
than the ping (`spares_responsive_iff`).
-/

namespace H2ts

namespace Bridge

open Machine

namespace State

variable {ω : Type}

/-! ## The last activity is the last read -/

/-- If the keepalive gives up in this step, no byte arrived between the ping and the end of
the timeout. -/
def SparesResponsive (w : Wslay ω) (config : BridgeConfig) (s : State ω) (a : Action) : Prop :=
  ∀ pingedAt deadline, s.keepalive = .waiting pingedAt deadline →
    (s.step w config a).keepalive.gaveUp = true → ∀ time ∈ s.arrivals, deadline < time

/-- The wait of the keepalive is over in this step. -/
def Expires (config : BridgeConfig) (s : State ω) (a : Action) (pingedAt deadline : Nat) : Prop :=
  s.result = none ∧ config.keepalive.isSome = true ∧ (∃ write, a = .keepalive write) ∧
    s.keepalive = .waiting pingedAt deadline ∧ deadline ≤ s.now

/-- If the wait is over in this step and bytes arrived in it, some were read later than the
ping. -/
def Reads (config : BridgeConfig) (s : State ω) (a : Action) : Prop :=
  ∀ pingedAt deadline, s.Expires config a pingedAt deadline →
    (∃ time ∈ s.arrivals, time ≤ deadline) → ∃ time ∈ s.reads, pingedAt < time

/-- What holds in every reachable state: reads come in their order and from the past, and what
is later than the ping was read since. -/
structure Timely (s : State ω) : Prop where
  past : s.lastActivity ≤ s.now
  reads : ∀ time ∈ s.reads, time ≤ s.lastActivity
  pinged : ∀ pingedAt deadline, s.keepalive = .waiting pingedAt deadline →
    s.lastActivity ≤ pingedAt ∨ s.lastActivity ∈ s.reads

variable {s t : State ω} {w : Wslay ω} {config : BridgeConfig} {ka : KeepAlive}

/-- Neither the clock nor the reads nor the keepalive move. -/
structure Still (s t : State ω) : Prop where
  now : t.now = s.now
  activity : t.lastActivity = s.lastActivity
  reads : t.reads = s.reads
  keepalive : t.keepalive = s.keepalive

theorem Still.refl : s.Still s := ⟨rfl, rfl, rfl, rfl⟩

theorem Timely.still (timely : s.Timely) (still : s.Still t) : t.Timely where
  past := by
    rw [still.now, still.activity]
    exact timely.past
  reads := by
    rw [still.reads, still.activity]
    exact timely.reads
  pinged := by
    rw [still.reads, still.activity, still.keepalive]
    exact timely.pinged

theorem still_proceed (reason : Option EndReason) : s.Still (s.proceed reason) := by
  cases reason <;> exact ⟨rfl, rfl, rfl, rfl⟩

theorem still_dispatch (received : Received) : s.Still (s.dispatch received) := by
  unfold dispatch
  dsimp only
  split
  · have proceeds := still_proceed (s := { s with observed := s.observed ++ hooked received.events })
      (if received.closed then
        some ((peerClose received.events).elim .abnormal EndReason.peerClose) else none)
    exact ⟨proceeds.now, proceeds.activity, proceeds.reads, proceeds.keepalive⟩
  · exact ⟨rfl, rfl, rfl, rfl⟩

/-- A read is stamped, and kept. -/
theorem Timely.receive (timely : s.Timely) : (s.receive w).Timely := by
  unfold State.receive
  rcases w.recv s.wslay (s.arrived.take READ_CHUNK) with ⟨received, wslay⟩
  have stamped : ({ s with
      arrived := s.arrived.drop READ_CHUNK
      lastActivity := s.now
      wslay := wslay
      reads := s.reads ++ [s.now] } : State ω).Timely := by
    refine ⟨le_rfl, bound_append timely.reads timely.past, ?_⟩
    intro pingedAt deadline waiting
    exact .inr (List.mem_append_right _ (List.mem_singleton_self _))
  dsimp only
  split
  · exact stamped.still (still_dispatch received)
  · exact stamped.still ⟨rfl, rfl, rfl, rfl⟩

theorem still_pollWsToPeer (write : Write) (read : ∀ (_ : s.wsToPeer = .reading), s.arrived = []) :
    s.Still (s.pollWsToPeer w config write) := by
  unfold pollWsToPeer
  cases where_ : s.wsToPeer with
  | reading =>
      simp only [read where_, List.isEmpty_nil, if_true]
      split <;> exact ⟨rfl, rfl, rfl, rfl⟩
  | toPeer received =>
      cases write with
      | pending => exact .refl
      | ok =>
          have dispatches := still_dispatch
            (s := { s with forwarded := s.forwarded ++ [received.toPeer] }) received
          exact ⟨dispatches.now, dispatches.activity, dispatches.reads, dispatches.keepalive⟩
      | err =>
          dsimp only
          split <;> exact ⟨rfl, rfl, rfl, rfl⟩
  | errorLock outbound =>
      dsimp only
      split <;> exact ⟨rfl, rfl, rfl, rfl⟩
  | errorWrite outbound => cases write <;> exact ⟨rfl, rfl, rfl, rfl⟩
  | lock outbound reason =>
      dsimp only
      split <;> exact ⟨rfl, rfl, rfl, rfl⟩
  | write outbound reason =>
      cases write with
      | pending => exact .refl
      | ok => cases reason <;> exact ⟨rfl, rfl, rfl, rfl⟩
      | err => exact ⟨rfl, rfl, rfl, rfl⟩
  | shutdown reason => cases write <;> exact ⟨rfl, rfl, rfl, rfl⟩

theorem Timely.wsToPeer (timely : s.Timely) (write : Write) :
    (s.pollWsToPeer w config write).Timely := by
  by_cases reads : s.wsToPeer = .reading ∧ s.arrived ≠ []
  · have received : s.pollWsToPeer w config write = s.receive w := by
      simp [pollWsToPeer, reads.1, List.isEmpty_iff, reads.2]
    rw [received]
    exact timely.receive
  · refine timely.still (still_pollWsToPeer write fun reading => ?_)
    by_contra some
    exact reads ⟨reading, some⟩

theorem still_pollPeerToWs (read : PeerRead) (write : Write) :
    s.Still (s.pollPeerToWs w config read write) := by
  have closes (close : CloseFrame) : s.Still (s.closeWith w close) := by
    unfold closeWith
    dsimp only
    split <;> exact ⟨rfl, rfl, rfl, rfl⟩
  unfold pollPeerToWs
  cases s.peerToWs with
  | reading =>
      cases read with
      | pending => exact .refl
      | bytes data =>
          dsimp only
          split
          · exact closes config.close
          · split <;> exact ⟨rfl, rfl, rfl, rfl⟩
      | err => exact closes config.errorClose
  | lock outbound close =>
      dsimp only
      split <;> exact ⟨rfl, rfl, rfl, rfl⟩
  | write outbound close => cases write <;> cases close <;> exact ⟨rfl, rfl, rfl, rfl⟩

theorem still_pollControl (write : Write) : s.Still (s.pollControl w write) := by
  unfold pollControl
  cases s.control with
  | receiving =>
      cases s.commands with
      | nil =>
          dsimp only
          split <;> exact ⟨rfl, rfl, rfl, rfl⟩
      | cons message commands =>
          dsimp only
          split <;> exact ⟨rfl, rfl, rfl, rfl⟩
  | lock outbound =>
      dsimp only
      split <;> exact ⟨rfl, rfl, rfl, rfl⟩
  | write outbound => cases write <;> exact ⟨rfl, rfl, rfl, rfl⟩
  | parked => exact .refl

/-- The keepalive goes on to a state in which it waits for nothing. -/
theorem Timely.idle (timely : s.Timely) (now : t.now = s.now)
    (activity : t.lastActivity = s.lastActivity) (reads : t.reads = s.reads)
    (idle : ∀ pingedAt deadline, t.keepalive ≠ .waiting pingedAt deadline) : t.Timely where
  past := by
    rw [now, activity]
    exact timely.past
  reads := by
    rw [reads, activity]
    exact timely.reads
  pinged pingedAt deadline waiting := absurd waiting (idle pingedAt deadline)

theorem Timely.await (timely : s.Timely) : (s.await ka).Timely := by
  refine ⟨timely.past, by rintro time (_ | _), fun pingedAt deadline waiting => ?_⟩
  cases waiting
  exact .inl timely.past

theorem Timely.giveUp (timely : s.Timely) : (s.giveUp w ka).Timely := by
  unfold State.giveUp
  dsimp only
  split <;> exact timely.idle rfl rfl rfl (by simp [State.finish])

theorem Timely.pollKeepalive (timely : s.Timely) (write : Write) :
    (s.pollKeepalive w ka write).Timely := by
  unfold State.pollKeepalive
  cases keepalive : s.keepalive with
  | head =>
      dsimp only
      split
      · exact timely.idle rfl rfl rfl (by simp)
      · split
        · exact Timely.await (timely.still ⟨rfl, rfl, rfl, keepalive.symm⟩)
        · exact timely.idle rfl rfl rfl (by simp)
  | sleeping deadline =>
      dsimp only
      split
      · exact timely.idle rfl rfl rfl (by simp)
      · exact timely
  | pingLock outbound =>
      dsimp only
      split
      · exact timely.idle rfl rfl rfl (by simp)
      · exact timely
  | pingWrite outbound =>
      cases write with
      | pending => exact timely
      | ok => exact Timely.await (timely.still ⟨rfl, rfl, rfl, rfl⟩)
      | err => exact timely.still ⟨rfl, rfl, rfl, rfl⟩
  | waiting pingedAt deadline =>
      dsimp only
      split
      · split
        · exact timely.giveUp
        · exact timely.idle rfl rfl rfl (by simp)
      · exact timely
  | closeLock outbound =>
      dsimp only
      split
      · exact timely.idle rfl rfl rfl (by simp)
      · exact timely
  | closeWrite outbound =>
      cases write with
      | pending => exact timely
      | ok => exact timely.idle rfl rfl rfl (by simp [State.finish])
      | err => exact timely.idle rfl rfl rfl (by simp [State.finish])
  | closed => exact timely
  | parked => exact timely

theorem Timely.step (timely : s.Timely) (a : Action) : (s.step w config a).Timely := by
  unfold State.step
  split
  · exact timely
  · cases a with
    | tick passed =>
        exact ⟨timely.past.trans (Nat.le_add_right _ _), timely.reads, timely.pinged⟩
    | arrive bytes =>
        simp only [act]
        split
        · exact timely
        · exact timely.still ⟨rfl, rfl, rfl, rfl⟩
    | finish transport =>
        simp only [act]
        split
        · exact timely.still ⟨rfl, rfl, rfl, rfl⟩
        · exact timely
    | command message => exact timely.still ⟨rfl, rfl, rfl, rfl⟩
    | dropSender => exact timely.still ⟨rfl, rfl, rfl, rfl⟩
    | wsToPeer write => exact timely.wsToPeer write
    | peerToWs read write => exact timely.still (still_pollPeerToWs read write)
    | control write => exact timely.still (still_pollControl write)
    | keepalive write =>
        simp only [act]
        split
        · exact timely.pollKeepalive write
        · exact timely

theorem Timely.new (wslay : ω) (now : Nat) : (new wslay config now).Timely := by
  refine ⟨le_rfl, by rintro time (_ | _), fun pingedAt deadline waiting => ?_⟩
  simp only [State.new] at waiting
  split at waiting <;> cases waiting

/-! ## When it gives up -/

theorem keepalive_pollWsToPeer (write : Write) :
    (s.pollWsToPeer w config write).keepalive = s.keepalive := by
  by_cases reads : s.wsToPeer = .reading ∧ s.arrived ≠ []
  · simp only [pollWsToPeer, reads.1, List.isEmpty_iff, reads.2, if_false, State.receive]
    split
    · exact (still_dispatch _).keepalive
    · rfl
  · refine (still_pollWsToPeer write fun reading => ?_).keepalive
    by_contra some
    exact reads ⟨reading, some⟩

theorem gaveUp_giveUp : (s.giveUp w ka).keepalive.gaveUp = true := by
  unfold State.giveUp
  dsimp only
  split <;> rfl

/-- It gives up if the wait is over and the last activity is not later than the ping. -/
theorem gaveUp_iff {a : Action} {pingedAt deadline : Nat}
    (waiting : s.keepalive = .waiting pingedAt deadline) :
    (s.step w config a).keepalive.gaveUp = true ↔
      s.Expires config a pingedAt deadline ∧ s.lastActivity ≤ pingedAt := by
  have quiet : s.keepalive.gaveUp ≠ true := by
    rw [waiting]
    exact Bool.false_ne_true
  have other {t : State ω} (same : t.keepalive = s.keepalive) (no : ∀ write, a ≠ .keepalive write) :
      t.keepalive.gaveUp = true ↔ s.Expires config a pingedAt deadline ∧ s.lastActivity ≤ pingedAt := by
    rw [same]
    refine iff_of_false quiet ?_
    rintro ⟨⟨-, -, ⟨write, own⟩, -⟩, -⟩
    exact no write own
  unfold State.step
  split
  · rename_i ended
    refine iff_of_false quiet ?_
    rintro ⟨⟨none, -⟩, -⟩
    rw [none] at ended
    cases ended
  · rename_i live
    have none : s.result = none := by simpa using live
    cases a with
    | keepalive write =>
        simp only [act]
        split
        · rename_i ka found
          have some : config.keepalive.isSome = true := by rw [found]; rfl
          have expires : s.Expires config (.keepalive write) pingedAt deadline ↔ deadline ≤ s.now :=
            ⟨fun expires => expires.2.2.2.2, fun due => ⟨none, some, ⟨write, rfl⟩, waiting, due⟩⟩
          rw [expires]
          simp only [State.pollKeepalive, waiting]
          split
          · rename_i due
            split
            · exact iff_of_true gaveUp_giveUp ⟨due, ‹_›⟩
            · exact iff_of_false Bool.false_ne_true fun gives => absurd gives.2 ‹_›
          · exact iff_of_false quiet fun gives => absurd gives.1 ‹_›
        · rename_i found
          refine iff_of_false quiet ?_
          rintro ⟨⟨-, some, -⟩, -⟩
          rw [found] at some
          cases some
    | tick passed => exact other rfl (by simp)
    | arrive bytes =>
        simp only [act]
        split <;> exact other rfl (by simp)
    | finish transport =>
        simp only [act]
        split <;> exact other rfl (by simp)
    | command message => exact other rfl (by simp)
    | dropSender => exact other rfl (by simp)
    | wsToPeer write => exact other (keepalive_pollWsToPeer write) (by simp)
    | peerToWs read write => exact other (still_pollPeerToWs read write).keepalive (by simp)
    | control write => exact other (still_pollControl write).keepalive (by simp)

/-- What is later than the ping was read since, and the other way round. -/
theorem Timely.read_iff (timely : s.Timely) {pingedAt deadline : Nat}
    (waiting : s.keepalive = .waiting pingedAt deadline) :
    (∃ time ∈ s.reads, pingedAt < time) ↔ pingedAt < s.lastActivity :=
  exists_later_iff timely.reads (timely.pinged pingedAt deadline waiting)

theorem sparesResponsive_iff (timely : s.Timely) (a : Action) :
    s.SparesResponsive w config a ↔ s.Reads config a := by
  constructor
  · rintro spares pingedAt deadline expires ⟨time, mem, early⟩
    have waiting := expires.2.2.2.1
    by_contra none
    rw [timely.read_iff waiting, not_lt] at none
    have late := spares pingedAt deadline waiting ((gaveUp_iff waiting).mpr ⟨expires, none⟩) time mem
    exact absurd early (not_le.mpr late)
  · intro reads pingedAt deadline waiting gaveUp time mem
    obtain ⟨expires, past⟩ := (gaveUp_iff waiting).mp gaveUp
    by_contra early
    have later := reads pingedAt deadline expires ⟨time, mem, not_lt.mp early⟩
    rw [timely.read_iff waiting] at later
    exact absurd later (not_lt.mpr past)

/-- Along every run, the keepalive only gives up on a client of which nothing arrived if and
only if, whenever a wait is over in which bytes arrived, some were read later than the
ping. -/
theorem spares_responsive_iff (w : Wslay ω) (config : BridgeConfig) (wslay : ω) (now : Nat)
    (actions : List Action) :
    Along (step w config) (SparesResponsive w config) (new wslay config now) actions ↔
      Along (step w config) (Reads config) (new wslay config now) actions :=
  along_iff (P := Timely) (fun _ a timely => timely.step a)
    (fun _ a timely => sparesResponsive_iff timely a) (Timely.new wslay now) actions

/-- What wslay does with one short frame under a zero key, and with short messages. -/
def shortFrames : Wslay Unit where
  recv _ bytes :=
    (match bytes with
      | 0x82 :: _ :: _ :: _ :: _ :: _ :: payload => ⟨payload, [], false, []⟩
      | 0x8A :: _ :: _ :: _ :: _ :: _ :: payload => ⟨[], [], false, [.pong payload]⟩
      | _ => ⟨[], [], false, []⟩, ())
  send _ message :=
    (match message with
      | .binary payload => [0x82, UInt8.ofNat payload.length] ++ payload
      | .ping payload => [0x89, UInt8.ofNat payload.length] ++ payload
      | .pong payload => [0x8A, UInt8.ofNat payload.length] ++ payload
      | .close frame =>
          [0x88, UInt8.ofNat (2 + (Utf8.octets frame.reason).length)] ++ BigEndian.be16 frame.code ++
            Utf8.octets frame.reason, ())

def shortConfig : BridgeConfig :=
  ⟨⟨1000, ""⟩, ⟨1011, ""⟩, some ⟨10, 5, ⟨1001, "keepalive timeout"⟩⟩, false⟩

/-- A data frame goes to a peer that takes no bytes.  The ping is answered, and the answer is
not read. -/
def slowPeer : List Action :=
  [.arrive [0x82, 0x81, 0, 0, 0, 0, 0x61], .wsToPeer .pending, .tick 10, .keepalive .pending,
    .keepalive .pending, .keepalive .ok, .arrive [0x8A, 0x80, 0, 0, 0, 0], .wsToPeer .pending, .tick 5]

/-- The keepalive gives up on a client whose pong has arrived, and ends the bridge. -/
theorem not_spares_responsive_slow :
    ¬ Along (step shortFrames shortConfig) (SparesResponsive shortFrames shortConfig)
        (new () shortConfig 0) (slowPeer ++ [.keepalive .pending]) ∧
      (run (step shortFrames shortConfig) (new () shortConfig 0)
        (slowPeer ++ [.keepalive .pending, .keepalive .pending, .keepalive .ok])).result =
          some (.ok (.localClose ⟨1001, "keepalive timeout"⟩)) := by
  refine ⟨?_, by decide +kernel⟩
  intro along
  obtain ⟨-, spares, -⟩ := along_append.mp along
  have late := spares 10 15 (by decide +kernel) (by decide +kernel) 10 (by decide +kernel)
  exact absurd late (by decide)

end State

end Bridge

end H2ts
