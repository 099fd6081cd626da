import H2ts.Connection.Range

/-!
# The window limit

No window may be above `2^31 - 1` (RFC 7540 §6.9.1).  An initial window above it is refused.
The sum of a window and a WINDOW_UPDATE is not looked at, and neither is a window that moves
with the initial one.  So the windows of a run stay within the limit exactly when no frame
raises one above it (`within_along_iff`).
-/

namespace H2ts

/-! ## Boards -/

namespace Board

variable {b b' : Board} {id : UInt32} {s : StreamState}

/-- The windows of an open connection are within the limit. -/
def Within (b : Board) : Prop :=
  b.closed = false → b.window.value ≤ MAX_WINDOW ∧
    ∀ id s, b.streams id = some s → s.sendWindow.value ≤ MAX_WINDOW

namespace Within

theorem still (within : b.Within) (still : b.Still b') : b'.Within := by
  intro live
  obtain ⟨conn, all⟩ := within (still.closed ▸ live)
  refine ⟨still.window.trans_le conn, fun id s' found => ?_⟩
  obtain ⟨s, before, same⟩ := still.streams id s' found
  exact same.trans_le (all id s before)

theorem spend (within : b.Within) {n : Nat} (funded : (n : Int) ≤ b.window.value)
    (here : b.streams id = some s) (covered : (n : Int) ≤ s.sendWindow.value) :
    (b.spend id n).Within := by
  have less {w : SendWindow} (enough : (n : Int) ≤ w.value) : (w.consume n).value ≤ w.value := by
    rw [SendWindow.value_consume (Int.natCast_nonneg n) enough]
    omega
  intro live
  obtain ⟨conn, all⟩ := within live
  refine ⟨(less funded).trans conn, fun id' s' found => ?_⟩
  rcases streams_change _ id _ found with ⟨found, -⟩ | ⟨-, t, before, rfl⟩
  · exact all id' s' found
  · obtain rfl := Option.some.inj (here.symm.trans before)
    exact (less covered).trans (all id s here)

/-- A stream that is opened has the initial window. -/
theorem enter (within : b.Within) (id : UInt32)
    (fits : b.closed = false → s.sendWindow.value ≤ MAX_WINDOW) : (b.enter id s).Within := by
  intro live
  obtain ⟨conn, all⟩ := within.still (.drop b id) live
  refine ⟨conn, fun id' s' found => ?_⟩
  rcases eq_or_ne id' id with rfl | ne
  · simp only [Board.enter, Function.update_self, Option.some.injEq] at found
    exact found ▸ fits live
  · simp only [Board.enter, Function.update_of_ne ne] at found
    exact all id' s' found

theorem credit (within : b.Within) {n : Nat}
    (fits : b.closed = false → b.window.value + n ≤ MAX_WINDOW) : (b.credit n).Within := by
  intro live
  have small := fits live
  refine ⟨?_, (within live).2⟩
  exact (SendWindow.value_raised (by unfold MAX_WINDOW at small; omega)).trans_le small

theorem creditStream (within : b.Within) {n : Nat}
    (fits : b.closed = false → ∀ s, b.streams id = some s → s.sendWindow.value + n ≤ MAX_WINDOW) :
    (b.creditStream id n).Within := by
  intro live
  obtain ⟨conn, all⟩ := within live
  refine ⟨conn, fun id' s' found => ?_⟩
  rcases b.streams_change id _ found with ⟨found, -⟩ | ⟨-, s, before, rfl⟩
  · exact all id' s' found
  · have small := fits live s before
    exact (SendWindow.value_raised (by unfold MAX_WINDOW at small; omega)).trans_le small

end Within

end Board

/-! ## Steps -/

namespace Client

variable {c : Client} {b : Board}

/-- The windows of an open connection are within the limit. -/
def Within (c : Client) : Prop :=
  c.closed = false → c.connSendWindow.value ≤ MAX_WINDOW ∧
    ∀ id s, c.streams.lookup id = some s → s.sendWindow.value ≤ MAX_WINDOW

/-- The frame is accepted, and raises a window above the limit. -/
def Overflows (c : Client) : Action → Prop
  | .frame frame => c.closed = false ∧ c.rejects frame = false ∧ match frame with
      | .windowUpdate id n =>
          if id = 0 then MAX_WINDOW < c.connSendWindow.value + n.toNat
          else ∃ s, c.streams.lookup id = some s ∧ MAX_WINDOW < s.sendWindow.value + n.toNat
      | .settings false settings => ∃ iw, settings.initialWindowSize = some iw ∧
          ∃ id s, c.streams.lookup id = some s ∧
            MAX_WINDOW < s.sendWindow.value + (iw.toNat - c.remote.initialWindowSize)
      | _ => False
  | _ => False

/-- From within the limit, no frame leaves the range. -/
theorem inRange_of_within (ranged : c.board.Ranged) (within : c.board.Within) (live : c.closed = false)
    (a : Action) : c.InRange a := by
  obtain ⟨conn, all⟩ := within live
  unfold MAX_WINDOW at conn all
  cases a with
  | frame frame =>
      intro accepted
      cases frame with
      | windowUpdate id n =>
          have bound := n.toNat_lt
          dsimp only
          split
          · have conn : c.connSendWindow.value ≤ 2 ^ 31 - 1 := conn
            omega
          · intro s found
            have top := all id s found
            omega
      | settings ack settings =>
          cases ack with
          | true => trivial
          | false =>
              intro iw found id s here
              have small := initial_of_accepted found accepted
              have top := all id s here
              have low : 0 ≤ c.remote.initialWindowSize := (ranged.initial live).1
              omega
      | _ => trivial
  | _ => trivial

theorem within_move {a : Action} (move : Move c a b) (ranged : c.board.Ranged)
    (keeps : ¬ c.Overflows a) (within : c.board.Within) : b.Within := by
  cases move with
  | still still => exact within.still still
  | torn closed =>
      intro live
      rw [closed] at live
      cases live
  | @adjust settings iw given valid =>
      intro (live : c.closed = false)
      have accepted := valid.resolve_left (by simp [live])
      refine ⟨(within live).1, fun id s' found => ?_⟩
      obtain ⟨s, before, rfl⟩ := Option.map_eq_some_iff.mp found
      have moved := value_adjusted given accepted (inRange_of_within ranged within live _) live ranged
        before
      refine moved.trans_le ?_
      by_contra above
      exact keeps ⟨live, accepted, iw, given, id, s, before, not_le.mp above⟩
  | @credit n valid =>
      refine within.credit fun live => ?_
      by_contra above
      refine keeps ⟨live, valid, ?_⟩
      simp only [if_true]
      exact not_le.mp above
  | @creditStream id n stream valid =>
      refine within.creditStream fun live s before => ?_
      by_contra above
      refine keeps ⟨live, valid, ?_⟩
      simp only [if_neg stream]
      exact ⟨s, before, not_le.mp above⟩
  | @spend k s n found funded covered =>
      exact (within.spend funded found covered).still (.wake _ _)
  | enter opens body =>
      refine within.enter _ fun live => ?_
      obtain ⟨low, high⟩ : 0 ≤ c.remote.initialWindowSize ∧
          c.remote.initialWindowSize ≤ MAX_WINDOW := ranged.initial live
      unfold MAX_WINDOW at high ⊢
      exact (SendWindow.value_new (by omega) (by omega)).trans_le high

theorem not_within_windowUpdate {id n : UInt32} (overflows : c.Overflows (.frame (.windowUpdate id n)))
    (ranged : c.board.Ranged) (within : c.board.Within) :
    ¬ (c.step (.frame (.windowUpdate id n))).board.Within := by
  intro after
  obtain ⟨live, accepted, raises⟩ := overflows
  have fits := inRange_of_within ranged within live (.frame (.windowUpdate id n)) accepted
  obtain ⟨conn, all⟩ := within live
  rw [step, onFrame_accepted accepted] at after
  by_cases zero : n = 0
  · -- Nothing is raised.
    subst zero
    have raises : if id = 0 then MAX_WINDOW < c.connSendWindow.value
        else ∃ s, c.streams.lookup id = some s ∧ MAX_WINDOW < s.sendWindow.value := by
      simpa using raises
    split at raises
    · exact not_le.mpr raises conn
    · obtain ⟨s, found, above⟩ := raises
      exact not_le.mpr above (all id s found)
  · rw [dispatchFrame, receiveWindowUpdate, if_neg zero] at after
    by_cases own : id = 0
    · simp only [if_pos own] at after raises fits
      rw [board_creditConnection] at after
      have raised := (after live).1
      exact not_le.mpr raises ((SendWindow.value_raised fits).ge.trans raised)
    · simp only [if_neg own] at after raises fits
      obtain ⟨s, found, above⟩ := raises
      rw [board_creditStream] at after
      have raised := (after live).2 id _ (by
        show (c.board.change id _).streams id = _
        simp only [Board.change, Function.update_self]
        exact congrArg (Option.map _) found)
      exact not_le.mpr above ((SendWindow.value_raised (fits s found)).ge.trans raised)

theorem not_within_settings {settings : Settings} (overflows : c.Overflows (.frame (.settings false settings)))
    (ranged : c.board.Ranged) (within : c.board.Within) :
    ¬ (c.step (.frame (.settings false settings))).board.Within := by
  intro after
  obtain ⟨live, accepted, iw, given, id, s, found, above⟩ := overflows
  rw [step, onFrame_accepted accepted, board_receiveSettings, given] at after
  have small : ¬ iw > 0x7fffffff :=
    UInt32.not_lt.mpr (UInt32.le_iff_toNat_le.mpr (initial_of_accepted given accepted))
  simp only [if_neg small] at after
  have raised := (after live).2 id _ (congrArg (Option.map _) found)
  have moved := value_adjusted given accepted (inRange_of_within ranged within live _) live ranged found
  exact not_le.mpr above (moved.ge.trans raised)

/-- A frame that raises a window above the limit is carried out, and the connection stays
open. -/
theorem not_within_overflows {a : Action} (overflows : c.Overflows a) (ranged : c.board.Ranged)
    (within : c.board.Within) : ¬ (c.step a).board.Within := by
  cases a with
  | frame frame =>
      cases frame with
      | windowUpdate id n => exact not_within_windowUpdate overflows ranged within
      | settings ack settings =>
          cases ack with
          | true => exact absurd overflows.2.2 not_false
          | false => exact not_within_settings overflows ranged within
      | _ => exact absurd overflows.2.2 not_false
  | _ => exact absurd overflows not_false

/-! ## Runs -/

/-- A connection keeps to the limit, all along a run, exactly if no frame raises a window
above it. -/
theorem within_along_iff (options : ConnectOptions) (actions : List Action) :
    Machine.Along step (fun c a => (c.step a).Within) (connect options) actions ↔
      Machine.Along step (fun c a => ¬ c.Overflows a) (connect options) actions := by
  have kept (c : Client) (a : Action) : c.Sealed ∧ c.board.Ranged → c.board.Within →
      (c.step a).Sealed ∧ (c.step a).board.Ranged := by
    rintro ⟨sound, ranged⟩ within
    exact ⟨sealed_step c a sound,
      ranged_step sound a (fun live => inRange_of_within ranged within live a) ranged⟩
  have sharp (c : Client) (a : Action) : c.Sealed ∧ c.board.Ranged → c.board.Within →
      ((c.step a).board.Within ↔ ¬ c.Overflows a) := by
    rintro ⟨sound, ranged⟩ within
    constructor
    · exact fun after overflows => not_within_overflows overflows ranged within after
    · exact fun keeps => within_move (move_step sound a) ranged keeps within
  have within : (connect options).board.Within := by
    rw [board_connect]
    intro live
    refine ⟨?_, fun id s found => ?_⟩
    · show (65535 : Int) ≤ 2 ^ 31 - 1
      decide
    · cases found
  exact Machine.along_next_iff kept sharp ⟨sealed_connect options, ranged_connect options⟩ within actions

/-- The peer raises the connection window by as much as a frame can. -/
theorem not_within_raised :
    ¬ ∀ (options : ConnectOptions) (actions : List Action), (after options actions).Within := by
  intro within
  have raised := (within {} [.frame (.windowUpdate 0 0x7fffffff)] (by decide +kernel)).1
  have above : MAX_WINDOW < (after {} [.frame (.windowUpdate 0 0x7fffffff)]).connSendWindow.value := by
    decide +kernel
  exact not_le.mpr above raised

end Client

end H2ts
