import H2ts.Connection.Wakeups

/-!
# The range of a window

A send window is an `i64`.  Most sections leave the values of the windows as they are; the
others say by how much they move them (`Move`).  A sum is exact if it is in the range, and
only a frame that raises a window can leave it (`InRange`).

A window may be negative, but no further below the initial window than the largest window
is above zero (`Ranged`), so no frame that lowers one leaves the range.
-/

namespace H2ts

/-- The largest window. -/
def MAX_WINDOW : Int := 2 ^ 31 - 1

namespace Board

variable {b b' b'' : Board} {id : UInt32} {s : StreamState}

/-! ## Boards that keep the windows -/

/-- Every stream has the window it had. -/
def Retains (b b' : Board) : Prop :=
  ∀ id s', b'.streams id = some s' →
    ∃ s, b.streams id = some s ∧ s'.sendWindow.value = s.sendWindow.value

/-- The values of the windows stay. -/
structure Still (b b' : Board) : Prop where
  closed : b'.closed = b.closed
  initial : b'.initial = b.initial
  window : b'.window.value = b.window.value
  streams : Retains b b'

namespace Still

theorem refl (b : Board) : Still b b := ⟨rfl, rfl, rfl, fun _ s found => ⟨s, found, rfl⟩⟩

theorem trans (first : Still b b') (later : Still b' b'') : Still b b'' := by
  refine ⟨later.closed.trans first.closed, later.initial.trans first.initial,
    later.window.trans first.window, fun id s'' found => ?_⟩
  obtain ⟨s', found, same'⟩ := later.streams id s'' found
  obtain ⟨s, found, same⟩ := first.streams id s' found
  exact ⟨s, found, same'.trans same⟩

theorem wake (b : Board) (woken : Nat → Prop) : Still b (b.wake woken) :=
  ⟨rfl, rfl, rfl, fun _ s found => ⟨s, found, rfl⟩⟩

theorem change (b : Board) (id : UInt32) {f : StreamState → StreamState}
    (same : ∀ s, (f s).sendWindow.value = s.sendWindow.value) : Still b (b.change id f) := by
  refine ⟨rfl, rfl, rfl, fun id' s' found => ?_⟩
  rcases b.streams_change id f found with ⟨found, -⟩ | ⟨rfl, s, before, rfl⟩
  · exact ⟨s', found, rfl⟩
  · exact ⟨s, before, same s⟩

theorem fail (b : Board) (gone : UInt32 → Prop) : Still b (b.fail gone) := by
  refine ⟨rfl, rfl, rfl, fun id s found => ?_⟩
  simp only [Board.fail] at found
  split at found
  · cases found
  · exact ⟨s, found, rfl⟩

theorem drop (b : Board) (id : UInt32) : Still b (b.drop id) := by
  refine ⟨rfl, rfl, rfl, fun id' s found => ?_⟩
  rcases eq_or_ne id' id with rfl | ne
  · simp only [Board.drop, Function.update_self] at found
    cases found
  · simp only [Board.drop, Function.update_of_ne ne] at found
    exact ⟨s, found, rfl⟩

theorem retire (b : Board) (id : UInt32) : Still b (b.retire id) := by
  unfold Board.retire
  split
  · exact drop b id
  · exact refl b

/-- What is noted of bodies and heads is no window. -/
theorem note (b : Board) (ended answered : Nat → Prop) :
    Still b { b with ended := ended, answered := answered } :=
  ⟨rfl, rfl, rfl, fun _ s found => ⟨s, found, rfl⟩⟩

theorem data (b : Board) (id : UInt32) (endStream : Bool) : Still b (b.data id endStream) :=
  (note b _ b.answered).trans (change _ id (f := fun s => s.closeRemote endStream) fun _ => rfl)

theorem block (b : Board) (id : UInt32) (headers : List Hpack.Header) (endStream : Bool) :
    Still b (b.block id headers endStream) := by
  refine (note b _ _).trans (change _ id fun s => ?_)
  split <;> rfl

theorem wait (b : Board) (id : UInt32) (k : Nat) : Still b (b.wait id k) := by
  have parked : Still b { b with
      window := if b.window.isReady then b.window else b.window.registerWaker k
      asleep := fun j => j = k ∨ b.asleep j } := by
    refine ⟨rfl, rfl, ?_, fun _ s found => ⟨s, found, rfl⟩⟩
    dsimp only
    split <;> rfl
  refine parked.trans (change _ id fun s => ?_)
  split <;> rfl

end Still

end Board

/-! ## Moves -/

namespace Client

variable {c : Client} {b : Board}

/-- What a section does to the values of the windows, and which section does it. -/
inductive Move (c : Client) : Action → Board → Prop
  | still {a : Action} {b : Board} (still : c.board.Still b) : Move c a b
  | torn {a : Action} {b : Board} (closed : b.closed = true) : Move c a b
  | adjust {settings : Settings} {iw : UInt32} (found : settings.initialWindowSize = some iw)
      (valid : c.closed = true ∨ c.rejects (.settings false settings) = false) :
      Move c (.frame (.settings false settings)) (c.board.adjust iw.toNat)
  | credit {n : UInt32} (valid : c.rejects (.windowUpdate 0 n) = false) :
      Move c (.frame (.windowUpdate 0 n)) (c.board.credit n.toNat)
  | creditStream {id n : UInt32} (stream : id ≠ 0)
      (valid : c.rejects (.windowUpdate id n) = false) :
      Move c (.frame (.windowUpdate id n)) (c.board.creditStream id n.toNat)
  | spend {k : Nat} {s : StreamState} {n : Nat} (found : c.streams.lookup (c.cells k).id = some s)
      (funded : (n : Int) ≤ c.connSendWindow.value) (covered : (n : Int) ≤ s.sendWindow.value) :
      Move c (.pump k) ((c.board.spend (c.cells k).id n).wake (· = k))
  | enter {a : Action} (opens : c.Opens a) (body : RequestBody) :
      Move c a (c.board.enter c.nextStreamId (c.newStream body))

theorem move_of_deed {a : Action} (deed : Deed c a b) : Move c a b := by
  cases deed with
  | calm => exact .still (.refl _)
  | tear gone live => exact .torn rfl
  | tearAdjusted initial live => exact .torn rfl
  | adjust found valid => exact .adjust found valid
  | credit valid => exact .credit valid
  | creditStream stream nonzero valid => exact .creditStream stream valid
  | fail cuts => exact .still (.fail _ _)
  | @data id bytes endStream valid =>
      refine .still ?_
      split
      · exact (Board.Still.data _ id _).trans (.retire _ id)
      · exact .data _ id _
  | @block frame id endStream headers valid ends =>
      refine .still ?_
      split
      · exact (Board.Still.block _ id headers _).trans (.retire _ id)
      · exact .block _ id headers _
  | poll => exact .still (.wake _ _)
  | spend found funded covered => exact .spend found funded covered
  | wait sending live found unready => exact .still (.wait _ _ _)
  | @finish k s pulled found =>
      have half := Board.Still.change c.board (c.cells k).id
        (f := fun s => { s with localClosed := true }) fun _ => rfl
      exact .still ((half.trans (.wake _ _)).trans (.retire _ _))
  | enter opens body => exact .enter opens body

theorem move_step (sound : c.Sealed) (a : Action) : Move c a (c.step a).board :=
  move_of_deed (deed_step sound a)

/-! ## The range -/

/-- A frame that is accepted raises no window above the range of an `i64`. -/
def InRange (c : Client) : Action → Prop
  | .frame frame => c.rejects frame = false → match frame with
      | .windowUpdate id n =>
          if id = 0 then c.connSendWindow.value + n.toNat < 2 ^ 63
          else ∀ s, c.streams.lookup id = some s → s.sendWindow.value + n.toNat < 2 ^ 63
      | .settings false settings => ∀ iw, settings.initialWindowSize = some iw →
          ∀ id s, c.streams.lookup id = some s →
            s.sendWindow.value + (iw.toNat - c.remote.initialWindowSize) < 2 ^ 63
      | _ => True
  | _ => True

end Client

/-- The initial window of an open connection is within its bounds, and no window is further
below it than the largest window. -/
structure Board.Ranged (b : Board) : Prop where
  initial : b.closed = false → 0 ≤ b.initial ∧ b.initial ≤ MAX_WINDOW
  floor : b.closed = false → ∀ id s, b.streams id = some s →
    b.initial - MAX_WINDOW ≤ s.sendWindow.value

namespace Board.Ranged

variable {b b' : Board}

theorem torn (closed : b.closed = true) : b.Ranged :=
  ⟨fun live => absurd (live.symm.trans closed) Bool.false_ne_true,
    fun live => absurd (live.symm.trans closed) Bool.false_ne_true⟩

theorem still (ranged : b.Ranged) (still : b.Still b') : b'.Ranged := by
  refine ⟨fun live => ?_, fun live id s' found => ?_⟩
  · rw [still.initial]
    exact ranged.initial (still.closed ▸ live)
  · obtain ⟨s, before, same⟩ := still.streams id s' found
    rw [still.initial, same]
    exact ranged.floor (still.closed ▸ live) id s before

/-- One window changes, and does not get too low. -/
theorem change (ranged : b.Ranged) (id : UInt32) {f : StreamState → StreamState}
    (floor : b.closed = false → ∀ s, b.streams id = some s →
      b.initial - MAX_WINDOW ≤ s.sendWindow.value → b.initial - MAX_WINDOW ≤ (f s).sendWindow.value) :
    (b.change id f).Ranged := by
  refine ⟨ranged.initial, fun (live : b.closed = false) id' s' found => ?_⟩
  rcases b.streams_change id f found with ⟨found, -⟩ | ⟨rfl, s, before, rfl⟩
  · exact ranged.floor live id' s' found
  · exact floor live s before (ranged.floor live id' s before)

/-- A stream comes in with the initial window. -/
theorem enter (ranged : b.Ranged) (id : UInt32) {s : StreamState}
    (fresh : b.closed = false → s.sendWindow = .new b.initial) : (b.enter id s).Ranged := by
  refine ⟨ranged.initial, fun (live : b.closed = false) id' s' found => ?_⟩
  obtain ⟨low, high⟩ := ranged.initial live
  rcases eq_or_ne id' id with rfl | ne
  · simp only [Board.enter, Function.update_self, Option.some.injEq] at found
    unfold MAX_WINDOW at high
    have value : (SendWindow.new b.initial).value = b.initial :=
      SendWindow.value_new (by omega) (by omega)
    show b.initial - (2 ^ 31 - 1) ≤ s'.sendWindow.value
    rw [← found, fresh live, value]
    omega
  · simp only [Board.enter, Function.update_of_ne ne] at found
    exact ((ranged.still (.drop b id)).floor live) id' s' found

end Board.Ranged

namespace Client

variable {c : Client} {b : Board}

theorem initial_of_accepted {settings : Settings} {iw : UInt32}
    (found : settings.initialWindowSize = some iw)
    (accepted : c.rejects (.settings false settings) = false) : iw.toNat ≤ 2 ^ 31 - 1 := by
  simp only [rejects, rejectsFrame, rejectsSettings, found, Option.any_some, Bool.or_eq_false_iff,
    Bool.not_false, Bool.true_and, decide_eq_false_iff_not] at accepted
  exact UInt32.not_lt.mp accepted.2.1

/-- A window that moves with the initial one stays in the range. -/
theorem value_adjusted {settings : Settings} {iw : UInt32}
    (found : settings.initialWindowSize = some iw)
    (accepted : c.rejects (.settings false settings) = false)
    (fits : c.InRange (.frame (.settings false settings))) (live : c.closed = false)
    (ranged : c.board.Ranged) {id : UInt32} {s : StreamState}
    (here : c.streams.lookup id = some s) :
    (s.sendWindow.adjust (iw.toNat - c.remote.initialWindowSize)).1.value =
      s.sendWindow.value + (iw.toNat - c.remote.initialWindowSize) := by
  have high := fits accepted iw found id s here
  have low : c.remote.initialWindowSize - MAX_WINDOW ≤ s.sendWindow.value :=
    ranged.floor live id s here
  unfold MAX_WINDOW at low
  exact SendWindow.value_adjust (by omega) high

theorem ranged_move {a : Action} (move : Move c a b) (fits : c.closed = false → c.InRange a)
    (ranged : c.board.Ranged) : b.Ranged := by
  cases move with
  | still still => exact ranged.still still
  | torn closed => exact .torn closed
  | @adjust settings iw given valid =>
      have accepted (live : c.closed = false) : c.rejects (.settings false settings) = false :=
        valid.resolve_left (by simp [live])
      refine ⟨fun (live : c.closed = false) => ?_, fun (live : c.closed = false) id s' found => ?_⟩
      · have small := initial_of_accepted given (accepted live)
        show (0 : Int) ≤ iw.toNat ∧ (iw.toNat : Int) ≤ 2 ^ 31 - 1
        omega
      · obtain ⟨s, before, rfl⟩ := Option.map_eq_some_iff.mp found
        have low : c.remote.initialWindowSize - MAX_WINDOW ≤ s.sendWindow.value :=
          ranged.floor live id s before
        have moved := value_adjusted given (accepted live) (fits live) live ranged before
        show (iw.toNat : Int) - MAX_WINDOW ≤
          (s.sendWindow.adjust (iw.toNat - c.remote.initialWindowSize)).1.value
        omega
  | credit valid => exact ⟨ranged.initial, ranged.floor⟩
  | @creditStream id n stream valid =>
      refine (ranged.change id fun (live : c.closed = false) s found low => ?_).still (.wake _ _)
      have high := fits live valid
      simp only [if_neg stream] at high
      have raised := SendWindow.value_raised (high s found)
      show c.board.initial - MAX_WINDOW ≤ (s.sendWindow.update n.toNat).1.value
      omega
  | @spend k s n found funded covered =>
      have drawn : Board.Ranged { c.board with window := c.board.window.consume n } :=
        ⟨ranged.initial, ranged.floor⟩
      refine (drawn.change _ fun (live : c.closed = false) t before low => ?_).still (.wake _ _)
      obtain rfl := Option.some.inj (found.symm.trans before)
      have paid := SendWindow.value_consume (Int.natCast_nonneg n) covered
      have small := (ranged.initial live).2
      show c.board.initial - MAX_WINDOW ≤ (s.sendWindow.consume n).value
      omega
  | enter opens body => exact ranged.enter _ fun _ => rfl

theorem ranged_step (sound : c.Sealed) (a : Action) (fits : c.closed = false → c.InRange a)
    (ranged : c.board.Ranged) : (c.step a).board.Ranged :=
  ranged_move (move_step sound a) fits ranged

theorem ranged_connect (options : ConnectOptions) : (connect options).board.Ranged := by
  rw [board_connect]
  refine ⟨fun live => ?_, fun live id s found => ?_⟩
  · show (0 : Int) ≤ 65535 ∧ (65535 : Int) ≤ 2 ^ 31 - 1
    decide
  · cases found

end Client

end H2ts
