import H2ts.Connection.Deeds
import H2ts.Connection.Heads

/-!
# Uploads wake up

An upload that cannot send leaves its waker with the windows that are not ready.  A window
fires its wakers when it gets ready, so one that is ready holds none (`SendWindow.Quiet`); and
an upload that is asleep has its waker with the connection window or with that of its stream
(`Board.Alert`).  So an upload whose stream is in the map does not sleep while both windows are
positive (`alert_after`).

Streams are told apart by their cells, not by their ids, which are taken again after `2^31`
requests.
-/

namespace H2ts

open Hpack

namespace SendWindow

variable {w : SendWindow} {k : Nat}

/-- Nobody waits for a window that is ready. -/
def Quiet (w : SendWindow) : Prop := w.isReady = true → w.wakers = []

theorem quiet_new (initial : Int) : (new initial).Quiet := fun _ => rfl

/-- A window that was raised is quiet, whatever it was. -/
theorem Quiet.update (quiet : w.Quiet) (n : Int) : (w.update n).1.Quiet := by
  unfold SendWindow.update
  simp only []
  split
  next => exact fun _ => rfl
  next low =>
    intro ready
    refine quiet ?_
    simp only [isReady, low, decide_false, Bool.false_or] at ready
    rw [isReady, ready, Bool.or_true]

theorem Quiet.consume (quiet : w.Quiet) {n : Int} (nonneg : 0 ≤ n) (funded : n ≤ w.value) :
    (w.consume n).Quiet := by
  intro ready
  refine quiet ?_
  simp only [isReady, consume_closed, value_consume nonneg funded, Bool.or_eq_true,
    decide_eq_true_eq] at ready ⊢
  refine ready.imp (fun positive => ?_) id
  omega

theorem quiet_registerWaker (unready : w.isReady ≠ true) (k : Nat) : (w.registerWaker k).Quiet :=
  fun ready => absurd ready unready

/-- A waker stays with the window or fires. -/
theorem mem_update (mem : k ∈ w.wakers) (n : Int) :
    k ∈ (w.update n).1.wakers ∨ k ∈ (w.update n).2 := by
  unfold SendWindow.update
  simp only []
  split
  · exact .inr mem
  · exact .inl mem

end SendWindow

/-! ## Boards -/

namespace Board

variable {b : Board} {id : UInt32} {s : StreamState}

/-- Windows that are ready hold no wakers, and an upload that is asleep has its waker with the
connection window or with the window of its stream. -/
structure Alert (b : Board) : Prop where
  window : b.window.Quiet
  windows : ∀ id s, b.streams id = some s → s.sendWindow.Quiet
  waker : ∀ k, b.asleep k → ∀ id s, b.streams id = some s → s.cell = k →
    k ∈ b.window.wakers ∨ k ∈ s.sendWindow.wakers

theorem streams_change (b : Board) (id : UInt32) (f : StreamState → StreamState) {id' : UInt32}
    {s' : StreamState} (found : (b.change id f).streams id' = some s') :
    b.streams id' = some s' ∧ id' ≠ id ∨ id' = id ∧ ∃ s, b.streams id = some s ∧ s' = f s := by
  rcases eq_or_ne id' id with rfl | ne
  · simp only [change, Function.update_self, Option.map_eq_some_iff] at found
    obtain ⟨s, before, same⟩ := found
    exact .inr ⟨rfl, s, before, same.symm⟩
  · simp only [change, Function.update_of_ne ne] at found
    exact .inl ⟨found, ne⟩

namespace Alert

/-- Uploads wake up. -/
theorem wake (alert : b.Alert) (woken : Nat → Prop) : (b.wake woken).Alert :=
  ⟨alert.window, alert.windows, fun k asleep => alert.waker k asleep.1⟩

/-- A stream changes, but not its window. -/
theorem change (alert : b.Alert) (id : UInt32) {f : StreamState → StreamState}
    (same : ∀ s, (f s).cell = s.cell ∧ (f s).sendWindow = s.sendWindow) : (b.change id f).Alert := by
  refine ⟨alert.window, fun id' s' found => ?_, fun k asleep id' s' found own => ?_⟩
  · rcases b.streams_change id f found with ⟨found, -⟩ | ⟨-, s, before, rfl⟩
    · exact alert.windows id' s' found
    · rw [(same s).2]
      exact alert.windows id s before
  · rcases b.streams_change id f found with ⟨found, -⟩ | ⟨-, s, before, rfl⟩
    · exact alert.waker k asleep id' s' found own
    · rw [(same s).1] at own
      rw [(same s).2]
      exact alert.waker k asleep id s before own

theorem credit (alert : b.Alert) (n : Int) : (b.credit n).Alert := by
  refine ⟨alert.window.update n, alert.windows, fun k asleep id s found own => ?_⟩
  obtain ⟨asleep, unwoken⟩ := asleep
  rcases alert.waker k asleep id s found own with mem | mem
  · exact .inl ((SendWindow.mem_update mem n).resolve_right unwoken)
  · exact .inr mem

theorem creditStream (alert : b.Alert) (id : UInt32) (n : Int) : (b.creditStream id n).Alert := by
  refine ⟨alert.window, fun id' s' found => ?_, fun k asleep id' s' found own => ?_⟩
  · rcases b.streams_change id _ found with ⟨found, -⟩ | ⟨-, s, before, rfl⟩
    · exact alert.windows id' s' found
    · exact (alert.windows id s before).update n
  · obtain ⟨asleep, unwoken⟩ := asleep
    rcases b.streams_change id _ found with ⟨found, -⟩ | ⟨-, s, before, rfl⟩
    · exact alert.waker k asleep id' s' found own
    · rcases alert.waker k asleep id s before own with mem | mem
      · exact .inl mem
      · exact .inr ((SendWindow.mem_update mem n).resolve_right fun woken => unwoken ⟨s, before, woken⟩)

theorem adjust (alert : b.Alert) (initial : Int) : (b.adjust initial).Alert := by
  refine ⟨alert.window, fun id s' found => ?_, fun k asleep id s' found own => ?_⟩
  · obtain ⟨s, before, rfl⟩ := Option.map_eq_some_iff.mp found
    exact (alert.windows id s before).update _
  · obtain ⟨asleep, unwoken⟩ := asleep
    obtain ⟨s, before, rfl⟩ := Option.map_eq_some_iff.mp found
    rcases alert.waker k asleep id s before own with mem | mem
    · exact .inl mem
    · exact .inr ((SendWindow.mem_update mem _).resolve_right fun woken =>
        unwoken ⟨id, s, before, woken⟩)

theorem spend (alert : b.Alert) {n : Nat} (funded : (n : Int) ≤ b.window.value)
    (here : b.streams id = some s) (covered : (n : Int) ≤ s.sendWindow.value) :
    (b.spend id n).Alert := by
  have nonneg := Int.natCast_nonneg n
  refine ⟨alert.window.consume nonneg funded, fun id' s' found => ?_, fun k asleep id' s' found own => ?_⟩
  · rcases streams_change _ id _ found with ⟨found, -⟩ | ⟨-, t, before, rfl⟩
    · exact alert.windows id' s' found
    · obtain rfl := Option.some.inj (here.symm.trans before)
      exact (alert.windows id s here).consume nonneg covered
  · rcases streams_change _ id _ found with ⟨found, -⟩ | ⟨-, s, before, rfl⟩
    · exact alert.waker k asleep id' s' found own
    · exact alert.waker k asleep id s before own

/-- An upload falls asleep, if a window is not ready. -/
theorem wait (alert : b.Alert) {k : Nat} (found : b.streams id = some s)
    (unready : (b.window.isReady && s.sendWindow.isReady) = false)
    (own : ∀ id' s', b.streams id' = some s' → s'.cell = k → id' = id) : (b.wait id k).Alert := by
  have grown {w : SendWindow} {j : Nat} (mem : j ∈ w.wakers) :
      j ∈ (if w.isReady then w else w.registerWaker k).wakers := by
    split
    · exact mem
    · exact List.mem_append_left _ mem
  have window (w : SendWindow) (quiet : w.Quiet) : (if w.isReady then w else w.registerWaker k).Quiet := by
    split
    · exact quiet
    next unready => exact SendWindow.quiet_registerWaker unready k
  have stream (s : StreamState) : (if s.sendWindow.isReady then s
      else { s with sendWindow := s.sendWindow.registerWaker k } : StreamState) =
      { s with sendWindow := if s.sendWindow.isReady then s.sendWindow
          else s.sendWindow.registerWaker k } := by
    split <;> rfl
  refine ⟨window _ alert.window, fun id' s' found' => ?_, fun j asleep id' s' found' same => ?_⟩
  · rcases streams_change _ id _ found' with ⟨found', -⟩ | ⟨-, t, before, rfl⟩
    · exact alert.windows id' s' found'
    · rw [stream]
      exact window _ (alert.windows id t before)
  · rcases streams_change _ id _ found' with ⟨found', ne⟩ | ⟨-, t, before, rfl⟩
    · rcases asleep with rfl | asleep
      · exact absurd (own id' s' found' same) ne
      · exact (alert.waker j asleep id' s' found' same).imp_left grown
    · rw [stream] at same ⊢
      rcases asleep with rfl | asleep
      · obtain rfl := Option.some.inj (found.symm.trans before)
        rcases Bool.and_eq_false_iff.mp unready with unready | unready
        · refine .inl ?_
          show _ ∈ (if b.window.isReady then b.window else _).wakers
          simp [unready, SendWindow.registerWaker]
        · refine .inr ?_
          simp [unready, SendWindow.registerWaker]
      · exact (alert.waker j asleep id t before same).imp grown grown

theorem fail (alert : b.Alert) (gone : UInt32 → Prop) : (b.fail gone).Alert := by
  have stays {id : UInt32} {s : StreamState} (found : (b.fail gone).streams id = some s) :
      b.streams id = some s := by
    simp only [Board.fail] at found
    split at found
    · cases found
    · exact found
  exact ⟨alert.window, fun id s found => alert.windows id s (stays found),
    fun k asleep id s found => alert.waker k asleep.1 id s (stays found)⟩

theorem close (alert : b.Alert) : b.close.Alert := by
  refine ⟨fun _ => rfl, alert.windows, fun k asleep id s found own => ?_⟩
  obtain ⟨asleep, unwoken⟩ := asleep
  exact .inr ((alert.waker k asleep id s found own).resolve_left unwoken)

theorem tear (alert : b.Alert) : b.tear.Alert := alert.close.fail _

theorem drop (alert : b.Alert) (id : UInt32) : (b.drop id).Alert := by
  have stays {id' : UInt32} {s : StreamState} (found : (b.drop id).streams id' = some s) :
      b.streams id' = some s := by
    rcases eq_or_ne id' id with rfl | ne
    · simp only [Board.drop, Function.update_self] at found
      cases found
    · simp only [Board.drop, Function.update_of_ne ne] at found
      exact found
  exact ⟨alert.window, fun id s found => alert.windows id s (stays found),
    fun k asleep id s found => alert.waker k asleep id s (stays found)⟩

theorem retire (alert : b.Alert) (id : UInt32) : (b.retire id).Alert := by
  unfold Board.retire
  split
  · exact alert.drop id
  · exact alert

theorem data (alert : b.Alert) (id : UInt32) (endStream : Bool) : (b.data id endStream).Alert := by
  have noted : Alert { b with
      ended := fun k => b.ended k ∨ endStream = true ∧ ∃ s, b.streams id = some s ∧ s.cell = k } :=
    ⟨alert.window, alert.windows, alert.waker⟩
  exact noted.change id fun s => ⟨rfl, rfl⟩

theorem block (alert : b.Alert) (id : UInt32) (headers : List Header) (endStream : Bool) :
    (b.block id headers endStream).Alert := by
  have noted (ended answered : Nat → Prop) :
      Alert { b with ended := ended, answered := answered } :=
    ⟨alert.window, alert.windows, alert.waker⟩
  refine (noted _ _).change id fun s => ?_
  split <;> exact ⟨rfl, rfl⟩

theorem enter (alert : b.Alert) (id : UInt32) (quiet : s.sendWindow.Quiet) (own : s.cell = b.opened) :
    (b.enter id s).Alert := by
  have dropped := alert.drop id
  refine ⟨alert.window, fun id' s' found => ?_, fun k asleep id' s' found same => ?_⟩
  · rcases eq_or_ne id' id with rfl | ne
    · simp only [Board.enter, Function.update_self, Option.some.injEq] at found
      rw [← found]
      exact quiet
    · simp only [Board.enter, Function.update_of_ne ne] at found
      exact dropped.windows id' s' found
  · obtain ⟨asleep, old⟩ := asleep
    rcases eq_or_ne id' id with rfl | ne
    · simp only [Board.enter, Function.update_self, Option.some.injEq] at found
      rw [← found] at same
      exact absurd (same.symm.trans own) old
    · simp only [Board.enter, Function.update_of_ne ne] at found
      exact dropped.waker k asleep id' s' found same

end Alert

end Board

/-! ## Runs -/

namespace Client

variable {c d : Client} {b : Board}

/-- The stream of a cell is under the id of the cell. -/
theorem own_id (served : Served c) {k : Nat} {id : UInt32} {s : StreamState}
    (found : c.streams.lookup id = some s) (own : s.cell = k) : id = (c.cells k).id := by
  rw [← own]
  exact (served.mapped id s found).2.1.symm

theorem alert_deed {a : Action} (deed : Deed c a b) (served : Served c) (alert : c.board.Alert) :
    b.Alert := by
  cases deed with
  | calm => exact alert
  | tear gone live => exact (alert.fail gone).tear
  | tearAdjusted initial live => exact (alert.adjust initial).tear
  | adjust found valid => exact alert.adjust _
  | credit valid => exact alert.credit _
  | creditStream stream nonzero valid => exact alert.creditStream _ _
  | fail cuts => exact alert.fail _
  | data valid =>
      split
      · exact (alert.data _ _).retire _
      · exact alert.data _ _
  | block headers valid ends =>
      split
      · exact (alert.block _ headers _).retire _
      · exact alert.block _ headers _
  | poll => exact alert.wake _
  | spend found funded covered => exact (alert.spend funded found covered).wake _
  | wait sending live found unready => exact alert.wait found unready fun id s found => own_id served found
  | @finish k s pulled found =>
      have half := alert.change (c.cells k).id (f := fun s => { s with localClosed := true })
        fun s => ⟨rfl, rfl⟩
      exact (half.wake _).retire _
  | enter opens body => exact alert.enter _ (SendWindow.quiet_new _) rfl

theorem alert_step (sound : c.Sealed) (served : Served c) (alert : c.board.Alert) (a : Action) :
    (c.step a).board.Alert :=
  alert_deed (deed_step sound a) served alert

theorem board_connect (options : ConnectOptions) :
    (connect options).board = (fresh (options.headerTableSize.getD 4096)).board := by
  unfold connect
  simp only []
  split
  · rw [board_sendFrame, board_sendFrame, board_record]
  · rw [board_sendFrame, board_record]

theorem alert_connect (options : ConnectOptions) : (connect options).board.Alert := by
  rw [board_connect]
  refine ⟨SendWindow.quiet_new _, fun id s found => ?_, fun k asleep => ?_⟩
  · cases found
  · cases asleep

theorem alert_after (options : ConnectOptions) (actions : List Action) :
    (after options actions).board.Alert := by
  have kept (c : Client) (a : Action) : c.Sealed ∧ Attended c ∧ c.board.Alert →
      (c.step a).Sealed ∧ Attended (c.step a) ∧ (c.step a).board.Alert := by
    rintro ⟨sound, attended, alert⟩
    exact ⟨sealed_step c a sound, attended_step attended a,
      alert_step sound attended.served alert a⟩
  exact (Machine.run_invariant (P := fun c => c.Sealed ∧ Attended c ∧ c.board.Alert) kept
    ⟨sealed_connect options, attended_connect options, alert_connect options⟩ actions).2.2

/-- An upload whose stream is in the map does not sleep while both windows are positive. -/
theorem awake_while_positive (options : ConnectOptions) (actions : List Action) {k : Nat}
    (asleep : ((after options actions).cells k).parked = true) {id : UInt32} {s : StreamState}
    (found : (after options actions).streams.lookup id = some s) (own : s.cell = k) :
    ¬ (0 < (after options actions).connSendWindow.value ∧ 0 < s.sendWindow.value) := by
  rintro ⟨conn, stream⟩
  have ready {w : SendWindow} (positive : 0 < w.value) : w.isReady = true := by
    rw [SendWindow.isReady, Bool.or_eq_true]
    exact .inl (decide_eq_true positive)
  have alert := alert_after options actions
  rcases alert.waker k asleep id s found own with mem | mem
  · have empty : (after options actions).connSendWindow.wakers = [] := alert.window (ready conn)
    have mem : k ∈ (after options actions).connSendWindow.wakers := mem
    rw [empty] at mem
    cases mem
  · rw [alert.windows id s found (ready stream)] at mem
    cases mem

/-- The peer allows no bytes on a new stream, and an upload falls asleep. -/
def emptyWindow : List Action :=
  [.frame (.settings false { initialWindowSize := some 0 }), .request (.bare (.bytes [0x61])),
    .pump 0, .pump 0]

theorem awake_while_positive_emptyWindow :
    ((after {} emptyWindow).cells 0).parked = true ∧
      ∃ s, (after {} emptyWindow).streams.lookup 1 = some s ∧
        ¬ (0 < (after {} emptyWindow).connSendWindow.value ∧ 0 < s.sendWindow.value) := by
  have asleep : ((after {} emptyWindow).cells 0).parked = true := by decide +kernel
  have opened : ((after {} emptyWindow).streams.lookup 1).isSome = true := by decide +kernel
  have first : ((after {} emptyWindow).streams.lookup 1).any (fun s => s.cell == 0) = true := by
    decide +kernel
  obtain ⟨s, found⟩ := Option.isSome_iff_exists.mp opened
  rw [found, Option.any_some, beq_iff_eq] at first
  exact ⟨asleep, s, found, awake_while_positive {} emptyWindow asleep found first⟩

end Client

end H2ts
