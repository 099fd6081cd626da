import H2ts.Connection.Chunks

/-!
# Who waits for what

An upload sleeps on send windows, and a reader on the end of its body.  The `Board` of a
client shows what matters to them: the windows with the wakers they hold, the streams, which
uploads are asleep, which bodies have ended and which heads were delivered.  For each function
of the client there is one lemma that says what it does to the board.
-/

namespace H2ts

open Hpack

structure Board where
  closed : Bool
  window : SendWindow
  initial : Int
  streams : UInt32 → Option StreamState
  /-- The upload is parked. -/
  asleep : Nat → Prop
  ended : Nat → Prop
  /-- The head was delivered. -/
  answered : Nat → Prop
  opened : Nat

/-! ## What happens on a board -/

namespace Board

variable {b b' : Board} {id : UInt32} {s : StreamState}

theorem ext (closed : b.closed = b'.closed) (window : b.window = b'.window)
    (initial : b.initial = b'.initial) (streams : ∀ id, b.streams id = b'.streams id)
    (asleep : ∀ k, b.asleep k ↔ b'.asleep k) (ended : ∀ k, b.ended k ↔ b'.ended k)
    (answered : ∀ k, b.answered k ↔ b'.answered k) (opened : b.opened = b'.opened) : b = b' := by
  have asleep : b.asleep = b'.asleep := funext fun k => propext (asleep k)
  have ended : b.ended = b'.ended := funext fun k => propext (ended k)
  have answered : b.answered = b'.answered := funext fun k => propext (answered k)
  have streams : b.streams = b'.streams := funext streams
  cases b
  cases b'
  simp only at closed window initial streams asleep ended answered opened
  rw [closed, window, initial, streams, asleep, ended, answered, opened]

/-- Wake uploads. -/
def wake (b : Board) (woken : Nat → Prop) : Board :=
  { b with asleep := fun k => b.asleep k ∧ ¬ woken k }

/-- Change the stream of an id, if it is in the map. -/
def change (b : Board) (id : UInt32) (f : StreamState → StreamState) : Board :=
  { b with streams := Function.update b.streams id ((b.streams id).map f) }

def credit (b : Board) (n : Int) : Board :=
  { b with window := (b.window.update n).1 }.wake (· ∈ (b.window.update n).2)

def creditStream (b : Board) (id : UInt32) (n : Int) : Board :=
  (b.change id fun s => { s with sendWindow := (s.sendWindow.update n).1 }).wake fun k =>
    ∃ s, b.streams id = some s ∧ k ∈ (s.sendWindow.update n).2

/-- Move every window by the change of the initial window. -/
def adjust (b : Board) (initial : Int) : Board :=
  let delta := initial - b.initial
  { b with
    initial := initial
    streams := fun id => (b.streams id).map fun s =>
      { s with sendWindow := (s.sendWindow.adjust delta).1 }
    asleep := fun k => b.asleep k ∧
      ¬ ∃ id s, b.streams id = some s ∧ k ∈ (s.sendWindow.adjust delta).2 }

/-- Take bytes off both windows. -/
def spend (b : Board) (id : UInt32) (n : Int) : Board :=
  let b := { b with window := b.window.consume n }
  b.change id fun s => { s with sendWindow := s.sendWindow.consume n }

/-- An upload falls asleep, on the windows that are not ready. -/
def wait (b : Board) (id : UInt32) (k : Nat) : Board :=
  let b := { b with
    window := if b.window.isReady then b.window else b.window.registerWaker k
    asleep := fun j => j = k ∨ b.asleep j }
  b.change id fun s =>
    if s.sendWindow.isReady then s else { s with sendWindow := s.sendWindow.registerWaker k }

open Classical in
/-- Take streams out of the map and fail them. -/
noncomputable def fail (b : Board) (gone : UInt32 → Prop) : Board :=
  let taken (s : StreamState) := ∃ id, gone id ∧ b.streams id = some s
  { b with
    streams := fun id => if gone id then none else b.streams id
    asleep := fun k => b.asleep k ∧ ¬ ∃ s, taken s ∧ k ∈ s.sendWindow.wakers
    ended := fun k => b.ended k ∨ ∃ s, taken s ∧ s.cell = k
    answered := fun k => b.answered k ∧ ¬ ∃ s, taken s ∧ s.cell = k ∧ s.headTx = true }

/-- Close the connection window. -/
def close (b : Board) : Board :=
  { b with closed := true, window := b.window.close.1 }.wake (· ∈ b.window.close.2)

/-- The teardown. -/
noncomputable def tear (b : Board) : Board := b.close.fail fun _ => True

/-- Drop a stream that leaves the map. -/
def drop (b : Board) (id : UInt32) : Board :=
  { b with
    streams := Function.update b.streams id none
    answered := fun k => b.answered k ∧
      ¬ ∃ s, b.streams id = some s ∧ s.cell = k ∧ s.headTx = true }

/-- Drop a stream once both directions have ended. -/
def retire (b : Board) (id : UInt32) : Board :=
  if (b.streams id).any fun s => s.localClosed && s.remoteClosed then b.drop id else b

/-- A DATA frame. -/
def data (b : Board) (id : UInt32) (endStream : Bool) : Board :=
  let b := { b with
    ended := fun k => b.ended k ∨ endStream = true ∧ ∃ s, b.streams id = some s ∧ s.cell = k }
  b.change id fun s => s.closeRemote endStream

/-- A header block. -/
def block (b : Board) (id : UInt32) (headers : List Header) (endStream : Bool) : Board :=
  let taken (s : StreamState) := b.streams id = some s ∧ (!s.gotHead && isInterim headers) = false
  let b := { b with
    ended := fun k => b.ended k ∨ endStream = true ∧ ∃ s, taken s ∧ s.cell = k
    answered := fun k => b.answered k ∨
      ∃ s, taken s ∧ s.cell = k ∧ s.gotHead = false ∧ s.headTx = true }
  b.change id fun s =>
    if !s.gotHead && isInterim headers then s.closeRemote endStream
    else { s.closeRemote endStream with gotHead := true, headTx := s.gotHead && s.headTx }

/-- A stream is opened.  One that had its id is dropped. -/
def enter (b : Board) (id : UInt32) (s : StreamState) : Board :=
  let b := b.drop id
  { b with
    streams := Function.update b.streams id (some s)
    asleep := fun k => b.asleep k ∧ k ≠ b.opened
    ended := fun k => b.ended k ∧ k ≠ b.opened
    answered := fun k => b.answered k ∧ k ≠ b.opened
    opened := b.opened + 1 }

theorem change_none (missing : b.streams id = none) (f : StreamState → StreamState) :
    b.change id f = b := by
  rw [change, missing, Option.map_none, ← missing, Function.update_eq_self]

theorem fail_nobody (b : Board) {gone : UInt32 → Prop} (nobody : ∀ id, gone id → b.streams id = none) :
    b.fail gone = b := by
  have untaken (s : StreamState) : ¬ ∃ id, gone id ∧ b.streams id = some s := by
    rintro ⟨id, left, found⟩
    rw [nobody id left] at found
    cases found
  refine Board.ext rfl rfl rfl (fun id => ?_) (fun k => ?_) (fun k => ?_) (fun k => ?_) rfl
  · simp only [fail]
    split
    next left => exact (nobody id left).symm
    next => rfl
  · simp only [fail, untaken, false_and, exists_false, not_false_eq_true, and_true]
  · simp only [fail, untaken, false_and, exists_false, or_false]
  · simp only [fail, untaken, false_and, exists_false, not_false_eq_true, and_true]

/-- Streams that fail one after the other. -/
theorem fail_fail (b : Board) (gone more : UInt32 → Prop) :
    (b.fail gone).fail more = b.fail fun id => gone id ∨ more id := by
  have streams (id : UInt32) (s : StreamState) : (b.fail gone).streams id = some s ↔
      ¬ gone id ∧ b.streams id = some s := by
    simp only [fail]
    split
    next left => simp [left]
    next stays => simp [stays]
  have taken {P : StreamState → Prop} :
      (∃ s, (∃ id, (gone id ∨ more id) ∧ b.streams id = some s) ∧ P s) ↔
        (∃ s, (∃ id, gone id ∧ b.streams id = some s) ∧ P s) ∨
          ∃ s, (∃ id, more id ∧ (b.fail gone).streams id = some s) ∧ P s := by
    constructor
    · rintro ⟨s, ⟨id, left, found⟩, holds⟩
      by_cases first : gone id
      · exact .inl ⟨s, ⟨id, first, found⟩, holds⟩
      · exact .inr ⟨s, ⟨id, left.resolve_left first, (streams id s).mpr ⟨first, found⟩⟩, holds⟩
    · rintro (⟨s, ⟨id, left, found⟩, holds⟩ | ⟨s, ⟨id, left, found⟩, holds⟩)
      · exact ⟨s, ⟨id, .inl left, found⟩, holds⟩
      · exact ⟨s, ⟨id, .inr left, ((streams id s).mp found).2⟩, holds⟩
  refine Board.ext rfl rfl rfl (fun id => ?_) (fun k => ?_) (fun k => ?_) (fun k => ?_) rfl
  · by_cases first : gone id <;> by_cases second : more id <;> simp [fail, first, second]
  · show (b.asleep k ∧ _) ∧ _ ↔ b.asleep k ∧ _
    rw [taken, not_or, and_assoc]
  · show (b.ended k ∨ _) ∨ _ ↔ b.ended k ∨ _
    rw [taken, or_assoc]
  · show (b.answered k ∧ _) ∧ _ ↔ b.answered k ∧ _
    rw [taken, not_or, and_assoc]

/-- Only streams in the map fail. -/
theorem fail_congr {gone more : UInt32 → Prop}
    (same : ∀ id s, b.streams id = some s → (gone id ↔ more id)) : b.fail gone = b.fail more := by
  have absorbed {gone more : UInt32 → Prop} (less : ∀ id s, b.streams id = some s → more id → gone id) :
      b.fail gone = b.fail fun id => gone id ∨ more id := by
    rw [← fail_fail]
    refine (fail_nobody _ fun id left => ?_).symm
    simp only [fail]
    split
    next => rfl
    next stays =>
      cases found : b.streams id with
      | none => rfl
      | some s => exact absurd (less id s found left) stays
  have swapped : (fun id => gone id ∨ more id) = fun id => more id ∨ gone id :=
    funext fun id => propext or_comm
  rw [absorbed fun id s found => (same id s found).mpr, swapped,
    ← absorbed fun id s found => (same id s found).mp]

end Board

namespace Client

variable {c d : Client} {id : UInt32} {k : Nat} {s : StreamState}

def board (c : Client) : Board where
  closed := c.closed
  window := c.connSendWindow
  initial := c.remote.initialWindowSize
  streams := fun id => c.streams.lookup id
  asleep := fun k => (c.cells k).parked = true
  ended := fun k => (c.cells k).recv.ended = true
  answered := fun k => ∃ head, (c.cells k).head = .sent (.ok head)
  opened := c.opened

/-! ## Updates -/

/-- What is not on the board. -/
theorem board_still (closed : d.closed = c.closed) (window : d.connSendWindow = c.connSendWindow)
    (initial : d.remote.initialWindowSize = c.remote.initialWindowSize)
    (streams : d.streams = c.streams) (opened : d.opened = c.opened)
    (cells : ∀ k, (d.cells k).parked = (c.cells k).parked ∧
      (d.cells k).recv.ended = (c.cells k).recv.ended ∧ (d.cells k).head = (c.cells k).head) :
    d.board = c.board := by
  refine Board.ext closed window initial (fun id => ?_) (fun k => ?_) (fun k => ?_) (fun k => ?_) opened
  · simp only [board, streams]
  · simp only [board, (cells k).1]
  · simp only [board, (cells k).2.1]
  · simp only [board, (cells k).2.2]

theorem board_modifyCell (c : Client) (k : Nat) {f : Cell → Cell}
    (same : ∀ x, (f x).parked = x.parked ∧ (f x).recv.ended = x.recv.ended ∧ (f x).head = x.head) :
    (c.modifyCell k f).board = c.board := by
  refine board_still rfl rfl rfl rfl rfl fun j => ?_
  rcases eq_or_ne j k with rfl | ne
  · simp only [modifyCell, Function.update_self]
    exact same _
  · simp only [modifyCell, Function.update_of_ne ne]
    exact ⟨trivial, trivial, trivial⟩

theorem board_modifyStream (c : Client) (id : UInt32) (f : StreamState → StreamState) :
    (c.modifyStream id f).board = c.board.change id f := by
  refine Board.ext rfl rfl rfl (fun id' => ?_) (fun k => .rfl) (fun k => .rfl) (fun k => .rfl) rfl
  simp only [board, Board.change, modifyStream]
  rcases eq_or_ne id' id with rfl | ne
  · rw [KeyMap.lookup_modify, Function.update_self]
  · rw [KeyMap.lookup_modify_ne ne, Function.update_of_ne ne]

@[simp] theorem board_record (c : Client) (e : Event) : (c.record e).board = c.board := rfl

@[simp] theorem board_sendFrame (c : Client) (frame : Frame) : (c.sendFrame frame).board = c.board := by
  unfold sendFrame
  split <;> rfl

@[simp] theorem board_wakeSlotWaiters (c : Client) : c.wakeSlotWaiters.board = c.board := rfl

theorem board_wakePumps (c : Client) (wakers : List Nat) :
    (c.wakePumps wakers).board = c.board.wake (· ∈ wakers) := by
  refine Board.ext rfl rfl rfl (fun id => rfl) (fun k => ?_) (fun k => ?_) (fun k => ?_) rfl <;>
  simp only [board, Board.wake, wakePumps] <;>
  by_cases mem : k ∈ wakers <;> simp [mem]

theorem board_setPump (c : Client) (k : Nat) (pump : Pump) :
    (c.setPump k pump false).board = c.board.wake (· = k) := by
  refine Board.ext rfl rfl rfl (fun id => rfl) (fun j => ?_) (fun j => ?_) (fun j => ?_) rfl <;>
  simp only [board, Board.wake, setPump, modifyCell] <;>
  rcases eq_or_ne j k with rfl | ne <;> simp [*]

/-! ## Streams that leave -/

/-- A stream that is dropped delivers no head any more. -/
theorem answered_drop (s : StreamState) (x : Cell) :
    (∃ head, (s.drop x).head = .sent (.ok head)) ↔ (∃ head, x.head = .sent (.ok head)) ∧ s.headTx ≠ true := by
  unfold StreamState.drop
  split
  next headTx => simp [headTx]
  next headTx => simp [headTx]

theorem fail_spec (s : StreamState) (x : Cell) (err : H2Error) :
    ((s.fail x err).1.drop (s.fail x err).2).parked = x.parked ∧
      ((s.fail x err).1.drop (s.fail x err).2).recv.ended = true ∧
      ((∃ head, ((s.fail x err).1.drop (s.fail x err).2).head = .sent (.ok head)) ↔
        (∃ head, x.head = .sent (.ok head)) ∧ s.headTx ≠ true) := by
  unfold StreamState.drop StreamState.fail StreamState.sendHead
  cases s.gotHead <;> cases headTx : s.headTx <;> simp [headTx, RecvState.fail]

theorem board_removeAndFail (c : Client) (id : UInt32) (err : H2Error) :
    (c.removeAndFail id err).board = c.board.fail (· = id) := by
  cases found : c.streams.lookup id with
  | none =>
      have nobody : ∀ id', id' = id → c.board.streams id' = none := by
        rintro _ rfl
        exact found
      rw [Board.fail_nobody _ nobody]
      simp only [removeAndFail, found]
  | some s =>
      have taken {P : StreamState → Prop} :
          (∃ s', (∃ id', id' = id ∧ c.board.streams id' = some s') ∧ P s') ↔ P s := by
        simp only [board, exists_eq_left, found, Option.some.injEq]
        exact exists_eq_left'
      have woken := c.board_wakePumps s.sendWindow.wakers
      have cells : (c.removeAndFail id err).cells =
          Function.update (c.wakePumps s.sendWindow.wakers).cells s.cell
            ((s.fail ((c.wakePumps s.sendWindow.wakers).cells s.cell) err).1.drop
              (s.fail ((c.wakePumps s.sendWindow.wakers).cells s.cell) err).2) := by
        simp only [removeAndFail, found, record, modifyCell, cell_fail]
        rfl
      have own := fail_spec s ((c.wakePumps s.sendWindow.wakers).cells s.cell) err
      have self : (c.removeAndFail id err).cells s.cell = _ :=
        (congrFun cells s.cell).trans (Function.update_self _ _ _)
      rw [← self] at own
      have other {k : Nat} (ne : k ≠ s.cell) : (c.removeAndFail id err).cells k =
          (c.wakePumps s.sendWindow.wakers).cells k := by rw [cells, Function.update_of_ne ne]
      refine Board.ext ?_ ?_ ?_ (fun id' => ?_) (fun k => ?_) (fun k => ?_) (fun k => ?_) ?_
      · simp only [board, removeAndFail, found, Board.fail]
        rfl
      · simp only [board, removeAndFail, found, Board.fail]
        rfl
      · simp only [board, removeAndFail, found, Board.fail]
        rfl
      · have streams : (c.removeAndFail id err).streams = c.streams.erase id := by
          simp only [removeAndFail, found, record, modifyCell, wakePumps]
        simp only [board, streams, Board.fail]
        split
        next left =>
          rw [left]
          exact AList.lookup_erase id c.streams
        next stays => exact AList.lookup_erase_ne stays
      · have parked : ((c.removeAndFail id err).cells k).parked =
            ((c.wakePumps s.sendWindow.wakers).cells k).parked := by
          rcases eq_or_ne k s.cell with rfl | ne
          · exact own.1
          · rw [other ne]
        have woken := congrFun (congrArg Board.asleep woken) k
        simp only [Board.fail, taken]
        show ((c.removeAndFail id err).cells k).parked = true ↔ _
        rw [parked]
        exact woken.to_iff
      · simp only [Board.fail, taken]
        show ((c.removeAndFail id err).cells k).recv.ended = true ↔ _
        rcases eq_or_ne k s.cell with rfl | ne
        · simp only [own.2.1, or_true]
        · rw [other ne]
          have woken := congrFun (congrArg Board.ended woken) k
          simp only [Ne.symm ne, or_false]
          exact woken.to_iff
      · have woken := congrFun (congrArg Board.answered woken) k
        simp only [Board.fail, taken]
        show (∃ head, ((c.removeAndFail id err).cells k).head = _) ↔ _
        rcases eq_or_ne k s.cell with rfl | ne
        · rw [own.2.2]
          simp only [true_and]
          exact and_congr_left fun _ => woken.to_iff
        · rw [other ne]
          simp only [Ne.symm ne, false_and, not_false_eq_true, and_true]
          exact woken.to_iff
      · simp only [board, removeAndFail, found, Board.fail]
        rfl

theorem board_removeAll (c : Client) (ids : List UInt32) (err : H2Error) :
    (ids.foldl (fun c id => c.removeAndFail id err) c).board = c.board.fail (· ∈ ids) := by
  induction ids generalizing c with
  | nil =>
      refine (Board.fail_nobody _ fun id mem => ?_).symm
      cases mem
  | cons id ids ih =>
      rw [List.foldl_cons, ih, board_removeAndFail, Board.fail_fail]
      simp only [List.mem_cons]

theorem board_resetStream (c : Client) (id : UInt32) (code : ErrorCode) :
    (c.resetStream id code).board = c.board.fail (· = id) := by
  unfold resetStream
  simp only [board_wakeSlotWaiters, board_removeAndFail, board_record, board_sendFrame]

/-- The cells of a stream that is dropped. -/
theorem board_drop (found : c.streams.lookup id = some s) (closed : d.closed = c.closed)
    (window : d.connSendWindow = c.connSendWindow)
    (initial : d.remote.initialWindowSize = c.remote.initialWindowSize) (opened : d.opened = c.opened)
    (streams : d.streams = c.streams.erase id)
    (cells : d.cells = Function.update c.cells s.cell (s.drop (c.cells s.cell))) :
    d.board = c.board.drop id := by
  have taken {P : StreamState → Prop} :
      (∃ s', c.board.streams id = some s' ∧ P s') ↔ P s := by
    simp only [board, found, Option.some.injEq]
    exact exists_eq_left'
  have same : (s.drop (c.cells s.cell)).parked = (c.cells s.cell).parked ∧
      (s.drop (c.cells s.cell)).recv = (c.cells s.cell).recv := by
    unfold StreamState.drop
    split <;> exact ⟨rfl, rfl⟩
  refine Board.ext closed window initial (fun id' => ?_) (fun k => ?_) (fun k => ?_) (fun k => ?_) opened
  · simp only [board, streams, Board.drop]
    rcases eq_or_ne id' id with rfl | ne
    · rw [Function.update_self, AList.lookup_erase]
    · rw [Function.update_of_ne ne, AList.lookup_erase_ne ne]
  · simp only [board, cells, Board.drop]
    rcases eq_or_ne k s.cell with rfl | ne
    · rw [Function.update_self, same.1]
    · rw [Function.update_of_ne ne]
  · simp only [board, cells, Board.drop]
    rcases eq_or_ne k s.cell with rfl | ne
    · rw [Function.update_self, same.2]
    · rw [Function.update_of_ne ne]
  · simp only [Board.drop, taken]
    simp only [board, cells]
    rcases eq_or_ne k s.cell with rfl | ne
    · rw [Function.update_self, answered_drop]
      simp
    · rw [Function.update_of_ne ne]
      simp [Ne.symm ne]

theorem board_retireIfFullyClosed (c : Client) (id : UInt32) :
    (c.retireIfFullyClosed id).board = c.board.retire id := by
  have streams : c.board.streams id = c.streams.lookup id := rfl
  unfold retireIfFullyClosed Board.retire
  rw [streams]
  cases found : c.streams.lookup id with
  | none => rfl
  | some s =>
      simp only [Option.any_some]
      split
      · exact board_drop found rfl rfl rfl rfl rfl rfl
      · rfl

@[simp] theorem board_replenishRecvWindow (c : Client) (id : UInt32) (n : Nat) :
    (c.replenishRecvWindow id n).board = c.board := by
  unfold replenishRecvWindow
  split
  · rfl
  · simp only []
    split
    · rw [board_sendFrame, board_sendFrame]
    · rw [board_sendFrame]

/-! ## Teardown -/

theorem board_shutDown (c : Client) (err : H2Error) : (c.shutDown err).board = c.board.close :=
  board_wakePumps _ _

theorem board_destroy (live : c.closed = false) (err : H2Error) : (c.destroy err).board = c.board.tear := by
  have shut := c.board_shutDown err
  have removed := (c.shutDown err).board_removeAll (c.shutDown err).streams.keys err
  have streams : (c.shutDown err).streams = c.streams := rfl
  have everybody : (c.board.close.fail (· ∈ (c.shutDown err).streams.keys)) = c.board.tear := by
    refine Board.fail_congr fun id s found => iff_true_intro ?_
    have found : c.streams.lookup id = some s := found
    refine AList.mem_keys.mp (AList.lookup_isSome.mp ?_)
    rw [streams, found]
    rfl
  rw [shut, everybody] at removed
  unfold destroy
  simp only [live, Bool.false_eq_true, if_false]
  exact removed

theorem board_connectionError (live : c.closed = false) (err : H2Error) :
    (c.connectionError err).board = c.board.tear := by
  unfold connectionError
  rw [board_destroy, board_sendFrame]
  unfold sendFrame
  split <;> exact live

/-! ## Frames -/

theorem board_adjustWindows (c : Client) (initial : Int) :
    (c.adjustWindows initial).board = c.board.adjust initial := by
  unfold adjustWindows
  simp only []
  rw [board_wakePumps]
  refine Board.ext rfl rfl rfl (fun id => ?_) (fun k => ?_) (fun k => .rfl) (fun k => .rfl) rfl
  · simp only [board, Board.wake, Board.adjust, KeyMap.lookup_mapWithKey]
  · simp only [board, Board.wake, Board.adjust, List.mem_flatMap]
    refine and_congr_right fun _ => not_congr ⟨?_, ?_⟩
    · rintro ⟨⟨id, s⟩, mem, woken⟩
      exact ⟨id, s, AList.mem_lookup_iff.mpr mem, woken⟩
    · rintro ⟨id, s, found, woken⟩
      exact ⟨⟨id, s⟩, AList.mem_lookup_iff.mp found, woken⟩

theorem board_applyOtherSettings (c : Client) (s : Settings) :
    (c.applyOtherSettings s).board = c.board := by
  unfold applyOtherSettings
  cases s.maxConcurrentStreams <;> rfl

theorem board_applyRemoteSettings (c : Client) (s : Settings) :
    (c.applyRemoteSettings s).1.board = match s.initialWindowSize with
      | none => c.board
      | some iw => if iw > 0x7fffffff then c.board else c.board.adjust iw.toNat := by
  have rest (c : Client) : (Outcome.andThen (c.applyMaxFrameSize s.maxFrameSize) fun c =>
      (c.applyOtherSettings s, .ok ())).1.board = c.board := by
    unfold applyMaxFrameSize
    cases s.maxFrameSize with
    | none => exact board_applyOtherSettings _ _
    | some mfs =>
        simp only []
        split
        · exact board_applyOtherSettings _ _
        · rfl
  unfold applyRemoteSettings applyInitialWindowSize
  cases s.initialWindowSize with
  | none => exact rest c
  | some iw =>
      simp only []
      split
      · rfl
      · exact (rest _).trans (board_adjustWindows _ _)

/-- A stream and its cells change, by no more than the end of the body (`P`) and the head
(`Q`). -/
theorem board_withStream (found : c.streams.lookup id = some s)
    {f : StreamState → Cell → StreamState × Cell} {P Q : Prop}
    (parked : (f s (c.cells s.cell)).2.parked = (c.cells s.cell).parked)
    (ended : (f s (c.cells s.cell)).2.recv.ended = true ↔ (c.cells s.cell).recv.ended = true ∨ P)
    (answered : (∃ head, (f s (c.cells s.cell)).2.head = .sent (.ok head)) ↔
      (∃ head, (c.cells s.cell).head = .sent (.ok head)) ∨ Q) :
    (c.withStream id f).board = { c.board.change id fun _ => (f s (c.cells s.cell)).1 with
      ended := fun k => c.board.ended k ∨ P ∧ s.cell = k
      answered := fun k => c.board.answered k ∨ Q ∧ s.cell = k } := by
  have done : c.withStream id f = (c.modifyStream id fun _ => (f s (c.cells s.cell)).1).modifyCell
      s.cell fun _ => (f s (c.cells s.cell)).2 := by
    simp only [withStream, found]
  have changed := c.board_modifyStream id fun _ => (f s (c.cells s.cell)).1
  rw [done]
  refine Board.ext rfl rfl rfl (fun id' => ?_) (fun k => ?_) (fun k => ?_) (fun k => ?_) rfl
  · exact congrFun (congrArg Board.streams changed) id'
  · simp only [board, modifyCell, modifyStream, Board.change]
    rcases eq_or_ne k s.cell with rfl | ne
    · rw [Function.update_self, parked]
    · rw [Function.update_of_ne ne]
  · simp only [board, modifyCell, modifyStream]
    rcases eq_or_ne k s.cell with rfl | ne
    · rw [Function.update_self, ended]
      simp only [and_true]
    · rw [Function.update_of_ne ne]
      simp only [Ne.symm ne, and_false, or_false]
  · simp only [board, modifyCell, modifyStream]
    rcases eq_or_ne k s.cell with rfl | ne
    · rw [Function.update_self, answered]
      simp only [and_true]
    · rw [Function.update_of_ne ne]
      simp only [Ne.symm ne, and_false, or_false]

theorem withStream_missing (missing : c.streams.lookup id = none)
    (f : StreamState → Cell → StreamState × Cell) : c.withStream id f = c := by
  simp only [withStream, missing]

/-- The cells of a stream that gets a header block. -/
theorem receiveHeaders_spec (s : StreamState) (x : Cell) (headers : List Header) (endStream : Bool) :
    (s.receiveHeaders x headers endStream).1 =
        (if !s.gotHead && isInterim headers then s
        else { s with gotHead := true, headTx := s.gotHead && s.headTx }) ∧
      (s.receiveHeaders x headers endStream).2.parked = x.parked ∧
      ((s.receiveHeaders x headers endStream).2.recv.ended = true ↔ x.recv.ended = true ∨
        endStream = true ∧ (!s.gotHead && isInterim headers) = false) ∧
      ((∃ head, (s.receiveHeaders x headers endStream).2.head = .sent (.ok head)) ↔
        (∃ head, x.head = .sent (.ok head)) ∨
          (!s.gotHead && isInterim headers) = false ∧ s.gotHead = false ∧ s.headTx = true) := by
  obtain ⟨id, window, headTx, cell, gotHead, localClosed, remoteClosed⟩ := s
  have ended : x.recv.endBody.ended = true := by
    unfold RecvState.endBody
    split
    next ended => exact ended
    next => rfl
  unfold StreamState.receiveHeaders StreamState.sendHead
  cases gotHead <;> cases isInterim headers <;> cases endStream <;> cases headTx <;> simp [ended]

theorem board_receiveBlock (c : Client) (id : UInt32) (headers : List Header) (endStream : Bool) :
    (c.receiveBlock id headers endStream).board = c.board.block id headers endStream := by
  unfold receiveBlock
  cases found : c.streams.lookup id with
  | none =>
      have missing : c.board.streams id = none := found
      rw [withStream_missing (by exact found), board_record, Board.block]
      simp only [missing, reduceCtorEq, false_and, exists_false, and_false, or_false]
      exact (Board.change_none missing _).symm
  | some s =>
      have found' : (c.record (.block id headers endStream)).streams.lookup id = some s := found
      have here : c.board.streams id = some s := found
      obtain ⟨stream, parked, ended, answered⟩ :=
        receiveHeaders_spec s (c.cells s.cell) headers endStream
      refine (board_withStream found' parked ended answered).trans ?_
      have closed (s : StreamState) (f : Bool) (g h : Bool) :
          (if f then s else { s with gotHead := g, headTx := h }).closeRemote endStream =
            if f then s.closeRemote endStream
            else { s.closeRemote endStream with gotHead := g, headTx := h } := by
        split <;> rfl
      refine Board.ext rfl rfl rfl (fun id' => ?_) (fun k => .rfl) (fun k => ?_) (fun k => ?_) rfl
      · simp only [Board.block, Board.change, board_record, here, Option.map_some]
        show Function.update c.board.streams id
          (some ((s.receiveHeaders (c.cells s.cell) headers endStream).1.closeRemote endStream)) id' = _
        rw [stream, closed]
      · simp only [Board.block, Board.change, board_record, here, Option.some.injEq]
        refine or_congr_right ⟨?_, ?_⟩
        · rintro ⟨⟨ends, final⟩, own⟩
          exact ⟨ends, s, ⟨rfl, final⟩, own⟩
        · rintro ⟨ends, s', ⟨rfl, final⟩, own⟩
          exact ⟨⟨ends, final⟩, own⟩
      · simp only [Board.block, Board.change, board_record, here, Option.some.injEq]
        refine or_congr_right ⟨?_, ?_⟩
        · rintro ⟨⟨final, got, headTx⟩, own⟩
          exact ⟨s, ⟨rfl, final⟩, own, got, headTx⟩
        · rintro ⟨s', ⟨rfl, final⟩, own, got, headTx⟩
          exact ⟨⟨final, got, headTx⟩, own⟩

theorem board_receiveDataFrame (c : Client) (id : UInt32) (bytes : Bytes) (endStream : Bool) :
    (c.receiveDataFrame id bytes endStream).board = c.board.data id endStream := by
  have ended (r : RecvState) : (r.receiveData bytes endStream).ended = true ↔
      r.ended = true ∨ endStream = true := by
    unfold RecvState.receiveData
    split <;> exact Bool.or_eq_true_iff
  unfold receiveDataFrame
  cases found : c.streams.lookup id with
  | none =>
      have missing : c.board.streams id = none := found
      have absent : id ∉ (c.record (.data id bytes endStream)).streams := AList.lookup_eq_none.mp found
      have nothing : c.board.data id endStream = c.board := by
        rw [Board.data]
        simp only [missing, reduceCtorEq, false_and, exists_false, and_false, or_false]
        exact Board.change_none missing _
      simp only [if_neg absent, nothing]
      split
      · rw [board_sendFrame, board_record]
      · rw [board_record]
  | some s =>
      have found' : (c.record (.data id bytes endStream)).streams.lookup id = some s := found
      have here : c.board.streams id = some s := found
      have present : id ∈ (c.record (.data id bytes endStream)).streams :=
        AList.lookup_isSome.mp (by rw [found']; rfl)
      simp only [if_pos present]
      refine (board_withStream (Q := False) found' rfl (ended _) (iff_of_eq (or_false _).symm)).trans ?_
      refine Board.ext rfl rfl rfl (fun id' => ?_) (fun k => .rfl) (fun k => ?_) (fun k => ?_) rfl
      · simp only [Board.data, Board.change, board_record, here, Option.map_some]
        rfl
      · simp [Board.data, Board.change, here]
      · simp [Board.data, Board.change]

theorem board_refusePush (c : Client) (promised : UInt32) : (c.refusePush promised).board = c.board := by
  unfold refusePush
  rw [board_sendFrame]
  split <;> rfl

/-- The end of a block or a DATA frame. -/
theorem board_retireIf (c : Client) (id : UInt32) (endStream : Bool) :
    (if endStream then c.retireIfFullyClosed id else c).board =
      if endStream then c.board.retire id else c.board := by
  cases endStream with
  | true => exact c.board_retireIfFullyClosed id
  | false => rfl

theorem board_takeHeaderBlock (c : Client) (pb : PendingHeaderBlock) (headers : List Header) :
    (c.takeHeaderBlock pb headers).board = match pb.kind with
      | .response =>
          if pb.endStream then (c.board.block pb.streamId headers pb.endStream).retire pb.streamId
          else c.board.block pb.streamId headers pb.endStream
      | .push => c.board := by
  unfold takeHeaderBlock
  cases pb.kind with
  | response => exact (board_retireIf _ _ _).trans (by rw [board_receiveBlock])
  | push => exact c.board_refusePush _

/-- A block that is refused leaves the board as it is, and so does one that goes on. -/
theorem board_growHeaderBlock (c : Client) (pb : PendingHeaderBlock) (endHeaders : Bool) :
    (c.growHeaderBlock pb endHeaders).1.board = c.board ∨
      c.rejectsBlock pb.fragments pb.size endHeaders = false ∧ endHeaders = true ∧
        pb.kind = .response ∧ ∃ headers, (c.growHeaderBlock pb endHeaders).1.board =
          if pb.endStream then (c.board.block pb.streamId headers pb.endStream).retire pb.streamId
          else c.board.block pb.streamId headers pb.endStream := by
  unfold growHeaderBlock guardHeaderBlockSize rejectsBlock
  by_cases long : pb.size > MAX_HEADER_BLOCK_SIZE
  · simp only [long, if_true]
    exact .inl rfl
  · simp only [long, if_false, decide_false, Bool.false_or]
    cases endHeaders with
    | false => exact .inl rfl
    | true =>
        simp only [if_true, completeHeaderBlock]
        cases result : (c.decoder.decode pb.fragments.flatten).2 with
        | error fault => exact .inl rfl
        | ok headers =>
            have taken := board_takeHeaderBlock
              { c with pendingHeaderBlock := none, decoder := (c.decoder.decode pb.fragments.flatten).1 }
              pb headers
            cases kind : pb.kind with
            | push =>
                rw [kind] at taken
                exact .inl taken
            | response =>
                rw [kind] at taken
                exact .inr ⟨by trivial, by trivial, by trivial, headers, taken⟩

theorem board_creditConnection (c : Client) (n : UInt32) :
    (c.creditConnection n).board = c.board.credit n.toNat := by
  unfold creditConnection Board.credit
  rw [show c.board.window = c.connSendWindow from rfl]
  generalize c.connSendWindow.update n.toNat = updated
  exact board_wakePumps _ _

theorem board_creditStream (c : Client) (id n : UInt32) :
    (c.creditStream id n).board = c.board.creditStream id n.toNat := by
  unfold creditStream Board.creditStream
  have streams : c.board.streams id = c.streams.lookup id := rfl
  rw [streams]
  cases found : c.streams.lookup id with
  | none =>
      have missing : c.board.streams id = none := found
      simp only [record, found, Board.change_none missing]
      refine Board.ext rfl rfl rfl (fun id => rfl) (fun k => ?_) (fun k => .rfl) (fun k => .rfl) rfl
      simp [Board.wake, board]
  | some s =>
      have found' : (c.record (.credit id n)).streams.lookup id = some s := found
      have here : c.board.streams id = some s := found
      simp only [found']
      cases grown : s.sendWindow.update n.toNat with
      | mk window woken =>
          dsimp only
          rw [board_wakePumps, board_modifyStream]
          refine Board.ext rfl rfl rfl (fun id' => ?_) (fun k => ?_) (fun k => .rfl) (fun k => .rfl) rfl
          · simp only [Board.wake, Board.change, board_record, here, Option.map_some, grown]
          · simp [Board.wake, Board.change, grown]

theorem board_failAbove (c : Client) (lastStreamId : UInt32) (err : H2Error) :
    (c.failAbove lastStreamId err).board = c.board.fail (lastStreamId < ·) := by
  unfold failAbove
  rw [board_removeAll]
  refine Board.fail_congr fun id s found => ?_
  have found : c.streams.lookup id = some s := found
  have present : id ∈ c.streams.keys := AList.mem_keys.mp (AList.lookup_isSome.mp (by rw [found]; rfl))
  simp only [List.mem_filter, present, true_and, decide_eq_true_eq]

theorem board_receivePing (c : Client) (ack : Bool) (opaqueData : OpaqueData) :
    (c.receivePing ack opaqueData).board = c.board := by
  unfold receivePing
  split
  · split <;> rfl
  · exact c.board_sendFrame _

theorem board_receiveReset (c : Client) (id errorCode : UInt32) :
    (c.receiveReset id errorCode).board = c.board.fail (· = id) :=
  board_removeAndFail _ _ _

end Client

end H2ts
