import H2ts.Connection.Wakeups

/-!
# Uploads of dead streams

An upload that is asleep should belong to a stream in the map of an open connection
(`Board.Attached`).  A teardown closes all windows and wakes everybody.  But a stream that
fails alone closes its own window only, and an upload that waits for the connection window
sleeps on.  So the uploads are attached in runs without a step that takes a stream away from
an upload that it does not wake (`Forsakes`), and an upload that waited for the connection
window when its stream was reset is not.
-/

namespace H2ts

open Hpack

/-! ## Boards -/

namespace Board

variable {b b' : Board} {id : UInt32} {s : StreamState}

/-- The uploads that are asleep belong to streams in the map of an open connection. -/
def Attached (b : Board) : Prop :=
  ∀ k, b.asleep k → b.closed = false ∧ ∃ id s, b.streams id = some s ∧ s.cell = k

namespace Attached

/-- No stream leaves the map, except one whose upload is awake. -/
theorem keep (attached : b.Attached) (closed : b'.closed = b.closed)
    (asleep : ∀ k, b'.asleep k → b.asleep k)
    (streams : ∀ id s, b.streams id = some s → b'.asleep s.cell →
      ∃ id' s', b'.streams id' = some s' ∧ s'.cell = s.cell) : b'.Attached := by
  intro k sleeps
  obtain ⟨live, id, s, found, rfl⟩ := attached k (asleep k sleeps)
  exact ⟨closed.trans live, streams id s found sleeps⟩

theorem wake (attached : b.Attached) (woken : Nat → Prop) : (b.wake woken).Attached :=
  attached.keep rfl (fun _ => And.left) fun id s found _ => ⟨id, s, found, rfl⟩

theorem change (attached : b.Attached) (id : UInt32) {f : StreamState → StreamState}
    (same : ∀ s, (f s).cell = s.cell) : (b.change id f).Attached := by
  refine attached.keep rfl (fun _ sleeps => sleeps) fun id' s found _ => ?_
  rcases eq_or_ne id' id with rfl | ne
  · refine ⟨id', f s, ?_, same s⟩
    simp only [Board.change, Function.update_self, found, Option.map_some]
  · refine ⟨id', s, ?_, rfl⟩
    simp only [Board.change, Function.update_of_ne ne, found]

theorem creditStream (attached : b.Attached) (id : UInt32) (n : Int) :
    (b.creditStream id n).Attached :=
  (attached.change id (f := fun s => { s with sendWindow := (s.sendWindow.update n).1 }) fun _ => rfl).wake _

theorem spend (attached : b.Attached) (id : UInt32) (n : Int) : (b.spend id n).Attached := by
  have paid : Attached { b with window := b.window.consume n } := attached
  exact paid.change id (f := fun s => { s with sendWindow := s.sendWindow.consume n }) fun _ => rfl

/-- An upload falls asleep on the windows of its own stream. -/
theorem wait (attached : b.Attached) (live : b.closed = false) (found : b.streams id = some s) :
    (b.wait id s.cell).Attached := by
  have parked : Attached { b with
      window := if b.window.isReady then b.window else b.window.registerWaker s.cell
      asleep := fun j => j = s.cell ∨ b.asleep j } := by
    rintro k (rfl | sleeps)
    · exact ⟨live, id, s, found, rfl⟩
    · exact attached k sleeps
  refine parked.change id fun t => ?_
  split <;> rfl

theorem adjust (attached : b.Attached) (initial : Int) : (b.adjust initial).Attached := by
  refine attached.keep rfl (fun _ => And.left) fun id s found _ => ?_
  refine ⟨id, { s with sendWindow := (s.sendWindow.adjust (initial - b.initial)).1 }, ?_, rfl⟩
  simp only [Board.adjust, found, Option.map_some]

/-- Streams fail, and their uploads have left their wakers with them. -/
theorem fail (attached : b.Attached) {gone : UInt32 → Prop}
    (wakes : ∀ id s, gone id → b.streams id = some s → b.asleep s.cell →
      s.cell ∈ s.sendWindow.wakers) : (b.fail gone).Attached := by
  refine attached.keep rfl (fun _ => And.left) fun id s found sleeps => ?_
  have stays : ¬ gone id := fun left =>
    sleeps.2 ⟨s, ⟨id, left, found⟩, wakes id s left found sleeps.1⟩
  refine ⟨id, s, ?_, rfl⟩
  simp only [Board.fail, if_neg stays]
  exact found

theorem drop (attached : b.Attached) (awake : ∀ s, b.streams id = some s → ¬ b.asleep s.cell) :
    (b.drop id).Attached := by
  refine attached.keep rfl (fun _ sleeps => sleeps) fun id' s found sleeps => ?_
  have ne : id' ≠ id := by
    rintro rfl
    exact awake s found sleeps
  refine ⟨id', s, ?_, rfl⟩
  simp only [Board.drop, Function.update_of_ne ne, found]

theorem retire (attached : b.Attached)
    (awake : ∀ s, b.streams id = some s → s.localClosed = true → s.remoteClosed = true →
      ¬ b.asleep s.cell) : (b.retire id).Attached := by
  unfold Board.retire
  split
  next both =>
    refine attached.drop fun s found => ?_
    rw [found, Option.any_some, Bool.and_eq_true] at both
    exact awake s found both.1 both.2
  next => exact attached

theorem data (attached : b.Attached) (id : UInt32) (endStream : Bool) :
    (b.data id endStream).Attached := by
  have noted : Attached { b with
      ended := fun k => b.ended k ∨ endStream = true ∧ ∃ s, b.streams id = some s ∧ s.cell = k } :=
    attached
  exact noted.change id (f := fun s => s.closeRemote endStream) fun _ => rfl

theorem block (attached : b.Attached) (id : UInt32) (headers : List Header) (endStream : Bool) :
    (b.block id headers endStream).Attached := by
  have noted (ended answered : Nat → Prop) :
      Attached { b with ended := ended, answered := answered } := attached
  refine (noted _ _).change id fun s => ?_
  split <;> rfl

theorem enter (attached : b.Attached) (awake : ∀ s, b.streams id = some s → ¬ b.asleep s.cell) :
    (b.enter id s).Attached := by
  refine (attached.drop awake).keep rfl (fun _ => And.left) fun id' s' found _ => ?_
  have ne : id' ≠ id := by
    rintro rfl
    simp only [Board.drop, Function.update_self] at found
    cases found
  refine ⟨id', s', ?_, rfl⟩
  simp only [Board.enter, Function.update_of_ne ne]
  exact found

/-- After a teardown nobody sleeps. -/
theorem tear (attached : b.Attached) (alert : b.Alert) (gone : UInt32 → Prop) :
    (b.fail gone).tear.Attached := by
  intro k sleeps
  -- A sleeper was not in the wakers of a stream that failed before, nor in any now.
  obtain ⟨⟨⟨sleeps, early⟩, closing⟩, late⟩ := sleeps
  obtain ⟨-, id, s, found, own⟩ := attached k sleeps
  rcases alert.waker k sleeps id s found own with mem | mem
  · exact absurd mem closing
  · by_cases left : gone id
    · exact absurd ⟨s, ⟨id, left, found⟩, mem⟩ early
    · refine absurd ⟨s, ⟨id, trivial, ?_⟩, mem⟩ late
      simp only [Board.close, Board.wake, Board.fail, if_neg left]
      exact found

end Attached

end Board

/-! ## Steps -/

namespace Client

variable {c : Client} {b : Board}

/-- The section ends the second direction of a stream, and the stream is not of the upload that
is polled. -/
def Finishes (c : Client) (id : UInt32) (s : StreamState) : Action → Prop
  | .frame frame => c.rejects frame = false ∧ c.endedBy frame = some id ∧ s.localClosed = true
  | .pump k => (c.cells k).pump = .pulling [] ∧ (c.cells k).id = id ∧ s.remoteClosed = true ∧ s.cell ≠ k
  | _ => False

/-- The section takes a stream from its upload, which is asleep, and does not wake it.  A
stream that fails wakes those who wait for its own window. -/
def Abandons (c : Client) (a : Action) : Prop :=
  ∃ id s, c.streams.lookup id = some s ∧ (c.cells s.cell).parked = true ∧
    (c.Cuts id a ∧ s.cell ∉ s.sendWindow.wakers ∨ c.Finishes id s a ∨
      c.Opens a ∧ id = c.nextStreamId)

/-- An upload whose stream has left the map falls asleep under a later stream of its id. -/
def Strays (c : Client) (a : Action) : Prop :=
  ∃ k s chunk offset rest, a = .pump k ∧ (c.cells k).pump = .sending chunk offset rest ∧
    c.streams.lookup (c.cells k).id = some s ∧ s.cell ≠ k ∧
    (c.connSendWindow.isReady && s.sendWindow.isReady) = false

theorem attached_deed {a : Action} (deed : Deed c a b) (alert : c.board.Alert)
    (keeps : ¬ c.Abandons a) (own : ¬ c.Strays a) (attached : c.board.Attached) : b.Attached := by
  cases deed with
  | calm => exact attached
  | tear gone live => exact attached.tear alert gone
  | tearAdjusted initial live =>
      have nobody := (c.board.adjust initial).fail_nobody fun _ => False.elim
      have torn := (attached.adjust initial).tear (alert.adjust initial) fun _ => False
      rw [nobody] at torn
      exact torn
  | adjust found valid => exact attached.adjust _
  | credit valid => exact attached.wake _
  | creditStream stream nonzero valid => exact attached.creditStream _ _
  | fail cuts =>
      refine attached.fail fun id s left found sleeps => ?_
      by_contra unwoken
      exact keeps ⟨id, s, found, sleeps, .inl ⟨cuts id left, unwoken⟩⟩
  | @data id bytes endStream valid =>
      have received := attached.data id endStream
      split
      next ends =>
        refine received.retire fun s' found localClosed _ sleeps => ?_
        rcases Board.streams_change _ id _ found with ⟨-, ne⟩ | ⟨-, s, before, rfl⟩
        · exact ne rfl
        · exact keeps ⟨id, s, before, sleeps, .inr (.inl ⟨valid, by rw [ends]; rfl, localClosed⟩)⟩
      next => exact received
  | @block frame id endStream headers valid ends =>
      have received := attached.block id headers endStream
      split
      next ended =>
        refine received.retire fun s' found localClosed _ sleeps => ?_
        rcases Board.streams_change _ id _ found with ⟨-, ne⟩ | ⟨-, s, before, rfl⟩
        · exact ne rfl
        · have same : ∀ (f : Bool) (g h : Bool), ((if f then s.closeRemote endStream
              else { s.closeRemote endStream with gotHead := g, headTx := h } : StreamState).cell = s.cell) ∧
              ((if f then s.closeRemote endStream
              else { s.closeRemote endStream with gotHead := g, headTx := h } : StreamState).localClosed =
                s.localClosed) := by
            intro f g h
            split <;> exact ⟨rfl, rfl⟩
          rw [(same _ _ _).1] at sleeps
          rw [(same _ _ _).2] at localClosed
          exact keeps ⟨id, s, before, sleeps, .inr (.inl ⟨valid, ends ended, localClosed⟩)⟩
      next => exact received
  | poll => exact attached.wake _
  | spend found => exact (attached.spend _ _).wake _
  | @wait k s chunk offset rest sending live found unready =>
      have same : s.cell = k := by
        by_contra ne
        exact own ⟨k, s, chunk, offset, rest, rfl, sending, found, ne, unready⟩
      rw [← same] at found ⊢
      exact attached.wait live found
  | @finish k s pulled found =>
      have half := attached.change (c.cells k).id (f := fun s => { s with localClosed := true })
        fun _ => rfl
      refine (half.wake _).retire fun s' found' _ remoteClosed sleeps => ?_
      obtain ⟨sleeps, ne⟩ := sleeps
      rcases Board.streams_change _ _ _ found' with ⟨-, ne⟩ | ⟨-, s, before, rfl⟩
      · exact ne rfl
      · exact keeps ⟨_, s, before, sleeps, .inr (.inl ⟨pulled, rfl, remoteClosed, ne⟩)⟩
  | enter opens body =>
      exact attached.enter fun s found sleeps => keeps ⟨_, s, found, sleeps, .inr (.inr ⟨opens, rfl⟩)⟩

/-- In a run that takes no stream from an upload that sleeps on, the uploads that are asleep
belong to streams in the map of an open connection. -/
theorem attached_after (options : ConnectOptions) (actions : List Action)
    (keeps : Machine.Along step (fun c a => ¬ c.Abandons a ∧ ¬ c.Strays a) (connect options) actions) :
    (after options actions).board.Attached := by
  have kept (c : Client) (a : Action) :
      c.Sealed ∧ Attended c ∧ c.board.Alert ∧ c.board.Attached → ¬ c.Abandons a ∧ ¬ c.Strays a →
        (c.step a).Sealed ∧ Attended (c.step a) ∧ (c.step a).board.Alert ∧ (c.step a).board.Attached := by
    rintro ⟨sound, attended, alert, attached⟩ ⟨keeps, own⟩
    have deed := deed_step sound a
    exact ⟨sealed_step c a sound, attended_step attended a, alert_deed deed attended.served alert,
      attached_deed deed alert keeps own attached⟩
  have start : (connect options).board.Attached := by
    rw [board_connect]
    intro k sleeps
    cases sleeps
  have run := Machine.run_invariant_along
    (P := fun c => c.Sealed ∧ Attended c ∧ c.board.Alert ∧ c.board.Attached) kept
    ⟨sealed_connect options, attended_connect options, alert_connect options, start⟩ keeps
  exact run.2.2.2

theorem keeps_of_awake (awake : c.streams.entries.all (fun entry => !(c.cells entry.2.cell).parked) = true)
    (a : Action) : ¬ c.Abandons a := by
  rintro ⟨id, s, found, sleeps, -⟩
  have wakes := List.all_eq_true.mp awake ⟨id, s⟩ (AList.mem_lookup_iff.mp found)
  simp [sleeps] at wakes

theorem keeps_rstStream (wakers : c.streams.entries.all
      (fun entry => entry.2.sendWindow.wakers.contains entry.2.cell) = true) (id errorCode : UInt32) :
    ¬ c.Abandons (.frame (.rstStream id errorCode)) := by
  rintro ⟨id', s, found, sleeps, ⟨-, unwoken⟩ | ⟨-, ends, -⟩ | ⟨opens, -⟩⟩
  · have wakes := List.all_eq_true.mp wakers ⟨id', s⟩ (AList.mem_lookup_iff.mp found)
    simp only [List.contains_iff_mem] at wakes
    exact unwoken wakes
  · cases ends
  · exact opens

theorem owns_of_lookup {k : Nat} (own : (c.streams.lookup (c.cells k).id).all (fun s => s.cell == k) = true) :
    ¬ c.Strays (.pump k) := by
  rintro ⟨k', s, chunk, offset, rest, same, -, found, ne, -⟩
  cases same
  rw [found, Option.all_some, beq_iff_eq] at own
  exact ne own

/-- The section does not poll an upload. -/
def Unpolled : Action → Bool
  | .pump _ => false
  | _ => true

theorem owns_of_unpolled {a : Action} (other : Unpolled a = true) : ¬ c.Strays a := by
  rintro ⟨k, -, -, -, -, rfl, -⟩
  cases other

/-- An upload waits for the window of its stream, which is reset. -/
def resetWhileParked : List Action := emptyWindow ++ [.frame (.rstStream 1 8)]

theorem attached_after_resetWhileParked : (after {} resetWhileParked).board.Attached := by
  refine attached_after {} resetWhileParked ?_
  simp only [resetWhileParked, emptyWindow, List.cons_append, List.nil_append, Machine.Along, and_true]
  refine ⟨⟨keeps_of_awake ?_ _, owns_of_unpolled rfl⟩, ⟨keeps_of_awake ?_ _, owns_of_unpolled rfl⟩,
    ⟨keeps_of_awake ?_ _, owns_of_lookup ?_⟩, ⟨keeps_of_awake ?_ _, owns_of_lookup ?_⟩,
    keeps_rstStream ?_ 1 8, owns_of_unpolled rfl⟩ <;> decide +kernel

/-- One upload uses up the connection window, another one waits for it, and its stream is
reset. -/
def resetWhileWaiting : List Action :=
  [.request (.bare (.stream (List.replicate 15 (List.replicate 4369 0)))),
    .request (.bare (.bytes [0x61]))] ++ List.replicate 30 (.pump 0) ++
  [.pump 1, .pump 1, .frame (.rstStream 3 8)]

theorem not_attached_resetWhileWaiting :
    ¬ ∀ (options : ConnectOptions) (actions : List Action), (after options actions).board.Attached := by
  intro attached
  have asleep : ((after {} resetWhileWaiting).cells 1).parked = true := by decide +kernel
  have gone : (after {} resetWhileWaiting).streams.entries.all (fun entry => entry.2.cell != 1) = true := by
    decide +kernel
  have attached := attached {} resetWhileWaiting
  revert asleep gone attached
  generalize after {} resetWhileWaiting = c
  intro asleep gone attached
  obtain ⟨-, id, s, found, own⟩ := attached 1 asleep
  have stays := List.all_eq_true.mp gone ⟨id, s⟩ (AList.mem_lookup_iff.mp found)
  simp [own] at stays

end Client

end H2ts
