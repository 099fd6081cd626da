import H2ts.Connection.Bodies
import H2ts.Connection.FlowControl
import H2ts.Connection.Range

/-!
# The account of a send window

What a window was granted is read off the frames that came (`received`), and the history has
the same increments (`Tallied`).  What was sent never exceeds the windows, so a balance falls
below no bound that matters, and it rises above the range of an `i64` only if a frame lifts it
there (`Client.InRange`).  The window is the word of the balance in any case, so it is the balance
until then (`exact_after`).
-/

namespace H2ts

open History

/-! ## What was granted -/

/-- The increments on both sides are the same, for every window and from every opening. -/
structure Tallied (granted history : List Event) : Prop where
  all : ∀ id, credited id granted = credited id history
  since : ∀ id, credited id (since id granted) = credited id (since id history)

namespace Tallied

variable {granted history granted' events : List Event}

/-- What opens no stream. -/
theorem append (tallied : Tallied granted history)
    (same : ∀ id, credited id granted' = credited id events)
    (closed' : ∀ id, .opened id ∉ granted') (closed : ∀ id, .opened id ∉ events) :
    Tallied (granted ++ granted') (history ++ events) := by
  refine ⟨fun id => ?_, fun id => ?_⟩
  · rw [credited_append, credited_append, tallied.all, same]
  · rw [since_append _ (closed' id), since_append _ (closed id), credited_append, credited_append,
      tallied.since, same]

theorem opened (tallied : Tallied granted history) (id : UInt32) :
    Tallied (granted ++ [.opened id]) (history ++ [.opened id]) := by
  refine ⟨fun id' => ?_, fun id' => ?_⟩
  · rw [credited_append, credited_append, tallied.all]
  · rw [since_concat, since_concat]
    split
    · rfl
    · rw [credited_append, credited_append, tallied.since]

end Tallied

/-- Events without credit. -/
theorem credited_of_uncredited {events : List Event}
    (uncredited : ∀ e ∈ events, e.isCredit = false) (id : UInt32) : credited id events = 0 := by
  refine List.sum_eq_zero fun n mem => ?_
  obtain ⟨e, present, rfl⟩ := List.mem_map.mp mem
  have isCredit := uncredited e present
  cases e <;> first | rfl | cases isCredit

namespace Client

variable {fine : Client → Action → Prop} {c d : Client}

/-- The increment of a WINDOW_UPDATE.  Inside a header block the frame is a connection error. -/
def increment (c : Client) : Action → List Event
  | .frame (.windowUpdate id n) => if c.pendingHeaderBlock.isSome then [] else [.credit id n]
  | _ => []

theorem credited_increment (c : Client) (id n id' : UInt32) :
    credited id' (c.increment (.frame (.windowUpdate id n))) =
      if c.pendingHeaderBlock.isSome then 0 else if id = id' then n.toNat else 0 := by
  rw [increment]
  split
  · rfl
  · rw [credited_singleton, creditOf]

/-- What a section receives for the windows, read off the frame, and the stream that it
opens. -/
def received (c : Client) (a : Action) : List Event :=
  c.increment a ++ if (c.step a).opened = c.opened then [] else [.opened c.nextStreamId]

theorem uncredited_turns (unasked : ∀ c id n, ¬ fine c (.frame (.windowUpdate id n)))
    (turns : Turns fine c d) :
    ∃ events, d.history = c.history ++ events ∧ ∀ e ∈ events, e.isCredit = false := by
  induction turns with
  | refl => exact ⟨[], by simp⟩
  | @tail d e _ turn ih =>
      obtain ⟨events, history, uncredited⟩ := ih
      have recorded : Adds (fun e => e.isCredit = false) d e ∨ _ :=
        adds_turn (fun _ _ quiet => quiet) (fun id n asked => absurd asked (unasked d id n)) turn
      rcases recorded with
        ⟨-, later, history', quiet, -⟩ | ⟨-, -, history' | ⟨frame, history'⟩⟩
      · refine ⟨events ++ later, by rw [history', history, List.append_assoc], fun e mem => ?_⟩
        rcases List.mem_append.mp mem with mem | mem
        · exact uncredited e mem
        · exact quiet e mem
      · exact ⟨events, history'.trans history, uncredited⟩
      · refine ⟨events ++ [.sent frame], by rw [history', history, List.append_assoc], fun e mem => ?_⟩
        rcases List.mem_append.mp mem with mem | mem
        · exact uncredited e mem
        · rw [List.mem_singleton.mp mem]
          rfl

/-- A WINDOW_UPDATE that is refused, or has no increment. -/
theorem turns_idleUpdate (id n : UInt32) (idle : c.pendingHeaderBlock.isSome = true ∨ n = 0) :
    Turns (fun _ _ => False) c (c.step (.frame (.windowUpdate id n))) := by
  cases pending : c.pendingHeaderBlock.isSome with
  | true =>
      have refused : c.dispatch (.windowUpdate id n) =
          (c, .error (.new .protocolError "expected CONTINUATION frame")) := by
        simp [dispatch, pending, isContinuation]
      rw [step, onFrame, refused]
      exact c.turns_farewell _ _ _
  | false =>
      obtain rfl := idle.resolve_left (by simp [pending])
      have dispatched : c.dispatch (.windowUpdate id 0) = c.receiveWindowUpdate id 0 := by
        simp [dispatch, pending, dispatchFrame]
      by_cases connection : id = 0
      · rw [step, onFrame, dispatched, receiveWindowUpdate, if_pos rfl, if_pos connection]
        exact c.turns_farewell _ _ _
      · rw [step, onFrame, dispatched, receiveWindowUpdate, if_pos rfl, if_neg connection]
        exact turns_chores (c.chores_resetStream id _)

theorem chores_windowUpdate (id : UInt32) {n : UInt32} (expected : c.pendingHeaderBlock.isSome = false)
    (nonzero : n ≠ 0) :
    Chores (c.record (.credit id n)) (c.step (.frame (.windowUpdate id n))) := by
  have accepted : c.rejects (.windowUpdate id n) = false := by
    simp [rejects, rejectsFrame, expected, nonzero]
  rw [step, onFrame_accepted accepted]
  rcases c.chores_receiveWindowUpdate id n with ⟨zero, -⟩ | ⟨-, chores⟩
  · exact absurd zero nonzero
  · exact chores

/-- A WINDOW_UPDATE leaves its increment in the history, unless it is refused. -/
theorem credited_windowUpdate {id n : UInt32} {events : List Event}
    (history : (c.step (.frame (.windowUpdate id n))).history = c.history ++ events) (id' : UInt32) :
    credited id' (c.increment (.frame (.windowUpdate id n))) = credited id' events := by
  rw [credited_increment]
  by_cases idle : c.pendingHeaderBlock.isSome = true ∨ n = 0
  · obtain ⟨events', history', uncredited⟩ :=
      uncredited_turns (fun _ _ _ => not_false) (turns_idleUpdate id n idle)
    obtain rfl := List.append_cancel_left (history.symm.trans history')
    rw [credited_of_uncredited uncredited]
    rcases idle with refused | rfl
    · rw [if_pos refused]
    · simp
  · obtain ⟨expected, nonzero⟩ := not_or.mp idle
    obtain ⟨-, later, history', plain, -⟩ :=
      adds_chores (chores_windowUpdate id (Bool.not_eq_true _ ▸ expected) nonzero)
    have recorded : c.history ++ events = c.history ++ (.credit id n :: later) := by
      rw [← history, history', record, List.append_assoc]
      rfl
    obtain rfl := List.append_cancel_left recorded
    have rest := credited_of_uncredited (fun e mem => (quiet_of_isPlain (plain e mem)).2) id'
    have split : credited id' (.credit id n :: later) =
        credited id' [.credit id n] + credited id' later := credited_append id' [_] later
    rw [if_neg expected, split, rest, Nat.add_zero, credited_singleton, creditOf]

/-- A section records the increments that it receives. -/
theorem credited_step (staffed : Staffed c.desk) (a : Action) {events : List Event}
    (history : (c.step a).history = c.history ++ events) (id : UInt32) :
    credited id (c.increment a) = credited id events := by
  have other (unasked : ∀ id n, a ≠ .frame (.windowUpdate id n)) : credited id events = 0 := by
    have turns : Turns (fun _ a' => a' = a) c (c.step a) := turns_step staffed.fresh rfl
    obtain ⟨events', history', uncredited⟩ :=
      uncredited_turns (fun _ id n asked => unasked id n asked.symm) turns
    obtain rfl := List.append_cancel_left (history.symm.trans history')
    exact credited_of_uncredited uncredited id
  cases a with
  | frame frame =>
      cases frame with
      | windowUpdate id' n => exact credited_windowUpdate history id
      | _ => exact (other (by simp)).symm
  | _ => exact (other (by simp)).symm

theorem tallied_step (sound : c.Sealed) (staffed : Staffed c.desk) (a : Action)
    {granted : List Event} (tallied : Tallied granted c.history) :
    Tallied (granted ++ c.received a) (c.step a).history := by
  have silent (id : UInt32) : .opened id ∉ c.increment a := by
    unfold increment
    split
    · split <;> simp
    · simp
  rcases keeps_or_opens sound a with keeps | ⟨request, asked, opens⟩
  · obtain ⟨events, history, unopened⟩ := keeps.history
    have opened : (c.step a).opened = c.opened := keeps.opened
    have history : (c.step a).history = c.history ++ events := history
    rw [received, if_pos opened, List.append_nil, history]
    exact tallied.append (credited_step staffed a history) silent unopened
  · have opened : (c.step a).opened = c.opened + 1 := congrArg View.opened opens
    have history := congrArg View.history opens
    have history : (c.step a).history = c.history ++
        (.opened c.nextStreamId :: (headerFrames c.nextStreamId c.remote.maxFrameSize
          (Hpack.encode request.headers) request.body.isEmpty).map .sent) := history
    have nothing : c.increment a = [] := by
      cases a with
      | frame => cases asked
      | _ => rfl
    have neutral := neutral_headerFrames c.nextStreamId c.remote.maxFrameSize
      (Hpack.encode request.headers) request.body.isEmpty
    have added : (c.received a) = [.opened c.nextStreamId] := by
      rw [received, if_neg (by omega), nothing, List.nil_append]
    have later : Tallied (granted ++ [.opened c.nextStreamId] ++ []) _ :=
      (tallied.opened c.nextStreamId).append (fun id => (credited_neutral neutral id).symm)
        (by simp) (not_opened_of_neutral neutral)
    rw [added, history]
    simpa using later

theorem tallied_connect (options : ConnectOptions) : Tallied [] (connect options).history := by
  have neutral := neutral_connect options
  have start : Tallied [] [] := ⟨fun _ => rfl, fun _ => rfl⟩
  exact start.append (fun id => (credited_neutral neutral id).symm) (by simp)
    (not_opened_of_neutral neutral)

/-- The history has the increments of the frames that came. -/
theorem tallied_after (options : ConnectOptions) (actions : List Action) :
    Tallied (Machine.gather step received (connect options) actions)
      (after options actions).history := by
  have all := Machine.gather_invariant step received
    (P := fun granted c => (c.Sealed ∧ Attended c) ∧ Tallied granted c.history)
    (fun c a granted ⟨⟨sound, attended⟩, tallied⟩ =>
      ⟨⟨sealed_step c a sound, attended_step attended a⟩,
        tallied_step sound attended.staffed a tallied⟩)
    ⟨⟨sealed_connect options, attended_connect options⟩, tallied_connect options⟩ actions
  exact all.2

/-! ## What a section sends -/

/-- Without a DATA frame that has bytes, nothing is taken from a window. -/
theorem data_of_silent {events : List Event}
    (silent : ∀ id bytes endStream, .sent (.data id bytes endStream) ∈ events → bytes = []) :
    allData events = [] ∧ ∀ id, dataOn id events = [] := by
  have nothing (e : Event) (mem : e ∈ events) : payload e = [] ∧ ∀ id, payloadOn id e = [] := by
    cases e with
    | sent frame =>
        cases frame with
        | data id bytes endStream =>
            have empty : bytes = [] := silent id bytes endStream mem
            exact ⟨empty, fun id' => by simp [payloadOn, empty]⟩
        | _ => exact ⟨rfl, fun _ => rfl⟩
    | _ => exact ⟨rfl, fun _ => rfl⟩
  exact ⟨List.flatMap_eq_nil_iff.mpr fun e mem => (nothing e mem).1,
    fun id => List.flatMap_eq_nil_iff.mpr fun e mem => (nothing e mem).2 id⟩

/-- A section sends no more than either window had. -/
theorem sent_fits (sound : c.Sealed) (a : Action) {events : List Event}
    (history : (c.step a).history = c.history ++ events) :
    ((allData events).length : Int) ≤ max 0 c.connSendWindow.value ∧
      ∀ id s, c.streams.lookup id = some s →
        ((dataOn id events).length : Int) ≤ max 0 s.sendWindow.value := by
  obtain ⟨events', history', fits⟩ := sendData_fits sound a
  obtain rfl := List.append_cancel_left (history'.symm.trans history)
  by_cases loud : ∃ id bytes endStream, .sent (.data id bytes endStream) ∈ events' ∧ bytes ≠ []
  · obtain ⟨id, bytes, endStream, mem, nonempty⟩ := loud
    obtain ⟨only, funded, ⟨s, found, covered⟩, -⟩ := fits id bytes endStream mem nonempty
    rw [only]
    refine ⟨?_, fun id' s' found' => ?_⟩
    · rw [allData_singleton]
      exact funded.trans (le_max_right _ _)
    · rw [dataOn_singleton, payloadOn]
      split
      next same =>
        obtain rfl := Option.some.inj ((same ▸ found).symm.trans found')
        exact covered.trans (le_max_right _ _)
      next => exact le_max_left _ _
  · obtain ⟨nothing, nothingOn⟩ := data_of_silent fun id bytes endStream mem =>
      by_contra fun nonempty => loud ⟨id, bytes, endStream, mem, nonempty⟩
    refine ⟨?_, fun id s _ => ?_⟩
    · rw [nothing]
      exact le_max_left _ _
    · rw [nothingOn]
      exact le_max_left _ _

/-! ## What lifts a window -/

/-- With what comes for it, no window leaves the range. -/
structure Room (c : Client) (a : Action) : Prop where
  connection : c.connSendWindow.value + credited 0 (c.increment a) < 2 ^ 63
  stream : ∀ id s, id ≠ 0 → c.streams.lookup id = some s →
    s.sendWindow.value + credited id (c.increment a) < 2 ^ 63

theorem room_of_none {a : Action} (none : ∀ id, credited id (c.increment a) = 0) : c.Room a := by
  refine ⟨?_, fun id s _ _ => ?_⟩
  · rw [none]
    simpa using c.connSendWindow.value_lt
  · rw [none]
    simpa using s.sendWindow.value_lt

theorem room_windowUpdate {id n : UInt32} (fits : c.InRange (.frame (.windowUpdate id n))) :
    c.Room (.frame (.windowUpdate id n)) := by
  cases refused : c.rejects (.windowUpdate id n) with
  | true =>
      simp only [rejects, rejectsFrame, isContinuation, Bool.not_false, Bool.and_true,
        Bool.or_eq_true, Bool.and_eq_true, beq_iff_eq] at refused
      refine room_of_none fun id' => ?_
      rw [credited_increment]
      split
      · rfl
      next expected =>
        obtain ⟨-, rfl⟩ := refused.resolve_left expected
        split <;> rfl
  | false =>
      have room := fits refused
      have expected : ¬ c.pendingHeaderBlock.isSome = true := by
        intro pending
        simp [rejects, pending, isContinuation] at refused
      have increments (id' : UInt32) : credited id' (c.increment (.frame (.windowUpdate id n))) =
          if id = id' then n.toNat else 0 := by
        rw [credited_increment, if_neg expected]
      by_cases connection : id = 0
      · simp only [if_pos connection] at room
        refine ⟨by rwa [increments, if_pos connection], fun id' s stream found => ?_⟩
        rw [increments, if_neg fun same : id = id' => stream (same ▸ connection)]
        simpa using s.sendWindow.value_lt
      · simp only [if_neg connection] at room
        refine ⟨?_, fun id' s _ found => ?_⟩
        · rw [increments, if_neg connection]
          simpa using c.connSendWindow.value_lt
        · rw [increments]
          split
          next same => exact room s (same ▸ found)
          next => simpa using s.sendWindow.value_lt

theorem room_of_inRange {a : Action} (fits : c.InRange a) : c.Room a := by
  cases a with
  | frame frame =>
      cases frame with
      | windowUpdate id n => exact room_windowUpdate fits
      | _ => exact room_of_none fun _ => rfl
  | _ => exact room_of_none fun _ => rfl

/-- The initial window changes by SETTINGS. -/
theorem initial_move {a : Action} {b : Board} (move : Move c a b) (live : b.closed = false) :
    b.initial = c.board.initial ∨ ∃ settings iw, a = .frame (.settings false settings) ∧
      settings.initialWindowSize = some iw ∧ c.rejects (.settings false settings) = false ∧
      b.initial = iw.toNat := by
  cases move with
  | still still => exact .inl still.initial
  | torn closed =>
      rw [closed] at live
      cases live
  | @adjust settings iw found valid =>
      have isOpen : c.closed = false := live
      exact .inr ⟨settings, iw, rfl, found, valid.resolve_left (by simp [isOpen]), rfl⟩
  | credit | creditStream | spend | enter => exact .inl rfl

theorem live_of_found (sound : c.Sealed) {id : UInt32} {s : StreamState}
    (found : c.streams.lookup id = some s) : c.closed = false := by
  cases closed : c.closed with
  | false => rfl
  | true =>
      have missing := lookup_of_keys (sound.empty closed) id
      rw [missing] at found
      cases found

/-- A stream of the map was in it, or was opened just now. -/
theorem opened_or_found (sound : c.Sealed) (a : Action) {events : List Event}
    (history : (c.step a).history = c.history ++ events) {id : UInt32} {s' : StreamState}
    (found : (c.step a).streams.lookup id = some s') :
    (∃ later, events = .opened id :: later ∧ ∀ e ∈ later, e.isNeutral = true) ∨
      .opened id ∉ events ∧ ∃ s, c.streams.lookup id = some s := by
  have mapped : (c.step a).view.streams id ≠ none := by
    rw [view_streams found]
    exact Option.some_ne_none _
  have present (here : c.view.streams id ≠ none) : ∃ s, c.streams.lookup id = some s := by
    refine Option.ne_none_iff_exists'.mp fun missing => here ?_
    exact view_streams_none missing
  rcases keeps_or_opens sound a with keeps | ⟨request, asked, opens⟩
  · obtain ⟨events', history', unopened⟩ := keeps.history
    obtain rfl := List.append_cancel_left (history.symm.trans history')
    exact .inr ⟨unopened id, present fun missing => mapped (keeps.streams id missing)⟩
  · have history' := congrArg View.history opens
    obtain rfl := List.append_cancel_left (history.symm.trans history')
    have neutral := neutral_headerFrames c.nextStreamId c.remote.maxFrameSize
      (Hpack.encode request.headers) request.body.isEmpty
    by_cases own : id = c.nextStreamId
    · subst own
      exact .inl ⟨_, rfl, neutral⟩
    · refine .inr ⟨fun mem => ?_, present fun missing => mapped ?_⟩
      · cases mem with
        | head => exact own rfl
        | tail _ later => exact not_opened_of_neutral neutral id later
      · rw [opens]
        exact (Function.update_of_ne own _ _).trans missing

/-! ## Exact windows -/

/-- The windows are the balances. -/
structure Exact (c : Client) : Prop where
  connection : c.connSendWindow.value = connBalance c.history
  stream : ∀ id s, c.streams.lookup id = some s →
    s.sendWindow.value = streamBalance c.remote.initialWindowSize id c.history

theorem connBalance_append (history events : List Event) :
    connBalance (history ++ events) =
      connBalance history + credited 0 events - (allData events).length := by
  rw [connBalance, connBalance, credited_append, allData_append, List.length_append]
  omega

/-- A stream that was just opened was granted the initial window. -/
theorem streamBalance_opened (initial : Int) (id : UInt32) (history : List Event) {later : List Event}
    (neutral : ∀ e ∈ later, e.isNeutral = true) :
    streamBalance initial id (history ++ .opened id :: later) = initial := by
  have fresh : since id (history ++ .opened id :: later) = later := by
    rw [List.append_cons, since_append _ (not_opened_of_neutral neutral id), since_concat_opened,
      List.nil_append]
  rw [streamBalance, fresh, credited_neutral neutral, dataOn_neutral neutral]
  simp

theorem streamBalance_append (initial initial' : Int) {id : UInt32} (history : List Event)
    {events : List Event} (unopened : .opened id ∉ events) :
    streamBalance initial' id (history ++ events) =
      streamBalance initial id history + (initial' - initial) + credited id events -
        (dataOn id events).length := by
  rw [streamBalance, streamBalance, since_append _ unopened, credited_append, dataOn_append,
    List.length_append]
  omega

/-- With the change of the initial window, too, a window does not leave the range. -/
theorem adjusted_fits {a : Action} (sound : c.Sealed) (fits : c.InRange a)
    (live : (c.step a).closed = false) {id : UInt32} {s : StreamState} (stream : id ≠ 0)
    (found : c.streams.lookup id = some s) :
    s.sendWindow.value + ((c.step a).remote.initialWindowSize - c.remote.initialWindowSize) +
      credited id (c.increment a) < 2 ^ 63 := by
  rcases initial_move (move_step sound a) live with same | ⟨settings, iw, rfl, given, accepted, moved⟩
  · have same : (c.step a).remote.initialWindowSize = c.remote.initialWindowSize := same
    have room := (room_of_inRange fits).stream id s stream found
    omega
  · have moved : (c.step (.frame (.settings false settings))).remote.initialWindowSize = iw.toNat := moved
    have room := fits accepted iw given id s found
    have nothing : credited id (c.increment (.frame (.settings false settings))) = 0 := rfl
    omega

theorem exact_step (sound : c.Sealed) (wf : WellFormed c.view) (staffed : Staffed c.desk)
    (ledger : Ledger c.view) (ranged : c.board.Ranged) (a : Action) (fits : c.InRange a)
    (exact : Exact c) : Exact (c.step a) := by
  obtain ⟨events, history, -⟩ := sendData_fits sound a
  have came (id : UInt32) := credited_step staffed a history id
  obtain ⟨sent, sentOn⟩ := sent_fits sound a history
  have ledger := ledger_step sound wf a ledger
  refine ⟨?_, fun id s' found' => ?_⟩
  · have word : (c.step a).connSendWindow.available = .ofInt (connBalance (c.step a).history) :=
      ledger.connection
    have low := c.connSendWindow.le_value
    have high := (room_of_inRange fits).connection
    have balance := exact.connection
    rw [history, connBalance_append, ← came] at word ⊢
    rw [SendWindow.value, word]
    exact Int64.toInt_ofInt_of_le (by omega) (by omega)
  · have word : s'.sendWindow.available =
        .ofInt (streamBalance (c.step a).remote.initialWindowSize id (c.step a).history) :=
      ledger.stream id s'.view (view_streams found')
    have live' := live_of_found (sealed_step c a sound) found'
    obtain ⟨low', high'⟩ : 0 ≤ (c.step a).remote.initialWindowSize ∧
        (c.step a).remote.initialWindowSize ≤ MAX_WINDOW :=
      (ranged_step sound a (fun _ => fits) ranged).initial live'
    unfold MAX_WINDOW at high'
    rcases opened_or_found sound a history found' with ⟨later, rfl, neutral⟩ | ⟨unopened, s, found⟩
    · rw [history, streamBalance_opened _ _ _ neutral] at word ⊢
      rw [SendWindow.value, word]
      exact Int64.toInt_ofInt_of_le (by omega) (by omega)
    · have live := live_of_found sound found
      have high : c.remote.initialWindowSize ≤ MAX_WINDOW := (ranged.initial live).2
      have floor : c.remote.initialWindowSize - MAX_WINDOW ≤ s.sendWindow.value :=
        ranged.floor live id s found
      unfold MAX_WINDOW at high floor
      have stream : id ≠ 0 := by
        rintro rfl
        cases wf.mapped_zero.symm.trans (view_streams found)
      have room := adjusted_fits sound fits live' stream found
      have spent := sentOn id s found
      have balance := exact.stream id s found
      rw [history, streamBalance_append c.remote.initialWindowSize _ c.history unopened, ← came]
        at word ⊢
      rw [SendWindow.value, word]
      exact Int64.toInt_ofInt_of_le (by omega) (by omega)

theorem exact_connect (options : ConnectOptions) : Exact (connect options) := by
  have board := board_connect options
  have neutral := neutral_connect options
  refine ⟨?_, fun id s found => ?_⟩
  · rw [connBalance, credited_neutral neutral, allData_neutral neutral]
    exact congrArg (fun b => b.window.value) board
  · have missing : (connect options).streams.lookup id = none :=
      congrFun (congrArg Board.streams board) id
    rw [missing] at found
    cases found

/-- The windows of a run in which no frame lifts one out of the range. -/
theorem exact_after (options : ConnectOptions) {actions : List Action}
    (along : Machine.Along step (fun c a => c.InRange a) (connect options) actions) :
    Exact (after options actions) := by
  have all := Machine.run_invariant_along
    (P := fun c => ((c.Sealed ∧ Attended c) ∧ WellFormed c.view ∧ Ledger c.view) ∧
      c.board.Ranged ∧ Exact c)
    (fun c a ⟨⟨⟨sound, attended⟩, wf, ledger⟩, ranged, exact⟩ fits =>
      ⟨⟨⟨sealed_step c a sound, attended_step attended a⟩, wellFormed_step sound a wf,
          ledger_step sound wf a ledger⟩,
        ranged_step sound a (fun _ => fits) ranged,
        exact_step sound wf attended.staffed ledger ranged a fits exact⟩)
    ⟨⟨⟨sealed_connect options, attended_connect options⟩, wellFormed_connect options,
      ledger_connect options⟩, ranged_connect options, exact_connect options⟩ along
  exact all.2.2

/-- Send-side flow control.  While no frame lifts a window out of the range of an `i64`, the
windows are what came for them less what was sent.  Whatever they are, a section sends no more
than both of them, and no more than a frame holds. -/
theorem sendWindows_after (options : ConnectOptions) (actions : List Action) :
    let c := after options actions
    let granted := Machine.gather step received (connect options) actions
    (Machine.Along step (fun c a => c.InRange a) (connect options) actions →
      c.connSendWindow.value = 65535 + credited 0 granted - (allData c.history).length ∧
      ∀ id s, c.streams.lookup id = some s →
        s.sendWindow.value = c.remote.initialWindowSize + credited id (since id granted) -
          (dataOn id (since id c.history)).length) ∧
    ∀ a, ∃ events, (c.step a).history = c.history ++ events ∧
      ∀ id bytes endStream, .sent (.data id bytes endStream) ∈ events → bytes ≠ [] →
        events = [.sent (.data id bytes endStream)] ∧
        (bytes.length : Int) ≤ c.connSendWindow.value ∧
        (∃ s, c.streams.lookup id = some s ∧ (bytes.length : Int) ≤ s.sendWindow.value) ∧
        bytes.length ≤ c.remote.maxFrameSize := by
  intro c granted
  have tallied := tallied_after options actions
  refine ⟨fun along => ?_, sendData_fits (sealed_after options actions)⟩
  have exact := exact_after options along
  refine ⟨?_, fun id s found => ?_⟩
  · rw [tallied.all]
    exact exact.connection
  · rw [tallied.since]
    exact exact.stream id s found

/-- The initial window goes below what was sent, and the peer grants more. -/
def lowered : List Action :=
  [.frame (.windowUpdate 0 100), .request (.bare (.bytes [1, 2, 3])), .pump 0, .pump 0,
    .frame (.settings false { initialWindowSize := some 1 }), .frame (.windowUpdate 1 9)]

theorem sendWindows_after_lowered :
    let c := after {} lowered
    let granted := Machine.gather step received (connect {}) lowered
    (c.connSendWindow.value = 65535 + credited 0 granted - (allData c.history).length ∧
      ∀ id s, c.streams.lookup id = some s →
        s.sendWindow.value = c.remote.initialWindowSize + credited id (since id granted) -
          (dataOn id (since id c.history)).length) ∧
    credited 0 granted = 100 ∧ credited 1 (since 1 granted) = 9 ∧ allData c.history = [1, 2, 3] ∧
    c.connSendWindow.value = 65632 ∧
    (c.streams.lookup 1).map (fun s => s.sendWindow.value) = some 7 := by
  have along : Machine.Along step (fun c a => c.InRange a) (connect {}) lowered := by
    refine ⟨fun _ => ?_, trivial, trivial, trivial, fun _ => ?_, fun _ => ?_, trivial⟩
    · decide +kernel
    · intro iw given id s found
      have small : ∀ entry ∈ (after {} (lowered.take 4)).streams.entries,
          entry.2.sendWindow.value + (1 - (after {} (lowered.take 4)).remote.initialWindowSize) < 2 ^ 63 := by
        decide +kernel
      cases given
      exact small ⟨id, s⟩ (AList.mem_lookup_iff.mp found)
    · show ∀ s ∈ (after {} (lowered.take 5)).streams.lookup 1, s.sendWindow.value + 9 < 2 ^ 63
      decide +kernel
  exact ⟨(sendWindows_after {} lowered).1 along, by decide +kernel, by decide +kernel,
    by decide +kernel, by decide +kernel, by decide +kernel⟩

/-! ## A window that wraps -/

/-- The peer grants the most a frame can. -/
abbrev topUp : Action := .frame (.windowUpdate 0 0x7fffffff)

/-- No stream is needed for it, and nothing is sent. -/
theorem topUp_step (expected : c.pendingHeaderBlock = none) :
    (c.step topUp).pendingHeaderBlock = none ∧ (c.step topUp).called = c.called ∧
      allData (c.step topUp).history = allData c.history ∧
      c.received topUp = [.credit 0 0x7fffffff] := by
  have accepted : c.rejects (.windowUpdate 0 0x7fffffff) = false := by
    simp [rejects, rejectsFrame, expected]
  have same : c.step topUp = c.creditConnection 0x7fffffff := by
    rw [step, onFrame_accepted accepted, dispatchFrame, receiveWindowUpdate, if_neg (by decide),
      if_pos rfl]
  have added : c.increment topUp = [.credit 0 0x7fffffff] := by
    rw [increment, expected]
    rfl
  rw [received, added, same, creditConnection]
  obtain ⟨window, woken⟩ := c.connSendWindow.update (0x7fffffff : UInt32).toNat
  refine ⟨expected, rfl, ?_, ?_⟩
  · show allData (c.history ++ [.credit 0 0x7fffffff]) = _
    rw [allData_append, allData_singleton]
    exact List.append_nil _
  · show [Event.credit 0 0x7fffffff] ++ (if c.opened = c.opened then [] else _) = _
    rw [if_pos rfl, List.append_nil]

theorem topUp_run (n : Nat) (expected : c.pendingHeaderBlock = none) :
    let d := Machine.run step c (List.replicate n topUp)
    d.called = c.called ∧ allData d.history = allData c.history ∧
      credited 0 (Machine.gather step received c (List.replicate n topUp)) = n * (2 ^ 31 - 1) := by
  intro d
  induction n generalizing c with
  | zero => exact ⟨rfl, rfl, (Nat.zero_mul _).symm⟩
  | succ n ih =>
      obtain ⟨expected', called, sent, came⟩ := topUp_step expected
      obtain ⟨later, sent', came'⟩ := ih expected'
      refine ⟨later.trans called, sent'.trans sent, ?_⟩
      rw [List.replicate_succ, Machine.gather, credited_append, came, came', credited_singleton]
      have one : creditOf 0 (.credit 0 0x7fffffff) = 2 ^ 31 - 1 := by
        rw [creditOf, if_pos rfl]
        decide
      rw [one, Nat.succ_mul, Nat.add_comm]

/-- After enough of it, more was granted than the window can hold. -/
theorem wraps_of_many (n : Nat) (many : 2 ^ 63 ≤ 65535 + n * (2 ^ 31 - 1)) :
    let actions := List.replicate n topUp
    let c := after {} actions
    c.called = 0 ∧ c.connSendWindow.value ≠
      65535 + credited 0 (Machine.gather step received (connect {}) actions) -
        (allData c.history).length := by
  intro actions c
  obtain ⟨called, sent, came⟩ := topUp_run n (show (connect {}).pendingHeaderBlock = none from rfl)
  have nothing : allData (connect {}).history = [] := allData_neutral (neutral_connect {})
  refine ⟨called, fun account => ?_⟩
  have silent : allData c.history = [] := sent.trans nothing
  have bound := c.connSendWindow.value_lt
  rw [silent, came, List.length_nil] at account
  omega

def toppedUp : List Action := List.replicate (2 ^ 32 + 2) topUp

theorem not_exact_toppedUp :
    let c := after {} toppedUp
    c.called = 0 ∧ c.connSendWindow.value ≠
      65535 + credited 0 (Machine.gather step received (connect {}) toppedUp) -
        (allData c.history).length :=
  wraps_of_many (2 ^ 32 + 2) (by norm_num)

end Client

end H2ts
