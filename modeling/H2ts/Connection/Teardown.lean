import H2ts.Connection.Heads

/-!
# Teardown

`destroy` leaves nobody waiting: a request without a head gets the error, and so
does a ping without an answer, and the streams in the map fail.  What is left is a
client that is torn down (`TornDown`).

It stays so (`tornDown_step`), and nothing is sent any more.  So a GOAWAY, which is
only sent right before the teardown, is the last frame (`Courteous`).
-/

namespace H2ts

open Hpack

/-- A GOAWAY was sent. -/
def Event.isGoodbye : Event → Bool
  | .sent (.goaway ..) => true
  | _ => false

def Event.isCredit : Event → Bool
  | .credit .. => true
  | _ => false

theorem quiet_of_isPlain {e : Event} (plain : e.isPlain = true) :
    e.isGoodbye = false ∧ e.isCredit = false := by
  cases e with
  | sent frame => cases frame <;> first | exact ⟨rfl, rfl⟩ | cases plain
  | credit => cases plain
  | _ => exact ⟨rfl, rfl⟩

/-- Nothing is sent after a GOAWAY, not even another one. -/
def LastWord (history : List Event) : Prop :=
  history.Pairwise fun e e' => e.isGoodbye = true → e'.isSent = false

/-- The slots of a connection that is torn down. -/
structure Slots.Finished (s : Slots) : Prop where
  ids : s.ids = []
  waiters : s.waiters = []
  closed : s.closed = true
  outTx : s.outTx = false

theorem Slots.Finished.move {s t : Slots} (finished : s.Finished) (move : Slots.Move s t) :
    t.Finished := by
  obtain ⟨ids, waiters, closed, outTx⟩ := finished
  cases move with
  | remove id => exact ⟨by simp [Slots.woken, Slots.without, ids], rfl, closed, outTx⟩
  | limit n => exact ⟨ids, rfl, closed, outTx⟩
  | goaway doomed => exact ⟨by simp [Slots.woken, ids], rfl, closed, outTx⟩
  | destroy => exact ⟨rfl, rfl, rfl, rfl⟩
  | park i live | tryOpen id live =>
      rw [live] at closed
      cases closed

theorem Slots.Finished.moves {s t : Slots} (finished : s.Finished) (moves : Slots.Moves s t) :
    t.Finished := by
  induction moves with
  | refl => exact finished
  | tail _ move ih => exact ih.move move

namespace Client

variable {fine : Client → Action → Prop} {c d : Client}

/-! ## Goodbye -/

theorem adds_replenishRecvWindow {kind : Event → Prop}
    (update : ∀ id increment, kind (.sent (.windowUpdate id increment))) (c : Client) (id : UInt32)
    (n : Nat) : Adds kind c (c.replenishRecvWindow id n) := by
  unfold replenishRecvWindow
  split
  · exact .none rfl rfl
  · have streamed : Adds kind c
        (if id ∈ c.streams then c.sendFrame (.windowUpdate id (UInt32.ofNat n)) else c) := by
      split
      · exact .sendFrame c (update _ _)
      · exact .none rfl rfl
    exact streamed.trans (.sendFrame _ (update _ _))

/-- What a turn records: on an open connection, a GOAWAY only as it closes it, and send
credit only if it was asked for. -/
theorem adds_turn {kind : Event → Prop}
    (quiet : ∀ e, e.isGoodbye = false → e.isCredit = false → kind e)
    (credit : ∀ id increment, fine c (.frame (.windowUpdate id increment)) → kind (.credit id increment))
    (turn : Turn fine c d) :
    Adds kind c d ∨
      c.closed = false ∧ d.closed = true ∧
        (d.history = c.history ∨ ∃ frame, d.history = c.history ++ [.sent frame]) := by
  have plain (e : Event) (plain : e.isPlain = true) : kind e :=
    quiet e (quiet_of_isPlain plain).1 (quiet_of_isPlain plain).2
  have update (id increment : UInt32) : kind (.sent (.windowUpdate id increment)) := quiet _ rfl rfl
  cases turn with
  | chore chore => exact .inl (chore.adds.mono plain)
  | credit id increment asked => exact .inl (.record c (credit id increment asked) rfl)
  | data id bytes endStream asked =>
      left
      have noted : Adds kind c (c.record (.data id bytes endStream)) :=
        .record c (quiet _ rfl rfl) rfl
      unfold receiveDataFrame withStream
      simp only []
      split
      · split
        · exact noted
        · exact noted.trans (.none rfl rfl)
      · split
        · exact noted.trans (.sendFrame _ (quiet _ rfl rfl))
        · exact noted
  | pong opaqueData =>
      left
      unfold receivePing
      simp only [if_true]
      split <;> exact .none rfl rfl
  | shut err live => exact .inr ⟨live, rfl, .inl rfl⟩
  | farewell lastStreamId errorCode err live =>
      refine .inr ⟨live, rfl, ?_⟩
      unfold sendFrame
      split
      · exact .inr ⟨_, rfl⟩
      · exact .inl rfl
  | failPings err => exact .inl (.none rfl rfl)
  | hangUp closed => exact .inl (.none rfl rfl)
  | count => exact .inl (.none rfl rfl)
  | enter made before idle => exact .inl (.none rfl rfl)
  | @register i body made before =>
      refine .inl (.one (.opened c.nextStreamId) ?_ ?_ (quiet _ rfl rfl) fun _ => rfl)
      · exact congrArg Desk.closed (c.desk_registerStream i body)
      · exact congrArg View.history (c.view_registerStream i body)
  | respond awaiting arrived => exact .inl (.none rfl rfl)
  | refuse err awaiting arrived failed => exact .inl (.none rfl rfl)
  | dropCall awaiting asked => exact .inl (.none rfl rfl)
  | @chunk k bytes queue reading queued asked =>
      have yielded (recv : RecvState) : Adds kind c (c.yieldTo k recv (.chunk bytes)) :=
        .none rfl rfl
      exact .inl ((yielded _).trans (adds_replenishRecvWindow update _ _ _))
  | look recv yields queue buffered ended error => exact .inl (.none rfl rfl)
  | @dropBody k reading asked =>
      left
      have released : Adds kind c
          (c.modifyCell k fun cell => { cell with holder := .gone }) := .none rfl rfl
      simp only [dropBody, reading, if_true]
      split
      · exact released.trans (adds_replenishRecvWindow update _ _ _)
      · have reset := adds_chores (chores_resetStream ((c.modifyCell k fun cell =>
          { cell with holder := .gone }).replenishRecvWindow (c.cells k).id
            (c.cells k).recv.buffered) (c.cells k).id .cancel)
        exact (released.trans (adds_replenishRecvWindow update _ _ _)).trans (reset.mono plain)
  | ping => exact .inl (c.adds_ping (quiet _ rfl rfl))

theorem civil_turn (turn : Turn fine c d) :
    Adds (fun e => e.isGoodbye = false) c d ∨
      c.closed = false ∧ d.closed = true ∧
        (d.history = c.history ∨ ∃ frame, d.history = c.history ++ [.sent frame]) :=
  adds_turn (fun _ quiet _ => quiet) (fun _ _ _ => rfl) turn

/-- A GOAWAY is only sent as the connection closes, and is the last frame. -/
structure Courteous (c : Client) : Prop where
  unsaid : c.closed = false → ∀ e ∈ c.history, e.isGoodbye = false
  last : LastWord c.history

theorem courteous_turn (turn : Turn fine c d) (courteous : Courteous c) : Courteous d := by
  rcases civil_turn turn with ⟨closed, events, history, kinds, unsent⟩ | ⟨live, closed, rest⟩
  · refine ⟨fun live => ?_, ?_⟩
    · rw [closed] at live
      rw [history]
      intro e mem
      rcases List.mem_append.mp mem with mem | mem
      · exact courteous.unsaid live e mem
      · exact kinds e mem
    · rw [history]
      refine List.pairwise_append.mpr ⟨courteous.last, ?_, fun e mem e' mem' goodbye => ?_⟩
      · refine List.pairwise_of_forall_mem_list fun e mem e' _ goodbye => ?_
        rw [kinds e mem] at goodbye
        cases goodbye
      · cases isClosed : c.closed with
        | true => exact unsent isClosed e' mem'
        | false =>
            rw [courteous.unsaid isClosed e mem] at goodbye
            cases goodbye
  · have fresh := courteous.unsaid live
    refine ⟨fun live' => ?_, ?_⟩
    · rw [closed] at live'
      cases live'
    · rcases rest with same | ⟨frame, said⟩
      · rw [same]
        exact courteous.last
      · rw [said]
        refine List.pairwise_append.mpr ⟨courteous.last, List.pairwise_singleton _ _,
          fun e mem e' _ goodbye => ?_⟩
        rw [fresh e mem] at goodbye
        cases goodbye

theorem courteous_turns (turns : Turns fine c d) (courteous : Courteous c) : Courteous d := by
  induction turns with
  | refl => exact courteous
  | tail _ turn ih => exact courteous_turn turn ih

theorem courteous_connect (options : ConnectOptions) : Courteous (connect options) := by
  have adds : Adds (fun e => e.isGoodbye = false) (fresh (options.headerTableSize.getD 4096))
      (connect options) := by
    have began : Adds (fun e => e.isGoodbye = false) (fresh (options.headerTableSize.getD 4096))
        ((fresh (options.headerTableSize.getD 4096)).record (.preface CONNECTION_PREFACE)) :=
      .record _ rfl rfl
    simp only [connect]
    split
    · exact (began.trans (.sendFrame _ rfl)).trans (.sendFrame _ rfl)
    · exact began.trans (.sendFrame _ rfl)
  obtain ⟨-, events, history, quiet, -⟩ := adds
  have quiet : ∀ e ∈ (connect options).history, e.isGoodbye = false := by
    rw [history]
    exact quiet
  refine ⟨fun _ => quiet, List.pairwise_of_forall_mem_list fun e mem e' _ goodbye => ?_⟩
  rw [quiet e mem] at goodbye
  cases goodbye

/-! ## A closed connection -/

/-- On a closed connection without pings, a turn changes neither. -/
theorem closed_turn (turn : Turn fine c d) (closed : c.closed = true) (rung : c.pings = ∅) :
    d.closed = true ∧ d.pings = ∅ ∧ d.closeError = c.closeError ∧
      d.connSendWindow.closed = c.connSendWindow.closed := by
  have desk (same : d.desk.closed = c.desk.closed) (pings : d.desk.pings = c.desk.pings)
      (error : d.desk.closeError = c.desk.closeError)
      (window : d.desk.windowClosed = c.desk.windowClosed) :
      d.closed = true ∧ d.pings = ∅ ∧ d.closeError = c.closeError ∧
        d.connSendWindow.closed = c.connSendWindow.closed :=
    ⟨same.trans closed, pings.trans rung, error, window⟩
  cases turn with
  | chore chore =>
      have same := chore.desk
      exact desk (by rw [same]) (by rw [same]) (by rw [same]) (by rw [same])
  | credit id increment asked => exact desk rfl rfl rfl rfl
  | data id bytes endStream asked =>
      cases found : c.streams.lookup id with
      | none =>
          have same := desk_receiveDataFrame_none found bytes endStream
          exact desk (by rw [same]) (by rw [same]) (by rw [same]) (by rw [same])
      | some s =>
          have same := desk_receiveDataFrame found bytes endStream
          exact desk (by rw [same]) (by rw [same]) (by rw [same]) (by rw [same])
  | pong opaqueData =>
      have nobody : c.pings.lookup opaqueData = none := by rw [rung]; rfl
      have same : c.receivePing true opaqueData = c := by simp only [receivePing, if_true, nobody]
      rw [same]
      exact ⟨closed, rung, rfl, rfl⟩
  | shut err live =>
      rw [live] at closed
      cases closed
  | farewell lastStreamId errorCode err live =>
      rw [live] at closed
      cases closed
  | failPings err => exact ⟨closed, rfl, rfl, rfl⟩
  | hangUp _ => exact desk rfl rfl rfl rfl
  | count => exact desk rfl rfl rfl rfl
  | enter made before idle => exact desk rfl rfl rfl rfl
  | @register i body made before =>
      have same := c.desk_registerStream i body
      exact desk (by rw [same]) (by rw [same]) (by rw [same]) (by rw [same])
  | respond awaiting arrived => exact desk rfl rfl rfl rfl
  | refuse err awaiting arrived failed => exact desk rfl rfl rfl rfl
  | dropCall awaiting asked => exact desk rfl rfl rfl rfl
  | @chunk k bytes queue reading queued asked =>
      have same := c.desk_chunk k { (c.cells k).recv with
        queue := queue
        buffered := (c.cells k).recv.buffered - bytes.length } (.chunk bytes) (c.cells k).id bytes.length
      exact desk (by rw [same]) (by rw [same]) (by rw [same]) (by rw [same])
  | look recv yields queue buffered ended error => exact desk rfl rfl rfl rfl
  | dropBody reading asked =>
      have same := desk_dropBody reading
      exact desk (by rw [same]) (by rw [same]) (by rw [same]) (by rw [same])
  | ping =>
      have same := desk_ping_closed closed
      exact desk (by rw [same]) (by rw [same]) (by rw [same]) (by rw [same])

theorem closed_turns (turns : Turns fine c d) (closed : c.closed = true) (rung : c.pings = ∅) :
    d.closed = true ∧ d.pings = ∅ ∧ d.closeError = c.closeError ∧
      d.connSendWindow.closed = c.connSendWindow.closed := by
  induction turns with
  | refl => exact ⟨closed, rung, rfl, rfl⟩
  | tail _ turn ih =>
      obtain ⟨closed, pings, error, window⟩ := ih
      obtain ⟨closed', pings', error', window'⟩ := closed_turn turn closed pings
      exact ⟨closed', pings', error'.trans error, window'.trans window⟩

/-- The history only grows. -/
theorem history_turns (turns : Turns fine c d) : c.history <+: d.history := by
  induction turns with
  | refl => exact List.prefix_rfl
  | tail _ turn ih =>
      refine ih.trans ?_
      rcases civil_turn turn with ⟨-, events, history, -, -⟩ | ⟨-, -, history | ⟨frame, history⟩⟩
      · exact ⟨events, history.symm⟩
      · rw [history]
      · exact ⟨[.sent frame], history.symm⟩

/-- Nothing is sent on a closed connection. -/
theorem unsent_turns (turns : Turns fine c d) (closed : c.closed = true) :
    d.closed = true ∧ ∃ events, d.history = c.history ++ events ∧ ∀ e ∈ events, e.isSent = false := by
  induction turns with
  | refl => exact ⟨closed, [], by simp⟩
  | tail _ turn ih =>
      obtain ⟨closed, events, history, unsent⟩ := ih
      rcases civil_turn turn with ⟨same, later, history', -, unsent'⟩ | ⟨live, -, -⟩
      · refine ⟨same.trans closed, events ++ later, ?_, fun e mem => ?_⟩
        · rw [history', history, List.append_assoc]
        · rcases List.mem_append.mp mem with mem | mem
          · exact unsent e mem
          · exact unsent' closed e mem
      · rw [live] at closed
        cases closed

/-- The connection is closed with this error, and nothing is left of it. -/
structure TornDown (err : H2Error) (c : Client) : Prop where
  closed : c.closed = true
  closeError : c.closeError = some err
  streams : c.streams.keys = []
  pings : c.pings = ∅
  waiters : c.slotWaiters = []
  window : c.connSendWindow.closed = true
  outTx : c.outTx = false

theorem finished_step (finished : c.slots.Finished) (a : Action) : (c.step a).slots.Finished := by
  rcases c.moves_step a with moves | ⟨id, errorCode, -, -, removed⟩
  · exact finished.moves moves
  · obtain ⟨ids, waiters, closed, outTx⟩ := finished
    rw [removed]
    exact ⟨by simp [Slots.without, ids], waiters, closed, outTx⟩

theorem TornDown.step {err : H2Error} (torn : TornDown err c) (attended : Attended c) (a : Action) :
    TornDown err (c.step a) := by
  have turns := attended.turns a
  have finished : c.slots.Finished := ⟨torn.streams, torn.waiters, torn.closed, torn.outTx⟩
  obtain ⟨streams, waiters, closed, outTx⟩ := finished_step finished a
  obtain ⟨-, pings, error, window⟩ := closed_turns turns torn.closed torn.pings
  exact ⟨closed, error.trans torn.closeError, streams, pings, waiters, window.trans torn.window, outTx⟩

/-! ## Teardown -/

theorem desk_destroy (live : c.closed = false) (err : H2Error) :
    (c.destroy err).desk = { c.desk with
      pings := ∅
      answers := fun j =>
        if j ∈ c.pings.entries.map Sigma.snd then .sent (.error err) else c.answers j
      outTx := false
      closed := true
      closeError := some err
      windowClosed := true } := by
  have removed := (desk_chores ((c.shutDown err).chores_removeAll (c.shutDown err).streams.keys
    err)).trans (c.desk_shutDown err)
  obtain ⟨e, eq⟩ : ∃ e, e = (c.shutDown err).streams.keys.foldl
    (fun c id => c.removeAndFail id err) (c.shutDown err) := ⟨_, rfl⟩
  rw [← eq] at removed
  have same : (c.destroy err).desk = { e.desk with
      pings := ∅
      answers := fun j =>
        if j ∈ e.desk.pings.entries.map Sigma.snd then .sent (.error err) else e.desk.answers j
      outTx := false } := by
    rw [eq]
    simp only [destroy, live, Bool.false_eq_true, if_false]
    rfl
  rw [same, removed]
  rfl

theorem tornDown_destroy (live : c.closed = false) (err : H2Error) : TornDown err (c.destroy err) := by
  have slots := c.slots_destroy err
  rw [live] at slots
  have desk := desk_destroy live err
  exact ⟨congrArg Slots.closed slots, congrArg Desk.closeError desk, congrArg Slots.ids slots,
    congrArg Desk.pings desk, congrArg Slots.waiters slots, congrArg Desk.windowClosed desk,
    congrArg Slots.outTx slots⟩

/-- A stream that is not in the map does not notice that others fail. -/
theorem cells_removeAndFail_ne (served : Served c) {id : UInt32} {k : Nat} (err : H2Error)
    (other : ∀ s, c.streams.lookup id = some s → s.cell ≠ k) :
    ((c.removeAndFail id err).cells k).head = (c.cells k).head ∧
      ((c.removeAndFail id err).cells k).recv = (c.cells k).recv := by
  cases found : c.streams.lookup id with
  | none => simp only [removeAndFail, found, and_self]
  | some s =>
      obtain ⟨x, -, -, -, -, cells⟩ := cells_removeAndFail served found err
      obtain ⟨parked, woken⟩ := c.cells_wakePumps s.sendWindow.close.2 k
      rw [cells, Function.update_of_ne (other s found).symm, woken]
      exact ⟨rfl, rfl⟩

theorem closed_destroy (c : Client) (err : H2Error) : (c.destroy err).closed = true := by
  cases closed : c.closed with
  | true => rw [destroy_closed closed, closed]
  | false => exact (tornDown_destroy closed err).closed

theorem lookup_removeAndFail (c : Client) (id id' : UInt32) (err : H2Error) :
    (c.removeAndFail id err).streams.lookup id' = if id' = id then none else c.streams.lookup id' := by
  have erased : (c.removeAndFail id err).streams.lookup id' = (c.streams.erase id).lookup id' := by
    cases found : c.streams.lookup id with
    | none =>
        simp only [removeAndFail, found]
        by_cases eq : id' = id
        · rw [eq, AList.lookup_erase, found]
        · rw [AList.lookup_erase_ne eq]
    | some s => simp only [removeAndFail, found, record, modifyCell, wakePumps]
  rw [erased]
  split
  next eq => rw [eq, AList.lookup_erase]
  next ne => rw [AList.lookup_erase_ne ne]

theorem cells_removeAll_ne (served : Served c) (ids : List UInt32) {k : Nat} (err : H2Error)
    (unmapped : ∀ id s, c.streams.lookup id = some s → s.cell ≠ k) :
    ((ids.foldl (fun c id => c.removeAndFail id err) c).cells k).head = (c.cells k).head ∧
      ((ids.foldl (fun c id => c.removeAndFail id err) c).cells k).recv = (c.cells k).recv := by
  induction ids generalizing c with
  | nil => exact ⟨rfl, rfl⟩
  | cons id ids ih =>
      have here := cells_removeAndFail_ne served err (unmapped id)
      have later := ih (served_removeAndFail served id err).1 fun id' s found => by
        rw [lookup_removeAndFail] at found
        split at found
        · cases found
        · exact unmapped id' s found
      exact ⟨later.1.trans here.1, later.2.trans here.2⟩

/-- Every stream of the list fails. -/
theorem cells_removeAll (served : Served c) {ids : List UInt32} {id : UInt32} {s : StreamState}
    (found : c.streams.lookup id = some s) (mem : id ∈ ids) (err : H2Error) :
    ((ids.foldl (fun c id => c.removeAndFail id err) c).cells s.cell).head =
        (if s.gotHead then (c.cells s.cell).head else .sent (.error err)) ∧
      ((ids.foldl (fun c id => c.removeAndFail id err) c).cells s.cell).recv.error = some err ∧
      ((ids.foldl (fun c id => c.removeAndFail id err) c).cells s.cell).recv.ended = true := by
  induction ids generalizing c with
  | nil => cases mem
  | cons id' ids ih =>
      have served' := (served_removeAndFail served id' err).1
      rw [List.foldl_cons]
      by_cases eq : id = id'
      · subst eq
        obtain ⟨x, -, head, error, ended, cells⟩ := cells_removeAndFail served found err
        have own : (c.removeAndFail id err).cells s.cell = x := by rw [cells, Function.update_self]
        have unmapped : ∀ id' t, (c.removeAndFail id err).streams.lookup id' = some t →
            t.cell ≠ s.cell := by
          intro id' t found'
          rw [lookup_removeAndFail] at found'
          split at found'
          · cases found'
          next ne => exact served.cell_ne found found' ne
        obtain ⟨sameHead, sameRecv⟩ := cells_removeAll_ne served' ids err unmapped
        rw [sameHead, sameRecv, own]
        exact ⟨head, error, ended⟩
      · have here := @cells_removeAndFail_ne c served id' s.cell err fun t found' =>
          served.cell_ne found found' (Ne.symm eq)
        have still : (c.removeAndFail id' err).streams.lookup id = some s := by
          rw [lookup_removeAndFail, if_neg eq, found]
        have later := ih served' still ((List.mem_cons.mp mem).resolve_left eq)
        rw [here.1] at later
        exact later

/-- The streams in the map fail. -/
theorem cells_destroy (served : Served c) (live : c.closed = false) {id : UInt32} {s : StreamState}
    (found : c.streams.lookup id = some s) (err : H2Error) :
    ((c.destroy err).cells s.cell).head =
        (if s.gotHead then (c.cells s.cell).head else .sent (.error err)) ∧
      ((c.destroy err).cells s.cell).recv.error = some err ∧
      ((c.destroy err).cells s.cell).recv.ended = true := by
  have shut := (served_turn (.shut err live : Turn (fun _ _ => True) c _) served).1
  have mem : id ∈ (c.shutDown err).streams.keys :=
    AList.mem_keys.mp (AList.lookup_isSome.mp (Option.isSome_of_eq_some found))
  have removed := cells_removeAll shut found mem err
  have cells : (c.destroy err).cells = ((c.shutDown err).streams.keys.foldl
      (fun c id => c.removeAndFail id err) (c.shutDown err)).cells := by
    simp only [destroy, live, Bool.false_eq_true, if_false]
    rfl
  obtain ⟨parked, woken⟩ := cells_wakePumps
    { c with closed := true, closeError := some err, connSendWindow := c.connSendWindow.close.1 }
    c.connSendWindow.close.2 s.cell
  have head : ((c.shutDown err).cells s.cell).head = (c.cells s.cell).head := by
    rw [show (c.shutDown err).cells s.cell = _ from woken]
  rw [cells, ← head]
  exact removed

theorem courteous_after (options : ConnectOptions) (actions : List Action) :
    Courteous (Client.after options actions) := by
  have all := Machine.run_invariant (P := fun c => Attended c ∧ Courteous c)
    (fun c a ⟨attended, courteous⟩ =>
      have turns := attended.turns a
      ⟨attended_step attended a, courteous_turns turns courteous⟩)
    ⟨attended_connect options, courteous_connect options⟩ actions
  exact all.2

/-- A client that is torn down, and has sent nothing since. -/
structure Hushed (err : H2Error) (d e : Client) : Prop where
  attended : Attended e
  courteous : Courteous e
  torn : TornDown err e
  unsent : ∃ events, e.history = d.history ++ events ∧ ∀ e ∈ events, e.isSent = false

theorem Hushed.step {err : H2Error} {d e : Client} (hushed : Hushed err d e) (a : Action) :
    Hushed err d (e.step a) := by
  obtain ⟨attended, courteous, torn, events, history, unsent⟩ := hushed
  have turns := attended.turns a
  obtain ⟨-, later, history', unsent'⟩ := unsent_turns turns torn.closed
  refine ⟨attended_step attended a, courteous_turns turns courteous, torn.step attended a,
    events ++ later, ?_, fun x mem => ?_⟩
  · rw [history', history, List.append_assoc]
  · rcases List.mem_append.mp mem with mem | mem
    · exact unsent x mem
    · exact unsent' x mem

/-- In every reachable state of an open connection, teardown gives the error to
everybody who waits for a head, an answer or a slot, and fails the streams in the
map.  Whatever happens later, the connection stays torn down with this error, and
nothing is sent: a GOAWAY is the last frame. -/
theorem destroy_final (options : ConnectOptions) (actions : List Action) (err : H2Error)
    (live : (Client.after options actions).closed = false) :
    let c := Client.after options actions
    let d := c.destroy err
    (∀ i k, c.calls i = .awaiting k → (c.cells k).head = .empty →
      (d.cells k).head = .sent (.error err)) ∧
    (∀ i request, c.calls i = .parked request → (d.step (.pollCall i)).calls i = .refused err) ∧
    (∀ j < c.pinged, c.answers j = .empty → d.answers j = .sent (.error err)) ∧
    (∀ id s, c.streams.lookup id = some s →
      (d.cells s.cell).recv.error = some err ∧ (d.cells s.cell).recv.ended = true) ∧
    ∀ later, let e := Machine.run step d later
      TornDown err e ∧ (∀ err', e.destroy err' = e) ∧
      (∃ events, e.history = d.history ++ events ∧ ∀ x ∈ events, x.isSent = false) ∧
      LastWord e.history := by
  intro c d
  have attended : Attended c := attended_after options actions
  have turns : Turns (fun _ _ => True) c d := c.turns_destroy err
  have torn : TornDown err d := tornDown_destroy live err
  have desk : d.desk = _ := desk_destroy live err
  refine ⟨fun i k awaiting empty => ?_, fun i request parked => ?_, fun j below unanswered => ?_,
    fun id s found => (cells_destroy attended.served live found err).2, fun later => ?_⟩
  · obtain ⟨id, s, found, rfl⟩ := attended.served.waiting k (attended.staffed.awaiting i k awaiting).1
      empty
    have head := (cells_destroy attended.served live found err).1
    have unanswered : s.gotHead = false := by
      by_contra got
      obtain ⟨-, head, sent⟩ := (attended.served.mapped id s found).2.2.answered (by simpa using got)
      rw [empty] at sent
      cases sent
    rwa [unanswered] at head
  · have calls : d.calls i = .parked request := (congrArg (fun d => Desk.calls d i) desk).trans parked
    have refused : d.unavailable = some err := by simp [unavailable, torn.closed, torn.closeError]
    have same : d.step (.pollCall i) =
        { d with calls := Function.update d.calls i (.refused err) } := by
      show d.pollCall i = _
      simp [pollCall, calls, torn.waiters, tryOpen, refused]
    rw [same]
    exact Function.update_self _ _ _
  · obtain ⟨data, found⟩ := attended.ringing.waiting j below unanswered
    have entry : (⟨data, j⟩ : Sigma fun _ : OpaqueData => Nat) ∈ c.pings.entries :=
      AList.mem_lookup_iff.mp found
    have answers : d.answers j = _ := congrArg (fun d => Desk.answers d j) desk
    rw [answers]
    exact if_pos (List.mem_map_of_mem (f := Sigma.snd) entry)
  · have stays : Hushed err d (Machine.run step d later) :=
      Machine.run_invariant (P := Hushed err d) (fun _ a hushed => hushed.step a)
        ⟨attended_turns turns attended, courteous_turns turns (courteous_after options actions), torn,
          [], by simp⟩ later
    exact ⟨stays.torn, fun err' => destroy_closed stays.torn.closed err', stays.unsent,
      stays.courteous.last⟩

/-- A body that is being read, a request without a head, one that is parked, and a ping. -/
def inFlight : List Action :=
  [.frame (.settings false { maxConcurrentStreams := some 2 }), .request (.bare .empty),
    .frame (.headers 1 [0x88] false true none), .frame (.data 1 [1, 2] false), .pollCall 0,
    .request (.bare (.bytes [3])), .request (.bare .empty), .pollCall 2, .ping]

theorem destroy_final_inFlight :
    let c := Client.after {} inFlight
    let d := c.destroy connectionClosed
    c.calls 2 = .parked (.bare .empty) ∧ (c.cells 0).holder = .reading ∧
      (d.cells 1).head = .sent (.error connectionClosed) ∧
      (d.step (.pollCall 2)).calls 2 = .refused connectionClosed ∧
      d.answers 0 = .sent (.error connectionClosed) ∧
      (d.cells 0).recv.error = some connectionClosed ∧
      ((Machine.run step d [.read 0, .read 0]).cells 0).yields =
        [.chunk [1, 2], .failed connectionClosed] ∧
      LastWord (Machine.run step d [.read 0, .read 0, .dropCall 1, .close]).history := by
  intro c d
  have parked : c.calls 2 = .parked (.bare .empty) := by decide +kernel
  have own : (c.streams.lookup 1).map StreamState.cell = some 0 := by decide +kernel
  obtain ⟨s, found, cell⟩ := Option.map_eq_some_iff.mp own
  obtain ⟨heads, calls, answers, bodies, later⟩ :=
    destroy_final {} inFlight connectionClosed (by decide +kernel)
  have body := (bodies 1 s found).1
  rw [cell] at body
  exact ⟨parked, by decide +kernel, heads 1 1 (by decide +kernel) (by decide +kernel),
    calls 2 _ parked, answers 0 (by decide +kernel) (by decide +kernel), body, by decide +kernel,
    (later [.read 0, .read 0, .dropCall 1, .close]).2.2.2⟩

end Client

end H2ts
