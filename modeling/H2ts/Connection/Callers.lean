import H2ts.Connection.Turns

/-!
# The callers

Three invariants of a client and its callers.  `Staffed`: a call that waits for a
head holds the stream it waits for, and nobody else does; a body that is read was
handed over by a call.  `Ringing`: a ping without an answer is in the map of pings.
`Served`: a stream in the map has its cells to itself, and its head is sent exactly
if it has arrived; a request without a head has its stream in the map.

Each is kept by every turn.
-/

namespace H2ts

open Hpack

namespace Client

variable {fine : Client → Action → Prop}

/-! ## The desk after a turn -/

@[simp] theorem desk_sendFrame (c : Client) (frame : Frame) : (c.sendFrame frame).desk = c.desk := by
  unfold sendFrame
  split <;> rfl

@[simp] theorem desk_replenishRecvWindow (c : Client) (id : UInt32) (n : Nat) :
    (c.replenishRecvWindow id n).desk = c.desk := by
  unfold replenishRecvWindow
  split
  · rfl
  · simp only [desk_sendFrame]
    split
    · exact c.desk_sendFrame _
    · rfl

theorem shelves_modifyCell (c : Client) (k : Nat) (f : Cell → Cell) :
    (c.modifyCell k f).desk =
      { c.desk with shelves := Function.update c.desk.shelves k (f (c.cells k)).shelf } := by
  have shelves : (fun j => (Function.update c.cells k (f (c.cells k)) j).shelf) =
      Function.update c.desk.shelves k (f (c.cells k)).shelf := by
    funext j
    by_cases eq : j = k
    · rw [eq, Function.update_self, Function.update_self]
    · rw [Function.update_of_ne eq, Function.update_of_ne eq]
      rfl
  simp only [desk, modifyCell, shelves]

theorem desk_settle (c : Client) (i k : Nat) (call : Call) (holder : Holder) :
    (c.settle i k call holder).desk = { c.desk with
      calls := Function.update c.calls i call
      shelves := Function.update c.desk.shelves k { (c.cells k).shelf with holder := holder } } :=
  shelves_modifyCell { c with calls := Function.update c.calls i call } k _

theorem desk_withStream (c : Client) {id : UInt32} {s : StreamState}
    (found : c.streams.lookup id = some s) (f : StreamState → Cell → StreamState × Cell) :
    (c.withStream id f).desk = { c.desk with
      shelves := Function.update c.desk.shelves s.cell (f s (c.cells s.cell)).2.shelf } := by
  simp only [withStream, found]
  exact shelves_modifyCell (c.modifyStream id fun _ => (f s (c.cells s.cell)).1) s.cell _

/-- DATA for nobody. -/
theorem desk_receiveDataFrame_none {c : Client} {id : UInt32}
    (missing : c.streams.lookup id = none) (bytes : Bytes) (endStream : Bool) :
    (c.receiveDataFrame id bytes endStream).desk = c.desk := by
  have nobody : id ∉ (c.record (.data id bytes endStream)).streams := AList.lookup_eq_none.mp missing
  simp only [receiveDataFrame, nobody, if_false]
  split
  · rw [desk_sendFrame, desk_record]
  · rfl

theorem desk_receiveDataFrame {c : Client} {id : UInt32} {s : StreamState}
    (found : c.streams.lookup id = some s) (bytes : Bytes) (endStream : Bool) :
    (c.receiveDataFrame id bytes endStream).desk = { c.desk with
      shelves := Function.update c.desk.shelves s.cell { c.cells s.cell with
        recv := (c.cells s.cell).recv.receiveData bytes endStream }.shelf } := by
  have somebody : id ∈ (c.record (.data id bytes endStream)).streams :=
    AList.lookup_isSome.mp (Option.isSome_of_eq_some found)
  simp only [receiveDataFrame, somebody, if_true]
  exact (c.record (.data id bytes endStream)).desk_withStream found _

theorem desk_insertStream (c : Client) (s : StreamState) : (c.insertStream s).desk = c.desk := by
  unfold insertStream
  simp only []
  split
  · rfl
  next old found => exact c.desk_modifyCell old.cell (shelf_drop old _)

theorem desk_registerStream (c : Client) (i : Nat) (body : RequestBody) :
    (c.registerStream i body).desk = { c.desk with
      opened := c.opened + 1
      nextStreamId := c.nextStreamId + 2
      shelves := Function.update c.desk.shelves c.opened ⟨c.nextStreamId, .awaiting, [], 0⟩
      calls := Function.update c.calls i (.awaiting c.opened) } := by
  have inserted := desk_insertStream
    { c with nextStreamId := c.nextStreamId + 2, opened := c.opened + 1 } (c.newStream body)
  obtain ⟨e, eq⟩ : ∃ e, e = { c with
      nextStreamId := c.nextStreamId + 2
      opened := c.opened + 1 }.insertStream (c.newStream body) := ⟨_, rfl⟩
  rw [← eq] at inserted
  have same : (c.registerStream i body).desk = {
      (e.modifyCell c.opened fun _ => newCell c.nextStreamId body).desk with
      calls := Function.update e.calls i (.awaiting c.opened) } := by
    rw [eq]
    rfl
  rw [same, shelves_modifyCell, inserted, show e.calls = c.calls from congrArg Desk.calls inserted]
  rfl

theorem desk_dropBody {c : Client} {k : Nat} (reading : (c.cells k).holder = .reading) :
    (c.dropBody k).desk = { c.desk with
      shelves := Function.update c.desk.shelves k { (c.cells k).shelf with holder := .gone } } := by
  have released := (desk_replenishRecvWindow (c.modifyCell k fun cell => { cell with holder := .gone })
    (c.cells k).id (c.cells k).recv.buffered).trans (c.shelves_modifyCell k _)
  simp only [dropBody, reading, if_true]
  split
  · exact released
  · exact (desk_chores (chores_resetStream _ _ _)).trans released

theorem desk_chunk (c : Client) (k : Nat) (recv : RecvState) (result : Yield) (id : UInt32) (n : Nat) :
    ((c.yieldTo k recv result).replenishRecvWindow id n).desk = { c.desk with
      shelves := Function.update c.desk.shelves k
        { (c.cells k).shelf with queue := recv.queue, buffered := recv.buffered } } :=
  (desk_replenishRecvWindow _ _ _).trans (c.shelves_modifyCell k _)

theorem desk_look {c : Client} {k : Nat} {recv : RecvState} (yields : List Yield)
    (queue : recv.queue = (c.cells k).recv.queue)
    (buffered : recv.buffered = (c.cells k).recv.buffered) :
    (c.modifyCell k fun cell => { cell with recv := recv, yields := yields }).desk = c.desk := by
  refine c.desk_modifyCell k ?_
  simp only [Cell.shelf, queue, buffered]

theorem desk_shutDown (c : Client) (err : H2Error) :
    (c.shutDown err).desk =
      { c.desk with closed := true, closeError := some err, windowClosed := true } :=
  desk_wakePumps
    { c with closed := true, closeError := some err, connSendWindow := c.connSendWindow.close.1 } _

theorem desk_ping_closed {c : Client} (closed : c.closed = true) :
    c.ping.desk = { c.desk with
      pinged := c.pinged + 1
      answers := Function.update c.answers c.pinged
        (.sent (.error (c.closeError.getD connectionClosed))) } := by
  have same : c.ping = { c with pinged := c.pinged + 1 }.answer c.pinged
      (.sent (.error (c.closeError.getD connectionClosed))) := if_pos closed
  rw [same]
  rfl

/-- The answers after a ping: one with the same opaque value is cancelled, and the
new one has none. -/
def pingAnswers (c : Client) (data : OpaqueData) : Nat → Oneshot (Except H2Error Unit) :=
  Function.update
    (match c.pings.lookup data with
      | none => c.answers
      | some old => Function.update c.answers old .canceled)
    c.pinged .empty

theorem desk_ping {c : Client} (live : c.closed = false) :
    c.ping.desk = { c.desk with
      pinged := c.pinged + 1
      pings := c.pings.insert (pingData (c.pingCounter + 1)) c.pinged
      answers := c.pingAnswers (pingData (c.pingCounter + 1)) } := by
  unfold ping
  simp only []
  rw [if_neg (by simp [live]), desk_sendFrame, pingAnswers]
  cases c.pings.lookup (pingData (c.pingCounter + 1)) <;> rfl

end Client

/-! ## Calls -/

structure Staffed (d : Desk) : Prop where
  fresh : ∀ i, d.called ≤ i → d.calls i = .dropped
  awaiting : ∀ i k, d.calls i = .awaiting k → k < d.opened ∧ (d.shelves k).holder = .awaiting
  unique : ∀ i j k, d.calls i = .awaiting k → d.calls j = .awaiting k → i = j
  reading : ∀ k, (d.shelves k).holder = .reading →
    k < d.opened ∧ ∃ i head, d.calls i = .responded head k
  responded : ∀ i head k, d.calls i = .responded head k →
    k < d.opened ∧ (d.shelves k).holder ≠ .awaiting
  next : d.nextStreamId.toNat % 2 = 1
  ids : ∀ k < d.opened, (d.shelves k).id.toNat % 2 = 1
  buffered : ∀ k, (d.shelves k).buffered = ((d.shelves k).queue.map List.length).sum

namespace Staffed

variable {d : Desk}

/-- The bytes of a stream change. -/
theorem shelve (staffed : Staffed d) (k : Nat) {x : Shelf} (id : x.id = (d.shelves k).id)
    (holder : x.holder = (d.shelves k).holder)
    (buffered : x.buffered = (x.queue.map List.length).sum) :
    Staffed { d with shelves := Function.update d.shelves k x } := by
  have same (j : Nat) : (Function.update d.shelves k x j).id = (d.shelves j).id ∧
      (Function.update d.shelves k x j).holder = (d.shelves j).holder := by
    by_cases eq : j = k
    · rw [eq, Function.update_self]
      exact ⟨id, holder⟩
    · rw [Function.update_of_ne eq]
      exact ⟨rfl, rfl⟩
  refine ⟨staffed.fresh, fun i j awaits => ?_, staffed.unique, fun j reads => ?_,
    fun i head j answered => ?_, staffed.next, fun j below => ?_, fun j => ?_⟩
  · simp only [(same j).2]
    exact staffed.awaiting i j awaits
  · simp only [(same j).2] at reads
    exact staffed.reading j reads
  · simp only [(same j).2]
    exact staffed.responded i head j answered
  · simp only [(same j).1]
    exact staffed.ids j below
  · by_cases eq : j = k
    · simp only [eq, Function.update_self, buffered]
    · simp only [Function.update_of_ne eq]
      exact staffed.buffered j

/-- A call that waits for nothing. -/
theorem enter (staffed : Staffed d) {i : Nat} {call : Call} (made : i < d.called)
    (before : ∀ head k, d.calls i ≠ .responded head k) (settled : ∀ k, call ≠ .awaiting k)
    (answers : ∀ head k, call = .responded head k →
      k < d.opened ∧ (d.shelves k).holder ≠ .awaiting) :
    Staffed { d with calls := Function.update d.calls i call } := by
  have other {j k : Nat} (awaits : Function.update d.calls i call j = .awaiting k) :
      d.calls j = .awaiting k := by
    by_cases eq : j = i
    · rw [eq, Function.update_self] at awaits
      exact absurd awaits (settled k)
    · rwa [Function.update_of_ne eq] at awaits
  refine ⟨fun j beyond => ?_, fun j k awaits => staffed.awaiting j k (other awaits),
    fun j j' k awaits awaits' => staffed.unique j j' k (other awaits) (other awaits'),
    fun k reads => ?_, fun j head k answered => ?_, staffed.next, staffed.ids, staffed.buffered⟩
  · have ne : j ≠ i := by
      intro eq
      exact absurd made (Nat.not_lt.mpr (eq ▸ beyond))
    simp only [Function.update_of_ne ne]
    exact staffed.fresh j beyond
  · obtain ⟨below, j, head, answered⟩ := staffed.reading k reads
    have ne : j ≠ i := fun eq => before head k (eq ▸ answered)
    exact ⟨below, j, head, by simpa only [Function.update_of_ne ne] using answered⟩
  · by_cases eq : j = i
    · simp only [eq, Function.update_self] at answered
      exact answers head k answered
    · simp only [Function.update_of_ne eq] at answered
      exact staffed.responded j head k answered

/-- A call opens a stream. -/
theorem register (staffed : Staffed d) {i : Nat} (made : i < d.called)
    (before : ∀ head k, d.calls i ≠ .responded head k) :
    Staffed { d with
      opened := d.opened + 1
      nextStreamId := d.nextStreamId + 2
      shelves := Function.update d.shelves d.opened ⟨d.nextStreamId, .awaiting, [], 0⟩
      calls := Function.update d.calls i (.awaiting d.opened) } := by
  have old {j : Nat} (below : j < d.opened) :
      Function.update d.shelves d.opened ⟨d.nextStreamId, .awaiting, [], 0⟩ j = d.shelves j :=
    Function.update_of_ne (Nat.ne_of_lt below) _ _
  have ne {j : Nat} {head : Head} {k : Nat} (answered : d.calls j = .responded head k) : j ≠ i :=
    fun eq => before head k (eq ▸ answered)
  refine ⟨fun j beyond => ?_, fun j k awaits => ?_, fun j j' k awaits awaits' => ?_,
    fun k reads => ?_, fun j head k answered => ?_, ?_, fun k below => ?_, fun k => ?_⟩
  · have ne : j ≠ i := by
      intro eq
      exact absurd made (Nat.not_lt.mpr (eq ▸ beyond))
    simp only [Function.update_of_ne ne]
    exact staffed.fresh j beyond
  · by_cases eq : j = i
    · simp only [eq, Function.update_self, Call.awaiting.injEq] at awaits
      simp [← awaits]
    · simp only [Function.update_of_ne eq] at awaits
      obtain ⟨below, holder⟩ := staffed.awaiting j k awaits
      simp only [old below]
      exact ⟨Nat.lt_succ_of_lt below, holder⟩
  · -- Nobody waited for the new stream before.
    have only {j k : Nat} (other : j ≠ i)
        (awaits : Function.update d.calls i (.awaiting d.opened) j = .awaiting k) :
        d.calls j = .awaiting k ∧ k ≠ d.opened := by
      rw [Function.update_of_ne other] at awaits
      exact ⟨awaits, Nat.ne_of_lt (staffed.awaiting j k awaits).1⟩
    by_cases eq : j = i
    · by_cases eq' : j' = i
      · rw [eq, eq']
      · simp only [eq, Function.update_self, Call.awaiting.injEq] at awaits
        exact absurd awaits.symm (only eq' awaits').2
    · by_cases eq' : j' = i
      · simp only [eq', Function.update_self, Call.awaiting.injEq] at awaits'
        exact absurd awaits'.symm (only eq awaits).2
      · exact staffed.unique j j' k (only eq awaits).1 (only eq' awaits').1
  · by_cases eq : k = d.opened
    · simp only [eq, Function.update_self] at reads
      cases reads
    · simp only [Function.update_of_ne eq] at reads
      obtain ⟨below, j, head, answered⟩ := staffed.reading k reads
      exact ⟨Nat.lt_succ_of_lt below, j, head,
        by simpa only [Function.update_of_ne (ne answered)] using answered⟩
  · by_cases eq : j = i
    · simp only [eq, Function.update_self] at answered
      cases answered
    · simp only [Function.update_of_ne eq] at answered
      obtain ⟨below, holder⟩ := staffed.responded j head k answered
      simp only [old below]
      exact ⟨Nat.lt_succ_of_lt below, holder⟩
  · have odd := staffed.next
    simp only [UInt32.toNat_add, UInt32.reduceToNat]
    omega
  · by_cases eq : k = d.opened
    · simpa only [eq, Function.update_self] using staffed.next
    · have below : k < d.opened := by
        have : k < d.opened + 1 := below
        omega
      simp only [old below]
      exact staffed.ids k below
  · by_cases eq : k = d.opened
    · simp only [eq, Function.update_self, List.map_nil, List.sum_nil]
    · simp only [Function.update_of_ne eq]
      exact staffed.buffered k

/-- The holder of a stream changes, and nobody waits for it any more. -/
theorem release (staffed : Staffed d) {k : Nat} {holder : Holder}
    (nobody : ∀ i, d.calls i ≠ .awaiting k)
    (handed : holder = .reading → ∃ i head, d.calls i = .responded head k)
    (settled : holder ≠ .awaiting) (opened : k < d.opened) :
    Staffed { d with shelves := Function.update d.shelves k { d.shelves k with holder := holder } } := by
  refine ⟨staffed.fresh, fun i j awaits => ?_, staffed.unique, fun j reads => ?_,
    fun i head j answered => ?_, staffed.next, fun j below => ?_, fun j => ?_⟩
  · have ne : j ≠ k := fun eq => nobody i (eq ▸ awaits)
    simp only [Function.update_of_ne ne]
    exact staffed.awaiting i j awaits
  · by_cases eq : j = k
    · simp only [eq, Function.update_self] at reads
      rw [eq]
      exact ⟨opened, handed reads⟩
    · simp only [Function.update_of_ne eq] at reads
      exact staffed.reading j reads
  · by_cases eq : j = k
    · subst eq
      simp only [Function.update_self]
      exact ⟨opened, settled⟩
    · simp only [Function.update_of_ne eq]
      exact staffed.responded i head j answered
  · by_cases eq : j = k
    · simpa only [eq, Function.update_self] using staffed.ids k (eq ▸ below)
    · simp only [Function.update_of_ne eq]
      exact staffed.ids j below
  · by_cases eq : j = k
    · simpa only [eq, Function.update_self] using staffed.buffered k
    · simp only [Function.update_of_ne eq]
      exact staffed.buffered j

/-- A call that waited for a stream ends. -/
theorem settle (staffed : Staffed d) {i k : Nat} (awaits : d.calls i = .awaiting k) {call : Call}
    {holder : Holder} (settled : ∀ j, call ≠ .awaiting j)
    (answers : ∀ head j, call = .responded head j → j = k)
    (handed : holder = .reading → ∃ head, call = .responded head k) (active : holder ≠ .awaiting) :
    Staffed { d with
      calls := Function.update d.calls i call
      shelves := Function.update d.shelves k { d.shelves k with holder := holder } } := by
  have opened := (staffed.awaiting i k awaits).1
  have made : i < d.called := by
    by_contra beyond
    have dropped := staffed.fresh i (Nat.le_of_not_lt beyond)
    rw [awaits] at dropped
    cases dropped
  -- The call lets go of the stream before it ends.
  have dropped : Staffed { d with calls := Function.update d.calls i .dropped } :=
    staffed.enter made (by simp [awaits]) (by simp) (by simp)
  have nobody (j : Nat) : Function.update d.calls i .dropped j ≠ .awaiting k := by
    intro awaits'
    by_cases eq : j = i
    · simp [eq] at awaits'
    · rw [Function.update_of_ne eq] at awaits'
      exact eq (staffed.unique j i k awaits' awaits)
  have released : Staffed { d with
      calls := Function.update d.calls i .dropped
      shelves := Function.update d.shelves k { d.shelves k with holder := .gone } } :=
    dropped.release nobody (by simp) (by simp) opened
  have ended : Staffed { d with
      calls := Function.update d.calls i call
      shelves := Function.update d.shelves k { d.shelves k with holder := .gone } } := by
    have entered := released.enter made (by simp) settled fun head j answered => by
      rw [answers head j answered]
      exact ⟨opened, by simp⟩
    simpa only [Function.update_idem] using entered
  have held := ended.release (k := k) (fun j awaits' => ?_) (fun reads => ?_) active opened
  · simpa only [Function.update_idem, Function.update_self] using held
  · by_cases eq : j = i
    · simp only [eq, Function.update_self] at awaits'
      exact settled k awaits'
    · simp only [Function.update_of_ne eq] at awaits'
      exact eq (staffed.unique j i k awaits' awaits)
  · obtain ⟨head, answered⟩ := handed reads
    exact ⟨i, head, by simpa only [Function.update_self] using answered⟩

/-- What the calls depend on is less than the desk. -/
theorem keep (staffed : Staffed d) {e : Desk} (opened : e.opened = d.opened)
    (next : e.nextStreamId = d.nextStreamId) (shelves : e.shelves = d.shelves)
    (called : e.called = d.called) (calls : e.calls = d.calls) : Staffed e := by
  obtain ⟨fresh, awaiting, unique, reading, responded, odd, ids, buffered⟩ := staffed
  rw [← called] at fresh
  rw [← opened] at awaiting reading responded ids
  rw [← shelves] at awaiting reading responded ids buffered
  rw [← calls] at fresh awaiting unique reading responded
  rw [← next] at odd
  exact ⟨fresh, awaiting, unique, reading, responded, odd, ids, buffered⟩

end Staffed

theorem Call.isIdle_ne {call : Call} (idle : call.isIdle = true) :
    (∀ k, call ≠ .awaiting k) ∧ ∀ head k, call ≠ .responded head k := by
  constructor
  · intro k eq
    rw [eq] at idle
    cases idle
  · intro head k eq
    rw [eq] at idle
    cases idle

/-- The bytes counted are the bytes queued. -/
theorem queued_receiveData {recv : RecvState}
    (same : recv.buffered = (recv.queue.map List.length).sum) (bytes : Bytes) (endStream : Bool) :
    (recv.receiveData bytes endStream).buffered =
      ((recv.receiveData bytes endStream).queue.map List.length).sum := by
  unfold RecvState.receiveData
  split
  · simp [same]
  · exact same

namespace Client

theorem staffed_turn {c d : Client} (turn : Turn fine c d) (staffed : Staffed c.desk) :
    Staffed d.desk := by
  cases turn with
  | chore chore => exact chore.desk ▸ staffed
  | credit id increment asked => exact staffed
  | data id bytes endStream asked =>
      cases found : c.streams.lookup id with
      | none => exact desk_receiveDataFrame_none found bytes endStream ▸ staffed
      | some s =>
          rw [desk_receiveDataFrame found]
          exact staffed.shelve s.cell rfl rfl
            (queued_receiveData (staffed.buffered s.cell) bytes endStream)
  | pong opaqueData =>
      unfold receivePing
      simp only [if_true]
      split
      · exact staffed
      · exact staffed.keep rfl rfl rfl rfl rfl
  | shut err live =>
      rw [desk_shutDown]
      exact staffed.keep rfl rfl rfl rfl rfl
  | farewell lastStreamId errorCode err live =>
      rw [desk_shutDown, desk_sendFrame]
      exact staffed.keep rfl rfl rfl rfl rfl
  | failPings err => exact staffed.keep rfl rfl rfl rfl rfl
  | hangUp closed => exact staffed.keep rfl rfl rfl rfl rfl
  | count =>
      refine ⟨fun i beyond => staffed.fresh i (Nat.le_of_succ_le beyond), staffed.awaiting,
        staffed.unique, staffed.reading, staffed.responded, staffed.next, staffed.ids,
        staffed.buffered⟩
  | enter made before idle =>
      have vacant := Call.isIdle_ne idle
      exact staffed.enter made (Call.isIdle_ne before).2 vacant.1
        fun head k answered => absurd answered (vacant.2 head k)
  | register body made before =>
      rw [desk_registerStream]
      exact staffed.register made (Call.isIdle_ne before).2
  | respond awaiting arrived =>
      rw [desk_settle]
      refine staffed.settle awaiting (by simp) ?_ (fun _ => ⟨_, rfl⟩) (by simp)
      intro head j answered
      cases answered
      rfl
  | refuse err awaiting arrived failed =>
      rw [desk_settle]
      exact staffed.settle awaiting (by simp) (by simp) (by simp) (by simp)
  | dropCall awaiting asked =>
      rw [desk_settle]
      exact staffed.settle awaiting (by simp) (by simp) (by simp) (by simp)
  | @chunk k bytes queue reading queued asked =>
      have same : (c.cells k).recv.buffered = ((c.cells k).recv.queue.map List.length).sum :=
        staffed.buffered k
      rw [desk_chunk]
      refine staffed.shelve k rfl rfl ?_
      rw [queued, List.map_cons, List.sum_cons] at same
      simp only [same]
      omega
  | look recv yields queue buffered ended error =>
      rw [desk_look yields queue buffered]
      exact staffed
  | @dropBody k reading asked =>
      rw [desk_dropBody reading]
      refine staffed.release (fun i awaits => ?_) (by simp) (by simp) (staffed.reading k reading).1
      have waits : (c.cells k).holder = .awaiting := (staffed.awaiting i k awaits).2
      rw [reading] at waits
      cases waits
  | ping =>
      cases closed : c.closed with
      | true =>
          rw [desk_ping_closed closed]
          exact staffed.keep rfl rfl rfl rfl rfl
      | false =>
          rw [desk_ping closed]
          exact staffed.keep rfl rfl rfl rfl rfl

theorem staffed_turns {c d : Client} (turns : Turns fine c d) (staffed : Staffed c.desk) :
    Staffed d.desk := by
  induction turns with
  | refl => exact staffed
  | tail _ turn ih => exact staffed_turn turn ih

theorem desk_connect (options : ConnectOptions) :
    (connect options).desk = (fresh (options.headerTableSize.getD 4096)).desk := by
  simp only [connect]
  split
  · simp only [desk_sendFrame, desk_record]
  · simp only [desk_sendFrame, desk_record]

theorem staffed_connect (options : ConnectOptions) : Staffed (connect options).desk := by
  rw [desk_connect]
  refine ⟨fun _ _ => rfl, fun i k awaits => ?_, fun i j k awaits => ?_, fun k reads => ?_,
    fun i head k answered => ?_, rfl, fun k below => ?_, fun _ => rfl⟩
  · cases awaits
  · cases awaits
  · cases reads
  · cases answered
  · exact absurd below (Nat.not_lt_zero k)

/-! ## Pings -/

end Client

structure Ringing (d : Desk) : Prop where
  sent : ∀ data j, d.pings.lookup data = some j → j < d.pinged
  waiting : ∀ j < d.pinged, d.answers j = .empty → ∃ data, d.pings.lookup data = some j

namespace Client

theorem ringing_ping {c : Client} (live : c.closed = false) (ringing : Ringing c.desk) :
    Ringing c.ping.desk := by
  rw [desk_ping live]
  refine ⟨fun data j found => ?_, fun j below unanswered => ?_⟩
  · by_cases eq : data = pingData (c.pingCounter + 1)
    · subst eq
      simp only [AList.lookup_insert, Option.some.injEq] at found
      exact found ▸ Nat.lt_succ_self c.pinged
    · simp only [AList.lookup_insert_ne eq] at found
      exact Nat.lt_succ_of_lt (ringing.sent data j found)
  · by_cases eq : j = c.pinged
    · exact ⟨pingData (c.pingCounter + 1), by simp only [eq, AList.lookup_insert]⟩
    · have below : j < c.pinged := by
        have : j < c.pinged + 1 := below
        omega
      simp only [pingAnswers, Function.update_of_ne eq] at unanswered
      -- A ping that lost its opaque value was cancelled.
      have kept : c.answers j = .empty ∧
          c.pings.lookup (pingData (c.pingCounter + 1)) ≠ some j := by
        revert unanswered
        cases found : c.pings.lookup (pingData (c.pingCounter + 1)) with
        | none => exact fun unanswered => ⟨unanswered, by simp⟩
        | some old =>
            intro unanswered
            by_cases same : j = old
            · simp [same] at unanswered
            · exact ⟨by simpa [same] using unanswered, fun eq => same (Option.some.inj eq).symm⟩
      obtain ⟨data, found⟩ := ringing.waiting j below kept.1
      have ne : data ≠ pingData (c.pingCounter + 1) := fun eq => kept.2 (eq ▸ found)
      exact ⟨data, by simp only [AList.lookup_insert_ne ne]; exact found⟩

theorem ringing_turn {c d : Client} (turn : Turn fine c d) (ringing : Ringing c.desk) :
    Ringing d.desk := by
  have keep {e : Desk} (pings : e.pings = c.desk.pings) (pinged : e.pinged = c.desk.pinged)
      (answers : e.answers = c.desk.answers) : Ringing e := by
    refine ⟨?_, ?_⟩
    · rw [pings, pinged]
      exact ringing.sent
    · rw [pings, pinged, answers]
      exact ringing.waiting
  cases turn with
  | chore chore => exact chore.desk ▸ ringing
  | credit id increment asked => exact ringing
  | data id bytes endStream asked =>
      cases found : c.streams.lookup id with
      | none => exact desk_receiveDataFrame_none found bytes endStream ▸ ringing
      | some s =>
          rw [desk_receiveDataFrame found]
          exact keep rfl rfl rfl
  | pong opaqueData =>
      unfold receivePing
      simp only [if_true]
      split
      · exact ringing
      next j acked =>
        refine ⟨fun data j' found => ?_, fun j' below unanswered => ?_⟩
        · by_cases eq : data = opaqueData
          · subst eq
            simp [desk] at found
          · simp only [desk, AList.lookup_erase_ne eq] at found
            exact ringing.sent data j' found
        · have ne : j' ≠ j := by
            intro eq
            simp [desk, eq] at unanswered
          simp only [desk, Function.update_of_ne ne] at unanswered
          obtain ⟨data, found⟩ := ringing.waiting j' below unanswered
          have other : data ≠ opaqueData := by
            intro eq
            rw [eq] at found
            exact ne (Option.some.inj (found.symm.trans acked))
          exact ⟨data, by simp only [desk, AList.lookup_erase_ne other]; exact found⟩
  | shut err live =>
      rw [desk_shutDown]
      exact keep rfl rfl rfl
  | farewell lastStreamId errorCode err live =>
      rw [desk_shutDown, desk_sendFrame]
      exact keep rfl rfl rfl
  | failPings err =>
      refine ⟨fun data j found => ?_, fun j below unanswered => ?_⟩
      · cases found
      · simp only [desk, failPings] at unanswered
        split at unanswered
        · cases unanswered
        next absent =>
          obtain ⟨data, found⟩ := ringing.waiting j below unanswered
          have entry : (⟨data, j⟩ : Sigma fun _ : OpaqueData => Nat) ∈ c.pings.entries :=
            AList.mem_lookup_iff.mp found
          exact absurd (List.mem_map_of_mem (f := Sigma.snd) entry) absent
  | hangUp closed => exact keep rfl rfl rfl
  | count => exact keep rfl rfl rfl
  | enter made before idle => exact keep rfl rfl rfl
  | register body made before =>
      rw [desk_registerStream]
      exact keep rfl rfl rfl
  | respond awaiting arrived =>
      rw [desk_settle]
      exact keep rfl rfl rfl
  | refuse err awaiting arrived failed =>
      rw [desk_settle]
      exact keep rfl rfl rfl
  | dropCall awaiting asked =>
      rw [desk_settle]
      exact keep rfl rfl rfl
  | chunk reading queued asked =>
      rw [desk_chunk]
      exact keep rfl rfl rfl
  | look recv yields queue buffered ended error =>
      rw [desk_look yields queue buffered]
      exact ringing
  | dropBody reading asked =>
      rw [desk_dropBody reading]
      exact keep rfl rfl rfl
  | ping =>
      cases closed : c.closed with
      | false => exact ringing_ping closed ringing
      | true =>
          rw [desk_ping_closed closed]
          refine ⟨fun data j found => Nat.lt_succ_of_lt (ringing.sent data j found),
            fun j below unanswered => ?_⟩
          have ne : j ≠ c.pinged := by
            intro eq
            simp [eq] at unanswered
          simp only [Function.update_of_ne ne] at unanswered
          have below : j < c.pinged + 1 := below
          exact ringing.waiting j (by simp only [desk]; omega) unanswered


theorem ringing_turns {c d : Client} (turns : Turns fine c d) (ringing : Ringing c.desk) :
    Ringing d.desk := by
  induction turns with
  | refl => exact ringing
  | tail _ turn ih => exact ringing_turn turn ih

theorem ringing_connect (options : ConnectOptions) : Ringing (connect options).desk := by
  rw [desk_connect]
  refine ⟨fun data j found => ?_, fun j below => ?_⟩
  · cases found
  · exact absurd below (Nat.not_lt_zero j)

/-! ## Open connections -/

/-- A connection that is open was open before, with the same channel. -/
theorem live_turn {c d : Client} (turn : Turn fine c d) (live : d.closed = false) :
    c.closed = false ∧ d.outTx = c.outTx := by
  have keep (closed : d.desk.closed = c.desk.closed) (outTx : d.desk.outTx = c.desk.outTx) :
      c.closed = false ∧ d.outTx = c.outTx := ⟨closed.symm.trans live, outTx⟩
  cases turn with
  | chore chore => exact keep (by rw [chore.desk]) (by rw [chore.desk])
  | credit id increment asked => exact ⟨live, rfl⟩
  | data id bytes endStream asked =>
      cases found : c.streams.lookup id with
      | none =>
          have same := desk_receiveDataFrame_none found bytes endStream
          exact keep (by rw [same]) (by rw [same])
      | some s =>
          have same := desk_receiveDataFrame found bytes endStream
          exact keep (by rw [same]) (by rw [same])
  | pong opaqueData =>
      revert keep live
      unfold receivePing
      simp only [if_true]
      split
      · exact fun live _ => ⟨live, rfl⟩
      · exact fun live _ => ⟨live, rfl⟩
  | shut err _ => cases live
  | farewell lastStreamId errorCode err _ => cases live
  | failPings err => exact ⟨live, rfl⟩
  | hangUp closed =>
      rw [show c.closed = false from live] at closed
      cases closed
  | count => exact ⟨live, rfl⟩
  | enter made before idle => exact ⟨live, rfl⟩
  | @register i body made before =>
      have same := c.desk_registerStream i body
      exact keep (by rw [same]) (by rw [same])
  | respond awaiting arrived => exact ⟨live, rfl⟩
  | refuse err awaiting arrived failed => exact ⟨live, rfl⟩
  | dropCall awaiting asked => exact ⟨live, rfl⟩
  | @chunk k bytes queue reading queued asked =>
      have same := c.desk_chunk k { (c.cells k).recv with
        queue := queue
        buffered := (c.cells k).recv.buffered - bytes.length } (.chunk bytes) (c.cells k).id bytes.length
      exact keep (by rw [same]) (by rw [same])
  | look recv yields queue buffered ended error => exact ⟨live, rfl⟩
  | dropBody reading asked =>
      have same := desk_dropBody reading
      exact keep (by rw [same]) (by rw [same])
  | ping =>
      cases closed : c.closed with
      | true =>
          have same := desk_ping_closed closed
          rw [show c.ping.closed = c.closed from congrArg Desk.closed same, closed] at live
          cases live
      | false =>
          have same := desk_ping closed
          exact ⟨rfl, congrArg Desk.outTx same⟩

theorem live_turns {c d : Client} (turns : Turns fine c d) (live : d.closed = false) :
    c.closed = false ∧ d.outTx = c.outTx := by
  induction turns with
  | refl => exact ⟨live, rfl⟩
  | tail _ turn ih =>
      obtain ⟨before, outTx⟩ := live_turn turn live
      obtain ⟨first, outTx'⟩ := ih before
      exact ⟨first, outTx.trans outTx'⟩

end Client

end H2ts
