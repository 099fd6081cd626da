import H2ts.Connection.Teardown
import Mathlib.Algebra.BigOperators.Group.Finset.Basic
import Mathlib.Algebra.Order.BigOperators.Group.Finset

/-!
# Receive credit

DATA uses up two receive windows, that of its stream and that of the connection,
and WINDOW_UPDATE frames return the credit.  A window is named by the stream id of
its WINDOW_UPDATE frames, which is 0 for the connection.  What was received, what
was returned and what is still unread are sums, over the history and over the
cells, and a turn changes them in three cases only (`credit_cases`): DATA comes,
a chunk is read, or a body is dropped.

What was returned and what is unread is never more than what was received
(`credit_after`).  The rest is lost (`Settles`), and the cases say when that is
nothing.
-/

namespace H2ts

open BigEndian

namespace History

/-! ## The history of a window -/

/-- The increment an event returns to a window.  This is the increment on the
wire. -/
def returnOf (id : UInt32) : Event → Nat
  | .sent (.windowUpdate id' increment) => if id' = id then (low31 increment).toNat else 0
  | _ => 0

/-- What was returned to a window. -/
def returned (id : UInt32) (history : List Event) : Nat := (history.map (returnOf id)).sum

/-- Whether the bytes of a stream are charged to a window: the connection is charged
for all of them. -/
def charges (id stream : UInt32) : Bool := id == 0 || stream == id

/-- The bytes an event charges to a window. -/
def chargeOf (id : UInt32) : Event → Nat
  | .data stream bytes _ => if charges id stream then bytes.length else 0
  | _ => 0

/-- The DATA bytes dispatched that are charged to a window. -/
def received (id : UInt32) (history : List Event) : Nat := (history.map (chargeOf id)).sum

@[simp] theorem returned_append (id : UInt32) (h h' : List Event) :
    returned id (h ++ h') = returned id h + returned id h' := by
  simp [returned]

@[simp] theorem returned_nil (id : UInt32) : returned id [] = 0 := rfl

@[simp] theorem returned_cons (id : UInt32) (e : Event) (h : List Event) :
    returned id (e :: h) = returnOf id e + returned id h := by
  simp [returned]

@[simp] theorem received_append (id : UInt32) (h h' : List Event) :
    received id (h ++ h') = received id h + received id h' := by
  simp [received]

@[simp] theorem received_nil (id : UInt32) : received id [] = 0 := rfl

@[simp] theorem received_cons (id : UInt32) (e : Event) (h : List Event) :
    received id (e :: h) = chargeOf id e + received id h := by
  simp [received]

theorem sum_eq_zero {α : Type} {f : α → Nat} {xs : List α} (zero : ∀ x ∈ xs, f x = 0) :
    (xs.map f).sum = 0 := by
  rw [List.sum_eq_zero_iff]
  simpa using zero

/-- An event that neither charges a window nor returns anything to it. -/
def Neutral (e : Event) : Prop := ∀ id, returnOf id e = 0 ∧ chargeOf id e = 0

theorem neutral_of_isPlain {e : Event} (plain : e.isPlain = true) : Neutral e := by
  intro id
  cases e with
  | sent frame => cases frame <;> first | exact ⟨rfl, rfl⟩ | cases plain
  | data => cases plain
  | _ => exact ⟨rfl, rfl⟩

end History

open History

/-! ## Unread bytes -/

/-- A `ResponseBody` of the stream was handed over. -/
def Desk.handedOver (d : Desk) (k : Nat) : Bool :=
  (List.range d.called).any fun i =>
    match d.calls i with
    | .responded _ k' => k' == k
    | _ => false

/-- It was handed over, and is dropped. -/
def Desk.bodyDropped (d : Desk) (k : Nat) : Bool :=
  d.handedOver k && (d.shelves k).holder == .gone

/-- The bytes of a stream that a window waits for. -/
def Desk.held (d : Desk) (id : UInt32) (k : Nat) : Nat :=
  if charges id (d.shelves k).id && !d.bodyDropped k then (d.shelves k).buffered else 0

/-- The bytes buffered for bodies that were not dropped, or not handed over yet. -/
def Desk.unread (d : Desk) (id : UInt32) : Nat := ∑ k ∈ Finset.range d.opened, d.held id k

theorem Staffed.id_ne_zero {d : Desk} (staffed : Staffed d) {k : Nat} (below : k < d.opened) :
    (d.shelves k).id ≠ 0 := by
  intro zero
  have odd := staffed.ids k below
  rw [zero] at odd
  cases odd

namespace Desk

variable {d e : Desk}

theorem handedOver_iff (staffed : Staffed d) {k : Nat} :
    d.handedOver k = true ↔ ∃ i head, d.calls i = .responded head k := by
  simp only [handedOver, List.any_eq_true, List.mem_range]
  constructor
  · rintro ⟨i, -, answered⟩
    split at answered
    next head k' call => exact ⟨i, head, by rw [call, eq_of_beq answered]⟩
    next => cases answered
  · rintro ⟨i, head, call⟩
    refine ⟨i, ?_, by simp only [call, beq_self_eq_true]⟩
    by_contra beyond
    rw [staffed.fresh i (Nat.le_of_not_lt beyond)] at call
    cases call

/-- One stream moves. -/
theorem unread_move (opened : e.opened = d.opened) {id : UInt32} {k : Nat} (below : k < d.opened)
    (others : ∀ j, j ≠ k → e.held id j = d.held id j) :
    e.unread id + d.held id k = d.unread id + e.held id k := by
  have mem : k ∈ Finset.range d.opened := Finset.mem_range.mpr below
  rw [unread, unread, opened, ← Finset.sum_erase_add _ _ mem, ← Finset.sum_erase_add _ _ mem]
  have same : ∑ j ∈ (Finset.range d.opened).erase k, e.held id j =
      ∑ j ∈ (Finset.range d.opened).erase k, d.held id j :=
    Finset.sum_congr rfl fun j mem => others j (Finset.mem_erase.mp mem).1
  omega

theorem held_le_unread {id : UInt32} {k : Nat} (below : k < d.opened) : d.held id k ≤ d.unread id :=
  Finset.single_le_sum (f := fun k => d.held id k) (fun _ _ => Nat.zero_le _)
    (Finset.mem_range.mpr below)

theorem held_congr {id : UInt32} {k : Nat} (name : (e.shelves k).id = (d.shelves k).id)
    (buffered : (e.shelves k).buffered = (d.shelves k).buffered)
    (dropped : e.bodyDropped k = d.bodyDropped k) : e.held id k = d.held id k := by
  rw [held, held, name, buffered, dropped]

/-- What is held of a stream depends on its shelf and on who got it. -/
theorem held_same {id : UInt32} {k : Nat} (shelf : e.shelves k = d.shelves k)
    (handed : e.handedOver k = d.handedOver k) : e.held id k = d.held id k := by
  refine held_congr (congrArg Shelf.id shelf) (congrArg Shelf.buffered shelf) ?_
  rw [bodyDropped, bodyDropped, shelf, handed]

/-- The other streams keep what they hold. -/
theorem held_shelve {k : Nat} {shelf : Shelf}
    (desk : e = { d with shelves := Function.update d.shelves k shelf }) (id : UInt32) (j : Nat)
    (ne : j ≠ k) : e.held id j = d.held id j := by
  subst desk
  exact held_same (Function.update_of_ne ne _ _) rfl

/-- A body that is not dropped is held. -/
theorem held_alive {id : UInt32} {k : Nat} (alive : (d.shelves k).holder ≠ .gone) :
    d.held id k = if charges id (d.shelves k).id then (d.shelves k).buffered else 0 := by
  have dropped : d.bodyDropped k = false := by simp [bodyDropped, alive]
  rw [held, dropped, Bool.not_false, Bool.and_true]

theorem held_dropped {id : UInt32} {k : Nat} (dropped : d.bodyDropped k = true) :
    d.held id k = 0 := by
  rw [held, dropped, Bool.not_true, Bool.and_false]
  rfl

/-- Only a body that was handed over is dropped. -/
theorem bodyDropped_below (staffed : Staffed d) {k : Nat} (dropped : d.bodyDropped k = true) :
    k < d.opened := by
  rw [bodyDropped, Bool.and_eq_true, handedOver_iff staffed] at dropped
  obtain ⟨⟨i, head, answered⟩, -⟩ := dropped
  exact (staffed.responded i head k answered).1

theorem bodyDropped_congr {k : Nat} (holder : (e.shelves k).holder = (d.shelves k).holder)
    (handed : e.handedOver k = d.handedOver k) : e.bodyDropped k = d.bodyDropped k := by
  rw [bodyDropped, bodyDropped, holder, handed]

theorem handedOver_congr (staffed : Staffed d) (staffed' : Staffed e) {k : Nat}
    (same : ∀ i head, e.calls i = .responded head k ↔ d.calls i = .responded head k) :
    e.handedOver k = d.handedOver k := by
  rw [Bool.eq_iff_iff, handedOver_iff staffed', handedOver_iff staffed]
  simp only [same]

end Desk

namespace Client

variable {fine : Client → Action → Prop} {c d : Client}

/-! ## What a turn does to the credit -/

/-- No window moves.  Streams that were open keep their bytes, and new ones hold
none. -/
structure Still (c d : Client) : Prop where
  opened : c.desk.opened ≤ d.desk.opened
  shelves : ∀ k < c.desk.opened, ∃ holder,
    d.desk.shelves k = { c.desk.shelves k with holder := holder }
  new : ∀ k, c.desk.opened ≤ k → k < d.desk.opened →
    (d.desk.shelves k).queue = [] ∧ (d.desk.shelves k).buffered = 0
  dropped : ∀ k, d.desk.bodyDropped k = c.desk.bodyDropped k
  returned : ∀ id, returned id d.history = returned id c.history
  received : ∀ id, received id d.history = received id c.history

theorem Still.unread (still : Still c d) (id : UInt32) : d.desk.unread id = c.desk.unread id := by
  have old (k : Nat) (below : k < c.desk.opened) : d.desk.held id k = c.desk.held id k := by
    obtain ⟨holder, shelf⟩ := still.shelves k below
    exact Desk.held_congr (by rw [shelf]) (by rw [shelf]) (still.dropped k)
  have none (k : Nat) (mem : k ∈ Finset.range d.desk.opened) (new : k ∉ Finset.range c.desk.opened) :
      d.desk.held id k = 0 := by
    rw [Finset.mem_range] at mem new
    rw [Desk.held, (still.new k (Nat.le_of_not_lt new) mem).2, ite_self]
  rw [Desk.unread, ← Finset.sum_subset (Finset.range_mono still.opened) none]
  exact Finset.sum_congr rfl fun k mem => old k (Finset.mem_range.mp mem)

theorem credit_adds (adds : Adds Neutral c d) (id : UInt32) :
    returned id d.history = returned id c.history ∧
      received id d.history = received id c.history := by
  obtain ⟨-, events, history, neutral, -⟩ := adds
  have returns : returned id events = 0 := sum_eq_zero fun e mem => (neutral e mem id).1
  have receives : received id events = 0 := sum_eq_zero fun e mem => (neutral e mem id).2
  rw [history, returned_append, received_append, returns, receives]
  exact ⟨rfl, rfl⟩

/-- The shelves stay, and nobody gets or loses a response. -/
theorem still_of_calls (staffed : Staffed c.desk) (staffed' : Staffed d.desk)
    (opened : d.desk.opened = c.desk.opened) (shelves : d.desk.shelves = c.desk.shelves)
    (calls : ∀ i head k, d.desk.calls i = .responded head k ↔ c.desk.calls i = .responded head k)
    (credit : ∀ id, returned id d.history = returned id c.history ∧
      received id d.history = received id c.history) : Still c d where
  opened := opened.ge
  shelves := fun k _ => ⟨(c.desk.shelves k).holder, by rw [shelves]⟩
  new := fun k new below => absurd (opened ▸ below) (Nat.not_lt.mpr new)
  dropped := fun k => by
    rw [Desk.bodyDropped, Desk.bodyDropped, shelves,
      Desk.handedOver_congr staffed staffed' fun i head => calls i head k]
  returned := fun id => (credit id).1
  received := fun id => (credit id).2

theorem still_of_desk (staffed : Staffed c.desk) (desk : d.desk = c.desk) (adds : Adds Neutral c d) :
    Still c d :=
  still_of_calls staffed (desk ▸ staffed) (by rw [desk]) (by rw [desk]) (fun _ _ _ => by rw [desk])
    (credit_adds adds)

/-- A call that waited for a stream ends.  Its body was not handed over before, so
it was not dropped either, and is not now. -/
theorem still_settle (staffed : Staffed c.desk) {i k : Nat} (awaiting : c.calls i = .awaiting k)
    {call : Call} {holder : Holder} (staffed' : Staffed (c.settle i k call holder).desk)
    (handed : ∀ head j, call = .responded head j → j = k ∧ holder ≠ .gone) :
    Still c (c.settle i k call holder) := by
  have waits : (c.cells k).holder = .awaiting := (staffed.awaiting i k awaiting).2
  have calls (j : Nat) : (c.settle i k call holder).desk.calls j = if j = i then call else c.calls j := by
    rw [desk_settle]
    by_cases eq : j = i
    · simp only [eq, Function.update_self, if_true]
    · simp only [Function.update_of_ne eq, eq, if_false]
  have shelves (j : Nat) : (c.settle i k call holder).desk.shelves j =
      if j = k then { (c.cells k).shelf with holder := holder } else c.desk.shelves j := by
    rw [desk_settle]
    by_cases eq : j = k
    · simp only [eq, Function.update_self, if_true]
    · simp only [Function.update_of_ne eq, eq, if_false]
  have before : c.desk.bodyDropped k = false := by
    have held : (c.desk.shelves k).holder = .awaiting := waits
    simp [Desk.bodyDropped, held]
  have after : (c.settle i k call holder).desk.bodyDropped k = false := by
    by_contra dropped
    rw [Desk.bodyDropped, Bool.not_eq_false, Bool.and_eq_true, Desk.handedOver_iff staffed',
      shelves k, if_pos rfl] at dropped
    obtain ⟨⟨j, head, answered⟩, gone⟩ := dropped
    rw [calls j] at answered
    split at answered
    · exact (handed head k answered).2 (eq_of_beq gone)
    · exact (staffed.responded j head k answered).2 waits
  have opened : (c.settle i k call holder).desk.opened = c.desk.opened := by rw [desk_settle]
  refine ⟨opened.ge, fun j _ => ?_, fun j new below => absurd (opened ▸ below) (Nat.not_lt.mpr new),
    fun j => ?_, fun _ => rfl, fun _ => rfl⟩
  · rw [shelves j]
    split
    next same => exact ⟨holder, by rw [same]; rfl⟩
    next => exact ⟨(c.desk.shelves j).holder, rfl⟩
  · by_cases eq : j = k
    · rw [eq, before, after]
    · rw [Desk.bodyDropped, Desk.bodyDropped, shelves j, if_neg eq]
      congr 1
      refine Desk.handedOver_congr staffed staffed' fun i' head => ?_
      rw [calls i']
      split
      next same =>
        rw [same, show c.desk.calls i = .awaiting k from awaiting]
        constructor
        · intro answered
          exact absurd (handed head j answered).1 eq
        · intro answered
          cases answered
      next => rfl

/-- A stream is opened, with nothing to read. -/
theorem still_register (staffed : Staffed c.desk) {i : Nat} (body : RequestBody)
    (before : (c.calls i).isIdle = true) (staffed' : Staffed (c.registerStream i body).desk) :
    Still c (c.registerStream i body) := by
  have desk := c.desk_registerStream i body
  have handed (k : Nat) : (c.registerStream i body).desk.handedOver k = c.desk.handedOver k := by
    refine Desk.handedOver_congr staffed staffed' fun j head => ?_
    rw [desk]
    by_cases eq : j = i
    · simp only [eq, Function.update_self]
      constructor
      · intro answered
        cases answered
      · intro answered
        exact absurd answered ((Call.isIdle_ne before).2 head k)
    · simp only [Function.update_of_ne eq]
      rfl
  have adds : Adds Neutral c (c.registerStream i body) :=
    .one (.opened c.nextStreamId) (by exact congrArg Desk.closed desk)
      (congrArg View.history (c.view_registerStream i body)) (fun _ => ⟨rfl, rfl⟩) fun _ => rfl
  have opened : (c.registerStream i body).desk.opened = c.desk.opened + 1 := by
    rw [desk]
    rfl
  have old (k : Nat) (ne : k ≠ c.desk.opened) :
      (c.registerStream i body).desk.shelves k = c.desk.shelves k := by
    rw [desk]
    exact Function.update_of_ne ne _ _
  have new : (c.registerStream i body).desk.shelves c.desk.opened = ⟨c.nextStreamId, .awaiting, [], 0⟩ := by
    rw [desk]
    exact Function.update_self _ _ _
  refine ⟨?_, fun k below => ?_, fun k above below => ?_, fun k => ?_,
    fun id => (credit_adds adds id).1, fun id => (credit_adds adds id).2⟩
  · rw [opened]
    exact Nat.le_succ _
  · exact ⟨(c.desk.shelves k).holder, by rw [old k (Nat.ne_of_lt below)]⟩
  · rw [opened] at below
    obtain rfl := Nat.le_antisymm (Nat.le_of_lt_succ below) above
    rw [new]
    exact ⟨rfl, rfl⟩
  · rw [Desk.bodyDropped, Desk.bodyDropped, handed k]
    by_cases eq : k = c.desk.opened
    · have nobody : c.desk.handedOver k = false := by
        by_contra given
        rw [Bool.not_eq_false, Desk.handedOver_iff staffed] at given
        obtain ⟨j, head, answered⟩ := given
        exact absurd (staffed.responded j head k answered).1 (eq ▸ Nat.lt_irrefl _)
      rw [nobody, Bool.false_and, Bool.false_and]
    · rw [old k eq]

/-- A turn moves credit only if DATA comes, a chunk is read or a body is dropped. -/
theorem credit_cases (turn : Turn fine c d) (staffed : Staffed c.desk) :
    Still c d ∨
      (∃ id bytes endStream, fine c (.frame (.data id bytes endStream)) ∧
        d = c.receiveDataFrame id bytes endStream) ∨
      (∃ k bytes queue, (c.cells k).holder = .reading ∧ (c.cells k).recv.queue = bytes :: queue ∧
        fine c (.read k) ∧ d = (c.yieldTo k { (c.cells k).recv with
            queue := queue
            buffered := (c.cells k).recv.buffered - bytes.length } (.chunk bytes)).replenishRecvWindow
          (c.cells k).id bytes.length) ∨
      ∃ k, (c.cells k).holder = .reading ∧ fine c (.dropBody k) ∧ d = c.dropBody k := by
  have staffed' := staffed_turn turn staffed
  have nothing (id : UInt32) : returned id c.history = returned id c.history ∧
      received id c.history = received id c.history := ⟨rfl, rfl⟩
  cases turn with
  | chore chore =>
      exact .inl (still_of_desk staffed chore.desk
        (chore.adds.mono fun e plain => neutral_of_isPlain plain))
  | credit id increment asked =>
      exact .inl (still_of_desk staffed rfl (.record c (fun _ => ⟨rfl, rfl⟩) rfl))
  | data id bytes endStream asked => exact .inr (.inl ⟨id, bytes, endStream, asked, rfl⟩)
  | chunk reading queued asked => exact .inr (.inr (.inl ⟨_, _, _, reading, queued, asked, rfl⟩))
  | dropBody reading asked => exact .inr (.inr (.inr ⟨_, reading, asked, rfl⟩))
  | pong opaqueData =>
      left
      revert staffed'
      unfold receivePing
      simp only [if_true]
      split
      · exact fun _ => still_of_desk staffed rfl (.none rfl rfl)
      · exact fun staffed' => still_of_calls staffed staffed' rfl rfl (fun _ _ _ => .rfl) nothing
  | shut err live =>
      have desk := c.desk_shutDown err
      exact .inl (still_of_calls staffed staffed' (by rw [desk]) (by rw [desk])
        (fun _ _ _ => by rw [desk]) nothing)
  | farewell lastStreamId errorCode err live =>
      have desk := desk_shutDown (c.sendFrame (.goaway lastStreamId errorCode [])) err
      rw [desk_sendFrame] at desk
      have said : Adds Neutral c (c.sendFrame (.goaway lastStreamId errorCode [])) :=
        .sendFrame c fun _ => ⟨rfl, rfl⟩
      exact .inl (still_of_calls staffed staffed' (by rw [desk]) (by rw [desk])
        (fun _ _ _ => by rw [desk]) fun id => credit_adds said id)
  | failPings err => exact .inl (still_of_calls staffed staffed' rfl rfl (fun _ _ _ => .rfl) nothing)
  | hangUp closed => exact .inl (still_of_calls staffed staffed' rfl rfl (fun _ _ _ => .rfl) nothing)
  | count => exact .inl (still_of_calls staffed staffed' rfl rfl (fun _ _ _ => .rfl) nothing)
  | @enter i call made before idle =>
      refine .inl (still_of_calls staffed staffed' rfl rfl (fun j head k => ?_) nothing)
      show Function.update c.calls i call j = .responded head k ↔ c.calls j = .responded head k
      by_cases eq : j = i
      · rw [eq, Function.update_self]
        constructor
        · exact fun answered => absurd answered ((Call.isIdle_ne idle).2 head k)
        · exact fun answered => absurd answered ((Call.isIdle_ne before).2 head k)
      · rw [Function.update_of_ne eq]
  | register body made before => exact .inl (still_register staffed body before staffed')
  | respond awaiting arrived =>
      refine .inl (still_settle staffed awaiting staffed' fun head j answered => ?_)
      cases answered
      exact ⟨rfl, by simp⟩
  | refuse err awaiting arrived failed =>
      refine .inl (still_settle staffed awaiting staffed' fun head j answered => ?_)
      cases answered
  | dropCall awaiting asked =>
      refine .inl (still_settle staffed awaiting staffed' fun head j answered => ?_)
      cases answered
  | look recv yields queue buffered ended error =>
      exact .inl (still_of_desk staffed (desk_look yields queue buffered) (.none rfl rfl))
  | ping =>
      have desk : c.ping.desk.opened = c.desk.opened ∧ c.ping.desk.shelves = c.desk.shelves ∧
          c.ping.desk.calls = c.desk.calls := by
        cases closed : c.closed with
        | true =>
            rw [desk_ping_closed closed]
            exact ⟨rfl, rfl, rfl⟩
        | false =>
            rw [desk_ping closed]
            exact ⟨rfl, rfl, rfl⟩
      exact .inl (still_of_calls staffed staffed' desk.1 desk.2.1 (fun _ _ _ => by rw [desk.2.2])
        (credit_adds (c.adds_ping fun _ => ⟨rfl, rfl⟩)))

/-! ## What is returned -/

/-- What was unread and was neither returned nor is unread any more. -/
def Settles (id : UInt32) (c d : Client) (loss : Nat) : Prop :=
  returned id d.history + d.desk.unread id + loss + received id c.history =
    returned id c.history + c.desk.unread id + received id d.history

/-- The increment on the wire. -/
theorem toNat_increment (n : Nat) : (low31 (UInt32.ofNat n)).toNat = n % 2 ^ 31 := by
  rw [toNat_low31, UInt32.toNat_ofNat']
  omega

theorem history_sendFrame {c : Client} (awake : (!c.closed && c.outTx) = true) (frame : Frame) :
    (c.sendFrame frame).history = c.history ++ [.sent frame] := by
  simp only [sendFrame, awake, if_true]
  rfl

theorem sendFrame_asleep {c : Client} (asleep : (!c.closed && c.outTx) = false) (frame : Frame) :
    c.sendFrame frame = c := by
  simp only [sendFrame, asleep, Bool.false_eq_true, if_false]

theorem history_replenishRecvWindow {c : Client} (awake : (!c.closed && c.outTx) = true)
    (stream : UInt32) {n : Nat} (positive : n ≠ 0) :
    (c.replenishRecvWindow stream n).history = c.history ++
      ((if stream ∈ c.streams then [.sent (.windowUpdate stream (UInt32.ofNat n))] else []) ++
        [.sent (.windowUpdate 0 (UInt32.ofNat n))]) := by
  have live : c.closed = false := by simpa using (Bool.and_eq_true_iff.mp awake).1
  have go : (c.closed || n == 0) = false := by simp [live, positive]
  simp only [replenishRecvWindow, go, Bool.false_eq_true, if_false]
  split
  next =>
    have slots := c.slots_sendFrame (.windowUpdate stream (UInt32.ofNat n))
    have closed : (c.sendFrame (.windowUpdate stream (UInt32.ofNat n))).closed = c.closed :=
      congrArg Slots.closed slots
    have outTx : (c.sendFrame (.windowUpdate stream (UInt32.ofNat n))).outTx = c.outTx :=
      congrArg Slots.outTx slots
    rw [history_sendFrame (by rw [closed, outTx]; exact awake), history_sendFrame awake,
      List.append_assoc]
  next => rw [history_sendFrame awake, List.nil_append]

/-- Bytes of a stream are returned to its window, while it is in the map, and to
that of the connection. -/
theorem credit_replenishRecvWindow (c : Client) {stream : UInt32} (nonzero : stream ≠ 0) (n : Nat)
    (id : UInt32) :
    ∃ paid, returned id (c.replenishRecvWindow stream n).history = returned id c.history + paid ∧
      received id (c.replenishRecvWindow stream n).history = received id c.history ∧
      (paid ≤ if charges id stream then n else 0) ∧
      (id = 0 → c.closed = false → c.outTx = true → paid = n % 2 ^ 31) := by
  cases awake : (!c.closed && c.outTx) with
  | false =>
      have same : c.replenishRecvWindow stream n = c := by
        simp only [replenishRecvWindow, sendFrame_asleep awake, ite_self]
      refine ⟨0, by rw [same, Nat.add_zero], by rw [same], Nat.zero_le _, fun _ live outTx => ?_⟩
      rw [live, outTx] at awake
      cases awake
  | true =>
      by_cases positive : n = 0
      · have same : c.replenishRecvWindow stream n = c := by simp [replenishRecvWindow, positive]
        exact ⟨0, by rw [same, Nat.add_zero], by rw [same], Nat.zero_le _, fun _ _ _ => by
          rw [positive, Nat.zero_mod]⟩
      · have wire := toNat_increment n
        refine ⟨returned id ((if stream ∈ c.streams then
          [.sent (.windowUpdate stream (UInt32.ofNat n))] else []) ++
            [.sent (.windowUpdate 0 (UInt32.ofNat n))]), ?_, ?_, ?_, ?_⟩
        · rw [history_replenishRecvWindow awake stream positive, returned_append]
        · rw [history_replenishRecvWindow awake stream positive, received_append]
          split <;> simp [chargeOf]
        · by_cases zero : id = 0
          · subst zero
            split <;> simp [returnOf, nonzero, wire, charges, Nat.mod_le]
          · by_cases own : stream = id
            · subst own
              split <;> simp [returnOf, Ne.symm zero, wire, charges, Nat.mod_le]
            · split <;> simp [returnOf, own, Ne.symm zero]
        · rintro rfl live outTx
          split <;> simp [returnOf, nonzero, wire]

/-- A chunk is read. -/
theorem credit_chunk (staffed : Staffed c.desk) {k : Nat} {bytes : Bytes} {queue : List Bytes}
    (reading : (c.cells k).holder = .reading) (queued : (c.cells k).recv.queue = bytes :: queue)
    (id : UInt32) :
    ∃ loss, Settles id c ((c.yieldTo k { (c.cells k).recv with
          queue := queue
          buffered := (c.cells k).recv.buffered - bytes.length } (.chunk bytes)).replenishRecvWindow
        (c.cells k).id bytes.length) loss ∧
      received id ((c.yieldTo k { (c.cells k).recv with
          queue := queue
          buffered := (c.cells k).recv.buffered - bytes.length } (.chunk bytes)).replenishRecvWindow
        (c.cells k).id bytes.length).history = received id c.history ∧
      (id = 0 → c.closed = false → c.outTx = true → bytes.length < 2 ^ 31 → loss = 0) := by
  obtain ⟨opened, handed⟩ := staffed.reading k reading
  have nonzero : (c.cells k).id ≠ 0 := staffed.id_ne_zero opened
  obtain ⟨e, eq⟩ : ∃ e, e = c.yieldTo k { (c.cells k).recv with
    queue := queue
    buffered := (c.cells k).recv.buffered - bytes.length } (.chunk bytes) := ⟨_, rfl⟩
  have desk := c.desk_chunk k { (c.cells k).recv with
    queue := queue
    buffered := (c.cells k).recv.buffered - bytes.length } (.chunk bytes) (c.cells k).id bytes.length
  have history : e.history = c.history := by rw [eq]; rfl
  have closed : e.closed = c.closed := by rw [eq]; rfl
  have outTx : e.outTx = c.outTx := by rw [eq]; rfl
  rw [← eq] at desk ⊢
  obtain ⟨paid, returns, receives, most, whole⟩ :=
    e.credit_replenishRecvWindow nonzero bytes.length id
  -- The bytes leave the shelf, and nothing else moves.
  have enough : bytes.length ≤ (c.cells k).recv.buffered := by
    have same : (c.cells k).recv.buffered = ((c.cells k).recv.queue.map List.length).sum :=
      staffed.buffered k
    rw [same, queued]
    simp
  have before : c.desk.held id k =
      if charges id (c.cells k).id then (c.cells k).recv.buffered else 0 :=
    Desk.held_alive (by rw [show (c.desk.shelves k).holder = _ from reading]; simp)
  have after : (e.replenishRecvWindow (c.cells k).id bytes.length).desk.held id k =
      if charges id (c.cells k).id then (c.cells k).recv.buffered - bytes.length else 0 := by
    have shelf : (e.replenishRecvWindow (c.cells k).id bytes.length).desk.shelves k =
        ⟨(c.cells k).id, (c.cells k).holder, queue, (c.cells k).recv.buffered - bytes.length⟩ := by
      rw [desk]
      exact Function.update_self _ _ _
    rw [Desk.held_alive (by rw [shelf, reading]; simp), shelf]
  have moved := Desk.unread_move (e := (e.replenishRecvWindow (c.cells k).id bytes.length).desk)
    (by rw [desk]) opened (Desk.held_shelve desk id)
  rw [before, after] at moved
  rw [history] at returns receives
  refine ⟨(if charges id (c.cells k).id then bytes.length else 0) - paid, ?_, receives,
    fun zero live tx small => ?_⟩
  · rw [Settles, returns, receives]
    revert moved most
    split
    · intro moved most
      omega
    · intro moved most
      omega
  · have all := whole zero (closed.trans live) (outTx.trans tx)
    rw [all, Nat.mod_eq_of_lt small]
    split <;> omega

/-- A body is dropped. -/
theorem credit_dropBody (staffed : Staffed c.desk) {k : Nat}
    (reading : (c.cells k).holder = .reading) (id : UInt32) :
    ∃ loss, Settles id c (c.dropBody k) loss ∧
      received id (c.dropBody k).history = received id c.history ∧
      (id = 0 → c.closed = false → c.outTx = true →
        loss = (c.cells k).recv.buffered - (c.cells k).recv.buffered % 2 ^ 31) := by
  obtain ⟨opened, handed⟩ := staffed.reading k reading
  have nonzero : (c.cells k).id ≠ 0 := staffed.id_ne_zero opened
  have desk := desk_dropBody reading
  obtain ⟨e, eq⟩ : ∃ e, e = c.modifyCell k fun cell => { cell with holder := .gone } := ⟨_, rfl⟩
  have history : e.history = c.history := by rw [eq]; rfl
  have closed : e.closed = c.closed := by rw [eq]; rfl
  have outTx : e.outTx = c.outTx := by rw [eq]; rfl
  obtain ⟨paid, returns, receives, most, whole⟩ :=
    e.credit_replenishRecvWindow nonzero (c.cells k).recv.buffered id
  rw [history] at returns receives
  -- A reset adds nothing to what was returned.
  have final : returned id (c.dropBody k).history = returned id c.history + paid ∧
      received id (c.dropBody k).history = received id c.history := by
    simp only [dropBody, reading, if_true, ← eq]
    split
    · exact ⟨returns, receives⟩
    · have reset := credit_adds ((adds_chores (chores_resetStream
        (e.replenishRecvWindow (c.cells k).id (c.cells k).recv.buffered) (c.cells k).id
        .cancel)).mono fun e plain => neutral_of_isPlain plain) id
      exact ⟨reset.1.trans returns, reset.2.trans receives⟩
  have before : c.desk.held id k =
      if charges id (c.cells k).id then (c.cells k).recv.buffered else 0 :=
    Desk.held_alive (by rw [show (c.desk.shelves k).holder = _ from reading]; simp)
  have after : (c.dropBody k).desk.held id k = 0 := by
    refine Desk.held_dropped ?_
    have given : (c.dropBody k).desk.handedOver k = true := by
      have same : (c.dropBody k).desk.handedOver k = c.desk.handedOver k := by
        rw [desk]
        rfl
      rw [same, Desk.handedOver_iff staffed]
      exact handed
    have shelf : ((c.dropBody k).desk.shelves k).holder = .gone := by
      rw [desk]
      simp
    rw [Desk.bodyDropped, given, shelf]
    rfl
  have moved := Desk.unread_move (e := (c.dropBody k).desk) (by rw [desk]) opened
    (Desk.held_shelve desk id)
  rw [before, after] at moved
  refine ⟨(if charges id (c.cells k).id then (c.cells k).recv.buffered else 0) - paid, ?_, final.2,
    fun zero live tx => ?_⟩
  · rw [Settles, final.1, final.2]
    revert moved most
    split
    · intro moved most
      omega
    · intro moved most
      omega
  · have all := whole zero (closed.trans live) (outTx.trans tx)
    have own : charges id (c.cells k).id = true := by rw [zero]; rfl
    rw [all, if_pos own]

theorem received_sendFrame (c : Client) (frame : Frame) (id : UInt32) :
    received id (c.sendFrame frame).history = received id c.history := by
  cases awake : (!c.closed && c.outTx) with
  | true => simp [history_sendFrame awake, chargeOf]
  | false => rw [sendFrame_asleep awake]

/-- DATA is charged, to whomever it goes. -/
theorem received_receiveDataFrame (c : Client) (stream : UInt32) (bytes : Bytes) (endStream : Bool)
    (id : UInt32) :
    received id (c.receiveDataFrame stream bytes endStream).history =
      received id c.history + if charges id stream then bytes.length else 0 := by
  have recorded : received id (c.record (.data stream bytes endStream)).history =
      received id c.history + if charges id stream then bytes.length else 0 := by
    simp [record, chargeOf]
  rw [← recorded]
  unfold receiveDataFrame
  simp only []
  split
  · simp only [withStream]
    split <;> rfl
  · split
    · exact received_sendFrame _ _ id
    · rfl

/-- DATA for nobody is returned at once. -/
theorem credit_discard {stream : UInt32} (missing : c.streams.lookup stream = none) (bytes : Bytes)
    (endStream : Bool) (id : UInt32) :
    ∃ loss, Settles id c (c.receiveDataFrame stream bytes endStream) loss ∧
      (id = 0 → c.closed = false → c.outTx = true → bytes.length < 2 ^ 31 → loss = 0) := by
  have desk := desk_receiveDataFrame_none missing bytes endStream
  have nobody : stream ∉ (c.record (.data stream bytes endStream)).streams :=
    AList.lookup_eq_none.mp missing
  have wire := toNat_increment bytes.length
  have same : c.receiveDataFrame stream bytes endStream = if !bytes.isEmpty then
      (c.record (.data stream bytes endStream)).sendFrame
        (.windowUpdate 0 (UInt32.ofNat bytes.length))
      else c.record (.data stream bytes endStream) := by
    simp only [receiveDataFrame, nobody, if_false]
  have receives := c.received_receiveDataFrame stream bytes endStream id
  obtain ⟨paid, returns, most, whole⟩ : ∃ paid,
      returned id (c.receiveDataFrame stream bytes endStream).history =
        returned id c.history + paid ∧
      (paid ≤ if charges id stream then bytes.length else 0) ∧
      (id = 0 → c.closed = false → c.outTx = true → bytes.length < 2 ^ 31 →
        paid = bytes.length) := by
    rw [same]
    cases empty : bytes.isEmpty with
    | true =>
        obtain rfl := List.isEmpty_iff.mp empty
        exact ⟨0, by simp [record, returnOf], by simp, by simp⟩
    | false =>
        simp only [Bool.not_false, if_true]
        cases awake : (!c.closed && c.outTx) with
        | false =>
            rw [sendFrame_asleep (by exact awake)]
            refine ⟨0, by simp [record, returnOf], by simp, ?_⟩
            intro _ live outTx
            rw [live, outTx] at awake
            cases awake
        | true =>
            rw [history_sendFrame (by exact awake)]
            refine ⟨if id = 0 then bytes.length % 2 ^ 31 else 0, ?_, ?_, ?_⟩
            · by_cases zero : id = 0
              · simp [record, returnOf, zero, wire]
              · simp [record, returnOf, zero, Ne.symm zero]
            · by_cases zero : id = 0
              · simp only [zero, if_true, charges, beq_self_eq_true, Bool.true_or]
                exact Nat.mod_le _ _
              · simp [zero]
            · intro zero _ _ small
              rw [if_pos zero, Nat.mod_eq_of_lt small]
  refine ⟨(if charges id stream then bytes.length else 0) - paid, ?_, fun zero live tx small => ?_⟩
  · rw [Settles, returns, receives, desk]
    omega
  · rw [whole zero live tx small]
    split <;> omega

/-- DATA for a stream in the map goes to its buffer, if that has not ended. -/
theorem credit_receive (served : Served c) {stream : UInt32} {s : StreamState}
    (found : c.streams.lookup stream = some s) (bytes : Bytes) (endStream : Bool) (id : UInt32) :
    ∃ loss, Settles id c (c.receiveDataFrame stream bytes endStream) loss ∧
      ((c.cells s.cell).recv.ended = false → c.desk.bodyDropped s.cell = false → loss = 0) := by
  obtain ⟨below, named, fits⟩ := served.mapped stream s found
  have desk := desk_receiveDataFrame found bytes endStream
  obtain ⟨e, eq⟩ : ∃ e, e = c.receiveDataFrame stream bytes endStream := ⟨_, rfl⟩
  have history : e.history = c.history ++ [.data stream bytes endStream] := by
    have somebody : stream ∈ (c.record (.data stream bytes endStream)).streams :=
      AList.lookup_isSome.mp (Option.isSome_of_eq_some found)
    rw [eq]
    simp only [receiveDataFrame, somebody, if_true, withStream,
      show (c.record (.data stream bytes endStream)).streams.lookup stream = some s from found]
    rfl
  have buffered : ((c.cells s.cell).recv.receiveData bytes endStream).buffered =
      (c.cells s.cell).recv.buffered +
        (if (c.cells s.cell).recv.ended then 0 else bytes.length) := by
    have sound := fits.error
    cases bytes with
    | nil => simp [RecvState.receiveData]
    | cons x rest => cases ended : (c.cells s.cell).recv.ended <;>
        simp [RecvState.receiveData, ended, sound]
  rw [← eq] at desk ⊢
  have moved := Desk.unread_move (e := e.desk) (by rw [desk]) below (Desk.held_shelve desk id)
  have shelf : e.desk.shelves s.cell = ⟨(c.cells s.cell).id, (c.cells s.cell).holder,
      ((c.cells s.cell).recv.receiveData bytes endStream).queue,
      ((c.cells s.cell).recv.receiveData bytes endStream).buffered⟩ := by
    rw [desk]
    exact Function.update_self _ _ _
  have dropped : e.desk.bodyDropped s.cell = c.desk.bodyDropped s.cell := by
    have same : e.desk.handedOver s.cell = c.desk.handedOver s.cell := by
      rw [desk]
      rfl
    rw [Desk.bodyDropped, Desk.bodyDropped, same, shelf]
    rfl
  have before : c.desk.held id s.cell = if charges id stream && !c.desk.bodyDropped s.cell then
      (c.cells s.cell).recv.buffered else 0 := by
    rw [← named]
    rfl
  have after : e.desk.held id s.cell = if charges id stream && !c.desk.bodyDropped s.cell then
      (c.cells s.cell).recv.buffered +
        (if (c.cells s.cell).recv.ended then 0 else bytes.length) else 0 := by
    rw [Desk.held, dropped, shelf, ← buffered, ← named]
  rw [before, after] at moved
  have returns : returned id e.history = returned id c.history := by simp [history, returnOf]
  have receives : received id e.history =
      received id c.history + (if charges id stream then bytes.length else 0) := by
    rw [eq]
    exact c.received_receiveDataFrame stream bytes endStream id
  refine ⟨(if charges id stream then bytes.length else 0) -
    (if charges id stream && !c.desk.bodyDropped s.cell then
      (if (c.cells s.cell).recv.ended then 0 else bytes.length) else 0), ?_, fun unended alive => ?_⟩
  · rw [Settles, returns, receives]
    revert moved
    cases charges id stream <;> cases c.desk.bodyDropped s.cell <;>
      cases (c.cells s.cell).recv.ended <;>
      simp only [Bool.not_true, Bool.not_false, Bool.and_true, Bool.and_false, if_true, if_false,
        Bool.false_eq_true] <;> omega
  · rw [unended, alive]
    simp

/-- What is neither returned nor unread any more is lost. -/
theorem credit_turn (turn : Turn fine c d) (attended : Attended c) (id : UInt32) :
    ∃ loss, Settles id c d loss := by
  rcases credit_cases turn attended.staffed with still | ⟨stream, bytes, endStream, -, rfl⟩ |
    ⟨k, bytes, queue, reading, queued, -, rfl⟩ | ⟨k, reading, -, rfl⟩
  · exact ⟨0, by rw [Settles, still.unread, still.returned, still.received, Nat.add_zero]⟩
  · cases found : c.streams.lookup stream with
    | none =>
        obtain ⟨loss, settles, -⟩ := credit_discard found bytes endStream id
        exact ⟨loss, settles⟩
    | some s =>
        obtain ⟨loss, settles, -⟩ := credit_receive attended.served found bytes endStream id
        exact ⟨loss, settles⟩
  · obtain ⟨loss, settles, -, -⟩ := credit_chunk attended.staffed reading queued id
    exact ⟨loss, settles⟩
  · obtain ⟨loss, settles, -, -⟩ := credit_dropBody attended.staffed reading id
    exact ⟨loss, settles⟩

theorem credit_turns (turns : Turns fine c d) (attended : Attended c) (id : UInt32) :
    ∃ loss, Settles id c d loss := by
  induction turns with
  | refl => exact ⟨0, rfl⟩
  | tail before turn ih =>
      obtain ⟨loss, first⟩ := ih
      obtain ⟨loss', second⟩ := credit_turn turn (attended_turns before attended) id
      refine ⟨loss + loss', ?_⟩
      rw [Settles] at first second ⊢
      omega

/-! ## Dropped bodies -/

/-- A stream in the map whose body is dropped has ended.  Dropping a body that has
not ended resets its stream. -/
def Quit (c : Client) : Prop :=
  ∀ id s, c.streams.lookup id = some s → c.desk.bodyDropped s.cell = true →
    (c.cells s.cell).recv.ended = true

/-- A dropped body gets nothing any more, so what it holds is what it held when it
was dropped. -/
theorem dropped_turn (turn : Turn fine c d) (attended : Attended c) (quit : Quit c) {k : Nat}
    (dropped : d.desk.bodyDropped k = true) :
    (d.cells k).recv.buffered = (c.cells k).recv.buffered ∧
      (c.desk.bodyDropped k = true ∨
        (c.cells k).holder = .reading ∧ fine c (.dropBody k) ∧ d = c.dropBody k) := by
  have staffed := attended.staffed
  -- Most turns leave the shelf and the calls alone.
  have same (shelf : d.desk.shelves k = c.desk.shelves k)
    (calls : d.desk.handedOver k = c.desk.handedOver k) :
      (d.cells k).recv.buffered = (c.cells k).recv.buffered ∧ c.desk.bodyDropped k = true :=
    ⟨congrArg Shelf.buffered shelf,
      (Desk.bodyDropped_congr (congrArg Shelf.holder shelf) calls).symm.trans dropped⟩
  rcases credit_cases turn staffed with still | ⟨stream, bytes, endStream, -, rfl⟩ |
    ⟨j, bytes, queue, reading, queued, -, rfl⟩ | ⟨j, reading, asked, rfl⟩
  · have was : c.desk.bodyDropped k = true := (still.dropped k).symm.trans dropped
    obtain ⟨holder, shelf⟩ := still.shelves k (Desk.bodyDropped_below staffed was)
    exact ⟨congrArg Shelf.buffered shelf, .inl was⟩
  · cases found : c.streams.lookup stream with
    | none =>
        have desk := desk_receiveDataFrame_none found bytes endStream
        obtain ⟨buffered, was⟩ := same (by rw [desk]) (by rw [desk])
        exact ⟨buffered, .inl was⟩
    | some s =>
        have desk := desk_receiveDataFrame found bytes endStream
        by_cases eq : k = s.cell
        · subst eq
          have shelf : (c.receiveDataFrame stream bytes endStream).desk.shelves s.cell =
              { c.cells s.cell with
                recv := (c.cells s.cell).recv.receiveData bytes endStream }.shelf := by
            rw [desk]
            exact Function.update_self _ _ _
          have was : c.desk.bodyDropped s.cell = true := by
            rw [← dropped]
            refine (Desk.bodyDropped_congr ?_ ?_).symm
            · rw [shelf]
              rfl
            · rw [desk]
              rfl
          refine ⟨?_, .inl was⟩
          show ((c.receiveDataFrame stream bytes endStream).desk.shelves s.cell).buffered = _
          rw [shelf]
          have ended := quit stream s found was
          simp [Cell.shelf, RecvState.receiveData, ended]
        · obtain ⟨buffered, was⟩ := same
            (by rw [desk]; exact Function.update_of_ne eq _ _) (by rw [desk]; rfl)
          exact ⟨buffered, .inl was⟩
  · have desk := c.desk_chunk j { (c.cells j).recv with
      queue := queue
      buffered := (c.cells j).recv.buffered - bytes.length } (.chunk bytes) (c.cells j).id bytes.length
    by_cases eq : k = j
    · subst eq
      rw [Desk.bodyDropped, desk, Bool.and_eq_true] at dropped
      simp [Cell.shelf, reading] at dropped
    · obtain ⟨buffered, was⟩ := same
        (by rw [desk]; exact Function.update_of_ne eq _ _) (by rw [desk]; rfl)
      exact ⟨buffered, .inl was⟩
  · have desk := desk_dropBody reading
    by_cases eq : k = j
    · subst eq
      refine ⟨?_, .inr ⟨reading, asked, rfl⟩⟩
      show ((c.dropBody k).desk.shelves k).buffered = _
      rw [desk]
      simp [Cell.shelf]
    · obtain ⟨buffered, was⟩ := same
        (by rw [desk]; exact Function.update_of_ne eq _ _) (by rw [desk]; rfl)
      exact ⟨buffered, .inl was⟩

/-- The stream of a body that is dropped before it ends leaves the map. -/
theorem lookup_dropBody {k : Nat} (reading : (c.cells k).holder = .reading)
    (unended : (c.cells k).recv.ended = false) :
    (c.dropBody k).streams.lookup (c.cells k).id = none := by
  simp only [dropBody, reading, if_true, unended, Bool.false_eq_true, if_false, resetStream]
  exact (lookup_removeAndFail _ _ _ _).trans (if_pos rfl)

theorem quit_turn (turn : Turn fine c d) (attended : Attended c) (quit : Quit c) : Quit d := by
  intro id s' found dropped
  obtain ⟨served, delivers⟩ := served_turn turn attended.served
  rcases (dropped_turn turn attended quit dropped).2 with was | ⟨reading, -, rfl⟩
  · have below := Desk.bodyDropped_below attended.staffed was
    rcases delivers.streams id s' found with ⟨s, before, cell⟩ | beyond
    · rw [← cell] at was below ⊢
      exact delivers.ended s.cell below (quit id s before was)
    · exact absurd below (Nat.not_lt.mpr beyond)
  · cases ended : (c.cells s'.cell).recv.ended with
    | true => exact delivers.ended s'.cell (attended.staffed.reading s'.cell reading).1 ended
    | false =>
        -- Its stream is gone.
        have named := (served.mapped id s' found).2.1
        have same : ((c.dropBody s'.cell).cells s'.cell).id = (c.cells s'.cell).id := by
          show ((c.dropBody s'.cell).desk.shelves s'.cell).id = _
          rw [desk_dropBody reading]
          simp [Cell.shelf]
        rw [← named, same, lookup_dropBody reading ended] at found
        cases found

theorem quit_turns (turns : Turns fine c d) (attended : Attended c) (quit : Quit c) : Quit d := by
  induction turns with
  | refl => exact quit
  | tail before turn ih => exact quit_turn turn (attended_turns before attended) ih

/-- Where no body is dropped, the dropped ones are the same and hold the same. -/
theorem dropped_turns (turns : Turns fine c d) (attended : Attended c) (quit : Quit c)
    (kept : ∀ c k, ¬fine c (.dropBody k)) {k : Nat} (dropped : d.desk.bodyDropped k = true) :
    c.desk.bodyDropped k = true ∧ (d.cells k).recv.buffered = (c.cells k).recv.buffered := by
  induction turns with
  | refl => exact ⟨dropped, rfl⟩
  | tail before turn ih =>
      obtain ⟨same, was | ⟨-, asked, -⟩⟩ :=
        dropped_turn turn (attended_turns before attended) (quit_turns before attended quit) dropped
      · obtain ⟨first, same'⟩ := ih was
        exact ⟨first, same.trans same'⟩
      · exact absurd asked (kept _ k)

/-- A body that is dropped after a section holds what it held before it. -/
theorem dropped_step (attended : Attended c) (quit : Quit c) (a : Action) {k : Nat}
    (dropped : (c.step a).desk.bodyDropped k = true) :
    k < c.opened ∧ ((c.step a).cells k).recv.buffered = (c.cells k).recv.buffered := by
  have staffed := attended.staffed
  have others (kept : ∀ j, a ≠ .dropBody j) :
      k < c.opened ∧ ((c.step a).cells k).recv.buffered = (c.cells k).recv.buffered := by
    have turns : Turns (fun _ a' => a' = a) c (c.step a) := turns_step staffed.fresh rfl
    obtain ⟨was, same⟩ :=
      dropped_turns turns attended quit (fun _ j asked => kept j asked.symm) dropped
    exact ⟨Desk.bodyDropped_below staffed was, same⟩
  cases a with
  | dropBody j =>
      by_cases reading : (c.cells j).holder = .reading
      · have turn : Turn (fun _ _ => True) c (c.dropBody j) := .dropBody reading trivial
        obtain ⟨same, was | ⟨held, -, -⟩⟩ := dropped_turn turn attended quit dropped
        · exact ⟨Desk.bodyDropped_below staffed was, same⟩
        · exact ⟨(staffed.reading k held).1, same⟩
      · have same : c.step (.dropBody j) = c := by simp only [step, dropBody, reading, if_false]
        rw [same] at dropped ⊢
        exact ⟨Desk.bodyDropped_below staffed dropped, rfl⟩
  | _ => exact others (by simp)

/-! ## Runs -/

/-- The history after the startup. -/
def later (options : ConnectOptions) (actions : List Action) : List Event :=
  (after options actions).history.drop (connect options).history.length

theorem turns_after (options : ConnectOptions) (actions : List Action) :
    Turns (fun _ _ => True) (connect options) (after options actions) := by
  refine (Machine.run_invariant (P := fun c => Attended c ∧
    Turns (fun _ _ => True) (connect options) c) ?_ ⟨attended_connect options, .refl⟩ actions).2
  rintro c a ⟨attended, turns⟩
  exact ⟨attended_step attended a, turns.trans (attended.turns a)⟩

theorem history_later (options : ConnectOptions) (actions : List Action) :
    (after options actions).history = (connect options).history ++ later options actions := by
  obtain ⟨events, history⟩ := history_turns (turns_after options actions)
  rw [later, ← history, List.drop_left]

theorem quit_after (options : ConnectOptions) (actions : List Action) :
    Quit (after options actions) := by
  refine quit_turns (turns_after options actions) (attended_connect options) ?_
  intro id s found
  obtain ⟨below, -⟩ := (attended_connect options).served.mapped id s found
  have none : (connect options).opened = 0 := congrArg Desk.opened (desk_connect options)
  exact absurd below (by rw [none]; exact Nat.not_lt_zero _)

/-- Of what was received since the startup, the part that is not returned and not
unread is lost. -/
theorem settled_after (options : ConnectOptions) (actions : List Action) (id : UInt32) :
    ∃ loss, returned id (later options actions) + (after options actions).desk.unread id + loss =
      received id (later options actions) := by
  obtain ⟨loss, settles⟩ :=
    credit_turns (turns_after options actions) (attended_connect options) id
  have none : (connect options).desk.unread id = 0 := by
    rw [Desk.unread, desk_connect]
    rfl
  rw [Settles, history_later options actions, returned_append, received_append, none] at settles
  exact ⟨loss, by omega⟩

end Client

/-- The receive window a stream starts with. -/
def ConnectOptions.streamWindow (options : ConnectOptions) : Nat :=
  (options.initialWindowSize.getD (1024 * 1024)).toNat

namespace Client

/-- The peer never sends past the credit of a stream. -/
def WithinCredit (options : ConnectOptions) (actions : List Action) : Prop :=
  ∀ earlier, earlier <+: actions → ∀ k < (after options earlier).opened,
    received ((after options earlier).cells k).id (later options earlier) ≤
      options.streamWindow + returned ((after options earlier).cells k).id (later options earlier)

/-- What a stream holds, its window waits for. -/
theorem settled_stream (options : ConnectOptions) (actions : List Action) {k : Nat}
    (below : k < (after options actions).opened) :
    returned ((after options actions).cells k).id (later options actions) +
        (if (after options actions).desk.bodyDropped k then 0
          else ((after options actions).cells k).recv.buffered) ≤
      received ((after options actions).cells k).id (later options actions) := by
  obtain ⟨c, eq⟩ : ∃ c, c = after options actions := ⟨_, rfl⟩
  rw [← eq] at below ⊢
  obtain ⟨loss, settled⟩ := settled_after options actions (c.cells k).id
  rw [← eq] at settled
  have most : c.desk.held (c.cells k).id k ≤ c.desk.unread (c.cells k).id :=
    Desk.held_le_unread below
  have held : c.desk.held (c.cells k).id k =
      if c.desk.bodyDropped k then 0 else (c.cells k).recv.buffered := by
    have own : charges (c.cells k).id (c.desk.shelves k).id = true := by
      rw [charges, Bool.or_eq_true]
      exact .inr (beq_self_eq_true _)
    rw [Desk.held, own, Bool.true_and]
    cases c.desk.bodyDropped k <;> rfl
  omega

theorem buffered_after {options : ConnectOptions} {actions : List Action}
    (within : WithinCredit options actions) {k : Nat} (below : k < (after options actions).opened) :
    ((after options actions).cells k).recv.buffered ≤ options.streamWindow := by
  induction actions using List.reverseRecOn generalizing k with
  | nil =>
      have none : (connect options).opened = 0 := congrArg Desk.opened (desk_connect options)
      exact absurd below (by rw [after, Machine.run_nil, none]; exact Nat.not_lt_zero _)
  | append_singleton actions a ih =>
      have earlier : WithinCredit options actions := fun earlier isPrefix =>
        within earlier (isPrefix.trans (List.prefix_append _ _))
      have step : after options (actions ++ [a]) = (after options actions).step a := by
        rw [after, Machine.run_append]
        rfl
      cases dropped : (after options (actions ++ [a])).desk.bodyDropped k with
      | true =>
          rw [step] at dropped ⊢
          obtain ⟨old, same⟩ := dropped_step (attended_after options actions)
            (quit_after options actions) a dropped
          rw [same]
          exact ih earlier old
      | false =>
          have settled := settled_stream options (actions ++ [a]) below
          have credit := within _ List.prefix_rfl k below
          rw [dropped, if_neg (by simp)] at settled
          omega

/-- Receive credit is never granted twice. -/
theorem credit_after (options : ConnectOptions) (actions : List Action) :
    returned 0 (later options actions) + (after options actions).desk.unread 0 ≤
        received 0 (later options actions) ∧
      (∀ k < (after options actions).opened,
        returned ((after options actions).cells k).id (later options actions) +
            (if (after options actions).desk.bodyDropped k then 0
              else ((after options actions).cells k).recv.buffered) ≤
          received ((after options actions).cells k).id (later options actions)) ∧
      (WithinCredit options actions → ∀ k < (after options actions).opened,
        ((after options actions).cells k).recv.buffered ≤ options.streamWindow) := by
  refine ⟨?_, fun k below => settled_stream options actions below,
    fun within k below => buffered_after within below⟩
  obtain ⟨loss, settled⟩ := settled_after options actions 0
  omega

/-- A chunk is read, and another is not. -/
def halfRead : List Action :=
  [.request (.bare .empty), .frame (.headers 1 [0x88] false true none), .pollCall 0,
    .frame (.data 1 [1, 2, 3] false), .read 0, .frame (.data 1 [4, 5] false)]

theorem credit_after_halfRead :
    ((after {} halfRead).cells 0).recv.buffered = 2 ∧ returned 0 (later {} halfRead) = 3 ∧
      ((after {} halfRead).cells 0).recv.buffered ≤ ConnectOptions.streamWindow {} := by
  have within : WithinCredit {} halfRead := by
    intro earlier isPrefix
    have all : ∀ earlier ∈ halfRead.inits, ∀ k < (after {} earlier).opened,
        received ((after {} earlier).cells k).id (later {} earlier) ≤
          ConnectOptions.streamWindow {} +
            returned ((after {} earlier).cells k).id (later {} earlier) := by decide +kernel
    exact all earlier ((List.mem_inits _ _).mpr isPrefix)
  exact ⟨by decide +kernel, by decide +kernel,
    (credit_after {} halfRead).2.2 within 0 (by decide +kernel)⟩

end Client

end H2ts
