import H2ts.Connection.Complete
import H2ts.Connection.Wakeups

/-!
# Readers of dead streams

A `ResponseBody` ends with its stream: by END_STREAM, which the body sees, or by a failure,
which ends the body too.  A stream that is retired, when both sides have sent END_STREAM, is
taken out of the map without a look at the body.  The two differ after an interim response
with END_STREAM, which ends the stream and not the body.  So a body whose stream has left
the map has ended in runs in which no such stream is retired (`ended_of_gone`).
-/

namespace H2ts

open Hpack

/-! ## Boards -/

namespace Board

variable {b b' : Board} {id : UInt32} {s : StreamState}

/-- A stream whose head was delivered is in the map, or its body has ended. -/
def Informed (b : Board) : Prop :=
  ∀ k < b.opened, b.answered k → b.ended k ∨ ∃ id s, b.streams id = some s ∧ s.cell = k

namespace Informed

theorem keep (informed : b.Informed) (opened : b'.opened = b.opened)
    (answered : ∀ k, b'.answered k → b.answered k) (ended : ∀ k, b.ended k → b'.ended k)
    (streams : ∀ id s, b.streams id = some s → b'.answered s.cell →
      b'.ended s.cell ∨ ∃ id' s', b'.streams id' = some s' ∧ s'.cell = s.cell) : b'.Informed := by
  intro k below delivered
  rcases informed k (opened ▸ below) (answered k delivered) with ends | ⟨id, s, found, rfl⟩
  · exact .inl (ended k ends)
  · exact streams id s found delivered

theorem wake (informed : b.Informed) (woken : Nat → Prop) : (b.wake woken).Informed := informed

theorem change (informed : b.Informed) (id : UInt32) {f : StreamState → StreamState}
    (same : ∀ s, (f s).cell = s.cell) : (b.change id f).Informed := by
  refine informed.keep rfl (fun _ delivered => delivered) (fun _ ends => ends) fun id' s found _ => ?_
  rcases eq_or_ne id' id with rfl | ne
  · refine .inr ⟨id', f s, ?_, same s⟩
    simp only [Board.change, Function.update_self, found, Option.map_some]
  · refine .inr ⟨id', s, ?_, rfl⟩
    simp only [Board.change, Function.update_of_ne ne, found]

theorem creditStream (informed : b.Informed) (id : UInt32) (n : Int) :
    (b.creditStream id n).Informed :=
  (informed.change id (f := fun s => { s with sendWindow := (s.sendWindow.update n).1 }) fun _ => rfl).wake _

theorem spend (informed : b.Informed) (id : UInt32) (n : Int) : (b.spend id n).Informed := by
  have paid : Informed { b with window := b.window.consume n } := informed
  exact paid.change id (f := fun s => { s with sendWindow := s.sendWindow.consume n }) fun _ => rfl

theorem wait (informed : b.Informed) (id : UInt32) (k : Nat) : (b.wait id k).Informed := by
  have parked : Informed { b with
      window := if b.window.isReady then b.window else b.window.registerWaker k
      asleep := fun j => j = k ∨ b.asleep j } := informed
  refine parked.change id fun t => ?_
  split <;> rfl

theorem adjust (informed : b.Informed) (initial : Int) : (b.adjust initial).Informed := by
  refine informed.keep rfl (fun _ delivered => delivered) (fun _ ends => ends) fun id s found _ => .inr ?_
  refine ⟨id, { s with sendWindow := (s.sendWindow.adjust (initial - b.initial)).1 }, ?_, rfl⟩
  simp only [Board.adjust, found, Option.map_some]

theorem fail (informed : b.Informed) (gone : UInt32 → Prop) : (b.fail gone).Informed := by
  refine informed.keep rfl (fun _ => And.left) (fun _ => .inl) fun id s found _ => ?_
  by_cases left : gone id
  · exact .inl (.inr ⟨s, ⟨id, left, found⟩, rfl⟩)
  · refine .inr ⟨id, s, ?_, rfl⟩
    simp only [Board.fail, if_neg left]
    exact found

theorem tear (informed : b.Informed) : b.tear.Informed := by
  have closed : b.close.Informed := informed
  exact closed.fail _

/-- A stream leaves the map, and its body has ended or it got no head. -/
theorem drop (informed : b.Informed)
    (settled : ∀ s, b.streams id = some s → b.ended s.cell ∨ s.headTx = true) : (b.drop id).Informed := by
  refine informed.keep rfl (fun _ => And.left) (fun _ ends => ends) fun id' s found delivered => ?_
  rcases eq_or_ne id' id with rfl | ne
  · rcases settled s found with ends | unsent
    · exact .inl ends
    · exact absurd ⟨s, found, rfl, unsent⟩ delivered.2
  · refine .inr ⟨id', s, ?_, rfl⟩
    simp only [Board.drop, Function.update_of_ne ne, found]

theorem retire (informed : b.Informed)
    (settled : ∀ s, b.streams id = some s → s.remoteClosed = true → b.ended s.cell ∨ s.headTx = true) :
    (b.retire id).Informed := by
  unfold Board.retire
  split
  next both =>
    refine informed.drop fun s found => ?_
    rw [found, Option.any_some, Bool.and_eq_true] at both
    exact settled s found both.2
  next => exact informed

theorem data (informed : b.Informed) (id : UInt32) (endStream : Bool) :
    (b.data id endStream).Informed := by
  have noted : Informed { b with
      ended := fun k => b.ended k ∨ endStream = true ∧ ∃ s, b.streams id = some s ∧ s.cell = k } :=
    informed.keep rfl (fun _ delivered => delivered) (fun _ => .inl) fun id s found _ =>
      .inr ⟨id, s, found, rfl⟩
  exact noted.change id (f := fun s => s.closeRemote endStream) fun _ => rfl

theorem block (informed : b.Informed) (id : UInt32) (headers : List Header) (endStream : Bool) :
    (b.block id headers endStream).Informed := by
  have noted {ended answered : Nat → Prop} (more : ∀ k, b.ended k → ended k)
      (heads : ∀ k, answered k → b.answered k ∨ ∃ s, b.streams id = some s ∧ s.cell = k) :
      Informed { b with ended := ended, answered := answered } := by
    intro k below delivered
    rcases heads k delivered with delivered | ⟨s, found, own⟩
    · exact (informed k below delivered).imp_left (more k)
    · exact .inr ⟨id, s, found, own⟩
  refine (noted (fun _ => .inl) fun k delivered => ?_).change id fun s => ?_
  · exact delivered.imp_right fun ⟨s, taken, own, _⟩ => ⟨s, taken.1, own⟩
  · split <;> rfl

theorem enter (informed : b.Informed)
    (settled : ∀ s, b.streams id = some s → b.ended s.cell ∨ s.headTx = true) (s : StreamState) :
    (b.enter id s).Informed := by
  have dropped := informed.drop settled
  rintro k below ⟨delivered, old⟩
  have below : k < b.opened := Nat.lt_of_le_of_ne (Nat.le_of_lt_succ below) old
  rcases dropped k below delivered with ends | ⟨id', s', found, own⟩
  · exact .inl ⟨ends, old⟩
  · have ne : id' ≠ id := by
      rintro rfl
      simp only [Board.drop, Function.update_self] at found
      cases found
    refine .inr ⟨id', s', ?_, own⟩
    simp only [Board.enter, Function.update_of_ne ne]
    exact found

end Informed

end Board

/-! ## Steps -/

namespace Client

variable {fine : Client → Action → Prop} {c d : Client} {b : Board}

/-- The section takes a stream out of the map, whose head was delivered and whose body has not
ended: at the end of an upload, if END_STREAM came before, or for a new stream of its id. -/
def Deserts (c : Client) (a : Action) : Prop :=
  ∃ id s, c.streams.lookup id = some s ∧ s.gotHead = true ∧ (c.cells s.cell).recv.ended = false ∧
    ((∃ k, a = .pump k ∧ (c.cells k).pump = .pulling [] ∧ (c.cells k).id = id ∧
      s.remoteClosed = true) ∨ c.Opens a ∧ id = c.nextStreamId)

theorem informed_deed {a : Action} (deed : Deed c a b) (served : Served c) (keeps : ¬ c.Deserts a)
    (informed : c.board.Informed) : b.Informed := by
  -- A stream without a head has its sender, and one with a head has ended.
  have settled {id : UInt32} {s : StreamState} (found : c.streams.lookup id = some s)
      (leaves : (∃ k, a = .pump k ∧ (c.cells k).pump = .pulling [] ∧ (c.cells k).id = id ∧
        s.remoteClosed = true) ∨ c.Opens a ∧ id = c.nextStreamId) :
      (c.cells s.cell).recv.ended = true ∨ s.headTx = true := by
    have fits := (served.mapped id s found).2.2
    cases got : s.gotHead with
    | false => exact .inr (fits.unanswered got).1
    | true =>
        refine .inl ?_
        by_contra unended
        exact keeps ⟨id, s, found, got, by simpa using unended, leaves⟩
  cases deed with
  | calm => exact informed
  | tear gone live => exact (informed.fail gone).tear
  | tearAdjusted initial live => exact (informed.adjust initial).tear
  | adjust found valid => exact informed.adjust _
  | credit valid => exact informed
  | creditStream stream nonzero valid => exact informed.creditStream _ _
  | fail cuts => exact informed.fail _
  | @data id bytes endStream valid =>
      have received := informed.data id endStream
      split
      next ends =>
        refine received.retire fun s' found _ => .inl ?_
        rcases Board.streams_change _ id _ found with ⟨-, ne⟩ | ⟨-, s, before, rfl⟩
        · exact absurd rfl ne
        · exact .inr ⟨ends, s, before, rfl⟩
      next => exact received
  | @block frame id endStream headers valid ends =>
      have received := informed.block id headers endStream
      split
      next ended =>
        refine received.retire fun s' found _ => ?_
        rcases Board.streams_change _ id _ found with ⟨-, ne⟩ | ⟨-, s, before, rfl⟩
        · exact absurd rfl ne
        · show (_ ∨ _) ∨ _
          cases interim : !s.gotHead && isInterim headers with
          | true =>
              have got : s.gotHead = false := by
                rw [Bool.and_eq_true, Bool.not_eq_true'] at interim
                exact interim.1
              refine .inr ?_
              simp only [if_true]
              exact ((served.mapped id s before).2.2.unanswered got).1
          | false =>
              simp only [Bool.false_eq_true, if_false]
              exact .inl (.inr ⟨ended, s, ⟨before, interim⟩, rfl⟩)
      next => exact received
  | poll => exact informed
  | spend found => exact informed.spend _ _
  | wait sending live found unready => exact informed.wait _ _
  | @finish k s pulled found =>
      have half := informed.change (c.cells k).id (f := fun s => { s with localClosed := true })
        fun _ => rfl
      refine (half.wake (· = k)).retire fun s' found' remoteClosed => ?_
      rcases Board.streams_change _ _ _ found' with ⟨-, ne⟩ | ⟨-, s, before, rfl⟩
      · exact absurd rfl ne
      · have settled := settled before (.inl ⟨k, rfl, pulled, rfl, remoteClosed⟩)
        exact settled
  | enter opens body => exact informed.enter (fun s found => settled found (.inr ⟨opens, rfl⟩)) _

/-- The head of a stream has arrived. -/
def Arrived (c : Client) (k : Nat) : Prop :=
  k < c.opened ∧ ∃ head, (c.cells k).head = .sent (.ok head)

/-- Who reads a body was given its head. -/
def Handed (c : Client) : Prop := ∀ k, (c.cells k).holder = .reading → c.Arrived k

theorem handed_turn (turn : Turn fine c d) (served : Served c) (staffed : Staffed c.desk)
    (handed : Handed c) : Handed d := by
  obtain ⟨-, delivers⟩ := served_turn turn served
  have kept {k : Nat} (before : c.Arrived k) : d.Arrived k := by
    obtain ⟨below, head, arrived⟩ := before
    have some : (c.cells k).head ≠ .empty := by
      rw [arrived]
      intro empty
      cases empty
    exact ⟨below.trans_le delivers.opened, head, (delivers.head k below some).trans arrived⟩
  have shelf (k : Nat) : (d.desk.shelves k).holder = (d.cells k).holder := rfl
  have put {e : Desk} {j : Nat} {t : Shelf} (desk : d.desk = e)
      (shelves : e.shelves = Function.update c.desk.shelves j t)
      (held : t.holder = .reading → c.Arrived j) : Handed d := by
    intro k reading
    rw [← shelf, desk, shelves] at reading
    by_cases eq : k = j
    · subst eq
      rw [Function.update_self] at reading
      exact kept (held reading)
    · rw [Function.update_of_ne eq] at reading
      exact kept (handed k reading)
  have same {e : Desk} (desk : d.desk = e) (shelves : e.shelves = c.desk.shelves) : Handed d := by
    intro k reading
    rw [← shelf, desk, shelves] at reading
    exact kept (handed k reading)
  cases turn with
  | chore chore => exact same chore.desk rfl
  | credit id increment asked => exact same rfl rfl
  | data id bytes endStream asked =>
      cases found : c.streams.lookup id with
      | none => exact same (desk_receiveDataFrame_none found bytes endStream) rfl
      | some s => exact put (desk_receiveDataFrame found bytes endStream) rfl (handed s.cell)
  | pong opaqueData =>
      refine same rfl ?_
      unfold receivePing
      simp only [if_true]
      split
      · rfl
      · rfl
  | shut err live => exact same (desk_shutDown c err) rfl
  | farewell lastStreamId errorCode err live =>
      refine same (desk_shutDown _ err) ?_
      rw [desk_sendFrame]
  | failPings err => exact same rfl rfl
  | hangUp closed => exact same rfl rfl
  | count => exact same rfl rfl
  | enter made before idle => exact same rfl rfl
  | register body made before =>
      refine put (desk_registerStream c _ body) rfl ?_
      intro reading
      cases reading
  | @respond i k head awaiting arrived =>
      exact put (desk_settle c i k _ .reading) rfl fun _ =>
        ⟨(staffed.awaiting i k awaiting).1, head, arrived⟩
  | refuse err awaiting arrived failed =>
      refine put (desk_settle c _ _ _ _) rfl ?_
      intro reading
      cases reading
  | dropCall awaiting asked =>
      refine put (desk_settle c _ _ _ _) rfl ?_
      intro reading
      cases reading
  | @chunk k bytes queue reading queued asked =>
      exact put (desk_chunk c k _ _ _ _) rfl fun _ => handed k reading
  | look recv yields queue buffered ended error => exact same (desk_look yields queue buffered) rfl
  | @dropBody k reading asked =>
      refine put (desk_dropBody reading) rfl ?_
      intro reading
      cases reading
  | ping =>
      cases closed : c.closed with
      | true => exact same (desk_ping_closed closed) rfl
      | false => exact same (desk_ping closed) rfl

theorem handed_turns (turns : Turns fine c d) (attended : Attended c) (handed : Handed c) :
    Handed d := by
  induction turns with
  | refl => exact handed
  | tail turns turn ih =>
      have before := attended_turns turns attended
      exact handed_turn turn before.served before.staffed ih

theorem handed_connect (options : ConnectOptions) : Handed (connect options) := by
  intro k reading
  have holder : ((connect options).desk.shelves k).holder = .reading := reading
  rw [desk_connect] at holder
  cases holder

/-- A poll of a body that has ended is ready. -/
theorem ready_read {k : Nat} (reading : (c.cells k).holder = .reading)
    (ended : (c.cells k).recv.ended = true) :
    ∃ result, ((c.step (.read k)).cells k).yields = (c.cells k).yields ++ [result] := by
  simp only [step, read, if_pos reading, ended, if_true]
  cases queued : (c.cells k).recv.queue with
  | cons chunk queue =>
      refine ⟨.chunk chunk, ?_⟩
      simp only [cells_replenishRecvWindow, yieldTo, modifyCell, Function.update_self]
  | nil =>
      cases failed : (c.cells k).recv.error with
      | some err => exact ⟨.failed err, by simp only [yieldTo, modifyCell, Function.update_self]⟩
      | none => exact ⟨.done, by simp only [yieldTo, modifyCell, Function.update_self]⟩

/-! ## Runs -/

/-- In a run that takes no stream from a body that goes on, a body whose stream has left the
map has ended, and its next poll is ready. -/
theorem ended_of_gone (options : ConnectOptions) (actions : List Action)
    (keeps : Machine.Along step (fun c a => ¬ c.Deserts a) (connect options) actions) {k : Nat}
    (reading : ((after options actions).cells k).holder = .reading)
    (gone : ∀ id s, (after options actions).streams.lookup id = some s → s.cell ≠ k) :
    ((after options actions).cells k).recv.ended = true ∧
      ∃ result, ((after options (actions ++ [.read k])).cells k).yields =
        ((after options actions).cells k).yields ++ [result] := by
  have kept (c : Client) (a : Action) :
      c.Sealed ∧ Attended c ∧ Handed c ∧ c.board.Informed → ¬ c.Deserts a →
        (c.step a).Sealed ∧ Attended (c.step a) ∧ Handed (c.step a) ∧ (c.step a).board.Informed := by
    rintro ⟨sound, attended, handed, informed⟩ keeps
    exact ⟨sealed_step c a sound, attended_step attended a,
      handed_turns (attended.turns a) attended handed,
      informed_deed (deed_step sound a) attended.served keeps informed⟩
  have start : (connect options).board.Informed := by
    rw [board_connect]
    intro k below
    exact absurd below (Nat.not_lt_zero k)
  obtain ⟨-, -, handed, informed⟩ := Machine.run_invariant_along
    (P := fun c => c.Sealed ∧ Attended c ∧ Handed c ∧ c.board.Informed) kept
    ⟨sealed_connect options, attended_connect options, handed_connect options, start⟩ keeps
  obtain ⟨below, arrived⟩ := handed k reading
  rcases informed k below arrived with ended | ⟨id, s, found, own⟩
  · refine ⟨ended, ?_⟩
    rw [after, Machine.run_append]
    exact ready_read reading ended
  · exact absurd own (gone id s found)

/-- No stream in the map has a head and no end. -/
theorem keeps_of_settled (settled : c.streams.entries.all (fun entry =>
      !entry.2.gotHead || (c.cells entry.2.cell).recv.ended) = true) (a : Action) : ¬ c.Deserts a := by
  rintro ⟨id, s, found, got, unended, -⟩
  have told := List.all_eq_true.mp settled ⟨id, s⟩ (AList.mem_lookup_iff.mp found)
  simp [got, unended] at told

/-- A request, its response, and a caller that reads it. -/
def answeredRequest : List Action :=
  [.request (.bare .empty), .frame (.headers 1 [0x88] true true none), .pollCall 0]

theorem ended_of_gone_answeredRequest :
    ((after {} answeredRequest).cells 0).recv.ended = true ∧
      ∃ result, ((after {} (answeredRequest ++ [.read 0])).cells 0).yields =
        ((after {} answeredRequest).cells 0).yields ++ [result] := by
  refine ended_of_gone {} answeredRequest ?_ (by decide +kernel) ?_
  · simp only [answeredRequest, Machine.Along, and_true]
    refine ⟨keeps_of_settled ?_ _, keeps_of_settled ?_ _, keeps_of_settled ?_ _⟩ <;> decide +kernel
  · have empty : (after {} answeredRequest).streams.entries = [] := by decide +kernel
    intro id s found
    have mem := AList.mem_lookup_iff.mp found
    rw [empty] at mem
    cases mem

/-- An interim response ends the stream, the head comes after it, and then the upload ends. -/
def endedByInterim : List Action :=
  [.request (.bare (.bytes [0x61])),
    .frame (.headers 1 [0x08, 0x03, 0x31, 0x30, 0x33] true true none),
    .frame (.headers 1 [0x88] false true none), .pollCall 0] ++ List.replicate 3 (.pump 0)

theorem not_ended_endedByInterim :
    ¬ ∀ (options : ConnectOptions) (actions : List Action) (k : Nat),
      ((after options actions).cells k).holder = .reading →
      (∀ id s, (after options actions).streams.lookup id = some s → s.cell ≠ k) →
      ((after options actions).cells k).recv.ended = true := by
  intro ends
  have reading : ((after {} endedByInterim).cells 0).holder = .reading := by decide +kernel
  have empty : (after {} endedByInterim).streams.entries = [] := by decide +kernel
  have unended : ((after {} endedByInterim).cells 0).recv.ended = false := by decide +kernel
  have ended := ends {} endedByInterim 0
  revert reading empty unended ended
  generalize after {} endedByInterim = c
  intro reading empty unended ended
  refine Bool.false_ne_true (unended.symm.trans (ended reading fun id s found => ?_))
  have mem := AList.mem_lookup_iff.mp found
  rw [empty] at mem
  cases mem

end Client

end H2ts
