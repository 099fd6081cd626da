import H2ts.Connection.Credit

/-!
# Conservation of receive credit

A section moves credit only if it dispatches DATA, reads a chunk or drops a body
(`moves_cases`).  Where the peer sends DATA on a stream only between its head and
its end, and no body is dropped that holds `2^31` bytes, every byte is returned
once it is read or dropped (`conserved_after`).  The increment of a WINDOW_UPDATE
has 31 bits, and a larger one is cut off.
-/

namespace H2ts

open History

namespace Client

variable {fine : Client → Action → Prop} {c d e : Client}

/-! ## Sections -/

namespace Still

theorem refl (c : Client) : Still c c where
  opened := le_rfl
  shelves := fun k _ => ⟨(c.desk.shelves k).holder, rfl⟩
  new := fun _ above below => absurd below (Nat.not_lt.mpr above)
  dropped := fun _ => rfl
  returned := fun _ => rfl
  received := fun _ => rfl

theorem trans (first : Still c d) (second : Still d e) : Still c e where
  opened := first.opened.trans second.opened
  shelves := fun k below => by
    obtain ⟨holder, shelf⟩ := first.shelves k below
    obtain ⟨holder', shelf'⟩ := second.shelves k (below.trans_le first.opened)
    exact ⟨holder', by rw [shelf', shelf]⟩
  new := fun k above below => by
    rcases Nat.lt_or_ge k d.desk.opened with old | new
    · obtain ⟨holder, shelf⟩ := second.shelves k old
      rw [shelf]
      exact first.new k above old
    · exact second.new k new below
  dropped := fun k => (second.dropped k).trans (first.dropped k)
  returned := fun id => (second.returned id).trans (first.returned id)
  received := fun id => (second.received id).trans (first.received id)

end Still

end Client

/-- Sections that can move credit. -/
def Action.movesCredit : Action → Bool
  | .frame (.data ..) => true
  | .read _ => true
  | .dropBody _ => true
  | _ => false

namespace Client

variable {fine : Client → Action → Prop} {c d e : Client}

theorem still_turns (turns : Turns fine c d) (attended : Attended c)
    (others : ∀ c a, fine c a → a.movesCredit = false) : Still c d := by
  induction turns with
  | refl => exact .refl c
  | tail before turn ih =>
      refine ih.trans ?_
      rcases credit_cases turn (attended_turns before attended).staffed with still |
        ⟨id, bytes, endStream, asked, -⟩ | ⟨k, bytes, queue, -, -, asked, -⟩ | ⟨k, -, asked, -⟩
      · exact still
      · cases others _ _ asked
      · cases others _ _ asked
      · cases others _ _ asked

/-- On a connection that stays open, DATA is taken and a stream perhaps retired. -/
theorem step_data (attended : Attended c) {id : UInt32} {bytes : Bytes} {endStream : Bool}
    (live : (c.step (.frame (.data id bytes endStream))).closed = false) :
    Still (c.receiveDataFrame id bytes endStream) (c.step (.frame (.data id bytes endStream))) := by
  have turn : Turn (fun _ _ => True) c (c.receiveDataFrame id bytes endStream) :=
    .data id bytes endStream trivial
  have staffed : Staffed (c.receiveDataFrame id bytes endStream).desk :=
    staffed_turn turn attended.staffed
  cases pending : c.pendingHeaderBlock with
  | some block =>
      have failed : c.step (.frame (.data id bytes endStream)) =
          c.connectionError (.new .protocolError "expected CONTINUATION frame") := by
        simp only [step, onFrame, dispatch, pending, isContinuation, Option.isSome_some, Bool.not_false,
          Bool.and_self, if_true]
        rfl
      rw [failed, connectionError, closed_destroy] at live
      cases live
  | none =>
      have same : c.step (.frame (.data id bytes endStream)) =
          if endStream then (c.receiveDataFrame id bytes endStream).retireIfFullyClosed id
          else c.receiveDataFrame id bytes endStream := by
        simp [step, onFrame, dispatch, dispatchFrame, pending]
      rw [same]
      split
      · have chore : Chore (c.receiveDataFrame id bytes endStream) _ := .retire id
        exact still_of_desk staffed chore.desk
          (chore.adds.mono fun e plain => neutral_of_isPlain plain)
      · exact .refl _

/-- What a section does to the credit of an open connection. -/
theorem moves_cases (attended : Attended c) {a : Action} (live : (c.step a).closed = false) :
    (∀ id bytes endStream, a ≠ .frame (.data id bytes endStream)) ∧
        (∀ k, a = .dropBody k → (c.cells k).holder ≠ .reading) ∧ Still c (c.step a) ∨
      (∃ id bytes endStream, a = .frame (.data id bytes endStream) ∧
        Still (c.receiveDataFrame id bytes endStream) (c.step a)) ∨
      (∃ k bytes queue, a = .read k ∧ (c.cells k).holder = .reading ∧
        (c.cells k).recv.queue = bytes :: queue ∧
        c.step a = (c.yieldTo k { (c.cells k).recv with
            queue := queue
            buffered := (c.cells k).recv.buffered - bytes.length } (.chunk bytes)).replenishRecvWindow
          (c.cells k).id bytes.length) ∨
      ∃ k, a = .dropBody k ∧ (c.cells k).holder = .reading ∧ c.step a = c.dropBody k := by
  have staffed := attended.staffed
  have others (idle : a.movesCredit = false) : Still c (c.step a) := by
    have turns : Turns (fun _ a' => a' = a) c (c.step a) := turns_step staffed.fresh rfl
    exact still_turns turns attended fun _ a' same => same ▸ idle
  cases a with
  | frame frame =>
      cases frame with
      | data id bytes endStream => exact .inr (.inl ⟨id, bytes, endStream, rfl, step_data attended live⟩)
      | _ => exact .inl ⟨by simp, by simp, others rfl⟩
  | read k =>
      by_cases reading : (c.cells k).holder = .reading
      · cases queued : (c.cells k).recv.queue with
        | cons bytes queue =>
            refine .inr (.inr (.inl ⟨k, bytes, queue, rfl, reading, queued, ?_⟩))
            simp only [step, read, reading, if_true, queued]
        | nil =>
            -- Nothing is taken from the queue.
            refine .inl ⟨by simp, by simp, ?_⟩
            simp only [step, read, reading, if_true, queued]
            split
            · exact still_of_desk staffed (desk_look _ queued.symm rfl) (.none rfl rfl)
            · split
              · exact still_of_desk staffed (desk_look _ rfl rfl) (.none rfl rfl)
              · exact still_of_desk staffed (desk_look (c.cells k).yields queued.symm rfl) (.none rfl rfl)
      · have same : c.step (.read k) = c := by simp only [step, read, reading, if_false]
        rw [same]
        exact .inl ⟨by simp, by simp, .refl c⟩
  | dropBody k =>
      by_cases reading : (c.cells k).holder = .reading
      · exact .inr (.inr (.inr ⟨k, rfl, reading, rfl⟩))
      · have same : c.step (.dropBody k) = c := by simp only [step, dropBody, reading, if_false]
        rw [same]
        refine .inl ⟨by simp, fun j eq => ?_, .refl c⟩
        cases eq
        exact reading
  | _ => exact .inl ⟨by simp, by simp, others rfl⟩

/-! ## Chunks are short -/

/-- The length of a frame has 24 bits. -/
def Framed : Action → Prop
  | .frame (.data _ bytes _) => bytes.length < 2 ^ 24
  | _ => True

/-- Every chunk fits into a WINDOW_UPDATE. -/
def Short (c : Client) : Prop :=
  ∀ k < c.desk.opened, ∀ bytes ∈ (c.desk.shelves k).queue, bytes.length < 2 ^ 31

theorem Still.short (still : Still c d) (short : Short c) : Short d := by
  intro k below bytes mem
  rcases Nat.lt_or_ge k c.desk.opened with old | new
  · obtain ⟨holder, shelf⟩ := still.shelves k old
    rw [shelf] at mem
    exact short k old bytes mem
  · rw [(still.new k new below).1] at mem
    cases mem

/-- The queue of one stream changes. -/
theorem Short.shelve (short : Short c) {k : Nat} {shelf : Shelf}
    (desk : d.desk = { c.desk with shelves := Function.update c.desk.shelves k shelf })
    (queue : k < c.desk.opened → ∀ bytes ∈ shelf.queue, bytes.length < 2 ^ 31) : Short d := by
  intro j below bytes mem
  rw [desk] at below mem
  by_cases eq : j = k
  · subst eq
    simp only [Function.update_self] at mem
    exact queue below bytes mem
  · simp only [Function.update_of_ne eq] at mem
    exact short j below bytes mem

theorem short_receiveDataFrame (short : Short c) (id : UInt32) {bytes : Bytes} (endStream : Bool)
    (small : bytes.length < 2 ^ 24) : Short (c.receiveDataFrame id bytes endStream) := by
  cases found : c.streams.lookup id with
  | none =>
      have desk := desk_receiveDataFrame_none found bytes endStream
      intro k below
      rw [desk] at below ⊢
      exact short k below
  | some s =>
      refine short.shelve (desk_receiveDataFrame found bytes endStream) fun below chunk mem => ?_
      have old (mem : chunk ∈ (c.cells s.cell).recv.queue) : chunk.length < 2 ^ 31 :=
        short s.cell below chunk mem
      simp only [Cell.shelf, RecvState.receiveData] at mem
      split at mem
      · rcases List.mem_append.mp mem with mem | mem
        · exact old mem
        · rw [List.mem_singleton.mp mem]
          omega
      · exact old mem

theorem short_step (attended : Attended c) (short : Short c) {a : Action} (framed : Framed a)
    (live : (c.step a).closed = false) : Short (c.step a) := by
  rcases moves_cases attended live with ⟨-, -, still⟩ | ⟨id, bytes, endStream, rfl, still⟩ |
    ⟨k, bytes, queue, rfl, reading, queued, same⟩ | ⟨k, rfl, reading, same⟩
  · exact still.short short
  · exact still.short (short_receiveDataFrame short id endStream framed)
  · rw [same]
    refine short.shelve (c.desk_chunk k _ _ _ _) fun below chunk mem => ?_
    refine short k below chunk ?_
    show chunk ∈ (c.cells k).recv.queue
    rw [queued]
    exact .tail _ mem
  · rw [same]
    exact short.shelve (desk_dropBody reading) fun below chunk mem => short k below chunk mem

/-! ## Nothing is lost -/

/-- The peer does not send DATA on a stream it has ended. -/
def Timely (c : Client) : Action → Prop
  | .frame (.data id _ _) => ∀ s, c.streams.lookup id = some s → s.remoteClosed = false
  | _ => True

/-- No body is dropped that holds `2^31` bytes. -/
def Moderate (c : Client) : Action → Prop
  | .dropBody k => (c.cells k).holder = .reading → (c.cells k).recv.buffered < 2 ^ 31
  | _ => True

theorem Settles.still {id : UInt32} {loss : Nat} (settles : Settles id c d loss) (still : Still d e) :
    Settles id c e loss := by
  rw [Settles] at settles ⊢
  rw [still.returned, still.received, still.unread]
  exact settles

theorem Settles.trans {id : UInt32} {loss loss' : Nat} (first : Settles id c d loss)
    (second : Settles id d e loss') : Settles id c e (loss + loss') := by
  rw [Settles] at first second ⊢
  omega

/-- A stream whose peer has not ended it has a body that has not ended, and that is
not dropped. -/
theorem alive_of_remoteClosed (served : Served c) (quit : Quit c) {id : UInt32} {s : StreamState}
    (found : c.streams.lookup id = some s) (unended : s.remoteClosed = false) :
    (c.cells s.cell).recv.ended = false ∧ c.desk.bodyDropped s.cell = false := by
  have ended : (c.cells s.cell).recv.ended = false := by
    by_contra ended
    have closed := (served.mapped id s found).2.2.ended (by simpa using ended)
    rw [unended] at closed
    cases closed
  refine ⟨ended, ?_⟩
  by_contra dropped
  rw [quit id s found (by simpa using dropped)] at ended
  cases ended

theorem settles_step (attended : Attended c) (quit : Quit c) (short : Short c)
    (outTx : c.outTx = true) {a : Action} (framed : Framed a) (timely : Timely c a)
    (moderate : Moderate c a)
    (live : (c.step a).closed = false) : Settles 0 c (c.step a) 0 := by
  have before : c.closed = false := by
    have turns := attended.turns a
    exact (live_turns turns live).1
  rcases moves_cases attended live with ⟨-, -, still⟩ | ⟨id, bytes, endStream, rfl, still⟩ |
    ⟨k, bytes, queue, rfl, reading, queued, same⟩ | ⟨k, rfl, reading, same⟩
  · exact Settles.still (d := c) rfl still
  · refine Settles.still ?_ still
    cases found : c.streams.lookup id with
    | none =>
        obtain ⟨loss, settles, none⟩ := credit_discard found bytes endStream 0
        have small : bytes.length < 2 ^ 24 := framed
        rwa [none rfl before outTx (by omega)] at settles
    | some s =>
        obtain ⟨loss, settles, none⟩ := credit_receive attended.served found bytes endStream 0
        obtain ⟨unended, alive⟩ := alive_of_remoteClosed attended.served quit found (timely s found)
        rwa [none unended alive] at settles
  · rw [same]
    obtain ⟨loss, settles, -, none⟩ := credit_chunk attended.staffed reading queued 0
    have small : bytes.length < 2 ^ 31 := by
      refine short k (attended.staffed.reading k reading).1 bytes ?_
      show bytes ∈ (c.cells k).recv.queue
      rw [queued]
      exact .head _
    rwa [none rfl before outTx small] at settles
  · rw [same]
    obtain ⟨loss, settles, -, lost⟩ := credit_dropBody attended.staffed reading 0
    have none := lost rfl before outTx
    rw [Nat.mod_eq_of_lt (moderate reading), Nat.sub_self] at none
    rwa [none] at settles

/-- What a client keeps as long as frames have a length of 24 bits. -/
structure Solvent (c : Client) : Prop where
  attended : Attended c
  quit : Quit c
  live : c.closed = false → c.outTx = true ∧ Short c

theorem solvent_connect (options : ConnectOptions) : Solvent (connect options) := by
  have none : (connect options).opened = 0 := congrArg Desk.opened (desk_connect options)
  have outTx : (connect options).outTx = true := congrArg Desk.outTx (desk_connect options)
  refine ⟨attended_connect options, quit_after options [], fun _ => ⟨outTx, fun k below => ?_⟩⟩
  exact absurd below (by rw [show (connect options).desk.opened = 0 from none]; exact Nat.not_lt_zero _)

theorem solvent_step (solvent : Solvent c) {a : Action} (framed : Framed a) :
    Solvent (c.step a) := by
  have turns := solvent.attended.turns a
  refine ⟨attended_turns turns solvent.attended, quit_turns turns solvent.attended solvent.quit,
    fun live => ?_⟩
  obtain ⟨before, same⟩ := live_turns turns live
  obtain ⟨outTx, short⟩ := solvent.live before
  exact ⟨same.trans outTx, short_step solvent.attended short framed live⟩

/-! ## Bodies -/

/-- The peer does not send DATA on a stream before its head. -/
def Headed (c : Client) : Action → Prop
  | .frame (.data id _ _) => ∀ s, c.streams.lookup id = some s → s.gotHead = true
  | _ => True

/-- The head has arrived. -/
def hasHead (c : Client) (k : Nat) : Bool :=
  match (c.cells k).head with
  | .sent (.ok _) => true
  | _ => false

theorem hasHead_iff {k : Nat} : c.hasHead k = true ↔ ∃ head, (c.cells k).head = .sent (.ok head) := by
  unfold hasHead
  constructor
  · intro has
    split at has
    next head eq => exact ⟨head, eq⟩
    next => cases has
  · rintro ⟨head, eq⟩
    rw [eq]

/-- The response has arrived, and its body is not dropped. -/
def bodyAlive (c : Client) (k : Nat) : Bool := c.hasHead k && !c.desk.bodyDropped k

/-- The bytes buffered for bodies still alive. -/
def aliveBytes (c : Client) : Nat :=
  ∑ k ∈ Finset.range c.opened, if c.bodyAlive k then (c.cells k).recv.buffered else 0

/-- Only streams whose head has arrived hold bytes. -/
def Silent (c : Client) : Prop :=
  ∀ k < c.desk.opened, (c.desk.shelves k).buffered ≠ 0 → c.hasHead k = true

theorem Silent.unread (silent : Silent c) : c.desk.unread 0 = c.aliveBytes := by
  refine Finset.sum_congr rfl fun k mem => ?_
  have below : k < c.desk.opened := Finset.mem_range.mp mem
  show (if !c.desk.bodyDropped k then (c.desk.shelves k).buffered else 0) = _
  by_cases empty : (c.desk.shelves k).buffered = 0
  · have same : (c.cells k).recv.buffered = 0 := empty
    rw [empty, same, ite_self, ite_self]
  · rw [bodyAlive, silent k below empty, Bool.true_and]
    rfl

theorem hasHead_step (attended : Attended c) (a : Action) {k : Nat} (below : k < c.desk.opened)
    (has : c.hasHead k = true) : (c.step a).hasHead k = true := by
  have turns := attended.turns a
  obtain ⟨head, arrived⟩ := hasHead_iff.mp has
  have same := (served_turns turns attended.served).2.head k below (by rw [arrived]; simp)
  rw [hasHead, same]
  exact has

/-- The bytes of a section come for streams that have a head. -/
theorem silent_step (attended : Attended c) (silent : Silent c) {a : Action} (headed : Headed c a)
    (live : (c.step a).closed = false) : Silent (c.step a) := by
  intro k below some
  -- A stream that holds bytes now was open before, with a head.
  have still {d : Client} (still : Still d (c.step a)) :
      k < d.desk.opened ∧ (d.desk.shelves k).buffered ≠ 0 := by
    rcases Nat.lt_or_ge k d.desk.opened with old | new
    · obtain ⟨holder, shelf⟩ := still.shelves k old
      rw [shelf] at some
      exact ⟨old, some⟩
    · exact absurd (still.new k new below).2 some
  have kept (shelf : k < c.desk.opened ∧ (c.desk.shelves k).buffered ≠ 0) :
      (c.step a).hasHead k = true :=
    hasHead_step attended a shelf.1 (silent k shelf.1 shelf.2)
  rcases moves_cases attended live with ⟨-, -, same⟩ | ⟨id, bytes, endStream, rfl, same⟩ |
    ⟨j, bytes, queue, rfl, reading, queued, same⟩ | ⟨j, rfl, reading, same⟩
  · exact kept (still same)
  · obtain ⟨opened, buffered⟩ := still same
    cases found : c.streams.lookup id with
    | none =>
        rw [desk_receiveDataFrame_none found] at opened buffered
        exact kept ⟨opened, buffered⟩
    | some s =>
        rw [desk_receiveDataFrame found] at opened buffered
        by_cases eq : k = s.cell
        · subst eq
          have fits := (attended.served.mapped id s found).2.2
          exact hasHead_step attended _ opened (hasHead_iff.mpr (fits.answered (headed s found)).2)
        · simp only [Function.update_of_ne eq] at buffered
          exact kept ⟨opened, buffered⟩
  · rw [same, desk_chunk] at below some
    by_cases eq : k = j
    · subst eq
      simp only [Function.update_self] at some
      refine kept ⟨below, ?_⟩
      show (c.cells k).recv.buffered ≠ 0
      omega
    · simp only [Function.update_of_ne eq] at some
      exact kept ⟨below, some⟩
  · rw [same, desk_dropBody reading] at below some
    by_cases eq : k = j
    · subst eq
      simp only [Function.update_self] at some
      exact kept ⟨below, some⟩
    · simp only [Function.update_of_ne eq] at some
      exact kept ⟨below, some⟩

/-! ## Runs -/

/-- DATA comes on a stream after its head and before its end. -/
def Polite (c : Client) (a : Action) : Prop := Framed a ∧ Headed c a ∧ Timely c a

/-- The receive window of the connection, as the peer computes it. -/
def recvWindow (c : Client) : Int :=
  SPEC_INITIAL_WINDOW + returned 0 c.history - received 0 c.history

theorem settles_after {options : ConnectOptions} {actions : List Action}
    (polite : Machine.Along step Polite (connect options) actions)
    (moderate : Machine.Along step Moderate (connect options) actions)
    (live : (after options actions).closed = false) :
    Silent (after options actions) ∧ Settles 0 (connect options) (after options actions) 0 := by
  refine (Machine.run_invariant_along (P := fun c => Solvent c ∧ (c.closed = false →
    Silent c ∧ Settles 0 (connect options) c 0)) ?_ ⟨solvent_connect options, fun _ => ⟨?_, rfl⟩⟩
    (Machine.along_and polite moderate)).2 live
  · rintro c a ⟨solvent, settled⟩ ⟨⟨framed, headed, timely⟩, moderate⟩
    refine ⟨solvent_step solvent framed, fun live => ?_⟩
    have turns := solvent.attended.turns a
    have before := (live_turns turns live).1
    obtain ⟨outTx, short⟩ := solvent.live before
    obtain ⟨silent, settles⟩ := settled before
    exact ⟨silent_step solvent.attended silent headed live,
      settles.trans (settles_step solvent.attended solvent.quit short outTx framed timely moderate
        live)⟩
  · intro k below
    rw [desk_connect] at below
    exact absurd below (Nat.not_lt_zero k)

/-- Every byte of a polite peer is returned or held by a body. -/
theorem conserved_after (options : ConnectOptions) {actions : List Action}
    (polite : Machine.Along step Polite (connect options) actions)
    (moderate : Machine.Along step Moderate (connect options) actions)
    (live : (after options actions).closed = false) :
    returned 0 (later options actions) + (after options actions).aliveBytes =
        received 0 (later options actions) ∧
      ((∀ k < (after options actions).opened, (after options actions).bodyAlive k = true →
          ((after options actions).cells k).recv.buffered = 0) →
        (after options actions).recvWindow = (connect options).recvWindow) := by
  obtain ⟨silent, settles⟩ := settles_after polite moderate live
  have none : (connect options).desk.unread 0 = 0 := by
    rw [Desk.unread, desk_connect]
    rfl
  rw [Settles, silent.unread, none, history_later, returned_append, received_append] at settles
  have exact_ : returned 0 (later options actions) + (after options actions).aliveBytes =
      received 0 (later options actions) := by omega
  refine ⟨exact_, fun consumed => ?_⟩
  have empty : (after options actions).aliveBytes = 0 := by
    refine Finset.sum_eq_zero fun k mem => ?_
    split
    next alive => exact consumed k (Finset.mem_range.mp mem) alive
    next => rfl
  rw [recvWindow, recvWindow, history_later, returned_append, received_append]
  omega

/-- A peer that stays within the credit of its streams does not make a body hold
that much. -/
theorem moderate_after {options : ConnectOptions} {actions : List Action}
    (within : WithinCredit options actions) (small : options.streamWindow < 2 ^ 31) :
    Machine.Along step Moderate (connect options) actions := by
  induction actions using List.reverseRecOn with
  | nil => trivial
  | append_singleton actions a ih =>
      have earlier : WithinCredit options actions := fun earlier isPrefix =>
        within earlier (isPrefix.trans (List.prefix_append _ _))
      refine Machine.along_append.mpr ⟨ih earlier, ?_, trivial⟩
      show Moderate (after options actions) a
      cases a with
      | dropBody k =>
          intro reading
          have below := ((attended_after options actions).staffed.reading k reading).1
          exact (buffered_after earlier below).trans_lt small
      | _ => trivial

/-- A response whose head has arrived and was handed over. -/
def opening : List Action :=
  [.request (.bare .empty), .frame (.headers 1 [0x88] false true none), .pollCall 0]

theorem polite_opening : Machine.Along step Polite (connect {}) opening :=
  ⟨⟨trivial, trivial, trivial⟩, ⟨trivial, trivial, trivial⟩, ⟨trivial, trivial, trivial⟩, trivial⟩

/-- Its body is dropped with three bytes unread. -/
def earlyDrop : List Action :=
  opening ++ [.frame (.data 1 [1, 2, 3] false), .dropBody 0]

theorem conserved_after_earlyDrop :
    returned 0 (later {} earlyDrop) = 3 ∧
      (after {} earlyDrop).recvWindow = (connect {}).recvWindow := by
  have one : ((after {} opening).streams.lookup 1).all
      (fun s => s.gotHead && !s.remoteClosed) = true := by decide +kernel
  have stream (s : StreamState) (found : (after {} opening).streams.lookup 1 = some s) :
      s.gotHead = true ∧ s.remoteClosed = false := by
    rw [found] at one
    simpa using one
  have polite : Machine.Along step Polite (connect {}) earlyDrop := by
    refine Machine.along_append.mpr ⟨polite_opening, ⟨?_, fun s found => ?_, fun s found => ?_⟩,
      ⟨trivial, trivial, trivial⟩, trivial⟩
    · show 3 < 2 ^ 24
      omega
    · exact (stream s found).1
    · exact (stream s found).2
  have moderate : Machine.Along step Moderate (connect {}) earlyDrop :=
    ⟨trivial, trivial, trivial, trivial, fun _ => by decide +kernel, trivial⟩
  have conserved := conserved_after {} polite moderate (by decide +kernel)
  exact ⟨by decide +kernel, conserved.2 (by decide +kernel)⟩

/-! ## A body that holds too much -/

/-- The body of stream 1 is being read, and holds a number of bytes. -/
structure Filling (held : Nat) (c : Client) : Prop where
  live : c.closed = false
  pending : c.pendingHeaderBlock = none
  mapped : ∃ s, c.streams.lookup 1 = some s ∧ s.cell = 0 ∧ s.gotHead = true ∧ s.remoteClosed = false
  reading : (c.cells 0).holder = .reading
  unended : (c.cells 0).recv.ended = false
  sound : (c.cells 0).recv.error = none
  buffered : (c.cells 0).recv.buffered = held

theorem filling_step {held : Nat} (filling : Filling held c) {bytes : Bytes}
    (small : bytes.length < 2 ^ 24) :
    Polite c (.frame (.data 1 bytes false)) ∧
      Filling (held + bytes.length) (c.step (.frame (.data 1 bytes false))) := by
  obtain ⟨s, found, cell, gotHead, unclosed⟩ := filling.mapped
  have polite : Polite c (.frame (.data 1 bytes false)) := by
    refine ⟨small, fun s' found' => ?_, fun s' found' => ?_⟩
    · cases found.symm.trans found'
      exact gotHead
    · cases found.symm.trans found'
      exact unclosed
  refine ⟨polite, ?_⟩
  have somebody : 1 ∈ (c.record (.data 1 bytes false)).streams :=
    AList.lookup_isSome.mp (Option.isSome_of_eq_some found)
  have same : c.step (.frame (.data 1 bytes false)) =
      (c.record (.data 1 bytes false)).withStream 1 fun s cell =>
        ((s.receiveData cell bytes false).1.closeRemote false, (s.receiveData cell bytes false).2) := by
    simp [step, onFrame, dispatch, dispatchFrame, filling.pending, receiveDataFrame, somebody]
  have state : c.step (.frame (.data 1 bytes false)) =
      ((c.record (.data 1 bytes false)).modifyStream 1 fun _ => s.closeRemote false).modifyCell 0
        fun x => { x with recv := x.recv.receiveData bytes false } := by
    rw [same]
    simp only [withStream, show (c.record (.data 1 bytes false)).streams.lookup 1 = some s from found,
      cell]
    rfl
  have recv : ((c.step (.frame (.data 1 bytes false))).cells 0).recv =
      (c.cells 0).recv.receiveData bytes false := by
    rw [state]
    rfl
  have buffered : ((c.cells 0).recv.receiveData bytes false).buffered = held + bytes.length := by
    cases bytes with
    | nil => simpa [RecvState.receiveData] using filling.buffered
    | cons x rest =>
        simp [RecvState.receiveData, filling.unended, filling.sound, filling.buffered]
  refine ⟨?_, ?_, ⟨s.closeRemote false, ?_, cell, gotHead, ?_⟩, ?_, ?_, ?_, ?_⟩
  · rw [state]
    exact filling.live
  · rw [state]
    exact filling.pending
  · rw [state]
    exact (KeyMap.lookup_modify _ _ _).trans (by rw [show (c.record _).streams.lookup 1 = _ from found]; rfl)
  · simp [StreamState.closeRemote, unclosed]
  · rw [state]
    exact filling.reading
  · rw [recv]
    simp only [RecvState.receiveData, Bool.or_false]
    split <;> exact filling.unended
  · rw [recv]
    simp only [RecvState.receiveData]
    split <;> exact filling.sound
  · rw [recv, buffered]

/-- DATA that nobody reads. -/
def flood (n : Nat) (bytes : Bytes) : List Action := List.replicate n (.frame (.data 1 bytes false))

theorem filling_flood {bytes : Bytes} (small : bytes.length < 2 ^ 24) (n : Nat) {held : Nat}
    (filling : Filling held c) :
    Machine.Along step Polite c (flood n bytes) ∧ Machine.Along step Moderate c (flood n bytes) ∧
      Filling (held + n * bytes.length) (Machine.run step c (flood n bytes)) := by
  induction n generalizing c held with
  | zero => exact ⟨trivial, trivial, by simpa [flood] using filling⟩
  | succ n ih =>
      obtain ⟨polite, filled⟩ := filling_step filling small
      obtain ⟨later, moderate, full⟩ := ih filled
      refine ⟨⟨polite, later⟩, ⟨trivial, moderate⟩, ?_⟩
      have total : held + (n + 1) * bytes.length = held + bytes.length + n * bytes.length := by
        rw [Nat.succ_mul]
        omega
      rw [total]
      exact full

theorem filling_opening : Filling 0 (after {} opening) where
  live := by decide +kernel
  pending := by decide +kernel
  mapped := by
    have found : ((after {} opening).streams.lookup 1).any
        (fun s => s.cell == 0 && s.gotHead && !s.remoteClosed) = true := by decide +kernel
    cases stream : (after {} opening).streams.lookup 1 with
    | none =>
        rw [stream] at found
        cases found
    | some s =>
        rw [stream] at found
        simp only [Option.any_some, Bool.and_eq_true, beq_iff_eq, Bool.not_eq_true'] at found
        exact ⟨s, rfl, found.1.1, found.1.2, found.2⟩
  reading := by decide +kernel
  unended := by decide +kernel
  sound := by decide +kernel
  buffered := by decide +kernel

theorem aliveBytes_le (c : Client) : c.aliveBytes ≤ c.desk.unread 0 := by
  refine Finset.sum_le_sum fun k _ => ?_
  show _ ≤ if !c.desk.bodyDropped k then (c.desk.shelves k).buffered else 0
  rw [bodyAlive]
  cases c.hasHead k <;> cases c.desk.bodyDropped k <;> simp [desk, Cell.shelf]

/-- 131072 frames of 16384 bytes, and then the body is dropped. -/
def overflow : List Action :=
  opening ++ flood 131072 (List.replicate 16384 0) ++ [.dropBody 0]

/-- The increment of the WINDOW_UPDATE that returns `2^31` bytes is 0. -/
theorem not_conserved_overflow :
    Machine.Along step Polite (connect {}) overflow ∧ (∀ i, .dropCall i ∉ overflow) ∧
      (after {} overflow).closed = false ∧
      returned 0 (later {} overflow) + (after {} overflow).aliveBytes ≠
        received 0 (later {} overflow) := by
  have start : Machine.Along step Moderate (connect {}) opening :=
    ⟨trivial, trivial, trivial, trivial⟩
  have length : (List.replicate 16384 (0 : UInt8)).length = 16384 := List.length_replicate
  have small : (List.replicate 16384 (0 : UInt8)).length < 2 ^ 24 := by
    rw [length]
    omega
  obtain ⟨polite, moderate, filling⟩ := filling_flood small 131072 filling_opening
  have full : after {} (opening ++ flood 131072 (List.replicate 16384 0)) =
      Machine.run step (after {} opening) (flood 131072 (List.replicate 16384 0)) :=
    Machine.run_append step _ _ _
  obtain ⟨c, state⟩ : ∃ c, c = after {} (opening ++ flood 131072 (List.replicate 16384 0)) := ⟨_, rfl⟩
  rw [← full, ← state, length] at filling
  have last : after {} overflow = c.dropBody 0 := by
    rw [overflow, after, Machine.run_append, ← after, ← state]
    rfl
  have whole : Machine.Along step Polite (connect {})
      (opening ++ flood 131072 (List.replicate 16384 0)) :=
    Machine.along_append.mpr ⟨polite_opening, polite⟩
  have settled := (settles_after whole (Machine.along_append.mpr ⟨start, moderate⟩)
    (by rw [← state]; exact filling.live)).2
  rw [← state] at settled
  have solvent : Attended c := state ▸ attended_after {} _
  have outTx : c.outTx = true := by
    have turns := turns_after {} (opening ++ flood 131072 (List.replicate 16384 0))
    rw [← state] at turns
    exact (live_turns turns filling.live).2.trans (congrArg Desk.outTx (desk_connect {}))
  obtain ⟨loss, settles, -, lost⟩ := credit_dropBody solvent.staffed filling.reading 0
  have gone := lost rfl filling.live outTx
  rw [filling.buffered] at gone
  refine ⟨?_, ?_, ?_, ?_⟩
  · exact Machine.along_append.mpr ⟨whole, ⟨trivial, trivial, trivial⟩, trivial⟩
  · intro i
    simp only [overflow, opening, flood, List.mem_append, List.mem_replicate, List.mem_cons,
      List.not_mem_nil, reduceCtorEq, and_false, or_self, not_false_eq_true]
  · rw [last]
    exact (congrArg Desk.closed (desk_dropBody filling.reading)).trans filling.live
  · intro same
    have all := settled.trans settles
    have none : (connect {}).desk.unread 0 = 0 := by
      rw [Desk.unread, desk_connect]
      rfl
    rw [← last, Settles, history_later, returned_append, received_append, none] at all
    have alive := (after {} overflow).aliveBytes_le
    omega

end Client

end H2ts
