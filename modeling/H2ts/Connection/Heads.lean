import H2ts.Connection.Callers

/-!
# Heads

A stream in the map has its cells to itself, and they fit it (`Fits`): the head is
sent exactly if it has arrived, there is no error, and the buffer has ended only if
the peer has.  A request without a head has its stream in the map.  These are the
invariants `Served`, and every turn keeps them (`served_turn`).

A head that was sent, or will never be, stays as it is, and a buffer that has ended
stays ended (`Delivers`).
-/

namespace H2ts

open Hpack

/-- The cells of a stream in the map. -/
structure Fits (s : StreamState) (x : Cell) : Prop where
  unanswered : s.gotHead = false → s.headTx = true ∧ x.head = .empty
  answered : s.gotHead = true → s.headTx = false ∧ ∃ head, x.head = .sent (.ok head)
  error : x.recv.error = none
  ended : x.recv.ended = true → s.remoteClosed = true

namespace Fits

variable {s s' : StreamState} {x y : Cell}

theorem alike (fits : Fits s x) (alike : s.Alike s') : Fits s' x := by
  refine ⟨fun unanswered => ?_, fun answered => ?_, fits.error, fun ended => ?_⟩
  · rw [alike.headTx]
    exact fits.unanswered (alike.gotHead ▸ unanswered)
  · rw [alike.headTx]
    exact fits.answered (alike.gotHead ▸ answered)
  · rw [alike.remoteClosed]
    exact fits.ended ended

theorem keep (fits : Fits s x) (head : y.head = x.head) (ended : y.recv.ended = x.recv.ended)
    (error : y.recv.error = x.recv.error ∨ y.recv.error = none) : Fits s y := by
  refine ⟨?_, ?_, ?_, ?_⟩
  · rw [head]
    exact fits.unanswered
  · rw [head]
    exact fits.answered
  · rcases error with same | none
    · rw [same, fits.error]
    · exact none
  · rw [ended]
    exact fits.ended

/-- A stream that fails. -/
theorem lost (fits : Fits s x) (err : H2Error) :
    (s.fail x err).1.drop (s.fail x err).2 = { x with
      head := if s.gotHead then x.head else .sent (.error err)
      recv := { x.recv with error := some err, ended := true, waker := false } } := by
  have error := fits.error
  cases got : s.gotHead with
  | true =>
      have headTx := (fits.answered got).1
      simp [StreamState.fail, StreamState.drop, got, headTx, RecvState.fail, error]
  | false =>
      have headTx := (fits.unanswered got).1
      simp [StreamState.fail, StreamState.sendHead, StreamState.drop, got, headTx, RecvState.fail,
        error]

/-- A stream that is dropped. -/
theorem dropped (fits : Fits s x) :
    s.drop x = { x with head := if s.gotHead then x.head else .canceled } := by
  cases got : s.gotHead with
  | true => simp [StreamState.drop, (fits.answered got).1]
  | false => simp [StreamState.drop, (fits.unanswered got).1]

/-- Whatever a stream leaves behind, it is not an empty channel. -/
theorem settled (fits : Fits s x) {result : Oneshot (Except H2Error Head)} (some : result ≠ .empty) :
    (if s.gotHead then x.head else result) ≠ .empty := by
  split
  next got =>
    obtain ⟨-, head, sent⟩ := fits.answered got
    rw [sent]
    simp
  next => exact some

/-- A head that was there stays. -/
theorem kept (fits : Fits s x) (some : x.head ≠ .empty)
    (result : Oneshot (Except H2Error Head)) :
    (if s.gotHead then x.head else result) = x.head := by
  split
  next => rfl
  next unanswered => exact absurd (fits.unanswered (by simpa using unanswered)).2 some

end Fits

/-- What a stream does with its cells: they still fit, a head that was there stays,
and a body that has ended stays ended. -/
structure Tends (f : StreamState → Cell → StreamState × Cell) : Prop where
  cell : ∀ s x, (f s x).1.cell = s.cell
  id : ∀ s x, (f s x).2.id = x.id
  fits : ∀ s x, Fits s x → Fits (f s x).1 (f s x).2
  head : ∀ s x, Fits s x → x.head ≠ .empty → (f s x).2.head = x.head
  ended : ∀ s x, x.recv.ended = true → (f s x).2.recv.ended = true
  remote : ∀ s x, s.remoteClosed = true → (f s x).1.remoteClosed = true

theorem tends_data (data : Bytes) (endStream : Bool) :
    Tends fun s x => ((s.receiveData x data endStream).1.closeRemote endStream,
      (s.receiveData x data endStream).2) := by
  have error (r : RecvState) : (r.receiveData data endStream).error = r.error := by
    unfold RecvState.receiveData
    split <;> rfl
  have ended (r : RecvState) : (r.receiveData data endStream).ended = (r.ended || endStream) := by
    unfold RecvState.receiveData
    split <;> rfl
  refine ⟨fun s x => rfl, fun s x => rfl, fun s x fits => ?_, fun s x _ _ => rfl,
    fun s x was => ?_, fun s x was => ?_⟩
  · refine ⟨fits.unanswered, fits.answered, (error x.recv).trans fits.error, fun now => ?_⟩
    simp only [StreamState.receiveData, ended, Bool.or_eq_true] at now
    simp only [StreamState.closeRemote, StreamState.receiveData, Bool.or_eq_true]
    exact now.imp fits.ended id
  · simp only [StreamState.receiveData, ended, was, Bool.true_or]
  · simp only [StreamState.closeRemote, StreamState.receiveData, was, Bool.true_or]

/-- The end of a body, with the last header block. -/
def Cell.endWith (endStream : Bool) (x : Cell) : Cell :=
  if endStream then { x with recv := x.recv.endBody } else x

theorem Cell.endWith_spec (endStream : Bool) (x : Cell) :
    (x.endWith endStream).id = x.id ∧ (x.endWith endStream).head = x.head ∧
      (x.endWith endStream).recv.error = x.recv.error ∧
      (x.endWith endStream).recv.ended = (x.recv.ended || endStream) := by
  unfold Cell.endWith RecvState.endBody
  cases endStream with
  | false => simp
  | true => cases ended : x.recv.ended <;> simp [ended]

theorem Fits.endWith {s : StreamState} {x : Cell} (fits : Fits s x) (endStream : Bool) :
    Fits (s.closeRemote endStream) (x.endWith endStream) := by
  obtain ⟨-, head, error, ended⟩ := x.endWith_spec endStream
  refine ⟨?_, ?_, error.trans fits.error, fun now => ?_⟩
  · rw [head]
    exact fits.unanswered
  · rw [head]
    exact fits.answered
  · rw [ended, Bool.or_eq_true] at now
    simp only [StreamState.closeRemote, Bool.or_eq_true]
    exact now.imp fits.ended id

/-- A block is interim, a head or trailers. -/
theorem receiveHeaders_cases (s : StreamState) (x : Cell) (headers : List Header)
    (endStream : Bool) :
    s.receiveHeaders x headers endStream = (s, x) ∨
      (s.gotHead = false ∧ s.receiveHeaders x headers endStream =
        ({ s with gotHead := true, headTx := false }, Cell.endWith endStream { x with
          head := if s.headTx then .sent (.ok (collectHeaders headers)) else x.head })) ∨
      s.receiveHeaders x headers endStream = (s, Cell.endWith endStream { x with
        trailers := some (collectHeaders headers).headers }) := by
  unfold StreamState.receiveHeaders StreamState.sendHead Cell.endWith
  cases s.gotHead with
  | true => exact .inr (.inr rfl)
  | false =>
      cases isInterim headers with
      | true => exact .inl rfl
      | false => cases s.headTx <;> exact .inr (.inl ⟨rfl, rfl⟩)

theorem tends_block (headers : List Header) (endStream : Bool) :
    Tends fun s x => ((s.receiveHeaders x headers endStream).1.closeRemote endStream,
      (s.receiveHeaders x headers endStream).2) := by
  have closed (s : StreamState) (was : s.remoteClosed = true) :
      (s.closeRemote endStream).remoteClosed = true := by
    simp only [StreamState.closeRemote, was, Bool.true_or]
  refine ⟨fun s x => ?_, fun s x => ?_, fun s x fits => ?_, fun s x fits some => ?_,
    fun s x was => ?_, fun s x was => ?_⟩ <;>
  rcases receiveHeaders_cases s x headers endStream with same | ⟨got, same⟩ | same <;>
  simp only [same]
  · rfl
  · rfl
  · rfl
  · exact (Cell.endWith_spec _ _).1
  · exact (Cell.endWith_spec _ _).1
  · refine ⟨fits.unanswered, fits.answered, fits.error, fun ended => closed s (fits.ended ended)⟩
  · have head : Fits { s with gotHead := true, headTx := false } { x with
        head := if s.headTx then .sent (.ok (collectHeaders headers)) else x.head } := by
      refine ⟨fun unanswered => ?_, fun _ => ⟨rfl, collectHeaders headers, ?_⟩, fits.error, fits.ended⟩
      · cases unanswered
      · simp only [(fits.unanswered got).1, if_true]
    exact head.endWith endStream
  · have trailers : Fits s { x with trailers := some (collectHeaders headers).headers } :=
      fits.keep rfl rfl (.inl rfl)
    exact trailers.endWith endStream
  · exact absurd (fits.unanswered got).2 some
  · exact (Cell.endWith_spec _ _).2.1
  · exact was
  · rw [(Cell.endWith_spec _ _).2.2.2]
    simp only [was, Bool.true_or]
  · rw [(Cell.endWith_spec _ _).2.2.2]
    simp only [was, Bool.true_or]
  · exact closed s was
  · exact closed _ was
  · exact closed s was

/-! ## Streams in the map -/

structure Served (c : Client) : Prop where
  mapped : ∀ id s, c.streams.lookup id = some s →
    s.cell < c.opened ∧ (c.cells s.cell).id = id ∧ Fits s (c.cells s.cell)
  waiting : ∀ k < c.opened, (c.cells k).head = .empty →
    ∃ id s, c.streams.lookup id = some s ∧ s.cell = k

/-- What callers have seen stays. -/
structure Delivers (c d : Client) : Prop where
  opened : c.opened ≤ d.opened
  head : ∀ k < c.opened, (c.cells k).head ≠ .empty → (d.cells k).head = (c.cells k).head
  ended : ∀ k < c.opened, (c.cells k).recv.ended = true → (d.cells k).recv.ended = true
  streams : ∀ id s', d.streams.lookup id = some s' →
    (∃ s, c.streams.lookup id = some s ∧ s.cell = s'.cell) ∨ c.opened ≤ s'.cell

namespace Delivers

theorem refl (c : Client) : Delivers c c :=
  ⟨le_rfl, fun _ _ _ => rfl, fun _ _ ended => ended, fun _ s' found => .inl ⟨s', found, rfl⟩⟩

theorem trans {c d e : Client} (first : Delivers c d) (second : Delivers d e) : Delivers c e := by
  refine ⟨first.opened.trans second.opened, fun k below some => ?_, fun k below was => ?_,
    fun id s' found => ?_⟩
  · have same := first.head k below some
    rw [← same] at some
    exact (second.head k (below.trans_le first.opened) some).trans same
  · exact second.ended k (below.trans_le first.opened) (first.ended k below was)
  · rcases second.streams id s' found with ⟨s, before, cell⟩ | beyond
    · rcases first.streams id s before with ⟨s'', origin, cell'⟩ | beyond
      · exact .inl ⟨s'', origin, cell'.trans cell⟩
      · exact .inr (cell ▸ beyond)
    · exact .inr (first.opened.trans beyond)

end Delivers

namespace Served

variable {c d : Client}

theorem cell_ne (served : Served c) {id id' : UInt32} {s s' : StreamState}
    (found : c.streams.lookup id = some s) (found' : c.streams.lookup id' = some s')
    (ne : id' ≠ id) : s'.cell ≠ s.cell := by
  intro same
  refine ne ?_
  rw [← (served.mapped id s found).2.1, ← (served.mapped id' s' found').2.1, same]

/-- Nothing changes that matters here. -/
theorem keep (served : Served c) (opened : d.opened = c.opened)
    (streams : d.streams = c.streams)
    (cells : ∀ k, (d.cells k).id = (c.cells k).id ∧ (d.cells k).head = (c.cells k).head ∧
      (d.cells k).recv.ended = (c.cells k).recv.ended ∧
      ((d.cells k).recv.error = (c.cells k).recv.error ∨ (d.cells k).recv.error = none)) :
    Served d ∧ Delivers c d := by
  refine ⟨⟨fun id s found => ?_, fun k below empty => ?_⟩, opened.ge, fun k _ _ => (cells k).2.1,
    fun k _ was => (cells k).2.2.1.trans was, fun id s' found => .inl ⟨s', streams ▸ found, rfl⟩⟩
  · rw [streams] at found
    obtain ⟨below, named, fits⟩ := served.mapped id s found
    obtain ⟨sameId, head, ended, error⟩ := cells s.cell
    rw [opened]
    exact ⟨below, sameId.trans named, fits.keep head ended error⟩
  · rw [opened] at below
    rw [(cells k).2.1] at empty
    rw [streams]
    exact served.waiting k below empty

/-- A stream and its cells change. -/
theorem revise (served : Served c) {id : UInt32} {s s' : StreamState}
    (found : c.streams.lookup id = some s) (opened : d.opened = c.opened)
    (now : d.streams.lookup id = some s')
    (others : ∀ id', id' ≠ id → d.streams.lookup id' = c.streams.lookup id')
    (cell : s'.cell = s.cell) (cells : ∀ k, k ≠ s.cell → d.cells k = c.cells k)
    (named : (d.cells s.cell).id = (c.cells s.cell).id) (fits : Fits s' (d.cells s.cell))
    (head : (c.cells s.cell).head ≠ .empty → (d.cells s.cell).head = (c.cells s.cell).head)
    (ended : (c.cells s.cell).recv.ended = true → (d.cells s.cell).recv.ended = true) :
    Served d ∧ Delivers c d := by
  obtain ⟨below, named', -⟩ := served.mapped id s found
  refine ⟨⟨fun id' t found' => ?_, fun k below' empty => ?_⟩, opened.ge, fun k _ some => ?_,
    fun k _ was => ?_, fun id' t found' => .inl ?_⟩
  · by_cases eq : id' = id
    · subst eq
      obtain rfl := Option.some.inj (found'.symm.trans now)
      rw [cell, opened]
      exact ⟨below, named.trans named', fits⟩
    · rw [others id' eq] at found'
      rw [cells t.cell (served.cell_ne found found' eq), opened]
      exact served.mapped id' t found'
  · by_cases eq : k = s.cell
    · exact ⟨id, s', now, cell.trans eq.symm⟩
    · rw [cells k eq] at empty
      obtain ⟨id', t, found', own⟩ := served.waiting k (opened ▸ below') empty
      have ne : id' ≠ id := by
        intro same
        subst same
        rw [found] at found'
        exact eq (own.symm.trans (congrArg StreamState.cell (Option.some.inj found')).symm)
      exact ⟨id', t, (others id' ne).trans found', own⟩
  · by_cases eq : k = s.cell
    · subst eq
      exact head some
    · rw [cells k eq]
  · by_cases eq : k = s.cell
    · subst eq
      exact ended was
    · rwa [cells k eq]
  · by_cases eq : id' = id
    · subst eq
      obtain rfl := Option.some.inj (found'.symm.trans now)
      exact ⟨s, found, cell.symm⟩
    · exact ⟨t, (others id' eq).symm.trans found', rfl⟩

/-- A stream leaves the map. -/
theorem delete (served : Served c) {id : UInt32} {s : StreamState}
    (found : c.streams.lookup id = some s) (opened : d.opened = c.opened)
    (gone : d.streams.lookup id = none)
    (others : ∀ id', id' ≠ id → d.streams.lookup id' = c.streams.lookup id')
    (cells : ∀ k, k ≠ s.cell → d.cells k = c.cells k)
    (settled : (d.cells s.cell).head ≠ .empty)
    (head : (c.cells s.cell).head ≠ .empty → (d.cells s.cell).head = (c.cells s.cell).head)
    (ended : (c.cells s.cell).recv.ended = true → (d.cells s.cell).recv.ended = true) :
    Served d ∧ Delivers c d := by
  have still {id' : UInt32} {t : StreamState} (found' : d.streams.lookup id' = some t) :
      c.streams.lookup id' = some t ∧ t.cell ≠ s.cell := by
    have ne : id' ≠ id := by
      intro same
      subst same
      rw [gone] at found'
      cases found'
    rw [others id' ne] at found'
    exact ⟨found', served.cell_ne found found' ne⟩
  refine ⟨⟨fun id' t found' => ?_, fun k below empty => ?_⟩, opened.ge, fun k _ some => ?_,
    fun k _ was => ?_, fun id' t found' => .inl ⟨t, (still found').1, rfl⟩⟩
  · obtain ⟨before, ne⟩ := still found'
    rw [cells t.cell ne, opened]
    exact served.mapped id' t before
  · have ne : k ≠ s.cell := by
      intro eq
      subst eq
      exact settled empty
    rw [cells k ne] at empty
    obtain ⟨id', t, found', own⟩ := served.waiting k (opened ▸ below) empty
    have other : id' ≠ id := by
      intro same
      subst same
      rw [found] at found'
      exact ne (own.symm.trans (congrArg StreamState.cell (Option.some.inj found')).symm)
    exact ⟨id', t, (others id' other).trans found', own⟩
  · by_cases eq : k = s.cell
    · subst eq
      exact head some
    · rw [cells k eq]
  · by_cases eq : k = s.cell
    · subst eq
      exact ended was
    · rwa [cells k eq]

/-- A stream is opened, under an id that is free. -/
theorem adopt (served : Served c) {id : UInt32} {s : StreamState}
    (free : c.streams.lookup id = none) (opened : d.opened = c.opened + 1)
    (now : d.streams.lookup id = some s)
    (others : ∀ id', id' ≠ id → d.streams.lookup id' = c.streams.lookup id')
    (cell : s.cell = c.opened) (cells : ∀ k, k ≠ c.opened → d.cells k = c.cells k)
    (named : (d.cells c.opened).id = id) (fits : Fits s (d.cells c.opened)) :
    Served d ∧ Delivers c d := by
  have old {k : Nat} (below : k < c.opened) : d.cells k = c.cells k := cells k (Nat.ne_of_lt below)
  refine ⟨⟨fun id' t found => ?_, fun k below empty => ?_⟩, by omega, fun k below _ => ?_,
    fun k below was => ?_, fun id' t found => ?_⟩
  · by_cases eq : id' = id
    · subst eq
      obtain rfl := Option.some.inj (found.symm.trans now)
      rw [cell, opened]
      exact ⟨Nat.lt_succ_self _, named, fits⟩
    · rw [others id' eq] at found
      obtain ⟨below, named', fits'⟩ := served.mapped id' t found
      rw [old below, opened]
      exact ⟨Nat.lt_succ_of_lt below, named', fits'⟩
  · by_cases eq : k = c.opened
    · exact ⟨id, s, now, cell.trans eq.symm⟩
    · rw [cells k eq] at empty
      obtain ⟨id', t, found, own⟩ := served.waiting k (by omega) empty
      have ne : id' ≠ id := by
        intro same
        subst same
        rw [free] at found
        cases found
      exact ⟨id', t, (others id' ne).trans found, own⟩
  · rw [old below]
  · rwa [old below]
  · by_cases eq : id' = id
    · subst eq
      obtain rfl := Option.some.inj (found.symm.trans now)
      exact .inr cell.ge
    · exact .inl ⟨t, (others id' eq).symm.trans found, rfl⟩

end Served

namespace Client

variable {fine : Client → Action → Prop} {c d : Client}

/-! ## Chores -/

theorem served_record (served : Served c) (e : Event) :
    Served (c.record e) ∧ Delivers c (c.record e) :=
  served.keep rfl rfl fun _ => ⟨rfl, rfl, rfl, .inl rfl⟩

theorem served_sendFrame (served : Served c) (frame : Frame) :
    Served (c.sendFrame frame) ∧ Delivers c (c.sendFrame frame) := by
  unfold sendFrame
  split
  · exact served_record served _
  · exact ⟨served, .refl c⟩

theorem cells_wakePumps (c : Client) (wakers : List Nat) (k : Nat) :
    ∃ parked, (c.wakePumps wakers).cells k = { c.cells k with parked := parked } := by
  simp only [wakePumps]
  split
  · exact ⟨false, rfl⟩
  · exact ⟨(c.cells k).parked, rfl⟩

theorem served_wakePumps (served : Served c) (wakers : List Nat) :
    Served (c.wakePumps wakers) ∧ Delivers c (c.wakePumps wakers) := by
  refine served.keep rfl rfl fun k => ?_
  obtain ⟨parked, cell⟩ := c.cells_wakePumps wakers k
  rw [cell]
  exact ⟨rfl, rfl, rfl, .inl rfl⟩

theorem served_withStream (served : Served c) (id : UInt32)
    {f : StreamState → Cell → StreamState × Cell} (tends : Tends f) :
    Served (c.withStream id f) ∧ Delivers c (c.withStream id f) := by
  unfold withStream
  split
  · exact ⟨served, .refl c⟩
  next s found =>
    have fits := (served.mapped id s found).2.2
    have own : ((c.modifyStream id fun _ => (f s (c.cells s.cell)).1).modifyCell s.cell
        fun _ => (f s (c.cells s.cell)).2).cells s.cell = (f s (c.cells s.cell)).2 :=
      Function.update_self _ _ _
    have now : ((c.modifyStream id fun _ => (f s (c.cells s.cell)).1).modifyCell s.cell
        fun _ => (f s (c.cells s.cell)).2).streams.lookup id = some (f s (c.cells s.cell)).1 := by
      simp only [modifyCell, modifyStream, KeyMap.lookup_modify, found, Option.map_some]
    refine served.revise found rfl now (fun id' ne => ?_) (tends.cell s _) (fun k ne => ?_) ?_ ?_
      (fun some => ?_) fun was => ?_
    · exact KeyMap.lookup_modify_ne ne _ _
    · exact Function.update_of_ne ne _ _
    · rw [own]
      exact tends.id s _
    · rw [own]
      exact tends.fits s _ fits
    · rw [own]
      exact tends.head s _ fits some
    · rw [own]
      exact tends.ended s _ was

/-- What is left of a stream that failed. -/
theorem cells_removeAndFail (served : Served c) {id : UInt32} {s : StreamState}
    (found : c.streams.lookup id = some s) (err : H2Error) :
    ∃ x : Cell, x.id = (c.cells s.cell).id ∧
      x.head = (if s.gotHead then (c.cells s.cell).head else .sent (.error err)) ∧
      x.recv.error = some err ∧ x.recv.ended = true ∧
      (c.removeAndFail id err).cells =
        Function.update (c.wakePumps s.sendWindow.close.2).cells s.cell x := by
  have woken := (served_wakePumps served s.sendWindow.close.2).1
  have lost := (woken.mapped id s found).2.2.lost err
  obtain ⟨parked, cell⟩ := c.cells_wakePumps s.sendWindow.close.2 s.cell
  rw [cell] at lost
  refine ⟨(s.fail ((c.wakePumps s.sendWindow.close.2).cells s.cell) err).1.drop
    (s.fail ((c.wakePumps s.sendWindow.close.2).cells s.cell) err).2, ?_, ?_, ?_, ?_, ?_⟩
  · rw [cell, lost]
  · rw [cell, lost]
  · rw [cell, lost]
  · rw [cell, lost]
  · simp only [removeAndFail, found, record, modifyCell, cell_fail]
    rfl

theorem served_removeAndFail (served : Served c) (id : UInt32) (err : H2Error) :
    Served (c.removeAndFail id err) ∧ Delivers c (c.removeAndFail id err) := by
  cases found : c.streams.lookup id with
  | none =>
      simp only [removeAndFail, found]
      exact ⟨served, .refl c⟩
  | some s =>
      have woken := served_wakePumps served s.sendWindow.close.2
      have fits := (served.mapped id s found).2.2
      obtain ⟨x, -, head, -, ended, cells⟩ := cells_removeAndFail served found err
      have own : (c.removeAndFail id err).cells s.cell = x := by rw [cells, Function.update_self]
      have streams : (c.removeAndFail id err).streams = c.streams.erase id := by
        simp only [removeAndFail, found, record, modifyCell, wakePumps]
      have opened : (c.removeAndFail id err).opened = c.opened := by
        simp only [removeAndFail, found, record, modifyCell, wakePumps]
      have same : ((c.wakePumps s.sendWindow.close.2).cells s.cell).head = (c.cells s.cell).head := by
        obtain ⟨parked, cell⟩ := c.cells_wakePumps s.sendWindow.close.2 s.cell
        rw [cell]
      have removed : Served (c.removeAndFail id err) ∧
          Delivers (c.wakePumps s.sendWindow.close.2) (c.removeAndFail id err) := by
        refine woken.1.delete found opened ?_ (fun id' ne => ?_) (fun k ne => ?_) ?_ (fun some => ?_)
          fun _ => ?_
        · rw [streams]
          exact AList.lookup_erase id c.streams
        · rw [streams]
          exact AList.lookup_erase_ne ne
        · rw [cells, Function.update_of_ne ne]
        · rw [own, head]
          exact fits.settled (by simp)
        · rw [same] at some
          rw [own, head, same]
          exact fits.kept some _
        · rw [own, ended]
      exact ⟨removed.1, woken.2.trans removed.2⟩

theorem served_retireIfFullyClosed (served : Served c) (id : UInt32) :
    Served (c.retireIfFullyClosed id) ∧ Delivers c (c.retireIfFullyClosed id) := by
  unfold retireIfFullyClosed
  split
  · exact ⟨served, .refl c⟩
  next s found =>
    split
    · have fits := (served.mapped id s found).2.2
      have own : Function.update c.cells s.cell (s.drop (c.cells s.cell)) s.cell =
          { c.cells s.cell with
            head := if s.gotHead then (c.cells s.cell).head else .canceled } := by
        rw [Function.update_self, fits.dropped]
      refine served.delete found rfl (AList.lookup_erase id c.streams)
        (fun id' ne => AList.lookup_erase_ne ne) (fun k ne => Function.update_of_ne ne _ _) ?_
        (fun some => ?_) fun was => ?_
      · simp only [wakeSlotWaiters, record, modifyCell, own]
        exact fits.settled (by simp)
      · simp only [wakeSlotWaiters, record, modifyCell, own]
        exact fits.kept some _
      · simp only [wakeSlotWaiters, record, modifyCell, own]
        exact was
    · exact ⟨served, .refl c⟩

theorem served_chore (chore : Chore c d) (served : Served c) : Served d ∧ Delivers c d := by
  cases chore with
  | note e plain unsent => exact served_record served e
  | send frame plain live => exact served_record served _
  | tune => exact served.keep rfl rfl fun _ => ⟨rfl, rfl, rfl, .inl rfl⟩
  | restream f alike =>
      have origin {id : UInt32} {s' : StreamState}
          (found : (c.streams.mapWithKey f).lookup id = some s') :
          ∃ s, c.streams.lookup id = some s ∧ s.Alike s' := by
        rw [KeyMap.lookup_mapWithKey] at found
        obtain ⟨s, before, rfl⟩ := Option.map_eq_some_iff.mp found
        exact ⟨s, before, alike id s⟩
      refine ⟨⟨fun id s' found => ?_, fun k below empty => ?_⟩, le_rfl, fun _ _ _ => rfl,
        fun _ _ was => was, fun id s' found => .inl ?_⟩
      · obtain ⟨s, before, alike⟩ := origin found
        obtain ⟨below, named, fits⟩ := served.mapped id s before
        rw [alike.cell]
        exact ⟨below, named, fits.alike alike⟩
      · obtain ⟨id, s, found, own⟩ := served.waiting k below empty
        refine ⟨id, f id s, ?_, (alike id s).cell.trans own⟩
        rw [KeyMap.lookup_mapWithKey, found, Option.map_some]
      · obtain ⟨s, before, alike⟩ := origin found
        exact ⟨s, before, alike.cell.symm⟩
  | repump f same =>
      refine served.keep rfl rfl fun k => ?_
      have cell := same k (c.cells k)
      simp only []
      rw [cell]
      exact ⟨rfl, rfl, rfl, .inl rfl⟩
  | block id headers endStream =>
      have noted := served_record served (.block id headers endStream)
      have received := served_withStream noted.1 id (tends_block headers endStream)
      exact ⟨received.1, noted.2.trans received.2⟩
  | remove id err => exact served_removeAndFail served id err
  | retire id => exact served_retireIfFullyClosed served id

theorem served_chores (chores : Chores c d) (served : Served c) : Served d ∧ Delivers c d := by
  induction chores with
  | refl => exact ⟨served, .refl c⟩
  | tail _ chore ih =>
      have next := served_chore chore ih.1
      exact ⟨next.1, ih.2.trans next.2⟩

/-! ## Turns -/

theorem served_receiveDataFrame (served : Served c) (id : UInt32) (bytes : Bytes)
    (endStream : Bool) :
    Served (c.receiveDataFrame id bytes endStream) ∧
      Delivers c (c.receiveDataFrame id bytes endStream) := by
  have noted := served_record served (.data id bytes endStream)
  unfold receiveDataFrame
  simp only []
  split
  · have received := served_withStream noted.1 id (tends_data bytes endStream)
    exact ⟨received.1, noted.2.trans received.2⟩
  · split
    · have returned := served_sendFrame noted.1 (.windowUpdate 0 (UInt32.ofNat bytes.length))
      exact ⟨returned.1, noted.2.trans returned.2⟩
    · exact noted

/-- An id that is used again drops the stream that had it. -/
theorem served_evict (served : Served c) (id : UInt32) :
    ∃ e : Client, Served e ∧ Delivers c e ∧ e.opened = c.opened ∧ e.streams.lookup id = none ∧
      (∀ id', id' ≠ id → e.streams.lookup id' = c.streams.lookup id') ∧
      e.cells = match c.streams.lookup id with
        | none => c.cells
        | some old => Function.update c.cells old.cell (old.drop (c.cells old.cell)) := by
  cases found : c.streams.lookup id with
  | none => exact ⟨c, served, .refl c, rfl, found, fun _ _ => rfl, rfl⟩
  | some old =>
      have fits := (served.mapped id old found).2.2
      have own : Function.update c.cells old.cell (old.drop (c.cells old.cell)) old.cell =
          { c.cells old.cell with
            head := if old.gotHead then (c.cells old.cell).head else .canceled } := by
        rw [Function.update_self, fits.dropped]
      have removed : Served { c with
            streams := c.streams.erase id
            cells := Function.update c.cells old.cell (old.drop (c.cells old.cell)) } ∧
          Delivers c { c with
            streams := c.streams.erase id
            cells := Function.update c.cells old.cell (old.drop (c.cells old.cell)) } := by
        refine served.delete found rfl (AList.lookup_erase id c.streams)
          (fun id' ne => AList.lookup_erase_ne ne) (fun k ne => Function.update_of_ne ne _ _) ?_
          (fun some => ?_) fun was => ?_
        · simp only [own]
          exact fits.settled (by simp)
        · simp only [own]
          exact fits.kept some _
        · simp only [own]
          exact was
      exact ⟨_, removed.1, removed.2, rfl, AList.lookup_erase id c.streams,
        fun id' ne => AList.lookup_erase_ne ne, rfl⟩

theorem streams_registerStream (c : Client) (i : Nat) (body : RequestBody) :
    (c.registerStream i body).streams = c.streams.insert c.nextStreamId (c.newStream body) := by
  unfold registerStream insertStream
  simp only [newStream, StreamState.new]
  cases c.streams.lookup c.nextStreamId <;> rfl

theorem cells_registerStream (c : Client) (i : Nat) (body : RequestBody) :
    (c.registerStream i body).cells = Function.update (match c.streams.lookup c.nextStreamId with
        | none => c.cells
        | some old => Function.update c.cells old.cell (old.drop (c.cells old.cell)))
      c.opened (newCell c.nextStreamId body) := by
  unfold registerStream insertStream
  simp only [newStream, StreamState.new]
  cases c.streams.lookup c.nextStreamId <;> rfl

theorem served_registerStream (served : Served c) (i : Nat) (body : RequestBody) :
    Served (c.registerStream i body) ∧ Delivers c (c.registerStream i body) := by
  obtain ⟨e, served', delivers, opened, free, others, cells⟩ := served_evict served c.nextStreamId
  have cells' : (c.registerStream i body).cells =
      Function.update e.cells c.opened (newCell c.nextStreamId body) := by
    rw [cells]
    exact c.cells_registerStream i body
  have count : (c.registerStream i body).opened = c.opened + 1 := by
    unfold registerStream insertStream
    simp only [newStream, StreamState.new]
    cases c.streams.lookup c.nextStreamId <;> rfl
  have own : (c.registerStream i body).cells e.opened = newCell c.nextStreamId body := by
    rw [cells', opened, Function.update_self]
  have adopted := served'.adopt (d := c.registerStream i body) (s := c.newStream body) free
    (by rw [count, opened]) (by rw [streams_registerStream, AList.lookup_insert])
    (fun id' ne => by rw [streams_registerStream, AList.lookup_insert_ne ne, others id' ne]) opened.symm
    (fun k ne => by rw [cells', Function.update_of_ne (opened ▸ ne)]) (by rw [own]; rfl) ?_
  · exact ⟨adopted.1, delivers.trans adopted.2⟩
  · rw [own]
    refine ⟨fun _ => ⟨rfl, rfl⟩, fun answered => ?_, rfl, fun ended => ?_⟩
    · cases answered
    · cases ended

/-- The holder of a cell changes, or its reader takes something. -/
theorem served_modifyCell (served : Served c) (k : Nat) {f : Cell → Cell}
    (same : (f (c.cells k)).id = (c.cells k).id ∧ (f (c.cells k)).head = (c.cells k).head ∧
      (f (c.cells k)).recv.ended = (c.cells k).recv.ended ∧
      ((f (c.cells k)).recv.error = (c.cells k).recv.error ∨ (f (c.cells k)).recv.error = none)) :
    Served (c.modifyCell k f) ∧ Delivers c (c.modifyCell k f) := by
  refine served.keep rfl rfl fun j => ?_
  by_cases eq : j = k
  · subst eq
    simp only [modifyCell, Function.update_self]
    exact same
  · simp only [modifyCell, Function.update_of_ne eq]
    exact ⟨trivial, trivial, trivial, .inl trivial⟩

theorem served_replenishRecvWindow (served : Served c) (id : UInt32) (n : Nat) :
    Served (c.replenishRecvWindow id n) ∧ Delivers c (c.replenishRecvWindow id n) := by
  unfold replenishRecvWindow
  split
  · exact ⟨served, .refl c⟩
  · simp only []
    split
    · have first := served_sendFrame served (.windowUpdate id (UInt32.ofNat n))
      have second := served_sendFrame first.1 (.windowUpdate 0 (UInt32.ofNat n))
      exact ⟨second.1, first.2.trans second.2⟩
    · exact served_sendFrame served _

theorem served_dropBody (served : Served c) {k : Nat} (reading : (c.cells k).holder = .reading) :
    Served (c.dropBody k) ∧ Delivers c (c.dropBody k) := by
  have released := served_modifyCell served k (f := fun cell => { cell with holder := .gone })
    ⟨rfl, rfl, rfl, .inl rfl⟩
  have returned := served_replenishRecvWindow released.1 (c.cells k).id (c.cells k).recv.buffered
  simp only [dropBody, reading, if_true]
  split
  · exact ⟨returned.1, released.2.trans returned.2⟩
  · have reset := served_chores (chores_resetStream _ (c.cells k).id .cancel) returned.1
    exact ⟨reset.1, (released.2.trans returned.2).trans reset.2⟩

/-- A ping leaves the streams alone. -/
theorem ping_still (c : Client) :
    c.ping.opened = c.opened ∧ c.ping.streams = c.streams ∧ c.ping.cells = c.cells := by
  unfold ping sendFrame
  simp only []
  cases c.closed <;> cases c.outTx <;>
    cases c.pings.lookup (pingData (c.pingCounter + 1)) <;> exact ⟨rfl, rfl, rfl⟩

theorem served_turn (turn : Turn fine c d) (served : Served c) : Served d ∧ Delivers c d := by
  have still {d : Client} (opened : d.opened = c.opened) (streams : d.streams = c.streams)
      (cells : d.cells = c.cells) : Served d ∧ Delivers c d := by
    refine served.keep opened streams fun k => ?_
    rw [cells]
    exact ⟨rfl, rfl, rfl, .inl rfl⟩
  have shut {c : Client} (served : Served c) (err : H2Error) :
      Served (c.shutDown err) ∧ Delivers c (c.shutDown err) := by
    have closed : Served { c with
        closed := true, closeError := some err, connSendWindow := c.connSendWindow.close.1 } ∧
        Delivers c { c with
        closed := true, closeError := some err, connSendWindow := c.connSendWindow.close.1 } :=
      served.keep rfl rfl fun k => ⟨rfl, rfl, rfl, .inl rfl⟩
    have woken := served_wakePumps closed.1 c.connSendWindow.close.2
    exact ⟨woken.1, closed.2.trans woken.2⟩
  cases turn with
  | chore chore => exact served_chore chore served
  | credit id increment asked => exact still rfl rfl rfl
  | data id bytes endStream asked => exact served_receiveDataFrame served id bytes endStream
  | pong opaqueData =>
      unfold receivePing
      simp only [if_true]
      split
      · exact ⟨served, .refl c⟩
      · exact still rfl rfl rfl
  | shut err live => exact shut served err
  | farewell lastStreamId errorCode err live =>
      have said := served_sendFrame served (.goaway lastStreamId errorCode [])
      have closed := shut said.1 err
      exact ⟨closed.1, said.2.trans closed.2⟩
  | failPings err => exact still rfl rfl rfl
  | hangUp closed => exact still rfl rfl rfl
  | count => exact still rfl rfl rfl
  | enter made before idle => exact still rfl rfl rfl
  | register body made before => exact served_registerStream served _ body
  | @respond i k head awaiting arrived =>
      have called := still (d := { c with calls := Function.update c.calls i (.responded head k) })
        rfl rfl rfl
      have held := served_modifyCell called.1 k (f := fun cell => { cell with holder := .reading })
        ⟨rfl, rfl, rfl, .inl rfl⟩
      exact ⟨held.1, called.2.trans held.2⟩
  | @refuse i k err awaiting arrived failed =>
      have called := still (d := { c with calls := Function.update c.calls i (.refused err) })
        rfl rfl rfl
      have held := served_modifyCell called.1 k (f := fun cell => { cell with holder := .gone })
        ⟨rfl, rfl, rfl, .inl rfl⟩
      exact ⟨held.1, called.2.trans held.2⟩
  | @dropCall i k awaiting asked =>
      have called := still (d := { c with calls := Function.update c.calls i .dropped }) rfl rfl rfl
      have held := served_modifyCell called.1 k (f := fun cell => { cell with holder := .gone })
        ⟨rfl, rfl, rfl, .inl rfl⟩
      exact ⟨held.1, called.2.trans held.2⟩
  | @chunk k bytes queue reading queued asked =>
      have taken := served_modifyCell served k (f := fun cell => { cell with
          recv := { (c.cells k).recv with
            queue := queue
            buffered := (c.cells k).recv.buffered - bytes.length }
          yields := cell.yields ++ [.chunk bytes] }) ⟨rfl, rfl, rfl, .inl rfl⟩
      have returned := served_replenishRecvWindow taken.1 (c.cells k).id bytes.length
      exact ⟨returned.1, taken.2.trans returned.2⟩
  | look recv yields queue buffered ended error =>
      exact served_modifyCell served _ ⟨rfl, rfl, ended, error⟩
  | dropBody reading asked => exact served_dropBody served reading
  | ping =>
      obtain ⟨opened, streams, cells⟩ := c.ping_still
      exact still opened streams cells

theorem served_turns (turns : Turns fine c d) (served : Served c) : Served d ∧ Delivers c d := by
  induction turns with
  | refl => exact ⟨served, .refl c⟩
  | tail _ turn ih =>
      have next := served_turn turn ih.1
      exact ⟨next.1, ih.2.trans next.2⟩

theorem served_connect (options : ConnectOptions) : Served (connect options) := by
  have began : Served (fresh (options.headerTableSize.getD 4096)) := by
    refine ⟨fun id s found => ?_, fun k below => ?_⟩
    · cases found
    · exact absurd below (Nat.not_lt_zero k)
  have settings := served_sendFrame (served_record began (.preface CONNECTION_PREFACE)).1
  simp only [connect]
  split
  · exact (served_sendFrame (settings _).1 _).1
  · exact (settings _).1

/-! ## All callers -/

/-- The invariants of a client and its callers. -/
structure Attended (c : Client) : Prop where
  staffed : Staffed c.desk
  ringing : Ringing c.desk
  served : Served c

theorem attended_turns (turns : Turns fine c d) (attended : Attended c) : Attended d :=
  ⟨staffed_turns turns attended.staffed, ringing_turns turns attended.ringing,
    (served_turns turns attended.served).1⟩

theorem Attended.turns (attended : Attended c) (a : Action) :
    Turns (fun _ _ => True) c (c.step a) :=
  turns_step attended.staffed.fresh trivial

theorem attended_step (attended : Attended c) (a : Action) : Attended (c.step a) :=
  attended_turns (attended.turns a) attended

theorem attended_connect (options : ConnectOptions) : Attended (connect options) :=
  ⟨staffed_connect options, ringing_connect options, served_connect options⟩

theorem attended_after (options : ConnectOptions) (actions : List Action) :
    Attended (Client.after options actions) :=
  Machine.run_invariant (P := Attended) (fun _ a attended => attended_step attended a)
    (attended_connect options) actions

end Client

end H2ts
