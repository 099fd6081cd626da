import H2ts.Connection.WellFormed

/-!
# Downloads

The body of a response yields the DATA of its stream, in order.  What it has
yielded and what is queued are the bytes of the response (`Buffered`), as far as
the stream has seen it: a stream that has left the map sees no more of it.

The reader learns the end in one of two ways.  As long as the stream did not fail,
the buffer has ended exactly if the response has (`Sound`).  A stream that failed
has an error, until the reader has taken it (`Broken`).
-/

namespace H2ts

open Hpack History

/-! ## The reader -/

/-- The bytes the body has yielded. -/
def chunks (yields : List Yield) : Bytes :=
  yields.flatMap fun
    | .chunk data => data
    | _ => []

/-- No error was yielded. -/
def Clean (yields : List Yield) : Prop := ∀ err, .failed err ∉ yields

/-- What was yielded and what is queued are the bytes of the response, and they were
all yielded before an error, and before an end that comes without one. -/
structure Buffered (r : Response) (recv : RecvState) (yields : List Yield) : Prop where
  bytes : chunks yields ++ recv.queue.flatten = r.bytes
  failures : ∀ ys err zs, yields = ys ++ .failed err :: zs → chunks ys = r.bytes
  dones : ∀ ys zs, yields = ys ++ .done :: zs → Clean ys → r.ended = true ∧ chunks ys = r.bytes

/-- The stream did not fail. -/
structure Sound (r : Response) (recv : RecvState) (yields : List Yield) : Prop where
  error : recv.error = none
  ended : recv.ended = r.ended
  clean : Clean yields

/-- The stream failed. -/
def Broken (recv : RecvState) (yields : List Yield) : Prop := recv.error ≠ none ∨ ¬ Clean yields

theorem concat_eq_split {α : Type} {xs ys zs : List α} {x y : α} (split : xs ++ [x] = ys ++ y :: zs) :
    (ys = xs ∧ y = x) ∨ ∃ zs', xs = ys ++ y :: zs' := by
  rcases List.eq_nil_or_concat zs with rfl | ⟨zs', z, rfl⟩
  · obtain ⟨rfl, same⟩ := List.append_inj' split rfl
    exact .inl ⟨rfl, (List.cons.inj same).1.symm⟩
  · have moved : xs ++ [x] = (ys ++ y :: zs') ++ [z] := by simpa using split
    exact .inr ⟨zs', (List.append_inj' moved rfl).1⟩

theorem Clean.concat {yields : List Yield} (clean : Clean yields) {y : Yield}
    (fine : ∀ err, y ≠ .failed err) : Clean (yields ++ [y]) := by
  intro err mem
  rcases List.mem_append.mp mem with mem | mem
  · exact clean err mem
  · exact fine err (List.mem_singleton.mp mem).symm

theorem Broken.concat {recv recv' : RecvState} {yields : List Yield} (broken : Broken recv yields)
    (same : recv'.error = recv.error) (y : Yield) : Broken recv' (yields ++ [y]) := by
  rcases broken with error | dirty
  · exact .inl (same ▸ error)
  · exact .inr fun clean => dirty fun err mem => clean err (List.mem_append_left _ mem)

namespace Buffered

variable {r : Response} {recv : RecvState} {yields : List Yield}

/-- Only the queue matters. -/
theorem same_queue (buffered : Buffered r recv yields) {recv' : RecvState}
    (same : recv'.queue = recv.queue) : Buffered r recv' yields :=
  ⟨same ▸ buffered.bytes, buffered.failures, buffered.dones⟩

theorem chunk (buffered : Buffered r recv yields) {recv' : RecvState} {data : Bytes}
    (queued : recv.queue = data :: recv'.queue) : Buffered r recv' (yields ++ [.chunk data]) := by
  refine ⟨?_, fun ys err zs split => ?_, fun ys zs split clean => ?_⟩
  · rw [← buffered.bytes, queued]
    simp [chunks]
  · rcases concat_eq_split split with ⟨-, same⟩ | ⟨zs', split⟩
    · cases same
    · exact buffered.failures ys err zs' split
  · rcases concat_eq_split split with ⟨-, same⟩ | ⟨zs', split⟩
    · cases same
    · exact buffered.dones ys zs' split clean

theorem drained (buffered : Buffered r recv yields) (empty : recv.queue = []) :
    chunks yields = r.bytes := by
  simpa [empty] using buffered.bytes

theorem error (buffered : Buffered r recv yields) (empty : recv.queue = []) {recv' : RecvState}
    (same : recv'.queue = recv.queue) (err : H2Error) :
    Buffered r recv' (yields ++ [.failed err]) := by
  refine ⟨?_, fun ys err' zs split => ?_, fun ys zs split clean => ?_⟩
  · rw [← buffered.bytes, same]
    simp [chunks]
  · rcases concat_eq_split split with ⟨rfl, -⟩ | ⟨zs', split⟩
    · exact buffered.drained empty
    · exact buffered.failures ys err' zs' split
  · rcases concat_eq_split split with ⟨-, same⟩ | ⟨zs', split⟩
    · cases same
    · exact buffered.dones ys zs' split clean

theorem done (buffered : Buffered r recv yields) (empty : recv.queue = [])
    (ended : Clean yields → r.ended = true) : Buffered r recv (yields ++ [.done]) := by
  refine ⟨?_, fun ys err zs split => ?_, fun ys zs split clean => ?_⟩
  · rw [← buffered.bytes]
    simp [chunks]
  · rcases concat_eq_split split with ⟨-, same⟩ | ⟨zs', split⟩
    · cases same
    · exact buffered.failures ys err zs' split
  · rcases concat_eq_split split with ⟨rfl, -⟩ | ⟨zs', split⟩
    · exact ⟨ended clean, buffered.drained empty⟩
    · exact buffered.dones ys zs' split clean

end Buffered

/-! ## The stream -/

/-- A DATA frame for a sound stream. -/
theorem buffered_receiveData {id : UInt32} {r : Response} {recv : RecvState} {yields : List Yield}
    (buffered : Buffered r recv yields) (sound : Sound r recv yields) (bytes : Bytes)
    (endStream : Bool) :
    Buffered (r.next id (.data id bytes endStream)) (recv.receiveData bytes endStream) yields ∧
      Sound (r.next id (.data id bytes endStream)) (recv.receiveData bytes endStream) yields := by
  have noFailure (b : Bytes) : ∀ ys err zs, yields = ys ++ .failed err :: zs → chunks ys = b :=
    fun ys err zs split => absurd (split ▸ List.mem_append_right _ (.head _)) (sound.clean err)
  cases ended : r.ended with
  | true =>
      have received : r.next id (.data id bytes endStream) = r := by simp [Response.next, ended]
      have finished : recv.ended = true := sound.ended.trans ended
      rw [received]
      refine ⟨buffered.same_queue ?_, ?_, ?_, sound.clean⟩
      · simp [RecvState.receiveData, finished]
      · simpa [RecvState.receiveData, finished] using sound.error
      · simp [RecvState.receiveData, finished, ended]
  | false =>
      have received : r.next id (.data id bytes endStream) =
          { r with bytes := r.bytes ++ bytes, ended := endStream } := by simp [Response.next, ended]
      have live : recv.ended = false := sound.ended.trans ended
      have queue : (recv.receiveData bytes endStream).queue.flatten = recv.queue.flatten ++ bytes := by
        cases bytes with
        | nil => simp [RecvState.receiveData]
        | cons byte bytes => simp [RecvState.receiveData, sound.error, live]
      have error : (recv.receiveData bytes endStream).error = none := by
        cases bytes with
        | nil => simpa [RecvState.receiveData] using sound.error
        | cons byte bytes => simp [RecvState.receiveData, sound.error, live]
      have ends : (recv.receiveData bytes endStream).ended = endStream := by
        cases bytes with
        | nil => simp [RecvState.receiveData, live]
        | cons byte bytes => simp [RecvState.receiveData, sound.error, live]
      rw [received]
      refine ⟨⟨?_, noFailure _, fun ys zs split clean => ?_⟩, error, ends, sound.clean⟩
      · rw [queue, ← List.append_assoc, buffered.bytes]
      · have early := (buffered.dones ys zs split clean).1
        rw [ended] at early
        cases early

/-- The final head or trailers for a sound stream. -/
theorem buffered_endBody {r : Response} {recv : RecvState} {yields : List Yield}
    (buffered : Buffered r recv yields) (sound : Sound r recv yields) (endStream : Bool) :
    Buffered { r with head := true, ended := r.ended || endStream }
        (if endStream then recv.endBody else recv) yields ∧
      Sound { r with head := true, ended := r.ended || endStream }
        (if endStream then recv.endBody else recv) yields := by
  have queue : (if endStream then recv.endBody else recv).queue = recv.queue := by
    cases endStream <;> simp only [RecvState.endBody, if_true, Bool.false_eq_true, if_false]
    split <;> rfl
  have error : (if endStream then recv.endBody else recv).error = recv.error := by
    cases endStream <;> simp only [RecvState.endBody, if_true, Bool.false_eq_true, if_false]
    split <;> rfl
  have ends : (if endStream then recv.endBody else recv).ended = (recv.ended || endStream) := by
    cases endStream <;> simp only [RecvState.endBody, if_true, Bool.false_eq_true, if_false,
      Bool.or_false, Bool.or_true]
    split
    next ended => exact ended
    next => rfl
  refine ⟨⟨queue ▸ buffered.bytes, buffered.failures, fun ys zs split clean => ?_⟩,
    error.trans sound.error, ends.trans (by rw [sound.ended]), sound.clean⟩
  obtain ⟨ended, whole⟩ := buffered.dones ys zs split clean
  exact ⟨by simp [ended], whole⟩

/-! ## Views -/

/-- Where the download on a stream stands that has seen the events before its
removal.  Only streams with certain responses are allowed to fail. -/
structure Reading (allowed : Response → Prop) (id : UInt32) (events before : List Event)
    (cell : CellView) (stream : Option StreamView) : Prop where
  buffered : Buffered (response id before) cell.recv cell.yields
  unremoved : ∀ e ∈ before, isRemoval id e = false
  mapped : ∀ s, stream = some s → events = before ∧ s.gotHead = (response id before).head ∧
    Sound (response id before) cell.recv cell.yields
  removed : stream = none → ∃ e later, isRemoval id e = true ∧ events = before ++ e :: later ∧
    (Sound (response id before) cell.recv cell.yields ∨
      e = .failed id ∧ Broken cell.recv cell.yields ∧ allowed (response id before))

namespace Reading

variable {allowed : Response → Prop} {id : UInt32} {events before : List Event}
  {cell : CellView} {stream : Option StreamView}

theorem isPrefix (reading : Reading allowed id events before cell stream) : before <+: events := by
  cases stream with
  | some s => exact (reading.mapped s rfl).1 ▸ List.prefix_rfl
  | none =>
      obtain ⟨e, later, -, split, -⟩ := reading.removed rfl
      exact ⟨e :: later, split.symm⟩

/-- An error was yielded, so the stream has failed. -/
theorem failed_of_dirty (reading : Reading allowed id events before cell stream)
    (dirty : ¬ Clean cell.yields) : before ++ [.failed id] <+: events := by
  cases stream with
  | some s => exact absurd (reading.mapped s rfl).2.2.clean dirty
  | none =>
      obtain ⟨e, later, -, split, sound | ⟨rfl, -, -⟩⟩ := reading.removed rfl
      · exact absurd sound.clean dirty
      · exact ⟨later, by simp [split]⟩

end Reading

/-- Where the download of a cell stands. -/
def Downloading (allowed : Response → Prop) (v : View) (k : Nat) : Prop :=
  ∃ before, Reading allowed (v.cells k).id (v.events k) before (v.cells k) (v.streams (v.cells k).id)

/-- Whether a stream has its head, if it is in the map. -/
def View.headOf (v : View) (id : UInt32) : Option Bool := (v.streams id).map StreamView.gotHead

/-! ## Streams that must not fail -/

/-- A stream that may fail in a step has a response that is allowed to. -/
def Spared (allowed : Response → Prop) (mayFail : UInt32 → Prop) (v : View) : Prop :=
  ∀ id, mayFail id → ∀ s, v.streams id = some s → ∀ r : Response, s.gotHead = r.head →
    (v.cells s.cell).recv.ended = r.ended → allowed r

/-- The two states of a stream have the same cell and the same head. -/
def SameHead (s s' : StreamView) : Prop := s'.cell = s.cell ∧ s'.gotHead = s.gotHead

theorem SameHead.refl (s : StreamView) : SameHead s s := ⟨rfl, rfl⟩

namespace Spared

variable {allowed : Response → Prop} {mayFail : UInt32 → Prop} {v w : View}

theorem keep (spared : Spared allowed mayFail v) (streams : View.Carries SameHead v w)
    (ended : ∀ id s, w.streams id = some s →
      (w.cells s.cell).recv.ended = (v.cells s.cell).recv.ended) : Spared allowed mayFail w := by
  intro id may s' found r head body
  obtain ⟨s, before, cell, sameHead⟩ := streams id s' found
  refine spared id may s before r (sameHead.symm.trans head) ?_
  rw [← cell, ← ended id s' found]
  exact body

theorem setCell (spared : Spared allowed mayFail v) (k : Nat) {f : CellView → CellView}
    (ended : (f (v.cells k)).recv.ended = (v.cells k).recv.ended) :
    Spared allowed mayFail (v.setCell k f) := by
  refine spared.keep (.of_eq SameHead.refl rfl) fun id s _ => ?_
  by_cases eq : s.cell = k
  · rw [eq, View.setCell_self, ended]
  · rw [View.setCell_ne v eq]

/-- The cells of the other streams stay when a stream is removed. -/
theorem remove (spared : Spared allowed mayFail v) (wf : WellFormed v) (id : UInt32)
    (err : H2Error) : Spared allowed mayFail (v.remove id err) := by
  unfold View.remove
  split
  · exact spared
  next s found =>
    refine spared.keep (View.Carries.forget SameHead.refl v id) fun id' s' found' => ?_
    change Function.update v.streams id none id' = some s' at found'
    have ne : id' ≠ id := by
      rintro rfl
      simp at found'
    have before : v.streams id' = some s' := (Function.update_of_ne ne ..).symm.trans found'
    have other : s'.cell ≠ s.cell := by
      intro same
      refine ne ?_
      rw [← (wf.mapped id' s' before).2.1, ← (wf.mapped id s found).2.1, same]
    change (Function.update v.cells s.cell _ s'.cell).recv.ended = _
    rw [Function.update_of_ne other]

theorem quiet (step : Quiet mayFail v w) (wf : WellFormed v) (spared : Spared allowed mayFail v) :
    Spared allowed mayFail w := by
  have same {u : View} (streams : u.streams = v.streams) (cells : u.cells = v.cells) :
      Spared allowed mayFail u :=
    spared.keep (.of_eq SameHead.refl streams) fun _ _ _ => by rw [cells]
  cases step with
  | send => exact same rfl rfl
  | goaway => exact same rfl rfl
  | limit => exact same rfl rfl
  | creditConnection => exact same rfl rfl
  | creditStream id n =>
      exact spared.keep (View.Carries.setStream SameHead.refl v id fun _ => ⟨rfl, rfl⟩)
        fun _ _ _ => rfl
  | adjust initial =>
      refine spared.keep (fun id s' found => ?_) fun _ _ _ => rfl
      obtain ⟨s, before, rfl⟩ := Option.map_eq_some_iff.mp found
      exact ⟨s, before, rfl, rfl⟩
  | shut => exact same rfl rfl
  | fail id err => exact spared.remove wf id err
  | cut e id err => exact remove (v := v.log e) (same rfl rfl) (wf.log e) id err
  | block id headers endStream nobody => exact fun id may => absurd may (nobody id)
  | data id bytes endStream nobody => exact fun id may => absurd may (nobody id)
  | retire => exact spared.keep (View.Carries.forget SameHead.refl v _) fun _ _ _ => rfl
  | pull => exact spared.setCell _ rfl
  | halt => exact spared.setCell _ rfl
  | chunk => exact spared.setCell _ rfl
  | error => exact spared.setCell _ rfl
  | done => exact spared.setCell _ rfl
  | listen => exact spared.setCell _ rfl

theorem quiets (spared : Spared allowed mayFail v) (steps : Quiets mayFail v w)
    (wf : WellFormed v) : Spared allowed mayFail w := by
  induction steps with
  | refl => exact spared
  | tail earlier step ih => exact quiet step (wf.quiets earlier) ih

end Spared

/-! ## Steps -/

namespace Downloading

variable {allowed : Response → Prop} {v w : View} {k : Nat}

/-- A step that does not concern the download. -/
theorem keep (down : Downloading allowed v k) (events : List Event)
    (history : w.history = v.history ++ events)
    (unopened : ∀ e ∈ events, e ≠ .opened (v.cells k).id)
    (other : v.streams (v.cells k).id = none ∨
      ∀ e ∈ events, isReceived (v.cells k).id e = false ∧ isRemoval (v.cells k).id e = false)
    (id : (w.cells k).id = (v.cells k).id) (recv : (w.cells k).recv = (v.cells k).recv)
    (yields : (w.cells k).yields = (v.cells k).yields)
    (head : w.headOf (v.cells k).id = v.headOf (v.cells k).id) : Downloading allowed w k := by
  obtain ⟨before, reading⟩ := down
  have same : w.events k = v.events k ++ events := by
    rw [View.events, id, history, since_append _ fun mem => unopened _ mem rfl]
    rfl
  cases found : v.streams (v.cells k).id with
  | none =>
      have missing : w.streams (v.cells k).id = none :=
        Option.map_eq_none_iff.mp (head.trans (by rw [View.headOf, found, Option.map_none]))
      obtain ⟨e, later, removal, split, state⟩ := reading.removed found
      refine ⟨before, ?_, ?_, ?_, ?_⟩
      · rw [id, recv, yields]
        exact reading.buffered
      · rw [id]
        exact reading.unremoved
      · rw [id, missing]
        intro s present
        cases present
      · rw [id, recv, yields, same]
        exact fun _ => ⟨e, later ++ events, removal, by rw [split]; simp, state⟩
  | some s =>
      have silent : ∀ e ∈ events,
          isReceived (v.cells k).id e = false ∧ isRemoval (v.cells k).id e = false := by
        rcases other with missing | silent
        · rw [missing] at found
          cases found
        · exact silent
      obtain ⟨now, gotHead, sound⟩ := reading.mapped s found
      have response' := response_append_other before fun e mem => (silent e mem).1
      obtain ⟨s', present, sameHead⟩ :=
        Option.map_eq_some_iff.mp (head.trans (by rw [View.headOf, found, Option.map_some]))
      refine ⟨before ++ events, ?_, ?_, ?_, ?_⟩
      · rw [id, recv, yields, response']
        exact reading.buffered
      · rw [id]
        intro e mem
        rcases List.mem_append.mp mem with mem | mem
        · exact reading.unremoved e mem
        · exact (silent e mem).2
      · rw [id, recv, yields, same, present, response', now]
        intro s'' eq
        obtain rfl := Option.some.inj eq
        exact ⟨rfl, sameHead.trans gotHead, sound⟩
      · rw [id, present]
        intro missing
        cases missing

theorem log (down : Downloading allowed v k) {e : Event} (unopened : e ≠ .opened (v.cells k).id)
    (other : v.streams (v.cells k).id = none ∨
      isReceived (v.cells k).id e = false ∧ isRemoval (v.cells k).id e = false) :
    Downloading allowed (v.log e) k :=
  down.keep [e] rfl (by simpa using unopened) (by simpa using other) rfl rfl rfl rfl

/-- A step the download does not see. -/
theorem still (down : Downloading allowed v k) (history : w.history = v.history)
    (id : (w.cells k).id = (v.cells k).id) (recv : (w.cells k).recv = (v.cells k).recv)
    (yields : (w.cells k).yields = (v.cells k).yields)
    (head : w.headOf (v.cells k).id = v.headOf (v.cells k).id) : Downloading allowed w k :=
  down.keep [] (by simp [history]) (by simp) (.inr (by simp)) id recv yields head

theorem setCell_ne (down : Downloading allowed v k) {j : Nat} (ne : k ≠ j) (f : CellView → CellView) :
    Downloading allowed (v.setCell j f) k := by
  have cell := View.setCell_ne v ne f
  exact down.still rfl (by rw [cell]) (by rw [cell]) (by rw [cell]) rfl

theorem setPump (down : Downloading allowed v k) (j : Nat) (pump : Pump) :
    Downloading allowed (v.setPump j pump) k := by
  by_cases eq : k = j
  · subst eq
    have cell : (v.setPump k pump).cells k = { v.cells k with pump := pump } := View.setCell_self ..
    exact down.still rfl (by rw [cell]) (by rw [cell]) (by rw [cell]) rfl
  · exact down.setCell_ne eq _

/-- A change of a stream that is not one of its head. -/
theorem setStream (down : Downloading allowed v k) (id : UInt32) {f : StreamView → StreamView}
    (same : id = (v.cells k).id → ∀ s, (f s).gotHead = s.gotHead) :
    Downloading allowed (v.setStream id f) k := by
  refine down.still rfl rfl rfl rfl ?_
  by_cases eq : (v.cells k).id = id
  · rw [View.headOf, View.headOf, eq, View.setStream_self, Option.map_map]
    exact congrArg (Option.map · _) (funext (same eq.symm))
  · rw [View.headOf, View.setStream_ne v eq, View.headOf]

/-- A step on another stream. -/
theorem elsewhere (down : Downloading allowed v k) {e : Event} (history : w.history = v.history ++ [e])
    (unopened : e ≠ .opened (v.cells k).id)
    (other : isReceived (v.cells k).id e = false ∧ isRemoval (v.cells k).id e = false)
    (cell : w.cells k = v.cells k)
    (stream : w.streams (v.cells k).id = v.streams (v.cells k).id) : Downloading allowed w k :=
  down.keep [e] history (by simpa using unopened) (.inr (by simpa using other)) (by rw [cell])
    (by rw [cell]) (by rw [cell]) (by rw [View.headOf, stream, View.headOf])

/-- The stream of the download leaves the map. -/
theorem leave (down : Downloading allowed v k) (recv : RecvState) {s : StreamView}
    (found : v.streams (v.cells k).id = some s) {e : Event} (removal : isRemoval (v.cells k).id e = true)
    (history : w.history = v.history ++ [e])
    (cell : w.cells k = { v.cells k with recv := recv }) (queue : recv.queue = (v.cells k).recv.queue)
    (missing : w.streams (v.cells k).id = none)
    (state : recv = (v.cells k).recv ∨ e = .failed (v.cells k).id ∧ recv.error ≠ none ∧
      ∀ r : Response, s.gotHead = r.head → (v.cells k).recv.ended = r.ended → allowed r) :
    Downloading allowed w k := by
  obtain ⟨before, reading⟩ := down
  obtain ⟨now, gotHead, sound⟩ := reading.mapped s found
  have unopened : e ≠ .opened (v.cells k).id := by
    rintro rfl
    cases removal
  have same : since (v.cells k).id w.history = before ++ [e] := by
    rw [history, since_concat_ne _ unopened, ← now]
    rfl
  refine ⟨before, ?_, ?_, ?_, ?_⟩
  · rw [cell]
    exact reading.buffered.same_queue queue
  · rw [cell]
    exact reading.unremoved
  · rw [cell]
    intro s' present
    cases missing.symm.trans present
  · rw [View.events, cell, same]
    refine fun _ => ⟨e, [], removal, rfl, ?_⟩
    rcases state with rfl | ⟨failed, error, may⟩
    · exact .inl sound
    · exact .inr ⟨failed, .inl error, may _ gotHead sound.ended⟩

/-- The stream of the download receives a part of the response. -/
theorem receive (down : Downloading allowed v k) (recv : RecvState) {s s' : StreamView}
    (found : v.streams (v.cells k).id = some s) {e : Event}
    (unopened : e ≠ .opened (v.cells k).id) (kept : isRemoval (v.cells k).id e = false)
    (history : w.history = v.history ++ [e]) (cell : w.cells k = { v.cells k with recv := recv })
    (present : w.streams (v.cells k).id = some s')
    (next : ∀ r : Response, s.gotHead = r.head →
      Buffered r (v.cells k).recv (v.cells k).yields → Sound r (v.cells k).recv (v.cells k).yields →
      s'.gotHead = (r.next (v.cells k).id e).head ∧
        Buffered (r.next (v.cells k).id e) recv (v.cells k).yields ∧
        Sound (r.next (v.cells k).id e) recv (v.cells k).yields) :
    Downloading allowed w k := by
  obtain ⟨before, reading⟩ := down
  obtain ⟨now, gotHead, sound⟩ := reading.mapped s found
  obtain ⟨gotHead', buffered', sound'⟩ := next _ gotHead reading.buffered sound
  have same : since (v.cells k).id w.history = before ++ [e] := by
    rw [history, since_concat_ne _ unopened, ← now]
    rfl
  refine ⟨before ++ [e], ?_, ?_, ?_, ?_⟩
  · rw [cell, response_concat]
    exact buffered'
  · rw [cell]
    intro e' mem
    rcases List.mem_append.mp mem with mem | mem
    · exact reading.unremoved e' mem
    · rw [List.mem_singleton.mp mem]
      exact kept
  · rw [View.events, cell, same, response_concat]
    intro s'' eq
    obtain rfl := Option.some.inj (present.symm.trans eq)
    exact ⟨rfl, gotHead', sound'⟩
  · rw [cell]
    intro missing
    cases present.symm.trans missing

/-! ### Removal -/

/-- The cell of another stream is another cell. -/
theorem cell_ne (wf : WellFormed v) {id : UInt32} {s : StreamView} (found : v.streams id = some s)
    (ne : (v.cells k).id ≠ id) : k ≠ s.cell := by
  rintro rfl
  exact ne (wf.mapped id s found).2.1

theorem remove (down : Downloading allowed v k) (wf : WellFormed v) (latest : v.Latest k)
    (id : UInt32) (err : H2Error)
    (may : ∀ s, v.streams id = some s → ∀ r : Response, s.gotHead = r.head →
      (v.cells s.cell).recv.ended = r.ended → allowed r) :
    Downloading allowed (v.remove id err) k := by
  unfold View.remove
  split
  · exact down
  next s found =>
    by_cases eq : (v.cells k).id = id
    · subst eq
      obtain rfl := wf.cell_eq latest found
      refine down.leave ((v.cells s.cell).recv.fail err) found (e := .failed (v.cells s.cell).id)
        (by simp [isRemoval]) rfl (Function.update_self ..) rfl (Function.update_self ..)
        (.inr ⟨rfl, ?_, may s found⟩)
      simp [RecvState.fail]
    · exact down.elsewhere rfl (by simp) ⟨rfl, beq_eq_false_iff_ne.mpr (Ne.symm eq)⟩
        (Function.update_of_ne (cell_ne wf found eq) ..) (Function.update_of_ne eq ..)

theorem retire (down : Downloading allowed v k) {id : UInt32}
    {s : StreamView} (found : v.streams id = some s) :
    Downloading allowed ({ v with streams := Function.update v.streams id none }.log (.retired id)) k := by
  by_cases eq : (v.cells k).id = id
  · subst eq
    exact down.leave _ found (e := .retired (v.cells k).id) (by simp [isRemoval]) rfl rfl rfl
      (Function.update_self ..) (.inl rfl)
  · exact down.elsewhere rfl (by simp) ⟨rfl, beq_eq_false_iff_ne.mpr (Ne.symm eq)⟩ rfl
      (Function.update_of_ne eq ..)

/-! ### Frames -/

theorem data (down : Downloading allowed v k) (wf : WellFormed v) (latest : v.Latest k)
    (id : UInt32) (bytes : Bytes) (endStream : Bool) :
    Downloading allowed (v.data id bytes endStream) k := by
  unfold View.data
  split
  next missing =>
    by_cases eq : (v.cells k).id = id
    · exact down.log (by simp) (.inl (eq ▸ missing))
    · exact down.log (by simp) (.inr ⟨beq_eq_false_iff_ne.mpr (Ne.symm eq), rfl⟩)
  next s found =>
    by_cases eq : (v.cells k).id = id
    · subst eq
      obtain rfl := wf.cell_eq latest found
      refine down.receive ((v.cells s.cell).recv.receiveData bytes endStream) found (by simp) rfl
        (e := .data (v.cells s.cell).id bytes endStream) rfl (Function.update_self ..)
        ((View.setStream_self ..).trans (congrArg (Option.map _) found))
        fun r gotHead buffered sound => ⟨?_, buffered_receiveData buffered sound bytes endStream⟩
      rw [Response.next]
      split <;> exact gotHead
    · exact down.elsewhere rfl (by simp) ⟨beq_eq_false_iff_ne.mpr (Ne.symm eq), rfl⟩
        (Function.update_of_ne (cell_ne wf found eq) ..) (View.setStream_ne v eq _)

theorem block (down : Downloading allowed v k) (wf : WellFormed v) (latest : v.Latest k)
    (id : UInt32) (headers : List Header) (endStream : Bool) :
    Downloading allowed (v.block id headers endStream) k := by
  unfold View.block
  split
  next missing =>
    by_cases eq : (v.cells k).id = id
    · exact down.log (by simp) (.inl (eq ▸ missing))
    · exact down.log (by simp) (.inr ⟨beq_eq_false_iff_ne.mpr (Ne.symm eq), rfl⟩)
  next s found =>
    by_cases eq : (v.cells k).id = id
    · subst eq
      obtain rfl := wf.cell_eq latest found
      split
      next interim =>
        obtain ⟨headless, isInterim⟩ : s.gotHead = false ∧ isInterim headers = true := by
          simpa using interim
        refine down.receive (v.cells s.cell).recv found (by simp) rfl
          (e := .block (v.cells s.cell).id headers endStream) rfl rfl
          ((View.setStream_self ..).trans (congrArg (Option.map _) found))
          fun r gotHead buffered sound => ?_
        have skipped : r.next (v.cells s.cell).id
            (.block (v.cells s.cell).id headers endStream) = r := by
          simp [Response.next, ← gotHead, headless, isInterim]
        rw [skipped]
        exact ⟨gotHead, buffered, sound⟩
      next final =>
        refine down.receive (if endStream then (v.cells s.cell).recv.endBody
            else (v.cells s.cell).recv) found (by simp) rfl
          (e := .block (v.cells s.cell).id headers endStream) rfl (Function.update_self ..)
          ((View.setStream_self ..).trans (congrArg (Option.map _) found))
          fun r gotHead buffered sound => ?_
        have taken : r.next (v.cells s.cell).id (.block (v.cells s.cell).id headers endStream) =
            { r with head := true, ended := r.ended || endStream } := by
          refine if_pos ⟨rfl, fun interim => final ?_⟩
          rw [gotHead, interim.1, interim.2]
          rfl
        rw [taken]
        exact ⟨rfl, buffered_endBody buffered sound endStream⟩
    · split
      · exact down.elsewhere rfl (by simp) ⟨beq_eq_false_iff_ne.mpr (Ne.symm eq), rfl⟩ rfl
          (View.setStream_ne v eq _)
      · exact down.elsewhere rfl (by simp) ⟨beq_eq_false_iff_ne.mpr (Ne.symm eq), rfl⟩
          (Function.update_of_ne (cell_ne wf found eq) ..) (View.setStream_ne v eq _)

/-! ### Reads -/

/-- The body is polled. -/
theorem reads (down : Downloading allowed v k) (recv : RecvState) (yields : List Yield)
    (history : w.history = v.history) (streams : w.streams = v.streams)
    (cell : w.cells k = { v.cells k with recv := recv, yields := yields })
    (next : ∀ r, Buffered r (v.cells k).recv (v.cells k).yields →
      (Sound r (v.cells k).recv (v.cells k).yields ∨ Broken (v.cells k).recv (v.cells k).yields) →
      Buffered r recv yields ∧
        (Sound r (v.cells k).recv (v.cells k).yields → Sound r recv yields) ∧
        (Broken (v.cells k).recv (v.cells k).yields → Broken recv yields)) : Downloading allowed w k := by
  obtain ⟨before, reading⟩ := down
  have state : Sound (response (v.cells k).id before) (v.cells k).recv (v.cells k).yields ∨
      Broken (v.cells k).recv (v.cells k).yields := by
    cases found : v.streams (v.cells k).id with
    | some s => exact .inl (reading.mapped s found).2.2
    | none =>
        obtain ⟨-, -, -, -, sound | ⟨-, broken, -⟩⟩ := reading.removed found
        · exact .inl sound
        · exact .inr broken
  obtain ⟨buffered, stays, broken⟩ := next _ reading.buffered state
  refine ⟨before, ?_, ?_, ?_, ?_⟩
  · rw [cell]
    exact buffered
  · rw [cell]
    exact reading.unremoved
  · rw [View.events, cell, history, streams]
    intro s found
    obtain ⟨now, gotHead, sound⟩ := reading.mapped s found
    exact ⟨now, gotHead, stays sound⟩
  · rw [View.events, cell, history, streams]
    intro missing
    obtain ⟨e, later, removal, split, sound | ⟨failed, wasBroken, may⟩⟩ := reading.removed missing
    · exact ⟨e, later, removal, split, .inl (stays sound)⟩
    · exact ⟨e, later, removal, split, .inr ⟨failed, broken wasBroken, may⟩⟩

theorem chunk (down : Downloading allowed v k) {bytes : Bytes} {queue : List Bytes}
    (queued : (v.cells k).recv.queue = bytes :: queue) :
    Downloading allowed (v.setCell k fun cell => { cell with
      recv := { cell.recv with queue := queue, buffered := cell.recv.buffered - bytes.length }
      yields := cell.yields ++ [.chunk bytes] }) k := by
  refine down.reads _ _ rfl rfl (View.setCell_self ..) fun r buffered _ => ⟨?_, ?_, ?_⟩
  · exact buffered.chunk queued
  · exact fun sound => ⟨sound.error, sound.ended, sound.clean.concat (by simp)⟩
  · exact fun broken => broken.concat rfl _

theorem error (down : Downloading allowed v k) {err : H2Error} (drained : (v.cells k).recv.queue = [])
    (failed : (v.cells k).recv.error = some err) :
    Downloading allowed (v.setCell k fun cell => { cell with
      recv := { cell.recv with error := none }
      yields := cell.yields ++ [.failed err] }) k := by
  refine down.reads _ _ rfl rfl (View.setCell_self ..) fun r buffered _ => ⟨?_, ?_, ?_⟩
  · exact buffered.error drained (by rfl) err
  · intro sound
    cases failed.symm.trans sound.error
  · exact fun _ => .inr fun clean => clean err (List.mem_append_right _ (.head _))

theorem done (down : Downloading allowed v k) (drained : (v.cells k).recv.queue = [])
    (untroubled : (v.cells k).recv.error = none) (ended : (v.cells k).recv.ended = true) :
    Downloading allowed (v.setCell k fun cell => { cell with yields := cell.yields ++ [.done] }) k := by
  refine down.reads _ _ rfl rfl (View.setCell_self ..) fun r buffered state => ⟨?_, ?_, ?_⟩
  · refine buffered.done drained fun clean => ?_
    rcases state with sound | error | dirty
    · exact sound.ended.symm.trans ended
    · exact absurd untroubled error
    · exact absurd clean dirty
  · exact fun sound => ⟨sound.error, sound.ended, sound.clean.concat (by simp)⟩
  · exact fun broken => broken.concat rfl _

theorem listen (down : Downloading allowed v k) :
    Downloading allowed (v.setCell k fun cell =>
      { cell with recv := { cell.recv with waker := true } }) k := by
  refine down.reads _ _ rfl rfl (View.setCell_self ..) fun r buffered _ => ⟨?_, ?_, ?_⟩
  · exact buffered.same_queue rfl
  · exact fun sound => ⟨sound.error, sound.ended, sound.clean⟩
  · exact fun broken => broken

theorem quiet {mayFail : UInt32 → Prop} (step : Quiet mayFail v w) (wf : WellFormed v)
    (latest : v.Latest k) (spared : Spared allowed mayFail v) (down : Downloading allowed v k) :
    Downloading allowed w k := by
  have onCell {j : Nat} (f : CellView → CellView) (here : k = j → Downloading allowed (v.setCell j f) k) :
      Downloading allowed (v.setCell j f) k := by
    by_cases eq : k = j
    · exact here eq
    · exact down.setCell_ne eq f
  cases step with
  | send frame => exact down.log (by simp) (.inr ⟨rfl, rfl⟩)
  | goaway last => exact down.elsewhere rfl (by simp) ⟨rfl, rfl⟩ rfl rfl
  | limit n => exact down.elsewhere rfl (by simp) ⟨rfl, rfl⟩ rfl rfl
  | creditConnection n => exact down.elsewhere rfl (by simp) ⟨rfl, rfl⟩ rfl rfl
  | creditStream id n =>
      exact log (down.setStream id (by exact fun _ _ => rfl)) (by simp) (.inr ⟨rfl, rfl⟩)
  | adjust initial =>
      refine down.still rfl rfl rfl rfl ?_
      simp only [View.headOf, View.adjust, Option.map_map]
      rfl
  | shut => exact down.still rfl rfl rfl rfl rfl
  | fail id err may => exact down.remove wf latest id err (spared id may)
  | cut e id err may isCut =>
      have logged : Downloading allowed (v.log e) k := by
        refine down.log ?_ (.inr ⟨?_, ?_⟩)
        · rintro rfl
          cases isCut
        all_goals cases e <;> first | rfl | cases isCut
      exact logged.remove (wf.log e) latest id err (spared id may)
  | block id headers endStream => exact down.block wf latest id headers endStream
  | data id bytes endStream => exact down.data wf latest id bytes endStream
  | retire found => exact down.retire found
  | pull => exact down.setPump _ _
  | halt => exact down.setPump _ _
  | chunk queued =>
      refine onCell _ ?_
      rintro rfl
      exact down.chunk queued
  | error drained failed =>
      refine onCell _ ?_
      rintro rfl
      exact down.error drained failed
  | done drained untroubled ended =>
      refine onCell _ ?_
      rintro rfl
      exact down.done drained untroubled ended
  | listen =>
      refine onCell _ ?_
      rintro rfl
      exact down.listen

theorem quiets {mayFail : UInt32 → Prop} (steps : Quiets mayFail v w) (wf : WellFormed v)
    (latest : v.Latest k) (spared : Spared allowed mayFail v) (down : Downloading allowed v k) :
    Downloading allowed w k := by
  induction steps with
  | refl => exact down
  | tail earlier step ih =>
      have later := (wf.latest_iff (wf.quiets earlier) (opened_quiets earlier)).mpr latest
      exact quiet step (wf.quiets earlier) later (spared.quiets earlier wf) ih

/-! ### Sending -/

theorem upload (down : Downloading allowed v k) (id : UInt32) (bytes : Bytes) :
    Downloading allowed (v.upload id bytes) k := by
  have spent : Downloading allowed { v with connWindow := v.connWindow - Int64.ofInt bytes.length } k :=
    down.still rfl rfl rfl rfl rfl
  exact log (setStream spent id (by exact fun _ _ => rfl)) (by simp) (.inr ⟨rfl, rfl⟩)

theorem finish (down : Downloading allowed v k) (j : Nat) : Downloading allowed (v.finish j) k :=
  log (setPump (setStream down _ (by exact fun _ _ => rfl)) j _) (by simp) (.inr ⟨rfl, rfl⟩)

theorem openStream_ne (down : Downloading allowed v k) (opened : k ≠ v.opened)
    (fresh : v.nextStreamId ≠ (v.cells k).id) (body : RequestBody) (frames : List Frame) :
    Downloading allowed (v.openStream body frames) k := by
  have cell : (v.openStream body frames).cells k = v.cells k := Function.update_of_ne opened ..
  refine down.keep (.opened v.nextStreamId :: frames.map .sent) rfl (fun e mem => ?_)
    (.inr fun e mem => ?_) (by rw [cell]) (by rw [cell]) (by rw [cell]) ?_
  · cases mem with
    | head => simpa using fresh
    | tail _ later =>
        obtain ⟨frame, -, rfl⟩ := List.mem_map.mp later
        simp
  · cases mem with
    | head => exact ⟨rfl, rfl⟩
    | tail _ later =>
        obtain ⟨frame, -, rfl⟩ := List.mem_map.mp later
        exact ⟨rfl, rfl⟩
  · simp [View.headOf, View.openStream, Function.update_of_ne (Ne.symm fresh)]

theorem openStream (v : View) (body : RequestBody) (frames : List Frame) :
    Downloading allowed (v.openStream body frames) v.opened := by
  have cell : (v.openStream body frames).cells v.opened = ⟨v.nextStreamId, .default,
      if body.isEmpty then .idle else .pulling body.chunks, body.chunks, []⟩ :=
    Function.update_self ..
  have stream : (v.openStream body frames).streams v.nextStreamId =
      some ⟨v.opened, .ofInt v.initialWindow, false, false, body.isEmpty, false⟩ :=
    Function.update_self ..
  have events : since v.nextStreamId (v.openStream body frames).history = frames.map .sent := by
    have split : (v.openStream body frames).history =
        (v.history ++ [.opened v.nextStreamId]) ++ frames.map .sent := by simp [View.openStream]
    rw [split, since_append _ (by simp), since_concat_opened, List.nil_append]
  have nothing : response v.nextStreamId (frames.map .sent) = ⟨false, [], false⟩ := by
    refine response_append_other [] fun e mem => ?_
    obtain ⟨frame, -, rfl⟩ := List.mem_map.mp mem
    rfl
  have sound : Sound ⟨false, [], false⟩ .default [] := ⟨rfl, rfl, fun err mem => by cases mem⟩
  refine ⟨frames.map .sent, ?_, ?_, ?_, ?_⟩
  · rw [cell, nothing]
    exact ⟨rfl, by simp, by simp⟩
  · intro e mem
    obtain ⟨frame, -, rfl⟩ := List.mem_map.mp mem
    rfl
  · rw [View.events, cell, stream, events, nothing]
    intro s same
    obtain rfl := Option.some.inj same
    exact ⟨rfl, rfl, sound⟩
  · rw [cell, stream]
    intro missing
    cases missing

end Downloading

/-! ## Runs -/

/-- Every download stands somewhere, unless a later stream has taken its id. -/
def Downloads (allowed : Response → Prop) (v : View) : Prop :=
  ∀ k, v.Latest k → Downloading allowed v k

theorem Downloads.quiets {allowed : Response → Prop} {mayFail : UInt32 → Prop} {v w : View}
    (steps : Quiets mayFail v w) (wf : WellFormed v) (spared : Spared allowed mayFail v)
    (downs : Downloads allowed v) : Downloads allowed w := by
  intro k latest
  have before := (wf.latest_iff (wf.quiets steps) (opened_quiets steps)).mp latest
  exact Downloading.quiets steps wf before spared (downs k before)

theorem Downloads.openStream {allowed : Response → Prop} {v : View} (downs : Downloads allowed v)
    (body : RequestBody) (frames : List Frame) : Downloads allowed (v.openStream body frames) := by
  intro k ⟨(opened : k < v.opened + 1), last⟩
  by_cases eq : k = v.opened
  · subst eq
    exact Downloading.openStream ..
  · have cell : (v.openStream body frames).cells k = v.cells k := Function.update_of_ne eq ..
    have fresh : v.nextStreamId ≠ (v.cells k).id := by
      have ne := last v.opened (by omega) (Nat.lt_succ_self _)
      rwa [cell, show (v.openStream body frames).cells v.opened = _ from Function.update_self ..] at ne
    refine (downs k ⟨by omega, fun j later below => ?_⟩).openStream_ne eq fresh body frames
    have ne := last j later (Nat.lt_succ_of_lt below)
    rwa [cell, show (v.openStream body frames).cells j = v.cells j from
      Function.update_of_ne (Nat.ne_of_lt below) ..] at ne

namespace Client

/-- A step that fails no stream with a response that must not fail. -/
theorem downloads_step {allowed : Response → Prop} {c : Client} (sound : c.Sealed)
    (wf : WellFormed c.view) (a : Action)
    (spared : Spared allowed (fun id => c.Fails id a) c.view) (downs : Downloads allowed c.view) :
    Downloads allowed (c.step a).view := by
  cases step_cases sound a with
  | quiet steps => exact downs.quiets steps wf spared
  | opens request live staying free same => exact same ▸ downs.openStream _ _
  | uploads n pumping found live positive remaining connection stream frame same =>
      rw [same]
      intro k latest
      have before := (wf.latest_iff ((wf.upload _ _).setPump (busy_of_pump pumping (by simp)) _)
        rfl).mp latest
      exact ((downs k before).upload _ _).setPump _ _
  | finishes pumping found live steps =>
      have wf' := wf.finish (busy_of_pump pumping (by simp))
      refine Downloads.quiets steps wf' (fun _ may => may.elim) fun k latest => ?_
      exact (downs k ((wf.latest_iff wf' rfl).mp latest)).finish _

theorem downloads_connect (allowed : Response → Prop) (options : ConnectOptions) :
    Downloads allowed (connect options).view := by
  obtain ⟨frames, -, same⟩ := view_connect options
  rw [same]
  exact fun k latest => absurd latest.1 (Nat.not_lt_zero k)

/-- Where every response may fail. -/
theorem downloads_after (options : ConnectOptions) (actions : List Action) :
    Downloads (fun _ => True) (Client.after options actions).view :=
  after_invariant (P := fun c => Downloads (fun _ => True) c.view)
    (fun _ a sound wf => downloads_step sound wf a fun _ _ _ _ _ _ _ => trivial)
    (downloads_connect _ options) actions

/-- Whether an event is a DATA frame or a header block with END_STREAM, other than
an interim response. -/
def isEndFrame (id : UInt32) : Event → Bool
  | .data id' _ endStream => id' == id && endStream
  | .block id' headers endStream => id' == id && endStream && !isInterim headers
  | _ => false

/-- Response bodies of every connection with fewer than `2^30` streams: what was
yielded is a prefix of the response; an end without an error before it comes after
the end of the response, and an error after everything received before the failure. -/
theorem download_after (options : ConnectOptions) (actions : List Action) (k : Nat)
    (few : (Client.after options actions).opened < 2 ^ 30)
    (opened : k < (Client.after options actions).opened) :
    let c := Client.after options actions
    let id := (c.cells k).id
    let events := since id c.history
    chunks (c.cells k).yields <+: (response id events).bytes ∧
    (∀ ys zs, (c.cells k).yields = ys ++ .done :: zs → Clean ys →
      (response id events).ended = true ∧ chunks ys = (response id events).bytes) ∧
    (∀ ys err zs, (c.cells k).yields = ys ++ .failed err :: zs →
      ∃ before, before ++ [.failed id] <+: events ∧ chunks ys = (response id before).bytes) := by
  intro c id events
  obtain ⟨before, reading⟩ := downloads_after options actions k
    ((wellFormed_after options actions).latest (Nat.le_of_lt (Nat.lt_trans few (by decide))) opened)
  have isPrefix : before <+: events := reading.isPrefix
  have grows := response_grows id isPrefix
  refine ⟨?_, fun ys zs split clean => ?_, fun ys err zs split => ?_⟩
  · exact List.IsPrefix.trans ⟨_, reading.buffered.bytes⟩ grows.bytes
  · obtain ⟨ended, whole⟩ := reading.buffered.dones ys zs split clean
    obtain ⟨ended', same⟩ := grows.ended ended
    exact ⟨ended', whole.trans same.symm⟩
  · refine ⟨before, reading.failed_of_dirty fun clean => ?_, reading.buffered.failures ys err zs split⟩
    have mem : Yield.failed err ∈ (c.cells k).yields := split ▸ List.mem_append_right _ (.head _)
    exact clean err mem

/-- A response with a body of one byte, trailers with the status 100 and END_STREAM,
and a reader that reads to the end. -/
def interimTrailers : List Action :=
  [.request (.bare .empty), .frame (.headers 1 [0x88] false true none), .pollCall 0,
    .frame (.data 1 [0x61] false),
    .frame (.headers 1 [0x08, 0x03, 0x31, 0x30, 0x30] true true none), .read 0, .read 0]

theorem yields_interimTrailers :
    ((Client.after {} interimTrailers).cells 0).yields = [.chunk [0x61], .done] := by
  decide +kernel

theorem download_after_interimTrailers :
    (Client.after {} interimTrailers).opened < 2 ^ 30 ∧ 0 < (Client.after {} interimTrailers).opened ∧
    (response ((Client.after {} interimTrailers).cells 0).id
      (since ((Client.after {} interimTrailers).cells 0).id
        (Client.after {} interimTrailers).history)).ended = true := by
  have few : (Client.after {} interimTrailers).opened < 2 ^ 30 := by decide +kernel
  have opened : 0 < (Client.after {} interimTrailers).opened := by decide +kernel
  obtain ⟨-, dones, -⟩ := download_after {} interimTrailers 0 few opened
  refine ⟨few, opened, (dones [.chunk [0x61]] [] yields_interimTrailers ?_).1⟩
  simp [Clean]

/-- Trailers end a body even if their status is that of an interim response. -/
theorem not_end_interimTrailers :
    ¬ ∀ (options : ConnectOptions) (actions : List Action) (k : Nat),
      (Client.after options actions).opened < 2 ^ 30 →
      k < (Client.after options actions).opened →
      ∀ ys zs, ((Client.after options actions).cells k).yields = ys ++ .done :: zs → Clean ys →
      ∃ e ∈ since ((Client.after options actions).cells k).id (Client.after options actions).history,
        isEndFrame ((Client.after options actions).cells k).id e = true := by
  intro ends
  have none : ¬ ∃ e ∈ since ((Client.after {} interimTrailers).cells 0).id
      (Client.after {} interimTrailers).history,
      isEndFrame ((Client.after {} interimTrailers).cells 0).id e = true := by decide +kernel
  exact none (ends {} interimTrailers 0 (by decide +kernel) (by decide +kernel) [.chunk [0x61]] []
    yields_interimTrailers (by simp [Clean]))

end Client

end H2ts
