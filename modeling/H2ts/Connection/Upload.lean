import H2ts.Connection.WellFormed

/-!
# Uploads

The DATA on a stream is the request body, in order.  While the upload runs, what
was sent and what is left make the body.  The END_STREAM comes when nothing is
left, and nothing follows it.

The upload stops early only if its stream has left the map before the END_STREAM
was sent.  `retire_if_fully_closed` does not take such a stream out, so it was cut
off, unserved, or the connection is gone (`Gone`).
-/

namespace H2ts

open History

/-- The bytes of the body that were not sent. -/
def Pump.remaining : Pump → Bytes
  | .pulling rest => rest.flatten
  | .sending chunk offset rest => chunk.drop offset ++ rest.flatten
  | _ => []

/-- An event that adds nothing to a stream we send. -/
structure Silent (id : UInt32) (e : Event) : Prop where
  opened : e ≠ .opened id
  data : isDataOn id e = false
  ends : isEndOn id e = false

/-- The ways a stream is lost: the connection is closed, the stream was cut off, or
it is above the last stream of a GOAWAY. -/
def Gone (v : View) (id : UInt32) : Prop :=
  v.closed = true ∨ (∃ e ∈ since id v.history, isCut id e = true) ∨
    ∃ e ∈ v.history, isGoawayBelow id e = true

/-- No END_STREAM among the events. -/
def Unended (id : UInt32) (events : List Event) : Prop := ∀ e ∈ events, isEndOn id e = false

/-- The whole body was sent, then END_STREAM, and nothing after it. -/
def Completed (id : UInt32) (events : List Event) (body : Bytes) : Prop :=
  ∃ before after, events = before ++ .sent (.data id [] true) :: after ∧
    dataOn id before = body ∧ Unended id before ∧ ∀ e ∈ after, Silent id e

/-- After a cut no DATA is sent. -/
def QuietAfterCut (id : UInt32) (events : List Event) : Prop :=
  ∀ before e after, events = before ++ e :: after → isCut id e = true →
    ∀ e' ∈ after, isDataOn id e' = false

/-- Where the upload of a cell stands. -/
structure Uploading (v : View) (k : Nat) : Prop where
  pending : (v.cells k).pump.unfinished = true →
    dataOn (v.cells k).id (v.events k) ++ (v.cells k).pump.remaining = (v.cells k).body.flatten ∧
      Unended (v.cells k).id (v.events k)
  complete : (v.cells k).pump = .finished true →
    Completed (v.cells k).id (v.events k) (v.cells k).body.flatten
  truncated : (v.cells k).pump = .finished false →
    Gone v (v.cells k).id ∧
      dataOn (v.cells k).id (v.events k) <+: (v.cells k).body.flatten ∧
      Unended (v.cells k).id (v.events k)
  ended : ∀ s, v.streams (v.cells k).id = some s → s.localClosed = true →
    (v.cells k).pump.unfinished = false
  absent : v.streams (v.cells k).id = none → (v.cells k).pump.unfinished = true →
    Gone v (v.cells k).id
  severed : (∃ e ∈ v.events k, isCut (v.cells k).id e = true) → v.streams (v.cells k).id = none
  stopped : QuietAfterCut (v.cells k).id (v.events k)

/-! ## Silent events -/

section

variable {id : UInt32} {history events : List Event}

theorem since_silent (silent : ∀ e ∈ events, Silent id e) :
    since id (history ++ events) = since id history ++ events :=
  since_append history fun mem => (silent _ mem).opened rfl

theorem payloadOn_of_isDataOn {e : Event} (other : isDataOn id e = false) : payloadOn id e = [] := by
  cases e with
  | sent frame =>
      cases frame with
      | data id' bytes endStream =>
          have ne : id' ≠ id := by simpa [isDataOn] using other
          exact if_neg ne
      | _ => rfl
  | _ => rfl

theorem dataOn_silent (silent : ∀ e ∈ events, Silent id e) : dataOn id events = [] :=
  List.flatMap_eq_nil_iff.mpr fun e mem => payloadOn_of_isDataOn (silent e mem).data

theorem Unended.append (unended : Unended id history) (silent : ∀ e ∈ events, Silent id e) :
    Unended id (history ++ events) := by
  intro e mem
  rcases List.mem_append.mp mem with mem | mem
  · exact unended e mem
  · exact (silent e mem).ends

theorem Completed.append {body : Bytes} (completed : Completed id history body)
    (silent : ∀ e ∈ events, Silent id e) : Completed id (history ++ events) body := by
  obtain ⟨before, after, rfl, whole, unended, nothing⟩ := completed
  refine ⟨before, after ++ events, by simp, whole, unended, fun e mem => ?_⟩
  rcases List.mem_append.mp mem with mem | mem
  · exact nothing e mem
  · exact silent e mem

/-- Events without DATA may follow a cut. -/
theorem QuietAfterCut.append (stopped : QuietAfterCut id history)
    (silent : ∀ e ∈ events, isDataOn id e = false) : QuietAfterCut id (history ++ events) := by
  intro before e after split isCut e' mem
  rcases List.append_eq_append_iff.mp split with ⟨middle, rfl, later⟩ | ⟨middle, earlier, later⟩
  · exact silent e' (later ▸ List.mem_append_right _ (.tail _ mem))
  · cases middle with
    | nil =>
        rw [List.nil_append] at later
        exact silent e' (later ▸ .tail _ mem)
    | cons first middle =>
        obtain ⟨rfl, rfl⟩ := List.cons.inj later
        rcases List.mem_append.mp mem with mem | mem
        · exact stopped before e middle earlier isCut e' mem
        · exact silent e' mem

/-- While nothing was cut, anything may follow. -/
theorem QuietAfterCut.of_uncut (uncut : ∀ e ∈ events, isCut id e = false) :
    QuietAfterCut id events := by
  intro before e after split isCut
  have not := uncut e (split ▸ List.mem_append_right _ (.head _))
  exact absurd isCut (by simp [not])

end

/-! ## Steps that leave an upload alone -/

namespace Gone

variable {v w : View} {id : UInt32}

theorem append (gone : Gone v id) {events : List Event} (closed : v.closed = true → w.closed = true)
    (history : w.history = v.history ++ events) (silent : ∀ e ∈ events, Silent id e) :
    Gone w id := by
  rcases gone with down | ⟨e, mem, isCut⟩ | ⟨e, mem, below⟩
  · exact .inl (closed down)
  · refine .inr (.inl ⟨e, ?_, isCut⟩)
    rw [history, since_silent silent]
    exact List.mem_append_left _ mem
  · exact .inr (.inr ⟨e, history ▸ List.mem_append_left _ mem, below⟩)

end Gone

/-- Whether we have ended a stream, if it is in the map. -/
def View.localEnd (v : View) (id : UInt32) : Option Bool := (v.streams id).map StreamView.localClosed

theorem View.localEnd_eq_none {v : View} {id : UInt32} :
    v.localEnd id = none ↔ v.streams id = none :=
  Option.map_eq_none_iff

namespace Uploading

variable {v w : View} {k : Nat}

/-- A step that does not concern the upload.  It may take the stream out of the map
if that is accounted for. -/
theorem keep (up : Uploading v k) (events : List Event)
    (history : w.history = v.history ++ events)
    (silent : ∀ e ∈ events, Silent (v.cells k).id e)
    (id : (w.cells k).id = (v.cells k).id) (pump : (w.cells k).pump = (v.cells k).pump)
    (body : (w.cells k).body = (v.cells k).body)
    (closed : v.closed = true → w.closed = true)
    (streams : w.localEnd (v.cells k).id = v.localEnd (v.cells k).id ∨
      w.streams (v.cells k).id = none ∧
        ((v.cells k).pump.unfinished = true → Gone w (v.cells k).id))
    (severed : (∃ e ∈ events, isCut (v.cells k).id e = true) → w.streams (v.cells k).id = none) :
    Uploading w k := by
  have same : w.events k = v.events k ++ events := by
    rw [View.events, id, history, since_silent silent]
    rfl
  refine ⟨?_, ?_, ?_, ?_, ?_, ?_, ?_⟩
  · rw [pump, same, id, body]
    intro unfinished
    obtain ⟨whole, unended⟩ := up.pending unfinished
    rw [dataOn_append, dataOn_silent silent, List.append_nil]
    exact ⟨whole, unended.append silent⟩
  · rw [pump, same, id, body]
    exact fun finished => (up.complete finished).append silent
  · rw [pump, same, id, body]
    intro finished
    obtain ⟨gone, isPrefix, unended⟩ := up.truncated finished
    rw [dataOn_append, dataOn_silent silent, List.append_nil]
    exact ⟨gone.append closed history silent, isPrefix, unended.append silent⟩
  · rw [pump, id]
    intro s' found closed'
    rcases streams with same | ⟨missing, -⟩
    · have ended : v.localEnd (v.cells k).id = some true := by
        rw [← same, View.localEnd, found, Option.map_some, closed']
      obtain ⟨s, before, sent⟩ := Option.map_eq_some_iff.mp ended
      exact up.ended s before sent
    · rw [missing] at found
      cases found
  · rw [pump, id]
    intro missing unfinished
    rcases streams with same | ⟨-, gone⟩
    · have before := View.localEnd_eq_none.mp (same.symm.trans (View.localEnd_eq_none.mpr missing))
      exact (up.absent before unfinished).append closed history silent
    · exact gone unfinished
  · rw [id, same]
    rintro ⟨e, mem, isCut⟩
    rcases List.mem_append.mp mem with mem | mem
    · rcases streams with same | ⟨missing, -⟩
      · have before := up.severed ⟨e, mem, isCut⟩
        exact View.localEnd_eq_none.mp (same.trans (View.localEnd_eq_none.mpr before))
      · exact missing
    · exact severed ⟨e, mem, isCut⟩
  · rw [id, same]
    exact up.stopped.append fun e mem => (silent e mem).data

/-- A step that keeps the stream in the map. -/
theorem steady (up : Uploading v k) (events : List Event)
    (history : w.history = v.history ++ events)
    (silent : ∀ e ∈ events, Silent (v.cells k).id e ∧ isCut (v.cells k).id e = false)
    (id : (w.cells k).id = (v.cells k).id) (pump : (w.cells k).pump = (v.cells k).pump)
    (body : (w.cells k).body = (v.cells k).body)
    (closed : v.closed = true → w.closed = true)
    (streams : w.localEnd (v.cells k).id = v.localEnd (v.cells k).id) : Uploading w k := by
  refine up.keep events history (fun e mem => (silent e mem).1) id pump body closed (.inl streams) ?_
  rintro ⟨e, mem, isCut⟩
  exact absurd isCut (by simp [(silent e mem).2])

theorem log (up : Uploading v k) {e : Event} (silent : Silent (v.cells k).id e)
    (uncut : isCut (v.cells k).id e = false) : Uploading (v.log e) k :=
  up.steady [e] rfl (by simpa using ⟨silent, uncut⟩) rfl rfl rfl (fun h => h) rfl

/-- A step the upload does not see. -/
theorem still (up : Uploading v k) (history : w.history = v.history)
    (cells : w.cells k = v.cells k) (closed : v.closed = true → w.closed = true)
    (streams : w.localEnd (v.cells k).id = v.localEnd (v.cells k).id) : Uploading w k :=
  up.steady [] (by simp [history]) (by simp) (by rw [cells]) (by rw [cells])
    (by rw [cells]) closed streams

theorem setCell (up : Uploading v k) (j : Nat) {f : CellView → CellView}
    (id : ∀ x, (f x).id = x.id) (pump : ∀ x, (f x).pump = x.pump)
    (body : ∀ x, (f x).body = x.body) : Uploading (v.setCell j f) k := by
  by_cases eq : k = j
  · subst eq
    refine up.steady [] (by simp [View.setCell]) (by simp) ?_ ?_ ?_ (fun h => h) rfl
    · rw [View.setCell_self, id]
    · rw [View.setCell_self, pump]
    · rw [View.setCell_self, body]
  · exact up.still rfl (View.setCell_ne v eq f) (fun h => h) rfl

theorem setStream (up : Uploading v k) (id : UInt32) {f : StreamView → StreamView}
    (same : id = (v.cells k).id → ∀ s, (f s).localClosed = s.localClosed) :
    Uploading (v.setStream id f) k := by
  refine up.still rfl rfl (fun h => h) ?_
  by_cases eq : (v.cells k).id = id
  · rw [View.localEnd, View.localEnd, eq, View.setStream_self, Option.map_map]
    exact congrArg (Option.map · _) (funext (same eq.symm))
  · rw [View.localEnd, View.setStream_ne v eq, View.localEnd]

end Uploading

/-- Most events are silent. -/
theorem Silent.of_quiet (id : UInt32) {e : Event} (quiet : isLoud e = false)
    (opened : ∀ id', e ≠ .opened id') : Silent id e := by
  refine ⟨opened id, ?_, ?_⟩
  · cases e with
    | sent frame => cases frame <;> first | rfl | cases quiet
    | _ => rfl
  · cases e with
    | sent frame => cases frame <;> first | rfl | cases quiet
    | _ => rfl

theorem Silent.of_isCut (id : UInt32) {id' : UInt32} {e : Event} (cut : isCut id' e = true) :
    Silent id e := by
  refine .of_quiet id (isLoud_of_isCut cut) fun _ same => ?_
  rw [same] at cut
  cases cut

theorem eq_of_isCut {id id' : UInt32} {e : Event} (cut : isCut id e = true)
    (cut' : isCut id' e = true) : id = id' := by
  cases e <;> first | cases cut | skip
  all_goals exact (beq_iff_eq.mp cut).symm.trans (beq_iff_eq.mp cut')

namespace Uploading

variable {v w : View} {k : Nat}

/-- A stream is removed, after some events.  If it is the stream of the upload, then
it is lost. -/
theorem remove (up : Uploading v k) (events : List Event) (id : UInt32) (err : H2Error)
    (silent : ∀ e ∈ events, Silent (v.cells k).id e)
    (cut : ∀ e ∈ events, isCut (v.cells k).id e = true → id = (v.cells k).id)
    (gone : id = (v.cells k).id → Gone { v with history := v.history ++ events } (v.cells k).id) :
    Uploading (View.remove { v with history := v.history ++ events } id err) k := by
  unfold View.remove
  split
  next missing =>
    refine up.keep _ rfl silent rfl rfl rfl (fun h => h) (.inl rfl) ?_
    rintro ⟨e, mem, isCut⟩
    exact cut e mem isCut ▸ missing
  next s found =>
    have forgotten : Uploading { v with
        streams := Function.update v.streams id none, history := v.history ++ events } k := by
      refine up.keep _ rfl silent rfl rfl rfl (fun h => h) ?_ ?_
      · by_cases eq : (v.cells k).id = id
        · exact .inr ⟨by simp [eq], fun _ => gone eq.symm⟩
        · exact .inl (by simp [View.localEnd, eq])
      · rintro ⟨e, mem, isCut⟩
        simp [cut e mem isCut]
    have celled := forgotten.setCell s.cell
      (f := fun cell => { cell with recv := cell.recv.fail err }) (fun _ => rfl) (fun _ => rfl)
      fun _ => rfl
    exact celled.log (.of_quiet _ rfl fun _ same => by cases same) rfl

theorem block (up : Uploading v k) (id : UInt32) (headers : List Hpack.Header) (endStream : Bool) :
    Uploading (v.block id headers endStream) k := by
  have silent (id' : UInt32) : Silent id' (.block id headers endStream) :=
    .of_quiet _ rfl fun _ same => by cases same
  unfold View.block
  split
  · exact up.log (silent _) rfl
  · split
    · exact log (setStream up id (by exact fun _ _ => rfl)) (silent _) rfl
    · refine log (setCell ?_ _ ?_ ?_ ?_) (silent _) rfl
      · exact setStream up id (by exact fun _ _ => rfl)
      all_goals exact fun _ => rfl

theorem data (up : Uploading v k) (id : UInt32) (bytes : Bytes) (endStream : Bool) :
    Uploading (v.data id bytes endStream) k := by
  have silent (id' : UInt32) : Silent id' (.data id bytes endStream) :=
    .of_quiet _ rfl fun _ same => by cases same
  unfold View.data
  split
  · exact up.log (silent _) rfl
  · refine log (setCell ?_ _ ?_ ?_ ?_) (silent _) rfl
    · exact setStream up id (by exact fun _ _ => rfl)
    all_goals exact fun _ => rfl

/-- A stream that is retired has sent its END_STREAM. -/
theorem retire (up : Uploading v k) {id : UInt32} {s : StreamView} (found : v.streams id = some s)
    (sent : s.localClosed = true) :
    Uploading ({ v with streams := Function.update v.streams id none }.log (.retired id)) k := by
  have silent : ∀ e ∈ [Event.retired id], Silent (v.cells k).id e := by
    intro e mem
    obtain rfl := List.mem_singleton.mp mem
    exact .of_quiet _ rfl fun _ same => by cases same
  refine up.keep [.retired id] rfl silent rfl rfl rfl (fun h => h) ?_ (by simp [isCut])
  by_cases eq : (v.cells k).id = id
  · refine .inr ⟨by simp [View.log, eq], fun unfinished => ?_⟩
    rw [up.ended s (eq ▸ found) sent] at unfinished
    cases unfinished
  · exact .inl (by simp [View.localEnd, View.log, eq])

/-! ## Steps of the upload -/

/-- The upload moves on and its stream does not. -/
theorem advance (up : Uploading v k) (busy : (v.cells k).pump.unfinished = true) {pump : Pump}
    (unfinished : pump.unfinished = true) (same : pump.remaining = (v.cells k).pump.remaining) :
    Uploading (v.setPump k pump) k := by
  have cell : (v.setPump k pump).cells k = { v.cells k with pump := pump } := View.setCell_self ..
  refine ⟨?_, ?_, ?_, ?_, ?_, ?_, ?_⟩
  · rw [View.events, cell]
    intro _
    rw [same]
    exact up.pending busy
  · rw [View.events, cell]
    rintro rfl
    cases unfinished
  · rw [View.events, cell]
    rintro rfl
    cases unfinished
  · rw [cell]
    intro s found closed
    rw [up.ended s found closed] at busy
    cases busy
  · rw [cell]
    exact fun missing _ => up.absent missing busy
  · rw [View.events, cell]
    exact up.severed
  · rw [View.events, cell]
    exact up.stopped

/-- The upload stops, since its stream is gone. -/
theorem halt (up : Uploading v k) (busy : (v.cells k).pump.unfinished = true)
    (gone : Gone v (v.cells k).id) : Uploading (v.setPump k (.finished false)) k := by
  have cell : (v.setPump k (.finished false)).cells k = { v.cells k with pump := .finished false } :=
    View.setCell_self ..
  obtain ⟨whole, unended⟩ := up.pending busy
  refine ⟨?_, ?_, ?_, ?_, ?_, ?_, ?_⟩
  · rw [cell]
    intro unfinished
    cases unfinished
  · rw [cell]
    intro finished
    cases finished
  · rw [View.events, cell]
    exact fun _ => ⟨gone, ⟨_, whole⟩, unended⟩
  · rw [cell]
    exact fun _ _ _ => rfl
  · rw [cell]
    intro _ unfinished
    cases unfinished
  · rw [View.events, cell]
    exact up.severed
  · rw [View.events, cell]
    exact up.stopped

/-- The upload of another cell moves. -/
theorem setPump_ne (up : Uploading v k) {j : Nat} (ne : k ≠ j) (pump : Pump) :
    Uploading (v.setPump j pump) k :=
  up.still rfl (View.setCell_ne v ne _) (fun h => h) rfl

theorem quiet {mayFail : UInt32 → Prop} (step : Quiet mayFail v w) (wf : WellFormed v)
    (up : Uploading v k) : Uploading w k := by
  -- A step that logs one event, which is neither DATA, END_STREAM nor a cut.
  have logged (u : View) {e : Event} (held : Uploading u k) (loud : isLoud e = false)
      (opened : ∀ id, e ≠ .opened id) (uncut : ∀ id, isCut id e = false) : Uploading (u.log e) k :=
    held.log (.of_quiet _ loud opened) (uncut _)
  have held {u : View} (history : u.history = v.history) (cells : u.cells = v.cells)
      (streams : u.streams = v.streams) (closed : v.closed = true → u.closed = true) :
      Uploading u k :=
    up.still history (by rw [cells]) closed (by rw [View.localEnd, streams, View.localEnd])
  cases step with
  | send frame control =>
      exact logged v up (isLoud_of_isControl control) (by simp) fun _ => rfl
  | goaway last => exact logged _ (held rfl rfl rfl id) rfl (by simp) fun _ => rfl
  | limit n => exact logged _ (held rfl rfl rfl id) rfl (by simp) fun _ => rfl
  | creditConnection n => exact logged _ (held rfl rfl rfl id) rfl (by simp) fun _ => rfl
  | creditStream id n =>
      exact logged _ (up.setStream id (by exact fun _ _ => rfl)) rfl (by simp) fun _ => rfl
  | adjust initial =>
      refine up.still rfl rfl (fun h => h) ?_
      simp only [View.localEnd, View.adjust, Option.map_map]
      rfl
  | shut => exact held rfl rfl rfl fun _ => rfl
  | fail id err may cause =>
      have removed := up.remove [] id err (by simp) (by simp) ?_
      · simpa using removed
      · rintro rfl
        rcases cause with closed | ⟨e, mem, below⟩
        · exact .inl closed
        · exact .inr (.inr ⟨e, by simpa using mem, below⟩)
  | cut e id err may isCut =>
      refine up.remove [e] id err ?_ ?_ ?_
      · simpa using Silent.of_isCut _ isCut
      · simpa using fun isCut' => eq_of_isCut isCut isCut'
      · rintro rfl
        have silent : ∀ e' ∈ [e], Silent (v.cells k).id e' := by
          simpa using Silent.of_isCut _ isCut
        refine .inr (.inl ⟨e, ?_, isCut⟩)
        rw [since_silent silent]
        simp
  | block id headers endStream => exact up.block id headers endStream
  | data id bytes endStream => exact up.data id bytes endStream
  | retire found sent => exact up.retire found sent
  | @pull j chunk rest pulling =>
      by_cases eq : k = j
      · subst eq
        refine up.advance (by rw [pulling]; rfl) ?_ ?_
        · split <;> rfl
        · rw [pulling]
          split
          next empty => simp [Pump.remaining, List.isEmpty_iff.mp empty]
          next => simp [Pump.remaining]
      · exact up.setPump_ne eq _
  | @halt j unfinished gone =>
      by_cases eq : k = j
      · subst eq
        refine up.halt unfinished ?_
        rcases gone with closed | absent
        · exact .inl closed
        · refine up.absent ?_ unfinished
          cases found : v.streams (v.cells k).id with
          | none => rfl
          | some s =>
              -- A stream in the map has its window open.
              have closed := absent s found
              rw [(wf.mapped _ s found).2.2] at closed
              cases closed
      · exact up.setPump_ne eq _
  | chunk => exact up.setCell _ (fun _ => rfl) (fun _ => rfl) fun _ => rfl
  | error => exact up.setCell _ (fun _ => rfl) (fun _ => rfl) fun _ => rfl
  | done => exact up.setCell _ (fun _ => rfl) (fun _ => rfl) fun _ => rfl
  | listen => exact up.setCell _ (fun _ => rfl) (fun _ => rfl) fun _ => rfl

theorem quiets {mayFail : UInt32 → Prop} (steps : Quiets mayFail v w) (wf : WellFormed v)
    (up : Uploading v k) : Uploading w k := by
  induction steps with
  | refl => exact up
  | tail earlier step ih => exact quiet step (wf.quiets earlier) ih

/-- A stream in the map was not cut. -/
theorem uncut (up : Uploading v k) {s : StreamView} (found : v.streams (v.cells k).id = some s) :
    ∀ e ∈ v.events k, isCut (v.cells k).id e = false := by
  intro e mem
  by_contra isCut
  rw [up.severed ⟨e, mem, by simpa using isCut⟩] at found
  cases found

/-- A piece of the body is sent. -/
theorem upload (up : Uploading v k) (busy : (v.cells k).pump.unfinished = true) {s : StreamView}
    (found : v.streams (v.cells k).id = some s) {bytes : Bytes} {pump : Pump}
    (unfinished : pump.unfinished = true)
    (split : bytes ++ pump.remaining = (v.cells k).pump.remaining) :
    Uploading ((v.upload (v.cells k).id bytes).setPump k pump) k := by
  have cell : ((v.upload (v.cells k).id bytes).setPump k pump).cells k =
      { v.cells k with pump := pump } := View.setCell_self ..
  have events : since (v.cells k).id ((v.upload (v.cells k).id bytes).setPump k pump).history =
      v.events k ++ [.sent (.data (v.cells k).id bytes false)] := since_concat_ne _ (by simp)
  have present : ((v.upload (v.cells k).id bytes).setPump k pump).streams (v.cells k).id =
      some { s with window := s.window - Int64.ofInt bytes.length } := by
    refine (View.setStream_self _ _ _).trans ?_
    exact congrArg (Option.map _) found
  have uncut : ∀ e ∈ v.events k ++ [.sent (.data (v.cells k).id bytes false)],
      isCut (v.cells k).id e = false := by
    intro e mem
    rcases List.mem_append.mp mem with mem | mem
    · exact up.uncut found e mem
    · obtain rfl := List.mem_singleton.mp mem
      rfl
  obtain ⟨whole, unended⟩ := up.pending busy
  refine ⟨?_, ?_, ?_, ?_, ?_, ?_, ?_⟩
  · rw [View.events, cell, events]
    refine fun _ => ⟨?_, fun e mem => ?_⟩
    · rw [← whole, ← split]
      simp [payloadOn]
    · rcases List.mem_append.mp mem with mem | mem
      · exact unended e mem
      · obtain rfl := List.mem_singleton.mp mem
        simp [isEndOn]
  · rw [cell]
    rintro rfl
    cases unfinished
  · rw [cell]
    rintro rfl
    cases unfinished
  · rw [cell, present]
    intro s' same closed
    obtain rfl := Option.some.inj same
    rw [up.ended s found closed] at busy
    cases busy
  · rw [cell, present]
    intro missing
    cases missing
  · rw [View.events, cell, events]
    rintro ⟨e, mem, isCut⟩
    exact absurd isCut (by simp [uncut e mem])
  · rw [View.events, cell, events]
    exact .of_uncut uncut

/-- The body is at its end, and the END_STREAM is sent. -/
theorem finish (up : Uploading v k) (drained : (v.cells k).pump = .pulling []) {s : StreamView}
    (found : v.streams (v.cells k).id = some s) : Uploading (v.finish k) k := by
  have cell : (v.finish k).cells k = { v.cells k with pump := .finished true } := by
    simp [View.finish, View.log, View.setPump, View.setCell, View.setStream]
  have events : since (v.cells k).id (v.finish k).history =
      v.events k ++ [.sent (.data (v.cells k).id [] true)] := since_concat_ne _ (by simp)
  have present : (v.finish k).streams (v.cells k).id = some { s with localClosed := true } := by
    refine (View.setStream_self _ _ _).trans ?_
    exact congrArg (Option.map _) found
  have uncut : ∀ e ∈ v.events k ++ [.sent (.data (v.cells k).id [] true)],
      isCut (v.cells k).id e = false := by
    intro e mem
    rcases List.mem_append.mp mem with mem | mem
    · exact up.uncut found e mem
    · obtain rfl := List.mem_singleton.mp mem
      rfl
  obtain ⟨whole, unended⟩ := up.pending (by rw [drained]; rfl)
  refine ⟨?_, ?_, ?_, ?_, ?_, ?_, ?_⟩
  · rw [cell]
    intro unfinished
    cases unfinished
  · rw [View.events, cell, events]
    refine fun _ => ⟨v.events k, [], rfl, ?_, unended, by simp⟩
    rw [drained] at whole
    simpa [Pump.remaining] using whole
  · rw [cell]
    intro finished
    cases finished
  · rw [cell]
    exact fun _ _ _ => rfl
  · rw [cell]
    intro _ unfinished
    cases unfinished
  · rw [View.events, cell, events]
    rintro ⟨e, mem, isCut⟩
    exact absurd isCut (by simp [uncut e mem])
  · rw [View.events, cell, events]
    exact .of_uncut uncut

/-! ## Steps of other streams -/

/-- DATA on another stream. -/
theorem upload_ne (up : Uploading v k) {id : UInt32} (ne : (v.cells k).id ≠ id) (bytes : Bytes) :
    Uploading (v.upload id bytes) k := by
  have spent : Uploading { v with connWindow := v.connWindow - Int64.ofInt bytes.length } k :=
    up.still rfl rfl (fun h => h) rfl
  refine log (setStream spent id (by exact fun _ _ => rfl)) ⟨by simp, ?_, by simp [isEndOn]⟩ rfl
  exact beq_eq_false_iff_ne.mpr (Ne.symm ne)

theorem finish_ne (up : Uploading v k) {j : Nat} (other : k ≠ j)
    (ne : (v.cells k).id ≠ (v.cells j).id) : Uploading (v.finish j) k := by
  refine setPump_ne (v := View.log _ _) (log (setStream up _ ?_) ⟨by simp, ?_, ?_⟩ rfl) other _
  · exact fun same => absurd same.symm ne
  · exact beq_eq_false_iff_ne.mpr (Ne.symm ne)
  · have different := beq_eq_false_iff_ne.mpr (Ne.symm ne)
    exact (Bool.and_true _).trans different

end Uploading

theorem silent_headerFrames (id id' : UInt32) (max : Nat) (block : Bytes) {endStream : Bool}
    (unended : id' = id → endStream = false) :
    ∀ e ∈ (Client.headerFrames id' max block endStream).map Event.sent,
      Silent id e ∧ isCut id e = false := by
  obtain ⟨fragment, endHeaders, rest, same, continuations⟩ :=
    Client.headerFrames_eq id' max block endStream
  intro e mem
  rw [same, List.map_cons] at mem
  cases mem with
  | head =>
      refine ⟨⟨by simp, rfl, ?_⟩, rfl⟩
      by_cases eq : id' = id
      · simp [isEndOn, unended eq]
      · simp [isEndOn, eq]
  | tail _ later =>
      obtain ⟨frame, present, rfl⟩ := List.mem_map.mp later
      obtain ⟨fragment, endHeaders, rfl⟩ := continuations frame present
      exact ⟨⟨by simp, rfl, rfl⟩, rfl⟩

namespace Uploading

variable {v : View} {k : Nat}

/-- Another stream is opened. -/
theorem openStream_ne (up : Uploading v k) (opened : k ≠ v.opened)
    (fresh : v.nextStreamId ≠ (v.cells k).id) (body : RequestBody) (max : Nat) (block : Bytes) :
    Uploading (v.openStream body (Client.headerFrames v.nextStreamId max block body.isEmpty)) k := by
  have cell : (v.openStream body
      (Client.headerFrames v.nextStreamId max block body.isEmpty)).cells k = v.cells k :=
    Function.update_of_ne opened _ _
  refine up.steady (.opened v.nextStreamId ::
    (Client.headerFrames v.nextStreamId max block body.isEmpty).map .sent) rfl (fun e mem => ?_)
    (by rw [cell]) (by rw [cell]) (by rw [cell]) (fun h => h) ?_
  · cases mem with
    | head => exact ⟨⟨by simpa using fresh, rfl, rfl⟩, rfl⟩
    | tail _ later => exact silent_headerFrames _ _ max block (fun same => absurd same fresh) e later
  · simp [View.localEnd, View.openStream, Function.update_of_ne (Ne.symm fresh)]

/-- The stream of the upload is opened. -/
theorem openStream (v : View) (body : RequestBody) (max : Nat) (block : Bytes) :
    Uploading (v.openStream body (Client.headerFrames v.nextStreamId max block body.isEmpty))
      v.opened := by
  generalize frames : Client.headerFrames v.nextStreamId max block body.isEmpty = sent
  have cell : (v.openStream body sent).cells v.opened = ⟨v.nextStreamId, .default,
      if body.isEmpty then .idle else .pulling body.chunks, body.chunks, []⟩ :=
    Function.update_self ..
  have stream : (v.openStream body sent).streams v.nextStreamId =
      some ⟨v.opened, .ofInt v.initialWindow, false, false, body.isEmpty, false⟩ :=
    Function.update_self ..
  have events : since v.nextStreamId (v.openStream body sent).history = sent.map .sent := by
    have split : (v.openStream body sent).history =
        (v.history ++ [.opened v.nextStreamId]) ++ sent.map .sent := by simp [View.openStream]
    rw [split, since_append _ (by simp), since_concat_opened, List.nil_append]
  have unfinished : ((v.openStream body sent).cells v.opened).pump.unfinished = !body.isEmpty := by
    rw [cell]
    cases body.isEmpty <;> rfl
  have uncut : ∀ e ∈ sent.map Event.sent, isCut v.nextStreamId e = false := by
    intro e mem
    obtain ⟨frame, -, rfl⟩ := List.mem_map.mp mem
    rfl
  refine ⟨fun busy => ?_, fun finished => ?_, fun finished => ?_, fun s found closed => ?_,
    fun missing => ?_, fun cut => ?_, ?_⟩
  · have started : body.isEmpty = false := by simpa [unfinished] using busy
    have silent := silent_headerFrames v.nextStreamId v.nextStreamId max block (fun _ => started)
    rw [frames] at silent
    rw [View.events, cell, events, started, dataOn_silent fun e mem => (silent e mem).1]
    exact ⟨rfl, fun e mem => (silent e mem).1.ends⟩
  · rw [cell] at finished
    cases started : body.isEmpty <;> rw [started] at finished <;> cases finished
  · rw [cell] at finished
    cases started : body.isEmpty <;> rw [started] at finished <;> cases finished
  · rw [cell, stream] at found
    obtain rfl := Option.some.inj found
    rw [unfinished]
    exact (congrArg (!·) closed)
  · rw [cell, stream] at missing
    cases missing
  · obtain ⟨e, mem, isCut⟩ := cut
    rw [View.events, cell, events] at mem
    rw [cell] at isCut
    exact absurd isCut (by simp [uncut e mem])
  · rw [View.events, cell, events]
    exact .of_uncut uncut

end Uploading

/-! ## Runs -/

/-- Every upload stands somewhere, as long as ids are unique. -/
def Uploads (v : View) : Prop := v.opened ≤ 2 ^ 30 → ∀ k < v.opened, Uploading v k

namespace Uploads

variable {v w : View}

theorem quiets {mayFail : UInt32 → Prop} (steps : Quiets mayFail v w) (wf : WellFormed v)
    (ups : Uploads v) : Uploads w := by
  intro few k opened
  rw [opened_quiets steps] at few opened
  exact Uploading.quiets steps wf (ups few k opened)

theorem openStream (ups : Uploads v) (wf : WellFormed v) (body : RequestBody) (max : Nat)
    (block : Bytes) :
    Uploads (v.openStream body (Client.headerFrames v.nextStreamId max block body.isEmpty)) := by
  intro few k opened
  have few : v.opened + 1 ≤ 2 ^ 30 := few
  have opened : k < v.opened + 1 := opened
  by_cases eq : k = v.opened
  · subst eq
    exact Uploading.openStream v body max block
  · have earlier : k < v.opened := by omega
    exact (ups (by omega) k earlier).openStream_ne eq (wf.next_ne (by omega) earlier) body max block

end Uploads

/-- A piece is taken off the chunk, and the chunk is left when it is used up. -/
theorem remaining_sending (chunk : Bytes) (offset n : Nat) (rest : List Bytes) :
    (chunk.drop offset).take n ++
        (if offset + n < chunk.length then .sending chunk (offset + n) rest
          else .pulling rest : Pump).remaining =
      (Pump.sending chunk offset rest).remaining := by
  split
  · rw [Pump.remaining, Pump.remaining, ← List.append_assoc, ← List.drop_drop,
      List.take_append_drop]
  next last =>
    rw [Pump.remaining, Pump.remaining, List.take_of_length_le (by rw [List.length_drop]; omega)]

namespace Client

theorem uploads_step {c : Client} (sound : c.Sealed) (wf : WellFormed c.view) (a : Action)
    (ups : Uploads c.view) : Uploads (c.step a).view := by
  cases step_cases sound a with
  | quiet steps => exact ups.quiets steps wf
  | opens request live staying free same => exact same ▸ ups.openStream wf _ _ _
  | @uploads k chunk offset rest s n pumping found live positive remaining connection stream frame
      same =>
      rw [same]
      intro (few : c.view.opened ≤ 2 ^ 30) j opened
      have busy : (c.view.cells k).pump.unfinished = true := by
        change (c.cells k).pump.unfinished = true
        rw [pumping]
        rfl
      by_cases eq : j = k
      · subst eq
        refine (ups few j opened).upload busy (view_streams found) ?_ ?_
        · split <;> rfl
        · change _ = (c.cells j).pump.remaining
          rw [pumping]
          exact remaining_sending chunk offset n rest
      · have ne := wf.id_ne (by omega) opened (wf.opened_of_pump (busy_of_pump pumping (by simp))) eq
        exact ((ups few j opened).upload_ne ne _).setPump_ne eq _
  | @finishes k s pumping found live steps =>
      refine Uploads.quiets steps (wf.finish (busy_of_pump pumping (by simp))) ?_
      intro (few : c.view.opened ≤ 2 ^ 30) j opened
      by_cases eq : j = k
      · subst eq
        exact (ups few j opened).finish pumping (view_streams found)
      · have ne := wf.id_ne (by omega) opened (wf.opened_of_pump (busy_of_pump pumping (by simp))) eq
        exact (ups few j opened).finish_ne eq ne

theorem uploads_connect (options : ConnectOptions) : Uploads (connect options).view := by
  obtain ⟨frames, -, same⟩ := view_connect options
  rw [same]
  exact fun _ k opened => absurd opened (Nat.not_lt_zero k)

theorem uploads_after (options : ConnectOptions) (actions : List Action) :
    Uploads (Client.after options actions).view :=
  after_invariant (P := fun c => Uploads c.view) (fun _ a sound wf => uploads_step sound wf a)
    (uploads_connect options) actions

end Client

/-! ## What an upload keeps -/

/-- Upload integrity for the events of a stream, its body and its pump: what was
sent is a prefix of the body; an END_STREAM completes the body and comes last;
after a cut no DATA is sent; and a pump that has finished has sent the END_STREAM,
or the stream was lost. -/
structure UploadIntegrity (id : UInt32) (events : List Event) (body : Bytes) (pump : Pump)
    (lost : Prop) : Prop where
  isPrefix : dataOn id events <+: body
  ends : ∀ before e after, events = before ++ e :: after → isEndOn id e = true →
    dataOn id (before ++ [e]) = body ∧
      ∀ e' ∈ after, isDataOn id e' = false ∧ isEndOn id e' = false
  stops : ∀ before e after, events = before ++ e :: after → isCut id e = true →
    ∀ e' ∈ after, isDataOn id e' = false
  finishes : ∀ endStream, pump = .finished endStream →
    (∃ e ∈ events, isEndOn id e = true) ∨ lost

/-- The END_STREAM is the one that completed the body. -/
theorem Completed.ends {id : UInt32} {events : List Event} {body : Bytes}
    (completed : Completed id events body) {before after : List Event} {e : Event}
    (split : events = before ++ e :: after) (ends : isEndOn id e = true) :
    dataOn id (before ++ [e]) = body ∧
      ∀ e' ∈ after, isDataOn id e' = false ∧ isEndOn id e' = false := by
  obtain ⟨earlier, later, same, whole, unended, nothing⟩ := completed
  have found : dataOn id (earlier ++ [.sent (.data id [] true)]) = body ∧
      ∀ e' ∈ later, isDataOn id e' = false ∧ isEndOn id e' = false := by
    refine ⟨?_, fun e' mem => ⟨(nothing e' mem).data, (nothing e' mem).ends⟩⟩
    simpa [payloadOn] using whole
  -- Elsewhere there is no END_STREAM: not before it and not after it.
  rcases List.append_eq_append_iff.mp (same.symm.trans split) with ⟨middle, here, there⟩ |
    ⟨middle, here, there⟩
  · cases middle with
    | nil =>
        obtain ⟨rfl, rfl⟩ := List.cons.inj there
        rw [List.append_nil] at here
        exact here ▸ found
    | cons first middle =>
        obtain ⟨-, rfl⟩ := List.cons.inj there
        have silent := nothing e (List.mem_append_right _ (.head _))
        exact absurd ends (by simp [silent.ends])
  · cases middle with
    | nil =>
        obtain ⟨rfl, rfl⟩ := List.cons.inj there
        rw [List.append_nil] at here
        exact here ▸ found
    | cons first middle =>
        obtain ⟨rfl, -⟩ := List.cons.inj there
        have not := unended e (here ▸ List.mem_append_right _ (.head _))
        exact absurd ends (by simp [not])

theorem Unended.ends {id : UInt32} {events : List Event} (unended : Unended id events)
    {before after : List Event} {e : Event} (split : events = before ++ e :: after) :
    ¬ isEndOn id e = true := by
  have not := unended e (split ▸ List.mem_append_right _ (.head _))
  simp [not]

theorem Uploading.integrity {v : View} {k : Nat} (up : Uploading v k)
    (busy : (v.cells k).pump ≠ .idle) :
    UploadIntegrity (v.cells k).id (v.events k) (v.cells k).body.flatten (v.cells k).pump
      (Gone v (v.cells k).id) := by
  have running (unfinished : (v.cells k).pump.unfinished = true) :
      UploadIntegrity (v.cells k).id (v.events k) (v.cells k).body.flatten (v.cells k).pump
        (Gone v (v.cells k).id) := by
    obtain ⟨whole, unended⟩ := up.pending unfinished
    refine ⟨⟨_, whole⟩, fun before e after split ends => absurd ends (unended.ends split),
      up.stopped, fun endStream finished => ?_⟩
    rw [finished] at unfinished
    cases unfinished
  cases pump : (v.cells k).pump with
  | idle => exact absurd pump busy
  | pulling rest => exact pump ▸ running (by rw [pump]; rfl)
  | sending chunk offset rest => exact pump ▸ running (by rw [pump]; rfl)
  | finished endStream =>
      cases endStream with
      | true =>
          have completed := up.complete pump
          refine ⟨?_, fun before e after split ends => completed.ends split ends, up.stopped, ?_⟩
          · obtain ⟨before, after, same, whole, -, nothing⟩ := completed
            rw [same, dataOn_append, whole, ← List.singleton_append, dataOn_append,
              dataOn_silent nothing]
            simp [payloadOn]
          · obtain ⟨before, after, same, -⟩ := completed
            refine fun _ _ => .inl ⟨.sent (.data (v.cells k).id [] true), ?_, by simp [isEndOn]⟩
            rw [same]
            exact List.mem_append_right _ (.head _)
      | false =>
          obtain ⟨gone, isPrefix, unended⟩ := up.truncated pump
          exact ⟨isPrefix, fun before e after split ends => absurd ends (unended.ends split),
            up.stopped, fun _ _ => .inr gone⟩

end H2ts
