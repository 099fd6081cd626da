import H2ts.Connection.WellFormed

/-!
# Send-side flow control

A window is the difference of what the peer has granted and what was sent, in the
arithmetic of an `i64` (`Ledger`).  For the connection the grant starts at 65535.  For a stream it starts
at the initial window, which the peer may change at any time, and the change moves
the window of every stream in the map.

Most abstract steps leave windows alone and record nothing that counts
(`Ledger.keep`).  What remains are the credits, the change of the initial window,
the opening of a stream and the sending of DATA.
-/

namespace H2ts

open History

/-- What was granted to the connection less what was sent on it. -/
def connBalance (history : List Event) : Int :=
  SPEC_INITIAL_WINDOW + credited 0 history - (allData history).length

/-- What was granted to a stream since it was opened less what was sent on it. -/
def streamBalance (initial : Int) (id : UInt32) (history : List Event) : Int :=
  initial + credited id (since id history) - (dataOn id (since id history)).length

/-- Windows are the words of what was granted less what was sent. -/
structure Ledger (v : View) : Prop where
  connection : v.connWindow = .ofInt (connBalance v.history)
  stream : ∀ id s, v.streams id = some s →
    s.window = .ofInt (streamBalance v.initialWindow id v.history)

/-! ## Events that do not count -/

/-- An event that moves no window. -/
def Event.isNeutral : Event → Bool
  | .credit .. => false
  | .opened _ => false
  | .sent (.data _ bytes _) => bytes.isEmpty
  | _ => true

theorem credited_neutral {events : List Event} (neutral : ∀ e ∈ events, e.isNeutral = true)
    (id : UInt32) : credited id events = 0 := by
  refine List.sum_eq_zero fun n mem => ?_
  obtain ⟨e, present, rfl⟩ := List.mem_map.mp mem
  have isNeutral := neutral e present
  cases e <;> first | rfl | cases isNeutral

theorem payload_neutral {e : Event} (neutral : e.isNeutral = true) :
    payload e = [] ∧ ∀ id, payloadOn id e = [] := by
  cases e with
  | sent frame =>
      cases frame with
      | data id bytes endStream =>
          obtain rfl := List.isEmpty_iff.mp neutral
          exact ⟨rfl, fun id' => by simp [payloadOn]⟩
      | _ => exact ⟨rfl, fun _ => rfl⟩
  | _ => exact ⟨rfl, fun _ => rfl⟩

theorem allData_neutral {events : List Event} (neutral : ∀ e ∈ events, e.isNeutral = true) :
    allData events = [] :=
  List.flatMap_eq_nil_iff.mpr fun e mem => (payload_neutral (neutral e mem)).1

theorem dataOn_neutral {events : List Event} (neutral : ∀ e ∈ events, e.isNeutral = true)
    (id : UInt32) : dataOn id events = [] :=
  List.flatMap_eq_nil_iff.mpr fun e mem => (payload_neutral (neutral e mem)).2 id

theorem not_opened_of_neutral {events : List Event} (neutral : ∀ e ∈ events, e.isNeutral = true)
    (id : UInt32) : .opened id ∉ events := by
  intro mem
  cases neutral _ mem

/-- The frames of a header block carry no DATA. -/
theorem neutral_headerFrames (id : UInt32) (max : Nat) (block : Bytes) (endStream : Bool) :
    ∀ e ∈ (Client.headerFrames id max block endStream).map Event.sent, e.isNeutral = true := by
  obtain ⟨fragment, endHeaders, rest, same, continuations⟩ :=
    Client.headerFrames_eq id max block endStream
  intro e mem
  rw [same, List.map_cons] at mem
  cases mem with
  | head => rfl
  | tail _ later =>
      obtain ⟨frame, present, rfl⟩ := List.mem_map.mp later
      obtain ⟨fragment, endHeaders, rfl⟩ := continuations frame present
      rfl

/-! ## Steps -/

/-- The two states of a stream have the same window. -/
def SameWindow (s s' : StreamView) : Prop := s'.window = s.window

theorem SameWindow.refl (s : StreamView) : SameWindow s s := rfl

namespace Ledger

variable {v w : View}

/-- Windows that stay, and events that do not count. -/
theorem keep (ledger : Ledger v) (events : List Event)
    (neutral : ∀ e ∈ events, e.isNeutral = true)
    (history : w.history = v.history ++ events) (connection : w.connWindow = v.connWindow)
    (initial : w.initialWindow = v.initialWindow)
    (streams : View.Carries SameWindow v w) : Ledger w := by
  refine ⟨?_, fun id s' found => ?_⟩
  · rw [connection, history, ledger.connection, connBalance, connBalance, credited_append,
      credited_neutral neutral, allData_append, allData_neutral neutral, List.append_nil,
      Nat.add_zero]
  · obtain ⟨s, before, same⟩ := streams id s' found
    rw [show s'.window = s.window from same, ledger.stream id s before, initial, history,
      streamBalance, streamBalance, since_append _ (not_opened_of_neutral neutral id), credited_append,
      credited_neutral neutral, dataOn_append, dataOn_neutral neutral, List.append_nil,
      Nat.add_zero]

/-- A step that records nothing. -/
theorem still (ledger : Ledger v) (history : w.history = v.history)
    (connection : w.connWindow = v.connWindow) (initial : w.initialWindow = v.initialWindow)
    (streams : View.Carries SameWindow v w) : Ledger w :=
  ledger.keep [] (by simp) (by simp [history]) connection initial streams

theorem setCell (ledger : Ledger v) (k : Nat) (f : CellView → CellView) : Ledger (v.setCell k f) :=
  ledger.still rfl rfl rfl (.of_eq SameWindow.refl rfl)

theorem log (ledger : Ledger v) {e : Event} (neutral : e.isNeutral = true) : Ledger (v.log e) :=
  ledger.keep [e] (by simpa using neutral) rfl rfl rfl (.of_eq SameWindow.refl rfl)

/-- A change of a stream that is not one of its window. -/
theorem setStream (ledger : Ledger v) (id : UInt32) {f : StreamView → StreamView}
    (same : ∀ s, (f s).window = s.window) : Ledger (v.setStream id f) :=
  ledger.still rfl rfl rfl (.setStream SameWindow.refl v id same)

theorem forget (ledger : Ledger v) (id : UInt32) :
    Ledger { v with streams := Function.update v.streams id none } :=
  ledger.still rfl rfl rfl (.forget SameWindow.refl v id)

theorem remove (ledger : Ledger v) (id : UInt32) (err : H2Error) : Ledger (v.remove id err) := by
  unfold View.remove
  split
  · exact ledger
  · exact log (setCell (ledger.forget id) _ _) rfl

theorem block (ledger : Ledger v) (id : UInt32) (headers : List Hpack.Header) (endStream : Bool) :
    Ledger (v.block id headers endStream) := by
  unfold View.block
  split
  · exact ledger.log rfl
  · split
    · exact log (setStream ledger id (by simp)) rfl
    · exact log (setCell (setStream ledger id (by simp)) _ _) rfl

theorem data (ledger : Ledger v) (id : UInt32) (bytes : Bytes) (endStream : Bool) :
    Ledger (v.data id bytes endStream) := by
  unfold View.data
  split
  · exact ledger.log rfl
  · exact log (setCell (setStream ledger id (by simp)) _ _) rfl

/-- A stream is never the connection, so its ledger does not see the credit. -/
theorem creditConnection (ledger : Ledger v) (wf : WellFormed v) (n : UInt32) :
    Ledger ({ v with connWindow := v.connWindow + Int64.ofInt n.toNat }.log (.credit 0 n)) := by
  refine ⟨?_, fun id s found => ?_⟩
  · simp only [View.log, connBalance, credited_append, credited_singleton, creditOf, if_true,
      allData_append, allData_singleton, payload, List.append_nil]
    rw [ledger.connection, ← Int64.ofInt_add, connBalance]
    congr 1
    omega
  · have nonzero : 0 ≠ id := by
      rintro rfl
      cases wf.mapped_zero.symm.trans found
    have before := ledger.stream id s found
    simp only [View.log, streamBalance, since_concat_ne v.history (e := .credit 0 n) (by simp),
      credited_append, credited_singleton, creditOf, if_neg nonzero, dataOn_append,
      dataOn_singleton, payloadOn, List.append_nil, Nat.add_zero, before]

theorem creditStream (ledger : Ledger v) {id : UInt32} (n : UInt32) (nonzero : id ≠ 0) :
    Ledger ((v.setStream id fun s => { s with window := s.window + Int64.ofInt n.toNat }).log
      (.credit id n)) := by
  refine ⟨?_, fun id' s' found => ?_⟩
  · simpa [View.log, View.setStream, connBalance, creditOf, nonzero, payload] using ledger.connection
  · change (v.setStream id _).streams id' = some s' at found
    simp only [View.log, View.setStream, streamBalance, since_concat_ne v.history (e := .credit id n)
      (show _ ≠ Event.opened id' by simp), credited_append, credited_singleton, creditOf,
      dataOn_append, dataOn_singleton, payloadOn, List.append_nil]
    by_cases eq : id' = id
    · subst eq
      rw [View.setStream_self] at found
      obtain ⟨s, before, rfl⟩ := Option.map_eq_some_iff.mp found
      simp only [if_true]
      rw [ledger.stream id' s before, ← Int64.ofInt_add, streamBalance]
      congr 1
      omega
    · rw [View.setStream_ne v eq] at found
      rw [if_neg (Ne.symm eq), Nat.add_zero]
      exact ledger.stream id' s' found

/-- The change of the initial window moves the windows and their grant alike. -/
theorem adjust (ledger : Ledger v) (initial : Int) : Ledger (v.adjust initial) := by
  refine ⟨ledger.connection, fun id s' found => ?_⟩
  obtain ⟨s, before, rfl⟩ := Option.map_eq_some_iff.mp found
  simp only [View.adjust, streamBalance]
  rw [ledger.stream id s before, ← Int64.ofInt_add, streamBalance]
  congr 1
  omega

theorem quiet {mayFail : UInt32 → Prop} (step : Quiet mayFail v w) (wf : WellFormed v)
    (ledger : Ledger v) : Ledger w := by
  cases step with
  | send frame control live =>
      refine ledger.log ?_
      cases frame <;> first | rfl | cases control
  | goaway lastStreamId =>
      exact log (v := { v with goaway := true })
        (ledger.still rfl rfl rfl (.of_eq SameWindow.refl rfl)) rfl
  | limit n =>
      exact log (v := { v with limit := n })
        (ledger.still rfl rfl rfl (.of_eq SameWindow.refl rfl)) rfl
  | creditConnection n => exact ledger.creditConnection wf n
  | creditStream id n nonzero => exact ledger.creditStream n nonzero
  | adjust initial => exact ledger.adjust initial
  | shut => exact ledger.still rfl rfl rfl (.of_eq SameWindow.refl rfl)
  | fail id err => exact ledger.remove id err
  | cut e id err may isCut =>
      refine (ledger.log ?_).remove id err
      cases e <;> first | rfl | cases isCut
  | block id headers endStream => exact ledger.block id headers endStream
  | data id bytes endStream => exact ledger.data id bytes endStream
  | retire => exact (ledger.forget _).log rfl
  | pull => exact ledger.setCell _ _
  | halt => exact ledger.setCell _ _
  | chunk => exact ledger.setCell _ _
  | error => exact ledger.setCell _ _
  | done => exact ledger.setCell _ _
  | listen => exact ledger.setCell _ _

theorem quiets {mayFail : UInt32 → Prop} (steps : Quiets mayFail v w) (wf : WellFormed v)
    (ledger : Ledger v) : Ledger w := by
  induction steps with
  | refl => exact ledger
  | tail earlier step ih => exact quiet step (wf.quiets earlier) ih

/-- A new stream starts with the initial window and an empty ledger. -/
theorem openStream (ledger : Ledger v) (body : RequestBody) {frames : List Frame}
    (neutral : ∀ e ∈ frames.map Event.sent, e.isNeutral = true) :
    Ledger (v.openStream body frames) := by
  have opened : Ledger (v.openStream body []) := by
    refine ⟨?_, fun id s found => ?_⟩
    · simpa [View.openStream, connBalance, creditOf, payload] using ledger.connection
    · by_cases eq : id = v.nextStreamId
      · subst eq
        simp only [View.openStream, Function.update_self, Option.some.injEq] at found
        subst found
        simp [View.openStream, streamBalance, since_concat_opened]
      · simp only [View.openStream, Function.update_of_ne eq] at found
        have ne : Event.opened v.nextStreamId ≠ .opened id := by simpa using Ne.symm eq
        have balance := ledger.stream id s found
        simpa [View.openStream, streamBalance, since_concat_ne v.history ne, creditOf, payloadOn]
          using balance
  exact opened.keep _ neutral (by simp [View.openStream]) rfl rfl (.of_eq SameWindow.refl rfl)

/-- DATA is taken from both windows. -/
theorem upload (ledger : Ledger v) (id : UInt32) (bytes : Bytes) : Ledger (v.upload id bytes) := by
  refine ⟨?_, fun id' s' found => ?_⟩
  · simp only [View.upload, View.log, View.setStream, connBalance, credited_append,
      credited_singleton, creditOf, allData_append, allData_singleton, payload, List.length_append]
    rw [ledger.connection, ← Int64.ofInt_sub, connBalance]
    congr 1
    omega
  · change (View.setStream _ id _).streams id' = some s' at found
    simp only [View.upload, View.log, View.setStream, streamBalance,
      since_concat_ne v.history (e := .sent (.data id bytes false))
        (show _ ≠ Event.opened id' by simp), credited_append, credited_singleton, creditOf,
      dataOn_append, dataOn_singleton, payloadOn, List.length_append]
    by_cases eq : id' = id
    · subst eq
      rw [View.setStream_self] at found
      obtain ⟨s, before, rfl⟩ := Option.map_eq_some_iff.mp found
      simp only [if_true]
      rw [ledger.stream id' s before, ← Int64.ofInt_sub, streamBalance]
      congr 1
      omega
    · rw [View.setStream_ne _ eq] at found
      have balance := ledger.stream id' s' found
      rw [if_neg (Ne.symm eq)]
      simpa [streamBalance] using balance

theorem finish (ledger : Ledger v) (k : Nat) : Ledger (v.finish k) :=
  log (setCell (setStream ledger _ (by simp)) k _) rfl

end Ledger

namespace Client

theorem ledger_step {c : Client} (sound : c.Sealed) (wf : WellFormed c.view) (a : Action)
    (ledger : Ledger c.view) : Ledger (c.step a).view := by
  cases step_cases sound a with
  | quiet steps => exact ledger.quiets steps wf
  | opens request live staying free same =>
      rw [same]
      exact ledger.openStream _ (neutral_headerFrames _ _ _ _)
  | uploads n pumping found live positive remaining connection stream frame same =>
      rw [same]
      exact (ledger.upload _ _).setCell _ _
  | finishes pumping found live steps =>
      exact (ledger.finish _).quiets steps (wf.finish (busy_of_pump pumping (by simp)))

/-- What a connection begins with counts for no window. -/
theorem neutral_connect (options : ConnectOptions) :
    ∀ e ∈ (connect options).history, e.isNeutral = true := by
  obtain ⟨frames, control, same⟩ := view_connect options
  have history : (connect options).history = .preface CONNECTION_PREFACE :: frames.map .sent :=
    congrArg View.history same
  rw [history]
  intro e mem
  cases mem with
  | head => rfl
  | tail _ later =>
      obtain ⟨frame, present, rfl⟩ := List.mem_map.mp later
      have isControl := control frame present
      cases frame <;> first | rfl | cases isControl

theorem ledger_connect (options : ConnectOptions) : Ledger (connect options).view := by
  obtain ⟨frames, -, same⟩ := view_connect options
  have history : (connect options).history = .preface CONNECTION_PREFACE :: frames.map .sent :=
    congrArg View.history same
  have fresh : Ledger (fresh (options.headerTableSize.getD 4096)).view := by
    refine ⟨rfl, fun id s found => ?_⟩
    simp [view, Client.fresh] at found
  have neutral := neutral_connect options
  rw [history] at neutral
  rw [same]
  exact fresh.keep _ neutral rfl rfl rfl (.of_eq SameWindow.refl rfl)

/-- In every run, whatever the peer grants, each window is the word of its balance. -/
theorem ledger_after (options : ConnectOptions) (actions : List Action) :
    Ledger (Client.after options actions).view :=
  after_invariant (P := fun c => Ledger c.view) (fun _ a sound wf => ledger_step sound wf a)
    (ledger_connect options) actions

/-- A section that sends DATA bytes records nothing else, and the bytes fit into
both windows and a frame. -/
theorem sendData_fits {c : Client} (sound : c.Sealed) (a : Action) :
    ∃ events, (c.step a).history = c.history ++ events ∧
      ∀ id bytes endStream, .sent (.data id bytes endStream) ∈ events → bytes ≠ [] →
        events = [.sent (.data id bytes endStream)] ∧
        (bytes.length : Int) ≤ c.connSendWindow.value ∧
        (∃ s, c.streams.lookup id = some s ∧ (bytes.length : Int) ≤ s.sendWindow.value) ∧
        bytes.length ≤ c.remote.maxFrameSize := by
  cases step_cases sound a with
  | quiet steps =>
      obtain ⟨events, history, quiet⟩ := history_quiets steps
      exact ⟨events, history, fun id bytes endStream mem _ => nomatch quiet _ mem⟩
  | opens request live staying free same =>
      refine ⟨_, congrArg View.history same, fun id bytes endStream mem nonempty => ?_⟩
      cases mem with
      | tail _ later =>
          have neutral := neutral_headerFrames _ _ _ _ _ later
          exact absurd (List.isEmpty_iff.mp neutral) nonempty
  | @uploads k chunk offset rest s n pumping found live positive remaining connection stream frame
      same =>
      have length : ((chunk.drop offset).take n).length = n := by
        rw [List.length_take, List.length_drop]
        omega
      refine ⟨_, congrArg View.history same, fun id bytes endStream mem _ => ?_⟩
      obtain ⟨rfl, rfl, rfl⟩ : id = (c.cells k).id ∧ bytes = (chunk.drop offset).take n ∧
          endStream = false := by simpa using mem
      rw [length]
      exact ⟨rfl, connection, ⟨s, found, stream⟩, frame⟩
  | @finishes k s pumping found live steps =>
      obtain ⟨events, history, quiet⟩ := history_finish steps
      refine ⟨_, history, fun id bytes endStream mem nonempty => ?_⟩
      cases mem with
      | head => exact absurd rfl nonempty
      | tail _ later => exact nomatch quiet _ later

end Client

end H2ts
