import H2ts.Connection.WellFormed

/-!
# Admission

HEADERS go out only to open a stream, and a stream is opened only while the
connection is there and the peer's limit leaves a slot.

The client keeps what the peer has said last in two fields, its limit and whether
a GOAWAY has come.  `Heard` says that they agree with the history.
-/

namespace H2ts

open History

/-- Whether an event is a GOAWAY. -/
def Event.isGoaway : Event → Bool
  | .goaway _ => true
  | _ => false

/-- Whether an event sets the limit. -/
def Event.isLimit : Event → Bool
  | .limit _ => true
  | _ => false

/-- The limit in force is the last one of the history, and the flag tells whether
it has a GOAWAY. -/
structure Heard (v : View) : Prop where
  limit : v.limit = History.limit v.history
  goaway : v.goaway = v.history.any Event.isGoaway

namespace Heard

variable {v w : View}

theorem limit_append (history : List Event) {events : List Event}
    (unchanged : ∀ e ∈ events, e.isLimit = false) :
    History.limit (history ++ events) = History.limit history := by
  induction events generalizing history with
  | nil => rw [List.append_nil]
  | cons e events ih =>
      have first := unchanged e (.head _)
      have later := ih (history ++ [e]) fun e' mem => unchanged e' (.tail _ mem)
      rw [List.append_assoc] at later
      refine later.trans ((limit_concat history e).trans ?_)
      cases e <;> first | rfl | cases first

/-- A step that records neither a limit nor a GOAWAY. -/
theorem keep (heard : Heard v) (events : List Event)
    (other : ∀ e ∈ events, e.isLimit = false ∧ e.isGoaway = false)
    (history : w.history = v.history ++ events) (limit : w.limit = v.limit)
    (goaway : w.goaway = v.goaway) : Heard w := by
  refine ⟨?_, ?_⟩
  · rw [limit, history, limit_append _ fun e mem => (other e mem).1]
    exact heard.limit
  · have none : events.any Event.isGoaway = false :=
      List.any_eq_false.mpr fun e mem => by simp [(other e mem).2]
    rw [goaway, history, List.any_append, none, Bool.or_false]
    exact heard.goaway

/-- A step that records one event. -/
theorem event (heard : Heard v) {e : Event} (history : w.history = v.history ++ [e])
    (limit : w.limit = v.limit) (goaway : w.goaway = v.goaway)
    (other : e.isLimit = false ∧ e.isGoaway = false) : Heard w :=
  heard.keep [e] (by simpa using other) history limit goaway

theorem remove (heard : Heard v) (id : UInt32) (err : H2Error) : Heard (v.remove id err) := by
  unfold View.remove
  split
  · exact heard
  · exact heard.event rfl rfl rfl ⟨rfl, rfl⟩

theorem block (heard : Heard v) (id : UInt32) (headers : List Hpack.Header) (endStream : Bool) :
    Heard (v.block id headers endStream) := by
  unfold View.block
  split
  · exact heard.event rfl rfl rfl ⟨rfl, rfl⟩
  · split
    · exact heard.event rfl rfl rfl ⟨rfl, rfl⟩
    · exact heard.event rfl rfl rfl ⟨rfl, rfl⟩

theorem data (heard : Heard v) (id : UInt32) (bytes : Bytes) (endStream : Bool) :
    Heard (v.data id bytes endStream) := by
  unfold View.data
  split
  · exact heard.event rfl rfl rfl ⟨rfl, rfl⟩
  · exact heard.event rfl rfl rfl ⟨rfl, rfl⟩

theorem quiet {mayFail : UInt32 → Prop} (step : Quiet mayFail v w) (heard : Heard v) : Heard w := by
  cases step with
  | send frame => exact heard.event rfl rfl rfl ⟨rfl, rfl⟩
  | goaway last =>
      refine ⟨?_, ?_⟩
      · exact heard.limit.trans (limit_concat v.history (.goaway last)).symm
      · simp [View.log, Event.isGoaway]
  | limit n =>
      refine ⟨(limit_concat v.history (.limit n)).symm, ?_⟩
      simpa [View.log, Event.isGoaway] using heard.goaway
  | creditConnection n => exact heard.event rfl rfl rfl ⟨rfl, rfl⟩
  | creditStream id n => exact heard.event rfl rfl rfl ⟨rfl, rfl⟩
  | adjust => exact ⟨heard.limit, heard.goaway⟩
  | shut => exact ⟨heard.limit, heard.goaway⟩
  | fail id err => exact heard.remove id err
  | cut e id err may isCut =>
      refine remove (v := v.log e) (heard.event rfl rfl rfl ?_) id err
      cases e <;> first | exact ⟨rfl, rfl⟩ | cases isCut
  | block id headers endStream => exact heard.block id headers endStream
  | data id bytes endStream => exact heard.data id bytes endStream
  | retire => exact heard.event rfl rfl rfl ⟨rfl, rfl⟩
  | pull => exact ⟨heard.limit, heard.goaway⟩
  | halt => exact ⟨heard.limit, heard.goaway⟩
  | chunk => exact ⟨heard.limit, heard.goaway⟩
  | error => exact ⟨heard.limit, heard.goaway⟩
  | done => exact ⟨heard.limit, heard.goaway⟩
  | listen => exact ⟨heard.limit, heard.goaway⟩

theorem quiets {mayFail : UInt32 → Prop} (steps : Quiets mayFail v w) (heard : Heard v) :
    Heard w := by
  induction steps with
  | refl => exact heard
  | tail _ step ih => exact quiet step ih

/-- A step that records one event and sends frames. -/
theorem sends (heard : Heard v) {e : Event} {frames : List Frame}
    (history : w.history = v.history ++ e :: frames.map .sent) (limit : w.limit = v.limit)
    (goaway : w.goaway = v.goaway) (other : e.isLimit = false ∧ e.isGoaway = false) : Heard w := by
  refine heard.keep _ (fun e' mem => ?_) history limit goaway
  cases mem with
  | head => exact other
  | tail _ later =>
      obtain ⟨frame, -, rfl⟩ := List.mem_map.mp later
      exact ⟨rfl, rfl⟩

end Heard

namespace Client

theorem heard_step {c : Client} (sound : c.Sealed) (a : Action) (heard : Heard c.view) :
    Heard (c.step a).view := by
  cases step_cases sound a with
  | quiet steps => exact heard.quiets steps
  | opens request live staying free same =>
      rw [same]
      exact heard.sends rfl rfl rfl ⟨rfl, rfl⟩
  | uploads n pumping found live positive remaining connection stream frame same =>
      rw [same]
      exact heard.event rfl rfl rfl ⟨rfl, rfl⟩
  | @finishes k s pumping found live steps =>
      refine Heard.quiets steps ?_
      exact heard.event rfl rfl rfl ⟨rfl, rfl⟩

theorem heard_connect (options : ConnectOptions) : Heard (connect options).view := by
  obtain ⟨frames, -, same⟩ := view_connect options
  have fresh : Heard (fresh (options.headerTableSize.getD 4096)).view := ⟨rfl, rfl⟩
  rw [same]
  exact fresh.sends rfl rfl rfl ⟨rfl, rfl⟩

theorem heard_after (options : ConnectOptions) (actions : List Action) :
    Heard (Client.after options actions).view :=
  after_invariant (P := fun c => Heard c.view) (fun _ a sound _ => heard_step sound a)
    (heard_connect options) actions

/-! ## HEADERS -/

/-- A section that sends HEADERS has found the connection there and a slot free. -/
theorem sendHeaders_admitted {c : Client} (sound : c.Sealed) (a : Action) :
    ∃ events, (c.step a).history = c.history ++ events ∧
      ∀ id fragment endStream endHeaders priority,
        .sent (.headers id fragment endStream endHeaders priority) ∈ events →
        c.closed = false ∧ c.goawayReceived = false ∧
        c.activeStreams < c.remote.maxConcurrentStreams.toNat := by
  cases step_cases sound a with
  | quiet steps =>
      obtain ⟨events, history, quiet⟩ := history_quiets steps
      exact ⟨events, history, fun id fragment endStream endHeaders priority mem =>
        nomatch quiet _ mem⟩
  | opens request live staying free same =>
      exact ⟨_, congrArg View.history same, fun id fragment endStream endHeaders priority _ =>
        ⟨live, staying, free⟩⟩
  | uploads n pumping found live positive remaining connection stream frame same =>
      refine ⟨_, congrArg View.history same, fun id fragment endStream endHeaders priority mem => ?_⟩
      simp at mem
  | @finishes k s pumping found live steps =>
      obtain ⟨events, history, quiet⟩ := history_finish steps
      refine ⟨_, history, fun id fragment endStream endHeaders priority mem => ?_⟩
      cases mem with
      | tail _ later => exact nomatch quiet _ later

/-- Admission, in every state and for every section from it. -/
theorem headers_after (options : ConnectOptions) (actions : List Action) (a : Action) :
    let c := Client.after options actions
    ∃ events, (c.step a).history = c.history ++ events ∧
      ∀ id fragment endStream endHeaders priority,
        .sent (.headers id fragment endStream endHeaders priority) ∈ events →
        c.closed = false ∧ (∀ lastStreamId, .goaway lastStreamId ∉ c.history) ∧
        c.activeStreams < (History.limit c.history).toNat := by
  intro c
  have heard := heard_after options actions
  obtain ⟨events, history, admitted⟩ := sendHeaders_admitted (sealed_after options actions) a
  refine ⟨events, history, fun id fragment endStream endHeaders priority mem => ?_⟩
  obtain ⟨live, staying, free⟩ := admitted id fragment endStream endHeaders priority mem
  refine ⟨live, fun lastStreamId received => ?_, ?_⟩
  · have flag := heard.goaway.symm.trans staying
    exact List.any_eq_false.mp flag _ received rfl
  · have same : c.remote.maxConcurrentStreams = History.limit c.history := heard.limit
    rw [← same]
    exact free

end Client

end H2ts
