import H2ts.Connection.Teardown
import H2ts.Connection.Upload

/-!
# Whose body a stream uploads

A body has a content, however it comes in chunks.  A stream is opened in a section of the call
that made its request, at once or after the call has waited for a slot (`Booked`).  So what is
uploaded on a stream is the content of the body that the caller gave (`upload_after`).

The steps of the abstract connection other than the opening of a stream leave the bodies
alone (`View.Keeps`).
-/

namespace H2ts

open Hpack History

/-- The bytes of a body. -/
def RequestBody.content : RequestBody → Bytes
  | empty => []
  | bytes buffer => buffer
  | stream chunks => chunks.flatten

theorem RequestBody.flatten_chunks (body : RequestBody) : body.chunks.flatten = body.content := by
  cases body with
  | empty => rfl
  | bytes buffer => exact List.append_nil buffer
  | stream chunks => rfl

/-! ## Steps that open no stream -/

/-- No stream is opened, no body changes, and no upload begins. -/
structure View.Keeps (v w : View) : Prop where
  opened : w.opened = v.opened
  streams : ∀ id, v.streams id = none → w.streams id = none
  body : ∀ k, (w.cells k).body = (v.cells k).body
  idle : ∀ k, (w.cells k).pump = .idle ↔ (v.cells k).pump = .idle
  history : ∃ events, w.history = v.history ++ events ∧ ∀ id, Event.opened id ∉ events

namespace View.Keeps

variable {u v w : View}

/-- Only streams, and not into the map. -/
theorem still (opened : w.opened = v.opened) (cells : w.cells = v.cells)
    (history : w.history = v.history) (streams : ∀ id, v.streams id = none → w.streams id = none) :
    Keeps v w := by
  refine ⟨opened, streams, fun k => ?_, fun k => ?_, [], by rw [history, List.append_nil], by simp⟩
  · rw [cells]
  · rw [cells]

theorem refl (v : View) : Keeps v v := still rfl rfl rfl fun _ none => none

theorem trans (first : Keeps u v) (later : Keeps v w) : Keeps u w := by
  obtain ⟨events, history, silent⟩ := first.history
  obtain ⟨events', history', silent'⟩ := later.history
  refine ⟨later.opened.trans first.opened, fun id none => later.streams id (first.streams id none),
    fun k => (later.body k).trans (first.body k), fun k => (later.idle k).trans (first.idle k),
    events ++ events', ?_, fun id mem => ?_⟩
  · rw [history', history, List.append_assoc]
  · rcases List.mem_append.mp mem with mem | mem
    · exact silent id mem
    · exact silent' id mem

theorem log (v : View) {e : Event} (other : ∀ id, e ≠ .opened id) : Keeps v (v.log e) := by
  refine ⟨rfl, fun _ none => none, fun _ => rfl, fun _ => .rfl, [e], rfl, fun id mem => ?_⟩
  exact other id (List.mem_singleton.mp mem).symm

theorem setCell (v : View) (k : Nat) {f : CellView → CellView}
    (body : (f (v.cells k)).body = (v.cells k).body)
    (idle : (f (v.cells k)).pump = .idle ↔ (v.cells k).pump = .idle) : Keeps v (v.setCell k f) := by
  refine ⟨rfl, fun _ none => none, fun j => ?_, fun j => ?_, [], by simp [View.setCell], by simp⟩
  · by_cases eq : j = k
    · rw [eq, View.setCell_self, body]
    · rw [View.setCell_ne v eq]
  · by_cases eq : j = k
    · rw [eq, View.setCell_self, idle]
    · rw [View.setCell_ne v eq]

theorem setPump (v : View) {k : Nat} (busy : (v.cells k).pump ≠ .idle) {pump : Pump}
    (busy' : pump ≠ .idle) : Keeps v (v.setPump k pump) :=
  setCell v k rfl ⟨fun idle => absurd idle busy', fun idle => absurd idle busy⟩

theorem setStream (v : View) (id : UInt32) (f : StreamView → StreamView) :
    Keeps v (v.setStream id f) := by
  refine still rfl rfl rfl fun id' none => ?_
  by_cases eq : id' = id
  · rw [eq, View.setStream_self, ← eq, none, Option.map_none]
  · rw [View.setStream_ne v eq, none]

theorem forget (v : View) (id : UInt32) :
    Keeps v { v with streams := Function.update v.streams id none } := by
  refine still rfl rfl rfl fun id' none => ?_
  by_cases eq : id' = id
  · simp [eq]
  · simp only [Function.update_of_ne eq, none]

theorem remove (v : View) (id : UInt32) (err : H2Error) : Keeps v (v.remove id err) := by
  unfold View.remove
  split
  · exact refl v
  · exact ((forget v id).trans (setCell _ _ rfl .rfl)).trans (log _ (by simp))

theorem block (v : View) (id : UInt32) (headers : List Hpack.Header) (endStream : Bool) :
    Keeps v (v.block id headers endStream) := by
  unfold View.block
  split
  · exact log v (by simp)
  · split
    · exact (setStream v id _).trans (log _ (by simp))
    · exact ((setStream v id _).trans (setCell _ _ rfl .rfl)).trans (log _ (by simp))

theorem data (v : View) (id : UInt32) (bytes : Bytes) (endStream : Bool) :
    Keeps v (v.data id bytes endStream) := by
  unfold View.data
  split
  · exact log v (by simp)
  · exact ((setStream v id _).trans (setCell _ _ rfl .rfl)).trans (log _ (by simp))

theorem quiet {mayFail : UInt32 → Prop} (step : Quiet mayFail v w) : Keeps v w := by
  cases step with
  | send frame control live => exact log v (by simp)
  | goaway lastStreamId =>
      have marked : Keeps v { v with goaway := true } := still rfl rfl rfl fun _ none => none
      exact marked.trans (log _ (by simp))
  | limit n =>
      have set : Keeps v { v with limit := n } := still rfl rfl rfl fun _ none => none
      exact set.trans (log _ (by simp))
  | creditConnection n =>
      have raised : Keeps v { v with connWindow := v.connWindow + Int64.ofInt n.toNat } :=
        still rfl rfl rfl fun _ none => none
      exact raised.trans (log _ (by simp))
  | creditStream id n nonzero => exact (setStream v id _).trans (log _ (by simp))
  | adjust initial =>
      refine still rfl rfl rfl fun id none => ?_
      simp only [View.adjust, none, Option.map_none]
  | shut => exact still rfl rfl rfl fun _ none => none
  | fail id err may cause => exact remove v id err
  | cut e id err may isCut =>
      refine (log v fun id' opens => ?_).trans (remove _ id err)
      rw [opens] at isCut
      cases isCut
  | block id headers endStream nobody => exact block v id headers endStream
  | data id bytes endStream nobody => exact data v id bytes endStream
  | retire found sent received => exact (forget v _).trans (log _ (by simp))
  | @pull k chunk rest pulling =>
      refine setPump v (by rw [pulling]; simp) ?_
      split <;> simp
  | halt unfinished gone =>
      refine setPump v (fun idle => ?_) (by simp)
      rw [idle] at unfinished
      cases unfinished
  | chunk queued => exact setCell v _ rfl .rfl
  | error drained failed => exact setCell v _ rfl .rfl
  | done drained sound ended => exact setCell v _ rfl .rfl
  | listen => exact setCell v _ rfl .rfl

theorem quiets {mayFail : UInt32 → Prop} (steps : Quiets mayFail v w) : Keeps v w := by
  induction steps with
  | refl => exact refl v
  | tail _ step ih => exact ih.trans (quiet step)

theorem upload (v : View) (id : UInt32) (bytes : Bytes) : Keeps v (v.upload id bytes) := by
  have spent : Keeps v { v with connWindow := v.connWindow - Int64.ofInt bytes.length } :=
    still rfl rfl rfl fun _ none => none
  exact (spent.trans (setStream _ id _)).trans (log _ (by simp))

theorem finish (v : View) {k : Nat} (busy : (v.cells k).pump ≠ .idle) : Keeps v (v.finish k) := by
  have half := setStream v (v.cells k).id fun s => { s with localClosed := true }
  have busy : ((v.setStream (v.cells k).id fun s => { s with localClosed := true }).cells k).pump ≠
      .idle := busy
  exact (half.trans (setPump _ busy (by simp))).trans (log _ (by simp))

end View.Keeps

namespace Client

variable {c d : Client}

/-- A section opens no stream, or the one of the request it is about. -/
theorem keeps_or_opens (sound : c.Sealed) (a : Action) :
    c.view.Keeps (c.step a).view ∨
      ∃ request, c.asks a = some request ∧
        (c.step a).view = c.view.openStream request.body
          (headerFrames c.nextStreamId c.remote.maxFrameSize (encode request.headers)
            request.body.isEmpty) := by
  cases step_cases sound a with
  | quiet steps => exact .inl (.quiets steps)
  | opens request live staying free same asked => exact .inr ⟨request, asked, same⟩
  | @uploads k chunk offset rest s n pumping found live positive remaining connection stream frame
      same =>
      left
      rw [same]
      have busy : ((c.view.upload (c.cells k).id ((chunk.drop offset).take n)).cells k).pump ≠ .idle := by
        change (c.cells k).pump ≠ .idle
        rw [pumping]
        simp
      refine (View.Keeps.upload c.view _ _).trans (.setPump _ busy ?_)
      split <;> simp
  | finishes pumping found live steps =>
      exact .inl ((View.Keeps.finish c.view (busy_of_pump pumping (by simp))).trans (.quiets steps))

/-! ## Calls -/

/-- The calls stay as they are. -/
structure SameCalls (c d : Client) : Prop where
  called : d.called = c.called
  calls : d.calls = c.calls

namespace SameCalls

variable {e : Client}

theorem refl (c : Client) : SameCalls c c := ⟨rfl, rfl⟩

theorem trans (first : SameCalls c d) (later : SameCalls d e) : SameCalls c e :=
  ⟨later.called.trans first.called, later.calls.trans first.calls⟩

theorem of_desk (desk : d.desk = c.desk) : SameCalls c d :=
  ⟨congrArg Desk.called desk, congrArg Desk.calls desk⟩

theorem destroy (c : Client) (err : H2Error) : SameCalls c (c.destroy err) := by
  cases closed : c.closed with
  | true =>
      rw [destroy_closed closed]
      exact refl c
  | false =>
      have torn := desk_destroy closed err
      exact ⟨congrArg Desk.called torn, congrArg Desk.calls torn⟩

/-- Goodbye, and teardown. -/
theorem farewell (c : Client) (frame : Frame) (err : H2Error) :
    SameCalls c ((c.sendFrame frame).destroy err) :=
  (of_desk (c.desk_sendFrame frame)).trans (destroy _ err)

theorem dispatchFrame (c : Client) (frame : Frame) : SameCalls c (c.dispatchFrame frame).1 := by
  rcases c.chores_dispatchFrame frame with chores | ⟨id, increment, rfl, chores⟩ |
    ⟨id, bytes, endStream, rfl⟩ | ⟨data, rfl⟩ | ⟨lastStreamId, errorCode, debugData, rfl⟩
  · exact of_desk (desk_chores chores)
  · have desk := desk_chores chores
    exact of_desk desk
  · have received : SameCalls c (c.receiveDataFrame id bytes endStream) := by
      cases found : c.streams.lookup id with
      | none => exact of_desk (desk_receiveDataFrame_none found bytes endStream)
      | some s =>
          have desk := desk_receiveDataFrame found bytes endStream
          exact ⟨congrArg Desk.called desk, congrArg Desk.calls desk⟩
    simp only [Client.dispatchFrame]
    split
    · have retired : Chore (c.receiveDataFrame id bytes endStream) _ := .retire id
      exact received.trans (of_desk retired.desk)
    · exact received
  · simp only [Client.dispatchFrame, receivePing, if_true]
    split
    · exact refl c
    · exact ⟨rfl, rfl⟩
  · obtain ⟨d, chores, same | ⟨err, same⟩⟩ := c.chores_receiveGoaway lastStreamId errorCode
    · simp only [Client.dispatchFrame, same]
      exact of_desk (desk_chores chores)
    · simp only [Client.dispatchFrame, same]
      exact (of_desk (desk_chores chores)).trans (destroy d err)

theorem onFrame (c : Client) (frame : Frame) : SameCalls c (c.onFrame frame) := by
  have dispatched : SameCalls c (c.dispatch frame).1 := by
    unfold dispatch
    split
    · exact refl c
    · exact dispatchFrame c frame
  unfold Client.onFrame
  revert dispatched
  obtain ⟨d, result⟩ := c.dispatch frame
  intro dispatched
  cases result with
  | ok done => exact dispatched
  | error fault =>
      cases fault with
      | h2 err => exact dispatched.trans (farewell d _ err)
      | panic => exact dispatched

theorem read (c : Client) (k : Nat) : SameCalls c (c.read k) := by
  have held (f : Cell → Cell) : SameCalls c (c.modifyCell k f) := ⟨rfl, rfl⟩
  unfold Client.read
  simp only []
  split
  · split
    · exact (held _).trans (of_desk (desk_replenishRecvWindow _ _ _))
    · split
      · exact held _
      · split
        · exact held _
        · exact held _
  · exact refl c

theorem dropBody (c : Client) (k : Nat) : SameCalls c (c.dropBody k) := by
  by_cases reading : (c.cells k).holder = .reading
  · have desk := desk_dropBody reading
    exact ⟨congrArg Desk.called desk, congrArg Desk.calls desk⟩
  · have same : c.dropBody k = c := by simp [Client.dropBody, reading]
    rw [same]
    exact refl c

theorem ping (c : Client) : SameCalls c c.ping := by
  cases closed : c.closed with
  | true =>
      have desk := desk_ping_closed closed
      exact ⟨congrArg Desk.called desk, congrArg Desk.calls desk⟩
  | false =>
      have desk := desk_ping closed
      exact ⟨congrArg Desk.called desk, congrArg Desk.calls desk⟩

theorem close (c : Client) : SameCalls c c.close := by
  unfold Client.close
  split
  · exact refl c
  · exact farewell c _ _

end SameCalls

/-! ## The books -/

end Client

/-- The request that a section makes. -/
def Action.made : Action → Option Request
  | .request made => some made
  | _ => none

namespace Client

variable {c d : Client}

/-- The call a section belongs to. -/
def caller (c : Client) : Action → Option Nat
  | .request _ => some c.called
  | .pollCall i => some i
  | _ => none

/-- The call of the stream that a section opens. -/
def callers (c : Client) (a : Action) : List Nat :=
  if (c.step a).opened = c.opened then [] else (c.caller a).toList

/-- The requests that were made, one for each call, and the calls that the streams were opened
for: a call that waits has its own request, and a stream the body of its call's request. -/
structure Booked (requests : List Request) (callers : List Nat) (c : Client) : Prop where
  called : c.called = requests.length
  opened : c.opened = callers.length
  parked : ∀ i request, c.calls i = .parked request → requests[i]? = some request
  bodies : ∀ k i, callers[k]? = some i → ∃ request, requests[i]? = some request ∧
    (c.cells k).body = request.body.chunks ∧
    ((c.cells k).pump = .idle ↔ request.body.isEmpty = true)

/-- Only the call that asks is parked. -/
theorem calls_tryOpen (c : Client) (i : Nat) (request : Request) :
    (c.tryOpen i request).called = c.called ∧
      ∀ j parked, (c.tryOpen i request).calls j = .parked parked →
        c.calls j = .parked parked ∨ j = i ∧ parked = request := by
  have only {call : Call} (mine : ∀ parked, call = .parked parked → parked = request) (j : Nat)
      (parked : Request) (found : Function.update c.calls i call j = .parked parked) :
      c.calls j = .parked parked ∨ j = i ∧ parked = request := by
    by_cases eq : j = i
    · subst eq
      rw [Function.update_self] at found
      exact .inr ⟨rfl, mine parked found⟩
    · rw [Function.update_of_ne eq] at found
      exact .inl found
  unfold tryOpen
  split
  · exact ⟨rfl, only (by simp)⟩
  · split
    · have desk := (desk_chores ((c.registerStream i request.body).chores_sendHeaders c.nextStreamId
        (encode request.headers) request.body.isEmpty)).trans (c.desk_registerStream i request.body)
      have calls : (c.openStream i request).calls = Function.update c.calls i (.awaiting c.opened) :=
        congrArg Desk.calls desk
      refine ⟨congrArg Desk.called desk, fun j parked found => ?_⟩
      rw [calls] at found
      exact only (by simp) j parked found
    · exact ⟨rfl, only fun parked same => (Call.parked.inj same).symm⟩

/-- A call that is parked was, or is the one of a new request. -/
structure Parks (c : Client) (a : Action) (d : Client) : Prop where
  called : d.called = c.called + a.made.toList.length
  parked : ∀ i request, d.calls i = .parked request →
    c.calls i = .parked request ∨ i = c.called ∧ a = .request request

variable {a : Action}

theorem SameCalls.parks (same : SameCalls c d) (silent : a.made = none) : Parks c a d := by
  refine ⟨?_, fun i request parked => .inl (same.calls ▸ parked)⟩
  rw [silent]
  exact same.called

/-- A call that goes on is not parked any more. -/
theorem parks_left (silent : a.made = none) (called : d.called = c.called) {i : Nat} {call : Call}
    (calls : d.calls = Function.update c.calls i call) (idle : ∀ request, call ≠ .parked request) :
    Parks c a d := by
  refine ⟨?_, fun j request parked => .inl ?_⟩
  · rw [silent]
    exact called
  · rw [calls] at parked
    by_cases eq : j = i
    · rw [eq, Function.update_self] at parked
      exact absurd parked (idle request)
    · rwa [Function.update_of_ne eq] at parked

theorem parks_pollCall (c : Client) (i : Nat) : Parks c (.pollCall i) (c.pollCall i) := by
  unfold pollCall
  split
  next request parked =>
    split
    · exact (SameCalls.refl c).parks rfl
    · obtain ⟨called, others⟩ := calls_tryOpen c i request
      refine ⟨called, fun j found waits => .inl ?_⟩
      rcases others j found waits with before | ⟨rfl, rfl⟩
      · exact before
      · exact parked
  next =>
    split
    · exact (SameCalls.refl c).parks rfl
    · exact parks_left rfl rfl rfl (by simp)
    · exact parks_left rfl rfl rfl (by simp)
    · exact parks_left rfl rfl rfl (by simp)
  next => exact (SameCalls.refl c).parks rfl

theorem parks_dropCall (c : Client) (i : Nat) : Parks c (.dropCall i) (c.dropCall i) := by
  unfold dropCall
  split
  · exact parks_left rfl rfl rfl (by simp)
  · exact parks_left rfl rfl rfl (by simp)
  · exact (SameCalls.refl c).parks rfl

theorem parks_step (c : Client) (a : Action) : Parks c a (c.step a) := by
  cases a with
  | frame frame => exact (SameCalls.onFrame c frame).parks rfl
  | corrupt err => exact (SameCalls.farewell c _ err).parks rfl
  | transportClosed => exact (SameCalls.destroy c _).parks rfl
  | writeFailed => exact (SameCalls.destroy c _).parks rfl
  | request request =>
      obtain ⟨called, parked⟩ := calls_tryOpen { c with called := c.called + 1 } c.called request
      refine ⟨called, fun i found waits => ?_⟩
      rcases parked i found waits with before | ⟨rfl, rfl⟩
      · exact .inl before
      · exact .inr ⟨rfl, rfl⟩
  | pollCall i => exact parks_pollCall c i
  | dropCall i => exact parks_dropCall c i
  | pump k => exact (SameCalls.of_desk (desk_chores (c.chores_pump k))).parks rfl
  | read k => exact (SameCalls.read c k).parks rfl
  | dropBody k => exact (SameCalls.dropBody c k).parks rfl
  | ping => exact (SameCalls.ping c).parks rfl
  | close => exact (SameCalls.close c).parks rfl

/-- A stream is opened for a call that has the request. -/
theorem Booked.asks {requests : List Request} {callers : List Nat} (booked : Booked requests callers c)
    {a : Action} {request : Request} (asked : c.asks a = some request) :
    ∃ i, c.caller a = some i ∧ (requests ++ a.made.toList)[i]? = some request := by
  cases a with
  | request made =>
      obtain rfl := Option.some.inj asked
      refine ⟨c.called, rfl, ?_⟩
      rw [booked.called]
      exact List.getElem?_concat_length
  | pollCall i =>
      refine ⟨i, rfl, ?_⟩
      rw [show (Action.pollCall i).made.toList = [] from rfl, List.append_nil]
      refine booked.parked i request ?_
      unfold Client.asks at asked
      dsimp only at asked
      split at asked
      next parked => exact parked.trans (congrArg Call.parked (Option.some.inj asked))
      next => cases asked
  | _ => cases asked

/-- The requests of the calls stay when more calls come. -/
theorem Booked.later {requests : List Request} {callers : List Nat} (booked : Booked requests callers c)
    (made : List Request) {k i : Nat} (own : callers[k]? = some i) :
    ∃ request, (requests ++ made)[i]? = some request ∧ (c.cells k).body = request.body.chunks ∧
      ((c.cells k).pump = .idle ↔ request.body.isEmpty = true) := by
  obtain ⟨request, found, body, idle⟩ := booked.bodies k i own
  refine ⟨request, ?_, body, idle⟩
  rw [List.getElem?_append_left (List.getElem?_eq_some_iff.mp found).1, found]

/-- The requests of the calls that are parked after a section. -/
theorem Booked.waiting {requests : List Request} {callers : List Nat} (booked : Booked requests callers c)
    (parks : Parks c a d) {i : Nat} {request : Request} (waits : d.calls i = .parked request) :
    (requests ++ a.made.toList)[i]? = some request := by
  rcases parks.parked i request waits with before | ⟨rfl, rfl⟩
  · have found := booked.parked i request before
    rw [List.getElem?_append_left (List.getElem?_eq_some_iff.mp found).1, found]
  · rw [booked.called]
    exact List.getElem?_concat_length

variable {body : RequestBody} {frames : List Frame}

theorem openStream_own (opens : d.view = c.view.openStream body frames) :
    (d.cells c.opened).body = body.chunks ∧
      ((d.cells c.opened).pump = .idle ↔ body.isEmpty = true) := by
  have cell := congrFun (congrArg View.cells opens) c.opened
  have cell : (d.cells c.opened).view = _ := cell.trans (Function.update_self ..)
  refine ⟨congrArg CellView.body cell, ?_⟩
  have pump : (d.cells c.opened).pump = if body.isEmpty then .idle else .pulling body.chunks :=
    congrArg CellView.pump cell
  rw [pump]
  cases body.isEmpty <;> simp

theorem openStream_other (opens : d.view = c.view.openStream body frames) {k : Nat}
    (other : k ≠ c.opened) :
    (d.cells k).body = (c.cells k).body ∧ (d.cells k).pump = (c.cells k).pump := by
  have cell := congrFun (congrArg View.cells opens) k
  have cell : (d.cells k).view = (c.cells k).view := cell.trans (Function.update_of_ne other ..)
  exact ⟨congrArg CellView.body cell, congrArg CellView.pump cell⟩

theorem booked_step {requests : List Request} {callers : List Nat} (sound : c.Sealed) (a : Action)
    (booked : Booked requests callers c) :
    Booked (requests ++ a.made.toList) (callers ++ c.callers a) (c.step a) := by
  have parks := parks_step c a
  have made : (c.step a).called = (requests ++ a.made.toList).length := by
    rw [parks.called, booked.called, List.length_append]
  rcases keeps_or_opens sound a with keeps | ⟨request, asked, opens⟩
  · have none : c.callers a = [] := if_pos keeps.opened
    rw [none, List.append_nil]
    refine ⟨made, keeps.opened.trans booked.opened, fun i request => booked.waiting parks,
      fun k i mine => ?_⟩
    obtain ⟨request, found, body, idle⟩ := booked.later a.made.toList mine
    exact ⟨request, found, (keeps.body k).trans body, (keeps.idle k).trans idle⟩
  · obtain ⟨i, mine, found⟩ := booked.asks asked
    have opened : (c.step a).opened = c.opened + 1 := congrArg View.opened opens
    have one : c.callers a = [i] := by
      rw [Client.callers, if_neg (by omega), mine]
      rfl
    rw [one]
    refine ⟨made, ?_, fun i request => booked.waiting parks, fun k j own => ?_⟩
    · rw [opened, booked.opened, List.length_append, List.length_singleton]
    rcases eq_or_ne k callers.length with rfl | ne
    · rw [List.getElem?_concat_length] at own
      obtain rfl := Option.some.inj own
      exact ⟨request, found, booked.opened ▸ openStream_own opens⟩
    · have short := (List.getElem?_eq_some_iff.mp own).1
      rw [List.length_append, List.length_singleton] at short
      rw [List.getElem?_append_left (by omega)] at own
      obtain ⟨body, pump⟩ := openStream_other opens (k := k) (booked.opened ▸ ne)
      rw [body, pump]
      exact booked.later _ own

theorem booked_connect (options : ConnectOptions) : Booked [] [] (connect options) := by
  have desk := desk_connect options
  have calls : (connect options).calls = fun _ => .dropped := congrArg Desk.calls desk
  refine ⟨congrArg Desk.called desk, congrArg Desk.opened desk, fun i request parked => ?_,
    fun k i mine => ?_⟩
  · rw [calls] at parked
    cases parked
  · cases mine

/-- The requests of a run, in the order of the calls. -/
def requests (actions : List Action) : List Request := actions.filterMap Action.made

theorem booked_after (options : ConnectOptions) (actions : List Action) :
    Booked (requests actions) (Machine.gather step callers (connect options) actions)
      (after options actions) := by
  induction actions using List.reverseRecOn with
  | nil => exact booked_connect options
  | append_singleton actions a ih =>
      have step : after options (actions ++ [a]) = (after options actions).step a := by
        rw [after, Machine.run_append]
        rfl
      have more : requests (actions ++ [a]) = requests actions ++ a.made.toList := by
        rw [requests, List.filterMap_append]
        cases a <;> rfl
      rw [step, more, Machine.gather_concat]
      exact booked_step (sealed_after options actions) a ih

/-- Uploads of every connection with fewer than `2^30` streams: each stream was opened for a
call, and if the request of the call has a body, it is uploaded. -/
theorem upload_after (options : ConnectOptions) (actions : List Action) (k : Nat)
    (few : (after options actions).opened < 2 ^ 30) (opened : k < (after options actions).opened) :
    let c := after options actions
    let id := (c.cells k).id
    ∃ i request, (Machine.gather step callers (connect options) actions)[k]? = some i ∧
      (requests actions)[i]? = some request ∧
      (request.body.isEmpty = false →
        UploadIntegrity id (since id c.history) request.body.content (c.cells k).pump
          (c.closed = true ∨ (∃ e ∈ since id c.history, isCut id e = true) ∨
            ∃ e ∈ c.history, isGoawayBelow id e = true)) := by
  intro c id
  have booked := booked_after options actions
  have own : k < (Machine.gather step callers (connect options) actions).length := booked.opened ▸ opened
  obtain ⟨request, found, body, idle⟩ := booked.bodies k _ (List.getElem?_eq_getElem own)
  refine ⟨_, request, List.getElem?_eq_getElem own, found, fun nonempty => ?_⟩
  have busy : (c.cells k).pump ≠ .idle := fun none => by
    rw [idle.mp none] at nonempty
    cases nonempty
  have whole : (c.cells k).body.flatten = request.body.content := by
    rw [body, request.body.flatten_chunks]
  have integrity := (uploads_after options actions (Nat.le_of_lt few) k opened).integrity busy
  exact whole ▸ integrity

/-- A call that waits for a slot, with a body of three chunks, one of them empty. -/
def threeChunks : List Action :=
  [.frame (.settings false { maxConcurrentStreams := some 0 }),
    .request (.bare (.stream [[1, 2], [], [3]])), .pollCall 0,
    .frame (.settings false { maxConcurrentStreams := some 1 }), .pollCall 0] ++
    List.replicate 6 (.pump 0)

/-- The whole body goes out, and then its end. -/
theorem upload_after_threeChunks :
    let c := after {} threeChunks
    (∃ i request, (Machine.gather step callers (connect {}) threeChunks)[0]? = some i ∧
      (requests threeChunks)[i]? = some request ∧
      (request.body.isEmpty = false →
        UploadIntegrity (c.cells 0).id (since (c.cells 0).id c.history) request.body.content
          (c.cells 0).pump
          (c.closed = true ∨ (∃ e ∈ since (c.cells 0).id c.history, isCut (c.cells 0).id e = true) ∨
            ∃ e ∈ c.history, isGoawayBelow (c.cells 0).id e = true))) ∧
    (requests threeChunks)[0]? = some (.bare (.stream [[1, 2], [], [3]])) ∧
    (Machine.gather step callers (connect {}) threeChunks)[0]? = some 0 ∧
    (c.cells 0).id = 1 ∧ (c.cells 0).pump = .finished true ∧
    dataOn 1 (since 1 c.history) = [1, 2, 3] ∧
    ((since 1 c.history).filter (isEndOn 1)).length = 1 :=
  ⟨upload_after {} threeChunks 0 (by decide +kernel) (by decide +kernel), by decide +kernel,
    by decide +kernel, by decide +kernel, by decide +kernel, by decide +kernel, by decide +kernel⟩

end Client

end H2ts
