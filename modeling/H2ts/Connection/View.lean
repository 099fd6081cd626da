import H2ts.Connection.Client
import H2ts.Connection.History

/-!
# The abstract connection

What matters about the streams of a client is less than the client has.  The
`View` of a client forgets wakers, heads, trailers, pings, calls and the pending
header block.  It keeps, for each id, the window and the flags of its stream, and
for each stream the receive buffer, the upload and what the body yielded.

The abstract connection moves by small steps.  A step that sends neither DATA nor
HEADERS is `Quiet`; the three others open a stream, send a piece of a body and
end it.  The client refines it: every section of the client is a sequence of
these steps (`step_cases`).  The results about windows, uploads and downloads are
invariants of the abstract connection.

`Quiet` is indexed by the ids the section may fail.  A section that dispatches
DATA or a header block fails nobody.
-/

namespace H2ts

open Hpack History

structure StreamView where
  cell : Nat
  window : Int64
  windowClosed : Bool
  gotHead : Bool
  localClosed : Bool
  remoteClosed : Bool

structure CellView where
  id : UInt32
  recv : RecvState
  pump : Pump
  body : List Bytes
  yields : List Yield

structure View where
  streams : UInt32 → Option StreamView
  cells : Nat → CellView
  opened : Nat
  nextStreamId : UInt32
  connWindow : Int64
  initialWindow : Int
  /-- The limit of the peer on concurrent streams. -/
  limit : UInt32
  goaway : Bool
  closed : Bool
  history : List Event

def StreamState.view (s : StreamState) : StreamView :=
  ⟨s.cell, s.sendWindow.available, s.sendWindow.closed, s.gotHead, s.localClosed, s.remoteClosed⟩

def Cell.view (x : Cell) : CellView := ⟨x.id, x.recv, x.pump, x.body, x.yields⟩

def Client.view (c : Client) : View where
  streams := fun id => (c.streams.lookup id).map StreamState.view
  cells := fun k => (c.cells k).view
  opened := c.opened
  nextStreamId := c.nextStreamId
  connWindow := c.connSendWindow.available
  initialWindow := c.remote.initialWindowSize
  limit := c.remote.maxConcurrentStreams
  goaway := c.goawayReceived
  closed := c.closed
  history := c.history

/-! ## Abstract operations -/

namespace View

def log (v : View) (e : Event) : View := { v with history := v.history ++ [e] }

/-- Change the stream of an id, if it is in the map. -/
def setStream (v : View) (id : UInt32) (f : StreamView → StreamView) : View :=
  { v with streams := Function.update v.streams id ((v.streams id).map f) }

def setCell (v : View) (k : Nat) (f : CellView → CellView) : View :=
  { v with cells := Function.update v.cells k (f (v.cells k)) }

def setPump (v : View) (k : Nat) (pump : Pump) : View :=
  v.setCell k fun cell => { cell with pump := pump }

/-- Take a stream out of the map and fail its body. -/
def remove (v : View) (id : UInt32) (err : H2Error) : View :=
  match v.streams id with
  | none => v
  | some s =>
      ({ v with streams := Function.update v.streams id none }.setCell s.cell fun cell =>
        { cell with recv := cell.recv.fail err }).log (.failed id)

/-- A header block for a stream in the map. -/
def block (v : View) (id : UInt32) (headers : List Header) (endStream : Bool) : View :=
  match v.streams id with
  | none => v.log (.block id headers endStream)
  | some s =>
      if !s.gotHead && isInterim headers then
        (v.setStream id fun s => { s with remoteClosed := s.remoteClosed || endStream }).log
          (.block id headers endStream)
      else
        ((v.setStream id fun s =>
            { s with gotHead := true, remoteClosed := s.remoteClosed || endStream }).setCell s.cell
          fun cell => { cell with recv := if endStream then cell.recv.endBody else cell.recv }).log
          (.block id headers endStream)

/-- A DATA frame. -/
def data (v : View) (id : UInt32) (bytes : Bytes) (endStream : Bool) : View :=
  match v.streams id with
  | none => v.log (.data id bytes endStream)
  | some s =>
      ((v.setStream id fun s => { s with remoteClosed := s.remoteClosed || endStream }).setCell
        s.cell fun cell => { cell with recv := cell.recv.receiveData bytes endStream }).log
        (.data id bytes endStream)

/-- Move every window by the change of the initial window. -/
def adjust (v : View) (initial : Int) : View :=
  { v with
    initialWindow := initial
    streams := fun id => (v.streams id).map fun s =>
      { s with window := s.window + Int64.ofInt (initial - v.initialWindow) } }

/-- Open a stream for a request with the body given, and send its header frames. -/
def openStream (v : View) (body : RequestBody) (frames : List Frame) : View where
  streams := Function.update v.streams v.nextStreamId
    (some ⟨v.opened, .ofInt v.initialWindow, false, false, body.isEmpty, false⟩)
  cells := Function.update v.cells v.opened
    ⟨v.nextStreamId, .default, if body.isEmpty then .idle else .pulling body.chunks, body.chunks, []⟩
  opened := v.opened + 1
  nextStreamId := v.nextStreamId + 2
  connWindow := v.connWindow
  initialWindow := v.initialWindow
  limit := v.limit
  goaway := v.goaway
  closed := v.closed
  history := v.history ++ .opened v.nextStreamId :: frames.map .sent

/-- Send a piece of a body. -/
def upload (v : View) (id : UInt32) (data : Bytes) : View :=
  ({ v with connWindow := v.connWindow - Int64.ofInt data.length }.setStream id fun s =>
    { s with window := s.window - Int64.ofInt data.length }).log (.sent (.data id data false))

/-- End a body. -/
def finish (v : View) (k : Nat) : View :=
  let id := (v.cells k).id
  ((v.setStream id fun s => { s with localClosed := true }).setPump k (.finished true)).log
    (.sent (.data id [] true))

end View

/-! ## What the operations keep -/

namespace View

theorem setStream_self (v : View) (id : UInt32) (f : StreamView → StreamView) :
    (v.setStream id f).streams id = (v.streams id).map f := by
  simp [setStream]

theorem setStream_ne (v : View) {id id' : UInt32} (ne : id' ≠ id) (f : StreamView → StreamView) :
    (v.setStream id f).streams id' = v.streams id' := by
  simp [setStream, ne]

theorem setCell_self (v : View) (k : Nat) (f : CellView → CellView) :
    (v.setCell k f).cells k = f (v.cells k) := by
  simp [setCell]

theorem setCell_ne (v : View) {j k : Nat} (ne : j ≠ k) (f : CellView → CellView) :
    (v.setCell k f).cells j = v.cells j := by
  simp [setCell, ne]

/-- Every stream of `w` is one of `v`, up to a relation. -/
def Carries (related : StreamView → StreamView → Prop) (v w : View) : Prop :=
  ∀ id s', w.streams id = some s' → ∃ s, v.streams id = some s ∧ related s s'

variable {related : StreamView → StreamView → Prop}

theorem Carries.of_eq (same : ∀ s, related s s) {v w : View} (streams : w.streams = v.streams) :
    Carries related v w :=
  fun _ s' found => ⟨s', streams ▸ found, same s'⟩

theorem Carries.setStream (same : ∀ s, related s s) (v : View) (id : UInt32)
    {f : StreamView → StreamView} (changed : ∀ s, related s (f s)) :
    Carries related v (v.setStream id f) := by
  intro id' s' found
  by_cases eq : id' = id
  · subst eq
    rw [setStream_self] at found
    obtain ⟨s, before, rfl⟩ := Option.map_eq_some_iff.mp found
    exact ⟨s, before, changed s⟩
  · rw [setStream_ne v eq] at found
    exact ⟨s', found, same s'⟩

theorem Carries.forget (same : ∀ s, related s s) (v : View) (id : UInt32) :
    Carries related v { v with streams := Function.update v.streams id none } := by
  intro id' s' found
  by_cases eq : id' = id
  · subst eq
    simp at found
  · simp only [Function.update_of_ne eq] at found
    exact ⟨s', found, same s'⟩

end View

/-- A frame that is neither DATA nor HEADERS. -/
def Frame.isControl : Frame → Bool
  | .data .. => false
  | .headers .. => false
  | _ => true

/-! ## Quiet steps -/

/-- A pump that has not finished. -/
def Pump.unfinished : Pump → Bool
  | .pulling _ => true
  | .sending .. => true
  | _ => false

/-- The abstract steps that send neither DATA nor HEADERS. -/
inductive Quiet (mayFail : UInt32 → Prop) : View → View → Prop
  | send {v : View} (frame : Frame) (control : frame.isControl = true) (live : v.closed = false) :
      Quiet mayFail v (v.log (.sent frame))
  | goaway {v : View} (lastStreamId : UInt32) :
      Quiet mayFail v ({ v with goaway := true }.log (.goaway lastStreamId))
  | limit {v : View} (n : UInt32) : Quiet mayFail v ({ v with limit := n }.log (.limit n))
  | creditConnection {v : View} (n : UInt32) :
      Quiet mayFail v ({ v with connWindow := v.connWindow + Int64.ofInt n.toNat }.log (.credit 0 n))
  | creditStream {v : View} (id n : UInt32) (nonzero : id ≠ 0) :
      Quiet mayFail v
        ((v.setStream id fun s => { s with window := s.window + Int64.ofInt n.toNat }).log (.credit id n))
  | adjust {v : View} (initial : Int) : Quiet mayFail v (v.adjust initial)
  | shut {v : View} : Quiet mayFail v { v with closed := true }
  | fail {v : View} (id : UInt32) (err : H2Error) (may : mayFail id)
      (cause : v.closed = true ∨ ∃ e ∈ v.history, isGoawayBelow id e = true) :
      Quiet mayFail v (v.remove id err)
  | cut {v : View} (e : Event) (id : UInt32) (err : H2Error) (may : mayFail id)
      (isCut : isCut id e = true) : Quiet mayFail v ((v.log e).remove id err)
  | block {v : View} (id : UInt32) (headers : List Header) (endStream : Bool)
      (nobody : ∀ id, ¬ mayFail id) : Quiet mayFail v (v.block id headers endStream)
  | data {v : View} (id : UInt32) (bytes : Bytes) (endStream : Bool)
      (nobody : ∀ id, ¬ mayFail id) : Quiet mayFail v (v.data id bytes endStream)
  | retire {v : View} {id : UInt32} {s : StreamView} (found : v.streams id = some s)
      (sent : s.localClosed = true) (received : s.remoteClosed = true) :
      Quiet mayFail v ({ v with streams := Function.update v.streams id none }.log (.retired id))
  | pull {v : View} {k : Nat} {chunk : Bytes} {rest : List Bytes}
      (pulling : (v.cells k).pump = .pulling (chunk :: rest)) :
      Quiet mayFail v
        (v.setPump k (if chunk.isEmpty then .pulling rest else .sending chunk 0 rest))
  | halt {v : View} {k : Nat} (unfinished : (v.cells k).pump.unfinished = true)
      (gone : v.closed = true ∨ ∀ s, v.streams (v.cells k).id = some s → s.windowClosed = true) :
      Quiet mayFail v (v.setPump k (.finished false))
  | chunk {v : View} {k : Nat} {bytes : Bytes} {queue : List Bytes}
      (queued : (v.cells k).recv.queue = bytes :: queue) :
      Quiet mayFail v (v.setCell k fun cell => { cell with
        recv := { cell.recv with queue := queue, buffered := cell.recv.buffered - bytes.length }
        yields := cell.yields ++ [.chunk bytes] })
  | error {v : View} {k : Nat} {err : H2Error} (drained : (v.cells k).recv.queue = [])
      (failed : (v.cells k).recv.error = some err) :
      Quiet mayFail v (v.setCell k fun cell => { cell with
        recv := { cell.recv with error := none }
        yields := cell.yields ++ [.failed err] })
  | done {v : View} {k : Nat} (drained : (v.cells k).recv.queue = [])
      (sound : (v.cells k).recv.error = none) (ended : (v.cells k).recv.ended = true) :
      Quiet mayFail v (v.setCell k fun cell => { cell with yields := cell.yields ++ [.done] })
  | listen {v : View} {k : Nat} :
      Quiet mayFail v (v.setCell k fun cell => { cell with recv := { cell.recv with waker := true } })

/-! ## What quiet steps record -/

theorem View.history_remove (v : View) (id : UInt32) (err : H2Error) :
    ∃ events, (v.remove id err).history = v.history ++ events ∧ ∀ e ∈ events, e = .failed id := by
  unfold View.remove
  split
  · exact ⟨[], by simp⟩
  · exact ⟨[.failed id], rfl, by simp⟩

theorem isLoud_of_isControl {frame : Frame} (control : frame.isControl = true) :
    isLoud (.sent frame) = false := by
  cases frame <;> first | rfl | cases control

theorem isLoud_of_isCut {id : UInt32} {e : Event} (isCut : isCut id e = true) :
    isLoud e = false := by
  cases e <;> first | rfl | cases isCut

/-- Quiet steps add to the history, but no DATA and no HEADERS. -/
theorem Quiet.history {mayFail : UInt32 → Prop} {v w : View} (step : Quiet mayFail v w) :
    ∃ events, w.history = v.history ++ events ∧ ∀ e ∈ events, isLoud e = false := by
  have one (e : Event) (quiet : isLoud e = false) :
      ∃ events, v.history ++ [e] = v.history ++ events ∧ ∀ e ∈ events, isLoud e = false :=
    ⟨[e], rfl, by simpa using quiet⟩
  have none : ∃ events, v.history = v.history ++ events ∧ ∀ e ∈ events, isLoud e = false :=
    ⟨[], by simp⟩
  cases step with
  | send frame control live => exact one _ (isLoud_of_isControl control)
  | goaway lastStreamId => exact one _ rfl
  | limit n => exact one _ rfl
  | creditConnection n => exact one _ rfl
  | creditStream id n nonzero => exact one _ rfl
  | adjust initial => exact none
  | shut => exact none
  | fail id err may cause =>
      obtain ⟨events, history, failed⟩ := v.history_remove id err
      exact ⟨events, history, fun e mem => by rw [failed e mem]; rfl⟩
  | cut e id err may isCut =>
      obtain ⟨events, history, failed⟩ := (v.log e).history_remove id err
      refine ⟨e :: events, by rw [history]; simp [View.log], ?_⟩
      intro e' mem
      cases mem with
      | head => exact isLoud_of_isCut isCut
      | tail _ mem => rw [failed e' mem]; rfl
  | block id headers endStream nobody =>
      rw [View.block]
      split
      · exact one _ rfl
      · split
        · exact one _ rfl
        · exact one _ rfl
  | data id bytes endStream nobody =>
      rw [View.data]
      split
      · exact one _ rfl
      · exact one _ rfl
  | retire found sent received => exact one _ rfl
  | pull pulling => exact none
  | halt unfinished gone => exact none
  | chunk queued => exact none
  | error drained failed => exact none
  | done drained sound ended => exact none
  | listen => exact none

end H2ts
