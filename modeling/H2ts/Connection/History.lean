import H2ts.Connection.State

/-!
# Reading a history

What the history of a connection says about it: the credit the peer has granted,
the DATA that was sent, the response that was received on a stream.

All of these are sums or folds over the events, so `simp` computes them one event
at a time.  The history of a stream is the part of the history after the stream
was opened (`since`).
-/

namespace H2ts

open Hpack

namespace History

/-! ## The history of one stream -/

/-- The events after the stream was opened. -/
def since (id : UInt32) (history : List Event) : List Event :=
  history.foldl (fun events e => if e = .opened id then [] else events ++ [e]) []

theorem since_concat (id : UInt32) (history : List Event) (e : Event) :
    since id (history ++ [e]) = if e = .opened id then [] else since id history ++ [e] := by
  rw [since, List.foldl_append]
  rfl

/-- An event other than the opening. -/
theorem since_concat_ne {id : UInt32} (history : List Event) {e : Event} (ne : e ≠ .opened id) :
    since id (history ++ [e]) = since id history ++ [e] := by
  rw [since_concat, if_neg ne]

theorem since_concat_opened (id : UInt32) (history : List Event) :
    since id (history ++ [.opened id]) = [] := by
  rw [since_concat, if_pos rfl]

/-- Events among which the stream is not opened. -/
theorem since_append {id : UInt32} (history : List Event) {events : List Event}
    (notOpened : .opened id ∉ events) : since id (history ++ events) = since id history ++ events := by
  induction events generalizing history with
  | nil => simp
  | cons e events ih =>
      have ne : e ≠ .opened id := fun same => notOpened (same ▸ .head _)
      have later := ih (history ++ [e]) fun mem => notOpened (.tail _ mem)
      rw [since_concat_ne history ne] at later
      simpa using later

/-! ## Credit -/

/-- The increment an event grants to a window. -/
def creditOf (id : UInt32) : Event → Nat
  | .credit id' increment => if id' = id then increment.toNat else 0
  | _ => 0

/-- The increments received for a window. -/
def credited (id : UInt32) (history : List Event) : Nat := (history.map (creditOf id)).sum

@[simp] theorem credited_nil (id : UInt32) : credited id [] = 0 := rfl

@[simp] theorem credited_append (id : UInt32) (h h' : List Event) :
    credited id (h ++ h') = credited id h + credited id h' := by
  simp [credited]

@[simp] theorem credited_singleton (id : UInt32) (e : Event) :
    credited id [e] = creditOf id e := by
  simp [credited]

/-! ## DATA -/

/-- The payload of a DATA frame that was sent. -/
def payload : Event → Bytes
  | .sent (.data _ data _) => data
  | _ => []

/-- The payload of a DATA frame that was sent on a stream. -/
def payloadOn (id : UInt32) : Event → Bytes
  | .sent (.data id' data _) => if id' = id then data else []
  | _ => []

/-- All DATA bytes sent. -/
def allData (history : List Event) : Bytes := history.flatMap payload

/-- The DATA bytes sent on a stream. -/
def dataOn (id : UInt32) (history : List Event) : Bytes := history.flatMap (payloadOn id)

@[simp] theorem allData_append (h h' : List Event) : allData (h ++ h') = allData h ++ allData h' := by
  simp [allData]

@[simp] theorem allData_singleton (e : Event) : allData [e] = payload e := by
  simp [allData]

@[simp] theorem dataOn_nil (id : UInt32) : dataOn id [] = [] := rfl

@[simp] theorem dataOn_append (id : UInt32) (h h' : List Event) :
    dataOn id (h ++ h') = dataOn id h ++ dataOn id h' := by
  simp [dataOn]

@[simp] theorem dataOn_singleton (id : UInt32) (e : Event) : dataOn id [e] = payloadOn id e := by
  simp [dataOn]

/-- Whether an event is a DATA frame sent on a stream. -/
def isDataOn (id : UInt32) : Event → Bool
  | .sent (.data id' _ _) => id' == id
  | _ => false

/-- Whether an event is a frame sent with END_STREAM on a stream. -/
def isEndOn (id : UInt32) : Event → Bool
  | .sent (.data id' _ endStream) => id' == id && endStream
  | .sent (.headers id' _ endStream _ _) => id' == id && endStream
  | _ => false

/-- Whether an event is a DATA or HEADERS frame that was sent. -/
def isLoud : Event → Bool
  | .sent (.data ..) => true
  | .sent (.headers ..) => true
  | _ => false

/-- Whether an event cuts a stream off: a RST_STREAM for it, or `reset_stream`. -/
def isCut (id : UInt32) : Event → Bool
  | .rst id' => id' == id
  | .reset id' => id' == id
  | _ => false

/-- Whether an event is a GOAWAY that leaves the stream unserved. -/
def isGoawayBelow (id : UInt32) : Event → Bool
  | .goaway last => last < id
  | _ => false

/-! ## The limit of the peer -/

/-- The most recently applied SETTINGS_MAX_CONCURRENT_STREAMS, `u32::MAX` before
the first. -/
def limit (history : List Event) : UInt32 :=
  history.foldl (fun n e => match e with | .limit n => n | _ => n) 0xffffffff

theorem limit_concat (history : List Event) (e : Event) :
    limit (history ++ [e]) = match e with | .limit n => n | _ => limit history := by
  rw [limit, List.foldl_append]
  cases e <;> rfl

/-! ## Responses -/

/-- What was received of a response: whether the final head has come, the DATA
bytes up to the end, and whether the end has come. -/
structure Response where
  head : Bool
  bytes : Bytes
  ended : Bool
deriving DecidableEq, Repr

/-- The next event of a stream.  Interim responses before the head are skipped, and
not even END_STREAM on one is the end.  Later blocks are trailers, whatever their
status. -/
def Response.next (id : UInt32) (r : Response) : Event → Response
  | .data id' bytes endStream =>
      if id' = id ∧ r.ended = false then { r with bytes := r.bytes ++ bytes, ended := endStream }
      else r
  | .block id' headers endStream =>
      if id' = id ∧ ¬ (r.head = false ∧ isInterim headers = true) then
        { r with head := true, ended := r.ended || endStream }
      else r
  | _ => r

/-- The response that the events of a stream make. -/
def response (id : UInt32) (events : List Event) : Response :=
  events.foldl (Response.next id) ⟨false, [], false⟩

theorem response_concat (id : UInt32) (events : List Event) (e : Event) :
    response id (events ++ [e]) = (response id events).next id e := by
  rw [response, List.foldl_append]
  rfl

/-- Whether an event carries a part of a response. -/
def isReceived (id : UInt32) : Event → Bool
  | .data id' .. => id' == id
  | .block id' .. => id' == id
  | _ => false

/-- Whether an event takes a stream out of the map. -/
def isRemoval (id : UInt32) : Event → Bool
  | .failed id' => id' == id
  | .retired id' => id' == id
  | _ => false

theorem Response.next_other {id : UInt32} (r : Response) {e : Event}
    (other : isReceived id e = false) : r.next id e = r := by
  cases e with
  | data id' bytes endStream =>
      have ne : id' ≠ id := by simpa [isReceived] using other
      simp [Response.next, ne]
  | block id' headers endStream =>
      have ne : id' ≠ id := by simpa [isReceived] using other
      simp [Response.next, ne]
  | _ => rfl

theorem response_append_other {id : UInt32} (events : List Event) {later : List Event}
    (other : ∀ e ∈ later, isReceived id e = false) :
    response id (events ++ later) = response id events := by
  induction later generalizing events with
  | nil => rw [List.append_nil]
  | cons e later ih =>
      have rest := ih (events ++ [e]) fun e' mem => other e' (.tail _ mem)
      rw [response_concat, Response.next_other _ (other e (.head _))] at rest
      simpa using rest

/-- A response grows, and not past its end. -/
structure Response.Grows (r r' : Response) : Prop where
  bytes : r.bytes <+: r'.bytes
  head : r.head = true → r'.head = true
  ended : r.ended = true → r'.ended = true ∧ r'.bytes = r.bytes

theorem Response.grows_next (id : UInt32) (r : Response) (e : Event) : r.Grows (r.next id e) := by
  have same : r.Grows r := ⟨List.prefix_rfl, fun h => h, fun h => ⟨h, rfl⟩⟩
  cases e with
  | data id' bytes endStream =>
      rw [Response.next]
      split
      next now =>
        refine ⟨List.prefix_append _ _, fun h => h, fun ended => ?_⟩
        rw [now.2] at ended
        cases ended
      next => exact same
  | block id' headers endStream =>
      rw [Response.next]
      split
      next =>
        exact ⟨List.prefix_rfl, fun _ => rfl, fun ended => ⟨by simp [ended], rfl⟩⟩
      next => exact same
  | _ => exact same

theorem Response.Grows.trans {r r' r'' : Response} (first : r.Grows r') (second : r'.Grows r'') :
    r.Grows r'' := by
  refine ⟨first.bytes.trans second.bytes, fun head => second.head (first.head head), fun ended => ?_⟩
  obtain ⟨ended', same⟩ := first.ended ended
  obtain ⟨ended'', same'⟩ := second.ended ended'
  exact ⟨ended'', same'.trans same⟩

theorem response_grows (id : UInt32) {before events : List Event} (isPrefix : before <+: events) :
    (response id before).Grows (response id events) := by
  obtain ⟨later, rfl⟩ := isPrefix
  induction later generalizing before with
  | nil =>
      rw [List.append_nil]
      exact ⟨List.prefix_rfl, fun h => h, fun h => ⟨h, rfl⟩⟩
  | cons e later ih =>
      have one := (response id before).grows_next id e
      have rest := @ih (before ++ [e])
      rw [response_concat, List.append_assoc] at rest
      exact one.trans rest

end History

end H2ts
