import H2ts.Connection.WellFormed

/-!
# Stream ids on the wire

A request is opened by one HEADERS frame.  Its stream id on the wire has 31 bits,
and the counter it comes from has 32 and no limit.  The HEADERS of the `k`-th stream
carries `2k + 1` modulo `2^31` (`headerIds_after`).  So the ids are increasing as
long as at most `2^30` streams were opened, and no longer (`increasing_after_iff`).
-/

namespace H2ts

open BigEndian Hpack History

/-- The stream id in the header of a serialized frame. -/
def wireId (frame : Frame) : UInt32 :=
  match serializeFrame frame with
  | _ :: _ :: _ :: _ :: _ :: s0 :: s1 :: s2 :: s3 :: _ => ofBe32 s0 s1 s2 s3
  | _ => 0

theorem wireId_headers (id : UInt32) (fragment : Bytes) (endStream endHeaders : Bool)
    (priority : Option Priority) :
    wireId (.headers id fragment endStream endHeaders priority) = low31 id := by
  have header (typeId flags : UInt8) (payload : Bytes) :
      be24 (UInt32.ofNat payload.length) ++ [typeId, flags] ++ be32 (low31 id) ++ payload =
        _ :: _ :: _ :: typeId :: flags :: _ :: _ :: _ :: _ :: payload := rfl
  cases priority with
  | none => simp only [wireId, serializeFrame, encodeBody, header, ofBe32_be32]
  | some p => simp only [wireId, serializeFrame, encodeBody, header, ofBe32_be32]

namespace History

/-- The id on the wire, if an event is a HEADERS frame that was sent. -/
def headerId : Event → Option UInt32
  | .sent (.headers id fragment endStream endHeaders priority) =>
      some (wireId (.headers id fragment endStream endHeaders priority))
  | _ => none

/-- The ids on the wire of the HEADERS frames sent. -/
def headerIds (history : List Event) : List UInt32 := history.filterMap headerId

@[simp] theorem headerIds_append (h h' : List Event) :
    headerIds (h ++ h') = headerIds h ++ headerIds h' :=
  List.filterMap_append

theorem headerIds_quiet {events : List Event} (quiet : ∀ e ∈ events, isLoud e = false) :
    headerIds events = [] := by
  refine List.filterMap_eq_nil_iff.mpr fun e mem => ?_
  have unheard := quiet e mem
  cases e with
  | sent frame => cases frame <;> first | rfl | cases unheard
  | _ => rfl

/-- The frames of a header block have one HEADERS among them. -/
theorem headerIds_headerFrames (id : UInt32) (max : Nat) (block : Bytes) (endStream : Bool) :
    headerIds ((Client.headerFrames id max block endStream).map .sent) = [low31 id] := by
  unfold Client.headerFrames
  split
  · show [wireId _] = _
    rw [wireId_headers]
  · have none : headerIds
        ((Client.continuationFrames id max block.length (block.drop max)).map .sent) = [] := by
      refine headerIds_quiet fun e mem => ?_
      obtain ⟨frame, inside, rfl⟩ := List.mem_map.mp mem
      obtain ⟨fragment, endHeaders, rfl⟩ := Client.mem_continuationFrames inside
      rfl
    show wireId _ :: headerIds _ = _
    rw [none, wireId_headers]

end History

/-- The id of the `k`-th stream on the wire. -/
def wireIdOf (k : Nat) : UInt32 := low31 (idOf k)

theorem toNat_wireIdOf (k : Nat) : (wireIdOf k).toNat = (2 * k + 1) % 2 ^ 31 := by
  rw [wireIdOf, toNat_low31, idOf, UInt32.toNat_ofNat']
  omega

/-- The HEADERS sent so far, one for each stream. -/
def View.Numbered (v : View) : Prop :=
  headerIds v.history = (List.range v.opened).map wireIdOf

namespace View.Numbered

variable {v w : View}

theorem keep (numbered : v.Numbered) {events : List Event}
    (history : w.history = v.history ++ events) (none : headerIds events = [])
    (opened : w.opened = v.opened) : w.Numbered := by
  rw [Numbered, history, headerIds_append, none, List.append_nil, opened]
  exact numbered

theorem quiets {mayFail : UInt32 → Prop} (steps : Quiets mayFail v w) (numbered : v.Numbered) :
    w.Numbered := by
  obtain ⟨events, history, quiet⟩ := history_quiets steps
  exact numbered.keep history (headerIds_quiet quiet) (opened_quiets steps)

theorem openStream (wf : WellFormed v) (numbered : v.Numbered) (body : RequestBody) (max : Nat)
    (block : Bytes) (endStream : Bool) :
    (v.openStream body (Client.headerFrames v.nextStreamId max block endStream)).Numbered := by
  show headerIds (v.history ++ .opened v.nextStreamId ::
    (Client.headerFrames v.nextStreamId max block endStream).map .sent) =
      (List.range (v.opened + 1)).map wireIdOf
  have sent : headerIds (.opened v.nextStreamId ::
      (Client.headerFrames v.nextStreamId max block endStream).map .sent) = [wireIdOf v.opened] := by
    refine (headerIds_headerFrames v.nextStreamId max block endStream).trans ?_
    rw [wf.next, wireIdOf]
  rw [headerIds_append, sent, List.range_succ, List.map_append]
  exact congrArg (· ++ _) numbered

end View.Numbered

namespace Client

theorem numbered_step {c : Client} (sound : c.Sealed) (wf : WellFormed c.view) (a : Action)
    (numbered : c.view.Numbered) : (c.step a).view.Numbered := by
  cases step_cases sound a with
  | quiet steps => exact numbered.quiets steps
  | opens request live staying free same =>
      rw [same]
      exact numbered.openStream wf _ _ _ _
  | uploads n pumping found live positive remaining connection stream frame same =>
      rw [same]
      exact numbered.keep rfl rfl rfl
  | finishes pumping found live steps =>
      refine View.Numbered.quiets steps ?_
      exact numbered.keep rfl rfl rfl

theorem headerIds_after (options : ConnectOptions) (actions : List Action) :
    headerIds (after options actions).history =
      (List.range (after options actions).opened).map wireIdOf := by
  refine after_invariant (P := fun c => c.view.Numbered)
    (fun c a sound wf numbered => numbered_step sound wf a numbered) ?_ actions
  obtain ⟨frames, control, same⟩ := view_connect options
  rw [same]
  show headerIds (.preface CONNECTION_PREFACE :: frames.map .sent) = []
  refine headerIds_quiet fun e mem => ?_
  cases mem with
  | head => rfl
  | tail _ later =>
      obtain ⟨frame, inside, rfl⟩ := List.mem_map.mp later
      exact isLoud_of_isControl (control frame inside)

/-- Ids as a peer expects them: odd and increasing, and none once the `2^30` odd ids
of 31 bits are used up. -/
structure FreshIds (ids : List UInt32) : Prop where
  odd : ∀ id ∈ ids, id.toNat % 2 = 1
  increasing : ids.Pairwise (· < ·)
  available : ids.length ≤ 2 ^ 30

theorem freshIds_range {n : Nat} (few : n ≤ 2 ^ 30) : FreshIds ((List.range n).map wireIdOf) := by
  refine ⟨fun id mem => ?_, ?_, ?_⟩
  · obtain ⟨k, -, rfl⟩ := List.mem_map.mp mem
    rw [toNat_wireIdOf]
    omega
  · refine List.pairwise_map.mpr (List.Pairwise.imp_of_mem ?_ List.pairwise_lt_range)
    intro j k _ below less
    have small : k < n := List.mem_range.mp below
    rw [UInt32.lt_iff_toNat_lt, toNat_wireIdOf, toNat_wireIdOf]
    omega
  · rw [List.length_map, List.length_range]
    exact few

/-- In every run the HEADERS carry fresh ids exactly if at most `2^30` streams were
opened. -/
theorem freshIds_after_iff (options : ConnectOptions) (actions : List Action) :
    FreshIds (headerIds (after options actions).history) ↔
      (after options actions).opened ≤ 2 ^ 30 := by
  rw [headerIds_after]
  refine ⟨fun ids => ?_, freshIds_range⟩
  have available := ids.available
  rwa [List.length_map, List.length_range] at available

/-! ## Running out of ids -/

/-- A connection on which the peer does nothing, after a number of requests. -/
structure Unanswered (n : Nat) (c : Client) : Prop where
  live : c.closed = false
  outTx : c.outTx = true
  staying : c.goawayReceived = false
  limit : c.remote.maxConcurrentStreams = 0xffffffff
  opened : c.opened = n
  few : c.streams.keys.length ≤ n

theorem unanswered_step {n : Nat} {c : Client} (unanswered : Unanswered n c) (few : n < 2 ^ 32 - 1)
    (request : Request) : Unanswered (n + 1) (c.step (.request request)) := by
  obtain ⟨live, outTx, staying, limit, opened, streams⟩ := unanswered
  have free : ({ c with called := c.called + 1 } : Client).canOpenStream = true := by
    have active : c.activeStreams ≤ c.streams.keys.length := List.countP_le_length
    have most : c.remote.maxConcurrentStreams.toNat = 2 ^ 32 - 1 := by rw [limit]; rfl
    refine decide_eq_true ?_
    show c.activeStreams < c.remote.maxConcurrentStreams.toNat
    omega
  have available : ({ c with called := c.called + 1 } : Client).unavailable = none := by
    simp [unavailable, live, staying]
  have same : c.step (.request request) =
      ({ c with called := c.called + 1 } : Client).openStream c.called request := by
    show Client.tryOpen _ _ _ = _
    simp only [tryOpen, available, free, if_true]
  have slots := ({ c with called := c.called + 1 } : Client).slots_openStream c.called request
  rw [← same] at slots
  refine ⟨(congrArg Slots.closed slots).trans live, (congrArg Slots.outTx slots).trans outTx,
    (congrArg Slots.goaway slots).trans staying, (congrArg Slots.limit slots).trans limit, ?_, ?_⟩
  · have view := @view_openStream { c with called := c.called + 1 } live outTx c.called request
    rw [← same] at view
    exact (congrArg View.opened view).trans (congrArg (· + 1) opened)
  · have ids : (c.step (.request request)).streams.keys = _ := congrArg Slots.ids slots
    rw [ids]
    have erased : (c.streams.keys.erase c.nextStreamId).length ≤ c.streams.keys.length :=
      List.length_erase_le
    exact Nat.succ_le_succ (erased.trans streams)

theorem unanswered_requests {m : Nat} {c : Client} (unanswered : Unanswered m c) (request : Request)
    (n : Nat) (few : m + n ≤ 2 ^ 32 - 1) :
    Unanswered (m + n) (Machine.run step c (List.replicate n (.request request))) := by
  induction n generalizing c m with
  | zero => exact unanswered
  | succ n ih =>
      have next := ih (unanswered_step unanswered (by omega) request) (by omega)
      rw [show m + (n + 1) = m + 1 + n by omega]
      exact next

/-- One request more than there are ids. -/
def outOfIds : List Action := List.replicate (2 ^ 30 + 1) (.request (.bare .empty))

/-- The last of these requests goes out under the id of the first. -/
theorem not_freshIds_outOfIds :
    (headerIds (after {} outOfIds).history)[0]? = some 1 ∧
      (headerIds (after {} outOfIds).history)[2 ^ 30]? = some 1 ∧
      ¬ FreshIds (headerIds (after {} outOfIds).history) := by
  have start : Unanswered 0 (connect {}) := ⟨rfl, rfl, rfl, rfl, rfl, le_rfl⟩
  have opened : (after {} outOfIds).opened = 2 ^ 30 + 1 := by
    have last := (unanswered_requests start (.bare .empty) (2 ^ 30 + 1) (by omega)).opened
    rwa [Nat.zero_add] at last
  rw [headerIds_after, opened]
  have at_ (k : Nat) (below : k < 2 ^ 30 + 1) :
      ((List.range (2 ^ 30 + 1)).map wireIdOf)[k]? = some (wireIdOf k) := by
    rw [List.getElem?_map, List.getElem?_range below, Option.map_some]
  have again : wireIdOf (2 ^ 30) = 1 := by
    apply UInt32.toNat.inj
    rw [toNat_wireIdOf]
    rfl
  refine ⟨at_ 0 (by omega), (at_ (2 ^ 30) (by omega)).trans (congrArg some again), fun ids => ?_⟩
  have available := ids.available
  rw [List.length_map, List.length_range] at available
  omega

end Client

end H2ts
