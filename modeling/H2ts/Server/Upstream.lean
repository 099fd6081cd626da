import H2ts.Server.Tunnel

/-!
# Towards the client

Four directions write to the client, each when it gets the lock.  What they write is whole
frames (`Bears`), so a strict receiver reads all of it.  The data in the frames is what was
read from the peer, in its order (`upstream_delivers`), and the pongs answer the pings in
theirs (`upstream_answers`).
-/

namespace H2ts

namespace Tunnel

open Machine Wslay Bridge WebSocket

/-- What was written to the client, and what each direction has to write. -/
structure Outbox where
  sent : List WebSocket.Frame
  flying : Direction → List WebSocket.Frame

variable {s t : State EventContext} {o : Outbox} {fetched : Bytes} {heard : List Bytes}

/-! ## What the frames are counted for -/

section Tally

variable {β : Type} {g : WebSocket.Frame → List β} {owner d : Direction} {total : List β}
  {frames : List WebSocket.Frame}

/-- What counts in the frames, which only `owner` writes. -/
structure Tally (g : WebSocket.Frame → List β) (owner : Direction) (o : Outbox) (total : List β) : Prop where
  total : (o.sent ++ o.flying owner).flatMap g = total
  others : ∀ d, d ≠ owner → (o.flying d).flatMap g = []

/-- The others stay so, if what is new counts for the owner only. -/
theorem others_update (others : ∀ d, d ≠ owner → (o.flying d).flatMap g = [])
    (foreign : d ≠ owner → frames.flatMap g = []) :
    ∀ d', d' ≠ owner → (Function.update o.flying d frames d').flatMap g = [] := by
  intro d' other
  by_cases same : d' = d
  · rw [same, Function.update_self]
    exact foreign (same ▸ other)
  · rw [Function.update_of_ne same]
    exact others d' other

theorem Tally.composes (tally : Tally g owner o total) (before : o.flying d = [])
    (foreign : d ≠ owner → frames.flatMap g = []) :
    Tally g owner { o with flying := Function.update o.flying d frames } (total ++ frames.flatMap g) := by
  refine ⟨?_, others_update tally.others foreign⟩
  show (o.sent ++ Function.update o.flying d frames owner).flatMap g = _
  by_cases own : d = owner
  · subst own
    rw [← tally.total, before, Function.update_self, List.append_nil, List.flatMap_append]
  · rw [Function.update_of_ne (Ne.symm own), foreign own, List.append_nil]
    exact tally.total

theorem Tally.wrote (tally : Tally g owner o total) (d : Direction) :
    Tally g owner ⟨o.sent ++ o.flying d, Function.update o.flying d []⟩ total := by
  refine ⟨?_, others_update tally.others fun _ => rfl⟩
  show (o.sent ++ o.flying d ++ Function.update o.flying d [] owner).flatMap g = _
  by_cases own : d = owner
  · rw [own, Function.update_self, List.append_nil]
    exact tally.total
  · rw [Function.update_of_ne (Ne.symm own), List.flatMap_append, List.flatMap_append, tally.others d own,
      List.append_nil, ← List.flatMap_append]
    exact tally.total

theorem Tally.ends (tally : Tally g owner o total) (none : (o.flying d).flatMap g = []) :
    Tally g owner { o with sent := o.sent ++ o.flying d } total := by
  refine ⟨?_, tally.others⟩
  show (o.sent ++ o.flying d ++ o.flying owner).flatMap g = _
  rw [List.flatMap_append, List.flatMap_append, none, List.append_nil, ← List.flatMap_append]
  exact tally.total

theorem Tally.drops (tally : Tally g owner o total) (none : (o.flying d).flatMap g = []) :
    Tally g owner { o with flying := Function.update o.flying d [] } total := by
  refine ⟨?_, others_update tally.others fun _ => rfl⟩
  show (o.sent ++ Function.update o.flying d [] owner).flatMap g = _
  by_cases own : d = owner
  · rw [own, Function.update_self, List.append_nil, ← tally.total, List.flatMap_append, ← own, none,
      List.append_nil]
  · rw [Function.update_of_ne (Ne.symm own)]
    exact tally.total

theorem Tally.foreign_drops (tally : Tally g owner o total) (foreign : d ≠ owner) :
    Tally g owner { o with flying := Function.update o.flying d [] } total :=
  tally.drops (tally.others d foreign)

/-- What the owner drops is lost. -/
theorem Tally.loses (tally : Tally g owner o total) :
    Tally g owner { o with flying := Function.update o.flying owner [] } (o.sent.flatMap g) ∧
      o.sent.flatMap g <+: total := by
  refine ⟨⟨?_, others_update tally.others fun _ => rfl⟩, ?_⟩
  · show (o.sent ++ Function.update o.flying owner [] owner).flatMap g = _
    rw [Function.update_self, List.append_nil]
  · rw [← tally.total, List.flatMap_append]
    exact List.prefix_append _ _

end Tally

/-- The data in a frame. -/
def dataOf (f : WebSocket.Frame) : Bytes := if (f.opcode : Nat) = 2 then f.payload else []

/-- The payload of a pong. -/
def pongOf (f : WebSocket.Frame) : List Bytes := if (f.opcode : Nat) = 10 then [f.payload] else []

def pingOf : ControlEvent → List Bytes
  | .ping payload => [payload]
  | _ => []

theorem dataOf_close {frames : List WebSocket.Frame} (closes : ∀ f ∈ frames, (f.opcode : Nat) = 8) :
    frames.flatMap dataOf = [] := by
  refine List.flatMap_eq_nil_iff.mpr fun f mem => if_neg ?_
  rw [closes f mem]
  decide

theorem pongOf_close {frames : List WebSocket.Frame} (closes : ∀ f ∈ frames, (f.opcode : Nat) = 8) :
    frames.flatMap pongOf = [] := by
  refine List.flatMap_eq_nil_iff.mpr fun f mem => if_neg ?_
  rw [closes f mem]
  decide

/-- The pongs for the pings have their payloads, and no data. -/
theorem flatMap_pongsFor (events : List ControlEvent) :
    ((EventContext.pongsFor events).map Omsg.frame).flatMap pongOf = events.flatMap pingOf ∧
      ((EventContext.pongsFor events).map Omsg.frame).flatMap dataOf = [] := by
  induction events with
  | nil => exact ⟨rfl, rfl⟩
  | cons e events ih =>
      cases e with
      | ping payload =>
          have more : EventContext.pongsFor (.ping payload :: events) =
              ⟨PONG, payload⟩ :: EventContext.pongsFor events := rfl
          have pong : ((⟨PONG, payload⟩ : Omsg).frame.opcode : Nat) = 10 := by
            show ((opcodeOf PONG.toNat : Fin 16) : Nat) = 10
            decide
          rw [more, List.map_cons, List.flatMap_cons, List.flatMap_cons, List.flatMap_cons, ih.1,
            ih.2, pongOf, if_pos pong, dataOf, if_neg (by omega)]
          exact ⟨rfl, rfl⟩
      | close code reason => exact ih
      | pong payload => exact ih

theorem pingOf_hooked (events : List ControlEvent) :
    (State.hooked events).flatMap pingOf = events.flatMap pingOf := by
  induction events with
  | nil => rfl
  | cons e events ih =>
      cases e with
      | close code reason => exact ih
      | ping payload => exact congrArg ([payload] ++ ·) ih
      | pong payload => exact ih

/-! ## What a message counts for -/

def isPong : Message → Bool
  | .pong _ => true
  | _ => false

theorem dataOf_omsg {message : Message} (other : EventContext.isBinary message = false) :
    dataOf (EventContext.omsg message).frame = [] := by
  have opcode : ((EventContext.omsg message).frame.opcode : Nat) ≠ 2 := by
    cases message with
    | binary payload => exact absurd other Bool.noConfusion
    | _ => exact of_decide_eq_true rfl
  exact if_neg opcode

theorem dataOf_binary (payload : Bytes) : dataOf (EventContext.omsg (.binary payload)).frame = payload := rfl

theorem pongOf_omsg {message : Message} (other : isPong message = false) :
    pongOf (EventContext.omsg message).frame = [] := by
  have opcode : ((EventContext.omsg message).frame.opcode : Nat) ≠ 10 := by
    cases message with
    | pong payload => exact absurd other Bool.noConfusion
    | _ => exact of_decide_eq_true rfl
  exact if_neg opcode

/-- What the application may order: no data, and maybe no pongs. -/
structure Typed (noPong : Prop) (message : Message) : Prop where
  data : EventContext.isBinary message = false
  pongs : noPong → isPong message = false

variable {noPong : Prop} {message : Message} {frames : List WebSocket.Frame} {d : Direction}

/-- The data is what was fetched, and only one direction sends it. -/
theorem data_posted {c' : EventContext} (posted : EventContext.Posted s.wslay message frames c')
    (origin : Origin s d message fetched) (commands : ∀ m ∈ s.commands, Typed noPong m) :
    frames.flatMap dataOf = fetched ∧ (d ≠ .peerToWs → frames.flatMap dataOf = []) := by
  have other (data : EventContext.isBinary message = false) : frames.flatMap dataOf = [] := by
    rcases posted.frames with ⟨rfl, -⟩ | ⟨-, -, rfl, -⟩
    · rfl
    · rw [List.flatMap_singleton, dataOf_omsg data]
  cases origin with
  | data payload =>
      refine ⟨?_, fun foreign => absurd rfl foreign⟩
      rcases posted.frames with ⟨rfl, -, closed | data⟩ | ⟨open_, -, rfl, -⟩
      · rw [if_pos closed]
        rfl
      · exact absurd data Bool.noConfusion
      · rw [open_, if_neg Bool.false_ne_true, List.flatMap_singleton, dataOf_binary]
  | close d frame => exact ⟨other rfl, fun _ => other rfl⟩
  | ping => exact ⟨other rfl, fun _ => other rfl⟩
  | command message mem =>
      exact ⟨other (commands message mem).data, fun _ => other (commands message mem).data⟩

theorem pongs_posted {c' : EventContext} (posted : EventContext.Posted s.wslay message frames c')
    (origin : Origin s d message fetched) (commands : ∀ m ∈ s.commands, Typed noPong m) (no : noPong) :
    frames.flatMap pongOf = [] := by
  have other : isPong message = false := by
    cases origin with
    | data payload => rfl
    | close d frame => rfl
    | ping => rfl
    | command message mem => exact (commands message mem).pongs no
  rcases posted.frames with ⟨rfl, -⟩ | ⟨-, -, rfl, -⟩
  · rfl
  · rw [List.flatMap_singleton, pongOf_omsg other]

/-! ## Steps -/

/-- The frames that a direction has to write. -/
structure Held (flight : Flight) (frames : List WebSocket.Frame) : Prop where
  bytes : flight.bytes = frames.flatMap WebSocket.Frame.bytes
  served : ∀ f ∈ frames, Wslay.Served f
  last : flight.last = true → ∀ f ∈ frames, (f.opcode : Nat) = 8

/-- The bytes are those of the frames. -/
structure Bears (s : State EventContext) (o : Outbox) : Prop where
  quiet : s.wslay.Quiet
  sent : s.sent.flatten = o.sent.flatMap WebSocket.Frame.bytes
  served : ∀ f ∈ o.sent, Wslay.Served f
  flying : ∀ d, Held (flight s d) (o.flying d)

/-- Where there are no bytes there are no frames. -/
theorem frames_nil (none : frames.flatMap WebSocket.Frame.bytes = []) : frames = [] := by
  cases frames with
  | nil => rfl
  | cons f frames =>
      rw [List.flatMap_cons, List.append_eq_nil_iff] at none
      exact absurd none.1 (List.cons_ne_nil _ _)

theorem held_nil (last : Bool) : Held ⟨[], last⟩ [] :=
  ⟨rfl, fun _ mem => absurd mem List.not_mem_nil, fun _ _ mem => absurd mem List.not_mem_nil⟩

theorem Bears.rests (bears : Bears s o) (quiet : t.wslay.Quiet) (sent : t.sent = s.sent)
    (same : flight t = flight s) : Bears t o := by
  refine ⟨quiet, ?_, bears.served, ?_⟩
  · rw [sent]
    exact bears.sent
  · rw [same]
    exact bears.flying

theorem Bears.composes {new : Flight} (bears : Bears s o) (quiet : t.wslay.Quiet)
    (sent : t.sent = s.sent) (more : flight t = Function.update (flight s) d new) (held : Held new frames) :
    Bears t { o with flying := Function.update o.flying d frames } := by
  refine ⟨quiet, ?_, bears.served, fun d' => ?_⟩
  · rw [sent]
    exact bears.sent
  · show Held (flight t d') (Function.update o.flying d frames d')
    rw [more]
    by_cases same : d' = d
    · rw [same, Function.update_self, Function.update_self]
      exact held
    · rw [Function.update_of_ne same, Function.update_of_ne same]
      exact bears.flying d'

/-- A write puts the frames of a direction behind the others. -/
theorem Bears.write (bears : Bears s o) (d : Direction) :
    Bears { s with sent := s.sent ++ [(flight s d).bytes] } { o with sent := o.sent ++ o.flying d } := by
  refine ⟨bears.quiet, ?_, ?_, bears.flying⟩
  · show (s.sent ++ [(flight s d).bytes]).flatten = _
    rw [List.flatten_append, List.flatten_singleton, bears.sent, (bears.flying d).bytes, List.flatMap_append]
  · intro f mem
    rcases List.mem_append.mp mem with mem | mem
    · exact bears.served f mem
    · exact (bears.flying d).served f mem

/-- What the frames come to, with what was fetched from the peer and the pings that were heard. -/
structure Books (noPong : Prop) (fetched : Bytes) (heard : List Bytes)
    (closed : Bool) (o : Outbox) : Prop where
  data : Tally dataOf .peerToWs o fetched
  pongs : noPong → ∃ total, Tally pongOf .wsToPeer o total ∧
    total <+: heard ∧ (closed = false → total = heard)

structure Serves (noPong : Prop) (fetched : Bytes) (heard : List Bytes)
    (s : State EventContext) (o : Outbox) :
    Prop where
  bears : Bears s o
  books : Books noPong fetched heard s.wslay.closeQueued o
  commands : ∀ m ∈ s.commands, Typed noPong m

/-- The books are in order whatever happens to them, if that is right for each of the two. -/
theorem Books.moves {o' : Outbox} {fetched' : Bytes} {closed closed' : Bool}
    (books : Books noPong fetched heard closed o)
    (data : Tally dataOf .peerToWs o fetched → Tally dataOf .peerToWs o' fetched')
    (pongs : noPong → ∀ total, Tally pongOf .wsToPeer o total → Tally pongOf .wsToPeer o' total)
    (open_ : closed' = false → closed = false) : Books noPong fetched' heard closed' o' := by
  refine ⟨data books.data, fun no => ?_⟩
  obtain ⟨total, tally, part, all⟩ := books.pongs no
  exact ⟨total, pongs no total tally, part, fun opened => all (open_ opened)⟩

theorem open_of_posted {c c' : EventContext} (posted : EventContext.Posted c message frames c')
    (open_ : c'.closeQueued = false) : c.closeQueued = false := by
  rcases posted.frames with ⟨-, same, -⟩ | ⟨opened, -⟩
  · exact same.symm.trans open_
  · exact opened

theorem held_posted {c c' : EventContext} {bytes : Bytes} {last : Bool}
    (posted : EventContext.Posted c message frames c') (framed : bytes = frames.flatMap WebSocket.Frame.bytes)
    (close : last = true → EventContext.isClose message = true) : Held ⟨bytes, last⟩ frames := by
  refine ⟨framed, ?_, fun isLast => ?_⟩
  · rcases posted.frames with ⟨rfl, -⟩ | ⟨-, good, rfl, -⟩
    · exact fun f mem => absurd mem List.not_mem_nil
    · intro f mem
      obtain rfl := List.mem_singleton.mp mem
      exact good.served
  · rcases posted.frames with ⟨rfl, -⟩ | ⟨-, -, rfl, -⟩
    · exact fun f mem => absurd mem List.not_mem_nil
    · intro f mem
      obtain rfl := List.mem_singleton.mp mem
      have isClose := close isLast
      cases message with
      | close frame => exact of_decide_eq_true rfl
      | _ => exact absurd isClose Bool.false_ne_true

/-- A turn of a direction. -/
theorem serves_turn {fetched' : Bytes} (serves : Serves noPong fetched heard s o) (turn : Turn s t fetched')
    (commands : t.commands <:+ s.commands) (fits : fetched'.length < 2 ^ 63) :
    ∃ o', Serves noPong (fetched ++ fetched') heard t o' := by
  obtain ⟨bears, books, typed⟩ := serves
  have typed' : ∀ m ∈ t.commands, Typed noPong m := fun m mem => typed m (commands.subset mem)
  have fitting {d : Direction} {message : Message} {bytes : Bytes} (origin : Origin s d message bytes)
      (short : bytes.length < 2 ^ 63) (open_ : s.wslay.closeQueued = false) : EventContext.Fits message := by
    cases origin with
    | data payload =>
        rw [open_, if_neg Bool.false_ne_true] at short
        exact short
    | close d frame => trivial
    | ping => trivial
    | command message mem =>
        have data := (typed message mem).data
        cases message with
        | binary payload => exact absurd data.symm Bool.false_ne_true
        | _ => trivial
  have closes {d : Direction} (last : (flight s d).last = true) : ∀ f ∈ o.flying d, (f.opcode : Nat) = 8 :=
    (bears.flying d).last last
  cases turn with
  | rest wslay sent same =>
      rw [List.append_nil]
      exact ⟨o, bears.rests (wslay ▸ bears.quiet) sent same, wslay ▸ books, typed'⟩
  | posts origin last close wslay sent before more =>
      obtain ⟨frames, framed, posted⟩ := EventContext.posted bears.quiet (fitting origin fits)
      have empty := frames_nil ((bears.flying _).bytes.symm.trans before)
      obtain ⟨data, foreign⟩ := data_posted posted origin typed
      refine ⟨_, bears.composes (wslay ▸ posted.quiet) sent more (held_posted posted framed close),
        books.moves ?_ ?_ ?_, typed'⟩
      · intro tally
        have next := tally.composes empty foreign
        rw [data] at next
        exact next
      · intro no total tally
        have none := pongs_posted posted origin typed no
        have next := tally.composes empty fun _ => none
        rw [none, List.append_nil] at next
        exact next
      · rw [wslay]
        exact open_of_posted posted
  | nothing origin wslay sent none same =>
      obtain ⟨frames, framed, posted⟩ := EventContext.posted bears.quiet (fitting origin fits)
      obtain rfl := frames_nil (framed.symm.trans none)
      obtain ⟨data, -⟩ := data_posted posted origin typed
      obtain rfl : fetched' = [] := data.symm
      rw [List.append_nil]
      refine ⟨o, bears.rests (wslay ▸ posted.quiet) sent same, books.moves id (fun _ _ => id) ?_, typed'⟩
      rw [wslay]
      exact open_of_posted posted
  | wrote d wslay sent less =>
      have written : Bears t _ := (bears.write d).composes (wslay ▸ bears.quiet) sent less (held_nil false)
      rw [List.append_nil]
      exact ⟨_, written, books.moves (fun tally => tally.wrote d)
        (fun _ _ tally => tally.wrote d) (wslay ▸ id), typed'⟩
  | ends d wslay sent last same =>
      have written : Bears t _ := (bears.write d).rests (wslay ▸ bears.quiet) sent same
      rw [List.append_nil]
      exact ⟨_, written, books.moves (fun tally => tally.ends (dataOf_close (closes last)))
        (fun _ _ tally => tally.ends (pongOf_close (closes last))) (wslay ▸ id), typed'⟩
  | drops d wslay sent last less =>
      rw [List.append_nil]
      exact ⟨_, bears.composes (wslay ▸ bears.quiet) sent less (held_nil false),
        books.moves (fun tally => tally.drops (dataOf_close (closes last)))
          (fun _ _ tally => tally.drops (pongOf_close (closes last))) (wslay ▸ id), typed'⟩

/-- Bytes are read: the pings are answered, or a Close is sent. -/
theorem serves_receive (serves : Serves noPong fetched heard s o) (none : s.wslay.controlEvents = [])
    (reading : s.wsToPeer = .reading) :
    ∃ o', Serves noPong fetched
      (heard ++ (s.wslay.receive (s.arrived.take READ_CHUNK)).1.events.flatMap pingOf)
        (s.receive wslay) o' := by
  obtain ⟨bears, books, typed⟩ := serves
  obtain ⟨frames, framed, replied⟩ :=
    EventContext.receive_replied bears.quiet none (s.arrived.take READ_CHUNK)
  have before : o.flying .wsToPeer = [] :=
    frames_nil ((bears.flying .wsToPeer).bytes.symm.trans (congrArg (Flight.bytes ∘ wsFlight) reading))
  have received : Wslay.wslay.recv s.wslay (s.arrived.take READ_CHUNK) =
      s.wslay.receive (s.arrived.take READ_CHUNK) := rfl
  rw [State.receive, received]
  generalize s.wslay.receive (s.arrived.take READ_CHUNK) = result at framed replied ⊢
  obtain ⟨received, next⟩ := result
  dsimp only at framed replied ⊢
  have held : Held ⟨received.outbound, false⟩ frames :=
    ⟨framed, replied.served, fun last => absurd last Bool.false_ne_true⟩
  have data : frames.flatMap dataOf = [] := by
    cases closed : next.closeQueued with
    | false => rw [replied.pongs closed, (flatMap_pongsFor received.events).2]
    | true =>
        rcases replied.close closed with rfl | ⟨f, close, rfl⟩
        · rfl
        · exact dataOf_close fun f' mem => List.mem_singleton.mp mem ▸ close
  have books' : Books noPong fetched (heard ++ received.events.flatMap pingOf) next.closeQueued
      { o with flying := Function.update o.flying .wsToPeer frames } := by
    refine ⟨?_, fun no => ?_⟩
    · have tally := books.data.composes before fun _ => data
      rw [data, List.append_nil] at tally
      exact tally
    · obtain ⟨total, tally, part, all⟩ := books.pongs no
      have more : Tally pongOf .wsToPeer { o with flying := Function.update o.flying .wsToPeer frames } _ :=
        tally.composes before fun foreign => absurd rfl foreign
      cases closed : next.closeQueued with
      | false =>
          have open_ : s.wslay.closeQueued = false := by
            by_contra queued
            exact absurd ((replied.closing
              (Bool.eq_true_of_not_eq_false queued)).symm.trans closed) Bool.noConfusion
          have same := replied.pongs closed
          rw [same, (flatMap_pongsFor received.events).1, all open_] at more
          rw [same]
          exact ⟨_, more, List.prefix_refl _, fun _ => rfl⟩
      | true =>
          have nothing : frames.flatMap pongOf = [] := by
            rcases replied.close closed with rfl | ⟨f, close, rfl⟩
            · rfl
            · exact pongOf_close fun f' mem => List.mem_singleton.mp mem ▸ close
          rw [nothing, List.append_nil] at more
          exact ⟨total, more, part.trans (List.prefix_append _ _),
            fun open_ => absurd open_.symm Bool.false_ne_true⟩
  split
  next =>
    obtain ⟨w, -, flying, after⟩ := dispatch_eq { s with
      arrived := s.arrived.drop READ_CHUNK
      lastActivity := s.now
      wslay := next
      reads := s.reads ++ [s.now] } received
    rw [after]
    refine ⟨_, bears.composes replied.quiet rfl ?_ held, books', typed⟩
    rw [← flying]
    exact flight_wsToPeer rfl rfl rfl
  next => exact ⟨_, bears.composes replied.quiet rfl (flight_wsToPeer rfl rfl rfl) held, books', typed⟩

/-- The peer fails: the replies on their way are lost. -/
theorem serves_fail (serves : Serves noPong fetched heard s o) (close : CloseFrame)
    (some : (s.wslay.post (.close close)).1 ≠ []) :
    ∃ o', Serves noPong fetched heard { s with
      wslay := (s.wslay.post (.close close)).2
      wsToPeer := .errorLock (s.wslay.post (.close close)).1 } o' := by
  obtain ⟨bears, books, typed⟩ := serves
  have fits (_ : s.wslay.closeQueued = false) : EventContext.Fits (.close close) := trivial
  obtain ⟨frames, framed, posted⟩ := EventContext.posted bears.quiet fits
  obtain ⟨data, -⟩ := data_posted posted (.close .wsToPeer close) typed
  have closed : (s.wslay.post (.close close)).2.closeQueued = true := by
    rcases posted.frames with ⟨rfl, -⟩ | ⟨-, -, -, closed⟩
    · exact absurd framed some
    · exact closed
  have dropped : Bears { s with wsToPeer := .reading }
      { o with flying := Function.update o.flying .wsToPeer [] } :=
    bears.composes bears.quiet rfl (flight_wsToPeer rfl rfl rfl) (held_nil false)
  have empty : ({ o with flying := Function.update o.flying .wsToPeer [] } : Outbox).flying .wsToPeer =
      [] := by
    show Function.update o.flying .wsToPeer [] .wsToPeer = []
    rw [Function.update_self]
  refine ⟨_, dropped.composes posted.quiet rfl (flight_wsToPeer rfl rfl rfl)
    (held_posted posted framed fun _ => rfl), ⟨?_, fun no => ?_⟩, typed⟩
  · have tally := (books.data.foreign_drops
      (d := .wsToPeer) Direction.noConfusion).composes empty fun _ => data
    rw [data, List.append_nil] at tally
    exact tally
  · obtain ⟨total, tally, part, -⟩ := books.pongs no
    obtain ⟨lost, shorter⟩ := tally.loses
    have none := pongs_posted posted (.close .wsToPeer close) typed no
    have more := lost.composes empty fun _ => none
    rw [none, List.append_nil] at more
    exact ⟨_, more, shorter.trans part, fun open_ => absurd (closed.symm.trans open_) Bool.noConfusion⟩

/-- What the application orders is a ping, a pong or a Close, and a read from the peer fills its
buffer at most. -/
def Fair (noPong : Prop) : Bridge.Action → Prop
  | .command message => Typed noPong message
  | .peerToWs (.bytes data) _ => data.length ≤ READ_CHUNK
  | _ => True

theorem length_fetches {a : Bridge.Action} (fair : Fair noPong a) : (fetches s a).length < 2 ^ 63 := by
  have none : ([] : Bytes).length < 2 ^ 63 := by decide
  cases a with
  | peerToWs read write =>
      cases read with
      | bytes data =>
          have small : data.length ≤ READ_CHUNK := fair
          have bound : READ_CHUNK < 2 ^ 63 := by decide
          rw [fetches]
          split
          · exact none
          · omega
      | _ => exact none
  | _ => exact none

theorem typed_orders {a : Bridge.Action} (fair : Fair noPong a) : ∀ m ∈ orders s a, Typed noPong m := by
  intro m mem
  cases a with
  | command message =>
      rw [orders] at mem
      split at mem
      · exact absurd mem List.not_mem_nil
      · exact List.mem_singleton.mp mem ▸ fair
  | _ => exact absurd mem List.not_mem_nil

variable {config : BridgeConfig} {came read done : Bytes} {told : List ControlEvent}

theorem serves_step (carried : Carried came read done told s)
    (serves : Serves noPong fetched (told.flatMap pingOf) s o) {a : Bridge.Action} (fair : Fair noPong a) :
    ∃ read' done' told' o', Carried (came ++ comes s a) read' done' told' (s.step wslay config a) ∧
      Serves noPong (fetched ++ fetches s a) (told'.flatMap pingOf) (s.step wslay config a) o' := by
  have moves := moves_step config s a
  have fits := length_fetches (s := s) fair
  have typed := typed_orders (s := s) fair
  generalize comes s a = brought at moves ⊢
  generalize fetches s a = got at moves fits ⊢
  generalize orders s a = ordered at moves typed
  generalize s.step wslay config a = t at moves ⊢
  cases moves with
  | beside beside =>
      obtain ⟨o', next⟩ := serves_turn serves beside.turn beside.commands fits
      rw [List.append_nil]
      exact ⟨_, _, _, o', beside.carried carried, next⟩
  | arrive _ arrivals =>
      obtain ⟨bears, books, commands⟩ := serves
      rw [List.append_nil]
      exact ⟨_, _, _, o, carried_arrive carried brought arrivals,
        bears.rests bears.quiet rfl rfl, books, commands⟩
  | command message =>
      obtain ⟨bears, books, commands⟩ := serves
      rw [List.append_nil, List.append_nil]
      refine ⟨_, _, _, o, carried_command carried message,
        bears.rests bears.quiet rfl rfl, books, fun m mem => ?_⟩
      rcases List.mem_append.mp mem with mem | mem
      · exact commands m mem
      · exact typed m mem
  | receive running reading =>
      obtain ⟨o', next⟩ := serves_receive serves carried.settled.controlEvents reading
      rw [← pingOf_hooked (s.wslay.receive (s.arrived.take READ_CHUNK)).1.events,
        ← List.flatMap_append] at next
      rw [List.append_nil, List.append_nil]
      exact ⟨_, _, _, o', carried_receive carried running reading, next⟩
  | @forward received writing =>
      obtain ⟨bears, books, commands⟩ := serves
      have next := carried_forward carried writing
      obtain ⟨w, -, flying, after⟩ :=
        dispatch_eq { s with forwarded := s.forwarded ++ [received.toPeer] } received
      have same : wsFlight w = wsFlight s.wsToPeer := by rw [writing]; exact flying
      rw [after] at next ⊢
      rw [List.append_nil, List.append_nil]
      exact ⟨_, _, _, o, next, bears.rests bears.quiet rfl (flight_eq same rfl rfl rfl), books, commands⟩
  | fail writing close some =>
      obtain ⟨o', next⟩ := serves_fail serves close some
      rw [List.append_nil, List.append_nil]
      exact ⟨_, _, _, o', carried_fail carried (s.wslay.sends_post (.close close)), next⟩
  | eof reading eof =>
      obtain ⟨bears, books, commands⟩ := serves
      rw [List.append_nil, List.append_nil]
      exact ⟨_, _, _, o, carried_eof carried reading eof,
        bears.rests bears.quiet rfl (flight_eq (congrArg wsFlight reading).symm rfl rfl rfl), books, commands⟩

/-! ## Runs -/

theorem serves_new (noPong : Prop) (config : BridgeConfig) (now : Nat) :
    Serves noPong [] [] (State.new EventContext.serverInit config now) ⟨[], fun _ => []⟩ := by
  have idle (d : Direction) : flight (State.new EventContext.serverInit config now) d = ⟨[], false⟩ := by
    cases d with
    | wsToPeer => rfl
    | peerToWs => rfl
    | control =>
        show controlFlight (if config.control then .receiving else .parked) = _
        split <;> rfl
    | keepalive =>
        show keepaliveFlight (if config.keepalive.isSome then .head else .parked) = _
        split <;> rfl
  refine ⟨⟨EventContext.quiet_serverInit, rfl, fun f mem => absurd mem List.not_mem_nil, fun d => ?_⟩,
    ⟨⟨rfl, fun _ _ => rfl⟩, fun _ => ⟨[], ⟨rfl, fun _ _ => rfl⟩, List.prefix_refl _, fun _ => rfl⟩⟩,
    fun m mem => absurd mem List.not_mem_nil⟩
  rw [idle]
  exact held_nil false

/-- What a strict receiver makes of what was written, and of what a direction has to write:
whole frames, as a server sends them. -/
structure Receives (s : State EventContext) (d : Direction)
    (frames flying : List WebSocket.Frame) : Prop where
  written : grammar.drain s.sent.flatten = .ok (frames, [])
  flight : grammar.drain (flight s d).bytes = .ok (flying, [])
  fin : ∀ f ∈ frames ++ flying, f.fin = true
  clear : ∀ f ∈ frames ++ flying, f.key = none

theorem Bears.receives (bears : Bears s o) (d : Direction) : Receives s d o.sent (o.flying d) := by
  have served : ∀ f ∈ o.sent ++ o.flying d, Wslay.Served f := by
    intro f mem
    rcases List.mem_append.mp mem with mem | mem
    · exact bears.served f mem
    · exact (bears.flying d).served f mem
  exact ⟨drain_iff.mpr ⟨fun f mem => (bears.served f mem).legal, bears.sent⟩,
    drain_iff.mpr ⟨fun f mem => ((bears.flying d).served f mem).legal, (bears.flying d).bytes⟩,
    fun f mem => (served f mem).fin, fun f mem => (served f mem).clear⟩

theorem delivers_run (config : BridgeConfig) (now : Nat) (actions : List Bridge.Action)
    (fair : ∀ a ∈ actions, Fair False a) :
    let s := run (State.step wslay config) (State.new EventContext.serverInit config now) actions
    ∃ o : Outbox, Bears s o ∧ (o.sent ++ o.flying .peerToWs).flatMap dataOf =
      gather (State.step wslay config) fetches (State.new EventContext.serverInit config now) actions := by
  intro s
  have all := gather_invariant_along (State.step wslay config) fetches
    (P := fun fetched s => ∃ came read done told o, Carried came read done told s ∧
      Serves False fetched (told.flatMap pingOf) s o)
    (fun s a fetched ⟨came, read, done, told, o, carried, serves⟩ fair =>
      ⟨came ++ comes s a, serves_step carried serves fair⟩)
    ⟨_, _, _, _, _, carried_new config now, serves_new False config now⟩ fair
  obtain ⟨came, read, done, told, o, -, serves⟩ := all
  exact ⟨o, serves.bears, serves.books.data.total⟩

/-- What a strict receiver makes of it if the direction that holds the lock has written a part of what
it has to write: some of the frames on their way are whole, and of one more there is a front at most. -/
def Begins (s : State EventContext) (d : Direction) (frames : List WebSocket.Frame) (part : Bytes) : Prop :=
  ∃ flying k left, Receives s d frames flying ∧
    grammar.drain (s.sent.flatten ++ part) = .ok (frames ++ flying.take k, left) ∧
    (left = [] ∨ ∃ f, flying[k]? = some f ∧ left <+: f.bytes)

theorem Bears.begins (bears : Bears s o) {d : Direction} {part : Bytes}
    (front : part <+: (flight s d).bytes) :
    Begins s d o.sent part := by
  have receives := bears.receives d
  obtain ⟨legal, bytes⟩ := drain_iff.mp receives.flight
  obtain ⟨k, left, drained, ends⟩ := drain_take legal (bytes ▸ front)
  refine ⟨o.flying d, k, left, receives, ?_, ends⟩
  rw [grammar.drain_append, receives.written]
  simp only [Except.bind, List.nil_append, drained, Except.map]

/-- Whatever the four directions do and however they take turns, the client gets whole frames, and of
the one on its way a front at most.  The data in them, with what is on its way, is what was read from
the peer until a Close was queued. -/
theorem upstream_delivers (config : BridgeConfig) (now : Nat) (actions : List Bridge.Action)
    (fair : ∀ a ∈ actions, Fair False a) :
    let s := run (State.step wslay config) (State.new EventContext.serverInit config now) actions
    ∃ frames flying, Receives s .peerToWs frames flying ∧ (frames ++ flying).flatMap dataOf =
        gather (State.step wslay config) fetches (State.new EventContext.serverInit config now) actions ∧
      ∀ d part, s.holder = some d → part <+: (flight s d).bytes → Begins s d frames part := by
  intro s
  obtain ⟨o, bears, total⟩ := delivers_run config now actions fair
  exact ⟨o.sent, o.flying .peerToWs, bears.receives _, total, fun d part _ front => bears.begins front⟩

/-- Three bytes from the peer that the client has got, and two of which it gets the first of four
octets. -/
theorem upstream_delivers_three :
    let actions := [.peerToWs (.bytes [1, 2, 3]) .pending, .peerToWs .pending .pending,
      .peerToWs .pending .ok, .peerToWs (.bytes [4, 5]) .pending, .peerToWs .pending .pending]
    let s := run (State.step wslay plainConfig) (State.new EventContext.serverInit plainConfig 0) actions
    (∃ frames flying, Receives s .peerToWs frames flying ∧ (frames ++ flying).flatMap dataOf =
        gather (State.step wslay plainConfig) fetches
          (State.new EventContext.serverInit plainConfig 0) actions ∧
      ∀ d part, s.holder = some d → part <+: (flight s d).bytes → Begins s d frames part) ∧
    s.sent = [[0x82, 3, 1, 2, 3]] ∧ s.holder = some .peerToWs ∧ [0x82] <+: (flight s .peerToWs).bytes := by
  intro actions s
  refine ⟨upstream_delivers plainConfig 0 _ ?_, by decide +kernel, by decide +kernel, by decide +kernel⟩
  simp only [actions, List.forall_mem_cons, Fair, List.not_mem_nil, false_implies, implies_true, and_self,
    and_true, true_and]
  decide

theorem answers_run (config : BridgeConfig) (now : Nat) (actions : List Bridge.Action)
    (fair : ∀ a ∈ actions, Fair True a) :
    let s := run (State.step wslay config) (State.new EventContext.serverInit config now) actions
    ∃ read done told fetched o,
      Carried (gather (State.step wslay config) comes (State.new EventContext.serverInit config now) actions)
        read done told s ∧ Serves True fetched (told.flatMap pingOf) s o :=
  gather_invariant_along (State.step wslay config) comes
    (P := fun came s => ∃ read done told fetched o, Carried came read done told s ∧
      Serves True fetched (told.flatMap pingOf) s o)
    (by
      rintro s a came ⟨read, done, told, fetched, o, carried, serves⟩ fair
      obtain ⟨read', done', told', o', carried', serves'⟩ := serves_step carried serves fair
      exact ⟨read', done', told', _, o', carried', serves'⟩)
    ⟨_, _, _, _, _, carried_new config now, serves_new True config now⟩ fair

/-- If the application sends no pongs, the pongs that the client gets, with those on their way, are
answers to its pings, in their order, and none is missing before a Close is queued. -/
theorem upstream_answers (config : BridgeConfig) (now : Nat) (actions : List Bridge.Action)
    (fair : ∀ a ∈ actions, Fair True a) :
    let s := run (State.step wslay config) (State.new EventContext.serverInit config now) actions
    ∃ read frames flying,
      gather (State.step wslay config) comes (State.new EventContext.serverInit config now) actions =
        read ++ s.arrived ∧
      Receives s .wsToPeer frames flying ∧
      (frames ++ flying).flatMap pongOf <+: (Reader.fresh.feed read).seen.flatMap pingOf ∧
      (s.wslay.closeQueued = false →
        (frames ++ flying).flatMap pongOf = (Reader.fresh.feed read).seen.flatMap pingOf) := by
  intro s
  obtain ⟨read, done, told, fetched, o, carried, serves⟩ := answers_run config now actions fair
  obtain ⟨-, -, seen⟩ := carried.settled.reads
  obtain ⟨total, tally, part, all⟩ := serves.books.pongs trivial
  rw [seen] at part all
  rw [← tally.total] at part all
  exact ⟨read, o.sent, o.flying .wsToPeer, carried.parted, serves.bears.receives .wsToPeer, part, all⟩

/-- A ping in two pieces. -/
theorem upstream_answers_ping :
    let actions := [.arrive [0x89, 0x81, 7, 7, 7], .wsToPeer .pending, .arrive [7, 1], .wsToPeer .pending]
    let s := run (State.step wslay plainConfig) (State.new EventContext.serverInit plainConfig 0) actions
    ∃ read frames flying,
      gather (State.step wslay plainConfig) comes (State.new EventContext.serverInit plainConfig 0) actions =
        read ++ s.arrived ∧
      Receives s .wsToPeer frames flying ∧
      (frames ++ flying).flatMap pongOf <+: (Reader.fresh.feed read).seen.flatMap pingOf ∧
      (s.wslay.closeQueued = false →
        (frames ++ flying).flatMap pongOf = (Reader.fresh.feed read).seen.flatMap pingOf) := by
  refine upstream_answers plainConfig 0 _ ?_
  simp only [List.forall_mem_cons, Fair, List.not_mem_nil, false_implies, implies_true, and_self]

end Tunnel

end H2ts
