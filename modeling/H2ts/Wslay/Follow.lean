import H2ts.Wslay.Deliver

/-!
# The receiving side and the reader

One round of the loop takes the reader along (`recvRound_spec`), and so does the loop, which
stops when it needs more bytes or has stopped reading (`eventRecv_spec`).
-/

namespace H2ts

namespace Wslay

open BigEndian Bridge WebSocket

namespace EventContext

variable {c c' : EventContext} {r r' : Reader} {f : FrameContext} {done data : Bytes}
  {told : List ControlEvent}

/-! ## What a chunk leaves alone -/

/-- What comes out has the property. -/
def Stays (P : EventContext → Prop) : Except Stop EventContext → Prop
  | .error stop => P stop.ctx
  | .ok c => P c

/-- A property that the event layer keeps: as it does its books, as it queues and as it reports. -/
structure Stable (P : EventContext → Prop) : Prop where
  books (c : EventContext) (interleaved curIsData : Bool) (ipayloadlen ipayloadoff : Nat) (toPeer : Bytes) :
    P c → P { c with
      interleaved := interleaved
      curIsData := curIsData
      ipayloadlen := ipayloadlen
      ipayloadoff := ipayloadoff
      toPeer := toPeer }
  setImsg (c : EventContext) (m : Imsg) : P c → P (c.setImsg m)
  refuse (c : EventContext) (statusCode : UInt16) : P c → P (c.refuse statusCode).ctx
  takeClose (c : EventContext) (statusCode : UInt16) (reason : Bytes) :
    P c → Stays P (c.takeClose statusCode reason)
  takePing (c : EventContext) (msg : Bytes) : P c → Stays P (c.takePing msg)
  takePong (c : EventContext) (msg : Bytes) : P c → P (c.event (.pong msg))

variable {P : EventContext → Prop}

theorem Stays.bind {x : Except Stop EventContext} {next : EventContext → Except Stop EventContext}
    (first : Stays P x) (later : ∀ c, P c → Stays P (next c)) : Stays P (x >>= next) := by
  cases x with
  | error stop => exact first
  | ok c => exact later c first

namespace Stable

theorem startFrame (stable : Stable P) (holds : P c) (iocb : Iocb) : Stays P (c.startFrame iocb) := by
  have books := stable.books c c.interleaved (iocb.opcode >>> 3 &&& 1 == 0) iocb.payloadLength c.ipayloadoff
    c.toPeer holds
  unfold EventContext.startFrame
  split
  · exact stable.refuse c _ holds
  · dsimp only
    split
    · exact stable.setImsg _ _ books
    · exact books

theorem opening (stable : Stable P) (holds : P c) (iocb : Iocb) : Stays P (c.opening iocb) := by
  have starts (c' : EventContext) (holds : P c') : Stays P (c'.startFrame iocb) :=
    stable.startFrame holds iocb
  have selects : Stays P (c.selectMessage iocb >>= fun selected =>
      if selected.1 then selected.2.startFrame iocb else .ok selected.2) := by
    unfold selectMessage
    split_ifs
    · exact starts _ (stable.setImsg c _ holds)
    · exact stable.refuse c _ holds
    · exact starts _ (stable.setImsg c _ holds)
    · exact starts _ (stable.setImsg _ _
        (stable.books c true c.curIsData c.ipayloadlen c.ipayloadoff c.toPeer holds))
    · exact stable.refuse c _ holds
    · exact holds
  unfold EventContext.opening verify
  split
  · exact stable.refuse c _ holds
  · exact selects

theorem validate (stable : Stable P) (holds : P c) (iocb : Iocb) : Stays P (c.validate iocb) := by
  unfold EventContext.validate
  dsimp only
  split_ifs
  · exact stable.refuse _ _ (stable.setImsg c _ holds)
  · exact stable.setImsg c _ holds
  · exact stable.refuse _ _ (stable.setImsg c _ holds)
  · exact stable.setImsg c _ holds
  · exact holds

theorem deliver (stable : Stable P) (holds : P c) (iocb : Iocb) : P (c.deliver iocb) := by
  have handed (toPeer : Bytes) (c' : EventContext) (holds : P c') (ipayloadoff : Nat) :
      P { c' with toPeer := toPeer, ipayloadoff := ipayloadoff } :=
    stable.books c' c'.interleaved c'.curIsData c'.ipayloadlen ipayloadoff toPeer holds
  have taken := handed (if c.curIsData then c.toPeer ++ iocb.data else c.toPeer) c holds c.ipayloadoff
  unfold EventContext.deliver
  dsimp only
  split
  · exact handed _ _ (stable.setImsg _ _ taken) _
  · exact handed _ _ holds _

theorem finishMessage (stable : Stable P) (holds : P c) : Stays P c.finishMessage := by
  unfold EventContext.finishMessage
  dsimp only
  split_ifs
  · split
    · split
      · exact stable.refuse c _ holds
      · exact stable.takeClose c _ _ holds
    · exact stable.takeClose c _ _ holds
  · exact stable.takePing c _ holds
  · exact stable.takePong c _ holds
  · exact holds

theorem endFrame (stable : Stable P) (holds : P c) : P c.endFrame := by
  have settle (c' : EventContext) (holds : P c') (interleaved : Bool) :
      P { c' with interleaved := interleaved, ipayloadlen := 0, ipayloadoff := 0 } :=
    stable.books c' interleaved c'.curIsData 0 0 c'.toPeer holds
  unfold EventContext.endFrame
  dsimp only
  split
  · exact settle _ (stable.setImsg c _ holds) false
  · exact settle c holds c.interleaved

theorem finishFrame (stable : Stable P) (holds : P c) : Stays P c.finishFrame := by
  unfold EventContext.finishFrame
  split_ifs
  · exact stable.refuse c _ holds
  · exact (stable.finishMessage holds).bind fun c' holds' => stable.endFrame holds'
  · exact stable.endFrame holds

theorem accept (stable : Stable P) (holds : P c) (iocb : Iocb) : Stays P (c.accept iocb) := by
  refine (stable.validate holds iocb).bind fun c' holds' => ?_
  have delivered := stable.deliver holds' iocb
  split
  · exact stable.finishFrame delivered
  · exact delivered

/-- A chunk is taken. -/
theorem take (stable : Stable P) (holds : P c) (iocb : Iocb) : Stays P (c.take iocb) := by
  rw [take_eq]
  exact (stable.opening holds iocb).bind fun c' holds' => stable.accept holds' iocb

end Stable

/-- The framing goes its own way. -/
theorem stable_frameCtx (f : FrameContext) : Stable (·.frameCtx = f) where
  books _ _ _ _ _ _ same := same
  setImsg c m same := by
    obtain ⟨m0, m1, after, -⟩ := c.setImsg_eq m
    rw [after]
    exact same
  refuse c statusCode same := by
    obtain ⟨queue, ctrlQueue, queued, after⟩ := c.refuse_eq statusCode
    rw [after]
    exact same
  takeClose c statusCode reason same := by
    obtain ⟨queue, ctrlQueue, queued, after⟩ :=
      { c with closeReceived := true }.queueCloseWrapper_eq statusCode reason
    unfold EventContext.takeClose
    generalize { c with closeReceived := true }.queueCloseWrapper statusCode reason = result at after ⊢
    obtain ⟨_ | error, c'⟩ := result
    · obtain rfl : c' = _ := after
      exact same
    · obtain rfl : c' = _ := after
      exact same
  takePing c msg same := by
    obtain ⟨queue, ctrlQueue, after⟩ := c.queueMsg_eq PONG msg
    unfold EventContext.takePing
    generalize c.queueMsg PONG msg = result at after ⊢
    obtain ⟨_ | (_ | _ | _), c'⟩ := result
    all_goals
      obtain rfl : c' = _ := after
      exact same
  takePong _ _ same := same

theorem frameCtx_take (c : EventContext) (iocb : Iocb) : Stays (·.frameCtx = c.frameCtx) (c.take iocb) :=
  (stable_frameCtx c.frameCtx).take rfl iocb

/-! ## A round -/

/-- How the context stands to the reader that has got the same bytes. -/
inductive Follows (done : Bytes) (told : List ControlEvent) (c : EventContext) (r : Reader) : Prop where
  | live (on : c.On) (out : Told done told c r) (standing : r.standing = .live) (rested : c.frameCtx.Rested)
      (phase : r.phase = c.frameCtx.phase)
      (frame : if c.frameCtx.off = 0 then c.Between r
        else c.Within r c.frameCtx.head c.frameCtx.ipayloadlen c.frameCtx.off)
  | closing (closing : Closing done told c r c.frameCtx.ipayloadlen c.frameCtx.off)
      (rested : c.frameCtx.Rested) (some : c.frameCtx.off ≠ 0)
      (opcode : c.frameCtx.head.memo.opcode = CONNECTION_CLOSE) (rsv : c.frameCtx.head.memo.rsv = 0)
      (masked : c.frameCtx.head.masked = true)
  | off (ends : Off done told c r)

theorem payload_of_off (some : f.off ≠ 0) : f.istate = .payload := by
  by_contra header
  exact some (if_neg header)

/-- In the middle of a frame nothing is checked again. -/
theorem opening_within (rsv : f.iom.rsv = 0) (masked : f.imask = true) (busy : c.imsg.opcode ≠ NO_MESSAGE)
    (some : c.ipayloadoff ≠ 0) (data : Bytes) : c.opening (f.iocb data) = .ok c := by
  have clean : ¬ (f.iom.rsv ≠ 0 ∨ f.imask = false) := by
    rintro (set | clear)
    · exact set rsv
    · exact absurd (masked.symm.trans clear) Bool.noConfusion
  rw [opening, verify_clean clean]
  show (c.selectMessage (f.iocb data) >>= _) = _
  rw [selectMessage, if_neg busy, decide_eq_false some, Bool.and_false]
  rfl

theorem finish_phase (r : Reader) (head : Head) : (r.finish head).phase = .first := by
  unfold Reader.finish
  dsimp only
  split_ifs <;> rfl

theorem busy_of_within {head : Head} {length off : Nat} (within : c.Within r head length off) :
    c.imsg.opcode ≠ NO_MESSAGE := by
  rcases within.frame with frame | frame
  · have holds := frame.message
    obtain ⟨text, message⟩ := Option.isSome_iff_exists.mp frame.some
    rw [Holds, message] at holds
    rw [imsg, frame.interleaved]
    show c.imsgs0.opcode ≠ NO_MESSAGE
    rw [holds.1]
    cases text <;> decide
  · rw [frame.opcode]
    rcases frame.kind with same | same <;> rw [same] <;> decide

/-- The phase behind a chunk. -/
theorem phase_reach {p raw : Bytes} {iocb : Iocb} {f' : FrameContext} (took : Reader.Took r f p raw iocb f')
    (live : r'.standing = .live) :
      (r'.reach f'.head f'.ipayloadlen f'.key f'.ipayloadoff).phase = f'.phase := by
  have state := took.state
  rw [Reader.reach, if_neg (not_not.mpr live), FrameContext.phase]
  by_cases whole : f'.ipayloadoff = f'.ipayloadlen
  · rw [if_pos whole.symm] at state
    rw [if_pos whole, state, finish_phase]
  · rw [if_neg fun same => whole same.symm] at state
    rw [if_neg whole, state]

/-- What a round comes to. -/
def Round (done : Bytes) (told : List ControlEvent) (c : EventContext) (r : Reader) :
    Except Stop EventContext → Prop
  | .error stop => ∃ p, c.frameCtx.pending = p ++ stop.ctx.frameCtx.pending ∧
      Follows done told stop.ctx (r.feed p) ∧
      (stop.ctx.readEnabled = true → stop.ctx.frameCtx.Waiting) ∧
      ((r.feed p).standing ≠ .closed → (r.feed p).standing ≠ .malformed → stop.rc = none)
  | .ok c' => ∃ p, c.frameCtx.pending = p ++ c'.frameCtx.pending ∧ p ≠ [] ∧
      Follows done told c' (r.feed p)

theorem off_reach {off length : Nat} {head : Head} {key : Fin 4 → UInt8} (ends : Off done told c r) :
    Off done told c (r.reach head length key off) := by
  rw [Reader.reach_of_ended ends.ended]
  exact ⟨ends.read, ends.ended, ends.out, ends.exact, ends.received, ends.seen⟩

/-- The end of the round of a chunk. -/
theorem round_of_accepted {f' : FrameContext} {p raw : Bytes} {iocb : Iocb} {x : Except Stop EventContext}
    (took : Reader.Took r c.frameCtx p raw iocb f')
    (fed : r.feed p = r'.reach f'.head f'.ipayloadlen f'.key f'.ipayloadoff)
    (accepted : Accepted done told f'.head f'.ipayloadlen f'.ipayloadoff
      (r'.reach f'.head f'.ipayloadlen f'.key f'.ipayloadoff) x)
    (keeps : Stays (·.frameCtx = f') x) : Round done told c r x := by
  cases x with
  | error stop =>
      obtain ⟨rc, ends⟩ := accepted
      refine ⟨p, ?_, ?_, ?_, fun _ _ => rc⟩
      · rw [took.front, keeps]
      · rw [fed]
        exact .off ends
      · intro read
        exact absurd (ends.read.symm.trans read) Bool.false_ne_true
  | ok c' =>
      obtain ⟨standing, on, out, frame⟩ := accepted
      have live : r'.standing = .live := by
        by_contra ended
        rw [Reader.reach_of_ended ended] at standing
        exact ended standing
      have phase := phase_reach took live
      obtain rfl : c'.frameCtx = f' := keeps
      refine ⟨p, took.front, took.moved, ?_⟩
      rw [fed]
      refine .live on out standing took.rested phase ?_
      have state := took.state
      by_cases whole : c'.frameCtx.ipayloadoff = c'.frameCtx.ipayloadlen
      · rw [if_pos whole.symm] at state
        have none : c'.frameCtx.off = 0 := if_neg (by rw [state]; exact FrameState.noConfusion)
        rw [if_pos whole] at frame
        rw [if_pos none]
        exact frame
      · rw [if_neg fun same => whole same.symm] at state
        have off : c'.frameCtx.off = c'.frameCtx.ipayloadoff := if_pos state
        have some : c'.frameCtx.off ≠ 0 := by
          intro none
          rw [off, took.off] at none
          have empty : raw = [] := List.eq_nil_of_length_eq_zero (by omega)
          have inside := took.inside
          have length := took.empty empty
          omega
        rw [if_neg whole] at frame
        rw [if_neg some, off]
        exact frame

/-- The end of the round of a chunk of a Close. -/
theorem round_of_shuts {r₀ : Reader} {f' : FrameContext} {p raw : Bytes} {iocb : Iocb}
    {x : Except Stop EventContext} (took : Reader.Took r₀ c.frameCtx p raw iocb f')
    (opcode : f'.head.memo.opcode = CONNECTION_CLOSE)
    (rsv : f'.head.memo.rsv = 0) (masked : f'.head.masked = true) (standing : (r.feed p).standing = .closed)
    (shuts : Shuts done told (r.feed p) f'.ipayloadlen f'.ipayloadoff x) (keeps : Stays (·.frameCtx = f') x) :
    Round done told c r x := by
  cases x with
  | error stop =>
      refine ⟨p, ?_, .off shuts, ?_, ?_⟩
      · rw [took.front, keeps]
      · intro read
        exact absurd (shuts.read.symm.trans read) Bool.false_ne_true
      · exact fun other => absurd standing other
  | ok c' =>
      obtain rfl : c'.frameCtx = f' := keeps
      refine ⟨p, took.front, took.moved, ?_⟩
      rcases shuts with ends | ⟨more, closing⟩
      · exact .off ends
      · have state := took.state
        rw [if_neg fun same => more same.symm] at state
        have off : c'.frameCtx.off = c'.frameCtx.ipayloadoff := if_pos state
        have some : c'.frameCtx.off ≠ 0 := by
          intro none
          rw [off, took.off] at none
          have empty : raw = [] := List.eq_nil_of_length_eq_zero (by omega)
          have inside := took.inside
          have length := took.empty empty
          omega
        refine .closing ?_ took.rested some opcode rsv masked
        rw [off]
        exact closing

/-- A chunk of a frame that is allowed. -/
theorem accept_spec {head : Head} {length off : Nat} (live : r.standing = .live)
    (within : c.Within r head length off) (out : Told done told c r) (same : f.head = head)
    (sameLength : f.ipayloadlen = length) (whole : f.Whole) (data : Bytes) (key : Fin 4 → UInt8) :
    Accepted done told head length (off + data.length)
      ((r.puts head data).reach head length key (off + data.length)) (c.accept (f.iocb data)) := by
  subst same sameLength
  rcases within.frame with frame | frame
  · exact accept_data live within frame out data key
  · exact accept_control live within frame whole out data key

/-- A frame that ends the reading as it begins is a Close. -/
theorem start_closed (live : r.standing = .live)
    (closed : (r.start f.head f.ipayloadlen).standing = .closed) :
    f.head.memo.opcode = CONNECTION_CLOSE ∧ f.head.memo.rsv = 0 ∧ f.head.masked = true := by
  by_cases faulty : r.Faulty f.head f.ipayloadlen
  · rw [Reader.start_faulty faulty] at closed
    exact absurd closed Standing.noConfusion
  · refine ⟨?_, ?_, ?_⟩
    · by_contra other
      have going : (r.start f.head f.ipayloadlen).standing = .live := by
        rw [Reader.start_fine faulty]
        split
        next same => exact absurd same other
        next => split_ifs <;> exact live
      exact absurd (closed.symm.trans going) Standing.noConfusion
    · by_contra set
      exact faulty (.inl set)
    · by_contra clear
      exact faulty (.inr (.inl (Bool.eq_false_of_not_eq_true clear)))

theorem Between.reframe (between : c.Between r) (f' : FrameContext) : Between { c with frameCtx := f' } r :=
  ⟨between.interleaved, between.ipayloadlen, between.ipayloadoff, between.message, between.spare⟩

theorem Within.reframe {head : Head} {length off : Nat} (within : c.Within r head length off)
    (f' : FrameContext) : Within { c with frameCtx := f' } r head length off := by
  refine ⟨⟨within.on.read, within.on.received⟩, within.ipayloadlen, within.ipayloadoff,
    within.frame.imp ?_ ?_, within.rsv, within.masked⟩
  · intro frame
    exact ⟨frame.interleaved, frame.message, frame.some, frame.fin, frame.spare, frame.data, frame.opcode⟩
  · intro frame
    exact ⟨frame.opcode, frame.kind, frame.fin, frame.chunks, frame.length, frame.utf8state, frame.control,
      frame.back⟩

theorem Closing.reframe {length off : Nat} (closing : Closing done told c r length off) (f' : FrameContext) :
    Closing done told { c with frameCtx := f' } r length off :=
  ⟨⟨closing.close.opcode, closing.close.fin, closing.close.control⟩, ⟨closing.on.read, closing.on.received⟩,
    closing.ipayloadlen, closing.ipayloadoff, closing.standing, ⟨closing.out.out, closing.out.seen⟩⟩

/-- A frame begins. -/
theorem round_begin {f' : FrameContext} {p raw : Bytes} {iocb : Iocb} (on : c.On) (out : Told done told c r)
    (standing : r.standing = .live) (first : c.frameCtx.off = 0) (between : c.Between r)
    (took : Reader.Took r c.frameCtx p raw iocb f') :
    Round done told c r ({ c with frameCtx := f' }.take iocb) := by
  have keeps := { c with frameCtx := f' }.frameCtx_take iocb
  have fed := took.fed
  have off := took.off
  have opened := opening_spec (c := { c with frameCtx := f' }) standing ⟨on.read, on.received⟩
    (between.reframe f') took.whole ⟨out.out, out.seen⟩ (mask f'.key 0 raw)
  rw [take_eq, took.iocb, first] at keeps ⊢
  rw [Reader.chunk, Reader.begun, first, if_pos rfl, Nat.zero_add] at fed
  rw [first, Nat.zero_add] at off
  generalize ({ c with frameCtx := f' } : EventContext).opening (f'.iocb (mask f'.key 0 raw)) = result
    at opened keeps ⊢
  cases result with
  | error stop =>
      obtain ⟨-, rc, ends⟩ := opened
      rw [Reader.puts_of_ended ends.ended] at fed
      refine ⟨p, ?_, ?_, ?_, fun _ _ => rc⟩
      · rw [took.front]
        exact congrArg (p ++ ·.pending) (Eq.symm keeps)
      · rw [fed]
        exact .off (off_reach ends)
      · intro read
        exact absurd (ends.read.symm.trans read) Bool.false_ne_true
  | ok c' =>
      rcases opened with ⟨closed, close, on', ipayloadlen, ipayloadoff, out'⟩ | ⟨live, within, out'⟩
      · have ended : (r.start f'.head f'.ipayloadlen).standing ≠ .live := by
          rw [closed]
          exact Standing.noConfusion
        rw [Reader.puts_of_ended ended, Reader.reach_of_ended ended] at fed
        obtain ⟨opcode, rsv, masked⟩ := start_closed standing closed
        have closing : Closing done told c' (r.feed p) f'.ipayloadlen 0 := by
          rw [fed]
          exact ⟨close, on', ipayloadlen, ipayloadoff, closed, ⟨out'.out, out'.seen⟩⟩
        have shuts := accept_close closing opcode (mask f'.key 0 raw)
        rw [length_mask, Nat.zero_add, ← off] at shuts
        refine round_of_shuts took opcode rsv masked ?_ shuts keeps
        rw [fed]
        exact closed
      · have accepted := accept_spec live within out' rfl rfl took.whole (mask f'.key 0 raw) f'.key
        rw [length_mask, Nat.zero_add, ← off] at accepted
        rw [← off] at fed
        exact round_of_accepted took fed accepted keeps

/-- A frame goes on. -/
theorem round_within {f' : FrameContext} {p raw : Bytes} {iocb : Iocb} (out : Told done told c r)
    (live : r.standing = .live) (some : c.frameCtx.off ≠ 0)
    (within : c.Within r c.frameCtx.head c.frameCtx.ipayloadlen c.frameCtx.off)
    (took : Reader.Took r c.frameCtx p raw iocb f') :
    Round done told c r ({ c with frameCtx := f' }.take iocb) := by
  have keeps := { c with frameCtx := f' }.frameCtx_take iocb
  have fed := took.fed
  have off := took.off
  obtain ⟨same, sameLength⟩ := took.same (payload_of_off some)
  have within' := within.reframe f'
  have opened := opening_within (f := f') (congrArg (·.memo.rsv) same |>.trans within.rsv)
    (congrArg Head.masked same |>.trans within.masked) (busy_of_within within')
    (by rw [within'.ipayloadoff]; exact some) (mask f'.key c.frameCtx.off raw)
  have accepted := accept_spec live within' ⟨out.out, out.seen⟩ same sameLength took.whole
    (mask f'.key c.frameCtx.off raw) f'.key
  rw [take_eq, took.iocb, opened] at keeps ⊢
  rw [length_mask, ← off, ← same, ← sameLength] at accepted
  rw [Reader.chunk, Reader.begun, if_neg some, ← off] at fed
  exact round_of_accepted took fed accepted keeps

/-- A Close goes on. -/
theorem round_closing {r₀ : Reader} {f' : FrameContext} {p raw : Bytes} {iocb : Iocb}
    (closing : Closing done told c r c.frameCtx.ipayloadlen c.frameCtx.off) (some : c.frameCtx.off ≠ 0)
    (opcode : c.frameCtx.head.memo.opcode = CONNECTION_CLOSE) (rsv : c.frameCtx.head.memo.rsv = 0)
    (masked : c.frameCtx.head.masked = true) (took : Reader.Took r₀ c.frameCtx p raw iocb f') :
    Round done told c r ({ c with frameCtx := f' }.take iocb) := by
  have keeps := { c with frameCtx := f' }.frameCtx_take iocb
  have off := took.off
  obtain ⟨same, sameLength⟩ := took.same (payload_of_off some)
  have ended : r.standing ≠ .live := by
    rw [closing.standing]
    exact Standing.noConfusion
  have closing' := closing.reframe f'
  rw [← sameLength] at closing'
  have busy : ({ c with frameCtx := f' } : EventContext).imsg.opcode ≠ NO_MESSAGE := by
    rw [closing'.close.opcode]
    decide
  have opened := opening_within (f := f') (congrArg (·.memo.rsv) same |>.trans rsv)
    (congrArg Head.masked same |>.trans masked) busy (by rw [closing'.ipayloadoff]; exact some)
    (mask f'.key c.frameCtx.off raw)
  have shuts := accept_close closing' (congrArg (·.memo.opcode) same |>.trans opcode)
    (mask f'.key c.frameCtx.off raw)
  rw [take_eq, took.iocb, opened] at keeps ⊢
  rw [length_mask, ← off] at shuts
  have fed : r.feed p = r := Reader.feed_of_ended ended p
  refine round_of_shuts took (same ▸ opcode) (same ▸ rsv) (same ▸ masked) ?_ ?_ keeps
  · rw [fed]
    exact closing.standing
  · rw [fed]
    exact shuts

theorem recvFailed_proto (c : EventContext) : ∃ queue ctrlQueue queued, (c.recvFailed .proto).ctx =
    { c with
      readEnabled := false, sendQueue := queue, sendCtrlQueue := ctrlQueue, closeQueued := queued } := by
  obtain ⟨queue, ctrlQueue, queued, after⟩ := c.queueCloseWrapper_eq 0 []
  unfold recvFailed
  dsimp only
  generalize c.queueCloseWrapper 0 [] = result at after ⊢
  obtain ⟨_ | error, c'⟩ := result <;> exact ⟨queue, ctrlQueue, queued, after⟩

/-- A frame that cannot be read ends the reading. -/
theorem follows_proto (f' : FrameContext) (out : Told done told c r)
    (received : r'.standing ≠ .closed → c.closeReceived = false) (ended : r'.standing ≠ .live)
    (same : r'.out = r.out) (seen : r'.seen = r.seen) :
    ((recvFailed { c with frameCtx := f' } .proto).ctx.frameCtx = f') ∧
      Off done told (recvFailed { c with frameCtx := f' } .proto).ctx r' := by
  obtain ⟨queue, ctrlQueue, queued, after⟩ := recvFailed_proto { c with frameCtx := f' }
  rw [after]
  refine ⟨rfl, rfl, ended, ?_, ?_, received, ?_⟩
  · rw [same, ← out.out]
  · intro _
    rw [same]
    exact out.out
  · rw [seen]
    exact out.seen

/-- A round takes the reader along. -/
theorem recvRound_spec (follows : Follows done told c r) (read : c.readEnabled = true) :
    Round done told c r c.recvRound := by
  unfold recvRound
  cases follows with
  | live on out standing rested phase frame =>
      have call := Reader.frameRecv_spec standing rested phase
      generalize frameRecv c.frameCtx = result at call ⊢
      rcases result with ⟨_ | _, f'⟩ | ⟨iocb, f'⟩
      · obtain ⟨waiting, off, same, p, front, fed⟩ := call
        refine ⟨p, front, ?_, fun _ => waiting, fun _ _ => rfl⟩
        rw [fed]
        refine .live ⟨on.read, on.received⟩ ⟨out.out, out.seen⟩ standing waiting.rested rfl ?_
        show if f'.off = 0 then _ else _
        rw [off]
        by_cases first : c.frameCtx.off = 0
        · rw [if_pos first] at frame ⊢
          exact ⟨frame.interleaved, frame.ipayloadlen, frame.ipayloadoff, frame.message, frame.spare⟩
        · rw [if_neg first] at frame ⊢
          obtain ⟨sameHead, sameLength⟩ := same (payload_of_off first)
          have within := (frame.reframe f').rephase f'.phase
          rw [← sameHead, ← sameLength, ← off] at within
          exact within
      · obtain ⟨p, front, fed⟩ := call
        have ended : (r.stop .malformed).standing ≠ .live := Standing.noConfusion
        obtain ⟨frameCtx, ends⟩ := follows_proto f' out (fun _ => on.received) ended rfl rfl
        refine ⟨p, ?_, ?_, ?_, ?_⟩
        · rw [front]
          exact congrArg (p ++ ·.pending) frameCtx.symm
        · rw [fed]
          exact .off ends
        · intro on
          exact absurd (ends.read.symm.trans on) Bool.false_ne_true
        · rw [fed]
          exact fun _ other => absurd rfl other
      · obtain ⟨p, raw, took⟩ := call
        split at frame
        next first => exact round_begin on out standing first frame took
        next some => exact round_within out standing some frame took
  | closing closing rested some opcode rsv masked =>
      have call := Reader.frameRecv_spec (r := { Reader.fresh with phase := c.frameCtx.phase }) rfl rested rfl
      have ended : r.standing ≠ .live := by
        rw [closing.standing]
        exact Standing.noConfusion
      generalize frameRecv c.frameCtx = result at call ⊢
      rcases result with ⟨_ | _, f'⟩ | ⟨iocb, f'⟩
      · obtain ⟨waiting, off, same, p, front, -⟩ := call
        obtain ⟨sameHead, sameLength⟩ := same (payload_of_off some)
        refine ⟨p, front, ?_, fun _ => waiting, fun _ _ => rfl⟩
        rw [Reader.feed_of_ended ended]
        have closing' := closing.reframe f'
        rw [← sameLength, ← off] at closing'
        rw [← sameHead] at opcode rsv masked
        rw [← off] at some
        exact .closing closing' waiting.rested some opcode rsv masked
      · obtain ⟨p, front, -⟩ := call
        obtain ⟨frameCtx, ends⟩ := follows_proto f' closing.out
          (fun other => absurd closing.standing other) ended rfl rfl
        refine ⟨p, ?_, ?_, ?_, ?_⟩
        · rw [front]
          exact congrArg (p ++ ·.pending) frameCtx.symm
        · rw [Reader.feed_of_ended ended]
          exact .off ends
        · intro on
          exact absurd (ends.read.symm.trans on) Bool.false_ne_true
        · rw [Reader.feed_of_ended ended]
          exact fun other => absurd closing.standing other
      · obtain ⟨p, raw, took⟩ := call
        exact round_closing closing some opcode rsv masked took
  | off ends => exact absurd (ends.read.symm.trans read) Bool.false_ne_true

/-! ## The loop -/

/-- How the loop leaves the context. -/
structure Stops (done : Bytes) (told : List ControlEvent) (c : EventContext)
    (r : Reader) (stop : Stop) (p : Bytes) :
    Prop where
  front : c.frameCtx.pending = p ++ stop.ctx.frameCtx.pending
  follows : Follows done told stop.ctx (r.feed p)
  waiting : stop.ctx.readEnabled = true → stop.ctx.frameCtx.Waiting
  rc : (r.feed p).standing ≠ .closed → (r.feed p).standing ≠ .malformed → stop.rc = none

theorem recvLoop_spec (follows : Follows done told c r) {fuel : Nat}
    (enough : c.frameCtx.pending.length < fuel) :
    ∃ p, Stops done told c r (recvLoop fuel c) p := by
  induction fuel generalizing c r with
  | zero => exact absurd enough (Nat.not_lt_zero _)
  | succ fuel ih =>
      rw [recvLoop]
      by_cases read : c.readEnabled = true
      · have round := recvRound_spec follows read
        rw [if_pos read]
        generalize c.recvRound = result at round ⊢
        cases result with
        | error stop =>
            obtain ⟨p, front, follows', waiting, rc⟩ := round
            exact ⟨p, front, follows', waiting, rc⟩
        | ok c' =>
            obtain ⟨p, front, moved, follows'⟩ := round
            have shorter : c'.frameCtx.pending.length < fuel := by
              have positive := List.length_pos_iff.mpr moved
              rw [front, List.length_append] at enough
              omega
            obtain ⟨p', stops⟩ := ih follows' shorter
            refine ⟨p ++ p', ?_, ?_, stops.waiting, ?_⟩
            · rw [front, stops.front, List.append_assoc]
            · rw [Reader.feed_append]
              exact stops.follows
            · rw [Reader.feed_append]
              exact stops.rc
      · rw [if_neg read]
        exact ⟨[], rfl, follows, fun on => absurd on read, fun _ _ => rfl⟩

/-- The loop ends by itself. -/
theorem eventRecv_spec (follows : Follows done told c r) : ∃ p, Stops done told c r c.eventRecv p := by
  refine recvLoop_spec follows ?_
  rw [left, FrameContext.pending, List.length_append]
  exact Nat.lt_succ_self _

/-! ## Sections -/

/-- Only what belongs to sending has changed. -/
def Sends (c c' : EventContext) : Prop :=
  ∃ queue ctrlQueue outbound writeEnabled closeQueued closeSent, c' = { c with
    sendQueue := queue
    sendCtrlQueue := ctrlQueue
    outbound := outbound
    writeEnabled := writeEnabled
    closeQueued := closeQueued
    closeSent := closeSent }

theorem Sends.refl (c : EventContext) : c.Sends c := ⟨_, _, _, _, _, _, rfl⟩

theorem Sends.trans {c'' : EventContext} (first : c.Sends c') (later : c'.Sends c'') : c.Sends c'' := by
  obtain ⟨_, _, _, _, _, _, rfl⟩ := first
  obtain ⟨_, _, _, _, _, _, rfl⟩ := later
  exact ⟨_, _, _, _, _, _, rfl⟩

theorem sends_sendMessage (c : EventContext) (m : Omsg) : c.Sends (c.sendMessage m) := by
  unfold sendMessage
  dsimp only
  split <;> exact ⟨_, _, _, _, _, _, rfl⟩

theorem sends_sendCtrlQueuePop (c : EventContext) : c.Sends c.sendCtrlQueuePop.2 := by
  unfold sendCtrlQueuePop
  split
  · split <;> exact ⟨_, _, _, _, _, _, rfl⟩
  · exact ⟨_, _, _, _, _, _, rfl⟩

theorem sends_sendLoop (fuel : Nat) (c : EventContext) : c.Sends (sendLoop fuel c) := by
  induction fuel generalizing c with
  | zero => exact .refl c
  | succ fuel ih =>
      have popped := c.sends_sendCtrlQueuePop
      unfold sendLoop
      split
      · exact .refl c
      · split
        · split
          next m rest _ =>
            have taken : c.Sends { c with sendQueue := rest } := ⟨_, _, _, _, _, _, rfl⟩
            exact (taken.trans (sends_sendMessage _ m)).trans (ih _)
          next => exact .refl c
        · generalize c.sendCtrlQueuePop = result at popped ⊢
          obtain ⟨_ | m, c'⟩ := result
          · exact popped
          · exact (popped.trans (c'.sends_sendMessage m)).trans (ih _)

theorem sends_queueMsg (c : EventContext) (opcode : UInt8) (msg : Bytes) :
    c.Sends (c.queueMsg opcode msg).2 := by
  obtain ⟨queue, ctrlQueue, after⟩ := c.queueMsg_eq opcode msg
  exact ⟨_, _, _, _, _, _, after⟩

theorem sends_queueClose (c : EventContext) (statusCode : UInt16) (reason : Bytes) :
    c.Sends (c.queueClose statusCode reason).2 := by
  obtain ⟨queue, ctrlQueue, queued, after⟩ := c.queueClose_eq statusCode reason
  exact ⟨_, _, _, _, _, _, after⟩

/-- What the reader has got depends on the receiving side only, and on all that was handed on. -/
theorem Follows.move {done' : Bytes} {told' : List ControlEvent} (follows : Follows done told c r)
    (sends : c.Sends c') (toPeer : Bytes) (events : List ControlEvent)
    (out : done' ++ toPeer = done ++ c.toPeer)
    (seen : told' ++ State.hooked events = told ++ State.hooked c.controlEvents) :
    Follows done' told' { c' with toPeer := toPeer, controlEvents := events } r := by
  obtain ⟨_, _, _, _, _, _, rfl⟩ := sends
  cases follows with
  | live on told standing rested phase frame =>
      refine .live ⟨on.read, on.received⟩ ⟨out.trans told.out, seen.trans told.seen⟩ standing rested phase ?_
      show if c.frameCtx.off = 0 then _ else _
      split at frame
      next first =>
        rw [if_pos first]
        exact ⟨frame.interleaved, frame.ipayloadlen, frame.ipayloadoff, frame.message, frame.spare⟩
      next some =>
        rw [if_neg some]
        refine ⟨⟨on.read, on.received⟩, frame.ipayloadlen, frame.ipayloadoff,
          frame.frame.imp ?_ ?_, frame.rsv, frame.masked⟩
        · intro frame
          exact ⟨frame.interleaved, frame.message, frame.some, frame.fin,
            frame.spare, frame.data, frame.opcode⟩
        · intro frame
          exact ⟨frame.opcode, frame.kind, frame.fin, frame.chunks, frame.length, frame.utf8state,
            frame.control, frame.back⟩
  | closing closing rested some opcode rsv masked =>
      refine .closing ⟨?_, ⟨closing.on.read, closing.on.received⟩, closing.ipayloadlen, closing.ipayloadoff,
        closing.standing, ⟨out.trans closing.out.out,
          seen.trans closing.out.seen⟩⟩ rested some opcode rsv masked
      exact ⟨closing.close.opcode, closing.close.fin, closing.close.control⟩
  | off ends =>
      refine .off ⟨ends.read, ends.ended, ?_, ?_, ends.received, seen.trans ends.seen⟩
      · rw [out]
        exact ends.out
      · rw [out]
        exact ends.exact

/-- The callback has more. -/
def feedInbound (c : EventContext) (bytes : Bytes) : EventContext :=
  { c with frameCtx := { c.frameCtx with inbound := c.frameCtx.inbound ++ bytes } }

theorem Follows.feedInbound (follows : Follows done told c r) (bytes : Bytes) :
    Follows done told (c.feedInbound bytes) r := by
  cases follows with
  | live on out standing rested phase frame =>
      refine .live ⟨on.read, on.received⟩ ⟨out.out, out.seen⟩ standing
        ⟨⟨rested.sound.ext, rested.sound.maskkey, rested.sound.payload⟩, rested.missing⟩ phase ?_
      show if c.frameCtx.off = 0 then _ else _
      split at frame
      next first =>
        rw [if_pos first]
        exact frame.reframe _
      next some =>
        rw [if_neg some]
        exact frame.reframe _
  | closing closing rested some opcode rsv masked =>
      exact .closing (closing.reframe _)
        ⟨⟨rested.sound.ext, rested.sound.maskkey, rested.sound.payload⟩,
          rested.missing⟩ some opcode rsv masked
  | off ends => exact .off ⟨ends.read, ends.ended, ends.out, ends.exact, ends.received, ends.seen⟩

/-- Between two sections: what came is parsed, up to what is not enough to go on with. -/
structure Settled (done : Bytes) (told : List ControlEvent) (stream : Bytes) (c : EventContext) : Prop where
  parsed : ∃ p, stream = p ++ c.frameCtx.pending ∧ Follows done told c (Reader.fresh.feed p)
  waiting : c.readEnabled = true → c.frameCtx.Waiting
  toPeer : c.toPeer = []
  controlEvents : c.controlEvents = []

theorem settled_serverInit : Settled [] [] [] serverInit where
  parsed := ⟨[], rfl, .live ⟨rfl, rfl⟩ ⟨rfl, rfl⟩ rfl FrameContext.rested_init rfl
    ⟨rfl, rfl, rfl, ⟨⟨rfl, rfl, rfl⟩, rfl⟩, ⟨rfl, rfl, rfl⟩⟩⟩
  waiting _ := ⟨FrameContext.rested_init, rfl, Nat.two_pos⟩
  toPeer := rfl
  controlEvents := rfl

variable {stream : Bytes}

/-- A Close is seen in both. -/
theorem Follows.received (follows : Follows done told c r) (open_ : r.standing ≠ .closed) :
    c.closeReceived = false := by
  cases follows with
  | live on => exact on.received
  | closing closing => exact absurd closing.standing open_
  | off ends => exact ends.received open_

/-- What is not enough to go on with does not end the reading. -/
theorem Follows.standing_feed (follows : Follows done told c r)
    (waiting : c.readEnabled = true → c.frameCtx.Waiting) :
      (r.feed c.frameCtx.pending).standing = r.standing := by
  cases follows with
  | live on out standing rested phase frame =>
      obtain ⟨phase', fed⟩ := Reader.feed_waiting standing (waiting on.read) phase
      rw [fed]
  | closing closing =>
      rw [Reader.feed_of_ended (closing.standing ▸ Standing.noConfusion)]
  | off ends => rw [Reader.feed_of_ended ends.ended]

/-- Bytes come in. -/
theorem Settled.receive (settled : Settled done told stream c) (bytes : Bytes) :
    Settled (done ++ (c.receive bytes).1.toPeer) (told ++ State.hooked (c.receive bytes).1.events)
        (stream ++ bytes) (c.receive bytes).2 ∧
      ((Reader.fresh.feed (stream ++ bytes)).standing ≠ .closed →
        (Reader.fresh.feed (stream ++ bytes)).standing ≠ .malformed →
          (c.receive bytes).1.closed = false) := by
  obtain ⟨p, front, follows⟩ := settled.parsed
  obtain ⟨p', stops⟩ := eventRecv_spec (follows.feedInbound bytes)
  have sends := sends_sendLoop (((c.feedInbound bytes).eventRecv.ctx.sendCtrlQueue.length +
    (c.feedInbound bytes).eventRecv.ctx.sendQueue.length + 1)) (c.feedInbound bytes).eventRecv.ctx
  have parsed : stream ++ bytes = (p ++ p') ++ (c.feedInbound bytes).eventRecv.ctx.frameCtx.pending := by
    have arrived : (c.feedInbound bytes).frameCtx.pending = c.frameCtx.pending ++ bytes :=
      (List.append_assoc _ _ _).symm
    rw [front, List.append_assoc, ← arrived, stops.front, List.append_assoc]
  have after := stops.follows
  have rc := stops.rc
  have waiting := stops.waiting
  rw [← Reader.feed_append] at after rc
  have received := fun open_ => after.received open_
  have standing := after.standing_feed waiting
  rw [← Reader.feed_append, ← parsed] at standing
  generalize same : (c.feedInbound bytes).eventRecv = stop at *
  have sent : c.receive bytes = (⟨stop.ctx.eventSend.toPeer, stop.ctx.eventSend.outbound,
      stop.rc.isSome || stop.ctx.eventSend.closeReceived, stop.ctx.eventSend.controlEvents⟩,
      { stop.ctx.eventSend with toPeer := [], outbound := [], controlEvents := [] }) := by
    rw [← same]
    rfl
  rw [sent]
  unfold eventSend
  obtain ⟨queue, ctrlQueue, outbound, writeEnabled, closeQueued, closeSent, unmoved⟩ := sends
  rw [unmoved]
  have handed : stop.ctx.Sends { stop.ctx with
    sendQueue := queue
    sendCtrlQueue := ctrlQueue
    outbound := []
    writeEnabled := writeEnabled
    closeQueued := closeQueued
    closeSent := closeSent } := ⟨_, _, _, _, _, _, rfl⟩
  refine ⟨⟨⟨p ++ p', parsed, ?_⟩, waiting, rfl, rfl⟩, ?_⟩
  · refine after.move handed [] [] ?_ ?_
    · rw [List.append_nil]
    · exact List.append_nil _
  · intro open_ formed
    rw [standing] at open_ formed
    show (stop.rc.isSome || stop.ctx.closeReceived) = false
    rw [rc open_ formed, received open_]
    rfl

/-- Sending does not matter. -/
theorem Settled.sends (settled : Settled done told stream c) (sends : c.Sends c') :
    Settled done told stream c' := by
  obtain ⟨p, front, follows⟩ := settled.parsed
  have moved := follows.move sends [] [] (by rw [settled.toPeer]) (by rw [settled.controlEvents])
  have toPeer := settled.toPeer
  have events := settled.controlEvents
  obtain ⟨queue, ctrlQueue, outbound, writeEnabled, closeQueued, closeSent, rfl⟩ := sends
  refine ⟨⟨p, front, ?_⟩, settled.waiting, toPeer, events⟩
  rw [← toPeer, ← events] at moved
  exact moved

/-- A message is queued and sent. -/
theorem sends_post (c : EventContext) (message : Message) : c.Sends (c.post message).2 := by
  have queued (c' : EventContext) (sends : c.Sends c') : c.Sends { c'.eventSend with outbound := [] } :=
    (sends.trans (sends_sendLoop _ c')).trans ⟨_, _, _, _, _, _, rfl⟩
  unfold EventContext.post takeOutbound
  cases message with
  | binary payload => exact queued _ (c.sends_queueMsg BINARY_FRAME payload)
  | ping payload => exact queued _ (c.sends_queueMsg PING payload)
  | pong payload => exact queued _ (c.sends_queueMsg PONG payload)
  | close frame => exact queued _ (c.sends_queueClose frame.code (Utf8.octets frame.reason))

/-- Without reading, bytes are only kept. -/
theorem receive_of_off (off : c.readEnabled = false) (toPeer : c.toPeer = []) (events : c.controlEvents = [])
    (bytes : Bytes) : ∃ outbound c', c.receive bytes = (⟨[], outbound, c.closeReceived, []⟩, c') ∧
      (c.feedInbound bytes).Sends c' := by
  have none : (c.feedInbound bytes).eventRecv = ⟨none, c.feedInbound bytes⟩ := by
    have read : (c.feedInbound bytes).readEnabled = false := off
    rw [eventRecv, recvLoop, read, if_neg Bool.false_ne_true]
  have sends := sends_sendLoop ((c.feedInbound bytes).sendCtrlQueue.length +
    (c.feedInbound bytes).sendQueue.length + 1) (c.feedInbound bytes)
  obtain ⟨queue, ctrlQueue, outbound, writeEnabled, closeQueued, closeSent, unmoved⟩ := sends
  refine ⟨outbound, { c.feedInbound bytes with
    sendQueue := queue
    sendCtrlQueue := ctrlQueue
    outbound := []
    writeEnabled := writeEnabled
    closeQueued := closeQueued
    closeSent := closeSent }, ?_, ⟨_, _, _, _, _, _, rfl⟩⟩
  have parted : c.receive bytes = (⟨(c.feedInbound bytes).eventRecv.ctx.eventSend.toPeer,
      (c.feedInbound bytes).eventRecv.ctx.eventSend.outbound,
      (c.feedInbound bytes).eventRecv.rc.isSome ||
        (c.feedInbound bytes).eventRecv.ctx.eventSend.closeReceived,
      (c.feedInbound bytes).eventRecv.ctx.eventSend.controlEvents⟩,
    { (c.feedInbound bytes).eventRecv.ctx.eventSend with
      toPeer := [], outbound := [], controlEvents := [] }) := rfl
  rw [parted, none, eventSend, unmoved]
  simp only [feedInbound, toPeer, events, Option.isSome_none, Bool.false_or]

/-- What was handed on so far is what the reader has got from all that came. -/
theorem Settled.reads (settled : Settled done told stream c) :
    done <+: (Reader.fresh.feed stream).out ∧
      ((Reader.fresh.feed stream).standing ≠ .illFormed → done = (Reader.fresh.feed stream).out) ∧
      told = (Reader.fresh.feed stream).seen := by
  obtain ⟨p, front, follows⟩ := settled.parsed
  have toPeer := settled.toPeer
  have events := settled.controlEvents
  have none : State.hooked [] = [] := rfl
  rw [front, Reader.feed_append]
  cases follows with
  | live on out standing rested phase frame =>
      obtain ⟨phase', fed⟩ := Reader.feed_waiting standing (settled.waiting on.read) phase
      have got := out.out
      have seen := out.seen
      rw [toPeer, List.append_nil] at got
      rw [events, none, List.append_nil] at seen
      rw [fed]
      exact ⟨got ▸ List.prefix_refl _, fun _ => got, seen⟩
  | closing closing =>
      have ended : (Reader.fresh.feed p).standing ≠ .live := by
        rw [closing.standing]
        exact Standing.noConfusion
      have got := closing.out.out
      have seen := closing.out.seen
      rw [toPeer, List.append_nil] at got
      rw [events, none, List.append_nil] at seen
      rw [Reader.feed_of_ended ended]
      exact ⟨got ▸ List.prefix_refl _, fun _ => got, seen⟩
  | off ends =>
      have out := ends.out
      have exact_ := ends.exact
      have seen := ends.seen
      rw [toPeer, List.append_nil] at out exact_
      rw [events, none, List.append_nil] at seen
      rw [Reader.feed_of_ended ends.ended]
      exact ⟨out, exact_, seen⟩

end EventContext

end Wslay

end H2ts
