import H2ts.Wslay.Receive

/-!
# The chunks of a frame

A chunk is checked, handed on and counted.  With the last one of a frame the frame is complete,
and maybe the message.
-/

namespace H2ts

namespace Wslay

open BigEndian Bridge WebSocket

namespace EventContext

variable {c c' : EventContext} {r r' : Reader} {f : FrameContext} {head : Head} {length off : Nat}
  {done data : Bytes} {told : List ControlEvent}

/-- What can come of a chunk that ends at `off`. -/
def Accepted (done : Bytes) (told : List ControlEvent) (head : Head) (length off : Nat) (r : Reader) :
    Except Stop EventContext → Prop
  | .error stop => stop.rc = none ∧ Off done told stop.ctx r
  | .ok c => r.standing = .live ∧ c.On ∧ Told done told c r ∧
      if off = length then c.Between r else c.Within r head length off

/-! ## The end of a frame -/

/-- The frame of a message that goes on. -/
theorem endFrame_more (fin : c.imsg.fin = false) :
    c.endFrame = { c with ipayloadlen := 0, ipayloadoff := 0 } := by
  rw [endFrame, fin]
  rfl

/-- The last frame of a message. -/
theorem endFrame_last (fin : c.imsg.fin = true) :
    c.endFrame = { c.setImsg c.imsg.reset with
      interleaved := false, ipayloadlen := 0, ipayloadoff := 0 } := by
  rw [endFrame, fin]
  rfl

theorem idle_reset (m : Imsg) : Idle m.reset := ⟨rfl, rfl, rfl⟩

theorem finishMessage_data (opcode : c.imsg.opcode = TEXT_FRAME ∨ c.imsg.opcode = BINARY_FRAME) :
    c.finishMessage = .ok c := by
  rw [finishMessage]
  rcases opcode with same | same <;> rw [same] <;> rfl

theorem finishFrame_more (fin : c.imsg.fin = false) : c.finishFrame = .ok c.endFrame := by
  rw [finishFrame, fin]
  rfl

theorem finishFrame_illFormed (fin : c.imsg.fin = true)
    (checked : c.imsg.opcode = TEXT_FRAME ∨ c.imsg.opcode = CONNECTION_CLOSE)
    (illFormed : c.imsg.utf8state ≠ UTF8_ACCEPT) :
    c.finishFrame = .error (c.refuse CODE_INVALID_FRAME_PAYLOAD_DATA) := by
  rw [finishFrame, fin, Bool.true_and, if_pos]
  simpa [illFormed] using checked

theorem finishFrame_last (fin : c.imsg.fin = true) (formed : c.imsg.utf8state = UTF8_ACCEPT ∨
      c.imsg.opcode ≠ TEXT_FRAME ∧ c.imsg.opcode ≠ CONNECTION_CLOSE) :
    c.finishFrame = c.finishMessage >>= fun c => .ok c.endFrame := by
  rw [finishFrame, fin, Bool.true_and, if_neg, if_pos rfl]
  simp only [Bool.and_eq_true, Bool.or_eq_true, decide_eq_true_eq, ne_eq]
  rintro ⟨checked, illFormed⟩
  rcases formed with formed | ⟨text, close⟩
  · exact illFormed formed
  · exact checked.elim text close

/-- A frame of data is complete. -/
theorem finish_data (live : r.standing = .live) (on : c.On)
    (frame : c.InData r head) (out : Told done told c r) :
    Accepted done told head length length (r.finish head) c.finishFrame := by
  have first : c.imsg = c.imsgs0 := by
    rw [imsg, frame.interleaved]
    rfl
  obtain ⟨text, message⟩ := Option.isSome_iff_exists.mp frame.some
  have holds := frame.message
  rw [Holds, message] at holds
  obtain ⟨opcode, utf8state, chunks, length', formed⟩ := holds
  rw [Reader.finish]
  dsimp only
  rw [frame.opcode, if_neg Bool.false_ne_true, message]
  cases fin : head.memo.fin with
  | false =>
      have fin' : c.imsg.fin = false := by rw [first, frame.fin, fin]
      rw [finishFrame_more fin', endFrame_more fin', if_neg Bool.false_ne_true]
      refine ⟨live, ⟨on.read, on.received⟩, ⟨out.out, out.seen⟩, (if_pos rfl).mpr ?_⟩
      exact ⟨frame.interleaved, rfl, rfl, ⟨opcode, utf8state, chunks, length', formed⟩, frame.spare⟩
  | true =>
      have fin' : c.imsg.fin = true := by rw [first, frame.fin, fin]
      rw [if_pos rfl]
      by_cases illFormed : text = true ∧ r.utf8 ≠ UTF8_ACCEPT
      · have checked : c.imsg.opcode = TEXT_FRAME ∨ c.imsg.opcode = CONNECTION_CLOSE := by
          rw [first, opcode, if_pos illFormed.1]
          exact .inl rfl
        have state : c.imsg.utf8state ≠ UTF8_ACCEPT := by
          rw [first, utf8state]
          exact illFormed.2
        rw [finishFrame_illFormed fin' checked state, if_pos ⟨congrArg some illFormed.1, illFormed.2⟩]
        refine ⟨c.refuse_rc _,
          out.refuse (fun _ => on.received) _ Standing.noConfusion (List.prefix_refl _) (fun _ => rfl) rfl⟩
      · have kind : c.imsg.opcode = TEXT_FRAME ∨ c.imsg.opcode = BINARY_FRAME := by
          rw [first, opcode]
          cases text with
          | true => exact .inl rfl
          | false => exact .inr rfl
        have state : c.imsg.utf8state = UTF8_ACCEPT ∨
            c.imsg.opcode ≠ TEXT_FRAME ∧ c.imsg.opcode ≠ CONNECTION_CLOSE := by
          rw [first, utf8state, opcode]
          cases text with
          | true => exact .inl (not_not.mp fun state => illFormed ⟨rfl, state⟩)
          | false => exact .inr (by decide)
        have illFormed' : ¬ (some text = some true ∧ r.utf8 ≠ UTF8_ACCEPT) := by
          rintro ⟨same, state⟩
          exact illFormed ⟨Option.some.inj same, state⟩
        rw [finishFrame_last fin' state, finishMessage_data kind, if_neg illFormed']
        show Accepted done told head length length _ (.ok c.endFrame)
        have after : c.setImsg c.imsg.reset = { c with imsgs0 := c.imsgs0.reset } := by
          rw [setImsg, frame.interleaved, first]
          rfl
        rw [endFrame_last fin', after]
        refine ⟨live, ⟨on.read, on.received⟩, ⟨out.out, out.seen⟩, (if_pos rfl).mpr ?_⟩
        exact ⟨rfl, rfl, rfl, ⟨idle_reset _, rfl⟩, frame.spare⟩

/-- A ping is answered, if something can still be sent. -/
theorem takePing_eq (c : EventContext) {msg : Bytes} (short : msg.length ≤ 125) :
    ∃ queue ctrlQueue, c.takePing msg =
      .ok ({ c with sendQueue := queue, sendCtrlQueue := ctrlQueue }.event (.ping msg)) := by
  have fits : decide (125 < msg.length) = false := decide_eq_false (Nat.not_lt.mpr short)
  have control : isCtrlFrame PONG = true := by decide
  unfold takePing queueMsg
  cases c.isMsgQueueable with
  | false => exact ⟨c.sendQueue, c.sendCtrlQueue, rfl⟩
  | true =>
      rw [control, fits]
      exact ⟨c.sendQueue, c.sendCtrlQueue ++ [⟨PONG, msg⟩], rfl⟩

theorem hooked_event (c : EventContext) {e : ControlEvent} (shown : ∀ code reason, e ≠ .close code reason) :
    State.hooked (c.event e).controlEvents = State.hooked c.controlEvents ++ [e] := by
  rw [event, State.hooked, State.hooked, List.filter_append]
  congr 1
  cases e with
  | close code reason => exact absurd rfl (shown code reason)
  | ping payload => rfl
  | pong payload => rfl

/-- Back to the message that the control frame came in the middle of. -/
theorem endFrame_control (frame : c.InControl r head off) : c.endFrame.Between r := by
  have back := frame.back
  rw [endFrame_last frame.fin, setImsg]
  cases inter : c.interleaved with
  | true =>
      rw [inter, if_pos rfl] at back
      exact ⟨rfl, rfl, rfl, back.1, idle_reset _⟩
  | false =>
      rw [inter, if_neg Bool.false_ne_true] at back
      refine ⟨rfl, rfl, rfl, ?_, back.2.2⟩
      rw [Holds, back.1]
      exact ⟨idle_reset _, back.2.1⟩

/-- What the end of a frame leaves alone. -/
theorem endFrame_eq (c : EventContext) : ∃ m0 m1 interleaved, c.endFrame =
    { c with
      imsgs0 := m0, imsgs1 := m1, interleaved := interleaved, ipayloadlen := 0, ipayloadoff := 0 } := by
  cases fin : c.imsg.fin with
  | false => exact ⟨_, _, _, endFrame_more fin⟩
  | true =>
      obtain ⟨m0, m1, after, -⟩ := c.setImsg_eq c.imsg.reset
      rw [endFrame_last fin, after]
      exact ⟨m0, m1, false, rfl⟩

/-- The hook gets a ping or a pong, and the frame is complete. -/
theorem accepted_event {e : ControlEvent} (live : r.standing = .live)
    (on : c.On) (frame : c.InControl r head off)
    (out : Told done told c r) (shown : ∀ code reason, e ≠ .close code reason) :
    Accepted done told head length length { r with phase := .first, seen := r.seen ++ [e] }
      (.ok (c.event e).endFrame) := by
  have frame' : (c.event e).InControl { r with phase := .first, seen := r.seen ++ [e] } head off :=
    ⟨frame.opcode, frame.kind, frame.fin, frame.chunks, frame.length,
      frame.utf8state, frame.control, frame.back⟩
  have between := endFrame_control frame'
  have hooked := c.hooked_event shown
  obtain ⟨m0, m1, interleaved, after⟩ := (c.event e).endFrame_eq
  rw [after] at between ⊢
  refine ⟨live, ⟨on.read, on.received⟩, ⟨out.out, ?_⟩, (if_pos rfl).mpr between⟩
  show told ++ State.hooked (c.event e).controlEvents = r.seen ++ [e]
  rw [hooked, ← List.append_assoc, out.seen]

theorem finishMessage_ping (opcode : c.imsg.opcode = PING) : c.finishMessage = c.takePing c.imsg.chunks := by
  rw [finishMessage, opcode]
  rfl

theorem finishMessage_pong (opcode : c.imsg.opcode = PONG) :
    c.finishMessage = .ok (c.event (.pong c.imsg.chunks)) := by
  rw [finishMessage, opcode]
  rfl

/-- A ping or a pong is complete. -/
theorem finish_control (live : r.standing = .live) (on : c.On) (frame : c.InControl r head off)
    (short : off ≤ 125) (out : Told done told c r) :
    Accepted done told head length length (r.finish head) c.finishFrame := by
  have control : isCtrlFrame head.memo.opcode = true := by
    rcases frame.kind with same | same <;> rw [same] <;> decide
  have state : c.imsg.utf8state = UTF8_ACCEPT ∨
      c.imsg.opcode ≠ TEXT_FRAME ∧ c.imsg.opcode ≠ CONNECTION_CLOSE := .inl frame.utf8state
  rw [finishFrame_last frame.fin state, Reader.finish]
  dsimp only
  rw [if_pos control]
  rcases frame.kind with ping | pong
  · obtain ⟨queue, ctrlQueue, taken⟩ := c.takePing_eq (frame.length.trans_le short)
    have frame' : ({ c with
      sendQueue := queue, sendCtrlQueue := ctrlQueue } : EventContext).InControl r head off :=
      ⟨frame.opcode, frame.kind, frame.fin, frame.chunks, frame.length,
        frame.utf8state, frame.control, frame.back⟩
    rw [finishMessage_ping (frame.opcode.trans ping), frame.chunks, taken, if_pos ping]
    exact accepted_event live ⟨on.read, on.received⟩ frame' ⟨out.out, out.seen⟩
      fun code reason => ControlEvent.noConfusion
  · have other : head.memo.opcode ≠ PING := by
      rw [pong]
      decide
    rw [finishMessage_pong (frame.opcode.trans pong), frame.chunks, if_neg other]
    exact accepted_event live on frame out fun code reason => ControlEvent.noConfusion

/-! ## Chunks -/

theorem validate_other (unchecked : c.imsg.opcode ≠ TEXT_FRAME ∧ c.imsg.opcode ≠ CONNECTION_CLOSE)
    (iocb : Iocb) :
    c.validate iocb = .ok c := by
  rw [validate, if_neg]
  simpa using unchecked

theorem validate_text (checked : c.imsg.opcode = TEXT_FRAME) (data : Bytes) :
    ∃ m : Imsg, c.validate (f.iocb data) =
        (if m.utf8state = UTF8_REJECT then .error ((c.setImsg m).refuse CODE_INVALID_FRAME_PAYLOAD_DATA)
          else .ok (c.setImsg m)) ∧
      m.opcode = c.imsg.opcode ∧ m.fin = c.imsg.fin ∧ m.chunks = c.imsg.chunks ∧
      m.msgLength = c.imsg.msgLength ∧ m.utf8state = data.foldl decode c.imsg.utf8state := by
  refine ⟨{ c.imsg with utf8state := data.foldl decode c.imsg.utf8state }, ?_, rfl, rfl, rfl, rfl, rfl⟩
  rw [validate, checked]
  rfl

/-- A chunk of data is handed on. -/
theorem deliver_data (isData : isCtrlFrame f.iom.opcode = false)
    (current : c.curIsData = true) (data : Bytes) :
    c.deliver (f.iocb data) = { c with
      toPeer := c.toPeer ++ data
      ipayloadoff := c.ipayloadoff + data.length } := by
  have isData' : isCtrlFrame (f.iocb data).opcode = false := isData
  rw [deliver, isData', current]
  rfl

/-- A chunk of the payload of a control frame is kept. -/
theorem deliver_control (control : isCtrlFrame f.iom.opcode = true)
    (current : c.curIsData = false) (data : Bytes) :
    ∃ m : Imsg, c.deliver (f.iocb data) =
        { c.setImsg m with ipayloadoff := c.ipayloadoff + data.length } ∧
      m.opcode = c.imsg.opcode ∧ m.fin = c.imsg.fin ∧ m.chunks = c.imsg.chunks ++ data ∧
      m.utf8state = c.imsg.utf8state := by
  have control' : isCtrlFrame (f.iocb data).opcode = true := control
  refine ⟨{ c.imsg with chunks := c.imsg.chunks ++ data }, ?_, rfl, rfl, rfl, rfl⟩
  rw [deliver, control', current]
  unfold setImsg
  cases inter : c.interleaved <;> simp [imsg, inter, FrameContext.iocb, current]

theorem Within.rephase (within : c.Within r head length off) (phase : Phase) :
    c.Within { r with phase := phase } head length off := by
  refine ⟨within.on, within.ipayloadlen, within.ipayloadoff,
    within.frame.imp ?_ ?_, within.rsv, within.masked⟩
  · intro frame
    exact ⟨frame.interleaved, frame.message, frame.some, frame.fin, frame.spare, frame.data, frame.opcode⟩
  · intro frame
    exact ⟨frame.opcode, frame.kind, frame.fin, frame.chunks, frame.length, frame.utf8state, frame.control,
      frame.back⟩

/-- After a chunk, the frame is complete or goes on. -/
theorem accepted_reach (live : r.standing = .live) (within : c.Within r head length off)
    (out : Told done told c r)
    (short : isCtrlFrame head.memo.opcode = true → length ≤ 125) (key : Fin 4 → UInt8) :
    Accepted done told head length off (r.reach head length key off)
      (if c.ipayloadoff = c.ipayloadlen then c.finishFrame else .ok c) := by
  rw [Reader.reach, if_neg (not_not.mpr live), within.ipayloadoff, within.ipayloadlen]
  by_cases whole : off = length
  · rw [if_pos whole, if_pos whole, whole]
    rcases within.frame with frame | frame
    · exact finish_data live within.on frame out
    · have control : isCtrlFrame head.memo.opcode = true := by
        rcases frame.kind with same | same <;> rw [same] <;> decide
      exact finish_control live within.on frame (whole.trans_le (short control)) out
  · rw [if_neg whole, if_neg whole]
    exact ⟨live, within.on, ⟨out.out, out.seen⟩, (if_neg whole).mpr (within.rephase _)⟩

/-- A chunk of a ping or a pong. -/
theorem accept_control (live : r.standing = .live) (within : c.Within r f.head f.ipayloadlen off)
    (frame : c.InControl r f.head off) (whole : f.Whole) (out : Told done told c r) (data : Bytes)
    (key : Fin 4 → UInt8) :
    Accepted done told f.head f.ipayloadlen (off + data.length)
      ((r.puts f.head data).reach f.head f.ipayloadlen key (off + data.length)) (c.accept (f.iocb data)) := by
  have control : isCtrlFrame f.head.memo.opcode = true := by
    rcases frame.kind with same | same <;> rw [same] <;> decide
  have unchecked : c.imsg.opcode ≠ TEXT_FRAME ∧ c.imsg.opcode ≠ CONNECTION_CLOSE := by
    rw [frame.opcode]
    rcases frame.kind with same | same <;> rw [same] <;> decide
  obtain ⟨m, delivered, opcode, fin, chunks, utf8state⟩ := deliver_control (f := f) control frame.control data
  have message := c.imsg_setImsg m
  obtain ⟨m0, m1, after, kept⟩ := c.setImsg_eq m
  rw [accept, validate_other unchecked]
  show Accepted _ _ _ _ _ _ (if (c.deliver (f.iocb data)).ipayloadoff =
    (c.deliver (f.iocb data)).ipayloadlen then
    (c.deliver (f.iocb data)).finishFrame else .ok (c.deliver (f.iocb data)))
  rw [Reader.puts_control live control]
  refine accepted_reach (r := { r with control := r.control ++ data }) live ?_ ?_
    (fun _ => (whole control).2) key
  · rw [after] at message
    rw [delivered, after]
    refine ⟨⟨within.on.read, within.on.received⟩, within.ipayloadlen,
      congrArg (· + data.length) within.ipayloadoff,
      .inr ⟨?_, frame.kind, ?_, ?_, ?_, ?_, frame.control, ?_⟩, within.rsv, within.masked⟩
    · exact (congrArg Imsg.opcode message).trans (opcode.trans frame.opcode)
    · exact (congrArg Imsg.fin message).trans (fin.trans frame.fin)
    · refine (congrArg Imsg.chunks message).trans (chunks.trans ?_)
      rw [frame.chunks]
    · show (r.control ++ data).length = off + data.length
      rw [List.length_append, frame.length]
    · exact (congrArg Imsg.utf8state message).trans (utf8state.trans frame.utf8state)
    · have back := frame.back
      cases inter : c.interleaved with
      | true =>
          simp only [inter, if_true] at back kept ⊢
          rw [kept]
          exact back
      | false =>
          simp only [inter, Bool.false_eq_true, if_false] at back kept ⊢
          rw [kept]
          exact back
  · rw [delivered, after]
    exact ⟨out.out, out.seen⟩

/-- A chunk of text, or of anything. -/
theorem accept_data (live : r.standing = .live) (within : c.Within r f.head f.ipayloadlen off)
    (frame : c.InData r f.head) (out : Told done told c r) (data : Bytes) (key : Fin 4 → UInt8) :
    Accepted done told f.head f.ipayloadlen (off + data.length)
      ((r.puts f.head data).reach f.head f.ipayloadlen key (off + data.length)) (c.accept (f.iocb data)) := by
  have first : c.imsg = c.imsgs0 := by
    rw [imsg, frame.interleaved]
    rfl
  obtain ⟨text, message⟩ := Option.isSome_iff_exists.mp frame.some
  have holds := frame.message
  rw [Holds, message] at holds
  obtain ⟨opcode, utf8state, chunks, length', formed⟩ := holds
  have fits : isCtrlFrame f.head.memo.opcode = true → f.ipayloadlen ≤ 125 := by
    rw [frame.opcode]
    exact fun control => absurd control Bool.false_ne_true
  rw [accept]
  cases text with
  | false =>
      have unchecked : c.imsg.opcode ≠ TEXT_FRAME ∧ c.imsg.opcode ≠ CONNECTION_CLOSE := by
        rw [first, opcode]
        decide
      have binary : r.message ≠ some true := by
        rw [message]
        decide
      rw [validate_other unchecked, Reader.puts_binary live frame.opcode binary]
      show Accepted _ _ _ _ _ _ (if (c.deliver (f.iocb data)).ipayloadoff =
        (c.deliver (f.iocb data)).ipayloadlen then
        (c.deliver (f.iocb data)).finishFrame else .ok (c.deliver (f.iocb data)))
      rw [deliver_data frame.opcode frame.data]
      refine accepted_reach (r := { r with out := r.out ++ data }) live ?_ ?_ fits key
      · exact ⟨⟨within.on.read, within.on.received⟩, within.ipayloadlen,
          congrArg (· + data.length) within.ipayloadoff,
          .inl ⟨frame.interleaved, frame.message, frame.some, frame.fin, frame.spare, frame.data,
            frame.opcode⟩,
          within.rsv, within.masked⟩
      · refine ⟨?_, out.seen⟩
        show done ++ (c.toPeer ++ data) = r.out ++ data
        rw [← List.append_assoc, out.out]
  | true =>
      have checked : c.imsg.opcode = TEXT_FRAME := by
        rw [first, opcode]
        rfl
      obtain ⟨m, validated, opcode', fin', chunks'', length'', utf8state'⟩ :=
        validate_text (f := f) checked data
      rw [first] at opcode' fin' chunks'' length'' utf8state'
      rw [utf8state] at utf8state'
      have after : c.setImsg m = { c with imsgs0 := m } := by
        rw [setImsg, frame.interleaved]
        rfl
      rw [validated, after]
      have out' : Told done told { c with imsgs0 := m } r := ⟨out.out, out.seen⟩
      by_cases wrong : m.utf8state = UTF8_REJECT
      · rw [utf8state'] at wrong
        obtain ⟨standing, longer, seen⟩ := Reader.puts_illFormed live frame.opcode message formed wrong
        have ended : (r.puts f.head data).standing ≠ .live := by
          rw [standing]
          exact Standing.noConfusion
        rw [if_pos (utf8state'.trans wrong), Reader.reach_of_ended ended]
        exact ⟨refuse_rc _ _, out'.refuse (fun _ => within.on.received) _ ended longer
          (fun formed => absurd standing formed) seen⟩
      · rw [if_neg wrong]
        rw [utf8state'] at wrong
        rw [Reader.puts_text live frame.opcode message wrong]
        have delivered := deliver_data (c := { c with imsgs0 := m }) frame.opcode frame.data data
        show Accepted _ _ _ _ _ _
          (if (deliver { c with imsgs0 := m } (f.iocb data)).ipayloadoff =
              (deliver { c with imsgs0 := m } (f.iocb data)).ipayloadlen then
            (deliver { c with imsgs0 := m } (f.iocb data)).finishFrame
          else .ok (deliver { c with imsgs0 := m } (f.iocb data)))
        rw [delivered]
        refine accepted_reach (r := { r with utf8 := data.foldl decode r.utf8, out := r.out ++ data }) live
          ?_ ?_ fits key
        · refine ⟨⟨within.on.read, within.on.received⟩, within.ipayloadlen,
            congrArg (· + data.length) within.ipayloadoff,
            .inl ⟨frame.interleaved, ?_, frame.some, fin'.trans frame.fin, frame.spare, frame.data,
              frame.opcode⟩,
            within.rsv, within.masked⟩
          rw [Holds, message]
          exact ⟨opcode'.trans opcode, utf8state', chunks''.trans chunks, length''.trans length', wrong⟩
        · refine ⟨?_, out.seen⟩
          show done ++ (c.toPeer ++ data) = r.out ++ data
          rw [← List.append_assoc, out.out]

/-! ## A Close -/

/-- In a Close, of which `off` bytes are taken. -/
structure Closing (done : Bytes) (told : List ControlEvent)
    (c : EventContext) (r : Reader) (length off : Nat) :
    Prop where
  close : c.InClose
  on : c.On
  ipayloadlen : c.ipayloadlen = length
  ipayloadoff : c.ipayloadoff = off
  standing : r.standing = .closed
  out : Told done told c r

/-- Reading ends, with an error or without. -/
def Ends (done : Bytes) (told : List ControlEvent) (r : Reader) : Except Stop EventContext → Prop
  | .error stop => Off done told stop.ctx r
  | .ok c => Off done told c r

/-- A Close goes on or ends the reading. -/
def Shuts (done : Bytes) (told : List ControlEvent) (r : Reader) (length off : Nat) :
    Except Stop EventContext → Prop
  | .error stop => Off done told stop.ctx r
  | .ok c => Off done told c r ∨ off ≠ length ∧ Closing done told c r length off

theorem Ends.shuts {x : Except Stop EventContext} (ends : Ends done told r x) :
    Shuts done told r length off x := by
  cases x with
  | error stop => exact ends
  | ok c => exact .inl ends

/-- With reading off, it is over. -/
theorem Told.closed (out : Told done told c r) (standing : r.standing = .closed)
    (read : c.readEnabled = false) :
    Off done told c r := by
  refine ⟨read, ?_, ?_, fun _ => out.out, fun other => absurd standing other, out.seen⟩
  · rw [standing]
    exact Standing.noConfusion
  · rw [out.out]

theorem ends_takeClose (out : Told done told c r) (standing : r.standing = .closed) (statusCode : UInt16)
    (reason : Bytes) : Ends done told r (c.takeClose statusCode reason) := by
  obtain ⟨queue, ctrlQueue, queued, after⟩ :=
    { c with closeReceived := true }.queueCloseWrapper_eq statusCode reason
  unfold takeClose
  generalize { c with closeReceived := true }.queueCloseWrapper statusCode reason = result at after ⊢
  obtain ⟨_ | error, c'⟩ := result
  · obtain rfl : c' = _ := after
    refine Told.closed ⟨out.out, ?_⟩ standing rfl
    have hidden : State.hooked (c.controlEvents ++ [.close statusCode reason]) =
      State.hooked c.controlEvents := by
      rw [State.hooked, List.filter_append]
      exact List.append_nil _
    show told ++ State.hooked (c.controlEvents ++ [.close statusCode reason]) = r.seen
    rw [hidden]
    exact out.seen
  · obtain rfl : c' = _ := after
    exact Told.closed ⟨out.out, out.seen⟩ standing rfl

theorem off_refuse (out : Told done told c r) (standing : r.standing = .closed) (statusCode : UInt16) :
    Off done told (c.refuse statusCode).ctx r := by
  refine out.refuse (fun other => absurd standing other) statusCode ?_ (List.prefix_refl _) (fun _ => rfl) rfl
  rw [standing]
  exact Standing.noConfusion

theorem ends_finishMessage (close : c.InClose) (out : Told done told c r) (standing : r.standing = .closed) :
    Ends done told r c.finishMessage := by
  unfold finishMessage
  dsimp only
  rw [close.opcode, if_pos rfl]
  split
  · split
    · exact off_refuse out standing CODE_PROTOCOL_ERROR
    · exact ends_takeClose out standing _ _
  · exact ends_takeClose out standing 0 []

theorem ends_finishFrame (close : c.InClose) (out : Told done told c r) (standing : r.standing = .closed) :
    Ends done told r c.finishFrame := by
  by_cases formed : c.imsg.utf8state = UTF8_ACCEPT
  · have ends := ends_finishMessage close out standing
    rw [finishFrame_last close.fin (.inl formed)]
    generalize c.finishMessage = result at ends ⊢
    cases result with
    | error stop => exact ends
    | ok c' =>
        obtain ⟨m0, m1, interleaved, after⟩ := c'.endFrame_eq
        show Off done told c'.endFrame r
        rw [after]
        exact ⟨ends.read, ends.ended, ends.out, ends.exact, ends.received, ends.seen⟩
  · rw [finishFrame_illFormed close.fin (.inr close.opcode) formed]
    exact off_refuse out standing CODE_INVALID_FRAME_PAYLOAD_DATA

theorem validate_close (checked : c.imsg.opcode = CONNECTION_CLOSE) (iocb : Iocb) :
    ∃ m : Imsg, c.validate iocb =
        (if m.utf8state = UTF8_REJECT then .error ((c.setImsg m).refuse CODE_INVALID_FRAME_PAYLOAD_DATA)
          else .ok (c.setImsg m)) ∧
      m.opcode = c.imsg.opcode ∧ m.fin = c.imsg.fin := by
  refine ⟨{ c.imsg with utf8state := (iocb.data.drop 2).foldl decode c.imsg.utf8state }, ?_, rfl, rfl⟩
  rw [validate, checked]
  rfl

/-- A message is replaced by one of the same kind. -/
theorem Closing.setImsg (closing : Closing done told c r length off)
    {m : Imsg} (opcode : m.opcode = c.imsg.opcode)
    (fin : m.fin = c.imsg.fin) : Closing done told (c.setImsg m) r length off := by
  have message := c.imsg_setImsg m
  obtain ⟨m0, m1, after, -⟩ := c.setImsg_eq m
  rw [after] at message ⊢
  refine ⟨⟨?_, ?_, closing.close.control⟩, ⟨closing.on.read, closing.on.received⟩, closing.ipayloadlen,
    closing.ipayloadoff, closing.standing, ⟨closing.out.out, closing.out.seen⟩⟩
  · exact (congrArg Imsg.opcode message).trans (opcode.trans closing.close.opcode)
  · exact (congrArg Imsg.fin message).trans (fin.trans closing.close.fin)

/-- A chunk of a Close. -/
theorem accept_close (closing : Closing done told c r length off) (opcode : f.iom.opcode = CONNECTION_CLOSE)
    (data : Bytes) : Shuts done told r length (off + data.length) (c.accept (f.iocb data)) := by
  obtain ⟨m, validated, opcode', fin'⟩ := validate_close closing.close.opcode (f.iocb data)
  have closing' := closing.setImsg opcode' fin'
  have control : isCtrlFrame f.iom.opcode = true := by
    rw [opcode]
    decide
  rw [accept, validated]
  generalize c.setImsg m = c₁ at closing' ⊢
  by_cases wrong : m.utf8state = UTF8_REJECT
  · rw [if_pos wrong]
    exact off_refuse closing'.out closing.standing CODE_INVALID_FRAME_PAYLOAD_DATA
  · rw [if_neg wrong]
    obtain ⟨m', delivered, opcode'', fin'', -, -⟩ :=
      deliver_control (f := f) control closing'.close.control data
    have closing'' := closing'.setImsg opcode'' fin''
    show Shuts _ _ _ _ _ (if (c₁.deliver (f.iocb data)).ipayloadoff =
      (c₁.deliver (f.iocb data)).ipayloadlen then
      (c₁.deliver (f.iocb data)).finishFrame else .ok (c₁.deliver (f.iocb data)))
    have off' : c₁.ipayloadoff = off := closing'.ipayloadoff
    rw [delivered]
    generalize c₁.setImsg m' = c₂ at closing'' ⊢
    have closing₃ : Closing done told { c₂ with ipayloadoff := c₁.ipayloadoff + data.length } r length
        (off + data.length) := by
      refine ⟨⟨closing''.close.opcode, closing''.close.fin, closing''.close.control⟩,
        ⟨closing''.on.read, closing''.on.received⟩, closing''.ipayloadlen, ?_, closing''.standing,
        ⟨closing''.out.out, closing''.out.seen⟩⟩
      rw [off']
    rw [closing₃.ipayloadoff, closing₃.ipayloadlen]
    by_cases whole : off + data.length = length
    · rw [if_pos whole]
      exact (ends_finishFrame closing₃.close closing₃.out closing₃.standing).shuts
    · rw [if_neg whole]
      exact .inr ⟨whole, closing₃⟩

end EventContext

end Wslay

end H2ts
