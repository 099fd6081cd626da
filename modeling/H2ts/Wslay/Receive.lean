import H2ts.Wslay.Framing

/-!
# Receiving follows the reader

The event layer keeps the message that a frame belongs to, in one place or the other, and hands
the chunks of its payload on as they come.  It does with a stream what the reader does, however
the stream is cut and whatever is queued in between, up to the first thing that ends it.  From
then on it is mute.

Only text that is not UTF-8 tells the cuts: what came in the same chunk before the bad byte is
not handed on.
-/

namespace H2ts

namespace Wslay

open BigEndian Bridge WebSocket

namespace EventContext

variable {c c' : EventContext}

/-! ## What queueing leaves alone -/

theorem queueMsg_eq (c : EventContext) (opcode : UInt8) (msg : Bytes) :
    ∃ queue ctrlQueue, (c.queueMsg opcode msg).2 =
      { c with sendQueue := queue, sendCtrlQueue := ctrlQueue } := by
  unfold queueMsg
  split_ifs <;> exact ⟨_, _, rfl⟩

theorem queueClose_eq (c : EventContext) (statusCode : UInt16) (reason : Bytes) :
    ∃ queue ctrlQueue queued, (c.queueClose statusCode reason).2 =
      { c with sendQueue := queue, sendCtrlQueue := ctrlQueue, closeQueued := queued } := by
  obtain ⟨queue, ctrlQueue, after⟩ := c.queueMsg_eq CONNECTION_CLOSE (closeMessage statusCode reason)
  unfold queueClose
  split_ifs
  · exact ⟨_, _, _, rfl⟩
  · exact ⟨_, _, _, rfl⟩
  · generalize c.queueMsg CONNECTION_CLOSE (closeMessage statusCode reason) = result at after ⊢
    obtain ⟨_ | error, c'⟩ := result
    · obtain rfl : c' = _ := after
      exact ⟨queue, ctrlQueue, true, rfl⟩
    · exact ⟨queue, ctrlQueue, _, after⟩

/-- Reading is off. -/
theorem queueCloseWrapper_eq (c : EventContext) (statusCode : UInt16) (reason : Bytes) :
    ∃ queue ctrlQueue queued, (c.queueCloseWrapper statusCode reason).2 =
      { c with
        readEnabled := false
        sendQueue := queue
        sendCtrlQueue := ctrlQueue
        closeQueued := queued } := by
  obtain ⟨queue, ctrlQueue, queued, after⟩ := { c with readEnabled := false }.queueClose_eq statusCode reason
  unfold queueCloseWrapper
  generalize { c with readEnabled := false }.queueClose statusCode reason = result at after ⊢
  obtain ⟨_ | (_ | _ | _), c'⟩ := result <;> exact ⟨queue, ctrlQueue, queued, after⟩

theorem refuse_eq (c : EventContext) (statusCode : UInt16) :
    ∃ queue ctrlQueue queued, (c.refuse statusCode).ctx =
      { c with
        readEnabled := false
        sendQueue := queue
        sendCtrlQueue := ctrlQueue
        closeQueued := queued } :=
  c.queueCloseWrapper_eq statusCode []

/-- A short reason is no error. -/
theorem queueCloseWrapper_rc (c : EventContext) (statusCode : UInt16) {reason : Bytes}
    (short : reason.length ≤ 123) : (c.queueCloseWrapper statusCode reason).1 = none := by
  have fits : (closeMessage statusCode reason).length ≤ 125 := by
    unfold closeMessage
    split
    · exact Nat.zero_le 125
    · rw [List.length_append]
      exact Nat.add_le_add (le_refl 2) short
  unfold queueCloseWrapper queueClose
  by_cases queueable : ({ c with readEnabled := false } : EventContext).isMsgQueueable = true
  · have queued : ({ c with readEnabled := false } : EventContext).queueMsg CONNECTION_CLOSE
        (closeMessage statusCode reason) =
        (none, { c with
          readEnabled := false
          sendCtrlQueue := c.sendCtrlQueue ++ [⟨CONNECTION_CLOSE, closeMessage statusCode reason⟩] }) := by
      have control : isCtrlFrame CONNECTION_CLOSE = true := by decide
      rw [queueMsg, queueable, control, Bool.true_and, decide_eq_false (Nat.not_lt.mpr fits)]
      rfl
    rw [queueable, if_neg (Nat.not_lt.mpr short), queued]
    rfl
  · rw [Bool.not_eq_true] at queueable
    rw [queueable]
    rfl

theorem refuse_rc (c : EventContext) (statusCode : UInt16) : (c.refuse statusCode).rc = none :=
  c.queueCloseWrapper_rc statusCode (Nat.zero_le 123)

/-! ## Messages -/

/-- There is no message. -/
structure Idle (m : Imsg) : Prop where
  opcode : m.opcode = NO_MESSAGE
  utf8state : m.utf8state = UTF8_ACCEPT
  chunks : m.chunks = []

/-- The data message of the reader. -/
def Holds (m : Imsg) (r : Reader) : Prop :=
  match r.message with
  | none => Idle m ∧ r.utf8 = UTF8_ACCEPT
  | some text => m.opcode = (if text then TEXT_FRAME else BINARY_FRAME) ∧ m.utf8state = r.utf8 ∧
      m.chunks = [] ∧ m.msgLength = 0 ∧ r.utf8 ≠ UTF8_REJECT

/-- Between two frames. -/
structure Between (c : EventContext) (r : Reader) : Prop where
  interleaved : c.interleaved = false
  ipayloadlen : c.ipayloadlen = 0
  ipayloadoff : c.ipayloadoff = 0
  message : Holds c.imsgs0 r
  spare : Idle c.imsgs1

/-- In a frame of a data message. -/
structure InData (c : EventContext) (r : Reader) (head : Head) : Prop where
  interleaved : c.interleaved = false
  message : Holds c.imsgs0 r
  some : r.message.isSome = true
  fin : c.imsgs0.fin = head.memo.fin
  spare : Idle c.imsgs1
  data : c.curIsData = true
  opcode : isCtrlFrame head.memo.opcode = false

/-- In a ping or a pong, which may have come in the middle of a message. -/
structure InControl (c : EventContext) (r : Reader) (head : Head) (off : Nat) : Prop where
  opcode : c.imsg.opcode = head.memo.opcode
  kind : head.memo.opcode = PING ∨ head.memo.opcode = PONG
  fin : c.imsg.fin = true
  chunks : c.imsg.chunks = r.control
  length : r.control.length = off
  utf8state : c.imsg.utf8state = UTF8_ACCEPT
  control : c.curIsData = false
  back : if c.interleaved then Holds c.imsgs0 r ∧ r.message.isSome = true
    else r.message = none ∧ r.utf8 = UTF8_ACCEPT ∧ Idle c.imsgs1

/-- What was handed on, before and now, and what the hooks got. -/
structure Told (done : Bytes) (told : List ControlEvent) (c : EventContext) (r : Reader) : Prop where
  out : done ++ c.toPeer = r.out
  seen : told ++ State.hooked c.controlEvents = r.seen

/-- The reading side is on, and there was no Close. -/
structure On (c : EventContext) : Prop where
  read : c.readEnabled = true
  received : c.closeReceived = false

/-- In a frame, of which `off` bytes are taken. -/
structure Within (c : EventContext) (r : Reader) (head : Head) (length off : Nat) : Prop where
  on : c.On
  ipayloadlen : c.ipayloadlen = length
  ipayloadoff : c.ipayloadoff = off
  frame : c.InData r head ∨ c.InControl r head off
  rsv : head.memo.rsv = 0
  masked : head.masked = true

/-- Nothing comes out any more: reading is off. -/
structure Off (done : Bytes) (told : List ControlEvent) (c : EventContext) (r : Reader) : Prop where
  read : c.readEnabled = false
  ended : r.standing ≠ .live
  out : done ++ c.toPeer <+: r.out
  exact : r.standing ≠ .illFormed → done ++ c.toPeer = r.out
  received : r.standing ≠ .closed → c.closeReceived = false
  seen : told ++ State.hooked c.controlEvents = r.seen

/-- In a Close. -/
structure InClose (c : EventContext) : Prop where
  opcode : c.imsg.opcode = CONNECTION_CLOSE
  fin : c.imsg.fin = true
  control : c.curIsData = false

variable {r r' : Reader} {f : FrameContext} {done data : Bytes} {told : List ControlEvent}

/-- What is refused goes no further. -/
theorem Told.refuse (out : Told done told c r) (received : r'.standing ≠ .closed → c.closeReceived = false)
    (statusCode : UInt16) (ended : r'.standing ≠ .live)
    (longer : r.out <+: r'.out) (exact : r'.standing ≠ .illFormed → r'.out = r.out)
    (seen : r'.seen = r.seen) : Off done told (c.refuse statusCode).ctx r' := by
  obtain ⟨queue, ctrlQueue, queued, after⟩ := c.refuse_eq statusCode
  rw [after]
  refine ⟨rfl, ended, ?_, ?_, received, ?_⟩
  · show done ++ c.toPeer <+: r'.out
    rw [out.out]
    exact longer
  · intro formed
    rw [exact formed]
    exact out.out
  · rw [seen]
    exact out.seen

/-! ## The begin of a frame -/

/-- The checks on a frame, when it is new. -/
def opening (c : EventContext) (iocb : Iocb) : Except Stop EventContext := do
  let c ← c.verify iocb
  let (newFrame, c) ← c.selectMessage iocb
  if newFrame then c.startFrame iocb else .ok c

/-- What is done with a chunk. -/
def accept (c : EventContext) (iocb : Iocb) : Except Stop EventContext := do
  let c ← c.validate iocb
  if (c.deliver iocb).ipayloadoff = (c.deliver iocb).ipayloadlen then (c.deliver iocb).finishFrame
  else .ok (c.deliver iocb)

theorem take_eq (c : EventContext) (iocb : Iocb) :
    c.take iocb = c.opening iocb >>= fun c => c.accept iocb := by
  unfold take opening accept
  simp only [bind_assoc]
  refine bind_congr fun c => bind_congr fun selected => ?_
  split <;> rfl

theorem isCtrlFrame_of_isControl {opcode : UInt8} (control : isControl opcode = true) :
    isCtrlFrame opcode = true := by
  simp only [isControl, Bool.or_eq_true, decide_eq_true_eq] at control
  rcases control with (rfl | rfl) | rfl <;> decide

theorem curIsData_eq (opcode : UInt8) : (opcode >>> 3 &&& 1 == 0) = !isCtrlFrame opcode := by
  rw [isCtrlFrame, bne, Bool.not_not]

/-- A frame of data begins. -/
theorem startFrame_data (iocb : Iocb) (fits : c.imsg.msgLength + iocb.payloadLength ≤ MAX_RECV_MSG_LENGTH)
    (data : isCtrlFrame iocb.opcode = false) :
    c.startFrame iocb = .ok { c with ipayloadlen := iocb.payloadLength, curIsData := true } := by
  rw [startFrame, if_neg (Nat.not_lt.mpr fits), curIsData_eq, data]
  rfl

theorem startFrame_control (iocb : Iocb)
    (fits : c.imsg.msgLength + iocb.payloadLength ≤ MAX_RECV_MSG_LENGTH)
    (control : isCtrlFrame iocb.opcode = true) :
    ∃ m : Imsg, c.startFrame iocb =
        .ok ({ c with ipayloadlen := iocb.payloadLength, curIsData := false }.setImsg m) ∧
      m.opcode = c.imsg.opcode ∧ m.fin = c.imsg.fin ∧ m.chunks = c.imsg.chunks ∧
      m.utf8state = c.imsg.utf8state := by
  refine ⟨{ c.imsg with msgLength := c.imsg.msgLength + iocb.payloadLength }, ?_, rfl, rfl, rfl, rfl⟩
  rw [startFrame, if_neg (Nat.not_lt.mpr fits), curIsData_eq, control]
  rfl

theorem startFrame_refuse {iocb : Iocb} (far : MAX_RECV_MSG_LENGTH < c.imsg.msgLength + iocb.payloadLength) :
    c.startFrame iocb = .error (c.refuse CODE_MESSAGE_TOO_BIG) := by
  rw [startFrame, if_pos far]

/-- What can come of the begin of a frame. -/
def Opened (done : Bytes) (told : List ControlEvent) (f : FrameContext) (r : Reader) :
    Except Stop EventContext → Prop
  | .error stop => r.standing = .refused ∧ stop.rc = none ∧ Off done told stop.ctx r
  | .ok c =>
      (r.standing = .closed ∧ c.InClose ∧ c.On ∧ c.ipayloadlen = f.ipayloadlen ∧ c.ipayloadoff = 0 ∧
        Told done told c r) ∨
      (r.standing = .live ∧ c.Within r f.head f.ipayloadlen 0 ∧ Told done told c r)

theorem selectMessage_none {iocb : Iocb} (idle : c.imsg.opcode = NO_MESSAGE) :
    c.selectMessage iocb =
      if allowed none iocb.opcode then .ok (true, c.imsgSet iocb) else .error
        (c.refuse CODE_PROTOCOL_ERROR) := by
  rw [selectMessage, if_pos idle, allowed]
  congr 2
  grind

theorem selectMessage_some {iocb : Iocb} (text : Bool) (busy : c.imsg.opcode ≠ NO_MESSAGE)
    (ipayloadlen : c.ipayloadlen = 0) (ipayloadoff : c.ipayloadoff = 0) :
    c.selectMessage iocb =
      if allowed (some text) iocb.opcode then
        .ok (true, if iocb.opcode = CONTINUATION_FRAME then c.setImsg { c.imsg with fin := iocb.fin }
          else { c with interleaved := true }.imsgSet iocb)
      else .error (c.refuse CODE_PROTOCOL_ERROR) := by
  rw [selectMessage, if_neg busy, ipayloadlen, ipayloadoff, allowed]
  by_cases continued : iocb.opcode = CONTINUATION_FRAME
  · simp [continued]
  · by_cases control : isControl iocb.opcode = true
    · simp [continued, control]
    · simp [continued, control]

theorem opening_refuse (out : Told done told c r) (on : c.On) (statusCode : UInt16)
    (refused : r.start f.head f.ipayloadlen = r.stop .refused) :
    Opened done told f (r.start f.head f.ipayloadlen) (.error (c.refuse statusCode)) := by
  rw [refused]
  refine ⟨rfl, c.refuse_rc statusCode, out.refuse (fun _ => on.received) statusCode ?_ (List.prefix_refl _)
    (fun _ => rfl) rfl⟩
  exact Standing.noConfusion

theorem imsg_of_between (between : c.Between r) : c.imsg = c.imsgs0 := by
  rw [imsg, between.interleaved]
  rfl

theorem imsg_setImsg (c : EventContext) (m : Imsg) : (c.setImsg m).imsg = m := by
  unfold setImsg imsg
  cases c.interleaved <;> rfl

theorem setImsg_eq (c : EventContext) (m : Imsg) : ∃ m0 m1,
    c.setImsg m = { c with imsgs0 := m0, imsgs1 := m1 } ∧
      if c.interleaved then m0 = c.imsgs0 else m1 = c.imsgs1 := by
  unfold setImsg
  cases c.interleaved with
  | true => exact ⟨c.imsgs0, m, rfl, rfl⟩
  | false => exact ⟨m, c.imsgs1, rfl, rfl⟩

/-- A control frame begins. -/
theorem opened_control (live : r.standing = .live) (fine : ¬ r.Faulty f.head f.ipayloadlen) (on : c.On)
    (off : c.ipayloadoff = 0) (out : Told done told c r) (whole : f.Whole)
    (control : isControl f.iom.opcode = true) (opcode : c.imsg.opcode = f.iom.opcode)
    (fin : c.imsg.fin = f.iom.fin) (length : c.imsg.msgLength = 0) (chunks : c.imsg.chunks = [])
    (utf8state : c.imsg.utf8state = UTF8_ACCEPT)
    (back : if c.interleaved then Holds c.imsgs0 r ∧ r.message.isSome = true
      else r.message = none ∧ r.utf8 = UTF8_ACCEPT ∧ Idle c.imsgs1) :
    Opened done told f (r.start f.head f.ipayloadlen) (c.startFrame (f.iocb data)) := by
  have isCtrl : isCtrlFrame f.iom.opcode = true := isCtrlFrame_of_isControl control
  have fits : f.ipayloadlen ≤ MAX_RECV_MSG_LENGTH := by
    by_contra far
    exact fine (.inr (.inr (.inr (Nat.lt_of_not_le far))))
  have masked : f.imask = true := by
    by_contra clear
    exact fine (.inr (.inl (Bool.eq_false_of_not_eq_true clear)))
  have rsv : f.iom.rsv = 0 := by
    by_contra set
    exact fine (.inl set)
  obtain ⟨m, starts, sameOpcode, sameFin, sameChunks, sameUtf8⟩ := startFrame_control (c := c)
    (f.iocb data) (by rw [length, Nat.zero_add]; exact fits) isCtrl
  have message := imsg_setImsg { c with ipayloadlen := f.ipayloadlen, curIsData := false } m
  obtain ⟨m0, m1, after, kept⟩ := setImsg_eq { c with ipayloadlen := f.ipayloadlen, curIsData := false } m
  rw [after] at message
  rw [starts, Reader.start_fine fine, FrameContext.memo_head]
  show Opened done told f _ (.ok ({ c with ipayloadlen := f.ipayloadlen, curIsData := false }.setImsg m))
  rw [after]
  by_cases close : f.iom.opcode = CONNECTION_CLOSE
  · rw [if_pos close]
    refine .inl ⟨rfl, ⟨?_, ?_, rfl⟩, ⟨on.read, on.received⟩, rfl, off, ⟨out.out, out.seen⟩⟩
    · rw [message]
      exact (sameOpcode.trans opcode).trans close
    · rw [message]
      exact (sameFin.trans fin).trans (whole isCtrl).1
  · rw [if_neg close, if_pos isCtrl]
    have kind : f.iom.opcode = PING ∨ f.iom.opcode = PONG := by
      simpa [isControl, close] using control
    refine .inr ⟨live, ⟨⟨on.read, on.received⟩, rfl, off, .inr ⟨?_, kind, ?_, ?_, rfl, ?_, rfl, ?_⟩,
      rsv, masked⟩, ⟨out.out, out.seen⟩⟩
    · rw [message]
      exact sameOpcode.trans opcode
    · rw [message]
      exact (sameFin.trans fin).trans (whole isCtrl).1
    · rw [message]
      exact sameChunks.trans chunks
    · rw [message]
      exact sameUtf8.trans utf8state
    · cases inter : c.interleaved with
      | true =>
          simp only [inter, if_true] at back kept ⊢
          rw [kept]
          exact back
      | false =>
          simp only [inter, Bool.false_eq_true, if_false] at back kept ⊢
          rw [kept]
          exact back

/-- A frame of data begins. -/
theorem opened_data (live : r.standing = .live) (fine : ¬ r.Faulty f.head f.ipayloadlen) (on : c.On)
    (off : c.ipayloadoff = 0) (out : Told done told c r) (data : Bytes) (inter : c.interleaved = false)
    (isData : isCtrlFrame f.iom.opcode = false) (fin : c.imsgs0.fin = f.iom.fin)
    (message : Holds c.imsgs0 (r.start f.head f.ipayloadlen))
    (some : (r.start f.head f.ipayloadlen).message.isSome = true) (spare : Idle c.imsgs1) :
    Opened done told f (r.start f.head f.ipayloadlen) (c.startFrame (f.iocb data)) := by
  have fits : f.ipayloadlen ≤ MAX_RECV_MSG_LENGTH := by
    by_contra far
    exact fine (.inr (.inr (.inr (Nat.lt_of_not_le far))))
  have masked : f.imask = true := by
    by_contra clear
    exact fine (.inr (.inl (Bool.eq_false_of_not_eq_true clear)))
  have rsv : f.iom.rsv = 0 := by
    by_contra set
    exact fine (.inl set)
  have length : c.imsg.msgLength = 0 := by
    rw [imsg, inter]
    unfold Holds at message
    split at message
    next none => rw [none] at some; exact absurd some Bool.false_ne_true
    next => exact message.2.2.2.1
  have starts := startFrame_data (c := c) (f.iocb data)
    (by rw [length, Nat.zero_add]; exact fits) isData
  have close : f.iom.opcode ≠ CONNECTION_CLOSE := by
    intro same
    rw [same] at isData
    exact absurd isData (by decide)
  have after : (r.start f.head f.ipayloadlen).standing = .live ∧
      (r.start f.head f.ipayloadlen).out = r.out ∧ (r.start f.head f.ipayloadlen).seen = r.seen := by
    rw [Reader.start_fine fine, FrameContext.memo_head, if_neg close, isData, if_neg Bool.false_ne_true]
    split <;> exact ⟨live, rfl, rfl⟩
  rw [starts]
  refine .inr ⟨after.1, ⟨⟨on.read, on.received⟩, rfl, off, .inl ?_, rsv, masked⟩, ?_, ?_⟩
  · exact ⟨inter, message, some, fin, spare, rfl, isData⟩
  · exact out.out.trans after.2.1.symm
  · exact out.seen.trans after.2.2.symm

theorem verify_dirty (dirty : f.iom.rsv ≠ 0 ∨ f.imask = false) (data : Bytes) :
    c.verify (f.iocb data) = .error (c.refuse CODE_PROTOCOL_ERROR) := by
  refine if_pos ?_
  show (decide (f.iom.rsv ≠ 0) || !f.imask) = true
  rw [Bool.or_eq_true, decide_eq_true_iff, Bool.not_eq_true']
  exact dirty

theorem verify_clean (clean : ¬ (f.iom.rsv ≠ 0 ∨ f.imask = false)) (data : Bytes) :
    c.verify (f.iocb data) = .ok c := by
  refine if_neg ?_
  show ¬ (decide (f.iom.rsv ≠ 0) || !f.imask) = true
  rw [Bool.or_eq_true, decide_eq_true_iff, Bool.not_eq_true']
  exact clean

/-- A frame that is allowed begins, unless it is too long. -/
theorem opened_fits (out : Told done told c r) (on : c.On) (clean : ¬ (f.iom.rsv ≠ 0 ∨ f.imask = false))
    (known : allowed r.message f.iom.opcode = true) (length : c.imsg.msgLength = 0) (data : Bytes)
    (fine : ¬ r.Faulty f.head f.ipayloadlen →
      Opened done told f (r.start f.head f.ipayloadlen) (c.startFrame (f.iocb data))) :
    Opened done told f (r.start f.head f.ipayloadlen) (c.startFrame (f.iocb data)) := by
  by_cases far : MAX_RECV_MSG_LENGTH < f.ipayloadlen
  · have far' : MAX_RECV_MSG_LENGTH < c.imsg.msgLength + (f.iocb data).payloadLength := by
      rw [length, Nat.zero_add]
      exact far
    rw [startFrame_refuse far']
    exact opening_refuse out on CODE_MESSAGE_TOO_BIG (Reader.start_faulty (.inr (.inr (.inr far))))
  · refine fine ?_
    rintro (rsv | mask | opcode | long)
    · exact clean (.inl rsv)
    · exact clean (.inr mask)
    · exact absurd (opcode.symm.trans known) Bool.false_ne_true
    · exact far long

/-- A message begins, or a control frame between two. -/
theorem opening_none (live : r.standing = .live) (on : c.On) (between : c.Between r) (whole : f.Whole)
    (out : Told done told c r) (data : Bytes) (clean : ¬ (f.iom.rsv ≠ 0 ∨ f.imask = false))
    (message : r.message = none) (known : allowed none f.iom.opcode = true) :
    Opened done told f (r.start f.head f.ipayloadlen)
      ((c.imsgSet (f.iocb data)).startFrame (f.iocb data)) := by
  have holds := between.message
  rw [Holds, message] at holds
  have set : c.imsgSet (f.iocb data) = { c with
      imsgs0 := { c.imsgs0 with fin := f.iom.fin, opcode := f.iom.opcode, msgLength := 0 } } := by
    rw [imsgSet, setImsg, imsg_of_between between, between.interleaved]
    rfl
  have current : (c.imsgSet (f.iocb data)).imsg =
      { c.imsgs0 with fin := f.iom.fin, opcode := f.iom.opcode, msgLength := 0 } := by
    rw [set, imsg, between.interleaved]
    rfl
  have out' : Told done told (c.imsgSet (f.iocb data)) r := by
    rw [set]
    exact ⟨out.out, out.seen⟩
  have on' : (c.imsgSet (f.iocb data)).On := by
    rw [set]
    exact ⟨on.read, on.received⟩
  refine opened_fits out' on' clean (message ▸ known) (by rw [current]) data fun fine => ?_
  by_cases control : isControl f.iom.opcode = true
  · rw [set] at current out' ⊢
    refine opened_control live fine
      ⟨on.read, on.received⟩ between.ipayloadoff out' whole control ?_ ?_ ?_ ?_ ?_ ?_
    · rw [current]
    · rw [current]
    · rw [current]
    · rw [current]
      exact holds.1.chunks
    · rw [current]
      exact holds.1.utf8state
    · rw [between.interleaved, if_neg Bool.false_ne_true]
      exact ⟨message, holds.2, between.spare⟩
  · have kind : f.iom.opcode = TEXT_FRAME ∨ f.iom.opcode = BINARY_FRAME := by
      simpa [allowed, control] using known
    have isData : isCtrlFrame f.iom.opcode = false := by
      rcases kind with same | same <;> rw [same] <;> decide
    have starts : r.start f.head f.ipayloadlen = { r with message := some (f.iom.opcode = TEXT_FRAME) } := by
      rw [Reader.start_fine fine, FrameContext.memo_head]
      rcases kind with same | same <;> rw [same] <;> rfl
    rw [set] at out' ⊢
    refine opened_data (c := { c with
        imsgs0 := { c.imsgs0 with fin := f.iom.fin, opcode := f.iom.opcode, msgLength := 0 } }) live fine
      ⟨on.read, on.received⟩ between.ipayloadoff out' data between.interleaved isData rfl ?_ ?_ between.spare
    · rw [starts]
      refine ⟨?_, holds.1.utf8state.trans holds.2.symm, holds.1.chunks, rfl, ?_⟩
      rotate_left
      · rw [holds.2]
        decide
      show f.iom.opcode = _
      rcases kind with same | same <;> rw [same] <;> rfl
    · rw [starts]
      rfl

/-- A message goes on, or a control frame comes in the middle of it. -/
theorem opening_some {text : Bool} (live : r.standing = .live) (on : c.On) (between : c.Between r)
    (whole : f.Whole) (out : Told done told c r) (data : Bytes)
    (clean : ¬ (f.iom.rsv ≠ 0 ∨ f.imask = false)) (message : r.message = some text)
    (known : allowed (some text) f.iom.opcode = true) :
    Opened done told f (r.start f.head f.ipayloadlen)
      ((if f.iom.opcode = CONTINUATION_FRAME then c.setImsg { c.imsg with fin := f.iom.fin }
        else { c with interleaved := true }.imsgSet (f.iocb data)).startFrame (f.iocb data)) := by
  have holds := between.message
  rw [Holds, message] at holds
  have first := imsg_of_between between
  by_cases continued : f.iom.opcode = CONTINUATION_FRAME
  · have set : c.setImsg { c.imsg with fin := f.iom.fin } =
        { c with imsgs0 := { c.imsgs0 with fin := f.iom.fin } } := by
      rw [setImsg, first, between.interleaved]
      rfl
    have current : ({ c with imsgs0 := { c.imsgs0 with fin := f.iom.fin } } : EventContext).imsg =
        { c.imsgs0 with fin := f.iom.fin } := by
      rw [imsg, between.interleaved]
      rfl
    rw [if_pos continued, set]
    have out' : Told done told { c with imsgs0 := { c.imsgs0 with fin := f.iom.fin } } r :=
      ⟨out.out, out.seen⟩
    refine opened_fits out' ⟨on.read, on.received⟩ clean (message ▸ known)
      (by rw [current]; exact holds.2.2.2.1) data fun fine => ?_
    have starts : r.start f.head f.ipayloadlen = r := by
      rw [Reader.start_fine fine, FrameContext.memo_head, continued]
      rfl
    refine opened_data (c := { c with imsgs0 := { c.imsgs0 with fin := f.iom.fin } }) live fine
      ⟨on.read, on.received⟩ between.ipayloadoff out' data between.interleaved ?_ rfl ?_ ?_ between.spare
    · rw [continued]
      decide
    · rw [starts, Holds, message]
      exact holds
    · rw [starts, message]
      rfl
  · have set : { c with interleaved := true }.imsgSet (f.iocb data) = { c with
        interleaved := true
        imsgs1 := { c.imsgs1 with fin := f.iom.fin, opcode := f.iom.opcode, msgLength := 0 } } := rfl
    have control : isControl f.iom.opcode = true := by
      simpa [allowed, continued] using known
    have out' : Told done told { c with
        interleaved := true
        imsgs1 := { c.imsgs1 with fin := f.iom.fin, opcode := f.iom.opcode, msgLength := 0 } } r :=
      ⟨out.out, out.seen⟩
    rw [if_neg continued, set]
    refine opened_fits out' ⟨on.read, on.received⟩ clean (message ▸ known) rfl data fun fine => ?_
    refine opened_control live fine ⟨on.read, on.received⟩ between.ipayloadoff out' whole control rfl rfl rfl
      between.spare.chunks between.spare.utf8state ?_
    rw [if_pos rfl, Holds, message]
    exact ⟨holds, rfl⟩

/-- A frame begins, of a message or in the middle of one. -/
theorem opening_spec (live : r.standing = .live) (on : c.On) (between : c.Between r) (whole : f.Whole)
    (out : Told done told c r) (data : Bytes) :
    Opened done told f (r.start f.head f.ipayloadlen) (c.opening (f.iocb data)) := by
  have first := imsg_of_between between
  unfold opening
  by_cases dirty : f.iom.rsv ≠ 0 ∨ f.imask = false
  · rw [verify_dirty dirty]
    exact opening_refuse out on CODE_PROTOCOL_ERROR (Reader.start_faulty (dirty.imp_right .inl))
  rw [verify_clean dirty]
  show Opened done told f _ ((c.selectMessage (f.iocb data)) >>= _)
  have holds := between.message
  unfold Holds at holds
  cases message : r.message with
  | none =>
      rw [message] at holds
      rw [selectMessage_none (first ▸ holds.1.opcode)]
      by_cases known : allowed none (f.iocb data).opcode = true
      · rw [if_pos known]
        exact opening_none live on between whole out data dirty message known
      · have faulty : r.Faulty f.head f.ipayloadlen := .inr (.inr (.inl (by
          rw [message]
          exact Bool.eq_false_of_not_eq_true known)))
        rw [if_neg known]
        exact opening_refuse out on CODE_PROTOCOL_ERROR (Reader.start_faulty faulty)
  | some text =>
      rw [message] at holds
      have busy : c.imsg.opcode ≠ NO_MESSAGE := by
        rw [first, holds.1]
        cases text <;> decide
      rw [selectMessage_some text busy between.ipayloadlen between.ipayloadoff]
      by_cases known : allowed (some text) (f.iocb data).opcode = true
      · rw [if_pos known]
        exact opening_some live on between whole out data dirty message known
      · have faulty : r.Faulty f.head f.ipayloadlen := .inr (.inr (.inl (by
          rw [message]
          exact Bool.eq_false_of_not_eq_true known)))
        rw [if_neg known]
        exact opening_refuse out on CODE_PROTOCOL_ERROR (Reader.start_faulty faulty)

end EventContext

end Wslay

end H2ts
