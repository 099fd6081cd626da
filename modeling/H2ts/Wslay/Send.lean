import H2ts.Wslay.Follow

/-!
# The sending side

What is queued is sent as one whole frame without a mask (`frameBytes_eq`).  Between two
sections nothing is left in the queues, unless a Close was sent: then nothing is sent any more
(`Quiet`).  In a section that receives, the pongs for the pings wait, or a Close (`Answers`).
-/

namespace H2ts

namespace Wslay

open BigEndian Bridge WebSocket

/-! ## Frames -/

/-- A message that is binary, or short and one of the control frames. -/
structure Omsg.Good (m : Omsg) : Prop where
  kind : m.opcode = BINARY_FRAME ∨ m.opcode = CONNECTION_CLOSE ∨ m.opcode = PING ∨ m.opcode = PONG
  short : m.opcode ≠ BINARY_FRAME → m.data.length ≤ 125
  fits : m.data.length < 2 ^ 63

def Omsg.frame (m : Omsg) : WebSocket.Frame where
  fin := true
  opcode := opcodeOf m.opcode.toNat
  key := none
  payload := m.data

/-- What a server may send. -/
structure Served (f : WebSocket.Frame) : Prop where
  legal : f.Legal
  fin : f.fin = true
  clear : f.key = none

variable {m : Omsg} {events : List ControlEvent}

theorem Omsg.Good.served (good : m.Good) : Served m.frame := by
  have kind := good.kind
  have known : WebSocket.Known (opcodeOf m.opcode.toNat) := by
    rcases kind with same | same | same | same <;> rw [same] <;> decide
  refine ⟨⟨known, fun control => ⟨rfl, good.short fun data => ?_⟩, good.fits⟩, rfl, rfl⟩
  have low : ¬ 8 ≤ ((opcodeOf BINARY_FRAME.toNat : Fin 16) : Nat) := by decide
  rw [Omsg.frame, data] at control
  exact low control

/-- A frame is written as it is read. -/
theorem frameBytes_eq (good : m.Good) : EventContext.frameBytes m = m.frame.bytes := by
  have first : 0x80 ||| (m.opcode &&& 0xf) = m.frame.first := by
    show _ = UInt8.ofNat (128 * true.toNat + (opcodeOf m.opcode.toNat : Nat))
    rcases good.kind with same | same | same | same <;> rw [same] <;> decide
  have second : m.frame.second = UInt8.ofNat (shortLength m.data.length) := by
    rw [Frame.second, Omsg.frame, Option.isSome_none, Bool.toNat_false, Nat.mul_zero, Nat.zero_add]
  have bytes : m.frame.bytes = [m.frame.first, m.frame.second] ++
      be (extWidth (shortLength m.data.length)) m.data.length ++ m.data := by
    rw [Frame.bytes, List.append_assoc]
    rfl
  rw [EventContext.frameBytes, first, bytes, second]
  congr 1
  unfold shortLength
  by_cases short : m.data.length < 126
  · have none : extWidth m.data.length = 0 := by
      unfold extWidth
      rw [if_neg (by omega), if_neg (by omega)]
    rw [if_pos short, if_pos (by omega), none]
    rfl
  · rw [if_neg short, if_neg (show ¬ m.data.length ≤ 125 by omega)]
    by_cases medium : m.data.length < 2 ^ 16
    · rw [if_pos medium, if_pos medium, be16_ofNat]
      rfl
    · rw [if_neg medium, if_neg medium, List.append_assoc, be32_ofNat, be32_ofNat]
      exact congrArg (_ ++ ·) (be_add 4 4 m.data.length).symm

theorem flatMap_frameBytes {queue : List Omsg} (good : ∀ m ∈ queue, m.Good) :
    queue.flatMap EventContext.frameBytes = (queue.map Omsg.frame).flatMap WebSocket.Frame.bytes := by
  rw [List.flatMap_map]
  exact List.flatMap_congr fun m mem => frameBytes_eq (good m mem)

/-! ## Sending -/

namespace EventContext

variable {c c' : EventContext}

theorem sendLoop_off (off : c.writeEnabled = false) (fuel : Nat) : sendLoop fuel c = c := by
  cases fuel with
  | zero => rfl
  | succ fuel =>
      unfold sendLoop
      rw [off]
      rfl

/-- A message that is no Close leaves the rest as it is. -/
theorem sendMessage_eq (other : m.opcode ≠ CONNECTION_CLOSE) :
    c.sendMessage m = { c with outbound := c.outbound ++ frameBytes m } := by
  rw [sendMessage, if_neg other]

/-- Without a Close, all that is queued is sent, the control frames first. -/
theorem sendLoop_open {fuel : Nat} {ctrl data : List Omsg} (on : c.writeEnabled = true)
    (open_ : c.closeQueued = false) (ctrlOpen : ∀ m ∈ ctrl, m.opcode ≠ CONNECTION_CLOSE)
    (dataOpen : ∀ m ∈ data, m.opcode ≠ CONNECTION_CLOSE) (enough : ctrl.length + data.length < fuel) :
    sendLoop fuel { c with sendCtrlQueue := ctrl, sendQueue := data } = { c with
      sendCtrlQueue := []
      sendQueue := []
      outbound := c.outbound ++ (ctrl ++ data).flatMap frameBytes } := by
  induction fuel generalizing c ctrl data with
  | zero => exact absurd enough (Nat.not_lt_zero _)
  | succ fuel ih =>
      cases ctrl with
      | nil =>
          cases data with
          | nil =>
              rw [sendLoop, on, List.append_nil, List.flatMap_nil, List.append_nil]
              rfl
          | cons m data =>
              have other : m.opcode ≠ CONNECTION_CLOSE := dataOpen m (.head _)
              have step : sendLoop (fuel + 1) { c with sendCtrlQueue := [], sendQueue := m :: data } =
                  sendLoop fuel ({ c with sendCtrlQueue := [], sendQueue := data }.sendMessage m) := by
                rw [sendLoop, on]
                rfl
              rw [step, sendMessage_eq other]
              refine (@ih { c with outbound := c.outbound ++ frameBytes m } [] data on open_ ctrlOpen
                (fun m mem => dataOpen m (.tail _ mem)) (Nat.lt_of_succ_lt_succ enough)).trans ?_
              simp only [List.nil_append, List.flatMap_cons, List.append_assoc]
      | cons m ctrl =>
          have other : m.opcode ≠ CONNECTION_CLOSE := ctrlOpen m (.head _)
          have step : sendLoop (fuel + 1) { c with sendCtrlQueue := m :: ctrl, sendQueue := data } =
              sendLoop fuel ({ c with sendCtrlQueue := ctrl, sendQueue := data }.sendMessage m) := by
            rw [sendLoop, on, sendCtrlQueuePop, open_]
            rfl
          rw [step, sendMessage_eq other]
          refine (@ih { c with outbound := c.outbound ++ frameBytes m } ctrl data on open_
            (fun m mem => ctrlOpen m (.tail _ mem)) dataOpen ?_).trans ?_
          · rw [List.length_cons] at enough
            omega
          · simp only [List.cons_append, List.flatMap_cons, List.append_assoc]

/-- A Close is sent at once, and it is the last. -/
theorem sendLoop_close {fuel : Nat} {before : List Omsg} {close : Omsg} (on : c.writeEnabled = true)
    (others : ∀ m ∈ before, m.opcode ≠ CONNECTION_CLOSE) (last : close.opcode = CONNECTION_CLOSE)
    (enough : 0 < fuel) :
    sendLoop fuel { c with sendCtrlQueue := before ++ [close], closeQueued := true } = { c with
      sendCtrlQueue := []
      closeQueued := true
      outbound := c.outbound ++ frameBytes close
      writeEnabled := false
      closeSent := true } := by
  obtain ⟨fuel, rfl⟩ := Nat.exists_eq_add_of_lt enough
  have dropped : (before ++ [close]).dropWhile (fun m => m.opcode ≠ CONNECTION_CLOSE) = [close] := by
    rw [List.dropWhile_append_of_pos fun m mem => decide_eq_true (others m mem), List.dropWhile_cons,
      decide_eq_false (not_not.mpr last)]
    rfl
  have popped : { c with sendCtrlQueue := before ++ [close], closeQueued := true }.sendCtrlQueuePop =
      (some close, { c with sendCtrlQueue := [], closeQueued := true }) := by
    rw [sendCtrlQueuePop, if_pos rfl, dropped]
  have some : ¬ (before ++ [close]).isEmpty = true := by cases before <;> exact Bool.false_ne_true
  have writes : ¬ (!c.writeEnabled) = true := by
    rw [on]
    exact Bool.false_ne_true
  have sent : ({ c with
    sendCtrlQueue := [], closeQueued := true } : EventContext).sendMessage close = { c with
      sendCtrlQueue := []
      closeQueued := true
      outbound := c.outbound ++ frameBytes close
      writeEnabled := false
      closeSent := true } := by
    rw [sendMessage, if_pos last]
  rw [Nat.zero_add, sendLoop, if_neg writes, if_neg some, popped]
  show sendLoop fuel (sendMessage _ close) = _
  rw [sent]
  exact sendLoop_off rfl fuel

/-! ## Between two sections -/

/-- All is sent that will ever be sent. -/
structure Quiet (c : EventContext) : Prop where
  outbound : c.outbound = []
  writing : c.writeEnabled = !c.closeQueued
  queue : c.writeEnabled = true → c.sendQueue = []
  ctrlQueue : c.writeEnabled = true → c.sendCtrlQueue = []

theorem quiet_serverInit : serverInit.Quiet := ⟨rfl, rfl, fun _ => rfl, fun _ => rfl⟩

theorem Quiet.queueable (quiet : c.Quiet) : c.isMsgQueueable = !c.closeQueued := by
  rw [isMsgQueueable, quiet.writing, Bool.and_self]

theorem Quiet.on (quiet : c.Quiet) (open_ : c.closeQueued = false) : c.writeEnabled = true := by
  rw [quiet.writing, open_]
  rfl

/-- As long as there is no Close, nothing is left over. -/
theorem Quiet.eta (quiet : c.Quiet) (open_ : c.closeQueued = false) :
    c = { c with sendCtrlQueue := [], sendQueue := [], outbound := [] } := by
  have queue := quiet.queue (quiet.on open_)
  have ctrlQueue := quiet.ctrlQueue (quiet.on open_)
  have outbound := quiet.outbound
  obtain ⟨frameCtx, readEnabled, writeEnabled, closeReceived, closeQueued, closeSent, imsgs0, imsgs1,
    interleaved, ipayloadlen, ipayloadoff, sendQueue, sendCtrlQueue, toPeer, outbound, curIsData, events⟩ := c
  subst queue ctrlQueue outbound
  rfl

/-- What a message of the bridge becomes. -/
def omsg : Message → Omsg
  | .binary payload => ⟨BINARY_FRAME, payload⟩
  | .ping payload => ⟨PING, payload⟩
  | .pong payload => ⟨PONG, payload⟩
  | .close frame => ⟨CONNECTION_CLOSE, closeMessage frame.code (Utf8.octets frame.reason)⟩

/-- A data message fits into the memory. -/
def Fits : Message → Prop
  | .binary payload => payload.length < 2 ^ 63
  | _ => True

def isClose : Message → Bool
  | .close _ => true
  | _ => false

def isBinary : Message → Bool
  | .binary _ => true
  | _ => false

/-- What one message comes to. -/
structure Posted (c : EventContext) (message : Message) (frames : List WebSocket.Frame) (c' : EventContext) :
    Prop where
  quiet : c'.Quiet
  frames : frames = [] ∧ c'.closeQueued = c.closeQueued ∧ (c.closeQueued = true ∨ isBinary message = false) ∨
    c.closeQueued = false ∧ (omsg message).Good ∧ frames = [(omsg message).frame] ∧
      c'.closeQueued = isClose message

theorem length_closeMessage (statusCode : UInt16) {reason : Bytes} (short : reason.length ≤ 123) :
    (closeMessage statusCode reason).length ≤ 125 := by
  unfold closeMessage
  split
  · exact Nat.zero_le 125
  · rw [List.length_append]
    exact Nat.add_le_add (le_refl 2) short

/-- Nothing is queued, and nothing is sent. -/
theorem eventSend_quiet (quiet : c.Quiet) : c.eventSend.takeOutbound = ([], c) := by
  have unmoved : c.eventSend = c := by
    cases closed : c.closeQueued with
    | true => exact sendLoop_off (quiet.writing.trans (congrArg not closed)) _
    | false =>
        have on := quiet.on closed
        rw [eventSend, quiet.queue on, quiet.ctrlQueue on, sendLoop, on, quiet.ctrlQueue on, quiet.queue on]
        rfl
  have outbound := quiet.outbound
  rw [unmoved, takeOutbound, outbound, ← outbound]

/-- A message that is no Close is sent alone. -/
theorem eventSend_one {ctrl data : List Omsg} (quiet : c.Quiet) (open_ : c.closeQueued = false)
    (only : ctrl ++ data = [m]) (good : m.Good) (other : m.opcode ≠ CONNECTION_CLOSE) :
    { c with sendCtrlQueue := ctrl, sendQueue := data }.eventSend.takeOutbound = (m.frame.bytes, c) := by
  have others (queue : List Omsg) (part : ∀ m' ∈ queue, m' ∈ ctrl ++ data) :
    ∀ m' ∈ queue, m'.opcode ≠ CONNECTION_CLOSE := by
    intro m' mem
    obtain rfl := List.mem_singleton.mp (only ▸ part m' mem)
    exact other
  have sent : sendLoop (ctrl.length + data.length + 1) { c with
    sendCtrlQueue := ctrl, sendQueue := data } = _ :=
    sendLoop_open (quiet.on open_) open_ (others ctrl fun _ mem => List.mem_append_left _ mem)
      (others data fun _ mem => List.mem_append_right _ mem) (Nat.lt_succ_self _)
  have bytes : c.outbound ++ (ctrl ++ data).flatMap frameBytes = m.frame.bytes := by
    rw [quiet.outbound, only, List.nil_append, List.flatMap_singleton, frameBytes_eq good]
  rw [eventSend, sent, takeOutbound]
  exact Prod.ext bytes (quiet.eta open_).symm

/-- A message of the bridge, with what it becomes. -/
theorem posted_queue {data : Bytes} {opcode : UInt8} (quiet : c.Quiet) (open_ : c.closeQueued = false)
    (good : (⟨opcode, data⟩ : Omsg).Good) (other : opcode ≠ CONNECTION_CLOSE) :
    (c.queueMsg opcode data).2.eventSend.takeOutbound = ((⟨opcode, data⟩ : Omsg).frame.bytes, c) := by
  have queueable : c.isMsgQueueable = true := by
    rw [quiet.queueable, open_]
    rfl
  have ctrl : { c with sendCtrlQueue := c.sendCtrlQueue ++ [⟨opcode, data⟩] } =
      { c with sendCtrlQueue := [⟨opcode, data⟩], sendQueue := [] } := by
    rw [quiet.ctrlQueue (quiet.on open_), List.nil_append, ← quiet.queue (quiet.on open_)]
  have queue : { c with sendQueue := c.sendQueue ++ [⟨opcode, data⟩] } =
      { c with sendCtrlQueue := [], sendQueue := [⟨opcode, data⟩] } := by
    rw [quiet.queue (quiet.on open_), List.nil_append, ← quiet.ctrlQueue (quiet.on open_)]
  unfold queueMsg
  rw [queueable, Bool.not_true, if_neg Bool.false_ne_true]
  by_cases control : isCtrlFrame opcode = true
  · have short : ¬ 125 < data.length := by
      refine Nat.not_lt.mpr (good.short fun binary => ?_)
      obtain rfl : opcode = BINARY_FRAME := binary
      exact absurd control (by decide)
    rw [control, decide_eq_false short, Bool.and_false, if_neg Bool.false_ne_true, if_pos rfl]
    show (eventSend { c with sendCtrlQueue := c.sendCtrlQueue ++ [⟨opcode, data⟩] }).takeOutbound = _
    rw [ctrl]
    exact eventSend_one quiet open_ rfl good other
  · rw [Bool.not_eq_true] at control
    rw [control, Bool.false_and, if_neg Bool.false_ne_true, if_neg Bool.false_ne_true]
    show (eventSend { c with sendQueue := c.sendQueue ++ [⟨opcode, data⟩] }).takeOutbound = _
    rw [queue]
    exact eventSend_one quiet open_ rfl good other

/-- Where it cannot be queued, nothing happens. -/
theorem posted_none {opcode : UInt8} {data : Bytes} (quiet : c.Quiet)
    (refused : c.closeQueued = true ∨ isCtrlFrame opcode = true ∧ 125 < data.length) :
    (c.queueMsg opcode data).2.eventSend.takeOutbound = ([], c) := by
  have unmoved : (c.queueMsg opcode data).2 = c := by
    unfold queueMsg
    rcases refused with closed | ⟨control, long⟩
    · rw [quiet.queueable, closed]
      rfl
    · rw [control, decide_eq_true long, Bool.and_self, if_pos rfl]
      split <;> rfl
  rw [unmoved]
  exact eventSend_quiet quiet

theorem good_close {statusCode : UInt16} {reason : Bytes} (short : reason.length ≤ 123) :
    (⟨CONNECTION_CLOSE, closeMessage statusCode reason⟩ : Omsg).Good :=
  ⟨.inr (.inl rfl), fun _ => length_closeMessage statusCode short,
    Nat.lt_of_le_of_lt (length_closeMessage statusCode short) (by decide)⟩

/-- A Close is queued if it is the first, and its reason is short. -/
theorem queueClose_open {statusCode : UInt16} {reason : Bytes} (queueable : c.isMsgQueueable = true)
    (short : reason.length ≤ 123) : c.queueClose statusCode reason = (none, { c with
      sendCtrlQueue := c.sendCtrlQueue ++ [⟨CONNECTION_CLOSE, closeMessage statusCode reason⟩]
      closeQueued := true }) := by
  have control : isCtrlFrame CONNECTION_CLOSE = true := by decide
  have fits := length_closeMessage statusCode short
  rw [queueClose, queueable, Bool.not_true, if_neg Bool.false_ne_true,
    if_neg (Nat.not_lt.mpr short), queueMsg,
    queueable, Bool.not_true, if_neg Bool.false_ne_true, control, decide_eq_false (Nat.not_lt.mpr fits)]
  rfl

theorem queueClose_refused {statusCode : UInt16} {reason : Bytes}
    (refused : c.isMsgQueueable = false ∨ 123 < reason.length) : (c.queueClose statusCode reason).2 = c := by
  unfold queueClose
  rcases refused with closed | long
  · rw [closed]
    rfl
  · rw [if_pos long]
    split <;> rfl

theorem posted_close {statusCode : UInt16} {reason : Bytes} (quiet : c.Quiet) (open_ : c.closeQueued = false)
    (short : reason.length ≤ 123) :
    (c.queueClose statusCode reason).2.eventSend.takeOutbound =
      ((⟨CONNECTION_CLOSE, closeMessage statusCode reason⟩ : Omsg).frame.bytes,
        { c with writeEnabled := false, closeQueued := true, closeSent := true }) := by
  have queueable : c.isMsgQueueable = true := by
    rw [quiet.queueable, open_]
    rfl
  have none : ∀ m ∈ c.sendCtrlQueue, m.opcode ≠ CONNECTION_CLOSE := by
    rw [quiet.ctrlQueue (quiet.on open_)]
    exact fun m mem => absurd mem List.not_mem_nil
  rw [queueClose_open queueable short, eventSend, sendLoop_close (quiet.on open_) none rfl (Nat.succ_pos _),
    takeOutbound]
  refine Prod.ext ?_ ?_
  · show c.outbound ++ frameBytes _ = _
    rw [quiet.outbound, List.nil_append, frameBytes_eq (good_close short)]
  · show { c with
      sendCtrlQueue := [], outbound := [], writeEnabled := _, closeQueued := _, closeSent := _ } = _
    rw [← quiet.ctrlQueue (quiet.on open_), ← quiet.outbound]

/-- A message of the bridge is sent as one frame, or nothing happens: after a Close, or if it is
too long for a control frame. -/
theorem posted (quiet : c.Quiet) {message : Message} (fits : c.closeQueued = false → Fits message) :
    ∃ frames, (c.post message).1 = frames.flatMap WebSocket.Frame.bytes ∧
      Posted c message frames (c.post message).2 := by
  have nothing (why : c.closeQueued = true ∨ isBinary message = false) (refused : c.post message = ([], c)) :
      ∃ frames, (c.post message).1 = frames.flatMap WebSocket.Frame.bytes ∧
        Posted c message frames (c.post message).2 := by
    rw [refused]
    exact ⟨[], rfl, quiet, .inl ⟨rfl, rfl, why⟩⟩
  have one (open_ : c.closeQueued = false) (good : (omsg message).Good) (other : isClose message = false)
      (sent : c.post message = ((omsg message).frame.bytes, c)) : ∃ frames,
      (c.post message).1 = frames.flatMap WebSocket.Frame.bytes ∧
        Posted c message frames (c.post message).2 := by
    rw [sent]
    exact ⟨[(omsg message).frame], (List.flatMap_singleton _ _).symm, quiet,
      .inr ⟨open_, good, rfl, open_.trans other.symm⟩⟩
  have small {payload : Bytes} (short : payload.length ≤ 125) : payload.length < 2 ^ 63 :=
    Nat.lt_of_le_of_lt short (by decide)
  cases closed : c.closeQueued with
  | true =>
      refine nothing (.inl closed) ?_
      cases message with
      | close frame =>
          have queued : (c.queueClose frame.code (Utf8.octets frame.reason)).2 = c :=
            queueClose_refused (.inl (quiet.queueable.trans (congrArg not closed)))
          rw [EventContext.post, queued]
          exact eventSend_quiet quiet
      | _ => exact posted_none quiet (.inl closed)
  | false =>
      have control (opcode : UInt8) (kind : opcode = PING ∨ opcode = PONG) (payload : Bytes)
          (short : payload.length ≤ 125) : (⟨opcode, payload⟩ : Omsg).Good :=
        ⟨.inr (.inr kind), fun _ => short, small short⟩
      cases message with
      | binary payload =>
          have good : (omsg (.binary payload)).Good := ⟨.inl rfl, fun other => absurd rfl other, fits closed⟩
          exact one closed good rfl (posted_queue quiet closed good (by decide))
      | ping payload =>
          by_cases short : payload.length ≤ 125
          · have good := control PING (.inl rfl) payload short
            exact one closed good rfl (posted_queue quiet closed good (by decide))
          · exact nothing (.inr rfl) (posted_none quiet (.inr ⟨by decide, Nat.lt_of_not_le short⟩))
      | pong payload =>
          by_cases short : payload.length ≤ 125
          · have good := control PONG (.inr rfl) payload short
            exact one closed good rfl (posted_queue quiet closed good (by decide))
          · exact nothing (.inr rfl) (posted_none quiet (.inr ⟨by decide, Nat.lt_of_not_le short⟩))
      | close frame =>
          by_cases short : (Utf8.octets frame.reason).length ≤ 123
          · have sent : c.post (.close frame) = _ := posted_close quiet closed short
            rw [sent]
            exact ⟨[(omsg (.close frame)).frame], (List.flatMap_singleton _ _).symm,
              ⟨quiet.outbound, rfl, fun on => absurd on Bool.false_ne_true,
                fun on => absurd on Bool.false_ne_true⟩,
              .inr ⟨closed, good_close short, rfl, rfl⟩⟩
          · have queued : (c.queueClose frame.code (Utf8.octets frame.reason)).2 = c :=
              queueClose_refused (.inr (Nat.lt_of_not_le short))
            refine nothing (.inr rfl) ?_
            rw [EventContext.post, queued]
            exact eventSend_quiet quiet

/-! ## While it receives -/

/-- The pongs for the pings. -/
def pongsFor (events : List ControlEvent) : List Omsg :=
  events.filterMap fun
    | .ping payload => some ⟨PONG, payload⟩
    | _ => none

theorem pongsFor_append (events : List ControlEvent) (e : ControlEvent) :
    pongsFor (events ++ [e]) = pongsFor events ++ pongsFor [e] := List.filterMap_append

/-- What waits to be sent. -/
inductive Waits (c : EventContext) : Prop where
  | pongs (on : c.writeEnabled = true) (open_ : c.closeQueued = false) (queue : c.sendQueue = [])
      (ctrlQueue : c.sendCtrlQueue = pongsFor c.controlEvents) (good : ∀ m ∈ pongsFor c.controlEvents, m.Good)
  | close (on : c.writeEnabled = true) (queued : c.closeQueued = true) (queue : c.sendQueue = [])
      (before : List Omsg) (close : Omsg) (ctrlQueue : c.sendCtrlQueue = before ++ [close])
      (others : ∀ m ∈ before, m.opcode ≠ CONNECTION_CLOSE)
      (last : close.opcode = CONNECTION_CLOSE) (good : close.Good)
  | off (off : c.writeEnabled = false) (queued : c.closeQueued = true)

/-- In a section that receives. -/
structure Answers (on : Bool) (c : EventContext) : Prop where
  outbound : c.outbound = []
  writing : c.writeEnabled = on
  waits : c.Waits

variable {on : Bool}

/-- Only some fields matter. -/
theorem Answers.congr (answers : c.Answers on) (outbound : c'.outbound = c.outbound)
    (writing : c'.writeEnabled = c.writeEnabled) (queued : c'.closeQueued = c.closeQueued)
    (queue : c'.sendQueue = c.sendQueue) (ctrlQueue : c'.sendCtrlQueue = c.sendCtrlQueue)
    (pongs : pongsFor c'.controlEvents = pongsFor c.controlEvents) : c'.Answers on := by
  refine ⟨outbound.trans answers.outbound, writing.trans answers.writing, ?_⟩
  cases answers.waits with
  | pongs writes open_ none waiting good =>
      exact .pongs (writing.trans writes) (queued.trans open_) (queue.trans none)
        (ctrlQueue.trans (waiting.trans pongs.symm)) (pongs ▸ good)
  | close writes closed none before close waiting others last good =>
      exact .close (writing.trans writes) (queued.trans closed) (queue.trans none) before close
        (ctrlQueue.trans waiting) others last good
  | off off closed => exact .off (writing.trans off) (queued.trans closed)

/-- After a Close the events do not matter. -/
theorem Answers.report (answers : c.Answers on) (closed : c.closeQueued = true) (e : ControlEvent) :
    (c.event e).Answers on := by
  refine ⟨answers.outbound, answers.writing, ?_⟩
  cases answers.waits with
  | pongs writes open_ => exact absurd (closed.symm.trans open_) Bool.noConfusion
  | close writes closed none before close waiting others last good =>
      exact .close writes closed none before close waiting others last good
  | off off closed => exact .off off closed

theorem Answers.queueable (answers : c.Answers on) : c.isMsgQueueable = !c.closeQueued := by
  unfold isMsgQueueable
  cases answers.waits with
  | pongs writes open_ => rw [writes, open_]; rfl
  | close writes closed => rw [writes, closed]; rfl
  | off off closed => rw [off, closed]; rfl

/-- No pong is a Close. -/
theorem pongsFor_others (events : List ControlEvent) :
    ∀ m ∈ pongsFor events, m.opcode ≠ CONNECTION_CLOSE := by
  intro m mem
  obtain ⟨e, _, some⟩ := List.mem_filterMap.mp mem
  cases e with
  | ping payload =>
      obtain rfl := Option.some.inj some
      show PONG ≠ CONNECTION_CLOSE
      decide
  | _ => exact absurd some (Option.some_ne_none m).symm

theorem Answers.queueCloseWrapper (answers : c.Answers on) (statusCode : UInt16) (reason : Bytes) :
    (c.queueCloseWrapper statusCode reason).2.Answers on := by
  have deaf : ({ c with readEnabled := false } : EventContext).Answers on :=
    answers.congr rfl rfl rfl rfl rfl rfl
  have same : (c.queueCloseWrapper statusCode reason).2 =
      ({ c with readEnabled := false }.queueClose statusCode reason).2 := by
    unfold EventContext.queueCloseWrapper
    generalize { c with readEnabled := false }.queueClose statusCode reason = result
    obtain ⟨_ | (_ | _ | _), c'⟩ := result <;> rfl
  rw [same]
  by_cases refused : ({ c with readEnabled := false } : EventContext).isMsgQueueable = false ∨
    123 < reason.length
  · rw [queueClose_refused refused]
    exact deaf
  · obtain ⟨queueable, short⟩ := not_or.mp refused
    have short := Nat.le_of_not_lt short
    rw [queueClose_open (Bool.eq_true_of_not_eq_false queueable) short]
    cases answers.waits with
    | pongs writes open_ none waiting good =>
        refine ⟨answers.outbound, answers.writing,
          .close writes rfl none c.sendCtrlQueue _ rfl ?_ rfl (good_close short)⟩
        rw [waiting]
        exact pongsFor_others c.controlEvents
    | close writes closed =>
        exact absurd (deaf.queueable.trans (congrArg not closed)) queueable
    | off off closed =>
        exact absurd (deaf.queueable.trans (congrArg not closed)) queueable

theorem Answers.setImsg (answers : c.Answers on) (m : Imsg) : (c.setImsg m).Answers on := by
  obtain ⟨m0, m1, after, -⟩ := c.setImsg_eq m
  rw [after]
  exact answers.congr rfl rfl rfl rfl rfl rfl

theorem Answers.takeClose (answers : c.Answers on) (statusCode : UInt16) (reason : Bytes) :
    Stays (Answers on) (c.takeClose statusCode reason) := by
  have received : ({ c with closeReceived := true } : EventContext).Answers on :=
    answers.congr rfl rfl rfl rfl rfl rfl
  have after := received.queueCloseWrapper statusCode reason
  unfold EventContext.takeClose
  generalize { c with closeReceived := true }.queueCloseWrapper statusCode reason = result at after ⊢
  obtain ⟨_ | error, c'⟩ := result
  · refine Answers.congr after rfl rfl rfl rfl rfl ?_
    exact (pongsFor_append _ _).trans (List.append_nil _)
  · exact after

theorem Answers.takePing (answers : c.Answers on) (msg : Bytes) : Stays (Answers on) (c.takePing msg) := by
  have queueable := answers.queueable
  unfold EventContext.takePing queueMsg
  cases closed : c.closeQueued with
  | true =>
      rw [queueable, closed]
      exact answers.report closed (.ping msg)
  | false =>
      rw [queueable, closed, Bool.not_false, Bool.not_true, if_neg Bool.false_ne_true]
      have control : isCtrlFrame PONG = true := by decide
      rw [control, Bool.true_and]
      by_cases short : msg.length ≤ 125
      · rw [decide_eq_false (Nat.not_lt.mpr short), if_neg Bool.false_ne_true, if_pos rfl]
        cases answers.waits with
        | pongs writes open_ none waiting good =>
            have more : pongsFor (c.controlEvents ++ [.ping msg]) =
              pongsFor c.controlEvents ++ [⟨PONG, msg⟩] :=
              pongsFor_append _ _
            refine ⟨answers.outbound, answers.writing, .pongs writes rfl none ?_ ?_⟩
            · exact (congrArg (· ++ _) waiting).trans more.symm
            · show ∀ m ∈ pongsFor (c.controlEvents ++ [.ping msg]), m.Good
              rw [more]
              intro m mem
              rcases List.mem_append.mp mem with mem | mem
              · exact good m mem
              · obtain rfl := List.mem_singleton.mp mem
                exact ⟨.inr (.inr (.inr rfl)), fun _ => short, Nat.lt_of_le_of_lt short (by decide)⟩
        | close writes queued => exact absurd (closed.symm.trans queued) Bool.noConfusion
        | off off queued => exact absurd (closed.symm.trans queued) Bool.noConfusion
      · rw [decide_eq_true (Nat.lt_of_not_le short), if_pos rfl]
        exact answers.congr rfl rfl rfl rfl rfl rfl

theorem stable_answers (on : Bool) : Stable (Answers on) where
  books _ _ _ _ _ _ answers := answers.congr rfl rfl rfl rfl rfl rfl
  setImsg _ m answers := answers.setImsg m
  refuse _ statusCode answers := answers.queueCloseWrapper statusCode []
  takeClose _ statusCode reason answers := answers.takeClose statusCode reason
  takePing _ msg answers := answers.takePing msg
  takePong _ _ answers :=
    answers.congr rfl rfl rfl rfl rfl ((pongsFor_append _ _).trans (List.append_nil _))

theorem Answers.recvRound (answers : c.Answers on) : Stays (Answers on) c.recvRound := by
  have framed (f : FrameContext) : ({ c with frameCtx := f } : EventContext).Answers on :=
    answers.congr rfl rfl rfl rfl rfl rfl
  unfold EventContext.recvRound
  generalize frameRecv c.frameCtx = result
  rcases result with ⟨_ | _, f⟩ | ⟨iocb, f⟩
  · exact framed f
  · have after := (framed f).queueCloseWrapper 0 []
    show Answers on (recvFailed _ .proto).ctx
    unfold recvFailed
    dsimp only
    generalize EventContext.queueCloseWrapper _ 0 [] = result at after ⊢
    obtain ⟨_ | error, c'⟩ := result <;> exact after
  · exact (stable_answers on).take (framed f) iocb

theorem Answers.recvLoop (answers : c.Answers on) (fuel : Nat) : (recvLoop fuel c).ctx.Answers on := by
  induction fuel generalizing c with
  | zero => exact answers
  | succ fuel ih =>
      have round := answers.recvRound
      unfold EventContext.recvLoop
      split
      · generalize c.recvRound = result at round ⊢
        cases result with
        | error stop => exact round
        | ok c' => exact ih round
      · exact answers

/-- What is sent at the end of a section that receives: the pongs, or a Close alone. -/
structure Replied (c : EventContext) (events : List ControlEvent)
    (frames : List WebSocket.Frame) (c' : EventContext) :
    Prop where
  quiet : c'.Quiet
  served : ∀ f ∈ frames, Served f
  closing : c.closeQueued = true → c'.closeQueued = true
  pongs : c'.closeQueued = false → frames = (pongsFor events).map Omsg.frame
  close : c'.closeQueued = true → frames = [] ∨ ∃ f, (f.opcode : Nat) = 8 ∧ frames = [f]

theorem Answers.replied (answers : c.Answers on) :
    ∃ frames, c.eventSend.outbound = frames.flatMap WebSocket.Frame.bytes ∧
    { c.eventSend with outbound := [] }.Quiet ∧ (∀ f ∈ frames, Served f) ∧
    (on = false → c.eventSend.closeQueued = true) ∧
    (c.eventSend.closeQueued = false → frames = (pongsFor c.controlEvents).map Omsg.frame) ∧
    (c.eventSend.closeQueued = true → frames = [] ∨ ∃ f, (f.opcode : Nat) = 8 ∧ frames = [f]) := by
  have outbound := answers.outbound
  have writing := answers.writing
  cases answers.waits with
  | pongs writes open_ none waiting good =>
      have pongs := pongsFor_others c.controlEvents
      have whole : c = { c with sendCtrlQueue := pongsFor c.controlEvents, sendQueue := [] } := by
        rw [← waiting, ← none]
      have sent : sendLoop _ { c with sendCtrlQueue := pongsFor c.controlEvents, sendQueue := [] } = _ :=
        sendLoop_open writes open_ pongs (fun m mem => absurd mem List.not_mem_nil) (Nat.lt_succ_self _)
      rw [← whole] at sent
      rw [eventSend, waiting, none, sent]
      refine ⟨(pongsFor c.controlEvents).map Omsg.frame, ?_, ⟨rfl, ?_, fun _ => rfl, fun _ => rfl⟩,
        ?_, ?_, fun _ => rfl, fun closed => absurd (closed.symm.trans open_) Bool.noConfusion⟩
      · show c.outbound ++ (pongsFor c.controlEvents ++ []).flatMap frameBytes = _
        rw [outbound, List.nil_append, List.append_nil, flatMap_frameBytes good]
      · exact writes.trans (congrArg not open_).symm
      · intro f mem
        obtain ⟨m, queued, rfl⟩ := List.mem_map.mp mem
        exact (good m queued).served
      · rintro rfl
        exact absurd (writes.symm.trans writing) Bool.noConfusion
  | close writes queued none before close waiting others last good =>
      have whole : c = { c with sendCtrlQueue := before ++ [close], closeQueued := true } := by
        rw [← waiting, ← queued]
      have sent : sendLoop (c.sendCtrlQueue.length + c.sendQueue.length + 1)
          { c with sendCtrlQueue := before ++ [close], closeQueued := true } = _ :=
        sendLoop_close writes others last (Nat.succ_pos _)
      rw [← whole] at sent
      rw [eventSend, sent]
      refine ⟨[close.frame], ?_,
        ⟨rfl, rfl, fun on => absurd on Bool.false_ne_true, fun on => absurd on Bool.false_ne_true⟩,
        ?_, fun _ => rfl, fun open_ => absurd open_ Bool.noConfusion, fun _ => .inr ⟨close.frame, ?_, rfl⟩⟩
      · show c.outbound ++ frameBytes close = _
        rw [outbound, List.nil_append, List.flatMap_singleton, frameBytes_eq good]
      · intro f mem
        obtain rfl := List.mem_singleton.mp mem
        exact good.served
      · show ((opcodeOf close.opcode.toNat : Fin 16) : Nat) = 8
        rw [last]
        decide
  | off off queued =>
      have sent : c.eventSend = c := sendLoop_off off _
      rw [sent]
      refine ⟨[], outbound, ⟨rfl, off.trans (congrArg not queued).symm, ?_, ?_⟩,
        fun f mem => absurd mem List.not_mem_nil, fun _ => queued,
        fun open_ => absurd (queued.symm.trans open_) Bool.noConfusion, fun _ => .inl rfl⟩
      · exact fun on => absurd (off.symm.trans on) Bool.noConfusion
      · exact fun on => absurd (off.symm.trans on) Bool.noConfusion

/-- Each ping is answered at once, unless a Close is sent. -/
theorem receive_replied (quiet : c.Quiet) (none : c.controlEvents = []) (bytes : Bytes) :
    ∃ frames, (c.receive bytes).1.outbound = frames.flatMap WebSocket.Frame.bytes ∧
      Replied c (c.receive bytes).1.events frames (c.receive bytes).2 := by
  have waits : (c.feedInbound bytes).Waits := by
    cases closed : c.closeQueued with
    | true => exact .off (quiet.writing.trans (congrArg not closed)) closed
    | false =>
        have on := quiet.on closed
        have nothing : pongsFor (c.feedInbound bytes).controlEvents = [] := congrArg pongsFor none
        exact .pongs on closed (quiet.queue on) ((quiet.ctrlQueue on).trans nothing.symm)
          (nothing ▸ fun m mem => absurd mem List.not_mem_nil)
  have answers : (c.feedInbound bytes).Answers c.writeEnabled := ⟨quiet.outbound, rfl, waits⟩
  obtain ⟨frames, outbound, after, served, closing, pongs, close⟩ :=
    (answers.recvLoop ((c.feedInbound bytes).left + 1)).replied
  have events : (recvLoop ((c.feedInbound bytes).left + 1)
    (c.feedInbound bytes)).ctx.eventSend.controlEvents =
      (recvLoop ((c.feedInbound bytes).left + 1) (c.feedInbound bytes)).ctx.controlEvents := by
    obtain ⟨queue, ctrlQueue, outbound, writeEnabled, closeQueued, closeSent, unmoved⟩ :=
      sends_sendLoop ((recvLoop ((c.feedInbound bytes).left + 1)
        (c.feedInbound bytes)).ctx.sendCtrlQueue.length +
        (recvLoop ((c.feedInbound bytes).left + 1) (c.feedInbound bytes)).ctx.sendQueue.length + 1)
        (recvLoop ((c.feedInbound bytes).left + 1) (c.feedInbound bytes)).ctx
    rw [eventSend, unmoved]
  rw [← events] at pongs
  refine ⟨frames, outbound, ⟨after.outbound, after.writing, after.queue, after.ctrlQueue⟩,
    served, ?_, pongs, close⟩
  exact fun closed => closing (quiet.writing.trans (congrArg not closed))

end EventContext

end Wslay

end H2ts
