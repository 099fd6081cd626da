import H2ts.Connection.WellFormed

/-!
# Abandoned requests

A caller who drops a `ResponseBody` before its end gets the stream cancelled: it
leaves the map, the peer gets a RST_STREAM, and what is buffered goes back to the
receive window (`cancelled_dropBody`).

Before there is a `ResponseBody` the caller holds the future of `request`, and
dropping that does nothing to the connection.  So the request is cancelled only if
there is nothing left to cancel (`cancelled_dropCall_iff`).
-/

namespace H2ts

open History

namespace Client

/-- The frame was sent between two states. -/
def Sends (c c' : Client) (frame : Frame) : Prop :=
  ∃ events, c'.history = c.history ++ events ∧ .sent frame ∈ events

/-- The request of a cell is cancelled between two states: its stream is not in the
map any more, which frees its slot; if it had not ended, the peer was told; and the
bytes that were buffered are back in the receive window of the connection.  Nothing
is sent on a closed connection. -/
structure Cancelled (c c' : Client) (k : Nat) : Prop where
  removed : ∀ id s, c'.streams.lookup id = some s → s.cell ≠ k
  reset : c.closed = false → (c.cells k).recv.ended = false →
    Sends c c' (.rstStream (c.cells k).id ErrorCode.cancel.value)
  returned : c.closed = false → (c.cells k).recv.buffered ≠ 0 →
    Sends c c' (.windowUpdate 0 (UInt32.ofNat (c.cells k).recv.buffered))

/-! ## Dropping a body -/

theorem Sends.of_history {c c' c'' : Client} {frame : Frame} (before : c.history <+: c'.history)
    (sent : c'.history ++ [.sent frame] <+: c''.history) : Sends c c'' frame := by
  obtain ⟨earlier, first⟩ := before
  obtain ⟨later, second⟩ := sent
  refine ⟨earlier ++ .sent frame :: later, ?_, by simp⟩
  rw [← second, ← first]
  simp

theorem Sends.later {c c' c'' : Client} {frame : Frame} (sends : Sends c c' frame)
    (after : c'.history <+: c''.history) : Sends c c'' frame := by
  obtain ⟨events, history, mem⟩ := sends
  obtain ⟨later, rest⟩ := after
  exact ⟨events ++ later, by rw [← rest, history, List.append_assoc], List.mem_append_left _ mem⟩

theorem prefix_of_quiets (mayFail : UInt32 → Prop) {c c' : Client}
    (steps : Quiets mayFail c.view c'.view) : c.history <+: c'.history := by
  obtain ⟨events, history, -⟩ := history_quiets steps
  exact ⟨events, history.symm⟩

theorem view_resetStream (c : Client) (id : UInt32) (code : ErrorCode) :
    (c.resetStream id code).view = View.remove
      ((c.sendFrame (.rstStream id code.value)).view.log (.reset id)) id
      (H2Error.stream code ("stream " ++ toString id.toNat ++ " reset") id) := by
  rw [resetStream, view_wakeSlotWaiters, view_removeAndFail, view_record]

theorem streams_remove (v : View) (id : UInt32) (err : H2Error) :
    (v.remove id err).streams = Function.update v.streams id none := by
  unfold View.remove
  split
  next missing => exact (Function.update_eq_self_iff.mpr missing.symm).symm
  next => rfl

theorem streams_sendFrame (c : Client) (frame : Frame) :
    (c.sendFrame frame).view.streams = c.view.streams := by
  unfold sendFrame
  split <;> rfl

theorem streams_replenishRecvWindow (c : Client) (id : UInt32) (n : Nat) :
    (c.replenishRecvWindow id n).view.streams = c.view.streams := by
  unfold replenishRecvWindow
  split
  · rfl
  · simp only [streams_sendFrame]
    split
    · exact streams_sendFrame c _
    · rfl

/-- The stream is reset, and the frame is sent. -/
theorem sends_resetStream {c : Client} (live : c.closed = false) (outTx : c.outTx = true)
    (id : UInt32) (code : ErrorCode) :
    c.history ++ [.sent (.rstStream id code.value)] <+: (c.resetStream id code).history := by
  have view := congrArg View.history (c.view_resetStream id code)
  rw [view_sendFrame live outTx] at view
  obtain ⟨events, history, -⟩ := View.history_remove
    ((c.view.log (.sent (.rstStream id code.value))).log (.reset id)) id
    (H2Error.stream code ("stream " ++ toString id.toNat ++ " reset") id)
  refine ⟨.reset id :: events, ?_⟩
  refine Eq.trans ?_ (history.symm.trans view.symm)
  simp only [View.log, List.append_assoc]
  rfl

theorem sends_replenishRecvWindow {c : Client} (live : c.closed = false) (outTx : c.outTx = true)
    (id : UInt32) {n : Nat} (positive : n ≠ 0) :
    Sends c (c.replenishRecvWindow id n) (.windowUpdate 0 (UInt32.ofNat n)) := by
  -- The connection gets its share after the stream, if that is still there.
  have last (d : Client) (live : d.closed = false) (outTx : d.outTx = true)
      (before : c.history <+: d.history) :
      Sends c (d.sendFrame (.windowUpdate 0 (UInt32.ofNat n))) (.windowUpdate 0 (UInt32.ofNat n)) := by
    have view := congrArg View.history (view_sendFrame live outTx (.windowUpdate 0 (UInt32.ofNat n)))
    exact .of_history before ⟨[], (List.append_nil _).trans view.symm⟩
  have slots := c.slots_sendFrame (.windowUpdate id (UInt32.ofNat n))
  have skip : (c.closed || n == 0) = false := by simp [live, positive]
  unfold replenishRecvWindow
  rw [skip]
  simp only [Bool.false_eq_true, if_false]
  split
  · exact last _ ((congrArg Slots.closed slots).trans live)
      ((congrArg Slots.outTx slots).trans outTx)
      (prefix_of_quiets (fun _ => False) (quiets_sendFrame c rfl))
  · exact last c live outTx List.prefix_rfl

/-- Dropping a body that has not ended cancels the request. -/
theorem cancelled_dropBody {c : Client} (sound : c.Sealed) (wf : WellFormed c.view) {k : Nat}
    (reading : (c.cells k).holder = .reading) (unended : (c.cells k).recv.ended = false) :
    Cancelled c (c.step (.dropBody k)) k := by
  obtain ⟨released, eq⟩ :
      ∃ d, d = c.modifyCell k fun cell => { cell with holder := .gone } := ⟨_, rfl⟩
  have view : released.view = c.view := eq ▸ c.view_modifyCell_same k rfl
  have slots : released.slots = c.slots := eq ▸ rfl
  have same : c.step (.dropBody k) =
      (released.replenishRecvWindow (c.cells k).id (c.cells k).recv.buffered).resetStream
        (c.cells k).id .cancel := by
    simp [step, dropBody, reading, unended, eq]
  have history : released.history = c.history := congrArg View.history view
  have back := slots_replenishRecvWindow released (c.cells k).id (c.cells k).recv.buffered
  have grown : c.history <+:
      (released.replenishRecvWindow (c.cells k).id (c.cells k).recv.buffered).history :=
    history ▸ prefix_of_quiets (fun _ => False) (quiets_replenishRecvWindow released _ _)
  rw [same]
  refine ⟨fun id s found => ?_, fun live _ => ?_, fun live some => ?_⟩
  · have present := view_streams found
    rw [view_resetStream, streams_remove] at present
    by_cases eq : id = (c.cells k).id
    · rw [eq, Function.update_self] at present
      cases present
    · rw [Function.update_of_ne eq] at present
      have before : c.view.streams id = some s.view := by
        rw [← view, ← streams_replenishRecvWindow released (c.cells k).id, ← streams_sendFrame]
        exact present
      intro cell
      refine eq ?_
      rw [← (wf.mapped id s.view before).2.1]
      exact congrArg (fun j => (c.view.cells j).id) cell
  · have closed := (congrArg Slots.closed (back.trans slots)).trans live
    have outTx := (congrArg Slots.outTx (back.trans slots)).trans (sound.outTx live)
    exact .of_history grown (sends_resetStream closed outTx _ _)
  · have returned := sends_replenishRecvWindow ((congrArg Slots.closed slots).trans live)
      ((congrArg Slots.outTx slots).trans (sound.outTx live)) (c.cells k).id some
    rw [Sends, history] at returned
    exact Sends.later returned (prefix_of_quiets (fun _ => True) (quiets_resetStream _ _ trivial))

/-! ## Dropping a request -/

/-- Dropping the future of a request leaves everything as it is, so the request is
cancelled exactly if its stream has left the map and, unless the connection is
closed, its response has ended and nothing of it is buffered. -/
theorem cancelled_dropCall_iff (options : ConnectOptions) (actions : List Action) (i k : Nat)
    (awaiting : (Client.after options actions).calls i = .awaiting k) :
    let c := Client.after options actions
    Cancelled c (c.step (.dropCall i)) k ↔
      (∀ id s, c.streams.lookup id = some s → s.cell ≠ k) ∧
      (c.closed = false → (c.cells k).recv.ended = true ∧ (c.cells k).recv.buffered = 0) := by
  intro c
  have same : c.step (.dropCall i) = c.settle i k .dropped .gone := by
    change c.dropCall i = _
    simp only [dropCall, show c.calls i = .awaiting k from awaiting]
  have silent {frame : Frame} : ¬ Sends c (c.step (.dropCall i)) frame := by
    rintro ⟨events, history, mem⟩
    have nothing : c.history ++ events = c.history ++ [] := by
      rw [← history, same, List.append_nil]
      rfl
    rw [List.append_cancel_left nothing] at mem
    cases mem
  constructor
  · intro cancelled
    refine ⟨fun id s found => cancelled.removed id s (by rw [same]; exact found), fun live => ⟨?_, ?_⟩⟩
    · by_contra unended
      exact silent (cancelled.reset live (by simpa using unended))
    · by_contra some
      exact silent (cancelled.returned live some)
  · rintro ⟨removed, rest⟩
    refine ⟨fun id s found => removed id s (by rw [same] at found; exact found),
      fun live unended => ?_, fun live some => ?_⟩
    · rw [(rest live).1] at unended
      cases unended
    · exact absurd (rest live).2 some

/-- A request whose caller has not seen the response yet. -/
def answered : List Action :=
  [.request (.bare .empty), .frame (.headers 1 [0x88] true true none)]

theorem cancelled_dropCall_answered :
    Cancelled (Client.after {} answered) ((Client.after {} answered).step (.dropCall 0)) 0 := by
  have awaiting : (Client.after {} answered).calls 0 = .awaiting 0 := by decide +kernel
  refine (cancelled_dropCall_iff {} answered 0 0 awaiting).mpr ⟨fun id s found => ?_, fun _ => ?_⟩
  · have none : (Client.after {} answered).streams.lookup id = none := by
      have keys : (Client.after {} answered).streams.keys = [] := by decide +kernel
      rw [AList.lookup_eq_none, AList.mem_keys, keys]
      simp
    cases none.symm.trans found
  · decide +kernel

/-- A request that is dropped before the response keeps its stream. -/
theorem not_cancelled_dropCall :
    ¬ ∀ (options : ConnectOptions) (actions : List Action) (i k : Nat),
      (Client.after options actions).calls i = .awaiting k →
      Cancelled (Client.after options actions)
        ((Client.after options actions).step (.dropCall i)) k := by
  intro cancels
  have cancelled := cancels {} [.request (.bare .empty)] 0 0 (by decide +kernel)
  have mapped : ((Client.after {} [.request (.bare .empty)]).step (.dropCall 0)).streams.lookup 1 =
      some ⟨1, .new 65535, true, 0, false, true, false⟩ := by decide +kernel
  exact cancelled.removed 1 _ mapped rfl

end Client

end H2ts
