import H2ts.Connection.Download

/-!
# Complete responses

A response is complete once its final head and its end have come while its stream
was in the map.  Its bytes are then all yielded or queued, and the reader gets them
and the end, unless the stream fails after that.

A complete stream stays in the map while the request body is still being sent, and
there a RST_STREAM, a GOAWAY or the end of the connection still fails it: `fail`
does not ask whether the response has ended.  In the runs where no step does this
(`Breaks`), a complete response is never lost.
-/

namespace H2ts

open Hpack History

/-- The head and the end have come, before the stream has left the map. -/
def Complete (id : UInt32) (events : List Event) : Prop :=
  ∃ before, before <+: events ∧ (∀ e ∈ before, isRemoval id e = false) ∧
    (response id before).head = true ∧ (response id before).ended = true

/-- The responses whose streams may fail. -/
def Incomplete (r : Response) : Prop := ¬ (r.head = true ∧ r.ended = true)

/-- The bytes of a complete response are here for the reader, and no error. -/
structure Kept (v : View) (k : Nat) (bytes : Bytes) : Prop where
  opened : k < v.opened
  head : ∀ id s, v.streams id = some s → s.cell = k → s.gotHead = true
  error : (v.cells k).recv.error = none
  ended : (v.cells k).recv.ended = true
  clean : Clean (v.cells k).yields
  whole : chunks (v.cells k).yields ++ (v.cells k).recv.queue.flatten = bytes

/-- A prefix without a removal ends before the removal. -/
theorem prefix_of_unremoved {id : UInt32} {before events earlier later : List Event} {e : Event}
    (isPrefix : before <+: events) (unremoved : ∀ e ∈ before, isRemoval id e = false)
    (split : events = earlier ++ e :: later) (removal : isRemoval id e = true) :
    before <+: earlier := by
  have both : earlier <+: events := ⟨e :: later, split.symm⟩
  rcases List.prefix_or_prefix_of_prefix isPrefix both with shorter | longer
  · exact shorter
  · obtain ⟨middle, rfl⟩ := longer
    obtain ⟨rest, same⟩ := isPrefix
    rw [split, List.append_assoc] at same
    cases middle with
    | nil => exact (List.append_nil earlier).symm ▸ List.prefix_rfl
    | cons first middle =>
        obtain ⟨rfl, -⟩ := List.cons.inj (List.append_cancel_left same)
        have not := unremoved first (List.mem_append_right _ (.head _))
        rw [removal] at not
        cases not

theorem Downloading.kept {v : View} {k : Nat} (down : Downloading Incomplete v k)
    (wf : WellFormed v) (latest : v.Latest k) (complete : Complete (v.cells k).id (v.events k)) :
    Kept v k (response (v.cells k).id (v.events k)).bytes := by
  obtain ⟨seen, reading⟩ := down
  obtain ⟨before, isPrefix, unremoved, head, ended⟩ := complete
  have within : before <+: seen := by
    cases found : v.streams (v.cells k).id with
    | some s => exact (reading.mapped s found).1 ▸ isPrefix
    | none =>
        obtain ⟨e, later, removal, split, -⟩ := reading.removed found
        exact prefix_of_unremoved isPrefix unremoved split removal
  have grows := response_grows (v.cells k).id within
  have seenHead := grows.head head
  have seenEnd := (grows.ended ended).1
  have whole := ((response_grows (v.cells k).id reading.isPrefix).ended seenEnd).2
  have sound : Sound (response (v.cells k).id seen) (v.cells k).recv (v.cells k).yields := by
    cases found : v.streams (v.cells k).id with
    | some s => exact (reading.mapped s found).2.2
    | none =>
        obtain ⟨e, later, -, -, sound | ⟨-, -, incomplete⟩⟩ := reading.removed found
        · exact sound
        · exact absurd ⟨seenHead, seenEnd⟩ incomplete
  refine ⟨latest.1, fun id s found cell => ?_, sound.error, sound.ended.trans seenEnd, sound.clean,
    reading.buffered.bytes.trans whole.symm⟩
  have named : (v.cells k).id = id := cell ▸ (wf.mapped id s found).2.1
  exact ((reading.mapped s (named ▸ found)).2.1).trans seenHead

/-! ## Steps -/

theorem receiveData_ended {r : RecvState} (ended : r.ended = true) (data : Bytes)
    (endStream : Bool) : r.receiveData data endStream = { r with waker := false } := by
  simp [RecvState.receiveData, ended]

theorem endBody_ended {r : RecvState} (ended : r.ended = true) : r.endBody = r := by
  simp [RecvState.endBody, ended]

namespace Kept

variable {v w : View} {k : Nat} {bytes : Bytes}

/-- A step that changes the cell at most. -/
theorem keep (kept : Kept v k bytes) (x : CellView) (opened : v.opened ≤ w.opened)
    (streams : ∀ id s', w.streams id = some s' → s'.cell = k →
      s'.gotHead = true ∨ ∃ s, v.streams id = some s ∧ SameHead s s')
    (cell : w.cells k = x) (error : x.recv.error = none) (ended : x.recv.ended = true)
    (clean : Clean x.yields) (whole : chunks x.yields ++ x.recv.queue.flatten = bytes) :
    Kept w k bytes := by
  refine ⟨Nat.lt_of_lt_of_le kept.opened opened, fun id s' found same => ?_, ?_, ?_, ?_, ?_⟩
  · rcases streams id s' found same with head | ⟨s, before, sameCell, sameHead⟩
    · exact head
    · exact sameHead.trans (kept.head id s before (sameCell.symm.trans same))
  all_goals
    rw [cell]
    assumption

/-- A step on other cells. -/
theorem still (kept : Kept v k bytes) (opened : v.opened ≤ w.opened)
    (streams : View.Carries SameHead v w) (cell : w.cells k = v.cells k) : Kept w k bytes :=
  kept.keep (v.cells k) opened (fun id s' found _ => .inr (streams id s' found)) cell kept.error
    kept.ended kept.clean kept.whole

theorem setCell (kept : Kept v k bytes) (j : Nat) (f : CellView → CellView)
    (here : k = j → Kept (v.setCell j f) k bytes) : Kept (v.setCell j f) k bytes := by
  by_cases eq : k = j
  · exact here eq
  · exact kept.still (Nat.le_refl _) (.of_eq SameHead.refl rfl) (View.setCell_ne v eq f)

theorem setPump (kept : Kept v k bytes) (j : Nat) (pump : Pump) : Kept (v.setPump j pump) k bytes := by
  refine kept.setCell j _ ?_
  rintro rfl
  exact kept.keep { v.cells k with pump := pump } (Nat.le_refl _)
    (fun id s found _ => .inr ⟨s, found, SameHead.refl s⟩) (View.setCell_self ..) kept.error
    kept.ended kept.clean kept.whole

/-- A complete stream does not fail if it is spared. -/
theorem remove (kept : Kept v k bytes) {id : UInt32} (err : H2Error)
    (may : ∀ s, v.streams id = some s → ∀ r : Response, s.gotHead = r.head →
      (v.cells s.cell).recv.ended = r.ended → Incomplete r) : Kept (v.remove id err) k bytes := by
  unfold View.remove
  split
  · exact kept
  next s found =>
    have other : k ≠ s.cell := by
      rintro rfl
      exact may s found ⟨s.gotHead, [], (v.cells s.cell).recv.ended⟩ rfl rfl
        ⟨kept.head id s found rfl, kept.ended⟩
    exact kept.still (Nat.le_refl _) (View.Carries.forget SameHead.refl v id)
      (Function.update_of_ne other ..)

/-- DATA after the end is dropped. -/
theorem data (kept : Kept v k bytes) (id : UInt32) (payload : Bytes) (endStream : Bool) :
    Kept (v.data id payload endStream) k bytes := by
  unfold View.data
  split
  · exact kept.still (Nat.le_refl _) (.of_eq SameHead.refl rfl) rfl
  next s found =>
    have streams := View.Carries.setStream SameHead.refl v id
      (f := fun s => { s with remoteClosed := s.remoteClosed || endStream }) fun _ => ⟨rfl, rfl⟩
    by_cases eq : k = s.cell
    · subst eq
      have same := receiveData_ended kept.ended payload endStream
      refine kept.keep { v.cells s.cell with
        recv := (v.cells s.cell).recv.receiveData payload endStream } (Nat.le_refl _)
        (fun id' s' found' _ => .inr (streams id' s' found')) (Function.update_self ..) ?_ ?_
        kept.clean ?_
      · exact same ▸ kept.error
      · exact same ▸ kept.ended
      · exact same ▸ kept.whole
    · exact kept.still (Nat.le_refl _) streams (Function.update_of_ne eq ..)

/-- A block after the end is trailers, and changes nothing of the body. -/
theorem block (kept : Kept v k bytes) (id : UInt32) (headers : List Header) (endStream : Bool) :
    Kept (v.block id headers endStream) k bytes := by
  unfold View.block
  split
  · exact kept.still (Nat.le_refl _) (.of_eq SameHead.refl rfl) rfl
  next s found =>
    split
    next =>
      exact kept.still (Nat.le_refl _)
        (View.Carries.setStream SameHead.refl v id (by exact fun _ => ⟨rfl, rfl⟩)) rfl
    next =>
      have streams (id' : UInt32) (s' : StreamView)
          (found' : (v.setStream id fun s => { s with
            gotHead := true, remoteClosed := s.remoteClosed || endStream }).streams id' = some s') :
          s'.gotHead = true ∨ ∃ s, v.streams id' = some s ∧ SameHead s s' := by
        by_cases eq : id' = id
        · subst eq
          rw [View.setStream_self] at found'
          obtain ⟨s'', -, rfl⟩ := Option.map_eq_some_iff.mp found'
          exact .inl rfl
        · rw [View.setStream_ne v eq] at found'
          exact .inr ⟨s', found', SameHead.refl s'⟩
      by_cases eq : k = s.cell
      · subst eq
        refine kept.keep (v.cells s.cell) (Nat.le_refl _)
          (fun id' s' found' _ => streams id' s' found') ?_ kept.error kept.ended kept.clean kept.whole
        refine (Function.update_self ..).trans ?_
        cases endStream with
        | false => rfl
        | true => simp [endBody_ended kept.ended, View.setStream]
      · exact kept.keep (v.cells k) (Nat.le_refl _)
          (fun id' s' found' _ => streams id' s' found') (Function.update_of_ne eq ..) kept.error
          kept.ended kept.clean kept.whole

theorem quiet {mayFail : UInt32 → Prop} (step : Quiet mayFail v w)
    (spared : Spared Incomplete mayFail v) (kept : Kept v k bytes) : Kept w k bytes := by
  have same {u : View} (opened : u.opened = v.opened) (streams : View.Carries SameHead v u)
      (cells : u.cells = v.cells) : Kept u k bytes :=
    kept.still (opened ▸ Nat.le_refl _) streams (by rw [cells])
  -- A poll of the body itself.
  have polled (f : CellView → CellView) (error : (f (v.cells k)).recv.error = none)
      (ended : (f (v.cells k)).recv.ended = true) (clean : Clean (f (v.cells k)).yields)
      (whole : chunks (f (v.cells k)).yields ++ (f (v.cells k)).recv.queue.flatten = bytes) :
      Kept (v.setCell k f) k bytes :=
    kept.keep (f (v.cells k)) (Nat.le_refl _) (fun id s found _ => .inr ⟨s, found, SameHead.refl s⟩)
      (View.setCell_self ..) error ended clean whole
  cases step with
  | send => exact same rfl (.of_eq SameHead.refl rfl) rfl
  | goaway => exact same rfl (.of_eq SameHead.refl rfl) rfl
  | limit => exact same rfl (.of_eq SameHead.refl rfl) rfl
  | creditConnection => exact same rfl (.of_eq SameHead.refl rfl) rfl
  | creditStream id n =>
      exact same rfl (View.Carries.setStream SameHead.refl v id (by exact fun _ => ⟨rfl, rfl⟩)) rfl
  | adjust initial =>
      refine same rfl (fun id s' found => ?_) rfl
      obtain ⟨s, before, rfl⟩ := Option.map_eq_some_iff.mp found
      exact ⟨s, before, rfl, rfl⟩
  | shut => exact same rfl (.of_eq SameHead.refl rfl) rfl
  | fail id err may => exact kept.remove err (spared id may)
  | cut e id err may =>
      exact remove (v := v.log e) (same rfl (.of_eq SameHead.refl rfl) rfl) err (spared id may)
  | block id headers endStream => exact kept.block id headers endStream
  | data id payload endStream => exact kept.data id payload endStream
  | retire => exact same rfl (View.Carries.forget SameHead.refl v _) rfl
  | pull => exact kept.setPump _ _
  | halt => exact kept.setPump _ _
  | @chunk j payload queue queued =>
      refine kept.setCell j _ ?_
      rintro rfl
      refine polled _ kept.error kept.ended (kept.clean.concat (by simp)) ?_
      rw [← kept.whole, queued]
      simp [chunks]
  | @error j err drained failed =>
      refine kept.setCell j _ ?_
      rintro rfl
      cases failed.symm.trans kept.error
  | @done j drained =>
      refine kept.setCell j _ ?_
      rintro rfl
      refine polled _ kept.error kept.ended (kept.clean.concat (by simp)) ?_
      rw [← kept.whole]
      simp [chunks]
  | @listen j =>
      refine kept.setCell j _ ?_
      rintro rfl
      exact polled _ kept.error kept.ended kept.clean kept.whole

theorem quiets {mayFail : UInt32 → Prop} (steps : Quiets mayFail v w) (wf : WellFormed v)
    (spared : Spared Incomplete mayFail v) (kept : Kept v k bytes) : Kept w k bytes := by
  induction steps with
  | refl => exact kept
  | tail earlier step ih => exact quiet step (spared.quiets earlier wf) ih

theorem openStream (kept : Kept v k bytes) (body : RequestBody) (frames : List Frame) :
    Kept (v.openStream body frames) k bytes := by
  have ne : k ≠ v.opened := Nat.ne_of_lt kept.opened
  refine kept.keep (v.cells k) (Nat.le_succ _) (fun id s found cell => ?_)
    (Function.update_of_ne ne ..) kept.error kept.ended kept.clean kept.whole
  by_cases eq : id = v.nextStreamId
  · subst eq
    simp only [View.openStream, Function.update_self, Option.some.injEq] at found
    subst found
    exact absurd cell.symm ne
  · simp only [View.openStream, Function.update_of_ne eq] at found
    exact .inr ⟨s, found, SameHead.refl s⟩

theorem upload (kept : Kept v k bytes) (id : UInt32) (data : Bytes) :
    Kept (v.upload id data) k bytes := by
  refine kept.still (Nat.le_refl _) ?_ rfl
  exact View.Carries.setStream SameHead.refl _ id (by exact fun _ => ⟨rfl, rfl⟩)

theorem finish (kept : Kept v k bytes) (j : Nat) : Kept (v.finish j) k bytes := by
  have ended : Kept (v.setStream (v.cells j).id fun s => { s with localClosed := true }) k bytes := by
    refine kept.still (Nat.le_refl _) ?_ rfl
    exact View.Carries.setStream SameHead.refl _ _ (by exact fun _ => ⟨rfl, rfl⟩)
  exact (ended.setPump j (.finished true)).still (Nat.le_refl _) (.of_eq SameHead.refl rfl) rfl

end Kept

namespace Client

theorem cells_replenishRecvWindow (c : Client) (id : UInt32) (n : Nat) :
    (c.replenishRecvWindow id n).cells = c.cells := by
  have sent (c : Client) (frame : Frame) : (c.sendFrame frame).cells = c.cells := by
    unfold sendFrame
    split <;> rfl
  unfold replenishRecvWindow
  split
  · rfl
  · simp only [sent]
    split
    · exact sent c _
    · rfl

end Client

end H2ts
