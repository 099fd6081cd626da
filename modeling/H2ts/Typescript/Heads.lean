import H2ts.Typescript.Steps

/-!
# Open heads

A request waits on the head of its stream, and only the entry of the map leads to it.
Failing a stream settles its head before the entry goes.  Retiring a stream only looks
at the two closed flags, and a pushed stream or a new request just takes the id.

The streams whose heads are open stay in the map exactly as long as no step `Forgets`
one of them (`remembered_after_iff`).
-/

namespace H2ts

namespace Typescript

open Hpack

namespace H2Connection

variable {D : Type} {coder : Coder D} {c t : H2Connection D}

/-- Every stream whose head is open is the one stored under its id. -/
def Remembered (c : H2Connection D) : Prop :=
  ∀ k < c.made, (c.objects k).head = .pending → c.streams.lookup (c.objects k).id = some k

/-- The map leads to streams with the ids it stores them under, and `gotHead` tells whether
a head is settled. -/
structure Sound (c : H2Connection D) : Prop where
  mapped : ∀ id k, c.streams.lookup id = some k → k < c.made ∧ (c.objects k).id = id
  heads : ∀ k, (c.objects k).gotHead = false ↔ (c.objects k).head = .pending

namespace Sound

theorem turn (turn : c.Turn t) (sound : c.Sound) : t.Sound := by
  refine ⟨fun id k found => ?_, fun k => ?_⟩
  · obtain ⟨small, same⟩ := sound.mapped id k (turn.streams id k found)
    exact ⟨turn.made ▸ small, (turn.objects k).id.trans same⟩
  · rcases (turn.objects k).head with ⟨got, head⟩ | ⟨-, got, head⟩
    · rw [got, head]
      exact sound.heads k
    · simp only [got, head, Bool.true_eq_false]

theorem addStream (sound : c.Sound) {s : H2Stream} (unsettled : s.gotHead = false)
    (pending : s.head = .pending) : (c.addStream s).Sound := by
  refine ⟨fun id k found => ?_, fun k => ?_⟩
  · have found : (c.streams.insert s.id c.made).lookup id = some k := found
    show k < c.made + 1 ∧ (Function.update c.objects c.made s k).id = id
    rcases eq_or_ne id s.id with rfl | different
    · rw [AList.lookup_insert, Option.some.injEq] at found
      subst found
      rw [Function.update_self]
      exact ⟨Nat.lt_succ_self _, rfl⟩
    · rw [AList.lookup_insert_ne different] at found
      obtain ⟨small, same⟩ := sound.mapped id k found
      rw [Function.update_of_ne small.ne]
      exact ⟨small.trans (Nat.lt_succ_self _), same⟩
  · show (Function.update c.objects c.made s k).gotHead = false ↔
      (Function.update c.objects c.made s k).head = .pending
    rcases eq_or_ne k c.made with rfl | different
    · rw [Function.update_self]
      exact iff_of_true unsettled pending
    · rw [Function.update_of_ne different]
      exact sound.heads k

theorem reserve (sound : c.Sound) : c.reserve.Sound :=
  addStream (c := { c with nextStreamId := c.nextStreamId + 2 }) ⟨sound.mapped, sound.heads⟩ rfl rfl

theorem takePush (sound : c.Sound) (promisedId : Int) : (c.takePush promisedId).Sound :=
  have added := sound.addStream (s := c.pushedStream promisedId) rfl rfl
  ⟨added.mapped, added.heads⟩

theorem step (sound : c.Sound) (a : Action) : (c.step coder a).Sound := by
  rcases turn_cases coder c a with turn | ⟨i, init, rfl, admits, turn, -⟩ |
    ⟨frame, pb, headers, u, rfl, -, -, -, turn, same⟩
  · exact sound.turn turn
  · exact sound.reserve.turn turn
  · rw [same]
    exact (sound.turn turn).takePush _

end Sound

/-- The streams there are stay. -/
theorem step_old (coder : Coder D) (a : Action) {k : Nat} (old : k < c.made) :
    k < (c.step coder a).made ∧ (c.objects k).Follows ((c.step coder a).objects k) := by
  rcases turn_cases coder c a with turn | ⟨i, init, rfl, admits, turn, -⟩ |
    ⟨frame, pb, headers, u, rfl, -, -, -, turn, same⟩
  · exact ⟨turn.made ▸ old, turn.objects k⟩
  · have made : (c.step coder (.resume i)).made = c.made + 1 := turn.made
    have kept : c.reserve.objects k = c.objects k := Function.update_of_ne old.ne _ _
    exact ⟨made ▸ old.trans (Nat.lt_succ_self _), kept ▸ turn.objects k⟩
  · have made : (u.takePush pb.promisedStreamId).made = c.made + 1 := congrArg (· + 1) turn.made
    have kept : (u.takePush pb.promisedStreamId).objects k = u.objects k :=
      Function.update_of_ne (by rw [turn.made]; exact old.ne) _ _
    rw [same, made, kept]
    exact ⟨old.trans (Nat.lt_succ_self _), turn.objects k⟩

/-! ## Steps that forget nothing -/

namespace Remembered

theorem turn {frames : Frame → Prop} {started : Nat → Prop} (sound : c.Sound)
    (turn : Section frames (fun _ => False) started c t) (settled : t.Sound)
    (remembered : c.Remembered) : t.Remembered := by
  intro k small pending
  have unsettled := (settled.heads k).mpr pending
  have open_ : (c.objects k).gotHead = false := by
    cases got : (c.objects k).gotHead with
    | false => rfl
    | true =>
        rw [((turn.objects k).gotHead got).1] at unsettled
        cases unsettled
  have there := remembered k (turn.made ▸ small) ((sound.heads k).mp open_)
  rw [(turn.objects k).id]
  rcases turn.dropped _ k there with kept | got | lost
  · exact kept
  · rw [got] at unsettled
    cases unsettled
  · exact lost.elim

/-- A new entry takes the id of no stream whose head is open. -/
theorem addStream (remembered : c.Remembered) (sound : c.Sound) {s : H2Stream}
    (free : ∀ k, c.streams.lookup s.id = some k → (c.objects k).gotHead = true) :
    (c.addStream s).Remembered := by
  intro k small pending
  have small : k < c.made + 1 := small
  have pending : (Function.update c.objects c.made s k).head = .pending := pending
  show (c.streams.insert s.id c.made).lookup (Function.update c.objects c.made s k).id = some k
  rcases eq_or_ne k c.made with rfl | different
  · rw [Function.update_self, AList.lookup_insert]
  · rw [Function.update_of_ne different] at pending ⊢
    have there := remembered k (by omega) pending
    have unsettled := (sound.heads k).mpr pending
    rw [AList.lookup_insert_ne, there]
    intro same
    rw [same] at there
    rw [free k there] at unsettled
    cases unsettled

end Remembered

theorem remembered_step {a : Action} (sound : c.Sound) (remembered : c.Remembered)
    (keeps : ∀ k, ¬ Forgets coder c a k) : (c.step coder a).Remembered := by
  have any : On 0 (fun _ => True) := fun _ _ _ => trivial
  rcases step_cases coder a any (fun _ _ _ _ _ => trivial) keeps with
    turn | ⟨i, init, rfl, admits, same⟩ |
    ⟨frame, pb, headers, u, rfl, complete, push, taken, turn, -, streams, objects, same⟩
  · exact remembered.turn sound (turn : Section _ _ (fun _ => True) c _) (sound.step a)
  · have reserved : c.reserve.Remembered := by
      refine Remembered.addStream (c := { c with nextStreamId := c.nextStreamId + 2 })
        remembered ⟨sound.mapped, sound.heads⟩ fun k found => ?_
      cases got : (c.objects k).gotHead with
      | true => rfl
      | false => exact absurd (.reserved admits found got) (keeps k)
    have turn : Section (fun _ => True) (fun _ => False) (fun _ => True) c.reserve
        (c.step coder (.resume i)) := by
      rw [same]
      exact .openStream trivial (fun _ _ _ _ _ => trivial) fun _ _ => trivial
    exact reserved.turn sound.reserve turn (sound.step _)
  · have quiet : Section (fun _ => True) (fun _ => False) (fun _ => True) c u := turn
    have later := sound.turn quiet.turn
    rw [same]
    refine Remembered.addStream (s := u.pushedStream pb.promisedStreamId)
      (remembered.turn sound quiet later) later fun k found => ?_
    rw [streams] at found
    cases got : (c.objects k).gotHead with
    | true => rwa [objects]
    | false => exact absurd (.pushed complete push taken found got) (keeps k)

/-! ## Steps that forget -/

theorem lookup_retireIfFullyClosed {id : Int} {k : Nat} (found : c.streams.lookup id = some k)
    (shut : (c.objects k).localClosed = true) (ended : (c.objects k).remoteClosed = true) :
    (c.retireIfFullyClosed id).streams.lookup id = none ∧
      (c.retireIfFullyClosed id).objects = c.objects := by
  have retired : c.retireIfFullyClosed id = (c.deleteStream id).wakeStreamSlots := by
    simp only [retireIfFullyClosed, found, shut, ended, Bool.and_self, if_true]
  rw [retired]
  exact ⟨AList.lookup_erase _ _, rfl⟩

/-- The end of the peer's side retires a stream that is closed on ours. -/
theorem endRemote_forgets {id : Int} {k : Nat} (found : c.streams.lookup id = some k)
    (shut : (c.objects k).localClosed = true) (unsettled : (c.objects k).gotHead = false) :
    let t := (c.modify k fun s => { s with remoteClosed := true }).retireIfFullyClosed id
    (t.objects k).gotHead = false ∧ t.streams.lookup id ≠ some k := by
  have there : (c.modify k fun s => { s with remoteClosed := true }).streams.lookup id = some k :=
    found
  obtain ⟨gone, objects⟩ := lookup_retireIfFullyClosed there (by rwa [modify_self])
    (by rw [modify_self])
  refine ⟨?_, by rw [gone]; exact nofun⟩
  rwa [objects, modify_self]

theorem objects_sendHeaders (c : H2Connection D) (id : Int) (block : Bytes) (endStream : Bool) :
    (c.sendHeaders id block endStream).objects = c.objects := by
  unfold sendHeaders
  generalize headerFrames id c.remote.maxFrameSize.toNat block endStream = queue
  induction queue generalizing c with
  | nil => rfl
  | cons frame queue ih => exact (ih _).trans (objects_send c frame)

/-- A request changes its own stream only. -/
theorem objects_openStream {k : Nat} (other : k ≠ c.made) (i : Nat) (init : H2RequestInit) :
    (c.openStream coder i init).objects k = c.objects k := by
  have reserved : c.reserve.objects k = c.objects k := Function.update_of_ne other _ _
  unfold openStream
  split
  · have found : c.reserve.streams.lookup c.nextStreamId = some c.made := AList.lookup_insert _
    simp only [resetStream, found, setCall]
    rw [modify_ne _ other]
    show (c.reserve.send _).objects k = _
    rw [objects_send, reserved]
  · simp only [issue, setCall]
    rw [modify_ne _ other, objects_sendHeaders]
    split <;> exact reserved

theorem forgets_step {a : Action} {k : Nat} (sound : c.Sound) (forgets : Forgets coder c a k) :
    k < c.made ∧ ((c.step coder a).objects k).gotHead = false ∧
      (c.step coder a).streams.lookup (c.objects k).id ≠ some k := by
  cases forgets with
  | data free found shut unsettled =>
      rename_i id data
      obtain ⟨small, same⟩ := sound.mapped _ _ found
      have step : c.step coder (.frame (.data id data true)) =
          ((c.modify k (·.receiveData data true)).modify k fun s =>
            { s with remoteClosed := true }).retireIfFullyClosed id := by
        simp [H2Connection.step, onFrame, dispatch, free, dispatchFrame, receiveData, found]
      rw [step, same]
      refine ⟨small, endRemote_forgets found ?_ ?_⟩
      · rwa [modify_self, H2Stream.localClosed_receiveData]
      · rwa [modify_self, H2Stream.gotHead_receiveData]
  | interim complete response ends found shut unsettled interim =>
      rename_i frame pb headers
      obtain ⟨small, same⟩ := sound.mapped _ _ found
      have step : c.step coder (.frame frame) =
          (((c.decoded coder pb).modify k (·.receiveHeaders headers true)).modify k fun s =>
            { s with remoteClosed := true }).retireIfFullyClosed pb.streamId := by
        have found : (c.decoded coder pb).streams.lookup pb.streamId = some k := found
        refine (onFrame_completed complete).trans ?_
        simp only [takeHeaderBlock, response, receiveResponse, found, ends, if_true]
      have unchanged : (c.objects k).receiveHeaders headers true = c.objects k := by
        simp only [H2Stream.receiveHeaders, unsettled, interim, Bool.not_false, if_true]
      rw [step, same]
      refine ⟨small, endRemote_forgets found ?_ ?_⟩
      · rw [modify_self]
        show ((c.objects k).receiveHeaders headers true).localClosed = true
        rwa [unchanged]
      · rw [modify_self]
        show ((c.objects k).receiveHeaders headers true).gotHead = false
        rwa [unchanged]
  | pushed complete push taken found unsettled =>
      rename_i frame pb headers
      obtain ⟨small, same⟩ := sound.mapped _ _ found
      have taken : (c.decoded coder pb).onPush = true := taken
      have pushed : ∃ u, (c.decoded coder pb).Turn u ∧ u.made = c.made ∧ u.streams = c.streams ∧
          u.objects = c.objects ∧
          (c.decoded coder pb).handlePush pb.promisedStreamId = u.takePush pb.promisedStreamId :=
        handlePush_taken taken pb.promisedStreamId
      obtain ⟨u, -, made, -, objects, handled⟩ := pushed
      have step : c.step coder (.frame frame) = u.takePush pb.promisedStreamId := by
        refine (onFrame_completed complete).trans ?_
        simp only [takeHeaderBlock, push]
        exact handled
      rw [step, same]
      refine ⟨small, ?_, ?_⟩
      · show (Function.update u.objects u.made _ k).gotHead = false
        rw [Function.update_of_ne (by omega), objects]
        exact unsettled
      · show (u.streams.insert pb.promisedStreamId u.made).lookup pb.promisedStreamId ≠ some k
        rw [AList.lookup_insert]
        intro taken
        rw [Option.some.injEq] at taken
        omega
  | uploaded ending found shut ended unsettled =>
      rename_i j
      obtain ⟨small, same⟩ := sound.mapped _ _ found
      have step : c.step coder (.pump j) =
          (c.modify j fun s => { s with localClosed := true, pump := .none }).retireIfFullyClosed
            (c.objects j).id := by
        simp only [H2Connection.step, pump, ending]
      have there : (c.modify j fun s => { s with localClosed := true, pump := .none }).streams.lookup
          (c.objects j).id = some k := found
      have follows : ((c.modify j fun s =>
          { s with localClosed := true, pump := .none }).objects k).localClosed = true ∧
          ((c.modify j fun s => { s with localClosed := true, pump := .none }).objects k).remoteClosed =
            (c.objects k).remoteClosed ∧
          ((c.modify j fun s => { s with localClosed := true, pump := .none }).objects k).gotHead =
            (c.objects k).gotHead := by
        rcases eq_or_ne k j with rfl | different
        · rw [modify_self]
          exact ⟨rfl, rfl, rfl⟩
        · rw [modify_ne c different]
          exact ⟨shut.resolve_left different, rfl, rfl⟩
      obtain ⟨gone, objects⟩ := lookup_retireIfFullyClosed there follows.1 (follows.2.1.trans ended)
      rw [step, same]
      refine ⟨small, ?_, ?_⟩
      · rw [objects]
        exact follows.2.2.trans unsettled
      · rw [gone]
        exact (Option.some_ne_none k).symm
  | reserved admits found unsettled =>
      rename_i i init
      obtain ⟨small, same⟩ := sound.mapped _ _ found
      have step : c.step coder (.resume i) = c.openStream coder i init := resume_admitted admits
      have turn : c.reserve.Turn (c.openStream coder i init) :=
        .openStream trivial (fun _ _ _ _ _ => trivial) fun _ _ => trivial
      rw [step, same]
      refine ⟨small, ?_, fun there => ?_⟩
      · rwa [objects_openStream small.ne]
      · have taken : c.reserve.streams.lookup c.nextStreamId = some c.made := AList.lookup_insert _
        rw [turn.streams _ _ there, Option.some.injEq] at taken
        omega

theorem remembered_step_iff (sound : c.Sound) (remembered : c.Remembered) (a : Action) :
    (c.step coder a).Remembered ↔ ∀ k, ¬ Forgets coder c a k := by
  refine ⟨fun later k forgets => ?_, remembered_step sound remembered⟩
  obtain ⟨small, unsettled, gone⟩ := forgets_step sound forgets
  obtain ⟨small, follows⟩ := step_old coder a small
  have there := later k small (((sound.step a).heads k).mp unsettled)
  rw [follows.id] at there
  exact gone there

/-- In every run, the streams whose heads are open stay in the map exactly if no step
forgets one of them. -/
theorem remembered_after_iff (coder : Coder D) (decoder : D) (options : ConnectOptions)
    (actions : List Action) :
    Machine.Along (step coder) (fun s a => (s.step coder a).Remembered) (connect decoder options)
        actions ↔
      Machine.Along (step coder) (fun s a => ∀ k, ¬ Forgets coder s a k)
        (connect decoder options) actions := by
  have sound : (fresh decoder options.onPush).Sound := ⟨nofun, fun _ => iff_of_true rfl rfl⟩
  have remembered : (fresh decoder options.onPush).Remembered := nofun
  have any : On 0 (fun _ => True) := fun _ _ _ => trivial
  have turn : Section (fun _ => True) (fun _ => False) (fun _ => True)
      (fresh decoder options.onPush) (connect decoder options) :=
    .connect decoder options any
  have connected := sound.turn turn.turn
  refine Machine.along_next_iff (P := Sound) (fun _ a sound _ => sound.step a)
    (fun _ a sound remembered => remembered_step_iff sound remembered a) connected ?_ actions
  exact remembered.turn sound turn connected

/-- The response to a request without a body is DATA that ends the stream. -/
def headlessRun : List Action := [.written, .request 0 ⟨.bare .empty, false⟩, .resume 0]

theorem not_remembered_headless : ¬ Machine.Along (step hpack)
    (fun s a => (s.step hpack a).Remembered) (connect (.new 4096) {})
    (headlessRun ++ [.frame (.data 1 [] true)]) := by
  intro along
  have there := (Machine.along_append.mp along).2.1 0 (by decide +kernel) (by decide +kernel)
  have gone : (after hpack (.new 4096) {} (headlessRun ++ [.frame (.data 1 [] true)])).streams.lookup
      1 = none := by
    decide +kernel
  cases gone.symm.trans there

end H2Connection

end Typescript

end H2ts
