import H2ts.Typescript.Steps

/-!
# Admission

`request` looks at `closedFlag` and `goawayReceived` when it is called and inside its
loop, but not behind it.  A call that was suspended while the connection went away
finds a free slot and opens a stream on it: the teardown itself frees the slots.

A run opens no stream on a dead or departing connection exactly if no suspended call is
let through on one (`admits_after_iff`).
-/

namespace H2ts

namespace Typescript

open Hpack

namespace H2Connection

variable {D : Type} {coder : Coder D} {c t u : H2Connection D}

/-- The connection is closed or going away. -/
def departing (c : H2Connection D) : Bool := c.closedFlag || c.goawayReceived

/-- A call that is suspended in `request` and that nothing holds any longer. -/
def Resumable (c : H2Connection D) (i : Nat) : Prop :=
  (∃ init, c.calls i = .awaitingReady init) ∧ c.ready = .resolved () ∨
    (∃ init, c.calls i = .parked init) ∧ i ∉ c.streamSlotWaiters

/-- A step opens no request's stream on a dead or departing connection. -/
structure Admits (coder : Coder D) (c : H2Connection D) (a : Action) : Prop where
  /-- It adds the stream of a request to the map only on a connection that is neither. -/
  opens : ∀ k, c.made ≤ k → k < (c.step coder a).made →
    ((c.step coder a).objects k).pushed = false → c.closedFlag = false ∧ c.goawayReceived = false
  /-- When the connection is closed, no request has its stream in the map. -/
  unmapped : (c.step coder a).closedFlag = true → ∀ id k,
    (c.step coder a).streams.lookup id = some k → ((c.step coder a).objects k).pushed = true
  /-- A suspended call rejects once the connection is dead or departing. -/
  rejects : ∀ i, a = .resume i → c.Resumable i → c.departing = true →
    ∃ reason, (c.step coder a).calls i = .rejected reason

/-- Only pushed streams are left in the map of a closed connection. -/
def Emptied (c : H2Connection D) : Prop :=
  c.closedFlag = true → ∀ id k, c.streams.lookup id = some k → (c.objects k).pushed = true

namespace Emptied

theorem turn (turn : c.Turn t) (emptied : c.Emptied) : t.Emptied := by
  intro closed id k found
  rw [(turn.objects k).pushed]
  rcases turn.swept closed with before | empty
  · exact emptied before id k (turn.streams id k found)
  · rw [empty id] at found
    cases found

theorem takePush (emptied : c.Emptied) (promisedId : Int) : (c.takePush promisedId).Emptied := by
  intro closed id k found
  rcases eq_or_ne k c.made with rfl | different
  · show (Function.update c.objects c.made (c.pushedStream promisedId) c.made).pushed = true
    rw [Function.update_self]
    rfl
  · have before : c.streams.lookup id = some k := by
      have found : (c.streams.insert promisedId c.made).lookup id = some k := found
      rcases eq_or_ne id promisedId with rfl | other
      · rw [AList.lookup_insert, Option.some.injEq] at found
        exact absurd found.symm different
      · rwa [AList.lookup_insert_ne other] at found
    show (Function.update c.objects c.made (c.pushedStream promisedId) k).pushed = true
    rw [Function.update_of_ne different]
    exact emptied closed id k before

end Emptied

/-- A suspended call that is not let through rejects on such a connection. -/
theorem resume_rejects {i : Nat} (resumable : c.Resumable i) (departs : c.departing = true)
    (waits : c.admitted i = none) : ∃ reason, (c.resume coder i).calls i = .rejected reason := by
  have refused : ∃ reason, c.refusal = some reason := by
    unfold departing at departs
    unfold refusal
    cases closed : c.closedFlag with
    | true => exact ⟨_, rfl⟩
    | false =>
        rw [closed, Bool.false_or] at departs
        simp only [departs, Bool.false_eq_true, if_false, if_true]
        exact ⟨_, rfl⟩
  obtain ⟨reason, refused⟩ := refused
  have rejected (init : H2RequestInit) (full : c.canOpenStream = false) :
      (c.tryOpen coder i init).calls i = .rejected reason := by
    simp only [tryOpen, full, refused, setCall, Bool.false_eq_true, if_false, Function.update_self]
  refine ⟨reason, ?_⟩
  unfold admitted at waits
  unfold resume
  rcases resumable with ⟨⟨init, call⟩, ready⟩ | ⟨⟨init, call⟩, woken⟩
  · cases room : c.canOpenStream with
    | true => simp only [room, call, ready, if_true] at waits; cases waits
    | false => simpa only [call, ready] using rejected init room
  · cases room : c.canOpenStream with
    | true => simp only [room, call, if_neg woken, if_true] at waits; cases waits
    | false => simpa only [call, if_neg woken] using rejected init room

/-- No suspended call is let through on a dead or departing connection. -/
def HoldsBack (c : H2Connection D) (a : Action) : Prop :=
  ∀ i init, a = .resume i → c.admitted i = some init → c.departing = false

theorem emptied_step {a : Action} (emptied : c.Emptied) (holds : c.HoldsBack a) :
    (c.step coder a).Emptied := by
  rcases turn_cases coder c a with turn | ⟨i, init, rfl, admits, turn, -⟩ |
    ⟨frame, pb, headers, u, rfl, -, -, -, turn, same⟩
  · exact emptied.turn turn
  · have live := holds i init rfl admits
    have open_ : c.reserve.Emptied := by
      intro closed
      have closed : c.closedFlag = true := closed
      simp only [departing, closed, Bool.true_or] at live
      cases live
    exact open_.turn turn
  · rw [same]
    exact (emptied.turn turn).takePush _

theorem admits_iff {a : Action} (emptied : c.Emptied) : Admits coder c a ↔ c.HoldsBack a := by
  constructor
  · rintro admits i init rfl lets
    have turn : c.reserve.Turn (c.resume coder i) := by
      rw [resume_admitted lets]
      exact .openStream trivial (fun _ _ _ _ _ => trivial) fun _ _ => trivial
    have own : ((c.resume coder i).objects c.made).pushed = false := by
      refine (turn.objects c.made).pushed.trans ?_
      show (Function.update c.objects c.made _ c.made).pushed = false
      rw [Function.update_self]
      rfl
    have made : (c.resume coder i).made = c.made + 1 := turn.made
    obtain ⟨live, staying⟩ := admits.opens c.made le_rfl (made ▸ Nat.lt_succ_self _) own
    simp only [departing, live, staying, Bool.or_self]
  · intro holds
    refine ⟨fun k old new own => ?_, emptied_step emptied holds, ?_⟩
    · rcases turn_cases coder c a with turn | ⟨i, init, rfl, lets, -, -⟩ |
        ⟨frame, pb, headers, u, rfl, -, -, -, turn, same⟩
      · rw [turn.made] at new
        omega
      · have live := holds i init rfl lets
        rwa [departing, Bool.or_eq_false_iff] at live
      · -- The stream of a push is a pushed one.
        rw [same] at new own
        have made : k = u.made := by
          have new : k < u.made + 1 := new
          have fresh := turn.made
          omega
        subst made
        have pushed : (Function.update u.objects u.made
          (u.pushedStream pb.promisedStreamId) u.made).pushed = false := own
        rw [Function.update_self] at pushed
        cases pushed
    · rintro i rfl resumable departs
      refine resume_rejects resumable departs ?_
      rcases lets : c.admitted i with _ | init
      · rfl
      · rw [holds i init rfl lets] at departs
        cases departs

/-- In every run, no stream is opened on a dead or departing connection exactly if no
suspended call is let through on one. -/
theorem admits_after_iff (coder : Coder D) (decoder : D) (options : ConnectOptions)
    (actions : List Action) :
    Machine.Along (step coder) (Admits coder) (connect decoder options) actions ↔
      Machine.Along (step coder) HoldsBack (connect decoder options) actions := by
  refine Machine.along_congr (P := Emptied) (fun _ _ emptied holds => emptied_step emptied holds)
    (fun _ _ emptied => admits_iff emptied) ?_ actions
  have fresh : (fresh decoder options.onPush).Emptied := nofun
  exact fresh.turn (.connect decoder options fun _ _ _ => trivial)

/-- Two requests to a peer with one slot; the transport closes while the second one is
parked. -/
def parkedRun : List Action :=
  let init : H2RequestInit := ⟨.bare .empty, false⟩
  [.written, .frame (.settings false { maxConcurrentStreams := some 1 }),
    .request 0 init, .resume 0, .request 1 init, .resume 1, .transportClosed]

theorem not_admits_parked : ¬ Machine.Along (step hpack) (Admits hpack)
    (connect (.new 4096) {}) (parkedRun ++ [.resume 1]) := by
  intro along
  have woken := (Machine.along_append.mp along).2.1.rejects 1 rfl
    (.inr ⟨⟨⟨.bare .empty, false⟩, by decide +kernel⟩, by decide +kernel⟩) (by decide +kernel)
  obtain ⟨reason, rejected⟩ := woken
  have opened : (after hpack (.new 4096) {} (parkedRun ++ [.resume 1])).calls 1 =
      .awaitingHead 1 := by
    decide +kernel
  cases opened.symm.trans rejected

end H2Connection

end Typescript

end H2ts
