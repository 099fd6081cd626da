import H2ts.Pool.Routing
import Mathlib.Data.Set.Card

/-!
# One open at a time

The futures that wait for the factory are in flight (`flying`).  There is at most one,
with the pooled connections it stays within the cap, and a request is issued once
(`singleFlight_after`).

The flag `opening` is set before an await and cleared after it.  A future that is
dropped in between leaves it set (`manned_after_iff`).
-/

namespace H2ts

namespace Pool

variable {σ α ι : Type*}

/-- The calls that wait for the factory. -/
def flying (s : Pool σ ι) : Set Nat := {i | ∃ init, s.calls i = .opening init}

/-- The calls whose request was issued. -/
def issued (s : Pool σ ι) : List Nat := s.handed.map Prod.fst

structure Orderly (s : Pool σ ι) : Prop where
  flight : ∀ i ∈ s.flying, ∀ j ∈ s.flying, i = j
  opening : ∀ i ∈ s.flying, s.opening = true
  waiters : s.openWaiters ≠ [] → s.opening = true
  room : s.conns.length + s.opening.toNat ≤ max 1 s.maxConnections
  once : s.issued.Nodup
  ended : ∀ i ∈ s.issued, (∃ h, s.calls i = .routed h) ∨ s.calls i = .dropped

/-- Somebody performs the open. -/
def Owned (s : Pool σ ι) : Prop := s.opening = true → s.flying.Nonempty

/-! ## Calls -/

variable {s : Pool σ ι} {i j : Nat}

theorem setCall_self (s : Pool σ ι) (i : Nat) (call : Call ι) : (s.setCall i call).calls i = call := by
  simp only [setCall, Function.update_self]

theorem setCall_ne (s : Pool σ ι) {i j : Nat} (ne : j ≠ i) (call : Call ι) :
    (s.setCall i call).calls j = s.calls j := by
  simp only [setCall, Function.update_of_ne ne]

/-- The call leaves the factory, or was never there. -/
theorem mem_flying_setCall {call : Call ι} (grounded : ∀ init, call ≠ .opening init) :
    j ∈ (s.setCall i call).flying ↔ j ≠ i ∧ j ∈ s.flying := by
  show (∃ init, (s.setCall i call).calls j = .opening init) ↔ j ≠ i ∧ ∃ init, s.calls j = .opening init
  by_cases eq : j = i
  · subst eq
    simp only [setCall_self, ne_eq, not_true_eq_false, false_and, iff_false, not_exists]
    exact grounded
  · simp only [setCall_ne s eq, ne_eq, eq, not_false_eq_true, true_and]

theorem orderly_setCall (orderly : Orderly s) {call : Call ι} (grounded : ∀ init, call ≠ .opening init)
    (ended : i ∈ s.issued → call = .dropped) : Orderly (s.setCall i call) where
  flight j hj k hk :=
    orderly.flight j ((mem_flying_setCall grounded).mp hj).2 k ((mem_flying_setCall grounded).mp hk).2
  opening j hj := orderly.opening j ((mem_flying_setCall grounded).mp hj).2
  waiters := orderly.waiters
  room := orderly.room
  once := orderly.once
  ended := by
    intro j mem
    by_cases eq : j = i
    · subst eq
      rw [setCall_self]
      exact .inr (ended mem)
    · rw [setCall_ne s eq]
      exact orderly.ended j mem

theorem not_issued (orderly : Orderly s) (fresh : (∀ h, s.calls i ≠ .routed h) ∧ s.calls i ≠ .dropped) :
    i ∉ s.issued := by
  intro mem
  rcases orderly.ended i mem with ⟨h, routed⟩ | dropped
  · exact fresh.1 h routed
  · exact fresh.2 dropped

/-- Fewer connections, and anything else in the world. -/
theorem orderly_conns (orderly : Orderly s) {conns : List Nat} (fewer : conns.length ≤ s.conns.length)
    (world : Nat → σ) : Orderly { s with conns := conns, world := world } where
  flight := orderly.flight
  opening := orderly.opening
  waiters := orderly.waiters
  room := (Nat.add_le_add_right fewer _).trans orderly.room
  once := orderly.once
  ended := orderly.ended

/-! ## Sections -/

variable [PoolConnection σ α ι]

open PoolConnection

theorem orderly_retain (orderly : Orderly s) : Orderly s.retain :=
  orderly_conns orderly (List.length_filter_le _ _) s.world

theorem orderly_route (orderly : Orderly s) (fresh : i ∉ s.issued) (init : ι) (h : Nat) :
    Orderly (s.route i init h) := by
  have called : Orderly (s.setCall i (.routed h)) :=
    orderly_setCall orderly (by simp) fun mem => absurd mem fresh
  refine ⟨called.flight, called.opening, orderly.waiters, orderly.room, ?_, ?_⟩
  · show ((s.handed ++ [(i, h)]).map Prod.fst).Nodup
    rw [List.map_append]
    exact orderly.once.append (List.nodup_singleton i) (List.disjoint_singleton.mpr fresh)
  · intro j mem
    by_cases eq : j = i
    · subst eq
      exact .inl ⟨h, s.setCall_self j _⟩
    · refine called.ended j ?_
      have split : j ∈ s.issued ++ [i] := by simpa [issued, route] using mem
      rcases List.mem_append.mp split with mem | last
      · exact mem
      · exact absurd (List.mem_singleton.mp last) eq

/-- Nothing is chosen only if there is room for one more connection. -/
theorem room_of_chosen_none (none_ : s.chosen = none) :
    s.conns.length + 1 ≤ max 1 s.maxConnections := by
  unfold chosen at none_
  split at none_
  · cases none_
  · cases conns : s.conns with
    | nil => exact Nat.le_max_left 1 _
    | cons h rest =>
        by_cases full : s.maxConnections ≤ s.conns.length
        · simp [conns] at none_ full
          omega
        · rw [← conns]
          omega

theorem orderly_openOne (orderly : Orderly s) (fresh : i ∉ s.issued)
    (room : s.conns.length + 1 ≤ max 1 s.maxConnections) (init : ι) : Orderly (s.openOne i init) := by
  unfold openOne
  split
  next opening =>
    have called : Orderly (s.setCall i (.waiting init)) :=
      orderly_setCall orderly (by simp) fun mem => absurd mem fresh
    exact ⟨called.flight, called.opening, fun _ => opening, called.room, called.once, called.ended⟩
  next closed =>
    have only {j : Nat} (mem : j ∈ ({ s with opening := true }.setCall i (.opening init)).flying) :
        j = i := by
      by_contra ne
      obtain ⟨init', call⟩ := mem
      rw [setCall_ne _ ne] at call
      exact closed (orderly.opening j ⟨init', call⟩)
    refine ⟨fun j hj k hk => (only hj).trans (only hk).symm, fun _ _ => rfl, fun _ => rfl, room,
      orderly.once, ?_⟩
    intro j mem
    have ne : j ≠ i := fun eq => fresh (eq ▸ mem)
    rw [setCall_ne _ ne]
    exact orderly.ended j mem

theorem orderly_attempt (orderly : Orderly s) (fresh : i ∉ s.issued) (init : ι) :
    Orderly (s.attempt i init) := by
  have kept := orderly_retain orderly
  simp only [attempt]
  split
  · exact orderly_route kept fresh init _
  next none_ => exact orderly_openOne kept fresh (room_of_chosen_none none_) init

theorem orderly_resume (orderly : Orderly s) (fresh : i ∉ s.issued) (init : ι) :
    Orderly (s.resume i init) := by
  have again := orderly_attempt orderly fresh init
  unfold resume
  split
  · split
    · exact orderly_route orderly fresh init _
    · exact again
  · exact again

/-- What a call was before does not matter to the section that it runs. -/
theorem attempt_setCall (s : Pool σ ι) (i : Nat) (call : Call ι) (init : ι) :
    (s.setCall i call).attempt i init = s.attempt i init := by
  have routed (h : Nat) : ((s.setCall i call).retain).route i init h = s.retain.route i init h := by
    simp only [route, retain, setCall, Function.update_idem]
  have opened : ((s.setCall i call).retain).openOne i init = s.retain.openOne i init := by
    simp only [openOne, retain, setCall, Function.update_idem]
    rfl
  simp only [attempt, routed, opened]
  rfl

theorem resume_setCall (s : Pool σ ι) (i : Nat) (call : Call ι) (init : ι) :
    (s.setCall i call).resume i init = s.resume i init := by
  have routed (h : Nat) : (s.setCall i call).route i init h = s.route i init h := by
    simp only [route, setCall, Function.update_idem]
  simp only [resume, attempt_setCall, routed]
  rfl

/-- The open has landed, and its owner is about to go on. -/
theorem orderly_landed (orderly : Orderly s) {init : ι} (owner : s.calls i = .opening init)
    {conns : List Nat} (more : conns.length ≤ s.conns.length + 1) {call : Call ι}
    (grounded : ∀ init, call ≠ .opening init) :
    Orderly ({ s.landed with conns := conns }.setCall i call) := by
  have empty {j : Nat} (mem : j ∈ ({ s.landed with conns := conns }.setCall i call).flying) : False := by
    obtain ⟨ne, mem⟩ := (mem_flying_setCall grounded).mp mem
    exact ne (orderly.flight j mem i ⟨init, owner⟩)
  have room := orderly.room
  rw [orderly.opening i ⟨init, owner⟩] at room
  refine ⟨fun j mem => (empty mem).elim, fun j mem => (empty mem).elim, fun some => absurd rfl some,
    more.trans room, orderly.once, fun j mem => ?_⟩
  have ne : j ≠ i := by
    rintro rfl
    refine not_issued orderly ?_ mem
    simp [owner]
  rw [setCall_ne _ ne]
  exact orderly.ended j mem

theorem orderly_finishOpen (orderly : Orderly s) {init : ι} (owner : s.calls i = .opening init)
    (result : Except H2Error Nat) : Orderly (s.finishOpen i init result) := by
  cases result with
  | error err => exact orderly_landed orderly owner (Nat.le_succ _) (by simp)
  | ok h =>
      have fresh : i ∉ s.issued := not_issued orderly (by simp [owner])
      have idle : Orderly ({ s.landed with conns := s.conns ++ [h] }.setCall i .idle) :=
        orderly_landed orderly owner (by simp) (by simp)
      rw [finishOpen, ← resume_setCall _ i .idle]
      exact orderly_resume idle fresh init

theorem close_eq (s : Pool σ ι) : ∃ world, s.close = { s with conns := [], world := world } := by
  have folded (hs : List Nat) (s : Pool σ ι) : ∃ world,
      hs.foldl (fun s h => s.setConn h (PoolConnection.close (s.world h))) s =
        { s with world := world } := by
    induction hs generalizing s with
    | nil => exact ⟨s.world, rfl⟩
    | cons h hs ih => exact ih _
  obtain ⟨world, same⟩ := folded s.conns s
  exact ⟨world, by rw [close, same]⟩

theorem orderly_step (s : Pool σ ι) (a : Action α ι) (orderly : Orderly s) : Orderly (s.step a) := by
  cases a with
  | request i init =>
      simp only [step]
      split
      next idle => exact orderly_attempt orderly (not_issued orderly (by simp [idle])) init
      · exact orderly
  | opened i result =>
      simp only [step]
      split
      next init owner => exact orderly_finishOpen orderly owner result
      · exact orderly
  | wake i =>
      simp only [step]
      split
      next init waiting =>
        split
        · exact orderly
        · exact orderly_resume orderly (not_issued orderly (by simp [waiting])) init
      · exact orderly
  | drop i =>
      have dropped : Orderly (s.setCall i .dropped) := orderly_setCall orderly (by simp) fun _ => rfl
      simp only [step, dropCall]
      split
      · exact dropped
      · exact dropped
      · exact dropped
      · exact orderly
  | close =>
      obtain ⟨world, same⟩ := s.close_eq
      rw [step, same]
      exact orderly_conns orderly (Nat.zero_le _) world
  | conn h a => exact orderly_conns orderly le_rfl _

theorem orderly_new (maxConnections : Nat) (world : Nat → σ) :
    Orderly (new maxConnections world : Pool σ ι) := by
  have empty {i : Nat} (mem : i ∈ (new maxConnections world : Pool σ ι).flying) : False := by
    obtain ⟨init, call⟩ := mem
    cases call
  exact ⟨fun i mem => (empty mem).elim, fun i mem => (empty mem).elim, fun some => absurd rfl some,
    Nat.zero_le _, List.nodup_nil, fun i mem => absurd mem List.not_mem_nil⟩

theorem maxConnections_step (s : Pool σ ι) (a : Action α ι) :
    (s.step a).maxConnections = s.maxConnections := by
  have attempted (s : Pool σ ι) (i : Nat) (init : ι) :
      (s.attempt i init).maxConnections = s.maxConnections := by
    simp only [attempt, openOne]
    split
    · rfl
    · split <;> rfl
  have resumed (s : Pool σ ι) (i : Nat) (init : ι) :
      (s.resume i init).maxConnections = s.maxConnections := by
    unfold resume
    split
    · split
      · rfl
      · exact attempted s i init
    · exact attempted s i init
  cases a with
  | request i init =>
      simp only [step]
      split
      · exact attempted s i init
      · rfl
  | opened i result =>
      simp only [step]
      split
      · cases result with
        | error err => rfl
        | ok h => exact resumed _ i _
      · rfl
  | wake i =>
      simp only [step]
      split
      · split
        · rfl
        · exact resumed s i _
      · rfl
  | drop i =>
      simp only [step, dropCall]
      split <;> rfl
  | close =>
      obtain ⟨world, same⟩ := s.close_eq
      rw [step, same]
  | conn h a => rfl

/-! ## Who performs the open -/

theorem owned_of_ne (owned : Owned s) (grounded : i ∉ s.flying) {call : Call ι} :
    Owned (s.setCall i call) := by
  intro opening
  obtain ⟨j, init, owner⟩ := owned opening
  have ne : j ≠ i := by
    rintro rfl
    exact grounded ⟨init, owner⟩
  exact ⟨j, init, (s.setCall_ne ne call).trans owner⟩

theorem owned_attempt (owned : Owned s) (grounded : i ∉ s.flying) (init : ι) :
    Owned (s.attempt i init) := by
  simp only [attempt]
  split
  next h _ =>
    have called : Owned (s.setCall i (.routed h)) := owned_of_ne owned grounded
    exact called
  · unfold openOne
    split
    next opening =>
      have called : Owned (s.setCall i (.waiting init)) := owned_of_ne owned grounded
      exact called
    · exact fun _ => ⟨i, init, setCall_self _ i _⟩

theorem owned_resume (owned : Owned s) (grounded : i ∉ s.flying) (init : ι) :
    Owned (s.resume i init) := by
  have again := owned_attempt owned grounded init
  unfold resume
  split
  next h _ =>
    split
    · have called : Owned (s.setCall i (.routed h)) := owned_of_ne owned grounded
      exact called
    · exact again
  · exact again

theorem owned_finishOpen (s : Pool σ ι) (i : Nat) (init : ι) (result : Except H2Error Nat) :
    Owned (s.finishOpen i init result) := by
  cases result with
  | error err => exact fun opening => Bool.noConfusion opening
  | ok h =>
      rw [finishOpen, ← resume_setCall _ i .idle]
      refine owned_resume (fun opening => Bool.noConfusion opening) (fun mem => ?_) init
      exact ((mem_flying_setCall (by simp)).mp mem).1 rfl

/-- The future that performs the open is dropped. -/
def Deserts (s : Pool σ ι) (a : Action α ι) : Prop := ∃ i ∈ s.flying, a = .drop i

theorem owned_step (s : Pool σ ι) (a : Action α ι) (orderly : Orderly s) (owned : Owned s) :
    Owned (s.step a) ↔ ¬ s.Deserts a := by
  have stays {a : Action α ι} (kept : Owned (s.step a)) (other : ∀ i, a ≠ .drop i) :
      Owned (s.step a) ↔ ¬ s.Deserts a :=
    iff_of_true kept fun ⟨i, _, drop⟩ => other i drop
  cases a with
  | request i init =>
      refine stays ?_ (by simp)
      simp only [step]
      split
      next idle => exact owned_attempt owned (fun ⟨_, owner⟩ => by simp [idle] at owner) init
      · exact owned
  | opened i result =>
      refine stays ?_ (by simp)
      simp only [step]
      split
      · exact owned_finishOpen s i _ result
      · exact owned
  | wake i =>
      refine stays ?_ (by simp)
      simp only [step]
      split
      next init waiting =>
        split
        · exact owned
        · exact owned_resume owned (fun ⟨_, owner⟩ => by simp [waiting] at owner) init
      · exact owned
  | drop i =>
      by_cases owner : i ∈ s.flying
      · refine iff_of_false (fun owned => ?_) fun stays => stays ⟨i, owner, rfl⟩
        obtain ⟨init, call⟩ := owner
        have dropped : s.step (.drop i) = s.setCall i .dropped := by simp only [step, dropCall, call]
        rw [dropped] at owned
        obtain ⟨j, flying⟩ := owned (orderly.opening i ⟨init, call⟩)
        obtain ⟨ne, flying⟩ := (mem_flying_setCall (by simp)).mp flying
        exact ne (orderly.flight j flying i ⟨init, call⟩)
      · refine iff_of_true ?_ fun ⟨j, flying, same⟩ => owner (Action.drop.inj same ▸ flying)
        have dropped : Owned (s.setCall i .dropped) := owned_of_ne owned owner
        simp only [step, dropCall]
        split
        · exact dropped
        · exact dropped
        · exact dropped
        · exact owned
  | close =>
      refine stays ?_ (by simp)
      obtain ⟨world, same⟩ := s.close_eq
      rw [step, same]
      exact owned
  | conn h a => exact stays owned (by simp)

theorem owned_new (maxConnections : Nat) (world : Nat → σ) :
    Owned (new maxConnections world : Pool σ ι) :=
  fun opening => Bool.noConfusion opening

/-! ## Whole runs -/

structure SingleFlight (maxConnections : Nat) (s : Pool σ ι) : Prop where
  flight : s.flying.encard ≤ 1
  cap : s.conns.length + s.flying.encard ≤ (max 1 maxConnections : Nat)
  waiters : s.openWaiters ≠ [] → s.flying.Nonempty
  once : s.issued.Nodup
  error : ∀ i err, s.calls i = .failed err → i ∉ s.issued

theorem singleFlight_of_orderly (orderly : Orderly s) (owned : Owned s) :
    SingleFlight s.maxConnections s where
  flight := Set.encard_le_one_iff.mpr fun i j hi hj => orderly.flight i hi j hj
  cap := by
    have room := orderly.room
    cases opening : s.opening with
    | true =>
        obtain ⟨i, mem⟩ := owned opening
        have one : s.flying = {i} := by
          ext j
          exact ⟨fun hj => orderly.flight j hj i mem, fun eq => Set.mem_singleton_iff.mp eq ▸ mem⟩
        rw [one, Set.encard_singleton]
        rw [opening, Bool.toNat_true] at room
        exact_mod_cast room
    | false =>
        have none_ : s.flying = ∅ := by
          refine Set.eq_empty_iff_forall_notMem.mpr fun i mem => ?_
          rw [orderly.opening i mem] at opening
          cases opening
        rw [none_, Set.encard_empty, add_zero]
        rw [opening] at room
        exact_mod_cast room
  waiters some := owned (orderly.waiters some)
  once := orderly.once
  error i err failed := not_issued orderly (by simp [failed])

/-- While no future is dropped, at most one factory call is in flight, the connections and
that call stay within the cap, requests wait only for a call in flight, and each
request is issued once at most and not if the factory failed. -/
theorem singleFlight_after (maxConnections : Nat) (world : Nat → σ) (actions : List (Action α ι))
    (driven : ∀ a ∈ actions, ∀ i, a ≠ .drop i) :
    SingleFlight maxConnections (after maxConnections world actions) := by
  have start : (Orderly (new maxConnections world : Pool σ ι) ∧
      Owned (new maxConnections world : Pool σ ι)) ∧
      (new maxConnections world : Pool σ ι).maxConnections = maxConnections :=
    ⟨⟨orderly_new maxConnections world, owned_new maxConnections world⟩, rfl⟩
  have along : Machine.Along step (fun _ a => ∀ i, a ≠ Action.drop i)
      (new maxConnections world : Pool σ ι) actions := Machine.along_of_forall driven
  obtain ⟨⟨orderly, owned⟩, cap⟩ := Machine.run_invariant_along
    (P := fun s : Pool σ ι => (Orderly s ∧ Owned s) ∧ s.maxConnections = maxConnections)
    (fun s a inv driven => ⟨⟨orderly_step s a inv.1.1, (owned_step s a inv.1.1 inv.1.2).mpr
      fun ⟨i, _, drop⟩ => driven i drop⟩, (maxConnections_step s a).trans inv.2⟩) start along
  have flight := singleFlight_of_orderly orderly owned
  rwa [cap] at flight

/-- Two requests on an empty pool.  The second waits for the open of the first. -/
def coldStart : List (Action H2ts.Action Request) :=
  [.request 0 (.bare .empty), .request 1 (.bare .empty), .opened 0 (.ok 0), .wake 1]

theorem singleFlight_after_coldStart :
    SingleFlight 1 (after 1 (fun _ => connect {}) coldStart) :=
  singleFlight_after 1 _ coldStart (by simp [coldStart])

/-- The open is performed, and so is the one that a call waits for. -/
structure Manned (s : Pool σ ι) : Prop where
  owned : s.opening = true → s.flying.Nonempty
  waiters : ∀ i ∈ s.openWaiters, s.flying.Nonempty

theorem manned_iff (orderly : Orderly s) : Manned s ↔ Owned s :=
  ⟨Manned.owned, fun owned =>
    ⟨owned, fun _ mem => owned (orderly.waiters (List.ne_nil_of_mem mem))⟩⟩

/-- Along every run somebody performs the open exactly if nobody who does is dropped. -/
theorem manned_after_iff (maxConnections : Nat) (world : Nat → σ) (actions : List (Action α ι)) :
    Machine.Along step (fun s a => Manned (s.step a)) (new maxConnections world : Pool σ ι) actions ↔
      Machine.Along step (fun s a => ¬ s.Deserts a) (new maxConnections world : Pool σ ι) actions := by
  refine Machine.along_next_iff (P := Orderly) (fun s a orderly _ => orderly_step s a orderly)
    (fun s a orderly manned => ?_)
    (orderly_new maxConnections world)
    ((manned_iff (orderly_new maxConnections world)).mpr (owned_new maxConnections world)) actions
  rw [manned_iff (orderly_step s a orderly)]
  exact owned_step s a orderly manned.owned

/-- The flag is set and nobody performs the open. -/
structure Deserted (s : Pool σ ι) : Prop where
  opening : s.opening = true
  empty : s.flying = ∅

theorem deserted_setCall (deserted : Deserted s) {call : Call ι}
    (grounded : ∀ init, call ≠ .opening init) : Deserted (s.setCall i call) := by
  refine ⟨deserted.opening, Set.eq_empty_iff_forall_notMem.mpr fun j mem => ?_⟩
  have flying := ((mem_flying_setCall grounded).mp mem).2
  rw [deserted.empty] at flying
  exact flying

theorem deserted_attempt (deserted : Deserted s) (i : Nat) (init : ι) :
    Deserted (s.attempt i init) := by
  simp only [attempt]
  split
  next h _ =>
    have called : Deserted (s.setCall i (.routed h)) := deserted_setCall deserted (by simp)
    exact ⟨called.opening, called.empty⟩
  · have called : Deserted (s.setCall i (.waiting init)) := deserted_setCall deserted (by simp)
    unfold openOne
    split
    · exact ⟨called.opening, called.empty⟩
    next closed => exact absurd deserted.opening closed

theorem deserted_resume (deserted : Deserted s) (i : Nat) (init : ι) :
    Deserted (s.resume i init) := by
  have again := deserted_attempt deserted i init
  unfold resume
  split
  next h _ =>
    split
    · have called : Deserted (s.setCall i (.routed h)) := deserted_setCall deserted (by simp)
      exact ⟨called.opening, called.empty⟩
    · exact again
  · exact again

/-- Nothing clears the flag of an open that was deserted. -/
theorem deserted_step (s : Pool σ ι) (a : Action α ι) (deserted : Deserted s) :
    Deserted (s.step a) := by
  cases a with
  | request i init =>
      simp only [step]
      split
      · exact deserted_attempt deserted i init
      · exact deserted
  | opened i result =>
      simp only [step]
      split
      next init owner =>
        have flying : i ∈ s.flying := ⟨init, owner⟩
        rw [deserted.empty] at flying
        exact flying.elim
      · exact deserted
  | wake i =>
      simp only [step]
      split
      · split
        · exact deserted
        · exact deserted_resume deserted i _
      · exact deserted
  | drop i =>
      have dropped : Deserted (s.setCall i .dropped) := deserted_setCall deserted (by simp)
      simp only [step, dropCall]
      split
      · exact dropped
      · exact dropped
      · exact dropped
      · exact deserted
  | close =>
      obtain ⟨world, same⟩ := s.close_eq
      rw [step, same]
      exact ⟨deserted.opening, deserted.empty⟩
  | conn h a => exact ⟨deserted.opening, deserted.empty⟩

/-- A caller gives up while it opens the first connection, and another comes. -/
def timedOut : List (Action H2ts.Action Request) :=
  [.request 0 (.bare .empty), .drop 0, .request 1 (.bare .empty)]

/-- The other waits for an open that nobody performs, now and ever after. -/
theorem not_manned_timedOut :
    (¬ Machine.Along step (fun s a => Manned (s.step a)) (new 1 fun _ => connect {}) timedOut) ∧
      (after 1 (fun _ => connect {}) timedOut).calls 1 = .waiting (.bare .empty) ∧
      (after 1 (fun _ => connect {}) timedOut).openWaiters = [1] ∧
      ∀ later : List (Action H2ts.Action Request),
        (after 1 (fun _ => connect {}) (timedOut ++ later)).opening = true ∧
          (after 1 (fun _ => connect {}) (timedOut ++ later)).flying = ∅ := by
  have deserted : Deserted (after 1 (fun _ => connect {}) (timedOut.take 2)) := by
    refine ⟨rfl, Set.eq_empty_iff_forall_notMem.mpr ?_⟩
    rintro i ⟨init, owner⟩
    change Function.update (Function.update (fun _ => Call.idle) 0 _) 0 Call.dropped i = _ at owner
    rw [Function.update_idem] at owner
    by_cases eq : i = 0
    · rw [eq, Function.update_self] at owner
      cases owner
    · rw [Function.update_of_ne eq] at owner
      cases owner
  refine ⟨?_, rfl, rfl, fun later => ?_⟩
  · rintro ⟨-, manned, -⟩
    obtain ⟨i, flying⟩ := manned.owned rfl
    have empty : i ∈ (after 1 (fun _ => connect {}) (timedOut.take 2)).flying := flying
    rw [deserted.empty] at empty
    exact empty
  · have ever : Deserted (after 1 (fun _ => connect {}) (timedOut ++ later)) := by
      rw [after, Machine.run_append]
      exact Machine.run_invariant deserted_step
        (deserted_step _ (.request 1 (.bare .empty)) deserted) later
    exact ⟨ever.opening, ever.empty⟩

end Pool

end H2ts
