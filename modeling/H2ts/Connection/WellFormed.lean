import H2ts.Connection.Refine

/-!
# Ids and cells

The `k`-th stream has the id `2k + 1`, modulo `2^32`.  A stream in the map names
the cells that carry its id, and its send window is not closed.  While at most
`2^31` streams were opened, ids are unique: the stream in the map under the id of
a cell is the stream of that cell (`WellFormed.cell_eq`).
-/

namespace H2ts

open History

/-- The id of the `k`-th stream. -/
def idOf (k : Nat) : UInt32 := UInt32.ofNat (2 * k + 1)

theorem idOf_ne_zero (k : Nat) : idOf k ≠ 0 := by
  intro zero
  have value := congrArg UInt32.toNat zero
  simp only [idOf, UInt32.toNat_ofNat', UInt32.toNat_zero] at value
  omega

theorem idOf_succ (k : Nat) : idOf k + 2 = idOf (k + 1) := by
  apply UInt32.toNat.inj
  simp only [idOf, UInt32.toNat_add, UInt32.toNat_ofNat', UInt32.reduceToNat]
  omega

theorem idOf_injective {j k : Nat} (small : j < 2 ^ 31) (small' : k < 2 ^ 31)
    (same : idOf j = idOf k) : j = k := by
  have value := congrArg UInt32.toNat same
  simp only [idOf, UInt32.toNat_ofNat'] at value
  omega

/-- The history of the stream of a cell, from when it was opened. -/
def View.events (v : View) (k : Nat) : List Event := since (v.cells k).id v.history

structure WellFormed (v : View) : Prop where
  next : v.nextStreamId = idOf v.opened
  ids : ∀ k < v.opened, (v.cells k).id = idOf k
  unopened : ∀ k, v.opened ≤ k → (v.cells k).pump = .idle
  mapped : ∀ id s, v.streams id = some s →
    s.cell < v.opened ∧ (v.cells s.cell).id = id ∧ s.windowClosed = false
  current : ∀ id s, v.streams id = some s → ∀ j, s.cell < j → j < v.opened → (v.cells j).id ≠ id

/-- A cell whose id no later stream has taken. -/
def View.Latest (v : View) (k : Nat) : Prop :=
  k < v.opened ∧ ∀ j, k < j → j < v.opened → (v.cells j).id ≠ (v.cells k).id

namespace WellFormed

variable {v w : View}

/-- A cell whose pump is not idle was opened. -/
theorem opened_of_pump (wf : WellFormed v) {k : Nat} (busy : (v.cells k).pump ≠ .idle) :
    k < v.opened := by
  by_contra beyond
  exact busy (wf.unopened k (Nat.le_of_not_lt beyond))

theorem mapped_zero (wf : WellFormed v) : v.streams 0 = none := by
  cases found : v.streams 0 with
  | none => rfl
  | some s =>
      obtain ⟨opened, named, -⟩ := wf.mapped 0 s found
      rw [wf.ids s.cell opened] at named
      exact absurd named (idOf_ne_zero s.cell)

theorem latest (wf : WellFormed v) (few : v.opened ≤ 2 ^ 31) {k : Nat} (opened : k < v.opened) :
    v.Latest k := by
  refine ⟨opened, fun j later below same => ?_⟩
  rw [wf.ids j below, wf.ids k opened] at same
  exact Nat.ne_of_gt later (idOf_injective (by omega) (by omega) same)

/-- Which cells are the latest depends on the number of streams only. -/
theorem latest_iff (wf : WellFormed v) (wf' : WellFormed w) (same : w.opened = v.opened) {k : Nat} :
    w.Latest k ↔ v.Latest k := by
  have ids : ∀ j, j < v.opened → (w.cells j).id = (v.cells j).id := fun j below => by
    rw [wf.ids j below, wf'.ids j (same ▸ below)]
  unfold View.Latest
  rw [same]
  refine and_congr_right fun opened => forall_congr' fun j => forall_congr' fun _ =>
    forall_congr' fun below => ?_
  rw [ids j below, ids k opened]

/-- The stream under the id of a cell is the stream of that cell. -/
theorem cell_eq (wf : WellFormed v) {k : Nat} (latest : v.Latest k) {s : StreamView}
    (found : v.streams (v.cells k).id = some s) : s.cell = k := by
  obtain ⟨below, named, -⟩ := wf.mapped _ s found
  rcases Nat.lt_trichotomy s.cell k with less | same | greater
  · exact absurd rfl (wf.current _ s found k less latest.1)
  · exact same
  · exact absurd named (latest.2 s.cell greater below)

theorem id_ne (wf : WellFormed v) (few : v.opened ≤ 2 ^ 31) {j k : Nat} (opened : j < v.opened)
    (opened' : k < v.opened) (ne : j ≠ k) : (v.cells j).id ≠ (v.cells k).id := by
  rw [wf.ids j opened, wf.ids k opened']
  exact fun same => ne (idOf_injective (by omega) (by omega) same)

/-- The id about to be allocated is not in use. -/
theorem next_ne (wf : WellFormed v) (few : v.opened < 2 ^ 31) {k : Nat} (opened : k < v.opened) :
    v.nextStreamId ≠ (v.cells k).id := by
  rw [wf.next, wf.ids k opened]
  exact fun same => Nat.ne_of_gt opened (idOf_injective (by omega) (by omega) same)

theorem keep (wf : WellFormed v) (opened : w.opened = v.opened)
    (next : w.nextStreamId = v.nextStreamId) (ids : ∀ k, (w.cells k).id = (v.cells k).id)
    (idle : ∀ k, (v.cells k).pump = .idle → (w.cells k).pump = .idle)
    (streams : View.Carries (fun s s' => s'.cell = s.cell ∧ s'.windowClosed = s.windowClosed) v w) :
    WellFormed w := by
  refine ⟨?_, fun k below => ?_, fun k beyond => ?_, fun id s' found => ?_, fun id s' found => ?_⟩
  · rw [next, opened, wf.next]
  · rw [ids k, wf.ids k (opened ▸ below)]
  · exact idle k (wf.unopened k (opened ▸ beyond))
  · obtain ⟨s, before, sameCell, sameFlag⟩ := streams id s' found
    obtain ⟨below, named, flag⟩ := wf.mapped id s before
    rw [sameCell, ids, opened, sameFlag]
    exact ⟨below, named, flag⟩
  · obtain ⟨s, before, sameCell, -⟩ := streams id s' found
    intro j later below
    rw [sameCell] at later
    rw [opened] at below
    rw [ids]
    exact wf.current id s before j later below

theorem setCell (wf : WellFormed v) (k : Nat) {f : CellView → CellView}
    (id : (f (v.cells k)).id = (v.cells k).id)
    (idle : (v.cells k).pump = .idle → (f (v.cells k)).pump = .idle) :
    WellFormed (v.setCell k f) := by
  refine wf.keep rfl rfl (fun j => ?_) (fun j => ?_) (.of_eq (fun _ => ⟨rfl, rfl⟩) rfl)
  · by_cases eq : j = k
    · subst eq
      rw [View.setCell_self, id]
    · rw [View.setCell_ne v eq]
  · by_cases eq : j = k
    · subst eq
      rw [View.setCell_self]
      exact idle
    · rw [View.setCell_ne v eq]
      exact fun h => h

theorem log (wf : WellFormed v) (e : Event) : WellFormed (v.log e) :=
  wf.keep rfl rfl (fun _ => rfl) (fun _ h => h) (.of_eq (fun _ => ⟨rfl, rfl⟩) rfl)

theorem setStream (wf : WellFormed v) (id : UInt32) {f : StreamView → StreamView}
    (same : ∀ s, (f s).cell = s.cell ∧ (f s).windowClosed = s.windowClosed) :
    WellFormed (v.setStream id f) :=
  wf.keep rfl rfl (fun _ => rfl) (fun _ h => h) (.setStream (fun _ => ⟨rfl, rfl⟩) v id same)

theorem forget (wf : WellFormed v) (id : UInt32) :
    WellFormed { v with streams := Function.update v.streams id none } :=
  wf.keep rfl rfl (fun _ => rfl) (fun _ h => h) (.forget (fun _ => ⟨rfl, rfl⟩) v id)

theorem remove (wf : WellFormed v) (id : UInt32) (err : H2Error) :
    WellFormed (v.remove id err) := by
  unfold View.remove
  split
  · exact wf
  · exact ((wf.forget id).setCell _ rfl fun h => h).log _

theorem block (wf : WellFormed v) (id : UInt32) (headers : List Hpack.Header) (endStream : Bool) :
    WellFormed (v.block id headers endStream) := by
  unfold View.block
  split
  · exact wf.log _
  · split
    · exact log (setStream wf id (by simp)) _
    · exact log (setCell (setStream wf id (by simp)) _ rfl (by exact fun idle => idle)) _

theorem data (wf : WellFormed v) (id : UInt32) (bytes : Bytes) (endStream : Bool) :
    WellFormed (v.data id bytes endStream) := by
  unfold View.data
  split
  · exact wf.log _
  · exact log (setCell (setStream wf id (by simp)) _ rfl (by exact fun idle => idle)) _

theorem setPump (wf : WellFormed v) {k : Nat} (busy : (v.cells k).pump ≠ .idle) (pump : Pump) :
    WellFormed (v.setPump k pump) :=
  wf.setCell k rfl fun idle => absurd idle busy

theorem quiet {mayFail : UInt32 → Prop} (step : Quiet mayFail v w) (wf : WellFormed v) :
    WellFormed w := by
  cases step with
  | send frame => exact wf.log _
  | goaway => exact wf.keep rfl rfl (fun _ => rfl) (fun _ h => h) (.of_eq (fun _ => ⟨rfl, rfl⟩) rfl)
  | limit => exact wf.keep rfl rfl (fun _ => rfl) (fun _ h => h) (.of_eq (fun _ => ⟨rfl, rfl⟩) rfl)
  | creditConnection n =>
      exact wf.keep rfl rfl (fun _ => rfl) (fun _ h => h) (.of_eq (fun _ => ⟨rfl, rfl⟩) rfl)
  | creditStream id n => exact log (setStream wf id (by simp)) _
  | adjust initial =>
      refine wf.keep rfl rfl (fun _ => rfl) (fun _ h => h) fun id s' found => ?_
      obtain ⟨s, before, rfl⟩ := Option.map_eq_some_iff.mp found
      exact ⟨s, before, rfl, rfl⟩
  | shut => exact wf.keep rfl rfl (fun _ => rfl) (fun _ h => h) (.of_eq (fun _ => ⟨rfl, rfl⟩) rfl)
  | fail id err => exact wf.remove id err
  | cut e id err => exact (wf.log e).remove id err
  | block id headers endStream => exact wf.block id headers endStream
  | data id bytes endStream => exact wf.data id bytes endStream
  | retire => exact (wf.forget _).log _
  | pull pulling => exact wf.setPump (by rw [pulling]; simp) _
  | halt unfinished =>
      refine wf.setPump (fun idle => ?_) _
      rw [idle] at unfinished
      cases unfinished
  | chunk => exact wf.setCell _ rfl fun h => h
  | error => exact wf.setCell _ rfl fun h => h
  | done => exact wf.setCell _ rfl fun h => h
  | listen => exact wf.setCell _ rfl fun h => h

theorem quiets {mayFail : UInt32 → Prop} (steps : Quiets mayFail v w) (wf : WellFormed v) :
    WellFormed w := by
  induction steps with
  | refl => exact wf
  | tail _ step ih => exact quiet step ih

theorem openStream (wf : WellFormed v) (body : RequestBody) (frames : List Frame) :
    WellFormed (v.openStream body frames) := by
  refine ⟨?_, fun k below => ?_, fun k beyond => ?_, fun id s found => ?_, fun id s found => ?_⟩
  · change v.nextStreamId + 2 = idOf (v.opened + 1)
    rw [wf.next, idOf_succ]
  · by_cases eq : k = v.opened
    · subst eq
      simp [View.openStream, wf.next]
    · have below : k < v.opened + 1 := below
      simp only [View.openStream, Function.update_of_ne eq]
      exact wf.ids k (by omega)
  · have beyond : v.opened + 1 ≤ k := beyond
    have ne : k ≠ v.opened := by omega
    simp only [View.openStream, Function.update_of_ne ne]
    exact wf.unopened k (by omega)
  · by_cases eq : id = v.nextStreamId
    · subst eq
      simp only [View.openStream, Function.update_self, Option.some.injEq] at found
      subst found
      simp [View.openStream]
    · simp only [View.openStream, Function.update_of_ne eq] at found
      obtain ⟨below, named, flag⟩ := wf.mapped id s found
      have ne : s.cell ≠ v.opened := Nat.ne_of_lt below
      simp only [View.openStream, Function.update_of_ne ne]
      exact ⟨by omega, named, flag⟩
  · intro j later (below : j < v.opened + 1)
    by_cases eq : id = v.nextStreamId
    · subst eq
      simp only [View.openStream, Function.update_self, Option.some.injEq] at found
      subst found
      simp only [] at later
      omega
    · simp only [View.openStream, Function.update_of_ne eq] at found
      by_cases last : j = v.opened
      · subst last
        simpa [View.openStream] using Ne.symm eq
      · simp only [View.openStream, Function.update_of_ne last]
        exact wf.current id s found j later (by omega)

theorem upload (wf : WellFormed v) (id : UInt32) (data : Bytes) : WellFormed (v.upload id data) := by
  refine log (setStream ?_ id (by simp)) _
  exact wf.keep rfl rfl (fun _ => rfl) (fun _ h => h) (.of_eq (fun _ => ⟨rfl, rfl⟩) rfl)

theorem finish (wf : WellFormed v) {k : Nat} (busy : (v.cells k).pump ≠ .idle) :
    WellFormed (v.finish k) :=
  log (setPump (setStream wf _ (by simp)) busy _) _

end WellFormed

theorem opened_quiets {mayFail : UInt32 → Prop} {v w : View} (steps : Quiets mayFail v w) :
    w.opened = v.opened := by
  induction steps with
  | refl => rfl
  | tail _ step ih =>
      refine Eq.trans ?_ ih
      cases step with
      | fail id err | cut e id err =>
          unfold View.remove
          split <;> rfl
      | block id headers endStream =>
          unfold View.block
          split
          · rfl
          · split <;> rfl
      | data id bytes endStream =>
          unfold View.data
          split <;> rfl
      | _ => rfl

namespace Client

theorem busy_of_pump {c : Client} {k : Nat} {pump : Pump} (pumping : (c.cells k).pump = pump)
    (busy : pump ≠ .idle) : (c.view.cells k).pump ≠ .idle := by
  change (c.cells k).pump ≠ .idle
  rwa [pumping]

theorem wellFormed_step {c : Client} (sound : c.Sealed) (a : Action) (wf : WellFormed c.view) :
    WellFormed (c.step a).view := by
  cases step_cases sound a with
  | quiet steps => exact wf.quiets steps
  | opens request live staying free same => exact same ▸ wf.openStream _ _
  | uploads n pumping found live positive remaining connection stream frame same =>
      rw [same]
      exact (wf.upload _ _).setPump (busy_of_pump pumping (by simp)) _
  | finishes pumping found live steps =>
      exact (wf.finish (busy_of_pump pumping (by simp))).quiets steps

theorem wellFormed_fresh (headerTableSize : Nat) : WellFormed (fresh headerTableSize).view := by
  have none (id : UInt32) (s : StreamView) (found : (fresh headerTableSize).view.streams id = some s) :
      False := by simp [view, fresh] at found
  exact ⟨rfl, fun k below => absurd below (Nat.not_lt_zero k), fun _ _ => rfl,
    fun id s found => (none id s found).elim, fun id s found => (none id s found).elim⟩

/-- The first frames. -/
theorem view_connect (options : ConnectOptions) :
    ∃ frames : List Frame, (∀ frame ∈ frames, frame.isControl = true) ∧
      (connect options).view = { (fresh (options.headerTableSize.getD 4096)).view with
        history := .preface CONNECTION_PREFACE :: frames.map .sent } := by
  simp only [connect]
  split
  · exact ⟨[_, _], by simp [Frame.isControl], rfl⟩
  · exact ⟨[_], by simp [Frame.isControl], rfl⟩

theorem wellFormed_connect (options : ConnectOptions) : WellFormed (connect options).view := by
  obtain ⟨frames, -, same⟩ := view_connect options
  rw [same]
  exact (wellFormed_fresh _).keep rfl rfl (fun _ => rfl) (fun _ h => h)
    (.of_eq (fun _ => ⟨rfl, rfl⟩) rfl)

/-- What every step of a sealed, well-formed client keeps holds in every state. -/
theorem after_invariant {P : Client → Prop} {options : ConnectOptions}
    (preserved : ∀ c a, c.Sealed → WellFormed c.view → P c → P (c.step a))
    (init : P (connect options)) (actions : List Action) : P (Client.after options actions) := by
  have all := Machine.run_invariant
    (P := fun c => (c.Sealed ∧ WellFormed c.view) ∧ P c)
    (fun c a => fun ⟨⟨sound, wf⟩, holds⟩ =>
      ⟨⟨c.sealed_step a sound, wellFormed_step sound a wf⟩, preserved c a sound wf holds⟩)
    ⟨⟨sealed_connect options, wellFormed_connect options⟩, init⟩ actions
  exact all.2

theorem wellFormed_after (options : ConnectOptions) (actions : List Action) :
    WellFormed (Client.after options actions).view :=
  after_invariant (P := fun c => WellFormed c.view)
    (fun _ a sound wf _ => wellFormed_step sound a wf) (wellFormed_connect options) actions

end Client

end H2ts
