import Mathlib.Logic.Relation
import Mathlib.Tactic

/-!
# Runs of a machine

A machine is a function from states and actions to states.  A run folds it over a
list of actions.  `run_invariant` is the invariant rule, and `run_invariant_along`
the rule for runs whose steps all meet a condition.  `total_balance` is the rule for
what accumulates over a run, and `gather_invariant` the one for what it brings.
-/

namespace Machine

variable {σ α : Type*} (step : σ → α → σ)

/-- The state after a list of actions. -/
def run (s : σ) (actions : List α) : σ := actions.foldl step s

@[simp] theorem run_nil (s : σ) : run step s [] = s := rfl

@[simp] theorem run_cons (s : σ) (a : α) (actions : List α) :
    run step s (a :: actions) = run step (step s a) actions := rfl

theorem run_append (s : σ) (before after : List α) :
    run step s (before ++ after) = run step (run step s before) after :=
  List.foldl_append

variable {step}

/-- What every step keeps, every run keeps. -/
theorem run_invariant {P : σ → Prop} (preserved : ∀ s a, P s → P (step s a)) {s : σ} (init : P s)
    (actions : List α) : P (run step s actions) := by
  induction actions generalizing s with
  | nil => exact init
  | cons a actions ih => exact ih (preserved s a init)

variable (step)

/-- Every step of the run meets a condition on the state before it and the
action. -/
def Along (condition : σ → α → Prop) : σ → List α → Prop
  | _, [] => True
  | s, a :: actions => condition s a ∧ Along condition (step s a) actions

instance decidableAlong (condition : σ → α → Prop) [∀ s a, Decidable (condition s a)] :
    ∀ s actions, Decidable (Along step condition s actions)
  | _, [] => inferInstanceAs (Decidable True)
  | s, a :: actions =>
      have := decidableAlong condition (step s a) actions
      inferInstanceAs (Decidable (condition s a ∧ Along step condition (step s a) actions))

variable {step}

theorem along_append {condition : σ → α → Prop} {s : σ} {before after : List α} :
    Along step condition s (before ++ after) ↔
      Along step condition s before ∧ Along step condition (run step s before) after := by
  induction before generalizing s with
  | nil => simp [Along]
  | cons a before ih => simp [Along, ih, and_assoc]

theorem along_and {condition condition' : σ → α → Prop} {s : σ} {actions : List α}
    (first : Along step condition s actions) (second : Along step condition' s actions) :
    Along step (fun s a => condition s a ∧ condition' s a) s actions := by
  induction actions generalizing s with
  | nil => trivial
  | cons a actions ih => exact ⟨⟨first.1, second.1⟩, ih first.2 second.2⟩

theorem along_of_forall {condition : α → Prop} {s : σ} {actions : List α}
    (all : ∀ a ∈ actions, condition a) : Along step (fun _ a => condition a) s actions := by
  induction actions generalizing s with
  | nil => trivial
  | cons a actions ih => exact ⟨all a (.head _), ih fun a mem => all a (.tail _ mem)⟩

theorem along_mono {condition condition' : σ → α → Prop}
    (weaker : ∀ s a, condition s a → condition' s a) {s : σ} {actions : List α}
    (along : Along step condition s actions) : Along step condition' s actions := by
  induction actions generalizing s with
  | nil => trivial
  | cons a actions ih => exact ⟨weaker s a along.1, ih along.2⟩

/-- What holds in every state reached holds before every step. -/
theorem along_before {P : σ → Prop} {s : σ} (init : P s) {actions : List α}
    (along : Along step (fun s a => P (step s a)) s actions) :
    Along step (fun s _ => P s) s actions := by
  induction actions generalizing s with
  | nil => trivial
  | cons a actions ih => exact ⟨init, ih along.1 along.2⟩

/-- What the steps that meet the condition keep holds in every state reached. -/
theorem along_next {P : σ → Prop} {condition : σ → α → Prop}
    (preserved : ∀ s a, P s → condition s a → P (step s a)) {s : σ} (init : P s)
    {actions : List α} (along : Along step condition s actions) :
    Along step (fun s a => P (step s a)) s actions := by
  induction actions generalizing s with
  | nil => trivial
  | cons a actions ih =>
      have next := preserved s a init along.1
      exact ⟨next, ih next along.2⟩

/-- Two conditions that agree in every state the invariant allows agree along a run,
if the steps that meet them keep the invariant. -/
theorem along_congr {P : σ → Prop} {condition condition' : σ → α → Prop}
    (kept : ∀ s a, P s → condition' s a → P (step s a))
    (same : ∀ s a, P s → (condition s a ↔ condition' s a)) {s : σ} (init : P s)
    (actions : List α) : Along step condition s actions ↔ Along step condition' s actions := by
  induction actions generalizing s with
  | nil => exact Iff.rfl
  | cons a actions ih =>
      have here := same s a init
      constructor
      · rintro ⟨meets, later⟩
        exact ⟨here.mp meets, (ih (kept s a init (here.mp meets))).mp later⟩
      · rintro ⟨meets, later⟩
        exact ⟨here.mpr meets, (ih (kept s a init meets)).mpr later⟩

theorem along_iff {P : σ → Prop} {condition condition' : σ → α → Prop}
    (preserved : ∀ s a, P s → P (step s a))
    (same : ∀ s a, P s → (condition s a ↔ condition' s a)) {s : σ} (init : P s)
    (actions : List α) : Along step condition s actions ↔ Along step condition' s actions :=
  along_congr (fun s a sound _ => preserved s a sound) same init actions

/-- If the steps that keep `good` are those that meet a condition, the runs that stay
`good` are those whose steps meet it.  The invariant need only last while they do. -/
theorem along_next_iff {P good : σ → Prop} {condition : σ → α → Prop}
    (preserved : ∀ s a, P s → good s → P (step s a))
    (sharp : ∀ s a, P s → good s → (good (step s a) ↔ condition s a)) {s : σ} (init : P s)
    (start : good s) (actions : List α) :
    Along step (fun s a => good (step s a)) s actions ↔ Along step condition s actions := by
  refine along_congr (P := fun s => P s ∧ good s) ?_ ?_ ⟨init, start⟩ actions
  · rintro s a ⟨sound, fine⟩ meets
    exact ⟨preserved s a sound fine, (sharp s a sound fine).mpr meets⟩
  · rintro s a ⟨sound, fine⟩
    exact sharp s a sound fine

/-- What the steps that meet the condition keep, the runs of such steps keep. -/
theorem run_invariant_along {P : σ → Prop} {condition : σ → α → Prop}
    (preserved : ∀ s a, P s → condition s a → P (step s a)) {s : σ} (init : P s)
    {actions : List α} (along : Along step condition s actions) : P (run step s actions) := by
  induction actions generalizing s with
  | nil => exact init
  | cons a actions ih => exact ih (preserved s a init along.1) along.2

/-- What no step restores holds all along a run at whose end it holds. -/
theorem along_of_last {P good : σ → Prop} (preserved : ∀ s a, P s → P (step s a))
    (lasting : ∀ s a, P s → good (step s a) → good s) {s : σ} (init : P s) {actions : List α}
    (last : good (run step s actions)) : Along step (fun s a => good (step s a)) s actions := by
  have first (s : σ) (init : P s) (actions : List α) (last : good (run step s actions)) : good s := by
    induction actions generalizing s with
    | nil => exact last
    | cons a actions ih => exact lasting s a init (ih _ (preserved s a init) last)
  induction actions generalizing s with
  | nil => trivial
  | cons a actions ih =>
      exact ⟨first _ (preserved s a init) actions last, ih (preserved s a init) last⟩

/-! ## Sums over a run -/

variable (step)

/-- The sum of a weight over the steps of a run. -/
def total (weight : σ → α → Nat) : σ → List α → Nat
  | _, [] => 0
  | s, a :: actions => weight s a + total weight (step s a) actions

variable {step}

theorem total_eq_zero {weight : σ → α → Nat} {s : σ} {actions : List α} :
    total step weight s actions = 0 ↔ Along step (fun s a => weight s a = 0) s actions := by
  induction actions generalizing s with
  | nil => simp [total, Along]
  | cons a actions ih => simp [total, Along, ih]

/-- What is held at the end, was paid or was lost is what was held at the start or
came due, if that is so in every step. -/
theorem total_balance {P : σ → Prop} {condition : σ → α → Prop} {hold : σ → Nat}
    {paid loss due : σ → α → Nat} (preserved : ∀ s a, P s → P (step s a))
    (balanced : ∀ s a, P s → condition s a →
      hold (step s a) + paid s a + loss s a = hold s + due s a)
    {s : σ} (init : P s) {actions : List α} (along : Along step condition s actions) :
    hold (run step s actions) + total step paid s actions + total step loss s actions =
      hold s + total step due s actions := by
  induction actions generalizing s with
  | nil => rfl
  | cons a actions ih =>
      have here := balanced s a init along.1
      have later := ih (preserved s a init) along.2
      simp only [run_cons, total]
      omega

/-! ## What a run gathers -/

variable (step)

/-- What the steps of a run bring, one after the other. -/
def gather {β : Type*} (brings : σ → α → List β) : σ → List α → List β
  | _, [] => []
  | s, a :: actions => brings s a ++ gather brings (step s a) actions

theorem gather_append {β : Type*} (brings : σ → α → List β) (s : σ) (before after : List α) :
    gather step brings s (before ++ after) =
      gather step brings s before ++ gather step brings (run step s before) after := by
  induction before generalizing s with
  | nil => rfl
  | cons a before ih =>
      rw [List.cons_append, gather, gather, ih, List.append_assoc]
      rfl

theorem gather_concat {β : Type*} (brings : σ → α → List β) (s : σ) (actions : List α) (a : α) :
    gather step brings s (actions ++ [a]) =
      gather step brings s actions ++ brings (run step s actions) a := by
  rw [gather_append, gather, gather, List.append_nil]

/-- What holds of the state and of all that was brought so far is kept if every step keeps it
that meets the condition. -/
theorem gather_invariant_along {β : Type*} (brings : σ → α → List β) {P : List β → σ → Prop}
    {condition : α → Prop}
    (preserved : ∀ s a before, P before s → condition a → P (before ++ brings s a) (step s a)) {s : σ}
    {before : List β} (init : P before s) {actions : List α} (all : ∀ a ∈ actions, condition a) :
    P (before ++ gather step brings s actions) (run step s actions) := by
  induction actions generalizing s before with
  | nil =>
      rw [gather, List.append_nil]
      exact init
  | cons a actions ih =>
      have later := ih (preserved s a before init (all a (.head _))) fun a mem => all a (.tail _ mem)
      rw [List.append_assoc] at later
      exact later

theorem gather_invariant {β : Type*} (brings : σ → α → List β) {P : List β → σ → Prop}
    (preserved : ∀ s a before, P before s → P (before ++ brings s a) (step s a)) {s : σ}
    {before : List β} (init : P before s) (actions : List α) :
    P (before ++ gather step brings s actions) (run step s actions) :=
  gather_invariant_along step brings (fun s a before holds _ => preserved s a before holds) init
    fun _ _ => trivial

variable {step}

/-! ## Stamps

Times at which something happened, and the last of them. -/

/-- A stamp is later than `since` if and only if the last one is. -/
theorem exists_later_iff {last since : Nat} {stamps : List Nat}
    (bound : ∀ stamp ∈ stamps, stamp ≤ last) (origin : last ≤ since ∨ last ∈ stamps) :
    (∃ stamp ∈ stamps, since < stamp) ↔ since < last := by
  constructor
  · rintro ⟨stamp, mem, later⟩
    exact later.trans_le (bound stamp mem)
  · intro later
    rcases origin with past | mem
    · exact absurd later (not_lt.mpr past)
    · exact ⟨last, mem, later⟩

theorem bound_append {last time : Nat} {stamps : List Nat}
    (bound : ∀ stamp ∈ stamps, stamp ≤ last) (later : last ≤ time) :
    ∀ stamp ∈ stamps ++ [time], stamp ≤ time := by
  intro stamp mem
  rcases List.mem_append.mp mem with mem | mem
  · exact (bound stamp mem).trans later
  · exact (List.mem_singleton.mp mem).le

end Machine
