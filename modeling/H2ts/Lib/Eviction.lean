import Mathlib.Tactic

/-!
# Tables bounded by a charge

A table is a list, newest entry first, and every entry has a charge.  `fit`
keeps the longest prefix whose charges fit into a budget, which is what dropping
the oldest entries one by one arrives at (`popOldest_eq_fit`).

`fit_mono` compares two ways to charge: with larger charges a prefix of a table
keeps a prefix of what the table keeps.
-/

namespace Eviction

variable {α : Type*}

/-- The charges of all entries. -/
def total (charge : α → Nat) (l : List α) : Nat := (l.map charge).sum

@[simp] theorem total_nil (charge : α → Nat) : total charge [] = 0 := rfl

@[simp] theorem total_cons (charge : α → Nat) (x : α) (l : List α) :
    total charge (x :: l) = charge x + total charge l := rfl

@[simp] theorem total_append (charge : α → Nat) (l l' : List α) :
    total charge (l ++ l') = total charge l + total charge l' := by
  simp [total]

@[simp] theorem total_reverse (charge : α → Nat) (l : List α) :
    total charge l.reverse = total charge l := by
  simp [total, List.sum_reverse]

theorem total_mono {charge charge' : α → Nat} (less : ∀ x, charge x ≤ charge' x) (l : List α) :
    total charge l ≤ total charge' l :=
  List.sum_le_sum fun x _ => less x

/-! ## What fits -/

/-- The longest prefix that fits into the budget. -/
def fit (charge : α → Nat) : Nat → List α → List α
  | _, [] => []
  | budget, x :: l => if charge x ≤ budget then x :: fit charge (budget - charge x) l else []

theorem fit_isPrefix (charge : α → Nat) (budget : Nat) (l : List α) :
    fit charge budget l <+: l := by
  induction l generalizing budget with
  | nil => exact List.prefix_rfl
  | cons x l ih =>
      rw [fit]
      by_cases fits : charge x ≤ budget
      · rw [if_pos fits]
        exact (List.prefix_cons_inj x).mpr (ih _)
      · rw [if_neg fits]
        exact List.nil_prefix

theorem total_fit_le (charge : α → Nat) (budget : Nat) (l : List α) :
    total charge (fit charge budget l) ≤ budget := by
  induction l generalizing budget with
  | nil => exact Nat.zero_le _
  | cons x l ih =>
      rw [fit]
      by_cases fits : charge x ≤ budget
      · rw [if_pos fits, total_cons]
        have rest := ih (budget - charge x)
        omega
      · rw [if_neg fits]
        exact Nat.zero_le _

/-- No longer prefix fits. -/
theorem isPrefix_fit {charge : α → Nat} {budget : Nat} {p l : List α} (isPrefix : p <+: l)
    (fits : total charge p ≤ budget) : p <+: fit charge budget l := by
  induction p generalizing budget l with
  | nil => exact List.nil_prefix
  | cons x p ih =>
      obtain ⟨tail, rfl⟩ := isPrefix
      rw [total_cons] at fits
      rw [List.cons_append, fit, if_pos (by omega)]
      exact (List.prefix_cons_inj x).mpr (ih (List.prefix_append p tail) (by omega))

/-- Larger charges keep less. -/
theorem fit_mono {charge charge' : α → Nat} (less : ∀ x, charge x ≤ charge' x) (budget : Nat)
    {l l' : List α} (isPrefix : l <+: l') : fit charge' budget l <+: fit charge budget l' :=
  isPrefix_fit ((fit_isPrefix charge' budget l).trans isPrefix)
    ((total_mono less _).trans (total_fit_le charge' budget l))

theorem fit_of_total_le {charge : α → Nat} {budget : Nat} {l : List α}
    (fits : total charge l ≤ budget) : fit charge budget l = l :=
  List.Sublist.antisymm (fit_isPrefix charge budget l).sublist
    (isPrefix_fit List.prefix_rfl fits).sublist

/-- An entry at the end that does not fit makes no difference. -/
theorem fit_concat {charge : α → Nat} {budget : Nat} {l : List α} {x : α}
    (exceeds : budget < total charge (l ++ [x])) :
    fit charge budget (l ++ [x]) = fit charge budget l := by
  induction l generalizing budget with
  | nil =>
      simp only [List.nil_append, total_cons, total_nil, Nat.add_zero] at exceeds
      simp only [List.nil_append, fit, Nat.not_le_of_lt exceeds, if_false]
  | cons y l ih =>
      rw [List.cons_append, total_cons] at exceeds
      rw [List.cons_append, fit, fit]
      by_cases fits : charge y ≤ budget
      · rw [if_pos fits, if_pos fits, ih (by omega)]
      · rw [if_neg fits, if_neg fits]

theorem fit_map {β : Type*} (f : β → α) (charge : α → Nat) (budget : Nat) (l : List β) :
    fit charge budget (l.map f) = (fit (charge ∘ f) budget l).map f := by
  induction l generalizing budget with
  | nil => rfl
  | cons x l ih =>
      rw [List.map_cons, fit, fit, Function.comp_apply]
      by_cases fits : charge (f x) ≤ budget
      · rw [if_pos fits, if_pos fits, ih, List.map_cons]
      · rw [if_neg fits, if_neg fits, List.map_nil]

/-! ## Popping -/

/-- Pop entries, oldest first, as long as the charges exceed the budget. -/
def popOldest (charge : α → Nat) (budget : Nat) : List α → Nat → List α × Nat
  | [], size => ([], size)
  | oldest :: entries, size =>
      if budget < size then popOldest charge budget entries (size - charge oldest)
      else (oldest :: entries, size)

/-- Popping leaves what fits, and keeps the size. -/
theorem popOldest_eq_fit (charge : α → Nat) (budget : Nat) (entries : List α) :
    popOldest charge budget entries (total charge entries) =
      ((fit charge budget entries.reverse).reverse,
        total charge (fit charge budget entries.reverse)) := by
  induction entries with
  | nil => rfl
  | cons oldest entries ih =>
      rw [popOldest, total_cons, Nat.add_sub_cancel_left, ih, List.reverse_cons]
      by_cases exceeds : budget < charge oldest + total charge entries
      · have beyond : budget < total charge (entries.reverse ++ [oldest]) := by
          rw [total_append, total_reverse, total_cons, total_nil]
          omega
        rw [if_pos exceeds, fit_concat beyond]
      · have within : total charge (entries.reverse ++ [oldest]) ≤ budget := by
          rw [total_append, total_reverse, total_cons, total_nil]
          omega
        rw [if_neg exceeds, fit_of_total_le within, List.reverse_append, List.reverse_reverse,
          total_append, total_reverse, total_cons, total_nil, Nat.add_zero, Nat.add_comm]
        rfl

end Eviction
