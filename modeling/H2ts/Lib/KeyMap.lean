import Mathlib.Data.List.AList
import Mathlib.Tactic

/-!
# Finite maps

Association lists of Mathlib as finite maps, with the updates it does not have:
`mapWithKey` changes every value and `modify` the value of one key.
-/

/-- A finite map. -/
abbrev KeyMap (α β : Type*) := AList fun _ : α => β

namespace KeyMap

variable {α β : Type*}

/-- Change every value. -/
def mapWithKey (f : α → β → β) (m : KeyMap α β) : KeyMap α β where
  entries := m.entries.map fun entry => ⟨entry.1, f entry.1 entry.2⟩
  nodupKeys := by
    have keys : (m.entries.map fun entry : Sigma fun _ : α => β =>
        (⟨entry.1, f entry.1 entry.2⟩ : Sigma fun _ : α => β)).keys = m.entries.keys := by
      simp only [List.keys, List.map_map]
      rfl
    rw [List.NodupKeys, keys]
    exact m.nodupKeys

@[simp] theorem keys_mapWithKey (f : α → β → β) (m : KeyMap α β) :
    (mapWithKey f m).keys = m.keys := by
  simp only [AList.keys, List.keys, mapWithKey, List.map_map]
  rfl

variable [DecidableEq α]

@[simp] theorem lookup_mapWithKey (f : α → β → β) (m : KeyMap α β) (a : α) :
    (mapWithKey f m).lookup a = (m.lookup a).map (f a) := by
  obtain ⟨entries, nodup⟩ := m
  simp only [AList.lookup, mapWithKey]
  clear nodup
  induction entries with
  | nil => rfl
  | cons entry entries ih =>
      obtain ⟨key, value⟩ := entry
      rw [List.map_cons]
      by_cases same : key = a
      · subst same
        rw [List.dlookup_cons_eq, List.dlookup_cons_eq, Option.map_some]
      · rw [List.dlookup_cons_ne _ _ (Ne.symm same), List.dlookup_cons_ne _ _ (Ne.symm same), ih]

/-- Change the value of a key, if it has one. -/
def modify (a : α) (f : β → β) (m : KeyMap α β) : KeyMap α β :=
  mapWithKey (fun key value => if key = a then f value else value) m

@[simp] theorem keys_modify (a : α) (f : β → β) (m : KeyMap α β) :
    (modify a f m).keys = m.keys :=
  keys_mapWithKey _ m

@[simp] theorem lookup_modify (a : α) (f : β → β) (m : KeyMap α β) :
    (modify a f m).lookup a = (m.lookup a).map f := by
  simp [modify]

theorem lookup_modify_ne {a b : α} (different : b ≠ a) (f : β → β) (m : KeyMap α β) :
    (modify a f m).lookup b = m.lookup b := by
  simp [modify, different]

/-- A change that leaves the value as it is. -/
theorem modify_same {a : α} {b : β} {f : β → β} {m : KeyMap α β} (found : m.lookup a = some b)
    (same : f b = b) : modify a f m = m := by
  refine AList.ext ?_
  show m.entries.map _ = m.entries
  conv_rhs => rw [← List.map_id m.entries]
  refine List.map_congr_left fun entry mem => ?_
  obtain ⟨key, value⟩ := entry
  show (⟨key, if key = a then f value else value⟩ : Sigma fun _ : α => β) = ⟨key, value⟩
  split
  next own =>
    have held : m.lookup key = some value := AList.mem_lookup_iff.mpr mem
    rw [show key = a from own, found] at held
    cases held
    rw [same]
  next => rfl

end KeyMap
