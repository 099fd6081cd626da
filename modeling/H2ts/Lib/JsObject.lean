import H2ts.Lib.KeyMap

/-!
# JavaScript objects

An object has own properties, and it inherits those of its prototype.  Reading a name
that is no own property gives what the prototype has (`get`).  Assigning to a name makes
it an own property, unless the prototype has an accessor under that name: then its setter
is called, and here it ignores what it is given (`set`).

A name that the prototype does not have is read and assigned as in a finite map
(`get_plain`, `lookup_set_plain`).
-/

namespace Js

variable {ν : Type*}

/-- A property of a prototype, with its value.  The setter of an accessor ignores what it
is given. -/
inductive Property (ν : Type*) where
  | data (value : ν)
  | accessor (value : ν)
deriving DecidableEq

namespace Property

def value : Property ν → ν
  | data value => value
  | accessor value => value

def isAccessor : Property ν → Bool
  | data _ => false
  | accessor _ => true

end Property

/-- What a name is in a prototype. -/
abbrev Prototype (ν : Type*) := String → Option (Property ν)

/-- An object, as its own properties. -/
abbrev Object (ν : Type*) := KeyMap String ν

namespace Object

/-- `o[name]`; `none` is undefined. -/
def get (proto : Prototype ν) (o : Object ν) (name : String) : Option ν :=
  (o.lookup name).or ((proto name).map Property.value)

/-- `o[name] = v` -/
def set (proto : Prototype ν) (o : Object ν) (name : String) (v : ν) : Object ν :=
  if name ∉ o ∧ (proto name).any Property.isAccessor then o else o.insert name v

variable {proto : Prototype ν} {o : Object ν} {name : String}

theorem get_own {v : ν} (own : o.lookup name = some v) : o.get proto name = some v := by
  rw [get, own, Option.some_or]

theorem get_inherited (missing : o.lookup name = none) :
    o.get proto name = (proto name).map Property.value := by
  rw [get, missing, Option.none_or]

theorem get_plain (plain : proto name = none) : o.get proto name = o.lookup name := by
  rw [get, plain, Option.map_none, Option.or_none]

/-- Assigning to a name leaves the others alone. -/
theorem lookup_set_ne {key : String} (ne : key ≠ name) (v : ν) :
    (o.set proto name v).lookup key = o.lookup key := by
  unfold set
  split
  · rfl
  · exact AList.lookup_insert_ne ne

theorem set_accessor {p : Property ν} (inherited : proto name = some p) (isAccessor : p.isAccessor = true)
    (missing : o.lookup name = none) (v : ν) : o.set proto name v = o := by
  rw [set, if_pos ⟨AList.lookup_eq_none.mp missing, by rw [inherited]; exact isAccessor⟩]

theorem lookup_set_data {p : Property ν} (inherited : proto name = some p)
    (isData : p.isAccessor = false) (v : ν) : (o.set proto name v).lookup name = some v := by
  have writable : ¬ (name ∉ o ∧ (proto name).any Property.isAccessor = true) := by
    rintro ⟨-, accessor⟩
    rw [inherited] at accessor
    exact absurd accessor (by rw [Option.any_some, isData]; decide)
  rw [set, if_neg writable, AList.lookup_insert]

theorem lookup_set_plain (plain : proto name = none) (v : ν) :
    (o.set proto name v).lookup name = some v := by
  have writable : ¬ (name ∉ o ∧ (proto name).any Property.isAccessor = true) := by
    rintro ⟨-, accessor⟩
    rw [plain] at accessor
    cases accessor
  rw [set, if_neg writable, AList.lookup_insert]

end Object

end Js
