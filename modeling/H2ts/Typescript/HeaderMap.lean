import H2ts.Lib.JsObject
import H2ts.Messages

/-!
# Header maps

Both clients turn a decoded header list into a map: pseudo headers are left out, and the
values of a repeated name are joined (`joined`).  The map of the Rust client is a
`HashMap`, and the list means the map (`lookup_collectHeaders`).  The map of the TypeScript
client is an object literal, which inherits from `Object.prototype`: the first value of a
name like `constructor` is joined to the text of the function it inherits, and under
`__proto__` nothing is stored.  So the two maps are the same if and only if no name of the
list is inherited (`sameHeaders_iff`).
-/

namespace H2ts

open Hpack

/-! ## What a list means -/

/-- `startsWith(":")` -/
def isPseudo (name : String) : Bool := name.toList.head? = some ':'

/-- Between the values of a repeated name. -/
def separator (name : String) : String := if name = "cookie" then "; " else ", "

/-- The values of a name, in order.  Pseudo headers have none. -/
def valuesOf (raw : List Header) (name : String) : List String :=
  if isPseudo name then [] else (raw.filter fun h => h.name = name).map Header.value

/-- The joined values of a name. -/
def joined (raw : List Header) (name : String) : Option String :=
  if valuesOf raw name = [] then none
  else some ((separator name).intercalate (valuesOf raw name))

/-- One more value of a name. -/
def joinValue (name value : String) : Option String → String
  | none => value
  | some existing => existing ++ separator name ++ value

theorem valuesOf_append (raw : List Header) (h : Header) (name : String) :
    valuesOf (raw ++ [h]) name =
      if h.name = name ∧ isPseudo name = false then valuesOf raw name ++ [h.value]
      else valuesOf raw name := by
  unfold valuesOf
  cases pseudo : isPseudo name with
  | true => simp
  | false =>
      by_cases own : h.name = name <;> simp [own, List.filter_append]

theorem joined_append (raw : List Header) (h : Header) (name : String) :
    joined (raw ++ [h]) name =
      if h.name = name ∧ isPseudo name = false then some (joinValue name h.value (joined raw name))
      else joined raw name := by
  unfold joined
  rw [valuesOf_append]
  split
  next own =>
    rw [if_neg (List.append_ne_nil_of_right_ne_nil _ (List.cons_ne_nil _ _))]
    by_cases first : valuesOf raw name = []
    · rw [if_pos first, first, List.nil_append, String.intercalate_singleton, joinValue]
    · rw [if_neg first, String.intercalate_append_of_ne_nil first (List.cons_ne_nil _ _),
        String.intercalate_singleton, joinValue]
  next => rfl

/-- A name has a value exactly if a regular header of the list has it. -/
theorem joined_isSome {raw : List Header} {name : String} :
    (joined raw name).isSome = true ↔ isPseudo name = false ∧ ∃ h ∈ raw, h.name = name := by
  unfold joined valuesOf
  cases pseudo : isPseudo name with
  | true => simp
  | false =>
      simp only [Bool.false_eq_true, if_false, true_and, List.map_eq_nil_iff, List.filter_eq_nil_iff,
        decide_eq_true_eq]
      split
      next none =>
        simp only [Option.isSome_none, Bool.false_eq_true, false_iff, not_exists, not_and]
        exact none
      next some =>
        simp only [Option.isSome_some, true_iff]
        by_contra none
        exact some fun h mem same => none ⟨h, mem, same⟩

/-- A fold that skips pseudo headers and keeps under each name what is made of its joined
values. -/
theorem lookup_foldl {collect : KeyMap String String → Header → KeyMap String String} {name : String}
    {made : String → Option String}
    (other : ∀ headers h, isPseudo h.name = true ∨ h.name ≠ name →
      (collect headers h).lookup name = headers.lookup name)
    (own : ∀ headers h before, isPseudo h.name = false → h.name = name →
      headers.lookup name = before.bind made →
      (collect headers h).lookup name = made (joinValue name h.value before))
    (raw : List Header) : (raw.foldl collect ∅).lookup name = (joined raw name).bind made := by
  induction raw using List.reverseRecOn with
  | nil =>
      unfold joined valuesOf
      cases isPseudo name <;> rfl
  | append_singleton raw h ih =>
      rw [List.foldl_append, List.foldl_cons, List.foldl_nil, joined_append]
      by_cases regular : h.name = name ∧ isPseudo name = false
      · obtain ⟨rfl, regular⟩ := regular
        rw [if_pos ⟨rfl, regular⟩, Option.bind_some]
        exact own _ h _ regular rfl ih
      · rw [if_neg regular, ← ih]
        refine other _ h ?_
        by_cases same : h.name = name
        · refine .inl (Bool.eq_true_of_not_eq_false fun plain => regular ⟨same, ?_⟩)
          rw [← same]
          exact plain
        · exact .inr same

/-! ## The map of the Rust client -/

theorem isPseudo_status : isPseudo ":status" = true := by decide

theorem ne_status {name : String} (regular : isPseudo name = false) : name ≠ ":status" := by
  intro same
  rw [same, isPseudo_status] at regular
  cases regular

theorem collectHeader_pseudo (acc : Nat × HeaderMap) {h : Header} (pseudo : isPseudo h.name = true) :
    (collectHeader acc h).2 = acc.2 := by
  have colon : h.name.toList.head? = some ':' := of_decide_eq_true pseudo
  simp only [collectHeader, colon, if_true]
  split <;> rfl

theorem collectHeader_regular (acc : Nat × HeaderMap) {h : Header}
    (regular : isPseudo h.name = false) :
    (collectHeader acc h).2 =
      acc.2.insert h.name (joinValue h.name h.value (acc.2.lookup h.name)) := by
  have plain : ¬ h.name.toList.head? = some ':' := of_decide_eq_false regular
  simp only [collectHeader, ne_status regular, plain, if_false]
  cases acc.2.lookup h.name <;> rfl

/-- The map does not look at the status. -/
theorem headers_collectHeaders (raw : List Header) (acc : Nat × HeaderMap) :
    (raw.foldl collectHeader acc).2 =
      raw.foldl (fun headers h => (collectHeader (0, headers) h).2) acc.2 := by
  induction raw generalizing acc with
  | nil => rfl
  | cons h raw ih =>
      rw [List.foldl_cons, List.foldl_cons, ih]
      cases pseudo : isPseudo h.name with
      | true => rw [collectHeader_pseudo _ pseudo, collectHeader_pseudo _ pseudo]
      | false => rw [collectHeader_regular _ pseudo, collectHeader_regular _ pseudo]

/-- The Rust client makes the map that the list means. -/
theorem lookup_collectHeaders (raw : List Header) (name : String) :
    (collectHeaders raw).headers.lookup name = joined raw name := by
  have made : (collectHeaders raw).headers.lookup name = (joined raw name).bind some := by
    show (raw.foldl collectHeader (0, ∅)).2.lookup name = _
    rw [headers_collectHeaders]
    refine lookup_foldl (fun headers h different => ?_) (fun headers h before regular own found => ?_) raw
    · cases pseudo : isPseudo h.name with
      | true => rw [collectHeader_pseudo _ pseudo]
      | false =>
          rw [collectHeader_regular _ pseudo]
          rcases different with isPseudo | ne
          · rw [pseudo] at isPseudo
            cases isPseudo
          · exact AList.lookup_insert_ne (Ne.symm ne)
    · subst own
      rw [Option.bind_fun_some] at found
      rw [collectHeader_regular _ regular, found]
      exact AList.lookup_insert _
  rw [made, Option.bind_fun_some]

/-! ## The map of the TypeScript client -/

namespace Typescript

/-- The methods of `Object.prototype`. -/
def OBJECT_METHODS : List String :=
  ["constructor", "hasOwnProperty", "isPrototypeOf", "propertyIsEnumerable", "toLocaleString",
    "toString", "valueOf", "__defineGetter__", "__defineSetter__", "__lookupGetter__",
    "__lookupSetter__"]

/-- `Object.prototype`, with the texts of its values.  The text of a method is up to the
engine.  The value of `__proto__` is `Object.prototype` itself, and its setter ignores
strings. -/
def objectPrototype (methodText : String → String) : Js.Prototype String := fun name =>
  if name ∈ OBJECT_METHODS then some (.data (methodText name))
  else if name = "__proto__" then some (.accessor "[object Object]")
  else none

/-- The names an object literal inherits. -/
def IsInherited (name : String) : Prop := name ∈ OBJECT_METHODS ∨ name = "__proto__"

instance (name : String) : Decidable (IsInherited name) :=
  inferInstanceAs (Decidable (name ∈ OBJECT_METHODS ∨ name = "__proto__"))

variable (methodText : String → String)

/-- Add a field to the map. -/
def collectField (headers : Js.Object String) (h : Header) : Js.Object String :=
  if h.name = ":status" then headers
  else if isPseudo h.name then headers
  else
    match headers.get (objectPrototype methodText) h.name with
    | none => headers.set (objectPrototype methodText) h.name h.value
    | some existing =>
        let sep := if h.name = "cookie" then "; " else ", "
        headers.set (objectPrototype methodText) h.name (existing ++ sep ++ h.value)

/-- The `headers` of `collectHeaders`. -/
def headersOf (raw : List Header) : Js.Object String := raw.foldl (collectField methodText) ∅

variable {methodText}

theorem objectPrototype_eq_none {name : String} :
    objectPrototype methodText name = none ↔ ¬ IsInherited name := by
  unfold objectPrototype IsInherited
  split
  next method => simp [method]
  next other =>
    split
    next same => simp [same]
    next ne => simp [other, ne]

/-- Reading and assigning a regular field. -/
theorem collectField_regular (headers : Js.Object String) {h : Header}
    (regular : isPseudo h.name = false) :
    collectField methodText headers h = headers.set (objectPrototype methodText) h.name
      (joinValue h.name h.value (headers.get (objectPrototype methodText) h.name)) := by
  unfold collectField
  rw [if_neg (ne_status regular), regular, if_neg Bool.false_ne_true]
  cases headers.get (objectPrototype methodText) h.name <;> rfl

theorem collectField_pseudo (headers : Js.Object String) {h : Header}
    (pseudo : isPseudo h.name = true) : collectField methodText headers h = headers := by
  unfold collectField
  rw [pseudo, if_pos rfl, ite_self]

/-- What is stored under a name whose values are joined: with the text of an inherited
method before them, or nothing at all. -/
def stored (methodText : String → String) (name : String) (text : String) : Option String :=
  match objectPrototype methodText name with
  | none => some text
  | some (.data inherited) => some (inherited ++ separator name ++ text)
  | some (.accessor _) => none

/-- One more value of a name. -/
theorem lookup_set_stored {headers : Js.Object String} {name : String} {before : Option String}
    (found : headers.lookup name = before.bind (stored methodText name)) (value : String) :
    (headers.set (objectPrototype methodText) name
        (joinValue name value (headers.get (objectPrototype methodText) name))).lookup name =
      stored methodText name (joinValue name value before) := by
  cases inherited : objectPrototype methodText name with
  | none =>
      have same : headers.lookup name = before := by
        rw [found]
        cases before <;> simp [stored, inherited]
      rw [Js.Object.lookup_set_plain inherited, Js.Object.get_plain inherited, same, stored, inherited]
  | some property =>
      cases property with
      | accessor text =>
          have missing : headers.lookup name = none := by
            rw [found]
            cases before <;> simp [stored, inherited]
          rw [Js.Object.set_accessor inherited rfl missing, missing, stored, inherited]
      | data text =>
          rw [Js.Object.lookup_set_data inherited rfl, stored, inherited]
          cases before with
          | none =>
              rw [Js.Object.get_inherited found, inherited]
              rfl
          | some values =>
              have own : headers.lookup name = some (text ++ separator name ++ values) := by
                rw [found, Option.bind_some, stored, inherited]
              rw [Js.Object.get_own own]
              simp only [joinValue, String.append_assoc]

/-- The TypeScript client makes the map of the list, up to what it inherits. -/
theorem lookup_headersOf (raw : List Header) (name : String) :
    (headersOf methodText raw).lookup name = (joined raw name).bind (stored methodText name) := by
  refine lookup_foldl (fun headers h different => ?_) (fun headers h before regular own found => ?_) raw
  · cases pseudo : isPseudo h.name with
    | true => rw [collectField_pseudo headers pseudo]
    | false =>
        rw [collectField_regular headers pseudo]
        rcases different with isPseudo | ne
        · rw [pseudo] at isPseudo
          cases isPseudo
        · exact Js.Object.lookup_set_ne (Ne.symm ne) _
  · subst own
    rw [collectField_regular headers regular]
    exact lookup_set_stored found h.value

/-- What is inherited shows. -/
theorem stored_ne {name : String} (inherited : IsInherited name) (text : String) :
    stored methodText name text ≠ some text := by
  unfold stored
  cases found : objectPrototype methodText name with
  | none => exact absurd inherited (objectPrototype_eq_none.mp found)
  | some property =>
      cases property with
      | accessor inherited => simp
      | data inherited =>
          have gap : 0 < (separator name).length := by
            unfold separator
            split <;> decide
          intro same
          have length := congrArg String.length (Option.some.inj same)
          rw [String.length_append, String.length_append] at length
          omega

/-- The two clients make the same map, and the one the list means, if and only if no
regular header has a name that objects inherit. -/
theorem sameHeaders_iff (methodText : String → String) (raw : List Header) :
    (∀ name, (headersOf methodText raw).lookup name = joined raw name ∧
        (headersOf methodText raw).lookup name = (H2ts.collectHeaders raw).headers.lookup name) ↔
      ∀ h ∈ raw, isPseudo h.name = false → ¬ IsInherited h.name := by
  simp only [lookup_headersOf, lookup_collectHeaders, and_self]
  constructor
  · intro same h mem regular inherited
    obtain ⟨text, found⟩ := Option.isSome_iff_exists.mp (joined_isSome.mpr ⟨regular, h, mem, rfl⟩)
    have changed := same h.name
    rw [found, Option.bind_some] at changed
    exact stored_ne inherited text changed
  · intro plain name
    cases found : joined raw name with
    | none => rfl
    | some text =>
        obtain ⟨regular, h, mem, rfl⟩ := joined_isSome.mp (by rw [found]; rfl)
        rw [Option.bind_some, stored, objectPrototype_eq_none.mpr (plain h mem regular)]

/-- How V8 prints the methods. -/
def v8Text (name : String) : String :=
  "function " ++ (if name = "constructor" then "Object" else name) ++ "() \x7b [native code] \x7d"

/-- A field that the TypeScript client joins to a function, and one that it loses. -/
theorem not_sameHeaders_constructor :
    (headersOf v8Text [Header.new "constructor" "1", Header.new "__proto__" "2"]).entries =
        [⟨"constructor", "function Object() \x7b [native code] \x7d, 1"⟩] ∧
      (H2ts.collectHeaders [Header.new "constructor" "1", Header.new "__proto__" "2"]).headers.entries =
        [⟨"__proto__", "2"⟩, ⟨"constructor", "1"⟩] := by
  decide +kernel

end Typescript

end H2ts
