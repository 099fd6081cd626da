import Mathlib.Tactic

/-!
# Incremental scanning

A *scanner* looks at the head of a buffer and says that it needs more input,
that it recognised one unit (kept or skipped) and what follows it, or that the
input is wrong.  A scanner is *stable*: input appended after the unit it
recognised, or after the error it found, changes nothing.  These laws are
fields of `Scanner`, so that every scanner comes with them.

`drain` takes units off a buffer until the scanner needs more.  `feed` drains
chunk after chunk, keeping what is left of the buffer between chunks.
`feed_eq_drain` says that the cuts do not matter: feeding the chunks of a string
is draining the string.  `drain_flatMap` says that a concatenation of encodings
drains to the encoded units.
-/

universe u v w

/-- What a scanner finds at the head of a buffer.  A recognised unit may be
skipped, in which case it yields nothing. -/
inductive Scan (β : Type u) (α : Type v) (ε : Type w) where
  | more
  | item (found : Option α) (rest : List β)
  | fail (error : ε)
deriving DecidableEq

/-- A scanner with the laws that make it independent of later input. -/
structure Scanner (β : Type u) (α : Type v) (ε : Type w) where
  /-- The scan itself. -/
  scan : List β → Scan β α ε
  /-- A recognised unit uses up some input. -/
  shorter : ∀ {buf found rest}, scan buf = .item found rest → rest.length < buf.length
  /-- Later input is left alone behind a recognised unit. -/
  item_append : ∀ {buf found rest} (later : List β),
    scan buf = .item found rest → scan (buf ++ later) = .item found (rest ++ later)
  /-- An error stays whatever follows. -/
  fail_append : ∀ {buf error} (later : List β),
    scan buf = .fail error → scan (buf ++ later) = .fail error

namespace Scanner

variable {β : Type u} {α : Type v} {ε : Type w} (scanner : Scanner β α ε)

/-! ## Draining a buffer -/

/-- Put a recognised unit before the ones found after it. -/
def keep (found : Option α) (later : List α × List β) : List α × List β :=
  (found.toList ++ later.1, later.2)

/-- At most `fuel` units off the buffer, and what is left of it. -/
def drainFuel : Nat → List β → Except ε (List α × List β)
  | 0, buf => .ok ([], buf)
  | fuel + 1, buf =>
      match scanner.scan buf with
      | .more => .ok ([], buf)
      | .fail error => .error error
      | .item found rest => (drainFuel fuel rest).map (keep found)

/-- Every unit at the head of the buffer, and what is left of it. -/
def drain (buf : List β) : Except ε (List α × List β) :=
  scanner.drainFuel (buf.length + 1) buf

/-- Fuel beyond the length of the buffer is never used. -/
theorem drainFuel_eq_drain (fuel : Nat) (buf : List β) (enough : buf.length < fuel) :
    scanner.drainFuel fuel buf = scanner.drain buf := by
  induction fuel using Nat.strong_induction_on generalizing buf with
  | _ fuel ih =>
      obtain ⟨fuel, rfl⟩ : ∃ n, fuel = n + 1 := ⟨fuel - 1, by omega⟩
      simp only [drain, drainFuel]
      cases found : scanner.scan buf with
      | more => rfl
      | fail error => rfl
      | item unit rest =>
          have less := scanner.shorter found
          simp only
          rw [ih fuel (by omega) rest (by omega), ih buf.length (by omega) rest less]

theorem drain_more {buf : List β} (h : scanner.scan buf = .more) :
    scanner.drain buf = .ok ([], buf) := by
  simp [drain, drainFuel, h]

theorem drain_fail {buf : List β} {error : ε} (h : scanner.scan buf = .fail error) :
    scanner.drain buf = .error error := by
  simp [drain, drainFuel, h]

theorem drain_item {buf rest : List β} {found : Option α}
    (h : scanner.scan buf = .item found rest) :
    scanner.drain buf = (scanner.drain rest).map (keep found) := by
  have less := scanner.shorter h
  conv_lhs => simp only [drain, drainFuel, h]
  rw [scanner.drainFuel_eq_drain buf.length rest less]

/-- What is left after draining holds no further unit. -/
theorem scan_of_drain_ok {buf left : List β} {units : List α}
    (h : scanner.drain buf = .ok (units, left)) : scanner.scan left = .more := by
  induction size : buf.length using Nat.strong_induction_on generalizing buf units with
  | _ size ih =>
      cases found : scanner.scan buf with
      | more =>
          rw [scanner.drain_more found] at h
          obtain ⟨-, rfl⟩ := Prod.mk.inj (Except.ok.inj h)
          exact found
      | fail error =>
          rw [scanner.drain_fail found] at h
          cases h
      | item unit rest =>
          have less := scanner.shorter found
          rw [scanner.drain_item found] at h
          cases tail : scanner.drain rest with
          | error error => rw [tail] at h; cases h
          | ok later =>
              rw [tail] at h
              obtain ⟨-, rfl⟩ := Prod.mk.inj (Except.ok.inj h)
              exact @ih rest.length (by omega) rest later.1 tail rfl

/-- Draining a buffer with later input: first the buffer, then what it left
together with the input. -/
theorem drain_append (buf later : List β) :
    scanner.drain (buf ++ later) =
      (scanner.drain buf).bind fun first =>
        (scanner.drain (first.2 ++ later)).map fun second =>
          (first.1 ++ second.1, second.2) := by
  induction size : buf.length using Nat.strong_induction_on generalizing buf with
  | _ size ih =>
      cases found : scanner.scan buf with
      | more =>
          rw [scanner.drain_more found]
          cases rest : scanner.drain (buf ++ later) with
          | error error => simp [Except.bind, Except.map, rest]
          | ok both => simp [Except.bind, Except.map, rest]
      | fail error =>
          rw [scanner.drain_fail found, scanner.drain_fail (scanner.fail_append later found)]
          rfl
      | item unit rest =>
          have less := scanner.shorter found
          rw [scanner.drain_item found, scanner.drain_item (scanner.item_append later found),
            ih rest.length (by omega) rest rfl]
          cases scanner.drain rest with
          | error error => rfl
          | ok first =>
              simp only [Except.map, Except.bind, keep]
              cases scanner.drain (first.2 ++ later) with
              | error error => rfl
              | ok second => simp

/-- Part of a buffer gives part of its units. -/
theorem drain_front {buf later left left' : List β} {units all : List α}
    (first : scanner.drain buf = .ok (units, left))
    (whole : scanner.drain (buf ++ later) = .ok (all, left')) : units <+: all := by
  rw [scanner.drain_append, first] at whole
  simp only [Except.bind] at whole
  cases second : scanner.drain (left ++ later) with
  | error error =>
      rw [second] at whole
      cases whole
  | ok found =>
      rw [second] at whole
      cases whole
      exact List.prefix_append _ _

/-- Where the whole drains, a part does. -/
theorem drain_part {buf later left' : List β} {all : List α}
    (whole : scanner.drain (buf ++ later) = .ok (all, left')) :
    ∃ units left, scanner.drain buf = .ok (units, left) ∧ units <+: all := by
  cases drained : scanner.drain buf with
  | error error =>
      rw [scanner.drain_append, drained] at whole
      cases whole
  | ok found =>
      obtain ⟨units, left⟩ := found
      exact ⟨units, left, rfl, scanner.drain_front drained whole⟩

/-- Part of a unit that fails gives nothing. -/
theorem drain_of_fail {buf later left : List β} {units : List α} {error : ε}
    (failed : scanner.scan (buf ++ later) = .fail error)
    (drained : scanner.drain buf = .ok (units, left)) : units = [] := by
  cases found : scanner.scan buf with
  | more =>
      rw [scanner.drain_more found] at drained
      cases drained
      rfl
  | fail error' =>
      rw [scanner.drain_fail found] at drained
      cases drained
  | item unit rest =>
      rw [scanner.item_append later found] at failed
      cases failed

/-- If every unit is scanned off its encoding, then what is drained is the encodings of the
units, and what is left. -/
theorem drain_sound {encode : α → List β} {Legal : α → Prop}
    (sound : ∀ {buf rest : List β} {found : Option α}, scanner.scan buf = .item found rest →
      ∃ unit, found = some unit ∧ Legal unit ∧ buf = encode unit ++ rest)
    {buf left : List β} {units : List α} (drained : scanner.drain buf = .ok (units, left)) :
    (∀ unit ∈ units, Legal unit) ∧ buf = units.flatMap encode ++ left := by
  induction size : buf.length using Nat.strong_induction_on generalizing buf units with
  | _ size ih =>
      cases scanned : scanner.scan buf with
      | more =>
          rw [scanner.drain_more scanned] at drained
          cases drained
          exact ⟨fun unit mem => absurd mem List.not_mem_nil, rfl⟩
      | fail error =>
          rw [scanner.drain_fail scanned] at drained
          cases drained
      | item found rest =>
          have less := scanner.shorter scanned
          obtain ⟨unit, rfl, legal, rfl⟩ := sound scanned
          rw [scanner.drain_item scanned] at drained
          cases tail : scanner.drain rest with
          | error error =>
              rw [tail] at drained
              cases drained
          | ok later =>
              rw [tail] at drained
              cases drained
              obtain ⟨laterLegal, whole⟩ := ih rest.length (size ▸ less) tail rfl
              constructor
              · intro unit mem
                rcases List.mem_cons.mp mem with rfl | mem
                · exact legal
                · exact laterLegal unit mem
              · simp only [Option.toList_some, List.singleton_append, List.flatMap_cons,
                  List.append_assoc, ← whole]

/-! ## Feeding chunks -/

/-- Drain chunk after chunk.  `pending` is what the chunks before have left. -/
def feed (pending : List β) : List (List β) → Except ε (List α × List β)
  | [] => .ok ([], pending)
  | chunk :: chunks =>
      (scanner.drain (pending ++ chunk)).bind fun first =>
        (feed first.2 chunks).map fun second => (first.1 ++ second.1, second.2)

/-- The cuts between chunks do not matter. -/
theorem feed_eq_drain (chunks : List (List β)) (pending : List β)
    (drained : scanner.scan pending = .more) :
    scanner.feed pending chunks = scanner.drain (pending ++ chunks.flatten) := by
  induction chunks generalizing pending with
  | nil => simp [feed, scanner.drain_more drained]
  | cons chunk chunks ih =>
      rw [List.flatten_cons, ← List.append_assoc, scanner.drain_append]
      simp only [feed]
      cases step : scanner.drain (pending ++ chunk) with
      | error error => rfl
      | ok first =>
          simp only [Except.bind]
          rw [ih _ (scanner.scan_of_drain_ok step)]

/-- Feeding fails at one of the chunks, and the chunks before it are drained. -/
theorem feed_error {chunks : List (List β)} {pending : List β} {error : ε}
    (failed : scanner.feed pending chunks = .error error) :
    ∃ before chunk after now, chunks = before ++ chunk :: after ∧
      scanner.feed pending before = .ok now ∧ scanner.drain (now.2 ++ chunk) = .error error := by
  induction chunks generalizing pending with
  | nil => cases failed
  | cons chunk chunks ih =>
      simp only [feed] at failed
      cases step : scanner.drain (pending ++ chunk) with
      | error first =>
          rw [step] at failed
          cases failed
          exact ⟨[], chunk, chunks, ([], pending), rfl, rfl, step⟩
      | ok first =>
          rw [step] at failed
          simp only [Except.bind] at failed
          cases rest : scanner.feed first.2 chunks with
          | ok second => rw [rest] at failed; cases failed
          | error later =>
              rw [rest] at failed
              cases failed
              obtain ⟨before, last, after, now, rfl, fed, stuck⟩ := ih rest
              refine ⟨chunk :: before, last, after, (first.1 ++ now.1, now.2), rfl, ?_, stuck⟩
              simp only [feed, step, Except.bind, fed, Except.map]

/-- What is left between chunks holds no further unit. -/
theorem scan_of_feed_ok {chunks : List (List β)} {pending : List β} {now : List α × List β}
    (drained : scanner.scan pending = .more) (fed : scanner.feed pending chunks = .ok now) :
    scanner.scan now.2 = .more := by
  rw [scanner.feed_eq_drain chunks pending drained] at fed
  exact scanner.scan_of_drain_ok fed

/-! ## Draining encodings -/

/-- A concatenation of encodings drains to the units encoded. -/
theorem drain_flatMap {encode : α → List β} (empty : scanner.scan [] = .more) (units : List α)
    (reads : ∀ unit ∈ units, ∀ later,
      scanner.scan (encode unit ++ later) = .item (some unit) later) :
    scanner.drain (units.flatMap encode) = .ok (units, []) := by
  induction units with
  | nil => exact scanner.drain_more empty
  | cons unit units ih =>
      rw [List.flatMap_cons, scanner.drain_item (reads unit (.head _) _),
        ih fun other mem => reads other (.tail _ mem)]
      rfl

end Scanner
