import Mathlib.Data.List.TakeDrop
import Mathlib.Tactic

/-!
# Buffered readers

A source delivers its elements in segments, then ends.  A reader puts a buffer in front
of it: one read hands over what is buffered, or what one read of the source brings, and
large reads pass by the buffer.  `readFull` reads until it has all it wants.

What is read does not depend on the segments: `content` is the list of the elements to
come, a read takes some of its front (`read_some`), and `readFull` exactly as much as it
wants (`readFull_append`).
-/

namespace Bufio

variable {α : Type*}

inductive ReadError where
  /-- The source has ended. -/
  | eof
  /-- It ended in the middle of what `readFull` wants. -/
  | unexpectedEof
deriving DecidableEq, Repr

/-- What one read of the source can bring; never empty. -/
abbrev Segment (α : Type*) := { elements : List α // elements ≠ [] }

structure Reader (α : Type*) where
  /-- The capacity of the buffer. -/
  size : Nat
  buffered : List α
  segments : List (Segment α)

/-- One read of the source, with room for `n` elements. -/
def pull (n : Nat) : List (Segment α) → List α × List (Segment α)
  | [] => ([], [])
  | segment :: later =>
      (segment.1.take n,
        if more : segment.1.drop n ≠ [] then ⟨segment.1.drop n, more⟩ :: later else later)

namespace Reader

/-- The elements to come. -/
def content (r : Reader α) : List α := r.buffered ++ (r.segments.map Subtype.val).flatten

/-- Read at most `n` elements. -/
def read (r : Reader α) (n : Nat) : (List α × Option ReadError) × Reader α :=
  if n = 0 then (([], none), r)
  else if r.buffered.isEmpty then
    if r.segments.isEmpty then (([], some .eof), r)
    else if r.size ≤ n then
      let (data, later) := pull n r.segments
      ((data, none), { r with segments := later })
    else
      let (data, later) := pull r.size r.segments
      ((data.take n, none), { r with buffered := data.drop n, segments := later })
  else ((r.buffered.take n, none), { r with buffered := r.buffered.drop n })

/-- Read until nothing is missing.  The fuel is what is missing at first. -/
def readLoop : Nat → Reader α → Nat → List α → (List α × Option ReadError) × Reader α
  | 0, r, _, got => ((got, none), r)
  | fuel + 1, r, missing, got =>
      if missing = 0 then ((got, none), r)
      else
        match r.read missing with
        | ((data, none), r) => readLoop fuel r (missing - data.length) (got ++ data)
        | ((data, some err), r) =>
            ((got ++ data,
              some (if (got ++ data).isEmpty || err != .eof then err else .unexpectedEof)), r)

/-- Read `n` elements. -/
def readFull (r : Reader α) (n : Nat) : (List α × Option ReadError) × Reader α := readLoop n r n []

end Reader

theorem pull_content {n : Nat} (positive : 0 < n) (segments : List (Segment α)) :
    ((segments.map Subtype.val).flatten =
        (pull n segments).1 ++ ((pull n segments).2.map Subtype.val).flatten) ∧
      (pull n segments).1.length ≤ n ∧ ((pull n segments).1 = [] → segments = []) := by
  cases segments with
  | nil => exact ⟨rfl, Nat.zero_le _, fun _ => rfl⟩
  | cons segment later =>
      refine ⟨?_, List.length_take_le _ _, fun empty => ?_⟩
      · show segment.1 ++ (later.map Subtype.val).flatten = segment.1.take n ++ _
        simp only [pull]
        by_cases done : segment.1.drop n = []
        · nth_rewrite 1 [← List.take_append_drop n segment.1]
          simp only [done, List.append_nil, ne_eq, not_true_eq_false, dite_false]
        · simp only [done, ne_eq, not_false_eq_true, dite_true, List.map_cons, List.flatten_cons]
          rw [← List.append_assoc, List.take_append_drop]
      · rcases List.take_eq_nil_iff.mp empty with zero | none
        · omega
        · exact absurd none segment.2

namespace Reader

/-- A read takes some of the front of the content. -/
theorem read_some {r : Reader α} {n : Nat} (positive : 0 < n) (some : r.content ≠ []) :
    ∃ data r', r.read n = ((data, none), r') ∧ data ≠ [] ∧ data.length ≤ n ∧
      r.content = data ++ r'.content := by
  unfold read
  rw [if_neg (by omega)]
  cases buffered : r.buffered with
  | cons first rest =>
      refine ⟨(first :: rest).take n, { r with buffered := (first :: rest).drop n }, rfl, ?_,
        List.length_take_le _ _, ?_⟩
      · intro empty
        rcases List.take_eq_nil_iff.mp empty with zero | none
        · omega
        · cases none
      · simp only [content, buffered]
        rw [← List.append_assoc, List.take_append_drop]
  | nil =>
      have segments : r.segments ≠ [] := by
        intro none
        simp [content, buffered, none] at some
      simp only [List.isEmpty_nil, if_true, List.isEmpty_iff, segments, if_false]
      have source : r.content = (r.segments.map Subtype.val).flatten := by
        rw [content, buffered, List.nil_append]
      split
      · obtain ⟨taken, short, empty⟩ := pull_content positive r.segments
        refine ⟨_, _, rfl, fun none => segments (empty none), short, ?_⟩
        rw [source, taken]
        rfl
      · next large =>
          obtain ⟨taken, -, empty⟩ := pull_content (by omega : 0 < r.size) r.segments
          refine ⟨_, _, rfl, fun none => ?_, List.length_take_le _ _, ?_⟩
          · rcases List.take_eq_nil_iff.mp none with zero | none
            · omega
            · exact segments (empty none)
          · rw [source, taken]
            show _ = _ ++ (_ ++ _)
            rw [← List.append_assoc, List.take_append_drop]

theorem read_nil {r : Reader α} {n : Nat} (positive : 0 < n) (none : r.content = []) :
    r.read n = (([], some .eof), r) := by
  obtain ⟨buffered, segments⟩ := List.append_eq_nil_iff.mp none
  have segments : r.segments = [] := by
    cases later : r.segments with
    | nil => rfl
    | cons segment rest =>
        rw [later, List.map_cons, List.flatten_cons, List.append_eq_nil_iff] at segments
        exact absurd segments.1 segment.2
  simp only [read, positive.ne', if_false, buffered, segments, List.isEmpty_nil, if_true]

/-- `readFull` reads what it wants. -/
theorem readLoop_append {xs rest : List α} {r : Reader α} (fuel : Nat) (got : List α)
    (enough : xs.length ≤ fuel) (holds : r.content = xs ++ rest) :
    ∃ r', readLoop fuel r xs.length got = ((got ++ xs, none), r') ∧ r'.content = rest := by
  induction fuel generalizing r xs got with
  | zero =>
      obtain rfl := List.length_eq_zero_iff.mp (Nat.le_zero.mp enough)
      exact ⟨r, by rw [readLoop, List.append_nil], holds⟩
  | succ fuel ih =>
      unfold readLoop
      cases xs with
      | nil => exact ⟨r, by rw [List.length_nil, if_pos rfl, List.append_nil], holds⟩
      | cons x xs =>
          have some : r.content ≠ [] := by
            rw [holds]
            exact List.cons_ne_nil _ _
          obtain ⟨data, r', reads, positive, short, content⟩ :=
            read_some (Nat.succ_pos xs.length) some
          have size : 0 < data.length := List.length_pos_iff.mpr positive
          rw [List.length_cons] at enough
          -- What came is the front of what is wanted.
          have front : data <+: x :: xs :=
            List.prefix_of_prefix_length_le ⟨_, content.symm⟩ ⟨_, holds.symm⟩ short
          obtain ⟨missing, split⟩ := front
          rw [eq_comm] at split
          have later : r'.content = missing ++ rest := by
            rw [content, split, List.append_assoc] at holds
            exact List.append_cancel_left holds
          have length : xs.length + 1 = data.length + missing.length := by
            rw [← List.length_cons (a := x), split, List.length_append]
          obtain ⟨r'', loops, left⟩ := ih (got ++ data) (by omega) later
          refine ⟨r'', ?_, left⟩
          rw [if_neg (by simp), List.length_cons, reads, split]
          simp only [length, Nat.add_sub_cancel_left, loops, List.append_assoc]

theorem readFull_append {xs rest : List α} {r : Reader α} (holds : r.content = xs ++ rest) :
    ∃ r', r.readFull xs.length = ((xs, none), r') ∧ r'.content = rest :=
  readLoop_append xs.length [] le_rfl holds

theorem readFull_nil {r : Reader α} {n : Nat} (positive : 0 < n) (none : r.content = []) :
    r.readFull n = (([], some .eof), r) := by
  obtain ⟨m, rfl⟩ := Nat.exists_eq_succ_of_ne_zero positive.ne'
  simp only [readFull, readLoop, read_nil positive none]
  rfl

/-- A read takes from the front of the content. -/
theorem content_read (r : Reader α) (n : Nat) :
    ∃ taken, r.content = taken ++ (r.read n).2.content ∧
      ((r.read n).1.2 = none → (r.read n).1.1 = taken) := by
  rcases Nat.eq_zero_or_pos n with rfl | positive
  · exact ⟨[], rfl, fun _ => rfl⟩
  · by_cases empty : r.content = []
    · refine ⟨[], ?_, fun fine => ?_⟩
      · rw [read_nil positive empty, List.nil_append]
      · rw [read_nil positive empty]
    · obtain ⟨data, r', reads, -, -, content⟩ := read_some positive empty
      refine ⟨data, ?_, fun _ => ?_⟩
      · rw [reads, content]
      · rw [reads]

theorem content_readLoop (fuel : Nat) (r : Reader α) (missing : Nat) (got : List α) :
    ∃ taken, r.content = taken ++ (readLoop fuel r missing got).2.content ∧
      ((readLoop fuel r missing got).1.2 = none → (readLoop fuel r missing got).1.1 = got ++ taken) := by
  induction fuel generalizing r missing got with
  | zero => exact ⟨[], rfl, fun _ => (List.append_nil got).symm⟩
  | succ fuel ih =>
      unfold readLoop
      split
      · exact ⟨[], rfl, fun _ => (List.append_nil got).symm⟩
      · obtain ⟨taken, content, same⟩ := content_read r missing
        rcases reads : r.read missing with ⟨⟨data, _ | err⟩, r'⟩
        · rw [reads] at content same
          obtain ⟨later, rest, whole⟩ := ih r' (missing - data.length) (got ++ data)
          have front : data = taken := same rfl
          refine ⟨taken ++ later, ?_, fun fine => ?_⟩
          · rw [content, rest, List.append_assoc]
          · rw [whole fine, front, List.append_assoc]
        · rw [reads] at content
          exact ⟨taken, content, nofun⟩

theorem length_readLoop {fuel missing : Nat} {r : Reader α} {got : List α}
    (enough : missing ≤ fuel) (fine : (readLoop fuel r missing got).1.2 = none) :
    (readLoop fuel r missing got).1.1.length = got.length + missing := by
  induction fuel generalizing r missing got with
  | zero =>
      obtain rfl := Nat.le_zero.mp enough
      rfl
  | succ fuel ih =>
      unfold readLoop at fine ⊢
      split at fine
      · next zero => rw [if_pos zero, zero, Nat.add_zero]
      · next more =>
          rw [if_neg more]
          by_cases empty : r.content = []
          · rw [read_nil (by omega) empty] at fine
            cases fine
          · obtain ⟨data, r', reads, some, short, -⟩ := read_some (by omega : 0 < missing) empty
            have positive : 0 < data.length := List.length_pos_iff.mpr some
            rw [reads] at fine ⊢
            rw [ih (by omega) fine, List.length_append]
            omega

theorem length_readFull {r : Reader α} {n : Nat} (fine : (r.readFull n).1.2 = none) :
    (r.readFull n).1.1.length = n :=
  (length_readLoop le_rfl fine).trans (Nat.zero_add n)

/-- `readFull` takes from the front of the content. -/
theorem content_readFull (r : Reader α) (n : Nat) :
    ∃ taken, r.content = taken ++ (r.readFull n).2.content ∧
      ((r.readFull n).1.2 = none → (r.readFull n).1.1 = taken) :=
  content_readLoop n r n []

end Reader

end Bufio
