import H2ts.Lib.Utf8Syntax

/-!
# The UTF-8 automaton

The table of `wslay_event.c` that decides whether text is UTF-8, byte by byte.  The first 256
entries map bytes to classes, the others a state and a class to a state.  What `decode`
computes besides, the code point, nobody reads.

Each state is what the reader of `Utf8.Syntax` owes (`decode_step`).  So the automaton ends in
`UTF8_ACCEPT` exactly on UTF-8, and in `UTF8_REJECT` exactly where no UTF-8 begins like that
(`decode_text_iff`).
-/

namespace H2ts

namespace Wslay

open Utf8.Syntax

def UTF8_ACCEPT : Nat := 0

def UTF8_REJECT : Nat := 12

def utf8d : List Nat := [
  0, 0, 0, 0, 0, 0, 0, 0, 0, 0, 0, 0, 0, 0, 0, 0,  0, 0, 0, 0, 0, 0, 0, 0, 0, 0, 0, 0, 0, 0, 0, 0,
  0, 0, 0, 0, 0, 0, 0, 0, 0, 0, 0, 0, 0, 0, 0, 0,  0, 0, 0, 0, 0, 0, 0, 0, 0, 0, 0, 0, 0, 0, 0, 0,
  0, 0, 0, 0, 0, 0, 0, 0, 0, 0, 0, 0, 0, 0, 0, 0,  0, 0, 0, 0, 0, 0, 0, 0, 0, 0, 0, 0, 0, 0, 0, 0,
  0, 0, 0, 0, 0, 0, 0, 0, 0, 0, 0, 0, 0, 0, 0, 0,  0, 0, 0, 0, 0, 0, 0, 0, 0, 0, 0, 0, 0, 0, 0, 0,
  1, 1, 1, 1, 1, 1, 1, 1, 1, 1, 1, 1, 1, 1, 1, 1,  9, 9, 9, 9, 9, 9, 9, 9, 9, 9, 9, 9, 9, 9, 9, 9,
  7, 7, 7, 7, 7, 7, 7, 7, 7, 7, 7, 7, 7, 7, 7, 7,  7, 7, 7, 7, 7, 7, 7, 7, 7, 7, 7, 7, 7, 7, 7, 7,
  8, 8, 2, 2, 2, 2, 2, 2, 2, 2, 2, 2, 2, 2, 2, 2,  2, 2, 2, 2, 2, 2, 2, 2, 2, 2, 2, 2, 2, 2, 2, 2,
  10, 3, 3, 3, 3, 3, 3, 3, 3, 3, 3, 3, 3, 4, 3, 3, 11, 6, 6, 6, 5, 8, 8, 8, 8, 8, 8, 8, 8, 8, 8, 8,

  0, 12, 24, 36, 60, 96, 84, 12, 12, 12, 48, 72, 12, 12, 12, 12, 12, 12, 12, 12, 12, 12, 12, 12,
  12, 0, 12, 12, 12, 12, 12, 0, 12, 0, 12, 12, 12, 24, 12, 12, 12, 12, 12, 24, 12, 24, 12, 12,
  12, 12, 12, 12, 12, 12, 12, 24, 12, 12, 12, 12, 12, 24, 12, 12, 12, 12, 12, 12, 12, 24, 12, 12,
  12, 12, 12, 12, 12, 12, 12, 36, 12, 36, 12, 12, 12, 36, 12, 12, 12, 12, 12, 36, 12, 36, 12, 12,
  12, 36, 12, 12, 12, 12, 12, 12, 12, 12, 12, 12]

/-- The state after a byte. -/
def decode (state : Nat) (byte : UInt8) : Nat :=
  utf8d.getD (256 + state + utf8d.getD byte.toNat 0) 0

/-! ## The states -/

/-- The states, and what the next bytes have to be in them. -/
def states : List (Nat × Owed) :=
  [(0, []), (24, [tail]), (36, [tail, tail]), (48, [afterE0, tail]), (60, [afterED, tail]),
    (72, [afterF0, tail, tail]), (84, [tail, tail, tail]), (96, [afterF4, tail, tail])]

/-- A state stands for what is owed, or nothing can be paid any more. -/
def Stands (state : Nat) : Option Owed → Prop
  | some owed => (state, owed) ∈ states
  | none => state = UTF8_REJECT

instance (state : Nat) (owed : Option Owed) : Decidable (Stands state owed) :=
  match owed with
  | some owed => inferInstanceAs (Decidable ((state, owed) ∈ states))
  | none => inferInstanceAs (Decidable (state = UTF8_REJECT))

theorem decode_step {state : Nat} {owed : Owed} (stands : Stands state (some owed)) (byte : UInt8) :
    Stands (decode state byte) (step owed byte) := by
  have all : ∀ pair ∈ states, ∀ n : Fin 256,
      Stands (decode pair.1 (UInt8.ofNat n)) (step pair.2 (UInt8.ofNat n)) := by
    decide +kernel
  have here := all (state, owed) stands ⟨byte.toNat, byte.toNat_lt⟩
  rwa [UInt8.ofNat_toNat] at here

/-- The automaton stays where it has rejected. -/
theorem decode_reject (byte : UInt8) : decode UTF8_REJECT byte = UTF8_REJECT := by
  have all : ∀ n : Fin 256, decode UTF8_REJECT (UInt8.ofNat n) = UTF8_REJECT := by
    decide +kernel
  have here := all ⟨byte.toNat, byte.toNat_lt⟩
  rwa [UInt8.ofNat_toNat] at here

theorem foldl_decode_reject (bytes : List UInt8) : bytes.foldl decode UTF8_REJECT = UTF8_REJECT := by
  induction bytes with
  | nil => rfl
  | cons byte bytes ih => rw [List.foldl_cons, decode_reject, ih]

/-- The state after some bytes stands for what is owed after them. -/
theorem foldl_decode {state : Nat} {owed : Owed} (stands : Stands state (some owed))
    (bytes : List UInt8) : Stands (bytes.foldl decode state) (run owed bytes) := by
  induction bytes generalizing state owed with
  | nil => exact stands
  | cons byte bytes ih =>
      have next := decode_step stands byte
      rw [List.foldl_cons, run]
      cases paid : step owed byte with
      | some owed' =>
          rw [paid] at next
          exact ih next
      | none =>
          rw [paid] at next
          rw [next]
          exact foldl_decode_reject bytes

theorem stands_accept : Stands UTF8_ACCEPT (some []) := List.mem_cons_self

theorem Stands.accept_iff {state : Nat} {owed : Option Owed} (stands : Stands state owed) :
    state = UTF8_ACCEPT ↔ owed = some [] := by
  cases owed with
  | none =>
      rw [show state = UTF8_REJECT from stands]
      decide
  | some owed =>
      have all : ∀ pair ∈ states, pair.1 = UTF8_ACCEPT ↔ pair.2 = [] := by decide
      exact (all (state, owed) stands).trans (Option.some_inj).symm

theorem Stands.reject_iff {state : Nat} {owed : Option Owed} (stands : Stands state owed) :
    state = UTF8_REJECT ↔ owed = none := by
  cases owed with
  | none => exact iff_of_true stands rfl
  | some owed =>
      have all : ∀ pair ∈ states, pair.1 ≠ UTF8_REJECT := by decide
      exact iff_of_false (all (state, owed) stands) (Option.some_ne_none owed)

theorem texts (l : List UInt8) :
    (∃ text : String, l = Utf8.octets text) ↔ ∃ chars, l = Utf8.encodeChars chars := by
  constructor
  · rintro ⟨text, rfl⟩
    exact ⟨text.toList, Utf8.octets_eq_encodeChars text⟩
  · rintro ⟨chars, rfl⟩
    exact ⟨String.ofList chars, (Utf8.octets_ofList chars).symm⟩

theorem decode_accept_iff (bytes : List UInt8) :
    bytes.foldl decode UTF8_ACCEPT = UTF8_ACCEPT ↔ ∃ text : String, bytes = Utf8.octets text := by
  have stands := foldl_decode stands_accept bytes
  rw [stands.accept_iff, texts, run_iff]

theorem decode_reject_iff (bytes : List UInt8) :
    bytes.foldl decode UTF8_ACCEPT = UTF8_REJECT ↔
      ¬ ∃ later, ∃ text : String, bytes ++ later = Utf8.octets text := by
  have stands := foldl_decode stands_accept bytes
  simp only [stands.reject_iff, run_none_iff, texts]

/-- From its start the automaton accepts exactly the encodings of strings, and it has
rejected exactly if no encoding begins with the bytes so far. -/
theorem decode_text_iff (bytes : List UInt8) :
    (bytes.foldl decode UTF8_ACCEPT = UTF8_ACCEPT ↔ ∃ text : String, bytes = Utf8.octets text) ∧
      (bytes.foldl decode UTF8_ACCEPT = UTF8_REJECT ↔
        ¬ ∃ later, ∃ text : String, bytes ++ later = Utf8.octets text) :=
  ⟨decode_accept_iff bytes, decode_reject_iff bytes⟩

end Wslay

end H2ts
