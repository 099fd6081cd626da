import H2ts.Lib.Utf8

/-!
# The syntax of UTF-8

A reader of UTF-8 that takes a byte at a time.  Its state is the ranges that the next bytes
of the character have to be in; between characters nothing is owed.

It ends between characters exactly on the encodings of characters (`run_iff`), and it
refuses a byte exactly when no encoding begins with the bytes up to it (`run_none_iff`).
-/

namespace Utf8.Syntax

/-- A range of bytes, with a byte in it. -/
structure Range where
  low : Nat
  high : Nat
  nonempty : low ≤ high
  bytes : high < 256
deriving DecidableEq

/-- The ranges of the bytes that are still to come. -/
abbrev Owed := List Range

/-- A continuation byte. -/
def tail : Range := ⟨0x80, 0xBF, by decide, by decide⟩

def InRange (b : UInt8) (range : Range) : Prop := range.low ≤ b.toNat ∧ b.toNat ≤ range.high

instance (b : UInt8) (range : Range) : Decidable (InRange b range) :=
  inferInstanceAs (Decidable (_ ∧ _))

/-- The second bytes of the characters that a shorter form would have, of surrogates and of
what is beyond the last character are left out. -/
def afterE0 : Range := ⟨0xA0, 0xBF, by decide, by decide⟩

def afterED : Range := ⟨0x80, 0x9F, by decide, by decide⟩

def afterF0 : Range := ⟨0x90, 0xBF, by decide, by decide⟩

def afterF4 : Range := ⟨0x80, 0x8F, by decide, by decide⟩

/-- What a first byte owes. -/
def lead (b : UInt8) : Option Owed :=
  let n := b.toNat
  if n < 0x80 then some []
  else if n < 0xC2 then none
  else if n < 0xE0 then some [tail]
  else if n = 0xE0 then some [afterE0, tail]
  else if n = 0xED then some [afterED, tail]
  else if n < 0xF0 then some [tail, tail]
  else if n = 0xF0 then some [afterF0, tail, tail]
  else if n < 0xF4 then some [tail, tail, tail]
  else if n = 0xF4 then some [afterF4, tail, tail]
  else none

def step : Owed → UInt8 → Option Owed
  | [], b => lead b
  | range :: owed, b => if InRange b range then some owed else none

def run : Owed → List UInt8 → Option Owed
  | owed, [] => some owed
  | owed, b :: bytes => (step owed b).bind fun owed => run owed bytes

theorem run_append (owed : Owed) (bytes later : List UInt8) :
    run owed (bytes ++ later) = (run owed bytes).bind fun owed => run owed later := by
  induction bytes generalizing owed with
  | nil => rfl
  | cons b bytes ih =>
      simp only [List.cons_append, run]
      cases step owed b with
      | none => rfl
      | some owed => exact ih owed

/-! ## Characters -/

theorem toNat_byte {n : Nat} (small : n < 256) : (UInt8.ofNat n).toNat = n := by
  rw [UInt8.toNat_ofNat']
  omega

theorem inRange_tail (n : Nat) : InRange (UInt8.ofNat (n % 0x40 + 0x80)) tail := by
  have below : n % 0x40 + 0x80 < 256 := by omega
  have bounds : 0x80 ≤ n % 0x40 + 0x80 ∧ n % 0x40 + 0x80 ≤ 0xBF := by omega
  rw [InRange, toNat_byte below]
  exact bounds

/-- A character is its first byte, and what that one owes. -/
theorem lead_encode (c : Char) :
    ∃ b rest owed, String.utf8EncodeChar c = b :: rest ∧ lead b = some owed ∧
      List.Forall₂ InRange rest owed := by
  have valid : c.val.toNat < 0xD800 ∨ 0xDFFF < c.val.toNat ∧ c.val.toNat < 0x110000 := c.valid
  unfold String.utf8EncodeChar
  generalize c.val.toNat = v at valid
  dsimp only
  split
  · refine ⟨_, _, [], rfl, ?_, .nil⟩
    rw [lead, toNat_byte (by omega), if_pos (by omega)]
  · split
    · refine ⟨_, _, [tail], rfl, ?_, .cons (inRange_tail _) .nil⟩
      rw [lead, toNat_byte (by omega), if_neg (by omega), if_neg (by omega), if_pos (by omega)]
    · split
      next =>
        have second : v / 64 % 0x40 + 0x80 < 256 := by omega
        -- The first byte rules out the values that fewer bytes have, and the surrogates.
        by_cases zero : v / 4096 = 0
        · refine ⟨_, _, [afterE0, tail], rfl, ?_, .cons ?_ (.cons (inRange_tail _) .nil)⟩
          · rw [zero]
            decide
          · rw [InRange, toNat_byte second]
            show 0xA0 ≤ _ ∧ _ ≤ 0xBF
            omega
        · by_cases surrogates : v / 4096 = 13
          · refine ⟨_, _, [afterED, tail], rfl, ?_, .cons ?_ (.cons (inRange_tail _) .nil)⟩
            · rw [surrogates]
              decide
            · rw [InRange, toNat_byte second]
              show 0x80 ≤ _ ∧ _ ≤ 0x9F
              omega
          · refine ⟨_, _, [tail, tail], rfl, ?_,
              .cons (inRange_tail _) (.cons (inRange_tail _) .nil)⟩
            rw [lead, toNat_byte (by omega), if_neg (by omega), if_neg (by omega), if_neg (by omega),
              if_neg (by omega), if_neg (by omega), if_pos (by omega)]
      next =>
        have second : v / 4096 % 0x40 + 0x80 < 256 := by omega
        by_cases zero : v / 262144 = 0
        · refine ⟨_, _, [afterF0, tail, tail], rfl, ?_,
            .cons ?_ (.cons (inRange_tail _) (.cons (inRange_tail _) .nil))⟩
          · rw [zero]
            decide
          · rw [InRange, toNat_byte second]
            show 0x90 ≤ _ ∧ _ ≤ 0xBF
            omega
        · by_cases last : v / 262144 = 4
          · refine ⟨_, _, [afterF4, tail, tail], rfl, ?_,
              .cons ?_ (.cons (inRange_tail _) (.cons (inRange_tail _) .nil))⟩
            · rw [last]
              decide
            · rw [InRange, toNat_byte second]
              show 0x80 ≤ _ ∧ _ ≤ 0x8F
              omega
          · refine ⟨_, _, [tail, tail, tail], rfl, ?_,
              .cons (inRange_tail _) (.cons (inRange_tail _) (.cons (inRange_tail _) .nil))⟩
            rw [lead, toNat_byte (by omega), if_neg (by omega), if_neg (by omega), if_neg (by omega),
              if_neg (by omega), if_neg (by omega), if_neg (by omega), if_neg (by omega), if_pos (by omega)]

/-- The character with a value, as it is encoded. -/
theorem encode_ofNat {v : Nat} (valid : v.isValidChar) :
    String.utf8EncodeChar (Char.ofNat v) =
      if v ≤ 0x7F then [UInt8.ofNat v]
      else if v ≤ 0x7FF then [UInt8.ofNat (v / 64 % 0x20 + 0xC0), UInt8.ofNat (v % 0x40 + 0x80)]
      else if v ≤ 0xFFFF then [UInt8.ofNat (v / 4096 % 0x10 + 0xE0), UInt8.ofNat (v / 64 % 0x40 + 0x80),
        UInt8.ofNat (v % 0x40 + 0x80)]
      else [UInt8.ofNat (v / 262144 % 0x08 + 0xF0), UInt8.ofNat (v / 4096 % 0x40 + 0x80),
        UInt8.ofNat (v / 64 % 0x40 + 0x80), UInt8.ofNat (v % 0x40 + 0x80)] := by
  have value : (Char.ofNat v).val.toNat = v := by
    rw [Char.ofNat, dif_pos valid]
    rfl
  rw [String.utf8EncodeChar, value]

theorem ofNat_eq {n : Nat} {b : UInt8} (same : n = b.toNat) : UInt8.ofNat n = b := by
  rw [same, UInt8.ofNat_toNat]

/-- Two bytes are a character. -/
theorem encode_two {a b : UInt8} (first : 0xC2 ≤ a.toNat ∧ a.toNat < 0xE0) (second : InRange b tail) :
    ∃ c, String.utf8EncodeChar c = [a, b] := by
  obtain ⟨low, high⟩ : 0x80 ≤ b.toNat ∧ b.toNat ≤ 0xBF := second
  have valid : ((a.toNat - 0xC0) * 64 + (b.toNat - 0x80)).isValidChar := .inl (by omega)
  refine ⟨_, (encode_ofNat valid).trans ?_⟩
  rw [if_neg (by omega), if_pos (by omega), ofNat_eq (b := a) (by omega), ofNat_eq (b := b) (by omega)]

/-- Three bytes are a character, if they are not its longer form and not a surrogate. -/
theorem encode_three {a b c : UInt8} (first : 0xE0 ≤ a.toNat ∧ a.toNat < 0xF0) (second : InRange b tail)
    (third : InRange c tail) (long : a.toNat = 0xE0 → 0xA0 ≤ b.toNat)
    (scalar : a.toNat = 0xED → b.toNat ≤ 0x9F) : ∃ char, String.utf8EncodeChar char = [a, b, c] := by
  obtain ⟨low, high⟩ : 0x80 ≤ b.toNat ∧ b.toNat ≤ 0xBF := second
  obtain ⟨low', high'⟩ : 0x80 ≤ c.toNat ∧ c.toNat ≤ 0xBF := third
  have valid : ((a.toNat - 0xE0) * 4096 + (b.toNat - 0x80) * 64 + (c.toNat - 0x80)).isValidChar := by
    unfold Nat.isValidChar
    omega
  refine ⟨_, (encode_ofNat valid).trans ?_⟩
  rw [if_neg (by omega), if_neg (by omega), if_pos (by omega), ofNat_eq (b := a) (by omega),
    ofNat_eq (b := b) (by omega), ofNat_eq (b := c) (by omega)]

/-- Four bytes are a character, if they are not its longer form and not beyond the last. -/
theorem encode_four {a b c d : UInt8} (first : 0xF0 ≤ a.toNat ∧ a.toNat < 0xF5)
    (second : InRange b tail) (third : InRange c tail) (fourth : InRange d tail)
    (long : a.toNat = 0xF0 → 0x90 ≤ b.toNat) (scalar : a.toNat = 0xF4 → b.toNat ≤ 0x8F) :
    ∃ char, String.utf8EncodeChar char = [a, b, c, d] := by
  obtain ⟨low, high⟩ : 0x80 ≤ b.toNat ∧ b.toNat ≤ 0xBF := second
  obtain ⟨low', high'⟩ : 0x80 ≤ c.toNat ∧ c.toNat ≤ 0xBF := third
  obtain ⟨low'', high''⟩ : 0x80 ≤ d.toNat ∧ d.toNat ≤ 0xBF := fourth
  have valid : ((a.toNat - 0xF0) * 262144 + (b.toNat - 0x80) * 4096 + (c.toNat - 0x80) * 64 +
      (d.toNat - 0x80)).isValidChar := .inr (by omega)
  refine ⟨_, (encode_ofNat valid).trans ?_⟩
  rw [if_neg (by omega), if_neg (by omega), if_neg (by omega), ofNat_eq (b := a) (by omega),
    ofNat_eq (b := b) (by omega), ofNat_eq (b := c) (by omega), ofNat_eq (b := d) (by omega)]

theorem InRange.tail {b : UInt8} {range : Range} (inside : InRange b range)
    (narrow : 0x80 ≤ range.low ∧ range.high ≤ 0xBF) : InRange b tail :=
  ⟨narrow.1.trans inside.1, inside.2.trans narrow.2⟩

/-- A first byte and what it owes are a character. -/
theorem encode_lead {b : UInt8} {rest : List UInt8} {owed : Owed} (first : lead b = some owed)
    (paid : List.Forall₂ InRange rest owed) : ∃ c, String.utf8EncodeChar c = b :: rest := by
  unfold lead at first
  dsimp only at first
  split at first
  · cases first
    cases paid
    refine ⟨_, (encode_ofNat (v := b.toNat) (.inl (by omega))).trans ?_⟩
    rw [if_pos (by omega), UInt8.ofNat_toNat]
  · split at first
    · cases first
    · split at first
      · cases first
        obtain _ | ⟨second, _ | _⟩ := paid
        exact encode_two (by omega) second
      · split at first
        · cases first
          obtain _ | ⟨second, _ | ⟨third, _ | _⟩⟩ := paid
          exact encode_three (by omega) (second.tail (by decide)) third (fun _ => second.1) (by omega)
        · split at first
          · cases first
            obtain _ | ⟨second, _ | ⟨third, _ | _⟩⟩ := paid
            exact encode_three (by omega) (second.tail (by decide)) third (by omega) fun _ => second.2
          · split at first
            · cases first
              obtain _ | ⟨second, _ | ⟨third, _ | _⟩⟩ := paid
              exact encode_three (by omega) second third (by omega) (by omega)
            · split at first
              · cases first
                obtain _ | ⟨second, _ | ⟨third, _ | ⟨fourth, _ | _⟩⟩⟩ := paid
                exact encode_four (by omega) (second.tail (by decide)) third fourth (fun _ => second.1)
                  (by omega)
              · split at first
                · cases first
                  obtain _ | ⟨second, _ | ⟨third, _ | ⟨fourth, _ | _⟩⟩⟩ := paid
                  exact encode_four (by omega) second third fourth (by omega) (by omega)
                · split at first
                  · cases first
                    obtain _ | ⟨second, _ | ⟨third, _ | ⟨fourth, _ | _⟩⟩⟩ := paid
                    exact encode_four (by omega) (second.tail (by decide)) third fourth (by omega)
                      fun _ => second.2
                  · cases first

/-! ## Texts -/

/-- What is owed is paid first. -/
theorem run_owed {owed : Owed} {bytes : List UInt8} :
    run owed bytes = some [] ↔
      ∃ paid later, bytes = paid ++ later ∧ List.Forall₂ InRange paid owed ∧ run [] later = some [] := by
  induction owed generalizing bytes with
  | nil =>
      constructor
      · exact fun ends => ⟨[], bytes, rfl, .nil, ends⟩
      · rintro ⟨paid, later, rfl, none, ends⟩
        cases none
        exact ends
  | cons range owed ih =>
      cases bytes with
      | nil =>
          constructor
          · intro ends
            cases ends
          · rintro ⟨paid, later, empty, pays, -⟩
            obtain ⟨rfl, -⟩ := List.append_eq_nil_iff.mp empty.symm
            cases pays
      | cons b bytes =>
          simp only [run, step]
          constructor
          · intro ends
            split at ends
            next inside =>
              obtain ⟨paid, later, rfl, pays, rest⟩ := ih.mp ends
              exact ⟨b :: paid, later, rfl, .cons inside pays, rest⟩
            next => cases ends
          · rintro ⟨paid, later, same, pays, rest⟩
            obtain _ | ⟨inside, pays⟩ := pays
            cases same
            rw [if_pos inside]
            exact ih.mpr ⟨_, later, rfl, pays, rest⟩

/-- A text is read character by character. -/
theorem run_encodeChars (chars : List Char) : run [] (encodeChars chars) = some [] := by
  induction chars with
  | nil => rfl
  | cons c chars ih =>
      obtain ⟨b, rest, owed, same, first, paid⟩ := lead_encode c
      have whole : encodeChars (c :: chars) = b :: (rest ++ encodeChars chars) :=
        congrArg (· ++ encodeChars chars) same
      rw [whole, run, step, first]
      exact run_owed.mpr ⟨rest, _, rfl, paid, ih⟩

/-- The reader ends between characters exactly on the encodings of characters. -/
theorem run_iff {bytes : List UInt8} : run [] bytes = some [] ↔ ∃ chars, bytes = encodeChars chars := by
  constructor
  · intro ends
    induction length : bytes.length using Nat.strong_induction_on generalizing bytes with
    | _ n ih =>
        cases bytes with
        | nil => exact ⟨[], rfl⟩
        | cons b bytes =>
            rw [run, step] at ends
            cases first : lead b with
            | none =>
                rw [first] at ends
                cases ends
            | some owed =>
                rw [first] at ends
                obtain ⟨paid, later, rfl, pays, rest⟩ := run_owed.mp ends
                have shorter : later.length < n := by
                  rw [← length, List.length_cons, List.length_append]
                  omega
                obtain ⟨c, same⟩ := encode_lead first pays
                obtain ⟨chars, rfl⟩ := ih later.length shorter rest rfl
                exact ⟨c :: chars, (congrArg (· ++ encodeChars chars) same).symm⟩
  · rintro ⟨chars, rfl⟩
    exact run_encodeChars chars

/-! ## Refusals -/

/-- The reader refuses a byte exactly when no text begins with the bytes up to it. -/
theorem run_none_iff {bytes : List UInt8} :
    run [] bytes = none ↔ ¬ ∃ later chars, bytes ++ later = encodeChars chars := by
  constructor
  · rintro refused ⟨later, chars, same⟩
    have ends := run_iff.mpr ⟨chars, same⟩
    rw [run_append, refused] at ends
    cases ends
  · intro none
    cases ends : run [] bytes with
    | none => rfl
    | some owed =>
        -- The least byte of each range pays it.
        have pays : List.Forall₂ InRange (owed.map fun range => UInt8.ofNat range.low) owed := by
          rw [List.forall₂_map_left_iff, List.forall₂_same]
          intro range _
          rw [InRange, toNat_byte (lt_of_le_of_lt range.nonempty range.bytes)]
          exact ⟨le_rfl, range.nonempty⟩
        have closed : run owed (owed.map fun range => UInt8.ofNat range.low) = some [] :=
          run_owed.mpr ⟨_, [], (List.append_nil _).symm, pays, rfl⟩
        have whole := run_append [] bytes (owed.map fun range => UInt8.ofNat range.low)
        rw [ends, Option.bind_some, closed] at whole
        exact absurd ⟨_, run_iff.mp whole⟩ none

end Utf8.Syntax
