import H2ts.Hpack.Primitives

/-!
# Integers on a 32-bit target

`read_integer` stops behind six continuation octets, which is enough for an integer to
fit into 64 bits.  Where `usize` has 32 bits it is not: the octets represent up to 42
bits, and what is beyond the width is shifted out or wraps.

`rfcInteger` is the number that octets represent, of any size.  The reader returns it
on a 64-bit target; on a 32-bit one it does so exactly if the number fits or the octets
are too many (`exactOn_iff`).
-/

namespace H2ts.Hpack

/-! ## What octets represent -/

/-- Continuation octets, and what is behind them. -/
def splitRest : Bytes → Option (Bytes × Bytes)
  | [] => none
  | byte :: r =>
      if byte.toNat < 128 then some ([byte], r)
      else (splitRest r).map fun (rest, r) => (byte :: rest, r)

/-- The integer at the front of some octets, with a prefix of `n` bits (RFC 7541 §5.1), and
the octets behind it.  It may have any number of continuation octets. -/
def rfcInteger (n : Nat) : Bytes → Option (Nat × Bytes)
  | [] => none
  | first :: r =>
      if first.toNat % 2 ^ n < 2 ^ n - 1 then some (first.toNat % 2 ^ n, r)
      else (splitRest r).map fun (rest, r) => (2 ^ n - 1 + contValue rest, r)

theorem splitRest_some {octets rest r : Bytes} (split : splitRest octets = some (rest, r)) :
    octets = rest ++ r ∧ Continuation rest := by
  induction octets generalizing rest with
  | nil => cases split
  | cons byte octets ih =>
      rw [splitRest] at split
      by_cases last : byte.toNat < 128
      · rw [if_pos last] at split
        cases split
        exact ⟨rfl, last⟩
      · rw [if_neg last] at split
        cases later : splitRest octets with
        | none => rw [later] at split; cases split
        | some parts =>
            obtain ⟨rest', r'⟩ := parts
            rw [later] at split
            cases split
            obtain ⟨same, cont⟩ := ih later
            refine ⟨by rw [same, List.cons_append], ?_⟩
            cases rest' with
            | nil => exact cont.elim
            | cons next rest' => exact ⟨Nat.le_of_not_lt last, cont⟩

theorem splitRest_append {rest : Bytes} (cont : Continuation rest) (r : Bytes) :
    splitRest (rest ++ r) = some (rest, r) := by
  induction rest with
  | nil => exact cont.elim
  | cons byte rest ih =>
      cases rest with
      | nil =>
          have last : byte.toNat < 128 := cont
          rw [List.singleton_append, splitRest, if_pos last]
      | cons next rest =>
          rw [List.cons_append, splitRest, if_neg (Nat.not_lt_of_le cont.1), ih cont.2]
          rfl

/-! ## What the loop returns -/

/-- Octets without an end are never read. -/
theorem readRest_endless {w : Nat} {octets : Bytes} (endless : splitRest octets = none)
    (value shift : Nat) : ∃ fault, readRest w value shift octets = .error fault := by
  induction octets generalizing value shift with
  | nil => exact ⟨_, rfl⟩
  | cons byte octets ih =>
      rw [splitRest] at endless
      by_cases last : byte.toNat < 128
      · rw [if_pos last] at endless
        cases endless
      · rw [if_neg last, Option.map_eq_none_iff] at endless
        have more : ¬ byte &&& 0x80 = 0 := fun clear => last ((top_bit_clear byte).mp clear)
        simp only [readRest, more, if_false]
        split
        · exact ⟨_, rfl⟩
        · exact ih endless _ _

/-- Up to six octets give some number of the width. -/
theorem readRest_short {w : Nat} (rest r : Bytes) (value k : Nat) (cont : Continuation rest)
    (few : k + rest.length ≤ 6) :
    ∃ v < 2 ^ w, readRest w value (7 * k) (rest ++ r) = .ok (v, r) := by
  induction rest generalizing value k with
  | nil => exact cont.elim
  | cons byte rest ih =>
      rw [List.length_cons] at few
      have low : ¬ 7 * k + 7 > 42 := by omega
      simp only [List.cons_append, readRest, low, if_false]
      cases rest with
      | nil =>
          rw [if_pos ((top_bit_clear byte).mpr cont)]
          exact ⟨_, Nat.mod_lt _ (Nat.pow_pos (by omega)), rfl⟩
      | cons next rest =>
          have more : ¬ byte &&& 0x80 = 0 := by
            rw [top_bit_clear]
            exact Nat.not_lt_of_le cont.1
          rw [if_neg more, show 7 * k + 7 = 7 * (k + 1) by omega]
          exact ih _ (k + 1) cont.2 (by omega)

/-! ## What the reader returns -/

variable {w n : Nat}

/-- The reader at a first octet whose prefix is not all ones, or behind one. -/
theorem readInteger_cons (high : n ≤ 8) (first : UInt8) (r : Bytes) :
    readInteger w (first :: r) n =
      if first.toNat % 2 ^ n < 2 ^ n - 1 then .ok (first.toNat % 2 ^ n, r)
      else readRest w (2 ^ n - 1) 0 r := by
  have bound := Nat.mod_lt first.toNat (Nat.pow_pos (n := n) (by omega : 0 < 2))
  have ones (large : ¬ first.toNat % 2 ^ n < 2 ^ n - 1) : first.toNat % 2 ^ n = 2 ^ n - 1 := by omega
  simp only [readInteger, ByteReader.u8_cons, prefix_bits first high, bind, Except.bind, pure,
    Except.pure]
  split
  · rfl
  next large => rw [ones large]

/-- Three things can happen to octets that represent an integer. -/
theorem readInteger_cases (high : n ≤ 8) (wide : 8 ≤ w) {octets : Bytes} {v : Nat} {r : Bytes}
    (integer : rfcInteger n octets = some (v, r)) :
    (v < 2 ^ w ∧ readInteger w octets n = .ok (v, r)) ∨
      (2 ^ w ≤ v ∧ octets.length ≤ r.length + 7 ∧
        ∃ wrapped < 2 ^ w, readInteger w octets n = .ok (wrapped, r)) ∨
      (r.length + 7 < octets.length ∧
        readInteger w octets n = .error (.new .compressionError "integer overflow")) := by
  have powers : 2 ^ n ≤ 2 ^ w := Nat.pow_le_pow_right (by omega) (Nat.le_trans high wide)
  cases octets with
  | nil => cases integer
  | cons first tail =>
      rw [rfcInteger] at integer
      rw [readInteger_cons high]
      by_cases small : first.toNat % 2 ^ n < 2 ^ n - 1
      · rw [if_pos small] at integer ⊢
        cases integer
        exact .inl ⟨by omega, rfl⟩
      · rw [if_neg small] at integer ⊢
        cases split : splitRest tail with
        | none => rw [split] at integer; cases integer
        | some parts =>
            obtain ⟨rest, r'⟩ := parts
            rw [split] at integer
            cases integer
            obtain ⟨rfl, cont⟩ := splitRest_some split
            rw [List.length_cons, List.length_append]
            rcases Nat.lt_or_ge 6 rest.length with many | few
            · refine .inr (.inr ⟨by omega, ?_⟩)
              exact readRest_long w rest r (2 ^ n - 1) 0 cont (by omega) (by omega)
            · rcases Nat.lt_or_ge (2 ^ n - 1 + contValue rest) (2 ^ w) with fits | large
              · have read := readRest_continuation (w := w) rest r (2 ^ n - 1) 0 cont (by omega)
                  (by rwa [Nat.pow_zero, Nat.mul_one])
                rw [Nat.pow_zero, Nat.mul_one, Nat.mul_zero] at read
                exact .inl ⟨fits, read⟩
              · obtain ⟨wrapped, below, read⟩ := readRest_short (w := w) rest r (2 ^ n - 1) 0 cont
                  (by omega)
                exact .inr (.inl ⟨large, by omega, wrapped, below, read⟩)

/-- Octets that represent no integer are refused. -/
theorem readInteger_none (high : n ≤ 8) {octets : Bytes} (none : rfcInteger n octets = none) :
    ∃ fault, readInteger w octets n = .error fault := by
  cases octets with
  | nil => exact ⟨_, rfl⟩
  | cons first r =>
      rw [rfcInteger] at none
      rw [readInteger_cons high]
      by_cases small : first.toNat % 2 ^ n < 2 ^ n - 1
      · rw [if_pos small] at none
        cases none
      · rw [if_neg small] at none ⊢
        exact readRest_endless (Option.map_eq_none_iff.mp none) _ 0

/-! ## Exact integers -/

theorem rfcInteger_of_prefixInteger {value : Nat} {l : Bytes} (integer : PrefixInteger n value l)
    (r : Bytes) : rfcInteger n (l ++ r) = some (value, r) := by
  obtain ⟨first, rest, rfl, ⟨less, held, rfl⟩ | ⟨ones, cont, -, rfl⟩⟩ := integer
  · rw [List.singleton_append, rfcInteger, held, if_pos less]
  · rw [List.cons_append, rfcInteger, ones, if_neg (Nat.lt_irrefl _), splitRest_append cont]
    rfl

/-- A written integer is read back. -/
theorem readInteger_writeInteger (high : n ≤ 8) (wide : 8 ≤ w) {value : Nat} {flags : UInt8}
    (clear : flags.toNat % 2 ^ n = 0) (fits : value < 2 ^ w) (below : value < 2 ^ 42) (r : Bytes) :
    readInteger w (writeInteger value n flags ++ r) n = .ok (value, r) := by
  have written := prefixInteger_writeInteger n value flags high clear (by omega)
  obtain ⟨first, rest, shape, form⟩ := written
  have short : (writeInteger value n flags).length ≤ 7 := by
    rw [shape, List.length_cons]
    rcases form with ⟨-, -, rfl⟩ | ⟨-, -, few, -⟩
    · exact Nat.le_of_ble_eq_true rfl
    · omega
  have integer := rfcInteger_of_prefixInteger ⟨first, rest, shape, form⟩ r
  rcases readInteger_cases high wide integer with ⟨-, read⟩ | ⟨large, -⟩ | ⟨long, -⟩
  · exact read
  · omega
  · rw [List.length_append] at long
    omega

/-- The reader at a width is exact on some octets: what it returns is what they represent, an
integer that does not fit is an error, and written integers are read back. -/
structure ExactOn (w n : Nat) (octets : Bytes) : Prop where
  reads : ∀ v r, readInteger w octets n = .ok (v, r) → rfcInteger n octets = some (v, r)
  overflow : ∀ v r, rfcInteger n octets = some (v, r) → 2 ^ w ≤ v →
    ∃ err, readInteger w octets n = .error (.h2 err)
  written : ∀ v flags r, flags.toNat % 2 ^ n = 0 → v < 2 ^ w → v < 2 ^ 42 →
    readInteger w (writeInteger v n flags ++ r) n = .ok (v, r)

/-- The octets do not represent an integer, or it fits into 32 bits, or it has more than six
continuation octets. -/
def Within32 (n : Nat) (octets : Bytes) : Prop :=
  ∀ v r, rfcInteger n octets = some (v, r) → v < 2 ^ 32 ∨ r.length + 7 < octets.length

/-- Exactness where nothing wraps. -/
theorem exactOn_of_fits (high : n ≤ 8) (wide : 8 ≤ w) {octets : Bytes}
    (fits : ∀ v r, rfcInteger n octets = some (v, r) →
      v < 2 ^ w ∨ r.length + 7 < octets.length) : ExactOn w n octets := by
  refine ⟨fun v r read => ?_, fun v r integer large => ?_,
    fun v flags r clear fits below => readInteger_writeInteger high wide clear fits below r⟩
  · cases integer : rfcInteger n octets with
    | none =>
        obtain ⟨fault, failed⟩ := readInteger_none (w := w) high integer
        rw [failed] at read
        cases read
    | some result =>
        obtain ⟨v', r'⟩ := result
        have known := fits v' r' integer
        rcases readInteger_cases high wide integer with ⟨-, same⟩ | ⟨large, few, -⟩ | ⟨-, failed⟩
        · rw [same] at read
          cases read
          rfl
        · omega
        · rw [failed] at read
          cases read
  · have known := fits v r integer
    rcases readInteger_cases high wide integer with ⟨small, -⟩ | ⟨-, few, -⟩ | ⟨-, failed⟩
    · omega
    · omega
    · exact ⟨_, failed⟩

/-- Six continuation octets fit into 64 bits. -/
theorem rfcInteger_lt (high : n ≤ 8) {octets : Bytes} {v : Nat} {r : Bytes}
    (integer : rfcInteger n octets = some (v, r)) (few : octets.length ≤ r.length + 7) :
    v < 2 ^ 64 := by
  have power : 2 ^ n ≤ 256 := Nat.pow_le_pow_right (by omega) high
  cases octets with
  | nil => cases integer
  | cons first tail =>
      rw [rfcInteger] at integer
      by_cases small : first.toNat % 2 ^ n < 2 ^ n - 1
      · rw [if_pos small] at integer
        cases integer
        omega
      · rw [if_neg small] at integer
        cases split : splitRest tail with
        | none => rw [split] at integer; cases integer
        | some parts =>
            obtain ⟨rest, r'⟩ := parts
            rw [split] at integer
            cases integer
            obtain ⟨rfl, cont⟩ := splitRest_some split
            rw [List.length_cons, List.length_append] at few
            have bound : contValue rest < 128 ^ 6 :=
              Nat.lt_of_lt_of_le (contValue_lt rest) (Nat.pow_le_pow_right (by omega) (by omega))
            omega

/-- Integers are exact on a 64-bit target.  On a 32-bit one they are exactly on octets whose
integer fits, or which are too many. -/
theorem exactOn_iff (target : w = 32 ∨ w = 64) (high : n ≤ 8) (octets : Bytes) :
    ExactOn w n octets ↔ w = 64 ∨ Within32 n octets := by
  rcases target with rfl | rfl
  · constructor
    · intro exact
      refine .inr fun v r integer => ?_
      rcases readInteger_cases (w := 32) high (by omega) integer with
        ⟨small, -⟩ | ⟨large, -, wrapped, below, read⟩ | ⟨long, -⟩
      · exact .inl small
      · have same := exact.reads wrapped r read
        rw [integer, Option.some.injEq, Prod.mk.injEq] at same
        omega
      · exact .inr long
    · rintro (wide | within)
      · cases wide
      · exact exactOn_of_fits high (by omega) within
  · refine iff_of_true (exactOn_of_fits high (by omega) fun v r integer => ?_) (.inl rfl)
    rcases Nat.lt_or_ge (r.length + 7) octets.length with long | few
    · exact .inr long
    · exact .inl (rfcInteger_lt high integer few)

/-- A length of one continuation octet is read on a 32-bit target. -/
theorem exactOn_iff_short : ExactOn 32 7 [0x7f, 0x0a] :=
  (exactOn_iff (.inl rfl) (by decide) _).mpr (.inr fun v r integer => by
    cases integer
    exact .inl (by decide))

/-- The octets of `2^32 + 127` are read as 127. -/
theorem not_exactOn_wrapped : ¬ ExactOn 32 7 [0x7f, 0x80, 0x80, 0x80, 0x80, 0x10] := by
  intro exact
  have read : readInteger 32 [0x7f, 0x80, 0x80, 0x80, 0x80, 0x10] 7 = .ok (127, []) := by
    decide +kernel
  have represented : rfcInteger 7 [0x7f, 0x80, 0x80, 0x80, 0x80, 0x10] = some (2 ^ 32 + 127, []) := by
    decide +kernel
  have same := exact.reads _ _ read
  rw [represented, Option.some.injEq, Prod.mk.injEq] at same
  omega

end H2ts.Hpack
