import Mathlib.Data.List.DropRight
import H2ts.Lib.Utf8

/-!
# Text as bytes

The comparisons and the trimming of two languages on strings that are byte lists.  Rust
folds the case of ASCII letters and leaves all other bytes alone.  Go decodes runes, every
byte that starts none being U+FFFD, and folds them as Unicode does.

The table of the simple case foldings is a parameter (`Folding`), of which only the ASCII
part is known.  On ASCII text the two agree (`equalFold_ascii`, `trimSpace_ascii`).
-/

namespace Runes

open Utf8

abbrev Text := List UInt8

/-- All its bytes are below 128. -/
def IsAscii (s : Text) : Prop := ∀ b ∈ s, b < 128

instance (s : Text) : Decidable (IsAscii s) := inferInstanceAs (Decidable (∀ b ∈ s, b < 128))

/-- What can be decided for the 256 bytes. -/
theorem forall_byte {P : UInt8 → Prop} (all : ∀ n : Fin 256, P ⟨⟨n⟩⟩) (b : UInt8) : P b :=
  all b.toBitVec.toFin

/-! ## ASCII -/

def toAsciiLowercase (b : UInt8) : UInt8 := if 65 ≤ b ∧ b ≤ 90 then b + 32 else b

def eqIgnoreAsciiCase (s t : Text) : Bool := s.map toAsciiLowercase == t.map toAsciiLowercase

def isAsciiWhitespace (b : UInt8) : Bool := (9 ≤ b && b ≤ 13) || b == 32

/-- `str::trim` on ASCII text. -/
def trim (s : Text) : Text := (s.dropWhile isAsciiWhitespace).rdropWhile isAsciiWhitespace

theorem eqIgnoreAsciiCase_iff {s t : Text} :
    eqIgnoreAsciiCase s t = true ↔ s.map toAsciiLowercase = t.map toAsciiLowercase :=
  beq_iff_eq

theorem toAsciiLowercase_lt (b : UInt8) : toAsciiLowercase b < 128 ↔ b < 128 :=
  forall_byte (P := fun b => toAsciiLowercase b < 128 ↔ b < 128) (by decide +kernel) b

/-- What equals ASCII text up to case is ASCII text. -/
theorem IsAscii.of_eqIgnoreAsciiCase {s t : Text} (ascii : IsAscii s)
    (same : eqIgnoreAsciiCase s t = true) : IsAscii t := by
  intro b mem
  have lower : toAsciiLowercase b ∈ s.map toAsciiLowercase := by
    rw [eqIgnoreAsciiCase_iff.mp same]
    exact List.mem_map_of_mem mem
  obtain ⟨a, mem, fold⟩ := List.mem_map.mp lower
  rw [← toAsciiLowercase_lt, ← fold, toAsciiLowercase_lt]
  exact ascii a mem

/-! ## Runes -/

/-- The rune at the head and its width in bytes. -/
def decodeRune (s : Text) : Char × Nat :=
  match headChar s with
  | some c => (c, c.utf8Size)
  | none => ('\uFFFD', 1)

/-- The runes of a text with the bytes that spell them, at most `fuel` of them. -/
def spelledRunes : Nat → Text → List (Char × Text)
  | 0, _ => []
  | _ + 1, [] => []
  | fuel + 1, b :: s =>
      let (c, width) := decodeRune (b :: s)
      (c, (b :: s).take width) :: spelledRunes fuel ((b :: s).drop width)

def spelled (s : Text) : List (Char × Text) := spelledRunes s.length s

def runes (s : Text) : List Char := (spelled s).map Prod.fst

/-- `unicode.IsSpace` -/
def isSpace (c : Char) : Bool :=
  (9 ≤ c.toNat && c.toNat ≤ 13) || c.toNat == 0x20 || c.toNat == 0x85 || c.toNat == 0xA0 ||
    c.toNat == 0x1680 || (0x2000 ≤ c.toNat && c.toNat ≤ 0x200A) || c.toNat == 0x2028 ||
    c.toNat == 0x2029 || c.toNat == 0x202F || c.toNat == 0x205F || c.toNat == 0x3000

/-- `strings.TrimSpace` -/
def trimSpace (s : Text) : Text :=
  (((spelled s).dropWhile (isSpace ·.1)).rdropWhile (isSpace ·.1)).flatMap Prod.snd

/-- The rune of an ASCII byte. -/
def ofByte (b : UInt8) : Char := Char.ofNat b.toNat

/-- A rune for each class of runes that are equal under simple case folding. -/
structure Folding where
  fold : Char → Char
  ascii : ∀ a b : UInt8, a < 128 → b < 128 →
    (fold (ofByte a) = fold (ofByte b) ↔ toAsciiLowercase a = toAsciiLowercase b)

/-- The classes of the ASCII letters, with the Kelvin sign and the long s; every other rune
is alone in its class. -/
def latinFold (c : Char) : Char :=
  if c = '\u212A' then 'k' else if c = '\u017F' then 's' else c.toLower

theorem latinFold_ofByte (b : UInt8) : b < 128 → latinFold (ofByte b) = ofByte (toAsciiLowercase b) :=
  forall_byte (P := fun b => b < 128 → latinFold (ofByte b) = ofByte (toAsciiLowercase b))
    (by decide +kernel) b

theorem toNat_ofByte (b : UInt8) : (ofByte b).toNat = b.toNat :=
  forall_byte (P := fun b => (ofByte b).toNat = b.toNat) (by decide +kernel) b

theorem ofByte_inj {a b : UInt8} : ofByte a = ofByte b ↔ a = b := by
  constructor
  · intro same
    rw [← UInt8.toNat_inj, ← toNat_ofByte, ← toNat_ofByte, same]
  · rintro rfl
    rfl

def Folding.latin : Folding where
  fold := latinFold
  ascii a b small small' := by rw [latinFold_ofByte a small, latinFold_ofByte b small', ofByte_inj]

/-- `strings.EqualFold` -/
def equalFold (F : Folding) (s t : Text) : Bool := (runes s).map F.fold == (runes t).map F.fold

/-! ## Runes of ASCII text -/

theorem utf8EncodeChar_ofByte (b : UInt8) : b < 128 → String.utf8EncodeChar (ofByte b) = [b] :=
  forall_byte (P := fun b => b < 128 → String.utf8EncodeChar (ofByte b) = [b]) (by decide +kernel) b

theorem utf8Size_ofByte {b : UInt8} (ascii : b < 128) : (ofByte b).utf8Size = 1 := by
  rw [← String.length_utf8EncodeChar, utf8EncodeChar_ofByte b ascii]
  rfl

theorem isSpace_ofByte (b : UInt8) : b < 128 → isSpace (ofByte b) = isAsciiWhitespace b :=
  forall_byte (P := fun b => b < 128 → isSpace (ofByte b) = isAsciiWhitespace b)
    (by decide +kernel) b

theorem decodeRune_ascii {b : UInt8} (ascii : b < 128) (s : Text) :
    decodeRune (b :: s) = (ofByte b, 1) := by
  have head := headChar_encode (ofByte b) s
  rw [utf8EncodeChar_ofByte b ascii] at head
  rw [decodeRune, show b :: s = [b] ++ s from rfl, head]
  exact congrArg _ (utf8Size_ofByte ascii)

theorem spelled_ascii {s : Text} (ascii : IsAscii s) : spelled s = s.map fun b => (ofByte b, [b]) := by
  unfold spelled
  induction s with
  | nil => rfl
  | cons b s ih =>
      have small := ascii b (.head _)
      rw [List.length_cons, spelledRunes, decodeRune_ascii small]
      exact congrArg _ (ih fun a mem => ascii a (.tail _ mem))

theorem runes_ascii {s : Text} (ascii : IsAscii s) : runes s = s.map ofByte := by
  rw [runes, spelled_ascii ascii, List.map_map]
  rfl

/-- On ASCII text the case foldings agree. -/
theorem equalFold_ascii (F : Folding) {s t : Text} (first : IsAscii s) (second : IsAscii t) :
    equalFold F s t = eqIgnoreAsciiCase s t := by
  rw [equalFold, runes_ascii first, runes_ascii second, eqIgnoreAsciiCase, Bool.eq_iff_iff,
    beq_iff_eq, beq_iff_eq]
  induction s generalizing t with
  | nil => cases t <;> simp
  | cons a s ih =>
      cases t with
      | nil => simp
      | cons b t =>
          have same := F.ascii a b (first a (.head _)) (second b (.head _))
          have later := ih (fun a mem => first a (.tail _ mem)) fun b mem => second b (.tail _ mem)
          simp only [List.map_cons, List.cons.injEq, same, later]

theorem IsAscii.dropWhile {s : Text} (ascii : IsAscii s) (p : UInt8 → Bool) :
    IsAscii (s.dropWhile p) :=
  fun b mem => ascii b ((List.dropWhile_sublist p).subset mem)

theorem IsAscii.trim {s : Text} (ascii : IsAscii s) : IsAscii (trim s) :=
  fun b mem => ascii.dropWhile _ b ((List.rdropWhile_prefix _ _).subset mem)

/-- On ASCII text the trimmings agree. -/
theorem trimSpace_ascii {s : Text} (ascii : IsAscii s) : trimSpace s = trim s := by
  have space : ∀ s : Text, IsAscii s →
      (s.map fun b => (ofByte b, [b])).dropWhile (isSpace ·.1) =
        (s.dropWhile isAsciiWhitespace).map fun b => (ofByte b, [b]) := by
    intro s ascii
    induction s with
    | nil => rfl
    | cons b s ih =>
        have later := ih fun a mem => ascii a (.tail _ mem)
        have small := isSpace_ofByte b (ascii b (.head _))
        cases white : isAsciiWhitespace b with
        | true => simpa [small, white] using later
        | false => simp [small, white]
  have back : IsAscii (s.dropWhile isAsciiWhitespace).reverse :=
    fun b mem => ascii.dropWhile _ b (List.mem_reverse.mp mem)
  rw [trimSpace, spelled_ascii ascii, space s ascii, List.rdropWhile, ← List.map_reverse,
    space _ back, ← List.map_reverse, List.flatMap_map, trim, List.rdropWhile]
  exact List.flatMap_singleton' _

end Runes
