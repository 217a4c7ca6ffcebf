import Mathlib.Data.List.DropRight
import Mathlib.Tactic

/-!
# Text as UTF-16 code units

Code points that take one unit stand for themselves; a high surrogate followed by a low one
is one code point.  A surrogate without its partner is kept as a code point of its own, which
no byte encoding of Unicode has a form for.
-/

namespace Utf16

open List

abbrev Text : Type := List UInt16

def ofChars (characters : List Char) : Text :=
  characters.map fun character => character.toNat.toUInt16

def isHigh (unit : UInt16) : Bool := 0xD800 ≤ unit && unit < 0xDC00

def isLow (unit : UInt16) : Bool := 0xDC00 ≤ unit && unit < 0xE000

def codePoints : Text → List Nat
  | [] => []
  | [unit] => [unit.toNat]
  | high :: low :: rest =>
    if isHigh high ∧ isLow low then
      (0x10000 + (high.toNat - 0xD800) * 0x400 + (low.toNat - 0xDC00)) :: codePoints rest
    else high.toNat :: codePoints (low :: rest)

theorem codePoints_length_le (text : Text) : (codePoints text).length ≤ text.length := by
  fun_induction codePoints text with
  | case1 => simp
  | case2 unit => simp
  | case3 high low rest _ ih =>
    simp only [length_cons]
    omega
  | case4 high low rest _ ih =>
    simp only [length_cons] at ih ⊢
    omega

/-- The units of a character: a surrogate pair for one above the first plane. -/
def ofChar (character : Char) : Text :=
  if character.toNat < 0x10000 then [character.toNat.toUInt16]
  else [(0xD800 + (character.toNat - 0x10000) / 0x400).toUInt16,
    (0xDC00 + (character.toNat - 0x10000) % 0x400).toUInt16]

def ofString (text : String) : Text := text.toList.flatMap ofChar

theorem codePoints_ofChar (character : Char) (text : Text) :
    codePoints (ofChar character ++ text) = character.toNat :: codePoints text := by
  have hrange : character.toNat < 0xD800 ∨
      (0xDFFF < character.toNat ∧ character.toNat < 0x110000) := character.valid
  unfold ofChar
  by_cases hplane : character.toNat < 0x10000
  · rw [if_pos hplane]
    have hunit : character.toNat.toUInt16.toNat = character.toNat := by
      rw [Nat.toUInt16_eq, UInt16.toNat_ofNat']
      omega
    cases text with
    | nil => simp [codePoints, hunit]
    | cons next rest =>
      have hhigh : isHigh character.toNat.toUInt16 = false := by
        unfold isHigh
        simp only [Bool.and_eq_false_iff, decide_eq_false_iff_not, UInt16.le_iff_toNat_le,
          UInt16.lt_iff_toNat_lt, hunit, UInt16.reduceToNat]
        omega
      simp [codePoints, hhigh, hunit]
  · rw [if_neg hplane]
    have hlow : (0xDC00 + (character.toNat - 0x10000) % 0x400).toUInt16.toNat =
        0xDC00 + (character.toNat - 0x10000) % 0x400 := by
      rw [Nat.toUInt16_eq, UInt16.toNat_ofNat']
      omega
    have hhigh : (0xD800 + (character.toNat - 0x10000) / 0x400).toUInt16.toNat =
        0xD800 + (character.toNat - 0x10000) / 0x400 := by
      rw [Nat.toUInt16_eq, UInt16.toNat_ofNat']
      omega
    have hpair : isHigh (0xD800 + (character.toNat - 0x10000) / 0x400).toUInt16 ∧
        isLow (0xDC00 + (character.toNat - 0x10000) % 0x400).toUInt16 := by
      unfold isHigh isLow
      simp only [Bool.and_eq_true, decide_eq_true_eq, UInt16.le_iff_toNat_le,
        UInt16.lt_iff_toNat_lt, hlow, hhigh, UInt16.reduceToNat]
      omega
    have hpoint : 0x10000 + (0xD800 + (character.toNat - 0x10000) / 0x400 - 0xD800) * 0x400 +
        (0xDC00 + (character.toNat - 0x10000) % 0x400 - 0xDC00) = character.toNat := by omega
    rw [cons_append, cons_append, nil_append, codePoints, if_pos hpair, hlow, hhigh,
      hpoint]

theorem codePoints_ofString (text : String) :
    codePoints (ofString text) = text.toList.map Char.toNat := by
  unfold ofString
  induction text.toList with
  | nil => rfl
  | cons character rest ih => rw [flatMap_cons, codePoints_ofChar, ih, map_cons]

/-- Texts of the same units are the same. -/
theorem ofString_injective : Function.Injective ofString := by
  intro first second h
  have hpoints := congrArg codePoints h
  rw [codePoints_ofString, codePoints_ofString] at hpoints
  apply String.toList_injective
  apply map_injective_iff.mpr _ hpoints
  intro a b hsame
  exact Char.ext (UInt32.toNat_inj.mp hsame)

def isSurrogate (point : Nat) : Bool := 0xD800 ≤ point && point < 0xE000

def IsWellFormed (text : Text) : Prop := ∀ point ∈ codePoints text, isSurrogate point = false

instance (text : Text) : Decidable (IsWellFormed text) := by
  unfold IsWellFormed
  infer_instance

def lower (text : Text) : Text :=
  text.map fun unit => if 0x41 ≤ unit ∧ unit ≤ 0x5A then unit + 0x20 else unit

@[simp]
theorem length_lower (text : Text) : (lower text).length = text.length := by
  simp [lower]

section
variable (space : UInt16 → Bool)

def trimBy (text : Text) : Text := (text.dropWhile space).rdropWhile space

variable {space} {text : Text}

theorem trimBy_sublist : List.Sublist (trimBy space text) text :=
  ( rdropWhile_prefix space _).sublist.trans (dropWhile_suffix space).sublist

theorem trimBy_length_le : (trimBy space text).length ≤ text.length :=
  trimBy_sublist.length_le

theorem trimBy_eq_of_length (h : text.length ≤ (trimBy space text).length) :
    trimBy space text = text :=
  trimBy_sublist.eq_of_length (le_antisymm trimBy_length_le h)

/-- What trimming and cutting leaves unchanged, trimming leaves unchanged. -/
theorem trimBy_of_take {limit : Nat} (h : (trimBy space text).take limit = text) :
    trimBy space text = text := by
  apply trimBy_eq_of_length
  calc text.length = ((trimBy space text).take limit).length := by rw [h]
    _ ≤ (trimBy space text).length := length_take_le' limit _

theorem trimBy_trimBy_ne {other : UInt16 → Bool} (h : trimBy other text ≠ text) :
    trimBy space (trimBy other text) ≠ text := by
  intro heq
  apply h
  apply trimBy_eq_of_length
  calc text.length = (trimBy space (trimBy other text)).length := by rw [heq]
    _ ≤ (trimBy other text).length := trimBy_length_le

end

end Utf16
