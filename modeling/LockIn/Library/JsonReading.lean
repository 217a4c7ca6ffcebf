import LockIn.Library.Json
import LockIn.Library.Rules
import Mathlib

/-!
# What Python reads of what JavaScript writes

A value that was written as JSON in one language is read in the other.  A number that is whole and
below the limit is written without a fraction or an exponent, and such a number is read as an
integer.  A text is read code point by code point.
-/

namespace JsonReading

open JsonText (Plain PlainItems PlainMembers)
open List
open Script (Value)
open Utf16 (Text codePoints isHigh isLow ofString ofChar)

def ofPoint (point : Nat) : Text :=
  if point < 0x10000 then [point.toUInt16]
  else [(0xD800 + (point - 0x10000) / 0x400).toUInt16, (0xDC00 + (point - 0x10000) % 0x400).toUInt16]

/-- The characters of a text; a surrogate without its partner, for which there is none here, is
told apart from no other one. -/
def decoded (text : Text) : List Char := (codePoints text).map Char.ofNat

def exponentLimit : ℚ := 10 ^ 21

def readNumber (value : ℚ) : Json :=
  if value.den = 1 ∧ |value| < exponentLimit then .int value.num else .float value

mutual

def read : Value → Json
  | .undefined | .null => .null
  | .bool value => .bool value
  | .number (.finite value) => readNumber value
  | .number _ => .null
  | .string text => .str (decoded text)
  | .array items => .arr (readItems items)
  | .object members => .obj (readMembers members)

def readItems : List Value → List Json
  | [] => []
  | item :: rest => read item :: readItems rest

def readMembers : List (Text × Value) → List (String × Json)
  | [] => []
  | (_, .undefined) :: rest => readMembers rest
  | (name, value) :: rest => (String.ofList (decoded name), read value) :: readMembers rest

end

theorem toUInt16_toNat (unit : UInt16) : unit.toNat.toUInt16 = unit := UInt16.ofNat_toNat

theorem ofPoint_unit (unit : UInt16) : ofPoint unit.toNat = [unit] := by
  rw [ofPoint, if_pos unit.toNat_lt, toUInt16_toNat]

theorem ofPoint_codePoints (text : Text) : (codePoints text).flatMap ofPoint = text := by
  fun_induction codePoints text with
  | case1 => rfl
  | case2 unit => simp [ofPoint_unit]
  | case3 high low rest hpair ih =>
    obtain ⟨hhigh, hlow⟩ := hpair
    simp only [isHigh, isLow, Bool.and_eq_true, decide_eq_true_eq, UInt16.le_iff_toNat_le,
      UInt16.lt_iff_toNat_lt, UInt16.reduceToNat] at hhigh hlow
    have hpoint : ofPoint (0x10000 + (high.toNat - 0xD800) * 0x400 + (low.toNat - 0xDC00)) =
        [high, low] := by
      rw [ofPoint, if_neg (by omega)]
      have hfirst : 0xD800 + (0x10000 + (high.toNat - 0xD800) * 0x400 + (low.toNat - 0xDC00) -
          0x10000) / 0x400 = high.toNat := by omega
      have hsecond : 0xDC00 + (0x10000 + (high.toNat - 0xD800) * 0x400 + (low.toNat - 0xDC00) -
          0x10000) % 0x400 = low.toNat := by omega
      rw [hfirst, hsecond, toUInt16_toNat, toUInt16_toNat]
    rw [flatMap_cons, hpoint, ih]
    rfl
  | case4 high low rest _ ih =>
    rw [flatMap_cons, ofPoint_unit, ih]
    rfl

theorem decoded_ofString (name : String) : decoded (ofString name) = name.toList := by
  rw [decoded, Utf16.codePoints_ofString, map_map]
  refine (map_congr_left fun char _ => ?_).trans (map_id _)
  exact Char.ofNat_toNat char

theorem toNat_ofNat {point : Nat} (h : (Char.ofNat point).toNat ≠ 0) :
    (Char.ofNat point).toNat = point := by
  unfold Char.ofNat at h ⊢
  split_ifs at h ⊢ with hvalid
  · rfl
  · exact absurd rfl h

theorem decoded_eq_iff {text : Text} {name : String} (hname : ∀ char ∈ name.toList, char.toNat ≠ 0) :
    decoded text = name.toList ↔ text = ofString name := by
  constructor
  · intro h
    have hpoints : codePoints text = name.toList.map Char.toNat := by
      rw [← h, decoded, map_map]
      refine ((map_congr_left fun point hpoint => ?_).trans (map_id _)).symm
      exact toNat_ofNat (hname _ (h ▸ mem_map_of_mem hpoint))
    rw [← ofPoint_codePoints text, hpoints, flatMap_map]
    rfl
  · rintro rfl
    exact decoded_ofString name

theorem readItems_eq_map (items : List Value) : readItems items = items.map read := by
  induction items with
  | nil => rfl
  | cons item rest ih => rw [readItems, ih, map_cons]

theorem readMembers_cons {value : Value} (h : value.isDefined = true) (name : Text)
    (rest : List (Text × Value)) :
    readMembers ((name, value) :: rest) =
      (String.ofList (decoded name), read value) :: readMembers rest := by
  cases value with
  | undefined => cases h
  | _ => rfl

theorem getD_readMembers {name : String} (hname : ∀ char ∈ name.toList, char.toNat ≠ 0)
    {members : List (Text × Value)} (h : PlainMembers members) :
    Json.getD (readMembers members) name = read ((Value.object members).get name) := by
  induction members with
  | nil => rfl
  | cons member rest ih =>
    obtain ⟨key, value⟩ := member
    obtain ⟨hvalue, hrest⟩ := h
    have hsame : name = String.ofList (decoded key) ↔ key = ofString name := by
      rw [← decoded_eq_iff hname, ← String.toList_inj, String.toList_ofList, eq_comm]
    rw [readMembers_cons (JsonText.plain_isDefined hvalue)]
    unfold Json.getD at ih ⊢
    simp only [Value.get, Dictionary.get, Table.find] at ih ⊢
    rw [lookup_cons, find?_cons]
    by_cases hkey : key = ofString name
    · rw [← hsame.2 hkey]
      simp [hkey]
    · have hother : ¬name = String.ofList (decoded key) := fun heq => hkey (hsame.1 heq)
      simp only [beq_eq_false_iff_ne.2 hother]
      split
      · rename_i hbeq
        exact absurd (eq_of_beq hbeq) hkey
      · exact ih hrest

theorem read_record (fields : List (String × Value)) :
    read (.record fields) =
      .obj ((fields.filter fun field => field.2.isDefined).map fun field =>
        (field.1, read field.2)) := by
  unfold Value.record
  rw [read]
  congr 1
  induction fields with
  | nil => rfl
  | cons field rest ih =>
    rw [filter_cons]
    split_ifs with hdefined
    · rw [map_cons, map_cons, readMembers_cons hdefined, decoded_ofString,
        String.ofList_toList, ih]
    · exact ih

end JsonReading
