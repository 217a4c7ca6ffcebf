import LockIn.Library.Script

/-!
# The text of JSON

`JSON.stringify` and `JSON.parse` of JavaScript on plain data.  The reader takes any text, with
blanks between its tokens and with every escape, and gives back each value that the writer wrote,
except for what JSON has no form for: undefined values and numbers that are not finite.
-/

namespace JsonText

open Script (Value Engine isNumeralUnit)
open List
open Utf16 (Text isHigh isLow)

def hexUnit (digit : Nat) : UInt16 := (if digit < 10 then 0x30 + digit else 0x57 + digit).toUInt16

def hexValue (unit : UInt16) : Option Nat :=
  if 0x30 ≤ unit ∧ unit ≤ 0x39 then some (unit.toNat - 0x30)
  else if 0x61 ≤ unit ∧ unit ≤ 0x66 then some (unit.toNat - 0x57)
  else if 0x41 ≤ unit ∧ unit ≤ 0x46 then some (unit.toNat - 0x37)
  else none

/-- `\uXXXX`. -/
def hexEscape (unit : UInt16) : Text :=
  [0x5C, 0x75, hexUnit (unit.toNat / 4096), hexUnit (unit.toNat / 256 % 16),
    hexUnit (unit.toNat / 16 % 16), hexUnit (unit.toNat % 16)]

def escapeUnit (unit : UInt16) : Text :=
  if unit = 0x08 then [0x5C, 0x62]
  else if unit = 0x09 then [0x5C, 0x74]
  else if unit = 0x0A then [0x5C, 0x6E]
  else if unit = 0x0C then [0x5C, 0x66]
  else if unit = 0x0D then [0x5C, 0x72]
  else if unit = 0x22 ∨ unit = 0x5C then [0x5C, unit]
  else if unit < 0x20 ∨ isHigh unit ∨ isLow unit then hexEscape unit
  else [unit]

def escaped : Text → Text
  | [] => []
  | [unit] => escapeUnit unit
  | high :: low :: rest =>
    if isHigh high ∧ isLow low then high :: low :: escaped rest
    else escapeUnit high ++ escaped (low :: rest)

def quoted (text : Text) : Text := 0x22 :: escaped text ++ [0x22]

def unescape (unit : UInt16) : Option UInt16 :=
  if unit = 0x62 then some 0x08
  else if unit = 0x74 then some 0x09
  else if unit = 0x6E then some 0x0A
  else if unit = 0x66 then some 0x0C
  else if unit = 0x72 then some 0x0D
  else if unit = 0x22 ∨ unit = 0x5C ∨ unit = 0x2F then some unit
  else none

/-- The unit of four digits in base sixteen. -/
def unhex (first second third fourth : UInt16) : Option UInt16 := do
  let first ← hexValue first
  let second ← hexValue second
  let third ← hexValue third
  let fourth ← hexValue fourth
  return (((first * 16 + second) * 16 + third) * 16 + fourth).toUInt16

def readString : Text → Option (Text × Text)
  | [] => none
  | unit :: rest =>
    if unit = 0x22 then some ([], rest)
    else if unit < 0x20 then none
    else if unit = 0x5C then
      match rest with
      | [] => none
      | mark :: rest =>
        if mark = 0x75 then
          match rest with
          | first :: second :: third :: fourth :: rest => do
            let unit ← unhex first second third fourth
            let (text, rest) ← readString rest
            return (unit :: text, rest)
          | _ => none
        else do
          let unit ← unescape mark
          let (text, rest) ← readString rest
          return (unit :: text, rest)
    else do
      let (text, rest) ← readString rest
      return (unit :: text, rest)

theorem hexValue_hexUnit : ∀ digit < 16, hexValue (hexUnit digit) = some digit := by decide

theorem unhex_digits (unit : UInt16) :
    unhex (hexUnit (unit.toNat / 4096)) (hexUnit (unit.toNat / 256 % 16))
      (hexUnit (unit.toNat / 16 % 16)) (hexUnit (unit.toNat % 16)) = some unit := by
  have hsize := unit.toNat_lt
  unfold unhex
  rw [hexValue_hexUnit _ (by omega), hexValue_hexUnit _ (by omega), hexValue_hexUnit _ (by omega),
    hexValue_hexUnit _ (by omega)]
  have hunit : ((unit.toNat / 4096 * 16 + unit.toNat / 256 % 16) * 16 + unit.toNat / 16 % 16) * 16 +
      unit.toNat % 16 = unit.toNat := by omega
  show some ((((unit.toNat / 4096 * 16 + unit.toNat / 256 % 16) * 16 + unit.toNat / 16 % 16) * 16 +
      unit.toNat % 16).toUInt16) = some unit
  rw [hunit, Nat.toUInt16_eq, UInt16.ofNat_toNat]

def prepend (unit : UInt16) (found : Option (Text × Text)) : Option (Text × Text) :=
  found.map fun found => (unit :: found.1, found.2)

theorem readString_quote (rest : Text) : readString (0x22 :: rest) = some ([], rest) := by
  rw [readString.eq_def]
  rfl

theorem readString_plain {unit : UInt16} (rest : Text) (hquote : unit ≠ 0x22)
    (hcontrol : ¬unit < 0x20) (hslash : unit ≠ 0x5C) :
    readString (unit :: rest) = prepend unit (readString rest) := by
  rw [readString.eq_def]
  simp only [if_neg hquote, if_neg hcontrol, if_neg hslash]
  cases readString rest <;> rfl

theorem readString_mark {mark unit : UInt16} (rest : Text) (hmark : mark ≠ 0x75)
    (hunit : unescape mark = some unit) :
    readString (0x5C :: mark :: rest) = prepend unit (readString rest) := by
  rw [readString.eq_def]
  simp only [if_neg (by decide : ¬(0x5C : UInt16) = 0x22),
    if_neg (by decide : ¬(0x5C : UInt16) < 0x20), if_true, if_neg hmark, hunit]
  cases readString rest <;> rfl

theorem readString_hex (unit : UInt16) (rest : Text) :
    readString (hexEscape unit ++ rest) = prepend unit (readString rest) := by
  show readString (0x5C :: 0x75 :: hexUnit (unit.toNat / 4096) :: hexUnit (unit.toNat / 256 % 16) ::
    hexUnit (unit.toNat / 16 % 16) :: hexUnit (unit.toNat % 16) :: rest) = _
  rw [readString.eq_def]
  simp only [if_neg (by decide : ¬(0x5C : UInt16) = 0x22),
    if_neg (by decide : ¬(0x5C : UInt16) < 0x20), if_true, unhex_digits]
  cases readString rest <;> rfl

theorem readString_escapeUnit (unit : UInt16) (rest : Text) :
    readString (escapeUnit unit ++ rest) = prepend unit (readString rest) := by
  unfold escapeUnit
  split_ifs with hb ht hn hf hr hself hhex
  · rw [hb]
    exact readString_mark rest (by decide) rfl
  · rw [ht]
    exact readString_mark rest (by decide) rfl
  · rw [hn]
    exact readString_mark rest (by decide) rfl
  · rw [hf]
    exact readString_mark rest (by decide) rfl
  · rw [hr]
    exact readString_mark rest (by decide) rfl
  · rcases hself with rfl | rfl
    · exact readString_mark rest (by decide) rfl
    · exact readString_mark rest (by decide) rfl
  · exact readString_hex unit rest
  · rw [not_or] at hself hhex
    exact readString_plain rest hself.1 hhex.1 hself.2

theorem readString_escaped (text rest : Text) :
    readString (escaped text ++ 0x22 :: rest) = some (text, rest) := by
  have hplain {unit : UInt16} (h : 0x80 ≤ unit) (rest : Text) :
      readString (unit :: rest) = prepend unit (readString rest) := by
    rw [UInt16.le_iff_toNat_le] at h
    have hunit (other : UInt16) (hother : other.toNat < 0x80) : unit ≠ other := by
      rintro rfl
      exact absurd hother (not_lt.mpr h)
    refine readString_plain rest (hunit _ (by decide)) ?_ (hunit _ (by decide))
    rw [UInt16.lt_iff_toNat_lt]
    exact not_lt.mpr (le_trans (by decide) h)
  fun_induction escaped text with
  | case1 => exact readString_quote rest
  | case2 unit =>
    rw [readString_escapeUnit, readString_quote]
    rfl
  | case3 high low rest' hpair ih =>
    have hhigh : 0x80 ≤ high := by
      have h := hpair.1
      unfold isHigh at h
      rw [Bool.and_eq_true, decide_eq_true_eq] at h
      exact UInt16.le_trans (by decide : (0x80 : UInt16) ≤ 0xD800) h.1
    have hlow : 0x80 ≤ low := by
      have h := hpair.2
      unfold isLow at h
      rw [Bool.and_eq_true, decide_eq_true_eq] at h
      exact UInt16.le_trans (by decide : (0x80 : UInt16) ≤ 0xDC00) h.1
    rw [cons_append, cons_append, hplain hhigh, hplain hlow, ih]
    rfl
  | case4 high low rest' _ ih =>
    rw [append_assoc, readString_escapeUnit, ih]
    rfl

section
variable (engine : Engine)

mutual

def write : Value → Text
  | .undefined | .null => Utf16.ofString "null"
  | .bool true => Utf16.ofString "true"
  | .bool false => Utf16.ofString "false"
  | .number (.finite value) => engine.numeral value
  | .number _ => Utf16.ofString "null"
  | .string text => quoted text
  | .array items => 0x5B :: [0x2C].intercalate (writeItems items) ++ [0x5D]
  | .object members => 0x7B :: [0x2C].intercalate (writeMembers members) ++ [0x7D]

def writeItems : List Value → List Text
  | [] => []
  | item :: rest => write item :: writeItems rest

def writeMembers : List (Text × Value) → List Text
  | [] => []
  | (_, .undefined) :: rest => writeMembers rest
  | (name, value) :: rest => (quoted name ++ 0x3A :: write value) :: writeMembers rest

end

def isBlank (unit : UInt16) : Bool := unit ∈ [0x20, 0x09, 0x0A, 0x0D]

def skip (text : Text) : Text := text.dropWhile isBlank

def after (token : UInt16) (text : Text) : Option Text :=
  match skip text with
  | [] => none
  | unit :: rest => if unit = token then some rest else none

def dropWord (word : String) (text : Text) : Option Text :=
  if (Utf16.ofString word).isPrefixOf text then some (text.drop (Utf16.ofString word).length)
  else none

def readWord (text : Text) : Option (Value × Text) :=
  match dropWord "null" text with
  | some rest => some (.null, rest)
  | none =>
    match dropWord "true" text with
    | some rest => some (.bool true, rest)
    | none =>
      match dropWord "false" text with
      | some rest => some (.bool false, rest)
      | none => (engine.jsonNumber (text.takeWhile isNumeralUnit)).map fun value =>
          (.number value, text.dropWhile isNumeralUnit)

mutual

def readValue : Nat → Text → Option (Value × Text)
  | 0, _ => none
  | fuel + 1, text =>
    match after 0x7B text with
    | some rest =>
      match after 0x7D rest with
      | some rest => some (.object [], rest)
      | none => readMembers fuel [] rest
    | none =>
      match after 0x5B text with
      | some rest =>
        match after 0x5D rest with
        | some rest => some (.array [], rest)
        | none => (readItems fuel rest).map fun found => (.array found.1, found.2)
      | none =>
        match after 0x22 text with
        | some rest => (readString rest).map fun found => (.string found.1, found.2)
        | none => readWord engine (skip text)

def readItems : Nat → Text → Option (List Value × Text)
  | 0, _ => none
  | fuel + 1, text =>
    match readValue fuel text with
    | none => none
    | some (item, rest) =>
      match after 0x2C rest with
      | some rest => (readItems fuel rest).map fun found => (item :: found.1, found.2)
      | none => (after 0x5D rest).map fun rest => ([item], rest)

/-- The rest of an object, from its next member: of two under one name the last counts. -/
def readMembers : Nat → List (Text × Value) → Text → Option (Value × Text)
  | 0, _, _ => none
  | fuel + 1, members, text =>
    match (after 0x22 text).bind readString with
    | none => none
    | some (name, rest) =>
      match (after 0x3A rest).bind (readValue fuel) with
      | none => none
      | some (value, rest) =>
        match after 0x2C rest with
        | some rest => readMembers fuel (Dictionary.set members name value) rest
        | none => (after 0x7D rest).map fun rest =>
            (.object (Dictionary.set members name value), rest)

end

def parse (text : Text) : Option Value :=
  match readValue engine (text.length + 1) text with
  | none => none
  | some (value, rest) => if skip rest = [] then some value else none

end

mutual

def Plain : Value → Prop
  | .undefined => False
  | .number value => ∃ exact, value = .finite exact
  | .array items => PlainItems items
  | .object members => (Dictionary.keys members).Nodup ∧ PlainMembers members
  | _ => True

def PlainItems : List Value → Prop
  | [] => True
  | item :: rest => Plain item ∧ PlainItems rest

def PlainMembers : List (Text × Value) → Prop
  | [] => True
  | (_, value) :: rest => Plain value ∧ PlainMembers rest

end

mutual

def cost : Value → Nat
  | .array items => itemsCost items + 1
  | .object members => membersCost members + 1
  | _ => 1

def itemsCost : List Value → Nat
  | [] => 0
  | item :: rest => cost item + itemsCost rest + 1

def membersCost : List (Text × Value) → Nat
  | [] => 0
  | (_, value) :: rest => cost value + membersCost rest + 1

end

section
variable {engine : Engine} {token unit : UInt16} {value : Value} {rest : Text}

theorem after_token (h : isBlank token = false) (rest : Text) :
    after token (token :: rest) = some rest := by
  unfold after skip
  rw [dropWhile_cons_of_neg (by simp [h])]
  exact if_pos rfl

theorem after_other (h : isBlank unit = false) (hne : unit ≠ token) (rest : Text) :
    after token (unit :: rest) = none := by
  unfold after skip
  rw [dropWhile_cons_of_neg (by simp [h])]
  exact if_neg hne

/-- What follows a number must not go on with it. -/
def NotNumeral (rest : Text) : Prop := ∀ unit ∈ rest.head?, isNumeralUnit unit = false

theorem notNumeral_cons (h : isNumeralUnit unit = false) : NotNumeral (unit :: rest) := by
  intro first hfirst
  cases hfirst
  exact h

theorem numeral_unit_ne (h : isNumeralUnit unit = true) (hother : isNumeralUnit token = false) :
    unit ≠ token := by
  rintro rfl
  rw [h] at hother
  cases hother

theorem not_blank_of_numeral (h : isNumeralUnit unit = true) : isBlank unit = false := by
  have hne (token : UInt16) (hother : isNumeralUnit token = false) := numeral_unit_ne h hother
  simp [isBlank, hne 0x20 (by decide), hne 0x09 (by decide), hne 0x0A (by decide),
    hne 0x0D (by decide)]

theorem write_head (h : Plain value) : ∃ unit tail, write engine value = unit :: tail ∧
    isBlank unit = false ∧ unit ≠ 0x5D ∧ unit ≠ 0x7D := by
  cases value with
  | undefined => exact h.elim
  | null => exact ⟨0x6E, _, rfl, by decide, by decide, by decide⟩
  | bool value =>
    cases value with
    | true => exact ⟨0x74, _, rfl, by decide, by decide, by decide⟩
    | false => exact ⟨0x66, _, rfl, by decide, by decide, by decide⟩
  | number value =>
    obtain ⟨exact, rfl⟩ := h
    show ∃ unit tail, engine.numeral exact = unit :: tail ∧ _
    cases hnumeral : engine.numeral exact with
    | nil => exact absurd hnumeral (engine.numeral_ne_nil exact)
    | cons unit tail =>
      have hunit : isNumeralUnit unit = true :=
        engine.numeral_units exact unit (by rw [hnumeral]; exact mem_cons_self)
      exact ⟨unit, tail, rfl, not_blank_of_numeral hunit, numeral_unit_ne hunit (by decide),
        numeral_unit_ne hunit (by decide)⟩
  | string text => exact ⟨0x22, _, rfl, by decide, by decide, by decide⟩
  | array items => exact ⟨0x5B, _, rfl, by decide, by decide, by decide⟩
  | object members => exact ⟨0x7B, _, rfl, by decide, by decide, by decide⟩

theorem readValue_word {fuel : Nat} (hblank : isBlank unit = false)
    (hother : unit ≠ 0x7B ∧ unit ≠ 0x5B ∧ unit ≠ 0x22) (rest : Text) :
    readValue engine (fuel + 1) (unit :: rest) = readWord engine (unit :: rest) := by
  have hskip : skip (unit :: rest) = unit :: rest :=
    dropWhile_cons_of_neg (by simp [hblank])
  rw [readValue, after_other hblank hother.1, after_other hblank hother.2.1,
    after_other hblank hother.2.2, hskip]

theorem dropWord_append (word : String) (rest : Text) :
    dropWord word (Utf16.ofString word ++ rest) = some rest := by
  unfold dropWord
  rw [if_pos ( isPrefixOf_iff_prefix.mpr (prefix_append _ _)), drop_left]

theorem dropWord_other {word : String} (h : (Utf16.ofString word).head? ≠ some unit) (rest : Text)
    (hword : Utf16.ofString word ≠ []) : dropWord word (unit :: rest) = none := by
  refine if_neg fun hprefix => ?_
  obtain ⟨tail, htail⟩ := isPrefixOf_iff_prefix.mp hprefix
  cases hunits : Utf16.ofString word with
  | nil => exact hword hunits
  | cons first others =>
    rw [hunits] at htail h
    exact h (congrArg some (List.cons.inj htail).1)

theorem readWord_numeral (exact : ℚ) (hrest : NotNumeral rest) :
    readWord engine (engine.numeral exact ++ rest) = some (.number (.finite exact), rest) := by
  have hunits := engine.numeral_units exact
  cases hnumeral : engine.numeral exact with
  | nil => exact absurd hnumeral (engine.numeral_ne_nil exact)
  | cons unit tail =>
    have hunit : isNumeralUnit unit = true :=
      hunits unit (by rw [hnumeral]; exact mem_cons_self)
    have hword (word : String) (hnone : Utf16.ofString word ≠ [])
        (hother : (Utf16.ofString word).head?.any isNumeralUnit = false) :
        dropWord word (unit :: (tail ++ rest)) = none := by
      refine dropWord_other (fun hhead => ?_) _ hnone
      have hfirst := (Option.any_eq_true _ _).2 ⟨unit, hhead, hunit⟩
      rw [hother] at hfirst
      cases hfirst
    have hspan : (engine.numeral exact ++ rest).takeWhile isNumeralUnit = engine.numeral exact ∧
        (engine.numeral exact ++ rest).dropWhile isNumeralUnit = rest := by
      rw [takeWhile_append_of_pos hunits, dropWhile_append_of_pos hunits]
      cases rest with
      | nil => exact ⟨append_nil _, rfl⟩
      | cons next others =>
        have hnext : ¬isNumeralUnit next = true := by
          rw [hrest next rfl]
          decide
        rw [takeWhile_cons_of_neg hnext, dropWhile_cons_of_neg hnext]
        exact ⟨append_nil _, rfl⟩
    unfold readWord
    rw [← hnumeral, hspan.1, hspan.2, engine.jsonNumber_numeral, hnumeral, cons_append,
      hword "null" (by decide) (by decide), hword "true" (by decide) (by decide),
      hword "false" (by decide) (by decide)]
    rfl

theorem plain_isDefined (h : Plain value) : value.isDefined = true := by
  cases value with
  | undefined => exact h.elim
  | _ => rfl

theorem writeMembers_cons (h : Plain value) (name : Text) (members : List (Text × Value)) :
    writeMembers engine ((name, value) :: members) =
      (quoted name ++ 0x3A :: write engine value) :: writeMembers engine members := by
  cases value with
  | undefined => exact h.elim
  | _ => rfl

/-- What is read with so much fuel: values, the items of arrays and the members of objects, up to
what follows them. -/
structure ReadsBack (engine : Engine) (fuel : Nat) : Prop where
  value : ∀ value rest, Plain value → cost value ≤ fuel → NotNumeral rest →
    readValue engine fuel (write engine value ++ rest) = some (value, rest)
  items : ∀ item items rest, PlainItems (item :: items) → itemsCost (item :: items) ≤ fuel →
    readItems engine fuel
        ([0x2C].intercalate (writeItems engine (item :: items)) ++ 0x5D :: rest) =
      some (item :: items, rest)
  members : ∀ name value members done rest,
    (Dictionary.keys (done ++ (name, value) :: members)).Nodup →
    PlainMembers ((name, value) :: members) → membersCost ((name, value) :: members) ≤ fuel →
    readMembers engine fuel done
        ([0x2C].intercalate (writeMembers engine ((name, value) :: members)) ++ 0x7D :: rest) =
      some (.object (done ++ (name, value) :: members), rest)

variable {less : Nat}

theorem ReadsBack.valueStep (h : ReadsBack engine less) (value : Value) (rest : Text)
    (hplain : Plain value) (hfuel : cost value ≤ less + 1) (hrest : NotNumeral rest) :
    readValue engine (less + 1) (write engine value ++ rest) = some (value, rest) := by
  cases value with
  | undefined => exact hplain.elim
  | null =>
    show readValue engine (less + 1) (0x6E :: 0x75 :: 0x6C :: 0x6C :: rest) = _
    rw [readValue_word (by decide) (by decide)]
    unfold readWord
    have hword : dropWord "null" (0x6E :: 0x75 :: 0x6C :: 0x6C :: rest) = some rest :=
      dropWord_append "null" rest
    rw [hword]
  | bool value =>
    cases value with
    | true =>
      show readValue engine (less + 1) (0x74 :: 0x72 :: 0x75 :: 0x65 :: rest) = _
      rw [readValue_word (by decide) (by decide)]
      unfold readWord
      have hword : dropWord "true" (0x74 :: 0x72 :: 0x75 :: 0x65 :: rest) = some rest :=
        dropWord_append "true" rest
      rw [dropWord_other (by decide) _ (by decide), hword]
    | false =>
      show readValue engine (less + 1) (0x66 :: 0x61 :: 0x6C :: 0x73 :: 0x65 :: rest) = _
      rw [readValue_word (by decide) (by decide)]
      unfold readWord
      have hword : dropWord "false" (0x66 :: 0x61 :: 0x6C :: 0x73 :: 0x65 :: rest) = some rest :=
        dropWord_append "false" rest
      rw [dropWord_other (by decide) _ (by decide), dropWord_other (by decide) _ (by decide), hword]
  | number value =>
    obtain ⟨exact, rfl⟩ := hplain
    rw [← readWord_numeral exact hrest]
    show readValue engine (less + 1) (engine.numeral exact ++ rest) = _
    cases hnumeral : engine.numeral exact with
    | nil => exact absurd hnumeral (engine.numeral_ne_nil exact)
    | cons unit tail =>
      have hunit : isNumeralUnit unit = true :=
        engine.numeral_units exact unit (by rw [hnumeral]; exact mem_cons_self)
      rw [cons_append, readValue_word (not_blank_of_numeral hunit)
        ⟨numeral_unit_ne hunit (by decide), numeral_unit_ne hunit (by decide),
          numeral_unit_ne hunit (by decide)⟩]
  | string text =>
    have hwritten : write engine (.string text) ++ rest = 0x22 :: (escaped text ++ 0x22 :: rest) := by
      simp [write, quoted]
    rw [hwritten, readValue, after_other (by decide) (by decide), after_other (by decide) (by decide),
      after_token (by decide)]
    simp only [readString_escaped, Option.map_some]
  | array items =>
    cases items with
    | nil =>
      show readValue engine (less + 1) (0x5B :: 0x5D :: rest) = _
      rw [readValue, after_other (by decide) (by decide), after_token (by decide)]
      simp only [after_token (by decide : isBlank 0x5D = false)]
    | cons item others =>
      have hwritten : write engine (.array (item :: others)) ++ rest =
          0x5B :: ([0x2C].intercalate (writeItems engine (item :: others)) ++ 0x5D :: rest) := by
        simp [write]
      obtain ⟨unit, tail, hhead, hblank, hclose, _⟩ := @write_head engine item hplain.1
      have hfirst : ∃ later, [0x2C].intercalate (writeItems engine (item :: others)) ++ 0x5D :: rest =
          unit :: later := by
        cases others with
        | nil => exact ⟨_, by simp only [writeItems, intercalate_singleton, hhead]; rfl⟩
        | cons next later =>
          exact ⟨_, by simp only [writeItems, intercalate_cons_cons, hhead]; rfl⟩
      obtain ⟨later, hlater⟩ := hfirst
      have hitems := h.items item others rest hplain (by simp only [cost] at hfuel; omega)
      rw [hwritten, readValue, after_other (by decide) (by decide), after_token (by decide)]
      rw [hlater] at hitems ⊢
      simp only [after_other hblank hclose, hitems, Option.map_some]
  | object members =>
    cases members with
    | nil =>
      show readValue engine (less + 1) (0x7B :: 0x7D :: rest) = _
      rw [readValue, after_token (by decide)]
      simp only [after_token (by decide : isBlank 0x7D = false)]
    | cons member others =>
      obtain ⟨name, value⟩ := member
      have hwritten : write engine (.object ((name, value) :: others)) ++ rest =
          0x7B :: ([0x2C].intercalate (writeMembers engine ((name, value) :: others)) ++
            0x7D :: rest) := by
        simp [write]
      have hfirst : ∃ later, [0x2C].intercalate (writeMembers engine ((name, value) :: others)) ++
          0x7D :: rest = 0x22 :: later := by
        rw [writeMembers_cons hplain.2.1]
        cases hmore : writeMembers engine others with
        | nil => exact ⟨_, by rw [intercalate_singleton]; rfl⟩
        | cons next later => exact ⟨_, by rw [intercalate_cons_cons]; rfl⟩
      obtain ⟨later, hlater⟩ := hfirst
      have hmembers := h.members name value others [] rest hplain.1 hplain.2
        (by simp only [cost] at hfuel; omega)
      rw [hwritten, readValue, after_token (by decide)]
      rw [hlater] at hmembers ⊢
      simp only [after_other (by decide : isBlank 0x22 = false) (by decide : (0x22 : UInt16) ≠ 0x7D),
        hmembers, nil_append]

theorem ReadsBack.itemsStep (h : ReadsBack engine less) (item : Value) (items : List Value)
    (rest : Text) (hplain : PlainItems (item :: items))
    (hfuel : itemsCost (item :: items) ≤ less + 1) :
    readItems engine (less + 1)
        ([0x2C].intercalate (writeItems engine (item :: items)) ++ 0x5D :: rest) =
      some (item :: items, rest) := by
  cases items with
  | nil =>
    have hvalue := h.value item (0x5D :: rest) hplain.1
      (by simp only [itemsCost] at hfuel; omega) (notNumeral_cons (by decide))
    have hwritten : [0x2C].intercalate (writeItems engine [item]) = write engine item := by
      simp [writeItems]
    rw [hwritten, readItems, hvalue]
    simp only [after_other (by decide : isBlank 0x5D = false) (by decide : (0x5D : UInt16) ≠ 0x2C),
      after_token (by decide : isBlank 0x5D = false), Option.map_some]
  | cons next others =>
    have hwritten : [0x2C].intercalate (writeItems engine (item :: next :: others)) ++ 0x5D :: rest =
        write engine item ++
          0x2C :: ([0x2C].intercalate (writeItems engine (next :: others)) ++ 0x5D :: rest) := by
      simp [writeItems, intercalate_cons_cons]
    have hvalue := h.value item
      (0x2C :: ([0x2C].intercalate (writeItems engine (next :: others)) ++ 0x5D :: rest)) hplain.1
      (by simp only [itemsCost] at hfuel; omega) (notNumeral_cons (by decide))
    have hothers := h.items next others rest hplain.2
      (by simp only [itemsCost] at hfuel ⊢; omega)
    rw [hwritten, readItems, hvalue]
    simp only [after_token (by decide : isBlank 0x2C = false), hothers, Option.map_some]

theorem ReadsBack.membersStep (h : ReadsBack engine less) (name : Text) (value : Value)
    (members done : List (Text × Value)) (rest : Text)
    (hnames : (Dictionary.keys (done ++ (name, value) :: members)).Nodup)
    (hplain : PlainMembers ((name, value) :: members))
    (hfuel : membersCost ((name, value) :: members) ≤ less + 1) :
    readMembers engine (less + 1) done
        ([0x2C].intercalate (writeMembers engine ((name, value) :: members)) ++ 0x7D :: rest) =
      some (.object (done ++ (name, value) :: members), rest) := by
  have hset : Dictionary.set done name value = done ++ [(name, value)] := by
    apply Dictionary.set_of_not_mem
    intro hin
    unfold Dictionary.keys at hnames hin
    rw [map_append, nodup_append] at hnames
    exact hnames.2.2 name hin name mem_cons_self rfl
  cases members with
  | nil =>
    have hvalue := h.value value (0x7D :: rest) hplain.1
      (by simp only [membersCost] at hfuel; omega) (notNumeral_cons (by decide))
    have hwritten : [0x2C].intercalate (writeMembers engine [(name, value)]) ++ 0x7D :: rest =
        0x22 :: (escaped name ++ 0x22 :: 0x3A :: (write engine value ++ 0x7D :: rest)) := by
      rw [writeMembers_cons hplain.1]
      simp [writeMembers, quoted]
    rw [hwritten, readMembers, after_token (by decide), Option.bind_some, readString_escaped]
    simp only [after_token (by decide : isBlank 0x3A = false), Option.bind_some, hvalue,
      after_other (by decide : isBlank 0x7D = false) (by decide : (0x7D : UInt16) ≠ 0x2C),
      after_token (by decide : isBlank 0x7D = false), Option.map_some, hset]
  | cons member others =>
    obtain ⟨next, held⟩ := member
    have hwritten : [0x2C].intercalate
        (writeMembers engine ((name, value) :: (next, held) :: others)) ++ 0x7D :: rest =
        0x22 :: (escaped name ++ 0x22 :: 0x3A :: (write engine value ++ 0x2C ::
          ([0x2C].intercalate (writeMembers engine ((next, held) :: others)) ++ 0x7D :: rest))) := by
      rw [writeMembers_cons hplain.1, writeMembers_cons hplain.2.1]
      simp [intercalate_cons_cons, quoted]
    have hvalue := h.value value
      (0x2C :: ([0x2C].intercalate (writeMembers engine ((next, held) :: others)) ++ 0x7D :: rest))
      hplain.1 (by simp only [membersCost] at hfuel; omega) (notNumeral_cons (by decide))
    have hsplit : done ++ (name, value) :: (next, held) :: others =
        (done ++ [(name, value)]) ++ (next, held) :: others := by simp
    have hothers := h.members next held others (done ++ [(name, value)]) rest
      (by rw [← hsplit]; exact hnames) hplain.2 (by simp only [membersCost] at hfuel ⊢; omega)
    rw [hwritten, readMembers, after_token (by decide), Option.bind_some, readString_escaped]
    simp only [after_token (by decide : isBlank 0x3A = false), Option.bind_some, hvalue,
      after_token (by decide : isBlank 0x2C = false), hset, hothers, hsplit]

theorem readsBack (engine : Engine) (fuel : Nat) : ReadsBack engine fuel := by
  induction fuel with
  | zero =>
    constructor
    · intro value _ _ hfuel
      cases value <;> simp [cost] at hfuel
    · intro item items _ _ hfuel
      simp [itemsCost] at hfuel
    · intro name value members _ _ _ _ hfuel
      simp [membersCost] at hfuel
  | succ less ih => exact ⟨ih.valueStep, ih.itemsStep, ih.membersStep⟩

mutual

theorem cost_le_length (engine : Engine) : ∀ value, Plain value →
    cost value ≤ (write engine value).length
  | .undefined, h => h.elim
  | .null, h | .bool _, h | .number _, h | .string _, h => by
    obtain ⟨unit, tail, hhead, _⟩ := @write_head engine _ h
    rw [hhead]
    exact Nat.succ_le_succ (Nat.zero_le _)
  | .array items, h => by
    have hitems := itemsCost_le_length engine items h
    simp only [cost, write, length_cons, length_append, length_nil]
    omega
  | .object members, h => by
    have hmembers := membersCost_le_length engine members h.2
    simp only [cost, write, length_cons, length_append, length_nil]
    omega

theorem itemsCost_le_length (engine : Engine) : ∀ items, PlainItems items →
    itemsCost items ≤ ([0x2C].intercalate (writeItems engine items)).length + 1
  | [], _ => Nat.zero_le _
  | [item], h => by
    have hitem := cost_le_length engine item h.1
    simp only [itemsCost, writeItems, intercalate_singleton]
    omega
  | item :: next :: rest, h => by
    have hitem := cost_le_length engine item h.1
    have hrest := itemsCost_le_length engine (next :: rest) h.2
    simp only [itemsCost, writeItems, intercalate_cons_cons, length_append,
      length_singleton] at hrest ⊢
    omega

theorem membersCost_le_length (engine : Engine) : ∀ members, PlainMembers members →
    membersCost members ≤ ([0x2C].intercalate (writeMembers engine members)).length + 1
  | [], _ => Nat.zero_le _
  | [(name, value)], h => by
    have hvalue := cost_le_length engine value h.1
    rw [writeMembers_cons h.1]
    simp only [membersCost, writeMembers, intercalate_singleton, length_append,
      length_cons]
    omega
  | (name, value) :: (next, held) :: rest, h => by
    have hvalue := cost_le_length engine value h.1
    have hrest := membersCost_le_length engine ((next, held) :: rest) h.2
    rw [writeMembers_cons h.1]
    rw [writeMembers_cons h.2.1] at hrest ⊢
    simp only [membersCost, intercalate_cons_cons, length_append, length_cons,
      length_nil] at hrest ⊢
    omega

end

theorem parse_write (h : Plain value) : parse engine (write engine value) = some value := by
  have hcost := cost_le_length engine value h
  have hread := (readsBack engine ((write engine value).length + 1)).value value [] h (by omega)
    (fun _ hunit => nomatch hunit)
  rw [append_nil] at hread
  unfold parse
  rw [hread]
  rfl

end

end JsonText
