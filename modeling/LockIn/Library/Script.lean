import LockIn.Library.Dictionary
import LockIn.Library.Utf16

/-!
# Plain data of JavaScript

Values without behaviour of their own: those of JSON, the undefined value and the numbers that are
not finite.  The language leaves to its engines which digits a number is written with and how
dates are read that are not in its own format.  It promises that what an engine writes is read
back.
-/

namespace Script

open Utf16 (Text)

inductive Number where
  | finite (value : ℚ)
  | infinite (negative : Bool)
  | nan
deriving DecidableEq

/-- The members of an object are a dictionary. -/
inductive Value where
  | undefined
  | null
  | bool (value : Bool)
  | number (value : Number)
  | string (text : Text)
  | array (items : List Value)
  | object (members : List (Text × Value))

namespace Number

def truthy : Number → Bool
  | .finite value => value ≠ 0
  | .infinite _ => true
  | .nan => false

def isPositive : Number → Bool
  | .finite value => 0 < value
  | .infinite negative => !negative
  | .nan => false

/-- `first - second` -/
def sub : Number → Number → Number
  | .finite first, .finite second => .finite (first - second)
  | .infinite negative, .infinite other => if negative = other then .nan else .infinite negative
  | .infinite negative, .finite _ => .infinite negative
  | .finite _, .infinite negative => .infinite (!negative)
  | .nan, _ | _, .nan => .nan

/-- The numbers in their order, `nan` left aside. -/
def rank : Number → WithBot (WithTop ℚ)
  | .finite value => ((value : WithTop ℚ) : WithBot (WithTop ℚ))
  | .infinite true => ⊥
  | .infinite false => ((⊤ : WithTop ℚ) : WithBot (WithTop ℚ))
  | .nan => ((0 : WithTop ℚ) : WithBot (WithTop ℚ))

theorem isPositive_sub {first second : Number} (h : (first.sub second).truthy = true) :
    (first.sub second).isPositive = true ↔ second.rank < first.rank := by
  cases first with
  | nan => cases second <;> cases h
  | finite first =>
    cases second with
    | nan => cases h
    | finite second =>
      unfold sub isPositive rank
      rw [decide_eq_true_iff, sub_pos, WithBot.coe_lt_coe, WithTop.coe_lt_coe]
    | infinite negative =>
      unfold sub isPositive rank
      cases negative with
      | true => exact iff_of_true rfl (WithBot.bot_lt_coe _)
      | false =>
        refine iff_of_false Bool.false_ne_true ?_
        rw [WithBot.coe_lt_coe]
        exact not_top_lt
  | infinite negative =>
    cases second with
    | nan => cases h
    | finite second =>
      cases negative with
      | true => exact iff_of_false Bool.false_ne_true not_lt_bot
      | false => exact iff_of_true rfl (WithBot.coe_lt_coe.2 (WithTop.coe_lt_top second))
    | infinite other =>
      cases negative <;> cases other
      · cases h
      · exact iff_of_true rfl (WithBot.bot_lt_coe _)
      · exact iff_of_false Bool.false_ne_true not_lt_bot
      · cases h

/-- Of numbers that are not `nan` only equal ones have no difference. -/
theorem truthy_sub {first second : Number} (hfirst : first ≠ .nan) (hsecond : second ≠ .nan) :
    (first.sub second).truthy = false ↔ first.rank = second.rank := by
  cases first with
  | nan => exact absurd rfl hfirst
  | finite first =>
    cases second with
    | nan => exact absurd rfl hsecond
    | finite second =>
      unfold sub truthy rank
      rw [decide_eq_false_iff_not, not_not, sub_eq_zero, WithBot.coe_inj, WithTop.coe_inj]
    | infinite negative =>
      cases negative with
      | true => exact iff_of_false Bool.noConfusion WithBot.coe_ne_bot
      | false =>
        refine iff_of_false Bool.noConfusion fun h => ?_
        exact WithTop.coe_ne_top (WithBot.coe_inj.1 h)
  | infinite negative =>
    cases second with
    | nan => exact absurd rfl hsecond
    | finite second =>
      cases negative with
      | true => exact iff_of_false Bool.noConfusion WithBot.bot_ne_coe
      | false =>
        refine iff_of_false Bool.noConfusion fun h => ?_
        exact WithTop.top_ne_coe (WithBot.coe_inj.1 h)
    | infinite other =>
      cases negative <;> cases other
      · exact iff_of_true rfl rfl
      · exact iff_of_false Bool.noConfusion WithBot.coe_ne_bot
      · exact iff_of_false Bool.noConfusion WithBot.bot_ne_coe
      · exact iff_of_true rfl rfl

end Number

def isNumeralUnit (unit : UInt16) : Bool :=
  (0x30 ≤ unit && unit ≤ 0x39) || unit ∈ [0x2B, 0x2D, 0x2E, 0x45, 0x65]

def maxTime : ℤ := 8640000000000000

abbrev Time : Type := { time : ℤ // |time| ≤ maxTime }

structure Engine where
  /-- `Number.prototype.toString` -/
  numeral : ℚ → Text
  /-- `Number` of a text -/
  number : Text → Number
  /-- The number that a numeral of JSON stands for; other texts stand for none. -/
  jsonNumber : Text → Option Number
  /-- `Date.parse` -/
  parseDate : Text → Option Time
  /-- `Date.prototype.toISOString` -/
  isoDate : Time → Text
  numeral_ne_nil : ∀ value, numeral value ≠ []
  numeral_units : ∀ value, ∀ unit ∈ numeral value, isNumeralUnit unit = true
  jsonNumber_numeral : ∀ value, jsonNumber (numeral value) = some (.finite value)
  parseDate_isoDate : ∀ time, parseDate (isoDate time) = some time

namespace Value

def text (value : String) : Value := .string (Utf16.ofString value)

def isDefined : Value → Bool
  | .undefined => false
  | _ => true

/-- A member of a value, as `value?.name` reads it. -/
def get (value : Value) (name : String) : Value :=
  match value with
  | .object members => (Dictionary.get members (Utf16.ofString name)).getD .undefined
  | _ => .undefined

def isTrue : Value → Bool
  | .bool value => value
  | _ => false

def truthy : Value → Bool
  | .undefined | .null => false
  | .bool value => value
  | .number (.finite value) => value ≠ 0
  | .number (.infinite _) => true
  | .number .nan => false
  | .string text => text ≠ []
  | .array _ | .object _ => true

def text? : Value → Option Text
  | .string text => some text
  | _ => none

def items : Value → List Value
  | .array items => items
  | _ => []

def record (fields : List (String × Value)) : Value :=
  .object ((fields.filter fun field => field.2.isDefined).map fun field =>
    (Utf16.ofString field.1, field.2))

/-- `{ ...base, ...changes }`. -/
def spread (base changes : Value) : Value :=
  match base, changes with
  | .object members, .object others =>
    .object (others.foldl (fun members other => Dictionary.set members other.1 other.2) members)
  | .object members, _ => .object members
  | _, .object others => .object others
  | _, _ => .object []

end Value

variable (engine : Engine)

def numberText : Number → Text
  | .finite value => engine.numeral value
  | .infinite negative => Utf16.ofString (if negative then "-Infinity" else "Infinity")
  | .nan => Utf16.ofString "NaN"

mutual

/-- `String(value)`. -/
def toText : Value → Text
  | .undefined => Utf16.ofString "undefined"
  | .null => Utf16.ofString "null"
  | .bool value => Utf16.ofString (if value then "true" else "false")
  | .number value => numberText engine value
  | .string text => text
  | .array items => (Utf16.ofString ",").intercalate (itemTexts items)
  | .object _ => Utf16.ofString "[object Object]"

def itemTexts : List Value → List Text
  | [] => []
  | .undefined :: rest | .null :: rest => [] :: itemTexts rest
  | item :: rest => toText item :: itemTexts rest

end

/-- `Number(value)`. -/
def toNumber : Value → Number
  | .undefined => .nan
  | .null => .finite 0
  | .bool value => .finite (if value then 1 else 0)
  | .number value => value
  | value => engine.number (toText engine value)

def round (value : ℚ) : ℚ := ⌊value + 1 / 2⌋

theorem abs_truncate_le {value : ℚ} (h : |value| ≤ maxTime) :
    |value.num.tdiv value.den| ≤ maxTime := by
  have hden : (0 : ℚ) < value.den := by exact_mod_cast value.den_pos
  have hnum : |value.num| ≤ maxTime * value.den := by
    have hvalue : |(value.num : ℚ)| = |value| * value.den := by
      rw [← Rat.mul_den_eq_num, abs_mul, abs_of_pos hden]
    have hscaled : |(value.num : ℚ)| ≤ maxTime * value.den := by
      rw [hvalue]
      exact mul_le_mul_of_nonneg_right h hden.le
    exact_mod_cast hscaled
  rw [Int.abs_eq_natAbs, Int.natAbs_tdiv]
  rw [Int.abs_eq_natAbs] at hnum
  have hmax : maxTime = ((8640000000000000 : Nat) : ℤ) := rfl
  rw [hmax] at hnum ⊢
  have hnat : value.num.natAbs ≤ 8640000000000000 * value.den := by exact_mod_cast hnum
  exact_mod_cast Nat.div_le_of_le_mul (by rw [mul_comm]; exact hnat)

/-- The time of `new Date(value)`, if it is valid. -/
def timeOf (value : Value) : Option Time :=
  match value with
  | .string _ | .array _ | .object _ => engine.parseDate (toText engine value)
  | value =>
    match toNumber engine value with
    | .finite time =>
      if h : |time| ≤ maxTime then some ⟨time.num.tdiv time.den, abs_truncate_le h⟩ else none
    | _ => none

variable {name : String} {value : Value} {fields : List (String × Value)}

namespace Value

@[simp]
theorem get_record_cons (field : String) :
    (record ((field, value) :: fields)).get name =
      if field = name ∧ value.isDefined then value else (record fields).get name := by
  unfold record get
  rw [List.filter_cons]
  by_cases hdefined : value.isDefined = true
  · rw [if_pos hdefined, List.map_cons]
    by_cases hname : field = name
    · rw [if_pos ⟨hname, hdefined⟩, hname]
      simp [Dictionary.get, Table.find]
    · have hunits : Utf16.ofString field ≠ Utf16.ofString name :=
        fun h => hname (Utf16.ofString_injective h)
      rw [if_neg fun h => hname h.1]
      simp [Dictionary.get, Table.find, hunits]
  · rw [if_neg hdefined, if_neg fun h => hdefined h.2]

end Value

end Script
