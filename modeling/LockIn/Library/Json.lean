import Mathlib.Tactic

/-!
# JSON values

A document after it was parsed.  Python tells a whole number from one with a fraction by its
type, JavaScript by its value, so the two are kept apart.  The first functions read a value as
Python does, the others as JavaScript, where `none` is `undefined`.
-/

inductive Json where
  | null
  | bool (value : Bool)
  | int (value : Int)
  | float (value : ℚ)
  | str (value : List Char)
  | arr (items : List Json)
  | obj (fields : List (String × Json))

namespace Json

abbrev Fields : Type := List (String × Json)

/-- `value.get(name)`. -/
def getD (fields : Fields) (name : String) : Json :=
  (fields.lookup name).getD .null

/-- `sorted(set(value) - allowed)`. -/
def unknownKeys (fields : Fields) (allowed : List String) : List String :=
  ((fields.map (·.1)).filter (· ∉ allowed)).insertionSort (· ≤ ·)

/-- `sorted(required - set(value))`, where `required` is listed in order. -/
def missingKeys (fields : Fields) (required : List String) : List String :=
  required.filter (· ∉ fields.map (·.1))

/-- Whether a value can be looked up in a set. -/
def hashable : Json → Bool
  | .arr _ => false
  | .obj _ => false
  | _ => true

/-- `len(value) if isinstance(value, list) else 0`. -/
def count : Json → Nat
  | .arr items => items.length
  | _ => 0

theorem unknownKeys_eq_nil {fields : Fields} {allowed : List String}
    (h : ∀ entry ∈ fields, entry.1 ∈ allowed) : unknownKeys fields allowed = [] := by
  have hnone : (fields.map (·.1)).filter (· ∉ allowed) = [] := by
    apply List.filter_eq_nil_iff.2
    intro name hname
    obtain ⟨entry, hentry, rfl⟩ := List.mem_map.1 hname
    simpa using h entry hentry
  rw [unknownKeys, hnone]
  rfl

/-- `value?.name`. -/
def member : Option Json → String → Option Json
  | some (.obj fields), name => fields.lookup name
  | _, _ => none

def truthy : Option Json → Bool
  | none | some .null => false
  | some (.bool value) => value
  | some (.int value) => value ≠ 0
  | some (.float value) => value ≠ 0
  | some (.str value) => value ≠ []
  | some (.arr _) | some (.obj _) => true

/-- `===`, which no two arrays or objects of different documents satisfy. -/
def same : Option Json → Option Json → Bool
  | none, none => true
  | some .null, some .null => true
  | some (.bool a), some (.bool b) => a = b
  | some (.int a), some (.int b) => a = b
  | some (.int a), some (.float b) => (a : ℚ) = b
  | some (.float a), some (.int b) => a = (b : ℚ)
  | some (.float a), some (.float b) => a = b
  | some (.str a), some (.str b) => a = b
  | _, _ => false

def isInteger : Option Json → Bool
  | some (.int _) => true
  | some (.float value) => value.den = 1
  | _ => false

/-- The items of a value that `Array.isArray` accepts. -/
def items? : Option Json → Option (List Json)
  | some (.arr items) => some items
  | _ => none

/-- `Object.values(value || {})`. -/
def objectValues : Option Json → List Json
  | some (.obj fields) => fields.map (·.2)
  | some (.arr items) => items
  | some (.str value) => value.map fun char => .str [char]
  | _ => []

end Json
