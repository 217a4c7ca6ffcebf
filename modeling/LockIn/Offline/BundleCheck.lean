import LockIn.Library.Json
import LockIn.Library.Whitespace

/-!
# What a device accepts

The device checks a download as a whole before it stores it.  The check reads a parsed document
that may be anything; where it throws, the download ends as it does where the check fails, so both
are `false` here.
-/

namespace LockIn.OfflineStudy

open Json (member truthy same isInteger items? objectValues)
open Whitespace (Text trim)

def objectNames : List String :=
  ["constructor", "__defineGetter__", "__defineSetter__", "hasOwnProperty", "__lookupGetter__",
    "__lookupSetter__", "isPrototypeOf", "propertyIsEnumerable", "toString", "valueOf",
    "__proto__", "toLocaleString"]

def arrayNames : List String :=
  ["length", "at", "concat", "copyWithin", "fill", "find", "findIndex", "findLast",
    "findLastIndex", "lastIndexOf", "pop", "push", "reverse", "shift", "unshift", "slice", "sort",
    "splice", "includes", "indexOf", "join", "keys", "entries", "values", "forEach", "filter",
    "flat", "flatMap", "map", "every", "some", "reduce", "reduceRight", "toReversed", "toSorted",
    "toSpliced", "with"]

/-- `name in value`, which throws for a value that is neither an object nor an array. -/
def hasName (value : Option Json) (name : Text) : Bool :=
  match value with
  | some (.obj fields) =>
    fields.any (fun field => field.1.toList = name) || objectNames.any (·.toList = name)
  | some (.arr items) =>
    (List.range items.length).any (fun index => (toString index).toList = name) ||
      arrayNames.any (·.toList = name) || objectNames.any (·.toList = name)
  | _ => false

/-- `typeof value === "string" && value.trim()`. -/
def saysSomething (value : Option Json) : Bool :=
  match value with
  | some (.str text) => trim text ≠ []
  | _ => false

def isBoolean : Option Json → Bool
  | some (.bool _) => true
  | _ => false

def text (value : String) : Option Json := some (.str value.toList)

def complete (question : Json) : Bool :=
  let field := member (some question)
  truthy (some question) && saysSomething (field "question") && saysSomething (field "explanation") &&
    if same (field "type") (text "true_false") then
      isBoolean (field "correct_answer") && (field "options").isNone
    else
      (!truthy (field "type") || same (field "type") (text "mcq")) && truthy (field "options") &&
        match field "correct_answer" with
        | some (.str letter) => hasName (field "options") letter
        | _ => false

def completeQuestions (value : Option Json) : Bool :=
  match items? value with
  | none => false
  | some questions => 0 < questions.length && questions.all complete

def completeDifficulty (difficulty : Json) : Bool :=
  let field := member (some difficulty)
  match items? (field "page_ranges"), items? (field "parts") with
  | some ranges, some parts =>
    same (some (.int parts.length)) (field "number_of_parts") &&
      same (some (.int ranges.length)) (field "number_of_parts") &&
      parts.all (fun part => completeQuestions (member (some part) "questions")) &&
      completeQuestions (member (field "final_exam") "questions")
  | _, _ => false

/-- Neither `null` nor `undefined`, of which no property can be read. -/
def present : Option Json → Bool
  | none | some .null => false
  | _ => true

def validActiveStudyBundle (bundle item : Option Json) : Bool :=
  truthy bundle && present item && same (member bundle "content_version") (member item "checksum") &&
    same (member bundle "sheet_id") (member item "sheet_id") &&
    same (member bundle "edition") (member item "edition") &&
    isInteger (member (member bundle "rules") "checkpoint_pass") &&
    isInteger (member (member bundle "rules") "final_pass") &&
    (objectValues (member bundle "difficulties")).length ≠ 0 &&
    (items? (member (member bundle "availability") "difficulties")).isSome &&
    (objectValues (member bundle "difficulties")).all completeDifficulty

end LockIn.OfflineStudy
