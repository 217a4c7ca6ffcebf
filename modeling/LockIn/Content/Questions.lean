import LockIn.Library.Json
import LockIn.Library.Whitespace
import LockIn.Study.Bank
import Mathlib

/-!
# The import of a question bank

An administrator imports the questions of one difficulty of a sheet as a JSON document.  The
whole document is checked, every finding with its path, and what is stored is the document with
its texts stripped and its parts or pages in order.
-/

namespace LockIn.Content

open Json (Fields getD unknownKeys missingKeys)
open Study (Difficulty PageRange)
open Whitespace (Text strip singleSpaced)

/-- The options of a question. -/
inductive Letter where
  | a
  | b
  | c
  | d
deriving DecidableEq

def Letter.key : Letter → String
  | .a => "A"
  | .b => "B"
  | .c => "C"
  | .d => "D"

def letters : List Letter := [.a, .b, .c, .d]

def letterOf (text : Text) : Option Letter :=
  letters.find? fun letter => letter.key.toList = text

structure Options where
  a : Text
  b : Text
  c : Text
  d : Text
deriving DecidableEq

def Options.text (options : Options) : Letter → Text
  | .a => options.a
  | .b => options.b
  | .c => options.c
  | .d => options.d

/-- A question that says `mcq` keeps its type, one without a type is taken for one. -/
inductive Answer where
  | mcq (typed : Bool) (options : Options) (correct : Letter)
  | trueFalse (correct : Bool)
deriving DecidableEq

structure Question where
  prompt : Text
  explanation : Text
  answer : Answer
deriving DecidableEq

/-- The questions of a part, or of a page. -/
structure Row where
  number : Int
  questions : List Question
deriving DecidableEq

inductive Bank where
  | parts (rows : List Row)
  | pages (rows : List Row)
deriving DecidableEq

structure QuestionDocument where
  bank : Bank
  finalExam : List Question

def Options.toJson (options : Options) : Json :=
  .obj (letters.map fun letter => (letter.key, .str (options.text letter)))

def Question.toJson (question : Question) : Json :=
  match question.answer with
  | .trueFalse correct =>
    .obj [("type", .str "true_false".toList), ("question", .str question.prompt),
      ("correct_answer", .bool correct), ("explanation", .str question.explanation)]
  | .mcq typed options correct =>
    .obj ((if typed then [("type", .str "mcq".toList)] else []) ++
      [("question", .str question.prompt), ("options", options.toJson),
        ("correct_answer", .str correct.key.toList), ("explanation", .str question.explanation)])

def questionsJson (questions : List Question) : Json :=
  .arr (questions.map Question.toJson)

def Row.toJson (name : String) (row : Row) : Json :=
  .obj [(name, .int row.number), ("questions", questionsJson row.questions)]

def finalExamJson (questions : List Question) : Json :=
  .obj [("questions", questionsJson questions)]

def QuestionDocument.toJson (document : QuestionDocument) : Json :=
  match document.bank with
  | .parts rows =>
    .obj [("parts", .arr (rows.map (Row.toJson "part"))),
      ("final_exam", finalExamJson document.finalExam)]
  | .pages rows =>
    .obj [("pages", .arr (rows.map (Row.toJson "page"))),
      ("final_exam", finalExamJson document.finalExam)]

/-- What is wrong with a document: an error that is reported, or a value that Python cannot look
up in a set, at which the whole call stops. -/
inductive Finding where
  | error (path message : String)
  | unhashable
deriving DecidableEq

structure FieldError where
  path : String
  message : String
deriving DecidableEq

inductive Refusal where
  | invalid (errors : List FieldError)
  | typeError

def Finding.fieldError? : Finding → Option FieldError
  | .error path message => some ⟨path, message⟩
  | .unhashable => none

def conclude {α : Type} (findings : List Finding) (result : α) : Except Refusal α :=
  if .unhashable ∈ findings then .error .typeError
  else if findings = [] then .ok result
  else .error (.invalid (findings.filterMap Finding.fieldError?))

def checkFrom {α : Type} (check : Nat → Json → α × List Finding) :
    Nat → List Json → List α × List Finding
  | _, [] => ([], [])
  | index, item :: rest =>
    ((check index item).1 :: (checkFrom check (index + 1) rest).1,
      (check index item).2 ++ (checkFrom check (index + 1) rest).2)

/-- `_text`. -/
def requiredText (value : Json) (path label : String) : Text × List Finding :=
  match value with
  | .str text =>
    if strip text = [] then ([], [.error path (label ++ " must be a non-empty string.")])
    else (strip text, [])
  | _ => ([], [.error path (label ++ " must be a non-empty string.")])

inductive QuestionType where
  | mcq
  | trueFalse
deriving DecidableEq

def questionType (fields : Fields) (path : String) : QuestionType × List Finding :=
  let wrong := Finding.error (path ++ ".type") "type must be mcq or true_false."
  match fields.lookup "type" with
  | none => (.mcq, [])
  | some (.str text) =>
    if text = "mcq".toList then (.mcq, [])
    else if text = "true_false".toList then (.trueFalse, [])
    else (.mcq, [wrong])
  | some value => (.mcq, [if value.hashable then wrong else .unhashable])

section
variable (casefold : Text → Text)

/-- `" ".join(value.split()).casefold()`. -/
def normalized (text : Text) : Text := casefold (singleSpaced text)

def optionText (raw : Fields) (path : String) (letter : Letter) : Text × List Finding :=
  requiredText (getD raw letter.key) (path ++ ".options." ++ letter.key) ("Option " ++ letter.key)

def questionOptions (fields : Fields) (path : String) : Options × List Finding :=
  let absent : List Finding :=
    if "options" ∈ fields.map (·.1) then []
    else [.error (path ++ ".options") "This field is required."]
  match getD fields "options" with
  | .obj raw =>
    let options : Options :=
      { a := (optionText raw path .a).1, b := (optionText raw path .b).1
        c := (optionText raw path .c).1, d := (optionText raw path .d).1 }
    let texts := ((letters.map options.text).filter (· ≠ [])).map (normalized casefold)
    (options, absent ++
      (missingKeys raw (letters.map Letter.key)).map (fun key =>
        .error (path ++ ".options." ++ key) ("Option " ++ key ++ " is required.")) ++
      (unknownKeys raw (letters.map Letter.key)).map (fun key =>
        .error (path ++ ".options." ++ key) "Only options A, B, C, and D are allowed.") ++
      letters.flatMap (fun letter => (optionText raw path letter).2) ++
      if texts.Nodup then []
      else [.error (path ++ ".options") "Options must not duplicate the same text."])
  | _ =>
    (⟨[], [], [], []⟩, absent ++
      [.error (path ++ ".options") "Options must be an object with A, B, C, and D."])

def correctLetter (fields : Fields) (path : String) : Letter × List Finding :=
  let wrong := Finding.error (path ++ ".correct_answer") "correct_answer must be A, B, C, or D."
  match getD fields "correct_answer" with
  | .str text =>
    match letterOf text with
    | some letter => (letter, [])
    | none => (.a, [wrong])
  | value => (.a, [if value.hashable then wrong else .unhashable])

def correctBool (fields : Fields) (path : String) : Bool × List Finding :=
  match getD fields "correct_answer" with
  | .bool value => (value, [])
  | _ =>
    (false, [.error (path ++ ".correct_answer") "True/false correct_answer must be a boolean."])

/-- `_question`.  What does not pass is replaced by something that does; its findings keep the
question from ever being stored. -/
def validateQuestionObject (value : Json) (path : String) : Question × List Finding :=
  match value with
  | .obj fields =>
    let type := questionType fields path
    let allowed := ["type", "question", "correct_answer", "explanation"] ++
      if type.1 = .mcq then ["options"] else []
    let prompt := requiredText (getD fields "question") (path ++ ".question") "Question"
    let explanation :=
      requiredText (getD fields "explanation") (path ++ ".explanation") "Explanation"
    let common := type.2 ++
      (unknownKeys fields allowed).map (fun key =>
        .error (path ++ "." ++ key) "Unsupported question field.") ++
      (missingKeys fields ["correct_answer", "explanation", "question"]).map (fun key =>
        .error (path ++ "." ++ key) "This field is required.") ++
      prompt.2 ++ explanation.2
    match type.1 with
    | .trueFalse =>
      let correct := correctBool fields path
      (⟨prompt.1, explanation.1, .trueFalse correct.1⟩, common ++ correct.2)
    | .mcq =>
      let options := questionOptions casefold fields path
      let correct := correctLetter fields path
      (⟨prompt.1, explanation.1, .mcq (fields.lookup "type").isSome options.1 correct.1⟩,
        common ++ options.2 ++ correct.2)
  | _ => (⟨[], [], .trueFalse false⟩, [.error path "Each question must be a JSON object."])

def checkQuestions (path : String) (items : List Json) : List Question × List Finding :=
  checkFrom (fun index item =>
    validateQuestionObject casefold item (path ++ "[" ++ toString index ++ "]")) 0 items

def difficultyKey : Difficulty → String
  | .easy => "easy"
  | .medium => "medium"
  | .hard => "hard"

/-- `difficulty.key.title()`. -/
def difficultyTitle : Difficulty → String
  | .easy => "Easy"
  | .medium => "Medium"
  | .hard => "Hard"

/-- `ActiveStudyDifficulty`, with the number of questions that a plan asks for. -/
structure Rule where
  key : Difficulty
  questionsPerCheckpoint : Int
  finalExamQuestions : Int

def suppliedDifficulty (rule : Rule) (fields : Fields) : List Finding :=
  let wrong := Finding.error "difficulty" ("This content is being imported as " ++
    difficultyKey rule.key ++ "; the optional difficulty must match it.")
  match getD fields "difficulty" with
  | .null => []
  | .str text => if text = (difficultyKey rule.key).toList then [] else [wrong]
  | _ => [wrong]

def partNumber (fields : Fields) (path : String) : Int × List Finding :=
  match getD fields "part" with
  | .int number => (number, [])
  | _ => (0, [.error (path ++ ".part") "Part number must be a positive integer."])

def partLength (rule : Rule) (limit : Option Nat) (number : Int) (length : Nat) (path : String) :
    List Finding :=
  match limit with
  | some limit =>
    if 1 ≤ length ∧ length ≤ limit then []
    else [.error (path ++ ".questions") ("Page " ++ toString number ++ " contains " ++
      toString length ++ " questions. Expected 1 to " ++ toString limit ++ ".")]
  | none =>
    if (length : Int) = rule.questionsPerCheckpoint then []
    else [.error (path ++ ".questions") ("Part " ++ toString number ++ " contains " ++
      toString length ++ " questions. Expected " ++ toString rule.questionsPerCheckpoint ++ ".")]

def partQuestions (rule : Rule) (limit : Option Nat) (number : Int) (fields : Fields)
    (path : String) : List Question × List Finding :=
  match getD fields "questions" with
  | .arr items =>
    let questions := checkQuestions casefold (path ++ ".questions") items
    (questions.1, partLength rule limit number items.length path ++ questions.2)
  | _ => ([], [.error (path ++ ".questions") "questions must be an array."])

def checkPart (rule : Rule) (limit : Option Nat) (index : Nat) (raw : Json) :
    Option Row × List Finding :=
  let path := "parts[" ++ toString index ++ "]"
  match raw with
  | .obj fields =>
    let number := partNumber fields path
    let questions := partQuestions casefold rule limit number.1 fields path
    (some ⟨number.1, questions.1⟩,
      (unknownKeys fields ["part", "questions"]).map (fun key =>
        .error (path ++ "." ++ key) "Unsupported part field.") ++ number.2 ++ questions.2)
  | _ => (none, [.error path "Each part must be a JSON object."])

/-- `list(range(1, number_of_parts + 1))`. -/
def partNumbers (numberOfParts : Nat) : List Int :=
  (List.range numberOfParts).map fun index : Nat => (index : Int) + 1

def sortedNumbers (numbers : List Int) : List Int := numbers.insertionSort (· ≤ ·)

def checkParts (rule : Rule) (numberOfParts : Nat) (limit : Option Nat) (fields : Fields) :
    List Row × List Finding :=
  match getD fields "parts" with
  | .arr items =>
    let checked := checkFrom (checkPart casefold rule limit) 0 items
    let rows := checked.1.filterMap id
    let length : List Finding :=
      if items.length = numberOfParts then []
      else [.error "parts" ("Expected " ++ toString numberOfParts ++ " parts for " ++
        difficultyTitle rule.key ++ ", but received " ++ toString items.length ++ ".")]
    let numbering : List Finding :=
      if sortedNumbers (rows.map Row.number) = partNumbers numberOfParts then []
      else [.error "parts" ("Part numbers must be consecutive: " ++
        ", ".intercalate ((partNumbers numberOfParts).map toString) ++ ".")]
    (rows, length ++ checked.2 ++ numbering)
  | _ => ([], [.error "parts" "parts must be an array."])

def checkFinalExam (rule : Rule) (fields : Fields) : List Question × List Finding :=
  match getD fields "final_exam" with
  | .obj exam =>
    let unknown := (unknownKeys exam ["questions"]).map fun key =>
      Finding.error ("final_exam." ++ key) "Unsupported final_exam field."
    match getD exam "questions" with
    | .arr items =>
      let questions := checkQuestions casefold "final_exam.questions" items
      let length : List Finding :=
        if (items.length : Int) = rule.finalExamQuestions then []
        else [.error "final_exam.questions" ("Final Exam contains " ++ toString items.length ++
          " questions. Expected " ++ toString rule.finalExamQuestions ++ ".")]
      (questions.1, unknown ++ length ++ questions.2)
    | _ => ([], unknown ++ [.error "final_exam.questions" "questions must be an array."])
  | _ => ([], [.error "final_exam" "final_exam must be an object."])

/-- The loops over `seen_questions`. -/
def repeatedQuestions : List Text → List Question → List Finding
  | _, [] => []
  | seen, question :: rest =>
    let text := normalized casefold question.prompt
    (if text ≠ [] ∧ text ∈ seen then [.error "questions"
      "Duplicate question text is not allowed within one difficulty import."] else []) ++
      repeatedQuestions (text :: seen) rest

/-- The parts of a document in the order they were found, and its final exam. -/
structure CheckedParts where
  rows : List Row
  finalExam : List Question

def validateParts (rule : Rule) (numberOfParts : Nat) (limit : Option Nat) (fields : Fields) :
    Except Refusal CheckedParts :=
  let unknown := (unknownKeys fields ["parts", "final_exam", "difficulty"]).map fun key =>
    Finding.error key "Unsupported root field."
  let parts := checkParts casefold rule numberOfParts limit fields
  let finalExam := checkFinalExam casefold rule fields
  conclude (unknown ++ suppliedDifficulty rule fields ++ parts.2 ++ finalExam.2 ++
    repeatedQuestions casefold [] (parts.1.flatMap Row.questions ++ finalExam.1))
    ⟨parts.1, finalExam.1⟩

def sortRows (rows : List Row) : List Row :=
  rows.insertionSort fun first second => first.number ≤ second.number

/-- `QUESTIONS_PER_PAGE` and `LEGACY_QUESTIONS_PER_PAGE`. -/
def questionsPerPage : Nat := 15

def legacyQuestionsPerPage : Nat := 20

def rangePages (range : PageRange) : List Int :=
  (List.range (range.endPage - range.startPage + 1).toNat).map fun index : Nat =>
    range.startPage + index

def pageNumber (item : Json) : Option Int :=
  match item with
  | .obj fields =>
    match getD fields "page" with
    | .int number => some number
    | _ => none
  | _ => none

def pageAsPart (index : Nat) (item : Json) : Json × List Finding :=
  let path := "pages[" ++ toString index ++ "]"
  match item with
  | .obj fields =>
    (.obj [("part", .int (index + 1)), ("questions", getD fields "questions")],
      (unknownKeys fields ["page", "questions"]).map fun key =>
        .error (path ++ "." ++ key) "Unsupported page field.")
  | _ => (.null, [.error path "Each page must be an object."])

def isLegacyPart (part : Json) : Bool :=
  match Json.member (some part) "questions" with
  | some (.arr items) => items.length = legacyQuestionsPerPage
  | _ => false

/-- The number of questions of each page, and the limit for banks of the newer kind. -/
def pageRule (rule : Rule) (parts : List Json) : Rule × Option Nat :=
  if parts ≠ [] ∧ parts.all isLegacyPart then
    ({ rule with questionsPerCheckpoint := legacyQuestionsPerPage }, none)
  else ({ rule with questionsPerCheckpoint := questionsPerPage }, some questionsPerPage)

def renameError (error : FieldError) : FieldError :=
  ⟨(error.path.replace "parts" "pages").replace ".part" ".page", error.message.replace "Part" "Page"⟩

def rawPages (expected : List Int) (fields : Fields) : List Json × List Finding :=
  match getD fields "pages" with
  | .arr items =>
    if expected = [] then ([], [.error "pages" "pages must contain every eligible PDF page."])
    else (items, [])
  | _ => ([], [.error "pages" "pages must contain every eligible PDF page."])

def partsFields (parts : List Json) (fields : Fields) : Fields :=
  [("parts", .arr parts), ("final_exam", getD fields "final_exam")] ++
    ((fields.lookup "difficulty").map fun value => ("difficulty", value)).toList

def validatePageBank (rule : Rule) (pageRanges : List PageRange) (fields : Fields) :
    Except Refusal CheckedParts :=
  let unknown := (unknownKeys fields ["pages", "final_exam", "difficulty"]).map fun key =>
    Finding.error key "Unsupported root field; this new sheet requires pages."
  let expected := pageRanges.flatMap rangePages
  let raw := rawPages expected fields
  let numbers := raw.1.filterMap pageNumber
  let numbering : List Finding :=
    if raw.1.all (fun item => (pageNumber item).isSome) ∧ sortedNumbers numbers = expected then []
    else [.error "pages" "Page numbers must match every eligible PDF page exactly once."]
  let parts := checkFrom pageAsPart 0 raw.1
  match conclude (unknown ++ raw.2 ++ numbering ++ parts.2) () with
  | .error refusal => .error refusal
  | .ok () =>
    let perPage := pageRule rule parts.1
    match validateParts casefold perPage.1 expected.length perPage.2
      (partsFields parts.1 fields) with
    | .error (.invalid errors) => .error (.invalid (errors.map renameError))
    | .error .typeError => .error .typeError
    | .ok checked =>
      .ok ⟨(numbers.zip (sortRows checked.rows)).map fun pair => ⟨pair.1, pair.2.questions⟩,
        checked.finalExam⟩

inductive QuestionFormat where
  | parts
  | pages

structure Validation where
  payload : QuestionDocument
  checkpointQuestionCount : Nat
  finalExamQuestionCount : Nat

def CheckedParts.validation (checked : CheckedParts) (bank : List Row → Bank) : Validation :=
  { payload := ⟨bank (sortRows checked.rows), checked.finalExam⟩
    checkpointQuestionCount := (checked.rows.map fun row => row.questions.length).sum
    finalExamQuestionCount := checked.finalExam.length }

/-- What a plan asks of the questions of a difficulty. -/
structure Requirements where
  rule : Rule
  numberOfParts : Nat
  pageRanges : List PageRange
  format : QuestionFormat

def validateActiveStudyQuestions (required : Requirements) (payload : Json) :
    Except Refusal Validation :=
  match payload with
  | .obj fields =>
    match required.format with
    | .parts =>
      (validateParts casefold required.rule required.numberOfParts none fields).map
        (·.validation .parts)
    | .pages =>
      (validatePageBank casefold required.rule required.pageRanges fields).map
        (·.validation .pages)
  | _ => .error (.invalid [⟨"payload", "The import must be a JSON object."⟩])

end

end LockIn.Content
