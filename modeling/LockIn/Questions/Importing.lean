import LockIn.Education.Publishing
import LockIn.Library.Json
import LockIn.Library.Whitespace
import Mathlib

/-!
# Importing questions

An administrator imports questions for a sheet as a JSON document.  The whole document is looked
through, and what is wrong with it is listed with the question it was found in.  A question of a
kind that is not known is not looked at any further.

What was found in order is written as one batch, question after question in the order of the
document, and each is published where that is asked for.  All of it happens in one transaction.
The columns of the database are narrower than what the check lets through.
-/

namespace LockIn.Questions

open Education (QuestionType Difficulty)
open Json (Fields getD unknownKeys)
open Whitespace (Text strip singleSpaced)

/-- The kinds of questions under the names the document has for them. -/
inductive SchemaType where
  | mcq
  | trueFalse
  | multipleSelect
deriving DecidableEq

def SchemaType.value : SchemaType → String
  | .mcq => "mcq"
  | .trueFalse => "true_false"
  | .multipleSelect => "multiple_select"

def schemaTypes : List SchemaType := [.mcq, .trueFalse, .multipleSelect]

def commonFields : List String :=
  ["type", "question", "explanation", "difficulty", "topic", "source_page"]

def typeFields : SchemaType → List String
  | .mcq => ["choices", "correct_answer"]
  | .trueFalse => ["correct_answer"]
  | .multipleSelect => ["choices", "correct_answers"]

def schemaVersion : Text := "lockin_questions_v1".toList

def maxImportQuestions : Nat := 200

/-- An error or a warning, with the place of its question if it is about one. -/
structure Notice where
  index : Option Nat
  field : String
  message : String

structure ImportedQuestion where
  schemaType : SchemaType
  questionType : QuestionType
  prompt : Text
  choices : List Text
  correctAnswers : List Text
  explanation : Text
  difficulty : Difficulty
  topic : Text
  sourcePage : Option Nat

/-- How a check ends that does not accept: with a list of errors, or at a value that cannot be
looked up in a dictionary. -/
inductive ImportFailure where
  | invalid (errors : List Notice)
  | typeError

def cleanString (value : Json) (index : Nat) (field : String) (required : Bool)
    (maxLength : Nat) : Text × List Notice :=
  match value, required with
  | .null, false => ([], [])
  | .str text, _ =>
    let clean := strip text
    (clean,
      (if required ∧ clean = [] then [⟨some index, field, field ++ " is required."⟩] else []) ++
        if maxLength < clean.length then
          [⟨some index, field, field ++ " exceeds " ++ toString maxLength ++ " characters."⟩]
        else [])
  | _, _ => ([], [⟨some index, field, field ++ " must be a string."⟩])

def optionalString (fields : Fields) (index : Nat) (field : String) (maxLength : Nat) :
    Text × List Notice :=
  cleanString ((fields.lookup field).getD (.str [])) index field false maxLength

def choiceString (index : Nat) (entry : Json × Nat) : Text × List Notice :=
  cleanString entry.1 index ("choices[" ++ toString entry.2 ++ "]") true 2000

def schemaTypeOf (text : Text) : Option SchemaType :=
  schemaTypes.find? fun type => type.value.toList = text

def difficultyOf (text : Text) : Option Difficulty :=
  if text = "easy".toList then some .easy
  else if text = "medium".toList then some .medium
  else if text = "hard".toList then some .hard
  else none

def readDifficulty (fields : Fields) (index : Nat) : Difficulty × List Notice :=
  let wrong : Notice := ⟨some index, "difficulty", "Difficulty must be easy, medium, or hard."⟩
  match fields.lookup "difficulty" with
  | none => (.medium, [])
  | some (.str text) =>
    match difficultyOf text with
    | some difficulty => (difficulty, [])
    | none => (.medium, [wrong])
  | some _ => (.medium, [wrong])

def readSourcePage (fields : Fields) (index : Nat) : Option Nat × List Notice :=
  let wrong : Notice :=
    ⟨some index, "source_page", "source_page must be null or a positive integer."⟩
  match getD fields "source_page" with
  | .null => (none, [])
  | .int page => if page < 1 then (none, [wrong]) else (some page.toNat, [])
  | _ => (none, [wrong])

structure Answers where
  choices : List Text
  correct : List Text
  errors : List Notice

def trueFalseAnswers (fields : Fields) (index : Nat) : Answers :=
  let choices := ["True".toList, "False".toList]
  match getD fields "correct_answer" with
  | .bool correct => ⟨choices, [if correct then "True".toList else "False".toList], []⟩
  | _ => ⟨choices, ["True".toList],
      [⟨some index, "correct_answer", "True/false correct_answer must be a boolean."⟩]⟩

def strings? (values : List Json) : Option (List Text) :=
  values.mapM fun value => match value with
    | .str text => some text
    | _ => none

section
variable (casefold : Text → Text)

/-- `" ".join(text.split()).casefold()`. -/
def normalizeOption (text : Text) : Text := casefold (singleSpaced text)

/-- `_choices`. -/
def readChoices (value : Json) (index : Nat) : List Text × List Notice :=
  let wrong : Notice :=
    ⟨some index, "choices", "choices must contain between 2 and 12 strings."⟩
  match value with
  | .arr items =>
    if 2 ≤ items.length ∧ items.length ≤ 12 then
      let read := items.zipIdx.map (choiceString index)
      let choices := read.map (·.1)
      (choices, read.flatMap (·.2) ++
        if (choices.map (normalizeOption casefold)).Nodup then []
        else [⟨some index, "choices", "choices must be unique."⟩])
    else ([], [wrong])
  | _ => ([], [wrong])

def mcqAnswers (fields : Fields) (index : Nat) : Answers :=
  let choices := readChoices casefold (getD fields "choices") index
  let wrong : Notice :=
    ⟨some index, "correct_answer", "correct_answer must exactly match one choice."⟩
  match getD fields "correct_answer" with
  | .str answer =>
    if answer ∈ choices.1 then ⟨choices.1, [answer], choices.2⟩
    else ⟨choices.1, [], choices.2 ++ [wrong]⟩
  | _ => ⟨choices.1, [], choices.2 ++ [wrong]⟩

def multipleSelectAnswers (fields : Fields) (index : Nat) : Answers :=
  let choices := readChoices casefold (getD fields "choices") index
  let wrong : Notice :=
    ⟨some index, "correct_answers", "correct_answers must contain at least two choice strings."⟩
  match getD fields "correct_answers" with
  | .arr items =>
    match strings? items with
    | some answers =>
      if answers.length < 2 then ⟨choices.1, [], choices.2 ++ [wrong]⟩
      else ⟨choices.1, answers, choices.2 ++
        (if answers.Nodup then []
        else [⟨some index, "correct_answers", "correct_answers must be unique."⟩]) ++
        if ∀ answer ∈ answers, answer ∈ choices.1 then []
        else [⟨some index, "correct_answers", "Every correct answer must exist in choices."⟩]⟩
    | none => ⟨choices.1, [], choices.2 ++ [wrong]⟩
  | _ => ⟨choices.1, [], choices.2 ++ [wrong]⟩

def readAnswers (type : SchemaType) (fields : Fields) (index : Nat) : Answers :=
  match type with
  | .trueFalse => trueFalseAnswers fields index
  | .mcq => mcqAnswers casefold fields index
  | .multipleSelect => multipleSelectAnswers casefold fields index

def storedType : SchemaType → QuestionType
  | .trueFalse => .trueFalse
  | .mcq => .singleChoice
  | .multipleSelect => .multipleSelect

/-- What the loop over the questions has put together. -/
structure Checked where
  questions : List ImportedQuestion
  errors : List Notice
  warnings : List Notice

/-- A question of a kind that is known. -/
def checkFields (type : SchemaType) (fields : Fields) (index : Nat) : Checked :=
  let unknown := (unknownKeys fields (commonFields ++ typeFields type)).map fun field =>
    (⟨some index, field, "Unsupported field for " ++ type.value ++ ": " ++ field ++ "."⟩ : Notice)
  let prompt := cleanString (getD fields "question") index "question" true 10000
  let explanation := optionalString fields index "explanation" 10000
  let topic := optionalString fields index "topic" 220
  let difficulty := readDifficulty fields index
  let sourcePage := readSourcePage fields index
  let answers := readAnswers casefold type fields index
  { questions := [⟨type, storedType type, prompt.1, answers.choices, answers.correct,
      explanation.1, difficulty.1, topic.1, sourcePage.1⟩]
    errors := unknown ++ prompt.2 ++ explanation.2 ++ topic.2 ++ difficulty.2 ++ sourcePage.2 ++
      answers.errors
    warnings := if explanation.1 = [] then
        [⟨some index, "explanation", "Explanation is empty."⟩]
      else [] }

/-- One round of the loop. -/
def checkQuestion (index : Nat) (raw : Json) : Except ImportFailure Checked :=
  let refused (field message : String) : Checked := ⟨[], [⟨some index, field, message⟩], []⟩
  let unsupported :=
    refused "type" "Supported types are mcq, true_false, and multiple_select."
  match raw with
  | .obj fields =>
    match getD fields "type" with
    | .str text =>
      match schemaTypeOf text with
      | some type => .ok (checkFields casefold type fields index)
      | none => .ok unsupported
    | value => if value.hashable then .ok unsupported else .error .typeError
  | _ => .ok (refused "question" "Each question must be a JSON object.")

def Checked.append (first second : Checked) : Checked where
  questions := first.questions ++ second.questions
  errors := first.errors ++ second.errors
  warnings := first.warnings ++ second.warnings

def checkQuestions : Nat → List Json → Except ImportFailure Checked
  | _, [] => .ok ⟨[], [], []⟩
  | index, raw :: rest => do
    let checked ← checkQuestion casefold index raw
    let others ← checkQuestions (index + 1) rest
    return checked.append others

/-- `Counter(question.schema_type for question in normalized_questions)`, for each kind. -/
def typeCounts (questions : List ImportedQuestion) (type : SchemaType) : Nat :=
  questions.countP (·.schemaType = type)

structure ImportValidationResult where
  questions : List ImportedQuestion
  typeCounts : SchemaType → Nat
  warnings : List Notice

def rootErrors (fields : Fields) : List Notice :=
  (unknownKeys fields ["version", "questions"]).map (fun field =>
    ⟨none, field, "Unsupported root field: " ++ field ++ "."⟩) ++
  match getD fields "version" with
  | .str text =>
    if text = schemaVersion then []
    else [⟨none, "version", "Schema version must be lockin_questions_v1."⟩]
  | _ => [⟨none, "version", "Schema version must be lockin_questions_v1."⟩]

def validateQuestionImport (payload : Json) : Except ImportFailure ImportValidationResult :=
  let wrongCount : Notice :=
    ⟨none, "questions", "questions must contain between 1 and " ++ toString maxImportQuestions ++
      " items."⟩
  match payload with
  | .obj fields =>
    match getD fields "questions" with
    | .arr items =>
      if 1 ≤ items.length ∧ items.length ≤ maxImportQuestions then do
        let checked ← checkQuestions casefold 0 items
        let errors := rootErrors fields ++ checked.errors
        if errors = [] then
          return ⟨checked.questions, typeCounts checked.questions, checked.warnings⟩
        else throw (.invalid errors)
      else .error (.invalid (rootErrors fields ++ [wrongCount]))
    | _ => .error (.invalid (rootErrors fields ++ [wrongCount]))
  | _ => .error (.invalid [⟨none, "payload", "The import must be a JSON object."⟩])

end

open Education (Actor CatalogueError Site Uuid World createQuestion findLearningObject
  publishCurrent sheetNode)
open Whitespace (Text strip singleSpaced)

/-- What Python knows about characters, and the settings. -/
structure Python where
  casefold : Text → Text
  /-- `unicodedata.normalize("NFKC", text)`. -/
  nfkc : Text → Text
  settings : Site

/-- Where a call of an import comes from: the import of a sheet, of previous years' questions, or
of all questions at once. -/
inductive Origin where
  | sheet
  | exam
  | allQuestions

def Origin.metadata : Origin → Text
  | .sheet => "\x7b\x7d".toList
  | .exam => "\x7b\"source\":\"exam\"\x7d".toList
  | .allQuestions => "\x7b\"import_origin\":\"all_questions\"\x7d".toList

inductive ImportError where
  | validation (failure : ImportFailure)
  | catalogue (error : CatalogueError)
  /-- A value that does not fit the column it is written to. -/
  | data

/-- What the import hands to `create_question` as the options. -/
def importedOptions (question : ImportedQuestion) : List Education.QuestionOption :=
  question.choices.map fun choice => ⟨choice, decide (choice ∈ question.correctAnswers)⟩

def questionInput (batch sheet node : Uuid) (metadata : Text) (question : ImportedQuestion) :
    Education.QuestionInput where
  academicNode := node
  questionType := question.questionType
  prompt := question.prompt
  options := importedOptions question
  explanation := question.explanation
  difficulty := question.difficulty
  language := "en".toList
  metadata := metadata
  sourceLearningObject := some sheet
  topic := question.topic
  sourcePage := question.sourcePage
  importBatch := some batch

def maxInteger : Nat := 2147483647

def fitsText (text : Text) : Bool := '\x00' ∉ text

def fitsColumns (question : ImportedQuestion) : Bool :=
  question.sourcePage.all (· ≤ maxInteger) &&
    (question.prompt :: question.explanation :: question.topic :: question.choices).all fitsText

section
variable (python : Python)

def site : Site :=
  { python.settings with
    texts := { python.settings.texts with
      strip := strip
      normalizeOption := normalizeOption python.casefold } }

def normalizeSearchText (value : Text) : Text :=
  singleSpaced (python.casefold (python.nfkc value))

def fitsIndex (question : ImportedQuestion) : Bool :=
  (normalizeSearchText python (question.prompt.take 220)).length ≤ 220

/-- One round of the loop. -/
def importQuestion (actor : Actor) (batch sheet node : Uuid) (metadata : Text) (publish : Bool)
    (now : Nat) (world : World) (entry : ImportedQuestion × Uuid) : Except ImportError World := do
  let created ← (createQuestion (site python) actor world entry.2
    (questionInput batch sheet node metadata entry.1)).mapError .catalogue
  if !fitsColumns entry.1 then throw .data
  else if publish then do
    let published ← (publishCurrent actor created entry.2 now).mapError .catalogue
    if !fitsIndex python entry.1 then throw .data else return published
  else return created

/-- `ids` are the identifiers that the questions are given. -/
def importQuestions (actor : Actor) (world : World) (batch sheet : Uuid) (ids : Nat → Uuid)
    (payload : Json) (publish : Bool) (origin : Origin) (now : Nat) :
    Except ImportError World := do
  let validation ← (validateQuestionImport python.casefold payload).mapError .validation
  let found ← (findLearningObject world sheet).mapError .catalogue
  let node ← (sheetNode found).mapError .catalogue
  if world.batches.any (·.id = batch) then throw (.catalogue .database)
  else
    (validation.questions.zipIdx.map fun entry => (entry.1, ids entry.2)).foldlM
      (importQuestion python actor batch sheet node origin.metadata publish now)
      { world with
        batches := world.batches ++
          [⟨batch, node, sheet, if publish then .published else .draft,
            validation.questions.length, none, none⟩] }

end

end LockIn.Questions
