import LockIn.Content.Editing

/-!
# All questions of a sheet at once

One document carries the banks of the three difficulties and the Normal Questions of a sheet.
All of it is validated against the plan of an edition before anything is written, and every bank
is written by its own save, inside one transaction.
-/

namespace LockIn.Content

open Json (Fields getD unknownKeys)
open Outcome (refuse)
open Study (Difficulty Edition PageRange Plan)
open Transaction (Call andThen atomic decided write)
open Whitespace (Text strip isPythonSpace)

/-- What Python knows about characters and values. -/
structure Python where
  casefold : Text → Text
  /-- The value of a decimal digit of any script. -/
  digit : Char → Option Nat
  repr : Json → String

/-- What the administrator may do with questions. -/
structure Author where
  createsAssessments : Bool
  publishesAssessments : Bool

structure AllQuestionsContext where
  plans : Difficulty → Plan
  activeStudyEnabled : Bool
  settingsRevision : Nat
  excludedStartPages : Int
  excludedEndPages : Int
  exclusionsChanged : Bool

def allQuestionsContext (sheet : Sheet) (edition : Edition) (excludedStart excludedEnd : Option Int) :
    Except ContentError AllQuestionsContext :=
  if sheet.pageBankEnabled ∧ edition ≠ .university then
    .error (.rule ("Import page-based questions on the University Sheet tab; " ++
      "both editions share this bank."))
  else do
    let preview ← activeStudyPlanPreview sheet
      { PreviewRequest.stored with
        excludedStartPages := excludedStart, excludedEndPages := excludedEnd } edition
    let effective := Study.effectiveSettings sheet.outline edition
    return {
      plans := preview.plans
      activeStudyEnabled := effective.enabled
      settingsRevision := ((sheet.settings edition).map (·.revision)).getD 0
      excludedStartPages := preview.excludedStartPages
      excludedEndPages := preview.excludedEndPages
      exclusionsChanged :=
        (preview.excludedStartPages, preview.excludedEndPages) !=
          (effective.excludedStartPages, effective.excludedEndPages) }

section
variable (python : Python)

def digitsValue (digits : Text) : Int :=
  digits.foldl (fun value digit => value * 10 + ((python.digit digit).getD 0 : Nat)) 0

def isDigit (char : Char) : Bool := (python.digit char).isSome

/-- What `_PAGES` finds in a text: one page, or the first and the last of several. -/
def readPages (text : Text) : Option (Int × Int) :=
  let first := (text.dropWhile isPythonSpace).span (isDigit python)
  if first.1 = [] then none
  else
    match first.2.dropWhile isPythonSpace with
    | [] => some (digitsValue python first.1, digitsValue python first.1)
    | dash :: rest =>
      let last := (rest.dropWhile isPythonSpace).span (isDigit python)
      if dash ∈ ['-', '–', '—'] ∧ last.1 ≠ [] ∧ last.2.dropWhile isPythonSpace = [] then
        some (digitsValue python first.1, digitsValue python last.1)
      else none

def pagesMatch (value : Json) (start stop : Int) : Bool :=
  match value with
  | .int page => start = stop ∧ stop = page
  | .str text => readPages python text = some (start, stop)
  | _ => false

def plannedRange (ranges : List PageRange) (number : Json) (index : Nat) : Option PageRange :=
  match number with
  | .int number =>
    if 1 ≤ number ∧ number ≤ ranges.length then ranges[number.toNat - 1]? else ranges[index]?
  | _ => ranges[index]?

/-- A part without the `pages` that only echo the plan, which they must match. -/
def stripPages (path : String) (ranges : List PageRange) (index : Nat) (part : Json) :
    Json × List Finding :=
  match part with
  | .obj fields =>
    match fields.lookup "pages" with
    | none => (part, [])
    | some pages =>
      let rest := fields.filter (·.1 ≠ "pages")
      let findings : List Finding :=
        match plannedRange ranges (getD rest "part") index with
        | none => []
        | some range =>
          if pagesMatch python pages range.startPage range.endPage then []
          else [.error (path ++ ".parts[" ++ toString index ++ "].pages") ("Expected pages " ++
            toString range.startPage ++ "-" ++ toString range.endPage ++ ", received " ++
            python.repr pages ++ ".")]
      (.obj rest, findings)
  | _ => (part, [])

def strippedDocument (path : String) (ranges : List PageRange) (fields : Fields) :
    Fields × List Finding :=
  match fields.lookup "parts" with
  | some (.arr items) =>
    let parts := checkFrom (stripPages python path ranges) 0 items
    (fields.map fun entry => if entry.1 = "parts" then ("parts", .arr parts.1) else entry, parts.2)
  | _ => (fields, [])

def placedError (path title : String) (fields : Fields) (error : FieldError) : Finding :=
  .error (path ++ "." ++ error.path)
    (if error.path = "final_exam" ∧ (fields.lookup "final_exam").isNone then
      title ++ " Final Exam is missing."
    else error.message)

def noDocument : QuestionDocument := ⟨.parts [], []⟩

def validateDifficulty (sheet : Sheet) (plans : Difficulty → Plan) (active : Fields)
    (difficulty : Difficulty) : QuestionDocument × List Finding :=
  let plan := plans difficulty
  let title := difficultyTitle difficulty
  let path := "active_study." ++ difficultyKey difficulty
  match getD active (difficultyKey difficulty) with
  | .null => (noDocument, [.error path (title ++ " is missing.")])
  | .obj fields =>
    let stripped := strippedDocument python path plan.pageRanges fields
    match validateActiveStudyQuestions python.casefold
        (requirements sheet difficulty plan plan.pageRanges) (.obj stripped.1) with
    | .ok validation => (validation.payload, stripped.2)
    | .error (.invalid errors) =>
      (noDocument, stripped.2 ++ errors.map (placedError path title fields))
    | .error .typeError => (noDocument, [.unhashable])
  | _ => (noDocument, [.error path (title ++ " must be an object with parts and final_exam.")])

def maxImportQuestions : Nat := 200

def cleanString (value : Text) (index : Nat) (field : String) (required : Bool)
    (maxLength : Nat) : List ImportError :=
  let clean := strip value
  (if required && clean = [] then [⟨some index, field, field ++ " is required."⟩] else []) ++
    if maxLength < clean.length then
      [⟨some index, field, field ++ " exceeds " ++ toString maxLength ++ " characters."⟩]
    else []

def importedChoices (options : Options) (index : Nat) : List ImportError :=
  let choices := letters.map fun letter => strip (options.text letter)
  (letters.zipIdx.flatMap fun entry =>
    cleanString (options.text entry.1) index ("choices[" ++ toString entry.2 ++ "]") true 2000) ++
    if (choices.map (normalized python.casefold)).Nodup then []
    else [⟨some index, "choices", "choices must be unique."⟩]

/-- The checks of `validate_question_import` on a question of the two kinds that are sent to it
from here. -/
def importErrors (index : Nat) (question : Question) : List ImportError :=
  cleanString question.prompt index "question" true 10000 ++
    cleanString question.explanation index "explanation" false 10000 ++
    match question.answer with
    | .trueFalse _ => []
    | .mcq _ options correct =>
      importedChoices python options index ++
        if options.text correct ∈ letters.map (fun letter => strip (options.text letter)) then []
        else [⟨some index, "correct_answer", "correct_answer must exactly match one choice."⟩]

def validateQuestionImport (questions : List Question) :
    Except (List ImportError) (List Question) :=
  if ¬(1 ≤ questions.length ∧ questions.length ≤ maxImportQuestions) then
    .error [⟨none, "questions", "questions must contain between 1 and 200 items."⟩]
  else
    let errors := questions.zipIdx.flatMap fun entry => importErrors python entry.2 entry.1
    if errors = [] then .ok (questions.map Question.stripped) else .error errors

def importFinding (error : ImportError) : Finding :=
  match error.index with
  | some index =>
    .error ("sheet_questions.questions[" ++ toString index ++ "]." ++ error.field) error.message
  | none => .error ("sheet_questions." ++ error.field) error.message

/-- The loop over `seen`, with the place of each question. -/
def repeatedNormal : Nat → List Text → List Question → List Finding
  | _, _, [] => []
  | index, seen, question :: rest =>
    let text := normalized python.casefold question.prompt
    (if text ≠ [] ∧ text ∈ seen then
      [.error ("sheet_questions.questions[" ++ toString index ++ "].question")
        "Duplicate question text is not allowed within Normal Questions."] else []) ++
      repeatedNormal (index + 1) (text :: seen) rest

def validateSheetQuestions (raw : Json) (expected : Nat) :
    Option (List Question) × List Finding :=
  if expected = 0 then
    let received := match raw with
      | .obj fields => (getD fields "questions").count
      | _ => 0
    (none, if received = 0 then [] else [.error "sheet_questions.questions"
      ("Expected 0 questions (none were requested). Received " ++ toString received ++ ".")])
  else
    match raw with
    | .null => (none, [.error "sheet_questions" "Normal Questions are missing."])
    | .obj fields =>
      let unknown := (unknownKeys fields ["questions"]).map fun key =>
        Finding.error ("sheet_questions." ++ key) "Unsupported sheet_questions field."
      match getD fields "questions" with
      | .arr items =>
        let length : List Finding :=
          if items.length = expected then []
          else [.error "sheet_questions.questions" ("Expected " ++ toString expected ++
            " questions. Received " ++ toString items.length ++ ".")]
        let checked := checkQuestions python.casefold "sheet_questions.questions" items
        let own := checked.2 ++ repeatedNormal python 0 [] checked.1
        if own ≠ [] ∨ items.length ≠ expected then (none, unknown ++ length ++ own)
        else
          match validateQuestionImport python checked.1 with
          | .ok _ => (some checked.1, unknown)
          | .error errors => (none, unknown ++ errors.map importFinding)
      | _ => (none, unknown ++ [.error "sheet_questions.questions" "questions must be an array."])
    | _ => (none, [.error "sheet_questions" "sheet_questions must be an object with questions."])

structure AllQuestionsValidation where
  context : AllQuestionsContext
  payload : Difficulty → QuestionDocument
  sheetQuestions : Option (List Question)

/-- What is wrong outside of the difficulties. -/
def documentFindings (fields : Fields) : List Finding :=
  (unknownKeys fields ["active_study", "sheet_questions"]).map fun key =>
    .error key "Unsupported root field."

def activeStudyFields (fields : Fields) : Fields × List Finding :=
  match getD fields "active_study" with
  | .obj active =>
    (active, (unknownKeys active (difficulties.map difficultyKey)).map fun key =>
      .error ("active_study." ++ key) (if key = "final_exam" then
        "There is no shared Final Exam. Each difficulty has its own: " ++
          "active_study.easy.final_exam, active_study.medium.final_exam and " ++
          "active_study.hard.final_exam."
      else "Unsupported difficulty. Use easy, medium and hard."))
  | _ => ([], [.error "active_study"
      "active_study must be an object with easy, medium and hard."])

def allQuestionsRefused : Refusal → ContentError
  | .invalid errors => .allQuestionsInvalid errors
  | .typeError => .typeError

def checkedDocument (sheet : Sheet) (context : AllQuestionsContext) (payload : Json)
    (sheetQuestionCount : Nat) : AllQuestionsValidation × List Finding :=
  match payload with
  | .obj fields =>
    let active := activeStudyFields fields
    let checked (difficulty : Difficulty) :=
      validateDifficulty python sheet context.plans active.1 difficulty
    let sheetQuestions :=
      validateSheetQuestions python (getD fields "sheet_questions") sheetQuestionCount
    (⟨context, fun difficulty => (checked difficulty).1, sheetQuestions.1⟩,
      documentFindings fields ++ active.2 ++
        difficulties.flatMap (fun difficulty => (checked difficulty).2) ++ sheetQuestions.2)
  | _ => (⟨context, fun _ => noDocument, none⟩,
      [.error "payload" "The JSON must be one object with active_study and sheet_questions."])

def validateAllQuestions (sheet : Sheet) (payload : Json) (edition : Edition)
    (sheetQuestionCount : Nat) (excludedStart excludedEnd : Option Int) :
    Except ContentError AllQuestionsValidation := do
  let context ← allQuestionsContext sheet edition excludedStart excludedEnd
  let checked := checkedDocument python sheet context payload sheetQuestionCount
  (conclude checked.2 checked.1).mapError allQuestionsRefused

def importAllowed (author : Author) (publish : Bool) (sheet : Sheet) (questions : List Question) :
    Except ContentError (List Question) := do
  let imported ← (validateQuestionImport python questions).mapError ContentError.importInvalid
  refuse [
    (sheet.currentVersion.isNone, .rule "The selected sheet has no current version."),
    (!author.createsAssessments,
      .rule "You cannot create assessments in this education scope."),
    (publish && !author.publishesAssessments, .rule "You cannot publish this question."),
    (publish && !sheet.pathDiscoverable,
      .rule "Publish the education path before publishing this question.")]
  return imported

/-- `import_questions`, for the origin that marks an import of all questions. -/
def importQuestions (author : Author) (publish : Bool) (questions : List Question) :
    Call Sheet ContentError Unit :=
  atomic (andThen (decided fun sheet => importAllowed python author publish sheet questions)
    fun imported => write fun sheet =>
      { sheet with questions := sheet.questions ++ imported.map fun question =>
          ⟨question, true, if publish then .published else .draft⟩ })

def archiveImported (sheet : Sheet) : Sheet :=
  { sheet with questions := sheet.questions.map fun row =>
      if row.fromAllQuestions ∧ row.status ≠ .retired then { row with status := .retired } else row }

def saveSheetQuestions (author : Author) (publish : Bool) (questions : Option (List Question)) :
    Call Sheet ContentError Unit :=
  match questions with
  | none => Transaction.answer ()
  | some questions =>
    andThen (write archiveImported) fun _ => importQuestions python author publish questions

structure SaveRequest where
  payload : Json
  edition : Edition
  sheetQuestionCount : Nat
  excludedStartPages : Option Int
  excludedEndPages : Option Int
  settingsRevision : Nat
  expectedRevisions : Difficulty → Nat
  publishSheetQuestions : Bool

def saveExclusions (now : Nat) (context : AllQuestionsContext) (request : SaveRequest) :
    Call Sheet ContentError Unit :=
  if context.exclusionsChanged then
    updateActiveStudySettings now
      { expectedRevision := request.settingsRevision
        enabled := context.activeStudyEnabled
        values := { PreviewRequest.stored with
          excludedStartPages := some context.excludedStartPages
          excludedEndPages := some context.excludedEndPages }
        confirmBoundaryChange := true } request.edition
  else if context.settingsRevision ≠ request.settingsRevision then
    Transaction.refuse settingsChanged
  else Transaction.answer ()

def saveAllQuestions (now : Nat) (author : Author) (request : SaveRequest) :
    Call Sheet ContentError Unit :=
  atomic (andThen
    (decided fun sheet => validateAllQuestions python sheet request.payload request.edition
      request.sheetQuestionCount request.excludedStartPages request.excludedEndPages)
    fun validation => andThen (saveExclusions now validation.context request) fun _ =>
      andThen (Transaction.forEach (fun difficulty =>
        saveActiveStudyQuestionContent python.casefold now difficulty
          (validation.payload difficulty).toJson (request.expectedRevisions difficulty)
          request.edition) difficulties) fun _ =>
        saveSheetQuestions python author request.publishSheetQuestions validation.sheetQuestions)

end

end LockIn.Content
