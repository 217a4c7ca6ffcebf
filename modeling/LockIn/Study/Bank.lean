import LockIn.Study.Pages

/-!
# Sheets, their plans and their question banks

A sheet has one question bank for each difficulty and up to two editions, each a PDF with
its own pages.  The bank holds the questions of each part, or of each page; in the second
case the questions of a checkpoint are selected from the pages it covers.
-/

namespace LockIn.Study

open Outcome

inductive Difficulty where
  | easy
  | medium
  | hard
deriving DecidableEq

inductive Edition where
  | university
  | lockin
deriving DecidableEq

inductive StudyMode where
  | standard
  | custom
  | pomodoro
deriving DecidableEq

inductive AttemptKind where
  | checkpoint
  | final
deriving DecidableEq

/-- Why a call is refused: a rule of Active Study, a replayed event that comes too early, a
row that the database does not take, or another exception. -/
inductive StudyError where
  | rule (message : String)
  | outOfOrder (message : String)
  | integrity
  | crash (exception : String)
deriving DecidableEq

inductive QuestionForm where
  | mcq (options : List (String × String)) (correct : String)
  | trueFalse (correct : Bool)
deriving DecidableEq

/-- A question; one selected from a page bank carries the page and its place there. -/
structure Question where
  prompt : String
  explanation : String
  form : QuestionForm
  sourceKey : Option (Int × Nat)
deriving DecidableEq

def displayOptions (question : Question) : List (String × String) :=
  match question.form with
  | .trueFalse _ => [("T", "True"), ("F", "False")]
  | .mcq options _ => options

def correctAnswer (question : Question) : String :=
  match question.form with
  | .trueFalse correct => if correct then "T" else "F"
  | .mcq _ correct => correct

structure PartQuestions where
  part : Nat
  questions : List Question

structure PageQuestions where
  page : Int
  questions : List Question

inductive Bank where
  | parts (rows : List PartQuestions)
  | pages (rows : List PageQuestions)

/-- The bank of one difficulty, with the ranges it was imported against. -/
structure ActiveStudyQuestionContent where
  bank : Bank
  finalExam : List Question
  revision : Nat
  sourceRanges : List PageRange
  sourceChanged : Bool

def ActiveStudyQuestionContent.pages? (content : ActiveStudyQuestionContent) :
    Option (List PageQuestions) :=
  match content.bank with
  | .parts _ => none
  | .pages rows => some rows

def usable (page : PageQuestions) : Nat :=
  min questionsPerPage page.questions.length

/-- The pages that are asked about: all of them, or as many as there are questions, spread
over the range. -/
def spreadPages (pages : List PageQuestions) (count : Nat) : List PageQuestions :=
  if count < pages.length then
    (List.range count).filterMap fun index => pages[index * pages.length / count]?
  else pages

def questionAt (position : Nat) (page : PageQuestions) : Option Question :=
  (page.questions[position]?).map fun question =>
    { question with sourceKey := some (page.page, position + 1) }

/-- The two loops of `select_page_questions`, cut off when enough are selected. -/
def selectFrom (pages : List PageQuestions) (count : Nat) : List Question :=
  let longest := (pages.map (·.questions.length)).foldl max 0
  ((List.range (min questionsPerPage longest)).flatMap fun position =>
    pages.filterMap (questionAt position)).take count

def selectPageQuestions (rows : List PageQuestions) (start stop count : Int) :
    Except String (List Question) :=
  let pages := rows.filter fun row => start ≤ row.page ∧ row.page ≤ stop
  let available := (pages.map usable).sum
  if pages = [] ∨ count < 1 ∨ count > pages.length * questionsPerPage ∨ available < 1 then
    .error "There are not enough questions for these pages."
  else
    let wanted := min count.toNat available
    .ok (selectFrom (spreadPages pages wanted) wanted)

def maxCustomQuestions : Int := 30

/-- `max_available_custom_questions`: what the least stocked checkpoint of a custom plan has. -/
def maxAvailableCustomQuestions (rows : List PageQuestions) (start stop pagesPerCheckpoint : Int) :
    Except String Int := do
  let groups ← customPageRanges start stop pagesPerCheckpoint
  let stock (page : Int) : Nat :=
    ((rows.reverse.find? fun row => row.page == page).map usable).getD 0
  let stocked (group : PageRange) : Int :=
    (((List.range (group.endPage - group.startPage + 1).toNat).map fun index =>
      stock (group.startPage + index)).sum : Nat)
  return groups.foldl (fun maximum group => min maximum (stocked group)) maxCustomQuestions

structure EditionSettings where
  enabled : Bool
  totalPdfPages : Option Int
  excludedStartPages : Int
  excludedEndPages : Int
  questionsPerCheckpoint : Int
  finalExamQuestions : Int
  sourceChanged : Bool

/-- A sheet as Active Study reads it.  `pdfPages` is the page count of an edition's file and
`complete` whether the bank of a difficulty passes validation for an edition. -/
structure Sheet where
  visibleTo : Nat → Bool
  published : Bool
  pageBankEnabled : Bool
  settings : Edition → Option EditionSettings
  pdfPages : Edition → Option Int
  questions : Difficulty → Option ActiveStudyQuestionContent
  complete : Difficulty → Edition → Bool

structure EffectiveSettings where
  enabled : Bool
  excludedStartPages : Int
  excludedEndPages : Int
  own : Option EditionSettings

def effectiveSettings (sheet : Sheet) (edition : Edition) : EffectiveSettings :=
  match sheet.settings edition with
  | some own => ⟨own.enabled, own.excludedStartPages, own.excludedEndPages, some own⟩
  | none =>
    -- The Lock-in edition follows the University sheet until it has settings of its own.
    if edition = .lockin ∧ (sheet.settings .university).any (·.enabled) then ⟨true, 0, 0, none⟩
    else ⟨false, 0, 0, none⟩

def resolveTotalPdfPages (sheet : Sheet) (edition : Edition) : Option Int :=
  match (sheet.settings edition).bind (·.totalPdfPages) with
  | some configured => some configured
  | none => (sheet.pdfPages edition).filter (0 < ·)

structure Plan where
  questionsPerCheckpoint : Int
  finalExamQuestions : Int
  pageRanges : List PageRange

def targetPagesPerPart : Difficulty → Int
  | .easy => 6
  | .medium => 5
  | .hard => 4

def pageCounts (sheet : Sheet) (edition : Edition) (total : Int) : PageCounts :=
  let effective := effectiveSettings sheet edition
  ⟨total, effective.excludedStartPages, effective.excludedEndPages⟩

/-- `edition_plan`, all of whose difficulties have to be planned for one to be. -/
def editionPlan (sheet : Sheet) (edition : Edition)
    (mirrored : Option (Difficulty → MirroredParts)) : Except String (Difficulty → Plan) :=
  match resolveTotalPdfPages sheet edition with
  | none => .error "PDF page count is missing."
  | some total =>
    let perCheckpoint := ((sheet.settings .university).map (·.questionsPerCheckpoint)).getD 15
    let perExam := ((sheet.settings .university).map (·.finalExamQuestions)).getD 50
    if ¬(1 ≤ perCheckpoint ∧ perCheckpoint ≤ 200) ∨ ¬(1 ≤ perExam ∧ perExam ≤ 200) then
      .error "Question counts must be between 1 and 200."
    else
      let ranges (difficulty : Difficulty) : Except String (List PageRange) :=
        (pageRanges (pageCounts sheet edition total) (targetPagesPerPart difficulty)
          (mirrored.map (· difficulty))).mapError (·.message)
      match ranges .easy, ranges .medium, ranges .hard with
      | .ok easy, .ok medium, .ok hard =>
        .ok fun
          | .easy => ⟨perCheckpoint, perExam, easy⟩
          | .medium => ⟨perCheckpoint, perExam, medium⟩
          | .hard => ⟨perCheckpoint, perExam, hard⟩
      | .error message, _, _ => .error message
      | _, .error message, _ => .error message
      | _, _, .error message => .error message

def mirroredParts (plan : Plan) : MirroredParts :=
  { numberOfParts := plan.pageRanges.length
    sizes := plan.pageRanges.map fun range => range.endPage - range.startPage + 1 }

def lockinPlanInputs (sheet : Sheet) : Option (Difficulty → MirroredParts) :=
  match editionPlan sheet .university none with
  | .ok plans => some fun difficulty => mirroredParts (plans difficulty)
  | .error _ => none

def pinnedParts (sheet : Sheet) (edition : Edition) :
    Except StudyError (Option (Difficulty → MirroredParts)) :=
  match edition with
  | .university => .ok none
  | .lockin =>
    match lockinPlanInputs sheet with
    | none => .error (.rule "Active Study is not configured for this sheet.")
    | some inputs => .ok (some inputs)

def planForSheet (sheet : Sheet) (edition : Edition) : Except StudyError (Difficulty → Plan) := do
  let effective := effectiveSettings sheet edition
  refuse [
    (!effective.enabled, .rule "Active Study is disabled for this sheet."),
    (effective.own.any (·.totalPdfPages.isNone),
      .rule "Active Study is not configured for this sheet."),
    (effective.own.any (·.sourceChanged),
      .rule "Active Study needs review because the source PDF changed.")]
  let mirrored ← pinnedParts sheet edition
  (editionPlan sheet edition mirrored).mapError .rule

def importedRanges (sheet : Sheet) (edition : Edition) (difficulty : Difficulty) (plan : Plan) :
    List PageRange :=
  match edition with
  | .university => plan.pageRanges
  | .lockin =>
    match editionPlan sheet .university none with
    | .ok plans => (plans difficulty).pageRanges
    | .error _ => []

/-- `_content`: the bank of a difficulty with the plan of an edition. -/
def contentFor (sheet : Sheet) (difficulty : Difficulty) (edition : Edition) :
    Except StudyError (ActiveStudyQuestionContent × Plan) := do
  let plans ← planForSheet sheet edition
  let plan := plans difficulty
  match sheet.questions difficulty with
  | none => .error (.rule "Active Study questions are not configured yet.")
  | some content => do
    refuse [
      (content.sourceRanges != importedRanges sheet edition difficulty plan,
        .rule "Active Study questions need review after the page plan changed."),
      (content.sourceChanged,
        .rule "Active Study questions need review because the source PDF changed."),
      (!sheet.complete difficulty edition, .rule "Active Study questions are incomplete.")]
    return (content, plan)

end LockIn.Study
