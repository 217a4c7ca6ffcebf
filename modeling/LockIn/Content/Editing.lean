import LockIn.Content.Acceptance
import LockIn.Library.Transaction

/-!
# Sheets and their Active Study

A sheet has versions, each with a PDF for every edition, Active Study settings for each edition
and one question bank for each difficulty, which both editions share.  What students are offered
is decided from all of these at once: the settings must describe the PDF that is open now, the
plan must be the one the questions were imported for, and the questions must pass it.

The administrator previews a plan, saves the settings of an edition and imports the questions of
a difficulty.  All three plan through `planPayload`, from what was submitted or else from what is
stored.
-/

namespace LockIn.Content

open Outcome
open Study (Difficulty Edition PageRange Plan StudyError)
open Whitespace (Text)

structure ManagedFile where
  id : Nat
  pdfPageCount : Option Int
  isPdf : Bool

/-- A version of a sheet.  `file` is the asset in the primary role of an edition. -/
structure Version where
  id : Nat
  pageCount : Option Int
  file : Edition → Option ManagedFile

structure ActiveStudySettings where
  enabled : Bool
  totalPdfPages : Option Int
  sourceVersion : Option Nat
  pageCountVerifiedAt : Option Nat
  excludedStartPages : Int
  excludedEndPages : Int
  questionsPerCheckpoint : Int
  finalExamQuestions : Int
  revision : Nat
  updatedAt : Nat

/-- The stored questions of a difficulty, signed with the ranges they were imported against. -/
structure QuestionContent where
  payload : QuestionDocument
  planSignature : List PageRange
  sourceVersion : Option Nat
  checkpointQuestionCount : Nat
  finalExamQuestionCount : Nat
  revision : Nat
  updatedAt : Nat

inductive WorkflowStatus where
  | draft
  | published
  | retired
deriving DecidableEq

/-- A Normal Question of the sheet; `fromAllQuestions` is the mark of an earlier import of all
questions. -/
structure SheetQuestion where
  question : Question
  fromAllQuestions : Bool
  status : WorkflowStatus

structure Sheet where
  id : Nat
  versions : List Version
  publishedVersion : Option Version
  currentVersion : Option Version
  pageBankEnabled : Bool
  pathDiscoverable : Bool
  settings : Edition → Option ActiveStudySettings
  content : Difficulty → Option QuestionContent
  questions : List SheetQuestion
  visibleTo : Nat → Bool

def sourceVersionFor (sheet : Sheet) : Option Version :=
  sheet.publishedVersion.or sheet.currentVersion

/-- Whether the PDF that something was configured against has been replaced. -/
def editionSourceChanged (sheet : Sheet) (recorded : Option Nat) (edition : Edition) : Bool :=
  match recorded with
  | none => false
  | some recorded =>
    match sourceVersionFor sheet with
    | none => true
    | some current =>
      if recorded = current.id then false
      else
        let recordedFile := ((sheet.versions.find? (·.id = recorded)).bind (·.file edition)).map
          ManagedFile.id
        recordedFile ≠ (current.file edition).map ManagedFile.id

def Version.pdfPages (version : Version) : Edition → Option Int
  | .university => version.pageCount
  | .lockin => (version.file .lockin).bind (·.pdfPageCount)

def editionVersionPageCount (sheet : Sheet) (edition : Edition) : Option Int :=
  ((sourceVersionFor sheet).bind (·.pdfPages edition)).filter (0 < ·)

def ActiveStudySettings.study (settings : ActiveStudySettings) (sourceChanged : Bool) :
    Study.EditionSettings where
  enabled := settings.enabled
  totalPdfPages := settings.totalPdfPages
  excludedStartPages := settings.excludedStartPages
  excludedEndPages := settings.excludedEndPages
  questionsPerCheckpoint := settings.questionsPerCheckpoint
  finalExamQuestions := settings.finalExamQuestions
  sourceChanged := sourceChanged

def Question.study (question : Question) : Study.Question where
  prompt := .ofList question.prompt
  explanation := .ofList question.explanation
  form := match question.answer with
    | .mcq _ options correct =>
      .mcq (letters.map fun letter => (letter.key, .ofList (options.text letter))) correct.key
    | .trueFalse correct => .trueFalse correct
  sourceKey := none

def Bank.study : Bank → Study.Bank
  | .parts rows => .parts (rows.map fun row => ⟨row.number.toNat, row.questions.map Question.study⟩)
  | .pages rows => .pages (rows.map fun row => ⟨row.number, row.questions.map Question.study⟩)

def QuestionContent.study (content : QuestionContent) (sourceChanged : Bool) :
    Study.ActiveStudyQuestionContent where
  bank := content.payload.bank.study
  finalExam := content.payload.finalExam.map Question.study
  revision := content.revision
  sourceRanges := content.planSignature
  sourceChanged := sourceChanged

/-- What plans are made from. -/
def Sheet.planned (sheet : Sheet) (complete : Difficulty → Edition → Bool) : Study.Sheet where
  visibleTo := sheet.visibleTo
  published := sheet.publishedVersion.isSome
  pageBankEnabled := sheet.pageBankEnabled
  settings edition := (sheet.settings edition).map fun settings =>
    settings.study (editionSourceChanged sheet settings.sourceVersion edition)
  pdfPages edition := (sourceVersionFor sheet).bind (·.pdfPages edition)
  questions difficulty := (sheet.content difficulty).map fun content =>
    content.study (editionSourceChanged sheet content.sourceVersion .university)
  complete := complete

def Sheet.outline (sheet : Sheet) : Study.Sheet := sheet.planned fun _ _ => false

def questionFormat (sheet : Sheet) : QuestionFormat :=
  if sheet.pageBankEnabled then .pages else .parts

/-- What the plan of an edition asks of the questions, which were imported for other ranges when
the edition is the Lock-in one. -/
def requirements (sheet : Sheet) (difficulty : Difficulty) (plan : Plan)
    (importedRanges : List PageRange) : Requirements where
  rule := ⟨difficulty, plan.questionsPerCheckpoint, plan.finalExamQuestions⟩
  numberOfParts := plan.pageRanges.length
  pageRanges := importedRanges
  format := questionFormat sheet

section
variable (casefold : Text → Text)

/-- `_content`: the bank of a difficulty with the plan of an edition. -/
def contentFor (sheet : Sheet) (difficulty : Difficulty) (edition : Edition) :
    Except StudyError (QuestionContent × Plan) := do
  let plans ← Study.planForSheet sheet.outline edition
  let plan := plans difficulty
  match sheet.content difficulty with
  | none => .error (.rule "Active Study questions are not configured yet.")
  | some content => do
    let ranges := Study.importedRanges sheet.outline edition difficulty plan
    refuse [
      (content.planSignature != ranges,
        .rule "Active Study questions need review after the page plan changed."),
      (editionSourceChanged sheet content.sourceVersion .university,
        .rule "Active Study questions need review because the source PDF changed.")]
    match validateActiveStudyQuestions casefold (requirements sheet difficulty plan ranges)
        content.payload.toJson with
    | .ok _ => .ok (content, plan)
    | .error (.invalid _) => .error (.rule "Active Study questions are incomplete.")
    | .error .typeError => .error (.crash "TypeError")

inductive Status where
  | ready
  | needsReview
  | notConfigured
deriving DecidableEq

structure Readiness where
  status : Status
  reason : String

/-- What is said of one difficulty; its plan is missing when none could be made. -/
structure ReadinessRow where
  plan : Option Plan
  readiness : Readiness

structure ReadinessPayload where
  enabled : Bool
  settingsInherited : Bool
  totalPdfPages : Option Int
  pdfTotalPdfPages : Option Int
  excludedStartPages : Int
  excludedEndPages : Int
  planError : Option String
  difficulties : Difficulty → ReadinessRow

def universityFirst : String :=
  "Configure the University Sheet's Active Study pages first; the Lockin Sheet " ++
    "follows its part count."

def sourceChanged : String :=
  "The source PDF changed; verify pagination and reimport questions."

def pagesMissing : String := "PDF page count is missing."

/-- `lockin_plan_inputs`: the structure of the University plan, or why there is none. -/
def lockinPlanInputs (sheet : Sheet) : Except String (Difficulty → Study.MirroredParts) :=
  match Study.editionPlan sheet.outline .university none with
  | .ok plans => .ok fun difficulty => Study.mirroredParts (plans difficulty)
  | .error message => .error (if message = pagesMissing then universityFirst else message)

def readinessPlan (sheet : Sheet) (edition : Edition) : Except String (Difficulty → Plan) :=
  match edition with
  | .university => Study.editionPlan sheet.outline .university none
  | .lockin =>
    match lockinPlanInputs sheet with
    | .error message => .error message
    | .ok mirrored => Study.editionPlan sheet.outline .lockin (some mirrored)

def settingsStale (sheet : Sheet) (edition : Edition) : Bool :=
  (sheet.settings edition).any fun settings =>
    editionSourceChanged sheet settings.sourceVersion edition

def pageCountStale (sheet : Sheet) (edition : Edition) : Bool :=
  match (sheet.settings edition).bind (·.totalPdfPages), editionVersionPageCount sheet edition with
  | some configured, some derived => configured ≠ derived
  | _, _ => false

def importedPlan (sheet : Sheet) (difficulty : Difficulty) : Option Plan :=
  (Study.editionPlan sheet.outline .university none).toOption.map (· difficulty)

def rangesChanged : Readiness :=
  ⟨.needsReview, "Page ranges changed; revalidate and reimport questions."⟩

/-- What is said of a difficulty of a sheet that is not enabled. -/
def disabledReadiness (imported : Option Plan) (content : Option QuestionContent) : Readiness :=
  match imported, content with
  | some imported, some content =>
    if imported.pageRanges ≠ [] ∧ content.planSignature ≠ imported.pageRanges then rangesChanged
    else ⟨.notConfigured, "Active Study is disabled."⟩
  | _, _ => ⟨.notConfigured, "Active Study is disabled."⟩

def questionsReadiness (sheet : Sheet) (difficulty : Difficulty) (plan imported : Plan)
    (content : QuestionContent) : Readiness :=
  match validateActiveStudyQuestions casefold
      (requirements sheet difficulty plan imported.pageRanges) content.payload.toJson with
  | .ok _ => ⟨.ready, "Ready."⟩
  | .error (.invalid (error :: _)) =>
    ⟨.notConfigured, "Questions are incomplete: " ++ error.message⟩
  | .error _ => ⟨.notConfigured, "Questions are incomplete: Questions are incomplete."⟩

def enabledReadiness (sheet : Sheet) (difficulty : Difficulty) (plan : Plan)
    (imported : Option Plan) (content : Option QuestionContent) : Readiness :=
  if plan.pageRanges = [] then ⟨.notConfigured, "No study page ranges could be generated."⟩
  else
    match content with
    | none => ⟨.notConfigured, "Questions have not been imported for this difficulty."⟩
    | some content =>
      match imported with
      | none => rangesChanged
      | some imported =>
        if content.planSignature ≠ imported.pageRanges then rangesChanged
        else questionsReadiness casefold sheet difficulty plan imported content

def readinessOf (sheet : Sheet) (edition : Edition) (difficulty : Difficulty) : Readiness :=
  let effective := Study.effectiveSettings sheet.outline edition
  let content := sheet.content difficulty
  let imported := importedPlan sheet difficulty
  if settingsStale sheet edition || pageCountStale sheet edition ||
      content.any (fun content =>
        editionSourceChanged sheet content.sourceVersion .university) then
    ⟨.needsReview, sourceChanged⟩
  else
    match readinessPlan sheet edition with
    | .error message =>
      if effective.enabled || effective.own.isSome then ⟨.notConfigured, message⟩
      else disabledReadiness imported content
    | .ok plans =>
      if effective.enabled then
        enabledReadiness casefold sheet difficulty (plans difficulty) imported content
      else disabledReadiness imported content

def readinessPayload (sheet : Sheet) (edition : Edition) : ReadinessPayload :=
  let effective := Study.effectiveSettings sheet.outline edition
  let plans := readinessPlan sheet edition
  { enabled := effective.enabled
    settingsInherited := effective.own.isNone && effective.enabled
    totalPdfPages := Study.resolveTotalPdfPages sheet.outline edition
    pdfTotalPdfPages := editionVersionPageCount sheet edition
    excludedStartPages := effective.excludedStartPages
    excludedEndPages := effective.excludedEndPages
    planError := match plans with
      | .ok _ => none
      | .error message => some message
    difficulties := fun difficulty =>
      { plan := plans.toOption.map (· difficulty)
        readiness := readinessOf casefold sheet edition difficulty } }

end

open Transaction (Call andThen atomic decided write)
open Study (Difficulty Edition PageRange PageCounts Plan PlanError MirroredParts)

structure ImportError where
  index : Option Nat
  field : String
  message : String
deriving DecidableEq

/-- Why a call is refused.  The three kinds of invalid documents are the validation errors. -/
inductive ContentError where
  | conflict (message : String)
  | rule (message : String)
  | field (message field : String)
  | questionsInvalid (errors : List FieldError)
  | allQuestionsInvalid (errors : List FieldError)
  | importInvalid (errors : List ImportError)
  | typeError
deriving DecidableEq

def ContentError.isValidation : ContentError → Bool
  | .questionsInvalid _ | .allQuestionsInvalid _ | .importInvalid _ | .typeError => true
  | _ => false

def difficulties : List Difficulty := [.easy, .medium, .hard]

/-- `plan_payload`, for a page count that is known. -/
def planPayload (counts : PageCounts) (mirrored : Option (Difficulty → MirroredParts))
    (questionsPerCheckpoint finalExamQuestions : Int) : Except PlanError (Difficulty → Plan) :=
  if ¬(1 ≤ questionsPerCheckpoint ∧ questionsPerCheckpoint ≤ 200) ∨
      ¬(1 ≤ finalExamQuestions ∧ finalExamQuestions ≤ 200) then
    .error ⟨"Question counts must be between 1 and 200.", "questions_per_checkpoint"⟩
  else do
    let ranges (difficulty : Difficulty) : Except PlanError (List PageRange) :=
      Study.pageRanges counts (Study.targetPagesPerPart difficulty) (mirrored.map (· difficulty))
    let easy ← ranges .easy
    let medium ← ranges .medium
    let hard ← ranges .hard
    return fun
      | .easy => ⟨questionsPerCheckpoint, finalExamQuestions, easy⟩
      | .medium => ⟨questionsPerCheckpoint, finalExamQuestions, medium⟩
      | .hard => ⟨questionsPerCheckpoint, finalExamQuestions, hard⟩

def planError (error : PlanError) : ContentError := .field error.message error.field

/-- What an administrator submits; what is not supplied keeps its stored value. -/
structure PreviewRequest where
  totalPdfPages : Option Int
  excludedStartPages : Option Int
  excludedEndPages : Option Int
  questionsPerCheckpoint : Option Int
  finalExamQuestions : Option Int

def PreviewRequest.stored : PreviewRequest := ⟨none, none, none, none, none⟩

structure ResolvedActiveStudyInput where
  totalPdfPages : Option Int
  storedTotal : Option Int
  excludedStartPages : Int
  excludedEndPages : Int
  derivedTotal : Option Int

def resolveActiveStudyInput (sheet : Sheet) (settings : Option ActiveStudySettings)
    (request : PreviewRequest) (edition : Edition) : ResolvedActiveStudyInput :=
  let derived := editionVersionPageCount sheet edition
  let stored := (settings.bind (·.totalPdfPages)).or derived
  { totalPdfPages := request.totalPdfPages.or stored
    storedTotal := stored
    excludedStartPages :=
      request.excludedStartPages.getD ((settings.map (·.excludedStartPages)).getD 0)
    excludedEndPages := request.excludedEndPages.getD ((settings.map (·.excludedEndPages)).getD 0)
    derivedTotal := derived }

structure QuestionCounts where
  questionsPerCheckpoint : Int
  finalExamQuestions : Int

def questionCounts (sheet : Sheet) (edition : Edition)
    (questionsPerCheckpoint finalExamQuestions : Option Int) : Except ContentError QuestionCounts :=
  let current := sheet.settings .university
  if edition = .lockin ∧ (questionsPerCheckpoint.isSome ∨ finalExamQuestions.isSome) then
    .error (.field "Question counts are shared with the University Sheet."
      "questions_per_checkpoint")
  else if sheet.pageBankEnabled ∧
      questionsPerCheckpoint.any (fun count : Int =>
        ¬(1 ≤ count ∧ count ≤ (questionsPerPage : Int))) then
    .error (.field "Page-based sheets support 1 to 15 checkpoint questions."
      "questions_per_checkpoint")
  else .ok
    { questionsPerCheckpoint :=
        questionsPerCheckpoint.getD ((current.map (·.questionsPerCheckpoint)).getD 15)
      finalExamQuestions :=
        finalExamQuestions.getD ((current.map (·.finalExamQuestions)).getD 50) }

def pinnedToUniversity (sheet : Sheet) (edition : Edition) :
    Except ContentError (Option (Difficulty → MirroredParts)) :=
  match edition with
  | .university => .ok none
  | .lockin =>
    match lockinPlanInputs sheet with
    | .error message => .error (.field message "total_pdf_pages")
    | .ok inputs => .ok (some inputs)

def signaturesDiffer (saved : Option (Difficulty → Plan)) (proposed : Difficulty → Plan) : Bool :=
  match saved with
  | none => true
  | some saved => difficulties.any fun difficulty =>
      (saved difficulty).pageRanges != (proposed difficulty).pageRanges

def contentDiffers (sheet : Sheet) (proposed : Difficulty → Plan) : Bool :=
  difficulties.any fun difficulty =>
    (sheet.content difficulty).any fun content =>
      content.planSignature != (proposed difficulty).pageRanges

structure PlanPreview where
  plans : Difficulty → Plan
  totalPdfPages : Int
  excludedStartPages : Int
  excludedEndPages : Int
  boundaryChangeRequiresConfirmation : Bool

def activeStudyPlanPreview (sheet : Sheet) (request : PreviewRequest) (edition : Edition) :
    Except ContentError PlanPreview :=
  let settings := sheet.settings edition
  let resolved := resolveActiveStudyInput sheet settings request edition
  match resolved.totalPdfPages with
  | none =>
    .error (.field "Enter the PDF's total page count. The uploaded PDF did not report one."
      "total_pdf_pages")
  | some total => do
    let pinned ← pinnedToUniversity sheet edition
    let counts ← questionCounts sheet edition request.questionsPerCheckpoint
      request.finalExamQuestions
    let plans ← (planPayload ⟨total, resolved.excludedStartPages, resolved.excludedEndPages⟩ pinned
      counts.questionsPerCheckpoint counts.finalExamQuestions).mapError planError
    let savedCounts ← questionCounts sheet edition none none
    let saved := resolved.storedTotal.bind fun total =>
      (planPayload ⟨total, (settings.map (·.excludedStartPages)).getD 0,
        (settings.map (·.excludedEndPages)).getD 0⟩ pinned savedCounts.questionsPerCheckpoint
        savedCounts.finalExamQuestions).toOption
    return {
      plans := plans
      totalPdfPages := total
      excludedStartPages := resolved.excludedStartPages
      excludedEndPages := resolved.excludedEndPages
      boundaryChangeRequiresConfirmation := edition = .university &&
        signaturesDiffer saved plans && contentDiffers sheet plans }

def Sheet.putContent (sheet : Sheet) (difficulty : Difficulty) (content : QuestionContent) : Sheet :=
  { sheet with content := fun other =>
      if other = difficulty then some content else sheet.content other }

def Sheet.putSettings (sheet : Sheet) (edition : Edition) (settings : ActiveStudySettings) : Sheet :=
  { sheet with settings := fun other =>
      if other = edition then some settings else sheet.settings other }

section
variable (casefold : Text → Text)

def questionsRefused : Refusal → ContentError
  | .invalid errors => .questionsInvalid errors
  | .typeError => .typeError

def validateActiveStudyQuestionContent (sheet : Sheet) (difficulty : Difficulty) (payload : Json)
    (edition : Edition) : Except ContentError Validation := do
  let preview ← activeStudyPlanPreview sheet .stored edition
  let plan := preview.plans difficulty
  (validateActiveStudyQuestions casefold (requirements sheet difficulty plan plan.pageRanges)
    payload).mapError questionsRefused

def contentChanged : ContentError :=
  .conflict "This Active Study content changed. Reload and try again."

def importedContent (now : Nat) (sheet : Sheet) (difficulty : Difficulty) (payload : Json)
    (expectedRevision : Nat) (edition : Edition) : Except ContentError QuestionContent := do
  let validation ← validateActiveStudyQuestionContent casefold sheet difficulty payload edition
  let university ← activeStudyPlanPreview sheet .stored .university
  let content (revision : Nat) : QuestionContent :=
    { payload := validation.payload
      planSignature := (university.plans difficulty).pageRanges
      sourceVersion := (sourceVersionFor sheet).map Version.id
      checkpointQuestionCount := validation.checkpointQuestionCount
      finalExamQuestionCount := validation.finalExamQuestionCount
      revision := revision
      updatedAt := now }
  match sheet.content difficulty with
  | none => if expectedRevision ≠ 0 then .error contentChanged else .ok (content 1)
  | some current =>
    if current.revision ≠ expectedRevision then .error contentChanged
    else .ok (content (current.revision + 1))

def saveActiveStudyQuestionContent (now : Nat) (difficulty : Difficulty) (payload : Json)
    (expectedRevision : Nat) (edition : Edition) : Call Sheet ContentError Unit :=
  atomic (andThen
    (decided fun sheet => importedContent casefold now sheet difficulty payload expectedRevision
      edition)
    fun content => write fun sheet => sheet.putContent difficulty content)

end

structure SettingsRequest where
  expectedRevision : Nat
  enabled : Bool
  values : PreviewRequest
  confirmBoundaryChange : Bool

def editionLabel : Edition → String
  | .university => "University Sheet"
  | .lockin => "Lockin Sheet"

/-- A row as it is created, before anything is saved in it. -/
def settingsDefaults (now : Nat) : ActiveStudySettings where
  enabled := false
  totalPdfPages := none
  sourceVersion := none
  pageCountVerifiedAt := none
  excludedStartPages := 0
  excludedEndPages := 0
  questionsPerCheckpoint := 15
  finalExamQuestions := 50
  revision := 1
  updatedAt := now

def lockinUploaded (sheet : Sheet) (edition : Edition) : Except ContentError Unit :=
  match edition, sheet.currentVersion with
  | .university, _ => .ok ()
  | .lockin, none => .error (.rule "The sheet has no current version.")
  | .lockin, some version =>
    if (version.file .lockin).isSome then .ok ()
    else .error (.field "Upload the Lockin Sheet PDF before configuring its Active Study."
      "total_pdf_pages")

def settingsChanged : ContentError :=
  .conflict "These Active Study settings changed. Reload and try again."

def hasPdf (sheet : Sheet) (edition : Edition) : Bool :=
  ((sourceVersionFor sheet).bind (·.file edition)).any (·.isPdf)

def proposedPlan (sheet : Sheet) (edition : Edition) (counts : QuestionCounts)
    (total : Option Int) (start stop : Int) : Except ContentError (Option (Difficulty → Plan)) :=
  match total with
  | none => .ok none
  | some total => do
    let pinned ← pinnedToUniversity sheet edition
    let plans ← (planPayload ⟨total, start, stop⟩ pinned counts.questionsPerCheckpoint
      counts.finalExamQuestions).mapError planError
    return some plans

def savedSettings (now : Nat) (request : SettingsRequest) (edition : Edition) (created : Bool)
    (sheet : Sheet) : Except ContentError ActiveStudySettings := do
  let settings := (sheet.settings edition).getD (settingsDefaults now)
  refuse [
    (!created && settings.revision != request.expectedRevision, settingsChanged),
    (created && request.expectedRevision != 0, settingsChanged)]
  let revision := if created then 0 else settings.revision
  let counts ← questionCounts sheet edition request.values.questionsPerCheckpoint
    request.values.finalExamQuestions
  let savedCounts ← questionCounts sheet edition none none
  let resolved := resolveActiveStudyInput sheet settings request.values edition
  let total := resolved.derivedTotal.or resolved.totalPdfPages
  refuse [
    (resolved.derivedTotal.any fun derived => request.values.totalPdfPages.any (· != derived),
      .field ("Total PDF pages must be " ++ toString (resolved.derivedTotal.getD 0) ++
        " to match the uploaded " ++ editionLabel edition ++
        " PDF. Editions may have different page counts; " ++
        "use the excluded pages to set this edition's study range.") "total_pdf_pages"),
    (request.enabled && total.isNone,
      .field "Enter the PDF's total page count before enabling Active Study." "total_pdf_pages"),
    (request.enabled && !hasPdf sheet edition,
      .rule "Upload a valid PDF before enabling Active Study.")]
  let proposed ← proposedPlan sheet edition counts total resolved.excludedStartPages
    resolved.excludedEndPages
  let current := (proposedPlan sheet edition savedCounts resolved.storedTotal
    settings.excludedStartPages settings.excludedEndPages).toOption.join
  let conflict : Bool := match proposed with
    | none => false
    | some proposed => signaturesDiffer current proposed && contentDiffers sheet proposed
  refuse [(edition = .university && conflict && !request.confirmBoundaryChange,
    .rule ("Changing excluded pages changes Active Study part boundaries. Existing question " ++
      "configuration may no longer match this sheet; confirm before saving."))]
  return {
    enabled := request.enabled
    totalPdfPages := total
    sourceVersion := (sourceVersionFor sheet).map Version.id
    pageCountVerifiedAt := if resolved.derivedTotal.isSome then some now else none
    excludedStartPages := resolved.excludedStartPages
    excludedEndPages := resolved.excludedEndPages
    questionsPerCheckpoint := counts.questionsPerCheckpoint
    finalExamQuestions := counts.finalExamQuestions
    revision := revision + 1
    updatedAt := now }

/-- `get_or_create`: the row of an edition is there, and whether it had to be made. -/
def createSettings (now : Nat) (edition : Edition) : Call Sheet ContentError Bool :=
  andThen (decided fun sheet => .ok (sheet.settings edition).isNone) fun created =>
    andThen (write fun sheet =>
      if created then sheet.putSettings edition (settingsDefaults now) else sheet)
      fun _ => Transaction.answer created

def updateActiveStudySettings (now : Nat) (request : SettingsRequest) (edition : Edition) :
    Call Sheet ContentError Unit :=
  atomic (andThen (decided fun sheet => lockinUploaded sheet edition) fun _ =>
    andThen (createSettings now edition) fun created =>
      andThen (decided (savedSettings now request edition created)) fun settings =>
        write fun sheet => sheet.putSettings edition settings)

end LockIn.Content
