import LockIn.Content.Editing

/-!
# The Active Study that a device downloads

The server serves everything that one edition of a sheet needs to be studied without it, with the
answers, and lists what it would serve in a manifest.  The version of a download covers the rows
that the content comes from and not what the student did.
-/

namespace LockIn.OfflineStudy

open Content
open Study (Difficulty Edition PageRange Plan StudyError)
open Whitespace (Text)

structure SelectedQuestion where
  question : Question
  sourceKey : Int × Nat

def usable (page : Row) : Nat := min questionsPerPage page.questions.length

/-- The pages that are asked about: all of them, or as many as there are questions, spread
over the range. -/
def spreadPages (pages : List Row) (count : Nat) : List Row :=
  if count < pages.length then
    (List.range count).filterMap fun index => pages[index * pages.length / count]?
  else pages

def questionAt (position : Nat) (page : Row) : Option SelectedQuestion :=
  (page.questions[position]?).map fun question => ⟨question, (page.number, position + 1)⟩

/-- The two loops of `select_page_questions`, cut off when enough are selected. -/
def selectFrom (pages : List Row) (count : Nat) : List SelectedQuestion :=
  let longest := (pages.map (·.questions.length)).foldl max 0
  ((List.range (min questionsPerPage longest)).flatMap fun position =>
    pages.filterMap (questionAt position)).take count

def selectPageQuestions (rows : List Row) (start stop count : Int) :
    Except String (List SelectedQuestion) :=
  let pages := rows.filter fun row => start ≤ row.number ∧ row.number ≤ stop
  let available := (pages.map usable).sum
  if pages = [] ∨ count < 1 ∨ count > pages.length * questionsPerPage ∨ available < 1 then
    .error "There are not enough questions for these pages."
  else
    let wanted := min count.toNat available
    .ok (selectFrom (spreadPages pages wanted) wanted)

structure AvailabilityRow where
  difficulty : Difficulty
  status : Status
  numberOfParts : Nat
  pageRanges : List PageRange

structure Availability where
  sheetId : Nat
  enabled : Bool
  difficulties : List AvailabilityRow

structure PassMarks where
  checkpointPass : Int
  finalPass : Int

/-- `CHECKPOINT_PASS` and `FINAL_EXAM_PASS`. -/
def passMarks : PassMarks := ⟨10, 35⟩

structure OfflineDifficulty where
  numberOfParts : Nat
  pageRanges : List PageRange
  contentRevision : Nat
  questionsPerCheckpoint : Int
  sourcePageRanges : List PageRange
  pages : Option (List Row)
  rules : PassMarks
  parts : List Row
  finalExam : List Question

structure OfflineBundle where
  sheetId : Nat
  edition : Edition
  totalPdfPages : Option Int
  rules : PassMarks
  availability : Availability
  difficulties : List (Difficulty × OfflineDifficulty)

section
variable (casefold : Text → Text)

def availability (sheet : Sheet) (edition : Edition) : Availability :=
  let readiness := readinessPayload casefold sheet edition
  { sheetId := sheet.id
    enabled := readiness.enabled
    difficulties := difficulties.map fun difficulty =>
      let row := readiness.difficulties difficulty
      let ranges := (row.plan.map (·.pageRanges)).getD []
      ⟨difficulty, row.readiness.status, ranges.length, ranges⟩ }

/-- The parts of a bank of parts are served as they are, those of a page bank are made from the
pages of the ranges that the bank was imported for. -/
def bundleParts (content : QuestionContent) (plan : Plan) : Except String (List Row) :=
  match content.payload.bank with
  | .parts rows => .ok rows
  | .pages rows => content.planSignature.mapM fun range => do
      let selected ← selectPageQuestions rows range.startPage range.endPage
        plan.questionsPerCheckpoint
      return ⟨range.part, selected.map SelectedQuestion.question⟩

def bankPages? : Bank → Option (List Row)
  | .parts _ => none
  | .pages rows => some rows

def offlineDifficulty (content : QuestionContent) (plan : Plan) (parts : List Row) :
    OfflineDifficulty where
  numberOfParts := plan.pageRanges.length
  pageRanges := plan.pageRanges
  contentRevision := content.revision
  questionsPerCheckpoint := plan.questionsPerCheckpoint
  sourcePageRanges := content.planSignature
  pages := bankPages? content.payload.bank
  -- Two thirds and seven tenths, rounded up.
  rules := ⟨(plan.questionsPerCheckpoint * 2 + 2) / 3, (plan.finalExamQuestions * 7 + 9) / 10⟩
  parts := parts
  finalExam := content.payload.finalExam

/-- What is served of a difficulty: nothing when a rule keeps it from being studied. -/
def difficultyEntry (sheet : Sheet) (edition : Edition) (difficulty : Difficulty) :
    Except StudyError (Option (Difficulty × OfflineDifficulty)) :=
  match contentFor casefold sheet difficulty edition with
  | .error (.rule _) | .error (.outOfOrder _) => .ok none
  | .error reason => .error reason
  | .ok (content, plan) =>
    match bundleParts content plan with
    | .error _ => .error (.crash "ValueError")
    | .ok parts => .ok (some (difficulty, offlineDifficulty content plan parts))

def sheetForUser (sheets : List Sheet) (user sheetId : Nat) : Except StudyError Sheet :=
  match sheets.find? (·.id = sheetId) with
  | none => .error (.rule "Sheet not found.")
  | some sheet =>
    if sheet.visibleTo user then .ok sheet
    else .error (.rule "Active Study is not available for this sheet.")

def offlineBundle (sheets : List Sheet) (user sheetId : Nat) (edition : Edition) :
    Except StudyError OfflineBundle := do
  let sheet ← sheetForUser sheets user sheetId
  let summary := availability casefold sheet edition
  let entries ← (summary.difficulties.filter fun row => row.status = .ready).mapM fun row =>
    difficultyEntry casefold sheet edition row.difficulty
  return {
    sheetId := sheet.id
    edition := edition
    totalPdfPages := Study.resolveTotalPdfPages sheet.outline edition
    rules := passMarks
    availability := summary
    difficulties := entries.filterMap id }

structure SettingsEvidence where
  edition : Edition
  enabled : Bool
  totalPdfPages : Option Int
  sourceVersion : Option Nat
  excludedStartPages : Int
  excludedEndPages : Int
  revision : Nat
  updatedAt : Nat

structure ContentEvidence where
  difficulty : Difficulty
  sourceVersion : Option Nat
  revision : Nat
  updatedAt : Nat

structure VersionEvidence where
  schema : Nat
  edition : Edition
  publishedVersion : Option Nat
  rules : PassMarks
  settings : List SettingsEvidence
  content : List ContentEvidence

def activeStudyBundleSchema : Nat := 3

def settingsRows (sheet : Sheet) : List SettingsEvidence :=
  [Edition.lockin, .university].filterMap fun edition =>
    (sheet.settings edition).map fun settings =>
      { edition := edition
        enabled := settings.enabled
        totalPdfPages := settings.totalPdfPages
        sourceVersion := settings.sourceVersion
        excludedStartPages := settings.excludedStartPages
        excludedEndPages := settings.excludedEndPages
        revision := settings.revision
        updatedAt := settings.updatedAt }

def contentRows (sheet : Sheet) : List ContentEvidence :=
  [Difficulty.easy, .hard, .medium].filterMap fun difficulty =>
    (sheet.content difficulty).map fun content =>
      ⟨difficulty, content.sourceVersion, content.revision, content.updatedAt⟩

variable (digest : VersionEvidence → Text)

def activeStudyVersion (publishedVersion : Option Nat) (edition : Edition) (sheet : Sheet) : Text :=
  digest
    { schema := activeStudyBundleSchema
      edition := edition
      publishedVersion := publishedVersion
      rules := passMarks
      settings := settingsRows sheet
      content := contentRows sheet }

/-- Who asks, and what they have paid for. -/
structure Reader where
  user : Nat
  subscribed : Bool
  entitled : Bool

inductive ViewError where
  | forbidden (entitlement : String)
  | validation (field message : String)
  | notFound (message : String)
  | crash (exception : String)

def normalizeEdition (value : Option String) : Except ViewError Edition :=
  match value with
  | none | some "" | some "university" => .ok .university
  | some "lockin" => .ok .lockin
  | some _ => .error (.validation "edition" "Edition must be university or lockin.")

def viewError : StudyError → ViewError
  | .rule message | .outOfOrder message => .notFound message
  | .integrity => .crash "IntegrityError"
  | .crash exception => .crash exception

structure ServedBundle where
  bundle : OfflineBundle
  contentVersion : Text

/-- `OfflineActiveStudyView`. -/
def offlineActiveStudy (sheets : List Sheet) (reader : Reader) (sheetId : Nat)
    (edition : Option String) : Except ViewError ServedBundle := do
  Outcome.refuse [
    (!reader.subscribed, .forbidden "content.premium"),
    (!reader.entitled, .forbidden "focus.workspace")]
  let edition ← normalizeEdition edition
  let bundle ← (offlineBundle casefold sheets reader.user sheetId edition).mapError viewError
  Outcome.refuse [
    (bundle.difficulties.isEmpty, .notFound "Active Study is not ready for offline use.")]
  return {
    bundle := bundle
    contentVersion := ((sheets.find? (·.id = sheetId)).map fun sheet =>
      activeStudyVersion digest (sheet.publishedVersion.map Version.id) edition sheet).getD [] }

end

structure CatalogDocument where
  sheetId : Nat
  version : Nat
  edition : Edition
  active : Bool
  /-- Whether the sheet was put away. -/
  archived : Bool
  withinSubject : Bool
  deliverable : Bool

structure ActiveStudyItem where
  sheetId : Nat
  edition : Edition
  checksum : Text

/-- A cheap filter; the download decides what is ready. -/
def activeStudyEnabled (sheet : Sheet) (edition : Edition) : Bool :=
  (difficulties.any fun difficulty => (sheet.content difficulty).isSome) &&
    ((sheet.settings edition).or (sheet.settings .university)).any (·.enabled)

/-- The item of a document.  A second document of the same sheet and edition replaces the item by
an equal one. -/
def activeStudyItem (digest : VersionEvidence → Text) (sheets : List Sheet)
    (document : CatalogDocument) : Option ActiveStudyItem :=
  match sheets.find? (·.id = document.sheetId) with
  | none => none
  | some sheet =>
    if document.active ∧ sheet.publishedVersion.map Version.id = some document.version ∧
        ¬document.archived ∧ document.withinSubject ∧ document.deliverable ∧
        activeStudyEnabled sheet document.edition then
      some ⟨document.sheetId, document.edition,
        activeStudyVersion digest (some document.version) document.edition sheet⟩
    else none

def activeStudyItems (digest : VersionEvidence → Text) (sheets : List Sheet)
    (documents : List CatalogDocument) : List ActiveStudyItem :=
  documents.filterMap (activeStudyItem digest sheets)

def editionKey : Edition → String
  | .university => "university"
  | .lockin => "lockin"

def statusKey : Status → String
  | .ready => "ready"
  | .needsReview => "needs_review"
  | .notConfigured => "not_configured"

def idJson (id : Nat) : Json := .str (toString id).toList

def offlineQuestion (item : Question) : Json :=
  match item.answer with
  | .trueFalse correct =>
    .obj [("type", .str "true_false".toList), ("question", .str item.prompt),
      ("correct_answer", .bool correct), ("explanation", .str item.explanation)]
  | .mcq typed options correct =>
    .obj ((if typed then [("type", .str "mcq".toList)] else []) ++
      [("question", .str item.prompt), ("options", options.toJson),
        ("correct_answer", .str correct.key.toList), ("explanation", .str item.explanation)])

def rangeJson (range : PageRange) : Json :=
  .obj [("part", .int range.part), ("start_page", .int range.startPage),
    ("end_page", .int range.endPage)]

def PassMarks.toJson (rules : PassMarks) : Json :=
  .obj [("checkpoint_pass", .int rules.checkpointPass), ("final_pass", .int rules.finalPass)]

def partJson (part : Row) : Json :=
  .obj [("part", .int part.number), ("questions", .arr (part.questions.map offlineQuestion))]

def OfflineDifficulty.toJson (entry : OfflineDifficulty) : Json :=
  .obj ([("number_of_parts", .int entry.numberOfParts),
      ("page_ranges", .arr (entry.pageRanges.map rangeJson)),
      ("content_revision", .int entry.contentRevision),
      ("questions_per_checkpoint", .int entry.questionsPerCheckpoint),
      ("source_page_ranges", .arr (entry.sourcePageRanges.map rangeJson))] ++
    (match entry.pages with
      | none => []
      | some rows => [("pages", .arr (rows.map (Row.toJson "page")))]) ++
    [("rules", entry.rules.toJson), ("parts", .arr (entry.parts.map partJson)),
      ("final_exam", .obj [("questions", .arr (entry.finalExam.map offlineQuestion))])])

def AvailabilityRow.toJson (row : AvailabilityRow) : Json :=
  .obj [("difficulty", .str (difficultyKey row.difficulty).toList),
    ("status", .str (statusKey row.status).toList), ("number_of_parts", .int row.numberOfParts),
    ("page_ranges", .arr (row.pageRanges.map rangeJson))]

def Availability.toJson (summary : Availability) : Json :=
  .obj [("sheet_id", idJson summary.sheetId), ("enabled", .bool summary.enabled),
    ("difficulties", .arr (summary.difficulties.map AvailabilityRow.toJson))]

def ServedBundle.toJson (served : ServedBundle) : Json :=
  .obj [("sheet_id", idJson served.bundle.sheetId),
    ("edition", .str (editionKey served.bundle.edition).toList),
    ("total_pdf_pages", (served.bundle.totalPdfPages.map Json.int).getD .null),
    ("rules", served.bundle.rules.toJson), ("availability", served.bundle.availability.toJson),
    ("difficulties", .obj (served.bundle.difficulties.map fun entry =>
      (difficultyKey entry.1, entry.2.toJson))),
    ("content_version", .str served.contentVersion)]

def ActiveStudyItem.toJson (item : ActiveStudyItem) : Json :=
  .obj [("type", .str "active_study".toList), ("sheet_id", idJson item.sheetId),
    ("edition", .str (editionKey item.edition).toList), ("version", .str item.checksum),
    ("checksum", .str item.checksum)]

end LockIn.OfflineStudy
