import LockIn.Education.Catalogue

/-!
# Content and questions

A learning object and a question go from draft through review to publication.  Each keeps the
version that is worked on beside the one that is published, and is taken back by being archived or
retired.  Questions are also imported and handled many at a time.
-/

namespace LockIn.Education

inductive ContentType where
  | pdf
  | audio
  | video
deriving DecidableEq

def ContentType.value : ContentType → String
  | .pdf => "pdf"
  | .audio => "audio"
  | .video => "video"

inductive FileKind where
  | pdf
  | audio
  | other
deriving DecidableEq

inductive ValidationStatus where
  | ready
  | rejected
deriving DecidableEq

inductive ScanStatus where
  | notConfigured
  | pending
  | scanning
  | clean
  | quarantined
  | failed
deriving DecidableEq

structure ManagedFile where
  id : Uuid
  owner : Nat
  kind : FileKind
  validationStatus : ValidationStatus
  scanStatus : ScanStatus

structure LearningObjectVersion where
  versionNumber : Nat
  academicNode : Uuid
  contentType : ContentType
  title : Text
  summary : Text
  language : Text
  primaryFile : Option Uuid
deriving DecidableEq

inductive ContentStatus where
  | draft
  | inReview
  | published
  | rejected
  | archived
deriving DecidableEq

structure LearningObject where
  id : Uuid
  owner : Nat
  currentVersion : Option LearningObjectVersion
  publishedVersion : Option LearningObjectVersion
  workflowStatus : ContentStatus
  position : Nat
  reviewNote : Text
  revision : Nat
  publishedAt : Option Nat
  archivedAt : Option Nat
deriving DecidableEq

inductive QuestionType where
  | singleChoice
  | trueFalse
  | completionChoice
  | multipleSelect
deriving DecidableEq

def QuestionType.value : QuestionType → String
  | .singleChoice => "single_choice"
  | .trueFalse => "true_false"
  | .completionChoice => "completion_choice"
  | .multipleSelect => "multiple_select"

inductive Difficulty where
  | easy
  | medium
  | hard

structure QuestionOption where
  text : Text
  isCorrect : Bool

/-- `metadata` is the shortest JSON of it. -/
structure QuestionVersion where
  versionNumber : Nat
  academicNode : Uuid
  sourceLearningObject : Option Uuid
  questionType : QuestionType
  prompt : Text
  explanation : Text
  topic : Text
  sourcePage : Option Nat
  difficulty : Difficulty
  language : Text
  metadata : Text
  options : List QuestionOption

inductive QuestionStatus where
  | draft
  | inReview
  | published
  | rejected
  | retired
deriving DecidableEq

structure Question where
  id : Uuid
  owner : Nat
  importBatch : Option Uuid
  currentVersion : Option QuestionVersion
  publishedVersion : Option QuestionVersion
  workflowStatus : QuestionStatus
  reviewNote : Text
  revision : Nat
  publishedAt : Option Nat
  retiredAt : Option Nat

inductive BatchStatus where
  | draft
  | published
  | undone
deriving DecidableEq

structure QuestionImportBatch where
  id : Uuid
  academicNode : Uuid
  sheet : Uuid
  status : BatchStatus
  questionCount : Nat
  undoneBy : Option Nat
  undoneAt : Option Nat

structure World where
  tree : Tree
  learningObjects : List LearningObject
  questions : List Question
  batches : List QuestionImportBatch

/-- The settings and what stands in other tables. -/
structure Site where
  texts : Texts
  requireCleanScan : Bool

abbrev Files : Type := Uuid → Option ManagedFile

def putLearningObject (world : World) (learningObject : LearningObject) : World :=
  { world with learningObjects := Table.put LearningObject.id world.learningObjects learningObject }

def putQuestion (world : World) (question : Question) : World :=
  { world with questions := Table.put Question.id world.questions question }

def withEntries (world : World) (entries : List Entry) : World :=
  { world with tree := { world.tree with entries } }

def findLearningObject (world : World) (id : Uuid) : Except CatalogueError LearningObject :=
  match Table.find LearningObject.id world.learningObjects id with
  | none => .error .doesNotExist
  | some learningObject => .ok learningObject

def findQuestion (world : World) (id : Uuid) : Except CatalogueError Question :=
  match Table.find Question.id world.questions id with
  | none => .error .doesNotExist
  | some question => .ok question

structure LearningObjectInput where
  academicNode : Uuid
  contentType : ContentType
  title : Text
  summary : Text
  language : Text
  availableFrom : Option Nat
  availableUntil : Option Nat
  primaryFile : Option ManagedFile
  /-- The other files and what each is called. -/
  companions : List (ManagedFile × String)
  position : Nat

def ensureContentRevision (learningObject : LearningObject) (expectedRevision : Nat) :
    Except CatalogueError Unit :=
  if learningObject.revision ≠ expectedRevision then
    .error (.contentConflict "This content changed. Reload it and try again.")
  else .ok ()

def expectedKind : ContentType → Option FileKind
  | .pdf => some .pdf
  | .audio => some .audio
  | .video => none

def validateCompanion (actor : Actor) (contentType : ContentType) (file : ManagedFile) (label : String) :
    Except CatalogueError Unit :=
  Outcome.refuse [
    (contentType ≠ .pdf, .content ("A " ++ label ++ " can only be attached to PDF content.")),
    (!actor.isContentAdministrator && file.owner ≠ actor.id,
      .content ("You cannot attach another creator's " ++ label ++ ".")),
    (file.validationStatus ≠ .ready, .content ("The " ++ label ++ " did not pass validation.")),
    (file.kind ≠ .pdf, .content ("The " ++ label ++ " must be a PDF file."))]

section
variable (site : Site)

def validateContentInput (actor : Actor) (node : Node) (data : LearningObjectInput) :
    Except CatalogueError Unit := do
  Outcome.refuse [
    (!actor.canCreateContent node, .content "You cannot create content in this education scope."),
    (site.texts.strip data.title = [], .content "A content title is required."),
    (decide (1000000 < data.position), .content "The content position is outside the supported range."),
    (match data.availableFrom, data.availableUntil with
      | some opens, some closes => decide (closes ≤ opens)
      | _, _ => false, .content "Availability must end after it starts.")]
  match data.contentType, data.primaryFile with
  | .video, some _ => .error (.content "Video delivery is not implemented in this phase.")
  | .video, none => .ok ()
  | _, none => .error (.content "A primary file is required for PDF and audio content.")
  | contentType, some file => do
    Outcome.refuse [
      (!actor.isContentAdministrator && file.owner ≠ actor.id,
        .content "You cannot attach another creator's file."),
      (file.validationStatus ≠ .ready, .content "The selected file did not pass validation."),
      (expectedKind contentType ≠ some file.kind, .content "The primary file does not match the content type.")]
    data.companions.forM fun companion => validateCompanion actor contentType companion.1 companion.2

def createContentVersion (versionNumber : Nat) (data : LearningObjectInput) : LearningObjectVersion where
  versionNumber := versionNumber
  academicNode := data.academicNode
  contentType := data.contentType
  title := site.texts.strip data.title
  summary := site.texts.strip data.summary
  language := data.language
  primaryFile := data.primaryFile.map ManagedFile.id

def createLearningObject (actor : Actor) (world : World) (id : Uuid) (data : LearningObjectInput) :
    Except CatalogueError World := do
  let node ← findNode world.tree.nodes data.academicNode
  validateContentInput site actor node data
  if world.learningObjects.any (·.id = id) then .error .database
  else
    .ok { world with
      learningObjects := world.learningObjects ++
        [⟨id, actor.id, some (createContentVersion site 1 data), none, .draft, data.position, [], 1, none,
          none⟩] }

def canEditLearningObject (actor : Actor) (world : World) (learningObject : LearningObject) : Bool :=
  learningObject.currentVersion.any fun version => actor.isContentAdministrator ||
    (learningObject.owner = actor.id &&
      (Table.find Node.id world.tree.nodes version.academicNode).any actor.canCreateContent)

def reviseLearningObject (actor : Actor) (world : World) (id : Uuid) (expectedRevision : Nat)
    (data : LearningObjectInput) : Except CatalogueError World := do
  let learningObject ← findLearningObject world id
  if !canEditLearningObject actor world learningObject then .error (.content "You cannot edit this content.")
  else do
    ensureContentRevision learningObject expectedRevision
    if learningObject.workflowStatus = .inReview || learningObject.workflowStatus = .archived then
      .error (.content "Content in review or archived content cannot be edited.")
    else do
      let node ← findNode world.tree.nodes data.academicNode
      validateContentInput site actor node data
      match learningObject.currentVersion with
      | none => .error (.content "The content has no current version.")
      | some current =>
        .ok (putLearningObject world { learningObject with
          currentVersion := some (createContentVersion site (current.versionNumber + 1) data)
          position := data.position
          workflowStatus := .draft
          reviewNote := []
          revision := learningObject.revision + 1 })

def validateReviewable (files : Files) (version : LearningObjectVersion) : Except CatalogueError Unit :=
  if version.contentType = .video then .ok ()
  else
    match version.primaryFile.bind files with
    | none => .error (.content "A validated primary file is required before publication.")
    | some file =>
      Outcome.refuse [
        (file.validationStatus ≠ .ready, .content "A validated primary file is required before publication."),
        (file.scanStatus = .quarantined || file.scanStatus = .failed ||
          (site.requireCleanScan && file.scanStatus ≠ .clean),
          .content "The primary file is not safe to publish.")]

def submitForReview (actor : Actor) (files : Files) (world : World) (id : Uuid) (expectedRevision : Nat) :
    Except CatalogueError World := do
  let learningObject ← findLearningObject world id
  if !canEditLearningObject actor world learningObject then .error (.content "You cannot submit this content.")
  else do
    ensureContentRevision learningObject expectedRevision
    if learningObject.workflowStatus ≠ .draft && learningObject.workflowStatus ≠ .rejected then
      .error (.content "Only draft or rejected content can be submitted.")
    else
      match learningObject.currentVersion with
      | none => .error (.content "The content has no current version.")
      | some version => do
        validateReviewable site files version
        .ok (putLearningObject world { learningObject with
          workflowStatus := .inReview
          reviewNote := []
          revision := learningObject.revision + 1 })

end

def permitted {ν : Type} (nodes : List Node) (nodeOf : ν → Uuid) (allowed : Node → Bool)
    (error : CatalogueError) : Option ν → Except CatalogueError (ν × Node)
  | none => .error error
  | some version => do
    let node ← findNode nodes (nodeOf version)
    if !allowed node then .error error else .ok (version, node)

section
variable (site : Site)

def rejectLearningObject (actor : Actor) (world : World) (id : Uuid) (expectedRevision : Nat)
    (reviewNote : Text) : Except CatalogueError World := do
  let learningObject ← findLearningObject world id
  let _ ← permitted world.tree.nodes LearningObjectVersion.academicNode actor.canReviewContent
    (.content "You cannot review this content.") learningObject.currentVersion
  ensureContentRevision learningObject expectedRevision
  if learningObject.workflowStatus ≠ .inReview then
    .error (.content "Only content in review can be rejected.")
  else if site.texts.strip reviewNote = [] then
    .error (.content "Review feedback is required when rejecting content.")
  else
    .ok (putLearningObject world { learningObject with
      workflowStatus := .rejected
      reviewNote := site.texts.strip reviewNote
      revision := learningObject.revision + 1 })

def publishLearningObject (actor : Actor) (files : Files) (world : World) (id : Uuid)
    (expectedRevision now : Nat) : Except CatalogueError World := do
  let learningObject ← findLearningObject world id
  let (version, node) ← permitted world.tree.nodes LearningObjectVersion.academicNode actor.canPublishContent
    (.content "You cannot publish this content.") learningObject.currentVersion
  ensureContentRevision learningObject expectedRevision
  if learningObject.workflowStatus ≠ .inReview then .error (.content "Only reviewed content can be published.")
  else if !node.isDiscoverable then
    .error (.content "Publish the education path before publishing this content.")
  else do
    validateReviewable site files version
    if version.contentType = .video then
      .error (.content "Video delivery is future-ready but is not implemented yet.")
    else
      let published := putLearningObject world { learningObject with
        publishedVersion := some version
        workflowStatus := .published
        publishedAt := some now
        archivedAt := none
        reviewNote := []
        revision := learningObject.revision + 1 }
      .ok (withEntries published (upsertSearchEntry world.tree.entries
        { resourceKind := .learningObject
          resourceId := id
          contentType := version.contentType.value
          title := version.title
          summary := version.summary
          language := version.language
          academicPath := node.path
          isDiscoverable := true
          publishedAt := some now }))

end

def archiveLearningObject (actor : Actor) (world : World) (id : Uuid) (expectedRevision now : Nat) :
    Except CatalogueError World := do
  let learningObject ← findLearningObject world id
  let _ ← permitted world.tree.nodes LearningObjectVersion.academicNode actor.canPublishContent
    (.content "You cannot archive this content.") learningObject.currentVersion
  ensureContentRevision learningObject expectedRevision
  let archived := putLearningObject world { learningObject with
    workflowStatus := .archived
    archivedAt := some now
    revision := learningObject.revision + 1 }
  .ok (withEntries archived (removeSearchEntry world.tree.entries (.learningObject, id)))

structure QuestionInput where
  academicNode : Uuid
  questionType : QuestionType
  prompt : Text
  options : List QuestionOption
  explanation : Text
  difficulty : Difficulty
  language : Text
  metadata : Text
  sourceLearningObject : Option Uuid
  topic : Text
  sourcePage : Option Nat
  importBatch : Option Uuid

def ensureQuestionRevision (question : Question) (expectedRevision : Nat) : Except CatalogueError Unit :=
  if question.revision ≠ expectedRevision then
    .error (.questionConflict "This question changed. Reload it and try again.")
  else .ok ()

def findSource (world : World) : Option Uuid → Except CatalogueError (Option LearningObject)
  | none => .ok none
  | some id => some <$> findLearningObject world id

section
variable (site : Site)

def validateQuestionInput (actor : Actor) (world : World) (data : QuestionInput) :
    Except CatalogueError Unit := do
  let node ← findNode world.tree.nodes data.academicNode
  let source ← findSource world data.sourceLearningObject
  let normalizedOptions := data.options.map fun option => site.texts.normalizeOption option.text
  let correctCount := data.options.countP (·.isCorrect)
  Outcome.refuse [
    (!actor.canCreateAssessments node, .question "You cannot create assessments in this education scope."),
    (site.texts.strip data.prompt = [], .question "A question prompt is required."),
    (decide (data.options.length < 2) || decide (12 < data.options.length),
      .question "A question needs between 2 and 12 answer options."),
    (normalizedOptions.any (· = []), .question "Answer options cannot be empty."),
    (decide ¬ normalizedOptions.Nodup, .question "Answer options must be unique."),
    (data.questionType = .multipleSelect && decide (correctCount < 2),
      .question "Multiple select questions require at least two correct options."),
    (data.questionType ≠ .multipleSelect && correctCount ≠ 1,
      .question "Exactly one answer option must be correct."),
    (data.questionType = .trueFalse && data.options.length ≠ 2,
      .question "True or false questions require exactly two options."),
    (data.sourcePage.any (· < 1), .question "Source page must be a positive page number."),
    (source.any fun source => source.currentVersion.map (·.academicNode) ≠ some node.id,
      .question "The selected sheet does not match the question education scope."),
    (decide (4096 < data.metadata.length), .question "Question metadata is too large.")]

def createQuestionVersion (versionNumber : Nat) (data : QuestionInput) : QuestionVersion where
  versionNumber := versionNumber
  academicNode := data.academicNode
  sourceLearningObject := data.sourceLearningObject
  questionType := data.questionType
  prompt := site.texts.strip data.prompt
  explanation := site.texts.strip data.explanation
  topic := site.texts.strip data.topic
  sourcePage := data.sourcePage
  difficulty := data.difficulty
  language := site.texts.lower (site.texts.strip data.language)
  metadata := data.metadata
  options := data.options.map fun option => { option with text := site.texts.strip option.text }

def createQuestion (actor : Actor) (world : World) (id : Uuid) (data : QuestionInput) :
    Except CatalogueError World := do
  validateQuestionInput site actor world data
  if world.questions.any (·.id = id) then .error .database
  else
    .ok { world with
      questions := world.questions ++
        [⟨id, actor.id, data.importBatch, some (createQuestionVersion site 1 data), none, .draft, [], 1, none,
          none⟩] }

def canEditQuestion (actor : Actor) (question : Question) : Bool :=
  actor.isAssessmentAdministrator || question.owner = actor.id

def reviseQuestion (actor : Actor) (world : World) (id : Uuid) (expectedRevision : Nat)
    (data : QuestionInput) : Except CatalogueError World := do
  let question ← findQuestion world id
  if !canEditQuestion actor question then .error (.question "You cannot edit this question.")
  else do
    ensureQuestionRevision question expectedRevision
    if question.workflowStatus = .inReview || question.workflowStatus = .retired then
      .error (.question "Questions in review or retired questions cannot be edited.")
    else do
      validateQuestionInput site actor world data
      match question.currentVersion with
      | none => .error (.question "The question has no current version.")
      | some current =>
        .ok (putQuestion world { question with
          currentVersion := some (createQuestionVersion site (current.versionNumber + 1) data)
          workflowStatus := .draft
          reviewNote := []
          revision := question.revision + 1 })

end

def submitQuestionForReview (actor : Actor) (world : World) (id : Uuid) (expectedRevision : Nat) :
    Except CatalogueError World := do
  let question ← findQuestion world id
  if !canEditQuestion actor question then .error (.question "You cannot submit this question.")
  else do
    ensureQuestionRevision question expectedRevision
    if question.workflowStatus ≠ .draft && question.workflowStatus ≠ .rejected then
      .error (.question "Only draft or rejected questions can be submitted.")
    else if question.currentVersion.isNone then .error (.question "The question has no current version.")
    else
      .ok (putQuestion world { question with
        workflowStatus := .inReview
        reviewNote := []
        revision := question.revision + 1 })

def rejectQuestion (site : Site) (actor : Actor) (world : World) (id : Uuid) (expectedRevision : Nat)
    (reviewNote : Text) : Except CatalogueError World := do
  let question ← findQuestion world id
  let _ ← permitted world.tree.nodes QuestionVersion.academicNode actor.canReviewAssessments
    (.question "You cannot review this question.") question.currentVersion
  ensureQuestionRevision question expectedRevision
  if question.workflowStatus ≠ .inReview then
    .error (.question "Only questions in review can be rejected.")
  else if site.texts.strip reviewNote = [] then
    .error (.question "Review feedback is required when rejecting a question.")
  else
    .ok (putQuestion world { question with
      workflowStatus := .rejected
      reviewNote := site.texts.strip reviewNote
      revision := question.revision + 1 })

def publishQuestion (actor : Actor) (world : World) (id : Uuid) (expectedRevision now : Nat) :
    Except CatalogueError World := do
  let question ← findQuestion world id
  let (version, node) ← permitted world.tree.nodes QuestionVersion.academicNode actor.canPublishAssessments
    (.question "You cannot publish this question.") question.currentVersion
  ensureQuestionRevision question expectedRevision
  if question.workflowStatus ≠ .inReview then
    .error (.question "Only reviewed questions can be published.")
  else if !node.isDiscoverable then
    .error (.question "Publish the education path before publishing this question.")
  else
    let published := putQuestion world { question with
      publishedVersion := some version
      workflowStatus := .published
      publishedAt := some now
      retiredAt := none
      reviewNote := []
      revision := question.revision + 1 }
    .ok (withEntries published (upsertSearchEntry world.tree.entries
      { resourceKind := .question
        resourceId := id
        contentType := version.questionType.value
        title := version.prompt.take 220
        summary := []
        language := version.language
        academicPath := node.path
        isDiscoverable := true
        publishedAt := some now }))

def retire (world : World) (question : Question) (now : Nat) : World :=
  withEntries (putQuestion world { question with
    workflowStatus := .retired
    retiredAt := some now
    revision := question.revision + 1 }) (removeSearchEntry world.tree.entries (.question, question.id))

def retireQuestion (actor : Actor) (world : World) (id : Uuid) (expectedRevision now : Nat) :
    Except CatalogueError World := do
  let question ← findQuestion world id
  let _ ← permitted world.tree.nodes QuestionVersion.academicNode actor.canPublishAssessments
    (.question "You cannot retire this question.") question.currentVersion
  ensureQuestionRevision question expectedRevision
  .ok (retire world question now)

def publishCurrent (actor : Actor) (world : World) (id : Uuid) (now : Nat) : Except CatalogueError World := do
  let question ← findQuestion world id
  if question.workflowStatus = .published then .ok world
  else if question.workflowStatus = .retired then
    .error (.question "Retired questions cannot be republished without a new revision.")
  else if question.workflowStatus = .inReview then publishQuestion actor world id question.revision now
  else do
    let submitted ← submitQuestionForReview actor world id question.revision
    publishQuestion actor submitted id (question.revision + 1) now

def unpublish (world : World) (question : Question) : World :=
  withEntries (putQuestion world { question with
    publishedVersion := none
    workflowStatus := .draft
    publishedAt := none
    revision := question.revision + 1 }) (removeSearchEntry world.tree.entries (.question, question.id))

def sheetNode (sheet : LearningObject) : Except CatalogueError Uuid :=
  match sheet.currentVersion with
  | none => .error (.question "The selected sheet has no current version.")
  | some version => .ok version.academicNode

section
variable (site : Site)

def move (actor : Actor) (world : World) (question : Question) (targetSheet : LearningObject) (now : Nat) :
    Except CatalogueError World :=
  match question.currentVersion with
  | none => .error (.question "A selected question has no current version.")
  | some version => do
    let targetNode ← sheetNode targetSheet
    let revised ← reviseQuestion site actor world question.id question.revision
      { academicNode := targetNode
        questionType := version.questionType
        prompt := version.prompt
        options := version.options
        explanation := version.explanation
        difficulty := version.difficulty
        language := version.language
        metadata := version.metadata
        sourceLearningObject := some targetSheet.id
        topic := version.topic
        sourcePage := version.sourcePage
        importBatch := none }
    if question.workflowStatus = .published then publishCurrent actor revised question.id now else .ok revised

inductive BulkAction where
  | publish
  | unpublish
  | archive
  | delete
  | move
  | unknown
deriving DecidableEq

def bulkStep (actor : Actor) (action : BulkAction) (targetSheet : Option LearningObject) (now : Nat)
    (world : World) (id : Uuid) : Except CatalogueError World := do
  let question ← findQuestion world id
  match action, targetSheet with
  | .publish, _ => publishCurrent actor world id now
  | .unpublish, _ => .ok (unpublish world question)
  | .archive, _ | .delete, _ => .ok (retire world question now)
  | .move, some sheet => move site actor world question sheet now
  | _, _ => .error (.question "Unsupported bulk question action.")

/-- The identifiers stand in the order in which the rows are handled. -/
def bulkQuestionAction (actor : Actor) (world : World) (questionIds : List Uuid) (action : BulkAction)
    (targetSheet : Option Uuid) (now : Nat) : Except CatalogueError World := do
  let sheet ← findSource world targetSheet
  if !decide questionIds.Nodup ||
      !questionIds.all fun id => (Table.find Question.id world.questions id).isSome then
    .error (.question "One or more selected questions were not found.")
  else do
    let handled ← questionIds.foldlM (bulkStep site actor action sheet now) world
    if questionIds = [] then .error .indexError else .ok handled

structure ImportedQuestion where
  id : Uuid
  questionType : QuestionType
  prompt : Text
  options : List QuestionOption
  explanation : Text
  difficulty : Difficulty
  topic : Text
  sourcePage : Option Nat

def importStep (actor : Actor) (batch sheet node : Uuid) (metadata : Text) (publish : Bool) (now : Nat)
    (world : World) (imported : ImportedQuestion) : Except CatalogueError World := do
  let created ← createQuestion site actor world imported.id
    { academicNode := node
      questionType := imported.questionType
      prompt := imported.prompt
      options := imported.options
      explanation := imported.explanation
      difficulty := imported.difficulty
      language := "en".toList
      metadata
      sourceLearningObject := some sheet
      topic := imported.topic
      sourcePage := imported.sourcePage
      importBatch := some batch }
  if publish then publishCurrent actor created imported.id now else .ok created

def importQuestions (actor : Actor) (world : World) (batch sheet : Uuid) (questions : List ImportedQuestion)
    (publish : Bool) (metadata : Text) (now : Nat) : Except CatalogueError World := do
  let found ← findLearningObject world sheet
  let node ← sheetNode found
  if world.batches.any (·.id = batch) then .error .database
  else
    questions.foldlM (importStep site actor batch sheet node metadata publish now)
      { world with
        batches := world.batches ++
          [⟨batch, node, sheet, if publish then .published else .draft, questions.length, none, none⟩] }

end

def undoStep (now : Nat) (world : World) (question : Question) : World :=
  if question.workflowStatus ≠ .retired then retire world question now else world

def undoImport (actor : Actor) (world : World) (id : Uuid) (now : Nat) : Except CatalogueError World :=
  match Table.find QuestionImportBatch.id world.batches id with
  | none => .error .doesNotExist
  | some batch =>
    if batch.status = .undone then .error (.question "This import has already been undone.")
    else
      let retired := (world.questions.filter (·.importBatch = some id)).foldl (undoStep now) world
      .ok { retired with
        batches := Table.put QuestionImportBatch.id world.batches { batch with
          status := .undone
          undoneBy := some actor.id
          undoneAt := some now } }

inductive Request where
  | createNode (id : Uuid) (kind : Kind) (title : Text) (parent : Option Uuid) (slug : Option Text)
      (description : Text) (position : Nat)
  | updateNode (id : Uuid) (expectedRevision : Nat) (changes : NodeChanges)
  | moveNode (id : Uuid) (newParent : Option Uuid) (expectedRevision position : Nat)
  | setNodeStatus (id : Uuid) (expectedRevision : Nat) (status : NodeStatus)
  | createLearningObject (id : Uuid) (data : LearningObjectInput)
  | reviseLearningObject (id : Uuid) (expectedRevision : Nat) (data : LearningObjectInput)
  | submitForReview (id : Uuid) (expectedRevision : Nat)
  | rejectLearningObject (id : Uuid) (expectedRevision : Nat) (reviewNote : Text)
  | publishLearningObject (id : Uuid) (expectedRevision : Nat)
  | archiveLearningObject (id : Uuid) (expectedRevision : Nat)
  | createQuestion (id : Uuid) (data : QuestionInput)
  | reviseQuestion (id : Uuid) (expectedRevision : Nat) (data : QuestionInput)
  | submitQuestionForReview (id : Uuid) (expectedRevision : Nat)
  | rejectQuestion (id : Uuid) (expectedRevision : Nat) (reviewNote : Text)
  | publishQuestion (id : Uuid) (expectedRevision : Nat)
  | retireQuestion (id : Uuid) (expectedRevision : Nat)
  | bulkQuestionAction (questionIds : List Uuid) (action : BulkAction) (targetSheet : Option Uuid)
  | importQuestions (batch sheet : Uuid) (questions : List ImportedQuestion) (publish : Bool) (metadata : Text)
  | undoImport (batch : Uuid)

structure Call where
  request : Request
  actor : Actor
  files : Files
  now : Nat

def Call.exec (site : Site) (call : Call) (world : World) : Except CatalogueError World :=
  let onTree := fun tree : Tree => { world with tree }
  match call.request with
  | .createNode id kind title parent slug description position =>
    onTree <$> Education.createNode site.texts call.actor world.tree id kind title parent slug description position
  | .updateNode id expectedRevision changes =>
    onTree <$> Education.updateNode site.texts call.actor world.tree id expectedRevision changes
  | .moveNode id newParent expectedRevision position =>
    onTree <$> Education.moveNode call.actor world.tree id newParent expectedRevision position
  | .setNodeStatus id expectedRevision status =>
    onTree <$> Education.setNodeStatus call.actor world.tree id expectedRevision status
  | .createLearningObject id data => Education.createLearningObject site call.actor world id data
  | .reviseLearningObject id expectedRevision data =>
    Education.reviseLearningObject site call.actor world id expectedRevision data
  | .submitForReview id expectedRevision =>
    Education.submitForReview site call.actor call.files world id expectedRevision
  | .rejectLearningObject id expectedRevision reviewNote =>
    Education.rejectLearningObject site call.actor world id expectedRevision reviewNote
  | .publishLearningObject id expectedRevision =>
    Education.publishLearningObject site call.actor call.files world id expectedRevision call.now
  | .archiveLearningObject id expectedRevision =>
    Education.archiveLearningObject call.actor world id expectedRevision call.now
  | .createQuestion id data => Education.createQuestion site call.actor world id data
  | .reviseQuestion id expectedRevision data =>
    Education.reviseQuestion site call.actor world id expectedRevision data
  | .submitQuestionForReview id expectedRevision =>
    Education.submitQuestionForReview call.actor world id expectedRevision
  | .rejectQuestion id expectedRevision reviewNote =>
    Education.rejectQuestion site call.actor world id expectedRevision reviewNote
  | .publishQuestion id expectedRevision => Education.publishQuestion call.actor world id expectedRevision call.now
  | .retireQuestion id expectedRevision => Education.retireQuestion call.actor world id expectedRevision call.now
  | .bulkQuestionAction questionIds action targetSheet =>
    Education.bulkQuestionAction site call.actor world questionIds action targetSheet call.now
  | .importQuestions batch sheet questions publish metadata =>
    Education.importQuestions site call.actor world batch sheet questions publish metadata call.now
  | .undoImport batch => Education.undoImport call.actor world batch call.now

end LockIn.Education
