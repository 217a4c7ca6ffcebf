import LockIn.Library.Matched
import LockIn.Questions.AcceptedQuestions

/-!
# What an import stores

Every question of an accepted document satisfies the rules under which questions are created, so
it is stored and published after the ones before it.  Only the columns of the database can stand in
the way: a source page that is no 32-bit number, a NUL in a text and, where the questions are
published, a prompt that is too long for the search index once its characters are normalised.
-/

namespace LockIn.Questions

open Education (Actor CatalogueError Site Uuid World createQuestion createQuestionVersion
  findLearningObject findNode findQuestion findSource permitted publishCurrent publishQuestion
  putQuestion sheetNode submitQuestionForReview validateQuestionInput)
open Json (Fields getD)
open Outcome (refuse ok_bind bind_eq_ok)
open Whitespace (Text strip strip_strip singleSpaced_ne_nil)

structure HasOptions (item : Json) (options : List Education.QuestionOption) : Prop where
  choices : options.map (·.text) = givenChoices item
  correct : ((options.filter (·.isCorrect)).map (·.text)).Perm (givenAnswers item)
  count : ∀ type, itemType item = some type → AnswerCount type (options.countP (·.isCorrect))

structure Records (item : Json) (row : Education.Question) : Prop where
  version : ∃ version, row.currentVersion = some version ∧
    itemType item = (schemaTypes.find? fun type => storedType type = version.questionType) ∧
    version.prompt = strip (itemText item "question") ∧ HasOptions item version.options

structure Fits (python : Python) (publish : Bool) (item : Json) : Prop where
  page : ∀ page : Nat, getD (itemFields item) "source_page" = .int page → page ≤ maxInteger
  texts : ∀ text ∈ strip (itemText item "question") :: strip (itemText item "explanation") ::
    strip (itemText item "topic") :: givenChoices item, '\x00' ∉ text
  title : publish = true →
    (normalizeSearchText python ((strip (itemText item "question")).take 220)).length ≤ 220

section
variable {casefold : Text → Text} {item : Json} {question : ImportedQuestion}

theorem Accepts.choices_nodup (h : Accepts casefold item question) : question.choices.Nodup :=
  List.Nodup.of_map _ h.distinct

theorem Accepts.marked (h : Accepts casefold item question) :
    (question.choices.filter (· ∈ question.correctAnswers)).Perm question.correctAnswers := by
  apply (List.perm_ext_iff_of_nodup (h.choices_nodup.filter _) h.once).2
  intro answer
  simp only [List.mem_filter, decide_eq_true_eq]
  exact ⟨fun hmem => hmem.2, fun hmem => ⟨h.offered answer hmem, hmem⟩⟩

theorem countP_importedOptions (h : Accepts casefold item question) :
    (importedOptions question).countP (·.isCorrect) = question.correctAnswers.length := by
  unfold importedOptions
  rw [List.countP_map, List.countP_eq_length_filter]
  exact h.marked.length_eq

end

section
variable {python : Python} {actor : Actor} {world : World} {batch sheet id : Uuid}
  {node : Education.Node} {metadata : Text} {publish : Bool} {now : Nat} {item : Json}
  {question : ImportedQuestion}

theorem stripped_options (h : Accepts python.casefold item question) :
    (importedOptions question).map (fun option => { option with text := strip option.text }) =
      importedOptions question := by
  unfold importedOptions
  rw [List.map_map]
  apply List.map_congr_left
  intro choice hchoice
  simp only [Function.comp, (h.visible choice hchoice).1]

theorem version_hasOptions (h : Accepts python.casefold item question) :
    HasOptions item (createQuestionVersion (site python) 1
      (questionInput batch sheet node.id metadata question)).options := by
  have hoptions : (createQuestionVersion (site python) 1
      (questionInput batch sheet node.id metadata question)).options =
        importedOptions question := stripped_options h
  rw [hoptions]
  constructor
  case choices =>
    rw [← h.choices, importedOptions, List.map_map]
    exact List.map_id _
  case correct =>
    rw [importedOptions, List.filter_map, List.map_map, ← h.answers]
    simpa [Function.comp_def] using h.marked
  case count =>
    intro type htype
    rw [countP_importedOptions h]
    obtain rfl : question.schemaType = type := Option.some.inj (h.type.symm.trans htype)
    exact h.count

theorem fits_iff (h : Accepts python.casefold item question) : Fits python publish item ↔
    fitsColumns question = true ∧ (publish = true → fitsIndex python question = true) := by
  have hpage : (∀ page : Nat, getD (itemFields item) "source_page" = .int page → page ≤ maxInteger) ↔
      question.sourcePage.all (· ≤ maxInteger) = true := by
    rw [Option.all_eq_true]
    constructor
    · intro hsmall page hstored
      exact decide_eq_true (hsmall page ((h.page page).1 hstored).2)
    · intro hsmall page hgiven
      by_cases hpositive : 1 ≤ page
      · exact of_decide_eq_true (hsmall page ((h.page page).2 ⟨hpositive, hgiven⟩))
      · simp only [maxInteger]
        omega
  have htexts : (∀ text ∈ strip (itemText item "question") :: strip (itemText item "explanation") ::
      strip (itemText item "topic") :: givenChoices item, '\x00' ∉ text) ↔
      (question.prompt :: question.explanation :: question.topic :: question.choices).all
        fitsText = true := by
    rw [← h.prompt, ← h.explanation, ← h.topic, ← h.choices, List.all_eq_true]
    simp only [fitsText, decide_eq_true_eq]
  have htitle : (publish = true →
      (normalizeSearchText python ((strip (itemText item "question")).take 220)).length ≤ 220) ↔
      (publish = true → fitsIndex python question = true) := by
    rw [← h.prompt, fitsIndex]
    simp only [decide_eq_true_eq]
  unfold fitsColumns
  rw [Bool.and_eq_true, ← hpage, ← htexts, ← htitle]
  exact ⟨fun hfits => ⟨⟨hfits.page, hfits.texts⟩, hfits.title⟩,
    fun hfits => ⟨hfits.1.1, hfits.1.2, hfits.2⟩⟩

end

/-! ## Creating and publishing -/

structure ImportScope (actor : Actor) (sheet : Uuid) (publish : Bool) (node : Education.Node)
    (world : World) : Prop where
  found : Table.find Education.Node.id world.tree.nodes node.id = some node
  sheet : ∃ found version, Table.find Education.LearningObject.id world.learningObjects sheet =
    some found ∧ found.currentVersion = some version ∧ version.academicNode = node.id
  creates : actor.canCreateAssessments node = true
  publishes : publish = true →
    actor.canPublishAssessments node = true ∧ node.isDiscoverable = true

section
variable {python : Python} {actor : Actor} {world world' : World} {batch sheet id : Uuid}
  {node : Education.Node} {origin : Origin} {publish : Bool} {now : Nat} {item : Json}
  {question : ImportedQuestion}

/-- What a step of an import leaves alone. -/
structure SameScope (world next : World) : Prop where
  nodes : next.tree.nodes = world.tree.nodes
  learningObjects : next.learningObjects = world.learningObjects

theorem ImportScope.kept (h : ImportScope actor sheet publish node world)
    (hsame : SameScope world world') : ImportScope actor sheet publish node world' := by
  constructor
  case found =>
    rw [hsame.nodes]
    exact h.found
  case sheet =>
    rw [hsame.learningObjects]
    exact h.sheet
  case creates => exact h.creates
  case publishes => exact h.publishes

theorem ImportScope.findNode (h : ImportScope actor sheet publish node world) :
    findNode world.tree.nodes node.id = .ok node := by
  rw [Education.findNode, h.found]

theorem metadata_small (origin : Origin) : ¬4096 < origin.metadata.length := by
  cases origin <;> decide

theorem validate_accepts (hfold : ∀ text, python.casefold text = [] → text = [])
    (h : Accepts python.casefold item question)
    (hscope : ImportScope actor sheet publish node world) :
    validateQuestionInput (site python) actor world
      (questionInput batch sheet node.id origin.metadata question) = .ok () := by
  obtain ⟨found, version, hfound, hversion, hnode⟩ := hscope.sheet
  have hsource : findSource world (some sheet) = .ok (some found) := by
    rw [findSource, findLearningObject, hfound]
    rfl
  have hcount := countP_importedOptions h
  have hcounts := h.count
  have hprompt : strip question.prompt ≠ [] := by
    rw [h.prompt, strip_strip, ← h.prompt]
    exact h.asked
  have hnormalized : (importedOptions question).map
      (fun option => (site python).texts.normalizeOption option.text) =
        question.choices.map (normalizeOption python.casefold) := by
    rw [importedOptions, List.map_map]
    rfl
  have hvisible : ∀ option ∈ question.choices.map (normalizeOption python.casefold),
      option ≠ [] := by
    intro option hoption hblank
    obtain ⟨choice, hchoice, rfl⟩ := List.mem_map.1 hoption
    obtain ⟨hclean, hsome⟩ := h.visible choice hchoice
    exact singleSpaced_ne_nil (hclean.symm ▸ hsome) (hfold _ hblank)
  have hlength : (importedOptions question).length = question.choices.length := List.length_map _
  have hsize := h.size
  have hpage : ∀ page, question.sourcePage = some page → 1 ≤ page :=
    fun page hstored => ((h.page page).1 hstored).1
  unfold validateQuestionInput
  simp only [questionInput, hscope.findNode, hsource, ok_bind]
  simp only [Outcome.refuse_cons_ok, Outcome.refuse_nil, and_true]
  refine ⟨?_, ?_, ?_, ?_, ?_, ?_, ?_, ?_, ?_, ?_, ?_⟩
  · simp [hscope.creates]
  · exact decide_eq_false hprompt
  · simp only [hlength, Bool.or_eq_false_iff, decide_eq_false_iff_not]
    omega
  · simp only [hnormalized]
    simpa using hvisible
  · simp only [hnormalized]
    simpa using h.distinct
  · simp only [hcount, h.stored]
    cases htype : question.schemaType with
    | multipleSelect =>
      simp only [AnswerCount, htype, if_true] at hcounts
      simpa [storedType] using Nat.lt_of_succ_le hcounts
    | _ => simp [storedType]
  · simp only [hcount, h.stored]
    cases htype : question.schemaType with
    | multipleSelect => simp [storedType]
    | _ => simpa [AnswerCount, htype, storedType] using hcounts
  · simp only [hlength, h.stored]
    cases htype : question.schemaType with
    | trueFalse => simp [storedType, h.two htype]
    | _ => simp [storedType]
  · cases hstored : question.sourcePage with
    | none => rfl
    | some page => simpa using Nat.one_le_iff_ne_zero.1 (hpage page hstored)
  · simp [hversion, hnode]
  · exact decide_eq_false (metadata_small origin)

def draftRow (python : Python) (actor : Actor) (batch sheet node id : Uuid) (metadata : Text)
    (question : ImportedQuestion) : Education.Question where
  id := id
  owner := actor.id
  importBatch := some batch
  currentVersion :=
    some (createQuestionVersion (site python) 1 (questionInput batch sheet node metadata question))
  publishedVersion := none
  workflowStatus := .draft
  reviewNote := []
  revision := 1
  publishedAt := none
  retiredAt := none

theorem createQuestion_accepts (hfold : ∀ text, python.casefold text = [] → text = [])
    (h : Accepts python.casefold item question)
    (hscope : ImportScope actor sheet publish node world)
    (hfresh : ∀ other ∈ world.questions, other.id ≠ id) :
    createQuestion (site python) actor world id
        (questionInput batch sheet node.id origin.metadata question) =
      .ok { world with questions := world.questions ++
        [draftRow python actor batch sheet node.id id origin.metadata question] } := by
  have hnew : world.questions.any (·.id = id) = false := by
    simpa using hfresh
  unfold createQuestion
  rw [validate_accepts hfold h hscope, ok_bind, hnew]
  rfl

theorem records_draft (h : Accepts python.casefold item question) (row : Education.Question)
    (hrow : row.currentVersion =
      some (createQuestionVersion (site python) 1 (questionInput batch sheet node.id origin.metadata
        question))) : Records item row := by
  refine ⟨_, hrow, ?_, ?_, version_hasOptions h⟩
  · show itemType item = schemaTypes.find? fun type => storedType type = question.questionType
    rw [h.type, h.stored]
    cases question.schemaType <;> rfl
  · show strip question.prompt = _
    rw [h.prompt, strip_strip]

structure Last (before : List Education.Question) (row : Education.Question) (world : World) :
    Prop where
  questions : world.questions = before ++ [row]
  fresh : ∀ other ∈ before, other.id ≠ row.id

section
variable {before : List Education.Question} {row : Education.Question}

theorem Last.find (h : Last before row world) : findQuestion world row.id = .ok row := by
  have hbefore : Table.find Education.Question.id before row.id = none :=
    Table.find_eq_none.2 h.fresh
  unfold findQuestion
  rw [h.questions, Table.find_append, hbefore]
  simp [Table.find]

theorem Last.put (h : Last before row world) {changed : Education.Question}
    (hid : changed.id = row.id) : Last before changed (putQuestion world changed) := by
  have hfresh : ∀ other ∈ before, other.id ≠ changed.id := by
    intro other hother
    rw [hid]
    exact h.fresh other hother
  constructor
  case questions =>
    show Table.put Education.Question.id world.questions changed = _
    rw [h.questions]
    exact Table.put_append_new hfresh hid.symm
  case fresh => exact hfresh

def submittedRow (row : Education.Question) : Education.Question :=
  { row with
    workflowStatus := .inReview
    reviewNote := []
    revision := row.revision + 1 }

def publishedRow (row : Education.Question) (version : Education.QuestionVersion) (now : Nat) :
    Education.Question :=
  { submittedRow row with
    publishedVersion := some version
    workflowStatus := .published
    publishedAt := some now
    retiredAt := none
    reviewNote := []
    revision := row.revision + 1 + 1 }

theorem submit_draft (h : Last before row world) (howner : row.owner = actor.id)
    (hstatus : row.workflowStatus = .draft) (hversion : row.currentVersion.isSome) :
    submitQuestionForReview actor world row.id row.revision =
      .ok (putQuestion world (submittedRow row)) := by
  have hcurrent : row.currentVersion.isNone = false := by
    simpa [Option.isSome_iff_ne_none] using hversion
  unfold submitQuestionForReview submittedRow
  rw [h.find, ok_bind]
  simp [Education.canEditQuestion, howner, Education.ensureQuestionRevision, hstatus, hcurrent]

theorem publishCurrent_draft {version : Education.QuestionVersion}
    (hscope : ImportScope actor sheet true node world) (h : Last before row world)
    (howner : row.owner = actor.id) (hstatus : row.workflowStatus = .draft)
    (hversion : row.currentVersion = some version) (hnode : version.academicNode = node.id) :
    ∃ world', publishCurrent actor world row.id now = .ok world' ∧
      world'.questions = before ++ [publishedRow row version now] ∧ SameScope world world' := by
  have hsubmitted := submit_draft h howner hstatus (by rw [hversion]; rfl)
  have hreviewed : Last before (submittedRow row) (putQuestion world (submittedRow row)) :=
    h.put rfl
  have hpublished := @Last.put _ _ _ hreviewed (publishedRow row version now) rfl
  obtain ⟨hallowed, hshown⟩ := hscope.publishes rfl
  have hpermitted : permitted (putQuestion world (submittedRow row)).tree.nodes
      Education.QuestionVersion.academicNode actor.canPublishAssessments
      (.question "You cannot publish this question.") (submittedRow row).currentVersion =
        .ok (version, node) := by
    have hcurrent : (submittedRow row).currentVersion = some version := hversion
    simp only [hcurrent, permitted, hnode]
    show (Education.findNode world.tree.nodes node.id >>= _) = _
    rw [hscope.findNode, ok_bind, hallowed]
    rfl
  have hfind : findQuestion (putQuestion world (submittedRow row)) row.id =
      .ok (submittedRow row) := hreviewed.find
  have hpublish : publishQuestion actor (putQuestion world (submittedRow row)) row.id
      (row.revision + 1) now = .ok (Education.withEntries
        (putQuestion (putQuestion world (submittedRow row)) (publishedRow row version now))
        (Education.upsertSearchEntry world.tree.entries
          { resourceKind := .question
            resourceId := row.id
            contentType := version.questionType.value
            title := version.prompt.take 220
            summary := []
            language := version.language
            academicPath := node.path
            isDiscoverable := true
            publishedAt := some now })) := by
    unfold publishQuestion
    rw [hfind, ok_bind, hpermitted, ok_bind]
    simp [Education.ensureQuestionRevision, submittedRow, hshown]
    rfl
  have hrun : publishCurrent actor world row.id now =
      publishQuestion actor (putQuestion world (submittedRow row)) row.id (row.revision + 1)
        now := by
    unfold publishCurrent
    rw [h.find, ok_bind]
    simp only [hstatus, reduceCtorEq, if_false]
    rw [hsubmitted, ok_bind]
  exact ⟨_, hrun.trans hpublish, hpublished.questions, ⟨rfl, rfl⟩⟩

end

theorem importQuestion_ends (hfold : ∀ text, python.casefold text = [] → text = [])
    (h : Accepts python.casefold item question)
    (hscope : ImportScope actor sheet publish node world)
    (hfresh : ∀ other ∈ world.questions, other.id ≠ id) :
    (Fits python publish item → ∃ world' row, importQuestion python actor batch sheet node.id
        origin.metadata publish now world (question, id) = .ok world' ∧
      world'.questions = world.questions ++ [row] ∧ row.id = id ∧ Records item row ∧
      SameScope world world') ∧
    (¬Fits python publish item → importQuestion python actor batch sheet node.id origin.metadata
      publish now world (question, id) = .error .data) := by
  rw [fits_iff h]
  unfold importQuestion
  rw [createQuestion_accepts hfold h hscope hfresh]
  simp only [Except.mapError, ok_bind]
  cases hcolumns : fitsColumns question with
  | false => exact ⟨fun hfits => (by cases hfits.1), fun _ => rfl⟩
  | true =>
    cases publish with
    | false =>
      refine ⟨fun _ => ⟨_, _, rfl, rfl, rfl, records_draft h _ rfl, ⟨rfl, rfl⟩⟩, fun hunfit => ?_⟩
      exact absurd ⟨rfl, fun hpublish => absurd hpublish Bool.false_ne_true⟩ hunfit
    | true =>
      have hcreated : SameScope world { world with questions := world.questions ++
          [draftRow python actor batch sheet node.id id origin.metadata question] } := ⟨rfl, rfl⟩
      obtain ⟨world', hpublish, hquestions, hsame⟩ := @publishCurrent_draft _ _ _ _ now _
        (draftRow python actor batch sheet node.id id origin.metadata question) _
        (hscope.kept hcreated) ⟨rfl, hfresh⟩ rfl rfl rfl rfl
      have hrun : publishCurrent actor { world with questions := world.questions ++
          [draftRow python actor batch sheet node.id id origin.metadata question] } id now =
            .ok world' := hpublish
      simp only [hrun, ok_bind]
      cases htitle : fitsIndex python question with
      | false => exact ⟨fun hfits => absurd (hfits.2 trivial) Bool.false_ne_true, fun _ => rfl⟩
      | true =>
        refine ⟨fun _ => ⟨_, _, rfl, hquestions, rfl, records_draft h _ rfl, ?_⟩, fun hunfit => ?_⟩
        · exact ⟨hsame.nodes, hsame.learningObjects⟩
        · exact absurd ⟨trivial, fun _ => rfl⟩ hunfit

theorem importRun (hfold : ∀ text, python.casefold text = [] → text = []) {ids : Nat → Uuid}
    (hids : Function.Injective ids) {items : List Json} {questions : List ImportedQuestion}
    (h : List.Forall₂ (Accepts python.casefold) items questions) (start : Nat)
    (hscope : ImportScope actor sheet publish node world)
    (hfresh : ∀ place, start ≤ place → ∀ other ∈ world.questions, other.id ≠ ids place) :
    ((∀ item ∈ items, Fits python publish item) → ∃ next rows,
      ((questions.zipIdx start).map fun entry => (entry.1, ids entry.2)).foldlM (importQuestion
        python actor batch sheet node.id origin.metadata publish now) world = .ok next ∧
      next.questions = world.questions ++ rows ∧ List.Forall₂ Records items rows) ∧
    ((¬∀ item ∈ items, Fits python publish item) →
      ((questions.zipIdx start).map fun entry => (entry.1, ids entry.2)).foldlM (importQuestion
        python actor batch sheet node.id origin.metadata publish now) world = .error .data) := by
  induction h generalizing start world with
  | nil =>
    refine ⟨fun _ => ⟨world, [], rfl, (List.append_nil _).symm, .nil⟩, fun hunfit => ?_⟩
    exact absurd (fun item hitem => absurd hitem List.not_mem_nil) hunfit
  | @cons item question items questions hfirst hrest ih =>
    have hstep := @importQuestion_ends _ _ _ batch _ (ids start) _ origin _ now _ _ hfold hfirst
      hscope (hfresh start (Nat.le_refl start))
    rw [List.zipIdx_cons, List.map_cons, List.foldlM_cons]
    by_cases hfits : Fits python publish item
    · obtain ⟨world', row, hrun, hquestions, hid, hrow, hsame⟩ := hstep.1 hfits
      have hnext : ∀ place, start + 1 ≤ place → ∀ other ∈ world'.questions,
          other.id ≠ ids place := by
        intro place hplace other hother
        rw [hquestions] at hother
        rcases List.mem_append.1 hother with hold | hnew
        · exact hfresh place (by omega) other hold
        · obtain rfl : other = row := List.mem_singleton.1 hnew
          rw [hid]
          exact fun hsame => absurd (hids hsame) (by omega)
      obtain ⟨hall, hsome⟩ := ih (start + 1) (hscope.kept hsame) hnext
      rw [hrun, ok_bind]
      constructor
      · intro hevery
        obtain ⟨next, rows, hrest, hadded, hrows⟩ :=
          hall fun other hother => hevery other (List.mem_cons_of_mem _ hother)
        refine ⟨next, row :: rows, hrest, ?_, .cons hrow hrows⟩
        rw [hadded, hquestions, List.append_assoc, List.singleton_append]
      · intro hunfit
        refine hsome fun hothers => hunfit ?_
        exact List.forall_mem_cons.2 ⟨hfits, hothers⟩
    · refine ⟨fun hevery => absurd (hevery item List.mem_cons_self) hfits, fun _ => ?_⟩
      rw [hstep.2 hfits]
      rfl

end

/-! ## The import of a document -/

/-- A call by somebody who may create and, where that is asked for, publish at the node of the
sheet, with identifiers that no row has yet. -/
structure AllowedImport where
  actor : Actor
  world : World
  batch : Uuid
  sheet : Uuid
  ids : Nat → Uuid
  publish : Bool
  origin : Origin
  now : Nat
  node : Education.Node
  scope : ImportScope actor sheet publish node world
  newBatch : ∀ other ∈ world.batches, other.id ≠ batch
  newIds : ∀ place, ∀ question ∈ world.questions, question.id ≠ ids place
  distinct : Function.Injective ids

section
variable (python : Python)

def AllowedImport.run (call : AllowedImport) (payload : Json) : Except ImportError World :=
  importQuestions python call.actor call.world call.batch call.sheet call.ids payload call.publish
    call.origin call.now

def AllowedImport.Stores (call : AllowedImport) (payload : Json) : Prop :=
  ∃ next rows, call.run python payload = .ok next ∧
    next.questions = call.world.questions ++ rows ∧
    List.Forall₂ Records (documentItems payload) rows

end

section
variable {python : Python} {payload : Json} {result : ImportValidationResult}

theorem run_ends (hfold : ∀ text, python.casefold text = [] → text = [])
    (hascii : ∀ text, (∀ char ∈ text, char.toNat < 128) →
      python.casefold text = text.map Char.toLower) (call : AllowedImport)
    (h : validateQuestionImport python.casefold payload = .ok result) :
    ((∀ item ∈ documentItems payload, Fits python call.publish item) →
      call.Stores python payload) ∧
    ((¬∀ item ∈ documentItems payload, Fits python call.publish item) →
      call.run python payload = .error .data) := by
  have haccepts := validate_accepted hascii h
  obtain ⟨found, version, hfound, hversion, hnode⟩ := call.scope.sheet
  have hsheet : findLearningObject call.world call.sheet = .ok found := by
    rw [findLearningObject, hfound]
  have hat : sheetNode found = .ok call.node.id := by
    rw [sheetNode, hversion]
    exact congrArg Except.ok hnode
  have hbatch : call.world.batches.any (·.id = call.batch) = false := by
    simpa using call.newBatch
  have hrun : call.run python payload =
      (result.questions.zipIdx.map fun entry => (entry.1, call.ids entry.2)).foldlM
        (importQuestion python call.actor call.batch call.sheet call.node.id
          call.origin.metadata call.publish call.now)
        { call.world with
          batches := call.world.batches ++
            [⟨call.batch, call.node.id, call.sheet,
              if call.publish then .published else .draft, result.questions.length, none,
              none⟩] } := by
    unfold AllowedImport.run importQuestions
    rw [h, hsheet]
    simp only [Except.mapError, ok_bind, hat, hbatch]
    rfl
  have hopened : SameScope call.world { call.world with
      batches := call.world.batches ++ [⟨call.batch, call.node.id, call.sheet,
        if call.publish then .published else .draft, result.questions.length, none, none⟩] } :=
    ⟨rfl, rfl⟩
  have hends := @importRun _ _ _ call.batch _ _ call.origin _ call.now hfold _ call.distinct _ _
    haccepts 0 (call.scope.kept hopened) fun place _ => call.newIds place
  unfold AllowedImport.Stores
  rw [hrun]
  exact hends

/-- The check answers or reports what is wrong exactly where it comes to no type that cannot be
looked up.  An accepted document is stored exactly where each of its questions fits the columns, and
nothing but the columns stands in its way. -/
theorem checked_and_stored (hfold : ∀ text, python.casefold text = [] → text = [])
    (hascii : ∀ text, (∀ char ∈ text, char.toNat < 128) →
      python.casefold text = text.map Char.toLower) (call : AllowedImport) (payload : Json) :
    (((∃ result, validateQuestionImport python.casefold payload = .ok result) ∨
        ∃ errors, validateQuestionImport python.casefold payload = .error (.invalid errors)) ↔
      ¬Stops payload) ∧
    ((∃ result, validateQuestionImport python.casefold payload = .ok result) →
      (call.Stores python payload ↔
        ∀ item ∈ documentItems payload, Fits python call.publish item) ∧
      (call.Stores python payload ∨ call.run python payload = .error .data)) := by
  constructor
  · rw [← @validate_stops python.casefold]
    constructor
    · rintro (⟨result, hresult⟩ | ⟨errors, herrors⟩) hstop
      · rw [hresult] at hstop
        cases hstop
      · rw [herrors] at hstop
        cases hstop
    · intro hgoes
      cases hend : validateQuestionImport python.casefold payload with
      | ok result => exact .inl ⟨result, rfl⟩
      | error failure =>
        cases failure with
        | invalid errors => exact .inr ⟨errors, rfl⟩
        | typeError => exact absurd hend hgoes
  · rintro ⟨result, hresult⟩
    obtain ⟨hstored, hrefused⟩ := run_ends hfold hascii call hresult
    by_cases hfits : ∀ item ∈ documentItems payload, Fits python call.publish item
    · exact ⟨⟨fun _ => hfits, hstored⟩, .inl (hstored hfits)⟩
    · have hdata := hrefused hfits
      refine ⟨⟨fun hstores => ?_, hstored⟩, .inr hdata⟩
      obtain ⟨next, rows, hrun, _⟩ := hstores
      rw [hdata] at hrun
      cases hrun

end

def plainPython : Python := ⟨List.map Char.toLower, id, ⟨⟨id, id, id, id⟩, false⟩⟩

def uuid (char : Char) (h : '/' ∉ [char]) : Uuid := ⟨[char], h⟩

theorem s_uuid : '/' ∉ ['s'] := by decide

theorem b_uuid : '/' ∉ ['b'] := by decide

def lesson : Education.Node where
  id := uuid 'n' (by decide)
  parent := none
  kind := .lesson
  title := "Heart".toList
  slug := "heart".toList
  description := []
  position := 0
  path := "/n/".toList
  depth := 0
  status := .published
  isDiscoverable := true
  revision := 1

def lessonSheet : Education.LearningObject where
  id := uuid 's' s_uuid
  owner := 1
  currentVersion := some ⟨1, lesson.id, .pdf, "Heart".toList, [], "en".toList, none⟩
  publishedVersion := none
  workflowStatus := .draft
  position := 0
  reviewNote := []
  revision := 1
  publishedAt := none
  archivedAt := none

def administrator : Actor :=
  ⟨1, true, true, fun _ => true, fun _ => true, fun _ => true, fun _ => true, fun _ => true,
    fun _ => true, fun _ => true⟩

def questionId (place : Nat) : Uuid :=
  ⟨List.replicate place 'q', fun hslash => absurd (List.eq_of_mem_replicate hslash) (by decide)⟩

theorem questionId_injective : Function.Injective questionId := by
  intro first second hsame
  have htext : List.replicate first 'q' = List.replicate second 'q' := congrArg Uuid.text hsame
  simpa using congrArg List.length htext

def firstImport : AllowedImport where
  actor := administrator
  world := ⟨⟨[lesson], []⟩, [lessonSheet], [], []⟩
  batch := uuid 'b' b_uuid
  sheet := lessonSheet.id
  ids := questionId
  publish := true
  origin := .sheet
  now := 0
  node := lesson
  scope := ⟨by decide, ⟨lessonSheet, _, by decide, rfl, rfl⟩, rfl, fun _ => ⟨rfl, rfl⟩⟩
  newBatch := List.forall_mem_nil _
  newIds := fun _ _ hmem => absurd hmem List.not_mem_nil
  distinct := questionId_injective

def oneQuestion (type sourcePage : Json) : Json :=
  .obj [("version", .str schemaVersion), ("questions", .arr [.obj [("type", type),
    ("question", .str "Which of these beat?".toList),
    ("choices", .arr [.str "atria".toList, .str " ventricles ".toList, .str "bones".toList]),
    ("correct_answers", .arr [.str "ventricles".toList, .str "atria".toList]),
    ("source_page", sourcePage)]])]

theorem one_question_stored :
    firstImport.Stores plainPython (oneQuestion (.str "multiple_select".toList) (.int 7)) := by
  have hfold : ∀ text, plainPython.casefold text = [] → text = [] :=
    fun _ => List.map_eq_nil_iff.1
  have haccepted : (validateQuestionImport plainPython.casefold
      (oneQuestion (.str "multiple_select".toList) (.int 7))).isOk = true := by decide +kernel
  have hends := (checked_and_stored hfold (fun _ _ => rfl) firstImport _).2
    (Outcome.isOk_iff.1 haccepted)
  refine hends.1.2 fun item hitem => ?_
  obtain rfl := List.mem_singleton.1 hitem
  constructor
  case page =>
    intro page hpage
    obtain rfl : 7 = page := by
      have hseven : (7 : Int) = page := Json.int.inj hpage
      omega
    decide
  case texts => decide +kernel
  case title => exact fun _ => by decide +kernel

/-- An array is no type, but it is looked up as one.  A page that is too large is found in order,
and then it cannot be stored. -/
theorem array_type_raises :
    validateQuestionImport plainPython.casefold (oneQuestion (.arr []) .null) =
        .error .typeError ∧
      (validateQuestionImport plainPython.casefold
        (oneQuestion (.str "multiple_select".toList) (.int 2147483648))).isOk = true ∧
      firstImport.run plainPython
        (oneQuestion (.str "multiple_select".toList) (.int 2147483648)) = .error .data := by
  have haccepted : (validateQuestionImport plainPython.casefold
      (oneQuestion (.str "multiple_select".toList) (.int 2147483648))).isOk = true := by
    decide +kernel
  obtain ⟨result, hresult⟩ := Outcome.isOk_iff.1 haccepted
  refine ⟨rfl, haccepted, ?_⟩
  refine (run_ends (fun _ => List.map_eq_nil_iff.1) (fun _ _ => rfl) firstImport hresult).2 ?_
  intro hfits
  have hpage := (hfits _ List.mem_cons_self).page 2147483648 rfl
  exact absurd hpage (by decide)

end LockIn.Questions
