import LockIn.Education.Publishing

/-!
# What happens to questions

Whatever is asked for, what happens to questions happens to one after another: a question is
created, edited, published, retired or unpublished.  `open'` holds of every question that is
unpublished.
-/

namespace LockIn.Education

open List Outcome Table

inductive QuestionStep (open' : Question → Prop) (world : World) : World → Prop
  | create (new : Question) (hfresh : ∀ question ∈ world.questions, question.id ≠ new.id)
      (hpublished : new.publishedVersion = none) (hstatus : new.workflowStatus = .draft) :
      QuestionStep open' world { world with questions := world.questions ++ [new] }
  /-- What is published stays, and the question is not retired before or after. -/
  | edit (old new : Question) (hfind : Table.find Question.id world.questions new.id = some old)
      (hpublished : new.publishedVersion = old.publishedVersion) (hdate : new.retiredAt = old.retiredAt)
      (hold : old.workflowStatus ≠ .retired) (hnew : new.workflowStatus ≠ .retired) :
      QuestionStep open' world (putQuestion world new)
  | publish (old new : Question) (version : QuestionVersion) (node : Node) (entry : Entry)
      (hfind : Table.find Question.id world.questions new.id = some old)
      (hold : old.workflowStatus = .inReview) (hpublished : new.publishedVersion = some version)
      (hdate : new.retiredAt = none) (hnew : new.workflowStatus = .published)
      (hmem : node ∈ world.tree.nodes) (hnode : node.id = version.academicNode)
      (hflag : node.isDiscoverable = true) (hkey : entry.key = (.question, new.id))
      (hpath : entry.academicPath = node.path) (hshow : entry.isDiscoverable = true) :
      QuestionStep open' world
        (withEntries (putQuestion world new) (upsertSearchEntry world.tree.entries entry))
  | retire (old new : Question) (hfind : Table.find Question.id world.questions new.id = some old)
      (hdate : new.retiredAt ≠ none) (hnew : new.workflowStatus = .retired) :
      QuestionStep open' world
        (withEntries (putQuestion world new) (removeSearchEntry world.tree.entries (.question, new.id)))
  | unpublish (old new : Question) (hfind : Table.find Question.id world.questions new.id = some old)
      (hopen : open' old) (hpublished : new.publishedVersion = none) :
      QuestionStep open' world
        (withEntries (putQuestion world new) (removeSearchEntry world.tree.entries (.question, new.id)))
  | batches (batches : List QuestionImportBatch) : QuestionStep open' world { world with batches }

abbrev QuestionSteps (open' : Question → Prop) : World → World → Prop :=
  Relation.ReflTransGen (QuestionStep open')

section
variable {open' : Question → Prop} {site : Site} {actor : Actor} {world next : World} {id : Uuid}
  {expectedRevision now : Nat} {question : Question}

theorem findQuestion_ok (h : findQuestion world id = .ok question) :
    question.id = id ∧ Table.find Question.id world.questions question.id = some question := by
  unfold findQuestion at h
  split at h
  · simp at h
  · next hfind =>
    obtain rfl := Except.ok.inj h
    have hid := find_key hfind
    exact ⟨hid, hid ▸ hfind⟩

theorem permitted_ok {ν : Type} {nodes : List Node} {nodeOf : ν → Uuid} {allowed : Node → Bool}
    {error : CatalogueError} {current : Option ν} {version : ν} {node : Node}
    (h : permitted nodes nodeOf allowed error current = .ok (version, node)) :
    current = some version ∧ node ∈ nodes ∧ node.id = nodeOf version := by
  cases current with
  | none => exact absurd h (by simp [permitted])
  | some found =>
    obtain ⟨at', hat, h⟩ := bind_eq_ok.1 h
    obtain ⟨_, h⟩ := unless_ok.1 h
    obtain ⟨rfl, rfl⟩ := Prod.mk.inj (Except.ok.inj h)
    unfold findNode at hat
    split at hat
    · simp at hat
    · next hfind =>
      obtain rfl := Except.ok.inj hat
      exact ⟨rfl, find_mem hfind, find_key hfind⟩

variable {data : QuestionInput} {action : BulkAction} {questionIds : List Uuid}

theorem createQuestion_step (h : createQuestion site actor world id data = .ok next) :
    QuestionStep open' world next := by
  obtain ⟨_, _, h⟩ := bind_eq_ok.1 h
  obtain ⟨hfresh, h⟩ := unless_ok.1 h
  obtain rfl := Except.ok.inj h
  refine .create _ (fun question hmem hid => hfresh ?_) rfl rfl
  exact List.any_eq_true.2 ⟨question, hmem, by simpa using hid⟩

theorem reviseQuestion_step
    (h : reviseQuestion site actor world id expectedRevision data = .ok next) :
    QuestionStep open' world next := by
  obtain ⟨question, hquestion, h⟩ := bind_eq_ok.1 h
  obtain ⟨hid, hfind⟩ := findQuestion_ok hquestion
  obtain ⟨_, h⟩ := unless_ok.1 h
  obtain ⟨_, _, h⟩ := bind_eq_ok.1 h
  obtain ⟨hstatus, h⟩ := unless_ok.1 h
  obtain ⟨_, _, h⟩ := bind_eq_ok.1 h
  split at h
  · simp at h
  · obtain rfl := Except.ok.inj h
    simp only [Bool.or_eq_true, decide_eq_true_eq, not_or] at hstatus
    refine .edit question _ hfind rfl rfl hstatus.2 ?_
    simp

theorem submitQuestionForReview_step
    (h : submitQuestionForReview actor world id expectedRevision = .ok next) :
    QuestionStep open' world next := by
  obtain ⟨question, hquestion, h⟩ := bind_eq_ok.1 h
  obtain ⟨hid, hfind⟩ := findQuestion_ok hquestion
  obtain ⟨_, h⟩ := unless_ok.1 h
  obtain ⟨_, _, h⟩ := bind_eq_ok.1 h
  obtain ⟨hstatus, h⟩ := unless_ok.1 h
  obtain ⟨_, h⟩ := unless_ok.1 h
  obtain rfl := Except.ok.inj h
  refine .edit question _ hfind rfl rfl (fun hc => hstatus ?_) ?_
  · rw [hc]
    rfl
  · simp

theorem rejectQuestion_step {reviewNote : Text}
    (h : rejectQuestion site actor world id expectedRevision reviewNote = .ok next) :
    QuestionStep open' world next := by
  obtain ⟨question, hquestion, h⟩ := bind_eq_ok.1 h
  obtain ⟨hid, hfind⟩ := findQuestion_ok hquestion
  obtain ⟨_, _, h⟩ := bind_eq_ok.1 h
  obtain ⟨_, _, h⟩ := bind_eq_ok.1 h
  obtain ⟨hstatus, h⟩ := unless_ok.1 h
  obtain ⟨_, h⟩ := unless_ok.1 h
  obtain rfl := Except.ok.inj h
  refine .edit question _ hfind rfl rfl (by rw [not_not.1 hstatus]; simp) ?_
  simp

theorem publishQuestion_step (h : publishQuestion actor world id expectedRevision now = .ok next) :
    QuestionStep open' world next := by
  obtain ⟨question, hquestion, h⟩ := bind_eq_ok.1 h
  obtain ⟨hid, hfind⟩ := findQuestion_ok hquestion
  obtain ⟨⟨version, node⟩, hpermitted, h⟩ := bind_eq_ok.1 h
  obtain ⟨_, hmem, hnode⟩ := permitted_ok hpermitted
  obtain ⟨_, _, h⟩ := bind_eq_ok.1 h
  obtain ⟨hstatus, h⟩ := unless_ok.1 h
  obtain ⟨hflag, h⟩ := unless_ok.1 h
  obtain rfl := Except.ok.inj h
  exact .publish question _ version node _ hfind (not_not.1 hstatus) rfl rfl rfl hmem hnode
    (by simpa using hflag) (congrArg (Prod.mk ResourceKind.question) hid.symm) rfl rfl

theorem retire_step (hfind : Table.find Question.id world.questions question.id = some question) :
    QuestionStep open' world (retire world question now) :=
  .retire question { question with
    workflowStatus := .retired
    retiredAt := some now
    revision := question.revision + 1 } hfind (by simp) rfl

theorem retireQuestion_step (h : retireQuestion actor world id expectedRevision now = .ok next) :
    QuestionStep open' world next := by
  obtain ⟨question, hquestion, h⟩ := bind_eq_ok.1 h
  obtain ⟨hid, hfind⟩ := findQuestion_ok hquestion
  obtain ⟨_, _, h⟩ := bind_eq_ok.1 h
  obtain ⟨_, _, h⟩ := bind_eq_ok.1 h
  obtain rfl := Except.ok.inj h
  exact retire_step hfind

theorem unpublish_step (hfind : Table.find Question.id world.questions question.id = some question)
    (hopen : open' question) : QuestionStep open' world (unpublish world question) :=
  .unpublish question { question with
    publishedVersion := none
    workflowStatus := .draft
    publishedAt := none
    revision := question.revision + 1 } hfind hopen rfl

theorem publishCurrent_steps (h : publishCurrent actor world id now = .ok next) :
    QuestionSteps open' world next := by
  obtain ⟨question, hquestion, h⟩ := bind_eq_ok.1 h
  split at h
  · obtain rfl := Except.ok.inj h
    exact .refl
  · obtain ⟨_, h⟩ := unless_ok.1 h
    split at h
    · exact .single (publishQuestion_step h)
    · obtain ⟨submitted, hsubmitted, h⟩ := bind_eq_ok.1 h
      exact .tail (.single (submitQuestionForReview_step hsubmitted)) (publishQuestion_step h)

theorem move_steps {sheet : LearningObject} (h : move site actor world question sheet now = .ok next) :
    QuestionSteps open' world next := by
  unfold move at h
  split at h
  · simp at h
  · obtain ⟨target, _, h⟩ := bind_eq_ok.1 h
    obtain ⟨revised, hrevised, h⟩ := bind_eq_ok.1 h
    have hfirst : QuestionSteps open' world revised := .single (reviseQuestion_step hrevised)
    split at h
    · exact hfirst.trans (publishCurrent_steps h)
    · obtain rfl := Except.ok.inj h
      exact hfirst

theorem bulkStep_unpublish {sheet : Option LearningObject}
    (h : bulkStep site actor .unpublish sheet now world id = .ok next) :
    ∃ question, Table.find Question.id world.questions id = some question ∧
      next = unpublish world question ∧
      ∀ other, other ≠ id → Table.find Question.id next.questions other =
        Table.find Question.id world.questions other := by
  obtain ⟨question, hquestion, h⟩ := bind_eq_ok.1 h
  obtain ⟨hid, hfind⟩ := findQuestion_ok hquestion
  obtain rfl := Except.ok.inj h
  exact ⟨question, hid ▸ hfind, rfl, fun other hne => find_put_of_ne (hid ▸ hne)⟩

theorem bulkStep_steps {sheet : Option LearningObject} (haction : action ≠ .unpublish)
    (h : bulkStep site actor action sheet now world id = .ok next) :
    QuestionSteps open' world next := by
  obtain ⟨question, hquestion, h⟩ := bind_eq_ok.1 h
  obtain ⟨hid, hfind⟩ := findQuestion_ok hquestion
  split at h
  · exact publishCurrent_steps h
  · exact absurd rfl haction
  · obtain rfl := Except.ok.inj h
    exact .single (retire_step hfind)
  · obtain rfl := Except.ok.inj h
    exact .single (retire_step hfind)
  · exact move_steps h
  · simp at h

theorem foldlM_steps {α : Type} {step : World → α → Except CatalogueError World}
    (hstep : ∀ world item next, step world item = .ok next → QuestionSteps open' world next)
    {items : List α} (h : items.foldlM step world = .ok next) : QuestionSteps open' world next := by
  induction items generalizing world with
  | nil =>
    obtain rfl := Except.ok.inj h
    exact .refl
  | cons item items ih =>
    obtain ⟨mid, hmid, h⟩ := bind_eq_ok.1 h
    exact (hstep world item mid hmid).trans (ih h)

theorem bulk_unpublish_steps {sheet : Option LearningObject} (hdistinct : questionIds.Nodup)
    (hopen : ∀ id ∈ questionIds, ∀ question, Table.find Question.id world.questions id = some question →
      open' question)
    (h : questionIds.foldlM (bulkStep site actor .unpublish sheet now) world = .ok next) :
    QuestionSteps open' world next := by
  induction questionIds generalizing world with
  | nil =>
    obtain rfl := Except.ok.inj h
    exact .refl
  | cons id ids ih =>
    obtain ⟨hid, hids⟩ := nodup_cons.1 hdistinct
    obtain ⟨mid, hmid, h⟩ := bind_eq_ok.1 h
    obtain ⟨question, hfind, hmade, hothers⟩ := bulkStep_unpublish hmid
    have hself : Table.find Question.id world.questions question.id = some question :=
      (find_key hfind).symm ▸ hfind
    refine Relation.ReflTransGen.head
      (hmade ▸ unpublish_step hself (hopen _ mem_cons_self question hfind)) ?_
    refine ih hids (fun other hother row hrow => ?_) h
    rw [hothers other fun heq => hid (heq ▸ hother)] at hrow
    exact hopen other (mem_cons_of_mem _ hother) row hrow

theorem bulkQuestionAction_steps {targetSheet : Option Uuid}
    (hopen : action = .unpublish → ∀ question ∈ world.questions, question.id ∈ questionIds → open' question)
    (h : bulkQuestionAction site actor world questionIds action targetSheet now = .ok next) :
    QuestionSteps open' world next := by
  obtain ⟨sheet, _, h⟩ := bind_eq_ok.1 h
  obtain ⟨hfound, h⟩ := unless_ok.1 h
  obtain ⟨handled, hhandled, h⟩ := bind_eq_ok.1 h
  obtain ⟨_, h⟩ := unless_ok.1 h
  obtain rfl := Except.ok.inj h
  by_cases haction : action = .unpublish
  · subst haction
    simp only [Bool.or_eq_true, not_or, Bool.not_eq_true', Bool.not_eq_false, decide_eq_true_eq] at hfound
    refine bulk_unpublish_steps hfound.1 (fun id hid question hfind => ?_) hhandled
    refine hopen rfl question (find_mem hfind) ?_
    rw [find_key hfind]
    exact hid
  · exact foldlM_steps (fun _ _ _ => bulkStep_steps haction) hhandled

theorem importQuestions_steps {batch sheet : Uuid} {questions : List ImportedQuestion} {publish : Bool}
    {metadata : Text}
    (h : importQuestions site actor world batch sheet questions publish metadata now = .ok next) :
    QuestionSteps open' world next := by
  obtain ⟨found, _, h⟩ := bind_eq_ok.1 h
  obtain ⟨node, _, h⟩ := bind_eq_ok.1 h
  obtain ⟨_, h⟩ := unless_ok.1 h
  refine Relation.ReflTransGen.head (.batches _) (foldlM_steps (fun world imported next h => ?_) h)
  obtain ⟨created, hcreated, h⟩ := bind_eq_ok.1 h
  have hfirst : QuestionSteps open' world created := .single (createQuestion_step hcreated)
  split at h
  · exact hfirst.trans (publishCurrent_steps h)
  · obtain rfl := Except.ok.inj h
    exact hfirst

theorem undo_steps {questions : List Question} (hdistinct : Table.Distinct Question.id questions)
    (hfind : ∀ question ∈ questions, Table.find Question.id world.questions question.id = some question) :
    QuestionSteps open' world (questions.foldl (undoStep now) world) := by
  induction questions generalizing world with
  | nil => exact .refl
  | cons question questions ih =>
    obtain ⟨hid, hids⟩ := nodup_cons.1 hdistinct
    have hrest := fun other hother => hfind other (mem_cons_of_mem _ hother)
    have hstep : QuestionSteps open' world (undoStep now world question) ∧ ∀ other ∈ questions,
        Table.find Question.id (undoStep now world question).questions other.id = some other := by
      unfold undoStep
      split
      · refine ⟨.single (retire_step (hfind question mem_cons_self)), fun other hother => ?_⟩
        have hne : other.id ≠ question.id := fun heq => hid (heq ▸ mem_map_of_mem hother)
        rw [← hrest other hother]
        exact find_put_of_ne hne
      · exact ⟨.refl, hrest⟩
    exact hstep.1.trans (ih hids hstep.2)

theorem undoImport_steps (hdistinct : Table.Distinct Question.id world.questions)
    (h : undoImport actor world id now = .ok next) : QuestionSteps open' world next := by
  unfold undoImport at h
  split at h
  · simp at h
  · obtain ⟨_, h⟩ := unless_ok.1 h
    obtain rfl := Except.ok.inj h
    refine .tail (undo_steps (hdistinct.sublist (filter_sublist.map Question.id)) ?_) (.batches _)
    exact fun question hmem => hdistinct.find (mem_filter.1 hmem).1

end

end LockIn.Education
