import LockIn.Education.Publication

/-!
# Retired questions

A retired question is not shown again, whatever is done with it one at a time.  Of what is done
with many at once, unpublishing makes a retired question a draft, which can be published.
-/

namespace LockIn.Education

open Table

def isVisible (question : Question) : Bool := question.publishedVersion.isSome && question.retiredAt.isNone

def unpublishesRetired (world : World) (call : Call) : Bool :=
  match call.request with
  | .bulkQuestionAction questionIds .unpublish _ =>
    world.questions.any fun question => question.id ∈ questionIds && question.workflowStatus = .retired
  | _ => false

def KeepsRetired (world : World) (call : Call) : Prop := unpublishesRetired world call = false

instance (world : World) (call : Call) : Decidable (KeepsRetired world call) :=
  inferInstanceAs (Decidable (_ = _))

structure RetiredForGood (run : World × List (Nat × World)) : Prop where
  final : ∀ before ∈ run.2, ∀ old ∈ before.2.questions, old.workflowStatus = .retired →
    ∀ question ∈ run.1.questions, question.id = old.id → isVisible question = false
  indexed : ∀ question ∈ run.1.questions,
    (∃ entry ∈ run.1.tree.entries, entry.key = (.question, question.id)) ↔ isVisible question = true

section
variable {site : Site} {world next : World} {id : Uuid} {question : Question}

def IsRetired (world : World) (id : Uuid) : Prop :=
  ∃ question, Table.find Question.id world.questions id = some question ∧ question.workflowStatus = .retired

theorem IsRetired.step (h : IsRetired world id)
    (hstep : QuestionStep (fun question => question.workflowStatus ≠ .retired) world next) :
    IsRetired next id := by
  obtain ⟨question, hquestion, hretired⟩ := h
  have hput : ∀ old new : Question, Table.find Question.id world.questions new.id = some old →
      old.workflowStatus ≠ .retired →
        Table.find Question.id (Table.put Question.id world.questions new) id = some question := by
    intro old new hfind hold
    have hne : id ≠ new.id := by
      rintro rfl
      obtain rfl := Option.some.inj (hquestion.symm.trans hfind)
      exact hold hretired
    rw [find_put_of_ne hne]
    exact hquestion
  cases hstep with
  | create new hfresh hpublished hstatus =>
    refine ⟨question, ?_, hretired⟩
    rw [find_append, hquestion, Option.some_or]
  | edit old new hfind hpublished hdate hold hnew => exact ⟨question, hput old new hfind hold, hretired⟩
  | publish old new version node entry hfind hold hpublished hdate hnew hmem hnode hflag hkey hpath hshow =>
    exact ⟨question, hput old new hfind (by rw [hold]; simp), hretired⟩
  | retire old new hfind hdate hnew =>
    by_cases hid : id = new.id
    · subst hid
      exact ⟨new, find_put_self hfind, hnew⟩
    · refine ⟨question, ?_, hretired⟩
      rw [← hquestion]
      exact find_put_of_ne hid
  | unpublish old new hfind hopen hpublished => exact ⟨question, hput old new hfind hopen, hretired⟩
  | batches batches => exact ⟨question, hquestion, hretired⟩

theorem IsRetired.steps (h : IsRetired world id)
    (hsteps : QuestionSteps (fun question => question.workflowStatus ≠ .retired) world next) :
    IsRetired next id := by
  induction hsteps with
  | refl => exact h
  | tail _ hstep ih => exact ih.step hstep

theorem IsRetired.congr (h : IsRetired world id) (hsame : next.questions = world.questions) :
    IsRetired next id := by
  unfold IsRetired
  rw [hsame]
  exact h

theorem IsRetired.exec {call : Call} (h : IsRetired world id) (hwhole : Whole world)
    (hguard : KeepsRetired world call) (hexec : call.exec site world = .ok next) :
    IsRetired next id := by
  obtain ⟨request, actor, files, now⟩ := call
  cases request with
  | createNode id kind title parent slug description position =>
    obtain ⟨tree, _, rfl⟩ := Outcome.map_eq_ok.1 hexec
    exact h
  | updateNode id expectedRevision changes =>
    obtain ⟨tree, _, rfl⟩ := Outcome.map_eq_ok.1 hexec
    exact h
  | moveNode id newParent expectedRevision position =>
    obtain ⟨tree, _, rfl⟩ := Outcome.map_eq_ok.1 hexec
    exact h
  | setNodeStatus id expectedRevision status =>
    obtain ⟨tree, _, rfl⟩ := Outcome.map_eq_ok.1 hexec
    exact h
  | createLearningObject id data => exact h.congr (hwhole.createLearningObject hexec).2
  | reviseLearningObject id expectedRevision data => exact h.congr (hwhole.reviseLearningObject hexec).2
  | submitForReview id expectedRevision => exact h.congr (hwhole.submitForReview hexec).2
  | rejectLearningObject id expectedRevision reviewNote => exact h.congr (hwhole.rejectLearningObject hexec).2
  | publishLearningObject id expectedRevision => exact h.congr (hwhole.publishLearningObject hexec).2
  | archiveLearningObject id expectedRevision => exact h.congr (hwhole.archiveLearningObject hexec).2
  | createQuestion id data => exact h.step (createQuestion_step hexec)
  | reviseQuestion id expectedRevision data => exact h.step (reviseQuestion_step hexec)
  | submitQuestionForReview id expectedRevision => exact h.step (submitQuestionForReview_step hexec)
  | rejectQuestion id expectedRevision reviewNote => exact h.step (rejectQuestion_step hexec)
  | publishQuestion id expectedRevision => exact h.step (publishQuestion_step hexec)
  | retireQuestion id expectedRevision => exact h.step (retireQuestion_step hexec)
  | bulkQuestionAction questionIds action targetSheet =>
    refine h.steps (bulkQuestionAction_steps (fun haction question hmem hin hretired => ?_) hexec)
    subst haction
    have hnone := List.any_eq_false.1 hguard question hmem
    simp [hin, hretired] at hnone
  | importQuestions batch sheet questions publish metadata => exact h.steps (importQuestions_steps hexec)
  | undoImport batch => exact h.steps (undoImport_steps hwhole.questions hexec)

theorem Whole.not_visible (h : Whole world) (hmem : question ∈ world.questions)
    (hretired : question.workflowStatus = .retired) : isVisible question = false := by
  unfold isVisible
  cases hpublished : question.publishedVersion with
  | none => rfl
  | some version =>
    have hmarked := h.retired question hmem (by rw [hpublished]; simp)
    cases hdate : question.retiredAt with
    | none => exact absurd hretired (hmarked.1 hdate)
    | some date => rfl

theorem Whole.visible_iff (h : Whole world) (hmem : question ∈ world.questions) :
    (∃ entry ∈ world.tree.entries, entry.key = (.question, question.id)) ↔ isVisible question = true := by
  have hshown : (∃ entry ∈ world.tree.entries, entry.key = (.question, question.id)) ↔
      shown world.tree.entries (.question, question.id) ≠ none := by
    unfold shown
    rw [ne_eq, Option.map_eq_none_iff, find_eq_none]
    push Not
    rfl
  rw [hshown, h.kept.indexed.shows, expected_attached _ _ (by simp), home_question (h.questions.find hmem)]
  unfold homeOfQuestion isVisible viewAt
  cases hdate : question.retiredAt with
  | some date => simp
  | none =>
    cases hpublished : question.publishedVersion with
    | none => simp
    | some version =>
      have hhome : home world (.question, question.id) = some version.academicNode := by
        rw [home_question (h.questions.find hmem), homeOfQuestion, hdate, hpublished]
        rfl
      obtain ⟨node, _, _, hfind⟩ := exists_find h.kept.shape.distinct (h.kept.indexed.housed _ _ hhome)
      simp [hfind]

end

/-- As long as no retired question is unpublished with others, a retired question stays hidden. -/
theorem retired_for_good_unless_unpublished {site : Site} {run : World × List (Nat × World)} {now : Nat}
    (h : (catalogue site).traced.Reaches (fun run call => KeepsRetired run.1 call) run now) :
    RetiredForGood run := by
  have hkept := h.traced_invariant
    (I := fun world trace _ => Whole world ∧ ∀ before ∈ trace, ∀ old ∈ before.2.questions,
      old.workflowStatus = .retired → IsRetired world old.id) ⟨Whole.init site, by simp⟩ ?_
  · obtain ⟨hwhole, hretired⟩ := hkept
    refine ⟨fun before hbefore old hold hstatus question hmem hid => ?_, fun _ => hwhole.visible_iff⟩
    obtain ⟨found, hfound, hfoundRetired⟩ := hretired before hbefore old hold hstatus
    have hsame := hwhole.questions.eq hmem (find_mem hfound) (hid.trans (find_key hfound).symm)
    exact hwhole.not_visible hmem (hsame ▸ hfoundRetired)
  · rintro world trace _ call next ⟨hwhole, hretired⟩ _ hguard hexec
    refine ⟨hwhole.exec call hexec, fun before hbefore old hold hstatus => ?_⟩
    rcases List.mem_cons.1 hbefore with rfl | hbefore
    · exact ⟨old, (hwhole.exec call hexec).questions.find hold, hstatus⟩
    · exact (hretired before hbefore old hold hstatus).exec hwhole hguard hexec

def publishedQuiz : List Call :=
  openNode university .institution none ++ openNode anatomy .subject (some university) ++
    openNode lesson .lesson (some anatomy) ++
  [ask (.createLearningObject sheet sheetInput), ask (.createQuestion quiz quizInput),
    ask (.bulkQuestionAction [quiz] .publish none)]

def retiredQuiz : List Call :=
  publishedQuiz ++ [ask (.bulkQuestionAction [quiz] .unpublish none), ask (.submitQuestionForReview quiz 4),
    ask (.publishQuestion quiz 5), ask (.retireQuestion quiz 6)]

def revivedQuiz : List Call :=
  publishedQuiz ++ [ask (.retireQuestion quiz 3), ask (.bulkQuestionAction [quiz] .unpublish none),
    ask (.submitQuestionForReview quiz 5), ask (.publishQuestion quiz 6)]

theorem retired_quiz_for_good : RetiredForGood ((catalogue plainSite).traced.outcome retiredQuiz) :=
  retired_for_good_unless_unpublished
    (.of_accepts (by decide +kernel) (by decide +kernel) (by decide +kernel))

theorem revived_quiz_visible :
    ¬ ∀ (site : Site) (run : World × List (Nat × World)) (now : Nat),
      (catalogue site).traced.Reaches Machine.Always run now → RetiredForGood run := by
  intro h
  have hreached : (catalogue plainSite).traced.Reaches Machine.Always
      ((catalogue plainSite).traced.outcome revivedQuiz)
      ((catalogue plainSite).traced.lastTime 0 revivedQuiz) :=
    .of_accepts (by decide +kernel) (by decide +kernel) (Machine.admitted_always _ _)
  have hfinal := (h _ _ _ hreached).final
  have hretired : ((catalogue plainSite).traced.outcome revivedQuiz).2.any (fun before =>
      before.2.questions.any fun old => old.id = quiz && old.workflowStatus = .retired) = true := by
    decide +kernel
  have hvisible : ((catalogue plainSite).traced.outcome revivedQuiz).1.questions.any (fun question =>
      question.id = quiz && isVisible question) = true := by
    decide +kernel
  obtain ⟨before, hbefore, hold⟩ := List.any_eq_true.1 hretired
  obtain ⟨old, holdMem, hold⟩ := List.any_eq_true.1 hold
  obtain ⟨question, hmem, hquestion⟩ := List.any_eq_true.1 hvisible
  simp only [Bool.and_eq_true, decide_eq_true_eq] at hold hquestion
  have hhidden := hfinal before hbefore old holdMem hold.2 question hmem (hquestion.1.trans hold.1.symm)
  rw [hquestion.2] at hhidden
  simp at hhidden

end LockIn.Education
