import LockIn.Study.PomodoroRanges

/-!
# A run as it was started

What a run was started with stays with it while the plan and the bank of its sheet stay: its
ranges, unless it is a Pomodoro run, how many questions it asks, and how far its pages are from
those of the bank.
-/

namespace LockIn.Study

open List Outcome

structure AsStarted (first last : Int) (begun run : Run) : Prop where
  scope : run.scope = begun.scope
  revision : run.signature.contentRevision = begun.signature.contentRevision
  count : run.signature.questionsPerCheckpoint = begun.signature.questionsPerCheckpoint
  offset : run.signature.sourcePageOffset = begun.signature.sourcePageOffset
  ranges : begun.scope.studyMode ≠ .pomodoro → run.ranges = begun.ranges
  cycles : begun.scope.studyMode = .pomodoro → Cycles run.ranges first last

variable {sheet : Sheet} {content : ActiveStudyQuestionContent} {plan : Plan}
  {runtime : RuntimePlan} {env : Env} {store : Store} {request : StartRequest}

section
variable {first last : Int} {begun run next : Run}

theorem AsStarted.congr (h : AsStarted first last begun run) (hscope : next.scope = run.scope)
    (hsignature : next.signature = run.signature) : AsStarted first last begun next where
  scope := hscope.trans h.scope
  revision := by rw [hsignature]; exact h.revision
  count := by rw [hsignature]; exact h.count
  offset := by rw [hsignature]; exact h.offset
  ranges hmode := by
    unfold Run.ranges
    rw [hsignature]
    exact h.ranges hmode
  cycles hmode := by
    unfold Run.ranges
    rw [hsignature]
    exact h.cycles hmode

theorem AsStarted.reading {part endPage count : Option Int} (h : AsStarted first last begun run)
    (hread : completePartReading sheet run part endPage count = .ok next) :
    AsStarted first last begun next := by
  obtain ⟨_, ⟨hmode, _, stop, questions, ranges, hclose, rfl⟩ | ⟨_, _, rfl⟩⟩ :=
    completePartReading_ok hread
  · rw [h.scope] at hmode
    exact ⟨h.scope, h.revision, h.count, h.offset, fun hother => absurd hmode hother,
      fun _ => ((h.cycles hmode).close hclose).1⟩
  · exact h.congr rfl rfl

theorem AsStarted.resumed {pages questions : Option Int} {total : Int}
    (h : AsStarted first last begun run)
    (hplan : begun.scope.studyMode = .standard → begun.ranges = plan.pageRanges)
    (hruntime : runtimePlan sheet content plan run.scope.studyMode pages questions = .ok runtime)
    (hresumed : resumeRun run content runtime total = .ok next) :
    AsStarted first last begun next := by
  obtain rfl | ⟨hmode, _, _, rfl⟩ := resumeRun_ok hresumed
  · exact h
  obtain ⟨_, rfl⟩ | ⟨_, _, _, _, _, _, _, _, ⟨hother, _⟩ | ⟨hother, _⟩⟩ := runtimePlan_ok hruntime
  · rw [h.scope] at hmode
    refine ⟨h.scope, h.revision, h.count, h.offset, fun _ => (hplan hmode).symm, fun hother => ?_⟩
    cases hmode.symm.trans hother
  · cases hmode.symm.trans hother
  · cases hmode.symm.trans hother

end

end LockIn.Study
