import LockIn.Study.EndedRuns

/-!
# The invariant of a run

While the plan and the bank of its sheet stay as they were when it was started, a run keeps
one picture of itself: its ranges partition the study pages, the parts before the current
one are done, the pages up to the end of the current one are unlocked, and the counters and
the status say what the submitted attempts say.
-/

namespace LockIn.Study

open List Outcome Table

def studyPages (sheet : Sheet) (edition : Edition) : Option (Int × Int) :=
  (resolveTotalPdfPages sheet edition).map fun total =>
    let counts := pageCounts sheet edition total
    (counts.excludedStartPages + 1, counts.totalPdfPages - counts.excludedEndPages)

def Run.partsDone (run : Run) : Nat :=
  if run.stage = .final ∨ run.stage = .finalResult then run.ranges.length else run.currentPart - 1

def Run.ResultPending (run : Run) : Prop :=
  ∃ attempt, latest (run.submittedOf .checkpoint (some run.currentPart)) = some attempt ∧
    attempt.passed = some false ∧ attempt.continuedAnyway = false

structure Run.Invariant (sheet : Sheet) (run : Run) : Prop where
  current : 1 ≤ run.currentPart ∧ run.currentPart ≤ run.ranges.length
  completed : run.completedParts = List.range' 1 run.partsDone
  pages : ∃ first last, studyPages sheet run.scope.edition = some (first, last) ∧
    Partitions run.ranges first last
  unlocked : (run.ranges[run.currentPart - 1]?).map (·.endPage) = some run.unlockedPages
  result : run.stage = .checkpointResult → run.ResultPending
  status : run.status = .completed ↔
    ∃ attempt ∈ run.attempts, attempt.kind = .final ∧ attempt.passed = some true
  checkpoints : run.checkpointAttempts = (run.submitted .checkpoint).length
  finals : run.finalAttempts = (run.submitted .final).length

structure Progress (run : Run) : Prop where
  current : 1 ≤ run.currentPart ∧ run.currentPart ≤ run.ranges.length
  completed : run.completedParts = List.range' 1 run.partsDone
  unlocked : (run.ranges[run.currentPart - 1]?).map (·.endPage) = some run.unlockedPages
  last : run.stage = .final ∨ run.stage = .finalResult → run.currentPart = run.ranges.length

/-- How its ranges follow the plan of the sheet. -/
structure Planned (sheet : Sheet) (run : Run) : Prop where
  pages : ∃ first last, studyPages sheet run.scope.edition = some (first, last) ∧
    Partitions run.ranges first last
  standard : run.scope.studyMode = .standard → ∀ content plan,
    contentFor sheet run.scope.difficulty run.scope.edition = .ok (content, plan) →
      run.ranges = plan.pageRanges
  cycles : run.scope.studyMode = .pomodoro → ClosedButLast run.ranges

structure Recorded (run : Run) : Prop where
  ids : Table.Distinct Attempt.id run.attempts
  ordered : run.Ordered
  untouched : ∀ attempt ∈ run.attempts, attempt.submittedAt = none →
    attempt.passed = none ∧ attempt.continuedAnyway = false
  status : run.status = .completed ↔
    ∃ attempt ∈ run.attempts, attempt.kind = .final ∧ attempt.passed = some true
  checkpoints : run.checkpointAttempts = (run.submitted .checkpoint).length
  finals : run.finalAttempts = (run.submitted .final).length

structure Sound (sheet : Sheet) (run : Run) : Prop where
  progress : Progress run
  planned : Planned sheet run
  recorded : Recorded run
  result : run.stage = .checkpointResult → run.ResultPending

theorem Sound.invariant {sheet : Sheet} {run : Run} (h : Sound sheet run) : run.Invariant sheet where
  current := h.progress.current
  completed := h.progress.completed
  pages := h.planned.pages
  unlocked := h.progress.unlocked
  result := h.result
  status := h.recorded.status
  checkpoints := h.recorded.checkpoints
  finals := h.recorded.finals

theorem Recorded.congr {run next : Run} (h : Recorded run) (hattempts : next.attempts = run.attempts)
    (hstatus : next.status = .completed ↔ run.status = .completed)
    (hcheckpoints : next.checkpointAttempts = run.checkpointAttempts)
    (hfinals : next.finalAttempts = run.finalAttempts) : Recorded next where
  ids := by rw [hattempts]; exact h.ids
  ordered kind part := by
    have hsame : next.attemptsOf kind part = run.attemptsOf kind part := by
      unfold Run.attemptsOf
      rw [hattempts]
    rw [hsame]
    exact h.ordered kind part
  untouched := by rw [hattempts]; exact h.untouched
  status := by rw [hstatus, hattempts]; exact h.status
  checkpoints := by
    rw [hcheckpoints, h.checkpoints]
    unfold Run.submitted
    rw [hattempts]
  finals := by
    rw [hfinals, h.finals]
    unfold Run.submitted
    rw [hattempts]

theorem Planned.congr {sheet : Sheet} {run next : Run} (h : Planned sheet run)
    (hscope : next.scope = run.scope) (hranges : next.ranges = run.ranges) :
    Planned sheet next where
  pages := by rw [hscope, hranges]; exact h.pages
  standard := by rw [hscope, hranges]; exact h.standard
  cycles := by rw [hscope, hranges]; exact h.cycles

variable {edition : Edition} {ranges : List PageRange} {content : ActiveStudyQuestionContent}
  {plan : Plan} {runtime : RuntimePlan} {stage : Stage} {attempts : List Attempt}
  {part : Option Nat} {kind : AttemptKind} {total : Int}

theorem editionPlan_partitions {sheet : Sheet} {mirrored : Option (Difficulty → MirroredParts)}
    {plans : Difficulty → Plan}
    (hm : ∀ parts ∈ mirrored, ∀ difficulty, ∀ size ∈ (parts difficulty).sizes, 1 ≤ size)
    (h : editionPlan sheet edition mirrored = .ok plans) (difficulty : Difficulty) :
    ∃ first last, studyPages sheet edition = some (first, last) ∧
      Partitions (plans difficulty).pageRanges first last := by
  unfold editionPlan at h
  split at h
  · cases h
  next total htotal =>
  simp only at h
  split at h
  · cases h
  let counts := pageCounts sheet edition total
  refine ⟨counts.excludedStartPages + 1, counts.totalPdfPages - counts.excludedEndPages,
    by rw [studyPages, htotal]; rfl, ?_⟩
  have hparts (level : Difficulty) {ranges : List PageRange}
      (hranges : (pageRanges (pageCounts sheet edition total) (targetPagesPerPart level)
        (mirrored.map (· level))).mapError (·.message) = .ok ranges) :
      Partitions ranges (counts.excludedStartPages + 1)
        (counts.totalPdfPages - counts.excludedEndPages) := by
    refine pageRanges_partitions ?_ (mapError_eq_ok.mp hranges)
    intro parts hparts size hsize
    obtain ⟨inputs, hinputs, rfl⟩ := Option.map_eq_some_iff.mp hparts
    exact hm inputs hinputs level size hsize
  split at h
  · next easy medium hard heasy hmedium hhard =>
    cases h
    cases difficulty with
    | easy => exact hparts .easy heasy
    | medium => exact hparts .medium hmedium
    | hard => exact hparts .hard hhard
  · cases h
  · cases h
  · cases h

theorem Consecutive.size_pos {part : Nat} {start stop : Int}
    (h : Consecutive part start stop ranges) :
    ∀ range ∈ ranges, 1 ≤ range.endPage - range.startPage + 1 := by
  induction ranges generalizing part start with
  | nil => exact fun range hrange => absurd hrange not_mem_nil
  | cons first rest ih =>
    obtain ⟨_, hstart, hle, hrest⟩ := h
    intro range hrange
    rcases mem_cons.mp hrange with rfl | hin
    · omega
    · exact ih hrest range hin

theorem contentFor_partitions {sheet : Sheet} {difficulty : Difficulty}
    (h : contentFor sheet difficulty edition = .ok (content, plan)) :
    ∃ first last, studyPages sheet edition = some (first, last) ∧
      Partitions plan.pageRanges first last := by
  obtain ⟨plans, hplans, h⟩ := bind_eq_ok.mp h
  split at h
  · cases h
  obtain ⟨_, _, h⟩ := bind_eq_ok.mp h
  cases h
  obtain ⟨_, _, hplans⟩ := bind_eq_ok.mp hplans
  obtain ⟨mirrored, hmirrored, hplans⟩ := bind_eq_ok.mp hplans
  refine editionPlan_partitions ?_ (mapError_eq_ok.mp hplans) difficulty
  intro parts hparts level size hsize
  cases edition with
  | university =>
    cases hmirrored
    cases hparts
  | lockin =>
    unfold pinnedParts lockinPlanInputs at hmirrored
    cases huniversity : editionPlan sheet .university none with
    | error message =>
      rw [huniversity] at hmirrored
      cases hmirrored
    | ok university =>
      rw [huniversity] at hmirrored
      cases hmirrored
      cases hparts
      obtain ⟨range, hrange, rfl⟩ := mem_map.mp hsize
      obtain ⟨_, _, _, hpartition⟩ := editionPlan_partitions (by simp) huniversity level
      exact hpartition.2.size_pos range hrange

theorem Consecutive.getLast {part : Nat} {start stop : Int} (h : Consecutive part start stop ranges)
    {last : PageRange} (hlast : ranges.getLast? = some last) : last.endPage = stop := by
  induction ranges generalizing part start with
  | nil => cases hlast
  | cons first rest ih =>
    obtain ⟨_, _, _, hrest⟩ := h
    cases rest with
    | nil =>
      have hsame : first = last := Option.some.inj hlast
      have hstop : first.endPage + 1 = stop + 1 := hrest
      rw [← hsame]
      omega
    | cons second rest =>
      rw [getLast?_cons_cons] at hlast
      exact ih hrest hlast

theorem pageSpan_partitions {first last start stop : Int} (h : Partitions ranges first last)
    (hspan : pageSpan ranges = .ok (start, stop)) : start = first ∧ stop = last := by
  unfold pageSpan at hspan
  split at hspan
  · next head tail hhead htail =>
    cases hspan
    refine ⟨?_, h.2.getLast htail⟩
    cases ranges with
    | nil => cases hhead
    | cons range rest =>
      cases hhead
      exact h.2.2.1
  · cases hspan

/-- The plan of a standard run is that of the sheet.  The others need as many pages in it as in the
bank. -/
theorem runtimePlan_ok {sheet : Sheet} {mode : StudyMode} {pages questions : Option Int}
    (h : runtimePlan sheet content plan mode pages questions = .ok runtime) :
    (mode = .standard ∧ runtime = ⟨plan.pageRanges, plan.questionsPerCheckpoint, none, none⟩) ∨
      content.pages?.isSome ∧ ∃ start stop first last,
        pageSpan plan.pageRanges = .ok (start, stop) ∧
        pageSpan content.sourceRanges = .ok (first, last) ∧ stop - start = last - first ∧
        (mode = .pomodoro ∧ runtime = ⟨initialRanges start stop, plan.questionsPerCheckpoint, none,
            some (first - start)⟩ ∨
          mode = .custom ∧ ∃ size count ranges, pages = some size ∧ questions = some count ∧
            1 ≤ count ∧ customPageRanges start stop size = .ok ranges ∧
            runtime = ⟨ranges, count, some size, some (first - start)⟩) := by
  cases mode with
  | standard =>
    obtain ⟨_, _, h⟩ := bind_eq_ok.mp h
    cases h
    exact .inl ⟨rfl, rfl⟩
  | _ =>
    obtain ⟨⟨⟩, hallowed, h⟩ := bind_eq_ok.mp h
    obtain ⟨⟨start, stop⟩, hspan, h⟩ := bind_eq_ok.mp h
    obtain ⟨⟨first, last⟩, hsource, h⟩ := bind_eq_ok.mp h
    obtain ⟨⟨⟩, hmatching, h⟩ := bind_eq_ok.mp h
    simp only [refuse_cons_ok, refuse_nil, and_true, bne_eq_false_iff_eq] at hmatching
    simp only [refuse_cons_ok, refuse_nil, and_true, Bool.or_eq_false_iff,
      Option.isNone_eq_false_iff, Bool.and_eq_false_iff, Bool.not_eq_false',
      Option.any_eq_true, decide_eq_true_eq] at hallowed
    obtain ⟨⟨_, hpages⟩, hcount⟩ := hallowed
    refine .inr ⟨hpages, start, stop, first, last, hspan, hsource, hmatching, ?_⟩
    first
    | rw [if_pos rfl] at h
      obtain ⟨_, _, h⟩ := bind_eq_ok.mp h
      cases h
      exact .inl ⟨rfl, rfl⟩
    | rw [if_neg (by decide)] at h
      obtain hother | ⟨count, rfl, hlow, _⟩ := hcount
      · cases hother
      cases pages with
      | none => cases h
      | some size =>
        obtain ⟨ranges, hranges, h⟩ := bind_eq_ok.mp h
        cases h
        exact .inr ⟨rfl, size, count, ranges, rfl, rfl, hlow, mapError_eq_ok.mp hranges, rfl⟩

theorem runtimePlan_partitions {sheet : Sheet} {mode : StudyMode} {pages questions : Option Int}
    {first last : Int} (hp : Partitions plan.pageRanges first last)
    (h : runtimePlan sheet content plan mode pages questions = .ok runtime) :
    Partitions runtime.pageRanges first last ∧
      (mode = .standard → runtime.pageRanges = plan.pageRanges) ∧
      (mode = .pomodoro → ClosedButLast runtime.pageRanges) := by
  obtain ⟨rfl, rfl⟩ | ⟨_, start, stop, _, _, hspan, _, _, hmode⟩ := runtimePlan_ok h
  · exact ⟨hp, fun _ => rfl, nofun⟩
  obtain ⟨rfl, rfl⟩ := pageSpan_partitions hp hspan
  obtain ⟨rfl, rfl⟩ | ⟨rfl, size, count, ranges, _, _, _, hranges, rfl⟩ := hmode
  · exact ⟨initialRanges_partitions hp.start_le, nofun, fun _ => forall_mem_nil _⟩
  · exact ⟨customPageRanges_partitions hranges, nofun, nofun⟩

theorem Progress.finish {run next : Run}
    (hcurrent : 1 ≤ run.currentPart ∧ run.currentPart ≤ run.ranges.length)
    (hcompleted : run.completedParts = List.range' 1 (run.currentPart - 1))
    (hunlocked : (run.ranges[run.currentPart - 1]?).map (·.endPage) = some run.unlockedPages)
    (h : finishPart run = .ok next) : Progress next ∧ next.stage ≠ .checkpointResult := by
  have hdone : run.completedParts ++ [run.currentPart] = List.range' 1 run.currentPart := by
    obtain ⟨before, hbefore⟩ : ∃ before, run.currentPart = before + 1 :=
      ⟨run.currentPart - 1, by omega⟩
    rw [hcompleted, hbefore, Nat.add_sub_cancel, range'_concat, Nat.one_mul, Nat.add_comm 1]
  obtain ⟨hlast, rfl⟩ | ⟨hlast, range, hrange, rfl⟩ := finishPart_ok h
  · refine ⟨⟨hcurrent, ?_, hunlocked, fun _ => hlast⟩, nofun⟩
    show run.completedParts ++ [run.currentPart] = List.range' 1 run.ranges.length
    rw [hdone, hlast]
  · refine ⟨⟨?_, hdone, ?_, nofun⟩, nofun⟩
    · show 1 ≤ run.currentPart + 1 ∧ run.currentPart + 1 ≤ run.ranges.length
      omega
    · show (run.ranges[run.currentPart + 1 - 1]?).map (·.endPage) = some range.endPage
      rw [Nat.add_sub_cancel, hrange, Option.map_some]

theorem Progress.behind {run : Run} (h : Progress run)
    (hstage : ¬(run.stage = .final ∨ run.stage = .finalResult)) :
    run.completedParts = List.range' 1 (run.currentPart - 1) := by
  rw [h.completed, Run.partsDone, if_neg hstage]

theorem Progress.congr {run next : Run} (h : Progress run) (hpart : next.currentPart = run.currentPart)
    (hcompleted : next.completedParts = run.completedParts) (hranges : next.ranges = run.ranges)
    (hunlocked : next.unlockedPages = run.unlockedPages) (hstage : next.stage = run.stage) :
    Progress next where
  current := by rw [hpart, hranges]; exact h.current
  completed := by rw [hcompleted, h.completed, Run.partsDone, Run.partsDone, hpart, hranges, hstage]
  unlocked := by rw [hpart, hranges, hunlocked]; exact h.unlocked
  last := by rw [hpart, hranges, hstage]; exact h.last

theorem Progress.staged {run : Run} (h : Progress run)
    (hsame : (stage = .final ∨ stage = .finalResult) ↔ (run.stage = .final ∨ run.stage = .finalResult)) :
    Progress { run with stage := stage } where
  current := h.current
  completed := by
    show run.completedParts =
      List.range' 1 (if stage = .final ∨ stage = .finalResult then run.ranges.length
        else run.currentPart - 1)
    rw [h.completed, Run.partsDone]
    simp only [hsame]
  unlocked := h.unlocked
  last hstage := h.last (hsame.mp hstage)

theorem Recorded.ofOpen {run : Run} (h : Recorded run) (hids : Table.Distinct Attempt.id attempts)
    (hordered : ({ run with attempts := attempts } : Run).Ordered)
    (huntouched : ∀ attempt ∈ attempts, attempt.submittedAt = none →
      attempt.passed = none ∧ attempt.continuedAnyway = false)
    (hsubmitted : ∀ kind, ({ run with attempts := attempts } : Run).submitted kind =
      run.submitted kind)
    (hpassed : ∀ attempt, attempt.passed = some true → (attempt ∈ attempts ↔ attempt ∈ run.attempts)) :
    Recorded { run with attempts := attempts } where
  ids := hids
  ordered := hordered
  untouched := huntouched
  status := by
    rw [h.status]
    constructor
    · rintro ⟨attempt, hmem, hkind, hpass⟩
      exact ⟨attempt, (hpassed attempt hpass).mpr hmem, hkind, hpass⟩
    · rintro ⟨attempt, hmem, hkind, hpass⟩
      exact ⟨attempt, (hpassed attempt hpass).mp hmem, hkind, hpass⟩
  checkpoints := by
    rw [hsubmitted]
    exact h.checkpoints
  finals := by
    rw [hsubmitted]
    exact h.finals

theorem Recorded.append {run : Run} (h : Recorded run) {attempt : Attempt}
    (hfree : run.attempt? attempt.id = none) (hopen : attempt.submittedAt = none)
    (huntouched : attempt.passed = none ∧ attempt.continuedAnyway = false)
    (hclosed : ∀ other ∈ run.attemptsOf attempt.kind attempt.part, other.submittedAt.isSome)
    (hnumber : attempt.number = (run.attemptsOf attempt.kind attempt.part).length + 1) :
    Recorded { run with attempts := run.attempts ++ [attempt] } := by
  refine h.ofOpen (h.ids.append (attempt_notMem hfree)) (ordered_append h.ordered hclosed hnumber) ?_
    (submitted_append run hopen) ?_
  · intro other hother hnone
    rcases mem_append.mp hother with hold | hone
    · exact h.untouched other hold hnone
    · obtain rfl := mem_singleton.mp hone
      exact huntouched
  · intro other hpass
    rw [mem_append, mem_singleton]
    constructor
    · rintro (hold | rfl)
      · exact hold
      · rw [huntouched.1] at hpass
        cases hpass
    · exact .inl

theorem Recorded.withoutOpen {run : Run} (h : Recorded run) (kind : AttemptKind)
    (part : Option Nat) : Recorded (withoutOpen run kind part) := by
  refine h.ofOpen (distinct_withoutOpen h.ids kind part) (ordered_withoutOpen h.ordered kind part) ?_
    (fun other => submitted_withoutOpen run kind other part) ?_
  · intro other hother hnone
    exact h.untouched other (mem_filter.mp hother).1 hnone
  · intro other hpass
    rw [mem_filter]
    refine ⟨And.left, fun hmem => ⟨hmem, ?_⟩⟩
    have hclosed : other.submittedAt ≠ none := by
      intro hnone
      have hfresh := (h.untouched other hmem hnone).1
      rw [hpass] at hfresh
      cases hfresh
    simp [hclosed]

theorem closed_of_withoutOpen {run : Run} :
    ∀ other ∈ (withoutOpen run kind part).attemptsOf kind part, other.submittedAt.isSome := by
  intro other hother
  rw [attemptsOf_withoutOpen] at hother
  exact (mem_filter.mp hother).2

theorem closed_of_none {run : Run}
    (h : (run.attemptsOf kind part).find? (·.submittedAt.isNone) = none) :
    ∀ other ∈ run.attemptsOf kind part, other.submittedAt.isSome := by
  intro other hother
  have hnot := find?_eq_none.mp h other hother
  cases hsome : other.submittedAt with
  | none =>
    rw [hsome] at hnot
    exact absurd rfl hnot
  | some _ => rfl

theorem ResultPending.ofOpen {run : Run} (h : run.ResultPending)
    (hsame : ({ run with attempts := attempts } : Run).submittedOf .checkpoint (some run.currentPart) =
      run.submittedOf .checkpoint (some run.currentPart)) :
    ({ run with attempts := attempts } : Run).ResultPending := by
  obtain ⟨attempt, hlatest, hresult⟩ := h
  exact ⟨attempt, by rw [← hlatest]; exact congrArg latest hsame, hresult⟩

section
variable {run : Run} {attempt saved : Attempt} (h : Recorded run) (hmem : attempt ∈ run.attempts)
  (hb : attempt.Becomes saved)
include h hmem hb

theorem Recorded.passed_save :
    (∃ other ∈ (run.saveAttempt saved).attempts, other.kind = .final ∧ other.passed = some true) ↔
      (∃ other ∈ run.attempts, other ≠ attempt ∧ other.kind = .final ∧ other.passed = some true) ∨
        (attempt.kind = .final ∧ saved.passed = some true) := by
  constructor
  · rintro ⟨other, hother, hkind, hpass⟩
    rcases mem_put.mp hother with ⟨rfl, _⟩ | ⟨hold, hne⟩
    · exact .inr ⟨hb.kind.symm.trans hkind, hpass⟩
    · refine .inl ⟨other, hold, ?_, hkind, hpass⟩
      rintro rfl
      exact hne hb.id.symm
  · rintro (⟨other, hold, hne, hkind, hpass⟩ | ⟨hkind, hpass⟩)
    · refine ⟨other, mem_put.mpr (.inr ⟨hold, ?_⟩), hkind, hpass⟩
      intro hid
      exact hne (h.ids.eq hold hmem (hid.trans hb.id))
    · exact ⟨saved, mem_put.mpr (.inl ⟨rfl, attempt, hmem, hb.id.symm⟩),
        hb.kind.trans hkind, hpass⟩

theorem Recorded.save (hsome : saved.submittedAt.isSome = attempt.submittedAt.isSome)
    (hpassed : saved.passed = attempt.passed)
    (huntouched : saved.submittedAt = none → saved.continuedAnyway = false) :
    Recorded (run.saveAttempt saved) where
  ids := h.ids.put _
  ordered := ordered_saveAttempt h.ids hmem hb h.ordered
  untouched other hother hnone := by
    rcases mem_of_mem_put hother with rfl | hold
    · rw [hnone] at hsome
      have hopen : attempt.submittedAt = none := by simpa using hsome.symm
      exact ⟨hpassed.trans (h.untouched attempt hmem hopen).1, huntouched hnone⟩
    · exact h.untouched other hold hnone
  status := by
    rw [h.passed_save hmem hb, hpassed]
    show run.status = .completed ↔ _
    rw [h.status]
    constructor
    · rintro ⟨other, hother, hkind, hpass⟩
      by_cases hsame : other = attempt
      · subst hsame
        exact .inr ⟨hkind, hpass⟩
      · exact .inl ⟨other, hother, hsame, hkind, hpass⟩
    · rintro (⟨other, hother, _, hkind, hpass⟩ | ⟨hkind, hpass⟩)
      · exact ⟨other, hother, hkind, hpass⟩
      · exact ⟨attempt, hmem, hkind, hpass⟩
  checkpoints := by
    rw [length_submitted_saveAttempt h.ids hmem hb hsome]
    exact h.checkpoints
  finals := by
    rw [length_submitted_saveAttempt h.ids hmem hb hsome]
    exact h.finals

variable (hopen : attempt.submittedAt = none) (hclosed : saved.submittedAt.isSome)
include hopen hclosed

/-- Grading the open attempt: one more attempt of its kind, and the run is completed when it
was a final exam that is passed. -/
theorem Recorded.grade {next : Run} (hattempts : next.attempts = (run.saveAttempt saved).attempts)
    (hstatus : next.status = if attempt.kind = .final ∧ saved.passed = some true then .completed
      else run.status)
    (hcheckpoints : next.checkpointAttempts =
      run.checkpointAttempts + if attempt.kind = .checkpoint then 1 else 0)
    (hfinals : next.finalAttempts = run.finalAttempts + if attempt.kind = .final then 1 else 0) :
    Recorded next := by
  have hordered := ordered_saveAttempt h.ids hmem hb h.ordered
  have hcounts (kind : AttemptKind) : (next.submitted kind).length =
      (run.submitted kind).length + if attempt.kind = kind then 1 else 0 := by
    have hsubmitted : next.submitted kind = (run.saveAttempt saved).submitted kind := by
      unfold Run.submitted
      rw [hattempts]
    rw [hsubmitted]
    split
    · next hkind =>
      rw [← hkind]
      exact length_submitted_graded h.ids hmem hb hopen hclosed
    · next hkind => exact length_submitted_of_ne h.ids hmem hb hkind
  refine ⟨?_, ?_, ?_, ?_, ?_, ?_⟩
  · rw [hattempts]
    exact h.ids.put _
  · intro kind part
    have hsame : next.attemptsOf kind part = (run.saveAttempt saved).attemptsOf kind part := by
      unfold Run.attemptsOf
      rw [hattempts]
    rw [hsame]
    exact hordered kind part
  · intro other hother hnone
    rw [hattempts] at hother
    rcases mem_of_mem_put hother with rfl | hold
    · rw [hnone] at hclosed
      cases hclosed
    · exact h.untouched other hold hnone
  · rw [hattempts, h.passed_save hmem hb, hstatus]
    have hfresh := (h.untouched attempt hmem hopen).1
    have hothers : (∃ other ∈ run.attempts, other ≠ attempt ∧ other.kind = .final ∧
        other.passed = some true) ↔ run.status = .completed := by
      rw [h.status]
      constructor
      · rintro ⟨other, hother, _, hpass⟩
        exact ⟨other, hother, hpass⟩
      · rintro ⟨other, hother, hkind, hpass⟩
        refine ⟨other, hother, ?_, hkind, hpass⟩
        rintro rfl
        rw [hfresh] at hpass
        cases hpass
    rw [hothers]
    split
    · next hpass => simp only [hpass, and_self, or_true]
    · next hpass => simp only [hpass, or_false]
  · rw [hcheckpoints, hcounts, h.checkpoints]
  · rw [hfinals, hcounts, h.finals]

end

def Sheet.SamePlan (sheet other : Sheet) : Prop :=
  other = { sheet with visibleTo := other.visibleTo, published := other.published }

theorem contentFor_samePlan {sheet other : Sheet} (h : sheet.SamePlan other)
    (difficulty : Difficulty) (edition : Edition) :
    contentFor other difficulty edition = contentFor sheet difficulty edition := by
  rw [h]
  rfl

variable {sheet other : Sheet} {run next : Run}

theorem Sound.staged (hs : Sound sheet run)
    (hsame : (stage = .final ∨ stage = .finalResult) ↔ (run.stage = .final ∨ run.stage = .finalResult))
    (hresult : stage ≠ .checkpointResult) : Sound sheet { run with stage := stage } :=
  ⟨hs.progress.staged hsame, hs.planned.congr rfl rfl, hs.recorded.congr rfl Iff.rfl rfl rfl,
    fun hstage => absurd hstage hresult⟩

theorem Sound.shown (hs : Sound sheet run) (xp : Nat) (clock : Option PomodoroClock)
    (outcome : LastOutcome) :
    Sound sheet { run with xpAwarded := xp, pomodoroClock := clock, lastOutcome := outcome } :=
  ⟨⟨hs.progress.current, hs.progress.completed, hs.progress.unlocked, hs.progress.last⟩,
    hs.planned.congr rfl rfl, hs.recorded.congr rfl Iff.rfl rfl rfl, hs.result⟩

theorem Sound.reading (hs : Sound sheet run) {part endPage count : Option Int}
    (h : completePartReading other run part endPage count = .ok next) : Sound sheet next := by
  obtain ⟨_, ⟨hmode, hstage, stop, questions, ranges, hclose, rfl⟩ | ⟨_, hstage, rfl⟩⟩ :=
    completePartReading_ok h
  · obtain ⟨first, last, hpages, hpartition⟩ := hs.planned.pages
    have hcycles := hs.planned.cycles hmode
    obtain ⟨hclosed, hnext⟩ := closeRange_partitions hpartition hcycles hclose
    have hmiddle : ¬(run.stage = .final ∨ run.stage = .finalResult) := by
      rcases hstage with hstage | hstage
      · rw [hstage]; decide
      · rw [hstage]; decide
    obtain ⟨front, current, back, hranges, hfront, _, _, hcase⟩ := closeRange_cases hcycles hclose
    have hat : run.currentPart ≤ ranges.length ∧
        (ranges[run.currentPart - 1]?).map (·.endPage) = some stop := by
      have hindex : run.currentPart - 1 = front.length := by omega
      rcases hcase with ⟨_, hsame, rfl⟩ | ⟨_, _, tail, rfl, _⟩
      · rw [hindex]
        constructor
        · exact hs.progress.current.2
        · show ((run.ranges)[front.length]?).map _ = _
          rw [hranges, getElem?_append_right (Nat.le_refl _), Nat.sub_self,
            getElem?_cons_zero, Option.map_some, hsame]
      · rw [hindex, getElem?_append_right (Nat.le_refl _), Nat.sub_self,
          getElem?_cons_zero, Option.map_some]
        refine ⟨?_, rfl⟩
        rw [length_append, length_cons]
        omega
    exact
      { progress :=
          { current := ⟨hs.progress.current.1, hat.1⟩
            completed := hs.progress.behind hmiddle
            unlocked := hat.2
            last := nofun }
        planned :=
          { pages := ⟨first, last, hpages, hclosed⟩
            standard := fun hstandard => absurd (hmode.symm.trans hstandard) (by decide)
            cycles := fun _ => hnext }
        recorded := hs.recorded.congr rfl Iff.rfl rfl rfl
        result := nofun }
  · apply hs.staged
    · rw [hstage]
      decide
    · decide

theorem Sound.resumed (hs : Sound sheet run) (hplan : sheet.SamePlan other)
    {pages questions : Option Int}
    (hcontent : contentFor other run.scope.difficulty run.scope.edition = .ok (content, plan))
    (hruntime : runtimePlan other content plan run.scope.studyMode pages questions = .ok runtime)
    (h : resumeRun run content runtime total = .ok next) : Sound sheet next := by
  obtain rfl | ⟨hmode, range, hrange, rfl⟩ := resumeRun_ok h
  · exact hs
  rw [contentFor_samePlan hplan] at hcontent
  obtain ⟨first, last, _, hpartition⟩ := contentFor_partitions hcontent
  have hsame : runtime.pageRanges = run.ranges := by
    rw [(runtimePlan_partitions hpartition hruntime).2.1 hmode]
    exact (hs.planned.standard hmode content plan hcontent).symm
  have hunlocked : run.unlockedPages = range.endPage := by
    have hcurrent := hs.progress.unlocked
    rw [← hsame, hrange, Option.map_some] at hcurrent
    exact (Option.some.inj hcurrent).symm
  have hnext : ({ run with
      signature := { run.signature with pageRanges := runtime.pageRanges }
      pageCount := total
      unlockedPages := range.endPage } : Run) = { run with pageCount := total } := by
    rw [← hunlocked, hsame]
    rfl
  rw [hnext]
  exact ⟨⟨hs.progress.current, hs.progress.completed, hs.progress.unlocked, hs.progress.last⟩,
    hs.planned.congr rfl rfl, hs.recorded.congr rfl Iff.rfl rfl rfl, hs.result⟩

theorem Sound.ofAttempts (hs : Sound sheet run)
    (hrecorded : Recorded { run with attempts := attempts })
    (hresult : run.ResultPending → ({ run with attempts := attempts } : Run).ResultPending) :
    Sound sheet { run with attempts := attempts } :=
  ⟨⟨hs.progress.current, hs.progress.completed, hs.progress.unlocked, hs.progress.last⟩,
    hs.planned.congr rfl rfl, hrecorded,
    fun hstage => hresult (hs.result hstage)⟩

theorem Sound.opened (hs : Sound sheet run) {total fresh : Nat}
    (hfree : run.attempt? fresh = none) :
    Sound sheet (activeAttempt run kind part total fresh).1 := by
  unfold activeAttempt
  split
  · exact hs
  · next hnone =>
    refine hs.ofAttempts ?_ fun hpending => ResultPending.ofOpen hpending
      (submittedOf_append run rfl _ _)
    exact hs.recorded.append hfree rfl ⟨rfl, rfl⟩ (closed_of_none hnone) rfl

theorem Sound.adopted (hs : Sound sheet run) {offline : OfflineAttempt} {part : Option Nat}
    {total : Nat} (hfree : run.attempt? offline.attemptId = none) :
    Sound sheet (adoptAttempt run offline part total) := by
  have hcleared := hs.recorded.withoutOpen offline.kind part
  have hgone : (withoutOpen run offline.kind part).attempt? offline.attemptId = none :=
    find_eq_none.mpr fun attempt hattempt =>
      attempt_notMem hfree attempt (mem_filter.mp hattempt).1
  refine hs.ofAttempts ?_ fun hpending => ResultPending.ofOpen hpending ?_
  · exact hcleared.append hgone rfl ⟨rfl, rfl⟩ closed_of_withoutOpen rfl
  · exact (submittedOf_append (withoutOpen run offline.kind part) rfl _ _).trans
      (submittedOf_withoutOpen run _ _ _ _)

theorem Sound.discarded (hs : Sound sheet run) (kind : AttemptKind) (part : Option Nat) :
    Sound sheet (withoutOpen run kind part) :=
  hs.ofAttempts (hs.recorded.withoutOpen kind part) fun hpending =>
    ResultPending.ofOpen hpending (submittedOf_withoutOpen run _ _ _ _)

theorem Sound.answered (hs : Sound sheet run) {id : Nat} {attempt : Attempt}
    (hattempt : run.attempt? id = some attempt) (hopen : attempt.submittedAt = none)
    (answers : List Answer) : Sound sheet (run.saveAttempt { attempt with answers := answers }) := by
  have hmem := find_mem hattempt
  have hb : attempt.Becomes { attempt with answers := answers } :=
    ⟨rfl, rfl, rfl, rfl, fun hsome => hsome⟩
  have hrecorded := hs.recorded.save hmem hb rfl rfl fun hnone =>
    (hs.recorded.untouched attempt hmem hnone).2
  refine hs.ofAttempts hrecorded fun hpending => ResultPending.ofOpen hpending ?_
  -- The open attempt is in no list of submitted ones.
  refine (submittedOf_saveAttempt hs.recorded.ids hmem hb rfl _ _).trans ?_
  apply put_of_not_mem
  intro other hother hid
  obtain ⟨hin, hclosed⟩ := mem_filter.mp hother
  rw [hs.recorded.ids.eq (mem_attemptsOf.mp hin).1 hmem hid, hopen] at hclosed
  cases hclosed

theorem Sound.finished {done : Run} (hs : Sound sheet run) (h : finishPart next = .ok done)
    (hstage : ¬(run.stage = .final ∨ run.stage = .finalResult))
    (hcurrent : next.currentPart = run.currentPart) (hcompleted : next.completedParts = run.completedParts)
    (hunlocked : next.unlockedPages = run.unlockedPages) (hscope : next.scope = run.scope)
    (hranges : next.ranges = run.ranges) (hrecorded : Recorded next) :
    Sound sheet done := by
  obtain ⟨hattempts, hstatus, hsameScope, hsameRanges, hcheckpoints, hfinals⟩ := finishPart_frame h
  obtain ⟨hprogress, hresult⟩ := Progress.finish
    (by rw [hcurrent, hranges]; exact hs.progress.current)
    (by rw [hcurrent, hcompleted]; exact hs.progress.behind hstage)
    (by rw [hcurrent, hranges, hunlocked]; exact hs.progress.unlocked) h
  exact
    { progress := hprogress
      planned := hs.planned.congr (hsameScope.trans hscope) (hsameRanges.trans hranges)
      recorded := hrecorded.congr hattempts (by rw [hstatus]) hcheckpoints hfinals
      result := fun hshown => absurd hshown hresult }

theorem Attempt.graded_becomes (attempt : Attempt) (held : List Answer) (now : Nat) :
    let saved := Attempt.graded { attempt with answers := held } now
    attempt.Becomes saved ∧ saved.submittedAt.isSome ∧
      saved.continuedAnyway = attempt.continuedAnyway ∧
      (saved.passed ≠ some true → saved.passed = some false) := by
  refine ⟨⟨rfl, rfl, rfl, rfl, fun _ => rfl⟩, rfl, rfl, ?_⟩
  unfold Attempt.graded
  simp

theorem Sound.graded (hs : Sound sheet run) {id : Nat} {attempt saved : Attempt}
    {answers : List (Int × String)} {now : Nat} {events : List QuestionAttemptEvent}
    (hattempt : run.attempt? id = some attempt) (hopen : attempt.submittedAt = none)
    (h : gradeAttempt other run attempt answers now = .ok (next, saved, events)) :
    Sound sheet next := by
  obtain ⟨hstage, hpart, held, hsaved, hafter⟩ := gradeAttempt_ok h
  obtain ⟨hb, hclosed, hcontinued, hpassed⟩ := attempt.graded_becomes held now
  simp only [← hsaved] at hb hclosed hcontinued hpassed
  have hmem := find_mem hattempt
  have hplanned := hs.planned
  have hgrade (after : Run) :=
    @Recorded.grade run attempt saved hs.recorded hmem hb hopen hclosed after
  obtain ⟨hkind, htrue, hfinish⟩ | ⟨hkind, hfalse, rfl⟩ | ⟨hkind, rfl⟩ := afterGrading_ok hafter
  · have hkind : attempt.kind = .checkpoint := hb.kind.symm.trans hkind
    have hcheckpoint : run.stage = .checkpoint := by
      rw [hstage, Attempt.expectedStage, hkind]
    refine hs.finished hfinish (by rw [hcheckpoint]; decide) rfl rfl rfl rfl rfl ?_
    apply hgrade
    · rfl
    · rw [hkind, if_neg (by simp)]
      rfl
    · rw [hkind]
      rfl
    · rw [hkind]
      rfl
  · have hkind : attempt.kind = .checkpoint := hb.kind.symm.trans hkind
    have hcheckpoint : run.stage = .checkpoint := by
      rw [hstage, Attempt.expectedStage, hkind]
    have hprogress : Progress { run with stage := .checkpointResult } :=
      hs.progress.staged (by rw [hcheckpoint]; decide)
    refine ⟨hprogress.congr rfl rfl rfl rfl rfl, hplanned.congr rfl rfl, ?_, fun _ => ?_⟩
    · apply hgrade
      · rfl
      · rw [hkind, if_neg (by simp)]
        rfl
      · rw [hkind]
        rfl
      · rw [hkind]
        rfl
    · have hlatest := latest_submitted hs.recorded.ids hmem hb hopen hclosed hs.recorded.ordered
      rw [hkind, hpart hkind] at hlatest
      have huntouched := (hs.recorded.untouched attempt hmem hopen).2
      exact ⟨saved, hlatest, hpassed hfalse, hcontinued.trans huntouched⟩
  · have hkind : attempt.kind = .final := hb.kind.symm.trans hkind
    have hfinal : run.stage = .final := by
      rw [hstage, Attempt.expectedStage, hkind]
    have hprogress : Progress { run with stage := .finalResult } :=
      hs.progress.staged (by rw [hfinal]; decide)
    refine ⟨hprogress.congr rfl rfl rfl rfl rfl, hplanned.congr rfl rfl, ?_, nofun⟩
    apply hgrade
    · rfl
    · simp only [hkind, true_and]
      rfl
    · rw [hkind]
      rfl
    · rw [hkind]
      rfl

theorem Sound.continued (hs : Sound sheet run) (h : continueAnyway run = .ok next) :
    Sound sheet next := by
  obtain ⟨hstage, attempt, done, hlatest, hfinish, rfl⟩ := continueAnyway_ok h
  obtain ⟨hin, hclosed⟩ := mem_filter.mp (latest_mem hlatest)
  have hmem := (mem_attemptsOf.mp hin).1
  have hb : attempt.Becomes { attempt with continuedAnyway := true } :=
    ⟨rfl, rfl, rfl, rfl, fun hsome => hsome⟩
  have hrecorded := hs.recorded.save hmem hb rfl rfl fun hnone => by
    have hopen : attempt.submittedAt = none := hnone
    rw [hopen] at hclosed
    cases hclosed
  have hdone := hs.finished hfinish (by rw [hstage]; decide) rfl rfl rfl rfl rfl hrecorded
  exact hdone.shown _ _ _

theorem Sound.again (hs : Sound sheet run) (h : studyAgain run = .ok next) : Sound sheet next := by
  obtain ⟨hstage, rfl⟩ := studyAgain_ok h
  have hreading : Sound sheet { run with stage := .reading } :=
    hs.staged (by rw [hstage]; decide) (by decide)
  exact hreading.shown _ _ _

theorem Sound.retried (hs : Sound sheet run) (h : retryFinal run = .ok next) : Sound sheet next := by
  obtain ⟨_, hstage, rfl⟩ := retryFinal_ok h
  have hfinal : Sound sheet { run with stage := .final } :=
    hs.staged (by rw [hstage]; decide) (by decide)
  exact hfinal.shown _ _ _

theorem Sound.abandoned (hs : Sound sheet run) (h : abandon run = .ok next) : Sound sheet next := by
  obtain ⟨hactive, rfl⟩ := abandon_ok h
  have hstatus : RunStatus.abandoned = .completed ↔ run.status = .completed := by
    rw [hactive]
    decide
  exact ⟨⟨hs.progress.current, hs.progress.completed, hs.progress.unlocked, hs.progress.last⟩,
    hs.planned.congr rfl rfl, hs.recorded.congr rfl hstatus rfl rfl, hs.result⟩

theorem kept_sound (hplan : sheet.SamePlan other) :
    Kept other (Sound sheet) fun _ => True where
  reading hs h := hs.reading h
  resumed hs _ hcontent hruntime h := hs.resumed hplan hcontent hruntime h
  opened hs _ hfree _ := hs.opened hfree
  adopted hs _ _ hfree _ := hs.adopted hfree
  answered hs h := by
    obtain ⟨attempt, answers, hattempt, hopen, rfl⟩ := answer_ok h
    exact hs.answered hattempt hopen answers
  graded hs hattempt hopen h :=
    ⟨fun xp => (hs.graded hattempt hopen h).shown xp _ _, fun _ _ _ => trivial⟩
  continued hs h := hs.continued h
  again hs h := hs.again h
  retried hs h := hs.retried h
  discarded hs h := by
    obtain ⟨_, kind, part, rfl⟩ := discardOpenAttempt_ok h
    exact hs.discarded kind part
  abandoned hs h := hs.abandoned h
  clocked hs h := by
    obtain ⟨_, saved, rfl⟩ := savePomodoroClock_ok h
    exact hs.shown _ saved _

theorem newRun_sound {id : Nat} {scope : RunScope} {pages questions : Option Int}
    {first : PageRange}
    (hcontent : contentFor sheet scope.difficulty scope.edition = .ok (content, plan))
    (hruntime : runtimePlan sheet content plan scope.studyMode pages questions = .ok runtime)
    (hfirst : runtime.pageRanges[0]? = some first) :
    Sound sheet (newRun id scope content runtime total first.endPage) := by
  obtain ⟨start, stop, hpages, hpartition⟩ := contentFor_partitions hcontent
  obtain ⟨hranges, hstandard, hcycles⟩ := runtimePlan_partitions hpartition hruntime
  have hparts : 0 < runtime.pageRanges.length := (List.getElem?_eq_some_iff.mp hfirst).1
  constructor
  · constructor
    · show 1 ≤ 1 ∧ 1 ≤ runtime.pageRanges.length
      omega
    · rfl
    · show (runtime.pageRanges[0]?).map (·.endPage) = some first.endPage
      rw [hfirst, Option.map_some]
    · nofun
  · refine ⟨⟨start, stop, hpages, hranges⟩, ?_, hcycles⟩
    intro hmode content' plan' hcontent'
    have hcontent' : contentFor sheet scope.difficulty scope.edition = .ok (content', plan') :=
      hcontent'
    rw [hcontent] at hcontent'
    cases hcontent'
    exact hstandard hmode
  · constructor
    · exact nodup_nil
    · exact fun _ _ => ⟨List.Pairwise.nil, forall_mem_nil _⟩
    · exact forall_mem_nil _
    · constructor
      · nofun
      · rintro ⟨_, hin, _⟩
        exact absurd hin not_mem_nil
    · rfl
    · rfl
  · nofun

/-- A run started under a plan and a bank that stay keeps the invariant, whatever is called
on it or on other runs, and whether or not the calls succeed. -/
theorem run_invariant (history : List (Env × Service)) (env : Env) (request : StartRequest)
    (store : Store) (run : Run) (sheet : Sheet)
    (hstart : start env (reached history) request = .ok (store, run, true))
    (hsheet : env.sheets request.scope.sheet = some sheet) (calls : List (Env × Service))
    (hcalls : ∀ call ∈ calls, ∀ other, call.1.sheets request.scope.sheet = some other →
      sheet.SamePlan other) :
    ∃ later, (calls.foldl afterCall store).run? run.id = some later ∧ later.Invariant sheet := by
  have hids := start_distinct hstart
  have hmem := (start_active hstart).1
  obtain ⟨seen, content, plan, runtime, total, base, hseen, hcontent, hruntime, _, hcase⟩ :=
    start_ok hstart
  rw [hsheet] at hseen
  cases hseen
  obtain ⟨hold, _⟩ | ⟨_, _, first, hfirst, hnew, _⟩ := hcase
  · cases hold
  have hsound : request.scope.sheet = run.scope.sheet ∧ Sound sheet run := by
    rw [hnew]
    exact ⟨rfl, newRun_sound hcontent hruntime hfirst⟩
  have htracks : Tracks (Sound sheet) (fun _ => True) run.id (request.scope.sheet = ·) store := by
    refine ⟨hids, .inl (mem_map_of_mem hmem), ?_, trivial⟩
    intro other hother hid
    rw [hids.eq hother hmem hid]
    exact hsound
  have hafter := htracks.afterCalls calls fun call hcall sheetId other hsame hother =>
    kept_sound (hcalls call hcall other (by rw [hsame]; exact hother))
  obtain ⟨later, hlater, hp⟩ := hafter.find fun hcreated => by
    have hsheets := (hcreated 0 { run.scope with sheet := request.scope.sheet + 1 }
      ⟨.parts [], [], 0, [], false⟩ ⟨[], 0, none, none⟩ 0 0).1
    have hsheets : request.scope.sheet = request.scope.sheet + 1 := hsheets
    omega
  exact ⟨later, hlater, hp.invariant⟩

/-- The run of one page, up to its last submission from a tab that was left open. -/
theorem one_page_run_invariant :
    ∃ store run, start ⟨fun _ => some onePageSheet, 1, 1, 1⟩ .empty ⟨onePageScope, none, none, false⟩ =
        .ok (store, run, true) ∧
      ∃ later, ((leftAtFinalExam.tail ++ submittedLater).foldl afterCall store).run? run.id =
        some later ∧ later.Invariant onePageSheet := by
  have hgiven : ((start ⟨fun _ => some onePageSheet, 1, 1, 1⟩ .empty
      ⟨onePageScope, none, none, false⟩).toOption.any fun started => started.2.2) = true := by
    decide +kernel
  simp only [Option.any_eq_true, toOption_eq_some] at hgiven
  obtain ⟨⟨store, run, created⟩, hstart, hcreated⟩ := hgiven
  have hcreated : created = true := hcreated
  subst hcreated
  refine ⟨store, run, hstart, run_invariant [] _ _ store run onePageSheet hstart rfl _ ?_⟩
  intro call hcall other hother
  have hsheet : call.1.sheets = fun _ => some onePageSheet := by
    simp only [leftAtFinalExam, submittedLater, callAt, tail_cons, cons_append,
      nil_append, mem_cons, not_mem_nil, or_false] at hcall
    rcases hcall with rfl | rfl | rfl | rfl | rfl | rfl <;> rfl
  rw [hsheet] at hother
  cases hother
  rfl

end LockIn.Study
