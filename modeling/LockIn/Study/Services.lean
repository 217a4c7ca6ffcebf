import LockIn.Study.Run

/-!
# The Active Study services

The services find a run in the store, act on it and save it.  Beside the runs the store
holds the XP ledger and what was told to the review bank and to the other applications.
A service that refuses leaves the store as it was: each is one transaction.
-/

namespace LockIn.Study

open Outcome

/-- A reward, given once for a user, sheet and difficulty. -/
structure Award where
  user : Nat
  sheet : Nat
  difficulty : Difficulty
  run : Nat
  points : Nat
  occurredAt : Nat

/-- `ActiveStudyExamPassed`, published after the commit. -/
structure ExamPassed where
  run : Nat
  attempt : Nat
  user : Nat
  sheet : Nat
  difficulty : Difficulty
  kind : AttemptKind
  score : Option Nat
  total : Nat
  runCompleted : Bool
  occurredAt : Nat

structure Store where
  runs : List Run
  awards : List Award
  events : List QuestionAttemptEvent
  passedExams : List ExamPassed

/-- What a call is made with: the sheets as they are at that time, the clock, and the ids that
rows created by it would get. -/
structure Env where
  sheets : Nat → Option Sheet
  now : Nat
  freshRun : Nat
  freshAttempt : Nat

namespace Store

def empty : Store := ⟨[], [], [], []⟩

def run? (store : Store) (id : Nat) : Option Run :=
  Table.find Run.id store.runs id

def saveRun (store : Store) (run : Run) : Store :=
  { store with runs := Table.put Run.id store.runs run }

def runOfAttempt? (store : Store) (attemptId : Nat) : Option Run :=
  store.runs.find? fun run => (run.attempt? attemptId).isSome

def activeRun? (store : Store) (scope : RunScope) : Option Run :=
  store.runs.find? fun run => run.scope = scope ∧ run.status = .active

def completedRunExists (store : Store) (scope : RunScope) : Bool :=
  store.runs.any fun run => run.scope = scope ∧ run.status = .completed

end Store

def sheetForUser (env : Env) (user sheetId : Nat) : Except StudyError Sheet :=
  match env.sheets sheetId with
  | none => .error (.rule "Sheet not found.")
  | some sheet =>
    if sheet.visibleTo user then .ok sheet
    else .error (.rule "Active Study is not available for this sheet.")

def lockedRun (env : Env) (store : Store) (user runId : Nat) : Except StudyError (Run × Sheet) :=
  match (store.run? runId).filter fun run => run.scope.user = user with
  | none => .error (.rule "Active Study session not found.")
  | some run => do
    let sheet ← sheetForUser env user run.scope.sheet
    return (run, sheet)

def changeRun (env : Env) (store : Store) (user runId : Nat)
    (change : Sheet → Run → Except StudyError Run) : Except StudyError (Store × Run) := do
  let (run, sheet) ← lockedRun env store user runId
  let run ← change sheet run
  return (store.saveRun run, run)

structure RuntimePlan where
  pageRanges : List PageRange
  questionsPerCheckpoint : Int
  pagesPerCheckpoint : Option Int
  sourcePageOffset : Option Int

def pageSpan (ranges : List PageRange) : Except StudyError (Int × Int) :=
  match ranges.head?, ranges.getLast? with
  | some first, some last => .ok (first.startPage, last.endPage)
  | _, _ => .error (.crash "IndexError")

def runtimePlan (sheet : Sheet) (content : ActiveStudyQuestionContent) (plan : Plan)
    (studyMode : StudyMode) (pagesPerCheckpoint questionsPerCheckpoint : Option Int) :
    Except StudyError RuntimePlan :=
  match studyMode with
  | .standard => do
    refuse [(pagesPerCheckpoint.isSome || questionsPerCheckpoint.isSome,
      .rule "Custom settings require custom Active Study.")]
    return ⟨plan.pageRanges, plan.questionsPerCheckpoint, none, none⟩
  | .custom | .pomodoro => do
    refuse [
      (!sheet.pageBankEnabled || content.pages?.isNone,
        .rule "Customization is available only for new page-based sheets."),
      (studyMode == .custom &&
          !(questionsPerCheckpoint.any fun count => 1 ≤ count ∧ count ≤ maxCustomQuestions),
        .rule "Choose between 1 and 30 questions.")]
    let (start, stop) ← pageSpan plan.pageRanges
    let (sourceStart, sourceStop) ← pageSpan content.sourceRanges
    refuse [(stop - start != sourceStop - sourceStart,
      .rule "This edition needs matching study pages before customization can be used.")]
    if studyMode = .pomodoro then do
      refuse [(pagesPerCheckpoint.isSome || questionsPerCheckpoint.isSome,
        .rule "Choose Pomodoro questions when the timer finishes.")]
      return ⟨initialRanges start stop, plan.questionsPerCheckpoint, none,
        some (sourceStart - start)⟩
    else
      match pagesPerCheckpoint, questionsPerCheckpoint with
      | none, _ => .error (.rule "Choose a page count for custom Active Study.")
      | _, none => .error (.rule "Choose a question count for custom Active Study.")
      | some pages, some questions => do
        let ranges ← (customPageRanges start stop pages).mapError .rule
        return ⟨ranges, questions, some pages, some (sourceStart - start)⟩

/-- The run that `start` inserts. -/
def newRun (id : Nat) (scope : RunScope) (content : ActiveStudyQuestionContent)
    (plan : RuntimePlan) (totalPages unlockedPages : Int) : Run :=
  { id := id
    scope := scope
    pageCount := totalPages
    unlockedPages := unlockedPages
    status := .active
    stage := .reading
    currentPart := 1
    completedParts := []
    lastScore := none
    lastOutcome := .none
    checkpointAttempts := 0
    finalAttempts := 0
    xpAwarded := 0
    signature := {
      pageRanges := plan.pageRanges
      contentRevision := if content.pages?.isSome then some content.revision else none
      questionsPerCheckpoint :=
        if content.pages?.isSome then some plan.questionsPerCheckpoint else none
      pagesPerCheckpoint := plan.pagesPerCheckpoint
      sourcePageOffset := plan.sourcePageOffset }
    attempts := []
    pomodoroClock := none }

/-- `_synchronize_run_to_plan`: the saved ranges follow the plan, the progress stays. -/
def synchronizeRunToPlan (run : Run) (plan : RuntimePlan) (totalPdfPages : Int) :
    Except StudyError Run := do
  refuse [(plan.pageRanges.length < run.currentPart,
    .rule ("This Active Study session cannot be mapped to the current page plan. " ++
      "Review the saved progress before resuming."))]
  let range ← rangeAt plan.pageRanges run.currentPart
  return { run with
    signature := { run.signature with pageRanges := plan.pageRanges }
    pageCount := totalPdfPages
    unlockedPages := range.endPage }

/-- What `start` does with a run that is already active. -/
def resumeRun (run : Run) (content : ActiveStudyQuestionContent) (plan : RuntimePlan)
    (totalPages : Int) : Except StudyError Run := do
  refuse [
    (run.scope.studyMode == .custom &&
        (run.signature.pagesPerCheckpoint != plan.pagesPerCheckpoint ||
          run.signature.questionsPerCheckpoint != some plan.questionsPerCheckpoint),
      .rule "Resume or restart your saved custom session before changing its settings."),
    (content.pages?.isSome && run.signature.contentRevision != some content.revision,
      .rule "Questions changed. Restart this session to use the updated bank.")]
  match run.scope.studyMode with
  | .custom => do
    refuse [(run.ranges != plan.pageRanges,
      .rule "Study pages changed. Restart this custom session.")]
    return run
  | .pomodoro => do
    let saved ← pageSpan run.ranges
    let planned ← pageSpan plan.pageRanges
    refuse [(saved != planned, .rule "Study pages changed. Restart this Pomodoro session.")]
    return run
  | .standard => synchronizeRunToPlan run plan totalPages

def checkStock (content : ActiveStudyQuestionContent) (pages questions : Option Int) :
    Except StudyError Unit := do
  let (start, stop) ← pageSpan content.sourceRanges
  let maximum ← (maxAvailableCustomQuestions (content.pages?.getD []) start stop
    (pages.getD 0)).mapError fun _ => .crash "ValueError"
  if maximum < questions.getD 0 then
    .error (.rule ("Choose at most " ++ toString maximum ++
      " available questions for this page count."))
  else .ok ()

structure StartRequest where
  scope : RunScope
  pagesPerCheckpoint : Option Int
  questionsPerCheckpoint : Option Int
  replaceExisting : Bool

def abandonRun (env : Env) (store : Store) (user runId : Nat) : Except StudyError (Store × Run) :=
  changeRun env store user runId fun _ run => abandon run

/-- A new custom run is bounded by the stock of the bank, a resumed one is not. -/
def checkRequest (content : ActiveStudyQuestionContent) (request : StartRequest)
    (existing : Option Run) : Except StudyError Unit :=
  if request.scope.studyMode = .custom ∧ (existing.isNone ∨ request.replaceExisting) then
    checkStock content request.pagesPerCheckpoint request.questionsPerCheckpoint
  else .ok ()

def replaceRun (env : Env) (store : Store) (request : StartRequest) (existing : Option Run) :
    Except StudyError (Store × Option Run) :=
  match existing.filter fun _ => request.replaceExisting && request.scope.studyMode != .standard with
  | some run => do
    let (store, _) ← abandonRun env store request.scope.user run.id
    return (store, none)
  | none => .ok (store, existing)

def insertRun (env : Env) (store : Store) (scope : RunScope) (content : ActiveStudyQuestionContent)
    (plan : RuntimePlan) (totalPages : Int) : Except StudyError (Store × Run) := do
  let first ← rangeAt plan.pageRanges 1
  refuse [((store.run? env.freshRun).isSome, .integrity)]
  let run := newRun env.freshRun scope content plan totalPages first.endPage
  return ({ store with runs := store.runs ++ [run] }, run)

/-- `start`, which answers with the run and whether it was created. -/
def start (env : Env) (store : Store) (request : StartRequest) :
    Except StudyError (Store × Run × Bool) := do
  let scope := request.scope
  let sheet ← sheetForUser env scope.user scope.sheet
  let (content, plan) ← contentFor sheet scope.difficulty scope.edition
  let plan ← runtimePlan sheet content plan scope.studyMode request.pagesPerCheckpoint
    request.questionsPerCheckpoint
  match resolveTotalPdfPages sheet scope.edition with
  | none => .error (.rule "Active Study is not configured for this sheet.")
  | some totalPages => do
    checkRequest content request (store.activeRun? scope)
    let (store, existing) ← replaceRun env store request (store.activeRun? scope)
    match existing with
    | some run => do
      let run ← resumeRun run content plan totalPages
      return (store.saveRun run, run, false)
    | none => do
      let (store, run) ← insertRun env store scope content plan totalPages
      return (store, run, true)

/-- The settings that `restart` hands on. -/
def restartRequest (run : Run) : StartRequest :=
  { scope := run.scope
    pagesPerCheckpoint :=
      if run.scope.studyMode = .custom then run.signature.pagesPerCheckpoint else none
    questionsPerCheckpoint :=
      if run.scope.studyMode = .custom then run.signature.questionsPerCheckpoint else none
    replaceExisting := false }

def restart (env : Env) (store : Store) (user runId : Nat) : Except StudyError (Store × Run) := do
  let (current, _) ← lockedRun env store user runId
  refuse [(current.status != .active,
    .rule "Only an active Active Study run can be restarted.")]
  let (store, _) ← abandonRun env store user runId
  let (store, fresh, created) ← start env store (restartRequest current)
  refuse [(!created, .rule "Active Study could not be restarted. Try again.")]
  return (store, fresh)

/-- `questions`, which answers with the open attempt. -/
def questions (env : Env) (store : Store) (user runId : Nat) :
    Except StudyError (Store × Run × Attempt × List Question) := do
  let (run, sheet) ← lockedRun env store user runId
  refuse [(run.status != .active || (run.stage != .checkpoint && run.stage != .final),
    .rule "Questions are not available at this stage.")]
  let source ← questionsFor sheet run run.stageKind.1 run.stageKind.2
  let opened := activeAttempt run run.stageKind.1 run.stageKind.2 source.length env.freshAttempt
  refuse [(opened.1 != run && (store.runOfAttempt? env.freshAttempt).isSome, .integrity)]
  return (store.saveRun opened.1, opened.1, opened.2, source)

def answerQuestion (env : Env) (store : Store) (user runId attemptId : Nat) (position : Int)
    (selected : String) : Except StudyError (Store × Checked) := do
  let (run, sheet) ← lockedRun env store user runId
  let (run, events, checked) ← answer sheet run attemptId position selected env.now
  let saved := store.saveRun run
  return ({ saved with events := saved.events ++ events }, checked)

structure AttemptResult where
  score : Option Nat
  total : Nat
  passed : Option Bool
  completed : Bool
  xpAwarded : Nat
  alreadySubmitted : Bool

def attemptResult (run : Run) (attempt : Attempt) (alreadySubmitted : Bool) : AttemptResult :=
  ⟨attempt.score, attempt.total, attempt.passed, run.status = .completed, run.xpAwarded,
    alreadySubmitted⟩

def xpByDifficulty : Difficulty → Nat
  | .easy => 100
  | .medium => 150
  | .hard => 200

/-- `award_xp`: the award of a user, sheet and difficulty is created once. -/
def awardXp (store : Store) (run : Run) (now : Nat) : Store × Run :=
  if store.awards.any fun award => award.user = run.scope.user ∧ award.sheet = run.scope.sheet ∧
      award.difficulty = run.scope.difficulty then
    (store, { run with xpAwarded := 0 })
  else
    let points := xpByDifficulty run.scope.difficulty
    let award : Award :=
      ⟨run.scope.user, run.scope.sheet, run.scope.difficulty, run.id, points, now⟩
    ({ store with awards := store.awards ++ [award] }, { run with xpAwarded := points })

def examPassed (run : Run) (attempt : Attempt) (now : Nat) : ExamPassed :=
  { run := run.id
    attempt := attempt.id
    user := run.scope.user
    sheet := run.scope.sheet
    difficulty := run.scope.difficulty
    kind := attempt.kind
    score := attempt.score
    total := attempt.total
    runCompleted := run.status = .completed
    occurredAt := now }

/-- The part of `submit` that follows the grading. -/
def settleGraded (store : Store) (run : Run) (attempt : Attempt)
    (events : List QuestionAttemptEvent) (now : Nat) : Store × Run :=
  let told := { store with events := store.events ++ events }
  if attempt.passed = some true then
    let rewarded := if attempt.kind = .final then awardXp told run now else (told, run)
    let saved := rewarded.1.saveRun rewarded.2
    ({ saved with passedExams := saved.passedExams ++ [examPassed rewarded.2 attempt now] },
      rewarded.2)
  else (told.saveRun run, run)

def submit (env : Env) (store : Store) (user runId attemptId : Nat)
    (answers : List (Int × String)) : Except StudyError (Store × Run × AttemptResult) := do
  let (run, sheet) ← lockedRun env store user runId
  match run.attempt? attemptId with
  | none => .error (.rule "Question attempt not found.")
  | some attempt =>
    if attempt.submittedAt.isSome then do
      let _ ← questionsFor sheet run attempt.kind attempt.part
      return (store, run, attemptResult run attempt true)
    else do
      let (run, attempt, events) ← gradeAttempt sheet run attempt answers env.now
      let (store, run) := settleGraded store run attempt events env.now
      return (store, run, attemptResult run attempt false)

end LockIn.Study
