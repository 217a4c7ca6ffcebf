import LockIn.Study.Services

/-!
# Calls, replays and what they do to a run

A device that downloaded a sheet runs Active Study by itself and uploads the attempts it
finished, the choices to continue after a failed checkpoint and the restarts.  The replay
drives the services, so that grading, unlocking and rewards are those of the server.

One lemma for each function that acts on a run: what held before it and what the run is
after it.  The proofs about runs use these and never unfold the functions.
-/

namespace LockIn.Study

open Outcome

inductive ReplayStatus where
  | applied
  | duplicate
  | superseded

structure ReplayOutcome where
  status : ReplayStatus
  run : Option Run
  result : Option AttemptResult

structure OfflineAttempt where
  scope : RunScope
  kind : AttemptKind
  part : Option Int
  attemptId : Nat
  answers : List (Int × String)
  pagesPerCheckpoint : Option Int
  questionsPerCheckpoint : Option Int
  bankRevision : Option Nat
  checkpointEndPage : Option Int
  checkpointQuestionCount : Option Int

/-- A continuation or a restart as the device uploads it. -/
structure OfflineChoice where
  scope : RunScope
  part : Int
  pagesPerCheckpoint : Option Int
  questionsPerCheckpoint : Option Int
  bankRevision : Option Nat

def answerKeys : List String := ["A", "B", "C", "D", "T", "F"]

/-- One round of the loop of `_validated_answers`. -/
def validateAnswer (total : Nat) (answers : List (Int × String)) (item : Int × String) :
    Except StudyError (List (Int × String)) :=
  if item.1 < 1 ∨ (total : Int) < item.1 ∨ item.1 ∈ answers.map Prod.fst then
    .error (.rule "Question position is invalid.")
  else if item.2 ∉ answerKeys then .error (.rule "Choose an answer for this question.")
  else .ok (answers ++ [item])

def validatedAnswers (raw : List (Int × String)) (total : Nat) :
    Except StudyError (List (Int × String)) := do
  refuse [(raw.length != total, .rule "Answer every question before submitting.")]
  let answers ← raw.foldlM (validateAnswer total) []
  return answers.insertionSort fun first second => first.1 ≤ second.1

def offlinePart (offline : OfflineAttempt) : Except StudyError (Option Nat) :=
  match offline.kind with
  | .final => .ok none
  | .checkpoint =>
    match offline.part.filter (1 ≤ ·) with
    | none => .error (.rule "Part is invalid.")
    | some part => .ok (some part.toNat)

def runForAttempt (env : Env) (store : Store) (offline : OfflineAttempt) (part : Option Nat) :
    Except StudyError (Store × Option Run) :=
  match store.activeRun? offline.scope with
  | some run => .ok (store, some run)
  | none =>
    if offline.kind = .final ∨ part ≠ some 1 then
      if store.completedRunExists offline.scope then .ok (store, none)
      else .error (.outOfOrder "This Active Study session is no longer active.")
    else do
      let (store, run, _) ← start env store
        ⟨offline.scope, offline.pagesPerCheckpoint, offline.questionsPerCheckpoint, false⟩
      return (store, some run)

/-- A device that uploads another attempt after a failed one has studied again. -/
def leaveResult (env : Env) (store : Store) (run : Run) (user : Nat) : Except StudyError Store :=
  if run.stage = .checkpointResult then do
    let (store, _) ← changeRun env store user run.id fun _ run => studyAgain run
    return store
  else .ok store

/-- The stage of a checkpoint attempt: nothing when the part is done already, and otherwise
the store in which its part is read and ready to be tested. -/
def prepareCheckpoint (env : Env) (store : Store) (run : Run) (offline : OfflineAttempt)
    (part : Nat) : Except StudyError (Option Store) :=
  if part ∈ run.completedParts ∨ part < run.currentPart then .ok none
  else if run.currentPart < part then
    .error (.outOfOrder "An earlier part has not been completed yet.")
  else do
    let user := offline.scope.user
    let store ← leaveResult env store run user
    if run.scope.studyMode = .pomodoro then do
      let (store, _) ← changeRun env store user run.id fun sheet run =>
        completePartReading sheet run (some part) offline.checkpointEndPage
          offline.checkpointQuestionCount
      return some store
    else do
      let (current, _) ← lockedRun env store user run.id
      if current.stage = .reading then do
        let (store, _) ← changeRun env store user run.id fun sheet run =>
          completePartReading sheet run none none none
        return some store
      else return some store

def prepareFinal (env : Env) (store : Store) (run : Run) (offline : OfflineAttempt) :
    Except StudyError Store :=
  if run.stage = .finalResult then do
    let (store, _) ← changeRun env store offline.scope.user run.id fun _ run => retryFinal run
    return store
  else if run.stage ≠ .final then .error (.outOfOrder "The final exam is not unlocked yet.")
  else return store

def prepareAttempt (env : Env) (store : Store) (run : Run) (offline : OfflineAttempt)
    (part : Option Nat) : Except StudyError (Option Store) :=
  match part with
  | some part => prepareCheckpoint env store run offline part
  | none => do
    let store ← prepareFinal env store run offline
    return some store

/-- The attempt of the device takes the place of one opened online. -/
def adoptAttempt (run : Run) (offline : OfflineAttempt) (part : Option Nat) (total : Nat) : Run :=
  let cleared := withoutOpen run offline.kind part
  { cleared with attempts := cleared.attempts ++ [
      { id := offline.attemptId
        kind := offline.kind
        part := part
        number := (cleared.attemptsOf offline.kind part).length + 1
        total := total
        answers := []
        score := none
        passed := none
        continuedAnyway := false
        submittedAt := none }] }

def answerAll (env : Env) (user runId attemptId : Nat) (store : Store) :
    List (Int × String) → Except StudyError Store
  | [] => .ok store
  | (position, selected) :: rest => do
    let (store, _) ← answerQuestion env store user runId attemptId position selected
    answerAll env user runId attemptId store rest

def applyAttempt (env : Env) (store : Store) (runId : Nat) (offline : OfflineAttempt)
    (part : Option Nat) (existing : Option Run) : Except StudyError (Store × ReplayOutcome) := do
  let (run, sheet) ← lockedRun env store offline.scope.user runId
  let source ← questionsFor sheet run offline.kind part
  let validated ← validatedAnswers offline.answers source.length
  refuse [(existing.any (·.id != run.id),
    .rule "This attempt belongs to a different session.")]
  let store :=
    if existing.isNone then store.saveRun (adoptAttempt run offline part source.length) else store
  let store ← answerAll env offline.scope.user run.id offline.attemptId store validated
  let (store, run, result) ← submit env store offline.scope.user run.id offline.attemptId []
  return (store, ⟨.applied, some run, some result⟩)

/-- Whether a stored attempt is not the one that a device uploads under its id. -/
def differentSession (run : Run) (attempt : Attempt) (offline : OfflineAttempt)
    (part : Option Nat) : Bool :=
  run.scope != offline.scope || attempt.kind != offline.kind || attempt.part != part

def settingsDiffer (run : Run) (studyMode : StudyMode) (pages questions : Option Int) : Bool :=
  studyMode == .custom &&
    (run.signature.pagesPerCheckpoint != pages || run.signature.questionsPerCheckpoint != questions)

def replayOfflineAttempt (env : Env) (store : Store) (offline : OfflineAttempt) :
    Except StudyError (Store × ReplayOutcome) := do
  let part ← offlinePart offline
  let _ ← sheetForUser env offline.scope.user offline.scope.sheet
  let existing := store.runOfAttempt? offline.attemptId
  let held := existing.bind fun run => (run.attempt? offline.attemptId).map (run, ·)
  refuse [(held.any fun (run, attempt) => differentSession run attempt offline part,
    .rule "This attempt belongs to a different session.")]
  match held.filter fun (_, attempt) => attempt.submittedAt.isSome with
  | some (run, attempt) =>
    return (store, ⟨.duplicate, some run, some (attemptResult run attempt false)⟩)
  | none => do
    let (store, active) ← runForAttempt env store offline part
    match active with
    | none => return (store, ⟨.superseded, none, none⟩)
    | some active => do
      let (run, _) ← lockedRun env store offline.scope.user active.id
      refuse [
        (settingsDiffer run offline.scope.studyMode offline.pagesPerCheckpoint
            offline.questionsPerCheckpoint,
          .rule "Offline settings do not match this custom session."),
        (run.signature.contentRevision.any fun revision => offline.bankRevision != some revision,
          .rule ("Downloaded questions changed; refresh the sheet before syncing this " ++
            "attempt."))]
      match ← prepareAttempt env store run offline part with
      | none => return (store, ⟨.superseded, some run, none⟩)
      | some store => applyAttempt env store run.id offline part existing

def replayOfflineContinue (env : Env) (store : Store) (choice : OfflineChoice) :
    Except StudyError (Store × ReplayOutcome) := do
  let _ ← sheetForUser env choice.scope.user choice.scope.sheet
  match store.activeRun? choice.scope with
  | none =>
    if store.completedRunExists choice.scope then return (store, ⟨.superseded, none, none⟩)
    else .error (.outOfOrder "This Active Study session is no longer active.")
  | some run => do
    let otherBank := run.signature.contentRevision != choice.bankRevision
    refuse [
      (settingsDiffer run choice.scope.studyMode choice.pagesPerCheckpoint
          choice.questionsPerCheckpoint || (choice.scope.studyMode == .custom && otherBank),
        .rule "Offline settings do not match this custom session."),
      (choice.scope.studyMode == .pomodoro && otherBank,
        .rule "Downloaded questions changed; refresh this Pomodoro session.")]
    if (run.completedParts.any fun part => (part : Int) = choice.part) ∨
        choice.part < run.currentPart then
      return (store, ⟨.superseded, some run, none⟩)
    else if (run.currentPart : Int) < choice.part ∨ run.stage ≠ .checkpointResult then
      .error (.outOfOrder "This checkpoint has no result to continue from.")
    else do
      let (store, run) ← changeRun env store choice.scope.user run.id fun _ run =>
        continueAnyway run
      return (store, ⟨.applied, some run, none⟩)

def replayOfflineRestart (env : Env) (store : Store) (choice : OfflineChoice) :
    Except StudyError (Store × ReplayOutcome) := do
  let _ ← sheetForUser env choice.scope.user choice.scope.sheet
  let fresh (store : Store) : Except StudyError (Store × ReplayOutcome) := do
    let (store, run, _) ← start env store
      ⟨choice.scope, choice.pagesPerCheckpoint, choice.questionsPerCheckpoint, false⟩
    return (store, ⟨.applied, some run, none⟩)
  match store.activeRun? choice.scope with
  | none => fresh store
  | some run =>
    if settingsDiffer run choice.scope.studyMode choice.pagesPerCheckpoint
        choice.questionsPerCheckpoint then do
      let (store, _) ← abandonRun env store choice.scope.user run.id
      fresh store
    else do
      let (store, run) ← restart env store choice.scope.user run.id
      return (store, ⟨.applied, some run, none⟩)

/-- The services, each with the user who calls it. -/
inductive Service where
  | start (request : StartRequest)
  | completePartReading (user run : Nat) (part endPage questionCount : Option Int)
  | questions (user run : Nat)
  | answer (user run attempt : Nat) (position : Int) (selected : String)
  | submit (user run attempt : Nat) (answers : List (Int × String))
  | continueAnyway (user run : Nat)
  | studyAgain (user run : Nat)
  | retryFinal (user run : Nat)
  | savePomodoroClock (user run : Nat) (clock : PomodoroClock)
  | discardOpenAttempt (user run : Nat)
  | abandon (user run : Nat)
  | restart (user run : Nat)
  | replayAttempt (offline : OfflineAttempt)
  | replayContinue (choice : OfflineChoice)
  | replayRestart (choice : OfflineChoice)

def serve (env : Env) (store : Store) : Service → Except StudyError Store
  | .start request => Prod.fst <$> start env store request
  | .completePartReading user run part endPage questionCount =>
    Prod.fst <$> changeRun env store user run fun sheet run =>
      completePartReading sheet run part endPage questionCount
  | .questions user run => Prod.fst <$> questions env store user run
  | .answer user run attempt position selected =>
    Prod.fst <$> answerQuestion env store user run attempt position selected
  | .submit user run attempt answers => Prod.fst <$> submit env store user run attempt answers
  | .continueAnyway user run =>
    Prod.fst <$> changeRun env store user run fun _ run => continueAnyway run
  | .studyAgain user run => Prod.fst <$> changeRun env store user run fun _ run => studyAgain run
  | .retryFinal user run => Prod.fst <$> changeRun env store user run fun _ run => retryFinal run
  | .savePomodoroClock user run clock =>
    Prod.fst <$> changeRun env store user run fun _ run => savePomodoroClock run clock
  | .discardOpenAttempt user run =>
    Prod.fst <$> changeRun env store user run fun _ run => discardOpenAttempt run
  | .abandon user run => Prod.fst <$> abandonRun env store user run
  | .restart user run => Prod.fst <$> restart env store user run
  | .replayAttempt offline => Prod.fst <$> replayOfflineAttempt env store offline
  | .replayContinue choice => Prod.fst <$> replayOfflineContinue env store choice
  | .replayRestart choice => Prod.fst <$> replayOfflineRestart env store choice

def afterCall (store : Store) (call : Env × Service) : Store :=
  match serve call.1 store call.2 with
  | .ok store => store
  | .error _ => store

/-! # What each service does to a run -/

variable {sheet : Sheet} {run next : Run}

theorem completePartReading_ok {part endPage count : Option Int}
    (h : completePartReading sheet run part endPage count = .ok next) :
    run.status = .active ∧
      ((run.scope.studyMode = .pomodoro ∧ (run.stage = .reading ∨ run.stage = .checkpoint) ∧
        ∃ stop questions ranges,
          closeRange run.ranges run.currentPart stop questions = .ok ranges ∧
          next = { run with
            signature := { run.signature with pageRanges := ranges }
            unlockedPages := stop
            stage := .checkpoint }) ∨
      (run.scope.studyMode ≠ .pomodoro ∧ run.stage = .reading ∧
        next = { run with stage := .checkpoint })) := by
  unfold completePartReading at h
  split at h
  · next hmode =>
    obtain ⟨⟨⟩, hallowed, h⟩ := bind_eq_ok.mp h
    simp only [refuse_cons_ok, refuse_nil, and_true, Bool.or_eq_false_iff, Bool.and_eq_false_iff,
      bne_eq_false_iff_eq] at hallowed
    obtain ⟨⟨hactive, hstage⟩, _⟩ := hallowed
    split at h
    · next stop questions _ =>
      obtain ⟨_, _, h⟩ := bind_eq_ok.mp h
      obtain ⟨_, _, h⟩ := bind_eq_ok.mp h
      obtain ⟨ranges, hranges, h⟩ := bind_eq_ok.mp h
      cases h
      exact ⟨hactive, .inl ⟨hmode, hstage, stop, questions, ranges, mapError_eq_ok.mp hranges, rfl⟩⟩
    · cases h
  · next hmode =>
    obtain ⟨⟨⟩, hallowed, h⟩ := bind_eq_ok.mp h
    simp only [refuse_cons_ok, refuse_nil, and_true, Bool.or_eq_false_iff,
      bne_eq_false_iff_eq] at hallowed
    cases h
    exact ⟨hallowed.2.1, .inr ⟨hmode, hallowed.2.2, rfl⟩⟩

variable {attempt : Attempt} {source : List Question} {position : Int} {selected : String}
  {now : Nat} {events : List QuestionAttemptEvent} {checked : Checked}

theorem recordAnswer_ok {recorded : Attempt}
    (h : recordAnswer sheet run attempt source position selected now =
      .ok (recorded, events, checked)) :
    ∃ answers, recorded = { attempt with answers := answers } := by
  obtain ⟨⟨place, question⟩, _, h⟩ := bind_eq_ok.mp h
  simp only at h
  split at h
  · split at h
    · cases h
    · cases h
      exact ⟨attempt.answers, rfl⟩
  · obtain ⟨_, _, h⟩ := bind_eq_ok.mp h
    cases h
    exact ⟨_, rfl⟩

theorem answer_ok {attemptId : Nat}
    (h : answer sheet run attemptId position selected now = .ok (next, events, checked)) :
    ∃ attempt answers, run.attempt? attemptId = some attempt ∧ attempt.submittedAt = none ∧
      next = run.saveAttempt { attempt with answers := answers } := by
  unfold answer at h
  split at h
  · cases h
  · next attempt hattempt =>
    obtain ⟨hfound, hopen⟩ := Option.filter_eq_some_iff.mp hattempt
    obtain ⟨_, _, h⟩ := bind_eq_ok.mp h
    obtain ⟨_, _, h⟩ := bind_eq_ok.mp h
    obtain ⟨⟨recorded, _, _⟩, hrecorded, h⟩ := bind_eq_ok.mp h
    cases h
    obtain ⟨answers, rfl⟩ := recordAnswer_ok hrecorded
    exact ⟨attempt, answers, hfound, Option.isNone_iff_eq_none.mp hopen, rfl⟩

theorem recordSubmittedAnswers_ok {recorded : Attempt} {answers : List (Int × String)}
    (h : recordSubmittedAnswers sheet run attempt source answers now = .ok (recorded, events)) :
    ∃ held, recorded = { attempt with answers := held } := by
  obtain ⟨held, _, h⟩ := bind_eq_ok.mp h
  obtain ⟨_, _, h⟩ := bind_eq_ok.mp h
  cases h
  exact ⟨held, rfl⟩

theorem finishPart_ok (h : finishPart run = .ok next) :
    (run.currentPart = run.ranges.length ∧
      next = { run with
        completedParts := run.completedParts ++ [run.currentPart], stage := .final }) ∨
    (run.currentPart ≠ run.ranges.length ∧ ∃ range, run.ranges[run.currentPart]? = some range ∧
      next = { run with
        completedParts := run.completedParts ++ [run.currentPart]
        currentPart := run.currentPart + 1
        unlockedPages := range.endPage
        stage := .reading }) := by
  unfold finishPart at h
  split at h
  · next hlast =>
    cases h
    exact .inl ⟨hlast, rfl⟩
  · next hlast =>
    obtain ⟨range, hrange, h⟩ := bind_eq_ok.mp h
    cases h
    unfold rangeAt at hrange
    split at hrange
    · next found hfound =>
      cases hrange
      exact .inr ⟨hlast, range, hfound, rfl⟩
    · cases hrange

theorem finishPart_frame (h : finishPart run = .ok next) :
    next.attempts = run.attempts ∧ next.status = run.status ∧ next.scope = run.scope ∧
      next.ranges = run.ranges ∧ next.checkpointAttempts = run.checkpointAttempts ∧
      next.finalAttempts = run.finalAttempts := by
  obtain ⟨_, rfl⟩ | ⟨_, _, _, rfl⟩ := finishPart_ok h
  · exact ⟨rfl, rfl, rfl, rfl, rfl, rfl⟩
  · exact ⟨rfl, rfl, rfl, rfl, rfl, rfl⟩

theorem gradeAttempt_ok {graded : Attempt} {answers : List (Int × String)}
    (h : gradeAttempt sheet run attempt answers now = .ok (next, graded, events)) :
    run.stage = attempt.expectedStage ∧
      (attempt.kind = .checkpoint → attempt.part = some run.currentPart) ∧
      ∃ held, graded = ({ attempt with answers := held }).graded now ∧
        afterGrading (run.saveAttempt graded) graded = .ok next := by
  obtain ⟨⟨⟩, hallowed, h⟩ := bind_eq_ok.mp h
  simp only [refuse_cons_ok, refuse_nil, and_true, Bool.or_eq_false_iff, Bool.and_eq_false_iff,
    bne_eq_false_iff_eq, beq_eq_false_iff_ne] at hallowed
  obtain ⟨hstage, hpart⟩ := hallowed
  obtain ⟨_, _, h⟩ := bind_eq_ok.mp h
  obtain ⟨⟨recorded, _⟩, hrecorded, h⟩ := bind_eq_ok.mp h
  obtain ⟨_, _, h⟩ := bind_eq_ok.mp h
  obtain ⟨after, hafter, h⟩ := bind_eq_ok.mp h
  obtain ⟨held, rfl⟩ := recordSubmittedAnswers_ok hrecorded
  cases h
  refine ⟨hstage, ?_, held, rfl, hafter⟩
  intro hkind
  rcases hpart with hother | hcurrent
  · exact absurd hkind hother
  · exact hcurrent

/-- A graded checkpoint finishes its part or shows its result, a graded final exam ends the
run or shows its result. -/
theorem afterGrading_ok (h : afterGrading run attempt = .ok next) :
    (attempt.kind = .checkpoint ∧ attempt.passed = some true ∧
      finishPart { run with
        lastScore := attempt.score
        lastOutcome := .passed
        checkpointAttempts := run.checkpointAttempts + 1 } = .ok next) ∨
    (attempt.kind = .checkpoint ∧ attempt.passed ≠ some true ∧
      next = { run with
        lastScore := attempt.score
        lastOutcome := .failed
        checkpointAttempts := run.checkpointAttempts + 1
        stage := .checkpointResult }) ∨
    (attempt.kind = .final ∧
      next = { run with
        lastScore := attempt.score
        lastOutcome := if attempt.passed = some true then .passed else .failed
        finalAttempts := run.finalAttempts + 1
        stage := .finalResult
        status := if attempt.passed = some true then .completed else run.status }) := by
  unfold afterGrading at h
  cases hkind : attempt.kind with
  | checkpoint =>
    rw [hkind] at h
    by_cases hpassed : attempt.passed = some true
    · simp only [hpassed, if_true] at h
      exact .inl ⟨rfl, hpassed, h⟩
    · simp only [hpassed, if_false] at h
      cases h
      exact .inr (.inl ⟨rfl, hpassed, rfl⟩)
  | final =>
    rw [hkind] at h
    cases h
    exact .inr (.inr ⟨rfl, rfl⟩)

theorem continueAnyway_ok (h : continueAnyway run = .ok next) :
    run.stage = .checkpointResult ∧ ∃ attempt done,
      latest ((run.attemptsOf .checkpoint (some run.currentPart)).filter
        (·.submittedAt.isSome)) = some attempt ∧
      finishPart (run.saveAttempt { attempt with continuedAnyway := true }) = .ok done ∧
      next = { done with lastOutcome := .continuedAnyway } := by
  obtain ⟨⟨⟩, hallowed, h⟩ := bind_eq_ok.mp h
  simp only [refuse_cons_ok, refuse_nil, and_true, bne_eq_false_iff_eq] at hallowed
  split at h
  · cases h
  · next attempt hattempt =>
    obtain ⟨_, _, h⟩ := bind_eq_ok.mp h
    obtain ⟨done, hdone, h⟩ := bind_eq_ok.mp h
    cases h
    exact ⟨hallowed, attempt, done, hattempt, hdone, rfl⟩

theorem studyAgain_ok (h : studyAgain run = .ok next) :
    run.stage = .checkpointResult ∧
      next = { run with stage := .reading, lastOutcome := .studyAgain } := by
  obtain ⟨⟨⟩, hallowed, h⟩ := bind_eq_ok.mp h
  simp only [refuse_cons_ok, refuse_nil, and_true, bne_eq_false_iff_eq] at hallowed
  cases h
  exact ⟨hallowed, rfl⟩

theorem retryFinal_ok (h : retryFinal run = .ok next) :
    run.status = .active ∧ run.stage = .finalResult ∧
      next = { run with stage := .final, lastOutcome := .retryFinal } := by
  obtain ⟨⟨⟩, hallowed, h⟩ := bind_eq_ok.mp h
  simp only [refuse_cons_ok, refuse_nil, and_true, Bool.or_eq_false_iff,
    bne_eq_false_iff_eq] at hallowed
  cases h
  exact ⟨hallowed.1, hallowed.2, rfl⟩

theorem discardOpenAttempt_ok (h : discardOpenAttempt run = .ok next) :
    run.status = .active ∧ ∃ kind part, next = withoutOpen run kind part := by
  obtain ⟨⟨⟩, hallowed, h⟩ := bind_eq_ok.mp h
  simp only [refuse_cons_ok, refuse_nil, and_true, Bool.or_eq_false_iff,
    bne_eq_false_iff_eq] at hallowed
  cases h
  exact ⟨hallowed.1, _, _, rfl⟩

theorem abandon_ok (h : abandon run = .ok next) :
    run.status = .active ∧ next = { run with status := .abandoned, lastOutcome := .abandoned } := by
  obtain ⟨⟨⟩, hallowed, h⟩ := bind_eq_ok.mp h
  simp only [refuse_cons_ok, refuse_nil, and_true, bne_eq_false_iff_eq] at hallowed
  cases h
  exact ⟨hallowed, rfl⟩

theorem savePomodoroClock_ok {clock : PomodoroClock} (h : savePomodoroClock run clock = .ok next) :
    run.status = .active ∧ ∃ saved, next = { run with pomodoroClock := saved } := by
  obtain ⟨⟨⟩, hallowed, h⟩ := bind_eq_ok.mp h
  simp only [refuse_cons_ok, refuse_nil, and_true, Bool.or_eq_false_iff,
    bne_eq_false_iff_eq] at hallowed
  obtain ⟨saved, _, h⟩ := bind_eq_ok.mp h
  split at h
  · cases h
    exact ⟨hallowed.2, _, rfl⟩
  · cases h
    exact ⟨hallowed.2, _, rfl⟩

theorem resumeRun_ok {content : ActiveStudyQuestionContent} {plan : RuntimePlan} {total : Int}
    (h : resumeRun run content plan total = .ok next) :
    next = run ∨ run.scope.studyMode = .standard ∧
      ∃ range, plan.pageRanges[run.currentPart - 1]? = some range ∧
        next = { run with
          signature := { run.signature with pageRanges := plan.pageRanges }
          pageCount := total
          unlockedPages := range.endPage } := by
  obtain ⟨_, _, h⟩ := bind_eq_ok.mp h
  split at h
  · obtain ⟨_, _, h⟩ := bind_eq_ok.mp h
    cases h
    exact .inl rfl
  · obtain ⟨_, _, h⟩ := bind_eq_ok.mp h
    obtain ⟨_, _, h⟩ := bind_eq_ok.mp h
    obtain ⟨_, _, h⟩ := bind_eq_ok.mp h
    cases h
    exact .inl rfl
  · next hmode =>
    obtain ⟨_, _, h⟩ := bind_eq_ok.mp h
    obtain ⟨range, hrange, h⟩ := bind_eq_ok.mp h
    cases h
    unfold rangeAt at hrange
    split at hrange
    · next found hfound =>
      cases hrange
      exact .inr ⟨hmode, range, hfound, rfl⟩
    · cases hrange

end LockIn.Study
