import LockIn.Study.Bank
import LockIn.Library.Table

/-!
# Active Study runs

A run takes a student through the parts of a sheet, each read and then tested, to a final
exam.  Its tests are attempts, whose answers are graded when the attempt is submitted.
The functions here act on one run; the store they belong to comes with the services.
-/

namespace LockIn.Study

open Outcome

inductive RunStatus where
  | active
  | completed
  | abandoned
deriving DecidableEq

inductive Stage where
  | reading
  | checkpoint
  | checkpointResult
  | final
  | finalResult
deriving DecidableEq

inductive LastOutcome where
  | none
  | passed
  | failed
  | continuedAnyway
  | studyAgain
  | retryFinal
  | abandoned
deriving DecidableEq

structure Answer where
  position : Nat
  selectedAnswer : String
  wasCorrect : Bool
deriving DecidableEq

structure Attempt where
  id : Nat
  kind : AttemptKind
  part : Option Nat
  number : Nat
  total : Nat
  answers : List Answer
  score : Option Nat
  passed : Option Bool
  continuedAnyway : Bool
  submittedAt : Option Nat
deriving DecidableEq

/-- What a run keeps of the plan it was started under. -/
structure PlanSignature where
  pageRanges : List PageRange
  contentRevision : Option Nat
  questionsPerCheckpoint : Option Int
  pagesPerCheckpoint : Option Int
  sourcePageOffset : Option Int
deriving DecidableEq

structure RunScope where
  user : Nat
  sheet : Nat
  difficulty : Difficulty
  edition : Edition
  studyMode : StudyMode
deriving DecidableEq

inductive ClockPhase where
  | focus
  | break
  | waiting
  | ready
  | quiz
deriving DecidableEq

inductive ClockPreset where
  | classic
  | extended
  | deep
deriving DecidableEq

structure PomodoroClock where
  version : Int
  part : Int
  phase : ClockPhase
  deadline : Option Int
  remainingMs : Int
  endPage : Option Int
  updatedAt : Int
  preset : ClockPreset
  long : Bool
  longAt : Int
  away : Bool
deriving DecidableEq

structure Run where
  id : Nat
  scope : RunScope
  pageCount : Int
  unlockedPages : Int
  status : RunStatus
  stage : Stage
  currentPart : Nat
  completedParts : List Nat
  lastScore : Option Nat
  lastOutcome : LastOutcome
  checkpointAttempts : Nat
  finalAttempts : Nat
  xpAwarded : Nat
  signature : PlanSignature
  attempts : List Attempt
  pomodoroClock : Option PomodoroClock
deriving DecidableEq

/-- The question as the review bank keeps it, wherever it was asked. -/
inductive CanonicalKey where
  | bank (sheet : Nat) (difficulty : Difficulty) (revision : Option Nat) (source : Int × Nat)
  | place (sheet : Nat) (difficulty : Difficulty) (kind : AttemptKind) (part : Option Nat)
      (position : Nat)

/-- What an answer tells the review bank, once for each attempt and position. -/
structure QuestionAttemptEvent where
  user : Nat
  attempt : Nat
  position : Nat
  canonicalKey : CanonicalKey
  sheet : Nat
  prompt : String
  explanation : String
  options : List (String × String)
  selectedOption : String
  correctOption : String
  isCorrect : Bool
  answeredAt : Nat

namespace Run

def ranges (run : Run) : List PageRange := run.signature.pageRanges

def stageKind (run : Run) : AttemptKind × Option Nat :=
  if run.stage = .final then (.final, none) else (.checkpoint, some run.currentPart)

def attempt? (run : Run) (id : Nat) : Option Attempt :=
  Table.find Attempt.id run.attempts id

def attemptsOf (run : Run) (kind : AttemptKind) (part : Option Nat) : List Attempt :=
  run.attempts.filter fun attempt => attempt.kind = kind ∧ attempt.part = part

end Run

def latest : List Attempt → Option Attempt
  | [] => none
  | attempt :: rest =>
    match latest rest with
    | some other => if attempt.number < other.number then some other else some attempt
    | none => some attempt

/-- `run.plan_signature["page_ranges"][part - 1]`. -/
def rangeAt (ranges : List PageRange) (part : Nat) : Except StudyError PageRange :=
  match ranges[part - 1]? with
  | some range => .ok range
  | none => .error (.crash "IndexError")

/-- The pages that a checkpoint of a page bank asks about, and how far they are from the pages
of the bank. -/
def checkpointPages (run : Run) (content : ActiveStudyQuestionContent) (part : Nat) :
    Except StudyError (PageRange × Int) :=
  match run.scope.studyMode with
  | .standard => do
    let range ← rangeAt content.sourceRanges part
    return (range, 0)
  | .custom | .pomodoro => do
    let range ← rangeAt run.ranges part
    match run.signature.sourcePageOffset with
    | some offset => .ok (range, offset)
    | none => .error (.crash "KeyError")

def questionsFor (sheet : Sheet) (run : Run) (kind : AttemptKind) (part : Option Nat) :
    Except StudyError (List Question) := do
  let (content, plan) ← contentFor sheet run.scope.difficulty run.scope.edition
  refuse [(content.pages?.isSome && run.signature.contentRevision != some content.revision,
    .rule "Questions changed. Restart this session before testing.")]
  match kind, content.bank with
  | .final, _ => .ok content.finalExam
  | .checkpoint, .pages rows =>
    match part.filter fun part => 1 ≤ part ∧ part ≤ run.ranges.length with
    | none => .error (.rule "Checkpoint page group is invalid.")
    | some part => do
      let (range, offset) ← checkpointPages run content part
      let count := range.questionCount.getD
        (run.signature.questionsPerCheckpoint.getD plan.questionsPerCheckpoint)
      (selectPageQuestions rows (range.startPage + offset) (range.endPage + offset) count).mapError
        .rule
  | .checkpoint, .parts rows =>
    match rows.find? fun row => some row.part == part with
    | some row => .ok row.questions
    | none => .error (.crash "StopIteration")

def activeAttempt (run : Run) (kind : AttemptKind) (part : Option Nat) (total fresh : Nat) :
    Run × Attempt :=
  match (run.attemptsOf kind part).find? (·.submittedAt.isNone) with
  | some attempt => (run, attempt)
  | none =>
    let attempt : Attempt :=
      { id := fresh
        kind := kind
        part := part
        number := (run.attemptsOf kind part).length + 1
        total := total
        answers := []
        score := none
        passed := none
        continuedAnyway := false
        submittedAt := none }
    ({ run with attempts := run.attempts ++ [attempt] }, attempt)

def withoutOpen (run : Run) (kind : AttemptKind) (part : Option Nat) : Run :=
  { run with attempts := run.attempts.filter fun attempt =>
      ¬(attempt.kind = kind ∧ attempt.part = part ∧ attempt.submittedAt.isNone) }

def completePomodoroReading (sheet : Sheet) (run : Run) (part endPage questionCount : Option Int) :
    Except StudyError Run := do
  refuse [(run.status != .active || (run.stage != .reading && run.stage != .checkpoint) ||
    part != some (run.currentPart : Int), .rule "This Pomodoro cycle is no longer current.")]
  match endPage, questionCount with
  | some endPage, some questionCount => do
    let (content, _) ← contentFor sheet run.scope.difficulty run.scope.edition
    refuse [(run.signature.contentRevision != some content.revision,
      .rule "Questions changed. Restart this session before testing.")]
    let ranges ← (closeRange run.ranges run.currentPart endPage questionCount).mapError .rule
    return { run with
      signature := { run.signature with pageRanges := ranges }
      unlockedPages := endPage
      stage := .checkpoint }
  | _, _ => .error (.rule "Choose the Pomodoro page and question count.")

def completePartReading (sheet : Sheet) (run : Run) (part endPage questionCount : Option Int) :
    Except StudyError Run :=
  if run.scope.studyMode = .pomodoro then
    completePomodoroReading sheet run part endPage questionCount
  else do
    refuse [
      (part.isSome || endPage.isSome || questionCount.isSome,
        .rule "Page choices are available only in Pomodoro style."),
      (run.status != .active || run.stage != .reading,
        .rule "This part is not ready for its checkpoint.")]
    return { run with stage := .checkpoint }

def canonicalKey (run : Run) (attempt : Attempt) (position : Nat) (question : Question) :
    CanonicalKey :=
  match question.sourceKey with
  | some source =>
    .bank run.scope.sheet run.scope.difficulty run.signature.contentRevision source
  | none => .place run.scope.sheet run.scope.difficulty attempt.kind attempt.part position

def questionEvent (sheet : Sheet) (run : Run) (attempt : Attempt) (question : Question)
    (answer : Answer) (now : Nat) : Except StudyError QuestionAttemptEvent := do
  refuse [(!sheet.published, .rule "The sheet is no longer available.")]
  return { user := run.scope.user
           attempt := attempt.id
           position := answer.position
           canonicalKey := canonicalKey run attempt answer.position question
           sheet := run.scope.sheet
           prompt := question.prompt
           explanation := question.explanation
           options := displayOptions question
           selectedOption := answer.selectedAnswer
           correctOption := correctAnswer question
           isCorrect := answer.wasCorrect
           answeredAt := now }

def checkedQuestion (source : List Question) (position : Int) (selected : String) :
    Except StudyError (Nat × Question) :=
  match if position < 1 then none else source[position.toNat - 1]? with
  | none => .error (.rule "Question position is invalid.")
  | some question =>
    if selected ∈ (displayOptions question).map Prod.fst then .ok (position.toNat, question)
    else .error (.rule "Choose an answer for this question.")

def holdAnswer (source : List Question) (held : List Answer) (item : Int × String) :
    Except StudyError (List Answer) := do
  let (position, question) ← checkedQuestion source item.1 item.2
  match Table.find Answer.position held position with
  | some existing =>
    if existing.selectedAnswer ≠ item.2 then .error (.rule "This answer was already submitted.")
    else .ok held
  | none => .ok (held ++ [⟨position, item.2, item.2 == correctAnswer question⟩])

def answerEvents (sheet : Sheet) (run : Run) (attempt : Attempt) (source : List Question)
    (now : Nat) : List Answer → Except StudyError (List QuestionAttemptEvent)
  | [] => .ok []
  | answer :: rest => do
    let (_, question) ← checkedQuestion source answer.position answer.selectedAnswer
    let event ← questionEvent sheet run attempt question answer now
    let events ← answerEvents sheet run attempt source now rest
    return event :: events

/-- `_record_submitted_answers`: the attempt with the answers it lacked, and their events. -/
def recordSubmittedAnswers (sheet : Sheet) (run : Run) (attempt : Attempt)
    (source : List Question) (answers : List (Int × String)) (now : Nat) :
    Except StudyError (Attempt × List QuestionAttemptEvent) := do
  let held ← answers.foldlM (holdAnswer source) attempt.answers
  let created := held.drop attempt.answers.length
  let events ← answerEvents sheet run attempt source now created
  return ({ attempt with answers := held }, events)

/-- What a student is told about an answer. -/
structure Checked where
  position : Nat
  correct : Bool
  correctAnswer : String
  explanation : String

def recordAnswer (sheet : Sheet) (run : Run) (attempt : Attempt) (source : List Question)
    (position : Int) (selected : String) (now : Nat) :
    Except StudyError (Attempt × List QuestionAttemptEvent × Checked) := do
  let (place, question) ← checkedQuestion source position selected
  let told (correct : Bool) : Checked :=
    ⟨place, correct, correctAnswer question, question.explanation⟩
  match Table.find Answer.position attempt.answers place with
  | some existing =>
    if existing.selectedAnswer ≠ selected then .error (.rule "This answer was already submitted.")
    else .ok (attempt, [], told existing.wasCorrect)
  | none => do
    let answer : Answer := ⟨place, selected, selected == correctAnswer question⟩
    let event ← questionEvent sheet run attempt question answer now
    return ({ attempt with answers := attempt.answers ++ [answer] }, [event], told answer.wasCorrect)

def Run.saveAttempt (run : Run) (attempt : Attempt) : Run :=
  { run with attempts := Table.put Attempt.id run.attempts attempt }

def answer (sheet : Sheet) (run : Run) (attemptId : Nat) (position : Int) (selected : String)
    (now : Nat) : Except StudyError (Run × List QuestionAttemptEvent × Checked) :=
  match (run.attempt? attemptId).filter (·.submittedAt.isNone) with
  | none => .error (.rule "This question attempt is no longer active.")
  | some attempt => do
    refuse [(attempt.kind != run.stageKind.1 || attempt.part != run.stageKind.2,
      .rule "This question does not belong to the current Active Study stage.")]
    let source ← questionsFor sheet run attempt.kind attempt.part
    let (attempt, events, checked) ← recordAnswer sheet run attempt source position selected now
    return (run.saveAttempt attempt, events, checked)

def passMark (kind : AttemptKind) (total : Nat) : Nat :=
  match kind with
  | .final => (total * 7 + 9) / 10
  | .checkpoint => (total * 2 + 2) / 3

def Attempt.graded (attempt : Attempt) (now : Nat) : Attempt :=
  let score := (attempt.answers.filter (·.wasCorrect)).length
  { attempt with
    score := some score
    passed := some (passMark attempt.kind attempt.total ≤ score)
    submittedAt := some now }

def finishPart (run : Run) : Except StudyError Run :=
  let done := { run with completedParts := run.completedParts ++ [run.currentPart] }
  if run.currentPart = run.ranges.length then .ok { done with stage := .final }
  else do
    let next ← rangeAt run.ranges (run.currentPart + 1)
    return { done with
      currentPart := run.currentPart + 1
      unlockedPages := next.endPage
      stage := .reading }

def afterGrading (run : Run) (attempt : Attempt) : Except StudyError Run :=
  let passed := attempt.passed = some true
  let scored := { run with
    lastScore := attempt.score
    lastOutcome := if passed then .passed else .failed }
  match attempt.kind with
  | .checkpoint =>
    let counted := { scored with checkpointAttempts := run.checkpointAttempts + 1 }
    if passed then finishPart counted else .ok { counted with stage := .checkpointResult }
  | .final =>
    .ok { scored with
      finalAttempts := run.finalAttempts + 1
      stage := .finalResult
      status := if passed then .completed else run.status }

def Attempt.expectedStage (attempt : Attempt) : Stage :=
  match attempt.kind with
  | .final => .final
  | .checkpoint => .checkpoint

/-- `submit` on an attempt that is still open: the graded run, the attempt and its events. -/
def gradeAttempt (sheet : Sheet) (run : Run) (attempt : Attempt) (answers : List (Int × String))
    (now : Nat) : Except StudyError (Run × Attempt × List QuestionAttemptEvent) := do
  refuse [(run.stage != attempt.expectedStage ||
      (attempt.kind == .checkpoint && attempt.part != some run.currentPart),
    .rule "This attempt cannot be submitted now.")]
  let source ← questionsFor sheet run attempt.kind attempt.part
  let (attempt, events) ← recordSubmittedAnswers sheet run attempt source answers now
  refuse [(attempt.answers.length != attempt.total,
    .rule "Answer every question before submitting.")]
  let attempt := attempt.graded now
  let run ← afterGrading (run.saveAttempt attempt) attempt
  return (run, attempt, events)

def continueAnyway (run : Run) : Except StudyError Run := do
  refuse [(run.stage != .checkpointResult, .rule "This checkpoint cannot be continued.")]
  match latest ((run.attemptsOf .checkpoint (some run.currentPart)).filter
      (·.submittedAt.isSome)) with
  | none => .error (.rule "This checkpoint does not need a continuation choice.")
  | some attempt => do
    refuse [(attempt.passed == some true,
      .rule "This checkpoint does not need a continuation choice.")]
    let run ← finishPart (run.saveAttempt { attempt with continuedAnyway := true })
    return { run with lastOutcome := .continuedAnyway }

def studyAgain (run : Run) : Except StudyError Run := do
  refuse [(run.stage != .checkpointResult,
    .rule "This checkpoint cannot be studied again now.")]
  return { run with stage := .reading, lastOutcome := .studyAgain }

def retryFinal (run : Run) : Except StudyError Run := do
  refuse [(run.status != .active || run.stage != .finalResult,
    .rule "The final exam cannot be retried now.")]
  return { run with stage := .final, lastOutcome := .retryFinal }

def discardOpenAttempt (run : Run) : Except StudyError Run := do
  refuse [(run.status != .active || (run.stage != .checkpoint && run.stage != .final),
    .rule "There is no open question attempt to discard.")]
  return withoutOpen run run.stageKind.1 run.stageKind.2

def abandon (run : Run) : Except StudyError Run := do
  refuse [(run.status != .active, .rule "Only an active Active Study run can be abandoned.")]
  return { run with status := .abandoned, lastOutcome := .abandoned }

def within (value low high : Int) : Bool := low ≤ value ∧ value ≤ high

/-- The longest focus time or break of a preset, in milliseconds. -/
def longestMs : Int := 50 * 60 * 1000

def validateClock (clock : PomodoroClock) : Except String PomodoroClock :=
  if clock.version = 1 ∧ within clock.part 1 10000 ∧ clock.deadline.all (within · 0 (2 ^ 53)) ∧
      within clock.remainingMs 0 longestMs ∧ clock.endPage.all (within · 1 10000) ∧
      within clock.longAt 0 10000 ∧ within clock.updatedAt 0 (2 ^ 53) then
    .ok clock
  else .error "The Pomodoro timer could not be saved."

def savePomodoroClock (run : Run) (clock : PomodoroClock) : Except StudyError Run := do
  refuse [(run.scope.studyMode != .pomodoro || run.status != .active,
    .rule "This is not an active Pomodoro session.")]
  let saved ← (validateClock clock).mapError .rule
  if (run.pomodoroClock.map (·.updatedAt)).getD 0 ≤ saved.updatedAt then
    return { run with pomodoroClock := some saved }
  else return run

end LockIn.Study
