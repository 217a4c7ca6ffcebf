import LockIn.Library.Outcome
import LockIn.Library.Table

/-!
# Assessment attempts

A reader starts an attempt at a quiz, saves answers and the position in it, and submits it.
The questions are copied into the attempt when it starts.  An attempt with a deadline is
closed by the first call that finds the deadline passed.  Every call is one transaction, so
that a call that raises leaves everything as it was.

The rows are those of one reader, and the published versions of the quizzes are fixed.
-/

namespace LockIn.Assessment

inductive Mode where
  | quiz
  | practice
  | mastery
deriving DecidableEq

inductive SelectionMode where
  | fixed
  | pool
deriving DecidableEq

inductive Difficulty where
  | easy
  | medium
  | hard
deriving DecidableEq

structure QuestionOption where
  id : Nat
  isCorrect : Bool
deriving DecidableEq

structure QuestionVersion where
  id : Nat
  isMultipleSelect : Bool
  options : List QuestionOption
deriving DecidableEq

structure QuizVersion where
  mode : Mode
  selectionMode : SelectionMode
  questionLinks : List QuestionVersion
  questionCount : Nat
  durationSeconds : Option Nat
  maximumAttempts : Nat
  availableFrom : Option Nat
  availableUntil : Option Nat
  randomizeQuestions : Bool
  randomizeOptions : Bool
  passPercent : Nat
  rankingEligible : Bool
  achievementEligible : Bool
  allowedDifficulties : List Difficulty
deriving DecidableEq

inductive Status where
  | active
  | submitted
  | expired
deriving DecidableEq

structure AttemptAnswer where
  selectedOptionIds : List Nat
  clientRevision : Nat
  serverRevision : Nat
deriving DecidableEq

/-- A question as it was copied, with its answer.  Points are in hundredths. -/
structure AttemptQuestion where
  position : Nat
  isMultipleSelect : Bool
  optionSnapshot : List Nat
  correctOptionIds : List Nat
  maxPoints : Nat
  answer : Option AttemptAnswer
deriving DecidableEq

structure Attempt where
  id : Nat
  quiz : Nat
  version : QuizVersion
  status : Status
  startKey : Nat
  reviewOnly : Bool
  serverRevision : Nat
  resumePosition : Nat
  resumeClientRevision : Nat
  startedAt : Nat
  deadlineAt : Option Nat
  completedAt : Option Nat
  questions : List AttemptQuestion
deriving DecidableEq

/-- What an attempt was worth, in hundredths of points and of percents. -/
structure Grade where
  scorePoints : Nat
  maximumPoints : Nat
  percentage : Nat
  passed : Bool
  answeredCount : Nat
  unansweredCount : Nat

structure AttemptResult where
  id : Nat
  attempt : Nat
  grade : Grade
  rankingEligible : Bool
  achievementEligible : Bool
  submittedAt : Nat

structure SubmissionReceipt where
  key : Nat
  attempt : Nat
  result : AttemptResult

/-- The rows of one reader, and the next free ids. -/
structure Books where
  attempts : List Attempt
  results : List AttemptResult
  receipts : List SubmissionReceipt
  nextAttempt : Nat
  nextResult : Nat

inductive AttemptError where
  | rule (message : String)
  | closed (message : String)
  | conflict (message : String)
deriving DecidableEq

abbrev Answered (α : Type) : Type := Except AttemptError α

def Books.findAttempt (books : Books) (id : Nat) : Answered Attempt :=
  match Table.find Attempt.id books.attempts id with
  | none => .error (.rule "Attempt not found.")
  | some attempt => .ok attempt

def Books.putAttempt (books : Books) (attempt : Attempt) : Books :=
  { books with attempts := Table.put Attempt.id books.attempts attempt }

def Attempt.pastDeadline (attempt : Attempt) (now : Nat) : Bool :=
  attempt.deadlineAt.any fun deadline => deadline ≤ now

def AttemptQuestion.selected (question : AttemptQuestion) : List Nat :=
  (question.answer.map (·.selectedOptionIds)).getD []

/-- `set(selected_ids) == set(question.correct_option_ids)`. -/
def AttemptQuestion.isCorrect (question : AttemptQuestion) : Bool :=
  question.selected.all (· ∈ question.correctOptionIds) &&
    question.correctOptionIds.all (· ∈ question.selected)

def percentageOf (score maximum : Nat) : Nat :=
  if maximum = 0 then 0 else (2 * score * 10000 + maximum) / (2 * maximum)

def gradeOf (version : QuizVersion) (questions : List AttemptQuestion) : Grade :=
  let score := ((questions.filter (·.isCorrect)).map (·.maxPoints)).sum
  let maximum := (questions.map (·.maxPoints)).sum
  let answered := (questions.filter (·.selected ≠ [])).length
  { scorePoints := score
    maximumPoints := maximum
    percentage := percentageOf score maximum
    passed := version.passPercent ≤ percentageOf score maximum
    answeredCount := answered
    unansweredCount := questions.length - answered }

def closedAttempt (attempt : Attempt) (submittedAt : Nat) (expired : Bool) : Attempt :=
  { attempt with
    status := if expired then .expired else .submitted
    completedAt := some submittedAt
    serverRevision := attempt.serverRevision + 1 }

def newResult (id : Nat) (attempt : Attempt) (submittedAt : Nat) : AttemptResult :=
  { id := id
    attempt := attempt.id
    grade := gradeOf attempt.version attempt.questions
    rankingEligible := attempt.version.rankingEligible
    achievementEligible := attempt.version.achievementEligible
    submittedAt := submittedAt }

def Books.findResult (books : Books) (attempt : Nat) : Option AttemptResult :=
  Table.find AttemptResult.attempt books.results attempt

def finalizeAttempt (books : Books) (attempt : Attempt) (submittedAt : Nat) (expired : Bool) :
    Books × AttemptResult :=
  match books.findResult attempt.id with
  | some existing => (books, existing)
  | none =>
    let result := newResult books.nextResult attempt submittedAt
    ({ books.putAttempt (closedAttempt attempt submittedAt expired) with
       results := books.results ++ [result]
       nextResult := books.nextResult + 1 }, result)

/-- What chance and the other tables put into one start. -/
structure Draw where
  /-- The published questions of the scope, by difficulty. -/
  pool : List Difficulty → List QuestionVersion
  /-- The questions due for review in the scope, the most missed first. -/
  reviews : List Difficulty → List QuestionVersion
  sample : List QuestionVersion → Nat → List QuestionVersion
  shuffle : List QuestionVersion → List QuestionVersion
  shuffleOptions : Nat → List QuestionOption → List QuestionOption

structure StartRequest where
  quiz : Nat
  key : Nat
  requestedCount : Option Nat
  difficulties : List Difficulty
  reviewOnly : Bool
  draw : Draw

def validateAvailability (version : QuizVersion) (now : Nat) : Answered Unit :=
  if version.availableFrom.any fun opens => now < opens then
    .error (.rule "This assessment is not open yet.")
  else if version.availableUntil.any fun closes => closes ≤ now then
    .error (.rule "This assessment is closed.")
  else .ok ()

def selectedVersions (version : QuizVersion) (request : StartRequest) (count : Nat)
    (difficulties : List Difficulty) : Answered (List QuestionVersion) :=
  if version.selectionMode = .fixed then .ok version.questionLinks
  else if request.reviewOnly then
    let selected := (request.draw.reviews difficulties).take count
    if selected = [] then .error (.rule "There are no due review questions in this scope.")
    else .ok selected
  else if (request.draw.pool difficulties).length < count then
    .error (.rule "The published question pool is smaller than this attempt.")
  else .ok (request.draw.sample (request.draw.pool difficulties) count)

def orderedVersions (version : QuizVersion) (request : StartRequest)
    (selected : List QuestionVersion) : List QuestionVersion :=
  if version.randomizeQuestions && !request.reviewOnly then request.draw.shuffle selected
  else selected

def requestedFilters (version : QuizVersion) (request : StartRequest) :
    Answered (Nat × List Difficulty) :=
  let count := if request.requestedCount.getD 0 = 0 then version.questionCount
    else request.requestedCount.getD 0
  let allowed := if version.allowedDifficulties = [] then [.easy, .medium, .hard]
    else version.allowedDifficulties
  if version.mode ≠ .practice then
    if request.requestedCount.isSome || request.difficulties ≠ [] || request.reviewOnly then
      .error (.rule "Only practice mode supports attempt-level question filters.")
    else .ok (version.questionCount, allowed)
  else if ¬ (1 ≤ count ∧ count ≤ version.questionCount) then
    .error (.rule "Practice size exceeds the configured question count.")
  else if request.difficulties.any (· ∉ allowed) then
    .error (.rule "The requested difficulty is outside this practice set.")
  else if request.reviewOnly && version.selectionMode ≠ .pool then
    .error (.rule "Review practice requires a question-pool assessment.")
  else .ok (count, if request.difficulties = [] then allowed else request.difficulties)

def snapshotQuestion (version : QuizVersion) (draw : Draw) (question : QuestionVersion)
    (position : Nat) : AttemptQuestion :=
  let options := if version.randomizeOptions then draw.shuffleOptions position question.options
    else question.options
  { position := position
    isMultipleSelect := question.isMultipleSelect
    optionSnapshot := options.map (·.id)
    correctOptionIds := (options.filter (·.isCorrect)).map (·.id)
    maxPoints := 100
    answer := none }

def snapshotQuestions (version : QuizVersion) (draw : Draw) (versions : List QuestionVersion) :
    List AttemptQuestion :=
  versions.zipIdx.map fun entry => snapshotQuestion version draw entry.1 (entry.2 + 1)

def deadlineOf (version : QuizVersion) (startedAt : Nat) : Option Nat :=
  match version.durationSeconds with
  | none => none
  | some seconds => if seconds = 0 then none else some (startedAt + seconds)

def newAttempt (books : Books) (version : QuizVersion) (request : StartRequest)
    (versions : List QuestionVersion) (startedAt : Nat) : Attempt :=
  { id := books.nextAttempt
    quiz := request.quiz
    version := version
    status := .active
    startKey := request.key
    reviewOnly := request.reviewOnly
    serverRevision := 1
    resumePosition := 1
    resumeClientRevision := 0
    startedAt := startedAt
    deadlineAt := deadlineOf version startedAt
    completedAt := none
    questions := snapshotQuestions version request.draw versions }

def addAttempt (books : Books) (attempt : Attempt) : Books :=
  { books with attempts := books.attempts ++ [attempt], nextAttempt := books.nextAttempt + 1 }

def completedAttempts (books : Books) (quiz : Nat) : Nat :=
  (books.attempts.filter fun attempt => attempt.quiz = quiz && attempt.status ≠ .active).length

/-- The part of `start_attempt` that makes a new attempt, when none is open. -/
def createAttempt (books : Books) (version : QuizVersion) (request : StartRequest) (now : Nat) :
    Answered (Books × Nat) :=
  if version.maximumAttempts ≠ 0 ∧ version.maximumAttempts ≤ completedAttempts books request.quiz then
    .error (.rule "The retry limit for this assessment has been reached.")
  else do
    let filters ← requestedFilters version request
    let selected ← selectedVersions version request filters.1 filters.2
    let attempt := newAttempt books version request (orderedVersions version request selected) now
    .ok (addAttempt books attempt, attempt.id)

abbrev Quizzes : Type := Nat → Option QuizVersion

def Books.findByKey (books : Books) (key : Nat) : Option Attempt :=
  Table.find Attempt.startKey books.attempts key

def Books.findActive (books : Books) (quiz : Nat) : Option Attempt :=
  books.attempts.find? fun attempt => attempt.quiz = quiz && attempt.status = .active

/-- `start_attempt` with a key that has made an attempt. -/
def restart (books : Books) (existing : Attempt) (quiz now : Nat) : Answered (Books × Nat) :=
  if existing.quiz ≠ quiz then
    .error (.conflict "That idempotency key belongs to another attempt.")
  else if existing.status = .active && existing.pastDeadline now then
    .ok ((finalizeAttempt books existing now true).1, existing.id)
  else .ok (books, existing.id)

def startAttempt (quizzes : Quizzes) (books : Books) (request : StartRequest) (now : Nat) :
    Answered (Books × Nat) :=
  match books.findByKey request.key with
  | some existing => restart books existing request.quiz now
  | none =>
    match quizzes request.quiz with
    | none => .error (.rule "Quiz not found.")
    | some version => do
      validateAvailability version now
      match books.findActive request.quiz with
      | none => createAttempt books version request now
      | some active =>
        if active.pastDeadline now then
          createAttempt (finalizeAttempt books active now true).1 version request now
        else .ok (books, active.id)

def closedMessage : String := "This attempt is already closed."

def deadlineMessage : String := "The server deadline has passed; the attempt was submitted."

/-- The checks both saves begin with.  The attempt is closed before the second one raises,
and the transaction undoes it. -/
def checkOpen (attempt : Attempt) (now : Nat) : Answered Unit :=
  if attempt.status ≠ .active then .error (.closed closedMessage)
  else if attempt.pastDeadline now then .error (.closed deadlineMessage)
  else .ok ()

structure AnswerRequest where
  attempt : Nat
  question : Nat
  selected : List Nat
  clientRevision : Nat

def findQuestion (attempt : Attempt) (position : Nat) : Answered AttemptQuestion :=
  match Table.find AttemptQuestion.position attempt.questions position with
  | none => .error (.rule "Attempt question not found.")
  | some question => .ok question

def checkSelection (question : AttemptQuestion) (selected : List Nat) : Answered Unit :=
  if ¬ selected.Nodup then .error (.rule "Selected options must be unique.")
  else if !question.isMultipleSelect && 1 < selected.length then
    .error (.rule "This question accepts at most one selected option.")
  else if selected.any (· ∉ question.optionSnapshot) then
    .error (.rule "The selected option does not belong to this question.")
  else .ok ()

/-- What a save finds: nothing to do, a newer answer, or something to write. -/
inductive SaveCase where
  | same
  | stale
  | write

def saveCase (answer : Option AttemptAnswer) (selected : List Nat) (clientRevision : Nat) : SaveCase :=
  match answer with
  | none => .write
  | some stored =>
    if stored.clientRevision < clientRevision then .write
    else if clientRevision = stored.clientRevision ∧ stored.selectedOptionIds = selected then .same
    else .stale

def answeredAttempt (attempt : Attempt) (question : AttemptQuestion) (request : AnswerRequest) :
    Attempt :=
  { attempt with
    serverRevision := attempt.serverRevision + 1
    questions := Table.put AttemptQuestion.position attempt.questions
      { question with
        answer := some ⟨request.selected, request.clientRevision, attempt.serverRevision + 1⟩ } }

def saveAnswer (books : Books) (request : AnswerRequest) (now : Nat) : Answered Books := do
  let attempt ← books.findAttempt request.attempt
  checkOpen attempt now
  let question ← findQuestion attempt request.question
  checkSelection question request.selected
  match saveCase question.answer request.selected request.clientRevision with
  | .same => .ok books
  | .stale => .error (.conflict "A newer answer is already stored on the server.")
  | .write => .ok (books.putAttempt (answeredAttempt attempt question request))

def resumedAttempt (attempt : Attempt) (position clientRevision : Nat) : Attempt :=
  { attempt with
    resumePosition := position
    resumeClientRevision := clientRevision
    serverRevision := attempt.serverRevision + 1 }

def saveAttemptResume (books : Books) (id position clientRevision now : Nat) : Answered Books := do
  let attempt ← books.findAttempt id
  checkOpen attempt now
  if ¬ (1 ≤ position ∧ position ≤ attempt.questions.length) then
    .error (.rule "Attempt question position not found.")
  else if attempt.resumeClientRevision < clientRevision then
    .ok (books.putAttempt (resumedAttempt attempt position clientRevision))
  else if clientRevision = attempt.resumeClientRevision ∧ position = attempt.resumePosition then
    .ok books
  else .error (.conflict "A newer quiz position is already stored on the server.")

def addReceipt (books : Books) (key attempt : Nat) (result : AttemptResult) : Books :=
  { books with receipts := books.receipts ++ [⟨key, attempt, result⟩] }

def submitOpen (books : Books) (attempt : Attempt) (now : Nat) : Books × AttemptResult :=
  match books.findResult attempt.id with
  | some result => (books, result)
  | none => finalizeAttempt books attempt now (attempt.pastDeadline now)

def submitAttempt (books : Books) (id key now : Nat) : Answered (Books × AttemptResult) :=
  match Table.find SubmissionReceipt.key books.receipts key with
  | some receipt =>
    if receipt.attempt ≠ id then
      .error (.conflict "That idempotency key belongs to another submission.")
    else .ok (books, receipt.result)
  | none => do
    let attempt ← books.findAttempt id
    let submitted := submitOpen books attempt now
    .ok (addReceipt submitted.1 key id submitted.2, submitted.2)

def refreshAttemptState (books : Books) (id now : Nat) : Answered Books := do
  let attempt ← books.findAttempt id
  if attempt.status = .active && attempt.pastDeadline now then
    .ok (finalizeAttempt books attempt now true).1
  else .ok books

end LockIn.Assessment
