import LockIn.Library.Machine
import LockIn.Library.Table

/-!
# The review bank

A question that a reader got wrong becomes a review item.  Answered right it is hidden and
comes back later, in the weekly recall; answered wrong it is active again.  Two calls write the
same counters: one records the attempts made elsewhere, the other the answers given here.  Each
is one transaction, so that a call that raises changes nothing.

The rows are those of one reader.  Instants are microseconds.
-/

namespace LockIn.Review

inductive State where
  | active
  | hidden
  | mastered
deriving DecidableEq

inductive Context where
  | reviewBank
  | weeklyRecall
deriving DecidableEq

structure ReviewItem where
  id : Nat
  canonicalKey : String
  optionsSnapshot : List String
  correctOptionIdsSnapshot : List String
  state : State
  masteryLevel : Nat
  mistakeCount : Nat
  reviewCorrectCount : Nat
  reviewIncorrectCount : Nat
  relearningCount : Nat
  firstMistakeAt : Nat
  lastMistakeAt : Nat
  lastReviewedAt : Option Nat
  nextReviewAt : Nat
deriving DecidableEq

structure MistakeEvent where
  reviewItem : Nat
  eventKey : String
  selectedOptionIds : List String
  answeredAt : Nat

structure ReviewAnswerLog where
  reviewItem : Nat
  weeklyQuestion : Option Nat
  idempotencyKey : Nat
  context : Context
  selectedOptionIds : List String
  wasCorrect : Bool
  answeredAt : Nat

inductive SessionStatus where
  | active
  | completed
deriving DecidableEq

structure WeeklyRecallSession where
  id : Nat
  weekKey : Nat
  status : SessionStatus
  totalQuestions : Nat
  correctAnswers : Nat
  startedAt : Nat
  completedAt : Option Nat

structure WeeklyRecallQuestion where
  id : Nat
  session : Nat
  reviewItem : Nat
  position : Nat
  selectedOptionIds : List String
  wasCorrect : Option Bool
  answeredAt : Option Nat

/-- The rows of one reader, and the next free ids. -/
structure Bank where
  items : List ReviewItem
  mistakes : List MistakeEvent
  answers : List ReviewAnswerLog
  sessions : List WeeklyRecallSession
  questions : List WeeklyRecallQuestion
  nextItem : Nat
  nextSession : Nat
  nextQuestion : Nat

inductive ReviewError where
  | rule (message : String)
  | conflict (message : String)
  /-- A unique key is there twice. -/
  | integrity

def day : Nat := 24 * 60 * 60 * 1000000

/-- `MASTERY_INTERVAL_DAYS` of a level. -/
def masteryIntervalDays : Nat → Nat
  | 0 => 0
  | 1 => 7
  | 2 => 14
  | 3 => 30
  | _ => 90

def nextReviewAt (reviewedAt masteryLevel : Nat) : Nat :=
  reviewedAt + masteryIntervalDays masteryLevel * day

def isoWeekKey (instant : Nat) : Nat := (instant / day + 3) / 7

structure QuestionAttemptEvent where
  eventKey : String
  canonicalKey : String
  subjectKey : String
  sourceType : String
  prompt : String
  optionIds : List String
  selectedOptionIds : List String
  correctOptionIds : List String
  isCorrect : Bool
  answeredAt : Nat

def sourceTypes : List String :=
  ["sheet", "quiz", "practice", "mix", "ai", "active_study", "review", "weekly_recall", "other"]

section
variable (isSpace : Char → Bool)

/-- `_validate_attempt`: the message of the first check that fails. -/
def validateAttempt (event : QuestionAttemptEvent) : Except ReviewError Unit :=
  Outcome.refuse [
    (event.sourceType ∉ sourceTypes, .rule "Unsupported question source type."),
    (event.canonicalKey = "" || event.subjectKey = "" || event.prompt.toList.all isSpace,
      .rule "Question identity, subject, and prompt are required."),
    (event.optionIds.length < 2 || !event.optionIds.Nodup || "" ∈ event.optionIds,
      .rule "Question options need unique identifiers."),
    (event.selectedOptionIds.any (· ∉ event.optionIds),
      .rule "The selected answer is not part of this question."),
    (event.correctOptionIds = [] || event.correctOptionIds.any (· ∉ event.optionIds),
      .rule "The correct answer is not part of this question.")]

end

def Bank.findItem (bank : Bank) (id : Nat) : Option ReviewItem :=
  Table.find ReviewItem.id bank.items id

def Bank.putItem (bank : Bank) (item : ReviewItem) : Bank :=
  { bank with items := Table.put ReviewItem.id bank.items item }

def ReviewItem.relearned (item : ReviewItem) : Nat :=
  if item.state = .hidden ∨ item.state = .mastered then item.relearningCount + 1
  else item.relearningCount

def newItem (id : Nat) (event : QuestionAttemptEvent) : ReviewItem :=
  { id := id
    canonicalKey := event.canonicalKey
    optionsSnapshot := event.optionIds
    correctOptionIdsSnapshot := event.correctOptionIds
    state := .active
    masteryLevel := 0
    mistakeCount := 1
    reviewCorrectCount := 0
    reviewIncorrectCount := 0
    relearningCount := 0
    firstMistakeAt := event.answeredAt
    lastMistakeAt := event.answeredAt
    lastReviewedAt := none
    nextReviewAt := event.answeredAt }

def mistakenItem (item : ReviewItem) (event : QuestionAttemptEvent) : ReviewItem :=
  { item with
    optionsSnapshot := event.optionIds
    correctOptionIdsSnapshot := event.correctOptionIds
    state := .active
    masteryLevel := 0
    mistakeCount := item.mistakeCount + 1
    relearningCount := item.relearned
    lastMistakeAt := event.answeredAt
    nextReviewAt := event.answeredAt }

def addMistake (bank : Bank) (item : Nat) (eventKey : String) (selected : List String)
    (answeredAt : Nat) : Bank :=
  { bank with mistakes := bank.mistakes ++ [⟨item, eventKey, selected, answeredAt⟩] }

/-- `_record_mistake_locked`. -/
def recordMistake (bank : Bank) (event : QuestionAttemptEvent) : Except ReviewError Bank :=
  match Table.find MistakeEvent.eventKey bank.mistakes event.eventKey with
  | some existing =>
    if (bank.findItem existing.reviewItem).any (·.canonicalKey ≠ event.canonicalKey) then
      .error (.conflict "That question event identifier is already in use.")
    else .ok bank
  | none =>
    match Table.find ReviewItem.canonicalKey bank.items event.canonicalKey with
    | none =>
      let added := { bank with
        items := bank.items ++ [newItem bank.nextItem event]
        nextItem := bank.nextItem + 1 }
      .ok (addMistake added bank.nextItem event.eventKey event.selectedOptionIds event.answeredAt)
    | some item =>
      .ok (addMistake (bank.putItem (mistakenItem item event)) item.id event.eventKey
        event.selectedOptionIds event.answeredAt)

def recordQuestionAttempt (isSpace : Char → Bool) (bank : Bank) (event : QuestionAttemptEvent) :
    Except ReviewError Bank := do
  validateAttempt isSpace event
  if event.isCorrect then .ok bank else recordMistake bank event

structure AnswerRequest where
  reviewItem : Nat
  selectedOptionIds : List String
  idempotencyKey : Nat
  context : Context
  weeklyQuestion : Option Nat
  now : Nat

def validateSelectedOptions (item : ReviewItem) (selected : List String) : Except ReviewError Unit :=
  if selected = [] ∨ 12 < selected.length ∨ ¬ selected.Nodup ∨
      selected.any (· ∉ item.optionsSnapshot) = true then
    .error (.rule "Choose one or more available answers.")
  else .ok ()

def weeklyQuestionFor (bank : Bank) (item : ReviewItem) (request : AnswerRequest) :
    Except ReviewError (Option WeeklyRecallQuestion) :=
  match request.context with
  | .reviewBank =>
    if item.state ≠ .active then
      .error (.conflict "This question is no longer in the active Review Bank.")
    else .ok none
  | .weeklyRecall =>
    match request.weeklyQuestion.bind (Table.find WeeklyRecallQuestion.id bank.questions) with
    | none => .error (.rule "Weekly Recall question not found.")
    | some question =>
      if question.reviewItem ≠ item.id ∨
          ((Table.find WeeklyRecallSession.id bank.sessions question.session).any
            (·.status = .active)) = false then
        .error (.rule "Weekly Recall question not found.")
      else if question.answeredAt.isSome then
        .error (.conflict "This Weekly Recall question is already answered.")
      else .ok (some question)

/-- `set(selected) == set(correct)`. -/
def isRight (item : ReviewItem) (selected : List String) : Bool :=
  selected.all (· ∈ item.correctOptionIdsSnapshot) &&
    item.correctOptionIdsSnapshot.all (· ∈ selected)

def rightItem (item : ReviewItem) (context : Context) (answeredAt : Nat) : ReviewItem :=
  let level := match context with
    | .reviewBank => max 1 item.masteryLevel
    | .weeklyRecall => min 4 (max 1 item.masteryLevel + 1)
  { item with
    lastReviewedAt := some answeredAt
    masteryLevel := level
    reviewCorrectCount := item.reviewCorrectCount + 1
    state := if 4 ≤ level then .mastered else .hidden
    nextReviewAt := nextReviewAt answeredAt level }

def wrongItem (item : ReviewItem) (answeredAt : Nat) : ReviewItem :=
  { item with
    lastReviewedAt := some answeredAt
    state := .active
    masteryLevel := 0
    mistakeCount := item.mistakeCount + 1
    reviewIncorrectCount := item.reviewIncorrectCount + 1
    relearningCount := item.relearned
    lastMistakeAt := answeredAt
    nextReviewAt := answeredAt }

def reviewAnswerKey (idempotencyKey : Nat) : String := "review-answer:" ++ toString idempotencyKey

def addAnswer (bank : Bank) (answer : ReviewAnswerLog) : Bank :=
  { bank with answers := bank.answers ++ [answer] }

def writeAnswer (bank : Bank) (item : ReviewItem) (request : AnswerRequest)
    (question : Option WeeklyRecallQuestion) : Except ReviewError Bank :=
  let wasCorrect := isRight item request.selectedOptionIds
  let logged := addAnswer bank ⟨item.id, question.map (·.id), request.idempotencyKey, request.context,
    request.selectedOptionIds, wasCorrect, request.now⟩
  if wasCorrect then .ok (logged.putItem (rightItem item request.context request.now))
  else if (Table.find MistakeEvent.eventKey bank.mistakes
      (reviewAnswerKey request.idempotencyKey)).isSome then .error .integrity
  else .ok (addMistake (logged.putItem (wrongItem item request.now)) item.id
    (reviewAnswerKey request.idempotencyKey) request.selectedOptionIds request.now)

def questionsOf (bank : Bank) (session : Nat) : List WeeklyRecallQuestion :=
  bank.questions.filter (·.session = session)

def correctQuestions (bank : Bank) (session : Nat) : Nat :=
  ((questionsOf bank session).filter (·.wasCorrect = some true)).length

def completeWeeklySessionIfReady (bank : Bank) (session : WeeklyRecallSession) (answeredAt : Nat) :
    Bank :=
  if (questionsOf bank session.id).any (·.answeredAt.isNone) then bank
  else { bank with
    sessions := Table.put WeeklyRecallSession.id bank.sessions { session with
      status := .completed
      correctAnswers := correctQuestions bank session.id
      completedAt := some answeredAt } }

def answeredQuestion (question : WeeklyRecallQuestion) (selected : List String) (wasCorrect : Bool)
    (answeredAt : Nat) : WeeklyRecallQuestion :=
  { question with
    selectedOptionIds := selected
    wasCorrect := some wasCorrect
    answeredAt := some answeredAt }

def writeWeeklyAnswer (bank : Bank) (item : ReviewItem) (request : AnswerRequest) :
    Option WeeklyRecallQuestion → Bank
  | none => bank
  | some question =>
    let answered := { bank with
      questions := Table.put WeeklyRecallQuestion.id bank.questions
        (answeredQuestion question request.selectedOptionIds
          (isRight item request.selectedOptionIds) request.now) }
    match Table.find WeeklyRecallSession.id bank.sessions question.session with
    | none => answered
    | some session => completeWeeklySessionIfReady answered session request.now

def answerReviewItem (bank : Bank) (request : AnswerRequest) : Except ReviewError Bank :=
  match Table.find ReviewAnswerLog.idempotencyKey bank.answers request.idempotencyKey with
  | some existing =>
    if existing.reviewItem ≠ request.reviewItem ∨ existing.context ≠ request.context then
      .error (.conflict "That review answer identifier is already in use.")
    else .ok bank
  | none =>
    match bank.findItem request.reviewItem with
    | none => .error (.rule "Review question not found.")
    | some item => do
      validateSelectedOptions item request.selectedOptionIds
      let question ← weeklyQuestionFor bank item request
      let written ← writeAnswer bank item request question
      .ok (writeWeeklyAnswer written item request question)

def weeklyRecallLimit : Nat := 12

structure Pick where
  items : List Nat
  nodup : items.Nodup
  limited : items.length ≤ weeklyRecallLimit

def ReviewItem.isCandidate (item : ReviewItem) : Bool :=
  item.state ≠ .active && item.optionsSnapshot ≠ [] && item.correctOptionIdsSnapshot ≠ []

def newQuestions (firstId session : Nat) (items : List Nat) : List WeeklyRecallQuestion :=
  items.zipIdx.map fun entry =>
    { id := firstId + entry.2
      session := session
      reviewItem := entry.1
      position := entry.2 + 1
      selectedOptionIds := []
      wasCorrect := none
      answeredAt := none }

def createOrResumeWeeklyRecall (bank : Bank) (pick : Pick) (now : Nat) : Except ReviewError Bank :=
  if (Table.find WeeklyRecallSession.weekKey bank.sessions (isoWeekKey now)).isSome then .ok bank
  else
    let selected := pick.items.filter fun id => (bank.findItem id).any (·.isCandidate)
    if selected = [] then
      .error (.rule "No remembered questions are ready for Weekly Recall yet.")
    else .ok { bank with
      sessions := bank.sessions ++
        [⟨bank.nextSession, isoWeekKey now, .active, selected.length, 0, now, none⟩]
      questions := bank.questions ++ newQuestions bank.nextQuestion bank.nextSession selected
      nextSession := bank.nextSession + 1
      nextQuestion := bank.nextQuestion + selected.length }

inductive Call where
  | attempt (event : QuestionAttemptEvent)
  | answer (request : AnswerRequest)
  | weeklyRecall (pick : Pick) (now : Nat)

def Call.exec (isSpace : Char → Bool) (bank : Bank) : Call → Except ReviewError Bank
  | .attempt event => recordQuestionAttempt isSpace bank event
  | .answer request => answerReviewItem bank request
  | .weeklyRecall pick now => createOrResumeWeeklyRecall bank pick now

def Call.time : Call → Nat
  | .attempt event => event.answeredAt
  | .answer request => request.now
  | .weeklyRecall _ now => now

def emptyBank : Bank := ⟨[], [], [], [], [], 0, 0, 0⟩

def reviews (isSpace : Char → Bool) : Machine Bank Call ReviewError where
  init := emptyBank
  exec call bank := call.exec isSpace bank
  time := Call.time

end LockIn.Review
