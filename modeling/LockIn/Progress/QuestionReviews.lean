import LockIn.Library.Binary64
import LockIn.Library.Gregorian
import LockIn.Library.Outcome

/-!
# Spaced repetition of questions

`record_question_outcome` schedules the next review of a question.  A correct outcome multiplies
the interval by the ease factor, a wrong one brings it back to a day.  What a result id recorded
once is not recorded again.
-/

namespace LockIn.Progress

abbrev Uuid := BitVec 128

def microsecondsPerDay : Nat := 86400000000

/-- The first microsecond that no `datetime` can name. -/
def endOfYears : Nat := Gregorian.daysBeforeYear 10000 * microsecondsPerDay

/-- A `datetime` of universal time, in microseconds from the first year on. -/
abbrev Instant := { microseconds : Nat // microseconds < endOfYears }

inductive Failure
  | overflowError
  | validationError
  | doesNotExist

/-- `instant + timedelta(days=days)` -/
def Instant.addDays (instant : Instant) (days : Nat) : Except Failure Instant :=
  if h : instant.1 + days * microsecondsPerDay < endOfYears then .ok ⟨_, h⟩
  else .error .overflowError

def Instant.daysLeft (instant : Instant) : Nat :=
  (endOfYears - 1 - instant.1) / microsecondsPerDay

structure QuestionVersion where
  id : Uuid
  question : Uuid

structure QuestionReview where
  lastQuestionVersion : QuestionVersion
  dueAt : Instant
  intervalDays : Nat := 1
  easeFactor : ℚ := 250 / 100
  repetitions : Nat := 0
  lapses : Nat := 0
  lastWasCorrect : Bool := false
  lastReviewedAt : Instant
  revision : Nat := 1

/-- What `_review_state` keeps of a review. -/
structure ReviewState where
  dueAt : Instant
  intervalDays : Nat
  easeFactor : ℚ
  repetitions : Nat
  lapses : Nat
  revision : Nat

def reviewState (review : QuestionReview) : ReviewState where
  dueAt := review.dueAt
  intervalDays := review.intervalDays
  easeFactor := review.easeFactor
  repetitions := review.repetitions
  lapses := review.lapses
  revision := review.revision

structure QuestionReviewLog where
  user : Uuid
  questionVersion : QuestionVersion
  resultId : Uuid
  attemptQuestionId : Uuid
  wasCorrect : Bool
  previousState : Option ReviewState
  newState : ReviewState
  reviewedAt : Instant

structure Store where
  reviews : Uuid → Uuid → Option QuestionReview
  logs : List QuestionReviewLog

def Store.empty : Store where
  reviews _ _ := none
  logs := []

/-- The arguments of `record_question_outcome`. -/
structure Call where
  user : Uuid
  questionVersion : QuestionVersion
  resultId : Uuid
  attemptQuestionId : Uuid
  wasCorrect : Bool
  reviewedAt : Instant

def Call.question (call : Call) : Uuid := call.questionVersion.question

def Store.existingLog (store : Store) (call : Call) : Option QuestionReviewLog :=
  store.logs.find? fun log =>
    log.resultId = call.resultId ∧ log.questionVersion.question = call.question

def Store.review (store : Store) (call : Call) : Option QuestionReview :=
  store.reviews call.user call.question

def Call.newReview (call : Call) : QuestionReview where
  lastQuestionVersion := call.questionVersion
  dueAt := call.reviewedAt
  lastReviewedAt := call.reviewedAt

def correctInterval (review : QuestionReview) : Nat :=
  match review.repetitions with
  | 0 => 1
  | 1 => 6
  | _ => max 1 (Binary64.nearest (review.intervalDays * review.easeFactor)).toNat

def graded (review : QuestionReview) (wasCorrect : Bool) : QuestionReview :=
  if wasCorrect then
    { review with
      repetitions := review.repetitions + 1
      intervalDays := correctInterval review
      easeFactor := min 3 (review.easeFactor + 5 / 100) }
  else
    { review with
      repetitions := 0
      intervalDays := 1
      lapses := review.lapses + 1
      easeFactor := max (130 / 100) (review.easeFactor - 20 / 100) }

/-- A `DecimalField` of three digits, two of them decimals. -/
def IsDecimal (value : ℚ) : Prop := (value * 100).den = 1 ∧ |value| < 10

/-- What `full_clean` asks of a review: the ranges of its columns and the check on its ease. -/
structure QuestionReview.Clean (review : QuestionReview) : Prop where
  intervalDays : review.intervalDays ≤ 2147483647
  decimal : IsDecimal review.easeFactor
  repetitions : review.repetitions ≤ 32767
  lapses : review.lapses ≤ 32767
  revision : review.revision ≤ 9223372036854775807
  ease : 130 / 100 ≤ review.easeFactor ∧ review.easeFactor ≤ 3

instance (value : ℚ) : Decidable (IsDecimal value) :=
  inferInstanceAs (Decidable (_ ∧ _))

instance (review : QuestionReview) : Decidable review.Clean :=
  decidable_of_iff
    (review.intervalDays ≤ 2147483647 ∧ IsDecimal review.easeFactor ∧ review.repetitions ≤ 32767 ∧
      review.lapses ≤ 32767 ∧ review.revision ≤ 9223372036854775807 ∧
      130 / 100 ≤ review.easeFactor ∧ review.easeFactor ≤ 3)
    ⟨fun ⟨h1, h2, h3, h4, h5, h6⟩ => ⟨h1, h2, h3, h4, h5, h6⟩,
      fun ⟨h1, h2, h3, h4, h5, h6⟩ => ⟨h1, h2, h3, h4, h5, h6⟩⟩

def fullClean (review : QuestionReview) : Except Failure Unit :=
  if review.Clean then .ok () else .error .validationError

def Store.save (store : Store) (call : Call) (review : QuestionReview) : Store where
  reviews := Function.update store.reviews call.user
    (Function.update (store.reviews call.user) call.question (some review))
  logs := store.logs ++
    [{ user := call.user
       questionVersion := call.questionVersion
       resultId := call.resultId
       attemptQuestionId := call.attemptQuestionId
       wasCorrect := call.wasCorrect
       previousState := (store.review call).map reviewState
       newState := reviewState review
       reviewedAt := call.reviewedAt }]

def Call.recorded (call : Call) (existing : Option QuestionReview) (dueAt : Instant) :
    QuestionReview :=
  let review := graded (existing.getD call.newReview) call.wasCorrect
  { review with
    lastQuestionVersion := call.questionVersion
    lastWasCorrect := call.wasCorrect
    lastReviewedAt := call.reviewedAt
    dueAt := dueAt
    revision := if existing.isSome then review.revision + 1 else review.revision }

def recordQuestionOutcome (call : Call) (store : Store) :
    Except Failure (QuestionReview × Store) :=
  match store.existingLog call with
  | some _ =>
    match store.review call with
    | some review => .ok (review, store)
    | none => .error .doesNotExist
  | none => do
    let review := graded ((store.review call).getD call.newReview) call.wasCorrect
    let dueAt ← call.reviewedAt.addDays review.intervalDays
    let saved := call.recorded (store.review call) dueAt
    fullClean saved
    .ok (saved, store.save call saved)

def run (calls : List Call) (store : Store) : Except Failure Store :=
  calls.foldlM (fun store call => Prod.snd <$> recordQuestionOutcome call store) store

end LockIn.Progress
