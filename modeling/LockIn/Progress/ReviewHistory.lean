import LockIn.Library.Journal
import LockIn.Progress.QuestionReviews
import Mathlib

/-!
# What a review says about its history

After every call the review of a question is the summary of the outcomes that were recorded for it,
the first of every result.  The dates and the counters are bounded, so a history goes on as long as
the next review still has a place in them.
-/

namespace LockIn.Progress

open List

def outcomes (calls : List Call) (user question : Uuid) : List Call :=
  calls.foldl (fun history call =>
    if (call.user = user ∧ call.question = question) ∧
        ∀ earlier ∈ history, earlier.resultId ≠ call.resultId then history ++ [call]
    else history) []

def currentRun (history : List Call) : Nat :=
  (history.reverse.takeWhile Call.wasCorrect).length

structure Learned (history : List Call) (review : QuestionReview) : Prop where
  ease : 130 / 100 ≤ review.easeFactor ∧ review.easeFactor ≤ 3
  decimal : IsDecimal review.easeFactor
  interval : 1 ≤ review.intervalDays
  repetitions : review.repetitions = currentRun history
  lapses : review.lapses = history.countP (!·.wasCorrect)
  short : review.repetitions ≤ 1 → review.intervalDays = 1

structure Scheduled (history : List Call) (review : QuestionReview) : Prop
    extends Learned history review where
  clean : review.Clean
  due : review.dueAt.1 = review.lastReviewedAt.1 + review.intervalDays * microsecondsPerDay
  revision : review.revision = history.length
  last : history.getLast?.map Call.reviewedAt = some review.lastReviewedAt

def Describes (history : List Call) : Option QuestionReview → Prop
  | some review => Scheduled history review
  | none => history = []

/-- What a call that was answered with `review` has done. -/
structure Answered (earlier : List Call) (call : Call) (before : Store) (review : QuestionReview)
    (after : Store) : Prop where
  stored : after.review call = some review
  scheduled : Scheduled (outcomes (earlier ++ [call]) call.user call.question) review
  grows : call.wasCorrect = true → ∀ previous, before.review call = some previous →
    previous.intervalDays ≤ review.intervalDays
  repeated : (∃ prior ∈ outcomes earlier call.user call.question,
    prior.resultId = call.resultId) → after = before
  others : ∀ user question, ¬(user = call.user ∧ question = call.question) →
    after.reviews user question = before.reviews user question

def Sound (calls : List Call) : Prop :=
  Journal.Each (fun earlier call => ∃ before review after, run earlier .empty = .ok before ∧
    recordQuestionOutcome call before = .ok (review, after) ∧
    Answered earlier call before review after) calls

def RoundsWithin (days : Nat) (product : ℚ) : Prop :=
  product < days + 1 / 2 ∨ product = days + 1 / 2 ∧ days % 2 = 0

def CorrectFits (review : QuestionReview) (daysLeft : Nat) : Prop :=
  match review.repetitions with
  | 0 => True
  | 1 => 6 ≤ daysLeft
  | _ => RoundsWithin daysLeft (review.intervalDays * review.easeFactor)

/-- A new outcome has a place in the dates and in the columns. -/
structure NewFits (existing : Option QuestionReview) (call : Call) : Prop where
  day : 1 ≤ call.reviewedAt.daysLeft
  revision : ∀ review, existing = some review → review.revision < 9223372036854775807
  correct : ∀ review, existing = some review → call.wasCorrect = true →
    review.repetitions < 32767 ∧ CorrectFits review call.reviewedAt.daysLeft
  wrong : ∀ review, existing = some review → call.wasCorrect = false → review.lapses < 32767

/-- The result is one that was recorded for this user, or a new one that has a place. -/
def Fits (store : Store) (call : Call) : Prop :=
  match store.existingLog call with
  | some log => log.user = call.user
  | none => NewFits (store.review call) call

def AllFit (calls : List Call) : Prop :=
  Journal.Each (fun earlier call => ∀ before, run earlier .empty = .ok before → Fits before call)
    calls

theorem outcomes_append (calls : List Call) (call : Call) (user question : Uuid) :
    outcomes (calls ++ [call]) user question =
      if (call.user = user ∧ call.question = question) ∧
          ∀ earlier ∈ outcomes calls user question, earlier.resultId ≠ call.resultId then
        outcomes calls user question ++ [call]
      else outcomes calls user question := by
  unfold outcomes
  rw [foldl_append]
  rfl

variable {calls history : List Call} {call : Call} {instant dueAt : Instant} {days : Nat}
  {review : QuestionReview} {existing : Option QuestionReview} {store after : Store}
  {log : QuestionReviewLog}

theorem outcomes_new
    (h : ∀ earlier ∈ outcomes calls call.user call.question, earlier.resultId ≠ call.resultId) :
    outcomes (calls ++ [call]) call.user call.question =
      outcomes calls call.user call.question ++ [call] := by
  rw [outcomes_append, if_pos ⟨⟨rfl, rfl⟩, h⟩]

theorem outcomes_repeated (user question : Uuid)
    (h : ∃ prior ∈ outcomes calls call.user call.question, prior.resultId = call.resultId) :
    outcomes (calls ++ [call]) user question = outcomes calls user question := by
  rw [outcomes_append, if_neg]
  rintro ⟨⟨rfl, rfl⟩, hnew⟩
  obtain ⟨prior, hmem, hsame⟩ := h
  exact hnew prior hmem hsame

theorem outcomes_other {user question : Uuid} (h : ¬(user = call.user ∧ question = call.question)) :
    outcomes (calls ++ [call]) user question = outcomes calls user question := by
  rw [outcomes_append, if_neg]
  rintro ⟨⟨rfl, rfl⟩, _⟩
  exact h ⟨rfl, rfl⟩

theorem Instant.addDays_ok (h : days ≤ instant.daysLeft) :
    ∃ dueAt : Instant, instant.addDays days = .ok dueAt ∧
      dueAt.1 = instant.1 + days * microsecondsPerDay := by
  have hlt : instant.1 + days * microsecondsPerDay < endOfYears := by
    have hmul : days * microsecondsPerDay ≤ endOfYears - 1 - instant.1 :=
      (Nat.le_div_iff_mul_le (by decide)).1 h
    have hinstant := instant.2
    omega
  exact ⟨⟨_, hlt⟩, dif_pos hlt, rfl⟩

theorem Instant.le_daysLeft (h : instant.addDays days = .ok dueAt) : days ≤ instant.daysLeft := by
  unfold Instant.addDays at h
  split at h
  · rename_i hlt
    refine (Nat.le_div_iff_mul_le (by decide)).2 ?_
    omega
  · cases h

theorem daysLeft_lt (instant : Instant) : instant.daysLeft < 2147483647 := by
  refine (Nat.div_lt_iff_lt_mul (by decide)).2 ?_
  have hend : endOfYears < 2147483647 * microsecondsPerDay := by decide
  omega

theorem isDecimal_iff {value : ℚ} (hpos : 0 ≤ value) (hle : value ≤ 3) :
    IsDecimal value ↔ ∃ k : ℤ, value * 100 = k := by
  have habs : |value| < 10 := by
    rw [abs_of_nonneg hpos]
    linarith
  constructor
  · intro h
    exact ⟨(value * 100).num, ((Rat.den_eq_one_iff _).1 h.1).symm⟩
  · rintro ⟨k, hk⟩
    refine ⟨?_, habs⟩
    rw [hk]
    rfl

theorem graded_ease (wasCorrect : Bool)
    (hease : 130 / 100 ≤ review.easeFactor ∧ review.easeFactor ≤ 3)
    (hdecimal : IsDecimal review.easeFactor) :
    (130 / 100 ≤ (graded review wasCorrect).easeFactor ∧
      (graded review wasCorrect).easeFactor ≤ 3) ∧
      IsDecimal (graded review wasCorrect).easeFactor := by
  obtain ⟨hlow, hhigh⟩ := hease
  obtain ⟨k, hk⟩ := (isDecimal_iff (by linarith) hhigh).1 hdecimal
  cases wasCorrect with
  | true =>
    have heq : (graded review true).easeFactor = min 3 (review.easeFactor + 5 / 100) := rfl
    have hrange : 130 / 100 ≤ (graded review true).easeFactor ∧
        (graded review true).easeFactor ≤ 3 := by
      rw [heq]
      exact ⟨le_min (by norm_num) (by linarith), min_le_left _ _⟩
    refine ⟨hrange, (isDecimal_iff (by linarith [hrange.1]) hrange.2).2 ?_⟩
    rw [heq]
    rcases min_choice 3 (review.easeFactor + 5 / 100) with h | h <;> rw [h]
    · exact ⟨300, by norm_num⟩
    · refine ⟨k + 5, ?_⟩
      push_cast
      linarith
  | false =>
    have heq : (graded review false).easeFactor =
        max (130 / 100) (review.easeFactor - 20 / 100) := rfl
    have hrange : 130 / 100 ≤ (graded review false).easeFactor ∧
        (graded review false).easeFactor ≤ 3 := by
      rw [heq]
      exact ⟨le_max_left _ _, max_le (by norm_num) (by linarith)⟩
    refine ⟨hrange, (isDecimal_iff (by linarith [hrange.1]) hrange.2).2 ?_⟩
    rw [heq]
    rcases max_choice (130 / 100) (review.easeFactor - 20 / 100) with h | h <;> rw [h]
    · exact ⟨130, by norm_num⟩
    · refine ⟨k - 20, ?_⟩
      push_cast
      linarith

theorem correctInterval_le_iff (review : QuestionReview) (daysLeft : Nat) :
    correctInterval review ≤ daysLeft ↔ 1 ≤ daysLeft ∧ CorrectFits review daysLeft := by
  unfold correctInterval CorrectFits
  match review.repetitions with
  | 0 => simp
  | 1 =>
    constructor
    · intro h
      exact ⟨le_trans (by norm_num) h, h⟩
    · exact And.right
  | n + 2 =>
    have hround := Binary64.nearest_le_iff (review.intervalDays * review.easeFactor) daysLeft
    have heven : (daysLeft : ℤ) % 2 = 0 ↔ daysLeft % 2 = 0 := by omega
    rw [heven] at hround
    simp only [max_le_iff, Int.toNat_le]
    exact and_congr_right fun _ => hround

theorem le_correctInterval (h : Learned history review) :
    review.intervalDays ≤ correctInterval review := by
  unfold correctInterval
  split
  · rename_i hzero
    exact (h.short (by omega)).le
  · rename_i hone
    exact (h.short (by omega)).le.trans (by norm_num)
  · have hgrows : ((review.intervalDays : ℤ) : ℚ) ≤ review.intervalDays * review.easeFactor := by
      have hone : 1 ≤ review.easeFactor := by linarith [h.ease.1]
      push_cast
      exact le_mul_of_one_le_right (Nat.cast_nonneg _) hone
    have hnearest := Binary64.le_nearest hgrows
    omega

theorem currentRun_append (history : List Call) (call : Call) :
    currentRun (history ++ [call]) = if call.wasCorrect then currentRun history + 1 else 0 := by
  unfold currentRun
  rw [reverse_append, reverse_singleton, singleton_append, takeWhile_cons]
  split_ifs
  · rw [length_cons]
  · rfl

theorem learned_new (call : Call) : Learned [] call.newReview where
  ease := by
    have heq : call.newReview.easeFactor = 250 / 100 := rfl
    rw [heq]
    norm_num
  decimal := by
    have heq : call.newReview.easeFactor = 250 / 100 := rfl
    rw [heq]
    exact (isDecimal_iff (by norm_num) (by norm_num)).2 ⟨250, by norm_num⟩
  interval := le_rfl
  repetitions := rfl
  lapses := rfl
  short _ := rfl

theorem Describes.learned (h : Describes history existing) (call : Call) :
    Learned history (existing.getD call.newReview) := by
  cases existing with
  | some review => exact Scheduled.toLearned h
  | none =>
    rw [show history = [] from h]
    exact learned_new call

theorem Learned.graded (h : Learned history review) (call : Call) :
    Learned (history ++ [call]) (graded review call.wasCorrect) := by
  obtain ⟨hease, hdecimal⟩ := graded_ease call.wasCorrect h.ease h.decimal
  have hrun := currentRun_append history call
  have hcount : (history ++ [call]).countP (!·.wasCorrect) =
      history.countP (!·.wasCorrect) + if call.wasCorrect then 0 else 1 := by
    rw [countP_append, countP_singleton]
    cases call.wasCorrect <;> rfl
  have hgrows := le_correctInterval h
  cases hcorrect : call.wasCorrect with
  | true =>
    rw [hcorrect] at hease hdecimal hrun hcount
    refine ⟨hease, hdecimal, h.interval.trans hgrows, ?_, ?_, fun hone => ?_⟩
    · rw [hrun, if_pos rfl, ← h.repetitions]
      rfl
    · rw [hcount, if_pos rfl, ← h.lapses]
      rfl
    · have hzero : review.repetitions = 0 := by
        have hone : review.repetitions + 1 ≤ 1 := hone
        omega
      change correctInterval review = 1
      simp only [correctInterval, hzero]
  | false =>
    rw [hcorrect] at hease hdecimal hrun hcount
    refine ⟨hease, hdecimal, le_rfl, ?_, ?_, fun _ => rfl⟩
    · rw [hrun, if_neg (by decide)]
      rfl
    · rw [hcount, if_neg (by decide), ← h.lapses]
      rfl

theorem recorded_scheduled (h : Describes history existing)
    (hclean : (call.recorded existing dueAt).Clean) (hdue : dueAt.1 = call.reviewedAt.1 +
      (graded (existing.getD call.newReview) call.wasCorrect).intervalDays * microsecondsPerDay) :
    Scheduled (history ++ [call]) (call.recorded existing dueAt) := by
  obtain ⟨hease, hdecimal, hinterval, hrepetitions, hlapses, hshort⟩ :=
    (h.learned call).graded call
  refine ⟨⟨hease, hdecimal, hinterval, hrepetitions, hlapses, hshort⟩, hclean, hdue, ?_, ?_⟩
  · rw [length_append, length_singleton]
    cases existing with
    | some review =>
      rw [← Scheduled.revision h]
      unfold Call.recorded graded
      cases call.wasCorrect <;> rfl
    | none =>
      rw [show history = [] from h]
      unfold Call.recorded graded
      cases call.wasCorrect <;> rfl
  · rw [getLast?_concat]
    rfl

structure Kept (calls : List Call) (store : Store) : Prop where
  described : ∀ user question,
    Describes (outcomes calls user question) (store.reviews user question)
  logged : ∀ log ∈ store.logs, ∃ call ∈ outcomes calls log.user log.questionVersion.question,
    call.resultId = log.resultId
  recorded : ∀ user question, ∀ call ∈ outcomes calls user question, ∃ log ∈ store.logs,
    log.user = user ∧ log.questionVersion.question = question ∧ log.resultId = call.resultId
  owner : ∀ log ∈ store.logs, ∀ other ∈ store.logs, log.resultId = other.resultId →
    log.questionVersion.question = other.questionVersion.question → log.user = other.user

theorem kept_empty : Kept [] .empty := by
  refine ⟨fun _ _ => rfl, ?_, ?_, ?_⟩
  · intro log hlog
    cases hlog
  · intro user question call hcall
    cases hcall
  · intro log hlog
    cases hlog

theorem existingLog_some (h : store.existingLog call = some log) :
    log ∈ store.logs ∧ log.resultId = call.resultId ∧
      log.questionVersion.question = call.question := by
  have hfound := find?_some h
  exact ⟨mem_of_find?_eq_some h, of_decide_eq_true hfound⟩

theorem existingLog_none (h : store.existingLog call = none) (hlog : log ∈ store.logs)
    (hresult : log.resultId = call.resultId) : log.questionVersion.question ≠ call.question := by
  intro hquestion
  have hnot := find?_eq_none.1 h log hlog
  exact hnot (decide_eq_true ⟨hresult, hquestion⟩)

theorem Kept.repeated_iff (h : Kept calls store) (hlog : store.existingLog call = some log) :
    (∃ prior ∈ outcomes calls call.user call.question, prior.resultId = call.resultId) ↔
      log.user = call.user := by
  obtain ⟨hmem, hresult, hquestion⟩ := existingLog_some hlog
  constructor
  · rintro ⟨prior, hprior, hsame⟩
    obtain ⟨own, hown, huser, hownQuestion, hownResult⟩ := h.recorded _ _ prior hprior
    rw [← huser]
    refine h.owner log hmem own hown ?_ ?_
    · rw [hresult, hownResult, hsame]
    · rw [hquestion, hownQuestion]
  · intro huser
    obtain ⟨prior, hprior, hsame⟩ := h.logged log hmem
    rw [huser, hquestion] at hprior
    exact ⟨prior, hprior, hsame.trans hresult⟩

theorem Kept.new (h : Kept calls store) (hlog : store.existingLog call = none) :
    ∀ earlier ∈ outcomes calls call.user call.question, earlier.resultId ≠ call.resultId := by
  intro earlier hearlier hsame
  obtain ⟨own, hown, _, hquestion, hresult⟩ := h.recorded _ _ earlier hearlier
  exact existingLog_none hlog hown (hresult.trans hsame) hquestion

theorem save_review (store : Store) (call : Call) (review : QuestionReview) :
    (store.save call review).review call = some review := by
  unfold Store.save Store.review
  simp only [Function.update_self]

theorem save_other {user question : Uuid} (h : ¬(user = call.user ∧ question = call.question)) :
    (store.save call review).reviews user question = store.reviews user question := by
  unfold Store.save
  simp only
  by_cases huser : user = call.user
  · subst huser
    rw [Function.update_self, Function.update_of_ne fun hquestion => h ⟨rfl, hquestion⟩]
  · rw [Function.update_of_ne huser]

theorem Kept.save (h : Kept calls store) (hlog : store.existingLog call = none)
    (hreview : Scheduled (outcomes calls call.user call.question ++ [call]) review) :
    Kept (calls ++ [call]) (store.save call review) := by
  have hnew := outcomes_new (h.new hlog)
  have hgrows : ∀ {user question earlier}, earlier ∈ outcomes calls user question →
      earlier ∈ outcomes (calls ++ [call]) user question := by
    intro user question earlier hearlier
    rw [outcomes_append]
    split_ifs
    · exact mem_append_left _ hearlier
    · exact hearlier
  have hmem : ∀ {log}, log ∈ (store.save call review).logs → log ∈ store.logs ∨
      log.user = call.user ∧ log.questionVersion.question = call.question ∧
        log.resultId = call.resultId := by
    intro log hlogs
    rcases mem_append.1 hlogs with hold | hlast
    · exact .inl hold
    · rw [mem_singleton] at hlast
      rw [hlast]
      exact .inr ⟨rfl, rfl, rfl⟩
  refine ⟨fun user question => ?_, fun log hlogs => ?_, fun user question earlier hearlier => ?_,
    fun log hlogs other hother hresult hquestion => ?_⟩
  · by_cases hcall : user = call.user ∧ question = call.question
    · obtain ⟨rfl, rfl⟩ := hcall
      have hstored := save_review store call review
      unfold Store.review at hstored
      rw [hstored, hnew]
      exact hreview
    · rw [save_other hcall, outcomes_other hcall]
      exact h.described user question
  · rcases hmem hlogs with hold | ⟨huser, hquestion, hresult⟩
    · obtain ⟨earlier, hearlier, hsame⟩ := h.logged log hold
      exact ⟨earlier, hgrows hearlier, hsame⟩
    · rw [huser, hquestion, hnew]
      exact ⟨call, mem_append_right _ mem_cons_self, hresult.symm⟩
  · have hcases : earlier ∈ outcomes calls user question ∨
        call.user = user ∧ call.question = question ∧ earlier = call := by
      rw [outcomes_append] at hearlier
      split_ifs at hearlier with hcall
      · rcases mem_append.1 hearlier with hold | hlast
        · exact .inl hold
        · exact .inr ⟨hcall.1.1, hcall.1.2, mem_singleton.1 hlast⟩
      · exact .inl hearlier
    rcases hcases with hold | ⟨rfl, rfl, rfl⟩
    · obtain ⟨log, hlogs, hfacts⟩ := h.recorded user question earlier hold
      exact ⟨log, mem_append_left _ hlogs, hfacts⟩
    · exact ⟨_, mem_append_right _ mem_cons_self, rfl, rfl, rfl⟩
  · rcases hmem hlogs with hold | ⟨huser, hownQuestion, hownResult⟩
    · rcases hmem hother with hotherOld | ⟨_, hotherQuestion, hotherResult⟩
      · exact h.owner log hold other hotherOld hresult hquestion
      · exact absurd (hquestion.trans hotherQuestion)
          (existingLog_none hlog hold (hresult.trans hotherResult))
    · rcases hmem hother with hotherOld | ⟨hotherUser, _, _⟩
      · exact absurd (hquestion.symm.trans hownQuestion)
          (existingLog_none hlog hotherOld (hresult.symm.trans hownResult))
      · rw [huser, hotherUser]

theorem Kept.again (h : Kept calls store)
    (hrepeated : ∃ prior ∈ outcomes calls call.user call.question,
      prior.resultId = call.resultId) : Kept (calls ++ [call]) store where
  described user question := by
    rw [outcomes_repeated user question hrepeated]
    exact h.described user question
  logged log hlog := by
    rw [outcomes_repeated _ _ hrepeated]
    exact h.logged log hlog
  recorded user question earlier hearlier := by
    rw [outcomes_repeated user question hrepeated] at hearlier
    exact h.recorded user question earlier hearlier
  owner := h.owner

theorem recorded_none {call : Call} {dueAt : Instant} :
    (call.recorded none dueAt).intervalDays = 1 ∧ (call.recorded none dueAt).repetitions ≤ 1 ∧
      (call.recorded none dueAt).lapses ≤ 1 ∧ (call.recorded none dueAt).revision = 1 := by
  unfold Call.recorded graded
  cases call.wasCorrect with
  | true => exact ⟨rfl, le_rfl, Nat.zero_le 1, rfl⟩
  | false => exact ⟨rfl, Nat.zero_le 1, le_rfl, rfl⟩

theorem recorded_correct {call : Call} {review : QuestionReview} {dueAt : Instant}
    (h : call.wasCorrect = true) :
    (call.recorded (some review) dueAt).intervalDays = correctInterval review ∧
      (call.recorded (some review) dueAt).repetitions = review.repetitions + 1 ∧
      (call.recorded (some review) dueAt).lapses = review.lapses ∧
      (call.recorded (some review) dueAt).revision = review.revision + 1 := by
  unfold Call.recorded graded
  rw [h]
  exact ⟨rfl, rfl, rfl, rfl⟩

theorem recorded_wrong {call : Call} {review : QuestionReview} {dueAt : Instant}
    (h : call.wasCorrect = false) :
    (call.recorded (some review) dueAt).intervalDays = 1 ∧
      (call.recorded (some review) dueAt).repetitions = 0 ∧
      (call.recorded (some review) dueAt).lapses = review.lapses + 1 ∧
      (call.recorded (some review) dueAt).revision = review.revision + 1 := by
  unfold Call.recorded graded
  rw [h]
  exact ⟨rfl, rfl, rfl, rfl⟩

/-- Room for the outcome is what the dates and `full_clean` ask for. -/
theorem newFits_iff (h : Describes history existing) (dueAt : Instant) :
    NewFits existing call ↔
      (call.recorded existing dueAt).intervalDays ≤ call.reviewedAt.daysLeft ∧
        (call.recorded existing dueAt).Clean := by
  obtain ⟨hease, hdecimal, _⟩ := (h.learned call).graded call
  have hdaysLeft := daysLeft_lt call.reviewedAt
  cases existing with
  | none =>
    obtain ⟨hdays, hrepetitions, hlapses, hrevision⟩ := @recorded_none call dueAt
    constructor
    · intro hfits
      have hday := hfits.day
      exact ⟨by omega, by omega, hdecimal, by omega, by omega, by omega, hease⟩
    · rintro ⟨hday, _⟩
      refine ⟨by omega, ?_, ?_, ?_⟩ <;> rintro review ⟨⟩
  | some review =>
    have hclean := Scheduled.clean h
    cases hcorrect : call.wasCorrect with
    | true =>
      obtain ⟨hdays, hrepetitions, hlapses, hrevision⟩ := @recorded_correct call review dueAt hcorrect
      have hnext := correctInterval_le_iff review call.reviewedAt.daysLeft
      rw [← hdays] at hnext
      constructor
      · intro hfits
        obtain ⟨hroom, hcorrectFits⟩ := hfits.correct review rfl hcorrect
        have hfew := hclean.lapses
        have hrevisionFits := hfits.revision review rfl
        have hle := hnext.2 ⟨hfits.day, hcorrectFits⟩
        exact ⟨hle, by omega, hdecimal, by omega, by omega, by omega, hease⟩
      · rintro ⟨hle, hrecorded⟩
        obtain ⟨hday, hcorrectFits⟩ := hnext.1 hle
        have hroom := hrecorded.repetitions
        have hrevisionFits := hrecorded.revision
        refine ⟨hday, ?_, ?_, ?_⟩
        · rintro _ ⟨⟩
          omega
        · rintro _ ⟨⟩ _
          exact ⟨by omega, hcorrectFits⟩
        · intro _ _ hwrong
          exact absurd (hcorrect.symm.trans hwrong) (by decide)
    | false =>
      obtain ⟨hdays, hrepetitions, hlapses, hrevision⟩ := @recorded_wrong call review dueAt hcorrect
      constructor
      · intro hfits
        have hday := hfits.day
        have hroom := hfits.wrong review rfl hcorrect
        have hrevisionFits := hfits.revision review rfl
        exact ⟨by omega, by omega, hdecimal, by omega, by omega, by omega, hease⟩
      · rintro ⟨hle, hrecorded⟩
        have hroom := hrecorded.lapses
        have hrevisionFits := hrecorded.revision
        refine ⟨by omega, ?_, ?_, ?_⟩
        · rintro _ ⟨⟩
          omega
        · intro _ _ hright
          exact absurd (hcorrect.symm.trans hright) (by decide)
        · rintro _ ⟨⟩ _
          omega

theorem record_new (hlog : store.existingLog call = none) :
    recordQuestionOutcome call store = .ok (review, after) ↔
      ∃ dueAt, call.reviewedAt.addDays (call.recorded (store.review call) dueAt).intervalDays =
          .ok dueAt ∧ review = call.recorded (store.review call) dueAt ∧ review.Clean ∧
        after = store.save call review := by
  unfold recordQuestionOutcome
  rw [hlog]
  simp only
  rw [Outcome.bind_eq_ok]
  refine exists_congr fun dueAt => and_congr_right fun _ => ?_
  rw [Outcome.bind_eq_ok]
  unfold fullClean
  constructor
  · rintro ⟨_, hclean, hsaved⟩
    cases hsaved
    split_ifs at hclean with hc
    exact ⟨rfl, hc, rfl⟩
  · rintro ⟨rfl, hclean, rfl⟩
    exact ⟨(), if_pos hclean, rfl⟩

theorem fits_step (h : Kept calls store) (hfits : Fits store call) : ∃ review after,
      recordQuestionOutcome call store = .ok (review, after) ∧
        Answered calls call store review after ∧ Kept (calls ++ [call]) after := by
  unfold Fits at hfits
  cases hlog : store.existingLog call with
  | some log =>
    rw [hlog] at hfits
    have hrepeated := (h.repeated_iff hlog).2 hfits
    have hdescribed := h.described call.user call.question
    cases hreview : store.review call with
    | none =>
      obtain ⟨prior, hprior, _⟩ := hrepeated
      unfold Store.review at hreview
      rw [hreview] at hdescribed
      rw [show outcomes calls call.user call.question = [] from hdescribed] at hprior
      cases hprior
    | some review =>
      refine ⟨review, store, ?_, ⟨hreview, ?_, ?_, fun _ => rfl, fun _ _ _ => rfl⟩,
        h.again hrepeated⟩
      · unfold recordQuestionOutcome
        rw [hlog, hreview]
      · unfold Store.review at hreview
        rw [hreview] at hdescribed
        rw [outcomes_repeated _ _ hrepeated]
        exact hdescribed
      · intro _ previous hprevious
        cases hreview.symm.trans hprevious
        exact le_rfl
  | none =>
    rw [hlog] at hfits
    have hdescribed := h.described call.user call.question
    obtain ⟨dueAt, hadd, hdue⟩ := Instant.addDays_ok
      ((newFits_iff hdescribed call.reviewedAt).1 hfits).1
    have hclean := ((newFits_iff hdescribed dueAt).1 hfits).2
    have hscheduled := recorded_scheduled hdescribed hclean hdue
    refine ⟨_, _, (record_new hlog).2 ⟨dueAt, hadd, rfl, hclean, rfl⟩,
      ⟨save_review _ _ _, ?_, ?_, ?_, fun _ _ hother => save_other hother⟩, h.save hlog hscheduled⟩
    · rw [outcomes_new (h.new hlog)]
      exact hscheduled
    · intro hcorrect previous hprevious
      unfold Store.review at hprevious ⊢
      rw [hprevious] at hdescribed ⊢
      rw [(recorded_correct hcorrect).1]
      exact le_correctInterval (Scheduled.toLearned hdescribed)
    · rintro ⟨prior, hprior, hsame⟩
      exact absurd hsame (h.new hlog prior hprior)

theorem step_fits (h : Kept calls store)
    (hstep : recordQuestionOutcome call store = .ok (review, after))
    (hanswered : Answered calls call store review after) : Fits store call := by
  have hdescribed := h.described call.user call.question
  unfold Fits
  cases hlog : store.existingLog call with
  | some log =>
    refine (h.repeated_iff hlog).1 ?_
    -- were the log another user's, the outcome would be counted but not recorded
    by_contra hrepeated
    have hnew : ∀ earlier ∈ outcomes calls call.user call.question,
        earlier.resultId ≠ call.resultId :=
      fun earlier hearlier hsame => hrepeated ⟨earlier, hearlier, hsame⟩
    unfold recordQuestionOutcome at hstep
    rw [hlog] at hstep
    cases hreview : store.review call with
    | none =>
      rw [hreview] at hstep
      cases hstep
    | some found =>
      rw [hreview] at hstep
      cases hstep
      unfold Store.review at hreview
      rw [hreview] at hdescribed
      have hbefore := Scheduled.revision hdescribed
      have hafter := hanswered.scheduled.revision
      rw [outcomes_new hnew, length_append, length_singleton] at hafter
      omega
  | none =>
    obtain ⟨dueAt, hadd, rfl, hclean, _⟩ := (record_new hlog).1 hstep
    exact (newFits_iff hdescribed dueAt).2 ⟨Instant.le_daysLeft hadd, hclean⟩

theorem run_append (calls : List Call) (call : Call) :
    run (calls ++ [call]) .empty =
      run calls .empty >>= fun store => Prod.snd <$> recordQuestionOutcome call store := by
  unfold run
  rw [foldlM_append]
  simp only [foldlM_cons, foldlM_nil, bind_pure]

/-- The histories that go on without an error are those whose every outcome has a place. -/
theorem sound_iff_allFit (calls : List Call) : Sound calls ↔ AllFit calls := by
  suffices h : (Sound calls ↔ AllFit calls) ∧
      (AllFit calls → ∃ store, run calls .empty = .ok store ∧ Kept calls store) from h.1
  induction calls using List.reverseRecOn with
  | nil =>
    exact ⟨iff_of_true Journal.each_nil Journal.each_nil, fun _ => ⟨_, rfl, kept_empty⟩⟩
  | append_singleton calls call ih =>
    obtain ⟨ih, hkept⟩ := ih
    unfold Sound AllFit at ih ⊢
    rw [Journal.each_append, Journal.each_append, ih]
    refine ⟨and_congr_right fun hall => ?_, ?_⟩
    · obtain ⟨store, hrun, h⟩ := hkept hall
      constructor
      · rintro ⟨before, review, after, hbefore, hstep, hanswered⟩ other hother
        cases hbefore.symm.trans hother
        cases hbefore.symm.trans hrun
        exact step_fits h hstep hanswered
      · intro hfits
        obtain ⟨review, after, hstep, hanswered, _⟩ := fits_step h (hfits store hrun)
        exact ⟨store, review, after, hrun, hstep, hanswered⟩
    · rintro ⟨hall, hfits⟩
      obtain ⟨store, hrun, h⟩ := hkept hall
      obtain ⟨review, after, hstep, _, hafter⟩ := fits_step h (hfits store hrun)
      refine ⟨after, ?_, hafter⟩
      rw [run_append, hrun]
      change Prod.snd <$> recordQuestionOutcome call store = .ok after
      rw [hstep]
      rfl

/-! Fifteen correct outcomes on the first day of 2026: the intervals are 1, 6, 16, 42, 113, 311, 871,
2482, 7198, 21234, 63702, 191106, 573318, 1719954 days, and the next one would be 5159862. -/

def fifteenCorrect : List Call :=
  (List.range 15).map fun n =>
    { user := 1
      questionVersion := ⟨2, 3⟩
      resultId := BitVec.ofNat 128 n
      attemptQuestionId := BitVec.ofNat 128 n
      wasCorrect := true
      reviewedAt := ⟨Gregorian.daysBeforeYear 2026 * microsecondsPerDay, by decide⟩ }

theorem fifteen_correct_overflow : ¬Sound fifteenCorrect := by
  intro h
  obtain ⟨before, review, after, hbefore, hstep, _⟩ :=
    h (fifteenCorrect.take 14) fifteenCorrect[14] [] rfl
  have hrun : run (fifteenCorrect.take 14) .empty >>= (fun store =>
      Prod.snd <$> recordQuestionOutcome fifteenCorrect[14] store) = .ok after := by
    rw [hbefore]
    change Prod.snd <$> recordQuestionOutcome fifteenCorrect[14] before = .ok after
    rw [hstep]
    rfl
  have hoverflow : (run (fifteenCorrect.take 14) .empty >>= (fun store =>
      Prod.snd <$> recordQuestionOutcome fifteenCorrect[14] store)).isOk = false := by
    decide +kernel
  rw [hrun] at hoverflow
  cases hoverflow

end LockIn.Progress
