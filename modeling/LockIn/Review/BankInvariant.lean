import LockIn.Review.Bank

/-!
# The counters of the review bank

Every counter of an item is the number of rows that it counts, its state goes with its level,
and it comes back after the interval of its level.  A weekly recall is over when its last
question is answered.  A key that comes twice changes nothing.
-/

namespace LockIn.Review

open List Outcome Table

variable {isSpace : Char → Bool} {bank next : Bank} {relearned : List Nat} {now : Nat}

def relearnedBy (bank next : Bank) : List Nat :=
  (bank.items.filter fun item => item.state ≠ .active &&
    (next.findItem item.id).any (·.state = .active)).map (·.id)

def instantsOf (bank : Bank) (item : Nat) : List Nat :=
  (bank.mistakes.filter (·.reviewItem = item)).map (·.answeredAt) ++
    (bank.answers.filter (·.reviewItem = item)).map (·.answeredAt)

def answersOf (bank : Bank) (item : Nat) (wasCorrect : Bool) : List ReviewAnswerLog :=
  bank.answers.filter fun answer => answer.reviewItem = item && answer.wasCorrect = wasCorrect

structure GoesWith (state : State) (level : Nat) : Prop where
  active : state = .active ↔ level = 0
  hidden : state = .hidden ↔ 1 ≤ level ∧ level ≤ 3
  mastered : state = .mastered ↔ level = 4

structure ItemSound (bank : Bank) (relearned : List Nat) (item : ReviewItem) : Prop where
  state : GoesWith item.state item.masteryLevel
  mistakes : item.mistakeCount = (bank.mistakes.filter (·.reviewItem = item.id)).length
  correct : item.reviewCorrectCount = (answersOf bank item.id true).length
  incorrect : item.reviewIncorrectCount = (answersOf bank item.id false).length
  relearned : item.relearningCount = relearned.count item.id
  next : ∃ instant ∈ instantsOf bank item.id, (∀ other ∈ instantsOf bank item.id, other ≤ instant) ∧
    item.nextReviewAt = nextReviewAt instant item.masteryLevel

def SessionSound (bank : Bank) (session : WeeklyRecallSession) : Prop :=
  (session.status = .completed ↔ ∀ question ∈ questionsOf bank session.id,
      question.answeredAt.isSome = true) ∧
    (session.status = .completed → session.correctAnswers = correctQuestions bank session.id)

structure Sound (bank : Bank) (relearned : List Nat) : Prop where
  items : ∀ item ∈ bank.items, ItemSound bank relearned item
  sessions : ∀ session ∈ bank.sessions, SessionSound bank session
  repeatedAttempts : ∀ isSpace event after, (∃ mistake ∈ bank.mistakes, mistake.eventKey = event.eventKey) →
    recordQuestionAttempt isSpace bank event = .ok after → after = bank
  repeatedAnswers : ∀ request after,
    (∃ answer ∈ bank.answers, answer.idempotencyKey = request.idempotencyKey) →
      answerReviewItem bank request = .ok after → after = bank

theorem recordMistake_repeated {event : QuestionAttemptEvent} {after : Bank}
    (hkey : ∃ mistake ∈ bank.mistakes, mistake.eventKey = event.eventKey)
    (h : recordMistake bank event = .ok after) : after = bank := by
  obtain ⟨mistake, hmistake, hsame⟩ := hkey
  unfold recordMistake at h
  cases hfind : Table.find MistakeEvent.eventKey bank.mistakes event.eventKey with
  | none => exact absurd hsame (find_eq_none.1 hfind mistake hmistake)
  | some existing =>
    rw [hfind] at h
    simp only at h
    by_cases hother : ((bank.findItem existing.reviewItem).any
        (·.canonicalKey ≠ event.canonicalKey)) = true
    · rw [if_pos hother] at h
      simp at h
    · rw [if_neg hother] at h
      exact (Except.ok.inj h).symm

theorem recordQuestionAttempt_repeated {event : QuestionAttemptEvent} {after : Bank}
    (hkey : ∃ mistake ∈ bank.mistakes, mistake.eventKey = event.eventKey)
    (h : recordQuestionAttempt isSpace bank event = .ok after) : after = bank := by
  obtain ⟨_, _, h⟩ := bind_eq_ok.1 h
  by_cases hcorrect : event.isCorrect = true
  · rw [if_pos hcorrect] at h
    exact (Except.ok.inj h).symm
  · rw [if_neg hcorrect] at h
    exact recordMistake_repeated hkey h

variable {request : AnswerRequest} {level : Nat}

theorem answerReviewItem_repeated {after : Bank}
    (hkey : ∃ answer ∈ bank.answers, answer.idempotencyKey = request.idempotencyKey)
    (h : answerReviewItem bank request = .ok after) : after = bank := by
  obtain ⟨answer, hanswer, hsame⟩ := hkey
  unfold answerReviewItem at h
  cases hfind : Table.find ReviewAnswerLog.idempotencyKey bank.answers request.idempotencyKey with
  | none => exact absurd hsame (find_eq_none.1 hfind answer hanswer)
  | some existing =>
    rw [hfind] at h
    obtain ⟨hother, h⟩ := unless_ok.1 h
    exact (Except.ok.inj h).symm

theorem nextReviewAt_zero (reviewedAt : Nat) : nextReviewAt reviewedAt 0 = reviewedAt := by
  show reviewedAt + 0 * day = reviewedAt
  rw [Nat.zero_mul, Nat.add_zero]

theorem goesWith_active : GoesWith .active 0 :=
  ⟨by simp, by simp, by simp⟩

theorem goesWith_level (hpos : 1 ≤ level) (hmax : level ≤ 4) :
    GoesWith (if 4 ≤ level then .mastered else .hidden) level := by
  by_cases hfour : 4 ≤ level
  · rw [if_pos hfour]
    constructor
    · exact iff_of_false (by simp) (by omega)
    · exact iff_of_false (by simp) (by omega)
    · exact iff_of_true rfl (by omega)
  · rw [if_neg hfour]
    constructor
    · exact iff_of_false (by simp) (by omega)
    · exact iff_of_true rfl (by omega)
    · exact iff_of_false (by simp) (by omega)

theorem GoesWith.level_le {state : State} (h : GoesWith state level) : level ≤ 4 := by
  cases state with
  | active =>
    have hlevel := h.active.1 rfl
    omega
  | hidden =>
    have hlevel := h.hidden.1 rfl
    omega
  | mastered =>
    have hlevel := h.mastered.1 rfl
    omega

theorem goesWith_rightItem {item : ReviewItem} (h : GoesWith item.state item.masteryLevel)
    (context : Context) (answeredAt : Nat) :
    GoesWith (rightItem item context answeredAt).state (rightItem item context answeredAt).masteryLevel := by
  have hlevel := h.level_le
  cases context with
  | reviewBank =>
    apply goesWith_level
    · show 1 ≤ max 1 item.masteryLevel
      omega
    · show max 1 item.masteryLevel ≤ 4
      omega
  | weeklyRecall =>
    apply goesWith_level
    · show 1 ≤ min 4 (max 1 item.masteryLevel + 1)
      omega
    · show min 4 (max 1 item.masteryLevel + 1) ≤ 4
      omega

theorem rightItem_not_active (item : ReviewItem) (context : Context) (answeredAt : Nat) :
    (rightItem item context answeredAt).state ≠ .active := by
  have hno : ∀ level : Nat, (if 4 ≤ level then State.mastered else .hidden) ≠ .active := by
    intro level
    by_cases hfour : 4 ≤ level
    · rw [if_pos hfour]
      decide
    · rw [if_neg hfour]
      decide
  exact hno _

theorem relearned_eq (item : ReviewItem) :
    item.relearned = item.relearningCount + if item.state ≠ .active then 1 else 0 := by
  unfold ReviewItem.relearned
  cases item.state <;> simp

theorem count_relearnedBy (hdistinct : Table.Distinct ReviewItem.id bank.items) {item : ReviewItem}
    (hitem : item ∈ bank.items) :
    (relearnedBy bank next).count item.id =
      if item.state ≠ .active ∧ (next.findItem item.id).any (·.state = .active) = true then 1
      else 0 := by
  have hcount := hdistinct.count_filter (fun item : ReviewItem => decide (item.state ≠ .active) &&
    (next.findItem item.id).any (·.state = .active)) hitem
  simpa [relearnedBy] using hcount

theorem relearnedBy_eq_nil (h : ∀ item ∈ bank.items, next.findItem item.id = some item) :
    relearnedBy bank next = [] := by
  show List.map _ (List.filter _ bank.items) = []
  rw [map_eq_nil_iff, filter_eq_nil_iff]
  intro item hitem
  rw [h item hitem]
  simp

theorem relearnedBy_congr {other : Bank} (h : other.items = next.items) :
    relearnedBy bank other = relearnedBy bank next := by
  unfold relearnedBy Bank.findItem
  rw [h]

theorem mem_relearnedBy {id : Nat} (h : id ∈ relearnedBy bank next) :
    ∃ item ∈ bank.items, item.id = id := by
  obtain ⟨item, hitem, hid⟩ := mem_map.1 h
  exact ⟨item, mem_of_mem_filter hitem, hid⟩

section
variable {ρ : Type} {owner : ρ → Nat} {rows added : List ρ} {id other : Nat}

theorem filter_added (h : ∀ row ∈ added, owner row = id) :
    (rows ++ added).filter (owner · = id) = rows.filter (owner · = id) ++ added := by
  rw [filter_append]
  congr 1
  rw [filter_eq_self]
  intro row hrow
  simp [h row hrow]

theorem filter_added_other (h : ∀ row ∈ added, owner row = id) (hother : other ≠ id) :
    (rows ++ added).filter (owner · = other) = rows.filter (owner · = other) := by
  rw [filter_append]
  have hnone : added.filter (owner · = other) = [] := by
    rw [filter_eq_nil_iff]
    intro row hrow
    rw [h row hrow]
    simpa using hother.symm
  rw [hnone, append_nil]

end

theorem answersOf_eq (bank : Bank) (item : Nat) (wasCorrect : Bool) :
    answersOf bank item wasCorrect =
      (bank.answers.filter (·.reviewItem = item)).filter (·.wasCorrect = wasCorrect) := by
  unfold answersOf
  rw [filter_filter]
  congr 1
  funext answer
  exact Bool.and_comm _ _

/-- The items with the rows that they count, at the instant of the last call. -/
structure ItemsKept (bank : Bank) (relearned : List Nat) (now : Nat) : Prop where
  distinct : Table.Distinct ReviewItem.id bank.items
  fresh : ∀ item ∈ bank.items, item.id < bank.nextItem
  mistakes : ∀ mistake ∈ bank.mistakes, mistake.reviewItem < bank.nextItem ∧ mistake.answeredAt ≤ now
  answers : ∀ answer ∈ bank.answers, answer.reviewItem < bank.nextItem ∧ answer.answeredAt ≤ now
  back : ∀ id ∈ relearned, id < bank.nextItem
  items : ∀ item ∈ bank.items, ItemSound bank relearned item

structure WeeklyKept (bank : Bank) : Prop where
  sessionsDistinct : Table.Distinct WeeklyRecallSession.id bank.sessions
  questionsDistinct : Table.Distinct WeeklyRecallQuestion.id bank.questions
  sessionsFresh : ∀ session ∈ bank.sessions, session.id < bank.nextSession
  questionsFresh : ∀ question ∈ bank.questions,
    question.id < bank.nextQuestion ∧ question.session < bank.nextSession
  sound : ∀ session ∈ bank.sessions, SessionSound bank session

theorem ItemsKept.later {later : Nat} (h : ItemsKept bank relearned now) (hle : now ≤ later) :
    ItemsKept bank relearned later where
  distinct := h.distinct
  fresh := h.fresh
  mistakes mistake hmem := ⟨(h.mistakes mistake hmem).1, (h.mistakes mistake hmem).2.trans hle⟩
  answers answer hmem := ⟨(h.answers answer hmem).1, (h.answers answer hmem).2.trans hle⟩
  back := h.back
  items := h.items

theorem ItemsKept.congr (h : ItemsKept bank relearned now) (hitems : next.items = bank.items)
    (hmistakes : next.mistakes = bank.mistakes) (hanswers : next.answers = bank.answers)
    (hnext : next.nextItem = bank.nextItem) : ItemsKept next relearned now := by
  have hsame : next = { bank with
      sessions := next.sessions
      questions := next.questions
      nextSession := next.nextSession
      nextQuestion := next.nextQuestion } := by
    cases next
    cases hitems
    cases hmistakes
    cases hanswers
    cases hnext
    rfl
  rw [hsame]
  exact ⟨h.distinct, h.fresh, h.mistakes, h.answers, h.back, fun item hitem =>
    have hitem := h.items item hitem
    ⟨hitem.state, hitem.mistakes, hitem.correct, hitem.incorrect, hitem.relearned, hitem.next⟩⟩

theorem WeeklyKept.congr (h : WeeklyKept bank) (hsessions : next.sessions = bank.sessions)
    (hquestions : next.questions = bank.questions) (hsession : next.nextSession = bank.nextSession)
    (hquestion : next.nextQuestion = bank.nextQuestion) : WeeklyKept next := by
  have hof : ∀ id, questionsOf next id = questionsOf bank id := by
    intro id
    unfold questionsOf
    rw [hquestions]
  constructor
  · rw [hsessions]
    exact h.sessionsDistinct
  · rw [hquestions]
    exact h.questionsDistinct
  · rw [hsessions, hsession]
    exact h.sessionsFresh
  · rw [hquestions, hsession, hquestion]
    exact h.questionsFresh
  · rw [hsessions]
    intro session hsession
    have hsound := h.sound session hsession
    unfold SessionSound correctQuestions at hsound ⊢
    rw [hof]
    exact hsound

def change (bank : Bank) (item : ReviewItem) (mistakes : List MistakeEvent)
    (answers : List ReviewAnswerLog) : Bank :=
  { bank with
    items := Table.put ReviewItem.id bank.items item
    mistakes := bank.mistakes ++ mistakes
    answers := bank.answers ++ answers }

structure Change (item after : ReviewItem) (mistakes : List MistakeEvent)
    (answers : List ReviewAnswerLog) (now : Nat) : Prop where
  id : after.id = item.id
  mistakesOf : ∀ mistake ∈ mistakes, mistake.reviewItem = item.id ∧ mistake.answeredAt = now
  answersOf : ∀ answer ∈ answers, answer.reviewItem = item.id ∧ answer.answeredAt = now
  some : mistakes ≠ [] ∨ answers ≠ []
  state : GoesWith after.state after.masteryLevel
  mistakeCount : after.mistakeCount = item.mistakeCount + mistakes.length
  correct : after.reviewCorrectCount =
    item.reviewCorrectCount + (answers.filter (·.wasCorrect = true)).length
  incorrect : after.reviewIncorrectCount =
    item.reviewIncorrectCount + (answers.filter (·.wasCorrect = false)).length
  relearned : after.relearningCount =
    item.relearningCount + if item.state ≠ .active ∧ after.state = .active then 1 else 0
  next : after.nextReviewAt = nextReviewAt now after.masteryLevel

section
variable {item after other : ReviewItem} {mistakes : List MistakeEvent}
  {answers : List ReviewAnswerLog}

theorem ItemSound.change_other (hother : ItemSound bank relearned other)
    (hchange : Change item after mistakes answers now) (hne : other.id ≠ item.id)
    (hcount : (relearnedBy bank (change bank after mistakes answers)).count other.id = 0) :
    ItemSound (change bank after mistakes answers)
      (relearned ++ relearnedBy bank (change bank after mistakes answers)) other := by
  have hmistakes : (change bank after mistakes answers).mistakes.filter (·.reviewItem = other.id) =
      bank.mistakes.filter (·.reviewItem = other.id) :=
    filter_added_other (fun mistake hmem => (hchange.mistakesOf mistake hmem).1) hne
  have hanswers : (change bank after mistakes answers).answers.filter (·.reviewItem = other.id) =
      bank.answers.filter (·.reviewItem = other.id) :=
    filter_added_other (fun answer hmem => (hchange.answersOf answer hmem).1) hne
  have hinstants : instantsOf (change bank after mistakes answers) other.id =
      instantsOf bank other.id := by
    unfold instantsOf
    rw [hmistakes, hanswers]
  constructor
  · exact hother.state
  · rw [hmistakes]
    exact hother.mistakes
  · rw [answersOf_eq, hanswers, ← answersOf_eq]
    exact hother.correct
  · rw [answersOf_eq, hanswers, ← answersOf_eq]
    exact hother.incorrect
  · rw [count_append, hcount]
    exact hother.relearned
  · rw [hinstants]
    exact hother.next

theorem ItemSound.change_self (hkept : ItemsKept bank relearned now) (hitem : item ∈ bank.items)
    {later : Nat} (hle : now ≤ later) (hchange : Change item after mistakes answers later)
    (hcount : (relearnedBy bank (change bank after mistakes answers)).count item.id =
      if item.state ≠ .active ∧ after.state = .active then 1 else 0) :
    ItemSound (change bank after mistakes answers)
      (relearned ++ relearnedBy bank (change bank after mistakes answers)) after := by
  have hsound := hkept.items item hitem
  have hmistakes : (change bank after mistakes answers).mistakes.filter (·.reviewItem = item.id) =
      bank.mistakes.filter (·.reviewItem = item.id) ++ mistakes :=
    filter_added fun mistake hmem => (hchange.mistakesOf mistake hmem).1
  have hanswers : (change bank after mistakes answers).answers.filter (·.reviewItem = item.id) =
      bank.answers.filter (·.reviewItem = item.id) ++ answers :=
    filter_added fun answer hmem => (hchange.answersOf answer hmem).1
  constructor
  · exact hchange.state
  · rw [hchange.id, hmistakes, length_append, hchange.mistakeCount, hsound.mistakes]
  · rw [hchange.id, answersOf_eq, hanswers, filter_append, length_append,
      ← answersOf_eq, hchange.correct, hsound.correct]
  · rw [hchange.id, answersOf_eq, hanswers, filter_append, length_append,
      ← answersOf_eq, hchange.incorrect, hsound.incorrect]
  · rw [hchange.id, count_append, hcount, hchange.relearned, hsound.relearned]
  · refine ⟨later, ?_, ?_, hchange.next⟩
    · unfold instantsOf
      rw [hchange.id, hmistakes, hanswers, mem_append]
      rcases hchange.some with hsome | hsome
      · obtain ⟨mistake, hmem⟩ := exists_mem_of_ne_nil mistakes hsome
        exact .inl (mem_map.2 ⟨mistake, mem_append_right _ hmem,
          (hchange.mistakesOf mistake hmem).2⟩)
      · obtain ⟨answer, hmem⟩ := exists_mem_of_ne_nil answers hsome
        exact .inr (mem_map.2 ⟨answer, mem_append_right _ hmem,
          (hchange.answersOf answer hmem).2⟩)
    · unfold instantsOf
      rw [hchange.id, hmistakes, hanswers]
      intro instant hinstant
      rcases mem_append.1 hinstant with hmem | hmem
      · obtain ⟨mistake, hrow, rfl⟩ := mem_map.1 hmem
        rcases mem_append.1 hrow with hold | hnew
        · exact (hkept.mistakes mistake (mem_of_mem_filter hold)).2.trans hle
        · exact (hchange.mistakesOf mistake hnew).2.le
      · obtain ⟨answer, hrow, rfl⟩ := mem_map.1 hmem
        rcases mem_append.1 hrow with hold | hnew
        · exact (hkept.answers answer (mem_of_mem_filter hold)).2.trans hle
        · exact (hchange.answersOf answer hnew).2.le

theorem ItemsKept.change (hkept : ItemsKept bank relearned now) (hitem : item ∈ bank.items)
    {later : Nat} (hle : now ≤ later) (hchange : Change item after mistakes answers later) :
    ItemsKept (change bank after mistakes answers)
      (relearned ++ relearnedBy bank (Review.change bank after mistakes answers)) later := by
  have hfresh := hkept.fresh item hitem
  constructor
  · exact hkept.distinct.put after
  · intro row hrow
    rcases mem_of_mem_put hrow with rfl | hrow
    · show row.id < bank.nextItem
      rw [hchange.id]
      exact hfresh
    · exact hkept.fresh row hrow
  · intro mistake hmem
    rcases mem_append.1 hmem with hold | hnew
    · exact (hkept.later hle).mistakes mistake hold
    · obtain ⟨howner, hinstant⟩ := hchange.mistakesOf mistake hnew
      rw [howner, hinstant]
      exact ⟨hfresh, le_rfl⟩
  · intro answer hmem
    rcases mem_append.1 hmem with hold | hnew
    · exact (hkept.later hle).answers answer hold
    · obtain ⟨howner, hinstant⟩ := hchange.answersOf answer hnew
      rw [howner, hinstant]
      exact ⟨hfresh, le_rfl⟩
  · intro id hmem
    rcases mem_append.1 hmem with hold | hnew
    · exact hkept.back id hold
    · obtain ⟨row, hrow, rfl⟩ := mem_relearnedBy hnew
      exact hkept.fresh row hrow
  · intro row hrow
    have hfound : Table.find ReviewItem.id bank.items after.id = some item := by
      rw [hchange.id]
      exact hkept.distinct.find hitem
    rcases mem_put.1 hrow with ⟨rfl, _⟩ | ⟨hrow, hne⟩
    · apply ItemSound.change_self hkept hitem hle hchange
      rw [count_relearnedBy hkept.distinct hitem, ← hchange.id]
      have hafter : (Review.change bank row mistakes answers).findItem row.id = some row :=
        find_put_self hfound
      simp [hafter]
    · apply (hkept.items row hrow).change_other hchange (hchange.id ▸ hne)
      rw [count_relearnedBy hkept.distinct hrow]
      have hsame : (Review.change bank after mistakes answers).findItem row.id = some row :=
        (find_put_of_ne hne).trans (hkept.distinct.find hrow)
      rw [hsame]
      simp

end

def withNewItem (bank : Bank) (event : QuestionAttemptEvent) : Bank :=
  addMistake { bank with
    items := bank.items ++ [newItem bank.nextItem event]
    nextItem := bank.nextItem + 1 } bank.nextItem event.eventKey event.selectedOptionIds event.answeredAt

section
variable {event : QuestionAttemptEvent}

theorem withNewItem_relearnedBy (hdistinct : Table.Distinct ReviewItem.id bank.items) :
    relearnedBy bank (withNewItem bank event) = [] := by
  apply relearnedBy_eq_nil
  intro item hitem
  show Table.find ReviewItem.id (bank.items ++ [newItem bank.nextItem event]) item.id = some item
  rw [find_append, hdistinct.find hitem]
  rfl

theorem newItem_sound (hkept : ItemsKept bank relearned now) :
    ItemSound (withNewItem bank event) relearned (newItem bank.nextItem event) := by
  have hmistakes : bank.mistakes.filter (·.reviewItem = bank.nextItem) = [] := by
    rw [filter_eq_nil_iff]
    intro mistake hmem
    have hold := (hkept.mistakes mistake hmem).1
    simp only [decide_eq_true_eq]
    omega
  have hanswers : bank.answers.filter (·.reviewItem = bank.nextItem) = [] := by
    rw [filter_eq_nil_iff]
    intro answer hmem
    have hold := (hkept.answers answer hmem).1
    simp only [decide_eq_true_eq]
    omega
  have hof : ∀ wasCorrect, answersOf (withNewItem bank event) bank.nextItem wasCorrect = [] := by
    intro wasCorrect
    rw [answersOf_eq]
    show (bank.answers.filter _).filter _ = []
    rw [hanswers, filter_nil]
  have hown : (withNewItem bank event).mistakes.filter (·.reviewItem = bank.nextItem) =
      [⟨bank.nextItem, event.eventKey, event.selectedOptionIds, event.answeredAt⟩] := by
    show (bank.mistakes ++ [_]).filter _ = _
    rw [filter_append, hmistakes]
    simp
  have hinstants : instantsOf (withNewItem bank event) bank.nextItem = [event.answeredAt] := by
    unfold instantsOf
    rw [hown]
    show _ ++ (bank.answers.filter _).map _ = _
    rw [hanswers]
    rfl
  constructor
  · exact goesWith_active
  · show 1 = _
    rw [show (newItem bank.nextItem event).id = bank.nextItem from rfl, hown]
    rfl
  · show 0 = (answersOf (withNewItem bank event) bank.nextItem true).length
    rw [hof]
    rfl
  · show 0 = (answersOf (withNewItem bank event) bank.nextItem false).length
    rw [hof]
    rfl
  · show 0 = relearned.count bank.nextItem
    rw [count_eq_zero_of_not_mem]
    intro hmem
    have hold := hkept.back _ hmem
    omega
  · show ∃ instant ∈ instantsOf (withNewItem bank event) bank.nextItem, _
    rw [show (newItem bank.nextItem event).id = bank.nextItem from rfl, hinstants]
    exact ⟨event.answeredAt, by simp, by simp, (nextReviewAt_zero _).symm⟩

theorem ItemsKept.withNewItem (hkept : ItemsKept bank relearned now) (hle : now ≤ event.answeredAt) :
    ItemsKept (withNewItem bank event) (relearned ++ relearnedBy bank (Review.withNewItem bank event))
      event.answeredAt := by
  rw [withNewItem_relearnedBy hkept.distinct, append_nil]
  have hlater := hkept.later hle
  constructor
  · apply hkept.distinct.append
    intro item hitem
    have hold := hkept.fresh item hitem
    show item.id ≠ bank.nextItem
    omega
  · intro item hitem
    show item.id < bank.nextItem + 1
    rcases mem_append.1 hitem with hold | hnew
    · have hold := hkept.fresh item hold
      omega
    · rw [mem_singleton.1 hnew]
      exact Nat.lt_succ_self _
  · intro mistake hmem
    show mistake.reviewItem < bank.nextItem + 1 ∧ _
    rcases mem_append.1 hmem with hold | hnew
    · have hold := hlater.mistakes mistake hold
      exact ⟨by omega, hold.2⟩
    · rw [mem_singleton.1 hnew]
      exact ⟨Nat.lt_succ_self _, le_rfl⟩
  · intro answer hmem
    show answer.reviewItem < bank.nextItem + 1 ∧ _
    have hold := hlater.answers answer hmem
    exact ⟨by omega, hold.2⟩
  · intro id hmem
    show id < bank.nextItem + 1
    have hold := hkept.back id hmem
    omega
  · intro item hitem
    rcases mem_append.1 hitem with hold | hnew
    · -- the mistake is the new item's, so that an older one counts what it counted
      have hne : item.id ≠ bank.nextItem := by
        have hold := hkept.fresh item hold
        omega
      have hmistakes : (Review.withNewItem bank event).mistakes.filter (·.reviewItem = item.id) =
          bank.mistakes.filter (·.reviewItem = item.id) := by
        apply filter_added_other _ hne
        intro mistake hmem
        rw [mem_singleton.1 hmem]
      have hinstants : instantsOf (Review.withNewItem bank event) item.id =
          instantsOf bank item.id := by
        unfold instantsOf
        rw [hmistakes]
        rfl
      have hsound := hkept.items item hold
      constructor
      · exact hsound.state
      · rw [hmistakes]
        exact hsound.mistakes
      · exact hsound.correct
      · exact hsound.incorrect
      · exact hsound.relearned
      · rw [hinstants]
        exact hsound.next
    · rw [mem_singleton.1 hnew]
      exact newItem_sound hkept

end

section
variable {item : ReviewItem}

theorem mistakenItem_change {event : QuestionAttemptEvent} :
    Change item (mistakenItem item event)
      [⟨item.id, event.eventKey, event.selectedOptionIds, event.answeredAt⟩] [] event.answeredAt where
  id := rfl
  mistakesOf mistake hmem := by
    rw [mem_singleton.1 hmem]
    exact ⟨rfl, rfl⟩
  answersOf answer hmem := absurd hmem not_mem_nil
  some := .inl (cons_ne_nil _ _)
  state := goesWith_active
  mistakeCount := rfl
  correct := rfl
  incorrect := rfl
  relearned := by
    show item.relearned = _
    rw [relearned_eq]
    simp [mistakenItem]
  next := (nextReviewAt_zero _).symm

theorem rightItem_change (hstate : GoesWith item.state item.masteryLevel) {answer : ReviewAnswerLog}
    (howner : answer.reviewItem = item.id) (hright : answer.wasCorrect = true) :
    Change item (rightItem item answer.context answer.answeredAt) [] [answer] answer.answeredAt where
  id := rfl
  mistakesOf mistake hmem := absurd hmem not_mem_nil
  answersOf other hmem := by
    rw [mem_singleton.1 hmem]
    exact ⟨howner, rfl⟩
  some := .inr (cons_ne_nil _ _)
  state := goesWith_rightItem hstate answer.context answer.answeredAt
  mistakeCount := rfl
  correct := by
    simp [hright, rightItem]
  incorrect := by
    simp [hright, rightItem]
  relearned := by
    rw [if_neg fun h => rightItem_not_active item answer.context answer.answeredAt h.2]
    rfl
  next := rfl

theorem wrongItem_change {answer : ReviewAnswerLog} {eventKey : String}
    (howner : answer.reviewItem = item.id) (hwrong : answer.wasCorrect = false) :
    Change item (wrongItem item answer.answeredAt)
      [⟨item.id, eventKey, answer.selectedOptionIds, answer.answeredAt⟩] [answer]
      answer.answeredAt where
  id := rfl
  mistakesOf mistake hmem := by
    rw [mem_singleton.1 hmem]
    exact ⟨rfl, rfl⟩
  answersOf other hmem := by
    rw [mem_singleton.1 hmem]
    exact ⟨howner, rfl⟩
  some := .inl (cons_ne_nil _ _)
  state := goesWith_active
  mistakeCount := rfl
  correct := by
    simp [hwrong, wrongItem]
  incorrect := by
    simp [hwrong, wrongItem]
  relearned := by
    show item.relearned = _
    rw [relearned_eq]
    simp [wrongItem]
  next := (nextReviewAt_zero _).symm

end

section
variable {question answered : WeeklyRecallQuestion} {session : WeeklyRecallSession}

theorem questionsOf_put_other (hkept : WeeklyKept bank) (hquestion : question ∈ bank.questions)
    (hid : answered.id = question.id) (hsession : answered.session = question.session) {id : Nat}
    (hother : id ≠ question.session) :
    (Table.put WeeklyRecallQuestion.id bank.questions answered).filter (·.session = id) =
      questionsOf bank id := by
  have hsame : ∀ row ∈ bank.questions, row.id = answered.id → row = question := by
    intro row hrow hkey
    exact hkept.questionsDistinct.eq hrow hquestion (hkey.trans hid)
  rw [filter_put]
  · apply put_of_not_mem
    intro row hrow hkey
    obtain ⟨hin, hof⟩ := mem_filter.1 hrow
    rw [hsame row hin hkey] at hof
    exact hother (of_decide_eq_true hof).symm
  · intro row hrow hkey
    rw [hsame row hrow hkey, hsession]

theorem WeeklyKept.answer (hkept : WeeklyKept bank) (hquestion : question ∈ bank.questions)
    (hid : answered.id = question.id) (hsame : answered.session = question.session)
    (hsession : session ∈ bank.sessions) (hof : question.session = session.id)
    (hactive : session.status = .active) (answeredAt : Nat) :
    WeeklyKept (completeWeeklySessionIfReady
      { bank with questions := Table.put WeeklyRecallQuestion.id bank.questions answered } session
      answeredAt) := by
  have hdistinct := hkept.questionsDistinct.put answered
  have hfresh : ∀ row ∈ Table.put WeeklyRecallQuestion.id bank.questions answered,
      row.id < bank.nextQuestion ∧ row.session < bank.nextSession := by
    refine forall_mem_put hkept.questionsFresh ?_
    rw [hid, hsame]
    exact hkept.questionsFresh question hquestion
  have hothers : ∀ other ∈ bank.sessions, other.id ≠ session.id →
      SessionSound { bank with
        questions := Table.put WeeklyRecallQuestion.id bank.questions answered } other := by
    intro other hother hne
    have hsound := hkept.sound other hother
    have hquestions := questionsOf_put_other hkept hquestion hid hsame (hof ▸ hne)
    show (_ ↔ ∀ row ∈ (Table.put WeeklyRecallQuestion.id bank.questions answered).filter _, _) ∧
      (_ → _ = (((Table.put WeeklyRecallQuestion.id bank.questions answered).filter _).filter _).length)
    rw [hquestions]
    exact hsound
  unfold completeWeeklySessionIfReady
  by_cases hopen : ((questionsOf { bank with
      questions := Table.put WeeklyRecallQuestion.id bank.questions answered } session.id).any
        (·.answeredAt.isNone)) = true
  · rw [if_pos hopen]
    refine ⟨hkept.sessionsDistinct, hdistinct, hkept.sessionsFresh, hfresh, ?_⟩
    intro other hother
    by_cases hne : other.id = session.id
    · rw [hkept.sessionsDistinct.eq hother hsession hne]
      obtain ⟨row, hrow, hnone⟩ := List.any_eq_true.1 hopen
      refine ⟨iff_of_false (by simp [hactive]) ?_, by simp [hactive]⟩
      intro hall
      have hsome := hall row hrow
      rw [Option.isNone_iff_eq_none.1 hnone] at hsome
      simp at hsome
    · exact hothers other hother hne
  · rw [if_neg hopen]
    refine ⟨hkept.sessionsDistinct.put _, hdistinct, ?_, hfresh, ?_⟩
    · exact forall_mem_put hkept.sessionsFresh (hkept.sessionsFresh session hsession)
    · intro other hother
      rcases mem_put.1 hother with ⟨rfl, _⟩ | ⟨hother, hne⟩
      · refine ⟨iff_of_true rfl ?_, fun _ => rfl⟩
        intro row hrow
        by_contra hnone
        apply hopen
        rw [List.any_eq_true]
        exact ⟨row, hrow, by simpa using hnone⟩
      · exact hothers other hother hne

end

theorem mem_newQuestions {firstId session : Nat} {items : List Nat} {question : WeeklyRecallQuestion}
    (h : question ∈ newQuestions firstId session items) :
    question.session = session ∧ question.answeredAt = none ∧ firstId ≤ question.id ∧
      question.id < firstId + items.length := by
  obtain ⟨entry, hentry, rfl⟩ := mem_map.1 h
  have hlt := snd_lt_of_mem_zipIdx hentry
  refine ⟨rfl, rfl, ?_, ?_⟩
  · show firstId ≤ firstId + entry.2
    omega
  · show firstId + entry.2 < firstId + items.length
    omega

theorem newQuestions_distinct (firstId session : Nat) (items : List Nat) :
    Table.Distinct WeeklyRecallQuestion.id (newQuestions firstId session items) := by
  have hids : (newQuestions firstId session items).map (·.id) =
      (List.range' 0 items.length).map (firstId + ·) := by
    rw [← zipIdx_map_snd, map_map]
    exact map_map
  show ((newQuestions firstId session items).map (·.id)).Nodup
  rw [hids]
  exact List.Nodup.map (fun a b hab => Nat.add_left_cancel hab) nodup_range'

theorem newQuestions_ne_nil (firstId session : Nat) {items : List Nat} (h : items ≠ []) :
    newQuestions firstId session items ≠ [] := by
  cases items with
  | nil => exact absurd rfl h
  | cons item rest => exact cons_ne_nil _ _

theorem WeeklyKept.create (hkept : WeeklyKept bank) {items : List Nat} (hitems : items ≠ [])
    (week now : Nat) :
    WeeklyKept { bank with
      sessions := bank.sessions ++ [⟨bank.nextSession, week, .active, items.length, 0, now, none⟩]
      questions := bank.questions ++ newQuestions bank.nextQuestion bank.nextSession items
      nextSession := bank.nextSession + 1
      nextQuestion := bank.nextQuestion + items.length } := by
  constructor
  · apply hkept.sessionsDistinct.append
    intro session hsession
    have hold := hkept.sessionsFresh session hsession
    show session.id ≠ bank.nextSession
    omega
  · show ((bank.questions ++ newQuestions bank.nextQuestion bank.nextSession items).map (·.id)).Nodup
    rw [map_append, nodup_append]
    refine ⟨hkept.questionsDistinct, newQuestions_distinct _ _ _, ?_⟩
    intro a ha b hb
    obtain ⟨old, hold, rfl⟩ := mem_map.1 ha
    obtain ⟨new, hnew, rfl⟩ := mem_map.1 hb
    have hlt := (hkept.questionsFresh old hold).1
    have hle := (mem_newQuestions hnew).2.2.1
    omega
  · intro session hsession
    show session.id < bank.nextSession + 1
    rcases mem_append.1 hsession with hold | hnew
    · have hlt := hkept.sessionsFresh session hold
      omega
    · rw [mem_singleton.1 hnew]
      exact Nat.lt_succ_self _
  · intro question hquestion
    show question.id < bank.nextQuestion + items.length ∧ question.session < bank.nextSession + 1
    rcases mem_append.1 hquestion with hold | hnew
    · have hlt := hkept.questionsFresh question hold
      omega
    · have hlt := mem_newQuestions hnew
      omega
  · intro session hsession
    rcases mem_append.1 hsession with hold | hnew
    · -- the new questions are the new session's, so that an older one has its own
      have hsound := hkept.sound session hold
      have hsame : (bank.questions ++ newQuestions bank.nextQuestion bank.nextSession items).filter
          (·.session = session.id) = questionsOf bank session.id := by
        apply filter_added_other (fun question hquestion => (mem_newQuestions hquestion).1)
        have hlt := hkept.sessionsFresh session hold
        omega
      unfold SessionSound correctQuestions questionsOf at hsound ⊢
      rw [hsame]
      exact hsound
    · rw [mem_singleton.1 hnew]
      refine ⟨iff_of_false (by simp) ?_, by simp⟩
      intro hall
      obtain ⟨question, hquestion⟩ := exists_mem_of_ne_nil _
        (newQuestions_ne_nil bank.nextQuestion bank.nextSession hitems)
      obtain ⟨hof, hnone, _⟩ := mem_newQuestions hquestion
      have hsome := hall question (mem_filter.2
        ⟨mem_append_right _ hquestion, decide_eq_true hof⟩)
      rw [hnone] at hsome
      simp at hsome

structure Kept (bank : Bank) (relearned : List Nat) (now : Nat) : Prop where
  items : ItemsKept bank relearned now
  weekly : WeeklyKept bank

theorem Kept.same_items (hkept : Kept bank relearned now) {later : Nat} (hle : now ≤ later)
    (hitems : next.items = bank.items) (hmistakes : next.mistakes = bank.mistakes)
    (hanswers : next.answers = bank.answers) (hnext : next.nextItem = bank.nextItem)
    (hweekly : WeeklyKept next) : Kept next (relearned ++ relearnedBy bank next) later := by
  have hnone : relearnedBy bank next = [] := by
    apply relearnedBy_eq_nil
    intro item hitem
    unfold Bank.findItem
    rw [hitems]
    exact hkept.items.distinct.find hitem
  rw [hnone, append_nil]
  exact ⟨(hkept.items.later hle).congr hitems hmistakes hanswers hnext, hweekly⟩

theorem Kept.unchanged (hkept : Kept bank relearned now) {later : Nat} (hle : now ≤ later) :
    Kept bank (relearned ++ relearnedBy bank bank) later :=
  hkept.same_items hle rfl rfl rfl rfl hkept.weekly

theorem Kept.recordMistake {event : QuestionAttemptEvent} (hkept : Kept bank relearned now)
    (hle : now ≤ event.answeredAt) (h : recordMistake bank event = .ok next) :
    Kept next (relearned ++ relearnedBy bank next) event.answeredAt := by
  unfold Review.recordMistake at h
  cases hevent : Table.find MistakeEvent.eventKey bank.mistakes event.eventKey with
  | some existing =>
    rw [hevent] at h
    simp only at h
    by_cases hother : ((bank.findItem existing.reviewItem).any
        (·.canonicalKey ≠ event.canonicalKey)) = true
    · rw [if_pos hother] at h
      simp at h
    · rw [if_neg hother] at h
      obtain rfl := Except.ok.inj h
      exact hkept.unchanged hle
  | none =>
    rw [hevent] at h
    cases hitem : Table.find ReviewItem.canonicalKey bank.items event.canonicalKey with
    | none =>
      rw [hitem] at h
      obtain rfl := Except.ok.inj h
      exact ⟨hkept.items.withNewItem hle, hkept.weekly.congr rfl rfl rfl rfl⟩
    | some item =>
      rw [hitem] at h
      have hwritten : addMistake (bank.putItem (mistakenItem item event)) item.id event.eventKey
          event.selectedOptionIds event.answeredAt = change bank (mistakenItem item event)
            [⟨item.id, event.eventKey, event.selectedOptionIds, event.answeredAt⟩] [] := by
        unfold change
        rw [append_nil]
        rfl
      obtain rfl := (Except.ok.inj h).symm.trans hwritten
      exact ⟨hkept.items.change (find_mem hitem) hle mistakenItem_change,
        hkept.weekly.congr rfl rfl rfl rfl⟩

theorem Kept.recordQuestionAttempt {event : QuestionAttemptEvent} (hkept : Kept bank relearned now)
    (hle : now ≤ event.answeredAt) (h : recordQuestionAttempt isSpace bank event = .ok next) :
    Kept next (relearned ++ relearnedBy bank next) event.answeredAt := by
  obtain ⟨_, _, h⟩ := bind_eq_ok.1 h
  by_cases hcorrect : event.isCorrect = true
  · rw [if_pos hcorrect] at h
    obtain rfl := Except.ok.inj h
    exact hkept.unchanged hle
  · rw [if_neg hcorrect] at h
    exact hkept.recordMistake hle h

theorem Kept.writeAnswer {item : ReviewItem} {question : Option WeeklyRecallQuestion}
    (hkept : Kept bank relearned now) (hle : now ≤ request.now) (hitem : item ∈ bank.items)
    (h : writeAnswer bank item request question = .ok next) :
    Kept next (relearned ++ relearnedBy bank next) request.now ∧
      next.sessions = bank.sessions ∧ next.questions = bank.questions := by
  unfold Review.writeAnswer at h
  set answer : ReviewAnswerLog := ⟨item.id, question.map (·.id), request.idempotencyKey,
    request.context, request.selectedOptionIds, isRight item request.selectedOptionIds, request.now⟩
  have howner : answer.reviewItem = item.id := rfl
  by_cases hright : isRight item request.selectedOptionIds = true
  · rw [if_pos hright] at h
    have hwritten : (addAnswer bank answer).putItem (rightItem item request.context request.now) =
        change bank (rightItem item request.context request.now) [] [answer] := by
      unfold change
      rw [append_nil]
      rfl
    have hchange : Change item (rightItem item request.context request.now) [] [answer] request.now :=
      rightItem_change (hkept.items.items item hitem).state howner hright
    obtain rfl := (Except.ok.inj h).symm.trans hwritten
    exact ⟨⟨hkept.items.change hitem hle hchange, hkept.weekly.congr rfl rfl rfl rfl⟩, rfl, rfl⟩
  · rw [if_neg hright] at h
    by_cases htaken : (Table.find MistakeEvent.eventKey bank.mistakes
        (reviewAnswerKey request.idempotencyKey)).isSome = true
    · rw [if_pos htaken] at h
      simp at h
    · rw [if_neg htaken] at h
      have hwrong : answer.wasCorrect = false := Bool.eq_false_iff.2 hright
      have hchange : Change item (wrongItem item request.now)
          [⟨item.id, reviewAnswerKey request.idempotencyKey, request.selectedOptionIds, request.now⟩]
          [answer] request.now := wrongItem_change howner hwrong
      obtain rfl := Except.ok.inj h
      exact ⟨⟨hkept.items.change hitem hle hchange, hkept.weekly.congr rfl rfl rfl rfl⟩, rfl, rfl⟩

theorem weeklyQuestionFor_ok {item : ReviewItem} {question : WeeklyRecallQuestion}
    (h : weeklyQuestionFor bank item request = .ok (some question)) :
    question ∈ bank.questions ∧ ∃ session,
      Table.find WeeklyRecallSession.id bank.sessions question.session = some session ∧
        session.status = .active := by
  unfold weeklyQuestionFor at h
  cases hcontext : request.context with
  | reviewBank =>
    rw [hcontext] at h
    obtain ⟨hhidden, h⟩ := unless_ok.1 h
    exact absurd (Except.ok.inj h) (by simp)
  | weeklyRecall =>
    rw [hcontext] at h
    cases hfind : request.weeklyQuestion.bind (Table.find WeeklyRecallQuestion.id bank.questions) with
    | none =>
      rw [hfind] at h
      simp at h
    | some found =>
      rw [hfind] at h
      simp only at h
      by_cases hother : found.reviewItem ≠ item.id ∨ ((Table.find WeeklyRecallSession.id bank.sessions
          found.session).any (·.status = .active)) = false
      · rw [if_pos hother] at h
        simp at h
      rw [if_neg hother] at h
      by_cases hanswered : found.answeredAt.isSome = true
      · rw [if_pos hanswered] at h
        simp at h
      rw [if_neg hanswered] at h
      obtain rfl : found = question := Option.some.inj (Except.ok.inj h)
      obtain ⟨id, _, hid⟩ := Option.bind_eq_some_iff.1 hfind
      have hactive : ((Table.find WeeklyRecallSession.id bank.sessions found.session).any
          (·.status = .active)) = true := by
        by_contra hnone
        exact hother (.inr (Bool.eq_false_iff.2 hnone))
      obtain ⟨session, hsession, hstatus⟩ := (Option.any_eq_true _ _).1 hactive
      exact ⟨find_mem hid, session, hsession, of_decide_eq_true hstatus⟩

theorem completeWeeklySessionIfReady_items (bank : Bank) (session : WeeklyRecallSession)
    (answeredAt : Nat) :
    (completeWeeklySessionIfReady bank session answeredAt).items = bank.items ∧
      (completeWeeklySessionIfReady bank session answeredAt).mistakes = bank.mistakes ∧
      (completeWeeklySessionIfReady bank session answeredAt).answers = bank.answers ∧
      (completeWeeklySessionIfReady bank session answeredAt).nextItem = bank.nextItem := by
  unfold completeWeeklySessionIfReady
  by_cases hopen : ((questionsOf bank session.id).any (·.answeredAt.isNone)) = true
  · rw [if_pos hopen]
    exact ⟨rfl, rfl, rfl, rfl⟩
  · rw [if_neg hopen]
    exact ⟨rfl, rfl, rfl, rfl⟩

theorem Kept.answerReviewItem (hkept : Kept bank relearned now) (hle : now ≤ request.now)
    (h : answerReviewItem bank request = .ok next) :
    Kept next (relearned ++ relearnedBy bank next) request.now := by
  unfold Review.answerReviewItem at h
  cases hkey : Table.find ReviewAnswerLog.idempotencyKey bank.answers request.idempotencyKey with
  | some existing =>
    rw [hkey] at h
    obtain ⟨hother, h⟩ := unless_ok.1 h
    obtain rfl := Except.ok.inj h
    exact hkept.unchanged hle
  | none =>
    rw [hkey] at h
    cases hitem : bank.findItem request.reviewItem with
    | none =>
      rw [hitem] at h
      simp at h
    | some item =>
      rw [hitem] at h
      obtain ⟨_, _, h⟩ := bind_eq_ok.1 h
      obtain ⟨question, hquestion, h⟩ := bind_eq_ok.1 h
      obtain ⟨written, hwrite, h⟩ := bind_eq_ok.1 h
      obtain ⟨hwritten, hsessions, hquestions⟩ :=
        hkept.writeAnswer hle (find_mem hitem) hwrite
      obtain rfl := Except.ok.inj h
      cases question with
      | none => exact hwritten
      | some question =>
        obtain ⟨hmem, session, hsession, hactive⟩ := weeklyQuestionFor_ok hquestion
        rw [← hquestions] at hmem
        rw [← hsessions] at hsession
        set answered := answeredQuestion question request.selectedOptionIds
          (isRight item request.selectedOptionIds) request.now with hanswered
        have hid : answered.id = question.id := rfl
        have hsame : answered.session = question.session := rfl
        have hresult : writeWeeklyAnswer written item request (some question) =
            completeWeeklySessionIfReady { written with
              questions := Table.put WeeklyRecallQuestion.id written.questions answered } session
              request.now := by
          unfold writeWeeklyAnswer
          simp only [hsession, hanswered]
        rw [hresult]
        obtain ⟨hitems, hmistakes, hanswers, hnext⟩ := completeWeeklySessionIfReady_items
          { written with questions := Table.put WeeklyRecallQuestion.id written.questions answered }
          session request.now
        rw [relearnedBy_congr hitems]
        refine ⟨hwritten.items.congr hitems hmistakes hanswers hnext, ?_⟩
        exact hwritten.weekly.answer hmem hid hsame (find_mem hsession)
          (find_key hsession).symm hactive request.now

theorem Kept.createOrResumeWeeklyRecall {pick : Pick} {later : Nat}
    (hkept : Kept bank relearned now) (hle : now ≤ later)
    (h : createOrResumeWeeklyRecall bank pick later = .ok next) :
    Kept next (relearned ++ relearnedBy bank next) later := by
  unfold Review.createOrResumeWeeklyRecall at h
  by_cases hthis : (Table.find WeeklyRecallSession.weekKey bank.sessions (isoWeekKey later)).isSome = true
  · rw [if_pos hthis] at h
    obtain rfl := Except.ok.inj h
    exact hkept.unchanged hle
  · rw [if_neg hthis] at h
    obtain ⟨hnone, h⟩ := unless_ok.1 h
    obtain rfl := Except.ok.inj h
    exact hkept.same_items hle rfl rfl rfl rfl (hkept.weekly.create hnone _ _)

theorem Kept.exec {call : Call} (hkept : Kept bank relearned now) (hle : now ≤ call.time)
    (h : call.exec isSpace bank = .ok next) :
    Kept next (relearned ++ relearnedBy bank next) call.time := by
  cases call with
  | attempt event => exact hkept.recordQuestionAttempt hle h
  | answer request => exact hkept.answerReviewItem hle h
  | weeklyRecall pick now => exact hkept.createOrResumeWeeklyRecall hle h

theorem kept_emptyBank : Kept emptyBank [] 0 where
  items := ⟨nodup_nil, by simp [emptyBank], by simp [emptyBank], by simp [emptyBank], by simp,
    by simp [emptyBank]⟩
  weekly := ⟨nodup_nil, nodup_nil, by simp [emptyBank], by simp [emptyBank],
    by simp [emptyBank]⟩

theorem reaches_kept {s : Bank × List Nat}
    (h : ((reviews isSpace).recording relearnedBy).Reaches Machine.Always s now) :
    Kept s.1 s.2 now := by
  have hinv := @Machine.Reaches.invariant _ _ _ ((reviews isSpace).recording relearnedBy)
    Machine.Always (fun s now => Kept s.1 s.2 now) kept_emptyBank
  apply hinv _ h
  intro s now call after hkept hle _ hexec
  obtain ⟨next, hnext, rfl⟩ := map_eq_ok.1 hexec
  exact hkept.exec hle hnext

/-- Whatever is attempted and answered, in any order and however often, every counter of the
bank is the number of the rows it counts. -/
theorem reaches_sound {s : Bank × List Nat}
    (h : ((reviews isSpace).recording relearnedBy).Reaches Machine.Always s now) :
    Sound s.1 s.2 := by
  have hkept := reaches_kept h
  exact ⟨hkept.items.items, hkept.weekly.sound, fun _ _ _ => recordQuestionAttempt_repeated,
    fun _ _ => answerReviewItem_repeated⟩

/-- A question answered wrong, then right, then wrong again in the weekly recall. -/
def comesBack : List Call :=
  [.attempt ⟨"quiz:1", "q1", "biology", "quiz", "Which one?", ["a", "b"], ["b"], ["a"], false, 1000⟩,
   .answer ⟨0, ["a"], 7, .reviewBank, none, 2000⟩,
   .weeklyRecall ⟨[0], by simp, by simp [weeklyRecallLimit]⟩ 3000,
   .answer ⟨0, ["b"], 8, .weeklyRecall, some 0, 4000⟩,
   .attempt ⟨"quiz:1", "q1", "biology", "quiz", "Which one?", ["a", "b"], ["b"], ["a"], false, 5000⟩]

theorem comesBack_sound :
    Sound (((reviews (· = ' ')).recording relearnedBy).outcome comesBack).1
      (((reviews (· = ' ')).recording relearnedBy).outcome comesBack).2 :=
  reaches_sound (.of_accepts (by decide +kernel) (by decide +kernel) (Machine.admitted_always _ _))

end LockIn.Review
