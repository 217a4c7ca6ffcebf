import LockIn.Assessment.AttemptBooks

/-!
# What each call does

A call that answers did one of a few things to the books.
-/

namespace LockIn.Assessment

open List Outcome Table

variable {quizzes : Quizzes} {books : Books}

variable {attempt : Attempt} {now quiz position clientRevision : Nat} {request : StartRequest}
  {result : Books × Nat} {question : AttemptQuestion} {next : Books}

theorem findAttempt_ok {id : Nat} (h : books.findAttempt id = .ok attempt) :
    attempt ∈ books.attempts ∧ attempt.id = id := by
  unfold Books.findAttempt at h
  cases hfind : Table.find Attempt.id books.attempts id with
  | none =>
    rw [hfind] at h
    simp at h
  | some found =>
    rw [hfind] at h
    cases h
    exact ⟨find_mem hfind, find_key hfind⟩

theorem Kept.findAttempt_eq (h : Kept quizzes books) (hin : attempt ∈ books.attempts) :
    books.findAttempt attempt.id = .ok attempt := by
  unfold Books.findAttempt
  rw [h.distinct.find hin]

theorem checkOpen_ok :
    checkOpen attempt now = .ok () ↔ attempt.status = .active ∧ attempt.pastDeadline now = false := by
  unfold checkOpen
  by_cases hactive : attempt.status = .active
  · rw [if_neg (not_not.2 hactive)]
    by_cases hpast : attempt.pastDeadline now = true
    · rw [if_pos hpast]
      simp [hpast]
    · rw [if_neg hpast]
      simp [hactive, Bool.not_eq_true _ ▸ hpast]
  · rw [if_pos hactive]
    simp [hactive]

theorem findActive_some (h : books.findActive quiz = some attempt) :
    attempt ∈ books.attempts ∧ attempt.quiz = quiz ∧ attempt.status = .active := by
  have hsome := find?_some h
  simp only [Bool.and_eq_true, decide_eq_true_eq] at hsome
  exact ⟨mem_of_find?_eq_some h, hsome⟩

theorem findActive_none (h : books.findActive quiz = none) :
    ∀ attempt ∈ books.attempts, attempt.quiz = quiz → attempt.status ≠ .active := by
  intro attempt hin hquiz hactive
  have hno := find?_eq_none.1 h attempt hin
  simp [hquiz, hactive] at hno

theorem Kept.findActive_eq (h : Kept quizzes books) (hin : attempt ∈ books.attempts)
    (hactive : attempt.status = .active) : books.findActive attempt.quiz = some attempt := by
  cases hfind : books.findActive attempt.quiz with
  | none => exact absurd hactive (findActive_none hfind attempt hin rfl)
  | some found =>
    obtain ⟨hfound, hquiz, hfoundActive⟩ := findActive_some hfind
    rw [h.oneActive found hfound attempt hin hquiz hfoundActive hactive]

def HasRoom (books : Books) (version : QuizVersion) (quiz : Nat) : Prop :=
  version.maximumAttempts ≠ 0 → completedAttempts books quiz < version.maximumAttempts

theorem createAttempt_ok {version : QuizVersion}
    (h : createAttempt books version request now = .ok result) :
    HasRoom books version request.quiz ∧ ∃ versions,
      result = (addAttempt books (newAttempt books version request versions now), books.nextAttempt) := by
  unfold createAttempt at h
  by_cases hfull : version.maximumAttempts ≠ 0 ∧
      version.maximumAttempts ≤ completedAttempts books request.quiz
  · rw [if_pos hfull] at h
    simp at h
  · rw [if_neg hfull] at h
    obtain ⟨filters, _, h⟩ := bind_eq_ok.1 h
    obtain ⟨selected, _, h⟩ := bind_eq_ok.1 h
    refine ⟨fun hmaximum => ?_, _, (Except.ok.inj h).symm⟩
    by_contra hno
    exact hfull ⟨hmaximum, by omega⟩

/-- What a start that answers does. -/
inductive Started (quizzes : Quizzes) (books : Books) (request : StartRequest) (now : Nat) :
    Books × Nat → Prop
  /-- The attempt of the key is there. -/
  | returned (existing : Attempt) (hin : existing ∈ books.attempts)
      (hkey : existing.startKey = request.key) (hquiz : existing.quiz = request.quiz)
      (hopen : existing.status = .active → existing.pastDeadline now = false) :
      Started quizzes books request now (books, existing.id)
  /-- The attempt of the key is past its deadline. -/
  | expired (existing : Attempt) (hin : existing ∈ books.attempts)
      (hkey : existing.startKey = request.key) (hquiz : existing.quiz = request.quiz)
      (hactive : existing.status = .active) (hpast : existing.pastDeadline now = true) :
      Started quizzes books request now (closeAttempt books existing now true, existing.id)
  /-- Another key's attempt at the quiz is open. -/
  | resumed (active : Attempt) (hfresh : ∀ attempt ∈ books.attempts, attempt.startKey ≠ request.key)
      (hin : active ∈ books.attempts) (hquiz : active.quiz = request.quiz)
      (hactive : active.status = .active) (hopen : active.pastDeadline now = false) :
      Started quizzes books request now (books, active.id)
  /-- No attempt at the quiz is active. -/
  | created (version : QuizVersion) (versions : List QuestionVersion)
      (hfresh : ∀ attempt ∈ books.attempts, attempt.startKey ≠ request.key)
      (hversion : quizzes request.quiz = some version)
      (hnone : ∀ attempt ∈ books.attempts, attempt.quiz = request.quiz → attempt.status ≠ .active)
      (hroom : HasRoom books version request.quiz) :
      Started quizzes books request now
        (addAttempt books (newAttempt books version request versions now), books.nextAttempt)
  /-- The active attempt at the quiz is past its deadline, and a new one is made. -/
  | replaced (active : Attempt) (version : QuizVersion) (versions : List QuestionVersion)
      (hfresh : ∀ attempt ∈ books.attempts, attempt.startKey ≠ request.key)
      (hin : active ∈ books.attempts) (hquiz : active.quiz = request.quiz)
      (hactive : active.status = .active) (hpast : active.pastDeadline now = true)
      (hversion : quizzes request.quiz = some version)
      (hroom : HasRoom (closeAttempt books active now true) version request.quiz) :
      Started quizzes books request now
        (addAttempt (closeAttempt books active now true)
          (newAttempt (closeAttempt books active now true) version request versions now),
          books.nextAttempt)

theorem Kept.startAttempt_ok (h : Kept quizzes books)
    (hcall : startAttempt quizzes books request now = .ok result) :
    Started quizzes books request now result := by
  unfold startAttempt at hcall
  cases hkey : books.findByKey request.key with
  | some existing =>
    rw [hkey] at hcall
    have hin := find_mem hkey
    have hexisting := find_key hkey
    simp only [restart] at hcall
    by_cases hquiz : existing.quiz = request.quiz
    · rw [if_neg (not_not.2 hquiz)] at hcall
      by_cases hexpired : (existing.status = .active && existing.pastDeadline now) = true
      · rw [if_pos hexpired] at hcall
        simp only [Bool.and_eq_true, decide_eq_true_eq] at hexpired
        rw [h.finalizeAttempt_eq hin hexpired.1] at hcall
        cases hcall
        exact .expired existing hin hexisting hquiz hexpired.1 hexpired.2
      · rw [if_neg hexpired] at hcall
        cases hcall
        refine .returned existing hin hexisting hquiz fun hactive => ?_
        simpa [hactive] using hexpired
    · rw [if_pos hquiz] at hcall
      simp at hcall
  | none =>
    rw [hkey] at hcall
    have hfresh : ∀ attempt ∈ books.attempts, attempt.startKey ≠ request.key :=
      find_eq_none.1 hkey
    cases hversion : quizzes request.quiz with
    | none =>
      rw [hversion] at hcall
      simp at hcall
    | some version =>
      rw [hversion] at hcall
      obtain ⟨_, _, hcall⟩ := bind_eq_ok.1 hcall
      cases hactive : books.findActive request.quiz with
      | none =>
        rw [hactive] at hcall
        obtain ⟨hroom, versions, rfl⟩ := createAttempt_ok hcall
        exact .created version versions hfresh hversion (findActive_none hactive) hroom
      | some active =>
        rw [hactive] at hcall
        obtain ⟨hin, hquiz, hstatus⟩ := findActive_some hactive
        simp only at hcall
        by_cases hpast : active.pastDeadline now = true
        · rw [if_pos hpast, h.finalizeAttempt_eq hin hstatus] at hcall
          obtain ⟨hroom, versions, rfl⟩ := createAttempt_ok hcall
          exact .replaced active version versions hfresh hin hquiz hstatus hpast hversion hroom
        · rw [if_neg hpast] at hcall
          cases hcall
          exact .resumed active hfresh hin hquiz hstatus (Bool.not_eq_true _ ▸ hpast)

theorem Kept.started (h : Kept quizzes books)
    (hstarted : Started quizzes books request now result) : Kept quizzes result.1 := by
  cases hstarted with
  | returned existing => exact h
  | expired existing hin hkey hquiz hactive hpast => exact h.close hin hactive now true
  | resumed active => exact h
  | created version versions hfresh hversion hnone hroom =>
    exact h.add hversion hfresh hnone hroom
  | replaced active version versions hfresh hin hquiz hactive hpast hversion hroom =>
    have hclosed := h.close hin hactive now true
    apply hclosed.add hversion _ _ hroom
    · intro row hrow
      rcases mem_putAttempt hrow with rfl | ⟨hold, _⟩
      · exact hfresh active hin
      · exact hfresh row hold
    · intro row hrow hrowQuiz
      exact h.close_none_active hin hactive now true row hrow (hrowQuiz.trans hquiz.symm)

theorem findQuestion_ok (h : findQuestion attempt position = .ok question) :
    question ∈ attempt.questions ∧ question.position = position := by
  unfold findQuestion at h
  cases hfind : Table.find AttemptQuestion.position attempt.questions position with
  | none =>
    rw [hfind] at h
    simp at h
  | some found =>
    rw [hfind] at h
    cases h
    exact ⟨find_mem hfind, find_key hfind⟩

/-- What a save that is accepted finds and does. -/
structure Saved (books : Books) (request : AnswerRequest) (now : Nat) (attempt : Attempt)
    (question : AttemptQuestion) : Prop where
  attempt_mem : attempt ∈ books.attempts
  attempt_id : attempt.id = request.attempt
  active : attempt.status = .active
  inTime : attempt.pastDeadline now = false
  question_mem : question ∈ attempt.questions
  question_position : question.position = request.question

theorem saveAnswer_ok {request : AnswerRequest} (h : saveAnswer books request now = .ok next) :
    ∃ attempt question, Saved books request now attempt question ∧
      ((∃ stored, question.answer = some stored ∧ stored.selectedOptionIds = request.selected ∧
          stored.clientRevision = request.clientRevision ∧ next = books) ∨
        ((∀ stored, question.answer = some stored → stored.clientRevision < request.clientRevision) ∧
          next = books.putAttempt (answeredAttempt attempt question request))) := by
  obtain ⟨attempt, hattempt, h⟩ := bind_eq_ok.1 h
  obtain ⟨_, hopen, h⟩ := bind_eq_ok.1 h
  obtain ⟨question, hquestion, h⟩ := bind_eq_ok.1 h
  obtain ⟨_, _, h⟩ := bind_eq_ok.1 h
  obtain ⟨hin, hid⟩ := findAttempt_ok hattempt
  obtain ⟨hactive, hinTime⟩ := checkOpen_ok.1 hopen
  obtain ⟨hquestionIn, hposition⟩ := findQuestion_ok hquestion
  refine ⟨attempt, question, ⟨hin, hid, hactive, hinTime, hquestionIn, hposition⟩, ?_⟩
  cases hanswer : question.answer with
  | none =>
    simp only [hanswer, saveCase] at h
    cases h
    exact Or.inr ⟨fun stored hstored => absurd hstored (by simp), rfl⟩
  | some stored =>
    simp only [hanswer, saveCase] at h
    by_cases hnewer : stored.clientRevision < request.clientRevision
    · rw [if_pos hnewer] at h
      cases h
      refine Or.inr ⟨fun other hother => ?_, rfl⟩
      cases hother
      exact hnewer
    · rw [if_neg hnewer] at h
      by_cases hsame : request.clientRevision = stored.clientRevision ∧
          stored.selectedOptionIds = request.selected
      · rw [if_pos hsame] at h
        cases h
        exact Or.inl ⟨stored, rfl, hsame.2, hsame.1.symm, rfl⟩
      · rw [if_neg hsame] at h
        simp at h

theorem answeredAttempt_rewrites {request : AnswerRequest} :
    Rewrites attempt (answeredAttempt attempt question request) := by
  refine ⟨rfl, rfl, rfl, rfl, ?_⟩
  exact map_key_put attempt.questions _

theorem saveAttemptResume_ok {id : Nat}
    (h : saveAttemptResume books id position clientRevision now = .ok next) :
    next = books ∨ ∃ attempt ∈ books.attempts, attempt.id = id ∧ attempt.status = .active ∧
      attempt.pastDeadline now = false ∧
        next = books.putAttempt (resumedAttempt attempt position clientRevision) := by
  obtain ⟨attempt, hattempt, h⟩ := bind_eq_ok.1 h
  obtain ⟨_, hopen, h⟩ := bind_eq_ok.1 h
  obtain ⟨hin, hid⟩ := findAttempt_ok hattempt
  obtain ⟨hactive, hinTime⟩ := checkOpen_ok.1 hopen
  obtain ⟨hrange, h⟩ := unless_ok.1 h
  by_cases hnewer : attempt.resumeClientRevision < clientRevision
  · rw [if_pos hnewer] at h
    cases h
    exact Or.inr ⟨attempt, hin, hid, hactive, hinTime, rfl⟩
  · rw [if_neg hnewer] at h
    by_cases hsame : clientRevision = attempt.resumeClientRevision ∧
        position = attempt.resumePosition
    · rw [if_pos hsame] at h
      exact Or.inl (Except.ok.inj h).symm
    · rw [if_neg hsame] at h
      simp at h

theorem resumedAttempt_rewrites (attempt : Attempt) (position clientRevision : Nat) :
    Rewrites attempt (resumedAttempt attempt position clientRevision) := ⟨rfl, rfl, rfl, rfl, rfl⟩

theorem Kept.saveAnswer (h : Kept quizzes books) {request : AnswerRequest}
    (hcall : saveAnswer books request now = .ok next) : Kept quizzes next := by
  obtain ⟨attempt, question, hsaved, hcase⟩ := saveAnswer_ok hcall
  rcases hcase with ⟨_, _, _, _, rfl⟩ | ⟨_, rfl⟩
  · exact h
  · exact h.rewrite hsaved.attempt_mem answeredAttempt_rewrites hsaved.active hsaved.active

theorem Kept.saveAttemptResume (h : Kept quizzes books) {id : Nat}
    (hcall : saveAttemptResume books id position clientRevision now = .ok next) :
    Kept quizzes next := by
  rcases saveAttemptResume_ok hcall with rfl | ⟨attempt, hin, _, hactive, _, rfl⟩
  · exact h
  · exact h.rewrite hin (resumedAttempt_rewrites attempt position clientRevision) hactive hactive

/-- What a submission that answers does. -/
inductive Submitted (books : Books) (id key now : Nat) : Books × AttemptResult → Prop
  | repeated (receipt : SubmissionReceipt) (hin : receipt ∈ books.receipts) (hkey : receipt.key = key)
      (hattempt : receipt.attempt = id) : Submitted books id key now (books, receipt.result)
  | recorded (result : AttemptResult) (hfresh : ∀ receipt ∈ books.receipts, receipt.key ≠ key)
      (hin : result ∈ books.results) (hattempt : result.attempt = id) :
      Submitted books id key now (addReceipt books key id result, result)
  | closed (attempt : Attempt) (hfresh : ∀ receipt ∈ books.receipts, receipt.key ≠ key)
      (hin : attempt ∈ books.attempts) (hid : attempt.id = id) (hactive : attempt.status = .active) :
      Submitted books id key now
        (addReceipt (closeAttempt books attempt now (attempt.pastDeadline now)) key id
          (newResult books.nextResult attempt now), newResult books.nextResult attempt now)

theorem Kept.submitAttempt_ok (h : Kept quizzes books) {id key : Nat}
    {result : Books × AttemptResult} (hcall : submitAttempt books id key now = .ok result) :
    Submitted books id key now result := by
  unfold submitAttempt at hcall
  cases hkey : Table.find SubmissionReceipt.key books.receipts key with
  | some receipt =>
    rw [hkey] at hcall
    simp only at hcall
    by_cases hattempt : receipt.attempt = id
    · rw [if_neg (not_not.2 hattempt)] at hcall
      cases hcall
      exact .repeated receipt (find_mem hkey) (find_key hkey) hattempt
    · rw [if_pos hattempt] at hcall
      simp at hcall
  | none =>
    rw [hkey] at hcall
    have hfresh : ∀ receipt ∈ books.receipts, receipt.key ≠ key := find_eq_none.1 hkey
    obtain ⟨attempt, hattempt, hcall⟩ := bind_eq_ok.1 hcall
    obtain ⟨hin, hid⟩ := findAttempt_ok hattempt
    cases hcall
    unfold submitOpen
    cases hresult : books.findResult attempt.id with
    | some result =>
      exact .recorded result hfresh (find_mem hresult) ((find_key hresult).trans hid)
    | none =>
      have hactive : attempt.status = .active := by
        by_contra hclosed
        obtain ⟨result, hresultIn, hresultAttempt⟩ := h.hasResult attempt hin hclosed
        exact find_eq_none.1 hresult result hresultIn hresultAttempt
      simp only [h.finalizeAttempt_eq hin hactive]
      exact .closed attempt hfresh hin hid hactive

theorem newResult_mem (books : Books) (attempt : Attempt) (now : Nat) (expired : Bool) :
    newResult books.nextResult attempt now ∈ (closeAttempt books attempt now expired).results :=
  mem_append_right _ (mem_singleton_self _)

theorem Kept.submitted (h : Kept quizzes books) {id key : Nat} {result : Books × AttemptResult}
    (hsubmitted : Submitted books id key now result) : Kept quizzes result.1 := by
  cases hsubmitted with
  | repeated receipt => exact h
  | recorded result hfresh hin hattempt =>
    subst hattempt
    exact h.addReceipt hfresh hin
  | closed attempt hfresh hin hid hactive =>
    subst hid
    have hclosed := h.close hin hactive now (attempt.pastDeadline now)
    exact hclosed.addReceipt hfresh (newResult_mem books attempt now _)

theorem Kept.refreshAttemptState_ok (h : Kept quizzes books) {id : Nat}
    (hcall : refreshAttemptState books id now = .ok next) :
    ∃ attempt ∈ books.attempts, attempt.id = id ∧
      ((attempt.status = .active ∧ attempt.pastDeadline now = true ∧
          next = closeAttempt books attempt now true) ∨
        ((attempt.status = .active → attempt.pastDeadline now = false) ∧ next = books)) := by
  obtain ⟨attempt, hattempt, hcall⟩ := bind_eq_ok.1 hcall
  obtain ⟨hin, hid⟩ := findAttempt_ok hattempt
  refine ⟨attempt, hin, hid, ?_⟩
  by_cases hexpired : (attempt.status = .active && attempt.pastDeadline now) = true
  · rw [if_pos hexpired] at hcall
    simp only [Bool.and_eq_true, decide_eq_true_eq] at hexpired
    rw [h.finalizeAttempt_eq hin hexpired.1] at hcall
    cases hcall
    exact Or.inl ⟨hexpired.1, hexpired.2, rfl⟩
  · rw [if_neg hexpired] at hcall
    cases hcall
    refine Or.inr ⟨fun hactive => ?_, rfl⟩
    simpa [hactive] using hexpired

theorem Kept.refreshAttemptState (h : Kept quizzes books) {id : Nat}
    (hcall : refreshAttemptState books id now = .ok next) : Kept quizzes next := by
  obtain ⟨attempt, hin, _, hcase⟩ := h.refreshAttemptState_ok hcall
  rcases hcase with ⟨hactive, _, rfl⟩ | ⟨_, rfl⟩
  · exact h.close hin hactive now true
  · exact h

end LockIn.Assessment
