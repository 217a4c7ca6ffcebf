import LockIn.Assessment.AttemptRuns

/-!
# Closing at the deadline

Five calls close an active attempt that is past its deadline, each in passing.  Two of them
always raise afterwards, and a start may raise; a call that raises leaves the attempt active.
-/

namespace LockIn.Assessment

open List Outcome Table

variable {quizzes late : Quizzes} {books next : Books} {attempt : Attempt}

def booksAfter (quizzes : Quizzes) (books : Books) (now : Nat) (call : Call) : Books :=
  match call.exec quizzes ⟨books, [], [], []⟩ now with
  | .ok run => run.books
  | .error _ => books

def ExpiredIn (attempt : Attempt) (books : Books) : Prop :=
  (∃ closed ∈ books.attempts, closed.id = attempt.id ∧ closed.status = .expired) ∧
    ∃ result, books.results.filter (·.attempt = attempt.id) = [result] ∧
      result.grade = gradeOf attempt.version attempt.questions

def IsAbout (attempt : Attempt) : Call → Prop
  | .start request => request.quiz = attempt.quiz
  | .saveAnswer request => request.attempt = attempt.id
  | .saveResume id _ _ => id = attempt.id
  | .submit id _ => id = attempt.id
  | .refresh id => id = attempt.id

def Startable (version : QuizVersion) (request : StartRequest) (now : Nat) : Prop :=
  validateAvailability version now = .ok () ∧
    ∃ filters, requestedFilters version request = .ok filters ∧
      ∃ selected, selectedVersions version request filters.1 filters.2 = .ok selected

/-- When a call at the deadline or later closes the attempt.  A save never does.  A submission
does unless its key has been used.  A start does when its key is the attempt's own, or is new
and there is nothing against another attempt. -/
def Closes (quizzes : Quizzes) (books : Books) (attempt : Attempt) (now : Nat) : Call → Prop
  | .saveAnswer _ => False
  | .saveResume _ _ _ => False
  | .refresh _ => True
  | .submit _ key => ∀ receipt ∈ books.receipts, receipt.key ≠ key
  | .start request => attempt.startKey = request.key ∨
      ((∀ other ∈ books.attempts, other.startKey ≠ request.key) ∧
        ∃ version, quizzes request.quiz = some version ∧ Startable version request now ∧
          (version.maximumAttempts ≠ 0 →
            completedAttempts books request.quiz + 1 < version.maximumAttempts))

variable {run after : Run} {call : Call} {request : StartRequest}

theorem Kept.exec {now : Nat} (h : Kept quizzes run.books)
    (hexec : call.exec quizzes run now = .ok after) : Kept quizzes after.books := by
  cases call with
  | start request =>
    obtain ⟨result, hresult, hexec⟩ := bind_eq_ok.1 hexec
    cases hexec
    exact h.started (h.startAttempt_ok hresult)
  | saveAnswer request =>
    obtain ⟨next, hnext, hexec⟩ := bind_eq_ok.1 hexec
    cases hexec
    exact h.saveAnswer hnext
  | saveResume id position clientRevision =>
    obtain ⟨next, hnext, hexec⟩ := bind_eq_ok.1 hexec
    cases hexec
    exact h.saveAttemptResume hnext
  | submit id key =>
    obtain ⟨result, hresult, hexec⟩ := bind_eq_ok.1 hexec
    cases hexec
    exact h.submitted (h.submitAttempt_ok hresult)
  | refresh id =>
    obtain ⟨next, hnext, hexec⟩ := bind_eq_ok.1 hexec
    cases hexec
    exact h.refreshAttemptState hnext

theorem kept_reached {now : Nat} (h : (assessment quizzes).Reaches Machine.Always run now) :
    Kept quizzes run.books :=
  h.invariant (I := fun run _ => Kept quizzes run.books) kept_emptyBooks
    fun _ _ _ _ hkept _ _ hexec => hkept.exec hexec

abbrev runOf (books : Books) : Run := ⟨books, [], [], []⟩

theorem booksAfter_ok {now : Nat} (h : call.exec quizzes (runOf books) now = .ok after) :
    booksAfter quizzes books now call = after.books := by
  show (match call.exec quizzes (runOf books) now with
    | .ok run => run.books
    | .error _ => books) = after.books
  rw [h]

theorem booksAfter_start {now : Nat} {result : Books × Nat}
    (h : startAttempt quizzes books request now = .ok result) :
    booksAfter quizzes books now (.start request) = result.1 := by
  have hexec : (Call.start request).exec quizzes (runOf books) now =
      .ok ⟨result.1, [(request.key, result.2)], [], []⟩ := bind_eq_ok.2 ⟨_, h, rfl⟩
  exact booksAfter_ok hexec

theorem booksAfter_submit {now id key : Nat} {result : Books × AttemptResult}
    (h : submitAttempt books id key now = .ok result) :
    booksAfter quizzes books now (.submit id key) = result.1 := by
  have hexec : (Call.submit id key).exec quizzes (runOf books) now =
      .ok ⟨result.1, [], [(key, result.2)], []⟩ := bind_eq_ok.2 ⟨_, h, rfl⟩
  exact booksAfter_ok hexec

theorem booksAfter_refreshed {now id : Nat}
    (h : refreshAttemptState books id now = .ok next) :
    booksAfter quizzes books now (.refresh id) = next := by
  have hexec : (Call.refresh id).exec quizzes (runOf books) now =
      .ok (runOf next) := bind_eq_ok.2 ⟨_, h, rfl⟩
  exact booksAfter_ok hexec

theorem booksAfter_unchanged {now : Nat}
    (h : ∀ after, call.exec quizzes (runOf books) now = .ok after → after.books = books) :
    booksAfter quizzes books now call = books := by
  show (match call.exec quizzes (runOf books) now with
    | .ok run => run.books
    | .error _ => books) = books
  cases hexec : call.exec quizzes (runOf books) now with
  | ok after => exact h after hexec
  | error error => rfl

theorem not_expiredIn_of_active (h : Kept quizzes books) (hin : attempt ∈ books.attempts)
    (hactive : attempt.status = .active) : ¬ ExpiredIn attempt books := by
  rintro ⟨⟨closed, hclosed, hid, hexpired⟩, _⟩
  rw [h.distinct.eq hclosed hin hid, hactive] at hexpired
  exact absurd hexpired (by decide)

theorem expiredIn_closeAttempt (h : Kept quizzes books) (hin : attempt ∈ books.attempts)
    (hactive : attempt.status = .active) (now : Nat) :
    ExpiredIn attempt (closeAttempt books attempt now true) := by
  have hnone : books.results.filter (·.attempt = attempt.id) = [] := by
    rw [filter_eq_nil_iff]
    intro result hresult
    simpa using h.noResult attempt hin hactive result hresult
  refine ⟨⟨closedAttempt attempt now true, mem_putAttempt_self hin rfl, rfl, rfl⟩,
    newResult books.nextResult attempt now, ?_, rfl⟩
  show (books.results ++ [newResult books.nextResult attempt now]).filter
    (·.attempt = attempt.id) = _
  rw [filter_append, hnone, nil_append]
  simp [newResult]

theorem ExpiredIn.addAttempt (h : ExpiredIn attempt books) (other : Attempt) :
    ExpiredIn attempt (addAttempt books other) := by
  obtain ⟨⟨closed, hclosed, hexpired⟩, hresult⟩ := h
  exact ⟨⟨closed, mem_append_left _ hclosed, hexpired⟩, hresult⟩

theorem completedAttempts_closeAttempt (h : Kept quizzes books) (hin : attempt ∈ books.attempts)
    (hactive : attempt.status = .active) (now : Nat) :
    completedAttempts (closeAttempt books attempt now true) attempt.quiz =
      completedAttempts books attempt.quiz + 1 := by
  have hid : attempt.id = (closedAttempt attempt now true).id := rfl
  have hput : ((Table.put Attempt.id books.attempts (closedAttempt attempt now true)).filter
      fun other => other.quiz = attempt.quiz && other.status ≠ .active).length =
      (books.attempts.filter
        fun other => other.quiz = attempt.quiz && other.status ≠ .active).length + 1 := by
    apply length_filter_put h.distinct hin hid
    · simp [hactive]
    · simp [closedAttempt]
  exact hput

theorem createAttempt_isOk {version : QuizVersion} {now : Nat} :
    (∃ result, createAttempt books version request now = .ok result) ↔
      HasRoom books version request.quiz ∧
        ∃ filters, requestedFilters version request = .ok filters ∧
          ∃ selected, selectedVersions version request filters.1 filters.2 = .ok selected := by
  unfold createAttempt
  by_cases hfull : version.maximumAttempts ≠ 0 ∧
      version.maximumAttempts ≤ completedAttempts books request.quiz
  · rw [if_pos hfull]
    constructor
    · rintro ⟨result, hresult⟩
      simp at hresult
    · rintro ⟨hroom, _⟩
      have hlt := hroom hfull.1
      omega
  · rw [if_neg hfull]
    constructor
    · rintro ⟨result, hresult⟩
      obtain ⟨filters, hfilters, hresult⟩ := bind_eq_ok.1 hresult
      obtain ⟨selected, hselected, _⟩ := bind_eq_ok.1 hresult
      refine ⟨fun hmaximum => ?_, filters, hfilters, selected, hselected⟩
      by_contra hno
      exact hfull ⟨hmaximum, by omega⟩
    · rintro ⟨_, filters, hfilters, selected, hselected⟩
      rw [hfilters, ok_bind, hselected, ok_bind]
      exact ⟨_, rfl⟩

section
variable {now : Nat} (h : Kept quizzes books) (hin : attempt ∈ books.attempts)
  (hactive : attempt.status = .active) (hpast : attempt.pastDeadline now = true)
include h hin hactive hpast

omit hactive in
theorem booksAfter_saveAnswer {request : AnswerRequest} (hid : request.attempt = attempt.id) :
    booksAfter late books now (.saveAnswer request) = books := by
  apply booksAfter_unchanged
  intro after hexec
  obtain ⟨next, hcall, _⟩ := bind_eq_ok.1 hexec
  obtain ⟨found, question, hsaved, _⟩ := saveAnswer_ok hcall
  have heq : found = attempt := h.distinct.eq hsaved.attempt_mem hin (hsaved.attempt_id.trans hid)
  have htime := hsaved.inTime
  rw [heq, hpast] at htime
  simp at htime

omit hactive in
theorem booksAfter_saveResume (position clientRevision : Nat) :
    booksAfter late books now (.saveResume attempt.id position clientRevision) = books := by
  apply booksAfter_unchanged
  intro after hexec
  obtain ⟨next, hcall, hafter⟩ := bind_eq_ok.1 hexec
  cases hafter
  rcases saveAttemptResume_ok hcall with hsame | ⟨found, hfound, hid, _, htime, _⟩
  · exact hsame
  · rw [h.distinct.eq hfound hin hid, hpast] at htime
    simp at htime

theorem booksAfter_refresh :
    booksAfter late books now (.refresh attempt.id) = closeAttempt books attempt now true := by
  have hcall : refreshAttemptState books attempt.id now = .ok (closeAttempt books attempt now true) := by
    unfold refreshAttemptState
    rw [h.findAttempt_eq hin, ok_bind]
    simp only [hactive, hpast, decide_true, Bool.and_self, if_true, h.finalizeAttempt_eq hin hactive]
  exact booksAfter_refreshed hcall

theorem expiredIn_submit_iff (key : Nat) :
    ExpiredIn attempt (booksAfter late books now (.submit attempt.id key)) ↔
      ∀ receipt ∈ books.receipts, receipt.key ≠ key := by
  cases hkey : Table.find SubmissionReceipt.key books.receipts key with
  | some receipt =>
    have hunchanged : booksAfter late books now (.submit attempt.id key) = books := by
      apply booksAfter_unchanged
      intro after hexec
      obtain ⟨result, hcall, hafter⟩ := bind_eq_ok.1 hexec
      cases hafter
      unfold submitAttempt at hcall
      rw [hkey] at hcall
      obtain ⟨hother, hcall⟩ := unless_ok.1 hcall
      cases hcall
      rfl
    rw [hunchanged]
    constructor
    · intro hexpired
      exact absurd hexpired (not_expiredIn_of_active h hin hactive)
    · intro hfresh
      exact absurd (find_key hkey) (hfresh receipt (find_mem hkey))
  | none =>
    have hcall : submitAttempt books attempt.id key now =
        .ok (addReceipt (closeAttempt books attempt now true) key attempt.id
          (newResult books.nextResult attempt now), newResult books.nextResult attempt now) := by
      unfold submitAttempt
      rw [hkey]
      simp only [h.findAttempt_eq hin, ok_bind, submitOpen, h.findResult_none hin hactive,
        hpast, h.finalizeAttempt_eq hin hactive]
    refine iff_of_true ?_ (find_eq_none.1 hkey)
    rw [booksAfter_submit hcall]
    exact expiredIn_closeAttempt h hin hactive now

theorem expiredIn_start_iff (hquiz : request.quiz = attempt.quiz) :
    ExpiredIn attempt (booksAfter late books now (.start request)) ↔
      Closes late books attempt now (.start request) := by
  have hnot := not_expiredIn_of_active h hin hactive
  cases hkey : books.findByKey request.key with
  | some existing =>
    have hexistingIn := find_mem hkey
    have hexistingKey : existing.startKey = request.key := find_key hkey
    by_cases hsame : existing = attempt
    · subst hsame
      have hcall : startAttempt late books request now =
          .ok (closeAttempt books existing now true, existing.id) := by
        unfold startAttempt
        rw [hkey]
        simp only [restart, hquiz, ne_eq, not_true_eq_false, if_false, hactive, hpast, decide_true,
          Bool.and_self, if_true, h.finalizeAttempt_eq hin hactive]
      refine iff_of_true ?_ (Or.inl hexistingKey)
      rw [booksAfter_start hcall]
      exact expiredIn_closeAttempt h hin hactive now
    · have hunchanged : booksAfter late books now (.start request) = books := by
        apply booksAfter_unchanged
        intro after hexec
        obtain ⟨result, hcall, hafter⟩ := bind_eq_ok.1 hexec
        cases hafter
        unfold startAttempt at hcall
        rw [hkey] at hcall
        simp only [restart] at hcall
        obtain ⟨hother, hcall⟩ := unless_ok.1 hcall
        -- the quiz has one active attempt, and this one is not it
        have hclosed : existing.status ≠ .active := fun hexisting =>
          hsame (h.oneActive existing hexistingIn attempt hin ((not_not.1 hother).trans hquiz)
            hexisting hactive)
        simp only [hclosed, decide_false, Bool.false_and, Bool.false_eq_true, if_false] at hcall
        cases hcall
        rfl
      rw [hunchanged]
      refine iff_of_false hnot ?_
      rintro (hown | ⟨hfresh, _⟩)
      · exact hsame (h.keys.eq hexistingIn hin (hexistingKey.trans hown.symm))
      · exact hfresh existing hexistingIn hexistingKey
  | none =>
    have hfresh : ∀ other ∈ books.attempts, other.startKey ≠ request.key :=
      find_eq_none.1 hkey
    have hactiveFound : books.findActive request.quiz = some attempt := by
      rw [hquiz]
      exact h.findActive_eq hin hactive
    have hfinal := h.finalizeAttempt_eq hin hactive now true
    have hcount : completedAttempts (closeAttempt books attempt now true) request.quiz =
        completedAttempts books request.quiz + 1 := by
      rw [hquiz]
      exact completedAttempts_closeAttempt h hin hactive now
    cases hversion : late request.quiz with
    | none =>
      have hunchanged : booksAfter late books now (.start request) = books := by
        apply booksAfter_unchanged
        intro after hexec
        obtain ⟨result, hcall, _⟩ := bind_eq_ok.1 hexec
        simp [startAttempt, hkey, hversion] at hcall
      rw [hunchanged]
      refine iff_of_false hnot ?_
      rintro (hown | ⟨_, version, hfound, _⟩)
      · exact hfresh attempt hin hown
      · rw [hversion] at hfound
        simp at hfound
    | some version =>
      have hcall : startAttempt late books request now = (do
          validateAvailability version now
          createAttempt (closeAttempt books attempt now true) version request now) := by
        unfold startAttempt
        simp only [hkey, hversion, hactiveFound, hpast, if_true, hfinal]
      by_cases hok : ∃ result, startAttempt late books request now = .ok result
      · obtain ⟨result, hresult⟩ := hok
        rw [hcall] at hresult
        obtain ⟨_, havailable, hcreate⟩ := bind_eq_ok.1 hresult
        obtain ⟨hroom, filters, hfilters, selected, hselected⟩ := createAttempt_isOk.1 ⟨_, hcreate⟩
        obtain ⟨_, versions, rfl⟩ := createAttempt_ok hcreate
        refine iff_of_true ?_ (Or.inr ⟨hfresh, version, hversion,
          ⟨havailable, filters, hfilters, selected, hselected⟩, fun hmaximum => ?_⟩)
        · rw [booksAfter_start (hcall.trans hresult)]
          exact (expiredIn_closeAttempt h hin hactive now).addAttempt _
        · rw [← hcount]
          exact hroom hmaximum
      · have hunchanged : booksAfter late books now (.start request) = books := by
          apply booksAfter_unchanged
          intro after hexec
          obtain ⟨result, hresult, _⟩ := bind_eq_ok.1 hexec
          exact absurd ⟨result, hresult⟩ hok
        rw [hunchanged]
        refine iff_of_false hnot ?_
        rintro (hown | ⟨_, other, hother, ⟨havailable, hstartable⟩, hroom⟩)
        · exact hfresh attempt hin hown
        · obtain rfl : version = other := Option.some.inj (hversion.symm.trans hother)
          apply hok
          rw [hcall, havailable, ok_bind, createAttempt_isOk]
          refine ⟨fun hmaximum => ?_, hstartable⟩
          rw [hcount]
          exact hroom hmaximum

end

/-- In any state that a run reaches, a call of the owner on an active attempt past its deadline
leaves it expired, with one result of its answers, exactly when it is one that closes.  The quizzes
may have changed in between. -/
theorem expired_iff_closes (quizzes late : Quizzes) (run : Run) (reached now : Nat)
    (h : (assessment quizzes).Reaches Machine.Always run reached) (attempt : Attempt)
    (hin : attempt ∈ run.books.attempts) (hactive : attempt.status = .active)
    (hpast : attempt.pastDeadline now = true) (call : Call) (habout : IsAbout attempt call) :
    ExpiredIn attempt (booksAfter late run.books now call) ↔
      Closes late run.books attempt now call := by
  have hkept := kept_reached h
  have hnot := not_expiredIn_of_active hkept hin hactive
  cases call with
  | start request => exact expiredIn_start_iff hkept hin hactive hpast habout
  | saveAnswer request =>
    rw [booksAfter_saveAnswer hkept hin hpast habout]
    exact iff_of_false hnot id
  | saveResume id position clientRevision =>
    obtain rfl : id = attempt.id := habout
    rw [booksAfter_saveResume hkept hin hpast]
    exact iff_of_false hnot not_false
  | submit id key =>
    obtain rfl : id = attempt.id := habout
    exact expiredIn_submit_iff hkept hin hactive hpast key
  | refresh id =>
    obtain rfl : id = attempt.id := habout
    rw [booksAfter_refresh hkept hin hactive hpast]
    exact iff_of_true (expiredIn_closeAttempt hkept hin hactive now) trivial

/-- One attempt, with a minute to go. -/
def startedCalls : List (Call × Nat) := [(.start (startWith 1), 1)]

theorem started_reached :
    (assessment oneQuiz).Reaches Machine.Always ((assessment oneQuiz).outcome startedCalls)
      ((assessment oneQuiz).lastTime 0 startedCalls) :=
  .of_accepts (by decide +kernel) (by decide +kernel) (Machine.admitted_always _ _)

/-- The attempt `startedCalls` makes. -/
def startedAttempt : Attempt :=
  newAttempt emptyBooks oneQuestion (startWith 1) oneQuestion.questionLinks 1

theorem started_attempts :
    ((assessment oneQuiz).outcome startedCalls).books.attempts = [startedAttempt] := by
  decide +kernel

/-- The quiz has been withdrawn by then. -/
theorem refreshed_expires :
    ExpiredIn startedAttempt
      (booksAfter (fun _ => none) ((assessment oneQuiz).outcome startedCalls).books 61 (.refresh 1)) :=
  (expired_iff_closes oneQuiz (fun _ => none) _ _ 61 started_reached startedAttempt
    (by rw [started_attempts]; exact mem_singleton_self _) rfl (by decide) (.refresh 1)
    rfl).2 trivial

theorem late_answer_leaves_it_active :
    ¬ ∀ (quizzes : Quizzes) (run : Run) (reached now : Nat),
      (assessment quizzes).Reaches Machine.Always run reached →
        ∀ attempt ∈ run.books.attempts, attempt.status = .active →
          attempt.pastDeadline now = true → ∀ call, IsAbout attempt call →
            ExpiredIn attempt (booksAfter quizzes run.books now call) := by
  intro h
  have hin : startedAttempt ∈ ((assessment oneQuiz).outcome startedCalls).books.attempts := by
    rw [started_attempts]
    exact mem_singleton_self _
  have hexpired := h oneQuiz _ _ 61 started_reached startedAttempt hin rfl (by decide)
    (.saveAnswer ⟨1, 1, [1], 0⟩) rfl
  have hkept := kept_reached started_reached
  rw [booksAfter_saveAnswer hkept hin (by decide) rfl] at hexpired
  exact not_expiredIn_of_active hkept hin rfl hexpired

end LockIn.Assessment
