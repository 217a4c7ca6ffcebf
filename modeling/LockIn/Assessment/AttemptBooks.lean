import LockIn.Assessment.Attempts

/-!
# What every write of an attempt keeps

The calls write the rows in four ways: an active attempt is rewritten, it is closed and gets
its result, a new attempt is added, and a receipt is added.  Each keeps the books in order.
-/

namespace LockIn.Assessment

open List Table

structure Kept (quizzes : Quizzes) (books : Books) : Prop where
  distinct : Table.Distinct Attempt.id books.attempts
  keys : Table.Distinct Attempt.startKey books.attempts
  fresh : ∀ attempt ∈ books.attempts, attempt.id < books.nextAttempt
  positions : ∀ attempt ∈ books.attempts,
    Table.Distinct AttemptQuestion.position attempt.questions
  noResult : ∀ attempt ∈ books.attempts, attempt.status = .active →
    ∀ result ∈ books.results, result.attempt ≠ attempt.id
  hasResult : ∀ attempt ∈ books.attempts, attempt.status ≠ .active →
    ∃ result ∈ books.results, result.attempt = attempt.id
  oneResult : Table.Distinct AttemptResult.attempt books.results
  graded : ∀ attempt ∈ books.attempts, ∀ result ∈ books.results, result.attempt = attempt.id →
    result.grade = gradeOf attempt.version attempt.questions
  known : ∀ result ∈ books.results, ∃ attempt ∈ books.attempts, attempt.id = result.attempt
  oneActive : ∀ attempt ∈ books.attempts, ∀ other ∈ books.attempts, attempt.quiz = other.quiz →
    attempt.status = .active → other.status = .active → attempt = other
  limited : ∀ quiz version, quizzes quiz = some version → version.maximumAttempts ≠ 0 →
    (books.attempts.filter (·.quiz = quiz)).length ≤ version.maximumAttempts
  receiptKeys : Table.Distinct SubmissionReceipt.key books.receipts
  receiptResults : ∀ receipt ∈ books.receipts,
    receipt.result ∈ books.results ∧ receipt.result.attempt = receipt.attempt

def emptyBooks : Books := ⟨[], [], [], 1, 1⟩

variable {quizzes : Quizzes} {books : Books} {attempt written : Attempt}

theorem kept_emptyBooks : Kept quizzes emptyBooks where
  distinct := nodup_nil
  keys := nodup_nil
  fresh := forall_mem_nil _
  positions := forall_mem_nil _
  noResult := forall_mem_nil _
  hasResult := forall_mem_nil _
  oneResult := nodup_nil
  graded := forall_mem_nil _
  known := forall_mem_nil _
  oneActive := forall_mem_nil _
  limited := fun _ _ _ _ => Nat.zero_le _
  receiptKeys := nodup_nil
  receiptResults := forall_mem_nil _

structure Rewrites (attempt written : Attempt) : Prop where
  id : written.id = attempt.id
  quiz : written.quiz = attempt.quiz
  startKey : written.startKey = attempt.startKey
  version : written.version = attempt.version
  positions : written.questions.map (·.position) = attempt.questions.map (·.position)

theorem closedAttempt_rewrites (attempt : Attempt) (submittedAt : Nat) (expired : Bool) :
    Rewrites attempt (closedAttempt attempt submittedAt expired) := ⟨rfl, rfl, rfl, rfl, rfl⟩

theorem closedAttempt_closed (attempt : Attempt) (submittedAt : Nat) (expired : Bool) :
    (closedAttempt attempt submittedAt expired).status ≠ .active := by
  cases expired <;> simp [closedAttempt]

theorem mem_putAttempt {row : Attempt} (h : row ∈ (books.putAttempt written).attempts) :
    row = written ∨ (row ∈ books.attempts ∧ row.id ≠ written.id) := by
  rcases mem_put.1 h with h | h
  · exact Or.inl h.1
  · exact Or.inr h

theorem mem_putAttempt_self (hin : attempt ∈ books.attempts) (hid : written.id = attempt.id) :
    written ∈ (books.putAttempt written).attempts :=
  mem_put.2 (Or.inl ⟨rfl, attempt, hin, hid.symm⟩)

theorem mem_putAttempt_other {other : Attempt} (hin : other ∈ books.attempts)
    (hne : other.id ≠ written.id) : other ∈ (books.putAttempt written).attempts :=
  mem_put.2 (Or.inr ⟨hin, hne⟩)

section
variable (h : Kept quizzes books) (hin : attempt ∈ books.attempts) (hrewrites : Rewrites attempt written)
include h hin hrewrites

theorem map_putAttempt {σ : Type} (f : Attempt → σ) (hf : f written = f attempt) :
    (books.putAttempt written).attempts.map f = books.attempts.map f := by
  apply map_put_eq
  intro row hrow hid
  rw [h.distinct.eq hrow hin (hid.trans hrewrites.id), hf]

theorem startKeys_putAttempt : Table.Distinct Attempt.startKey (books.putAttempt written).attempts := by
  show ((books.putAttempt written).attempts.map (·.startKey)).Nodup
  rw [map_putAttempt h hin hrewrites _ hrewrites.startKey]
  exact h.keys

theorem fresh_putAttempt : ∀ row ∈ (books.putAttempt written).attempts, row.id < books.nextAttempt := by
  intro row hrow
  rcases mem_putAttempt hrow with rfl | ⟨hold, _⟩
  · rw [hrewrites.id]
    exact h.fresh attempt hin
  · exact h.fresh row hold

theorem positions_putAttempt : ∀ row ∈ (books.putAttempt written).attempts,
    Table.Distinct AttemptQuestion.position row.questions := by
  intro row hrow
  rcases mem_putAttempt hrow with rfl | ⟨hold, _⟩
  · show (row.questions.map (·.position)).Nodup
    rw [hrewrites.positions]
    exact h.positions attempt hin
  · exact h.positions row hold

theorem known_putAttempt : ∀ result ∈ books.results,
    ∃ row ∈ (books.putAttempt written).attempts, row.id = result.attempt := by
  intro result hresult
  obtain ⟨row, hrow, hid⟩ := h.known result hresult
  by_cases hself : row.id = written.id
  · exact ⟨written, mem_putAttempt_self hin hrewrites.id, hself.symm.trans hid⟩
  · exact ⟨row, mem_putAttempt_other hrow hself, hid⟩

theorem limited_putAttempt (quiz : Nat) :
    ((books.putAttempt written).attempts.filter (·.quiz = quiz)).length =
      (books.attempts.filter (·.quiz = quiz)).length := by
  have hcount : ∀ rows : List Attempt,
      (rows.filter (·.quiz = quiz)).length = (rows.map (·.quiz)).countP (· = quiz) := by
    intro rows
    rw [countP_map, countP_eq_length_filter]
    rfl
  rw [hcount, hcount, map_putAttempt h hin hrewrites _ hrewrites.quiz]

theorem Kept.rewrite (hactive : attempt.status = .active) (hstays : written.status = .active) :
    Kept quizzes (books.putAttempt written) where
  distinct := h.distinct.put written
  keys := startKeys_putAttempt h hin hrewrites
  fresh := fresh_putAttempt h hin hrewrites
  positions := positions_putAttempt h hin hrewrites
  noResult := by
    intro row hrow hrowActive
    rcases mem_putAttempt hrow with rfl | ⟨hold, _⟩
    · rw [hrewrites.id]
      exact h.noResult attempt hin hactive
    · exact h.noResult row hold hrowActive
  hasResult := by
    intro row hrow hclosed
    rcases mem_putAttempt hrow with rfl | ⟨hold, _⟩
    · exact absurd hstays hclosed
    · exact h.hasResult row hold hclosed
  oneResult := h.oneResult
  graded := by
    intro row hrow result hresult hattempt
    rcases mem_putAttempt hrow with rfl | ⟨hold, _⟩
    · exact absurd (hattempt.trans hrewrites.id) (h.noResult attempt hin hactive result hresult)
    · exact h.graded row hold result hresult hattempt
  known := known_putAttempt h hin hrewrites
  oneActive := by
    intro row hrow other hother hquiz hrowActive hotherActive
    rcases mem_putAttempt hrow with rfl | ⟨hold, hne⟩
    · rcases mem_putAttempt hother with rfl | ⟨hotherOld, hotherNe⟩
      · rfl
      · have heq := h.oneActive attempt hin other hotherOld (hrewrites.quiz.symm.trans hquiz) hactive
          hotherActive
        exact absurd (by rw [← heq, hrewrites.id]) hotherNe
    · rcases mem_putAttempt hother with rfl | ⟨hotherOld, _⟩
      · have heq := h.oneActive row hold attempt hin (hquiz.trans hrewrites.quiz) hrowActive hactive
        exact absurd (by rw [heq, hrewrites.id]) hne
      · exact h.oneActive row hold other hotherOld hquiz hrowActive hotherActive
  limited := by
    intro quiz version hversion hmaximum
    rw [limited_putAttempt h hin hrewrites quiz]
    exact h.limited quiz version hversion hmaximum
  receiptKeys := h.receiptKeys
  receiptResults := h.receiptResults

end

def closeAttempt (books : Books) (attempt : Attempt) (submittedAt : Nat) (expired : Bool) : Books :=
  { books.putAttempt (closedAttempt attempt submittedAt expired) with
    results := books.results ++ [newResult books.nextResult attempt submittedAt]
    nextResult := books.nextResult + 1 }

theorem Kept.findResult_none (h : Kept quizzes books) (hin : attempt ∈ books.attempts)
    (hactive : attempt.status = .active) : books.findResult attempt.id = none :=
  find_eq_none.2 (h.noResult attempt hin hactive)

theorem Kept.finalizeAttempt_eq (h : Kept quizzes books) (hin : attempt ∈ books.attempts)
    (hactive : attempt.status = .active) (submittedAt : Nat) (expired : Bool) :
    finalizeAttempt books attempt submittedAt expired =
      (closeAttempt books attempt submittedAt expired,
        newResult books.nextResult attempt submittedAt) := by
  unfold finalizeAttempt
  rw [h.findResult_none hin hactive]
  rfl

theorem Kept.close (h : Kept quizzes books) (hin : attempt ∈ books.attempts)
    (hactive : attempt.status = .active) (submittedAt : Nat) (expired : Bool) :
    Kept quizzes (closeAttempt books attempt submittedAt expired) := by
  have hrewrites := closedAttempt_rewrites attempt submittedAt expired
  have hclosed := closedAttempt_closed attempt submittedAt expired
  have hold : ∀ result ∈ books.results, result.attempt ≠ attempt.id := h.noResult attempt hin hactive
  have hmem : ∀ {result}, result ∈ books.results ++ [newResult books.nextResult attempt submittedAt] →
      result ∈ books.results ∨ result = newResult books.nextResult attempt submittedAt := by
    intro result hresult
    rcases mem_append.1 hresult with hres | hres
    · exact Or.inl hres
    · exact Or.inr (mem_singleton.1 hres)
  refine ⟨h.distinct.put _, startKeys_putAttempt h hin hrewrites, fresh_putAttempt h hin hrewrites,
    positions_putAttempt h hin hrewrites, ?_, ?_, ?_, ?_, ?_, ?_, ?_, h.receiptKeys, ?_⟩
  · intro row hrow hrowActive result hresult
    rcases mem_putAttempt hrow with rfl | ⟨hrowOld, hne⟩
    · exact absurd hrowActive hclosed
    · rcases hmem hresult with hres | rfl
      · exact h.noResult row hrowOld hrowActive result hres
      · exact fun heq => hne heq.symm
  · intro row hrow hrowClosed
    rcases mem_putAttempt hrow with rfl | ⟨hrowOld, _⟩
    · exact ⟨newResult books.nextResult attempt submittedAt,
        mem_append_right _ (mem_singleton_self _), rfl⟩
    · obtain ⟨result, hresult, hattempt⟩ := h.hasResult row hrowOld hrowClosed
      exact ⟨result, mem_append_left _ hresult, hattempt⟩
  · exact h.oneResult.append hold
  · intro row hrow result hresult hattempt
    rcases mem_putAttempt hrow with rfl | ⟨hrowOld, hne⟩
    · rcases hmem hresult with hres | rfl
      · exact absurd hattempt (hold result hres)
      · rfl
    · rcases hmem hresult with hres | rfl
      · exact h.graded row hrowOld result hres hattempt
      · exact absurd hattempt.symm hne
  · intro result hresult
    rcases hmem hresult with hres | rfl
    · exact known_putAttempt h hin hrewrites result hres
    · exact ⟨_, mem_putAttempt_self hin hrewrites.id, rfl⟩
  · intro row hrow other hother hquiz hrowActive hotherActive
    rcases mem_putAttempt hrow with rfl | ⟨hrowOld, _⟩
    · exact absurd hrowActive hclosed
    · rcases mem_putAttempt hother with rfl | ⟨hotherOld, _⟩
      · exact absurd hotherActive hclosed
      · exact h.oneActive row hrowOld other hotherOld hquiz hrowActive hotherActive
  · intro quiz version hversion hmaximum
    rw [show (closeAttempt books attempt submittedAt expired).attempts =
      (books.putAttempt (closedAttempt attempt submittedAt expired)).attempts from rfl,
      limited_putAttempt h hin hrewrites quiz]
    exact h.limited quiz version hversion hmaximum
  · intro receipt hreceipt
    obtain ⟨hresult, hattempt⟩ := h.receiptResults receipt hreceipt
    exact ⟨mem_append_left _ hresult, hattempt⟩

theorem Kept.close_none_active (h : Kept quizzes books) (hin : attempt ∈ books.attempts)
    (hactive : attempt.status = .active) (submittedAt : Nat) (expired : Bool) :
    ∀ row ∈ (closeAttempt books attempt submittedAt expired).attempts, row.quiz = attempt.quiz →
      row.status ≠ .active := by
  intro row hrow hquiz
  rcases mem_putAttempt hrow with rfl | ⟨hold, hne⟩
  · exact closedAttempt_closed attempt submittedAt expired
  · intro hrowActive
    exact hne (by rw [h.oneActive row hold attempt hin hquiz hrowActive hactive]; rfl)

theorem snapshotQuestions_positions (version : QuizVersion) (draw : Draw)
    (versions : List QuestionVersion) :
    Table.Distinct AttemptQuestion.position (snapshotQuestions version draw versions) := by
  have hpositions : (snapshotQuestions version draw versions).map (·.position) =
      List.range' 1 versions.length := by
    unfold snapshotQuestions
    rw [map_map]
    apply ext_getElem
    · simp
    · intro index hindex _
      simp [snapshotQuestion, Nat.add_comm]
  show ((snapshotQuestions version draw versions).map (·.position)).Nodup
  rw [hpositions]
  exact nodup_range'

theorem Kept.add {version : QuizVersion} {request : StartRequest} {versions : List QuestionVersion}
    {startedAt : Nat} (h : Kept quizzes books) (hversion : quizzes request.quiz = some version)
    (hkey : ∀ attempt ∈ books.attempts, attempt.startKey ≠ request.key)
    (hnone : ∀ attempt ∈ books.attempts, attempt.quiz = request.quiz → attempt.status ≠ .active)
    (hroom : version.maximumAttempts ≠ 0 →
      completedAttempts books request.quiz < version.maximumAttempts) :
    Kept quizzes (addAttempt books (newAttempt books version request versions startedAt)) := by
  have hmem : ∀ {row}, row ∈ books.attempts ++ [newAttempt books version request versions startedAt] →
      row ∈ books.attempts ∨ row = newAttempt books version request versions startedAt := by
    intro row hrow
    rcases mem_append.1 hrow with hres | hres
    · exact Or.inl hres
    · exact Or.inr (mem_singleton.1 hres)
  have hfresh : ∀ row ∈ books.attempts, row.id ≠ books.nextAttempt := by
    intro row hrow
    have hlt := h.fresh row hrow
    omega
  have hresults : ∀ result ∈ books.results, result.attempt ≠ books.nextAttempt := by
    intro result hresult
    obtain ⟨row, hrow, hid⟩ := h.known result hresult
    rw [← hid]
    exact hfresh row hrow
  refine ⟨h.distinct.append hfresh, h.keys.append hkey, ?_, ?_, ?_, ?_, h.oneResult, ?_, ?_, ?_, ?_,
    h.receiptKeys, h.receiptResults⟩
  · intro row hrow
    show row.id < books.nextAttempt + 1
    rcases hmem hrow with hold | rfl
    · have hlt := h.fresh row hold
      omega
    · exact Nat.lt_succ_self _
  · intro row hrow
    rcases hmem hrow with hold | rfl
    · exact h.positions row hold
    · exact snapshotQuestions_positions version request.draw versions
  · intro row hrow hactive result hresult
    rcases hmem hrow with hold | rfl
    · exact h.noResult row hold hactive result hresult
    · exact hresults result hresult
  · intro row hrow hclosed
    rcases hmem hrow with hold | rfl
    · exact h.hasResult row hold hclosed
    · exact absurd rfl hclosed
  · intro row hrow result hresult hattempt
    rcases hmem hrow with hold | rfl
    · exact h.graded row hold result hresult hattempt
    · exact absurd hattempt (hresults result hresult)
  · intro result hresult
    obtain ⟨row, hrow, hid⟩ := h.known result hresult
    exact ⟨row, mem_append_left _ hrow, hid⟩
  · intro row hrow other hother hquiz hrowActive hotherActive
    rcases hmem hrow with hold | rfl
    · rcases hmem hother with hotherOld | rfl
      · exact h.oneActive row hold other hotherOld hquiz hrowActive hotherActive
      · exact absurd hrowActive (hnone row hold hquiz)
    · rcases hmem hother with hotherOld | rfl
      · exact absurd hotherActive (hnone other hotherOld hquiz.symm)
      · rfl
  · intro quiz other hother hmaximum
    show ((books.attempts ++ [newAttempt books version request versions startedAt]).filter
      (·.quiz = quiz)).length ≤ _
    rw [filter_append, length_append]
    by_cases hquiz : request.quiz = quiz
    · subst hquiz
      obtain rfl : version = other := Option.some.inj (hversion.symm.trans hother)
      have hall : books.attempts.filter (·.quiz = request.quiz) =
          books.attempts.filter fun attempt =>
            attempt.quiz = request.quiz && attempt.status ≠ .active := by
        apply filter_congr
        intro row hrow
        by_cases hrowQuiz : row.quiz = request.quiz
        · simp [hrowQuiz, hnone row hrow hrowQuiz]
        · simp [hrowQuiz]
      have hlt := hroom hmaximum
      have hone := length_filter_le (fun row : Attempt => decide (row.quiz = request.quiz))
        [newAttempt books version request versions startedAt]
      rw [hall]
      unfold completedAttempts at hlt
      simp only [length_singleton] at hone
      omega
    · have hout : [newAttempt books version request versions startedAt].filter (·.quiz = quiz) = [] := by
        simp [newAttempt, hquiz]
      rw [hout, length_nil]
      exact h.limited quiz other hother hmaximum

theorem Kept.addReceipt {key : Nat} {result : AttemptResult} (h : Kept quizzes books)
    (hkey : ∀ receipt ∈ books.receipts, receipt.key ≠ key) (hresult : result ∈ books.results) :
    Kept quizzes (addReceipt books key result.attempt result) := by
  refine ⟨h.distinct, h.keys, h.fresh, h.positions, h.noResult, h.hasResult, h.oneResult, h.graded,
    h.known, h.oneActive, h.limited, h.receiptKeys.append hkey, ?_⟩
  exact Table.forall_mem_append h.receiptResults ⟨hresult, rfl⟩

end LockIn.Assessment
