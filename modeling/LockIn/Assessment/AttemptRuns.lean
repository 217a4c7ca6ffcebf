import LockIn.Assessment.AttemptSpec
import LockIn.Library.Machine

/-!
# Runs of attempt calls

The history of a run keeps what the calls returned and which answers were accepted.  In
every state the results, the limits and the stored answers agree with it, and an attempt
that is closed is never written again.

A start key names the attempt it made.  A key whose call only met another key's open attempt
names none, so that the same call made again once that attempt is over makes a new one.
-/

namespace LockIn.Assessment

open List Outcome

structure Run where
  books : Books
  /-- The keys of the starts that answered, and the attempts they answered with. -/
  starts : List (Nat × Nat)
  submits : List (Nat × AttemptResult)
  /-- The answers accepted, each as it was sent. -/
  saves : List AnswerRequest

inductive Call where
  | start (request : StartRequest)
  | saveAnswer (request : AnswerRequest)
  | saveResume (attempt position clientRevision : Nat)
  | submit (attempt key : Nat)
  | refresh (attempt : Nat)

def Call.exec (quizzes : Quizzes) (run : Run) (now : Nat) : Call → Answered Run
  | .start request => do
    let started ← startAttempt quizzes run.books request now
    .ok { run with books := started.1, starts := run.starts ++ [(request.key, started.2)] }
  | .saveAnswer request => do
    let saved ← Assessment.saveAnswer run.books request now
    .ok { run with books := saved, saves := run.saves ++ [request] }
  | .saveResume attempt position clientRevision => do
    let saved ← saveAttemptResume run.books attempt position clientRevision now
    .ok { run with books := saved }
  | .submit attempt key => do
    let submitted ← submitAttempt run.books attempt key now
    .ok { run with books := submitted.1, submits := run.submits ++ [(key, submitted.2)] }
  | .refresh attempt => do
    let refreshed ← refreshAttemptState run.books attempt now
    .ok { run with books := refreshed }

def emptyRun : Run := ⟨emptyBooks, [], [], []⟩

def assessment (quizzes : Quizzes) : Machine Run (Call × Nat) AttemptError where
  init := emptyRun
  exec call run := call.1.exec quizzes run call.2
  time call := call.2

def Moves (attempt after : Attempt) : Prop :=
  after = attempt ∨ (attempt.status = .active ∧ attempt.serverRevision < after.serverRevision)

structure Follows (books next : Books) : Prop where
  forth : ∀ attempt ∈ books.attempts, ∃ after ∈ next.attempts, after.id = attempt.id ∧
    Moves attempt after
  back : ∀ after ∈ next.attempts, books.nextAttempt ≤ after.id ∨
    ∃ attempt ∈ books.attempts, attempt.id = after.id ∧ attempt.startKey = after.startKey
  nextAttempt : books.nextAttempt ≤ next.nextAttempt
  receipts : ∀ receipt ∈ books.receipts, receipt ∈ next.receipts

def SameAnswers (books next : Books) : Prop :=
  ∀ after ∈ next.attempts,
    (books.nextAttempt ≤ after.id ∧ ∀ question ∈ after.questions, question.answer = none) ∨
      ∃ attempt ∈ books.attempts, attempt.id = after.id ∧ attempt.questions = after.questions

variable {quizzes : Quizzes} {books middle next : Books} {attempt written : Attempt}

theorem Moves.trans {after later : Attempt} (h : Moves attempt after) (h' : Moves after later) :
    Moves attempt later := by
  rcases h with rfl | ⟨hactive, hlt⟩
  · exact h'
  · rcases h' with rfl | ⟨_, hlt'⟩
    · exact Or.inr ⟨hactive, hlt⟩
    · exact Or.inr ⟨hactive, by omega⟩

theorem Follows.refl (books : Books) : Follows books books where
  forth := fun attempt hin => ⟨attempt, hin, rfl, Or.inl rfl⟩
  back := fun after hin => Or.inr ⟨after, hin, rfl, rfl⟩
  nextAttempt := Nat.le_refl _
  receipts := fun _ hin => hin

theorem Follows.trans (h : Follows books middle) (h' : Follows middle next) : Follows books next where
  forth := by
    intro attempt hin
    obtain ⟨after, hafter, hid, hmoves⟩ := h.forth attempt hin
    obtain ⟨later, hlater, hlaterId, hlaterMoves⟩ := h'.forth after hafter
    exact ⟨later, hlater, hlaterId.trans hid, hmoves.trans hlaterMoves⟩
  back := by
    intro later hlater
    rcases h'.back later hlater with hnew | ⟨after, hafter, hid, hkey⟩
    · exact Or.inl (le_trans h.nextAttempt hnew)
    · rcases h.back after hafter with hnew | ⟨attempt, hin, hid', hkey'⟩
      · exact Or.inl (hid ▸ hnew)
      · exact Or.inr ⟨attempt, hin, hid'.trans hid, hkey'.trans hkey⟩
  nextAttempt := le_trans h.nextAttempt h'.nextAttempt
  receipts := fun receipt hin => h'.receipts receipt (h.receipts receipt hin)

theorem SameAnswers.refl (books : Books) : SameAnswers books books :=
  fun after hin => Or.inr ⟨after, hin, rfl, rfl⟩

theorem SameAnswers.trans (h : SameAnswers books middle) (h' : SameAnswers middle next)
    (hnext : books.nextAttempt ≤ middle.nextAttempt) : SameAnswers books next := by
  intro later hlater
  rcases h' later hlater with ⟨hnew, hnone⟩ | ⟨after, hafter, hid, hquestions⟩
  · exact Or.inl ⟨le_trans hnext hnew, hnone⟩
  · rcases h after hafter with ⟨hnew, hnone⟩ | ⟨attempt, hin, hid', hquestions'⟩
    · exact Or.inl ⟨hid ▸ hnew, hquestions ▸ hnone⟩
    · exact Or.inr ⟨attempt, hin, hid'.trans hid, hquestions'.trans hquestions⟩

theorem follows_putAttempt (h : Kept quizzes books) (hin : attempt ∈ books.attempts)
    (hrewrites : Rewrites attempt written) (hactive : attempt.status = .active)
    (hlater : attempt.serverRevision < written.serverRevision) :
    Follows books (books.putAttempt written) where
  forth := by
    intro row hrow
    by_cases hid : row.id = written.id
    · have heq : row = attempt := h.distinct.eq hrow hin (hid.trans hrewrites.id)
      subst heq
      exact ⟨written, mem_putAttempt_self hin hrewrites.id, hrewrites.id, Or.inr ⟨hactive, hlater⟩⟩
    · exact ⟨row, mem_putAttempt_other hrow hid, rfl, Or.inl rfl⟩
  back := by
    intro row hrow
    rcases mem_putAttempt hrow with rfl | ⟨hold, _⟩
    · exact Or.inr ⟨attempt, hin, hrewrites.id.symm, hrewrites.startKey.symm⟩
    · exact Or.inr ⟨row, hold, rfl, rfl⟩
  nextAttempt := Nat.le_refl _
  receipts := fun _ hmem => hmem

theorem sameAnswers_putAttempt (hin : attempt ∈ books.attempts) (hid : written.id = attempt.id)
    (hquestions : written.questions = attempt.questions) :
    SameAnswers books (books.putAttempt written) := by
  intro row hrow
  rcases mem_putAttempt hrow with rfl | ⟨hold, _⟩
  · exact Or.inr ⟨attempt, hin, hid.symm, hquestions.symm⟩
  · exact Or.inr ⟨row, hold, rfl, rfl⟩

theorem follows_closeAttempt (h : Kept quizzes books) (hin : attempt ∈ books.attempts)
    (hactive : attempt.status = .active) (now : Nat) (expired : Bool) :
    Follows books (closeAttempt books attempt now expired) := by
  have hput := follows_putAttempt h hin (closedAttempt_rewrites attempt now expired) hactive
    (Nat.lt_succ_self _)
  exact ⟨hput.forth, hput.back, hput.nextAttempt, hput.receipts⟩

theorem sameAnswers_closeAttempt (hin : attempt ∈ books.attempts) (now : Nat) (expired : Bool) :
    SameAnswers books (closeAttempt books attempt now expired) :=
  @sameAnswers_putAttempt books attempt (closedAttempt attempt now expired) hin rfl rfl

theorem follows_addAttempt (hid : attempt.id = books.nextAttempt) :
    Follows books (addAttempt books attempt) where
  forth := fun row hrow => ⟨row, mem_append_left _ hrow, rfl, Or.inl rfl⟩
  back := by
    intro row hrow
    rcases mem_append.1 hrow with hold | hnew
    · exact Or.inr ⟨row, hold, rfl, rfl⟩
    · rw [mem_singleton.1 hnew]
      exact Or.inl (Nat.le_of_eq hid.symm)
  nextAttempt := Nat.le_succ _
  receipts := fun _ hmem => hmem

theorem sameAnswers_addAttempt (version : QuizVersion) (request : StartRequest)
    (versions : List QuestionVersion) (now : Nat) :
    SameAnswers books (addAttempt books (newAttempt books version request versions now)) := by
  intro row hrow
  rcases mem_append.1 hrow with hold | hnew
  · exact Or.inr ⟨row, hold, rfl, rfl⟩
  · rw [mem_singleton.1 hnew]
    refine Or.inl ⟨Nat.le_refl _, ?_⟩
    intro question hquestion
    obtain ⟨entry, _, rfl⟩ := mem_map.1 hquestion
    rfl

theorem follows_addReceipt (key id : Nat) (result : AttemptResult) :
    Follows books (addReceipt books key id result) := by
  have hsame := Follows.refl books
  exact ⟨hsame.forth, hsame.back, hsame.nextAttempt, fun _ hin => mem_append_left _ hin⟩

variable {request : StartRequest} {now : Nat} {result : Books × Nat} {run : Run} {entry : Nat × Nat}
  {sent : List AnswerRequest}

theorem follows_started (h : Kept quizzes books)
    (hstarted : Started quizzes books request now result) :
    Follows books result.1 ∧ SameAnswers books result.1 := by
  cases hstarted with
  | returned existing => exact ⟨.refl books, .refl books⟩
  | expired existing hin hkey hquiz hactive hpast =>
    exact ⟨follows_closeAttempt h hin hactive now true, sameAnswers_closeAttempt hin now true⟩
  | resumed active => exact ⟨.refl books, .refl books⟩
  | created version versions hfresh hversion hnone hroom =>
    exact ⟨follows_addAttempt rfl, sameAnswers_addAttempt version request versions now⟩
  | replaced active version versions hfresh hin hquiz hactive hpast hversion hroom =>
    exact ⟨(follows_closeAttempt h hin hactive now true).trans (follows_addAttempt rfl),
      (sameAnswers_closeAttempt hin now true).trans
        (sameAnswers_addAttempt version request versions now) (Nat.le_refl _)⟩

theorem follows_submitted {id key : Nat} {result : Books × AttemptResult} (h : Kept quizzes books)
    (hsubmitted : Submitted books id key now result) :
    Follows books result.1 ∧ SameAnswers books result.1 := by
  cases hsubmitted with
  | repeated receipt => exact ⟨.refl books, .refl books⟩
  | recorded result => exact ⟨follows_addReceipt key id result, SameAnswers.refl books⟩
  | closed attempt hfresh hin hid hactive =>
    exact ⟨(follows_closeAttempt h hin hactive now _).trans (follows_addReceipt key id _),
      sameAnswers_closeAttempt hin now _⟩

def savesOf (saves : List AnswerRequest) (attempt position : Nat) : List AnswerRequest :=
  saves.filter fun save => save.attempt = attempt && save.question = position

def Latest (sent : List AnswerRequest) : Option AttemptAnswer → Prop
  | none => sent = []
  | some stored =>
    (∃ save ∈ sent, save.selected = stored.selectedOptionIds ∧
        save.clientRevision = stored.clientRevision) ∧
      ∀ save ∈ sent, save.clientRevision ≤ stored.clientRevision ∧
        (save.clientRevision = stored.clientRevision → save.selected = stored.selectedOptionIds)

structure RunKept (quizzes : Quizzes) (run : Run) : Prop where
  books : Kept quizzes run.books
  savesKnown : ∀ save ∈ run.saves, save.attempt < run.books.nextAttempt
  latest : ∀ attempt ∈ run.books.attempts, ∀ question ∈ attempt.questions,
    Latest (savesOf run.saves attempt.id question.position) question.answer
  submitsKnown : ∀ entry ∈ run.submits,
    ∃ receipt ∈ run.books.receipts, receipt.key = entry.1 ∧ receipt.result = entry.2
  startsKnown : ∀ entry ∈ run.starts, entry.2 < run.books.nextAttempt
  startsOwn : ∀ entry ∈ run.starts, ∀ attempt ∈ run.books.attempts, attempt.startKey = entry.1 →
    attempt.id = entry.2
  startsAgree : ∀ entry ∈ run.starts, ∀ other ∈ run.starts, entry.1 = other.1 → entry.2 = other.2

/-- A start key that made no attempt is used again only while the attempt it was answered
with is open, and for its quiz. -/
def Remembered (run : Run) (call : Call × Nat) : Prop :=
  match call.1 with
  | .start request =>
    (∀ attempt ∈ run.books.attempts, attempt.startKey ≠ request.key) →
      ∀ entry ∈ run.starts, entry.1 = request.key →
        ∃ attempt ∈ run.books.attempts, attempt.id = entry.2 ∧ attempt.quiz = request.quiz ∧
          attempt.status = .active ∧ attempt.pastDeadline call.2 = false
  | _ => True

theorem savesOf_eq_nil {saves : List AnswerRequest} {id position bound : Nat}
    (h : ∀ save ∈ saves, save.attempt < bound) (hid : bound ≤ id) : savesOf saves id position = [] := by
  unfold savesOf
  rw [filter_eq_nil_iff]
  intro save hsave
  have hlt := h save hsave
  have hne : save.attempt ≠ id := by omega
  simp [hne]

theorem latest_of_sameAnswers (h : RunKept quizzes run) (hsame : SameAnswers run.books next) :
    ∀ attempt ∈ next.attempts, ∀ question ∈ attempt.questions,
      Latest (savesOf run.saves attempt.id question.position) question.answer := by
  intro after hafter question hquestion
  rcases hsame after hafter with ⟨hnew, hnone⟩ | ⟨attempt, hin, hid, hquestions⟩
  · rw [hnone question hquestion]
    exact savesOf_eq_nil h.savesKnown hnew
  · rw [← hid]
    exact h.latest attempt hin question (hquestions ▸ hquestion)

theorem RunKept.quiet (h : RunKept quizzes run) (hkept : Kept quizzes next)
    (hfollows : Follows run.books next) (hsame : SameAnswers run.books next)
    (hnext : next.nextAttempt = run.books.nextAttempt) :
    RunKept quizzes { run with books := next } where
  books := hkept
  savesKnown := by
    show ∀ save ∈ run.saves, save.attempt < next.nextAttempt
    rw [hnext]
    exact h.savesKnown
  latest := (latest_of_sameAnswers h hsame :)
  submitsKnown := by
    intro entry hentry
    obtain ⟨receipt, hreceipt, hkey, hresult⟩ := h.submitsKnown entry hentry
    exact ⟨receipt, hfollows.receipts receipt hreceipt, hkey, hresult⟩
  startsKnown := by
    show ∀ entry ∈ run.starts, entry.2 < next.nextAttempt
    rw [hnext]
    exact h.startsKnown
  startsOwn := by
    intro entry hentry after hafter hkey
    rcases hfollows.back after hafter with hnew | ⟨attempt, hin, hid, hown⟩
    · have hlt := hkept.fresh after hafter
      omega
    · rw [← hid]
      exact h.startsOwn entry hentry attempt hin (hown.trans hkey)
  startsAgree := h.startsAgree

theorem startsKnown_append {starts : List (Nat × Nat)} {bound bound' : Nat}
    (h : ∀ entry ∈ starts, entry.2 < bound) (hbound : bound ≤ bound') (hentry : entry.2 < bound') :
    ∀ other ∈ starts ++ [entry], other.2 < bound' := by
  intro other hother
  rcases mem_append.1 hother with hold | hnew
  · exact lt_of_lt_of_le (h other hold) hbound
  · rw [mem_singleton.1 hnew]
    exact hentry

theorem startsAgree_append {starts : List (Nat × Nat)}
    (h : ∀ one ∈ starts, ∀ other ∈ starts, one.1 = other.1 → one.2 = other.2)
    (hentry : ∀ one ∈ starts, one.1 = entry.1 → one.2 = entry.2) :
    ∀ one ∈ starts ++ [entry], ∀ other ∈ starts ++ [entry], one.1 = other.1 → one.2 = other.2 := by
  intro one hone other hother hkey
  rcases mem_append.1 hone with honeOld | honeNew
  · rcases mem_append.1 hother with hotherOld | hotherNew
    · exact h one honeOld other hotherOld hkey
    · rw [mem_singleton.1 hotherNew] at hkey ⊢
      exact hentry one honeOld hkey
  · rcases mem_append.1 hother with hotherOld | hotherNew
    · rw [mem_singleton.1 honeNew] at hkey ⊢
      exact (hentry other hotherOld hkey.symm).symm
    · rw [mem_singleton.1 honeNew, mem_singleton.1 hotherNew]

structure StartKeys (books : Books) (request : StartRequest) (result : Books × Nat) : Prop where
  known : result.2 < result.1.nextAttempt
  own : ∀ after ∈ result.1.attempts, after.startKey = request.key → after.id = result.2
  others : ∀ after ∈ result.1.attempts, after.startKey ≠ request.key →
    ∃ attempt ∈ books.attempts, attempt.id = after.id ∧ attempt.startKey = after.startKey

theorem startKeys_of_own (h : Kept quizzes books) (hkept : Kept quizzes next)
    (hfollows : Follows books next) {existing : Attempt} (hin : existing ∈ books.attempts)
    (hnext : next.nextAttempt = books.nextAttempt)
    (hown : ∀ attempt ∈ books.attempts, attempt.startKey = request.key → attempt = existing) :
    StartKeys books request (next, existing.id) := by
  have hold : ∀ after ∈ next.attempts, ∃ attempt ∈ books.attempts, attempt.id = after.id ∧
      attempt.startKey = after.startKey := by
    intro after hafter
    rcases hfollows.back after hafter with hnew | hback
    · have hlt := hkept.fresh after hafter
      omega
    · exact hback
  refine ⟨?_, ?_, fun after hafter _ => hold after hafter⟩
  · show existing.id < next.nextAttempt
    rw [hnext]
    exact h.fresh existing hin
  · intro after hafter hkey
    obtain ⟨attempt, hattempt, hid, hsame⟩ := hold after hafter
    rw [← hid, hown attempt hattempt (hsame.trans hkey)]

theorem startKeys_of_added {version : QuizVersion} {versions : List QuestionVersion}
    (hfollows : Follows books middle) (hkept : Kept quizzes middle)
    (hnext : middle.nextAttempt = books.nextAttempt)
    (hfresh : ∀ attempt ∈ books.attempts, attempt.startKey ≠ request.key) :
    StartKeys books request
      (addAttempt middle (newAttempt middle version request versions now), books.nextAttempt) := by
  have hold : ∀ after ∈ middle.attempts, ∃ attempt ∈ books.attempts, attempt.id = after.id ∧
      attempt.startKey = after.startKey := by
    intro after hafter
    rcases hfollows.back after hafter with hnew | hback
    · have hlt := hkept.fresh after hafter
      omega
    · exact hback
  refine ⟨?_, ?_, ?_⟩
  · show books.nextAttempt < middle.nextAttempt + 1
    omega
  · intro after hafter hkey
    rcases mem_append.1 hafter with hmiddle | hnew
    · obtain ⟨attempt, hattempt, _, hsame⟩ := hold after hmiddle
      exact absurd (hsame.trans hkey) (hfresh attempt hattempt)
    · rw [mem_singleton.1 hnew]
      exact hnext
  · intro after hafter hkey
    rcases mem_append.1 hafter with hmiddle | hnew
    · exact hold after hmiddle
    · rw [mem_singleton.1 hnew] at hkey
      exact absurd rfl hkey

theorem startKeys_started (h : Kept quizzes books)
    (hstarted : Started quizzes books request now result) : StartKeys books request result := by
  have hown : ∀ existing ∈ books.attempts, existing.startKey = request.key →
      ∀ attempt ∈ books.attempts, attempt.startKey = request.key → attempt = existing :=
    fun existing hin hkey attempt hattempt hsame =>
      h.keys.eq hattempt hin (hsame.trans hkey.symm)
  cases hstarted with
  | returned existing hin hkey hquiz hopen =>
    exact startKeys_of_own h h (.refl books) hin rfl (hown existing hin hkey)
  | expired existing hin hkey hquiz hactive hpast =>
    exact startKeys_of_own h (h.close hin hactive now true)
      (follows_closeAttempt h hin hactive now true) hin rfl (hown existing hin hkey)
  | resumed active hfresh hin hquiz hactive hopen =>
    exact startKeys_of_own h h (.refl books) hin rfl
      fun attempt hattempt hsame => absurd hsame (hfresh attempt hattempt)
  | created version versions hfresh hversion hnone hroom =>
    exact startKeys_of_added (.refl books) h rfl hfresh
  | replaced active version versions hfresh hin hquiz hactive hpast hversion hroom =>
    exact startKeys_of_added (follows_closeAttempt h hin hactive now true)
      (h.close hin hactive now true) rfl hfresh

theorem started_agrees (h : RunKept quizzes run)
    (hremembered : Remembered run (.start request, now))
    (hstarted : Started quizzes run.books request now result) :
    ∀ entry ∈ run.starts, entry.1 = request.key → entry.2 = result.2 := by
  intro entry hentry hkey
  cases hstarted with
  | returned existing hin hown hquiz hopen =>
    exact (h.startsOwn entry hentry existing hin (hown.trans hkey.symm)).symm
  | expired existing hin hown hquiz hactive hpast =>
    exact (h.startsOwn entry hentry existing hin (hown.trans hkey.symm)).symm
  | resumed active hfresh hin hquiz hactive hopen =>
    obtain ⟨attempt, hattempt, hid, hattemptQuiz, hattemptActive, _⟩ :=
      hremembered hfresh entry hentry hkey
    rw [← hid, h.books.oneActive attempt hattempt active hin (hattemptQuiz.trans hquiz.symm)
      hattemptActive hactive]
  | created version versions hfresh hversion hnone hroom =>
    obtain ⟨attempt, hattempt, _, hattemptQuiz, hattemptActive, _⟩ :=
      hremembered hfresh entry hentry hkey
    exact absurd hattemptActive (hnone attempt hattempt hattemptQuiz)
  | replaced active version versions hfresh hin hquiz hactive hpast hversion hroom =>
    obtain ⟨attempt, hattempt, _, hattemptQuiz, hattemptActive, hopen⟩ :=
      hremembered hfresh entry hentry hkey
    rw [h.books.oneActive attempt hattempt active hin (hattemptQuiz.trans hquiz.symm)
      hattemptActive hactive, hpast] at hopen
    simp at hopen

theorem RunKept.start (h : RunKept quizzes run) (hremembered : Remembered run (.start request, now))
    (hstarted : Started quizzes run.books request now result) :
    RunKept quizzes { run with
      books := result.1, starts := run.starts ++ [(request.key, result.2)] } := by
  obtain ⟨hfollows, hsame⟩ := follows_started h.books hstarted
  have hkeys := startKeys_started h.books hstarted
  have hagrees := started_agrees h hremembered hstarted
  refine ⟨h.books.started hstarted, ?_, (latest_of_sameAnswers h hsame :), ?_,
    startsKnown_append h.startsKnown hfollows.nextAttempt hkeys.known, ?_,
    startsAgree_append h.startsAgree hagrees⟩
  · exact fun save hsave => lt_of_lt_of_le (h.savesKnown save hsave) hfollows.nextAttempt
  · intro entry hentry
    obtain ⟨receipt, hreceipt, hkey, hresult⟩ := h.submitsKnown entry hentry
    exact ⟨receipt, hfollows.receipts receipt hreceipt, hkey, hresult⟩
  · intro entry hentry after hafter hkey
    rcases mem_append.1 hentry with hold | hnew
    · by_cases hrequest : after.startKey = request.key
      · rw [hkeys.own after hafter hrequest]
        exact (hagrees entry hold (hkey.symm.trans hrequest)).symm
      · obtain ⟨attempt, hattempt, hid, hown⟩ := hkeys.others after hafter hrequest
        rw [← hid]
        exact h.startsOwn entry hold attempt hattempt (hown.trans hkey)
    · rw [mem_singleton.1 hnew] at hkey ⊢
      exact hkeys.own after hafter hkey

theorem RunKept.submit {id key : Nat} {result : Books × AttemptResult} (h : RunKept quizzes run)
    (hsubmitted : Submitted run.books id key now result) :
    RunKept quizzes { run with
      books := result.1, submits := run.submits ++ [(key, result.2)] } := by
  obtain ⟨hfollows, hsame⟩ := follows_submitted h.books hsubmitted
  have hnext : result.1.nextAttempt = run.books.nextAttempt := by cases hsubmitted <;> rfl
  have hquiet := h.quiet (h.books.submitted hsubmitted) hfollows hsame hnext
  refine ⟨hquiet.books, hquiet.savesKnown, hquiet.latest, ?_, hquiet.startsKnown, hquiet.startsOwn,
    hquiet.startsAgree⟩
  refine Table.forall_mem_append hquiet.submitsKnown ?_
  cases hsubmitted with
  | repeated receipt hin hkey => exact ⟨receipt, hin, hkey, rfl⟩
  | recorded result =>
    exact ⟨⟨key, id, result⟩, mem_append_right _ (mem_singleton_self _), rfl, rfl⟩
  | closed attempt =>
    exact ⟨⟨key, id, newResult run.books.nextResult attempt now⟩,
      mem_append_right _ (mem_singleton_self _), rfl, rfl⟩

theorem savesOf_append (saves : List AnswerRequest) (request : AnswerRequest) (id position : Nat) :
    savesOf (saves ++ [request]) id position =
      savesOf saves id position ++
        if request.attempt = id ∧ request.question = position then [request] else [] := by
  unfold savesOf
  rw [filter_append]
  congr 1
  by_cases h : request.attempt = id ∧ request.question = position
  · rw [if_pos h]
    simp [h.1, h.2]
  · rw [if_neg h]
    simpa using h

theorem Latest.same {stored : AttemptAnswer} {request : AnswerRequest}
    (h : Latest sent (some stored)) (hselected : stored.selectedOptionIds = request.selected)
    (hrevision : stored.clientRevision = request.clientRevision) :
    Latest (sent ++ [request]) (some stored) := by
  obtain ⟨⟨save, hsave, hsame⟩, hall⟩ := h
  refine ⟨⟨save, mem_append_left _ hsave, hsame⟩, ?_⟩
  exact Table.forall_mem_append hall ⟨Nat.le_of_eq hrevision.symm, fun _ => hselected.symm⟩

theorem Latest.newer {answer : Option AttemptAnswer} {request : AnswerRequest}
    (h : Latest sent answer)
    (hnewer : ∀ stored, answer = some stored → stored.clientRevision < request.clientRevision)
    (serverRevision : Nat) :
    Latest (sent ++ [request])
      (some ⟨request.selected, request.clientRevision, serverRevision⟩) := by
  refine ⟨⟨request, mem_append_right _ (mem_singleton_self _), rfl, rfl⟩, ?_⟩
  intro other hother
  rcases mem_append.1 hother with hold | hnew
  · cases answer with
    | none =>
      rw [h] at hold
      exact absurd hold not_mem_nil
    | some stored =>
      have hle := (h.2 other hold).1
      have hlt := hnewer stored rfl
      show other.clientRevision ≤ request.clientRevision ∧
        (other.clientRevision = request.clientRevision → other.selected = request.selected)
      refine ⟨by omega, fun heq => ?_⟩
      omega
  · rw [mem_singleton.1 hnew]
    exact ⟨Nat.le_refl _, fun _ => rfl⟩

theorem RunKept.saveAnswer {request : AnswerRequest} (h : RunKept quizzes run)
    (hcall : saveAnswer run.books request now = .ok next) :
    RunKept quizzes { run with books := next, saves := run.saves ++ [request] } := by
  obtain ⟨attempt, question, hsaved, hcase⟩ := saveAnswer_ok hcall
  have hkept := h.books.saveAnswer hcall
  have hknown : ∀ save ∈ run.saves ++ [request], save.attempt < run.books.nextAttempt := by
    intro save hsave
    rcases mem_append.1 hsave with hold | hnew
    · exact h.savesKnown save hold
    · rw [mem_singleton.1 hnew, ← hsaved.attempt_id]
      exact h.books.fresh attempt hsaved.attempt_mem
  -- what the new entry means for the questions it is not about
  have hother : ∀ row ∈ run.books.attempts, ∀ asked ∈ row.questions,
      ¬ (request.attempt = row.id ∧ request.question = asked.position) →
        Latest (savesOf (run.saves ++ [request]) row.id asked.position) asked.answer := by
    intro row hrow asked hasked hne
    rw [savesOf_append, if_neg hne, append_nil]
    exact h.latest row hrow asked hasked
  have hsent : savesOf (run.saves ++ [request]) attempt.id question.position =
      savesOf run.saves attempt.id question.position ++ [request] := by
    rw [savesOf_append, if_pos ⟨hsaved.attempt_id.symm, hsaved.question_position.symm⟩]
  have hlatest := h.latest attempt hsaved.attempt_mem question hsaved.question_mem
  rcases hcase with ⟨stored, hstored, hselected, hrevision, rfl⟩ | ⟨hnewer, rfl⟩
  · refine ⟨hkept, hknown, ?_, h.submitsKnown, h.startsKnown, h.startsOwn, h.startsAgree⟩
    intro row hrow asked hasked
    by_cases hsame : request.attempt = row.id ∧ request.question = asked.position
    · have hrowEq : row = attempt :=
        h.books.distinct.eq hrow hsaved.attempt_mem (hsame.1.symm.trans hsaved.attempt_id.symm)
      subst hrowEq
      have haskedEq : asked = question := (h.books.positions row hrow).eq hasked hsaved.question_mem
        (hsame.2.symm.trans hsaved.question_position.symm)
      subst haskedEq
      rw [hsent]
      rw [hstored] at hlatest ⊢
      exact hlatest.same hselected hrevision
    · exact hother row hrow asked hasked hsame
  · have hfollows : Follows run.books (run.books.putAttempt (answeredAttempt attempt question request)) :=
      follows_putAttempt h.books hsaved.attempt_mem answeredAttempt_rewrites hsaved.active
        (Nat.lt_succ_self _)
    refine ⟨hkept, hknown, ?_, h.submitsKnown, h.startsKnown, ?_, h.startsAgree⟩
    · intro row hrow asked hasked
      rcases mem_putAttempt hrow with rfl | ⟨hold, hne⟩
      · rcases Table.mem_put.1 hasked with ⟨rfl, _⟩ | ⟨haskedOld, haskedNe⟩
        · show Latest (savesOf (run.saves ++ [request]) attempt.id question.position)
            (some ⟨request.selected, request.clientRevision, attempt.serverRevision + 1⟩)
          rw [hsent]
          exact hlatest.newer hnewer _
        · apply hother attempt hsaved.attempt_mem asked haskedOld
          intro hsame
          exact haskedNe (hsame.2.symm.trans hsaved.question_position.symm)
      · apply hother row hold asked hasked
        intro hsame
        exact hne (hsame.1.symm.trans hsaved.attempt_id.symm)
    · intro entry hentry row hrow hkey
      rcases hfollows.back row hrow with hnew | ⟨old, hold, hid, hown⟩
      · have hlt := hkept.fresh row hrow
        have hnext : (run.books.putAttempt (answeredAttempt attempt question request)).nextAttempt =
            run.books.nextAttempt := rfl
        omega
      · rw [← hid]
        exact h.startsOwn entry hentry old hold (hown.trans hkey)

theorem runKept_emptyRun : RunKept quizzes emptyRun where
  books := kept_emptyBooks
  savesKnown := forall_mem_nil _
  latest := forall_mem_nil _
  submitsKnown := forall_mem_nil _
  startsKnown := forall_mem_nil _
  startsOwn := forall_mem_nil _
  startsAgree := forall_mem_nil _

/-- One step: the invariant, and how the attempts move. -/
theorem RunKept.exec {after : Run} {call : Call × Nat} (h : RunKept quizzes run)
    (hremembered : Remembered run call) (hexec : call.1.exec quizzes run call.2 = .ok after) :
    RunKept quizzes after ∧ Follows run.books after.books := by
  obtain ⟨call, now⟩ := call
  cases call with
  | start request =>
    obtain ⟨result, hresult, hexec⟩ := bind_eq_ok.1 hexec
    cases hexec
    have hstarted := h.books.startAttempt_ok hresult
    exact ⟨h.start hremembered hstarted, (follows_started h.books hstarted).1⟩
  | saveAnswer request =>
    obtain ⟨next, hnext, hexec⟩ := bind_eq_ok.1 hexec
    cases hexec
    refine ⟨h.saveAnswer hnext, ?_⟩
    obtain ⟨attempt, question, hsaved, hcase⟩ := saveAnswer_ok hnext
    rcases hcase with ⟨_, _, _, _, rfl⟩ | ⟨_, rfl⟩
    · exact .refl _
    · exact follows_putAttempt h.books hsaved.attempt_mem answeredAttempt_rewrites hsaved.active
        (Nat.lt_succ_self _)
  | saveResume id position clientRevision =>
    obtain ⟨next, hnext, hexec⟩ := bind_eq_ok.1 hexec
    cases hexec
    have hkept := h.books.saveAttemptResume hnext
    rcases saveAttemptResume_ok hnext with rfl | ⟨attempt, hin, _, hactive, _, rfl⟩
    · exact ⟨h, .refl _⟩
    · have hrewrites := resumedAttempt_rewrites attempt position clientRevision
      have hfollows := follows_putAttempt h.books hin hrewrites hactive (Nat.lt_succ_self _)
      exact ⟨h.quiet hkept hfollows (sameAnswers_putAttempt hin rfl rfl) rfl, hfollows⟩
  | submit id key =>
    obtain ⟨result, hresult, hexec⟩ := bind_eq_ok.1 hexec
    cases hexec
    have hsubmitted := h.books.submitAttempt_ok hresult
    exact ⟨h.submit hsubmitted, (follows_submitted h.books hsubmitted).1⟩
  | refresh id =>
    obtain ⟨next, hnext, hexec⟩ := bind_eq_ok.1 hexec
    cases hexec
    have hkept := h.books.refreshAttemptState hnext
    obtain ⟨attempt, hin, _, hcase⟩ := h.books.refreshAttemptState_ok hnext
    rcases hcase with ⟨hactive, _, rfl⟩ | ⟨_, rfl⟩
    · have hfollows := follows_closeAttempt h.books hin hactive now true
      exact ⟨h.quiet hkept hfollows (sameAnswers_closeAttempt hin now true) rfl, hfollows⟩
    · exact ⟨h, .refl _⟩

def attemptPairs (run after : Run) : List (Attempt × Option Attempt) :=
  run.books.attempts.map fun attempt =>
    (attempt, Table.find Attempt.id after.books.attempts attempt.id)

def MovesOn (pair : Attempt × Option Attempt) : Prop :=
  ∃ after, pair.2 = some after ∧ Moves pair.1 after

theorem movesOn_of_follows {after : Run} (hkept : Kept quizzes after.books)
    (hfollows : Follows run.books after.books) : ∀ pair ∈ attemptPairs run after, MovesOn pair := by
  intro pair hpair
  obtain ⟨attempt, hin, rfl⟩ := mem_map.1 hpair
  obtain ⟨later, hlater, hid, hmoves⟩ := hfollows.forth attempt hin
  refine ⟨later, ?_, hmoves⟩
  show Table.find Attempt.id after.books.attempts attempt.id = some later
  rw [← hid]
  exact hkept.distinct.find hlater

/-- What holds in every state: of the attempts of a quiz at most one is active and there are
no more than allowed; an attempt has one result if it is closed and none otherwise; stored
answers are the latest accepted, and results are worked out from them; and a key is answered
alike each time. -/
structure Sound (quizzes : Quizzes) (run : Run) : Prop where
  oneActive : ∀ quiz, (run.books.attempts.filter fun attempt =>
    attempt.quiz = quiz && attempt.status = .active).length ≤ 1
  limited : ∀ quiz version, quizzes quiz = some version → version.maximumAttempts ≠ 0 →
    (run.books.attempts.filter (·.quiz = quiz)).length ≤ version.maximumAttempts
  results : ∀ attempt ∈ run.books.attempts,
    (run.books.results.filter (·.attempt = attempt.id)).length =
      if attempt.status = .active then 0 else 1
  latest : ∀ attempt ∈ run.books.attempts, ∀ question ∈ attempt.questions,
    Latest (savesOf run.saves attempt.id question.position) question.answer
  graded : ∀ attempt ∈ run.books.attempts, ∀ result ∈ run.books.results,
    result.attempt = attempt.id → result.grade = gradeOf attempt.version attempt.questions ∧
      result.grade.answeredCount + result.grade.unansweredCount = attempt.questions.length
  submits : ∀ entry ∈ run.submits, ∀ other ∈ run.submits, entry.1 = other.1 → entry.2 = other.2
  starts : ∀ entry ∈ run.starts, ∀ other ∈ run.starts, entry.1 = other.1 → entry.2 = other.2

theorem length_filter_key {ρ κ : Type} [DecidableEq κ] {key : ρ → κ} {rows : List ρ} {row : ρ}
    (h : Table.Distinct key rows) (hin : row ∈ rows) :
    (rows.filter fun other => key other = key row).length = 1 := by
  have hcount : (rows.filter fun other => key other = key row).length = (rows.map key).count (key row) := by
    rw [List.count, countP_map, countP_eq_length_filter]
    congr 1
  rw [hcount]
  exact count_eq_one_of_mem h (mem_map_of_mem hin)

theorem RunKept.sound (h : RunKept quizzes run) : Sound quizzes run where
  oneActive := by
    intro quiz
    by_contra hmany
    obtain ⟨first, second, rest, hfilter⟩ : ∃ first second rest,
        run.books.attempts.filter (fun attempt => attempt.quiz = quiz && attempt.status = .active) =
          first :: second :: rest := by
      cases hcase : run.books.attempts.filter
          (fun attempt => attempt.quiz = quiz && attempt.status = .active) with
      | nil => rw [hcase] at hmany; exact absurd (Nat.zero_le 1) hmany
      | cons first tail =>
        cases tail with
        | nil => rw [hcase] at hmany; exact absurd (Nat.le_refl 1) hmany
        | cons second rest => exact ⟨first, second, rest, rfl⟩
    have hmem : ∀ attempt, attempt ∈ first :: second :: rest →
        attempt ∈ run.books.attempts ∧ attempt.quiz = quiz ∧ attempt.status = .active := by
      intro attempt hin
      rw [← hfilter, mem_filter] at hin
      simpa using hin
    have hfirst := hmem first mem_cons_self
    have hsecond := hmem second (mem_cons_of_mem _ mem_cons_self)
    have heq := h.books.oneActive first hfirst.1 second hsecond.1
      (hfirst.2.1.trans hsecond.2.1.symm) hfirst.2.2 hsecond.2.2
    have hnodup : (first :: second :: rest).Nodup := by
      rw [← hfilter]
      exact (List.Nodup.of_map _ h.books.distinct).filter _
    exact (nodup_cons.1 hnodup).1 (heq ▸ mem_cons_self)
  limited := h.books.limited
  results := by
    intro attempt hin
    by_cases hactive : attempt.status = .active
    · rw [if_pos hactive, length_eq_zero_iff, filter_eq_nil_iff]
      intro result hresult
      simpa using h.books.noResult attempt hin hactive result hresult
    · rw [if_neg hactive]
      obtain ⟨result, hresult, hattempt⟩ := h.books.hasResult attempt hin hactive
      rw [← hattempt]
      exact length_filter_key h.books.oneResult hresult
  latest := h.latest
  graded := by
    intro attempt hin result hresult hattempt
    have hgrade := h.books.graded attempt hin result hresult hattempt
    refine ⟨hgrade, ?_⟩
    rw [hgrade]
    have hle := length_filter_le (fun question : AttemptQuestion => decide (question.selected ≠ []))
      attempt.questions
    show (attempt.questions.filter (·.selected ≠ [])).length +
      (attempt.questions.length - (attempt.questions.filter (·.selected ≠ [])).length) = _
    omega
  submits := by
    intro entry hentry other hother hkey
    obtain ⟨receipt, hreceipt, hreceiptKey, hresult⟩ := h.submitsKnown entry hentry
    obtain ⟨receipt', hreceipt', hreceiptKey', hresult'⟩ := h.submitsKnown other hother
    have heq := h.books.receiptKeys.eq hreceipt hreceipt'
      (hreceiptKey.trans (hkey.trans hreceiptKey'.symm))
    rw [← hresult, ← hresult', heq]
  starts := h.startsAgree

/-- In a run whose start keys are remembered, every state is sound and in every step each
attempt moves on: a closed one stays as it is, and an accepted change raises the revision. -/
theorem attempts_sound (quizzes : Quizzes) (state : Run × List (Attempt × Option Attempt)) (now : Nat)
    (h : ((assessment quizzes).recording attemptPairs).Reaches
      (fun state call => Remembered state.1 call) state now) :
    Sound quizzes state.1 ∧ ∀ pair ∈ state.2, MovesOn pair := by
  have hboth := Machine.Reaches.recording_invariant (m := assessment quizzes) (I := RunKept quizzes)
    (P := MovesOn) runKept_emptyRun
    (fun run call after hkept hremembered hexec => by
      obtain ⟨hafter, hfollows⟩ := hkept.exec hremembered hexec
      exact ⟨hafter, movesOn_of_follows hafter.books hfollows⟩) h
  exact ⟨hboth.1.sound, hboth.2⟩

def oneQuestion : QuizVersion :=
  { mode := .quiz
    selectionMode := .fixed
    questionLinks := [⟨1, false, [⟨1, true⟩, ⟨2, false⟩]⟩]
    questionCount := 1
    durationSeconds := some 60
    maximumAttempts := 2
    availableFrom := none
    availableUntil := none
    randomizeQuestions := false
    randomizeOptions := false
    passPercent := 6000
    rankingEligible := false
    achievementEligible := false
    allowedDifficulties := [] }

def startWith (key : Nat) : StartRequest :=
  { quiz := 1
    key := key
    requestedCount := none
    difficulties := []
    reviewOnly := false
    draw := ⟨fun _ => [], fun _ => [], fun pool count => pool.take count, id, fun _ options => options⟩ }

def oneQuiz : Quizzes := fun quiz => if quiz = 1 then some oneQuestion else none

instance (run : Run) (call : Call × Nat) : Decidable (Remembered run call) := by
  obtain ⟨call, now⟩ := call
  cases call <;> unfold Remembered <;> infer_instance

/-- An answer is saved twice and changed, and the attempt is submitted twice. -/
def answeredRun : List (Call × Nat) :=
  [(.start (startWith 1), 1), (.saveAnswer ⟨1, 1, [2], 0⟩, 2), (.saveAnswer ⟨1, 1, [2], 0⟩, 3),
    (.saveAnswer ⟨1, 1, [1], 4⟩, 4), (.submit 1 7, 5), (.submit 1 7, 6), (.start (startWith 1), 7)]

theorem answeredRun_sound :
    Sound oneQuiz (((assessment oneQuiz).recording attemptPairs).outcome answeredRun).1 ∧
      ∀ pair ∈ (((assessment oneQuiz).recording attemptPairs).outcome answeredRun).2, MovesOn pair :=
  attempts_sound oneQuiz _ _
    (.of_accepts (by decide +kernel) (by decide +kernel) (by decide +kernel))

/-- The second key meets the open attempt of the first.  Sent again when that one is over, the
same call makes an attempt. -/
def repeatedStart : List (Call × Nat) :=
  [(.start (startWith 1), 1), (.start (startWith 2), 2), (.submit 1 7, 3), (.start (startWith 2), 4)]

theorem repeated_start_makes_another :
    ¬ ∀ (quizzes : Quizzes) (run : Run) (now : Nat),
      (assessment quizzes).Reaches Machine.Always run now → Sound quizzes run := by
  intro h
  have hsound := h oneQuiz _ _ (@Machine.Reaches.of_accepts _ _ _ (assessment oneQuiz) Machine.Always
    repeatedStart (by decide +kernel) (by decide +kernel) (Machine.admitted_always _ _))
  have hstarts : ((assessment oneQuiz).outcome repeatedStart).starts = [(1, 1), (2, 1), (2, 2)] := by
    decide +kernel
  have hsame := hsound.starts (2, 1) (by rw [hstarts]; decide) (2, 2) (by rw [hstarts]; decide) rfl
  exact absurd hsame (by decide)

end LockIn.Assessment
