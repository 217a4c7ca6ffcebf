import LockIn.Study.RunInvariant
import LockIn.Library.Transaction

/-!
# Submitting answers together

The answers of an attempt are entered one by one, or handed in with its submission.  Handing
them in takes a way of its own: the new answers are written together, and what they tell the
review bank follows.  It leaves what entering them would have left, up to the instants at
which the answers were given, and a submission that is refused leaves nothing.
-/

namespace LockIn.Study

open List Outcome Table
open Transaction (Call andThen atomic decided forEach write)

def answerEvent (sheet : Sheet) (run : Run) (attempt : Attempt) (source : List Question)
    (now : Nat) (answer : Answer) : Except StudyError QuestionAttemptEvent := do
  let (_, question) ← checkedQuestion source answer.position answer.selectedAnswer
  questionEvent sheet run attempt question answer now

def submissionOf (env : Env) (user runId attemptId : Nat) (store : Store) :
    Except StudyError (Run × Sheet × Attempt) := do
  let (run, sheet) ← lockedRun env store user runId
  match run.attempt? attemptId with
  | none => .error (.rule "Question attempt not found.")
  | some attempt => .ok (run, sheet, attempt)

def submissionSource (sheet : Sheet) (run : Run) (attempt : Attempt) :
    Except StudyError (List Question) := do
  refuse [(run.stage != attempt.expectedStage ||
      (attempt.kind == .checkpoint && attempt.part != some run.currentPart),
    .rule "This attempt cannot be submitted now.")]
  questionsFor sheet run attempt.kind attempt.part

/-- `submit` with each of its writes where the code makes it: the new answers, their events,
the graded attempt, and the run with its reward. -/
def submitStatements (env : Env) (user runId attemptId : Nat) (answers : List (Int × String)) :
    Call Store StudyError (Run × AttemptResult) :=
  andThen (decided (submissionOf env user runId attemptId)) fun (run, sheet, attempt) =>
    if attempt.submittedAt.isSome then
      andThen (decided fun _ => questionsFor sheet run attempt.kind attempt.part) fun _ =>
        Transaction.answer (run, attemptResult run attempt true)
    else
      andThen (decided fun _ => submissionSource sheet run attempt) fun source =>
      andThen (decided fun _ => answers.foldlM (holdAnswer source) attempt.answers) fun held =>
      andThen (write fun store =>
        store.saveRun (run.saveAttempt { attempt with answers := held })) fun _ =>
      andThen (forEach (fun answer =>
          andThen (decided fun _ => answerEvent sheet run attempt source env.now answer)
            fun event => write fun store => { store with events := store.events ++ [event] })
        (held.drop attempt.answers.length)) fun _ =>
      andThen (decided fun _ => refuse [(held.length != attempt.total,
        .rule "Answer every question before submitting.")]) fun _ =>
      let graded := ({ attempt with answers := held } : Attempt).graded env.now
      andThen (write fun store => store.saveRun (run.saveAttempt graded)) fun _ =>
      andThen (decided fun _ => afterGrading (run.saveAttempt graded) graded) fun after =>
      andThen (decided fun store => .ok (settleGraded store after graded [] env.now))
        fun (settled, run) =>
      andThen (write fun _ => settled) fun _ =>
        Transaction.answer (run, attemptResult run graded false)

def answeredOneByOne (env : Env) (user runId attemptId : Nat) (store : Store) :
    List (Nat × Int × String) → Except StudyError (Store × Run × AttemptResult)
  | [] => submit env store user runId attemptId []
  | (instant, position, selected) :: rest => do
    let (store, _) ←
      answerQuestion { env with now := instant } store user runId attemptId position selected
    answeredOneByOne env user runId attemptId store rest

def QuestionAttemptEvent.dated (event : QuestionAttemptEvent) (instant : Nat) :
    QuestionAttemptEvent :=
  { event with answeredAt := instant }

def Store.undated (store : Store) : Store :=
  { store with events := store.events.map (·.dated 0) }

/-- What a submission leaves and answers with, if it is not refused. -/
def lasting (outcome : Except StudyError (Store × Run × AttemptResult)) :
    Option (Store × Run × AttemptResult) :=
  outcome.toOption.map fun (store, run, result) => (store.undated, run, result)

variable {position : Int} {selected : String} {next : Run}

section
variable {sheet : Sheet} {run : Run} {attempt : Attempt} {source : List Question} {now : Nat}

theorem holdAnswer_ok {held after : List Answer} {item : Int × String}
    (h : holdAnswer source held item = .ok after) : held <+: after := by
  obtain ⟨⟨position, question⟩, _, h⟩ := bind_eq_ok.mp h
  simp only at h
  split at h
  · split at h
    · cases h
    · cases h
      exact prefix_rfl
  · cases h
    exact prefix_append _ _

theorem holdAnswers_ok {items : List (Int × String)} {held after : List Answer}
    (h : items.foldlM (holdAnswer source) held = .ok after) : held <+: after := by
  induction items generalizing held with
  | nil =>
    cases h
    exact prefix_rfl
  | cons item rest ih =>
    rw [foldlM_cons] at h
    obtain ⟨next, hnext, hrest⟩ := bind_eq_ok.mp h
    exact (holdAnswer_ok hnext).trans (ih hrest)

theorem checkedQuestion_ok {place : Nat} {question : Question}
    (h : checkedQuestion source position selected = .ok (place, question)) :
    (place : Int) = position := by
  unfold checkedQuestion at h
  split at h
  · cases h
  · next found hfound =>
    have hpositive : ¬position < 1 := by
      intro hlow
      rw [if_pos hlow] at hfound
      cases hfound
    split at h
    · cases h
      omega
    · cases h

theorem answerEvents_eq_mapM (created : List Answer) :
    answerEvents sheet run attempt source now created =
      created.mapM (answerEvent sheet run attempt source now) := by
  induction created with
  | nil => rfl
  | cons answer rest ih =>
    rw [mapM_cons, ← ih]
    simp only [answerEvents, answerEvent, bind_assoc]

theorem answerEvents_append (first second : List Answer) :
    answerEvents sheet run attempt source now (first ++ second) = (do
      let before ← answerEvents sheet run attempt source now first
      let after ← answerEvents sheet run attempt source now second
      return before ++ after) := by
  simp only [answerEvents_eq_mapM, mapM_append]

theorem answerEvent_dated (now instant : Nat) (answer : Answer) :
    answerEvent sheet run attempt source instant answer =
      (·.dated instant) <$> answerEvent sheet run attempt source now answer := by
  unfold answerEvent
  cases checkedQuestion source answer.position answer.selectedAnswer with
  | error reason => rfl
  | ok found =>
    unfold questionEvent
    cases sheet.published with
    | false => rfl
    | true => rfl

theorem answerEvents_dated (now instant : Nat) (created : List Answer) :
    answerEvents sheet run attempt source instant created =
      List.map (·.dated instant) <$> answerEvents sheet run attempt source now created := by
  simp only [answerEvents_eq_mapM]
  induction created with
  | nil => rfl
  | cons answer rest ih =>
    rw [mapM_cons, mapM_cons, ih, answerEvent_dated now instant]
    cases answerEvent sheet run attempt source now answer with
    | error reason => rfl
    | ok event =>
      cases rest.mapM (answerEvent sheet run attempt source now) with
      | error reason => rfl
      | ok events => rfl

theorem answerEvents_entered (other : Attempt) (held : List Answer) (created : List Answer) :
    answerEvents sheet (run.saveAttempt other) { attempt with answers := held } source now created =
      answerEvents sheet run attempt source now created := by
  simp only [answerEvents_eq_mapM]
  rfl

end

structure OpenFor (env : Env) (store : Store) (user runId attemptId : Nat) (run : Run)
    (sheet : Sheet) (attempt : Attempt) : Prop where
  locked : lockedRun env store user runId = .ok (run, sheet)
  found : run.attempt? attemptId = some attempt
  isOpen : attempt.submittedAt = none
  placed : attempt.kind = .final → attempt.part = none

def Attempt.Due (attempt : Attempt) (run : Run) : Prop :=
  run.stage = attempt.expectedStage ∧
    (attempt.kind = .checkpoint → attempt.part = some run.currentPart)

instance (attempt : Attempt) (run : Run) : Decidable (attempt.Due run) :=
  inferInstanceAs (Decidable (_ ∧ _))

def Store.entered (store : Store) (run : Run) (attempt : Attempt) (held : List Answer)
    (events : List QuestionAttemptEvent) : Store :=
  { store.saveRun (run.saveAttempt { attempt with answers := held }) with
    events := store.events ++ events }

/-- The end of `submit`, from the answers held and the events they lead to. -/
def closeAttempt (env : Env) (store : Store) (run : Run) (attempt : Attempt) (held : List Answer)
    (events : List QuestionAttemptEvent) : Except StudyError (Store × Run × AttemptResult) := do
  refuse [(held.length != attempt.total, .rule "Answer every question before submitting.")]
  let graded := ({ attempt with answers := held } : Attempt).graded env.now
  let after ← afterGrading (run.saveAttempt graded) graded
  let settled := settleGraded store after graded events env.now
  return (settled.1, settled.2, attemptResult settled.2 graded false)

section
variable {env : Env} {store : Store} {user runId attemptId : Nat} {run : Run} {sheet : Sheet}
  {attempt : Attempt}

theorem submissionSource_due (h : attempt.Due run) :
    submissionSource sheet run attempt = questionsFor sheet run attempt.kind attempt.part := by
  unfold submissionSource
  have hdue : (run.stage != attempt.expectedStage ||
      (attempt.kind == .checkpoint && attempt.part != some run.currentPart)) = false := by
    obtain ⟨hstage, hpart⟩ := h
    cases hkind : attempt.kind with
    | final => simp [hstage]
    | checkpoint => simp [hstage, hpart hkind]
  rw [hdue]
  rfl

theorem submissionSource_not_due (h : ¬attempt.Due run) :
    ∃ reason, submissionSource sheet run attempt = .error reason := by
  unfold submissionSource
  have hlate : (run.stage != attempt.expectedStage ||
      (attempt.kind == .checkpoint && attempt.part != some run.currentPart)) = true := by
    by_contra hdue
    rw [Bool.not_eq_true] at hdue
    simp only [Bool.or_eq_false_iff, Bool.and_eq_false_iff, bne_eq_false_iff_eq,
      beq_eq_false_iff_ne] at hdue
    exact h ⟨hdue.1, fun hkind => hdue.2.resolve_left fun hother => hother hkind⟩
  rw [hlate]
  exact ⟨_, rfl⟩

/-- `submit` on an open attempt: the questions, the answers, their events and the end. -/
theorem submit_open (hlocked : lockedRun env store user runId = .ok (run, sheet))
    (hfound : run.attempt? attemptId = some attempt) (hopen : attempt.submittedAt = none)
    (answers : List (Int × String)) :
    submit env store user runId attemptId answers = (do
      let source ← submissionSource sheet run attempt
      let held ← answers.foldlM (holdAnswer source) attempt.answers
      let events ← answerEvents sheet run attempt source env.now (held.drop attempt.answers.length)
      closeAttempt env store run attempt held events) := by
  unfold submit
  have hopen : ¬attempt.submittedAt.isSome = true := by simp [hopen]
  rw [hlocked]
  simp only [ok_bind, hfound, hopen, gradeAttempt, submissionSource, bind_assoc,
    recordSubmittedAnswers, closeAttempt, pure_bind]
  rfl

theorem lockedRun_eq_ok : lockedRun env store user runId = .ok (run, sheet) ↔
    store.run? runId = some run ∧ run.scope.user = user ∧
      sheetForUser env user run.scope.sheet = .ok sheet := by
  unfold lockedRun
  constructor
  · intro h
    cases hfound : (store.run? runId).filter fun run => run.scope.user = user with
    | none =>
      rw [hfound] at h
      cases h
    | some found =>
      rw [hfound] at h
      obtain ⟨other, hsheet, h⟩ := bind_eq_ok.mp h
      cases h
      obtain ⟨hrun, huser⟩ := Option.filter_eq_some_iff.mp hfound
      exact ⟨hrun, by simpa using huser, hsheet⟩
  · rintro ⟨hrun, huser, hsheet⟩
    have hfound : (store.run? runId).filter (fun run => run.scope.user = user) = some run :=
      Option.filter_eq_some_iff.mpr ⟨hrun, by simpa using huser⟩
    rw [hfound]
    simp only [hsheet, ok_bind]
    rfl

theorem OpenFor.entered (h : OpenFor env store user runId attemptId run sheet attempt)
    (held : List Answer) (events : List QuestionAttemptEvent) :
    OpenFor env (store.entered run attempt held events) user runId attemptId
      (run.saveAttempt { attempt with answers := held }) sheet { attempt with answers := held } where
  locked := by
    obtain ⟨hrun, huser, hsheet⟩ := lockedRun_eq_ok.mp h.locked
    refine lockedRun_eq_ok.mpr ⟨?_, huser, hsheet⟩
    obtain rfl : run.id = runId := find_key hrun
    show Table.find Run.id (Table.put Run.id store.runs (run.saveAttempt _)) run.id = _
    exact find_put_self hrun
  found := by
    have hattempt : Table.find Attempt.id run.attempts attemptId = some attempt := h.found
    obtain rfl : attempt.id = attemptId := find_key hattempt
    show Table.find Attempt.id (Table.put Attempt.id run.attempts { attempt with answers := held })
      attempt.id = _
    exact find_put_self hattempt
  isOpen := h.isOpen
  placed := h.placed

/-- `_record_answer` holds the answer as a round of the loop does. -/
theorem recordAnswer_eq (source : List Question) (position : Int) (selected : String) (now : Nat) :
    (fun recorded => (recorded.1, recorded.2.1)) <$>
        recordAnswer sheet run attempt source position selected now = (do
      let held ← holdAnswer source attempt.answers (position, selected)
      let events ← answerEvents sheet run attempt source now (held.drop attempt.answers.length)
      return ({ attempt with answers := held }, events)) := by
  unfold recordAnswer holdAnswer
  cases hchecked : checkedQuestion source position selected with
  | error reason => rfl
  | ok checked =>
    obtain ⟨place, question⟩ := checked
    have hplace := checkedQuestion_ok hchecked
    simp only [ok_bind]
    cases hfind : Table.find Answer.position attempt.answers place with
    | some existing =>
      by_cases hsame : existing.selectedAnswer = selected
      · simp only [hsame, ne_eq, not_true, if_false, ok_bind, drop_length]
        rfl
      · simp only [hsame, ne_eq, not_false_iff, if_true]
        rfl
    | none =>
      simp only [ok_bind, drop_left, answerEvents, hplace, hchecked]
      cases questionEvent sheet run attempt question
        ⟨place, selected, selected == correctAnswer question⟩ now with
      | error reason => rfl
      | ok event => rfl

theorem due_stageKind (h : attempt.Due run)
    (hplaced : attempt.kind = .final → attempt.part = none) :
    attempt.kind = run.stageKind.1 ∧ attempt.part = run.stageKind.2 := by
  obtain ⟨hstage, hpart⟩ := h
  unfold Run.stageKind
  unfold Attempt.expectedStage at hstage
  cases hkind : attempt.kind with
  | final =>
    rw [hkind] at hstage
    rw [if_pos hstage]
    exact ⟨rfl, hplaced hkind⟩
  | checkpoint =>
    rw [hkind] at hstage
    rw [if_neg (by rw [hstage]; decide)]
    exact ⟨rfl, hpart hkind⟩

/-- An answer entered when its attempt is due: the questions, the answers held then, and the
event of a new one. -/
theorem answerQuestion_due (h : OpenFor env store user runId attemptId run sheet attempt)
    (hdue : attempt.Due run) (instant : Nat) (position : Int) (selected : String) :
    Prod.fst <$> answerQuestion { env with now := instant } store user runId attemptId position
        selected = (do
      let source ← questionsFor sheet run attempt.kind attempt.part
      let held ← holdAnswer source attempt.answers (position, selected)
      let events ← answerEvents sheet run attempt source instant (held.drop attempt.answers.length)
      return store.entered run attempt held events) := by
  unfold answerQuestion
  have hlocked : lockedRun { env with now := instant } store user runId = .ok (run, sheet) := h.locked
  have hopen : (run.attempt? attemptId).filter (·.submittedAt.isNone) = some attempt :=
    Option.filter_eq_some_iff.mpr ⟨h.found, by simp [h.isOpen]⟩
  obtain ⟨hkind, hpart⟩ := due_stageKind hdue h.placed
  rw [hlocked]
  simp only [ok_bind]
  unfold answer
  rw [hopen]
  simp only [hkind, hpart, bne_self_eq_false, Bool.or_false]
  cases hsource : questionsFor sheet run run.stageKind.1 run.stageKind.2 with
  | error reason => rfl
  | ok source =>
    have hentered : (do
          let held ← holdAnswer source attempt.answers (position, selected)
          let events ←
            answerEvents sheet run attempt source instant (held.drop attempt.answers.length)
          return store.entered run attempt held events) =
        (fun recorded : Attempt × List QuestionAttemptEvent =>
            { store.saveRun (run.saveAttempt recorded.1) with
              events := store.events ++ recorded.2 }) <$>
          (fun recorded => (recorded.1, recorded.2.1)) <$>
            recordAnswer sheet run attempt source position selected instant := by
      rw [recordAnswer_eq]
      simp only [map_bind, map_pure]
      rfl
    simp only [ok_bind]
    rw [hentered]
    cases recordAnswer sheet run attempt source position selected instant with
    | error reason => rfl
    | ok recorded => rfl

theorem afterGrading_id {graded : Attempt} (h : afterGrading run graded = .ok next) :
    next.id = run.id := by
  obtain ⟨_, _, hfinish⟩ | ⟨_, _, rfl⟩ | ⟨_, rfl⟩ := afterGrading_ok h
  · obtain ⟨_, rfl⟩ | ⟨_, _, _, rfl⟩ := finishPart_ok hfinish
    · rfl
    · rfl
  · rfl
  · rfl

theorem settleGraded_saved {earlier : Run} (hid : earlier.id = run.id) (graded : Attempt)
    (first second : List QuestionAttemptEvent) (now : Nat) :
    settleGraded { store.saveRun earlier with events := store.events ++ first } run graded second
        now =
      settleGraded store run graded (first ++ second) now := by
  have hput (next : Run) (hnext : next.id = run.id) :
      Table.put Run.id (Table.put Run.id store.runs earlier) next =
        Table.put Run.id store.runs next :=
    put_put (hid.trans hnext.symm)
  unfold settleGraded awardXp
  simp only [Store.saveRun, append_assoc]
  split
  · split
    · split
      · rw [hput]
        rfl
      · rw [hput]
        rfl
    · rw [hput run rfl]
  · rw [hput run rfl]

theorem saveAttempt_saveAttempt {first second : Attempt} (h : first.id = second.id) :
    (run.saveAttempt first).saveAttempt second = run.saveAttempt second := by
  show ({ run with
    attempts := Table.put Attempt.id (Table.put Attempt.id run.attempts first) second } : Run) = _
  rw [put_put h]
  rfl

theorem closeAttempt_entered (held later : List Answer) (first second : List QuestionAttemptEvent) :
    closeAttempt env (store.entered run attempt held first)
        (run.saveAttempt { attempt with answers := held }) { attempt with answers := held } later
        second =
      closeAttempt env store run attempt later (first ++ second) := by
  unfold closeAttempt
  have hsaved : (run.saveAttempt { attempt with answers := held }).saveAttempt
      (({ attempt with answers := later } : Attempt).graded env.now) =
        run.saveAttempt (({ attempt with answers := later } : Attempt).graded env.now) :=
    saveAttempt_saveAttempt rfl
  simp only [hsaved]
  cases hafter : afterGrading (run.saveAttempt
      (({ attempt with answers := later } : Attempt).graded env.now))
      (({ attempt with answers := later } : Attempt).graded env.now) with
  | error reason => rfl
  | ok after =>
    have hid : (run.saveAttempt { attempt with answers := held }).id = after.id :=
      (afterGrading_id hafter).symm
    simp only [ok_bind]
    unfold Store.entered
    rw [settleGraded_saved hid]

theorem settleGraded_undated (graded : Attempt) {first second : List QuestionAttemptEvent}
    (h : first.map (·.dated 0) = second.map (·.dated 0)) (now : Nat) :
    (settleGraded store run graded first now).1.undated =
        (settleGraded store run graded second now).1.undated ∧
      (settleGraded store run graded first now).2 = (settleGraded store run graded second now).2 := by
  unfold settleGraded awardXp Store.undated Store.saveRun
  split
  · split
    · dsimp only
      split
      · simp [h]
      · simp [h]
    · simp [h]
  · simp [h]

theorem lasting_closeAttempt (held : List Answer) {first second : List QuestionAttemptEvent}
    (h : first.map (·.dated 0) = second.map (·.dated 0)) :
    lasting (closeAttempt env store run attempt held first) =
      lasting (closeAttempt env store run attempt held second) := by
  unfold closeAttempt
  cases refuse [(held.length != attempt.total,
    StudyError.rule "Answer every question before submitting.")] with
  | error reason => rfl
  | ok _ =>
    simp only [ok_bind]
    cases afterGrading (run.saveAttempt (({ attempt with answers := held } : Attempt).graded env.now))
        (({ attempt with answers := held } : Attempt).graded env.now) with
    | error reason => rfl
    | ok after =>
      obtain ⟨hstore, hrun⟩ := @settleGraded_undated store after
        (({ attempt with answers := held } : Attempt).graded env.now) first second h env.now
      simp only [ok_bind, lasting, pure, Except.pure, Except.toOption, Option.map_some, hstore, hrun]

theorem lasting_not_due (h : OpenFor env store user runId attemptId run sheet attempt)
    (hdue : ¬attempt.Due run) (answers : List (Int × String)) :
    lasting (submit env store user runId attemptId answers) = none := by
  obtain ⟨reason, hreason⟩ := @submissionSource_not_due run sheet attempt hdue
  rw [submit_open h.locked h.found h.isOpen, hreason]
  rfl

theorem answerQuestion_ok (h : OpenFor env store user runId attemptId run sheet attempt)
    {instant : Nat} {next : Store} {checked : Checked}
    (hs : answerQuestion { env with now := instant } store user runId attemptId position selected =
      .ok (next, checked)) : ∃ held events, next = store.entered run attempt held events := by
  obtain ⟨⟨found, seen⟩, hlocked, hs⟩ := bind_eq_ok.mp hs
  have hsame : lockedRun { env with now := instant } store user runId = .ok (run, sheet) := h.locked
  rw [hsame] at hlocked
  cases hlocked
  obtain ⟨⟨saved, events, told⟩, hanswer, hs⟩ := bind_eq_ok.mp hs
  cases hs
  obtain ⟨other, held, hother, _, rfl⟩ := answer_ok hanswer
  rw [h.found] at hother
  cases hother
  exact ⟨held, events, rfl⟩

theorem submit_entered (h : OpenFor env store user runId attemptId run sheet attempt)
    (hdue : attempt.Due run) {source : List Question}
    (hsource : questionsFor sheet run attempt.kind attempt.part = .ok source) (held : List Answer)
    (first : List QuestionAttemptEvent) (rest : List (Int × String)) :
    submit env (store.entered run attempt held first) user runId attemptId rest = (do
      let later ← rest.foldlM (holdAnswer source) held
      let second ← answerEvents sheet run attempt source env.now (later.drop held.length)
      closeAttempt env store run attempt later (first ++ second)) := by
  have hdue' : Attempt.Due { attempt with answers := held }
      (run.saveAttempt { attempt with answers := held }) := hdue
  have hsource' : questionsFor sheet (run.saveAttempt { attempt with answers := held }) attempt.kind
      attempt.part = .ok source := hsource
  have hentered := h.entered held first
  rw [submit_open hentered.locked hentered.found hentered.isOpen, submissionSource_due hdue']
  simp only [hsource', ok_bind, answerEvents_entered, closeAttempt_entered]

theorem submit_cons (h : OpenFor env store user runId attemptId run sheet attempt) (instant : Nat)
    (item : Int × String) (rest : List (Int × String)) :
    lasting (submit env store user runId attemptId (item :: rest)) = lasting (do
      let next ← Prod.fst <$>
        answerQuestion { env with now := instant } store user runId attemptId item.1 item.2
      submit env next user runId attemptId rest) := by
  by_cases hdue : attempt.Due run
  · rw [answerQuestion_due h hdue, submit_open h.locked h.found h.isOpen, submissionSource_due hdue,
      bind_assoc]
    cases hsource : questionsFor sheet run attempt.kind attempt.part with
    | error reason => rfl
    | ok source =>
      simp only [ok_bind, foldlM_cons, bind_assoc, pure_bind]
      cases hheld : holdAnswer source attempt.answers item with
      | error reason => rfl
      | ok held =>
        simp only [ok_bind, submit_entered h hdue hsource]
        cases hlater : rest.foldlM (holdAnswer source) held with
        | error reason =>
          simp only [error_bind]
          cases answerEvents sheet run attempt source instant (held.drop attempt.answers.length) with
          | error _ => rfl
          | ok _ => rfl
        | ok later =>
          -- The new answers of the list are those of its first item and those of the rest.
          obtain ⟨created, hcreated⟩ := holdAnswer_ok hheld
          obtain ⟨more, hmore⟩ := holdAnswers_ok hlater
          have hle : attempt.answers.length ≤ held.length := by
            rw [← hcreated, length_append]
            omega
          rw [← hmore]
          simp only [ok_bind, drop_left, drop_append_of_le_length hle]
          rw [answerEvents_append, answerEvents_dated env.now instant]
          cases answerEvents sheet run attempt source env.now
              (held.drop attempt.answers.length) with
          | error reason => rfl
          | ok first =>
            cases answerEvents sheet run attempt source env.now more with
            | error reason => rfl
            | ok second =>
              refine lasting_closeAttempt (held ++ more) ?_
              simp only [map_append, map_map]
              rfl
  · rw [lasting_not_due h hdue]
    cases hanswer : answerQuestion { env with now := instant } store user runId attemptId item.1
      item.2 with
    | error reason => rfl
    | ok answered =>
      obtain ⟨next, checked⟩ := answered
      obtain ⟨held, events, rfl⟩ := answerQuestion_ok h hanswer
      exact (lasting_not_due (h.entered held events) hdue rest).symm

theorem lasting_answeredOneByOne (h : OpenFor env store user runId attemptId run sheet attempt)
    (timed : List (Nat × Int × String)) :
    lasting (answeredOneByOne env user runId attemptId store timed) =
      lasting (submit env store user runId attemptId (timed.map Prod.snd)) := by
  induction timed generalizing store run attempt with
  | nil => rfl
  | cons answered rest ih =>
    obtain ⟨instant, position, selected⟩ := answered
    rw [map_cons, submit_cons h instant]
    unfold answeredOneByOne
    cases hanswer : answerQuestion { env with now := instant } store user runId attemptId position
      selected with
    | error reason => rfl
    | ok result =>
      obtain ⟨next, checked⟩ := result
      obtain ⟨held, events, rfl⟩ := answerQuestion_ok h hanswer
      exact ih (h.entered held events)

theorem told_events (events : List QuestionAttemptEvent) (store : Store) :
    events.foldl (fun store event => { store with events := store.events ++ [event] }) store =
      { store with events := store.events ++ events } := by
  induction events generalizing store with
  | nil => simp
  | cons event rest ih =>
    rw [foldl_cons, ih]
    simp

theorem outcome_tellEvents (source : List Question) (now : Nat) (created : List Answer) :
    Transaction.outcome (forEach (fun answer =>
        andThen (decided fun _ => answerEvent sheet run attempt source now answer)
          fun event => write fun store => { store with events := store.events ++ [event] })
        created) store =
      (fun events => ({ store with events := store.events ++ events }, ())) <$>
        answerEvents sheet run attempt source now created := by
  rw [Transaction.outcome_forEach (answerEvent sheet run attempt source now)
    (fun event (store : Store) => { store with events := store.events ++ [event] }),
    answerEvents_eq_mapM]
  simp only [told_events]

/-- The end of `submit`, after the answers and their events were written. -/
theorem closeAttempt_written (held : List Answer) (events : List QuestionAttemptEvent) :
    closeAttempt env store run attempt held events = (do
      refuse [(held.length != attempt.total, .rule "Answer every question before submitting.")]
      let graded := ({ attempt with answers := held } : Attempt).graded env.now
      let written := (store.entered run attempt held events).saveRun (run.saveAttempt graded)
      let after ← afterGrading (run.saveAttempt graded) graded
      let settled := settleGraded written after graded [] env.now
      return (settled.1, settled.2, attemptResult settled.2 graded false)) := by
  unfold closeAttempt
  cases refuse [(held.length != attempt.total,
    StudyError.rule "Answer every question before submitting.")] with
  | error reason => rfl
  | ok _ =>
    simp only [ok_bind]
    cases hafter : afterGrading
        (run.saveAttempt (({ attempt with answers := held } : Attempt).graded env.now))
        (({ attempt with answers := held } : Attempt).graded env.now) with
    | error reason => rfl
    | ok after =>
      have hwritten : (store.entered run attempt held events).saveRun (run.saveAttempt
            (({ attempt with answers := held } : Attempt).graded env.now)) =
          { store.saveRun (run.saveAttempt
              (({ attempt with answers := held } : Attempt).graded env.now)) with
            events := store.events ++ events } := by
        have hsame : (run.saveAttempt { attempt with answers := held }).id = (run.saveAttempt
          (({ attempt with answers := held } : Attempt).graded env.now)).id := rfl
        unfold Store.entered Store.saveRun
        simp only [put_put hsame]
      have hid : (run.saveAttempt
          (({ attempt with answers := held } : Attempt).graded env.now)).id = after.id :=
        (afterGrading_id hafter).symm
      simp only [ok_bind, hwritten]
      rw [settleGraded_saved hid, append_nil]

/-- Writing as it goes and taking the writes back when it is refused, `submit` is the function
that changes nothing unless it answers. -/
theorem outcome_submitStatements (answers : List (Int × String)) :
    Transaction.outcome (submitStatements env user runId attemptId answers) store =
      submit env store user runId attemptId answers := by
  unfold submitStatements
  rw [Transaction.outcome_decided]
  cases hlocked : lockedRun env store user runId with
  | error reason =>
    unfold submissionOf submit
    rw [hlocked]
    rfl
  | ok locked =>
    obtain ⟨run, sheet⟩ := locked
    cases hfound : run.attempt? attemptId with
    | none =>
      unfold submissionOf submit
      rw [hlocked]
      simp only [ok_bind, hfound, error_bind]
    | some attempt =>
      have hsubmission : submissionOf env user runId attemptId store = .ok (run, sheet, attempt) := by
        unfold submissionOf
        rw [hlocked]
        simp only [ok_bind, hfound]
      rw [hsubmission]
      simp only [ok_bind]
      by_cases hopen : attempt.submittedAt = none
      · rw [submit_open hlocked hfound hopen]
        have hsome : ¬attempt.submittedAt.isSome = true := by simp [hopen]
        rw [if_neg hsome]
        simp only [Transaction.outcome_decided, Transaction.outcome_write,
          Transaction.outcome_andThen (forEach _ _), outcome_tellEvents]
        cases submissionSource sheet run attempt with
        | error reason => rfl
        | ok source =>
          simp only [ok_bind]
          cases answers.foldlM (holdAnswer source) attempt.answers with
          | error reason => rfl
          | ok held =>
            simp only [ok_bind]
            cases answerEvents sheet run attempt source env.now
              (held.drop attempt.answers.length) with
            | error reason => rfl
            | ok events =>
              simp only [ok_bind]
              rw [closeAttempt_written]
              rfl
      · have hsome : attempt.submittedAt.isSome = true := Option.isSome_iff_ne_none.mpr hopen
        unfold submit
        rw [hlocked]
        simp only [ok_bind, hfound, hsome, if_true, Transaction.outcome_decided]
        rfl

end

def Run.FinalsApart (run : Run) : Prop :=
  ∀ attempt ∈ run.attempts, attempt.kind = .final → attempt.part = none

theorem Run.FinalsApart.save {run : Run} (h : run.FinalsApart) {attempt : Attempt}
    (hattempt : attempt.kind = .final → attempt.part = none) :
    (run.saveAttempt attempt).FinalsApart := by
  exact forall_mem_put h hattempt

theorem Run.FinalsApart.append {run : Run} (h : run.FinalsApart) {attempt : Attempt}
    (hattempt : attempt.kind = .final → attempt.part = none) :
    ({ run with attempts := run.attempts ++ [attempt] } : Run).FinalsApart := by
  exact Table.forall_mem_append h hattempt

theorem Run.FinalsApart.withoutOpen {run : Run} (h : run.FinalsApart) (kind : AttemptKind)
    (part : Option Nat) : (withoutOpen run kind part).FinalsApart :=
  fun attempt hattempt => h attempt (mem_filter.mp hattempt).1

theorem Run.FinalsApart.congr {run : Run} (h : run.FinalsApart)
    (hattempts : next.attempts = run.attempts) : next.FinalsApart := by
  unfold Run.FinalsApart
  rw [hattempts]
  exact h

theorem kept_finalsApart (sheet : Sheet) : Kept sheet Run.FinalsApart fun _ => True where
  reading hrun h := by
    obtain ⟨_, ⟨_, _, _, _, _, _, rfl⟩ | ⟨_, _, rfl⟩⟩ := completePartReading_ok h
    · exact hrun
    · exact hrun
  resumed hrun _ _ _ h := by
    obtain rfl | ⟨_, _, _, rfl⟩ := resumeRun_ok h
    · exact hrun
    · exact hrun
  opened hrun _ _ hpart := by
    unfold activeAttempt
    split
    · exact hrun
    · exact hrun.append hpart
  adopted hrun _ _ _ hpart := Run.FinalsApart.append (hrun.withoutOpen _ _) hpart
  answered hrun h := by
    obtain ⟨attempt, answers, hattempt, _, rfl⟩ := answer_ok h
    exact hrun.save (hrun attempt (find_mem hattempt))
  graded {run next id attempt answers now graded events} hrun hattempt _ h := by
    refine ⟨fun _ => ?_, fun _ _ _ => trivial⟩
    obtain ⟨_, _, held, rfl, hafter⟩ := gradeAttempt_ok h
    have hsaved : (run.saveAttempt
        (Attempt.graded { attempt with answers := held } now)).FinalsApart :=
      hrun.save (hrun attempt (find_mem hattempt))
    obtain ⟨_, _, hfinish⟩ | ⟨_, _, rfl⟩ | ⟨_, rfl⟩ := afterGrading_ok hafter
    · exact hsaved.congr (finishPart_frame hfinish).1
    · exact hsaved
    · exact hsaved
  continued {run next} hrun h := by
    obtain ⟨_, attempt, done, hlatest, hfinish, rfl⟩ := continueAnyway_ok h
    have hmem := (mem_attemptsOf.mp (mem_filter.mp (latest_mem hlatest)).1).1
    have hsaved : (run.saveAttempt { attempt with continuedAnyway := true }).FinalsApart :=
      hrun.save (hrun attempt hmem)
    exact hsaved.congr (finishPart_frame hfinish).1
  again hrun h := by
    obtain ⟨_, rfl⟩ := studyAgain_ok h
    exact hrun
  retried hrun h := by
    obtain ⟨_, _, rfl⟩ := retryFinal_ok h
    exact hrun
  discarded hrun h := by
    obtain ⟨_, kind, part, rfl⟩ := discardOpenAttempt_ok h
    exact hrun.withoutOpen kind part
  abandoned hrun h := by
    obtain ⟨_, rfl⟩ := abandon_ok h
    exact hrun
  clocked hrun h := by
    obtain ⟨_, _, rfl⟩ := savePomodoroClock_ok h
    exact hrun

theorem reached_finalsApart {calls : List (Env × Service)} {run : Run}
    (hrun : run ∈ (reached calls).runs) : run.FinalsApart :=
  reached_runs (fun _ _ _ _ _ _ => ⟨trivial, nofun⟩) kept_finalsApart hrun

/-- A submission with its answers, and the answers entered before the submission: both answer
the same and leave the same, or both are refused and the first leaves what it found. -/
inductive EndAlike (before : Store) : Except StudyError (Run × AttemptResult) × Store →
    Except StudyError (Store × Run × AttemptResult) → Prop
  | answered {run : Run} {result : AttemptResult} {after stepwise : Store}
      (same : after.undated = stepwise.undated) :
      EndAlike before (.ok (run, result), after) (.ok (stepwise, run, result))
  | refused {reason other : StudyError} : EndAlike before (.error reason, before) (.error other)

theorem endAlike_of_lasting {call : Call Store StudyError (Run × AttemptResult)} {store : Store}
    {stepwise : Except StudyError (Store × Run × AttemptResult)}
    (h : lasting stepwise = lasting (Transaction.outcome call store)) :
    EndAlike store (atomic call store) stepwise := by
  cases houtcome : Transaction.outcome call store with
  | error reason =>
    rw [houtcome] at h
    rw [Transaction.atomic_of_error houtcome]
    cases stepwise with
    | error _ => exact .refused
    | ok result => cases h
  | ok together =>
    obtain ⟨after, run, result⟩ := together
    rw [houtcome] at h
    rw [Transaction.atomic_of_ok houtcome]
    cases stepwise with
    | error _ => cases h
    | ok found =>
      obtain ⟨last, other, told⟩ := found
      simp only [lasting, Except.toOption, Option.map_some, Option.some.injEq, Prod.mk.injEq] at h
      obtain ⟨hstore, rfl, rfl⟩ := h
      exact .answered hstore.symm

/-- Whatever an open attempt holds and whatever answers are handed in, submitting them together
ends as entering them one by one and submitting. -/
theorem bulk_submission (history : List (Env × Service)) (env : Env) (user runId attemptId : Nat)
    (timed : List (Nat × Int × String)) (run : Run) (attempt : Attempt)
    (hrun : (reached history).run? runId = some run)
    (hattempt : run.attempt? attemptId = some attempt) (hopen : attempt.submittedAt = none) :
    EndAlike (reached history)
      (atomic (submitStatements env user runId attemptId (timed.map Prod.snd)) (reached history))
      (answeredOneByOne env user runId attemptId (reached history) timed) := by
  apply endAlike_of_lasting
  rw [outcome_submitStatements]
  cases hlocked : lockedRun env (reached history) user runId with
  | error reason =>
    have hrefused (answers : List (Int × String)) :
        submit env (reached history) user runId attemptId answers = .error reason := by
      unfold submit
      rw [hlocked]
      rfl
    rw [hrefused]
    cases timed with
    | nil =>
      unfold answeredOneByOne
      rw [hrefused]
    | cons answered rest =>
      have hlater : lockedRun { env with now := answered.1 } (reached history) user runId =
        .error reason := hlocked
      unfold answeredOneByOne answerQuestion
      rw [hlater]
      rfl
  | ok locked =>
    obtain ⟨found, sheet⟩ := locked
    obtain ⟨hfound, _⟩ := lockedRun_eq_ok.mp hlocked
    rw [hrun] at hfound
    cases hfound
    exact lasting_answeredOneByOne ⟨hlocked, hattempt, hopen,
      reached_finalsApart (find_mem hrun) attempt (find_mem hattempt)⟩ timed

def answeredTwice : List (Nat × Int × String) := [(7, 1, "A"), (8, 1, "A")]

def afterLeaving : Env := ⟨fun _ => some onePageSheet, 9, 9, 9⟩

theorem repeated_answer_submitted :
    ∃ run attempt, (reached leftAtFinalExam).run? 1 = some run ∧ run.attempt? 5 = some attempt ∧
      EndAlike (reached leftAtFinalExam)
        (atomic (submitStatements afterLeaving 1 1 5 (answeredTwice.map Prod.snd))
          (reached leftAtFinalExam))
        (answeredOneByOne afterLeaving 1 1 5 (reached leftAtFinalExam) answeredTwice) := by
  have hgiven : (((reached leftAtFinalExam).run? 1).any fun run =>
      (run.attempt? 5).any fun attempt => decide (attempt.submittedAt = none)) = true := by
    decide +kernel
  simp only [Option.any_eq_true, decide_eq_true_eq] at hgiven
  obtain ⟨run, hrun, attempt, hattempt, hopen⟩ := hgiven
  exact ⟨run, attempt, hrun, hattempt, bulk_submission leftAtFinalExam afterLeaving 1 1 5
    answeredTwice run attempt hrun hattempt hopen⟩

end LockIn.Study
