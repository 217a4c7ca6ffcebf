import LockIn.Study.Attempts

/-!
# Runs that have ended

A completed run shows the result of its final exam and nothing acts on it any more.  An
abandoned run keeps the stage it was in.  What ends with it is opening and discarding
attempts; submitting one that is open, continuing after a failed checkpoint and studying
it again only look at the stage.  So an abandoned run is over exactly as far as its stage
leaves none of these to do.
-/

namespace LockIn.Study

open List Outcome Table

def Attempt.grade (attempt : Attempt) : Nat × Option Nat × Option Bool × Option Nat :=
  (attempt.id, attempt.score, attempt.passed, attempt.submittedAt)

structure Frozen (before after : Run) : Prop where
  status : after.status = before.status
  stage : after.stage = before.stage
  currentPart : after.currentPart = before.currentPart
  completedParts : after.completedParts = before.completedParts
  unlockedPages : after.unlockedPages = before.unlockedPages
  xpAwarded : after.xpAwarded = before.xpAwarded
  grades : after.attempts.map Attempt.grade = before.attempts.map Attempt.grade

def Run.Submittable (run : Run) (attempt : Attempt) : Prop :=
  attempt.submittedAt = none ∧ run.stage = attempt.expectedStage ∧
    (attempt.kind = .checkpoint → attempt.part = some run.currentPart)

def Run.AtRest (run : Run) : Prop :=
  run.stage ≠ .checkpointResult ∧ ∀ attempt ∈ run.attempts, ¬run.Submittable attempt

def Run.Over (run : Run) : Prop :=
  run.status = .completed ∨ run.status = .abandoned ∧ run.AtRest

/-- What holds of every run: its attempts have ids of their own, and a completed run shows
the result of its final exam. -/
structure Run.WellFormed (run : Run) : Prop where
  ids : Table.Distinct Attempt.id run.attempts
  done : run.status = .completed → run.stage = .finalResult

theorem kept_wellFormed (sheet : Sheet) : Kept sheet Run.WellFormed fun _ => True where
  reading hrun h := by
    obtain ⟨hactive, ⟨_, _, _, _, _, _, rfl⟩ | ⟨_, _, rfl⟩⟩ := completePartReading_ok h
    · exact ⟨hrun.ids, fun hdone => absurd (hactive.symm.trans hdone) (by decide)⟩
    · exact ⟨hrun.ids, fun hdone => absurd (hactive.symm.trans hdone) (by decide)⟩
  resumed hrun _ _ _ h := by
    obtain rfl | ⟨_, _, _, rfl⟩ := resumeRun_ok h
    · exact hrun
    · exact ⟨hrun.ids, hrun.done⟩
  opened {run kind part total fresh} hrun _ hfree _ := by
    refine ⟨distinct_activeAttempt hrun.ids hfree kind part total, ?_⟩
    obtain ⟨attempts, heq⟩ := activeAttempt_run run kind part total fresh
    rw [heq]
    exact hrun.done
  adopted hrun _ _ hfree _ := ⟨distinct_adoptAttempt hrun.ids hfree _ _, hrun.done⟩
  answered hrun h := by
    obtain ⟨_, _, _, _, rfl⟩ := answer_ok h
    exact ⟨hrun.ids.put _, hrun.done⟩
  graded {run next id attempt answers now graded events} hrun _ _ h := by
    refine ⟨fun _ => ?_, fun _ _ _ => trivial⟩
    obtain ⟨hstage, _, held, rfl, hafter⟩ := gradeAttempt_ok h
    have hopen : run.status ≠ .completed := by
      intro hdone
      have hresult := hrun.done hdone
      rw [hstage] at hresult
      unfold Attempt.expectedStage at hresult
      cases hkind : attempt.kind with
      | checkpoint => rw [hkind] at hresult; cases hresult
      | final => rw [hkind] at hresult; cases hresult
    have hids : Table.Distinct Attempt.id (run.saveAttempt
        (Attempt.graded { attempt with answers := held } now)).attempts := hrun.ids.put _
    obtain ⟨_, _, hfinish⟩ | ⟨_, _, rfl⟩ | ⟨_, rfl⟩ := afterGrading_ok hafter
    · obtain ⟨hattempts, hstatus, _⟩ := finishPart_frame hfinish
      refine ⟨?_, fun hdone => absurd (hstatus.symm.trans hdone) hopen⟩
      show Table.Distinct Attempt.id next.attempts
      rw [hattempts]
      exact hids
    · exact ⟨hids, fun hdone => absurd hdone hopen⟩
    · exact ⟨hids, fun _ => rfl⟩
  continued {run next} hrun h := by
    obtain ⟨hstage, attempt, done, _, hfinish, rfl⟩ := continueAnyway_ok h
    obtain ⟨hattempts, hstatus, _⟩ := finishPart_frame hfinish
    refine ⟨?_, fun hdone => ?_⟩
    · show Table.Distinct Attempt.id done.attempts
      rw [hattempts]
      exact hrun.ids.put _
    · have hresult := hrun.done (hstatus.symm.trans hdone)
      rw [hstage] at hresult
      cases hresult
  again hrun h := by
    obtain ⟨hstage, rfl⟩ := studyAgain_ok h
    refine ⟨hrun.ids, fun hdone => ?_⟩
    have hresult := hrun.done hdone
    rw [hstage] at hresult
    cases hresult
  retried hrun h := by
    obtain ⟨hactive, _, rfl⟩ := retryFinal_ok h
    exact ⟨hrun.ids, fun hdone => absurd (hactive.symm.trans hdone) (by decide)⟩
  discarded hrun h := by
    obtain ⟨_, kind, part, rfl⟩ := discardOpenAttempt_ok h
    exact ⟨distinct_withoutOpen hrun.ids kind part, hrun.done⟩
  abandoned hrun h := by
    obtain ⟨_, rfl⟩ := abandon_ok h
    exact ⟨hrun.ids, nofun⟩
  clocked hrun h := by
    obtain ⟨_, _, rfl⟩ := savePomodoroClock_ok h
    exact ⟨hrun.ids, hrun.done⟩

variable {run : Run}

theorem reached_wellFormed {calls : List (Env × Service)} (hrun : run ∈ (reached calls).runs) :
    run.WellFormed :=
  reached_runs (fun _ _ _ _ _ _ => ⟨trivial, nodup_nil, nofun⟩) kept_wellFormed hrun

theorem Frozen.refl (run : Run) : Frozen run run :=
  ⟨rfl, rfl, rfl, rfl, rfl, rfl, rfl⟩

theorem Run.Over.atRest (h : run.Over) (hw : run.WellFormed) :
    run.status ≠ .active ∧ run.AtRest := by
  rcases h with hdone | ⟨habandoned, hrest⟩
  · have hresult := hw.done hdone
    refine ⟨by rw [hdone]; decide, by rw [hresult]; decide, ?_⟩
    rintro attempt _ ⟨_, hstage, _⟩
    rw [hresult] at hstage
    unfold Attempt.expectedStage at hstage
    split at hstage
    · cases hstage
    · cases hstage
  · exact ⟨by rw [habandoned]; decide, hrest⟩

/-- What is kept of a run that is over: all of it but the answers of an attempt left open in
another stage. -/
structure Rests (before run : Run) : Prop where
  frozen : Frozen before run
  ended : run.status ≠ .active
  rest : run.AtRest
  ids : Table.Distinct Attempt.id run.attempts

theorem Rests.saveAnswers {before : Run} (h : Rests before run) {id : Nat} {attempt : Attempt}
    (hattempt : run.attempt? id = some attempt) (answers : List Answer) :
    Rests before (run.saveAttempt { attempt with answers := answers }) where
  frozen :=
    { h.frozen with
      grades := by
        show (Table.put Attempt.id run.attempts _).map Attempt.grade = _
        rw [map_put_eq, h.frozen.grades]
        intro other hother hid
        have heq : other = attempt := h.ids.eq hother (find_mem hattempt) hid
        rw [heq]
        rfl }
  ended := h.ended
  rest := by
    refine ⟨h.rest.1, ?_⟩
    intro other hother hopen
    rcases mem_of_mem_put hother with rfl | hold
    · exact h.rest.2 attempt (find_mem hattempt) hopen
    · exact h.rest.2 other hold hopen
  ids := h.ids.put _

/-- Nothing that acts on a run does anything to one that is over, beyond recording an
answer. -/
theorem kept_rests (sheet : Sheet) (before : Run) (awards : List Award) :
    Kept sheet (Rests before) fun given => given = awards where
  reading hrun h := absurd (completePartReading_ok h).1 hrun.ended
  resumed hrun hactive _ _ _ := absurd hactive hrun.ended
  opened hrun hactive _ _ := absurd hactive hrun.ended
  adopted _ hlive hactive _ _ := absurd hactive hlive.ended
  answered hrun h := by
    obtain ⟨attempt, answers, hattempt, _, rfl⟩ := answer_ok h
    exact hrun.saveAnswers hattempt answers
  graded hrun hattempt hopen h := by
    obtain ⟨hstage, hpart, _⟩ := gradeAttempt_ok h
    exact absurd ⟨hopen, hstage, hpart⟩ (hrun.rest.2 _ (find_mem hattempt))
  continued hrun h := absurd (continueAnyway_ok h).1 hrun.rest.1
  again hrun h := absurd (studyAgain_ok h).1 hrun.rest.1
  retried hrun h := absurd (retryFinal_ok h).1 hrun.ended
  discarded hrun h := absurd (discardOpenAttempt_ok h).1 hrun.ended
  abandoned hrun h := absurd (abandon_ok h).1 hrun.ended
  clocked hrun h := absurd (savePomodoroClock_ok h).1 hrun.ended

def Store.awardsOf (store : Store) (run : Run) : List Award :=
  store.awards.filter (·.run = run.id)

/-- The run with the id of another is that run frozen, and no reward was given through it
since. -/
def StaysEnded (store after : Store) (run : Run) : Prop :=
  ∃ later, after.run? run.id = some later ∧ Frozen run later ∧
    after.awardsOf run = store.awardsOf run

/-- Whatever is called later, by anyone and on sheets that change, a run that is over stays
as it ended and earns nothing. -/
theorem ended_stays_ended (history later : List (Env × Service)) (run : Run)
    (hrun : run ∈ (reached history).runs) (hover : run.Over) :
    StaysEnded (reached history) (reached (history ++ later)) run := by
  have hw := reached_wellFormed hrun
  obtain ⟨hended, hrest⟩ := hover.atRest hw
  have htracks : Tracks (Rests run) (fun given => given = (reached history).awardsOf run) run.id
      (fun _ => True) (reached history) := by
    refine ⟨reached_ids history, .inl (mem_map_of_mem hrun), ?_, rfl⟩
    intro other hother hid
    have hids : Table.Distinct Run.id (reached history).runs := reached_ids history
    rw [hids.eq hother hrun hid]
    exact ⟨trivial, Frozen.refl run, hended, hrest, hw.ids⟩
  have hafter := htracks.afterCalls later fun _ _ _ sheet _ _ => kept_rests sheet run _
  have hreached : later.foldl afterCall (reached history) = reached (history ++ later) := by
    unfold reached
    rw [foldl_append]
  rw [hreached] at hafter
  obtain ⟨last, hlast, hrests⟩ := hafter.find fun hcreated =>
    -- A run that is created is active, so it cannot be one that is over.
    absurd rfl (hcreated 0 run.scope ⟨.parts [], [], 0, [], false⟩ ⟨[], 0, none, none⟩ 0 0).2.ended
  exact ⟨last, hlast, hrests.frozen, hafter.rewards⟩

def oneQuestion : Question :=
  { prompt := "Which letter comes first?"
    explanation := "The alphabet starts with it."
    form := .mcq [("A", "A"), ("B", "B")] "A"
    sourceKey := none }

def onePageSheet : Sheet :=
  { visibleTo := fun _ => true
    published := true
    pageBankEnabled := false
    settings := fun
      | .university => some ⟨true, some 1, 0, 0, 1, 1, false⟩
      | .lockin => none
    pdfPages := fun _ => none
    questions := fun _ => some
      { bank := .parts [⟨1, [oneQuestion]⟩]
        finalExam := [oneQuestion]
        revision := 1
        sourceRanges := [⟨1, 1, 1, none⟩]
        sourceChanged := false }
    complete := fun _ _ => true }

def callAt (now : Nat) (service : Service) : Env × Service :=
  (⟨fun _ => some onePageSheet, now, now, now⟩, service)

def onePageScope : RunScope := ⟨1, 1, .easy, .university, .standard⟩

def leftAtFinalExam : List (Env × Service) :=
  [callAt 1 (.start ⟨onePageScope, none, none, false⟩),
    callAt 2 (.completePartReading 1 1 none none none),
    callAt 3 (.questions 1 1),
    callAt 4 (.submit 1 1 3 [(1, "A")]),
    callAt 5 (.questions 1 1),
    callAt 6 (.abandon 1 1)]

def submittedLater : List (Env × Service) :=
  [callAt 7 (.submit 1 1 5 [(1, "A")])]

/-- The abandoned run is completed and earns the reward of the sheet. -/
theorem abandoned_run_completes :
    ¬∀ (history later : List (Env × Service)) (run : Run), run ∈ (reached history).runs →
      run.status = .completed ∨ run.status = .abandoned →
      StaysEnded (reached history) (reached (history ++ later)) run := by
  intro h
  have hgiven : ((reached leftAtFinalExam).runs.head?.any fun run =>
      ((reached (leftAtFinalExam ++ submittedLater)).run? 1).any fun later =>
        decide (run.id = 1) && decide (run.status = .abandoned) &&
          decide (later.status = .completed)) = true := by
    decide +kernel
  simp only [Option.any_eq_true, Bool.and_eq_true, decide_eq_true_eq] at hgiven
  obtain ⟨run, hrun, later, hlater, ⟨hid, habandoned⟩, hcompleted⟩ := hgiven
  obtain ⟨last, hlast, hfrozen, _⟩ := h leftAtFinalExam submittedLater run
    (mem_of_mem_head? hrun) (.inr habandoned)
  rw [hid, hlater] at hlast
  cases hlast
  have hsame := hfrozen.status
  rw [hcompleted, habandoned] at hsame
  cases hsame

def leftWhileReading : List (Env × Service) :=
  [callAt 1 (.start ⟨onePageScope, none, none, false⟩), callAt 2 (.abandon 1 1)]

/-- Left while reading, the run stays abandoned whatever is submitted. -/
theorem abandoned_while_reading_stays :
    ∃ run, run ∈ (reached leftWhileReading).runs ∧
      StaysEnded (reached leftWhileReading) (reached (leftWhileReading ++ submittedLater)) run := by
  have hgiven : ((reached leftWhileReading).runs.head?.any fun run =>
      decide (run.status = .abandoned) && decide (run.stage = .reading) &&
        decide (run.attempts = [])) = true := by
    decide +kernel
  simp only [Option.any_eq_true, Bool.and_eq_true, decide_eq_true_eq] at hgiven
  obtain ⟨run, hrun, ⟨habandoned, hreading⟩, hattempts⟩ := hgiven
  have hrest : run.AtRest := by
    refine ⟨by rw [hreading]; decide, ?_⟩
    rw [hattempts]
    exact fun attempt hmem => absurd hmem not_mem_nil
  exact ⟨run, mem_of_mem_head? hrun, ended_stays_ended _ _ run
    (mem_of_mem_head? hrun) (.inr ⟨habandoned, hrest⟩)⟩

end LockIn.Study
