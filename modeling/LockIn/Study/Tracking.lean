import LockIn.Study.RunSpec

/-!
# Following one run through the services

A property of runs that each function acting on a run keeps is kept by every service, the
replayed ones included, whichever run the service is called for.  The run is followed by
its id and its sheet, and beside it the rewards that were given through it.
-/

namespace LockIn.Study

open List Outcome Table

/-- What the functions that act on a run keep of it, and what a graded attempt keeps of the
rewards given through the run.  An attempt of a device is adopted by a run that was active
when its upload began.  An attempt at the final exam is opened and adopted for no part. -/
structure Kept (sheet : Sheet) (P : Run → Prop) (A : List Award → Prop) : Prop where
  reading : ∀ {run next part endPage count}, P run →
    completePartReading sheet run part endPage count = .ok next → P next
  resumed : ∀ {run next content plan total runtime pages questions}, P run → run.status = .active →
    contentFor sheet run.scope.difficulty run.scope.edition = .ok (content, plan) →
    runtimePlan sheet content plan run.scope.studyMode pages questions = .ok runtime →
    resumeRun run content runtime total = .ok next → P next
  opened : ∀ {run kind part total fresh}, P run → run.status = .active → run.attempt? fresh = none →
    (kind = .final → part = none) → P (activeAttempt run kind part total fresh).1
  adopted : ∀ {run live offline part total}, P run → P live → live.status = .active →
    run.attempt? offline.attemptId = none → (offline.kind = .final → part = none) →
    P (adoptAttempt run offline part total)
  answered : ∀ {run next id position selected now events checked}, P run →
    answer sheet run id position selected now = .ok (next, events, checked) → P next
  graded : ∀ {run next id attempt answers now graded events}, P run →
    run.attempt? id = some attempt → attempt.submittedAt = none →
    gradeAttempt sheet run attempt answers now = .ok (next, graded, events) →
    (∀ xp, P { next with xpAwarded := xp }) ∧ ∀ awards award, A awards → A (awards ++ [award])
  continued : ∀ {run next}, P run → continueAnyway run = .ok next → P next
  again : ∀ {run next}, P run → studyAgain run = .ok next → P next
  retried : ∀ {run next}, P run → retryFinal run = .ok next → P next
  discarded : ∀ {run next}, P run → discardOpenAttempt run = .ok next → P next
  abandoned : ∀ {run next}, P run → abandon run = .ok next → P next
  clocked : ∀ {run next clock}, P run → savePomodoroClock run clock = .ok next → P next

theorem activeAttempt_run (run : Run) (kind : AttemptKind) (part : Option Nat) (total fresh : Nat) :
    ∃ attempts, (activeAttempt run kind part total fresh).1 = { run with attempts := attempts } := by
  unfold activeAttempt
  split
  · exact ⟨run.attempts, rfl⟩
  · exact ⟨_, rfl⟩

/-- What a run is about.  Only reading a part and resuming the run change any of it, its
signature. -/
def Run.terms (run : Run) : Nat × RunScope × PlanSignature := (run.id, run.scope, run.signature)

theorem finishPart_terms {run next : Run} (h : finishPart run = .ok next) :
    next.terms = run.terms := by
  obtain ⟨_, rfl⟩ | ⟨_, _, _, rfl⟩ := finishPart_ok h
  · rfl
  · rfl

theorem Kept.of_terms {sheet : Sheet} {P : Run → Prop}
    (hterms : ∀ {run next : Run}, P run → next.terms = run.terms → P next)
    (hreading : ∀ {run next part endPage count}, P run →
      completePartReading sheet run part endPage count = .ok next → P next)
    (hresumed : ∀ {run next content plan total runtime pages questions}, P run →
      contentFor sheet run.scope.difficulty run.scope.edition = .ok (content, plan) →
      runtimePlan sheet content plan run.scope.studyMode pages questions = .ok runtime →
      resumeRun run content runtime total = .ok next → P next) :
    Kept sheet P fun _ => True where
  reading := hreading
  resumed hrun _ := hresumed hrun
  opened {run kind part total fresh} hrun _ _ _ := by
    obtain ⟨attempts, heq⟩ := activeAttempt_run run kind part total fresh
    rw [heq]
    exact hterms hrun rfl
  adopted hrun _ _ _ _ := hterms hrun rfl
  answered hrun h := by
    obtain ⟨_, _, _, _, rfl⟩ := answer_ok h
    exact hterms hrun rfl
  graded hrun _ _ h := by
    refine ⟨fun _ => ?_, fun _ _ _ => trivial⟩
    obtain ⟨_, _, _, _, hafter⟩ := gradeAttempt_ok h
    obtain ⟨_, _, hfinish⟩ | ⟨_, _, rfl⟩ | ⟨_, rfl⟩ := afterGrading_ok hafter
    · exact hterms hrun ((finishPart_terms hfinish).trans rfl)
    · exact hterms hrun rfl
    · exact hterms hrun rfl
  continued hrun h := by
    obtain ⟨_, _, _, _, hfinish, rfl⟩ := continueAnyway_ok h
    exact hterms hrun ((finishPart_terms hfinish).trans rfl)
  again hrun h := by
    obtain ⟨_, rfl⟩ := studyAgain_ok h
    exact hterms hrun rfl
  retried hrun h := by
    obtain ⟨_, _, rfl⟩ := retryFinal_ok h
    exact hterms hrun rfl
  discarded hrun h := by
    obtain ⟨_, _, _, rfl⟩ := discardOpenAttempt_ok h
    exact hterms hrun rfl
  abandoned hrun h := by
    obtain ⟨_, rfl⟩ := abandon_ok h
    exact hterms hrun rfl
  clocked hrun h := by
    obtain ⟨_, _, rfl⟩ := savePomodoroClock_ok h
    exact hterms hrun rfl

theorem kept_identity (sheet : Sheet) (id : Nat) (scope : RunScope) :
    Kept sheet (fun run => run.id = id ∧ run.scope = scope) fun _ => True := by
  apply Kept.of_terms
  · intro run next hrun hsame
    exact ⟨(congrArg Prod.fst hsame).trans hrun.1, (congrArg (·.2.1) hsame).trans hrun.2⟩
  · intro run next part endPage count hrun h
    obtain ⟨_, ⟨_, _, _, _, _, _, rfl⟩ | ⟨_, _, rfl⟩⟩ := completePartReading_ok h
    · exact hrun
    · exact hrun
  · intro run next content plan total runtime pages questions hrun _ _ h
    obtain rfl | ⟨_, _, _, rfl⟩ := resumeRun_ok h
    · exact hrun
    · exact hrun

/-- `Kept` on every sheet that a call sees under the ids in `S`. -/
def KeptBy (env : Env) (S : Nat → Prop) (P : Run → Prop) (A : List Award → Prop) : Prop :=
  ∀ sheetId sheet, S sheetId → env.sheets sheetId = some sheet → Kept sheet P A

def Created (S : Nat → Prop) (P : Run → Prop) : Prop :=
  ∀ id scope content plan total unlocked,
    S scope.sheet ∧ P (newRun id scope content plan total unlocked)

/-- The run with an id has a property, and the rewards given through it have another.  If it
is not in the store yet, it will have the property when it is created. -/
structure Tracks (P : Run → Prop) (A : List Award → Prop) (id : Nat) (S : Nat → Prop)
    (store : Store) : Prop where
  ids : (store.runs.map Run.id).Nodup
  present : id ∈ store.runs.map Run.id ∨ Created S P
  holds : ∀ run ∈ store.runs, run.id = id → S run.scope.sheet ∧ P run
  rewards : A (store.awards.filter (·.run = id))

variable {P : Run → Prop} {A : List Award → Prop} {id : Nat} {S : Nat → Prop} {env : Env}
  {store next : Store}

variable {user runId attemptId : Nat} {run run' : Run} {sheet : Sheet}
  {change : Sheet → Run → Except StudyError Run} {request : StartRequest} {created : Bool}
  {offline : OfflineAttempt} {part : Option Nat} {answers : List (Int × String)}
  {outcome : ReplayOutcome} {choice : OfflineChoice}

theorem lockedRun_ok (h : lockedRun env store user runId = .ok (run, sheet)) :
    run ∈ store.runs ∧ run.id = runId ∧ env.sheets run.scope.sheet = some sheet := by
  unfold lockedRun at h
  split at h
  · cases h
  next found hfound =>
  obtain ⟨hrun, _⟩ := Option.filter_eq_some_iff.mp hfound
  obtain ⟨_, hsheet, h⟩ := bind_eq_ok.mp h
  cases h
  refine ⟨find_mem hrun, find_key hrun, ?_⟩
  unfold sheetForUser at hsheet
  split at hsheet
  · cases hsheet
  next seen hseen =>
  split at hsheet
  · cases hsheet
    exact hseen
  · cases hsheet

theorem Tracks.saveRun (h : Tracks P A id S store)
    (hrun : run.id = id → S run.scope.sheet ∧ P run) : Tracks P A id S (store.saveRun run) where
  ids := by
    show ((Table.put Run.id store.runs run).map Run.id).Nodup
    rw [map_key_put]
    exact h.ids
  present := by
    show id ∈ (Table.put Run.id store.runs run).map Run.id ∨ _
    rw [map_key_put]
    exact h.present
  holds other hother hid := by
    rcases mem_of_mem_put hother with rfl | hold
    · exact hrun hid
    · exact h.holds other hold hid
  rewards := h.rewards

theorem Tracks.append (h : Tracks P A id S store) (hnew : run.id ∉ store.runs.map Run.id)
    (hrun : run.id = id → S run.scope.sheet ∧ P run) :
    Tracks P A id S { store with runs := store.runs ++ [run] } where
  ids := Table.Distinct.append h.ids fun other hother heq =>
    hnew (heq ▸ mem_map_of_mem hother)
  present := by
    refine h.present.imp_left fun hmem => ?_
    show id ∈ (store.runs ++ [run]).map Run.id
    rw [map_append]
    exact mem_append_left _ hmem
  holds other hother hid := by
    rcases mem_append.mp hother with hold | hone
    · exact h.holds other hold hid
    · obtain rfl := mem_singleton.mp hone
      exact hrun hid
  rewards := h.rewards

theorem Tracks.told (h : Tracks P A id S store) (events : List QuestionAttemptEvent)
    (exams : List ExamPassed) :
    Tracks P A id S { store with events := events, passedExams := exams } :=
  ⟨h.ids, h.present, h.holds, h.rewards⟩

theorem not_mem_ids {fresh : Nat} (h : store.run? fresh = none) : fresh ∉ store.runs.map Run.id := by
  intro hmem
  obtain ⟨run, hrun, heq⟩ := mem_map.mp hmem
  exact find_eq_none.mp h run hrun heq

theorem Tracks.changeRun (h : Tracks P A id S store)
    (hid : ∀ {sheet run run'}, change sheet run = .ok run' →
      run'.id = run.id ∧ run'.scope = run.scope)
    (hkept : ∀ {sheetId sheet run run'}, S sheetId → env.sheets sheetId = some sheet → P run →
      change sheet run = .ok run' → P run')
    (hc : changeRun env store user runId change = .ok (next, run')) : Tracks P A id S next := by
  obtain ⟨⟨run, sheet⟩, hlocked, hc⟩ := bind_eq_ok.mp hc
  obtain ⟨changed, hchange, hc⟩ := bind_eq_ok.mp hc
  cases hc
  obtain ⟨hmem, _, hsheet⟩ := lockedRun_ok hlocked
  obtain ⟨hsameId, hscope⟩ := hid hchange
  apply h.saveRun
  intro heq
  obtain ⟨hseen, hp⟩ := h.holds run hmem (hsameId.symm.trans heq)
  rw [hscope]
  exact ⟨hseen, hkept hseen hsheet hp hchange⟩

theorem sheetForUser_ok {sheetId : Nat} (h : sheetForUser env user sheetId = .ok sheet) :
    env.sheets sheetId = some sheet := by
  unfold sheetForUser at h
  split at h
  · cases h
  next found hfound =>
  split at h
  · cases h
    exact hfound
  · cases h

theorem activeRun_mem {scope : RunScope} (h : store.activeRun? scope = some run) :
    run ∈ store.runs ∧ run.scope = scope ∧ run.status = .active := by
  have hfound := find?_some h
  rw [decide_eq_true_eq] at hfound
  exact ⟨mem_of_find?_eq_some h, hfound⟩

/-- A start that succeeds resumes the active run of its scope or inserts a new one, in a
store from which at most the active run was abandoned before. -/
theorem start_ok (h : start env store request = .ok (next, run, created)) :
    ∃ sheet content plan runtime total base,
      env.sheets request.scope.sheet = some sheet ∧
      contentFor sheet request.scope.difficulty request.scope.edition = .ok (content, plan) ∧
      runtimePlan sheet content plan request.scope.studyMode request.pagesPerCheckpoint
        request.questionsPerCheckpoint = .ok runtime ∧
      (base = store ∨ ∃ old abandoned, abandonRun env store request.scope.user old =
        .ok (base, abandoned)) ∧
      ((created = false ∧ ∃ active, base.activeRun? request.scope = some active ∧
          resumeRun active content runtime total = .ok run ∧ next = base.saveRun run) ∨
        (created = true ∧ base.run? env.freshRun = none ∧ ∃ first,
          runtime.pageRanges[0]? = some first ∧
          run = newRun env.freshRun request.scope content runtime total first.endPage ∧
          next = { base with runs := base.runs ++ [run] })) := by
  obtain ⟨sheet, hsheet, h⟩ := bind_eq_ok.mp h
  obtain ⟨⟨content, plan⟩, hcontent, h⟩ := bind_eq_ok.mp h
  obtain ⟨runtime, hruntime, h⟩ := bind_eq_ok.mp h
  split at h
  · cases h
  next total _ =>
  obtain ⟨_, _, h⟩ := bind_eq_ok.mp h
  obtain ⟨⟨base, existing⟩, hbase, h⟩ := bind_eq_ok.mp h
  have hcase : (base = store ∧ existing = store.activeRun? request.scope) ∨
      (existing = none ∧ ∃ old abandoned,
        abandonRun env store request.scope.user old = .ok (base, abandoned)) := by
    unfold replaceRun at hbase
    split at hbase
    · next old _ =>
      obtain ⟨⟨after, abandoned⟩, habandoned, hbase⟩ := bind_eq_ok.mp hbase
      cases hbase
      exact .inr ⟨rfl, old.id, abandoned, habandoned⟩
    · cases hbase
      exact .inl ⟨rfl, rfl⟩
  refine ⟨sheet, content, plan, runtime, total, base, sheetForUser_ok hsheet, hcontent, hruntime,
    ?_, ?_⟩
  · rcases hcase with ⟨rfl, _⟩ | ⟨_, habandoned⟩
    · exact .inl rfl
    · exact .inr habandoned
  cases existing with
  | some active =>
    obtain ⟨resumed, hresumed, h⟩ := bind_eq_ok.mp h
    cases h
    rcases hcase with ⟨rfl, hactive⟩ | ⟨hnone, _⟩
    · exact .inl ⟨rfl, active, hactive.symm, hresumed, rfl⟩
    · cases hnone
  | none =>
    obtain ⟨⟨inserted, created⟩, hinserted, h⟩ := bind_eq_ok.mp h
    cases h
    obtain ⟨first, hfirst, hinserted⟩ := bind_eq_ok.mp hinserted
    obtain ⟨⟨⟩, hfree, hinserted⟩ := bind_eq_ok.mp hinserted
    cases hinserted
    simp only [refuse_cons_ok, refuse_nil, and_true, Option.isSome_eq_false_iff,
      Option.isNone_iff_eq_none] at hfree
    unfold rangeAt at hfirst
    split at hfirst
    · next found hfound =>
      cases hfirst
      exact .inr ⟨rfl, hfree, first, hfound, rfl, rfl⟩
    · cases hfirst

theorem Tracks.abandonRun (hkept : KeptBy env S P A) (h : Tracks P A id S store)
    (hc : abandonRun env store user runId = .ok (next, run)) : Tracks P A id S next := by
  refine h.changeRun ?_ ?_ hc
  · intro sheet run run' hchange
    exact (kept_identity sheet run.id run.scope).abandoned ⟨rfl, rfl⟩ hchange
  · intro sheetId sheet run run' hseen hsheet hp hchange
    exact (hkept sheetId sheet hseen hsheet).abandoned hp hchange

theorem Tracks.start (hkept : KeptBy env S P A) (h : Tracks P A id S store)
    (hs : start env store request = .ok (next, run, created)) : Tracks P A id S next := by
  obtain ⟨sheet, content, plan, runtime, total, base, hsheet, hcontent, hruntime, hbase, hcase⟩ :=
    start_ok hs
  have htracks : Tracks P A id S base := by
    rcases hbase with rfl | ⟨old, abandoned, habandoned⟩
    · exact h
    · exact h.abandonRun hkept habandoned
  rcases hcase with ⟨_, active, hactive, hresumed, rfl⟩ | ⟨_, hfree, first, _, rfl, rfl⟩
  · obtain ⟨hmem, hscope, hstatus⟩ := activeRun_mem hactive
    rw [← hscope] at hsheet hcontent hruntime
    obtain ⟨hsameId, hsameScope⟩ := (kept_identity sheet active.id active.scope).resumed
      ⟨rfl, rfl⟩ hstatus hcontent hruntime hresumed
    apply htracks.saveRun
    intro heq
    obtain ⟨hseen, hp⟩ := htracks.holds active hmem (hsameId.symm.trans heq)
    rw [hsameScope]
    exact ⟨hseen, (hkept _ sheet hseen hsheet).resumed hp hstatus hcontent hruntime hresumed⟩
  · apply htracks.append (not_mem_ids hfree)
    intro heq
    rcases htracks.present with hpresent | hcreated
    · rw [← heq] at hpresent
      exact absurd hpresent (not_mem_ids hfree)
    · exact hcreated _ _ _ _ _ _

theorem Tracks.restart (hkept : KeptBy env S P A) (h : Tracks P A id S store)
    (hs : restart env store user runId = .ok (next, run)) : Tracks P A id S next := by
  obtain ⟨⟨current, _⟩, _, hs⟩ := bind_eq_ok.mp hs
  obtain ⟨_, _, hs⟩ := bind_eq_ok.mp hs
  obtain ⟨⟨base, _⟩, habandoned, hs⟩ := bind_eq_ok.mp hs
  obtain ⟨⟨started, fresh, created⟩, hstarted, hs⟩ := bind_eq_ok.mp hs
  obtain ⟨_, _, hs⟩ := bind_eq_ok.mp hs
  cases hs
  exact (h.abandonRun hkept habandoned).start hkept hstarted

theorem attempt_free (h : store.runOfAttempt? attemptId = none) (hmem : run ∈ store.runs) :
    run.attempt? attemptId = none := by
  have hnone := find?_eq_none.mp h run hmem
  simpa using hnone

theorem stageKind_final (run : Run) (h : run.stageKind.1 = .final) : run.stageKind.2 = none := by
  unfold Run.stageKind at h ⊢
  split at h
  · next hfinal => rw [if_pos hfinal]
  · cases h

theorem offlinePart_final (h : offlinePart offline = .ok part) (hkind : offline.kind = .final) :
    part = none := by
  unfold offlinePart at h
  rw [hkind] at h
  cases h
  rfl

theorem Tracks.questions (hkept : KeptBy env S P A) (h : Tracks P A id S store) {attempt : Attempt}
    {source : List Question}
    (hs : questions env store user runId = .ok (next, run, attempt, source)) :
    Tracks P A id S next := by
  obtain ⟨⟨found, sheet⟩, hlocked, hs⟩ := bind_eq_ok.mp hs
  obtain ⟨⟨⟩, hallowed, hs⟩ := bind_eq_ok.mp hs
  obtain ⟨asked, _, hs⟩ := bind_eq_ok.mp hs
  obtain ⟨⟨⟩, hfree, hs⟩ := bind_eq_ok.mp hs
  cases hs
  simp only [refuse_cons_ok, refuse_nil, and_true, Bool.or_eq_false_iff,
    bne_eq_false_iff_eq] at hallowed
  simp only [refuse_cons_ok, refuse_nil, and_true, Bool.and_eq_false_iff, bne_eq_false_iff_eq,
    Option.isSome_eq_false_iff, Option.isNone_iff_eq_none] at hfree
  obtain ⟨hmem, _, hsheet⟩ := lockedRun_ok hlocked
  obtain ⟨attempts, hopened⟩ := activeAttempt_run found found.stageKind.1 found.stageKind.2
    source.length env.freshAttempt
  apply h.saveRun
  intro heq
  rw [hopened] at heq
  obtain ⟨hseen, hp⟩ := h.holds found hmem heq
  refine ⟨by rw [hopened]; exact hseen, ?_⟩
  rcases hfree with hsame | hnew
  · rw [hsame]
    exact hp
  · exact (hkept _ sheet hseen hsheet).opened hp hallowed.1 (attempt_free hnew hmem)
      (stageKind_final found)

theorem Tracks.answerQuestion (hkept : KeptBy env S P A) (h : Tracks P A id S store)
    {position : Int} {selected : String} {checked : Checked}
    (hs : answerQuestion env store user runId attemptId position selected = .ok (next, checked)) :
    Tracks P A id S next := by
  obtain ⟨⟨found, sheet⟩, hlocked, hs⟩ := bind_eq_ok.mp hs
  obtain ⟨⟨answered, events, _⟩, hanswered, hs⟩ := bind_eq_ok.mp hs
  cases hs
  obtain ⟨hmem, _, hsheet⟩ := lockedRun_ok hlocked
  obtain ⟨hsameId, hscope⟩ := (kept_identity sheet found.id found.scope).answered ⟨rfl, rfl⟩ hanswered
  refine (h.saveRun ?_).told _ _
  intro heq
  obtain ⟨hseen, hp⟩ := h.holds found hmem (hsameId.symm.trans heq)
  rw [hscope]
  exact ⟨hseen, (hkept _ sheet hseen hsheet).answered hp hanswered⟩

theorem awardXp_cases (store : Store) (run : Run) (now : Nat) :
    ∃ xp awards, awardXp store run now =
        ({ store with awards := awards }, { run with xpAwarded := xp }) ∧
      (awards = store.awards ∨ ∃ award : Award, award.run = run.id ∧
        awards = store.awards ++ [award]) := by
  unfold awardXp
  split
  · exact ⟨0, store.awards, rfl, .inl rfl⟩
  · exact ⟨_, _, rfl, .inr ⟨_, rfl, rfl⟩⟩

theorem settleGraded_cases (store : Store) (run : Run) (attempt : Attempt)
    (events : List QuestionAttemptEvent) (now : Nat) :
    ∃ xp awards events' exams, (settleGraded store run attempt events now).1 =
        { (store.saveRun { run with xpAwarded := xp }) with
          awards := awards, events := events', passedExams := exams } ∧
      (awards = store.awards ∨ ∃ award : Award, award.run = run.id ∧
        awards = store.awards ++ [award]) := by
  unfold settleGraded
  split
  · split
    · obtain ⟨xp, awards, hawarded, hcase⟩ :=
        awardXp_cases { store with events := store.events ++ events } run now
      simp only [hawarded]
      exact ⟨xp, awards, _, _, rfl, hcase⟩
    · exact ⟨run.xpAwarded, store.awards, _, _, rfl, .inl rfl⟩
  · exact ⟨run.xpAwarded, store.awards, _, _, rfl, .inl rfl⟩

theorem Tracks.submit (hkept : KeptBy env S P A) (h : Tracks P A id S store)
    {result : AttemptResult}
    (hs : submit env store user runId attemptId answers = .ok (next, run, result)) :
    Tracks P A id S next := by
  obtain ⟨⟨found, sheet⟩, hlocked, hs⟩ := bind_eq_ok.mp hs
  simp only at hs
  split at hs
  · cases hs
  next attempt hattempt =>
  split at hs
  · obtain ⟨_, _, hs⟩ := bind_eq_ok.mp hs
    cases hs
    exact h
  next hopen =>
  obtain ⟨⟨after, graded, events⟩, hgraded, hs⟩ := bind_eq_ok.mp hs
  cases hs
  have hopen : attempt.submittedAt = none := by simpa using hopen
  obtain ⟨hmem, _, hsheet⟩ := lockedRun_ok hlocked
  have hidentity : after.id = found.id ∧ after.scope = found.scope :=
    ((kept_identity sheet found.id found.scope).graded ⟨rfl, rfl⟩ hattempt hopen hgraded).1
      after.xpAwarded
  have hkeeps (heq : after.id = id) := by
    obtain ⟨hseen, hp⟩ := h.holds found hmem (hidentity.1.symm.trans heq)
    exact And.intro hseen ((hkept _ sheet hseen hsheet).graded hp hattempt hopen hgraded)
  obtain ⟨xp, awards, events', exams, hsettled, hawards⟩ :=
    settleGraded_cases store after graded events env.now
  rw [hsettled]
  have hsaved : Tracks P A id S (store.saveRun { after with xpAwarded := xp }) := by
    apply h.saveRun
    intro heq
    obtain ⟨hseen, hafter, _⟩ := hkeeps heq
    refine ⟨?_, hafter xp⟩
    show S after.scope.sheet
    rw [hidentity.2]
    exact hseen
  refine ⟨hsaved.ids, hsaved.present, hsaved.holds, ?_⟩
  show A (awards.filter (·.run = id))
  rcases hawards with rfl | ⟨award, haward, rfl⟩
  · exact h.rewards
  · rw [filter_append]
    by_cases heq : award.run = id
    · rw [filter_cons_of_pos (by simpa using heq), filter_nil]
      exact (hkeeps (haward.symm.trans heq)).2.2 _ award h.rewards
    · rw [filter_cons_of_neg (by simpa using heq), filter_nil, append_nil]
      exact h.rewards

def AttemptFree (store : Store) (attemptId : Nat) : Prop :=
  ∀ run ∈ store.runs, run.attempt? attemptId = none

theorem changeRun_free (h : AttemptFree store attemptId)
    (hsame : ∀ {sheet run run'}, change sheet run = .ok run' → run'.attempts = run.attempts)
    (hc : changeRun env store user runId change = .ok (next, run')) :
    AttemptFree next attemptId := by
  obtain ⟨⟨run, sheet⟩, hlocked, hc⟩ := bind_eq_ok.mp hc
  obtain ⟨changed, hchange, hc⟩ := bind_eq_ok.mp hc
  cases hc
  refine forall_mem_put h ?_
  unfold Run.attempt?
  rw [hsame hchange]
  exact h run (lockedRun_ok hlocked).1

theorem resumeRun_attempts {content : ActiveStudyQuestionContent} {plan : RuntimePlan} {total : Int}
    (h : resumeRun run content plan total = .ok run') :
    run'.attempts = run.attempts ∧ run'.status = run.status ∧ run'.id = run.id := by
  obtain rfl | ⟨_, _, _, rfl⟩ := resumeRun_ok h
  · exact ⟨rfl, rfl, rfl⟩
  · exact ⟨rfl, rfl, rfl⟩

theorem start_free (h : AttemptFree store attemptId)
    (hs : start env store request = .ok (next, run, created)) : AttemptFree next attemptId := by
  obtain ⟨_, _, _, _, _, base, _, _, _, hbase, hcase⟩ := start_ok hs
  have hfree : AttemptFree base attemptId := by
    rcases hbase with rfl | ⟨old, abandoned, habandoned⟩
    · exact h
    · refine changeRun_free h ?_ habandoned
      intro sheet run run' hchange
      obtain ⟨_, rfl⟩ := abandon_ok hchange
      rfl
  rcases hcase with ⟨_, active, hactive, hresumed, rfl⟩ | ⟨_, _, first, _, rfl, rfl⟩
  · refine forall_mem_put hfree ?_
    unfold Run.attempt?
    rw [(resumeRun_attempts hresumed).1]
    exact hfree active (activeRun_mem hactive).1
  · refine Table.forall_mem_append hfree ?_
    rfl

theorem start_active (hs : start env store request = .ok (next, run, created)) :
    run ∈ next.runs ∧ run.status = .active := by
  obtain ⟨_, _, _, _, _, base, _, _, _, _, hcase⟩ := start_ok hs
  rcases hcase with ⟨_, active, hactive, hresumed, rfl⟩ | ⟨_, _, first, _, rfl, rfl⟩
  · obtain ⟨hmem, _, hstatus⟩ := activeRun_mem hactive
    obtain ⟨_, hsameStatus, hid⟩ := resumeRun_attempts hresumed
    exact ⟨mem_put.mpr (.inl ⟨rfl, active, hmem, hid.symm⟩), hsameStatus.trans hstatus⟩
  · exact ⟨mem_append_right _ (mem_singleton_self _), rfl⟩

theorem runForAttempt_ok (hkept : KeptBy env S P A) (h : Tracks P A id S store) {found : Option Run}
    (hs : runForAttempt env store offline part = .ok (next, found)) :
    Tracks P A id S next ∧
      (∀ {attemptId}, AttemptFree store attemptId → AttemptFree next attemptId) ∧
      ∀ {active}, found = some active → active ∈ next.runs ∧ active.status = .active := by
  unfold runForAttempt at hs
  split at hs
  · next active hactive =>
    cases hs
    refine ⟨h, fun hfree => hfree, ?_⟩
    intro run hrun
    cases hrun
    obtain ⟨hmem, _, hstatus⟩ := activeRun_mem hactive
    exact ⟨hmem, hstatus⟩
  · split at hs
    · split at hs
      · cases hs
        exact ⟨h, fun hfree => hfree, fun hnone => absurd hnone (by simp)⟩
      · cases hs
    · obtain ⟨⟨started, run, created⟩, hstarted, hs⟩ := bind_eq_ok.mp hs
      cases hs
      refine ⟨h.start hkept hstarted, fun hfree => start_free hfree hstarted, ?_⟩
      intro active hactive
      cases hactive
      exact start_active hstarted

theorem Tracks.reading (hkept : KeptBy env S P A) (h : Tracks P A id S store)
    {part endPage count : Option Int} (hc : Study.changeRun env store user runId (fun sheet run =>
      completePartReading sheet run part endPage count) = .ok (next, run)) :
    Tracks P A id S next := by
  refine h.changeRun ?_ ?_ hc
  · intro sheet run run' hchange
    exact (kept_identity sheet run.id run.scope).reading ⟨rfl, rfl⟩ hchange
  · intro sheetId sheet run run' hseen hsheet hp hchange
    exact (hkept sheetId sheet hseen hsheet).reading hp hchange

theorem Tracks.again (hkept : KeptBy env S P A) (h : Tracks P A id S store)
    (hc : Study.changeRun env store user runId (fun _ run => studyAgain run) = .ok (next, run)) :
    Tracks P A id S next := by
  refine h.changeRun ?_ ?_ hc
  · intro sheet run run' hchange
    exact (kept_identity sheet run.id run.scope).again ⟨rfl, rfl⟩ hchange
  · intro sheetId sheet run run' hseen hsheet hp hchange
    exact (hkept sheetId sheet hseen hsheet).again hp hchange

theorem Tracks.retried (hkept : KeptBy env S P A) (h : Tracks P A id S store)
    (hc : Study.changeRun env store user runId (fun _ run => retryFinal run) = .ok (next, run)) :
    Tracks P A id S next := by
  refine h.changeRun ?_ ?_ hc
  · intro sheet run run' hchange
    exact (kept_identity sheet run.id run.scope).retried ⟨rfl, rfl⟩ hchange
  · intro sheetId sheet run run' hseen hsheet hp hchange
    exact (hkept sheetId sheet hseen hsheet).retried hp hchange

theorem Tracks.continued (hkept : KeptBy env S P A) (h : Tracks P A id S store)
    (hc : Study.changeRun env store user runId (fun _ run => continueAnyway run) = .ok (next, run)) :
    Tracks P A id S next := by
  refine h.changeRun ?_ ?_ hc
  · intro sheet run run' hchange
    exact (kept_identity sheet run.id run.scope).continued ⟨rfl, rfl⟩ hchange
  · intro sheetId sheet run run' hseen hsheet hp hchange
    exact (hkept sheetId sheet hseen hsheet).continued hp hchange

theorem completePartReading_attempts {part endPage count : Option Int}
    (h : completePartReading sheet run part endPage count = .ok run') :
    run'.attempts = run.attempts := by
  obtain ⟨_, ⟨_, _, _, _, _, _, rfl⟩ | ⟨_, _, rfl⟩⟩ := completePartReading_ok h
  · rfl
  · rfl

theorem prepareAttempt_ok (hkept : KeptBy env S P A) (h : Tracks P A id S store)
    (hs : prepareAttempt env store run offline part = .ok (some next)) :
    Tracks P A id S next ∧
      ∀ {attemptId}, AttemptFree store attemptId → AttemptFree next attemptId := by
  unfold prepareAttempt at hs
  cases part with
  | none =>
    obtain ⟨prepared, hprepared, hs⟩ := bind_eq_ok.mp hs
    cases hs
    unfold prepareFinal at hprepared
    split at hprepared
    · obtain ⟨⟨after, _⟩, hretried, hprepared⟩ := bind_eq_ok.mp hprepared
      cases hprepared
      refine ⟨h.retried hkept hretried, fun hfree => changeRun_free hfree ?_ hretried⟩
      intro sheet run run' hchange
      obtain ⟨_, _, rfl⟩ := retryFinal_ok hchange
      rfl
    · split at hprepared
      · cases hprepared
      · cases hprepared
        exact ⟨h, fun hfree => hfree⟩
  | some part =>
    simp only at hs
    unfold prepareCheckpoint at hs
    split at hs
    · cases hs
    split at hs
    · cases hs
    obtain ⟨again, hagain, hs⟩ := bind_eq_ok.mp hs
    have hready : Tracks P A id S again ∧
        ∀ {attemptId}, AttemptFree store attemptId → AttemptFree again attemptId := by
      unfold leaveResult at hagain
      split at hagain
      · obtain ⟨⟨after, _⟩, hchanged, hagain⟩ := bind_eq_ok.mp hagain
        cases hagain
        refine ⟨h.again hkept hchanged, fun hfree => changeRun_free hfree ?_ hchanged⟩
        intro sheet run run' hchange
        obtain ⟨_, rfl⟩ := studyAgain_ok hchange
        rfl
      · cases hagain
        exact ⟨h, fun hfree => hfree⟩
    obtain ⟨htracks, hfrees⟩ := hready
    split at hs
    · obtain ⟨⟨after, _⟩, hread, hs⟩ := bind_eq_ok.mp hs
      cases hs
      exact ⟨htracks.reading hkept hread, fun hfree =>
        changeRun_free (hfrees hfree) completePartReading_attempts hread⟩
    · obtain ⟨⟨current, _⟩, _, hs⟩ := bind_eq_ok.mp hs
      simp only at hs
      split at hs
      · obtain ⟨⟨after, _⟩, hread, hs⟩ := bind_eq_ok.mp hs
        cases hs
        exact ⟨htracks.reading hkept hread, fun hfree =>
          changeRun_free (hfrees hfree) completePartReading_attempts hread⟩
      · cases hs
        exact ⟨htracks, hfrees⟩

theorem Tracks.answerAll (hkept : KeptBy env S P A) (h : Tracks P A id S store)
    (hs : answerAll env user runId attemptId store answers = .ok next) : Tracks P A id S next := by
  induction answers generalizing store with
  | nil =>
    cases hs
    exact h
  | cons item rest ih =>
    obtain ⟨⟨after, _⟩, hanswered, hs⟩ := bind_eq_ok.mp hs
    exact ih (h.answerQuestion hkept hanswered) hs

theorem Tracks.applyAttempt (hkept : KeptBy env S P A) (h : Tracks P A id S store)
    {existing : Option Run} (hlive : runId = id → ∃ live, P live ∧ live.status = .active)
    (hfree : existing = none → AttemptFree store offline.attemptId)
    (hpart : offline.kind = .final → part = none)
    (hs : applyAttempt env store runId offline part existing = .ok (next, outcome)) :
    Tracks P A id S next := by
  obtain ⟨⟨run, sheet⟩, hlocked, hs⟩ := bind_eq_ok.mp hs
  obtain ⟨source, _, hs⟩ := bind_eq_ok.mp hs
  obtain ⟨validated, _, hs⟩ := bind_eq_ok.mp hs
  obtain ⟨_, _, hs⟩ := bind_eq_ok.mp hs
  obtain ⟨answered, hanswered, hs⟩ := bind_eq_ok.mp hs
  obtain ⟨⟨submitted, after, result⟩, hsubmitted, hs⟩ := bind_eq_ok.mp hs
  cases hs
  obtain ⟨hmem, hrunId, hsheet⟩ := lockedRun_ok hlocked
  refine Tracks.submit hkept (Tracks.answerAll hkept ?_ hanswered) hsubmitted
  split
  · next hnone =>
    apply h.saveRun
    intro heq
    have heq : run.id = id := heq
    obtain ⟨hseen, hp⟩ := h.holds run hmem heq
    obtain ⟨live, hlivep, hactive⟩ := hlive (hrunId.symm.trans heq)
    exact ⟨hseen, (hkept _ sheet hseen hsheet).adopted hp hlivep hactive
      (hfree (Option.isNone_iff_eq_none.mp hnone) run hmem) hpart⟩
  · exact h

theorem Tracks.replayAttempt (hkept : KeptBy env S P A) (h : Tracks P A id S store)
    (hs : replayOfflineAttempt env store offline = .ok (next, outcome)) : Tracks P A id S next := by
  obtain ⟨part, hpart, hs⟩ := bind_eq_ok.mp hs
  obtain ⟨_, _, hs⟩ := bind_eq_ok.mp hs
  obtain ⟨_, _, hs⟩ := bind_eq_ok.mp hs
  split at hs
  · cases hs
    exact h
  obtain ⟨⟨ready, found⟩, hfound, hs⟩ := bind_eq_ok.mp hs
  obtain ⟨hready, hfrees, hactive⟩ := runForAttempt_ok hkept h hfound
  cases found with
  | none =>
    cases hs
    exact hready
  | some active =>
    obtain ⟨⟨run, _⟩, hlocked, hs⟩ := bind_eq_ok.mp hs
    obtain ⟨_, _, hs⟩ := bind_eq_ok.mp hs
    obtain ⟨prepared, hprepared, hs⟩ := bind_eq_ok.mp hs
    cases prepared with
    | none =>
      cases hs
      exact hready
    | some prepared =>
      obtain ⟨htracks, hfreed⟩ := prepareAttempt_ok hkept hready hprepared
      obtain ⟨hmem, hstatus⟩ := hactive rfl
      obtain ⟨_, hrunId, _⟩ := lockedRun_ok hlocked
      refine htracks.applyAttempt hkept ?_ ?_ (offlinePart_final hpart) hs
      · intro heq
        exact ⟨active, (hready.holds active hmem (hrunId.symm.trans heq)).2, hstatus⟩
      · intro hnone
        exact hfreed (hfrees fun run hrun => attempt_free hnone hrun)

theorem Tracks.replayContinue (hkept : KeptBy env S P A) (h : Tracks P A id S store)
    (hs : replayOfflineContinue env store choice = .ok (next, outcome)) : Tracks P A id S next := by
  obtain ⟨_, _, hs⟩ := bind_eq_ok.mp hs
  split at hs
  · split at hs
    · cases hs
      exact h
    · cases hs
  obtain ⟨_, _, hs⟩ := bind_eq_ok.mp hs
  split at hs
  · cases hs
    exact h
  split at hs
  · cases hs
  obtain ⟨⟨continued, run⟩, hcontinued, hs⟩ := bind_eq_ok.mp hs
  cases hs
  exact h.continued hkept hcontinued

theorem Tracks.replayRestart (hkept : KeptBy env S P A) (h : Tracks P A id S store)
    (hs : replayOfflineRestart env store choice = .ok (next, outcome)) : Tracks P A id S next := by
  obtain ⟨_, _, hs⟩ := bind_eq_ok.mp hs
  split at hs
  · obtain ⟨⟨started, run, _⟩, hstarted, hs⟩ := bind_eq_ok.mp hs
    cases hs
    exact h.start hkept hstarted
  split at hs
  · obtain ⟨⟨base, _⟩, habandoned, hs⟩ := bind_eq_ok.mp hs
    obtain ⟨⟨started, run, _⟩, hstarted, hs⟩ := bind_eq_ok.mp hs
    cases hs
    exact (h.abandonRun hkept habandoned).start hkept hstarted
  · obtain ⟨⟨restarted, run⟩, hrestarted, hs⟩ := bind_eq_ok.mp hs
    cases hs
    exact h.restart hkept hrestarted

theorem Tracks.serve (hkept : KeptBy env S P A)
    (h : Tracks P A id S store) {service : Service}
    (hs : serve env store service = .ok next) : Tracks P A id S next := by
  cases service <;> obtain ⟨⟨after, answer⟩, hserved, rfl⟩ := map_eq_ok.mp hs
  case start => exact h.start hkept hserved
  case completePartReading => exact h.reading hkept hserved
  case questions => exact h.questions hkept hserved
  case answer => exact h.answerQuestion hkept hserved
  case submit => exact h.submit hkept hserved
  case continueAnyway => exact h.continued hkept hserved
  case studyAgain => exact h.again hkept hserved
  case retryFinal => exact h.retried hkept hserved
  case savePomodoroClock =>
    refine h.changeRun ?_ ?_ hserved
    · intro sheet run run' hchange
      exact (kept_identity sheet run.id run.scope).clocked ⟨rfl, rfl⟩ hchange
    · intro sheetId sheet run run' hseen hsheet hp hchange
      exact (hkept sheetId sheet hseen hsheet).clocked hp hchange
  case discardOpenAttempt =>
    refine h.changeRun ?_ ?_ hserved
    · intro sheet run run' hchange
      exact (kept_identity sheet run.id run.scope).discarded ⟨rfl, rfl⟩ hchange
    · intro sheetId sheet run run' hseen hsheet hp hchange
      exact (hkept sheetId sheet hseen hsheet).discarded hp hchange
  case abandon => exact h.abandonRun hkept hserved
  case restart => exact h.restart hkept hserved
  case replayAttempt => exact h.replayAttempt hkept hserved
  case replayContinue => exact h.replayContinue hkept hserved
  case replayRestart => exact h.replayRestart hkept hserved

theorem Tracks.afterCalls (calls : List (Env × Service))
    (hkept : ∀ call ∈ calls, KeptBy call.1 S P A)
    (h : Tracks P A id S store) : Tracks P A id S (calls.foldl afterCall store) := by
  induction calls generalizing store with
  | nil => exact h
  | cons call rest ih =>
    apply ih (fun other hother => hkept other (mem_cons_of_mem _ hother))
    have hfirst := hkept call mem_cons_self
    unfold afterCall
    split
    · next after hserved => exact h.serve hfirst hserved
    · exact h

theorem Tracks.find (h : Tracks P A id S store) (hnew : ¬Created S P) :
    ∃ run, store.run? id = some run ∧ P run := by
  obtain ⟨run, hrun, hid⟩ := mem_map.mp (h.present.resolve_right hnew)
  have hids : Table.Distinct Run.id store.runs := h.ids
  refine ⟨run, ?_, (h.holds run hrun hid).2⟩
  rw [← hid]
  exact hids.find hrun

theorem tracks_empty (hcreated : Created S P) (hnone : A []) : Tracks P A id S .empty :=
  ⟨nodup_nil, .inr hcreated, forall_mem_nil _, hnone⟩

def reached (calls : List (Env × Service)) : Store :=
  calls.foldl afterCall .empty

theorem reached_runs (hcreated : Created (fun _ => True) P)
    (hkept : ∀ sheet, Kept sheet P fun _ => True) {calls : List (Env × Service)}
    (hrun : run ∈ (reached calls).runs) : P run := by
  have hempty : Tracks P (fun _ => True) run.id (fun _ => True) .empty :=
    tracks_empty hcreated trivial
  have htracks := hempty.afterCalls calls fun _ _ _ sheet _ _ => hkept sheet
  exact (htracks.holds run hrun rfl).2

theorem kept_trivial (sheet : Sheet) : Kept sheet (fun _ => True) fun _ => True := by
  constructor <;> intros <;> simp

theorem reached_ids (calls : List (Env × Service)) :
    ((reached calls).runs.map Run.id).Nodup := by
  have hempty : Tracks (fun _ => True) (fun _ => True) 0 (fun _ => True) .empty :=
    tracks_empty (fun _ _ _ _ _ _ => ⟨trivial, trivial⟩) trivial
  exact (hempty.afterCalls calls fun _ _ _ sheet _ _ => kept_trivial sheet).ids

theorem start_distinct {history : List (Env × Service)}
    (h : start env (reached history) request = .ok (store, run, created)) :
    Table.Distinct Run.id store.runs := by
  have hbefore : Tracks (fun _ => True) (fun _ => True) 0 (fun _ => True) (reached history) :=
    ⟨reached_ids history, .inr fun _ _ _ _ _ _ => ⟨trivial, trivial⟩,
      fun _ _ _ => ⟨trivial, trivial⟩, trivial⟩
  exact (hbefore.start (fun _ sheet _ _ => kept_trivial sheet) h).ids

end LockIn.Study
