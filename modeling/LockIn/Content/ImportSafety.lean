import LockIn.Content.Saving

/-!
# From preview to study

A bank that was saved under the plan of an edition is ready for that edition, when the settings
are those of the PDF that is open.  A save of one bank leaves the banks before it as they are, and
what every plan is made from.

A document that a preview finds nothing in is saved without a validation error, and then every
difficulty it was saved for is ready, for the edition it was validated for.  Two states are left
out: settings for another PDF than the one that is open, which only a save of the settings makes
current, and a page bank that is imported on the Lock-in tab.
-/

namespace LockIn.Content

open Outcome (bind_eq_ok ok_bind mapError_eq_ok)
open List
open Study (Difficulty Edition PageRange PageCounts Plan MirroredParts)
open Transaction
open Whitespace (Text)

variable {payload : Json} {document : QuestionDocument} {plans : Difficulty → Plan}
  {before : List Difficulty} {errors : List FieldError} {context : AllQuestionsContext}
  {request : SaveRequest} {author : Author}

section
variable {casefold : Text → Text} {now : Nat} {sheet state : Sheet} {edition : Edition}
  {difficulty : Difficulty}

theorem StoredPlan.unique {first second : Difficulty → Plan} (hfirst : StoredPlan sheet edition first)
    (hsecond : StoredPlan sheet edition second) : first = second := by
  rw [← readinessPlan_ok] at hfirst hsecond
  exact Except.ok.inj (hfirst.symm.trans hsecond)

structure Imported (casefold : Text → Text) (state : Sheet) (edition : Edition)
    (difficulty : Difficulty) (content : QuestionContent) (plans university : Difficulty → Plan) :
    Prop where
  stored : StoredPlan state edition plans
  shared : StoredPlan state .university university
  accepted : Accepted casefold
    (requirements state difficulty (plans difficulty) (plans difficulty).pageRanges) content.payload
  normal : content.payload.Normal
  signed : content.planSignature = (university difficulty).pageRanges
  current : content.sourceVersion = (sourceVersionFor state).map Version.id

variable {validation : Validation} {revision : Nat} {content : QuestionContent}

theorem validateContent_ok
    (h : validateActiveStudyQuestionContent casefold sheet difficulty payload edition =
      .ok validation) :
    ∃ plans, StoredPlan sheet edition plans ∧
      validateActiveStudyQuestions casefold
        (requirements sheet difficulty (plans difficulty) (plans difficulty).pageRanges) payload =
          .ok validation := by
  obtain ⟨preview, hpreview, hvalidation⟩ := bind_eq_ok.1 h
  exact ⟨preview.plans, stored_of_preview hpreview, mapError_eq_ok.1 hvalidation⟩

/-- What a save of a bank writes. -/
theorem importedContent_ok
    (h : importedContent casefold now sheet difficulty payload revision edition = .ok content) :
    ∃ plans university, Imported casefold sheet edition difficulty content plans university := by
  obtain ⟨validation, hvalidation, h⟩ := bind_eq_ok.1 h
  obtain ⟨university, huniversity, h⟩ := bind_eq_ok.1 h
  obtain ⟨plans, hplans, hvalid⟩ := validateContent_ok hvalidation
  obtain ⟨haccepted, hnormal, _⟩ := validate_accepted hvalid
  have hstored := stored_of_preview huniversity
  refine ⟨plans, university.plans, ?_⟩
  split at h
  · split at h
    · cases h
    · cases h
      exact ⟨hplans, hstored, haccepted, hnormal, rfl, rfl⟩
  · split at h
    · cases h
    · cases h
      exact ⟨hplans, hstored, haccepted, hnormal, rfl, rfl⟩

/-- A save of a bank stores what its preview answers with. -/
theorem importedContent_payload
    (h : importedContent casefold now sheet difficulty payload revision edition = .ok content) :
    ∃ validation, validateActiveStudyQuestionContent casefold sheet difficulty payload edition =
      .ok validation ∧ content.payload = validation.payload := by
  obtain ⟨validation, hvalidation, h⟩ := bind_eq_ok.1 h
  obtain ⟨university, _, h⟩ := bind_eq_ok.1 h
  refine ⟨validation, hvalidation, ?_⟩
  split at h
  · split at h
    · cases h
    · cases h
      rfl
  · split at h
    · cases h
    · cases h
      rfl

/-- What was stripped and put in order is stored as it is. -/
theorem importedContent_again (hnormal : document.Normal)
    (h : importedContent casefold now sheet difficulty document.toJson revision edition =
      .ok content) : content.payload = document := by
  obtain ⟨validation, hvalidation, hpayload⟩ := importedContent_payload h
  obtain ⟨plans, _, hvalid⟩ := validateContent_ok hvalidation
  obtain ⟨_, hsame⟩ := validate_stored.1 hvalid
  rw [hpayload, hsame, hnormal.stripped, hnormal.payload]

theorem importedContent_plain
    (h : validateActiveStudyQuestionContent casefold sheet difficulty payload edition =
      .ok validation) :
    RefusedFor Plain (importedContent casefold now sheet difficulty payload revision edition) := by
  obtain ⟨plans, hplans, _⟩ := validateContent_ok h
  obtain ⟨university, huniversity⟩ := university_planned hplans
  obtain ⟨preview, hpreview, _⟩ := preview_of_stored huniversity
  unfold importedContent
  rw [h, hpreview, ok_bind, ok_bind]
  simp only
  split
  · split
    · exact refusedFor_error rfl
    · exact refusedFor_ok
  · split
    · exact refusedFor_error rfl
    · exact refusedFor_ok

theorem validateContent_again (hplans : StoredPlan sheet edition plans) (hnormal : document.Normal)
    (haccepted : Accepted casefold
      (requirements sheet difficulty (plans difficulty) (plans difficulty).pageRanges) document) :
    validateActiveStudyQuestionContent casefold sheet difficulty document.toJson edition =
      .ok document.validation := by
  obtain ⟨preview, hpreview, hsame⟩ := preview_of_stored hplans
  unfold validateActiveStudyQuestionContent
  rw [hpreview, ok_bind, hsame]
  show Except.mapError questionsRefused (validateActiveStudyQuestions casefold
    (requirements sheet difficulty (plans difficulty) (plans difficulty).pageRanges)
    document.toJson) = _
  rw [validate_again hnormal haccepted]
  rfl

theorem Accepted.ranges {plan : Plan} {ranges : List PageRange}
    (h : Accepted casefold (requirements sheet difficulty plan plan.pageRanges) document)
    (hsame : ranges = plan.pageRanges ∨ sheet.pageBankEnabled = false) :
    Accepted casefold (requirements sheet difficulty plan ranges) document := by
  rcases hsame with rfl | hparts
  · exact h
  · have hformat : questionFormat sheet = .parts := by simp [questionFormat, hparts]
    obtain ⟨bank, finalExam⟩ := document
    unfold Accepted requirements at h ⊢
    rw [hformat] at h ⊢
    cases bank with
    | parts rows => exact h
    | pages rows => exact h

theorem Imported.ready {university : Difficulty → Plan}
    (h : Imported casefold state edition difficulty content plans university)
    (hcontent : state.content difficulty = some content)
    (hformat : edition = .university ∨ state.pageBankEnabled = false)
    (hsettings : settingsStale state edition = false)
    (hpages : pageCountStale state edition = false)
    (henabled : (readinessPayload casefold state edition).enabled = true) :
    ((readinessPayload casefold state edition).difficulties difficulty).readiness.status =
      .ready := by
  have hfresh : editionSourceChanged state content.sourceVersion .university = false := by
    rw [h.current]
    exact editionSourceChanged_current state .university
  have himported : importedPlan state difficulty = some (university difficulty) := by
    have huniversity : Study.editionPlan state.outline .university none = .ok university :=
      readinessPlan_ok.2 h.shared
    rw [importedPlan, huniversity]
    rfl
  have hranges : (university difficulty).pageRanges = (plans difficulty).pageRanges ∨
      state.pageBankEnabled = false := by
    refine hformat.imp (fun hedition => ?_) id
    subst hedition
    rw [h.shared.unique h.stored]
  have hvalid : validateActiveStudyQuestions casefold
      (requirements state difficulty (plans difficulty) (university difficulty).pageRanges)
      content.payload.toJson = .ok content.payload.validation :=
    validate_again h.normal (h.accepted.ranges hranges)
  have hon : (Study.effectiveSettings state.outline edition).enabled = true := henabled
  show (readinessOf casefold state edition difficulty).status = .ready
  simp only [readinessOf, hsettings, hpages, hcontent, Option.any_some, hfresh, Bool.or_self,
    Bool.false_eq_true, if_false,
    readinessPlan_ok.2 h.stored, hon, if_true, enabledReadiness, h.stored.ranges difficulty,
    himported, h.signed, ne_eq, not_true_eq_false, questionsReadiness, hvalid]

def SamePlanning (sheet state : Sheet) : Prop :=
  state = { sheet with content := state.content, questions := state.questions }

theorem SamePlanning.imported (h : SamePlanning sheet state) {university : Difficulty → Plan} :
    Imported casefold state edition difficulty content plans university ↔
      Imported casefold sheet edition difficulty content plans university := by
  rw [h]
  constructor
  · rintro ⟨hstored, huniversity, haccepted, hnormal, hsigned, hcurrent⟩
    exact ⟨hstored, huniversity, haccepted, hnormal, hsigned, hcurrent⟩
  · rintro ⟨hstored, huniversity, haccepted, hnormal, hsigned, hcurrent⟩
    exact ⟨hstored, huniversity, haccepted, hnormal, hsigned, hcurrent⟩

theorem SamePlanning.stored (h : SamePlanning sheet state) :
    StoredPlan state edition plans ↔ StoredPlan sheet edition plans := by
  rw [h]
  exact Iff.rfl

theorem SamePlanning.stale (h : SamePlanning sheet state) (edition : Edition) :
    settingsStale state edition = settingsStale sheet edition ∧
      pageCountStale state edition = pageCountStale sheet edition ∧
      state.pageBankEnabled = sheet.pageBankEnabled := by
  rw [h]
  exact ⟨rfl, rfl, rfl⟩

theorem SamePlanning.putContent (h : SamePlanning sheet state) (content : QuestionContent) :
    SamePlanning sheet (state.putContent difficulty content) := by
  show Sheet.putContent _ _ _ = _
  rw [h]
  rfl

theorem samePlanning_self (sheet : Sheet) : SamePlanning sheet sheet := rfl

/-- The banks of some difficulties were saved under the plan of an edition, and nothing else
changed since. -/
structure Saved (casefold : Text → Text) (sheet : Sheet) (edition : Edition)
    (before : List Difficulty) (state : Sheet) : Prop where
  planning : SamePlanning sheet state
  imported : ∀ difficulty ∈ before, ∃ content plans university,
    state.content difficulty = some content ∧
      Imported casefold sheet edition difficulty content plans university

theorem Saved.putContent {university : Difficulty → Plan}
    (h : Saved casefold sheet edition before state)
    (hcontent : Imported casefold state edition difficulty content plans university) :
    Saved casefold sheet edition (before ++ [difficulty]) (state.putContent difficulty content) := by
  refine ⟨h.planning.putContent content, fun other hother => ?_⟩
  by_cases hsame : other = difficulty
  · subst hsame
    exact ⟨content, plans, university, if_pos rfl, h.planning.imported.1 hcontent⟩
  · rcases mem_append.1 hother with hold | hnew
    · obtain ⟨found, plans, university, hfound, himported⟩ := h.imported other hold
      exact ⟨found, plans, university, (if_neg hsame).trans hfound, himported⟩
    · exact absurd (mem_singleton.1 hnew) hsame

/-- One bank after others. -/
theorem saveContent_ends {refused : ContentError → Sheet → Prop}
    (h : Saved casefold sheet edition before state)
    (hrefused : ∀ reason, importedContent casefold now state difficulty payload revision edition =
      .error reason → refused reason state) :
    Ends (saveActiveStudyQuestionContent casefold now difficulty payload revision edition) state
      (fun _ => Saved casefold sheet edition (before ++ [difficulty])) refused := by
  refine ends_atomic (ends_andThen (ends_decided (fun content hcontent => ends_write ?_) hrefused))
  obtain ⟨plans, university, himported⟩ := importedContent_ok hcontent
  exact h.putContent himported

end

open Json (Fields getD)
open Outcome (bind_eq_ok mapError_eq_ok isOk_iff)
open Study (Difficulty Edition PageRange Plan)

variable {casefold : Text → Text} {python : Python} {now : Nat} {sheet state : Sheet}
  {edition : Edition}

structure Importable (casefold : Text → Text) (sheet : Sheet) (plans : Difficulty → Plan)
    (difficulty : Difficulty) (document : QuestionDocument) : Prop where
  accepted : Accepted casefold
    (requirements sheet difficulty (plans difficulty) (plans difficulty).pageRanges) document
  normal : document.Normal

theorem conclude_invalid {α : Type} {findings : List Finding} {result : α}
    (h : conclude findings result = .error (.invalid errors)) : errors ≠ [] := by
  unfold conclude at h
  split at h
  · cases h
  next hhashable =>
  split at h
  · cases h
  next hfound =>
  cases h
  obtain ⟨finding, hfinding⟩ := exists_mem_of_ne_nil _ hfound
  cases finding with
  | error path message => exact ne_nil_of_mem (mem_filterMap.2 ⟨_, hfinding, rfl⟩)
  | unhashable => exact absurd hfinding hhashable

theorem validate_invalid {required : Requirements}
    (h : validateActiveStudyQuestions casefold required payload = .error (.invalid errors)) :
    errors ≠ [] := by
  cases payload with
  | obj fields =>
    cases hformat : required.format with
    | parts =>
      simp only [validateActiveStudyQuestions, hformat] at h
      cases hparts : validateParts casefold required.rule required.numberOfParts none fields with
      | ok checked =>
        rw [hparts] at h
        cases h
      | error refusal =>
        rw [hparts] at h
        cases h
        exact conclude_invalid hparts
    | pages =>
      simp only [validateActiveStudyQuestions, hformat] at h
      cases hpages : validatePageBank casefold required.rule required.pageRanges fields with
      | ok checked =>
        rw [hpages] at h
        cases h
      | error refusal =>
        rw [hpages] at h
        cases h
        unfold validatePageBank at hpages
        simp only at hpages
        split at hpages
        · next hconclude =>
          cases hpages
          exact conclude_invalid hconclude
        split at hpages
        · next hparts =>
          cases hpages
          simpa using conclude_invalid hparts
        · cases hpages
        · cases hpages
  | _ =>
    cases h
    exact cons_ne_nil _ _

theorem validateDifficulty_nil {active : Fields} {difficulty : Difficulty}
    (h : (validateDifficulty python sheet plans active difficulty).2 = []) :
    Importable python.casefold sheet plans difficulty
      (validateDifficulty python sheet plans active difficulty).1 := by
  unfold validateDifficulty at h ⊢
  simp only at h ⊢
  split
  · next hnull =>
    rw [hnull] at h
    cases h
  · next fields hfields =>
    rw [hfields] at h
    simp only at h
    split
    · next validation hvalid =>
      obtain ⟨haccepted, hnormal, _⟩ := validate_accepted hvalid
      exact ⟨haccepted, hnormal⟩
    · next errors hinvalid =>
      rw [hinvalid] at h
      simp only [append_eq_nil_iff, map_eq_nil_iff] at h
      exact absurd h.2 (validate_invalid hinvalid)
    · next htype =>
      rw [htype] at h
      cases h
  · next hother hobject =>
    split at h
    · next hnull => exact absurd hnull hother
    · next fields hfields => exact absurd hfields (hobject fields)
    · cases h

theorem validateSheetQuestions_ok {raw : Json} {expected : Nat} {questions : List Question}
    (h : (validateSheetQuestions python raw expected).1 = some questions) :
    ∃ imported, validateQuestionImport python questions = .ok imported := by
  unfold validateSheetQuestions at h
  split at h
  · cases h
  split at h
  · cases h
  · simp only at h
    split at h
    · split at h
      · cases h
      split at h
      · next imported himported =>
        cases h
        exact ⟨imported, himported⟩
      · cases h
    · cases h
  · cases h

theorem context_ok {start stop : Option Int}
    (h : allQuestionsContext sheet edition start stop = .ok context) :
    (edition = .university ∨ sheet.pageBankEnabled = false) ∧
      (∃ total, storedTotal sheet edition = some total ∧
        PlannedWith sheet edition total context.excludedStartPages context.excludedEndPages
          context.plans) ∧
      (context.exclusionsChanged = false → StoredPlan sheet edition context.plans) := by
  unfold allQuestionsContext at h
  split at h
  · cases h
  next hformat =>
  obtain ⟨preview, hpreview, h⟩ := bind_eq_ok.1 h
  have hrequest : activeStudyPlanPreview sheet (exclusionsRequest start stop) edition =
    .ok preview := hpreview
  obtain ⟨_, _, total, htotal, hplanned⟩ := preview_ok hrequest
  cases h
  refine ⟨?_, ⟨total, htotal, hplanned⟩, fun hsame => ?_⟩
  · rw [not_and_or, not_not] at hformat
    exact hformat.symm.imp_right fun hpages => Bool.eq_false_iff.2 hpages
  · simp only [bne_eq_false_iff_eq, Prod.mk.injEq, (effectiveSettings_outline sheet edition).1,
      (effectiveSettings_outline sheet edition).2] at hsame
    rw [hsame.1, hsame.2] at hplanned
    exact ⟨total, htotal, hplanned⟩

theorem validateAll_ok {count : Nat} {start stop : Option Int} {validation : AllQuestionsValidation}
    (h : validateAllQuestions python sheet payload edition count start stop = .ok validation) :
    allQuestionsContext sheet edition start stop = .ok validation.context ∧
      (∀ difficulty, Importable python.casefold sheet validation.context.plans difficulty
        (validation.payload difficulty)) ∧
      ∀ questions, validation.sheetQuestions = some questions →
        ∃ imported, validateQuestionImport python questions = .ok imported := by
  obtain ⟨context, hcontext, h⟩ := bind_eq_ok.1 h
  obtain ⟨hnil, hresult⟩ := conclude_eq_ok.1 (mapError_eq_ok.1 h)
  unfold checkedDocument at hnil hresult
  cases payload with
  | obj fields =>
    simp only [append_eq_nil_iff, flatMap_eq_nil_iff] at hnil hresult
    subst hresult
    refine ⟨hcontext, fun difficulty => validateDifficulty_nil (hnil.1.2 difficulty ?_),
      fun questions hquestions => validateSheetQuestions_ok hquestions⟩
    cases difficulty <;> simp [difficulties]
  | _ => cases hnil

def CurrentSettings (sheet : Sheet) (edition : Edition) : Prop :=
  settingsStale sheet edition = false ∧ pageCountStale sheet edition = false

/-- What a save of the exclusions leaves for the banks: the banks as they were, current settings
when it wrote them, and the plan of the preview when the page counts agree. -/
structure Excluded (sheet : Sheet) (edition : Edition) (context : AllQuestionsContext)
    (after : Sheet) : Prop where
  format : after.pageBankEnabled = sheet.pageBankEnabled
  current : context.exclusionsChanged = true ∨ CurrentSettings sheet edition →
    CurrentSettings after edition
  planned : context.exclusionsChanged = false ∨ pageCountStale sheet edition = false →
    StoredPlan after edition context.plans

theorem saveExclusions_ends {start stop : Option Int}
    (h : allQuestionsContext sheet request.edition start stop = .ok context) :
    Ends (saveExclusions now context request) sheet
      (fun _ => Excluded sheet request.edition context) fun reason _ => Plain reason := by
  obtain ⟨_, ⟨total, htotal, hplanned⟩, hsame⟩ := context_ok h
  unfold saveExclusions
  split
  · next hchanged =>
    refine updateActiveStudySettings_ends (fun _ hplain => hplain) fun settings hsettings => ?_
    rw [putSettings_withSettings]
    refine ⟨rfl, fun _ => savedExclusions_current hsettings, fun hcount => ?_⟩
    have hpages : pageCountStale sheet request.edition = false :=
      hcount.resolve_left (by simp [hchanged])
    exact savedExclusions_planned hsettings htotal hplanned hpages
  · next hunchanged =>
    split
    · exact ends_refuse rfl
    · refine ends_answer ⟨rfl, fun hcurrent => hcurrent.resolve_left hunchanged, fun _ => ?_⟩
      exact hsame (Bool.eq_false_iff.2 hunchanged)

theorem Saved.questions {questions : List SheetQuestion}
    (h : Saved casefold sheet edition before state) :
    Saved casefold sheet edition before { state with questions := questions } := by
  refine ⟨?_, h.imported⟩
  show _ = { sheet with content := state.content, questions := questions }
  rw [h.planning]

theorem saveSheetQuestions_ends {publish : Bool} {questions : Option (List Question)}
    (h : Saved casefold sheet edition before state) (hvalid : ∀ found, questions = some found →
      ∃ imported, validateQuestionImport python found = .ok imported) :
    Ends (saveSheetQuestions python author publish questions) state
      (fun _ => Saved casefold sheet edition before) fun reason _ => Plain reason := by
  cases questions with
  | none => exact ends_answer h
  | some found =>
    obtain ⟨imported, himported⟩ := hvalid found rfl
    unfold saveSheetQuestions importQuestions
    refine ends_andThen (ends_write ?_)
    refine ends_atomic (ends_andThen (ends_decided
      (fun _ _ => ends_write h.questions.questions) fun reason hreason => ?_))
    have hplain : RefusedFor Plain
        (importAllowed python author publish (archiveImported state) found) := by
      unfold importAllowed
      rw [himported]
      refine refusedFor_bind refusedFor_ok fun _ _ => ?_
      refine refusedFor_bind (refusedFor_refuse ?_) fun _ _ => refusedFor_ok
      simp [Plain, ContentError.isValidation]
    exact hplain reason hreason

theorem Importable.again {difficulty : Difficulty}
    (h : Importable casefold sheet plans difficulty document)
    (hformat : state.pageBankEnabled = sheet.pageBankEnabled)
    (hstored : StoredPlan state edition plans) :
    validateActiveStudyQuestionContent casefold state difficulty document.toJson edition =
      .ok document.validation := by
  have hrequired : requirements state difficulty (plans difficulty) (plans difficulty).pageRanges =
      requirements sheet difficulty (plans difficulty) (plans difficulty).pageRanges := by
    unfold requirements questionFormat
    rw [hformat]
  refine validateContent_again hstored h.normal ?_
  rw [hrequired]
  exact h.accepted

theorem saved_nil (sheet : Sheet) : Saved casefold sheet edition [] sheet :=
  ⟨samePlanning_self sheet, forall_mem_nil _⟩

theorem saveBanks_ends {documents : Difficulty → QuestionDocument} {revisions : Difficulty → Nat}
    {after : Sheet} {agree : Prop}
    (h : ∀ difficulty, Importable casefold sheet plans difficulty (documents difficulty))
    (hformat : after.pageBankEnabled = sheet.pageBankEnabled)
    (hstored : agree → StoredPlan after edition plans) :
    Ends (forEach (fun difficulty => saveActiveStudyQuestionContent casefold now difficulty
        (documents difficulty).toJson (revisions difficulty) edition) difficulties) after
      (fun _ => Saved casefold after edition difficulties)
      fun reason _ => agree → Plain reason := by
  have hstep : ∀ (before : List Difficulty) (difficulty : Difficulty) (state : Sheet),
      difficulty ∈ difficulties → Saved casefold after edition before state →
      Ends (saveActiveStudyQuestionContent casefold now difficulty
        (documents difficulty).toJson (revisions difficulty) edition) state
        (fun _ => Saved casefold after edition (before ++ [difficulty]))
        (fun reason _ => agree → Plain reason) := by
    intro before difficulty state _ hsaved
    refine saveContent_ends hsaved fun reason hreason hagree => ?_
    have hpages : state.pageBankEnabled = sheet.pageBankEnabled :=
      (hsaved.planning.stale edition).2.2.trans hformat
    exact importedContent_plain ((h difficulty).again hpages
      (hsaved.planning.stored.2 (hstored hagree))) reason hreason
  exact ends_forEach hstep (saved_nil after)

theorem Saved.ready {difficulty : Difficulty} (h : Saved casefold sheet edition before state)
    (hmem : difficulty ∈ before) (hformat : edition = .university ∨ sheet.pageBankEnabled = false)
    (hcurrent : CurrentSettings sheet edition)
    (henabled : (readinessPayload casefold state edition).enabled = true) :
    ((readinessPayload casefold state edition).difficulties difficulty).readiness.status =
      .ready := by
  obtain ⟨content, plans, university, hcontent, himported⟩ := h.imported difficulty hmem
  obtain ⟨hsettings, hpages, hbank⟩ := h.planning.stale edition
  refine (h.planning.imported.2 himported).ready hcontent ?_ (hsettings.trans hcurrent.1)
    (hpages.trans hcurrent.2) henabled
  rwa [hbank]

theorem saveAllQuestions_ends :
    Ends (saveAllQuestions python now author request) sheet
      (fun _ saved => ∃ validation after,
        validateAllQuestions python sheet request.payload request.edition
          request.sheetQuestionCount request.excludedStartPages request.excludedEndPages =
            .ok validation ∧
        Excluded sheet request.edition validation.context after ∧
        Saved python.casefold after request.edition difficulties saved)
      fun reason after => after = sheet ∧ ∀ validation,
        validateAllQuestions python sheet request.payload request.edition
          request.sheetQuestionCount request.excludedStartPages request.excludedEndPages =
            .ok validation →
        (validation.context.exclusionsChanged = false ∨
          pageCountStale sheet request.edition = false) → Plain reason := by
  refine ends_atomic (ends_andThen (ends_decided (fun validation hvalidation => ?_)
    fun reason hreason => ⟨rfl, fun other hother => ?_⟩))
  · obtain ⟨hcontext, hpayload, hquestions⟩ := validateAll_ok hvalidation
    have hreason : ∀ (reason : ContentError), (validation.context.exclusionsChanged = false ∨
        pageCountStale sheet request.edition = false → Plain reason) →
        sheet = sheet ∧ ∀ other, validateAllQuestions python sheet request.payload request.edition
          request.sheetQuestionCount request.excludedStartPages request.excludedEndPages =
            .ok other → (other.context.exclusionsChanged = false ∨
          pageCountStale sheet request.edition = false) → Plain reason := by
      refine fun reason hplain => ⟨rfl, fun other hother => ?_⟩
      rw [hvalidation] at hother
      cases hother
      exact hplain
    refine ends_andThen ((saveExclusions_ends hcontext).imp (fun _ after hexcluded => ?_)
      fun reason _ hplain => hreason reason fun _ => hplain)
    refine ends_andThen ((saveBanks_ends hpayload hexcluded.format hexcluded.planned).imp
      (fun _ state hsaved => ?_) fun reason _ hplain => hreason reason hplain)
    exact (saveSheetQuestions_ends hsaved hquestions).imp
      (fun _ saved hsaved => ⟨validation, after, hvalidation, hexcluded, hsaved⟩)
      fun reason _ hplain => hreason reason fun _ => hplain
  · rw [hreason] at hother
    cases hother

/-- What a preview finds nothing in is saved without a validation error, and can be studied while
the settings are those of the PDF that is open; a refused save changes nothing. -/
theorem previewed_imports_ready (python : Python) (now : Nat) (author : Author) (sheet : Sheet) :
    (∀ request : SaveRequest, Ends (saveAllQuestions python now author request) sheet
      (fun _ saved => ∀ validation,
        validateAllQuestions python sheet request.payload request.edition
          request.sheetQuestionCount request.excludedStartPages request.excludedEndPages =
            .ok validation →
        (validation.context.exclusionsChanged = true ∨ CurrentSettings sheet request.edition) →
        (readinessPayload python.casefold saved request.edition).enabled = true →
        ∀ difficulty, ((readinessPayload python.casefold saved request.edition).difficulties
          difficulty).readiness.status = .ready)
      (fun reason after => after = sheet ∧ ∀ validation,
        validateAllQuestions python sheet request.payload request.edition
          request.sheetQuestionCount request.excludedStartPages request.excludedEndPages =
            .ok validation →
        (validation.context.exclusionsChanged = false ∨
          pageCountStale sheet request.edition = false) → reason.isValidation = false)) ∧
    ∀ (difficulty : Difficulty) (payload : Json) (revision : Nat) (edition : Edition),
      Ends (saveActiveStudyQuestionContent python.casefold now difficulty payload revision edition)
        sheet
        (fun _ saved => (edition = .university ∨ sheet.pageBankEnabled = false) →
          CurrentSettings sheet edition →
          (readinessPayload python.casefold saved edition).enabled = true →
          ((readinessPayload python.casefold saved edition).difficulties
            difficulty).readiness.status = .ready)
        (fun reason after => after = sheet ∧ ∀ validation,
          validateActiveStudyQuestionContent python.casefold sheet difficulty payload edition =
            .ok validation → reason.isValidation = false) := by
  constructor
  · intro request
    refine saveAllQuestions_ends.imp ?_ fun reason after h => h
    rintro _ saved ⟨validation, after, hvalidation, hexcluded, hsaved⟩ other hother hcurrent
      henabled difficulty
    rw [hvalidation] at hother
    cases hother
    obtain ⟨hformat, _, _⟩ := context_ok (validateAll_ok hvalidation).1
    rw [← hexcluded.format] at hformat
    have hmem : difficulty ∈ difficulties := by cases difficulty <;> simp [difficulties]
    exact hsaved.ready hmem hformat (hexcluded.current hcurrent) henabled
  · intro difficulty payload revision edition
    have hsaved : Ends (saveActiveStudyQuestionContent python.casefold now difficulty payload
        revision edition) sheet (fun _ => Saved python.casefold sheet edition [difficulty])
        (fun reason after => after = sheet ∧ ∀ validation,
          validateActiveStudyQuestionContent python.casefold sheet difficulty payload edition =
            .ok validation → Plain reason) :=
      saveContent_ends (saved_nil sheet) fun reason hreason =>
        ⟨rfl, fun validation hvalidation => importedContent_plain hvalidation reason hreason⟩
    refine hsaved.imp (fun _ saved h hformat hcurrent henabled => ?_) fun reason after h => h
    exact h.ready mem_cons_self hformat hcurrent henabled

/-! A sheet of one page, with settings that were saved for the first or the second PDF of it. -/

def asciiPython : Python where
  casefold := List.map Char.toLower
  digit char := if char.isDigit then some (char.toNat - '0'.toNat) else none
  repr _ := ""

def editor : Author := ⟨true, true⟩

def shortDocument : QuestionDocument :=
  ⟨.parts [⟨1, [⟨"is it".toList, "it is".toList, .trueFalse true⟩]⟩],
    [⟨"was it".toList, "it was not".toList, .trueFalse false⟩]⟩

def onePageVersion (id : Nat) : Version :=
  ⟨id, some 1, fun edition => if edition = .university then some ⟨id, some 1, true⟩ else none⟩

def onePageSheet (configuredFor : Nat) : Sheet where
  id := 1
  versions := [onePageVersion 1, onePageVersion 2]
  publishedVersion := some (onePageVersion 2)
  currentVersion := some (onePageVersion 2)
  pageBankEnabled := false
  pathDiscoverable := true
  settings edition := if edition = .university then
    some ⟨true, some 1, some configuredFor, some 0, 0, 0, 1, 1, 1, 0⟩ else none
  content _ := none
  questions := []
  visibleTo _ := true

def shortImport : SaveRequest where
  payload := .obj [("active_study", .obj
    (difficulties.map fun difficulty => (difficultyKey difficulty, shortDocument.toJson)))]
  edition := .university
  sheetQuestionCount := 0
  excludedStartPages := none
  excludedEndPages := none
  settingsRevision := 1
  expectedRevisions _ := 0
  publishSheetQuestions := false

/-- The preview finds nothing, the document is saved, and nothing of it can be studied while the
settings are those of another PDF; and a plan is previewed whose questions are then refused. -/
theorem import_not_studied :
    let sheet := onePageSheet 1
    let saved := (saveAllQuestions asciiPython 5 editor shortImport sheet).2
    (validateAllQuestions asciiPython sheet shortImport.payload .university 0 none none).isOk ∧
      (saveAllQuestions asciiPython 5 editor shortImport sheet).1.isOk ∧
      (readinessPayload asciiPython.casefold saved .university).enabled = true ∧
      ((readinessPayload asciiPython.casefold saved .university).difficulties
        .easy).readiness.status = .needsReview ∧
      (activeStudyPlanPreview sheet .stored .university).isOk ∧
      (saveActiveStudyQuestionContent asciiPython.casefold 5 .easy .null 0 .university
        sheet).1 = .error (.questionsInvalid
          [⟨"payload", "The import must be a JSON object."⟩]) := by
  decide +kernel

theorem import_studied :
    ((readinessPayload asciiPython.casefold
      (saveAllQuestions asciiPython 5 editor shortImport (onePageSheet 2)).2
      shortImport.edition).difficulties .hard).readiness.status = .ready := by
  have hends := (previewed_imports_ready asciiPython 5 editor (onePageSheet 2)).1 shortImport
  have hsaved : (saveAllQuestions asciiPython 5 editor shortImport (onePageSheet 2)).1 =
    .ok () := by decide +kernel
  have hready := hends.ok () hsaved
  have hcurrent : CurrentSettings (onePageSheet 2) shortImport.edition := by
    unfold CurrentSettings
    decide +kernel
  have henabled : (readinessPayload asciiPython.casefold
      (saveAllQuestions asciiPython 5 editor shortImport (onePageSheet 2)).2
      shortImport.edition).enabled = true := by decide +kernel
  have hok : (validateAllQuestions asciiPython (onePageSheet 2) shortImport.payload
      shortImport.edition shortImport.sheetQuestionCount shortImport.excludedStartPages
      shortImport.excludedEndPages).isOk := by decide +kernel
  obtain ⟨validation, hvalidation⟩ := isOk_iff.1 hok
  exact hready validation hvalidation (.inr hcurrent) henabled .hard

end LockIn.Content
