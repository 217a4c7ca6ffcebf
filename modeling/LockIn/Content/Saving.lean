import LockIn.Content.Planning

/-!
# What a save writes

The settings of an edition are saved for the PDF that is open, so they are never stale
afterwards, and with the exclusions of a preview they plan what it previewed.  A bank is saved
under the plan of its edition and signed for the University plan.
-/

namespace LockIn.Content

open Outcome (bind_eq_ok ok_bind)
open Study (Difficulty Edition PageRange PageCounts Plan MirroredParts)
open Transaction
open Whitespace (Text)

variable {casefold : Text → Text} {now : Nat} {sheet : Sheet} {edition : Edition}

def Plain (reason : ContentError) : Prop := reason.isValidation = false

theorem questionCounts_plain (sheet : Sheet) (edition : Edition) (first second : Option Int) :
    RefusedFor Plain (questionCounts sheet edition first second) := by
  unfold questionCounts
  simp only
  split
  · exact refusedFor_error rfl
  split
  · exact refusedFor_error rfl
  · exact refusedFor_ok

theorem pinnedToUniversity_plain (sheet : Sheet) (edition : Edition) :
    RefusedFor Plain (pinnedToUniversity sheet edition) := by
  unfold pinnedToUniversity
  split
  · exact refusedFor_ok
  split
  · exact refusedFor_error rfl
  · exact refusedFor_ok

theorem proposedPlan_plain (sheet : Sheet) (edition : Edition) (counts : QuestionCounts)
    (total : Option Int) (start stop : Int) :
    RefusedFor Plain (proposedPlan sheet edition counts total start stop) := by
  unfold proposedPlan
  split
  · exact refusedFor_ok
  · refine refusedFor_bind (pinnedToUniversity_plain sheet edition) fun mirrored _ => ?_
    exact refusedFor_bind (refusedFor_mapError fun _ _ => rfl) fun plans _ => refusedFor_ok

theorem savedSettings_plain (request : SettingsRequest) (created : Bool) (sheet : Sheet) :
    RefusedFor Plain (savedSettings now request edition created sheet) := by
  refine refusedFor_bind (refusedFor_refuse (by simp [Plain, settingsChanged,
    ContentError.isValidation])) fun _ _ => ?_
  refine refusedFor_bind (questionCounts_plain _ _ _ _) fun counts _ => ?_
  refine refusedFor_bind (questionCounts_plain _ _ _ _) fun savedCounts _ => ?_
  refine refusedFor_bind (refusedFor_refuse (by simp [Plain, ContentError.isValidation]))
    fun _ _ => ?_
  refine refusedFor_bind (proposedPlan_plain _ _ _ _ _ _) fun proposed _ => ?_
  exact refusedFor_bind (refusedFor_refuse (by simp [Plain, ContentError.isValidation]))
    fun _ _ => refusedFor_ok

theorem lockinUploaded_plain (sheet : Sheet) (edition : Edition) :
    RefusedFor Plain (lockinUploaded sheet edition) := by
  unfold lockinUploaded
  split
  · exact refusedFor_ok
  · exact refusedFor_error rfl
  split
  · exact refusedFor_ok
  · exact refusedFor_error rfl

variable {request : SettingsRequest} {created enabled : Bool} {settings : ActiveStudySettings}
  {refused : ContentError → Sheet → Prop} {revision : Nat}

theorem savedSettings_ok (h : savedSettings now request edition created sheet = .ok settings) :
    ∃ counts, questionCounts sheet edition request.values.questionsPerCheckpoint
        request.values.finalExamQuestions = .ok counts ∧
      settings.totalPdfPages = (editionVersionPageCount sheet edition).or
        (resolveActiveStudyInput sheet ((sheet.settings edition).getD (settingsDefaults now))
          request.values edition).totalPdfPages ∧
      settings.sourceVersion = (sourceVersionFor sheet).map Version.id ∧
      settings.excludedStartPages =
        request.values.excludedStartPages.getD
          ((sheet.settings edition).getD (settingsDefaults now)).excludedStartPages ∧
      settings.excludedEndPages =
        request.values.excludedEndPages.getD
          ((sheet.settings edition).getD (settingsDefaults now)).excludedEndPages ∧
      settings.questionsPerCheckpoint = counts.questionsPerCheckpoint ∧
      settings.finalExamQuestions = counts.finalExamQuestions := by
  obtain ⟨_, _, h⟩ := bind_eq_ok.1 h
  obtain ⟨counts, hcounts, h⟩ := bind_eq_ok.1 h
  obtain ⟨_, _, h⟩ := bind_eq_ok.1 h
  obtain ⟨_, _, h⟩ := bind_eq_ok.1 h
  obtain ⟨_, _, h⟩ := bind_eq_ok.1 h
  obtain ⟨_, _, h⟩ := bind_eq_ok.1 h
  cases h
  exact ⟨counts, hcounts, rfl, rfl, rfl, rfl, rfl, rfl⟩

theorem editionSourceChanged_current (sheet : Sheet) (edition : Edition) :
    editionSourceChanged sheet ((sourceVersionFor sheet).map Version.id) edition = false := by
  unfold editionSourceChanged
  cases hcurrent : sourceVersionFor sheet with
  | none => rfl
  | some current => simp

def Sheet.withSettings (now : Nat) (sheet : Sheet) (edition : Edition) : Sheet :=
  if (sheet.settings edition).isNone then sheet.putSettings edition (settingsDefaults now) else sheet

theorem createSettings_ends {answered : Bool → Sheet → Prop}
    (h : answered (sheet.settings edition).isNone (sheet.withSettings now edition)) :
    Ends (createSettings now edition) sheet answered refused := by
  refine ends_andThen (ends_decided (fun created hcreated => ?_) fun reason hreason => ?_)
  · cases hcreated
    exact ends_andThen (ends_write (ends_answer h))
  · cases hreason

theorem updateActiveStudySettings_ends {answered : Unit → Sheet → Prop}
    (hrefused : ∀ reason, Plain reason → refused reason sheet)
    (h : ∀ settings, savedSettings now request edition (sheet.settings edition).isNone
      (sheet.withSettings now edition) = .ok settings →
      answered () ((sheet.withSettings now edition).putSettings edition settings)) :
    Ends (updateActiveStudySettings now request edition) sheet answered refused := by
  refine ends_atomic (ends_andThen (ends_decided (fun _ _ => ?_) fun reason hreason => ?_))
  · refine ends_andThen (createSettings_ends (ends_andThen (ends_decided
      (fun settings hsettings => ends_write (h settings hsettings)) fun reason hreason => ?_)))
    exact hrefused reason (savedSettings_plain request _ _ reason hreason)
  · exact hrefused reason (lockinUploaded_plain sheet edition reason hreason)

theorem putSettings_withSettings (now : Nat) (sheet : Sheet) (edition : Edition)
    (settings : ActiveStudySettings) :
    (sheet.withSettings now edition).putSettings edition settings =
      sheet.putSettings edition settings := by
  unfold Sheet.withSettings
  split
  · have hsame : (fun other => if other = edition then some settings
        else (sheet.putSettings edition (settingsDefaults now)).settings other) =
        fun other => if other = edition then some settings else sheet.settings other := by
      funext other
      by_cases hother : other = edition <;> simp [Sheet.putSettings, hother]
    show { sheet with settings := _ } = { sheet with settings := _ }
    rw [hsame]
  · rfl

theorem withSettings_row (now : Nat) (sheet : Sheet) (edition : Edition) :
    ((sheet.withSettings now edition).settings edition).getD (settingsDefaults now) =
      (sheet.settings edition).getD (settingsDefaults now) := by
  unfold Sheet.withSettings
  cases hsettings : sheet.settings edition with
  | none => simp [Sheet.putSettings]
  | some settings => simp [hsettings]

theorem sourceVersionFor_withSettings (now : Nat) (sheet : Sheet) (edition : Edition) :
    sourceVersionFor (sheet.withSettings now edition) = sourceVersionFor sheet := by
  unfold Sheet.withSettings
  split <;> rfl

theorem editionVersionPageCount_withSettings (now : Nat) (sheet : Sheet) (edition : Edition) :
    editionVersionPageCount (sheet.withSettings now edition) edition =
      editionVersionPageCount sheet edition := by
  unfold editionVersionPageCount
  rw [sourceVersionFor_withSettings]

theorem storedCounts_withSettings (now : Nat) (sheet : Sheet) (edition : Edition) :
    storedPerCheckpoint (sheet.withSettings now edition) = storedPerCheckpoint sheet ∧
      storedFinalExam (sheet.withSettings now edition) = storedFinalExam sheet := by
  unfold Sheet.withSettings storedPerCheckpoint storedFinalExam
  split
  · next hnone =>
    cases edition with
    | university =>
      have hsettings : sheet.settings .university = none := Option.isNone_iff_eq_none.1 hnone
      rw [hsettings]
      exact ⟨rfl, rfl⟩
    | lockin => exact ⟨rfl, rfl⟩
  · exact ⟨rfl, rfl⟩

def exclusionsSave (expectedRevision : Nat) (enabled : Bool) (start stop : Int) :
    SettingsRequest where
  expectedRevision := expectedRevision
  enabled := enabled
  values := exclusionsRequest (some start) (some stop)
  confirmBoundaryChange := true

theorem savedExclusions_ok {start stop : Int}
    (h : savedSettings now (exclusionsSave revision enabled start stop) edition created
      (sheet.withSettings now edition) = .ok settings) :
    settings.totalPdfPages =
        (editionVersionPageCount sheet edition).or (storedTotal sheet edition) ∧
      settings.sourceVersion = (sourceVersionFor sheet).map Version.id ∧
      settings.excludedStartPages = start ∧ settings.excludedEndPages = stop ∧
      settings.questionsPerCheckpoint = storedPerCheckpoint sheet ∧
      settings.finalExamQuestions = storedFinalExam sheet := by
  obtain ⟨counts, hcounts, htotal, hsource, hstart, hstop, hper, hfinal⟩ := savedSettings_ok h
  have hstored : questionCounts (sheet.withSettings now edition) edition none none = .ok counts :=
    hcounts
  rw [questionCounts_stored, (storedCounts_withSettings now sheet edition).1,
    (storedCounts_withSettings now sheet edition).2] at hstored
  cases hstored
  rw [sourceVersionFor_withSettings] at hsource
  refine ⟨?_, hsource, hstart, hstop, hper, hfinal⟩
  rw [htotal, withSettings_row]
  show (editionVersionPageCount _ edition).or
    (((sheet.settings edition).getD (settingsDefaults now)).totalPdfPages.or
      (editionVersionPageCount _ edition)) = _
  rw [editionVersionPageCount_withSettings]
  unfold storedTotal
  cases sheet.settings edition <;> rfl

theorem pinnedToUniversity_putSettings (sheet : Sheet) (edition : Edition)
    (settings : ActiveStudySettings) :
    pinnedToUniversity (sheet.putSettings edition settings) edition =
      pinnedToUniversity sheet edition := by
  cases edition with
  | university => rfl
  | lockin => rfl

/-- Saved exclusions of a preview plan what it previewed, when the page count of the settings is
that of the PDF. -/
theorem savedExclusions_planned {start stop total : Int} {plans : Difficulty → Plan}
    (h : savedSettings now (exclusionsSave revision enabled start stop) edition created
      (sheet.withSettings now edition) = .ok settings)
    (htotal : storedTotal sheet edition = some total)
    (hplanned : PlannedWith sheet edition total start stop plans)
    (hcurrent : pageCountStale sheet edition = false) :
    StoredPlan (sheet.putSettings edition settings) edition plans := by
  obtain ⟨hsaved, _, hstart, hstop, hper, hfinal⟩ := savedExclusions_ok h
  have hsettings : (sheet.putSettings edition settings).settings edition = some settings :=
    if_pos rfl
  have hcount : settings.totalPdfPages = some total := by
    rw [hsaved, htotal]
    unfold pageCountStale at hcurrent
    unfold storedTotal at htotal
    cases hderived : editionVersionPageCount sheet edition with
    | none => rfl
    | some derived =>
      rw [hderived] at hcurrent htotal
      cases hconfigured : (sheet.settings edition).bind (·.totalPdfPages) with
      | none =>
        rw [hconfigured] at htotal
        exact htotal
      | some configured =>
        rw [hconfigured] at hcurrent htotal
        have hsame : configured = derived := by simpa using hcurrent
        rw [← hsame]
        exact htotal
  have hcounts : storedPerCheckpoint (sheet.putSettings edition settings) =
      storedPerCheckpoint sheet ∧
      storedFinalExam (sheet.putSettings edition settings) = storedFinalExam sheet := by
    cases edition with
    | university => exact ⟨hper, hfinal⟩
    | lockin => exact ⟨rfl, rfl⟩
  obtain ⟨mirrored, hpinned, hplans⟩ := hplanned
  refine ⟨total, ?_, mirrored, ?_, ?_⟩
  · unfold storedTotal
    rw [hsettings, Option.bind_some, hcount]
    rfl
  · rw [pinnedToUniversity_putSettings]
    exact hpinned
  · unfold storedStart storedEnd
    rw [hsettings, hcounts.1, hcounts.2, Option.map_some, Option.getD_some, Option.map_some,
      Option.getD_some, hstart, hstop]
    exact hplans

theorem savedExclusions_current {start stop : Int}
    (h : savedSettings now (exclusionsSave revision enabled start stop) edition created
      (sheet.withSettings now edition) = .ok settings) :
    settingsStale (sheet.putSettings edition settings) edition = false ∧
      pageCountStale (sheet.putSettings edition settings) edition = false := by
  obtain ⟨hsaved, hsource, _⟩ := savedExclusions_ok h
  have hsettings : (sheet.putSettings edition settings).settings edition = some settings :=
    if_pos rfl
  constructor
  · unfold settingsStale
    rw [hsettings, Option.any_some, hsource]
    exact editionSourceChanged_current (sheet.putSettings edition settings) edition
  · unfold pageCountStale
    have hversion : editionVersionPageCount (sheet.putSettings edition settings) edition =
        editionVersionPageCount sheet edition := rfl
    rw [hsettings, Option.bind_some, hsaved, hversion]
    cases editionVersionPageCount sheet edition with
    | none => cases (none : Option Int).or (storedTotal sheet edition) <;> rfl
    | some derived => simp

end LockIn.Content
