import LockIn.Content.AllQuestions

/-!
# One plan for the preview, the save and the reader

The preview plans from what is submitted, a save from what is stored and the readiness of a sheet
from its edition.  Where they plan from the same pages, they have the same plan.
-/

namespace LockIn.Content

open Outcome
open Study (Difficulty Edition PageRange PageCounts Plan PlanError MirroredParts)
open Whitespace (Text)

def storedStart (sheet : Sheet) (edition : Edition) : Int :=
  ((sheet.settings edition).map (·.excludedStartPages)).getD 0

def storedEnd (sheet : Sheet) (edition : Edition) : Int :=
  ((sheet.settings edition).map (·.excludedEndPages)).getD 0

def storedTotal (sheet : Sheet) (edition : Edition) : Option Int :=
  ((sheet.settings edition).bind (·.totalPdfPages)).or (editionVersionPageCount sheet edition)

def storedPerCheckpoint (sheet : Sheet) : Int :=
  ((sheet.settings .university).map (·.questionsPerCheckpoint)).getD 15

def storedFinalExam (sheet : Sheet) : Int :=
  ((sheet.settings .university).map (·.finalExamQuestions)).getD 50

theorem resolveTotalPdfPages_outline (sheet : Sheet) (edition : Edition) :
    Study.resolveTotalPdfPages sheet.outline edition = storedTotal sheet edition := by
  unfold Study.resolveTotalPdfPages storedTotal Sheet.outline Sheet.planned editionVersionPageCount
  cases hsettings : sheet.settings edition with
  | none => simp [hsettings]
  | some settings =>
    cases htotal : settings.totalPdfPages <;>
      simp [hsettings, htotal, ActiveStudySettings.study]

theorem effectiveSettings_outline (sheet : Sheet) (edition : Edition) :
    (Study.effectiveSettings sheet.outline edition).excludedStartPages = storedStart sheet edition ∧
      (Study.effectiveSettings sheet.outline edition).excludedEndPages = storedEnd sheet edition := by
  unfold Study.effectiveSettings storedStart storedEnd Sheet.outline Sheet.planned
  cases hsettings : sheet.settings edition with
  | none =>
    simp only [hsettings, Option.map_none, Option.getD_none]
    split <;> exact ⟨rfl, rfl⟩
  | some settings =>
    simp only [hsettings, Option.map_some, Option.getD_some]
    exact ⟨rfl, rfl⟩

theorem outline_counts (sheet : Sheet) :
    ((sheet.outline.settings .university).map (·.questionsPerCheckpoint)).getD 15 =
        storedPerCheckpoint sheet ∧
      ((sheet.outline.settings .university).map (·.finalExamQuestions)).getD 50 =
        storedFinalExam sheet := by
  unfold storedPerCheckpoint storedFinalExam Sheet.outline Sheet.planned
  cases hsettings : sheet.settings .university <;> simp [hsettings, ActiveStudySettings.study]

variable {sheet : Sheet} {edition : Edition} {mirrored : Option (Difficulty → MirroredParts)}
  {plans : Difficulty → Plan} {counts : PageCounts} {target perCheckpoint finalExam : Int}
  {preview : PlanPreview}

/-- The plan of a reader is `plan_payload` for what is stored. -/
theorem editionPlan_ok :
    Study.editionPlan sheet.outline edition mirrored = .ok plans ↔
      ∃ total, storedTotal sheet edition = some total ∧
        planPayload ⟨total, storedStart sheet edition, storedEnd sheet edition⟩ mirrored
          (storedPerCheckpoint sheet) (storedFinalExam sheet) = .ok plans := by
  have hcounts (total : Int) : Study.pageCounts sheet.outline edition total =
      ⟨total, storedStart sheet edition, storedEnd sheet edition⟩ := by
    show PageCounts.mk _ _ _ = _
    rw [(effectiveSettings_outline sheet edition).1, (effectiveSettings_outline sheet edition).2]
  unfold Study.editionPlan
  rw [resolveTotalPdfPages_outline, (outline_counts sheet).1, (outline_counts sheet).2]
  cases storedTotal sheet edition with
  | none => simp
  | some total =>
    simp only [hcounts, Option.some.injEq, exists_eq_left']
    unfold planPayload
    by_cases hbounds : ¬(1 ≤ storedPerCheckpoint sheet ∧ storedPerCheckpoint sheet ≤ 200) ∨
        ¬(1 ≤ storedFinalExam sheet ∧ storedFinalExam sheet ≤ 200)
    · simp only [hbounds, if_true, reduceCtorEq]
    · simp only [hbounds, if_false]
      cases Study.pageRanges ⟨total, storedStart sheet edition, storedEnd sheet edition⟩
          (Study.targetPagesPerPart .easy) (mirrored.map (· .easy)) with
      | error error => simp [Except.mapError]
      | ok easy =>
        cases Study.pageRanges ⟨total, storedStart sheet edition, storedEnd sheet edition⟩
            (Study.targetPagesPerPart .medium) (mirrored.map (· .medium)) with
        | error error => simp [Except.mapError]
        | ok medium =>
          cases Study.pageRanges ⟨total, storedStart sheet edition, storedEnd sheet edition⟩
              (Study.targetPagesPerPart .hard) (mirrored.map (· .hard)) with
          | error error => simp [Except.mapError]
          | ok hard =>
            simp only [Except.mapError, ok_bind]
            constructor
            · rintro ⟨⟩
              refine congrArg Except.ok (funext fun difficulty => ?_)
              cases difficulty <;> rfl
            · rintro ⟨⟩
              refine congrArg Except.ok (funext fun difficulty => ?_)
              cases difficulty <;> rfl

theorem pageRanges_ne_nil {mirrored : Option MirroredParts} {ranges : List PageRange}
    (h : Study.pageRanges counts target mirrored = .ok ranges) : ranges ≠ [] := by
  obtain ⟨sizes, hsizes, hranges⟩ := bind_eq_ok.1 h
  cases hranges
  obtain ⟨eligible, _, hsizes⟩ := bind_eq_ok.1 hsizes
  apply Study.rangesFrom_ne_nil
  cases mirrored with
  | none => exact (Study.partSizes_splits hsizes).1
  | some parts =>
    simp only at hsizes
    split at hsizes
    · next hfits =>
      cases hsizes
      exact hfits.1
    · exact (Study.partSizesForCount_splits hsizes).1

theorem planPayload_difficulty (h : planPayload counts mirrored perCheckpoint finalExam = .ok plans)
    (difficulty : Difficulty) :
    (1 ≤ perCheckpoint ∧ perCheckpoint ≤ 200) ∧ (1 ≤ finalExam ∧ finalExam ≤ 200) ∧
      (plans difficulty).questionsPerCheckpoint = perCheckpoint ∧
      (plans difficulty).finalExamQuestions = finalExam ∧
      Study.pageRanges counts (Study.targetPagesPerPart difficulty) (mirrored.map (· difficulty)) =
        .ok (plans difficulty).pageRanges := by
  unfold planPayload at h
  split at h
  · cases h
  next hbounds =>
  rw [not_or, not_not, not_not] at hbounds
  obtain ⟨easy, heasy, h⟩ := bind_eq_ok.1 h
  obtain ⟨medium, hmedium, h⟩ := bind_eq_ok.1 h
  obtain ⟨hard, hhard, h⟩ := bind_eq_ok.1 h
  cases h
  refine ⟨hbounds.1, hbounds.2, ?_⟩
  cases difficulty with
  | easy => exact ⟨rfl, rfl, heasy⟩
  | medium => exact ⟨rfl, rfl, hmedium⟩
  | hard => exact ⟨rfl, rfl, hhard⟩

theorem planPayload_ranges (h : planPayload counts mirrored perCheckpoint finalExam = .ok plans)
    (difficulty : Difficulty) : (plans difficulty).pageRanges ≠ [] := by
  obtain ⟨_, _, _, _, hranges⟩ := planPayload_difficulty h difficulty
  exact pageRanges_ne_nil hranges

theorem rangesFrom_length (part : Nat) (start : Int) (sizes : List Int) :
    (Study.rangesFrom part start sizes).length = sizes.length := by
  induction sizes generalizing part start with
  | nil => rfl
  | cons size rest ih => exact congrArg Nat.succ (ih _ _)

theorem pageRanges_mirrored {parts : MirroredParts} {ranges : List PageRange}
    (h : Study.pageRanges counts target (some parts) = .ok ranges) :
    (ranges.length : Int) = parts.numberOfParts := by
  obtain ⟨sizes, hsizes, hranges⟩ := bind_eq_ok.1 h
  cases hranges
  rw [rangesFrom_length]
  obtain ⟨eligible, _, hsizes⟩ := bind_eq_ok.1 hsizes
  simp only at hsizes
  split at hsizes
  · next hfits =>
    cases hsizes
    exact hfits.2.2
  · unfold Study.partSizesForCount at hsizes
    split at hsizes
    · cases hsizes
    split at hsizes
    · cases hsizes
    cases hsizes
    simp only [List.length_append, List.length_replicate, List.length_singleton]
    omega

theorem planPayload_ok (h : planPayload counts mirrored perCheckpoint finalExam = .ok plans)
    (difficulty : Difficulty) :
    1 ≤ (plans difficulty).questionsPerCheckpoint ∧ 1 ≤ (plans difficulty).finalExamQuestions ∧
      ∀ parts, mirrored = some parts →
        ((plans difficulty).pageRanges.length : Int) = (parts difficulty).numberOfParts := by
  obtain ⟨hper, hexam, hperEq, hexamEq, hranges⟩ := planPayload_difficulty h difficulty
  refine ⟨by omega, by omega, ?_⟩
  rintro parts rfl
  exact pageRanges_mirrored hranges

def PlannedWith (sheet : Sheet) (edition : Edition) (total start stop : Int)
    (plans : Difficulty → Plan) : Prop :=
  ∃ mirrored, pinnedToUniversity sheet edition = .ok mirrored ∧
    planPayload ⟨total, start, stop⟩ mirrored (storedPerCheckpoint sheet) (storedFinalExam sheet) =
      .ok plans

def StoredPlan (sheet : Sheet) (edition : Edition) (plans : Difficulty → Plan) : Prop :=
  ∃ total, storedTotal sheet edition = some total ∧
    PlannedWith sheet edition total (storedStart sheet edition) (storedEnd sheet edition) plans

theorem questionCounts_stored (sheet : Sheet) (edition : Edition) :
    questionCounts sheet edition none none =
      .ok ⟨storedPerCheckpoint sheet, storedFinalExam sheet⟩ := by
  simp [questionCounts, storedPerCheckpoint, storedFinalExam]

def exclusionsRequest (start stop : Option Int) : PreviewRequest :=
  { PreviewRequest.stored with excludedStartPages := start, excludedEndPages := stop }

theorem preview_ok {start stop : Option Int}
    (h : activeStudyPlanPreview sheet (exclusionsRequest start stop) edition = .ok preview) :
    preview.excludedStartPages = start.getD (storedStart sheet edition) ∧
      preview.excludedEndPages = stop.getD (storedEnd sheet edition) ∧
      ∃ total, storedTotal sheet edition = some total ∧
        PlannedWith sheet edition total preview.excludedStartPages preview.excludedEndPages
          preview.plans := by
  simp only [activeStudyPlanPreview, resolveActiveStudyInput, exclusionsRequest,
    PreviewRequest.stored, Option.none_or] at h
  split at h
  · cases h
  next total htotal =>
  obtain ⟨mirrored, hpinned, h⟩ := bind_eq_ok.1 h
  obtain ⟨counts, hcounts, h⟩ := bind_eq_ok.1 h
  obtain ⟨plans, hplans, h⟩ := bind_eq_ok.1 h
  obtain ⟨_, _, h⟩ := bind_eq_ok.1 h
  cases h
  rw [questionCounts_stored] at hcounts
  cases hcounts
  exact ⟨rfl, rfl, total, htotal, mirrored, hpinned, mapError_eq_ok.1 hplans⟩

theorem preview_of_stored (h : StoredPlan sheet edition plans) :
    ∃ preview, activeStudyPlanPreview sheet .stored edition = .ok preview ∧
      preview.plans = plans := by
  obtain ⟨total, htotal, mirrored, hpinned, hplans⟩ := h
  have hresolved : ((sheet.settings edition).bind (·.totalPdfPages)).or
      (editionVersionPageCount sheet edition) = some total := htotal
  simp only [activeStudyPlanPreview, resolveActiveStudyInput, PreviewRequest.stored,
    Option.none_or, hresolved, hpinned, ok_bind, questionCounts_stored, Option.getD_none]
  have hpayload : planPayload ⟨total, ((sheet.settings edition).map (·.excludedStartPages)).getD 0,
      ((sheet.settings edition).map (·.excludedEndPages)).getD 0⟩ mirrored
      (storedPerCheckpoint sheet) (storedFinalExam sheet) = .ok plans := hplans
  rw [hpayload]
  exact ⟨_, rfl, rfl⟩

theorem stored_of_preview (h : activeStudyPlanPreview sheet .stored edition = .ok preview) :
    StoredPlan sheet edition preview.plans := by
  have hrequest : activeStudyPlanPreview sheet (exclusionsRequest none none) edition = .ok preview := h
  obtain ⟨hstart, hend, total, htotal, hplanned⟩ := preview_ok hrequest
  rw [hstart, hend] at hplanned
  exact ⟨total, htotal, hplanned⟩

theorem readinessPlan_ok :
    readinessPlan sheet edition = .ok plans ↔ StoredPlan sheet edition plans := by
  unfold readinessPlan StoredPlan PlannedWith pinnedToUniversity
  cases edition with
  | university =>
    simp only [Except.ok.injEq, exists_eq_left']
    exact editionPlan_ok
  | lockin =>
    simp only
    cases hinputs : lockinPlanInputs sheet with
    | error message => simp
    | ok mirrored =>
      simp only [Except.ok.injEq, exists_eq_left']
      exact editionPlan_ok

theorem university_planned (h : StoredPlan sheet edition plans) :
    ∃ plans, StoredPlan sheet .university plans := by
  cases edition with
  | university => exact ⟨plans, h⟩
  | lockin =>
    obtain ⟨_, _, mirrored, hpinned, _⟩ := h
    unfold pinnedToUniversity at hpinned
    simp only at hpinned
    split at hpinned
    · cases hpinned
    next inputs hinputs =>
    unfold lockinPlanInputs at hinputs
    split at hinputs
    · next plans hplans => exact ⟨plans, readinessPlan_ok.1 hplans⟩
    · cases hinputs

theorem StoredPlan.ranges (h : StoredPlan sheet edition plans) (difficulty : Difficulty) :
    (plans difficulty).pageRanges ≠ [] := by
  obtain ⟨_, _, _, _, hplans⟩ := h
  exact planPayload_ranges hplans difficulty

end LockIn.Content
