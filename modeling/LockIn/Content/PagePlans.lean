import LockIn.Content.Planning

/-!
# The shape of a page plan

`page_ranges` sizes the parts of a plan in one of three ways: parts of the target size, a given
number of parts, or the sizes of another plan.  Whichever it is, the parts partition the study
pages.  A Lock-in plan that is pinned to the University plan has its number of parts, and its
sizes where both study equally many pages.
-/

namespace LockIn.Content

open List Outcome
open Study (Difficulty Edition PageRange PageCounts Plan PlanError MirroredParts Partitions Splits)

def partCount (numberOfParts : Option Int) (mirroredSizes : List Int) : Option Int :=
  if mirroredSizes ≠ [] ∧ numberOfParts = none then some mirroredSizes.length else numberOfParts

def chooseSizes (eligible targetPagesPerPart : Int) (numberOfParts : Option Int)
    (mirroredSizes : List Int) : Except PlanError (List Int) :=
  if mirroredSizes ≠ [] ∧ mirroredSizes.sum = eligible ∧
      some (mirroredSizes.length : Int) = numberOfParts then
    .ok mirroredSizes
  else
    match numberOfParts with
    | some parts => Study.partSizesForCount eligible parts
    | none => Study.partSizes eligible targetPagesPerPart

def sizesFor (counts : PageCounts) (targetPagesPerPart : Int) (numberOfParts : Option Int)
    (mirroredSizes : List Int) : Except PlanError (List Int) := do
  let eligible ← Study.eligibleStudyPages counts.totalPdfPages counts.excludedStartPages
    counts.excludedEndPages
  chooseSizes eligible targetPagesPerPart (partCount numberOfParts mirroredSizes) mirroredSizes

/-- `page_ranges`, with the part count and the mirrored sizes given independently. -/
def pageRanges (counts : PageCounts) (targetPagesPerPart : Int) (numberOfParts : Option Int)
    (mirroredSizes : List Int) : Except PlanError (List PageRange) := do
  let sizes ← sizesFor counts targetPagesPerPart numberOfParts mirroredSizes
  return Study.rangesFrom 1 (counts.excludedStartPages + 1) sizes

/-- The planner of the reader gives both arguments or neither. -/
theorem study_pageRanges (counts : PageCounts) (target : Int) (mirrored : Option MirroredParts) :
    Study.pageRanges counts target mirrored =
      pageRanges counts target (mirrored.map (·.numberOfParts))
        ((mirrored.map (·.sizes)).getD []) := by
  unfold Study.pageRanges pageRanges Study.sizesOf sizesFor chooseSizes partCount
  cases mirrored with
  | none => rfl
  | some parts => simp [eq_comm]

def studyPages (counts : PageCounts) : Int :=
  counts.totalPdfPages - counts.excludedStartPages - counts.excludedEndPages

def partSize (range : PageRange) : Int :=
  range.endPage - range.startPage + 1

variable {target eligible : Int} {sizes mirroredSizes : List Int} {counts : PageCounts}
  {numberOfParts : Option Int} {ranges : List PageRange} {part : Nat} {sheet : Sheet}
  {inputs : Difficulty → MirroredParts}

theorem partSizes_ok {pages : Int} (hpages : 1 ≤ pages) (htarget : 1 ≤ target) :
    ∃ sizes, Study.partSizes pages target = .ok sizes := by
  unfold Study.partSizes
  rw [if_neg (by omega), if_neg (by omega)]
  by_cases hfew : pages ≤ target
  · exact ⟨_, if_pos hfew⟩
  · rw [if_neg hfew]
    by_cases hexact : pages % target = 0
    · exact ⟨_, if_pos hexact⟩
    · exact ⟨_, if_neg hexact⟩

theorem partSizes_target {pages : Int} (h : Study.partSizes pages target = .ok sizes) :
    (∀ size ∈ sizes.dropLast, size = target) ∧ ∀ last ∈ sizes.getLast?, last < 2 * target := by
  unfold Study.partSizes at h
  split at h
  · cases h
  split at h
  · cases h
  next hpages htarget =>
  have hone : 1 ≤ target := by omega
  split at h
  · next hfew =>
    cases h
    exact ⟨by simp, by simp; omega⟩
  have hless : pages % target < target := Int.emod_lt_of_pos _ (by omega)
  simp only at h
  split at h
  · cases h
    refine ⟨fun size hsize => eq_of_mem_replicate (dropLast_subset _ hsize), ?_⟩
    intro last hlast
    have heq : last = target := eq_of_mem_replicate (mem_of_getLast? hlast)
    omega
  · cases h
    constructor
    · rw [dropLast_concat]
      exact fun size hsize => eq_of_mem_replicate hsize
    · intro last hlast
      rw [getLast?_concat, Option.mem_some] at hlast
      omega

theorem sizesFor_ok (h : sizesFor counts target numberOfParts mirroredSizes = .ok sizes) :
    chooseSizes (studyPages counts) target (partCount numberOfParts mirroredSizes) mirroredSizes =
      .ok sizes := by
  obtain ⟨eligible, heligible, h⟩ := bind_eq_ok.1 h
  obtain ⟨rfl, _⟩ := Study.eligibleStudyPages_ok heligible
  exact h

theorem chooseSizes_splits (hmirrored : ∀ size ∈ mirroredSizes, 1 ≤ size)
    (h : chooseSizes eligible target numberOfParts mirroredSizes = .ok sizes) :
    Splits sizes eligible := by
  unfold chooseSizes at h
  split at h
  · next hfits =>
    cases h
    exact ⟨hfits.1, hmirrored, hfits.2.1⟩
  · split at h
    · exact Study.partSizesForCount_splits h
    · exact Study.partSizes_splits h

/-- The sizes of a plan with as many study pages are taken over. -/
theorem chooseSizes_mirrored (hne : mirroredSizes ≠ []) (hsum : mirroredSizes.sum = eligible)
    (h : chooseSizes eligible target (some mirroredSizes.length) mirroredSizes = .ok sizes) :
    sizes = mirroredSizes := by
  unfold chooseSizes at h
  rw [if_pos ⟨hne, hsum, rfl⟩] at h
  exact (Except.ok.inj h).symm

theorem rangesFrom_sizes (part : Nat) (start : Int) (sizes : List Int) :
    (Study.rangesFrom part start sizes).map partSize = sizes := by
  induction sizes generalizing part start with
  | nil => rfl
  | cons size rest ih =>
    have hsize : start + size - 1 - start + 1 = size := by omega
    rw [Study.rangesFrom, map_cons, ih]
    exact congrArg (· :: rest) hsize

theorem pageRanges_ok (hmirrored : ∀ size ∈ mirroredSizes, 1 ≤ size)
    (h : pageRanges counts target numberOfParts mirroredSizes = .ok ranges) :
    sizesFor counts target numberOfParts mirroredSizes = .ok (ranges.map partSize) ∧
      Partitions ranges (counts.excludedStartPages + 1)
        (counts.totalPdfPages - counts.excludedEndPages) := by
  obtain ⟨sizes, hsizes, h⟩ := bind_eq_ok.1 h
  cases h
  obtain ⟨hne, hpositive, hsum⟩ := chooseSizes_splits hmirrored (sizesFor_ok hsizes)
  refine ⟨by rw [rangesFrom_sizes]; exact hsizes, Study.rangesFrom_ne_nil hne _ _, ?_⟩
  have hranges := Study.rangesFrom_consecutive hpositive 1 (counts.excludedStartPages + 1)
  have hstop : counts.excludedStartPages + 1 + sizes.sum - 1 =
      counts.totalPdfPages - counts.excludedEndPages := by
    rw [hsum]
    unfold studyPages
    omega
  rwa [hstop] at hranges

theorem partSize_pos {start stop : Int} (h : Study.Consecutive part start stop ranges) :
    ∀ range ∈ ranges, 1 ≤ partSize range := by
  induction ranges generalizing part start with
  | nil => simp
  | cons first rest ih =>
    obtain ⟨_, hstart, hle, hrest⟩ := h
    intro range hrange
    rcases mem_cons.1 hrange with rfl | hrange
    · unfold partSize
      omega
    · exact ih hrest range hrange

theorem partSize_sum {start stop : Int} (h : Study.Consecutive part start stop ranges) :
    (ranges.map partSize).sum = stop + 1 - start := by
  induction ranges generalizing part start with
  | nil =>
    have hnone : start = stop + 1 := h
    simp only [map_nil, sum_nil]
    omega
  | cons first rest ih =>
    obtain ⟨_, hstart, _, hrest⟩ := h
    rw [map_cons, sum_cons, ih hrest]
    unfold partSize
    omega

theorem pageRanges_unpinned (htarget : 1 ≤ target)
    (h : Study.eligibleStudyPages counts.totalPdfPages counts.excludedStartPages
      counts.excludedEndPages = .ok eligible) :
    ∃ ranges, pageRanges counts target none [] = .ok ranges ∧
      Partitions ranges (counts.excludedStartPages + 1)
        (counts.totalPdfPages - counts.excludedEndPages) ∧
      (∀ range ∈ ranges.dropLast, partSize range = target) ∧
      ∀ last ∈ ranges.getLast?, partSize last < 2 * target := by
  obtain ⟨sizes, hsizes⟩ := partSizes_ok (Study.eligibleStudyPages_ok h).2 htarget
  have hplanned : sizesFor counts target none [] = .ok sizes := by
    unfold sizesFor
    rw [h]
    exact hsizes
  have hranges : pageRanges counts target none [] =
      .ok (Study.rangesFrom 1 (counts.excludedStartPages + 1) sizes) := by
    unfold pageRanges
    rw [hplanned]
    rfl
  obtain ⟨hall, hpartitions⟩ := pageRanges_ok (by simp) hranges
  obtain ⟨hfront, hlast⟩ := partSizes_target hsizes
  refine ⟨_, hranges, hpartitions, ?_, ?_⟩
  · intro range hrange
    apply hfront
    rw [← rangesFrom_sizes 1 (counts.excludedStartPages + 1) sizes, ← map_dropLast]
    exact mem_map_of_mem hrange
  · intro last hmem
    apply hlast
    rw [← rangesFrom_sizes 1 (counts.excludedStartPages + 1) sizes, getLast?_map]
    exact Option.mem_map_of_mem _ hmem

theorem pageRanges_pinned {mirroredPlan : Plan} {start stop : Int}
    (hmirrored : Partitions mirroredPlan.pageRanges start stop)
    (h : Study.pageRanges counts target (some (Study.mirroredParts mirroredPlan)) = .ok ranges) :
    Partitions ranges (counts.excludedStartPages + 1)
        (counts.totalPdfPages - counts.excludedEndPages) ∧
      ranges.length = mirroredPlan.pageRanges.length ∧
      (studyPages counts = stop + 1 - start →
        ranges.map partSize = mirroredPlan.pageRanges.map partSize) := by
  have hlength := pageRanges_mirrored h
  rw [study_pageRanges] at h
  have hpositive : ∀ size ∈ mirroredPlan.pageRanges.map partSize, 1 ≤ size := by
    intro size hsize
    obtain ⟨range, hrange, rfl⟩ := mem_map.1 hsize
    exact partSize_pos hmirrored.2 range hrange
  obtain ⟨hsizes, hpartitions⟩ := pageRanges_ok hpositive h
  refine ⟨hpartitions, Int.ofNat.inj hlength, fun hequal => ?_⟩
  have hne : mirroredPlan.pageRanges.map partSize ≠ [] := by
    simpa using hmirrored.1
  have hsum : (mirroredPlan.pageRanges.map partSize).sum = studyPages counts := by
    rw [partSize_sum hmirrored.2, hequal]
  have hcount : partCount (some (mirroredPlan.pageRanges.length : Int))
      (mirroredPlan.pageRanges.map partSize) =
        some ((mirroredPlan.pageRanges.map partSize).length : Int) := by
    simp [partCount]
  have hchosen := sizesFor_ok hsizes
  exact chooseSizes_mirrored hne hsum (hcount ▸ hchosen)

def storedCounts (sheet : Sheet) (edition : Edition) (total : Int) : PageCounts :=
  ⟨total, storedStart sheet edition, storedEnd sheet edition⟩

theorem lockinPlanInputs_ok (h : lockinPlanInputs sheet = .ok inputs) :
    ∃ total plans, storedTotal sheet .university = some total ∧
      planPayload (storedCounts sheet .university total) none (storedPerCheckpoint sheet)
        (storedFinalExam sheet) = .ok plans ∧
      inputs = fun difficulty => Study.mirroredParts (plans difficulty) := by
  unfold lockinPlanInputs at h
  split at h
  · next plans hplans =>
    cases h
    obtain ⟨total, htotal, hpayload⟩ := editionPlan_ok.1 hplans
    exact ⟨total, plans, htotal, hpayload, rfl⟩
  · cases h

theorem planPayload_partitions {perCheckpoint finalExam : Int} {plans : Difficulty → Plan}
    (h : planPayload counts none perCheckpoint finalExam = .ok plans) (difficulty : Difficulty) :
    Partitions (plans difficulty).pageRanges (counts.excludedStartPages + 1)
      (counts.totalPdfPages - counts.excludedEndPages) := by
  obtain ⟨_, _, _, _, hranges⟩ := planPayload_difficulty h difficulty
  exact Study.pageRanges_partitions (by simp) hranges

def SharesStructure (universityCounts counts : PageCounts) (university plan : Plan) : Prop :=
  Partitions plan.pageRanges (counts.excludedStartPages + 1)
      (counts.totalPdfPages - counts.excludedEndPages) ∧
    plan.pageRanges.length = university.pageRanges.length ∧
    (studyPages counts = studyPages universityCounts →
      plan.pageRanges.map partSize = university.pageRanges.map partSize)

theorem pinned_sharesStructure (h : lockinPlanInputs sheet = .ok inputs) :
    ∃ total university, storedTotal sheet .university = some total ∧
      readinessPlan sheet .university = .ok university ∧
      ∀ counts perCheckpoint finalExam plans,
        planPayload counts (some inputs) perCheckpoint finalExam = .ok plans →
          ∀ difficulty, SharesStructure (storedCounts sheet .university total) counts
            (university difficulty) (plans difficulty) := by
  obtain ⟨total, university, htotal, huniversity, rfl⟩ := lockinPlanInputs_ok h
  refine ⟨total, university, htotal, editionPlan_ok.2 ⟨total, htotal, huniversity⟩, ?_⟩
  intro counts perCheckpoint finalExam plans hplans difficulty
  obtain ⟨_, _, _, _, hranges⟩ := planPayload_difficulty hplans difficulty
  have hmirrored := planPayload_partitions huniversity difficulty
  obtain ⟨hpartitions, hlength, hsizes⟩ := pageRanges_pinned hmirrored hranges
  refine ⟨hpartitions, hlength, fun hequal => hsizes ?_⟩
  rw [hequal]
  unfold studyPages storedCounts
  omega

/-- Page plans partition the study pages, and a plan that is pinned to the University plan has
its structure. -/
theorem page_plans_partition_and_share_structure :
    (∀ counts target eligible, 1 ≤ target →
      Study.eligibleStudyPages counts.totalPdfPages counts.excludedStartPages
          counts.excludedEndPages = .ok eligible →
        ∃ ranges, pageRanges counts target none [] = .ok ranges ∧
          (∀ range ∈ ranges.dropLast, partSize range = target) ∧
          ∀ last ∈ ranges.getLast?, partSize last < 2 * target) ∧
    (∀ counts target numberOfParts mirroredSizes ranges, (∀ size ∈ mirroredSizes, 1 ≤ size) →
      pageRanges counts target numberOfParts mirroredSizes = .ok ranges →
        Partitions ranges (counts.excludedStartPages + 1)
          (counts.totalPdfPages - counts.excludedEndPages)) ∧
    (∀ sheet inputs, lockinPlanInputs sheet = .ok inputs →
      ∃ total university, storedTotal sheet .university = some total ∧
        readinessPlan sheet .university = .ok university ∧
        ∀ counts perCheckpoint finalExam plans,
          planPayload counts (some inputs) perCheckpoint finalExam = .ok plans →
            ∀ difficulty, SharesStructure (storedCounts sheet .university total) counts
              (university difficulty) (plans difficulty)) := by
  refine ⟨?_, ?_, ?_⟩
  · intro counts target eligible htarget heligible
    obtain ⟨ranges, hranges, _, hfront, hlast⟩ := pageRanges_unpinned htarget heligible
    exact ⟨ranges, hranges, hfront, hlast⟩
  · intro counts target numberOfParts mirroredSizes ranges hpositive hranges
    exact (pageRanges_ok hpositive hranges).2
  · intro sheet inputs hinputs
    exact pinned_sharesStructure hinputs

/-- A University PDF of 22 pages without its first and last, and a Lock-in PDF of 20 pages. -/
def twoEditionSheet : Sheet where
  id := 1
  versions := []
  publishedVersion := none
  currentVersion := none
  pageBankEnabled := true
  pathDiscoverable := true
  settings
    | .university => some ⟨true, some 22, none, none, 1, 1, 15, 50, 1, 0⟩
    | .lockin => some ⟨true, some 20, none, none, 0, 0, 15, 50, 1, 0⟩
  content _ := none
  questions := []
  visibleTo _ := true

theorem two_editions_share_structure :
    (∃ ranges, pageRanges ⟨22, 1, 1⟩ 6 none [] = .ok ranges ∧
      (∀ range ∈ ranges.dropLast, partSize range = 6) ∧
      ∀ last ∈ ranges.getLast?, partSize last < 2 * 6) ∧
    Partitions [⟨1, 1, 9, none⟩, ⟨2, 10, 18, none⟩, ⟨3, 19, 29, none⟩] 1 29 ∧
    ∃ plans, readinessPlan twoEditionSheet .lockin = .ok plans ∧
      (plans .easy).pageRanges.map partSize = [6, 6, 8] := by
  refine ⟨page_plans_partition_and_share_structure.1 ⟨22, 1, 1⟩ 6 20 (by decide) rfl,
    page_plans_partition_and_share_structure.2.1 ⟨29, 0, 0⟩ 6 (some 3) [6, 6, 8] _
      (by decide) rfl, ?_⟩
  obtain ⟨inputs, hinputs⟩ : ∃ inputs, lockinPlanInputs twoEditionSheet = .ok inputs :=
    ⟨_, rfl⟩
  obtain ⟨total, university, htotal, huniversity, hshares⟩ :=
    page_plans_partition_and_share_structure.2.2 twoEditionSheet inputs hinputs
  obtain ⟨plans, hplans⟩ : ∃ plans, readinessPlan twoEditionSheet .lockin = .ok plans := ⟨_, rfl⟩
  have hpayload : planPayload ⟨20, 0, 0⟩ (some inputs) 15 50 = .ok plans := by
    have hpinned : readinessPlan twoEditionSheet .lockin =
        Study.editionPlan twoEditionSheet.outline .lockin (some inputs) := by
      simp only [readinessPlan, hinputs]
    obtain ⟨count, hcount, hpayload⟩ := editionPlan_ok.1 (hpinned ▸ hplans)
    cases hcount
    exact hpayload
  obtain ⟨_, _, hsizes⟩ := hshares ⟨20, 0, 0⟩ 15 50 plans hpayload .easy
  refine ⟨plans, hplans, ?_⟩
  cases htotal
  rw [hsizes rfl]
  cases huniversity
  rfl

end LockIn.Content
