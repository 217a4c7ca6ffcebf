import LockIn.Library.Outcome

/-!
# Pages of a sheet and how they are split into parts

The planner splits the study pages of a sheet, those between the pages excluded at its two
ends, into parts of consecutive pages.  A custom run splits them evenly, a Pomodoro run one
cycle at a time.  However they were split, the ranges of a run partition its study pages.
-/

namespace LockIn.Study

open List Outcome

/-- A part of a plan.  The number of questions is chosen when a Pomodoro cycle is closed. -/
structure PageRange where
  part : Nat
  startPage : Int
  endPage : Int
  questionCount : Option Int
deriving DecidableEq

/-- `ActiveStudyPlanError`, with the input to blame. -/
structure PlanError where
  message : String
  field : String

def eligibleStudyPages (totalPdfPages excludedStartPages excludedEndPages : Int) :
    Except PlanError Int :=
  if totalPdfPages < 1 then
    .error ⟨"Total PDF pages must be at least 1.", "total_pdf_pages"⟩
  else if excludedStartPages < 0 then
    .error ⟨"Exclude from beginning cannot be negative.", "excluded_start_pages"⟩
  else if excludedEndPages < 0 then
    .error ⟨"Exclude from end cannot be negative.", "excluded_end_pages"⟩
  else
    let eligible := totalPdfPages - excludedStartPages - excludedEndPages
    if eligible < 1 then
      .error ⟨"Excluding " ++ toString excludedStartPages ++ " page(s) from the beginning and " ++
        toString excludedEndPages ++ " from the end leaves no study pages in a " ++
        toString totalPdfPages ++ "-page PDF. Reduce the excluded pages.",
        if excludedEndPages ≥ excludedStartPages then "excluded_end_pages"
        else "excluded_start_pages"⟩
    else .ok eligible

def partSizes (eligiblePages targetPagesPerPart : Int) : Except PlanError (List Int) :=
  if eligiblePages < 1 then
    .error ⟨"Eligible study pages must be positive.", "total_pdf_pages"⟩
  else if targetPagesPerPart < 1 then
    .error ⟨"Target pages per part must be positive.", "difficulty"⟩
  else if eligiblePages ≤ targetPagesPerPart then .ok [eligiblePages]
  else
    let fullParts := (eligiblePages / targetPagesPerPart).toNat
    let remainder := eligiblePages % targetPagesPerPart
    if remainder = 0 then .ok (List.replicate fullParts targetPagesPerPart)
    -- Every earlier part keeps the target; only the last one absorbs the remainder.
    else .ok (List.replicate (fullParts - 1) targetPagesPerPart ++ [targetPagesPerPart + remainder])

def partSizesForCount (eligiblePages numberOfParts : Int) : Except PlanError (List Int) :=
  if numberOfParts < 1 then
    .error ⟨"Number of parts must be at least 1.", "number_of_parts"⟩
  else if eligiblePages < numberOfParts then
    .error ⟨"This PDF has only " ++ toString eligiblePages ++
      " study page(s) but the sheet's questions are written for " ++ toString numberOfParts ++
      " parts. Add pages or reduce the excluded pages.", "total_pdf_pages"⟩
  else
    let size := eligiblePages / numberOfParts
    let remainder := eligiblePages % numberOfParts
    .ok (List.replicate (numberOfParts.toNat - 1) size ++ [size + remainder])

/-- The loop of `page_ranges`, as the rows that `difficulty_plan` numbers. -/
def rangesFrom (part : Nat) (start : Int) : List Int → List PageRange
  | [] => []
  | size :: rest =>
    { part := part, startPage := start, endPage := start + size - 1, questionCount := none } ::
      rangesFrom (part + 1) (start + size) rest

structure PageCounts where
  totalPdfPages : Int
  excludedStartPages : Int
  excludedEndPages : Int

/-- What pins a Lock-in plan to the structure of the University sheet. -/
structure MirroredParts where
  numberOfParts : Int
  sizes : List Int

def sizesOf (counts : PageCounts) (targetPagesPerPart : Int) (mirrored : Option MirroredParts) :
    Except PlanError (List Int) := do
  let eligible ← eligibleStudyPages counts.totalPdfPages counts.excludedStartPages
    counts.excludedEndPages
  match mirrored with
  | none => partSizes eligible targetPagesPerPart
  | some parts =>
    if parts.sizes ≠ [] ∧ parts.sizes.sum = eligible ∧ parts.sizes.length = parts.numberOfParts then
      .ok parts.sizes
    else partSizesForCount eligible parts.numberOfParts

def pageRanges (counts : PageCounts) (targetPagesPerPart : Int) (mirrored : Option MirroredParts) :
    Except PlanError (List PageRange) := do
  let sizes ← sizesOf counts targetPagesPerPart mirrored
  return rangesFrom 1 (counts.excludedStartPages + 1) sizes

def maxCustomPages : Int := 10

def questionsPerPage : Nat := 15

def maxPomodoroQuestions : Int := 40

def customRange (start stop size : Int) (index : Nat) : PageRange :=
  { part := index + 1
    startPage := start + size * index
    endPage := min stop (start + size * index + size - 1)
    questionCount := none }

def customPageRanges (start stop size : Int) : Except String (List PageRange) :=
  let limit := min maxCustomPages (stop - start + 1)
  if 1 ≤ size ∧ size ≤ limit then
    let pages := (stop - start) / size + 1
    .ok ((List.range pages.toNat).map (customRange start stop size))
  else .error ("Choose between 1 and " ++ toString limit ++ " pages per test.")

/-- `initial_ranges` of `pomodoro.py`. -/
def initialRanges (startPage endPage : Int) : List PageRange :=
  [{ part := 1, startPage := startPage, endPage := endPage, questionCount := none }]

/-- `close_range`: the completed ranges stay and the unread tail is left for the next cycle. -/
def closeRange (ranges : List PageRange) (part : Nat) (endPage questionCount : Int) :
    Except String (List PageRange) :=
  match if part = 0 then none else ranges[part - 1]? with
  | none => .error "This Pomodoro cycle is no longer current. Resume the saved session."
  | some current =>
    if ¬(current.startPage ≤ endPage ∧ endPage ≤ current.endPage) then
      .error "Choose a page in the current Pomodoro reading range."
    else
      let capacity :=
        min maxPomodoroQuestions ((endPage - current.startPage + 1) * questionsPerPage)
      if ¬(1 ≤ questionCount ∧ questionCount ≤ capacity) then
        .error ("Choose between 1 and " ++ toString capacity ++ " questions for these pages.")
      else
        match current.questionCount with
        | some count =>
          if endPage ≠ current.endPage ∨ questionCount ≠ count then
            .error "A retry keeps the same Pomodoro pages and questions."
          else .ok ranges
        | none =>
          let closed := { current with endPage := endPage, questionCount := some questionCount }
          let tail : List PageRange :=
            if endPage < current.endPage then
              [{ part := part + 1, startPage := endPage + 1, endPage := current.endPage
                 questionCount := none }]
            else []
          .ok (ranges.take (part - 1) ++ [closed] ++ tail)

/-- The ranges are numbered from `part` on and cover the pages from `start` to `stop`, each
beginning where the one before it ended. -/
def Consecutive (part : Nat) (start stop : Int) : List PageRange → Prop
  | [] => start = stop + 1
  | range :: rest =>
    range.part = part ∧ range.startPage = start ∧ start ≤ range.endPage ∧
      Consecutive (part + 1) (range.endPage + 1) stop rest

/-- The ranges partition the pages from `start` to `stop`. -/
def Partitions (ranges : List PageRange) (start stop : Int) : Prop :=
  ranges ≠ [] ∧ Consecutive 1 start stop ranges

variable {stop pages target : Int} {ranges : List PageRange}

theorem consecutive_append {part : Nat} {start : Int} {front back : List PageRange} :
    Consecutive part start stop (front ++ back) ↔
      ∃ middle, Consecutive part start middle front ∧
        Consecutive (part + front.length) (middle + 1) stop back := by
  induction front generalizing part start with
  | nil =>
    simp only [nil_append, length_nil, Nat.add_zero, Consecutive]
    constructor
    · intro h
      exact ⟨start - 1, by omega, by rwa [Int.sub_add_cancel]⟩
    · rintro ⟨middle, rfl, h⟩
      exact h
  | cons range front ih =>
    have hlength : part + (range :: front).length = part + 1 + front.length := by
      rw [length_cons]
      omega
    simp only [cons_append, Consecutive, ih, hlength]
    constructor
    · rintro ⟨hpart, hstart, hle, middle, hfront, hback⟩
      exact ⟨middle, ⟨hpart, hstart, hle, hfront⟩, hback⟩
    · rintro ⟨middle, ⟨hpart, hstart, hle, hfront⟩, hback⟩
      exact ⟨hpart, hstart, hle, middle, hfront, hback⟩

theorem Consecutive.start_le {part : Nat} {start : Int} (h : Consecutive part start stop ranges) :
    start ≤ stop + 1 := by
  induction ranges generalizing part start with
  | nil =>
    have hnone : start = stop + 1 := h
    omega
  | cons range rest ih =>
    have hrest := ih h.2.2.2
    have hle := h.2.2.1
    omega

theorem Partitions.start_le {start : Int} (h : Partitions ranges start stop) : start ≤ stop := by
  obtain ⟨hne, hranges⟩ := h
  cases ranges with
  | nil => exact absurd rfl hne
  | cons range rest =>
    have hrest := hranges.2.2.2.start_le
    have hle := hranges.2.2.1
    omega

theorem rangesFrom_consecutive {sizes : List Int} (h : ∀ size ∈ sizes, 1 ≤ size) (part : Nat)
    (start : Int) : Consecutive part start (start + sizes.sum - 1) (rangesFrom part start sizes) := by
  induction sizes generalizing part start with
  | nil =>
    show start = start + 0 - 1 + 1
    omega
  | cons size rest ih =>
    have hsize : 1 ≤ size := h size (by simp)
    have hrest := ih (fun other hother => h other (by simp [hother])) (part + 1) (start + size)
    refine ⟨rfl, rfl, ?_, ?_⟩
    · show start ≤ start + size - 1
      omega
    · show Consecutive (part + 1) (start + size - 1 + 1) _ _
      rw [sum_cons, Int.sub_add_cancel, ← Int.add_assoc]
      exact hrest

theorem rangesFrom_ne_nil {sizes : List Int} (h : sizes ≠ []) (part : Nat) (start : Int) :
    rangesFrom part start sizes ≠ [] := by
  cases sizes with
  | nil => exact absurd rfl h
  | cons size rest => exact cons_ne_nil _ _

/-- Sizes that a plan may give its parts: at least one part, none of them empty, and
together the pages that are studied. -/
def Splits (sizes : List Int) (pages : Int) : Prop :=
  sizes ≠ [] ∧ (∀ size ∈ sizes, 1 ≤ size) ∧ sizes.sum = pages

theorem splits_replicate_append {count : Nat} {size last : Int} (hsize : 1 ≤ size ∨ count = 0)
    (hlast : 1 ≤ last) (hsum : count * size + last = pages) :
    Splits (List.replicate count size ++ [last]) pages := by
  refine ⟨by simp, ?_, ?_⟩
  · intro other hother
    rcases mem_append.mp hother with hrep | hone
    · obtain ⟨hne, rfl⟩ := mem_replicate.mp hrep
      rcases hsize with hsize | hzero
      · exact hsize
      · exact absurd hzero hne
    · obtain rfl := mem_singleton.mp hone
      exact hlast
  · rw [sum_append, sum_replicate, sum_singleton, nsmul_eq_mul]
    exact hsum

theorem partSizes_splits {sizes : List Int} (h : partSizes pages target = .ok sizes) :
    Splits sizes pages := by
  unfold partSizes at h
  split at h
  · cases h
  split at h
  · cases h
  split at h
  · cases h
    exact ⟨by simp, by simpa using by omega, by simp⟩
  simp only at h
  have htarget : 1 ≤ target := by omega
  have hdivmod := Int.emod_add_mul_ediv pages target
  have hnonneg : 0 ≤ pages % target := Int.emod_nonneg _ (by omega)
  have hone : 1 ≤ pages / target := by
    by_contra hless
    have hlt : pages % target < target := Int.emod_lt_of_pos _ (by omega)
    have hzero : target * (pages / target) ≤ 0 :=
      Int.mul_nonpos_of_nonneg_of_nonpos (by omega) (by omega)
    omega
  obtain ⟨count, hcount⟩ : ∃ count : Nat, pages / target = (count : Int) + 1 :=
    ⟨(pages / target - 1).toNat, by omega⟩
  rw [hcount] at h hdivmod
  have hparts : ((count : Int) + 1).toNat = count + 1 := by omega
  rw [hparts, Nat.add_sub_cancel] at h
  have hmul : target * ((count : Int) + 1) = count * target + target := by ring
  rw [hmul] at hdivmod
  split at h
  · next hexact =>
    cases h
    rw [replicate_succ']
    exact splits_replicate_append (.inl htarget) htarget (by omega)
  · cases h
    exact splits_replicate_append (.inl htarget) (by omega) (by omega)

theorem partSizesForCount_splits {parts : Int} {sizes : List Int}
    (h : partSizesForCount pages parts = .ok sizes) : Splits sizes pages := by
  unfold partSizesForCount at h
  split at h
  · cases h
  split at h
  · cases h
  cases h
  have hdivmod := Int.emod_add_mul_ediv pages parts
  have hnonneg : 0 ≤ pages % parts := Int.emod_nonneg _ (by omega)
  have hone : 1 ≤ pages / parts := Int.le_ediv_of_mul_le (by omega) (by omega)
  obtain ⟨count, hcount⟩ : ∃ count : Nat, parts = (count : Int) + 1 :=
    ⟨(parts - 1).toNat, by omega⟩
  subst hcount
  have hparts : ((count : Int) + 1).toNat - 1 = count := by omega
  have hmul : ((count : Int) + 1) * (pages / ((count : Int) + 1)) =
      count * (pages / ((count : Int) + 1)) + pages / ((count : Int) + 1) := by ring
  rw [hmul] at hdivmod
  rw [hparts]
  exact splits_replicate_append (.inl hone) (by omega) (by omega)

theorem eligibleStudyPages_ok {total start eligible : Int}
    (h : eligibleStudyPages total start stop = .ok eligible) :
    eligible = total - start - stop ∧ 1 ≤ eligible := by
  unfold eligibleStudyPages at h
  split at h
  · cases h
  split at h
  · cases h
  split at h
  · cases h
  simp only at h
  split at h
  · cases h
  · cases h
    exact ⟨rfl, by omega⟩

theorem pageRanges_partitions {counts : PageCounts} {mirrored : Option MirroredParts}
    (hm : ∀ parts ∈ mirrored, ∀ size ∈ parts.sizes, 1 ≤ size)
    (h : pageRanges counts target mirrored = .ok ranges) :
    Partitions ranges (counts.excludedStartPages + 1)
      (counts.totalPdfPages - counts.excludedEndPages) := by
  obtain ⟨sizes, hsizes, h⟩ := bind_eq_ok.mp h
  cases h
  obtain ⟨eligible, heligible, hsizes⟩ := bind_eq_ok.mp hsizes
  obtain ⟨heq, _⟩ := eligibleStudyPages_ok heligible
  have hsplits : Splits sizes eligible := by
    cases mirrored with
    | none => exact partSizes_splits hsizes
    | some parts =>
      simp only at hsizes
      split at hsizes
      · next hfits =>
        cases hsizes
        exact ⟨hfits.1, hm parts rfl, hfits.2.1⟩
      · exact partSizesForCount_splits hsizes
  obtain ⟨hne, hpositive, hsum⟩ := hsplits
  refine ⟨rangesFrom_ne_nil hne _ _, ?_⟩
  have hranges := rangesFrom_consecutive hpositive 1 (counts.excludedStartPages + 1)
  have hstop : counts.excludedStartPages + 1 + sizes.sum - 1 =
      counts.totalPdfPages - counts.excludedEndPages := by
    omega
  rwa [hstop] at hranges

theorem customRanges_consecutive {start size : Int} (hsize : 1 ≤ size) (first count : Nat)
    (hend : (stop - start) / size = first + count) :
    Consecutive (first + 1) (start + size * first) stop
      ((List.range' first (count + 1)).map (customRange start stop size)) := by
  have hdivmod := Int.emod_add_mul_ediv (stop - start) size
  have hnonneg : 0 ≤ (stop - start) % size := Int.emod_nonneg _ (by omega)
  have hless : (stop - start) % size < size := Int.emod_lt_of_pos _ (by omega)
  rw [hend] at hdivmod
  induction count generalizing first with
  | zero =>
    simp only [Nat.cast_zero, add_zero] at hdivmod
    have hstop : min stop (start + size * first + size - 1) = stop := by omega
    show _ ∧ _ ∧ _ ≤ min stop _ ∧ min stop _ + 1 = stop + 1
    rw [hstop]
    exact ⟨rfl, rfl, by omega, rfl⟩
  | succ count ih =>
    have hnext : size * ((first : Int) + ((count + 1 : Nat) : Int)) =
        size * first + size + size * count := by
      push_cast
      ring
    have hcount : 0 ≤ size * (count : Int) := Int.mul_nonneg (by omega) (by omega)
    rw [hnext] at hdivmod
    have hstop : min stop (start + size * first + size - 1) = start + size * first + size - 1 := by
      omega
    have hsplit : size * (((first + 1 : Nat) : Int) + count) =
        size * first + size + size * count := by
      push_cast
      ring
    have hrest := ih (first + 1) (by rw [hend]; push_cast; ring) (by rw [hsplit]; exact hdivmod)
    rw [range'_succ, map_cons]
    refine ⟨rfl, rfl, ?_, ?_⟩
    · show _ ≤ min stop _
      rw [hstop]
      omega
    · show Consecutive _ (min stop _ + 1) _ _
      have hfrom : start + size * first + size - 1 + 1 = start + size * ((first + 1 : Nat) : Int) := by
        push_cast
        ring
      rw [hstop, hfrom]
      exact hrest

theorem customPageRanges_partitions {start size : Int}
    (h : customPageRanges start stop size = .ok ranges) : Partitions ranges start stop := by
  unfold customPageRanges at h
  simp only at h
  split at h
  · next hsize =>
    cases h
    have hle : start ≤ stop := by omega
    have hquot : 0 ≤ (stop - start) / size := Int.ediv_nonneg (by omega) (by omega)
    obtain ⟨count, hcount⟩ : ∃ count : Nat, (stop - start) / size = count :=
      ⟨((stop - start) / size).toNat, by omega⟩
    have hpages : ((stop - start) / size + 1).toNat = count + 1 := by omega
    rw [hpages]
    refine ⟨by simp, ?_⟩
    have hranges : Consecutive _ _ stop ((List.range' 0 (count + 1)).map _) :=
      customRanges_consecutive hsize.1 0 count (by rw [hcount]; omega)
    rw [Nat.cast_zero, mul_zero, add_zero, ← range_eq_range'] at hranges
    exact hranges
  · cases h

theorem initialRanges_partitions {start : Int} (h : start ≤ stop) :
    Partitions (initialRanges start stop) start stop :=
  ⟨by simp [initialRanges], rfl, rfl, h, rfl⟩

def ClosedButLast (ranges : List PageRange) : Prop :=
  ∀ range ∈ ranges.dropLast, range.questionCount.isSome

/-- What closing a cycle does to the list of ranges: a repeated closing changes nothing, and
the first one shortens the last range and opens another for the pages it leaves. -/
theorem closeRange_cases {closed : List PageRange} {part : Nat} {endPage count : Int}
    (hlast : ClosedButLast ranges) (h : closeRange ranges part endPage count = .ok closed) :
    ∃ front current back, ranges = front ++ current :: back ∧ front.length + 1 = part ∧
      current.startPage ≤ endPage ∧ endPage ≤ current.endPage ∧
      ((current.questionCount = some count ∧ endPage = current.endPage ∧ closed = ranges) ∨
        (current.questionCount = none ∧ back = [] ∧
          ∃ tail, closed = front ++ { current with endPage := endPage
                                                   questionCount := some count } :: tail ∧
            tail = if endPage < current.endPage then
              [{ part := part + 1, startPage := endPage + 1, endPage := current.endPage
                 questionCount := none }] else [])) := by
  unfold closeRange at h
  split at h
  · cases h
  next current hcurrent =>
  split at hcurrent
  · cases hcurrent
  next hpart =>
  split at h
  · cases h
  next hinside =>
  simp only at h
  split at h
  · cases h
  have hindex : part - 1 < ranges.length := (List.getElem?_eq_some_iff.mp hcurrent).1
  have hsplit : ranges = ranges.take (part - 1) ++ current :: ranges.drop part := by
    have hget : ranges[part - 1] = current := (List.getElem?_eq_some_iff.mp hcurrent).2
    have hdrop := drop_eq_getElem_cons hindex
    rw [hget, show part - 1 + 1 = part by omega] at hdrop
    rw [← hdrop, take_append_drop]
  refine ⟨ranges.take (part - 1), current, ranges.drop part, hsplit, ?_, by omega, by omega, ?_⟩
  · rw [length_take]
    omega
  cases hclosed : current.questionCount with
  | some chosen =>
    rw [hclosed] at h
    simp only at h
    split at h
    · cases h
    next hsame =>
    cases h
    obtain ⟨hend, hcount⟩ := not_or.mp hsame
    exact .inl ⟨by rw [not_not.mp hcount], not_not.mp hend, rfl⟩
  | none =>
    rw [hclosed] at h
    cases h
    refine .inr ⟨rfl, ?_, _, append_assoc _ _ _, rfl⟩
    by_contra hmore
    have hmem : current ∈ ranges.dropLast := by
      rw [hsplit, dropLast_append_of_ne_nil (by simp), dropLast_cons_of_ne_nil hmore]
      simp
    have hsome := hlast current hmem
    rw [hclosed] at hsome
    cases hsome

theorem closeRange_partitions {closed : List PageRange} {part : Nat} {start endPage count : Int}
    (hp : Partitions ranges start stop) (hlast : ClosedButLast ranges)
    (h : closeRange ranges part endPage count = .ok closed) :
    Partitions closed start stop ∧ ClosedButLast closed := by
  obtain ⟨front, current, back, hranges, hpart, hlow, hhigh, hcase⟩ := closeRange_cases hlast h
  rcases hcase with ⟨_, _, rfl⟩ | ⟨_, rfl, tail, rfl, htail⟩
  · exact ⟨hp, hlast⟩
  obtain ⟨_, hconsecutive⟩ := hp
  rw [hranges, consecutive_append] at hconsecutive
  obtain ⟨middle, hfront, hnumber, hstart, _, hstop⟩ := hconsecutive
  have hclosedFront : ∀ range ∈ front, range.questionCount.isSome := by
    intro range hrange
    apply hlast range
    rw [hranges, dropLast_concat]
    exact hrange
  refine ⟨⟨by simp, consecutive_append.mpr ⟨middle, hfront, hnumber, hstart, ?_, ?_⟩⟩, ?_⟩
  · show middle + 1 ≤ endPage
    omega
  · have hstop : current.endPage + 1 = stop + 1 := hstop
    show Consecutive (1 + front.length + 1) (endPage + 1) stop tail
    rw [htail]
    split
    · refine ⟨?_, rfl, ?_, ?_⟩
      · show part + 1 = 1 + front.length + 1
        omega
      · show endPage + 1 ≤ current.endPage
        omega
      · show current.endPage + 1 = stop + 1
        exact hstop
    · show endPage + 1 = stop + 1
      omega
  · intro range hrange
    rw [htail] at hrange
    split at hrange
    · rw [dropLast_append_of_ne_nil (by simp)] at hrange
      rcases mem_append.mp hrange with hf | hc
      · exact hclosedFront range hf
      · obtain rfl := mem_singleton.mp hc
        rfl
    · rw [dropLast_concat] at hrange
      exact hclosedFront range hrange

end LockIn.Study
