import LockIn.Library.Turns
import LockIn.Offline.Bundle

/-!
# Selecting the questions of pages

The questions of a test are selected from the pages it covers: the first of every page, then the
second, until there are enough, and one each of pages spread over the range where fewer are asked
for than there are pages.  The server selects them for its own runs and the device for those it
plays offline.
-/

namespace LockIn.OfflineStudy

open Content List
open Study (Partitions Consecutive PageRange)
open Whitespace (Text)

namespace Device

/-- `selectPageQuestions` of the device, with `none` for a count that is no integer.  The quotient
of two page counts is floored exactly: they are far below the integers that binary64 rounds. -/
def selectPageQuestions (rows : List Row) (start stop : Int) (count : Option Int) :
    Except String (List SelectedQuestion) :=
  let pages := rows.filter fun row => row.number ≥ start ∧ row.number ≤ stop
  let available := pages.foldl (fun total page =>
    total + min questionsPerPage page.questions.length) 0
  if count.all (· < 1) ∨ pages = [] ∨
      count.any (fun count => count > (pages.length : Int) * questionsPerPage) ∨ available < 1 then
    .error "There are not enough questions for these pages."
  else
    let wanted := min (count.getD 0).toNat available
    let asked :=
      if wanted < pages.length then
        (List.range wanted).filterMap fun index => pages[index * pages.length / wanted]?
      else pages
    let longest := (asked.map fun page => page.questions.length).foldl max 0
    .ok (Turns.collect questionAt wanted (min questionsPerPage longest) asked)

end Device

/-- `select_page_questions` with any count. -/
def selectCounted (rows : List Row) (start stop : Int) (count : Option Int) :
    Except String (List SelectedQuestion) :=
  match count with
  | none => .error "There are not enough questions for these pages."
  | some count => selectPageQuestions rows start stop count

theorem foldl_usable (pages : List Row) (total : Nat) :
    pages.foldl (fun total page => total + min questionsPerPage page.questions.length) total =
      total + (pages.map usable).sum := by
  induction pages generalizing total with
  | nil => rfl
  | cons page rest ih =>
    rw [foldl_cons, ih, map_cons, sum_cons, Nat.add_assoc]
    rfl

theorem device_selectPageQuestions (rows : List Row) (start stop : Int) (count : Option Int) :
    Device.selectPageQuestions rows start stop count = selectCounted rows start stop count := by
  unfold Device.selectPageQuestions selectCounted
  cases count with
  | none => simp
  | some count =>
    unfold selectPageQuestions
    simp only [foldl_usable, Nat.zero_add, Option.all_some, Option.any_some, Option.getD_some,
      decide_eq_true_eq, ge_iff_le]
    by_cases hguard : rows.filter (fun row => start ≤ row.number ∧ row.number ≤ stop) = [] ∨
        count < 1 ∨ count > (rows.filter fun row => start ≤ row.number ∧
          row.number ≤ stop).length * questionsPerPage ∨
        ((rows.filter fun row => start ≤ row.number ∧ row.number ≤ stop).map usable).sum < 1
    · rw [if_pos hguard, if_pos (or_left_comm.mp hguard)]
    · rw [if_neg hguard, if_neg (fun h => hguard (or_left_comm.mp h))]
      simp only [not_or, not_lt] at hguard
      obtain ⟨_, hcount, _, havailable⟩ := hguard
      rw [Turns.collect_eq (by omega)]
      rfl

structure PageBank (rows : List Row) : Prop where
  ascending : (rows.map Row.number).Pairwise (· < ·)
  questions : ∀ row ∈ rows, row.questions ≠ []

variable {rows : List Row} {page : Row} {selected : SelectedQuestion}

theorem PageBank.sublist {pages : List Row} (h : PageBank rows) (hsub : pages.Sublist rows) :
    PageBank pages where
  ascending := h.ascending.sublist (hsub.map _)
  questions page hpage := h.questions page (hsub.subset hpage)

theorem PageBank.nodup (h : PageBank rows) : (rows.map Row.number).Nodup :=
  h.ascending.imp fun hlt => ne_of_lt hlt

structure PageSelection (pages : List Row) (count : Nat) (selected : List SelectedQuestion) :
    Prop where
  length : selected.length = min count (pages.map usable).sum
  distinct : (selected.map SelectedQuestion.sourceKey).Nodup
  named : ∀ question ∈ selected, ∃ page ∈ pages, ∃ position < questionsPerPage,
    question.sourceKey = (page.number, position + 1) ∧
      page.questions[position]? = some question.question
  everyPage : pages.length ≤ count →
    ∀ page ∈ pages, ∃ question ∈ selected, question.sourceKey = (page.number, 1)
  inTurn : ∀ (index : Nat) question position, selected[index]? = some question →
    question.sourceKey.2 = position + 2 → pages.length ≤ count →
    ∀ page ∈ pages, position < page.questions.length →
      ∃ earlier < index, ∃ other, selected[earlier]? = some other ∧
        other.sourceKey = (page.number, position + 1)
  fewer : count < pages.length → ∃ asked : List Row, asked.Sublist pages ∧
    asked.length = count ∧
      selected.map SelectedQuestion.sourceKey = asked.map fun page => (page.number, 1)

def SelectedQuestion.turn (selected : SelectedQuestion) : Int × Nat :=
  (selected.sourceKey.1, selected.sourceKey.2 - 1)

theorem questionAt_eq_some {position : Nat} :
    questionAt position page = some selected ↔
      page.questions[position]? = some selected.question ∧
        selected.sourceKey = (page.number, position + 1) := by
  unfold questionAt
  rw [Option.map_eq_some_iff]
  constructor
  · rintro ⟨question, hquestion, rfl⟩
    exact ⟨hquestion, rfl⟩
  · rintro ⟨hquestion, hkey⟩
    refine ⟨selected.question, hquestion, ?_⟩
    obtain ⟨question, key⟩ := selected
    cases hkey
    rfl

theorem keyed_questionAt : Turns.Keyed questionAt Row.number (fun page => page.questions.length)
    SelectedQuestion.turn where
  gives position page := by
    unfold questionAt
    rw [Option.isSome_map, isSome_getElem?]
  keys {position page selected} h := by
    unfold SelectedQuestion.turn
    rw [(questionAt_eq_some.mp h).2]
    rfl

/-- The two loops without the count that ends them. -/
def allRounds (pages : List Row) : List SelectedQuestion :=
  Turns.rounds questionAt
    (min questionsPerPage ((pages.map (·.questions.length)).foldl max 0)) pages

theorem selectFrom_eq (pages : List Row) (count : Nat) :
    selectFrom pages count = (allRounds pages).take count := rfl

section
variable {pages : List Row} {count : Nat}

theorem length_le_longest (hpage : page ∈ pages) :
    page.questions.length ≤ (pages.map (·.questions.length)).foldl max 0 := by
  rw [foldl_max]
  have hle : page.questions.length ≤ ((pages.map (·.questions.length)).max?).getD 0 :=
    le_max?_getD_of_mem (mem_map_of_mem hpage)
  omega

theorem length_allRounds (pages : List Row) :
    (allRounds pages).length = (pages.map usable).sum := by
  unfold allRounds
  rw [keyed_questionAt.length_rounds]
  refine congrArg List.sum (map_congr_left fun page hpage => ?_)
  have hle := length_le_longest hpage
  unfold usable
  omega

theorem mem_allRounds (h : selected ∈ allRounds pages) :
    ∃ page ∈ pages, ∃ position < questionsPerPage,
      selected.sourceKey = (page.number, position + 1) ∧
        page.questions[position]? = some selected.question := by
  obtain ⟨page, hpage, position, hposition, hselected⟩ := Turns.mem_rounds.mp h
  obtain ⟨hquestion, hkey⟩ := questionAt_eq_some.mp hselected
  exact ⟨page, hpage, position, lt_of_lt_of_le hposition (min_le_left _ _), hkey, hquestion⟩

theorem nodup_allRounds (h : (pages.map Row.number).Nodup) :
    ((allRounds pages).map SelectedQuestion.sourceKey).Nodup := by
  have hturns := keyed_questionAt.nodup_rounds h
    (min questionsPerPage ((pages.map (·.questions.length)).foldl max 0))
  have hkeys : (allRounds pages).map SelectedQuestion.turn =
      ((allRounds pages).map SelectedQuestion.sourceKey).map fun key => (key.1, key.2 - 1) := by
    rw [map_map]
    rfl
  have hturns : ((allRounds pages).map SelectedQuestion.turn).Nodup := hturns
  rw [hkeys] at hturns
  exact hturns.of_map

theorem firstQuestions_keys (h : ∀ page ∈ pages, page.questions ≠ []) :
    (pages.filterMap (questionAt 0)).map SelectedQuestion.sourceKey =
      pages.map fun page => (page.number, 1) := by
  induction pages with
  | nil => rfl
  | cons page rest ih =>
    obtain ⟨question, others, hquestions⟩ :=
      exists_cons_of_ne_nil (h page mem_cons_self)
    have hfirst : questionAt 0 page = some ⟨question, (page.number, 1)⟩ := by
      unfold questionAt
      rw [hquestions]
      rfl
    rw [filterMap_cons_some hfirst, map_cons, map_cons,
      ih fun other hother => h other (mem_cons_of_mem _ hother)]

theorem firstQuestions_length (h : ∀ page ∈ pages, page.questions ≠ []) :
    (pages.filterMap (questionAt 0)).length = pages.length := by
  have hkeys := congrArg List.length (firstQuestions_keys h)
  rwa [length_map, length_map] at hkeys

theorem firstQuestions_prefix (h : ∀ page ∈ pages, page.questions ≠ []) (hsome : pages ≠ []) :
    pages.filterMap (questionAt 0) <+: allRounds pages := by
  obtain ⟨page, hpage⟩ := exists_mem_of_ne_nil _ hsome
  have hlength : 0 < page.questions.length := length_pos_iff.mpr (h page hpage)
  have hlongest := length_le_longest hpage
  refine Turns.first_round ?_ pages
  show 0 < min 15 _
  omega

theorem length_le_usable (h : ∀ page ∈ pages, page.questions ≠ []) :
    pages.length ≤ (pages.map usable).sum := by
  induction pages with
  | nil => exact Nat.zero_le _
  | cons page rest ih =>
    have hrest := ih fun other hother => h other (mem_cons_of_mem _ hother)
    have hlength : 0 < page.questions.length := length_pos_iff.mpr (h page mem_cons_self)
    have husable : 1 ≤ usable page := by
      show 1 ≤ min 15 _
      omega
    rw [length_cons, map_cons, sum_cons]
    omega

theorem PageBank.selection_all (h : PageBank pages) (hsome : pages ≠ [])
    (hmany : pages.length ≤ count) :
    PageSelection pages count ((allRounds pages).take (min count (pages.map usable).sum)) := by
  have husable := length_le_usable h.questions
  have hfirst := firstQuestions_prefix h.questions hsome
  constructor
  case length =>
    rw [length_take, length_allRounds]
    omega
  case distinct => exact (nodup_allRounds h.nodup).sublist ((take_sublist _ _).map _)
  case named =>
    intro question hquestion
    exact mem_allRounds (mem_of_mem_take hquestion)
  case everyPage =>
    intro _ page hpage
    have hkey : (page.number, 1) ∈
        (pages.filterMap (questionAt 0)).map SelectedQuestion.sourceKey := by
      rw [firstQuestions_keys h.questions]
      exact mem_map_of_mem hpage
    obtain ⟨question, hquestion, hsource⟩ := mem_map.mp hkey
    have hprefix : pages.filterMap (questionAt 0) <+:
        (allRounds pages).take (min count (pages.map usable).sum) := by
      rw [prefix_take_iff, firstQuestions_length h.questions]
      exact ⟨hfirst, by omega⟩
    exact ⟨question, hprefix.subset hquestion, hsource⟩
  case inTurn =>
    intro index question position hindex hposition _ page hpage hmore
    rw [getElem?_take] at hindex
    split at hindex
    · next hlt =>
      have hturn : question.turn.2 = position + 1 := by
        show question.sourceKey.2 - 1 = _
        omega
      obtain ⟨earlier, hearlier, other, hother, hkey⟩ :=
        keyed_questionAt.earlier hindex hturn hpage hmore
      obtain ⟨_, _, place, _, hsource, _⟩ := mem_allRounds (mem_of_getElem? hother)
      refine ⟨earlier, hearlier, other, ?_, ?_⟩
      · rw [getElem?_take_of_lt (by omega)]
        exact hother
      · unfold SelectedQuestion.turn at hkey
        rw [hsource] at hkey ⊢
        obtain ⟨hnumber, hplace⟩ := Prod.mk.inj hkey
        simp only at hnumber hplace
        rw [hnumber, Nat.add_sub_cancel] at *
        rw [hplace]
    · cases hindex
  case fewer =>
    intro hfew
    omega

theorem PageBank.selection_fewer (h : PageBank pages) (hcount : 1 ≤ count)
    (hfew : count < pages.length) :
    PageSelection pages count ((allRounds (Turns.spread pages count)).take count) := by
  have husable := length_le_usable h.questions
  have hle := Nat.le_of_lt hfew
  have hsub := Turns.spread_sublist hcount hle
  have hlength := Turns.length_spread hle
  have hasked := h.sublist hsub
  have hsome : Turns.spread pages count ≠ [] := by
    intro hnil
    rw [hnil] at hlength
    exact absurd hlength (by simp; omega)
  have hselected : (allRounds (Turns.spread pages count)).take count =
      (Turns.spread pages count).filterMap (questionAt 0) := by
    have hprefix := firstQuestions_prefix hasked.questions hsome
    rw [prefix_iff_eq_take, firstQuestions_length hasked.questions, hlength] at hprefix
    exact hprefix.symm
  constructor
  case length =>
    rw [hselected, firstQuestions_length hasked.questions, hlength]
    omega
  case distinct => exact (nodup_allRounds hasked.nodup).sublist ((take_sublist _ _).map _)
  case named =>
    intro question hquestion
    obtain ⟨page, hpage, hnamed⟩ := mem_allRounds (mem_of_mem_take hquestion)
    exact ⟨page, hsub.subset hpage, hnamed⟩
  case everyPage =>
    intro hmany
    omega
  case inTurn =>
    intro _ _ _ _ _ hmany
    omega
  case fewer =>
    intro _
    refine ⟨Turns.spread pages count, hsub, hlength, ?_⟩
    rw [hselected, firstQuestions_keys hasked.questions]

end

theorem PageBank.selectPageQuestions (h : PageBank rows) {start stop count : Int}
    (hsome : rows.filter (fun row => start ≤ row.number ∧ row.number ≤ stop) ≠ [])
    (hcount : 1 ≤ count) (hstock : count ≤ (rows.filter fun row =>
      start ≤ row.number ∧ row.number ≤ stop).length * questionsPerPage) :
    ∃ selected, OfflineStudy.selectPageQuestions rows start stop count = .ok selected ∧
      PageSelection (rows.filter fun row => start ≤ row.number ∧ row.number ≤ stop) count.toNat
        selected := by
  generalize hpages : rows.filter (fun row => start ≤ row.number ∧ row.number ≤ stop) = pages
    at *
  have hbank : PageBank pages := h.sublist (hpages ▸ filter_sublist)
  have husable := length_le_usable hbank.questions
  have hlength := length_pos_iff.mpr hsome
  have hguard : ¬(pages = [] ∨ count < 1 ∨ count > pages.length * questionsPerPage ∨
      (pages.map usable).sum < 1) := by
    simp only [not_or, not_lt]
    exact ⟨hsome, hcount, hstock, by omega⟩
  refine ⟨selectFrom (spreadPages pages (min count.toNat (pages.map usable).sum))
    (min count.toNat (pages.map usable).sum), ?_, ?_⟩
  · unfold OfflineStudy.selectPageQuestions
    simp only [hpages]
    rw [if_neg hguard]
  · rw [selectFrom_eq]
    unfold spreadPages
    by_cases hfew : count.toNat < pages.length
    · have hwanted : min count.toNat (pages.map usable).sum = count.toNat := by omega
      rw [hwanted, if_pos hfew]
      exact hbank.selection_fewer (by omega) hfew
    · rw [if_neg (by omega)]
      exact hbank.selection_all hsome (Nat.le_of_not_lt hfew)

theorem consecutive_pages {part : Nat} {start stop : Int} {ranges : List PageRange}
    (h : Consecutive part start stop ranges) :
    (ranges.flatMap rangePages).Pairwise (· < ·) ∧
      ∀ page ∈ ranges.flatMap rangePages, start ≤ page := by
  induction ranges generalizing part start with
  | nil => exact ⟨List.Pairwise.nil, forall_mem_nil _⟩
  | cons range rest ih =>
    obtain ⟨_, hstart, hle, hrest⟩ := h
    obtain ⟨hascending, habove⟩ := ih hrest
    have hbounds : ∀ page ∈ rangePages range, start ≤ page ∧ page ≤ range.endPage := by
      intro page hpage
      obtain ⟨index, hindex, rfl⟩ := mem_map.mp hpage
      have hindex := mem_range.mp hindex
      omega
    rw [flatMap_cons]
    constructor
    · rw [pairwise_append]
      refine ⟨?_, hascending, ?_⟩
      · unfold rangePages
        rw [pairwise_map]
        exact pairwise_lt_range.imp fun hlt => by omega
      · intro first hfirst second hsecond
        have hlast := (hbounds first hfirst).2
        have hnext := habove second hsecond
        omega
    · intro page hpage
      rcases mem_append.mp hpage with hfirst | hlater
      · exact (hbounds page hfirst).1
      · have hnext := habove page hlater
        omega

theorem pageBank_of_validated {casefold : Text → Text} {required : Requirements} {payload : Json}
    {validation : Validation} {first last : Int}
    (hranges : Partitions required.pageRanges first last)
    (hvalid : validateActiveStudyQuestions casefold required payload = .ok validation)
    (hbank : validation.payload.bank = .pages rows) : PageBank rows := by
  obtain ⟨haccepted, hnormal, _⟩ := validate_accepted hvalid
  have hsorted := hnormal.sorted
  unfold Accepted at haccepted
  rw [hbank] at haccepted hsorted
  split at haccepted
  · next hfound => cases hfound
  · next found _ hfound =>
    cases hfound
    constructor
    · have hordered : (rows.map Row.number).Pairwise (· ≤ ·) := pairwise_map.mpr hsorted
      have hnumbers : sortedNumbers (rows.map Row.number) = rows.map Row.number :=
        hordered.insertionSort_eq
      rw [← hnumbers, haccepted.numbers]
      exact (consecutive_pages hranges.2).1
    · intro row hrow
      apply ne_nil_of_length_pos
      rcases haccepted.lengths with hlegacy | hpages
      · rw [hlegacy row hrow]
        decide
      · exact (hpages row hrow).1
  · exact haccepted.elim

/-- The selection from a validated page bank is exact and spread over the pages, and the device
makes the same one of any bank. -/
theorem page_questions_selected (casefold : Text → Text) (required : Requirements) (payload : Json)
    (validation : Validation) (rows : List Row) (first last : Int)
    (hranges : Partitions required.pageRanges first last)
    (hvalid : validateActiveStudyQuestions casefold required payload = .ok validation)
    (hbank : validation.payload.bank = .pages rows) (start stop count : Int)
    (hsome : rows.filter (fun row => start ≤ row.number ∧ row.number ≤ stop) ≠ [])
    (hcount : 1 ≤ count) (hstock : count ≤ (rows.filter fun row =>
      start ≤ row.number ∧ row.number ≤ stop).length * questionsPerPage) :
    (∃ selected, selectPageQuestions rows start stop count = .ok selected ∧
      PageSelection (rows.filter fun row => start ≤ row.number ∧ row.number ≤ stop) count.toNat
        selected) ∧
    ∀ rows start stop count,
      Device.selectPageQuestions rows start stop count = selectCounted rows start stop count :=
  ⟨(pageBank_of_validated hranges hvalid hbank).selectPageQuestions hsome hcount hstock,
    device_selectPageQuestions⟩

def statement (prompt : String) : Question :=
  ⟨prompt.toList, "it is".toList, .trueFalse true⟩

def twoPageRows : List Row :=
  [⟨1, [statement "one"]⟩, ⟨2, [statement "two", statement "three"]⟩]

def twoPagesRequired : Requirements := ⟨⟨.easy, 1, 1⟩, 1, [⟨1, 1, 2, none⟩], .pages⟩

theorem two_pages_selected :
    ∃ selected, selectPageQuestions twoPageRows 1 2 30 = .ok selected ∧
      PageSelection (twoPageRows.filter fun row => 1 ≤ row.number ∧ row.number ≤ 2)
        (30 : Int).toNat selected := by
  have hgiven : (validateActiveStudyQuestions (List.map Char.toLower) twoPagesRequired
      (QuestionDocument.toJson ⟨.pages twoPageRows, [statement "four"]⟩)).toOption.any
        (fun validation => decide (validation.payload.bank = .pages twoPageRows)) = true := by
    decide +kernel
  simp only [Option.any_eq_true, Outcome.toOption_eq_some, decide_eq_true_eq] at hgiven
  obtain ⟨validation, hvalid, hbank⟩ := hgiven
  have hranges : Partitions twoPagesRequired.pageRanges 1 2 :=
    ⟨by decide, rfl, rfl, by decide, rfl⟩
  exact (page_questions_selected _ _ _ validation twoPageRows 1 2 hranges hvalid hbank 1 2 30
    (by decide) (by decide) (by decide)).1

end LockIn.OfflineStudy
