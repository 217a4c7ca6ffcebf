import LockIn.Content.Documents

/-!
# Documents that an import accepts

A bank of pages is checked as a bank of parts, one for each page.  Together the two formats give
what an accepted document has, and that importing what was stored stores it again.
-/

namespace LockIn.Content

open Json (Fields getD unknownKeys unknownKeys_eq_nil)
open List
open Outcome
open Study (Difficulty PageRange)
open Whitespace (Text strip)

variable {casefold : Text → Text}

instance : Std.Total fun first second : Row => first.number ≤ second.number :=
  ⟨fun first second => le_total first.number second.number⟩

instance : IsTrans Row fun first second => first.number ≤ second.number :=
  ⟨fun _ _ _ hfirst hsecond => le_trans hfirst hsecond⟩

def SortedRows (rows : List Row) : Prop :=
  rows.Pairwise fun first second => first.number ≤ second.number

theorem sortRows_perm (rows : List Row) : (sortRows rows).Perm rows :=
  perm_insertionSort _ rows

theorem sortRows_sorted (rows : List Row) : SortedRows (sortRows rows) :=
  pairwise_insertionSort _ rows

theorem sortRows_eq {rows : List Row} (h : SortedRows rows) : sortRows rows = rows :=
  h.insertionSort_eq

theorem sortedNumbers_eq_of_perm {first second : List Int} (h : first.Perm second) :
    sortedNumbers first = sortedNumbers second :=
  List.Perm.eq_of_pairwise' (pairwise_insertionSort _ _) (pairwise_insertionSort _ _)
    (((sortedNumbers_perm first).trans h).trans (sortedNumbers_perm second).symm)

theorem map_number_stripped (rows : List Row) :
    (rows.map Row.stripped).map Row.number = rows.map Row.number := by
  rw [map_map]
  rfl

variable {rule : Rule} {finalExam : List Question} {expected : List Int} {checked : CheckedParts}
  {document : QuestionDocument} {required : Requirements}

theorem PartsAccepted.perm {numberOfParts : Nat} {limit : Option Nat} {rows other : List Row}
    (h : PartsAccepted casefold rule numberOfParts limit ⟨rows, finalExam⟩)
    (hperm : other.Perm rows) :
    PartsAccepted casefold rule numberOfParts limit ⟨other, finalExam⟩ where
  numbers := (sortedNumbers_eq_of_perm (hperm.map _)).trans h.numbers
  lengths row hrow := h.lengths row (hperm.subset hrow)
  clean row hrow := h.clean row (hperm.subset hrow)
  examLength := h.examLength
  examClean := h.examClean
  distinct := (promptKeys_perm ((hperm.flatMap_right _).append_right _)).2 h.distinct

def PageLengths (rows : List Row) : Prop :=
  (∀ row ∈ rows, row.questions.length = legacyQuestionsPerPage) ∨
    ∀ row ∈ rows, 1 ≤ row.questions.length ∧ row.questions.length ≤ questionsPerPage

structure PagesAccepted (casefold : Text → Text) (rule : Rule) (expected : List Int)
    (checked : CheckedParts) : Prop where
  some : expected ≠ []
  numbers : sortedNumbers (checked.rows.map Row.number) = expected
  lengths : PageLengths checked.rows
  clean : ∀ row ∈ checked.rows, ∀ question ∈ row.questions, question.Clean casefold
  examLength : (checked.finalExam.length : Int) = rule.finalExamQuestions
  examClean : ∀ question ∈ checked.finalExam, question.Clean casefold
  distinct : (promptKeys casefold
    (checked.rows.flatMap Row.questions ++ checked.finalExam)).Nodup

theorem PagesAccepted.rows_length (h : PagesAccepted casefold rule expected checked) :
    checked.rows.length = expected.length := by
  rw [← h.numbers, (sortedNumbers_perm _).length_eq, length_map]

theorem PagesAccepted.perm {rows other : List Row}
    (h : PagesAccepted casefold rule expected ⟨rows, finalExam⟩) (hperm : other.Perm rows) :
    PagesAccepted casefold rule expected ⟨other, finalExam⟩ where
  some := h.some
  numbers := (sortedNumbers_eq_of_perm (hperm.map _)).trans h.numbers
  lengths := h.lengths.imp (fun hall row hrow => hall row (hperm.subset hrow))
    fun hall row hrow => hall row (hperm.subset hrow)
  clean row hrow := h.clean row (hperm.subset hrow)
  examLength := h.examLength
  examClean := h.examClean
  distinct := (promptKeys_perm ((hperm.flatMap_right _).append_right _)).2 h.distinct

/-- The rows of `rows` under other numbers. -/
def renumbered (numbers : List Int) (rows : List Row) : List Row :=
  (numbers.zip rows).map fun pair => ⟨pair.1, pair.2.questions⟩

theorem renumbered_number {numbers : List Int} {rows : List Row}
    (h : numbers.length = rows.length) : (renumbered numbers rows).map Row.number = numbers := by
  rw [renumbered, map_map]
  exact map_fst_zip (le_of_eq h)

theorem renumbered_questions {numbers : List Int} {rows : List Row}
    (h : numbers.length = rows.length) :
    (renumbered numbers rows).map Row.questions = rows.map Row.questions := by
  rw [renumbered, map_map]
  show (numbers.zip rows).map (Row.questions ∘ Prod.snd) = _
  rw [← map_map, map_snd_zip (le_of_eq h.symm)]

theorem mem_renumbered {numbers : List Int} {rows : List Row} {row : Row}
    (h : row ∈ renumbered numbers rows) : ∃ found ∈ rows, found.questions = row.questions := by
  obtain ⟨pair, hpair, rfl⟩ := mem_map.1 h
  exact ⟨pair.2, (of_mem_zip hpair).2, rfl⟩

theorem pageRule_final (rule : Rule) (parts : List Json) :
    (pageRule rule parts).1.finalExamQuestions = rule.finalExamQuestions := by
  unfold pageRule
  split <;> rfl

theorem pageLengths_of_allowed {parts : List Json} {rows : List Row}
    (h : ∀ row ∈ rows, LengthAllowed (pageRule rule parts).1 (pageRule rule parts).2
      row.questions.length) : PageLengths rows := by
  unfold pageRule at h
  split at h
  · left
    intro row hrow
    have hlength : ((row.questions.length : Nat) : Int) = (legacyQuestionsPerPage : Nat) :=
      h row hrow
    omega
  · exact .inr h

theorem pagesAccepted_renumbered {numbers : List Int} {parts : List Json} (hsome : expected ≠ [])
    (hnumbers : sortedNumbers numbers = expected)
    (h : PartsAccepted casefold (pageRule rule parts).1 expected.length (pageRule rule parts).2
      checked) :
    PagesAccepted casefold rule expected
      ⟨renumbered numbers (sortRows checked.rows), checked.finalExam⟩ := by
  have hsorted : PartsAccepted casefold _ _ _ ⟨sortRows checked.rows, checked.finalExam⟩ :=
    h.perm (sortRows_perm _)
  have hlength : numbers.length = (sortRows checked.rows).length := by
    have hpages := (sortedNumbers_perm numbers).length_eq
    have hrows := (sortedNumbers_perm (checked.rows.map Row.number)).length_eq
    rw [hnumbers] at hpages
    rw [h.numbers, partNumbers_length, length_map] at hrows
    rw [(sortRows_perm _).length_eq]
    omega
  have hquestions : (renumbered numbers (sortRows checked.rows)).flatMap Row.questions =
      (sortRows checked.rows).flatMap Row.questions := by
    rw [flatMap_def, flatMap_def, renumbered_questions hlength]
  constructor
  case some => exact hsome
  case numbers =>
    show sortedNumbers ((renumbered _ _).map Row.number) = expected
    rw [renumbered_number hlength]
    exact hnumbers
  case lengths =>
    have hallowed : ∀ row ∈ renumbered numbers (sortRows checked.rows),
        LengthAllowed (pageRule rule parts).1 (pageRule rule parts).2 row.questions.length := by
      intro row hrow
      obtain ⟨found, hfound, hsame⟩ := mem_renumbered hrow
      rw [← hsame]
      exact hsorted.lengths found hfound
    exact pageLengths_of_allowed hallowed
  case clean =>
    intro row hrow
    obtain ⟨found, hfound, hsame⟩ := mem_renumbered hrow
    rw [← hsame]
    exact hsorted.clean found hfound
  case examLength =>
    rw [← pageRule_final rule parts]
    exact h.examLength
  case examClean => exact h.examClean
  case distinct =>
    show (promptKeys casefold ((renumbered _ _).flatMap _ ++ _)).Nodup
    rw [hquestions]
    exact hsorted.distinct

theorem validatePageBank_accepted {pageRanges : List PageRange} {fields : Fields}
    (h : validatePageBank casefold rule pageRanges fields = .ok checked) :
    PagesAccepted casefold rule (pageRanges.flatMap rangePages) checked := by
  simp only [validatePageBank] at h
  split at h
  · cases h
  next hconclude =>
  obtain ⟨hnil, _⟩ := conclude_eq_ok.1 hconclude
  simp only [append_eq_nil_iff] at hnil
  obtain ⟨⟨⟨_, hraw⟩, hnumbering⟩, _⟩ := hnil
  split at h
  · cases h
  · cases h
  next accepted hparts =>
  cases h
  have hsome : pageRanges.flatMap rangePages ≠ [] := by
    intro hempty
    simp only [rawPages, hempty, if_true] at hraw
    split at hraw <;> simp at hraw
  have hnumbers : sortedNumbers ((rawPages (pageRanges.flatMap rangePages) fields).1.filterMap
      pageNumber) = pageRanges.flatMap rangePages := by
    split at hnumbering
    · next hfits => exact hfits.2
    · cases hnumbering
  exact pagesAccepted_renumbered hsome hnumbers (validateParts_accepted hparts)

def pagesDocument (rows : List Row) (finalExam : List Question) : Fields :=
  [("pages", .arr (rows.map (Row.toJson "page"))), ("final_exam", finalExamJson finalExam)]

def numberedFrom : Nat → List Row → List Row
  | _, [] => []
  | index, row :: rest => ⟨index + 1, row.questions⟩ :: numberedFrom (index + 1) rest

theorem checkFrom_pageAsPart (index : Nat) (rows : List Row) :
    checkFrom pageAsPart index (rows.map (Row.toJson "page")) =
      ((numberedFrom index rows).map (Row.toJson "part"), []) := by
  induction rows generalizing index with
  | nil => rfl
  | cons row rest ih =>
    have hkeys : unknownKeys [("page", .int row.number), ("questions", questionsJson row.questions)]
        ["page", "questions"] = [] :=
      unknownKeys_eq_nil (by simp)
    show (_ :: _, _ ++ _) = (_ :: _, _)
    rw [ih]
    show (_ :: _, (unknownKeys _ _).map _ ++ []) = _
    rw [hkeys]
    rfl

theorem numberedFrom_map_stripped (index : Nat) (rows : List Row) :
    (numberedFrom index rows).map Row.stripped = numberedFrom index (rows.map Row.stripped) := by
  induction rows generalizing index with
  | nil => rfl
  | cons row rest ih =>
    show _ :: _ = _ :: _
    rw [ih]
    rfl

theorem numberedFrom_questions (index : Nat) (rows : List Row) :
    (numberedFrom index rows).map Row.questions = rows.map Row.questions := by
  induction rows generalizing index with
  | nil => rfl
  | cons row rest ih =>
    show row.questions :: _ = row.questions :: _
    rw [ih]

theorem numberedFrom_length (index : Nat) (rows : List Row) :
    (numberedFrom index rows).length = rows.length := by
  rw [← length_map (f := Row.questions), numberedFrom_questions, length_map]

theorem numberedFrom_number (index : Nat) (rows : List Row) :
    (numberedFrom index rows).map Row.number =
      (List.range' index rows.length).map fun place : Nat => (place : Int) + 1 := by
  induction rows generalizing index with
  | nil => rfl
  | cons row rest ih =>
    show _ :: _ = _ :: _
    rw [ih]

theorem numberedFrom_sorted (index : Nat) (rows : List Row) :
    SortedRows (numberedFrom index rows) := by
  have hnumbers : ((numberedFrom index rows).map Row.number).Pairwise (· ≤ ·) := by
    rw [numberedFrom_number, pairwise_map]
    refine List.Pairwise.imp ?_ (sortedLT_range' index rows.length one_ne_zero).pairwise
    intro first second hlt
    omega
  exact pairwise_map.1 hnumbers

theorem renumbered_numberedFrom (rows : List Row) (index : Nat) :
    renumbered (rows.map Row.number) (numberedFrom index rows) = rows := by
  induction rows generalizing index with
  | nil => rfl
  | cons row rest ih =>
    show row :: renumbered _ _ = row :: rest
    rw [ih]

theorem pageNumber_toJson (row : Row) : pageNumber (row.toJson "page") = some row.number := rfl

theorem filterMap_pageNumber (rows : List Row) :
    (rows.map (Row.toJson "page")).filterMap pageNumber = rows.map Row.number := by
  rw [filterMap_map]
  exact filterMap_eq_map ▸ rfl

theorem rawPages_pagesDocument (h : expected ≠ []) (rows : List Row) (finalExam : List Question) :
    rawPages expected (pagesDocument rows finalExam) = (rows.map (Row.toJson "page"), []) := by
  have hpages : getD (pagesDocument rows finalExam) "pages" =
      .arr (rows.map (Row.toJson "page")) := rfl
  simp only [rawPages, hpages, h, if_false]

theorem lengthAllowed_numbered (rule : Rule) {rows : List Row} (h : PageLengths rows) :
    ∀ row ∈ rows, LengthAllowed (pageRule rule ((numberedFrom 0 rows).map (Row.toJson "part"))).1
      (pageRule rule ((numberedFrom 0 rows).map (Row.toJson "part"))).2 row.questions.length := by
  have hlegacy (row : Row) : isLegacyPart (row.toJson "part") =
      decide (row.questions.length = legacyQuestionsPerPage) := by
    show decide ((row.questions.map Question.toJson).length = _) = _
    rw [length_map]
  have hmem {row : Row} (hrow : row ∈ numberedFrom 0 rows) :
      ∃ found ∈ rows, found.questions = row.questions := by
    have hquestions := mem_map_of_mem (f := Row.questions) hrow
    rw [numberedFrom_questions] at hquestions
    exact mem_map.1 hquestions
  intro row hrow
  unfold pageRule
  split
  · next hall =>
    show (row.questions.length : Int) = legacyQuestionsPerPage
    have hquestions : row.questions ∈ (numberedFrom 0 rows).map Row.questions := by
      rw [numberedFrom_questions]
      exact mem_map_of_mem hrow
    obtain ⟨part, hpart, hsame⟩ := mem_map.1 hquestions
    have hlength := all_eq_true.1 hall.2 _ (mem_map_of_mem hpart)
    rw [hlegacy, decide_eq_true_eq, hsame] at hlength
    rw [hlength]
  · next hsome =>
    rcases h with hall | hall
    · refine absurd ⟨?_, ?_⟩ hsome
      · intro hempty
        have hnone := congrArg List.length hempty
        rw [length_map, numberedFrom_length] at hnone
        have hpositive := length_pos_of_mem hrow
        simp only [length_nil] at hnone
        omega
      · apply all_eq_true.2
        intro part hpart
        obtain ⟨numbered, hnumbered, rfl⟩ := mem_map.1 hpart
        obtain ⟨found, hfound, hsame⟩ := hmem hnumbered
        rw [hlegacy, ← hsame, decide_eq_true_eq]
        exact hall found hfound
    · exact hall row hrow

theorem PagesAccepted.parts {rows : List Row}
    (h : PagesAccepted casefold rule expected (strippedParts rows finalExam)) :
    PartsAccepted casefold (pageRule rule ((numberedFrom 0 rows).map (Row.toJson "part"))).1
      expected.length (pageRule rule ((numberedFrom 0 rows).map (Row.toJson "part"))).2
      (strippedParts (numberedFrom 0 rows) finalExam) := by
  have hlengths : PageLengths rows := by
    refine h.lengths.imp (fun hall row hrow => ?_) fun hall row hrow => ?_
    · simpa [Row.stripped] using hall row.stripped (mem_map_of_mem hrow)
    · simpa [Row.stripped] using hall row.stripped (mem_map_of_mem hrow)
  have hmem {row : Row} (hrow : row ∈ (numberedFrom 0 rows).map Row.stripped) :
      ∃ found ∈ rows, found.stripped.questions = row.questions := by
    have hquestions := mem_map_of_mem (f := Row.questions) hrow
    rw [numberedFrom_map_stripped, numberedFrom_questions, map_map] at hquestions
    exact mem_map.1 hquestions
  constructor
  case numbers =>
    have hcount : expected.length = rows.length := by
      rw [← h.rows_length]
      exact length_map ..
    show sortedNumbers (((numberedFrom 0 rows).map Row.stripped).map Row.number) = _
    rw [map_number_stripped, hcount, partNumbers, range_eq_range', ← numberedFrom_number]
    exact (pairwise_map.2 (numberedFrom_sorted 0 rows)).insertionSort_eq
  case lengths =>
    intro row hrow
    obtain ⟨found, hfound, hsame⟩ := hmem hrow
    have hallowed := lengthAllowed_numbered rule hlengths found hfound
    rw [← hsame]
    simpa [Row.stripped] using hallowed
  case clean =>
    intro row hrow
    obtain ⟨found, hfound, hsame⟩ := hmem hrow
    rw [← hsame]
    exact h.clean found.stripped (mem_map_of_mem hfound)
  case examLength =>
    rw [pageRule_final]
    exact h.examLength
  case examClean => exact h.examClean
  case distinct =>
    have hquestions : ((numberedFrom 0 rows).map Row.stripped).flatMap Row.questions =
        (rows.map Row.stripped).flatMap Row.questions := by
      rw [numberedFrom_map_stripped, flatMap_def, flatMap_def, numberedFrom_questions]
    show (promptKeys casefold (((numberedFrom 0 rows).map Row.stripped).flatMap _ ++ _)).Nodup
    rw [hquestions]
    exact h.distinct

theorem sortRows_numbered (rows : List Row) :
    renumbered (rows.map Row.number) (sortRows ((numberedFrom 0 rows).map Row.stripped)) =
      rows.map Row.stripped := by
  rw [numberedFrom_map_stripped, sortRows_eq (numberedFrom_sorted 0 _), ← map_number_stripped,
    renumbered_numberedFrom]

theorem validatePageBank_stored {pageRanges : List PageRange} {rows : List Row} :
    validatePageBank casefold rule pageRanges (pagesDocument rows finalExam) = .ok checked ↔
      PagesAccepted casefold rule (pageRanges.flatMap rangePages) (strippedParts rows finalExam) ∧
        checked = strippedParts rows finalExam := by
  have hparts : partsFields ((numberedFrom 0 rows).map (Row.toJson "part"))
      (pagesDocument rows finalExam) = partsDocument (numberedFrom 0 rows) finalExam := rfl
  have hkeys : unknownKeys (pagesDocument rows finalExam) ["pages", "final_exam", "difficulty"] =
      [] :=
    unknownKeys_eq_nil (by simp [pagesDocument])
  constructor
  · intro h
    have haccepted := validatePageBank_accepted h
    have hsame : checked = strippedParts rows finalExam := by
      simp only [validatePageBank, rawPages_pagesDocument haccepted.some, checkFrom_pageAsPart,
        filterMap_pageNumber, hparts] at h
      split at h
      · cases h
      split at h
      · cases h
      · cases h
      next accepted hvalid =>
      obtain ⟨_, rfl⟩ := validateParts_stored.1 hvalid
      cases h
      exact congrArg (CheckedParts.mk · _) (sortRows_numbered rows)
    rw [hsame] at haccepted
    exact ⟨haccepted, hsame⟩
  · rintro ⟨h, rfl⟩
    have hvalid := validateParts_stored.2 ⟨h.parts, rfl⟩
    have hnumbers : sortedNumbers (rows.map Row.number) = pageRanges.flatMap rangePages := by
      rw [← map_number_stripped]
      exact h.numbers
    have hpages : (rows.map (Row.toJson "page")).all (fun item => (pageNumber item).isSome) =
        true := by
      simp [pageNumber_toJson]
    simp only [validatePageBank, rawPages_pagesDocument h.some, checkFrom_pageAsPart, hkeys,
      filterMap_pageNumber, hpages, hnumbers, and_self, if_true, hparts, hvalid, conclude,
      map_nil, append_nil, not_mem_nil, if_false]
    exact congrArg (fun rows => Except.ok (CheckedParts.mk rows _)) (sortRows_numbered rows)

def Accepted (casefold : Text → Text) (required : Requirements) (document : QuestionDocument) :
    Prop :=
  match required.format, document.bank with
  | .parts, .parts rows =>
    PartsAccepted casefold required.rule required.numberOfParts none ⟨rows, document.finalExam⟩
  | .pages, .pages rows =>
    PagesAccepted casefold required.rule (required.pageRanges.flatMap rangePages)
      ⟨rows, document.finalExam⟩
  | _, _ => False

def Bank.rows : Bank → List Row
  | .parts rows => rows
  | .pages rows => rows

def Bank.mapRows (change : List Row → List Row) : Bank → Bank
  | .parts rows => .parts (change rows)
  | .pages rows => .pages (change rows)

def QuestionDocument.stripped (document : QuestionDocument) : QuestionDocument :=
  ⟨document.bank.mapRows (·.map Row.stripped), document.finalExam.map Question.stripped⟩

def QuestionDocument.validation (document : QuestionDocument) : Validation :=
  { payload := ⟨document.bank.mapRows sortRows, document.finalExam⟩
    checkpointQuestionCount := (document.bank.rows.map fun row => row.questions.length).sum
    finalExamQuestionCount := document.finalExam.length }

structure QuestionDocument.Normal (document : QuestionDocument) : Prop where
  stripped : document.stripped = document
  sorted : SortedRows document.bank.rows

theorem QuestionDocument.Normal.payload (h : document.Normal) :
    document.validation.payload = document := by
  obtain ⟨bank, finalExam⟩ := document
  cases bank with
  | parts rows => exact congrArg (fun rows => QuestionDocument.mk (.parts rows) _) (sortRows_eq h.sorted)
  | pages rows => exact congrArg (fun rows => QuestionDocument.mk (.pages rows) _) (sortRows_eq h.sorted)

theorem map_stripped_eq {questions : List Question}
    (h : ∀ question ∈ questions, question.Clean casefold) :
    questions.map Question.stripped = questions :=
  (map_congr_left fun question hquestion => (h question hquestion).stripped_eq).trans
    (map_id _)

theorem map_rows_stripped_eq {rows : List Row}
    (h : ∀ row ∈ rows, ∀ question ∈ row.questions, question.Clean casefold) :
    rows.map Row.stripped = rows := by
  have hrow : ∀ row ∈ rows, row.stripped = row := fun row hrow =>
    congrArg (Row.mk row.number) (map_stripped_eq (h row hrow))
  exact (map_congr_left hrow).trans (map_id _)

theorem Accepted.stripped_eq (h : Accepted casefold required document) :
    document.stripped = document := by
  obtain ⟨bank, finalExam⟩ := document
  unfold Accepted at h
  split at h
  · next rows hformat hbank =>
    cases hbank
    show QuestionDocument.mk (.parts (rows.map Row.stripped)) _ = _
    rw [map_rows_stripped_eq h.clean, map_stripped_eq h.examClean]
  · next rows hformat hbank =>
    cases hbank
    show QuestionDocument.mk (.pages (rows.map Row.stripped)) _ = _
    rw [map_rows_stripped_eq h.clean, map_stripped_eq h.examClean]
  · exact h.elim

theorem CheckedParts.validation_eq (checked : CheckedParts) {bank : List Row → Bank}
    (hbank : ∀ rows, (bank rows).rows = rows)
    (hmap : ∀ rows change, (bank rows).mapRows change = bank (change rows)) :
    checked.validation bank = (checked.validation bank).payload.validation := by
  have hcount : ((sortRows checked.rows).map fun row => row.questions.length).sum =
      (checked.rows.map fun row => row.questions.length).sum :=
    ((sortRows_perm checked.rows).map _).sum_eq
  simp only [CheckedParts.validation, QuestionDocument.validation, hbank, hmap, hcount,
    sortRows_eq (sortRows_sorted checked.rows)]

theorem validate_accepted {payload : Json} {validation : Validation}
    (h : validateActiveStudyQuestions casefold required payload = .ok validation) :
    Accepted casefold required validation.payload ∧ validation.payload.Normal ∧
      validation = validation.payload.validation := by
  cases payload with
  | obj fields =>
    cases hformat : required.format with
    | parts =>
      simp only [validateActiveStudyQuestions, hformat] at h
      obtain ⟨checked, hchecked, rfl⟩ := map_eq_ok.1 h
      have haccepted : Accepted casefold required (checked.validation .parts).payload := by
        show Accepted casefold required ⟨.parts (sortRows checked.rows), checked.finalExam⟩
        unfold Accepted
        simp only [hformat]
        exact (validateParts_accepted hchecked).perm (sortRows_perm _)
      exact ⟨haccepted, ⟨haccepted.stripped_eq, sortRows_sorted _⟩,
        checked.validation_eq (fun _ => rfl) fun _ _ => rfl⟩
    | pages =>
      simp only [validateActiveStudyQuestions, hformat] at h
      obtain ⟨checked, hchecked, rfl⟩ := map_eq_ok.1 h
      have haccepted : Accepted casefold required (checked.validation .pages).payload := by
        show Accepted casefold required ⟨.pages (sortRows checked.rows), checked.finalExam⟩
        unfold Accepted
        simp only [hformat]
        exact (validatePageBank_accepted hchecked).perm (sortRows_perm _)
      exact ⟨haccepted, ⟨haccepted.stripped_eq, sortRows_sorted _⟩,
        checked.validation_eq (fun _ => rfl) fun _ _ => rfl⟩
  | _ => cases h

theorem validateParts_pagesDocument (rule : Rule) (numberOfParts : Nat) (limit : Option Nat)
    (rows : List Row) (finalExam : List Question) (checked : CheckedParts) :
    validateParts casefold rule numberOfParts limit (pagesDocument rows finalExam) ≠ .ok checked := by
  intro h
  obtain ⟨hnil, _⟩ := conclude_eq_ok.1 h
  simp only [append_eq_nil_iff, map_eq_nil_iff] at hnil
  have hunknown := hnil.1.1.1.1
  simp [unknownKeys, pagesDocument] at hunknown

theorem validatePageBank_partsDocument (rule : Rule) (pageRanges : List PageRange)
    (rows : List Row) (finalExam : List Question) (checked : CheckedParts) :
    validatePageBank casefold rule pageRanges (partsDocument rows finalExam) ≠ .ok checked := by
  intro h
  simp only [validatePageBank] at h
  split at h
  · cases h
  next hconclude =>
  obtain ⟨hnil, _⟩ := conclude_eq_ok.1 hconclude
  simp only [append_eq_nil_iff, map_eq_nil_iff] at hnil
  have hunknown := hnil.1.1.1
  simp [unknownKeys, partsDocument] at hunknown

theorem validate_stored {validation : Validation} :
    validateActiveStudyQuestions casefold required document.toJson = .ok validation ↔
      Accepted casefold required document.stripped ∧ validation = document.stripped.validation := by
  obtain ⟨bank, finalExam⟩ := document
  cases bank with
  | parts rows =>
    show validateActiveStudyQuestions casefold required (.obj (partsDocument rows finalExam)) = _ ↔ _
    cases hformat : required.format with
    | parts =>
      simp only [validateActiveStudyQuestions, hformat]
      have haccepted : Accepted casefold required
          (QuestionDocument.stripped ⟨.parts rows, finalExam⟩) ↔
          PartsAccepted casefold required.rule required.numberOfParts none
            (strippedParts rows finalExam) := by
        unfold Accepted
        simp only [hformat]
        rfl
      rw [haccepted]
      constructor
      · intro h
        obtain ⟨checked, hchecked, rfl⟩ := map_eq_ok.1 h
        obtain ⟨hparts, rfl⟩ := validateParts_stored.1 hchecked
        exact ⟨hparts, rfl⟩
      · rintro ⟨hparts, rfl⟩
        rw [validateParts_stored.2 ⟨hparts, rfl⟩]
        rfl
    | pages =>
      simp only [validateActiveStudyQuestions, hformat]
      constructor
      · intro h
        obtain ⟨checked, hchecked, _⟩ := map_eq_ok.1 h
        exact absurd hchecked (validatePageBank_partsDocument _ _ _ _ _)
      · rintro ⟨h, _⟩
        simp [Accepted, hformat, QuestionDocument.stripped, Bank.mapRows] at h
  | pages rows =>
    show validateActiveStudyQuestions casefold required (.obj (pagesDocument rows finalExam)) = _ ↔ _
    cases hformat : required.format with
    | parts =>
      simp only [validateActiveStudyQuestions, hformat]
      constructor
      · intro h
        obtain ⟨checked, hchecked, _⟩ := map_eq_ok.1 h
        exact absurd hchecked (validateParts_pagesDocument _ _ _ _ _ _)
      · rintro ⟨h, _⟩
        simp [Accepted, hformat, QuestionDocument.stripped, Bank.mapRows] at h
    | pages =>
      simp only [validateActiveStudyQuestions, hformat]
      have haccepted : Accepted casefold required
          (QuestionDocument.stripped ⟨.pages rows, finalExam⟩) ↔
          PagesAccepted casefold required.rule (required.pageRanges.flatMap rangePages)
            (strippedParts rows finalExam) := by
        unfold Accepted
        simp only [hformat]
        rfl
      rw [haccepted]
      constructor
      · intro h
        obtain ⟨checked, hchecked, rfl⟩ := map_eq_ok.1 h
        obtain ⟨hpages, rfl⟩ := validatePageBank_stored.1 hchecked
        exact ⟨hpages, rfl⟩
      · rintro ⟨hpages, rfl⟩
        rw [validatePageBank_stored.2 ⟨hpages, rfl⟩]
        rfl

theorem validate_again (hnormal : document.Normal) (h : Accepted casefold required document) :
    validateActiveStudyQuestions casefold required document.toJson = .ok document.validation := by
  rw [validate_stored, hnormal.stripped]
  exact ⟨h, rfl⟩

end LockIn.Content
