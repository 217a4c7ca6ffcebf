import LockIn.Content.Acceptance

/-!
# How an import ends

An import answers with the document that is stored, or with what is wrong with the document it
was given.  There is a third end: the type of a question and its answer are looked up in a set,
and an array or an object cannot be.  The import ends so exactly for the documents that have such
a question where the validator comes to it.
-/

namespace LockIn.Content

open Json (Fields getD unknownKeys missingKeys unknownKeys_eq_nil)
open Study (Difficulty PageRange)
open Whitespace (Text strip singleSpaced_ne_nil)

variable {casefold : Text → Text}

def isTrueFalse (type : Json) : Bool :=
  match type with
  | .str text => text = "true_false".toList
  | _ => false

/-- A question with a type that cannot be looked up, or with an answer that cannot be, unless it is
a true/false question, whose answer is not looked up. -/
def Unhashable (question : Json) : Prop :=
  match question with
  | .obj fields => (getD fields "type").hashable = false ∨
      (isTrueFalse (getD fields "type") = false ∧ (getD fields "correct_answer").hashable = false)
  | _ => False

def arrayItems (fields : Fields) (name : String) : List Json :=
  match getD fields name with
  | .arr items => items
  | _ => []

def listedQuestions (holder : Json) : List Json :=
  match holder with
  | .obj fields => arrayItems fields "questions"
  | _ => []

def documentQuestions (fields : Fields) (name : String) : List Json :=
  (arrayItems fields name).flatMap listedQuestions ++ listedQuestions (getD fields "final_exam")

/-- A page under a number, with nothing beside its questions. -/
def PlainPage (page : Json) : Prop :=
  match page with
  | .obj fields => (∃ number, getD fields "page" = .int number) ∧
      ∀ entry ∈ fields, entry.1 ∈ ["page", "questions"]
  | _ => False

/-- A document whose pages are the pages of its plan.  Only the questions of such a document are
looked at. -/
structure PagesFit (expected : List Int) (fields : Fields) : Prop where
  known : ∀ entry ∈ fields, entry.1 ∈ ["pages", "final_exam", "difficulty"]
  array : ∃ items, getD fields "pages" = .arr items
  some : expected ≠ []
  plain : ∀ page ∈ arrayItems fields "pages", PlainPage page
  numbers : sortedNumbers ((arrayItems fields "pages").filterMap pageNumber) = expected

/-- A document in which the validator comes to a value that cannot be looked up. -/
def Stops (required : Requirements) (payload : Json) : Prop :=
  match payload with
  | .obj fields =>
    match required.format with
    | .parts => ∃ question ∈ documentQuestions fields "parts", Unhashable question
    | .pages => PagesFit (required.pageRanges.flatMap rangePages) fields ∧
        ∃ question ∈ documentQuestions fields "pages", Unhashable question
  | _ => False

variable {fields : Fields} {α : Type} {page : Json} {expected : List Int} {rule : Rule}
  {document : QuestionDocument} {required : Requirements}

theorem unknownKeys_nil_iff {allowed : List String} :
    unknownKeys fields allowed = [] ↔ ∀ entry ∈ fields, entry.1 ∈ allowed := by
  constructor
  · intro h entry hentry
    by_contra hnew
    have hmem : entry.1 ∈ unknownKeys fields allowed := by
      apply (List.perm_insertionSort _ _).mem_iff.2
      exact List.mem_filter.2 ⟨List.mem_map_of_mem hentry, by simpa using hnew⟩
    rw [h] at hmem
    exact List.not_mem_nil hmem
  · exact unknownKeys_eq_nil

theorem unhashable_mem_conclude {findings : List Finding} {result : α} :
    conclude findings result = .error .typeError ↔ .unhashable ∈ findings := by
  unfold conclude
  by_cases hstop : Finding.unhashable ∈ findings
  · simp [hstop]
  · by_cases hnone : findings = [] <;> simp [hstop, hnone]

theorem unhashable_not_mem_map {keys : List String} {path message : String → String} :
    Finding.unhashable ∉ keys.map fun key => .error (path key) (message key) := by
  simp

theorem unhashable_mem_checkFrom {α : Type} {check : Nat → Json → α × List Finding}
    {Bad : Json → Prop} (h : ∀ place item, .unhashable ∈ (check place item).2 ↔ Bad item)
    (index : Nat) (items : List Json) :
    .unhashable ∈ (checkFrom check index items).2 ↔ ∃ item ∈ items, Bad item := by
  induction items generalizing index with
  | nil => simp [checkFrom]
  | cons item rest ih =>
    show .unhashable ∈ (check index item).2 ++ (checkFrom check (index + 1) rest).2 ↔ _
    rw [List.mem_append, h, ih, List.exists_mem_cons_iff]

theorem unhashable_not_mem_requiredText (value : Json) (path label : String) :
    .unhashable ∉ (requiredText value path label).2 := by
  cases value with
  | str text => by_cases hblank : strip text = [] <;> simp [requiredText, hblank]
  | _ => simp [requiredText]

theorem unhashable_mem_questionType (fields : Fields) (path : String) :
    .unhashable ∈ (questionType fields path).2 ↔ (getD fields "type").hashable = false := by
  unfold questionType getD
  cases htype : fields.lookup "type" with
  | none => simp [Json.hashable]
  | some value =>
    cases value with
    | str text =>
      simp only [Option.getD_some, Json.hashable, Bool.true_eq_false, iff_false]
      split
      · exact List.not_mem_nil
      split <;> simp
    | _ => simp [Json.hashable]

theorem questionType_fst (fields : Fields) (path : String) :
    (questionType fields path).1 =
      if isTrueFalse (getD fields "type") then .trueFalse else .mcq := by
  unfold questionType getD
  cases htype : fields.lookup "type" with
  | none => rfl
  | some value =>
    cases value with
    | str text =>
      have hother : "mcq".toList ≠ "true_false".toList := by decide
      by_cases hmcq : text = "mcq".toList
      · simp only [Option.getD_some, isTrueFalse, hmcq, hother, decide_false, Bool.false_eq_true,
          if_true, if_false]
      · by_cases hboth : text = "true_false".toList
        · simp only [Option.getD_some, isTrueFalse, hboth, hother.symm, decide_true, if_true,
            if_false]
        · simp only [Option.getD_some, isTrueFalse, hmcq, hboth, decide_false, Bool.false_eq_true,
            if_false]
    | _ => rfl

theorem unhashable_not_mem_questionOptions (fields : Fields) (path : String) :
    .unhashable ∉ (questionOptions casefold fields path).2 := by
  unfold questionOptions
  have habsent : Finding.unhashable ∉ (if "options" ∈ fields.map (·.1) then ([] : List Finding)
      else [.error (path ++ ".options") "This field is required."]) := by
    split <;> simp
  cases hraw : getD fields "options" with
  | obj raw =>
    simp only [List.mem_append, not_or]
    refine ⟨⟨⟨⟨habsent, unhashable_not_mem_map⟩, unhashable_not_mem_map⟩, ?_⟩, ?_⟩
    · intro hmem
      obtain ⟨letter, _, hletter⟩ := List.mem_flatMap.1 hmem
      exact unhashable_not_mem_requiredText _ _ _ hletter
    · split <;> simp
  | _ => simp [habsent]

theorem unhashable_mem_correctLetter (fields : Fields) (path : String) :
    .unhashable ∈ (correctLetter fields path).2 ↔
      (getD fields "correct_answer").hashable = false := by
  unfold correctLetter
  cases getD fields "correct_answer" with
  | str text => cases hletter : letterOf text <;> simp [hletter, Json.hashable]
  | _ => simp [Json.hashable]

theorem unhashable_not_mem_correctBool (fields : Fields) (path : String) :
    .unhashable ∉ (correctBool fields path).2 := by
  unfold correctBool
  split <;> simp

theorem unhashable_mem_question (path : String) (question : Json) :
    .unhashable ∈ (validateQuestionObject casefold question path).2 ↔ Unhashable question := by
  cases question with
  | obj fields =>
    have htype := unhashable_mem_questionType fields path
    have hprompt := unhashable_not_mem_requiredText (getD fields "question") (path ++ ".question")
      "Question"
    have hexplanation := unhashable_not_mem_requiredText (getD fields "explanation")
      (path ++ ".explanation") "Explanation"
    simp only [validateQuestionObject, Unhashable]
    by_cases hboth : isTrueFalse (getD fields "type") = true
    · have hread : (questionType fields path).1 = .trueFalse := by
        rw [questionType_fst, if_pos hboth]
      have hanswer := unhashable_not_mem_correctBool fields path
      simp only [hread, List.mem_append, htype, hprompt, hexplanation, hanswer,
        unhashable_not_mem_map, hboth, Bool.true_eq_false, false_and, or_false]
    · have hread : (questionType fields path).1 = .mcq := by
        rw [questionType_fst, if_neg hboth]
      have hoptions := @unhashable_not_mem_questionOptions casefold fields path
      have hanswer := unhashable_mem_correctLetter fields path
      simp only [hread, List.mem_append, htype, hprompt, hexplanation, hoptions, hanswer,
        unhashable_not_mem_map, Bool.eq_false_iff.2 hboth, or_false, true_and]
  | _ => simp [validateQuestionObject, Unhashable]

theorem unhashable_mem_checkQuestions (path : String) (items : List Json) :
    .unhashable ∈ (checkQuestions casefold path items).2 ↔
      ∃ question ∈ items, Unhashable question :=
  unhashable_mem_checkFrom (fun _ question => unhashable_mem_question _ question) 0 items

theorem unhashable_not_mem_partLength (rule : Rule) (limit : Option Nat) (number : Int)
    (length : Nat) (path : String) :
    .unhashable ∉ partLength rule limit number length path := by
  unfold partLength
  cases limit with
  | none => split <;> simp
  | some limit => split <;> simp

theorem unhashable_mem_checkPart (rule : Rule) (limit : Option Nat) (index : Nat) (part : Json) :
    .unhashable ∈ (checkPart casefold rule limit index part).2 ↔
      ∃ question ∈ listedQuestions part, Unhashable question := by
  cases part with
  | obj fields =>
    have hnumber (path : String) : .unhashable ∉ (partNumber fields path).2 := by
      unfold partNumber
      cases getD fields "part" <;> simp
    have hquestions (number : Int) (path : String) :
        .unhashable ∈ (partQuestions casefold rule limit number fields path).2 ↔
          ∃ question ∈ arrayItems fields "questions", Unhashable question := by
      unfold partQuestions arrayItems
      cases hitems : getD fields "questions" with
      | arr items =>
        simp only [List.mem_append, unhashable_not_mem_partLength, unhashable_mem_checkQuestions,
          false_or]
      | _ => simp
    simp only [checkPart, listedQuestions, List.mem_append, unhashable_not_mem_map, hnumber,
      hquestions, false_or]
  | _ => simp [checkPart, listedQuestions]

theorem unhashable_mem_checkParts (rule : Rule) (numberOfParts : Nat) (limit : Option Nat)
    (fields : Fields) :
    .unhashable ∈ (checkParts casefold rule numberOfParts limit fields).2 ↔
      ∃ question ∈ (arrayItems fields "parts").flatMap listedQuestions, Unhashable question := by
  unfold checkParts arrayItems
  cases hitems : getD fields "parts" with
  | arr items =>
    have hparts := @unhashable_mem_checkFrom _ _ (fun part =>
      ∃ question ∈ listedQuestions part, Unhashable question)
      (fun place part => @unhashable_mem_checkPart casefold rule limit place part) 0
      items
    have hlength : Finding.unhashable ∉ (if items.length = numberOfParts then ([] : List Finding)
        else [.error "parts" ("Expected " ++ toString numberOfParts ++ " parts for " ++
          difficultyTitle rule.key ++ ", but received " ++ toString items.length ++ ".")]) := by
      split <;> simp
    have hnumbering (numbers : List Int) :
        Finding.unhashable ∉ (if numbers = partNumbers numberOfParts then ([] : List Finding)
          else [.error "parts" ("Part numbers must be consecutive: " ++
            ", ".intercalate ((partNumbers numberOfParts).map toString) ++ ".")]) := by
      split <;> simp
    simp only [List.mem_append, hlength, hnumbering, hparts, List.mem_flatMap, false_or, or_false]
    constructor
    · rintro ⟨part, hpart, question, hquestion, hstop⟩
      exact ⟨question, ⟨part, hpart, hquestion⟩, hstop⟩
    · rintro ⟨question, ⟨part, hpart, hquestion⟩, hstop⟩
      exact ⟨part, hpart, question, hquestion, hstop⟩
  | _ => simp

theorem unhashable_mem_checkFinalExam (rule : Rule) (fields : Fields) :
    .unhashable ∈ (checkFinalExam casefold rule fields).2 ↔
      ∃ question ∈ listedQuestions (getD fields "final_exam"), Unhashable question := by
  unfold checkFinalExam listedQuestions
  cases hexam : getD fields "final_exam" with
  | obj exam =>
    simp only [arrayItems]
    cases hitems : getD exam "questions" with
    | arr items =>
      have hlength : Finding.unhashable ∉
          (if (items.length : Int) = rule.finalExamQuestions then ([] : List Finding)
          else [.error "final_exam.questions" ("Final Exam contains " ++ toString items.length ++
            " questions. Expected " ++ toString rule.finalExamQuestions ++ ".")]) := by
        split <;> simp
      simp only [List.mem_append, unhashable_not_mem_map, hlength, unhashable_mem_checkQuestions,
        false_or]
    | _ => simp
  | _ => simp

theorem unhashable_not_mem_repeatedQuestions (seen : List Text) (questions : List Question) :
    .unhashable ∉ repeatedQuestions casefold seen questions := by
  induction questions generalizing seen with
  | nil => exact List.not_mem_nil
  | cons question rest ih =>
    simp only [repeatedQuestions, List.mem_append, ih, or_false]
    split <;> simp

theorem validateParts_stops (rule : Rule) (numberOfParts : Nat) (limit : Option Nat)
    (fields : Fields) :
    validateParts casefold rule numberOfParts limit fields = .error .typeError ↔
      ∃ question ∈ documentQuestions fields "parts", Unhashable question := by
  have hsupplied : .unhashable ∉ suppliedDifficulty rule fields := by
    unfold suppliedDifficulty
    cases getD fields "difficulty" with
    | str text => by_cases hsame : text = (difficultyKey rule.key).toList <;> simp [hsame]
    | _ => simp
  rw [validateParts, unhashable_mem_conclude]
  simp only [List.mem_append, @unhashable_not_mem_map _ _ fun _ => "Unsupported root field.",
    hsupplied, unhashable_mem_checkParts, unhashable_mem_checkFinalExam,
    unhashable_not_mem_repeatedQuestions, documentQuestions, false_or, or_false, or_and_right,
    exists_or]

theorem checkFrom_nil_iff {check : Nat → Json → α × List Finding} {Good : Json → Prop}
    (h : ∀ place item, (check place item).2 = [] ↔ Good item) (index : Nat) (items : List Json) :
    (checkFrom check index items).2 = [] ↔ ∀ item ∈ items, Good item := by
  induction items generalizing index with
  | nil => simp [checkFrom]
  | cons item rest ih =>
    show (check index item).2 ++ (checkFrom check (index + 1) rest).2 = [] ↔ _
    rw [List.append_eq_nil_iff, h, ih, List.forall_mem_cons]

theorem pageNumber_isSome : (pageNumber page).isSome = true ↔
    ∃ fields number, page = .obj fields ∧ getD fields "page" = .int number := by
  cases page with
  | obj fields =>
    unfold pageNumber
    cases hnumber : getD fields "page" with
    | int number =>
      constructor
      · intro _
        exact ⟨fields, number, rfl, hnumber⟩
      · intro _
        simp [hnumber]
    | _ =>
      constructor
      · intro h
        simp [hnumber] at h
      · rintro ⟨found, number, hfound, hpage⟩
        cases hfound
        rw [hnumber] at hpage
        cases hpage
  | _ => simp [pageNumber]

theorem pageAsPart_nil (index : Nat) (page : Json) : (pageAsPart index page).2 = [] ↔
    ∃ fields, page = .obj fields ∧ ∀ entry ∈ fields, entry.1 ∈ ["page", "questions"] := by
  cases page with
  | obj fields =>
    simp only [pageAsPart, List.map_eq_nil_iff, unknownKeys_nil_iff, Json.obj.injEq,
      exists_eq_left']
  | _ => simp [pageAsPart]

theorem plainPage_iff : PlainPage page ↔ (pageNumber page).isSome = true ∧
    ∃ fields, page = .obj fields ∧ ∀ entry ∈ fields, entry.1 ∈ ["page", "questions"] := by
  rw [pageNumber_isSome]
  cases page with
  | obj fields => simp [PlainPage]
  | _ => simp [PlainPage]

theorem rawPages_nil :
    (rawPages expected fields).2 = [] ↔
      (∃ items, getD fields "pages" = .arr items) ∧ expected ≠ [] := by
  unfold rawPages
  cases getD fields "pages" with
  | arr items => by_cases hnone : expected = [] <;> simp [hnone]
  | _ => simp

theorem rawPages_eq (harray : ∃ items, getD fields "pages" = .arr items) (hsome : expected ≠ []) :
    (rawPages expected fields).1 = arrayItems fields "pages" := by
  obtain ⟨items, hitems⟩ := harray
  simp only [rawPages, arrayItems, hitems, hsome, if_false]

theorem pagesFit_iff {legend : String} {numbering : Finding} :
    ((unknownKeys fields ["pages", "final_exam", "difficulty"]).map fun key =>
        Finding.error key legend) ++ (rawPages expected fields).2 ++
      (if (rawPages expected fields).1.all (fun item => (pageNumber item).isSome) ∧
          sortedNumbers ((rawPages expected fields).1.filterMap pageNumber) = expected then []
        else [numbering]) ++
      (checkFrom pageAsPart 0 (rawPages expected fields).1).2 = [] ↔ PagesFit expected fields := by
  simp only [List.append_eq_nil_iff, List.map_eq_nil_iff, unknownKeys_nil_iff,
    checkFrom_nil_iff pageAsPart_nil, ite_eq_left_iff, List.cons_ne_nil, imp_false, not_not]
  constructor
  · rintro ⟨⟨⟨hknown, hread⟩, hnumbers⟩, hplain⟩
    obtain ⟨harray, hsome⟩ := rawPages_nil.1 hread
    rw [rawPages_eq harray hsome] at hnumbers hplain
    refine ⟨hknown, harray, hsome, fun page hpage => ?_, hnumbers.2⟩
    exact plainPage_iff.2 ⟨List.all_eq_true.1 hnumbers.1 page hpage, hplain page hpage⟩
  · rintro ⟨hknown, harray, hsome, hplain, hnumbers⟩
    have hread := rawPages_nil.2 ⟨harray, hsome⟩
    rw [rawPages_eq harray hsome]
    refine ⟨⟨⟨hknown, hread⟩, List.all_eq_true.2 fun page hpage => ?_, hnumbers⟩, ?_⟩
    · exact (plainPage_iff.1 (hplain page hpage)).1
    · exact fun page hpage => (plainPage_iff.1 (hplain page hpage)).2

theorem listedQuestions_pageAsPart (index : Nat) (page : Json) :
    listedQuestions (pageAsPart index page).1 = listedQuestions page := by
  cases page <;> rfl

theorem flatMap_pageAsPart (index : Nat) (pages : List Json) :
    (checkFrom pageAsPart index pages).1.flatMap listedQuestions =
      pages.flatMap listedQuestions := by
  induction pages generalizing index with
  | nil => rfl
  | cons page rest ih =>
    show ((pageAsPart index page).1 :: (checkFrom pageAsPart (index + 1) rest).1).flatMap _ = _
    rw [List.flatMap_cons, List.flatMap_cons, listedQuestions_pageAsPart, ih]

theorem documentQuestions_partsFields (pages : List Json) (fields : Fields) :
    documentQuestions (partsFields (checkFrom pageAsPart 0 pages).1 fields) "parts" =
      pages.flatMap listedQuestions ++ listedQuestions (getD fields "final_exam") := by
  show (checkFrom pageAsPart 0 pages).1.flatMap listedQuestions ++ _ = _
  rw [flatMap_pageAsPart]
  rfl

theorem validatePageBank_fits {pageRanges : List PageRange}
    (h : PagesFit (pageRanges.flatMap rangePages) fields) :
    validatePageBank casefold rule pageRanges fields = .error .typeError ↔
      ∃ question ∈ documentQuestions fields "pages", Unhashable question := by
  have hnone : conclude ([] : List Finding) () = .ok () := rfl
  have hquestions := documentQuestions_partsFields (arrayItems fields "pages") fields
  simp only [validatePageBank, pagesFit_iff.2 h, hnone]
  simp only [rawPages_eq h.array h.some]
  rw [documentQuestions, ← hquestions,
    ← @validateParts_stops casefold
      (pageRule rule (checkFrom pageAsPart 0 (arrayItems fields "pages")).1).1
      (pageRanges.flatMap rangePages).length
      (pageRule rule (checkFrom pageAsPart 0 (arrayItems fields "pages")).1).2]
  cases validateParts casefold
      (pageRule rule (checkFrom pageAsPart 0 (arrayItems fields "pages")).1).1
      (pageRanges.flatMap rangePages).length
      (pageRule rule (checkFrom pageAsPart 0 (arrayItems fields "pages")).1).2
      (partsFields (checkFrom pageAsPart 0 (arrayItems fields "pages")).1 fields) with
  | error refusal => cases refusal <;> simp
  | ok checked => simp

theorem validatePageBank_unfit {pageRanges : List PageRange}
    (h : ¬PagesFit (pageRanges.flatMap rangePages) fields) :
    validatePageBank casefold rule pageRanges fields ≠ .error .typeError := by
  have hraw : .unhashable ∉ (rawPages (pageRanges.flatMap rangePages) fields).2 := by
    unfold rawPages
    cases getD fields "pages" with
    | arr items => by_cases hnone : pageRanges.flatMap rangePages = [] <;> simp [hnone]
    | _ => simp
  have hparts (pages : List Json) : .unhashable ∉ (checkFrom pageAsPart 0 pages).2 := by
    rw [@unhashable_mem_checkFrom _ _ fun _ => False]
    · simp
    · intro place page
      cases page <;> simp [pageAsPart]
  intro hstop
  simp only [validatePageBank] at hstop
  split at hstop
  next refusal hrefused =>
    cases hstop
    have hmem := unhashable_mem_conclude.1 hrefused
    simp only [List.mem_append, @unhashable_not_mem_map _ _
      fun _ => "Unsupported root field; this new sheet requires pages.", hraw, hparts,
      false_or, or_false] at hmem
    split at hmem <;> simp at hmem
  next hread => exact h (pagesFit_iff.1 (conclude_eq_ok.1 hread).1)

theorem validatePageBank_stops (rule : Rule) (pageRanges : List PageRange) (fields : Fields) :
    validatePageBank casefold rule pageRanges fields = .error .typeError ↔
      PagesFit (pageRanges.flatMap rangePages) fields ∧
        ∃ question ∈ documentQuestions fields "pages", Unhashable question := by
  constructor
  · intro hstop
    have hfits : PagesFit (pageRanges.flatMap rangePages) fields := by
      by_contra hunfit
      exact validatePageBank_unfit hunfit hstop
    exact ⟨hfits, (validatePageBank_fits hfits).1 hstop⟩
  · rintro ⟨hfits, hquestion⟩
    exact (validatePageBank_fits hfits).2 hquestion

theorem validate_stops (required : Requirements) (payload : Json) :
    validateActiveStudyQuestions casefold required payload = .error .typeError ↔
      Stops required payload := by
  cases payload with
  | obj fields =>
    simp only [validateActiveStudyQuestions, Stops]
    cases required.format with
    | parts =>
      simp only
      rw [← @validateParts_stops casefold required.rule required.numberOfParts none]
      cases validateParts casefold required.rule required.numberOfParts none fields <;>
        simp [Except.map]
    | pages =>
      simp only
      rw [← @validatePageBank_stops casefold required.rule]
      cases validatePageBank casefold required.rule required.pageRanges fields <;>
        simp [Except.map]
  | _ => simp [validateActiveStudyQuestions, Stops]

def Requirements.numbers (required : Requirements) : List Int :=
  match required.format with
  | .parts => partNumbers required.numberOfParts
  | .pages => required.pageRanges.flatMap rangePages

def Bank.format : Bank → QuestionFormat
  | .parts _ => .parts
  | .pages _ => .pages

def QuestionDocument.questions (document : QuestionDocument) : List Question :=
  document.bank.rows.flatMap Row.questions ++ document.finalExam

def offeredAnswers (question : Json) : List Json :=
  match Json.member (some question) "options" with
  | some (.obj options) => options.map fun option => .str option.1.toList
  | _ => [.bool true, .bool false]

def optionTexts (question : Json) : List Json :=
  Json.objectValues (Json.member (some question) "options")

structure Question.Sound (casefold : Text → Text) (question : Question) : Prop where
  clean : question.Clean casefold
  answer : ∃ answer ∈ offeredAnswers question.toJson,
    Json.member (some question.toJson) "correct_answer" = some answer
  options : (optionTexts question.toJson).Nodup

structure QuestionDocument.Sound (casefold : Text → Text) (required : Requirements)
    (document : QuestionDocument) : Prop where
  format : document.bank.format = required.format
  numbers : document.bank.rows.map Row.number = required.numbers
  ascending : required.numbers.Pairwise (· ≤ ·)
  questions : ∀ question ∈ document.questions, question.Sound casefold
  distinct : (document.questions.map fun question => normalized casefold question.prompt).Nodup

theorem Question.Clean.sound {question : Question} (h : question.Clean casefold) :
    question.Sound casefold := by
  refine ⟨h, ?_, ?_⟩
  · obtain ⟨prompt, explanation, answer⟩ := question
    cases answer with
    | trueFalse correct =>
      refine ⟨.bool correct, ?_, rfl⟩
      cases correct
      · exact List.mem_cons_of_mem _ List.mem_cons_self
      · exact List.mem_cons_self
    | mcq typed options correct =>
      refine ⟨.str correct.key.toList, ?_, by cases typed <;> rfl⟩
      have hoffered : offeredAnswers (Question.toJson ⟨prompt, explanation,
          .mcq typed options correct⟩) = letters.map fun letter => .str letter.key.toList := by
        cases typed <;> rfl
      rw [hoffered]
      apply List.mem_map_of_mem
      cases correct <;> simp [letters]
  · obtain ⟨prompt, explanation, answer⟩ := question
    cases answer with
    | trueFalse correct => exact List.nodup_nil
    | mcq typed options correct =>
      have htexts : optionTexts (Question.toJson ⟨prompt, explanation,
          .mcq typed options correct⟩) = (letters.map options.text).map .str := by
        cases typed <;> rfl
      have hclean : options.Clean casefold := h.answer
      rw [htexts]
      exact (List.Nodup.of_map _ hclean.2).map fun _ _ hsame => Json.str.inj hsame

theorem promptKeys_eq (hfold : ∀ text, casefold text = [] → text = []) {questions : List Question}
    (h : ∀ question ∈ questions, question.Clean casefold) :
    promptKeys casefold questions =
      questions.map fun question => normalized casefold question.prompt := by
  apply List.filter_eq_self.2
  intro text htext
  obtain ⟨question, hquestion, rfl⟩ := List.mem_map.1 htext
  have hprompt := (h question hquestion).prompt
  have hvisible : strip question.prompt ≠ [] := by
    rw [hprompt.1]
    exact hprompt.2
  have hkey : normalized casefold question.prompt ≠ [] :=
    fun hnone => singleSpaced_ne_nil hvisible (hfold _ hnone)
  simpa using hkey

theorem SortedRows.numbers {rows : List Row} (h : SortedRows rows) :
    sortedNumbers (rows.map Row.number) = rows.map Row.number :=
  (List.pairwise_map.2 h).insertionSort_eq

theorem forall_mem_questions {Good : Question → Prop}
    (hrows : ∀ row ∈ document.bank.rows, ∀ question ∈ row.questions, Good question)
    (hexam : ∀ question ∈ document.finalExam, Good question) :
    ∀ question ∈ document.questions, Good question := by
  intro question hquestion
  rcases List.mem_append.1 hquestion with hrow | hlast
  · obtain ⟨row, hrow, hmem⟩ := List.mem_flatMap.1 hrow
    exact hrows row hrow question hmem
  · exact hexam question hlast

theorem Accepted.both (h : Accepted casefold required document) :
    document.bank.format = required.format ∧
      sortedNumbers (document.bank.rows.map Row.number) = required.numbers ∧
      (∀ question ∈ document.questions, question.Clean casefold) ∧
      (promptKeys casefold document.questions).Nodup := by
  obtain ⟨bank, finalExam⟩ := document
  cases hformat : required.format with
  | parts =>
    cases bank with
    | parts rows =>
      simp only [Accepted, hformat] at h
      simp only [Requirements.numbers, hformat]
      exact ⟨rfl, h.numbers, forall_mem_questions h.clean h.examClean, h.distinct⟩
    | pages rows => simp [Accepted, hformat] at h
  | pages =>
    cases bank with
    | parts rows => simp [Accepted, hformat] at h
    | pages rows =>
      simp only [Accepted, hformat] at h
      simp only [Requirements.numbers, hformat]
      exact ⟨rfl, h.numbers, forall_mem_questions h.clean h.examClean, h.distinct⟩

theorem Accepted.sound (hfold : ∀ text, casefold text = [] → text = [])
    (h : Accepted casefold required document) (hnormal : document.Normal) :
    document.Sound casefold required := by
  obtain ⟨hformat, hsorted, hclean, hdistinct⟩ := h.both
  have hnumbers : document.bank.rows.map Row.number = required.numbers := by
    rw [← hnormal.sorted.numbers]
    exact hsorted
  constructor
  case format => exact hformat
  case numbers => exact hnumbers
  case ascending =>
    rw [← hnumbers]
    exact List.pairwise_map.2 hnormal.sorted
  case questions => exact fun question hquestion => (hclean question hquestion).sound
  case distinct =>
    rw [← promptKeys_eq hfold hclean]
    exact hdistinct

theorem validate_sound (hfold : ∀ text, casefold text = [] → text = []) {payload : Json}
    {validation : Validation}
    (h : validateActiveStudyQuestions casefold required payload = .ok validation) :
    validateActiveStudyQuestions casefold required validation.payload.toJson = .ok validation ∧
      validation.payload.Sound casefold required := by
  obtain ⟨haccepted, hnormal, hvalidation⟩ := validate_accepted h
  refine ⟨?_, haccepted.sound hfold hnormal⟩
  rw [validate_again hnormal haccepted, ← hvalidation]

/-- An import answers or reports what is wrong, and what it answers with is sound and imported
again as it is, exactly for the documents in which it comes to no value that cannot be looked
up. -/
theorem import_ends (hfold : ∀ text, casefold text = [] → text = []) (required : Requirements)
    (payload : Json) :
    (((∃ validation, validateActiveStudyQuestions casefold required payload = .ok validation) ∨
        ∃ errors, validateActiveStudyQuestions casefold required payload =
          .error (.invalid errors)) ∧
      ∀ validation, validateActiveStudyQuestions casefold required payload = .ok validation →
        validateActiveStudyQuestions casefold required validation.payload.toJson =
            .ok validation ∧
          validation.payload.Sound casefold required) ↔
      ¬Stops required payload := by
  rw [← @validate_stops casefold]
  constructor
  · rintro ⟨⟨validation, hvalid⟩ | ⟨errors, hinvalid⟩, _⟩ hstop
    · rw [hvalid] at hstop
      cases hstop
    · rw [hinvalid] at hstop
      cases hstop
  · intro hgoes
    refine ⟨?_, fun validation hvalid => validate_sound hfold hvalid⟩
    cases hresult : validateActiveStudyQuestions casefold required payload with
    | ok validation => exact .inl ⟨validation, rfl⟩
    | error refusal =>
      cases refusal with
      | invalid errors => exact .inr ⟨errors, rfl⟩
      | typeError => exact absurd hresult hgoes

def typedQuestion (type : Json) (prompt : String) : Json :=
  .obj [("type", type), ("question", .str prompt.toList), ("correct_answer", .bool true),
    ("explanation", .str "it is".toList)]

def smallImport (type : Json) : Json :=
  .obj [("parts", .arr [.obj [("part", .int 1),
      ("questions", .arr [typedQuestion type "is the heart a muscle"])]]),
    ("final_exam", .obj [("questions",
      .arr [typedQuestion (.str "true_false".toList) "is bone a tissue"])])]

def smallPlan : Requirements :=
  { rule := ⟨.easy, 1, 1⟩, numberOfParts := 1, pageRanges := [], format := .parts }

theorem small_import_sound :
    ∃ validation, validateActiveStudyQuestions (List.map Char.toLower) smallPlan
        (smallImport (.str "true_false".toList)) = .ok validation ∧
      validation.payload.Sound (List.map Char.toLower) smallPlan := by
  have hgoes : ¬Stops smallPlan (smallImport (.str "true_false".toList)) := by
    rintro ⟨question, hquestion, hstop⟩
    have hmem : question ∈ [typedQuestion (.str "true_false".toList) "is the heart a muscle",
        typedQuestion (.str "true_false".toList) "is bone a tissue"] := hquestion
    simp only [List.mem_cons, List.not_mem_nil, or_false] at hmem
    rcases hmem with rfl | rfl
    · rcases hstop with htype | ⟨hother, _⟩
      · cases htype
      · cases hother
    · rcases hstop with htype | ⟨hother, _⟩
      · cases htype
      · cases hother
  have hfold : ∀ text, List.map Char.toLower text = [] → text = [] :=
    fun _ => List.map_eq_nil_iff.1
  have hends := (import_ends hfold smallPlan _).2 hgoes
  have haccepted : (validateActiveStudyQuestions (List.map Char.toLower) smallPlan
      (smallImport (.str "true_false".toList))).isOk = true := by
    decide +kernel
  obtain ⟨validation, hvalid⟩ := Outcome.isOk_iff.1 haccepted
  exact ⟨validation, hvalid, (hends.2 validation hvalid).2⟩

/-- A type that is an array is looked up all the same. -/
theorem array_type_stops :
    validateActiveStudyQuestions (List.map Char.toLower) smallPlan (smallImport (.arr [])) =
      .error .typeError := by
  refine (validate_stops _ _).2 ⟨typedQuestion (.arr []) "is the heart a muscle", ?_, .inl rfl⟩
  exact List.mem_cons_self

end LockIn.Content
