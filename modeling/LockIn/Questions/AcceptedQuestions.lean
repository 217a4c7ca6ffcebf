import LockIn.Questions.Importing

/-!
# What an accepted import holds

A document that passes the check has in each question what is needed to store it: a prompt, two
choices or more that differ, and correct answers that are among them.  A document is neither
accepted nor refused exactly when the type of one of its questions is an array or an object.
-/

namespace LockIn.Questions

open Json (Fields getD)
open Outcome
open Whitespace (Text strip strip_strip)

variable {casefold : Text → Text}

def itemFields : Json → Fields
  | .obj fields => fields
  | _ => []

def documentItems (payload : Json) : List Json :=
  match getD (itemFields payload) "questions" with
  | .arr items => items
  | _ => []

def textOf : Json → Option Text
  | .str text => some text
  | _ => none

def itemText (item : Json) (name : String) : Text :=
  (textOf (getD (itemFields item) name)).getD []

def itemTexts (item : Json) (name : String) : List Text :=
  match getD (itemFields item) name with
  | .arr values => values.filterMap textOf
  | _ => []

def itemType (item : Json) : Option SchemaType :=
  (textOf (getD (itemFields item) "type")).bind schemaTypeOf

def givenChoices (item : Json) : List Text :=
  if itemType item = some .trueFalse then ["True".toList, "False".toList]
  else (itemTexts item "choices").map strip

def givenAnswers (item : Json) : List Text :=
  match itemType item with
  | some .multipleSelect => itemTexts item "correct_answers"
  | some .trueFalse =>
    match getD (itemFields item) "correct_answer" with
    | .bool correct => [if correct then "True".toList else "False".toList]
    | _ => []
  | _ => (textOf (getD (itemFields item) "correct_answer")).toList

def AnswerCount (type : SchemaType) (count : Nat) : Prop :=
  if type = .multipleSelect then 2 ≤ count else count = 1

structure Accepts (casefold : Text → Text) (item : Json) (question : ImportedQuestion) : Prop where
  type : itemType item = some question.schemaType
  stored : question.questionType = storedType question.schemaType
  prompt : question.prompt = strip (itemText item "question")
  asked : question.prompt ≠ []
  explanation : question.explanation = strip (itemText item "explanation")
  topic : question.topic = strip (itemText item "topic")
  page : ∀ page, question.sourcePage = some page ↔
    1 ≤ page ∧ getD (itemFields item) "source_page" = .int page
  choices : question.choices = givenChoices item
  size : 2 ≤ question.choices.length ∧ question.choices.length ≤ 12
  two : question.schemaType = .trueFalse → question.choices.length = 2
  visible : ∀ choice ∈ question.choices, strip choice = choice ∧ choice ≠ []
  distinct : (question.choices.map (normalizeOption casefold)).Nodup
  answers : question.correctAnswers = givenAnswers item
  once : question.correctAnswers.Nodup
  offered : ∀ answer ∈ question.correctAnswers, answer ∈ question.choices
  count : AnswerCount question.schemaType question.correctAnswers.length

variable {index maxLength : Nat} {field : String} {fields : Fields} {item : Json}
  {checked : Checked}

theorem cleanString_nil {value : Json} {required : Bool}
    (h : (cleanString value index field required maxLength).2 = []) :
    (cleanString value index field required maxLength).1 = strip ((textOf value).getD []) ∧
      (required = true → (cleanString value index field required maxLength).1 ≠ []) := by
  cases value with
  | str text =>
    refine ⟨rfl, fun hrequired hblank => ?_⟩
    have hclean : strip text = [] := hblank
    simp [cleanString, hclean, hrequired] at h
  | null =>
    cases required with
    | false => exact ⟨rfl, fun hrequired => absurd hrequired Bool.false_ne_true⟩
    | true => simp [cleanString] at h
  | _ => simp [cleanString] at h

theorem optionalString_nil (h : (optionalString fields index field maxLength).2 = []) :
    (optionalString fields index field maxLength).1 =
      strip ((textOf (getD fields field)).getD []) := by
  have hread := (cleanString_nil h).1
  unfold optionalString
  rw [hread]
  unfold getD
  cases fields.lookup field with
  | none => rfl
  | some value => rfl

theorem readSourcePage_nil (h : (readSourcePage fields index).2 = []) (page : Nat) :
    (readSourcePage fields index).1 = some page ↔
      1 ≤ page ∧ getD fields "source_page" = .int page := by
  unfold readSourcePage at h ⊢
  cases hvalue : getD fields "source_page" with
  | int value =>
    simp only [hvalue] at h ⊢
    by_cases hsmall : value < 1
    · simp [hsmall] at h
    · simp only [hsmall, if_false, Option.some.injEq, Json.int.injEq]
      omega
  | null => simp
  | _ => simp [hvalue] at h

theorem choiceString_nil {entry : Json × Nat} (h : (choiceString index entry).2 = []) :
    ∃ text, entry.1 = .str text ∧ (choiceString index entry).1 = strip text ∧ strip text ≠ [] := by
  obtain ⟨hread, hsome⟩ := cleanString_nil h
  have hkeep := hsome rfl
  obtain ⟨value, place⟩ := entry
  cases value with
  | str text => exact ⟨text, rfl, hread, hkeep⟩
  | _ =>
    refine absurd ?_ hkeep
    exact hread

theorem choices_read {entries : List (Json × Nat)}
    (h : ∀ entry ∈ entries, (choiceString index entry).2 = []) :
    entries.map (fun entry => (choiceString index entry).1) =
      ((entries.map (·.1)).filterMap textOf).map strip := by
  induction entries with
  | nil => rfl
  | cons entry rest ih =>
    obtain ⟨text, hvalue, hread, _⟩ := choiceString_nil (h entry List.mem_cons_self)
    have hrest := ih fun other hother => h other (List.mem_cons_of_mem _ hother)
    simp only [List.map_cons, hvalue, hread, hrest, List.filterMap_cons, textOf]

structure GoodChoices (casefold : Text → Text) (choices : List Text) : Prop where
  size : 2 ≤ choices.length ∧ choices.length ≤ 12
  visible : ∀ choice ∈ choices, strip choice = choice ∧ choice ≠ []
  distinct : (choices.map (normalizeOption casefold)).Nodup

theorem readChoices_nil
    (h : (readChoices casefold (getD (itemFields item) "choices") index).2 = []) :
    (readChoices casefold (getD (itemFields item) "choices") index).1 =
        (itemTexts item "choices").map strip ∧
      GoodChoices casefold
        (readChoices casefold (getD (itemFields item) "choices") index).1 := by
  unfold itemTexts
  unfold readChoices at h ⊢
  cases hvalue : getD (itemFields item) "choices" with
  | arr items =>
    simp only [hvalue] at h ⊢
    by_cases hsize : 2 ≤ items.length ∧ items.length ≤ 12
    · rw [if_pos hsize] at h ⊢
      obtain ⟨hread, hdistinct⟩ := List.append_eq_nil_iff.1 h
      have hclean : ∀ entry ∈ items.zipIdx, (choiceString index entry).2 = [] := by
        intro entry hentry
        exact List.flatMap_eq_nil_iff.1 hread _ (List.mem_map_of_mem hentry)
      refine ⟨?_, ?_, ?_, ?_⟩
      · simp only [List.map_map]
        exact (choices_read hclean).trans (by rw [List.zipIdx_map_fst])
      · simpa using hsize
      · intro choice hchoice
        simp only [List.map_map, List.mem_map, Function.comp] at hchoice
        obtain ⟨entry, hentry, rfl⟩ := hchoice
        obtain ⟨text, _, htext, hsome⟩ := choiceString_nil (hclean entry hentry)
        rw [htext]
        exact ⟨strip_strip text, hsome⟩
      · by_contra hsame
        rw [if_neg hsame] at hdistinct
        cases hdistinct
    · simp [hsize] at h
  | _ => simp [hvalue] at h

structure GoodAnswers (casefold : Text → Text) (type : SchemaType) (item : Json)
    (answers : Answers) : Prop where
  choices : answers.choices = givenChoices item
  good : GoodChoices casefold answers.choices
  two : type = .trueFalse → answers.choices.length = 2
  correct : answers.correct = givenAnswers item
  once : answers.correct.Nodup
  offered : ∀ answer ∈ answers.correct, answer ∈ answers.choices
  count : AnswerCount type answers.correct.length

theorem strings_eq {values : List Json} {texts : List Text} (h : strings? values = some texts) :
    values.filterMap textOf = texts := by
  induction values generalizing texts with
  | nil =>
    obtain rfl : [] = texts := by simpa [strings?] using h
    rfl
  | cons value rest ih =>
    unfold strings? at h
    rw [List.mapM_cons] at h
    obtain ⟨text, hvalue, h⟩ := Option.bind_eq_some_iff.1 h
    obtain ⟨others, hrest, h⟩ := Option.bind_eq_some_iff.1 h
    obtain rfl : text :: others = texts := Option.some.inj h
    cases value with
    | str value =>
      obtain rfl : value = text := Option.some.inj hvalue
      rw [List.filterMap_cons, ih hrest]
      rfl
    | _ => cases hvalue

theorem goodChoices_trueFalse
    (hascii : ∀ text, (∀ char ∈ text, char.toNat < 128) → casefold text = text.map Char.toLower) :
    GoodChoices casefold ["True".toList, "False".toList] := by
  have hspaced : ["True".toList, "False".toList].map Whitespace.singleSpaced =
      ["True".toList, "False".toList] := by decide
  have hlower (text : Text) (h : text ∈ ["True".toList, "False".toList]) :
      casefold text = text.map Char.toLower := by
    have hall : (["True".toList, "False".toList].all fun text =>
        text.all fun char => char.toNat < 128) = true := by decide
    refine hascii text fun char hchar => ?_
    exact of_decide_eq_true (List.all_eq_true.1 (List.all_eq_true.1 hall text h) char hchar)
  refine ⟨by decide, by decide, ?_⟩
  have hfolded : ["True".toList, "False".toList].map (normalizeOption casefold) =
      ["True".toList, "False".toList].map (List.map Char.toLower) := by
    show List.map (casefold ∘ Whitespace.singleSpaced) _ = _
    rw [← List.map_map, hspaced]
    exact List.map_congr_left hlower
  rw [hfolded]
  decide

theorem givenChoices_listed {type : SchemaType} (htype : itemType item = some type)
    (hother : type ≠ .trueFalse) : givenChoices item = (itemTexts item "choices").map strip := by
  rw [givenChoices, htype, if_neg fun hsame => hother (Option.some.inj hsame)]

theorem trueFalseAnswers_nil
    (hascii : ∀ text, (∀ char ∈ text, char.toNat < 128) → casefold text = text.map Char.toLower)
    (htype : itemType item = some .trueFalse)
    (h : (trueFalseAnswers (itemFields item) index).errors = []) :
    GoodAnswers casefold .trueFalse item (trueFalseAnswers (itemFields item) index) := by
  have hgood := goodChoices_trueFalse hascii
  unfold trueFalseAnswers at h ⊢
  cases hvalue : getD (itemFields item) "correct_answer" with
  | bool correct =>
    constructor
    case choices => rw [givenChoices, if_pos htype]
    case good => exact hgood
    case two => exact fun _ => rfl
    case correct => rw [givenAnswers, htype, hvalue]
    case once => exact List.nodup_singleton _
    case offered => cases correct <;> simp
    case count => rfl
  | _ => simp [hvalue] at h

theorem mcqAnswers_nil (htype : itemType item = some .mcq)
    (h : (mcqAnswers casefold (itemFields item) index).errors = []) :
    GoodAnswers casefold .mcq item (mcqAnswers casefold (itemFields item) index) := by
  unfold mcqAnswers at h ⊢
  cases hvalue : getD (itemFields item) "correct_answer" with
  | str answer =>
    simp only [hvalue] at h ⊢
    by_cases hmem : answer ∈ (readChoices casefold (getD (itemFields item) "choices") index).1
    · rw [if_pos hmem] at h ⊢
      obtain ⟨hread, hgood⟩ := readChoices_nil h
      constructor
      case choices => rw [givenChoices_listed htype (by decide), hread]
      case good => exact hgood
      case two => exact fun htwo => by cases htwo
      case correct => simp only [givenAnswers, htype, hvalue, textOf, Option.toList]
      case once => exact List.nodup_singleton _
      case offered => simpa using hmem
      case count => rfl
    · simp [hmem] at h
  | _ => simp [hvalue] at h

theorem multipleSelectAnswers_nil (htype : itemType item = some .multipleSelect)
    (h : (multipleSelectAnswers casefold (itemFields item) index).errors = []) :
    GoodAnswers casefold .multipleSelect item
      (multipleSelectAnswers casefold (itemFields item) index) := by
  unfold multipleSelectAnswers at h ⊢
  cases hvalue : getD (itemFields item) "correct_answers" with
  | arr values =>
    simp only [hvalue] at h ⊢
    cases hstrings : strings? values with
    | none => simp [hstrings] at h
    | some answers =>
      simp only [hstrings] at h ⊢
      by_cases hfew : answers.length < 2
      · simp [hfew] at h
      · rw [if_neg hfew] at h ⊢
        obtain ⟨hrest, hoffered⟩ := List.append_eq_nil_iff.1 h
        obtain ⟨hchoices, honce⟩ := List.append_eq_nil_iff.1 hrest
        obtain ⟨hread, hgood⟩ := readChoices_nil hchoices
        constructor
        case choices => rw [givenChoices_listed htype (by decide), hread]
        case good => exact hgood
        case two => exact fun htwo => by cases htwo
        case correct =>
          simp only [givenAnswers, htype, itemTexts, hvalue]
          exact (strings_eq hstrings).symm
        case once => simpa using honce
        case offered => simpa using hoffered
        case count => exact Nat.le_of_not_lt hfew
  | _ => simp [hvalue] at h

theorem readAnswers_nil
    (hascii : ∀ text, (∀ char ∈ text, char.toNat < 128) → casefold text = text.map Char.toLower)
    {type : SchemaType} (htype : itemType item = some type)
    (h : (readAnswers casefold type (itemFields item) index).errors = []) :
    GoodAnswers casefold type item (readAnswers casefold type (itemFields item) index) := by
  cases type with
  | mcq => exact mcqAnswers_nil htype h
  | trueFalse => exact trueFalseAnswers_nil hascii htype h
  | multipleSelect => exact multipleSelectAnswers_nil htype h

theorem checkFields_nil
    (hascii : ∀ text, (∀ char ∈ text, char.toNat < 128) → casefold text = text.map Char.toLower)
    {type : SchemaType} (htype : itemType item = some type)
    (h : (checkFields casefold type (itemFields item) index).errors = []) :
    ∃ question, (checkFields casefold type (itemFields item) index).questions = [question] ∧
      Accepts casefold item question := by
  simp only [checkFields, List.append_eq_nil_iff] at h
  obtain ⟨⟨⟨⟨⟨⟨_, hprompt⟩, hexplanation⟩, htopic⟩, _⟩, hpage⟩, hanswers⟩ := h
  have hgood := readAnswers_nil hascii htype hanswers
  have hasked := cleanString_nil hprompt
  refine ⟨_, rfl, ?_⟩
  constructor
  case type => exact htype
  case stored => rfl
  case prompt => exact hasked.1
  case asked => exact hasked.2 rfl
  case explanation => exact optionalString_nil hexplanation
  case topic => exact optionalString_nil htopic
  case page => exact readSourcePage_nil hpage
  case choices => exact hgood.choices
  case size => exact hgood.good.size
  case two => exact hgood.two
  case visible => exact hgood.good.visible
  case distinct => exact hgood.good.distinct
  case answers => exact hgood.correct
  case once => exact hgood.once
  case offered => exact hgood.offered
  case count => exact hgood.count

def typeHashable (item : Json) : Bool := (getD (itemFields item) "type").hashable

theorem checkQuestion_ends (index : Nat) (item : Json) :
    if typeHashable item then ∃ checked, checkQuestion casefold index item = .ok checked
    else checkQuestion casefold index item = .error .typeError := by
  unfold checkQuestion typeHashable
  cases item with
  | obj fields =>
    simp only [itemFields]
    cases htype : getD fields "type" with
    | str text =>
      cases hknown : schemaTypeOf text with
      | some type => simp [hknown, Json.hashable]
      | none => simp [hknown, Json.hashable]
    | _ => simp [Json.hashable]
  | _ => exact ⟨_, rfl⟩

theorem checkQuestion_nil
    (hascii : ∀ text, (∀ char ∈ text, char.toNat < 128) → casefold text = text.map Char.toLower)
    (h : checkQuestion casefold index item = .ok checked) (herrors : checked.errors = []) :
    ∃ question, checked.questions = [question] ∧ Accepts casefold item question := by
  unfold checkQuestion at h
  cases item with
  | obj fields =>
    cases htype : getD fields "type" with
    | str text =>
      simp only [htype] at h
      cases hknown : schemaTypeOf text with
      | some type =>
        simp only [hknown] at h
        obtain rfl := Except.ok.inj h
        have hitem : itemType (.obj fields) = some type := by
          simp only [itemType, itemFields, htype, textOf, Option.bind_some, hknown]
        exact checkFields_nil hascii hitem herrors
      | none =>
        simp only [hknown] at h
        obtain rfl := Except.ok.inj h
        cases herrors
    | arr items => simp [htype, Json.hashable] at h
    | obj fields => simp [htype, Json.hashable] at h
    | _ =>
      simp only [htype, Json.hashable, if_true] at h
      obtain rfl := Except.ok.inj h
      cases herrors
  | _ =>
    obtain rfl := Except.ok.inj h
    cases herrors

theorem checkQuestions_ends (index : Nat) (items : List Json) :
    if ∀ item ∈ items, typeHashable item then
      ∃ checked, checkQuestions casefold index items = .ok checked
    else checkQuestions casefold index items = .error .typeError := by
  induction items generalizing index with
  | nil => exact ⟨_, rfl⟩
  | cons item rest ih =>
    have hfirst := @checkQuestion_ends casefold index item
    have hrest := ih (index + 1)
    unfold checkQuestions
    by_cases hitem : typeHashable item = true
    · rw [if_pos hitem] at hfirst
      obtain ⟨checked, hchecked⟩ := hfirst
      rw [hchecked]
      by_cases hothers : ∀ other ∈ rest, typeHashable other = true
      · rw [if_pos hothers] at hrest
        obtain ⟨others, hrest⟩ := hrest
        rw [if_pos (by simpa [hitem] using hothers), ok_bind, hrest]
        exact ⟨_, rfl⟩
      · rw [if_neg hothers] at hrest
        rw [if_neg fun hall => hothers fun other hother =>
          hall other (List.mem_cons_of_mem _ hother), ok_bind, hrest]
        rfl
    · rw [if_neg hitem] at hfirst
      rw [if_neg fun hall => hitem (hall item List.mem_cons_self), hfirst]
      rfl

theorem checkQuestions_nil
    (hascii : ∀ text, (∀ char ∈ text, char.toNat < 128) → casefold text = text.map Char.toLower)
    {items : List Json} (h : checkQuestions casefold index items = .ok checked)
    (herrors : checked.errors = []) : List.Forall₂ (Accepts casefold) items checked.questions := by
  induction items generalizing index checked with
  | nil =>
    obtain rfl := Except.ok.inj h
    exact .nil
  | cons item rest ih =>
    obtain ⟨first, hfirst, h⟩ := bind_eq_ok.1 h
    obtain ⟨others, hothers, h⟩ := bind_eq_ok.1 h
    obtain rfl := Except.ok.inj h
    obtain ⟨hnone, hrest⟩ := List.append_eq_nil_iff.1 herrors
    obtain ⟨question, hquestion, haccepts⟩ := checkQuestion_nil hascii hfirst hnone
    show List.Forall₂ (Accepts casefold) (item :: rest) (first.questions ++ others.questions)
    rw [hquestion]
    exact .cons haccepts (ih hothers hrest)

/-- A document in which the check comes to a type that cannot be looked up.  It looks through the
questions when there are between one and two hundred. -/
def Stops (payload : Json) : Prop :=
  1 ≤ (documentItems payload).length ∧ (documentItems payload).length ≤ maxImportQuestions ∧
    ∃ item ∈ documentItems payload, typeHashable item = false

theorem validate_stops (payload : Json) :
    validateQuestionImport casefold payload = .error .typeError ↔ Stops payload := by
  unfold validateQuestionImport Stops documentItems
  cases payload with
  | obj fields =>
    simp only [itemFields]
    cases hquestions : getD fields "questions" with
    | arr items =>
      simp only
      by_cases hsize : 1 ≤ items.length ∧ items.length ≤ maxImportQuestions
      · have hends := @checkQuestions_ends casefold 0 items
        rw [if_pos hsize]
        by_cases hall : ∀ item ∈ items, typeHashable item = true
        · rw [if_pos hall] at hends
          obtain ⟨checked, hchecked⟩ := hends
          rw [hchecked, ok_bind]
          constructor
          · intro h
            split at h <;> cases h
          · rintro ⟨_, _, item, hitem, hstop⟩
            rw [hall item hitem] at hstop
            cases hstop
        · rw [if_neg hall] at hends
          rw [hends]
          push Not at hall
          obtain ⟨item, hitem, hstop⟩ := hall
          exact ⟨fun _ => ⟨hsize.1, hsize.2, item, hitem, by simpa using hstop⟩, fun _ => rfl⟩
      · rw [if_neg hsize]
        exact ⟨fun h => (by cases h), fun h => absurd ⟨h.1, h.2.1⟩ hsize⟩
    | _ => simp
  | _ => simp [itemFields, getD]

theorem validate_accepted
    (hascii : ∀ text, (∀ char ∈ text, char.toNat < 128) → casefold text = text.map Char.toLower)
    {payload : Json} {result : ImportValidationResult}
    (h : validateQuestionImport casefold payload = .ok result) :
    List.Forall₂ (Accepts casefold) (documentItems payload) result.questions := by
  unfold validateQuestionImport at h
  unfold documentItems
  cases payload with
  | obj fields =>
    simp only [itemFields] at h ⊢
    cases hquestions : getD fields "questions" with
    | arr items =>
      simp only [hquestions] at h
      split at h
      · obtain ⟨checked, hchecked, h⟩ := bind_eq_ok.1 h
        split at h
        · next hnone =>
          obtain rfl := Except.ok.inj h
          exact checkQuestions_nil hascii hchecked (List.append_eq_nil_iff.1 hnone).2
        · cases h
      · cases h
    | _ => simp [hquestions] at h
  | _ => simp at h

end LockIn.Questions
