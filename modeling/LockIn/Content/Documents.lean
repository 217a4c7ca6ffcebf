import LockIn.Content.Questions

/-!
# What an import accepts

A document that is accepted has the parts or pages of its plan, each with as many questions as
it should have, and no text in it is blank.  What is stored of it is accepted again, by the same
plan and by every other one that asks for the same, and stored as it is.
-/

namespace LockIn.Content

open Json (Fields getD unknownKeys missingKeys unknownKeys_eq_nil)
open List
open Study (Difficulty PageRange)
open Whitespace (Text strip strip_strip singleSpaced)

variable {casefold : Text → Text}

def Options.stripped (options : Options) : Options :=
  ⟨strip options.a, strip options.b, strip options.c, strip options.d⟩

def Answer.stripped : Answer → Answer
  | .mcq typed options correct => .mcq typed options.stripped correct
  | .trueFalse correct => .trueFalse correct

def Question.stripped (question : Question) : Question :=
  ⟨strip question.prompt, strip question.explanation, question.answer.stripped⟩

def CleanText (text : Text) : Prop := strip text = text ∧ text ≠ []

def Options.Clean (casefold : Text → Text) (options : Options) : Prop :=
  (∀ letter, CleanText (options.text letter)) ∧
    ((letters.map options.text).map (normalized casefold)).Nodup

def Answer.Clean (casefold : Text → Text) : Answer → Prop
  | .mcq _ options _ => options.Clean casefold
  | .trueFalse _ => True

structure Question.Clean (casefold : Text → Text) (question : Question) : Prop where
  prompt : CleanText question.prompt
  explanation : CleanText question.explanation
  answer : question.answer.Clean casefold

variable {text : Text} {question : Question} {value : Json} {path : String} {options : Options}
  {index numberOfParts : Nat} {items : List Json} {rule : Rule} {limit : Option Nat} {row : Row}
  {checked : CheckedParts} {rows : List Row}

theorem cleanText_strip (h : strip text ≠ []) : CleanText (strip text) :=
  ⟨strip_strip text, h⟩

theorem Options.text_stripped (options : Options) (letter : Letter) :
    options.stripped.text letter = strip (options.text letter) := by
  cases letter <;> rfl

theorem Question.Clean.stripped_eq (h : question.Clean casefold) :
    question.stripped = question := by
  obtain ⟨prompt, explanation, answer⟩ := question
  have hanswer : answer.stripped = answer := by
    cases answer with
    | trueFalse correct => rfl
    | mcq typed options correct =>
      have hclean := (h.answer : options.Clean casefold).1
      have hoptions : options.stripped = options := by
        show Options.mk (strip (options.text .a)) (strip (options.text .b))
          (strip (options.text .c)) (strip (options.text .d)) = options
        rw [(hclean .a).1, (hclean .b).1, (hclean .c).1, (hclean .d).1]
        rfl
      show Answer.mcq typed options.stripped correct = _
      rw [hoptions]
  show Question.mk (strip prompt) (strip explanation) answer.stripped = _
  rw [h.prompt.1, h.explanation.1, hanswer]

theorem requiredText_clean {label : String} (h : (requiredText value path label).2 = []) :
    CleanText (requiredText value path label).1 := by
  cases value with
  | str text =>
    by_cases hblank : strip text = []
    · simp [requiredText, hblank] at h
    · simp only [requiredText, hblank, if_false]
      exact cleanText_strip hblank
  | _ => simp [requiredText] at h

theorem requiredText_str (text : Text) (path label : String) :
    (requiredText (.str text) path label).1 = strip text := by
  by_cases h : strip text = [] <;> simp [requiredText, h]

theorem requiredText_nil (path label : String) (h : strip text ≠ []) :
    (requiredText (.str text) path label).2 = [] := by
  simp [requiredText, h]

theorem letterOf_key (letter : Letter) : letterOf letter.key.toList = some letter := by
  cases letter <;> decide

theorem optionText_toJson (options : Options) (path : String) (letter : Letter) :
    optionText (letters.map fun letter => (letter.key, .str (options.text letter))) path letter =
      requiredText (.str (options.text letter)) (path ++ ".options." ++ letter.key)
        ("Option " ++ letter.key) := by
  cases letter <;> rfl

theorem questionOptions_clean {fields : Fields}
    (h : (questionOptions casefold fields path).2 = []) :
    (questionOptions casefold fields path).1.Clean casefold := by
  unfold questionOptions at h ⊢
  cases hraw : getD fields "options" with
  | obj raw =>
    rw [hraw] at h
    simp only [append_eq_nil_iff] at h
    obtain ⟨⟨_, htexts⟩, hrepeated⟩ := h
    have hclean (letter : Letter) : CleanText (optionText raw path letter).1 := by
      apply requiredText_clean
      refine flatMap_eq_nil_iff.1 htexts letter ?_
      cases letter <;> simp [letters]
    have hletter (letter : Letter) : CleanText
        (Options.text ⟨(optionText raw path .a).1, (optionText raw path .b).1,
          (optionText raw path .c).1, (optionText raw path .d).1⟩ letter) := by
      cases letter with
      | a => exact hclean .a
      | b => exact hclean .b
      | c => exact hclean .c
      | d => exact hclean .d
    refine ⟨hletter, ?_⟩
    split at hrepeated
    · next hnodup =>
      rw [filter_eq_self.2] at hnodup
      · exact hnodup
      · intro text htext
        obtain ⟨letter, _, rfl⟩ := mem_map.1 htext
        simpa using (hletter letter).2
    · cases hrepeated
  | _ => simp [hraw] at h

theorem questionOptions_fst {fields : Fields} (path : String)
    (h : getD fields "options" = options.toJson) :
    (questionOptions casefold fields path).1 = options.stripped := by
  simp only [questionOptions, h, Options.toJson, optionText_toJson, requiredText_str]
  rfl

theorem questionOptions_nil {fields : Fields} (path : String)
    (h : getD fields "options" = options.toJson) (hmem : "options" ∈ fields.map (·.1))
    (hclean : options.stripped.Clean casefold) : (questionOptions casefold fields path).2 = [] := by
  obtain ⟨htexts, hnodup⟩ := hclean
  have hshown (letter : Letter) : strip (options.text letter) ≠ [] := by
    rw [← Options.text_stripped]
    exact (htexts letter).2
  have hfindings (letter : Letter) : (requiredText (.str (options.text letter))
      (path ++ ".options." ++ letter.key) ("Option " ++ letter.key)).2 = [] :=
    requiredText_nil _ _ (hshown letter)
  have hall : (letters.map options.stripped.text).filter (· ≠ []) =
      letters.map options.stripped.text := by
    apply filter_eq_self.2
    intro text htext
    obtain ⟨letter, _, rfl⟩ := mem_map.1 htext
    simpa using (htexts letter).2
  have hkeys (option : Letter → Json) :
      unknownKeys (letters.map fun letter => (letter.key, option letter))
        (letters.map Letter.key) = [] := by
    apply unknownKeys_eq_nil
    intro entry hentry
    obtain ⟨letter, hletter, rfl⟩ := mem_map.1 hentry
    exact mem_map_of_mem hletter
  have hmissing (option : Letter → Json) :
      missingKeys (letters.map fun letter => (letter.key, option letter))
        (letters.map Letter.key) = [] := by
    simp [missingKeys, letters, Letter.key]
  have hnodup' : (((letters.map (Options.text ⟨strip options.a, strip options.b, strip options.c,
      strip options.d⟩)).filter (· ≠ [])).map (normalized casefold)).Nodup := by
    show (((letters.map options.stripped.text).filter (· ≠ [])).map (normalized casefold)).Nodup
    rw [hall]
    exact hnodup
  have hnone : letters.flatMap (fun _ => ([] : List Finding)) = [] := rfl
  simp only [questionOptions, h, Options.toJson, optionText_toJson, requiredText_str, hmem, if_true,
    hkeys, hmissing, hfindings, hnone, map_nil, append_nil]
  exact if_pos hnodup'

theorem validateQuestionObject_clean (h : (validateQuestionObject casefold value path).2 = []) :
    (validateQuestionObject casefold value path).1.Clean casefold := by
  cases value with
  | obj fields =>
    simp only [validateQuestionObject] at h ⊢
    cases htype : (questionType fields path).1 with
    | trueFalse =>
      simp only [htype, append_eq_nil_iff] at h
      exact ⟨requiredText_clean h.1.1.2, requiredText_clean h.1.2, trivial⟩
    | mcq =>
      simp only [htype, append_eq_nil_iff] at h
      exact ⟨requiredText_clean h.1.1.1.2, requiredText_clean h.1.1.2,
        questionOptions_clean h.1.2⟩
  | _ => simp [validateQuestionObject] at h

def Question.fields (question : Question) : Fields :=
  match question.answer with
  | .trueFalse correct =>
    [("type", .str "true_false".toList), ("question", .str question.prompt),
      ("correct_answer", .bool correct), ("explanation", .str question.explanation)]
  | .mcq typed options correct =>
    (if typed then [("type", .str "mcq".toList)] else []) ++
      [("question", .str question.prompt), ("options", options.toJson),
        ("correct_answer", .str correct.key.toList), ("explanation", .str question.explanation)]

theorem Question.toJson_eq (question : Question) : question.toJson = .obj question.fields := by
  unfold Question.toJson Question.fields
  cases question.answer <;> rfl

theorem Question.fields_prompt (question : Question) :
    getD question.fields "question" = .str question.prompt := by
  unfold Question.fields
  rcases question.answer with ⟨_ | _, _, _⟩ | _ <;> rfl

theorem Question.fields_explanation (question : Question) :
    getD question.fields "explanation" = .str question.explanation := by
  unfold Question.fields
  rcases question.answer with ⟨_ | _, _, _⟩ | _ <;> rfl

theorem Question.missingKeys_fields (question : Question) :
    missingKeys question.fields ["correct_answer", "explanation", "question"] = [] := by
  unfold Question.fields
  rcases question.answer with ⟨_ | _, _, _⟩ | _ <;> simp [missingKeys]

theorem questionType_trueFalse (prompt explanation : Text) (correct : Bool) (path : String) :
    questionType (Question.fields ⟨prompt, explanation, .trueFalse correct⟩) path =
      (.trueFalse, []) := by
  rfl

theorem questionType_mcq (prompt explanation : Text) (typed : Bool) (options : Options)
    (correct : Letter) (path : String) :
    questionType (Question.fields ⟨prompt, explanation, .mcq typed options correct⟩) path =
      (.mcq, []) := by
  cases typed <;> rfl

theorem validateQuestionObject_fst (question : Question) (path : String) :
    (validateQuestionObject casefold question.toJson path).1 = question.stripped := by
  rw [Question.toJson_eq]
  simp only [validateQuestionObject, Question.fields_prompt, Question.fields_explanation]
  obtain ⟨prompt, explanation, answer⟩ := question
  cases answer with
  | trueFalse correct =>
    simp only [questionType_trueFalse, requiredText_str]
    rfl
  | mcq typed options correct =>
    have hoptions : getD (Question.fields ⟨prompt, explanation, .mcq typed options correct⟩)
        "options" = options.toJson := by
      cases typed <;> rfl
    have hcorrect : getD (Question.fields ⟨prompt, explanation, .mcq typed options correct⟩)
        "correct_answer" = .str correct.key.toList := by
      cases typed <;> rfl
    have htyped : ((Question.fields ⟨prompt, explanation, .mcq typed options correct⟩).lookup
        "type").isSome = typed := by
      cases typed <;> rfl
    simp only [questionType_mcq, requiredText_str, questionOptions_fst path hoptions, htyped,
      correctLetter, hcorrect, letterOf_key]
    rfl

theorem validateQuestionObject_nil (h : question.stripped.Clean casefold) (path : String) :
    (validateQuestionObject casefold question.toJson path).2 = [] := by
  rw [Question.toJson_eq]
  simp only [validateQuestionObject, Question.fields_prompt, Question.fields_explanation,
    Question.missingKeys_fields, requiredText_nil _ _ h.prompt.2,
    requiredText_nil _ _ h.explanation.2]
  obtain ⟨prompt, explanation, answer⟩ := question
  cases answer with
  | trueFalse correct =>
    have hkeys : unknownKeys (Question.fields ⟨prompt, explanation, .trueFalse correct⟩)
        ["type", "question", "correct_answer", "explanation"] = [] :=
      unknownKeys_eq_nil (by simp [Question.fields])
    simp only [questionType_trueFalse, reduceCtorEq, if_false, append_nil, hkeys,
      map_nil, nil_append]
    rfl
  | mcq typed options correct =>
    have hkeys : unknownKeys (Question.fields ⟨prompt, explanation, .mcq typed options correct⟩)
        (["type", "question", "correct_answer", "explanation"] ++ ["options"]) = [] := by
      apply unknownKeys_eq_nil
      cases typed <;> simp [Question.fields]
    have hoptions : getD (Question.fields ⟨prompt, explanation, .mcq typed options correct⟩)
        "options" = options.toJson := by
      cases typed <;> rfl
    have hmem : "options" ∈
        (Question.fields ⟨prompt, explanation, .mcq typed options correct⟩).map (·.1) := by
      cases typed <;> simp [Question.fields]
    have hcorrect : getD (Question.fields ⟨prompt, explanation, .mcq typed options correct⟩)
        "correct_answer" = .str correct.key.toList := by
      cases typed <;> rfl
    simp only [questionType_mcq, if_true, hkeys, questionOptions_nil path hoptions hmem h.answer,
      correctLetter, hcorrect, letterOf_key, map_nil, append_nil]

section
variable {α β : Type} {check : Nat → Json → α × List Finding}

theorem checkFrom_length (index : Nat) (items : List Json) :
    (checkFrom check index items).1.length = items.length := by
  induction items generalizing index with
  | nil => rfl
  | cons item rest ih =>
    show _ + 1 = _ + 1
    rw [ih]

theorem checkFrom_mem (h : (checkFrom check index items).2 = []) {result : α}
    (hresult : result ∈ (checkFrom check index items).1) :
    ∃ item ∈ items, ∃ place, (check place item).1 = result ∧ (check place item).2 = [] := by
  induction items generalizing index with
  | nil => exact absurd hresult not_mem_nil
  | cons item rest ih =>
    obtain ⟨hhead, hrest⟩ := append_eq_nil_iff.1 h
    rcases mem_cons.1 hresult with rfl | hmem
    · exact ⟨item, mem_cons_self, index, rfl, hhead⟩
    · obtain ⟨other, hother, place, hfound⟩ := ih hrest hmem
      exact ⟨other, mem_cons_of_mem _ hother, place, hfound⟩

variable {values : List β}

theorem checkFrom_map_fst {write : β → Json} {read : β → α}
    (h : ∀ value ∈ values, ∀ place, (check place (write value)).1 = read value) (index : Nat) :
    (checkFrom check index (values.map write)).1 = values.map read := by
  induction values generalizing index with
  | nil => rfl
  | cons value rest ih =>
    show _ :: _ = read value :: _
    rw [h value mem_cons_self,
      ih fun other hother => h other (mem_cons_of_mem _ hother)]

theorem checkFrom_map_nil {write : β → Json}
    (h : ∀ value ∈ values, ∀ place, (check place (write value)).2 = []) (index : Nat) :
    (checkFrom check index (values.map write)).2 = [] := by
  induction values generalizing index with
  | nil => rfl
  | cons value rest ih =>
    show _ ++ _ = []
    rw [h value mem_cons_self,
      ih fun other hother => h other (mem_cons_of_mem _ hother)]
    rfl

end

theorem checkQuestions_clean (h : (checkQuestions casefold path items).2 = []) :
    ∀ question ∈ (checkQuestions casefold path items).1, question.Clean casefold := by
  intro question hquestion
  obtain ⟨item, _, place, rfl, hnil⟩ := checkFrom_mem h hquestion
  exact validateQuestionObject_clean hnil

theorem checkQuestions_length (path : String) (items : List Json) :
    (checkQuestions casefold path items).1.length = items.length :=
  checkFrom_length 0 items

theorem checkQuestions_fst (path : String) (questions : List Question) :
    (checkQuestions casefold path (questions.map Question.toJson)).1 =
      questions.map Question.stripped :=
  checkFrom_map_fst (fun question _ _ => validateQuestionObject_fst question _) 0

theorem checkQuestions_nil {questions : List Question}
    (h : ∀ question ∈ questions, question.stripped.Clean casefold) (path : String) :
    (checkQuestions casefold path (questions.map Question.toJson)).2 = [] :=
  checkFrom_map_nil (fun question hquestion _ => validateQuestionObject_nil (h question hquestion) _)
    0

def promptKeys (casefold : Text → Text) (questions : List Question) : List Text :=
  (questions.map fun question => normalized casefold question.prompt).filter (· ≠ [])

theorem repeatedQuestions_nil {seen : List Text} {questions : List Question} :
    repeatedQuestions casefold seen questions = [] ↔
      (promptKeys casefold questions).Nodup ∧
        ∀ text ∈ promptKeys casefold questions, text ∉ seen := by
  induction questions generalizing seen with
  | nil => simp [repeatedQuestions, promptKeys]
  | cons question rest ih =>
    by_cases hblank : normalized casefold question.prompt = []
    · have hkeys : promptKeys casefold (question :: rest) = promptKeys casefold rest := by
        simp [promptKeys, hblank]
      have hother (text : Text) (htext : text ∈ promptKeys casefold rest) : text ≠ [] := by
        simpa using (mem_filter.1 htext).2
      simp only [repeatedQuestions, hblank, ne_eq, not_true_eq_false, false_and, if_false,
        nil_append, ih, hkeys, mem_cons, not_or]
      constructor
      · rintro ⟨hnodup, hnew⟩
        exact ⟨hnodup, fun text htext => (hnew text htext).2⟩
      · rintro ⟨hnodup, hnew⟩
        exact ⟨hnodup, fun text htext => ⟨hother text htext, hnew text htext⟩⟩
    · have hkeys : promptKeys casefold (question :: rest) =
          normalized casefold question.prompt :: promptKeys casefold rest := by
        simp [promptKeys, hblank]
      simp only [repeatedQuestions, append_eq_nil_iff, ih, hkeys, nodup_cons,
        forall_mem_cons]
      constructor
      · rintro ⟨hhead, hnodup, hnew⟩
        have hunseen : normalized casefold question.prompt ∉ seen := by
          intro hseen
          simp [hblank, hseen] at hhead
        refine ⟨⟨fun hagain => ?_, hnodup⟩, hunseen, fun text htext hseen => ?_⟩
        · exact hnew _ hagain mem_cons_self
        · exact hnew text htext (mem_cons_of_mem _ hseen)
      · rintro ⟨⟨honce, hnodup⟩, hunseen, hnew⟩
        refine ⟨by simp [hunseen], hnodup, fun text htext hseen => ?_⟩
        rcases mem_cons.1 hseen with rfl | hseen
        · exact honce htext
        · exact hnew text htext hseen

theorem promptKeys_perm {first second : List Question} (h : first.Perm second) :
    (promptKeys casefold first).Nodup ↔ (promptKeys casefold second).Nodup :=
  ((h.map _).filter _).nodup_iff

theorem conclude_eq_ok {α : Type} {findings : List Finding} {result accepted : α} :
    conclude findings result = .ok accepted ↔ findings = [] ∧ result = accepted := by
  unfold conclude
  by_cases hnone : findings = []
  · simp [hnone]
  · by_cases hcrash : Finding.unhashable ∈ findings <;> simp [hnone, hcrash]

/-- Whether a part may have so many questions. -/
def LengthAllowed (rule : Rule) (limit : Option Nat) (length : Nat) : Prop :=
  match limit with
  | some limit => 1 ≤ length ∧ length ≤ limit
  | none => (length : Int) = rule.questionsPerCheckpoint

theorem partLength_nil {number : Int} {length : Nat} :
    partLength rule limit number length path = [] ↔ LengthAllowed rule limit length := by
  unfold partLength LengthAllowed
  cases limit with
  | none => simp
  | some limit => simp

structure PartsAccepted (casefold : Text → Text) (rule : Rule) (numberOfParts : Nat)
    (limit : Option Nat) (checked : CheckedParts) : Prop where
  numbers : sortedNumbers (checked.rows.map Row.number) = partNumbers numberOfParts
  lengths : ∀ row ∈ checked.rows, LengthAllowed rule limit row.questions.length
  clean : ∀ row ∈ checked.rows, ∀ question ∈ row.questions, question.Clean casefold
  examLength : (checked.finalExam.length : Int) = rule.finalExamQuestions
  examClean : ∀ question ∈ checked.finalExam, question.Clean casefold
  distinct : (promptKeys casefold
    (checked.rows.flatMap Row.questions ++ checked.finalExam)).Nodup

theorem checkPart_accepted {raw : Json} (h : (checkPart casefold rule limit index raw).2 = [])
    (hrow : (checkPart casefold rule limit index raw).1 = some row) :
    LengthAllowed rule limit row.questions.length ∧
      ∀ question ∈ row.questions, question.Clean casefold := by
  unfold checkPart at h hrow
  cases raw with
  | obj fields =>
    simp only [append_eq_nil_iff] at h
    obtain ⟨_, hquestions⟩ := h
    cases Option.some.inj hrow
    unfold partQuestions at hquestions ⊢
    cases hitems : getD fields "questions" with
    | arr items =>
      simp only [hitems, append_eq_nil_iff] at hquestions ⊢
      rw [checkQuestions_length]
      exact ⟨partLength_nil.1 hquestions.1, checkQuestions_clean hquestions.2⟩
    | _ => simp [hitems] at hquestions
  | _ => simp at h

theorem checkParts_accepted {fields : Fields}
    (h : (checkParts casefold rule numberOfParts limit fields).2 = []) :
    sortedNumbers ((checkParts casefold rule numberOfParts limit fields).1.map Row.number) =
        partNumbers numberOfParts ∧
      ∀ row ∈ (checkParts casefold rule numberOfParts limit fields).1,
        LengthAllowed rule limit row.questions.length ∧
          ∀ question ∈ row.questions, question.Clean casefold := by
  unfold checkParts at h ⊢
  cases hitems : getD fields "parts" with
  | arr items =>
    simp only [hitems, append_eq_nil_iff] at h ⊢
    obtain ⟨⟨_, hchecked⟩, hnumbers⟩ := h
    refine ⟨?_, fun row hrow => ?_⟩
    · split at hnumbers
      · assumption
      · cases hnumbers
    · obtain ⟨found, hfound, hsome⟩ := mem_filterMap.1 hrow
      obtain ⟨item, _, place, hitem, hnil⟩ := checkFrom_mem hchecked hfound
      exact checkPart_accepted hnil (hitem.trans hsome)
  | _ => simp [hitems] at h

theorem checkFinalExam_accepted {fields : Fields}
    (h : (checkFinalExam casefold rule fields).2 = []) :
    ((checkFinalExam casefold rule fields).1.length : Int) = rule.finalExamQuestions ∧
      ∀ question ∈ (checkFinalExam casefold rule fields).1, question.Clean casefold := by
  unfold checkFinalExam at h ⊢
  cases hexam : getD fields "final_exam" with
  | obj exam =>
    simp only [hexam] at h ⊢
    cases hitems : getD exam "questions" with
    | arr items =>
      simp only [hitems, append_eq_nil_iff] at h ⊢
      obtain ⟨⟨_, hlength⟩, hquestions⟩ := h
      rw [checkQuestions_length]
      refine ⟨?_, checkQuestions_clean hquestions⟩
      split at hlength
      · assumption
      · cases hlength
    | _ => simp [hitems] at h
  | _ => simp [hexam] at h

/-- Nothing is found only in a document that is as it should be. -/
theorem validateParts_accepted {fields : Fields}
    (h : validateParts casefold rule numberOfParts limit fields = .ok checked) :
    PartsAccepted casefold rule numberOfParts limit checked := by
  obtain ⟨hnil, rfl⟩ := conclude_eq_ok.1 h
  simp only [append_eq_nil_iff] at hnil
  obtain ⟨⟨⟨_, hparts⟩, hexam⟩, hrepeated⟩ := hnil
  obtain ⟨hnumbers, hrows⟩ := checkParts_accepted hparts
  obtain ⟨hlength, hclean⟩ := checkFinalExam_accepted hexam
  exact ⟨hnumbers, fun row hrow => (hrows row hrow).1, fun row hrow => (hrows row hrow).2, hlength,
    hclean, (repeatedQuestions_nil.1 hrepeated).1⟩

def Row.stripped (row : Row) : Row := ⟨row.number, row.questions.map Question.stripped⟩

def partsDocument (rows : List Row) (finalExam : List Question) : Fields :=
  [("parts", .arr (rows.map (Row.toJson "part"))), ("final_exam", finalExamJson finalExam)]

theorem checkPart_fst (rule : Rule) (limit : Option Nat) (index : Nat) (row : Row) :
    (checkPart casefold rule limit index (row.toJson "part")).1 = some row.stripped := by
  have hquestions : getD [("part", .int row.number), ("questions", questionsJson row.questions)]
      "questions" = .arr (row.questions.map Question.toJson) := rfl
  simp only [Row.toJson, checkPart, partQuestions, hquestions, checkQuestions_fst]
  rfl

theorem checkPart_nil (hlength : LengthAllowed rule limit row.questions.length)
    (hclean : ∀ question ∈ row.questions, question.stripped.Clean casefold) (index : Nat) :
    (checkPart casefold rule limit index (row.toJson "part")).2 = [] := by
  have hquestions : getD [("part", .int row.number), ("questions", questionsJson row.questions)]
      "questions" = .arr (row.questions.map Question.toJson) := rfl
  have hkeys : unknownKeys [("part", .int row.number), ("questions", questionsJson row.questions)]
      ["part", "questions"] = [] :=
    unknownKeys_eq_nil (by simp)
  simp only [Row.toJson, checkPart, partQuestions, hquestions, hkeys, length_map,
    partLength_nil.2 hlength, checkQuestions_nil hclean]
  rfl

theorem checkParts_fst {fields : Fields}
    (h : getD fields "parts" = .arr (rows.map (Row.toJson "part"))) (rule : Rule)
    (numberOfParts : Nat) (limit : Option Nat) :
    (checkParts casefold rule numberOfParts limit fields).1 = rows.map Row.stripped := by
  have hrows : (checkFrom (checkPart casefold rule limit) 0 (rows.map (Row.toJson "part"))).1 =
      rows.map fun row => some row.stripped :=
    checkFrom_map_fst (fun row _ place => checkPart_fst rule limit place row) 0
  simp only [checkParts, h, hrows]
  rw [filterMap_map]
  exact filterMap_eq_map ▸ rfl

theorem partNumbers_length (numberOfParts : Nat) :
    (partNumbers numberOfParts).length = numberOfParts := by
  simp [partNumbers]

theorem sortedNumbers_perm (numbers : List Int) : (sortedNumbers numbers).Perm numbers :=
  perm_insertionSort _ numbers

theorem checkParts_nil {fields : Fields}
    (h : getD fields "parts" = .arr (rows.map (Row.toJson "part")))
    (hnumbers : sortedNumbers (rows.map Row.number) = partNumbers numberOfParts)
    (hlengths : ∀ row ∈ rows, LengthAllowed rule limit row.questions.length)
    (hclean : ∀ row ∈ rows, ∀ question ∈ row.questions, question.stripped.Clean casefold) :
    (checkParts casefold rule numberOfParts limit fields).2 = [] := by
  have hrows : (checkParts casefold rule numberOfParts limit fields).1 = rows.map Row.stripped :=
    checkParts_fst h rule numberOfParts limit
  have hchecked : (checkFrom (checkPart casefold rule limit) 0
      (rows.map (Row.toJson "part"))).2 = [] :=
    checkFrom_map_nil (fun row hrow place =>
      checkPart_nil (hlengths row hrow) (hclean row hrow) place) 0
  have hcount : rows.length = numberOfParts := by
    have hperm := (sortedNumbers_perm (rows.map Row.number)).length_eq
    rw [hnumbers, partNumbers_length, length_map] at hperm
    exact hperm.symm
  have hstripped : (rows.map Row.stripped).map Row.number = rows.map Row.number := by
    rw [map_map]
    rfl
  simp only [checkParts, h] at hrows ⊢
  simp only [hrows, hchecked, hstripped, hnumbers, length_map, hcount, if_true,
    append_nil]

theorem checkFinalExam_fst {fields : Fields} {questions : List Question}
    (h : getD fields "final_exam" = finalExamJson questions) (rule : Rule) :
    (checkFinalExam casefold rule fields).1 = questions.map Question.stripped := by
  have hquestions : getD [("questions", questionsJson questions)] "questions" =
      .arr (questions.map Question.toJson) := rfl
  simp only [checkFinalExam, h, finalExamJson, hquestions, checkQuestions_fst]

theorem checkFinalExam_nil {fields : Fields} {questions : List Question}
    (h : getD fields "final_exam" = finalExamJson questions)
    (hlength : (questions.length : Int) = rule.finalExamQuestions)
    (hclean : ∀ question ∈ questions, question.stripped.Clean casefold) :
    (checkFinalExam casefold rule fields).2 = [] := by
  have hquestions : getD [("questions", questionsJson questions)] "questions" =
      .arr (questions.map Question.toJson) := rfl
  have hkeys : unknownKeys [("questions", questionsJson questions)] ["questions"] = [] :=
    unknownKeys_eq_nil (by simp)
  simp only [checkFinalExam, h, finalExamJson, hquestions, hkeys, length_map, hlength, if_true,
    checkQuestions_nil hclean]
  rfl

def strippedParts (rows : List Row) (finalExam : List Question) : CheckedParts :=
  ⟨rows.map Row.stripped, finalExam.map Question.stripped⟩

theorem validateParts_stored {finalExam : List Question} :
    validateParts casefold rule numberOfParts limit (partsDocument rows finalExam) = .ok checked ↔
      PartsAccepted casefold rule numberOfParts limit (strippedParts rows finalExam) ∧
        checked = strippedParts rows finalExam := by
  have hparts : getD (partsDocument rows finalExam) "parts" =
      .arr (rows.map (Row.toJson "part")) := rfl
  have hexam : getD (partsDocument rows finalExam) "final_exam" = finalExamJson finalExam := rfl
  constructor
  · intro h
    have haccepted := validateParts_accepted h
    obtain ⟨_, hchecked⟩ := conclude_eq_ok.1 h
    rw [checkParts_fst hparts, checkFinalExam_fst hexam] at hchecked
    subst hchecked
    exact ⟨haccepted, rfl⟩
  · rintro ⟨h, rfl⟩
    have hnumbers : sortedNumbers (rows.map Row.number) = partNumbers numberOfParts := by
      have hsorted := h.numbers
      simp only [strippedParts, map_map] at hsorted
      exact hsorted
    have hlengths : ∀ row ∈ rows, LengthAllowed rule limit row.questions.length := by
      intro row hrow
      have hlength := h.lengths row.stripped (mem_map_of_mem hrow)
      simpa [Row.stripped] using hlength
    have hclean : ∀ row ∈ rows, ∀ question ∈ row.questions, question.stripped.Clean casefold :=
      fun row hrow question hquestion =>
        h.clean row.stripped (mem_map_of_mem hrow) _ (mem_map_of_mem hquestion)
    have hexamLength : (finalExam.length : Int) = rule.finalExamQuestions := by
      simpa [strippedParts] using h.examLength
    have hexamClean : ∀ question ∈ finalExam, question.stripped.Clean casefold :=
      fun question hquestion => h.examClean _ (mem_map_of_mem hquestion)
    have hkeys : unknownKeys (partsDocument rows finalExam)
        ["parts", "final_exam", "difficulty"] = [] :=
      unknownKeys_eq_nil (by simp [partsDocument])
    have hunnamed : suppliedDifficulty rule (partsDocument rows finalExam) = [] := rfl
    have hrepeated : repeatedQuestions casefold []
        ((rows.map Row.stripped).flatMap Row.questions ++ finalExam.map Question.stripped) = [] :=
      repeatedQuestions_nil.2 ⟨h.distinct, fun _ _ => not_mem_nil⟩
    refine conclude_eq_ok.2 ⟨?_, ?_⟩
    · rw [checkParts_fst hparts, checkFinalExam_fst hexam,
        checkParts_nil hparts hnumbers hlengths hclean,
        checkFinalExam_nil hexam hexamLength hexamClean, hkeys, hunnamed, hrepeated]
      rfl
    · rw [checkParts_fst hparts, checkFinalExam_fst hexam]
      rfl

end LockIn.Content
