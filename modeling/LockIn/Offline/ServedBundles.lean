import LockIn.Content.Saving
import LockIn.Offline.Bundle
import LockIn.Offline.BundleCheck

/-!
# Whether a device accepts what is served

A bundle that is served has a part and a page range for every part of its plan, questions in every
part and a final exam.  What the server strips of white space is not what the device does, so the
texts of the questions decide the rest.
-/

namespace LockIn.OfflineStudy

open Content List
open Json (member)
open Outcome (bind_eq_ok mapM_ok_iff mem_of_mapM)
open Study (Difficulty Edition PageRange PageCounts Plan MirroredParts)
open Whitespace (Text trim)

variable {casefold : Text → Text} {sheet : Sheet} {edition : Edition} {difficulty : Difficulty}
  {content : QuestionContent} {plan : Plan}

def Readable (question : Question) : Prop :=
  trim question.prompt ≠ [] ∧ trim question.explanation ≠ []

instance (question : Question) : Decidable (Readable question) :=
  inferInstanceAs (Decidable (_ ∧ _))

theorem hasName_key (options : Options) (letter : Letter) :
    hasName (some options.toJson) letter.key.toList = true := by
  cases letter <;> simp [hasName, Options.toJson, letters, Letter.key]

theorem complete_offlineQuestion (question : Question) :
    complete (offlineQuestion question) = true ↔ Readable question := by
  obtain ⟨prompt, explanation, answer⟩ := question
  have htexts : Readable ⟨prompt, explanation, answer⟩ ↔
      saysSomething (some (.str prompt)) = true ∧ saysSomething (some (.str explanation)) = true := by
    simp [Readable, saysSomething]
  rw [htexts]
  cases answer with
  | trueFalse correct =>
    show (true && saysSomething (some (.str prompt)) && saysSomething (some (.str explanation)) &&
      true) = true ↔ _
    simp
  | mcq typed options correct =>
    have hrest : hasName (some options.toJson) correct.key.toList = true := hasName_key _ _
    cases typed with
    | true =>
      show (true && saysSomething (some (.str prompt)) && saysSomething (some (.str explanation)) &&
        (true && true && hasName (some options.toJson) correct.key.toList)) = true ↔ _
      simp [hrest]
    | false =>
      show (true && saysSomething (some (.str prompt)) && saysSomething (some (.str explanation)) &&
        (true && true && hasName (some options.toJson) correct.key.toList)) = true ↔ _
      simp [hrest]

theorem completeQuestions_offline (questions : List Question) :
    completeQuestions (some (.arr (questions.map offlineQuestion))) = true ↔
      questions ≠ [] ∧ ∀ question ∈ questions, Readable question := by
  show (decide (0 < (questions.map offlineQuestion).length) &&
    (questions.map offlineQuestion).all complete) = true ↔ _
  rw [Bool.and_eq_true, decide_eq_true_iff, length_map, length_pos_iff, all_eq_true]
  simp [complete_offlineQuestion]

theorem selectFrom_ne_nil {pages : List Row} {count : Nat} (hsome : pages ≠ [])
    (hquestions : ∀ page ∈ pages, page.questions ≠ []) (hcount : 1 ≤ count) :
    selectFrom pages count ≠ [] := by
  obtain ⟨page, hpage⟩ := exists_mem_of_ne_nil _ hsome
  have hlength : 1 ≤ page.questions.length := length_pos_iff.2 (hquestions page hpage)
  have hlongest : 1 ≤ (pages.map (·.questions.length)).foldl max 0 := by
    rw [foldl_max]
    have hle : page.questions.length ≤ ((pages.map (·.questions.length)).max?).getD 0 :=
      le_max?_getD_of_mem (mem_map_of_mem hpage)
    omega
  have hfirst : ∃ selected, questionAt 0 page = some selected := by
    rw [questionAt, getElem?_eq_getElem (by omega)]
    exact ⟨_, rfl⟩
  obtain ⟨selected, hselected⟩ := hfirst
  have hmem : selected ∈ (List.range (min questionsPerPage
      ((pages.map (·.questions.length)).foldl max 0))).flatMap fun position =>
        pages.filterMap (questionAt position) := by
    refine mem_flatMap.2 ⟨0, ?_, mem_filterMap.2 ⟨page, hpage, hselected⟩⟩
    rw [mem_range]
    show 0 < min 15 _
    omega
  have hne := ne_nil_of_mem hmem
  show List.take count _ ≠ []
  rw [ne_eq, take_eq_nil_iff]
  rintro (hzero | hnil)
  · omega
  · exact hne hnil

theorem spreadPages_sub {pages : List Row} {count : Nat} (hcount : 1 ≤ count) (hsome : pages ≠ []) :
    spreadPages pages count ≠ [] ∧ ∀ page ∈ spreadPages pages count, page ∈ pages := by
  unfold spreadPages
  split
  · next hfew =>
    constructor
    · obtain ⟨first, rest, hpages⟩ := exists_cons_of_ne_nil hsome
      have hfirst : pages[0 * pages.length / count]? = some first := by
        rw [Nat.zero_mul, Nat.zero_div, hpages]
        rfl
      exact ne_nil_of_mem (mem_filterMap.2 ⟨0, mem_range.2 hcount, hfirst⟩)
    · intro page hpage
      obtain ⟨index, _, hindex⟩ := mem_filterMap.1 hpage
      exact mem_of_getElem? hindex
  · exact ⟨hsome, fun _ hpage => hpage⟩

variable {rows : List Row} {entry : Difficulty × OfflineDifficulty}

theorem selectPageQuestions_ne_nil {start stop count : Int} {selected : List SelectedQuestion}
    (hquestions : ∀ row ∈ rows, row.questions ≠ [])
    (h : selectPageQuestions rows start stop count = .ok selected) : selected ≠ [] := by
  unfold selectPageQuestions at h
  simp only at h
  split at h
  · cases h
  next hguard =>
  cases h
  simp only [not_or, not_lt] at hguard
  obtain ⟨hsome, hcount, _, havailable⟩ := hguard
  have hwanted : 1 ≤ min count.toNat ((rows.filter fun row =>
      start ≤ row.number ∧ row.number ≤ stop).map usable).sum := by
    omega
  obtain ⟨hspread, hsub⟩ := spreadPages_sub hwanted hsome
  refine selectFrom_ne_nil hspread (fun page hpage => ?_) hwanted
  exact hquestions page (mem_of_mem_filter (hsub page hpage))

structure Studied (casefold : Text → Text) (sheet : Sheet) (difficulty : Difficulty)
    (content : QuestionContent) (plan : Plan) : Prop where
  perCheckpoint : 1 ≤ plan.questionsPerCheckpoint
  perExam : 1 ≤ plan.finalExamQuestions
  signed : content.planSignature.length = plan.pageRanges.length
  accepted : Accepted casefold (requirements sheet difficulty plan content.planSignature)
    content.payload.stripped

theorem importedRanges_length {mirrored : Option (Difficulty → MirroredParts)}
    {counts : PageCounts} {perCheckpoint finalExam : Int} {plans : Difficulty → Plan}
    (hpinned : Study.pinnedParts sheet.outline edition = .ok mirrored)
    (hplans : planPayload counts mirrored perCheckpoint finalExam = .ok plans)
    (difficulty : Difficulty) :
    (Study.importedRanges sheet.outline edition difficulty (plans difficulty)).length =
      (plans difficulty).pageRanges.length := by
  cases edition with
  | university => rfl
  | lockin =>
    simp only [Study.pinnedParts] at hpinned
    split at hpinned
    · cases hpinned
    next inputs hinputs =>
    cases hpinned
    unfold Study.lockinPlanInputs at hinputs
    split at hinputs
    · next university huniversity =>
      cases hinputs
      simp only [Study.importedRanges, huniversity]
      have hlength := (planPayload_ok hplans difficulty).2.2 _ rfl
      exact (Int.ofNat_inj.1 hlength).symm
    · cases hinputs

theorem contentFor_ok (h : contentFor casefold sheet difficulty edition = .ok (content, plan)) :
    sheet.content difficulty = some content ∧ Studied casefold sheet difficulty content plan := by
  obtain ⟨plans, hplans, h⟩ := bind_eq_ok.1 h
  split at h
  · cases h
  next stored hstored =>
  obtain ⟨⟨⟩, hrefuse, h⟩ := bind_eq_ok.1 h
  split at h
  · next validation hvalidation =>
    cases h
    obtain ⟨_, _, hplans⟩ := bind_eq_ok.1 hplans
    obtain ⟨mirrored, hpinned, hplans⟩ := bind_eq_ok.1 hplans
    obtain ⟨total, _, hpayload⟩ := editionPlan_ok.1 (Outcome.mapError_eq_ok.1 hplans)
    simp only [Outcome.refuse_cons_ok, bne_eq_false_iff_eq] at hrefuse
    obtain ⟨hper, hexam, _⟩ := planPayload_ok hpayload difficulty
    refine ⟨hstored, hper, hexam, ?_, ?_⟩
    · rw [hrefuse.1]
      exact importedRanges_length hpinned hpayload difficulty
    · rw [hrefuse.1]
      exact (validate_stored.1 hvalidation).1
  · cases h
  · cases h

theorem Studied.finalExam (h : Studied casefold sheet difficulty content plan) :
    content.payload.finalExam ≠ [] := by
  have hlength : ((content.payload.stripped.finalExam.length : Nat) : Int) =
      plan.finalExamQuestions := by
    have haccepted := h.accepted
    unfold Accepted at haccepted
    split at haccepted
    · exact haccepted.examLength
    · exact haccepted.examLength
    · exact haccepted.elim
  have hsame : content.payload.stripped.finalExam.length = content.payload.finalExam.length :=
    length_map _
  have hexam := h.perExam
  apply ne_nil_of_length_pos
  omega

theorem Studied.acceptedParts (h : Studied casefold sheet difficulty content plan)
    (hbank : content.payload.bank = .parts rows) :
    PartsAccepted casefold ⟨difficulty, plan.questionsPerCheckpoint, plan.finalExamQuestions⟩
      plan.pageRanges.length none
      ⟨rows.map Row.stripped, content.payload.stripped.finalExam⟩ := by
  have haccepted := h.accepted
  have hstripped : content.payload.stripped.bank = .parts (rows.map Row.stripped) := by
    show content.payload.bank.mapRows _ = _
    rw [hbank]
    rfl
  unfold Accepted at haccepted
  rw [hstripped] at haccepted
  split at haccepted
  · next found hformat hfound =>
    cases hfound
    exact haccepted
  · next hfound => cases hfound
  · exact haccepted.elim

theorem Studied.acceptedPages (h : Studied casefold sheet difficulty content plan)
    (hbank : content.payload.bank = .pages rows) :
    PagesAccepted casefold ⟨difficulty, plan.questionsPerCheckpoint, plan.finalExamQuestions⟩
      (content.planSignature.flatMap rangePages)
      ⟨rows.map Row.stripped, content.payload.stripped.finalExam⟩ := by
  have haccepted := h.accepted
  have hstripped : content.payload.stripped.bank = .pages (rows.map Row.stripped) := by
    show content.payload.bank.mapRows _ = _
    rw [hbank]
    rfl
  unfold Accepted at haccepted
  rw [hstripped] at haccepted
  split at haccepted
  · next hfound => cases hfound
  · next found hformat hfound =>
    cases hfound
    exact haccepted
  · exact haccepted.elim

theorem Studied.parts (h : Studied casefold sheet difficulty content plan)
    (hbank : content.payload.bank = .parts rows) :
    rows.length = plan.pageRanges.length ∧ ∀ row ∈ rows, row.questions ≠ [] := by
  have haccepted := h.acceptedParts hbank
  constructor
  · have hperm := (sortedNumbers_perm ((rows.map Row.stripped).map Row.number)).length_eq
    rw [haccepted.numbers, partNumbers_length, length_map, length_map] at hperm
    exact hperm.symm
  · intro row hrow
    have hlength : ((row.stripped.questions.length : Nat) : Int) = plan.questionsPerCheckpoint :=
      haccepted.lengths row.stripped (mem_map_of_mem hrow)
    have hsame : row.stripped.questions.length = row.questions.length := length_map _
    have hper := h.perCheckpoint
    apply ne_nil_of_length_pos
    omega

theorem Studied.pages (h : Studied casefold sheet difficulty content plan)
    (hbank : content.payload.bank = .pages rows) : ∀ row ∈ rows, row.questions ≠ [] := by
  have haccepted := h.acceptedPages hbank
  intro row hrow
  have hlength : 1 ≤ row.stripped.questions.length := by
    rcases haccepted.lengths with hlegacy | hpages
    · rw [hlegacy row.stripped (mem_map_of_mem hrow)]
      decide
    · exact (hpages row.stripped (mem_map_of_mem hrow)).1
  have hsame : row.stripped.questions.length = row.questions.length := length_map _
  apply ne_nil_of_length_pos
  omega

/-- The questions that a bank has for the parts of a plan: of a page bank, those that are selected
for the ranges it was imported for. -/
def bankQuestions (content : QuestionContent) (plan : Plan) : List Question :=
  match content.payload.bank with
  | .parts rows => rows.flatMap Row.questions
  | .pages rows => content.planSignature.flatMap fun range =>
      match selectPageQuestions rows range.startPage range.endPage plan.questionsPerCheckpoint with
      | .ok selected => selected.map SelectedQuestion.question
      | .error _ => []

theorem bundleParts_ok {parts : List Row} (h : Studied casefold sheet difficulty content plan)
    (hparts : bundleParts content plan = .ok parts) :
    parts.length = plan.pageRanges.length ∧ (∀ part ∈ parts, part.questions ≠ []) ∧
      parts.flatMap Row.questions = bankQuestions content plan := by
  unfold bundleParts at hparts
  cases hbank : content.payload.bank with
  | parts rows =>
    rw [hbank] at hparts
    cases hparts
    obtain ⟨hlength, hquestions⟩ := h.parts hbank
    have hown : bankQuestions content plan = parts.flatMap Row.questions := by
      unfold bankQuestions
      rw [hbank]
    exact ⟨hlength, hquestions, hown.symm⟩
  | pages rows =>
    rw [hbank] at hparts
    refine ⟨?_, fun part hpart => ?_, ?_⟩
    · have hlengths := congrArg List.length (mapM_ok_iff.1 hparts)
      rw [length_map, length_map] at hlengths
      rw [← hlengths, h.signed]
    · obtain ⟨range, _, hrange⟩ := (mem_of_mapM hparts).1 hpart
      obtain ⟨selected, hselected, hpure⟩ := bind_eq_ok.1 hrange
      cases hpure
      have hne := selectPageQuestions_ne_nil (h.pages hbank) hselected
      simpa using hne
    · have hread : parts.flatMap Row.questions =
          (parts.map fun part => (.ok part : Except String Row)).flatMap fun part =>
            (part.toOption.map Row.questions).getD [] := by
        rw [flatMap_map]
        rfl
      unfold bankQuestions
      rw [hbank, hread, ← mapM_ok_iff.1 hparts, flatMap_map]
      refine flatMap_congr fun range _ => ?_
      cases selectPageQuestions rows range.startPage range.endPage plan.questionsPerCheckpoint <;> rfl

theorem OfflineDifficulty.member_toJson (entry : OfflineDifficulty) :
    member (some entry.toJson) "page_ranges" = some (.arr (entry.pageRanges.map rangeJson)) ∧
      member (some entry.toJson) "parts" = some (.arr (entry.parts.map partJson)) ∧
      member (some entry.toJson) "number_of_parts" = some (.int entry.numberOfParts) ∧
      member (member (some entry.toJson) "final_exam") "questions" =
        some (.arr (entry.finalExam.map offlineQuestion)) := by
  obtain ⟨_, _, _, _, _, pages, _, _, _⟩ := entry
  cases pages with
  | none => exact ⟨rfl, rfl, rfl, rfl⟩
  | some rows => exact ⟨rfl, rfl, rfl, rfl⟩

theorem completeDifficulty_toJson (entry : OfflineDifficulty) :
    completeDifficulty entry.toJson = true ↔
      entry.parts.length = entry.numberOfParts ∧ entry.pageRanges.length = entry.numberOfParts ∧
      (∀ part ∈ entry.parts, part.questions ≠ [] ∧ ∀ question ∈ part.questions, Readable question) ∧
      entry.finalExam ≠ [] ∧ ∀ question ∈ entry.finalExam, Readable question := by
  obtain ⟨hranges, hparts, hnumber, hexam⟩ := entry.member_toJson
  have hpart : ∀ part : Row, completeQuestions (member (some (partJson part)) "questions") = true ↔
      part.questions ≠ [] ∧ ∀ question ∈ part.questions, Readable question :=
    fun part => completeQuestions_offline part.questions
  unfold completeDifficulty
  simp only [hranges, hparts, hnumber, hexam, Json.items?, Json.same, length_map,
    Bool.and_eq_true, decide_eq_true_iff, Nat.cast_inj, all_eq_true, mem_map,
    forall_exists_index, and_imp, forall_apply_eq_imp_iff₂, hpart, completeQuestions_offline]
  tauto

def suppliedQuestions (content : QuestionContent) (plan : Plan) : List Question :=
  bankQuestions content plan ++ content.payload.finalExam

theorem completeDifficulty_offline {parts : List Row}
    (h : Studied casefold sheet difficulty content plan)
    (hparts : bundleParts content plan = .ok parts) :
    completeDifficulty (offlineDifficulty content plan parts).toJson = true ↔
      ∀ question ∈ suppliedQuestions content plan, Readable question := by
  obtain ⟨hlength, hquestions, hsame⟩ := bundleParts_ok h hparts
  rw [completeDifficulty_toJson]
  show parts.length = plan.pageRanges.length ∧ plan.pageRanges.length = plan.pageRanges.length ∧
    (∀ part ∈ parts, part.questions ≠ [] ∧ ∀ question ∈ part.questions, Readable question) ∧
    content.payload.finalExam ≠ [] ∧ (∀ question ∈ content.payload.finalExam, Readable question) ↔ _
  unfold suppliedQuestions
  rw [← hsame]
  constructor
  · rintro ⟨_, _, hall, _, hexam⟩ question hquestion
    rcases mem_append.1 hquestion with hbank | hlast
    · obtain ⟨part, hpart, hmem⟩ := mem_flatMap.1 hbank
      exact (hall part hpart).2 question hmem
    · exact hexam question hlast
  · intro hall
    refine ⟨hlength, rfl, fun part hpart => ⟨hquestions part hpart, fun question hmem => ?_⟩,
      h.finalExam, fun question hlast => hall question (mem_append_right _ hlast)⟩
    exact hall question (mem_append_left _ (mem_flatMap.2 ⟨part, hpart, hmem⟩))

def ReadableBanks (casefold : Text → Text) (sheet : Sheet) (edition : Edition) : Prop :=
  ∀ difficulty content plan, (readinessOf casefold sheet edition difficulty).status = .ready →
    contentFor casefold sheet difficulty edition = .ok (content, plan) →
    ∀ question ∈ suppliedQuestions content plan, Readable question

theorem difficultyEntry_some :
    difficultyEntry casefold sheet edition difficulty = .ok (some entry) ↔
      ∃ content plan parts, contentFor casefold sheet difficulty edition = .ok (content, plan) ∧
        bundleParts content plan = .ok parts ∧
        entry = (difficulty, offlineDifficulty content plan parts) := by
  unfold difficultyEntry
  cases hcontent : contentFor casefold sheet difficulty edition with
  | error reason => cases reason <;> simp
  | ok found =>
    obtain ⟨content, plan⟩ := found
    cases hparts : bundleParts content plan with
    | error message => simp [hparts]
    | ok parts =>
      simp only [hparts, Except.ok.injEq, Option.some.injEq, Prod.mk.injEq]
      constructor
      · rintro rfl
        exact ⟨content, plan, parts, ⟨rfl, rfl⟩, hparts, rfl⟩
      · rintro ⟨_, _, _, ⟨rfl, rfl⟩, hfound, hentry⟩
        rw [hparts] at hfound
        cases hfound
        exact hentry.symm

variable {sheets : List Sheet} {user sheetId : Nat} {bundle : OfflineBundle}

theorem sheetForUser_ok (h : sheetForUser sheets user sheetId = .ok sheet) :
    sheets.find? (·.id = sheetId) = some sheet := by
  unfold sheetForUser at h
  split at h
  · cases h
  next found hfound =>
  split at h
  · cases h
    exact hfound
  · cases h

theorem mem_difficulties {results : List (Option (Difficulty × OfflineDifficulty))}
    (h : ((availability casefold sheet edition).difficulties.filter fun row =>
      row.status = .ready).mapM (fun row => difficultyEntry casefold sheet edition row.difficulty) =
        .ok results) :
    entry ∈ results.filterMap id ↔ ∃ content plan parts,
      (readinessOf casefold sheet edition entry.1).status = .ready ∧
      contentFor casefold sheet entry.1 edition = .ok (content, plan) ∧
      bundleParts content plan = .ok parts ∧ entry.2 = offlineDifficulty content plan parts := by
  have hrows : ∀ difficulty, (∃ row ∈ (availability casefold sheet edition).difficulties.filter
      (fun row => row.status = .ready), row.difficulty = difficulty) ↔
      (readinessOf casefold sheet edition difficulty).status = .ready := by
    intro difficulty
    constructor
    · rintro ⟨row, hrow, rfl⟩
      obtain ⟨hmem, hready⟩ := mem_filter.1 hrow
      obtain ⟨_, _, rfl⟩ := mem_map.1 hmem
      exact of_decide_eq_true hready
    · intro hready
      have hmem : difficulty ∈ difficulties := by cases difficulty <;> simp [difficulties]
      exact ⟨_, mem_filter.2 ⟨mem_map_of_mem hmem, decide_eq_true hready⟩, rfl⟩
  simp only [mem_filterMap, id_eq, exists_eq_right, mem_of_mapM h, difficultyEntry_some]
  constructor
  · rintro ⟨row, hrow, content, plan, parts, hcontent, hparts, rfl⟩
    exact ⟨content, plan, parts, (hrows _).1 ⟨row, hrow, rfl⟩, hcontent, hparts, rfl⟩
  · rintro ⟨content, plan, parts, hready, hcontent, hparts, hentry⟩
    obtain ⟨row, hrow, hdifficulty⟩ := (hrows entry.1).2 hready
    refine ⟨row, hrow, content, plan, parts, ?_, hparts, ?_⟩
    · rw [hdifficulty]
      exact hcontent
    · rw [hdifficulty, ← hentry]

theorem offlineBundle_ok (h : offlineBundle casefold sheets user sheetId edition = .ok bundle) :
    ∃ sheet, sheets.find? (·.id = sheetId) = some sheet ∧ bundle.sheetId = sheetId ∧
      bundle.edition = edition ∧ bundle.rules = passMarks ∧
      ((∀ entry ∈ bundle.difficulties, completeDifficulty entry.2.toJson = true) ↔
        ReadableBanks casefold sheet edition) := by
  obtain ⟨sheet, hsheet, h⟩ := bind_eq_ok.1 h
  obtain ⟨results, hresults, h⟩ := bind_eq_ok.1 h
  cases h
  have hfound := sheetForUser_ok hsheet
  have hid : sheet.id = sheetId := by simpa using find?_some hfound
  refine ⟨sheet, hfound, hid, rfl, rfl, ?_⟩
  constructor
  · intro hcomplete difficulty content plan hready hcontent
    obtain ⟨_, hstudied⟩ := contentFor_ok hcontent
    cases hparts : bundleParts content plan with
    | ok parts =>
      have hmem : (difficulty, offlineDifficulty content plan parts) ∈ results.filterMap id :=
        (mem_difficulties hresults).2 ⟨content, plan, parts, hready, hcontent, hparts, rfl⟩
      exact (completeDifficulty_offline hstudied hparts).1 (hcomplete _ hmem)
    | error message =>
      -- A selection that is refused ends the whole download.
      have hmem : difficulty ∈ difficulties := by cases difficulty <;> simp [difficulties]
      obtain ⟨result, hresult⟩ := Outcome.ok_of_mapM hresults _
        (mem_filter.2 ⟨mem_map_of_mem hmem, decide_eq_true hready⟩)
      unfold difficultyEntry at hresult
      simp only [hcontent, hparts] at hresult
      cases hresult
  · intro hreadable entry hentry
    obtain ⟨content, plan, parts, hready, hcontent, hparts, hsame⟩ :=
      (mem_difficulties hresults).1 hentry
    rw [hsame, completeDifficulty_offline (contentFor_ok hcontent).2 hparts]
    exact hreadable entry.1 content plan hready hcontent

variable {digest : VersionEvidence → Text} {documents : List CatalogDocument}
  {item : ActiveStudyItem}

theorem activeStudyItems_checksum (h : item ∈ activeStudyItems digest sheets documents)
    (hsheet : sheets.find? (·.id = item.sheetId) = some sheet) :
    item.checksum =
      activeStudyVersion digest (sheet.publishedVersion.map Version.id) item.edition sheet := by
  obtain ⟨document, _, hitem⟩ := mem_filterMap.1 h
  unfold activeStudyItem at hitem
  split at hitem
  · cases hitem
  next found hfound =>
  split at hitem
  · next hlisted =>
    cases hitem
    rw [hfound] at hsheet
    cases hsheet
    rw [hlisted.2.1]
  · cases hitem

theorem validActiveStudyBundle_toJson (served : ServedBundle) (item : ActiveStudyItem) :
    validActiveStudyBundle (some served.toJson) (some item.toJson) = true ↔
      served.contentVersion = item.checksum ∧
      idJson served.bundle.sheetId = idJson item.sheetId ∧
      editionKey served.bundle.edition = editionKey item.edition ∧
      served.bundle.difficulties ≠ [] ∧
      ∀ entry ∈ served.bundle.difficulties, completeDifficulty entry.2.toJson = true := by
  show (true && true && decide (served.contentVersion = item.checksum) &&
    decide ((toString served.bundle.sheetId).toList = (toString item.sheetId).toList) &&
    decide ((editionKey served.bundle.edition).toList = (editionKey item.edition).toList) &&
    true && true && decide (((served.bundle.difficulties.map fun entry =>
      (difficultyKey entry.1, entry.2.toJson)).map (·.2)).length ≠ 0) && true &&
    ((served.bundle.difficulties.map fun entry =>
      (difficultyKey entry.1, entry.2.toJson)).map (·.2)).all completeDifficulty) = true ↔ _
  simp only [Bool.true_and, Bool.and_true, Bool.and_eq_true, decide_eq_true_iff, map_map,
    length_map, ne_eq, length_eq_zero_iff, all_map, all_eq_true,
    Function.comp_apply, String.toList_inj, idJson, Json.str.injEq, and_assoc]

theorem validActiveStudyBundle_iff {reader : Reader} {requested : Option String}
    {served : ServedBundle}
    (hserved : offlineActiveStudy casefold digest sheets reader item.sheetId requested = .ok served)
    (hedition : normalizeEdition requested = .ok item.edition)
    (hitem : item ∈ activeStudyItems digest sheets documents) :
    ∃ sheet, sheets.find? (·.id = item.sheetId) = some sheet ∧
      (validActiveStudyBundle (some served.toJson) (some item.toJson) = true ↔
        ReadableBanks casefold sheet item.edition) := by
  obtain ⟨_, _, hserved⟩ := bind_eq_ok.1 hserved
  obtain ⟨edition, hrequested, hserved⟩ := bind_eq_ok.1 hserved
  rw [hedition] at hrequested
  cases hrequested
  obtain ⟨bundle, hbundle, hserved⟩ := bind_eq_ok.1 hserved
  obtain ⟨⟨⟩, hsome, hserved⟩ := bind_eq_ok.1 hserved
  cases hserved
  obtain ⟨sheet, hsheet, hid, hsame, hrules, hcomplete⟩ :=
    offlineBundle_ok (Outcome.mapError_eq_ok.1 hbundle)
  refine ⟨sheet, hsheet, ?_⟩
  rw [← hcomplete]
  have hversion := activeStudyItems_checksum hitem hsheet
  have hdifficulties : bundle.difficulties ≠ [] := by
    simpa using hsome
  rw [validActiveStudyBundle_toJson]
  constructor
  · rintro ⟨_, _, _, _, hall⟩
    exact hall
  · intro hall
    refine ⟨?_, ?_, ?_, hdifficulties, hall⟩
    · rw [hsheet, hversion]
      rfl
    · rw [hid]
    · rw [hsame]

end LockIn.OfflineStudy
