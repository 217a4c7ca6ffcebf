import LockIn.Content.ImportSafety
import LockIn.Library.Machine
import LockIn.Offline.ServedBundles

/-!
# Downloads of a sheet as it is edited

Settings are saved, banks are imported and the sheet gets new versions.  Whatever was imported, a
device accepts a download of the sheet exactly when the questions in it can be read there.
-/

namespace LockIn.OfflineStudy

open Content List
open Outcome (bind_eq_ok)
open Study (Difficulty Edition PageRange Plan)
open Transaction
open Whitespace (Text trim)

/-- What happens to a sheet.  `changed` is any change outside of the settings and the banks. -/
inductive SheetAction where
  | saveSettings (now : Nat) (request : SettingsRequest) (edition : Edition)
  | importQuestions (now : Nat) (difficulty : Difficulty) (payload : Json)
      (expectedRevision : Nat) (edition : Edition)
  | importAll (now : Nat) (author : Author) (request : SaveRequest)
  | changed (now : Nat) (sheet : Sheet)

def SheetAction.now : SheetAction → Nat
  | .saveSettings now _ _ => now
  | .importQuestions now _ _ _ _ => now
  | .importAll now _ _ => now
  | .changed now _ => now

def execute (python : Python) (action : SheetAction) (sheet : Sheet) : Except ContentError Sheet :=
  match action with
  | .saveSettings now request edition => after (updateActiveStudySettings now request edition) sheet
  | .importQuestions now difficulty payload expectedRevision edition =>
    after (saveActiveStudyQuestionContent python.casefold now difficulty payload expectedRevision
      edition) sheet
  | .importAll now author request => after (saveAllQuestions python now author request) sheet
  | .changed _ other =>
    .ok { other with id := sheet.id, settings := sheet.settings, content := sheet.content }

def sheetMachine (python : Python) (start : Sheet) : Machine Sheet SheetAction ContentError where
  init := { start with content := fun _ => none }
  exec := execute python
  time := SheetAction.now

def documentQuestions (document : QuestionDocument) : List Question :=
  document.bank.rows.flatMap Row.questions ++ document.finalExam

def ReadableDocument (document : QuestionDocument) : Prop :=
  ∀ question ∈ documentQuestions document, Readable question

instance (document : QuestionDocument) : Decidable (ReadableDocument document) :=
  inferInstanceAs (Decidable (∀ question ∈ documentQuestions document, Readable question))

def ReadableImport (python : Python) (sheet : Sheet) : SheetAction → Prop
  | .saveSettings _ _ _ => True
  | .importQuestions _ difficulty payload _ edition =>
    ∀ validation ∈ (validateActiveStudyQuestionContent python.casefold sheet difficulty payload
      edition).toOption, ReadableDocument validation.payload
  | .importAll _ _ request =>
    ∀ validation ∈ (validateAllQuestions python sheet request.payload request.edition
      request.sheetQuestionCount request.excludedStartPages request.excludedEndPages).toOption,
      ∀ difficulty ∈ difficulties, ReadableDocument (validation.payload difficulty)
  | .changed _ _ => True

instance (python : Python) (sheet : Sheet) (action : SheetAction) :
    Decidable (ReadableImport python sheet action) :=
  match action with
  | .saveSettings _ _ _ => isTrue trivial
  | .importQuestions _ difficulty payload _ edition =>
    inferInstanceAs (Decidable (∀ validation ∈ (validateActiveStudyQuestionContent python.casefold
      sheet difficulty payload edition).toOption, ReadableDocument validation.payload))
  | .importAll _ _ request =>
    inferInstanceAs (Decidable (∀ validation ∈ (validateAllQuestions python sheet request.payload
      request.edition request.sheetQuestionCount request.excludedStartPages
      request.excludedEndPages).toOption,
      ∀ difficulty ∈ difficulties, ReadableDocument (validation.payload difficulty)))
  | .changed _ _ => isTrue trivial

/-- Every bank that is stored can be read. -/
def ReadableSheet (sheet : Sheet) : Prop :=
  ∀ difficulty content, sheet.content difficulty = some content → ReadableDocument content.payload

variable {casefold : Text → Text} {python : Python} {now : Nat} {sheet state : Sheet}
  {edition : Edition} {difficulty : Difficulty} {content : QuestionContent} {plan : Plan}

theorem mem_selectFrom {pages : List Row} {count : Nat} {selected : SelectedQuestion}
    (h : selected ∈ selectFrom pages count) :
    ∃ page ∈ pages, selected.question ∈ page.questions := by
  obtain ⟨position, _, hposition⟩ := mem_flatMap.1 (mem_of_mem_take h)
  obtain ⟨page, hpage, hselected⟩ := mem_filterMap.1 hposition
  obtain ⟨question, hquestion, rfl⟩ := Option.map_eq_some_iff.1 hselected
  exact ⟨page, hpage, mem_of_getElem? hquestion⟩

theorem mem_selectPageQuestions {rows : List Row} {start stop count : Int}
    {selected : List SelectedQuestion} (h : selectPageQuestions rows start stop count = .ok selected) :
    ∀ question ∈ selected.map SelectedQuestion.question, question ∈ rows.flatMap Row.questions := by
  unfold selectPageQuestions at h
  simp only at h
  split at h
  · cases h
  next hguard =>
  cases h
  simp only [not_or, not_lt] at hguard
  obtain ⟨hsome, hcount, _, havailable⟩ := hguard
  intro question hquestion
  obtain ⟨found, hfound, rfl⟩ := mem_map.1 hquestion
  obtain ⟨page, hpage, hmem⟩ := mem_selectFrom hfound
  have hrow := (spreadPages_sub (by omega) hsome).2 page hpage
  exact mem_flatMap.2 ⟨page, mem_of_mem_filter hrow, hmem⟩

theorem mem_suppliedQuestions {question : Question}
    (h : question ∈ suppliedQuestions content plan) :
    question ∈ documentQuestions content.payload := by
  rcases mem_append.1 h with hbank | hexam
  · refine mem_append_left _ ?_
    unfold bankQuestions at hbank
    cases hrows : content.payload.bank with
    | parts rows =>
      rw [hrows] at hbank
      exact hbank
    | pages rows =>
      rw [hrows] at hbank
      obtain ⟨range, _, hrange⟩ := mem_flatMap.1 hbank
      split at hrange
      · next selected hselected => exact mem_selectPageQuestions hselected question hrange
      · exact absurd hrange not_mem_nil
  · exact mem_append_right _ hexam

theorem ReadableSheet.banks (h : ReadableSheet sheet) : ReadableBanks casefold sheet edition := by
  intro difficulty content plan _ hcontent question hquestion
  exact h difficulty content (contentFor_ok hcontent).1 question (mem_suppliedQuestions hquestion)

theorem ReadableSheet.of_content (h : ReadableSheet sheet) (hcontent : state.content = sheet.content) :
    ReadableSheet state := by
  unfold ReadableSheet
  rw [hcontent]
  exact h

theorem ReadableSheet.putContent (h : ReadableSheet sheet)
    (hcontent : ReadableDocument content.payload) :
    ReadableSheet (sheet.putContent difficulty content) := by
  intro other found hfound
  by_cases hother : other = difficulty
  · have hput : (sheet.putContent difficulty content).content other = some content := if_pos hother
    rw [hput] at hfound
    cases hfound
    exact hcontent
  · have hput : (sheet.putContent difficulty content).content other = sheet.content other :=
      if_neg hother
    rw [hput] at hfound
    exact h other found hfound

/-- A refusal says nothing about the banks. -/
abbrev Whatever (_ : ContentError) (_ : Sheet) : Prop := True

theorem updateActiveStudySettings_readable {request : SettingsRequest} (h : ReadableSheet sheet) :
    Ends (updateActiveStudySettings now request edition) sheet (fun _ => ReadableSheet) Whatever := by
  refine updateActiveStudySettings_ends (fun _ _ => trivial) fun settings _ => ?_
  rw [putSettings_withSettings]
  exact h.of_content rfl

theorem saveContent_readable {payload : Json} {revision : Nat} (h : ReadableSheet sheet)
    (himport : ∀ content, importedContent casefold now sheet difficulty payload revision edition =
      .ok content → ReadableDocument content.payload) :
    Ends (saveActiveStudyQuestionContent casefold now difficulty payload revision edition) sheet
      (fun _ => ReadableSheet) Whatever := by
  refine ends_atomic (ends_andThen (ends_decided (fun content hcontent => ends_write ?_)
    fun _ _ => trivial))
  exact h.putContent (himport content hcontent)

variable {request : SaveRequest} {author : Author}

theorem saveExclusions_readable {context : AllQuestionsContext} (h : ReadableSheet sheet) :
    Ends (saveExclusions now context request) sheet (fun _ => ReadableSheet) Whatever := by
  unfold saveExclusions
  split
  · exact updateActiveStudySettings_readable h
  split
  · exact ends_refuse trivial
  · exact ends_answer h

theorem saveSheetQuestions_readable {publish : Bool} {questions : Option (List Question)}
    (h : ReadableSheet sheet) :
    Ends (saveSheetQuestions python author publish questions) sheet (fun _ => ReadableSheet)
      Whatever := by
  cases questions with
  | none => exact ends_answer h
  | some found =>
    unfold saveSheetQuestions importQuestions
    refine ends_andThen (ends_write ?_)
    exact ends_atomic (ends_andThen (ends_decided (fun _ _ => ends_write (h.of_content rfl))
      fun _ _ => trivial))

theorem saveAllQuestions_readable (h : ReadableSheet sheet)
    (himport : ReadableImport python sheet (.importAll now author request)) :
    Ends (saveAllQuestions python now author request) sheet (fun _ => ReadableSheet) Whatever := by
  refine ends_atomic (ends_andThen (ends_decided (fun validation hvalidation => ?_)
    fun _ _ => trivial))
  have hreadable := himport validation (Outcome.toOption_eq_some.2 hvalidation)
  obtain ⟨_, hdocuments, _⟩ := validateAll_ok hvalidation
  refine ends_andThen ((saveExclusions_readable h).imp (fun _ state hstate => ?_)
    fun _ _ _ => trivial)
  have hbanks : Ends (forEach (fun difficulty => saveActiveStudyQuestionContent python.casefold now
      difficulty (validation.payload difficulty).toJson (request.expectedRevisions difficulty)
      request.edition) difficulties) state (fun _ => ReadableSheet) Whatever := by
    refine ends_forEach_invariant (fun difficulty state hmem hstate => ?_) hstate
    refine saveContent_readable hstate fun content hcontent => ?_
    rw [importedContent_again (hdocuments difficulty).normal hcontent]
    exact hreadable difficulty hmem
  exact ends_andThen (hbanks.imp (fun _ saved hsaved => saveSheetQuestions_readable hsaved)
    fun _ _ _ => trivial)

theorem ReadableSheet.step {action : SheetAction} (h : ReadableSheet sheet)
    (himport : ReadableImport python sheet action) (hexec : execute python action sheet = .ok state) :
    ReadableSheet state := by
  cases action with
  | saveSettings now request edition => exact (updateActiveStudySettings_readable h).after hexec
  | importQuestions now difficulty payload revision edition =>
    refine (saveContent_readable h fun content hcontent => ?_).after hexec
    obtain ⟨validation, hvalidation, hpayload⟩ := importedContent_payload hcontent
    rw [hpayload]
    exact himport validation (Outcome.toOption_eq_some.2 hvalidation)
  | importAll now author request => exact (saveAllQuestions_readable h himport).after hexec
  | changed now other =>
    cases hexec
    exact h.of_content rfl

theorem reaches_readable {start : Sheet}
    (h : (sheetMachine python start).Reaches (ReadableImport python) sheet now) :
    ReadableSheet sheet := by
  refine h.invariant (I := fun sheet _ => ReadableSheet sheet) ?_ ?_
  · rintro difficulty content ⟨⟩
  · intro state _ action next hstate _ himport hexec
    exact hstate.step himport hexec

variable {digest : VersionEvidence → Text} {sheets : List Sheet} {documents : List CatalogDocument}
  {reader : Reader} {requested : Option String} {served : ServedBundle} {item : ActiveStudyItem}

/-- A device accepts a download of a listed sheet exactly when the questions in it can be read
there, and so it accepts all of them while every import could be read. -/
theorem devices_accept_readable_bundles
    (hsheet : sheets.find? (·.id = item.sheetId) = some sheet)
    (hserved : offlineActiveStudy python.casefold digest sheets reader item.sheetId requested =
      .ok served)
    (hedition : normalizeEdition requested = .ok item.edition)
    (hitem : item ∈ activeStudyItems digest sheets documents) :
    (validActiveStudyBundle (some served.toJson) (some item.toJson) = true ↔
      ReadableBanks python.casefold sheet item.edition) ∧
    ∀ start now, (sheetMachine python start).Reaches (ReadableImport python) sheet now →
      validActiveStudyBundle (some served.toJson) (some item.toJson) = true := by
  obtain ⟨found, hfound, hvalid⟩ := validActiveStudyBundle_iff hserved hedition hitem
  rw [hsheet] at hfound
  cases hfound
  exact ⟨hvalid, fun start now hreaches => hvalid.2 (reaches_readable hreaches).banks⟩

/-! A sheet of one page whose easy bank has one question that is asked of it. -/

def newSheet : Sheet := { onePageSheet 2 with settings := fun _ => none }

def easyDocument (prompt : Text) : QuestionDocument :=
  ⟨.parts [⟨1, [⟨prompt, "it is".toList, .trueFalse true⟩]⟩],
    [⟨"was it".toList, "it was not".toList, .trueFalse false⟩]⟩

def edits (prompt : Text) : List SheetAction :=
  [.saveSettings 5 ⟨0, true, ⟨none, none, none, some 1, some 1⟩, true⟩ .university,
    .importQuestions 6 .easy (easyDocument prompt).toJson 0 .university]

def editedSheet (prompt : Text) : Sheet :=
  (sheetMachine asciiPython newSheet).outcome (edits prompt)

def byteOrderMark : Text := [Char.ofNat 0xFEFF]

def student : Reader := ⟨7, true, true⟩

def catalogue : List CatalogDocument := [⟨1, 2, .university, true, false, true, true⟩]

theorem one_sheet_served (digest : VersionEvidence → Text) (hid : sheet.id = 1)
    (hpublished : sheet.publishedVersion.map Version.id = some 2)
    (henabled : activeStudyEnabled sheet .university = true)
    (hbundle : (offlineBundle casefold [sheet] 7 1 .university).toOption.any
      (fun bundle => bundle.difficulties ≠ []) = true) :
    [sheet].find? (·.id = 1) = some sheet ∧
    ∃ served checksum, offlineActiveStudy casefold digest [sheet] student 1 (some "university") =
        .ok served ∧
      ActiveStudyItem.mk 1 .university checksum ∈ activeStudyItems digest [sheet] catalogue := by
  have hfind : [sheet].find? (·.id = 1) = some sheet :=
    find?_cons_of_pos (decide_eq_true hid)
  refine ⟨hfind, ?_⟩
  obtain ⟨bundle, hfound, hsome⟩ := (Option.any_eq_true _ _).1 hbundle
  have hok := Outcome.toOption_eq_some.1 hfound
  have hserved : offlineActiveStudy casefold digest [sheet] student 1 (some "university") =
      .ok ⟨bundle, activeStudyVersion digest (some 2) .university sheet⟩ := by
    have hready : bundle.difficulties ≠ [] := of_decide_eq_true hsome
    simp [offlineActiveStudy, student, normalizeEdition, Outcome.refuse, hok, hready, hfind,
      hpublished, Except.mapError]
  have hlisted : activeStudyItem digest [sheet] ⟨1, 2, .university, true, false, true, true⟩ =
      some ⟨1, .university, activeStudyVersion digest (some 2) .university sheet⟩ := by
    unfold activeStudyItem
    rw [hfind]
    exact if_pos ⟨rfl, hpublished, by simp, rfl, rfl, henabled⟩
  exact ⟨_, _, hserved, mem_filterMap.2 ⟨_, mem_cons_self, hlisted⟩⟩

theorem not_readableBanks (difficulty : Difficulty)
    (hready : (readinessOf casefold sheet edition difficulty).status = .ready)
    (hblank : (contentFor casefold sheet difficulty edition).toOption.any (fun found =>
      (suppliedQuestions found.1 found.2).any fun question => ¬Readable question) = true) :
    ¬ReadableBanks casefold sheet edition := by
  intro hreadable
  obtain ⟨⟨content, plan⟩, hcontent, hany⟩ := (Option.any_eq_true _ _).1 hblank
  obtain ⟨question, hquestion, hnot⟩ := List.any_eq_true.1 hany
  exact of_decide_eq_true hnot (hreadable difficulty content plan hready
    (Outcome.toOption_eq_some.1 hcontent) question hquestion)

/-- A question that is only a byte order mark is imported, served and refused by the device. -/
theorem blank_question_refused :
    (sheetMachine asciiPython newSheet).Reaches Machine.Always (editedSheet byteOrderMark) 6 ∧
    ∀ digest, ∃ served item,
      offlineActiveStudy asciiPython.casefold digest [editedSheet byteOrderMark] student 1
        (some "university") = .ok served ∧
      item ∈ activeStudyItems digest [editedSheet byteOrderMark] catalogue ∧
      item.sheetId = 1 ∧ item.edition = .university ∧
      validActiveStudyBundle (some served.toJson) (some item.toJson) = false := by
  constructor
  · exact Machine.Reaches.of_accepts (by decide +kernel) (by decide) (Machine.admitted_always _ _)
  · intro digest
    have hid : (editedSheet byteOrderMark).id = 1 := by decide +kernel
    have hpublished : (editedSheet byteOrderMark).publishedVersion.map Version.id = some 2 := by
      decide +kernel
    have henabled : activeStudyEnabled (editedSheet byteOrderMark) .university = true := by
      decide +kernel
    have hbundle : (offlineBundle asciiPython.casefold [editedSheet byteOrderMark] 7 1
        .university).toOption.any (fun bundle => bundle.difficulties ≠ []) = true := by
      decide +kernel
    obtain ⟨hfind, served, checksum, hserved, hitem⟩ :=
      one_sheet_served digest hid hpublished henabled hbundle
    refine ⟨served, _, hserved, hitem, rfl, rfl, ?_⟩
    obtain ⟨sheet, hsheet, hvalid⟩ := validActiveStudyBundle_iff hserved rfl hitem
    have hblank : ¬ReadableBanks asciiPython.casefold (editedSheet byteOrderMark) .university :=
      not_readableBanks .easy (by decide +kernel) (by decide +kernel)
    have hsame : sheet = editedSheet byteOrderMark := Option.some.inj (hsheet.symm.trans hfind)
    rw [← hsame] at hblank
    rw [← Bool.not_eq_true, hvalid]
    exact hblank

theorem plain_question_accepted :
    (sheetMachine asciiPython newSheet).Reaches (ReadableImport asciiPython)
      (editedSheet "is it".toList) 6 ∧
    ∀ digest, ∃ served item,
      offlineActiveStudy asciiPython.casefold digest [editedSheet "is it".toList] student 1
        (some "university") = .ok served ∧
      item ∈ activeStudyItems digest [editedSheet "is it".toList] catalogue ∧
      validActiveStudyBundle (some served.toJson) (some item.toJson) = true := by
  have hreaches : (sheetMachine asciiPython newSheet).Reaches (ReadableImport asciiPython)
      (editedSheet "is it".toList) 6 :=
    Machine.Reaches.of_accepts (by decide +kernel) (by decide) (by decide +kernel)
  refine ⟨hreaches, fun digest => ?_⟩
  have hid : (editedSheet "is it".toList).id = 1 := by decide +kernel
  have hpublished : (editedSheet "is it".toList).publishedVersion.map Version.id = some 2 := by
    decide +kernel
  have henabled : activeStudyEnabled (editedSheet "is it".toList) .university = true := by
    decide +kernel
  have hbundle : (offlineBundle asciiPython.casefold [editedSheet "is it".toList] 7 1
      .university).toOption.any (fun bundle => bundle.difficulties ≠ []) = true := by
    decide +kernel
  obtain ⟨hfind, served, checksum, hserved, hitem⟩ :=
    one_sheet_served digest hid hpublished henabled hbundle
  exact ⟨served, _, hserved, hitem,
    (devices_accept_readable_bundles hfind hserved rfl hitem).2 newSheet 6 hreaches⟩

end LockIn.OfflineStudy
