import LockIn.Workspace.ReaderMarks
import LockIn.Workspace.SharedCleaning

/-!
# Shared pages and marks

The pages that were added are sanitised once when the reader writes them and again when they are
listed, which changes nothing.  The snapshot itself is read back as it was written.

Each mark of the reader's snapshot that is on a page the server knows is read as one that the server
keeps, and each page that was added, unless it belongs to a summary, as the same page.
-/

namespace LockIn.Workspace.Reader

open JsonText (Plain)
open Script (Value Engine Time Writable)
open Script.Value (record)
open Snapshot
open Utf16 (Text)

variable {engine : Engine} {now : Time} {value source page item reader : Value} {id afterPage : ℚ}
  {pages : List Value}

def pageId (page : Value) : ℚ := numberOf (page.get "id")

structure GoodNumbers (id afterPage : ℚ) : Prop where
  key : isVirtualPageKey id = true
  whole : isSafeInteger afterPage = true
  least : 1 ≤ afterPage
  most : afterPage ≤ 10000

def IsRecord (page : Value) : Prop :=
  ∃ source id afterPage, page = pageRecord source id afterPage ∧ GoodNumbers id afterPage

theorem goodNumbers_of_some (h : pageNumbers engine item = some (id, afterPage)) :
    GoodNumbers id afterPage := by
  unfold pageNumbers at h
  split at h
  · split_ifs at h with hgood
    cases h
    exact ⟨hgood.1, hgood.2.1, hgood.2.2.1, hgood.2.2.2⟩
  · cases h

theorem get_id : (pageRecord source id afterPage).get "id" = number id := by
  simp [pageRecord, number, Value.isDefined]

theorem get_afterPage : (pageRecord source id afterPage).get "afterPage" = number afterPage := by
  simp [pageRecord, number, Value.isDefined]

theorem get_background : (pageRecord source id afterPage).get "background" =
    chosen ["blank", "lined", "grid", "dot"] "blank" (source.get "background") :=
  Script.get_record_of_mem (by simp) (by simp)

theorem get_summary : (pageRecord source id afterPage).get "summary" =
    ((pageSummary source).map Value.string).getD .undefined :=
  Script.get_record_of_mem (by simp) (by simp)

theorem pageId_record : pageId (pageRecord source id afterPage) = id := by
  rw [pageId, get_id]
  rfl

theorem pageNumbers_again (h : GoodNumbers id afterPage) :
    pageNumbers engine (pageRecord source id afterPage) = some (id, afterPage) := by
  unfold pageNumbers
  rw [get_id, get_afterPage]
  exact if_pos ⟨h.key, h.whole, h.least, h.most⟩

theorem pageSummary_again :
    pageSummary (pageRecord source id afterPage) = pageSummary source := by
  have hsame : (pageRecord source id afterPage).get "summary" =
      ((pageSummary source).map Value.string).getD .undefined := get_summary
  unfold pageSummary at hsame ⊢
  rw [hsame]
  cases hfound : (source.get "summary").text?.filter fun id => isSummaryId id with
  | none => rfl
  | some text =>
    have htext := (Option.filter_eq_some_iff.1 hfound).2
    simpa [Value.text?] using htext

theorem pageRecord_again :
    pageRecord (pageRecord source id afterPage) id afterPage = pageRecord source id afterPage := by
  have hagain : pageRecord (pageRecord source id afterPage) id afterPage = record [
      ("id", number id),
      ("afterPage", number afterPage),
      ("background", chosen ["blank", "lined", "grid", "dot"] "blank"
        ((pageRecord source id afterPage).get "background")),
      ("summary", ((pageSummary (pageRecord source id afterPage)).map Value.string).getD
        .undefined)] := rfl
  rw [hagain, get_background, chosen_again, pageSummary_again]
  rfl

theorem keptPages_records (seen : List ℚ) (added summaries : Nat) (items : List Value) :
    (∀ page ∈ keptPages engine seen added summaries items, IsRecord page ∧ pageId page ∉ seen) ∧
      ((keptPages engine seen added summaries items).map pageId).Nodup := by
  induction items generalizing seen added summaries with
  | nil => exact ⟨fun page hpage => absurd hpage List.not_mem_nil, List.nodup_nil⟩
  | cons item rest ih =>
    unfold keptPages
    split
    · exact ih seen added summaries
    · rename_i id afterPage hnumbers
      have hgood := goodNumbers_of_some hnumbers
      have hkeep {others : List Value} (hid : id ∉ seen)
          (h : (∀ page ∈ others, IsRecord page ∧ pageId page ∉ id :: seen) ∧
            (others.map pageId).Nodup) :
          (∀ page ∈ pageRecord item id afterPage :: others, IsRecord page ∧ pageId page ∉ seen) ∧
            ((pageRecord item id afterPage :: others).map pageId).Nodup := by
        refine ⟨fun page hpage => ?_, ?_⟩
        · rcases List.mem_cons.1 hpage with rfl | hin
          · exact ⟨⟨item, id, afterPage, rfl, hgood⟩, pageId_record ▸ hid⟩
          · obtain ⟨hrecord, hfresh⟩ := h.1 page hin
            exact ⟨hrecord, fun hseen => hfresh (List.mem_cons_of_mem _ hseen)⟩
        · rw [List.map_cons, List.nodup_cons, pageId_record]
          refine ⟨fun hin => ?_, h.2⟩
          obtain ⟨page, hpage, hsame⟩ := List.mem_map.1 hin
          exact (h.1 page hpage).2 (hsame ▸ List.mem_cons_self)
      dsimp only
      split_ifs with hsummary hskip hskip
      · exact ih seen added summaries
      · exact hkeep (fun hseen => hskip (.inl hseen)) (ih (id :: seen) added (summaries + 1))
      · exact ih seen added summaries
      · exact hkeep (fun hseen => hskip (.inl hseen)) (ih (id :: seen) (added + 1) summaries)

theorem keptPages_few (seen : List ℚ) (added summaries : Nat) (items : List Value) :
    added + ((keptPages engine seen added summaries items).filter fun page =>
      (pageSummary page).isNone).length ≤ max added maxVirtualPages := by
  induction items generalizing seen added summaries with
  | nil => exact le_max_left _ _
  | cons item rest ih =>
    unfold keptPages
    split
    · exact ih seen added summaries
    · rename_i id afterPage hnumbers
      dsimp only
      split_ifs with hsummary hskip hskip
      · exact ih seen added summaries
      · have hsome : ¬(pageSummary item).isNone = true := by
          rw [Option.isNone_iff_eq_none]
          intro hnone
          rw [hnone] at hsummary
          cases hsummary
        rw [List.filter_cons, pageSummary_again, if_neg hsome]
        exact ih (id :: seen) added (summaries + 1)
      · exact ih seen added summaries
      · have hnone : (pageSummary item).isNone = true := by simpa using hsummary
        have hrest := ih (id :: seen) (added + 1) summaries
        rw [List.filter_cons, pageSummary_again, if_pos hnone, List.length_cons]
        rw [not_or, not_le] at hskip
        omega

theorem keptPages_again (seen : List ℚ) (added summaries : Nat)
    (hpages : ∀ page ∈ pages, (IsRecord page ∧ pageId page ∉ seen) ∧ pageSummary page = none)
    (hnodup : (pages.map pageId).Nodup) (hfew : added + pages.length ≤ maxVirtualPages) :
    keptPages engine seen added summaries pages = pages := by
  induction pages generalizing seen added with
  | nil => rfl
  | cons page rest ih =>
    obtain ⟨⟨⟨source, id, afterPage, rfl, hgood⟩, hfresh⟩, hnone⟩ :=
      hpages page List.mem_cons_self
    rw [pageId_record] at hfresh
    rw [List.map_cons, List.nodup_cons, pageId_record] at hnodup
    rw [List.length_cons] at hfew
    have hrest := ih (id :: seen) (added + 1) (fun other hother => by
      obtain ⟨⟨hrecord, hnew⟩, hnoSummary⟩ := hpages other (List.mem_cons_of_mem _ hother)
      refine ⟨⟨hrecord, fun hseen => ?_⟩, hnoSummary⟩
      rcases List.mem_cons.1 hseen with heq | hin
      · exact hnodup.1 (heq ▸ List.mem_map_of_mem hother)
      · exact hnew hin) hnodup.2 (by omega)
    rw [keptPages, pageNumbers_again hgood]
    rw [hnone]
    have hroom : ¬(id ∈ seen ∨ maxVirtualPages ≤ added) := by
      rintro (hseen | hfull)
      · exact hfresh hseen
      · omega
    simp only [Option.isSome_none, Bool.false_eq_true, if_false]
    rw [if_neg hroom, pageRecord_again, hrest]

theorem shown_annotation (h : item ∈ storedAnnotations engine now value) : ShownMark item := by
  obtain ⟨mark, -, hmark⟩ := List.mem_filterMap.1 h
  exact compact_shown hmark

theorem shown_note (h : item ∈ storedNotes engine now value) : Shown item := by
  obtain ⟨note, -, hnote⟩ := List.mem_filterMap.1 h
  exact note_shown hnote

theorem record_of_stored (h : page ∈ storedPages engine value) : IsRecord page :=
  ((keptPages_records [] 0 0 _).1 page h).1

theorem writable_undefined : Writable .undefined := .inl rfl

theorem plain_record_page (h : IsRecord page) : Plain page := by
  obtain ⟨source, id, afterPage, rfl, -⟩ := h
  refine Script.plain_record (by simp) ?_
  cases hsummary : pageSummary source with
  | none => simp [writable_undefined]
  | some text => simp

theorem writable_array {items : List Value} (h : ∀ item ∈ items, Plain item) :
    Writable (.array items) := .inr (plain_array h)

theorem plain_storedWorkspace (snapshot : Value) : Plain (storedWorkspace engine now snapshot) := by
  have hannotations : Writable (.array (storedAnnotations engine now snapshot)) :=
    writable_array fun mark hmark => ( shown_annotation hmark).plain
  have hnotes : Writable (.array (storedNotes engine now snapshot)) :=
    writable_array fun note hnote => (shown_note hnote).plain
  have hpages : Writable (.array (storedPages engine snapshot)) :=
    writable_array fun page hpage => plain_record_page (record_of_stored hpage)
  refine Script.plain_record (by simp) ?_
  simp [hannotations, hnotes, hpages]

def handed (reader : Value) : Value :=
  record [
    ("annotations", reader.get "annotations"),
    ("notes", reader.get "notes"),
    ("virtualPages", reader.get "virtualPages")]

theorem snapshotFromReader_eq (engine : Engine) (now : Time) (reader : Value) :
    snapshotFromReader engine now reader = record [
      ("annotations", .array (storedAnnotations engine now (handed reader))),
      ("notes", .array (storedNotes engine now (handed reader))),
      ("virtualPages", .array (storedPages engine (handed reader)))] := by
  have hplain : Plain (storedWorkspace engine now (handed reader)) := plain_storedWorkspace _
  have hparsed : JsonText.parse engine (JsonText.write engine
      (storedWorkspace engine now (handed reader))) =
        some (storedWorkspace engine now (handed reader)) := JsonText.parse_write hplain
  have hannotations : (storedWorkspace engine now (handed reader)).get "annotations" =
      .array (storedAnnotations engine now (handed reader)) :=
    Script.get_record_of_mem (by simp) (by simp)
  have hnotes : (storedWorkspace engine now (handed reader)).get "notes" =
      .array (storedNotes engine now (handed reader)) :=
    Script.get_record_of_mem (by simp) (by simp)
  have hpages : (storedWorkspace engine now (handed reader)).get "virtualPages" =
      .array (storedPages engine (handed reader)) :=
    Script.get_record_of_mem (by simp) (by simp)
  unfold snapshotFromReader serializeCatalogWorkspace
  unfold handed at hparsed hannotations hnotes hpages ⊢
  rw [hparsed, Option.getD_some]
  dsimp only
  rw [hannotations, hnotes, hpages]

theorem get_annotations : (snapshotFromReader engine now reader).get "annotations" =
    .array (storedAnnotations engine now (handed reader)) := by
  rw [snapshotFromReader_eq]
  exact Script.get_record_of_mem (by simp) (by simp)

theorem get_notes : (snapshotFromReader engine now reader).get "notes" =
    .array (storedNotes engine now (handed reader)) := by
  rw [snapshotFromReader_eq]
  exact Script.get_record_of_mem (by simp) (by simp)

theorem get_virtualPages : (snapshotFromReader engine now reader).get "virtualPages" =
    .array (storedPages engine (handed reader)) := by
  rw [snapshotFromReader_eq]
  exact Script.get_record_of_mem (by simp) (by simp)

end LockIn.Workspace.Reader

namespace LockIn.Workspace.Sharing

open JsonReading (decoded decoded_ofString exponentLimit readNumber)
open JsonText (Plain)
open Reader
open Script (Value)
open Script.Value (record)
open Share
open Snapshot (number isImageSource MarkType pageSummary pageRecord chosen)
open Utf16 (codePoints isHigh lower ofChar ofString)

variable {unit : UInt16}

theorem decoded_cons (h : isHigh unit = false) (rest : Utf16.Text) :
    decoded (unit :: rest) = Char.ofNat unit.toNat :: decoded rest := by
  unfold decoded
  cases rest with
  | nil => rfl
  | cons next rest => simp [codePoints, h]

theorem toLower_ofNat : ∀ point < 128, (Char.ofNat point).toLower =
    Char.ofNat (if 65 ≤ point ∧ point ≤ 90 then point + 32 else point) := by decide

theorem sameLetter_of_lower {letter : Char} (hletter : letter.toNat < 128)
    (h : (if 0x41 ≤ unit ∧ unit ≤ 0x5A then unit + 0x20 else unit) = letter.toNat.toUInt16) :
    unit.toNat < 128 ∧ sameLetter letter (Char.ofNat unit.toNat) = true := by
  have hpoint := congrArg UInt16.toNat h
  have hcode : letter.toNat.toUInt16.toNat = letter.toNat := by
    rw [Nat.toUInt16_eq, UInt16.toNat_ofNat']
    omega
  rw [hcode] at hpoint
  have hcase : (if 65 ≤ unit.toNat ∧ unit.toNat ≤ 90 then unit.toNat + 32 else unit.toNat) =
      letter.toNat := by
    rw [← hpoint]
    simp only [UInt16.le_iff_toNat_le, UInt16.reduceToNat]
    split_ifs with hcapital
    · rw [UInt16.toNat_add]
      simp only [UInt16.reduceToNat]
      omega
    · rfl
  have hsmall : unit.toNat < 128 := by
    split_ifs at hcase <;> omega
  refine ⟨hsmall, ?_⟩
  unfold sameLetter
  rw [toLower_ofNat _ hsmall, hcase, Char.ofNat_toNat]
  simp

theorem matchesFolded_decoded {letters : List Char} (hletters : ∀ letter ∈ letters, letter.toNat < 128)
    {source : Utf16.Text} (h : letters.flatMap ofChar <+: lower source) :
    matchesFolded letters (decoded source) = true := by
  induction letters generalizing source with
  | nil => rfl
  | cons letter rest ih =>
    have hletter := hletters letter List.mem_cons_self
    have hunit : ofChar letter = [letter.toNat.toUInt16] := if_pos (by omega)
    rw [List.flatMap_cons, hunit, List.singleton_append] at h
    cases source with
    | nil => simp [lower] at h
    | cons unit tail =>
      obtain ⟨hfirst, hrest⟩ := List.cons_prefix_cons.1 h
      obtain ⟨hsmall, hsame⟩ := sameLetter_of_lower hletter hfirst.symm
      have hhigh : isHigh unit = false := by
        simp only [isHigh, Bool.and_eq_false_iff, decide_eq_false_iff_not,
          UInt16.le_iff_toNat_le, UInt16.reduceToNat]
        omega
      rw [decoded_cons hhigh, matchesFolded, hsame,
        ih (fun other hother => hletters other (List.mem_cons_of_mem _ hother)) hrest]
      rfl

/-- A picture of the reader is one for the server. -/
theorem isImageDataUrl_read {source : Utf16.Text} (h : isImageSource source = true) :
    isImageDataUrl (.str (decoded source)) = true := by
  obtain ⟨kind, hkind, hsource⟩ := List.any_eq_true.1 h
  refine List.any_eq_true.2 ⟨kind, hkind, matchesFolded_decoded ?_
    (List.isPrefixOf_iff_prefix.1 hsource)⟩
  have hall : (["png", "jpeg", "webp", "gif"].all fun kind =>
      ("data:image/" ++ kind ++ ";base64,").toList.all fun letter => letter.toNat < 128) = true := by
    decide
  intro letter hletter
  exact of_decide_eq_true (List.all_eq_true.1 (List.all_eq_true.1 hall kind hkind) letter hletter)

theorem readNumber_int {whole : ℤ} (h : |whole| < 10 ^ 21) : readNumber whole = .int whole := by
  have habs : |(whole : ℚ)| < exponentLimit := by
    unfold exponentLimit
    exact_mod_cast h
  rw [readNumber, if_pos ⟨Rat.den_intCast whole, habs⟩, Rat.num_intCast]

theorem read_key {key : ℚ} (h : isVirtualPageKey key = true) :
    ∃ whole : ℤ, key = whole ∧ isVirtual whole = true ∧ JsonReading.read (number key) = .int whole := by
  simp only [isVirtualPageKey, isSafeInteger, Bool.and_eq_true, decide_eq_true_eq] at h
  obtain ⟨⟨hden, hbound⟩, hneg⟩ := h
  have hkey : (key.num : ℚ) = key := Rat.coe_int_num_of_den_eq_one hden
  refine ⟨key.num, hkey.symm, ?_, ?_⟩
  · simp only [isVirtual, decide_eq_true_eq]
    exact Rat.num_neg.2 hneg
  · have hnum : |(key.num : ℚ)| ≤ 9007199254740991 := hkey.symm ▸ hbound
    have hwhole : |key.num| ≤ 9007199254740991 := by exact_mod_cast hnum
    show readNumber key = .int key.num
    rw [← readNumber_int (lt_of_le_of_lt hwhole (by norm_num)), hkey]

theorem read_pdfPage {whole : ℤ} (hleast : 1 ≤ whole) (hmost : whole ≤ 10000) :
    isPdfPage whole = true ∧ JsonReading.read (number whole) = .int whole := by
  constructor
  · exact decide_eq_true ⟨hleast, hmost⟩
  · refine readNumber_int ?_
    rw [abs_of_nonneg (by omega)]
    omega

theorem not_key_of_pos {whole : ℤ} (h : 1 ≤ whole) : isVirtualPageKey (whole : ℚ) = false := by
  have hpos : ¬(whole : ℚ) < 0 := by
    rw [not_lt]
    exact_mod_cast (by omega : (0 : ℤ) ≤ whole)
  simp [isVirtualPageKey, hpos]

theorem read_page {page : ℚ} (h : IsPage page) (hmost : page ≤ 10000) :
    ∃ whole : ℤ, page = whole ∧ JsonReading.read (number page) = .int whole ∧
      isVirtualPageKey page = isVirtual whole ∧
        (isVirtual whole = true ∨ isPdfPage whole = true) := by
  rcases h with hkey | ⟨whole, hleast, rfl⟩
  · obtain ⟨whole, hwhole, hvirtual, hread⟩ := read_key hkey
    exact ⟨whole, hwhole, hread, by rw [hkey, hvirtual], .inl hvirtual⟩
  · have hlimit : whole ≤ 10000 := by exact_mod_cast hmost
    obtain ⟨hpdf, hread⟩ := read_pdfPage hleast hlimit
    exact ⟨whole, rfl, hread, by rw [not_key_of_pos hleast, not_virtual_of_pdf hpdf], .inr hpdf⟩

structure Carries (item : Value) (mark : Mark) : Prop where
  document : mark.toJson = JsonReading.read item
  page : pageKey item = mark.page
  kind : isVirtualPageKey (pageKey item) = isVirtual mark.page
  known : isVirtual mark.page = true ∨ isPdfPage mark.page = true
  field : ∀ name : String, (∀ char ∈ name.toList, char.toNat ≠ 0) →
    Json.getD mark.fields name = JsonReading.read (item.get name)

theorem carried {item : Value} (h : Shown item) (hmost : pageKey item ≤ 10000) :
    ∃ mark, Carries item mark := by
  obtain ⟨page, hpage, hisPage⟩ := h.page
  have hkey : pageKey item = page := by
    rw [pageKey, hpage]
    rfl
  rw [hkey] at hmost
  obtain ⟨whole, rfl, hread, hkind, hknown⟩ := read_page hisPage hmost
  obtain ⟨text, hid⟩ := h.id
  have hplain := h.plain
  cases item with
  | object members =>
    have hfield (name : String) (hname : ∀ char ∈ name.toList, char.toNat ≠ 0) :
        Json.getD (JsonReading.readMembers members) name =
          JsonReading.read ((Value.object members).get name) :=
      JsonReading.getD_readMembers hname hplain.2
    have honPage : Json.getD (JsonReading.readMembers members) "page" = .int whole := by
      rw [hfield "page" (by simp), hpage, hread]
    exact ⟨⟨_, whole, honPage⟩, rfl, hkey, by rw [hkey, hkind], hknown, hfield⟩
  | _ => cases hid

theorem read_text (name : String) : JsonReading.read (.text name) = .str name.toList := by
  rw [Value.text, JsonReading.read, decoded_ofString]

variable {item : Value} {mark : Mark} {virtualIds : List Int}

theorem Carries.isText (h : Carries item mark) (hshown : Shown item) :
    isText (Json.getD mark.fields "id") = true := by
  obtain ⟨text, hid⟩ := hshown.id
  rw [h.field "id" (by simp), hid]
  rfl

theorem Carries.knownPage (h : Carries item mark)
    (hlisted : isVirtual mark.page = true → mark.page ∈ virtualIds) :
    knownPage virtualIds (Json.getD mark.fields "page") = true := by
  rw [mark.onPage]
  rcases h.known with hvirtual | hpdf
  · exact decide_eq_true (.inr ⟨hvirtual, hlisted hvirtual⟩)
  · exact decide_eq_true (.inl hpdf)

theorem typeName_mem (type : MarkType) : type.name.toList ∈ annotationTypes := by
  cases type <;> decide

theorem image_of_name {type : MarkType} (h : type.name.toList = "image".toList) : type = .image := by
  cases type <;> first | rfl | exact absurd h (by decide)

theorem Carries.keepsAnnotation (h : Carries item mark) (hshown : ShownMark item)
    (hlisted : isVirtual mark.page = true → mark.page ∈ virtualIds) :
    keepsAnnotation virtualIds mark.fields = true := by
  obtain ⟨type, htype, himage⟩ := hshown.type
  have hname : Json.getD mark.fields "type" = .str type.name.toList := by
    rw [h.field "type" (by simp), htype, read_text]
  have hany : annotationTypes.any (isType (.str type.name.toList)) = true :=
    List.any_eq_true.2 ⟨_, typeName_mem type, decide_eq_true rfl⟩
  have hpicture : (!isType (.str type.name.toList) "image".toList ||
      isImageDataUrl (Json.getD mark.fields "src")) = true := by
    by_cases hkind : type.name.toList = "image".toList
    · obtain ⟨source, hsource, hisImage⟩ := himage (image_of_name hkind)
      rw [h.field "src" (by simp), hsource, JsonReading.read, isImageDataUrl_read hisImage,
        Bool.or_true]
    · have hother : isType (.str type.name.toList) "image".toList = false :=
        decide_eq_false hkind
      rw [hother]
      rfl
  unfold Share.keepsAnnotation
  rw [hname, hany, h.knownPage hlisted, h.isText hshown.toShown, hpicture]
  rfl

theorem Carries.keepsNote (h : Carries item mark) (hshown : Shown item)
    (hlisted : isVirtual mark.page = true → mark.page ∈ virtualIds) :
    keepsNote virtualIds mark.fields = true := by
  unfold Share.keepsNote
  rw [h.knownPage hlisted, h.isText hshown]
  rfl

structure SamePage (page : Value) (added : AddedPage) : Prop where
  document : added.toJson = JsonReading.read page
  id : pageId page = added.id
  afterPage : numberOf (page.get "afterPage") = added.afterPage
  background : (page.get "background").text? = some (ofString (String.ofList added.background))
  wellFormed : added.WellFormed

theorem background_of_chosen (value : Value) : ∃ name, name.toList ∈ backgrounds ∧
    Snapshot.chosen ["blank", "lined", "grid", "dot"] "blank" value = .text name := by
  rcases Snapshot.chosen_cases ["blank", "lined", "grid", "dot"] "blank" value with
    ⟨text, htext, hin⟩ | hfallback
  · obtain ⟨name, hname, rfl⟩ := List.mem_map.1 hin
    exact ⟨name, List.mem_map_of_mem hname, htext⟩
  · exact ⟨"blank", by decide, hfallback⟩

theorem samePage {page : Value} (h : IsRecord page) (hsummary : pageSummary page = none) :
    ∃ added, SamePage page added := by
  obtain ⟨source, id, afterPage, rfl, hgood⟩ := h
  obtain ⟨whole, rfl, hvirtual, hread⟩ := read_key hgood.key
  have hafter : ((afterPage.num : ℤ) : ℚ) = afterPage := by
    have hwhole := hgood.whole
    simp only [isSafeInteger, Bool.and_eq_true, decide_eq_true_eq] at hwhole
    exact Rat.coe_int_num_of_den_eq_one hwhole.1
  have hleast : 1 ≤ afterPage.num := by
    have hone := hgood.least
    rw [← hafter] at hone
    exact_mod_cast hone
  have hmost : afterPage.num ≤ 10000 := by
    have hlimit := hgood.most
    rw [← hafter] at hlimit
    exact_mod_cast hlimit
  obtain ⟨hpdf, hreadAfter⟩ := read_pdfPage hleast hmost
  obtain ⟨name, hname, hchosen⟩ := background_of_chosen (source.get "background")
  rw [pageSummary_again] at hsummary
  refine ⟨⟨whole, afterPage.num, name.toList⟩, ?_, ?_, ?_, ?_, hvirtual, hpdf, hname⟩
  · rw [hafter] at hreadAfter
    rw [pageRecord, hsummary, hchosen, JsonReading.read_record]
    have hfields : ([("id", number whole), ("afterPage", number afterPage),
        ("background", Value.text name),
        ("summary", ((none : Option Utf16.Text).map Value.string).getD .undefined)].filter
          fun field => field.2.isDefined).map (fun field => (field.1, JsonReading.read field.2)) =
        [("id", JsonReading.read (number whole)), ("afterPage", JsonReading.read (number afterPage)),
          ("background", JsonReading.read (.text name))] := rfl
    rw [hfields, hread, hreadAfter, read_text]
    rfl
  · exact pageId_record
  · rw [get_afterPage]
    exact hafter.symm
  · rw [get_background, hchosen, String.ofList_toList]
    rfl

end LockIn.Workspace.Sharing
