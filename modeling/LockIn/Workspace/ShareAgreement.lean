import LockIn.Library.Matched
import LockIn.Workspace.SharedMarks

/-!
# Both sides of a share

What the reader shares of pages that the server knows is kept by the server as it is.  Both sides
list the same pages with the same counts, and leaving pages out on the device is choosing the others
on the server.
-/

namespace LockIn.Workspace.Sharing

open JsonReading (read)
open List (Forall₂)
open Reader
open Script (Value Engine Time)
open Script.Value (record)
open Share
open Snapshot (number pageSummary)
open Utf16 (ofString)

variable {engine : Engine} {now : Time} {reader value : Value} {annotations notes pages : List Value}
  {snapshot : Share.Snapshot}

/-- Every mark is on a page of the sheet up to the last that the server knows or on one of the added
pages, and none of these belongs to a summary. -/
structure Shareable (annotations notes pages : List Value) : Prop where
  most : ∀ item ∈ annotations ++ notes, pageKey item ≤ 10000
  listed : ∀ item ∈ annotations ++ notes,
    isVirtualPageKey (pageKey item) = true → pageKey item ∈ pages.map pageId
  noSummary : ∀ page ∈ pages, pageSummary page = none

structure SameSnapshot (annotations notes pages : List Value) (snapshot : Share.Snapshot) : Prop where
  annotations : Forall₂ Carries annotations snapshot.annotations
  notes : Forall₂ Carries notes snapshot.notes
  pages : Forall₂ SamePage pages snapshot.virtualPages

theorem SameSnapshot.marks (h : SameSnapshot annotations notes pages snapshot) :
    Forall₂ Carries (annotations ++ notes) (snapshot.annotations ++ snapshot.notes) :=
  List.rel_append h.annotations h.notes

/-- A snapshot of the reader. -/
def asValue (annotations notes pages : List Value) : Value :=
  record [
    ("annotations", .array annotations),
    ("notes", .array notes),
    ("virtualPages", .array pages)]

theorem read_asValue (annotations notes pages : List Value) :
    read (asValue annotations notes pages) =
      .obj [("annotations", .arr (annotations.map read)), ("notes", .arr (notes.map read)),
        ("virtualPages", .arr (pages.map read))] := by
  have hread (items : List Value) : read (.array items) = .arr (items.map read) := by
    rw [JsonReading.read, JsonReading.readItems_eq_map]
  have hfields : ([("annotations", Value.array annotations), ("notes", Value.array notes),
      ("virtualPages", Value.array pages)].filter fun field => field.2.isDefined).map
        (fun field => (field.1, read field.2)) =
      [("annotations", read (.array annotations)), ("notes", read (.array notes)),
        ("virtualPages", read (.array pages))] := rfl
  rw [asValue, JsonReading.read_record, hfields, hread, hread, hread]

theorem SameSnapshot.document (h : SameSnapshot annotations notes pages snapshot) :
    snapshot.toJson = read (asValue annotations notes pages) := by
  have hannotations : annotations.map read = snapshot.annotations.map Mark.toJson :=
    Matched.map_eq h.annotations fun item mark hmark => hmark.document.symm
  have hnotes : notes.map read = snapshot.notes.map Mark.toJson :=
    Matched.map_eq h.notes fun item mark hmark => hmark.document.symm
  have hpages : pages.map read = snapshot.virtualPages.map AddedPage.toJson :=
    Matched.map_eq h.pages fun page added hadded => hadded.document.symm
  rw [read_asValue, hannotations, hnotes, hpages]
  rfl

theorem ids_cast (h : SameSnapshot annotations notes pages snapshot) :
    pages.map pageId = snapshot.ids.map (fun id : Int => (id : ℚ)) := by
  rw [Share.Snapshot.ids, List.map_map]
  exact Matched.map_eq h.pages fun page added hadded => hadded.id

variable {item : Value} {mark : Mark} {excluded : List ℚ} {page : ℤ}

theorem listed_id (h : SameSnapshot annotations notes pages snapshot)
    (hshare : Shareable annotations notes pages) (hitem : item ∈ annotations ++ notes)
    (hcarries : Carries item mark) (hvirtual : isVirtual mark.page = true) :
    mark.page ∈ snapshot.ids := by
  have hin := hshare.listed item hitem (hcarries.kind.trans hvirtual)
  rw [ids_cast h, hcarries.page] at hin
  exact (List.mem_map_of_injective Int.cast_injective).1 hin

theorem cleaned (h : SameSnapshot annotations notes pages snapshot)
    (hshare : Shareable annotations notes pages) (hannotations : ∀ item ∈ annotations, ShownMark item)
    (hnotes : ∀ item ∈ notes, Shown item) (hnodup : (pages.map pageId).Nodup)
    (hfewPages : pages.length ≤ Share.maxVirtualPages)
    (hfewAnnotations : annotations.length ≤ Share.maxAnnotations)
    (hfewNotes : notes.length ≤ Share.maxNotes) : Cleaned snapshot where
  pages added hadded := by
    obtain ⟨page, -, hsame⟩ := Matched.exists_left h.pages hadded
    exact hsame.wellFormed
  nodup := by
    rw [ids_cast h] at hnodup
    exact hnodup.of_map _
  annotations mark hmark := by
    obtain ⟨item, hitem, hcarries⟩ := Matched.exists_left h.annotations hmark
    exact Carries.keepsAnnotation hcarries (hannotations item hitem)
      (listed_id h hshare (List.mem_append_left _ hitem) hcarries)
  notes mark hmark := by
    obtain ⟨item, hitem, hcarries⟩ := Matched.exists_left h.notes hmark
    exact hcarries.keepsNote (hnotes item hitem)
      (listed_id h hshare (List.mem_append_right _ hitem) hcarries)
  fewPages := h.pages.length_eq ▸ hfewPages
  fewAnnotations := h.annotations.length_eq ▸ hfewAnnotations
  fewNotes := h.notes.length_eq ▸ hfewNotes

theorem exists_same (hshare : Shareable annotations notes pages)
    (hannotations : ∀ item ∈ annotations, ShownMark item) (hnotes : ∀ item ∈ notes, Shown item)
    (hpages : ∀ page ∈ pages, IsRecord page) :
    ∃ snapshot, SameSnapshot annotations notes pages snapshot := by
  obtain ⟨marks, hmarks⟩ := Matched.exists_matching fun item hitem =>
    carried (hannotations item hitem).toShown (hshare.most item (List.mem_append_left _ hitem))
  obtain ⟨noted, hnoted⟩ := Matched.exists_matching fun item hitem =>
    carried (hnotes item hitem) (hshare.most item (List.mem_append_right _ hitem))
  obtain ⟨added, hadded⟩ := Matched.exists_matching fun page hpage =>
    samePage (hpages page hpage) (hshare.noSummary page hpage)
  exact ⟨⟨marks, noted, added⟩, hmarks, hnoted, hadded⟩

def listedEntry (entry : PageEntry) : ListedPage :=
  ⟨entry.key, entry.kind, entry.page,
    entry.background.map fun text => ofString (String.ofList text), entry.marks⟩

theorem listed_before (first second : PageEntry) :
    (listedEntry first).before (listedEntry second) = first.before second := by
  unfold ListedPage.before PageEntry.before listedEntry
  simp only [Int.cast_lt, Int.cast_inj]

def counts (snapshot : Share.Snapshot) : List (Int × Nat) :=
  Dictionary.tally ((snapshot.annotations ++ snapshot.notes).map (·.page))

theorem counts_cast (h : SameSnapshot annotations notes pages snapshot) :
    Dictionary.tally ((annotations ++ notes).map pageKey) =
      Dictionary.renamed (fun page : Int => (page : ℚ)) (counts snapshot) := by
  have hkeys : (annotations ++ notes).map pageKey =
      ((snapshot.annotations ++ snapshot.notes).map (·.page)).map fun page : Int => (page : ℚ) := by
    rw [List.map_map]
    exact Matched.map_eq h.marks fun item mark hcarries => hcarries.page
  rw [hkeys, Dictionary.tally_map Int.cast_injective]
  rfl

theorem mem_counts {entry : Int × Nat} (h : entry ∈ counts snapshot) :
    ∃ mark ∈ snapshot.annotations ++ snapshot.notes, mark.page = entry.1 := by
  have hkey : entry.1 ∈ Dictionary.keys (counts snapshot) := List.mem_map_of_mem h
  exact List.mem_map.1 (Dictionary.mem_keys_tally.1 hkey)

theorem pdfPages_listed (h : SameSnapshot annotations notes pages snapshot) :
    ((Dictionary.renamed (fun page : Int => (page : ℚ)) (counts snapshot)).filter
        fun entry => !isVirtualPageKey entry.1).map pdfPage =
      (((counts snapshot).filter fun entry => isPdfPage entry.1).map pdfEntry).map
        listedEntry := by
  unfold Dictionary.renamed
  rw [List.filter_map, List.map_map, List.map_map]
  refine congrArg₂ List.map rfl (List.filter_congr fun entry hentry => ?_)
  obtain ⟨mark, hmark, hpage⟩ := mem_counts hentry
  obtain ⟨item, -, hcarries⟩ := Matched.exists_left h.marks hmark
  have hkind := hcarries.kind
  rw [hcarries.page, hpage] at hkind
  have hknown := hcarries.known
  rw [hpage] at hknown
  show (!isVirtualPageKey (entry.1 : ℚ)) = isPdfPage entry.1
  rw [hkind]
  rcases hknown with hvirtual | hpdf
  · have hnot : isPdfPage entry.1 = false := by
      rw [← Bool.not_eq_true]
      intro hpdf
      rw [not_virtual_of_pdf hpdf] at hvirtual
      cases hvirtual
    rw [hvirtual, hnot]
    rfl
  · rw [not_virtual_of_pdf hpdf, hpdf]
    rfl

theorem addedPages_listed (h : SameSnapshot annotations notes pages snapshot) :
    pages.map (addedPage (Dictionary.renamed (fun page : Int => (page : ℚ)) (counts snapshot))) =
      (snapshot.virtualPages.map (addedEntry (counts snapshot))).map listedEntry := by
  rw [List.map_map]
  refine Matched.map_eq h.pages fun page added hadded => ?_
  have hid : numberOf (page.get "id") = (added.id : ℚ) := hadded.id
  have hcount : Dictionary.get (Dictionary.renamed (fun page : Int => (page : ℚ)) (counts snapshot))
      (added.id : ℚ) = Dictionary.get (counts snapshot) added.id :=
    Dictionary.get_renamed Int.cast_injective _ _
  unfold addedPage
  rw [hid, hcount, hadded.afterPage, hadded.background]
  rfl

theorem get_asValue (annotations notes pages : List Value) :
    (asValue annotations notes pages).get "annotations" = .array annotations ∧
      (asValue annotations notes pages).get "notes" = .array notes ∧
        (asValue annotations notes pages).get "virtualPages" = .array pages :=
  ⟨Script.get_record_of_mem (by simp) (by simp), Script.get_record_of_mem (by simp) (by simp),
    Script.get_record_of_mem (by simp) (by simp)⟩

theorem summarize_agree (h : SameSnapshot annotations notes pages snapshot)
    (hagain : Snapshot.sanitizeVirtualPages engine (.array pages) = pages) :
    summarizeSnapshot engine (asValue annotations notes pages) =
      ((summarize snapshot).1, (summarize snapshot).2.map listedEntry) := by
  obtain ⟨hannotations, hnotes, hpages⟩ := get_asValue annotations notes pages
  have htotal : (Dictionary.renamed (fun page : Int => (page : ℚ)) (counts snapshot)).map Prod.snd =
      (counts snapshot).map Prod.snd := by
    unfold Dictionary.renamed
    rw [List.map_map]
    rfl
  unfold summarizeSnapshot summarize
  rw [hannotations, hnotes, hpages, hagain]
  simp only [Value.items]
  rw [counts_cast h, pdfPages_listed h, addedPages_listed h, htotal, ← List.map_append]
  refine Prod.ext rfl ?_
  exact (List.map_mergeSort fun first _ second _ => (listed_before first second).symm).symm

def Complementary (snapshot : Share.Snapshot) (excluded : List ℚ) (chosen : List Int) : Prop :=
  ∀ entry ∈ (summarize snapshot).2, entry.key ∈ chosen ↔ (entry.key : ℚ) ∉ excluded

theorem mem_listed {entry : PageEntry} : entry ∈ (summarize snapshot).2 ↔
    (∃ counted ∈ counts snapshot, isPdfPage counted.1 = true ∧ pdfEntry counted = entry) ∨
      ∃ added ∈ snapshot.virtualPages, addedEntry (counts snapshot) added = entry := by
  unfold summarize
  rw [List.mem_mergeSort, List.mem_append, List.mem_map, List.mem_map]
  simp only [List.mem_filter, and_assoc]
  rfl

theorem chosen_added {chosen : List Int} (h : Complementary snapshot excluded chosen)
    {added : AddedPage} (hadded : added ∈ snapshot.virtualPages) :
    added.id ∈ chosen ↔ (added.id : ℚ) ∉ excluded :=
  h (addedEntry (counts snapshot) added) (mem_listed.2 (.inr ⟨added, hadded, rfl⟩))

theorem chosen_page {chosen : List Int} (h : Complementary snapshot excluded chosen)
    (hclean : Cleaned snapshot) (hmark : mark ∈ snapshot.annotations ++ snapshot.notes) :
    mark.page ∈ chosen ↔ (mark.page : ℚ) ∉ excluded := by
  rcases hclean.known hmark with hpdf | ⟨-, hin⟩
  · have hkey : mark.page ∈ Dictionary.keys (counts snapshot) :=
      Dictionary.mem_keys_tally.2 (List.mem_map_of_mem hmark)
    obtain ⟨counted, hcounted, hpage⟩ := List.mem_map.1 hkey
    rw [← hpage] at hpdf ⊢
    exact h (pdfEntry counted) (mem_listed.2 (.inl ⟨counted, hcounted, hpdf, rfl⟩))
  · obtain ⟨added, hadded, hid⟩ := List.mem_map.1 hin
    rw [← hid]
    exact chosen_added h hadded

theorem keeps_iff (hshare : Shareable annotations notes pages) (hitem : item ∈ annotations ++ notes)
    (excluded : List ℚ) :
    (if isVirtualPageKey (pageKey item) then
        decide (pageKey item ∈
          (pages.filter fun item => numberOf (item.get "id") ∉ excluded).map
            fun item => numberOf (item.get "id"))
      else decide (pageKey item ∉ excluded)) = decide (pageKey item ∉ excluded) := by
  split_ifs with hvirtual
  · rw [decide_eq_decide]
    constructor
    · intro hin
      obtain ⟨page, hpage, hid⟩ := List.mem_map.1 hin
      rw [← hid]
      exact of_decide_eq_true (List.mem_filter.1 hpage).2
    · intro hkept
      obtain ⟨page, hpage, hid⟩ := List.mem_map.1 (hshare.listed item hitem hvirtual)
      have hid' : numberOf (page.get "id") = pageKey item := hid
      exact List.mem_map.2 ⟨page, List.mem_filter.2 ⟨hpage, by simpa [hid'] using hkept⟩, hid⟩
  · rfl

theorem withoutPages_eq (hshare : Shareable annotations notes pages) (h : excluded ≠ []) :
    withoutPages (asValue annotations notes pages) excluded =
      asValue (annotations.filter fun item => pageKey item ∉ excluded)
        (notes.filter fun item => pageKey item ∉ excluded)
        (pages.filter fun page => pageId page ∉ excluded) := by
  obtain ⟨hannotations, hnotes, hpages⟩ := get_asValue annotations notes pages
  have hannotated := List.filter_congr fun item hitem =>
    keeps_iff hshare (List.mem_append_left notes hitem) excluded
  have hnoted := List.filter_congr fun item hitem =>
    keeps_iff hshare (List.mem_append_right annotations hitem) excluded
  unfold withoutPages
  rw [if_neg h, hannotations, hnotes, hpages]
  exact congrArg₂ (fun annotations notes =>
    asValue annotations notes (pages.filter fun page => pageId page ∉ excluded)) hannotated hnoted

theorem on_all {chosen : List Int} (h : Complementary snapshot [] chosen)
    (hclean : Cleaned snapshot) : snapshot.on (fun page => page ∈ chosen) = snapshot := by
  have hmark (mark : Mark) (hmark : mark ∈ snapshot.annotations ++ snapshot.notes) :
      decide (mark.page ∈ chosen) = true :=
    decide_eq_true ((chosen_page h hclean hmark).2 List.not_mem_nil)
  have hadded (added : AddedPage) (hadded : added ∈ snapshot.virtualPages) :
      decide (added.id ∈ chosen) = true :=
    decide_eq_true ((chosen_added h hadded).2 List.not_mem_nil)
  unfold Share.Snapshot.on
  rw [List.filter_eq_self.2 fun mark hin => hmark mark (List.mem_append_left _ hin),
    List.filter_eq_self.2 fun mark hin => hmark mark (List.mem_append_right _ hin),
    List.filter_eq_self.2 hadded]

theorem withoutPages_agree (h : SameSnapshot annotations notes pages snapshot)
    (hshare : Shareable annotations notes pages) (hclean : Cleaned snapshot) {chosen : List Int}
    (hcomplementary : Complementary snapshot excluded chosen) :
    (filterSnapshot snapshot (some chosen)).toJson =
      read (withoutPages (asValue annotations notes pages) excluded) := by
  rw [hclean.filter chosen]
  by_cases hnone : excluded = []
  · subst hnone
    rw [on_all hcomplementary hclean, withoutPages, if_pos rfl]
    exact h.document
  · have hkeep {item : Value} {mark : Mark} (hcarries : Carries item mark)
        (hmark : mark ∈ snapshot.annotations ++ snapshot.notes) :
        decide (pageKey item ∉ excluded) = decide (mark.page ∈ chosen) := by
      rw [decide_eq_decide, hcarries.page]
      exact (chosen_page hcomplementary hclean hmark).symm
    rw [withoutPages_eq hshare hnone]
    refine SameSnapshot.document ⟨?_, ?_, ?_⟩
    · exact Matched.filter h.annotations fun item mark hcarries hin =>
        hkeep hcarries (List.mem_append_left _ hin)
    · exact Matched.filter h.notes fun item mark hcarries hin =>
        hkeep hcarries (List.mem_append_right _ hin)
    · refine Matched.filter h.pages fun page added hadded hin => ?_
      rw [decide_eq_decide, hadded.id]
      exact (chosen_added hcomplementary hin).symm

theorem snapshotFromReader_asValue (engine : Engine) (now : Time) (reader : Value) :
    snapshotFromReader engine now reader =
      asValue (storedAnnotations engine now (handed reader)) (storedNotes engine now (handed reader))
        (storedPages engine (handed reader)) :=
  snapshotFromReader_eq engine now reader

theorem length_latest {α : Type} (limit : Nat) (items : List α) :
    (Snapshot.latest limit items).length ≤ limit := by
  unfold Snapshot.latest
  rw [List.length_drop]
  omega

theorem few_pages (h : ∀ page ∈ storedPages engine value, pageSummary page = none) :
    (storedPages engine value).length ≤ Snapshot.maxVirtualPages := by
  have hfew : 0 + ((storedPages engine value).filter fun page => (pageSummary page).isNone).length ≤
      max 0 Snapshot.maxVirtualPages := keptPages_few [] 0 0 _
  have hall : (storedPages engine value).filter (fun page => (pageSummary page).isNone) =
      storedPages engine value :=
    List.filter_eq_self.2 fun page hpage => by rw [h page hpage]; rfl
  rw [hall, Nat.zero_add, Nat.zero_max] at hfew
  exact hfew

theorem storedPages_again (h : ∀ page ∈ storedPages engine value, pageSummary page = none) :
    Snapshot.sanitizeVirtualPages engine (.array (storedPages engine value)) =
      storedPages engine value := by
  obtain ⟨hrecords, hnodup⟩ : (∀ page ∈ storedPages engine value, IsRecord page ∧ pageId page ∉ []) ∧
      ((storedPages engine value).map pageId).Nodup := keptPages_records [] 0 0 _
  refine keptPages_again [] 0 0 (fun page hpage => ⟨hrecords page hpage, h page hpage⟩) hnodup ?_
  rw [Nat.zero_add]
  exact few_pages h

def CanShare (snapshot : Value) : Prop :=
  Shareable (snapshot.get "annotations").items (snapshot.get "notes").items
    (snapshot.get "virtualPages").items

theorem items_of_eq {list : Value} {items : List Value} (h : list = .array items) :
    list.items = items := by
  rw [h]
  rfl

theorem shareable_of_canShare (h : CanShare (snapshotFromReader engine now reader)) :
    Shareable (storedAnnotations engine now (handed reader)) (storedNotes engine now (handed reader))
      (storedPages engine (handed reader)) := by
  unfold CanShare at h
  rw [items_of_eq get_annotations, items_of_eq get_notes, items_of_eq get_virtualPages] at h
  exact h

theorem exists_shared (h : CanShare (snapshotFromReader engine now reader)) :
    ∃ snapshot, Cleaned snapshot ∧
      SameSnapshot (storedAnnotations engine now (handed reader))
        (storedNotes engine now (handed reader)) (storedPages engine (handed reader)) snapshot := by
  replace h := shareable_of_canShare h
  have hannotations : ∀ item ∈ storedAnnotations engine now (handed reader), ShownMark item :=
    fun item hitem => shown_annotation hitem
  have hnotes : ∀ item ∈ storedNotes engine now (handed reader), Shown item :=
    fun item hitem => shown_note hitem
  have hpages : ∀ page ∈ storedPages engine (handed reader), IsRecord page :=
    fun page hpage => record_of_stored hpage
  have hnodup : ((storedPages engine (handed reader)).map pageId).Nodup :=
    (keptPages_records [] 0 0 _).2
  have hfewAnnotations : (storedAnnotations engine now (handed reader)).length ≤
      Reader.maxAnnotations := (List.length_filterMap_le _ _).trans (length_latest _ _)
  have hfewNotes : (storedNotes engine now (handed reader)).length ≤ Reader.maxNotes :=
    (List.length_filterMap_le _ _).trans (length_latest _ _)
  obtain ⟨snapshot, hsame⟩ := exists_same h hannotations hnotes hpages
  exact ⟨snapshot, cleaned hsame h hannotations hnotes hnodup (few_pages h.noSummary)
    hfewAnnotations hfewNotes, hsame⟩

/-- An upload that can be read is cleaned or refused, cleaning again changes nothing and choosing
pages keeps the marks on them.  What a reader shares of known pages is kept as it is, and both sides
agree on the pages that are listed and on leaving pages out. -/
theorem shares_agree :
    (∀ raw, Readable raw → cleanSnapshot raw ≠ .error .otherError) ∧
    (∀ raw snapshot, cleanSnapshot raw = .ok snapshot →
      cleanSnapshot snapshot.toJson = .ok snapshot ∧ filterSnapshot snapshot none = snapshot ∧
        ∀ chosen, filterSnapshot snapshot (some chosen) = snapshot.on fun page => page ∈ chosen) ∧
    ∀ engine now reader, CanShare (snapshotFromReader engine now reader) →
      ∃ snapshot, cleanSnapshot (read (snapshotFromReader engine now reader)) = .ok snapshot ∧
        snapshot.toJson = read (snapshotFromReader engine now reader) ∧
        summarizeSnapshot engine (snapshotFromReader engine now reader) =
          ((summarize snapshot).1, (summarize snapshot).2.map listedEntry) ∧
        ∀ excluded chosen, Complementary snapshot excluded chosen →
          (filterSnapshot snapshot (some chosen)).toJson =
            read (withoutPages (snapshotFromReader engine now reader) excluded) := by
  refine ⟨fun raw => cleanSnapshot_readable, fun raw snapshot h => ?_, fun engine now reader h => ?_⟩
  · have hclean := cleaned_of_ok h
    exact ⟨hclean.again, rfl, hclean.filter⟩
  · obtain ⟨snapshot, hclean, hsame⟩ := exists_shared h
    replace h := shareable_of_canShare h
    rw [snapshotFromReader_asValue]
    refine ⟨snapshot, ?_, hsame.document, ?_, fun excluded chosen hchosen => ?_⟩
    · rw [← hsame.document]
      exact hclean.again
    · exact summarize_agree hsame (storedPages_again h.noSummary)
    · exact withoutPages_agree hsame h hclean hchosen

def noteOn (engine : Engine) (now : Time) (page : ℤ) : Value :=
  record [
    ("id", .text "note"),
    ("page", number page),
    ("body", .text "here"),
    ("createdAt", .string (engine.isoDate now)),
    ("updatedAt", .string (engine.isoDate now))]

theorem noteOn_stored (h : Snapshot.pageOf engine (number page) = number page) :
    Snapshot.sanitizeCatalogNote engine now (noteOn engine now page) =
      some (noteOn engine now page) := by
  have hid : (noteOn engine now page).get "id" = .text "note" :=
    Script.get_record_of_mem (by simp) (by simp)
  have hpage : (noteOn engine now page).get "page" = number page :=
    Script.get_record_of_mem (by simp) (by simp)
  have hbody : (noteOn engine now page).get "body" = .text "here" :=
    Script.get_record_of_mem (by simp) (by simp)
  have hcreated : (noteOn engine now page).get "createdAt" = .string (engine.isoDate now) :=
    Script.get_record_of_mem (by simp) (by simp)
  have hupdated : (noteOn engine now page).get "updatedAt" = .string (engine.isoDate now) :=
    Script.get_record_of_mem (by simp) (by simp)
  have hdate (fallback : Utf16.Text) : Snapshot.dateOf engine fallback
      (.string (engine.isoDate now)) = some (engine.isoDate now) :=
    Snapshot.dateOf_again ⟨now, rfl⟩ fallback
  have htrimmed : Snapshot.trimmedCut 10000 (.text "here") = ofString "here" := by decide
  have hunits : ofString "here" = [0x68, 0x65, 0x72, 0x65] := by decide
  unfold Snapshot.sanitizeCatalogNote
  rw [hid, hpage, hbody, hcreated, hupdated, htrimmed, hunits, h]
  simp only [Value.text, hdate, Option.bind_eq_bind, Option.bind_some]
  rfl

def summaryPage : Value :=
  Snapshot.pageRecord (record [("summary", .string (List.replicate 36 0x30))]) (-2) 1

/-- Notes behind the last page of a sheet and on a page that was not added, and a page of a summary. -/
def strayReader (engine : Engine) (now : Time) : Value :=
  record [
    ("annotations", .array []),
    ("notes", .array [noteOn engine now 10001, noteOn engine now (-1)]),
    ("virtualPages", .array [summaryPage])]

theorem summaryPage_stored :
    Snapshot.sanitizeVirtualPages engine (.array [summaryPage]) = [summaryPage] := by
  have hgood : GoodNumbers (-2) 1 := ⟨by decide, by decide, by decide, by decide⟩
  have hsummary : (pageSummary summaryPage).isSome = true := by
    unfold summaryPage
    rw [pageSummary_again]
    decide
  show Snapshot.keptPages engine [] 0 0 [summaryPage] = [summaryPage]
  have hnumbers : Snapshot.pageNumbers engine summaryPage = some (-2, 1) := pageNumbers_again hgood
  have hrecord : Snapshot.pageRecord summaryPage (-2) 1 = summaryPage := pageRecord_again
  simp [Snapshot.keptPages, hnumbers, hsummary, hrecord, Snapshot.maxSummaryPages]

theorem get_handed (reader : Value) {name : String}
    (h : name ∈ ["annotations", "notes", "virtualPages"]) : (handed reader).get name = reader.get name := by
  refine Script.get_record_of_mem (by simp) ?_
  simp only [List.mem_cons, List.not_mem_nil, or_false] at h
  rcases h with rfl | rfl | rfl <;> simp

theorem strayReader_snapshot (engine : Engine) (now : Time) :
    snapshotFromReader engine now (strayReader engine now) =
      asValue [] [noteOn engine now 10001, noteOn engine now (-1)] [summaryPage] := by
  have hannotations : (handed (strayReader engine now)).get "annotations" = .array [] :=
    (get_handed _ (by simp)).trans (Script.get_record_of_mem (by simp) (by simp))
  have hnotes : (handed (strayReader engine now)).get "notes" =
      .array [noteOn engine now 10001, noteOn engine now (-1)] :=
    (get_handed _ (by simp)).trans (Script.get_record_of_mem (by simp) (by simp))
  have hpages : (handed (strayReader engine now)).get "virtualPages" = .array [summaryPage] :=
    (get_handed _ (by simp)).trans (Script.get_record_of_mem (by simp) (by simp))
  have hlast : Snapshot.pageOf engine (number (10001 : ℤ)) = number (10001 : ℤ) := by
    have hround : max 1 (Script.round ((10001 : ℤ) : ℚ)) = (10001 : ℤ) := by
      rw [Snapshot.round_intCast]
      norm_num
    have hpage : Snapshot.isVirtualPage (number (10001 : ℤ)) = false := by decide
    unfold Snapshot.pageOf
    rw [hpage]
    exact congrArg number hround
  have hadded : Snapshot.pageOf engine (number (-1 : ℤ)) = number (-1 : ℤ) := if_pos (by decide)
  rw [snapshotFromReader_asValue]
  unfold storedAnnotations storedNotes storedPages
  rw [hannotations, hnotes, hpages, summaryPage_stored]
  have hlatest (items : List Value) (h : items.length ≤ Reader.maxNotes) :
      Snapshot.latest Reader.maxNotes items = items := by
    unfold Snapshot.latest
    rw [Nat.sub_eq_zero_of_le h, List.drop_zero]
  have hstored : (Snapshot.latest Reader.maxNotes
      (Value.array [noteOn engine now 10001, noteOn engine now (-1)]).items).filterMap
        (Snapshot.sanitizeCatalogNote engine now) =
      [noteOn engine now 10001, noteOn engine now (-1)] := by
    rw [items_of_eq rfl, hlatest _ (by simp [Reader.maxNotes]), List.filterMap_cons, noteOn_stored hlast,
      List.filterMap_cons, noteOn_stored hadded]
    rfl
  rw [hstored]
  rfl

theorem noteOn_dropped {ids : List Int} (hread : read (number page) = .int page)
    (hunknown : knownPage ids (.int page) = false) :
    cleanNote ids (read (noteOn engine now page)) = none := by
  have hfields : ([("id", Value.text "note"), ("page", number page), ("body", .text "here"),
      ("createdAt", .string (engine.isoDate now)),
      ("updatedAt", .string (engine.isoDate now))].filter fun field => field.2.isDefined) =
      [("id", .text "note"), ("page", number page), ("body", .text "here"),
        ("createdAt", .string (engine.isoDate now)), ("updatedAt", .string (engine.isoDate now))] :=
    rfl
  rw [noteOn, JsonReading.read_record, hfields]
  simp only [List.map_cons, List.map_nil, hread, cleanNote, keepsNote]
  have hpage : Json.getD [("id", read (.text "note")), ("page", .int page),
      ("body", read (.text "here")), ("createdAt", read (.string (engine.isoDate now))),
      ("updatedAt", read (.string (engine.isoDate now)))] "page" = .int page := rfl
  rw [hpage, hunknown, Bool.and_false]
  rfl

theorem read_summaryPage : ∃ summary, read summaryPage =
    .obj [("id", .int (-2)), ("afterPage", .int 1), ("background", .str "blank".toList),
      ("summary", summary)] := by
  have hsummary : pageSummary (record [("summary", .string (List.replicate 36 0x30))]) =
      some (List.replicate 36 0x30) := by decide
  have hbackground : Snapshot.chosen ["blank", "lined", "grid", "dot"] "blank"
      ((record [("summary", .string (List.replicate 36 0x30))]).get "background") =
        .text "blank" := rfl
  have htwo : read (number ((-2 : ℤ) : ℚ)) = .int (-2) := readNumber_int (by decide)
  have hid : read (number (-2)) = .int (-2) := by exact_mod_cast htwo
  have hafter : read (number 1) = .int 1 := (read_pdfPage (by decide) (by decide)).2
  refine ⟨.str (JsonReading.decoded (List.replicate 36 0x30)), ?_⟩
  have hfields : ([("id", number (-2)), ("afterPage", number 1), ("background", Value.text "blank"),
      ("summary", ((some (List.replicate 36 0x30)).map Value.string).getD .undefined)].filter
        fun field => field.2.isDefined).map (fun field => (field.1, read field.2)) =
      [("id", read (number (-2))), ("afterPage", read (number 1)),
        ("background", read (.text "blank")), ("summary", read (.string (List.replicate 36 0x30)))] :=
    rfl
  rw [summaryPage, Snapshot.pageRecord, hsummary, hbackground, JsonReading.read_record, hfields, hid,
    hafter, read_text]
  rfl

/-- A number in place of the pages raises an error of the language.  Of this reader's snapshot the
server keeps neither a note nor the summary of the page. -/
theorem stray_marks_lost :
    cleanSnapshot (.obj [("virtualPages", .int 5)]) = .error .otherError ∧
    ∀ (engine : Engine) (now : Time),
      ((snapshotFromReader engine now (strayReader engine now)).get "notes").items.length = 2 ∧
      ∃ snapshot, cleanSnapshot (read (snapshotFromReader engine now (strayReader engine now))) =
          .ok snapshot ∧
        snapshot.notes.length = 0 ∧
        snapshot.toJson ≠ read (snapshotFromReader engine now (strayReader engine now)) := by
  refine ⟨rfl, fun engine now => ?_⟩
  rw [strayReader_snapshot, read_asValue]
  obtain ⟨summary, hsummary⟩ := read_summaryPage
  have hpages : cleanPages [] [read summaryPage] = .ok [⟨-2, 1, "blank".toList⟩] := by
    rw [hsummary]
    rfl
  have hlast : cleanNote [-2] (read (noteOn engine now 10001)) = none :=
    noteOn_dropped (readNumber_int (by decide)) (by decide)
  have hunlisted : cleanNote [-2] (read (noteOn engine now (-1))) = none :=
    noteOn_dropped (readNumber_int (by decide)) (by decide)
  have hnotes : [read (noteOn engine now 10001), read (noteOn engine now (-1))].filterMap
      (cleanNote [-2]) = [] := by
    rw [List.filterMap_cons, hlast, List.filterMap_cons, hunlisted]
    rfl
  refine ⟨?_, ⟨[], [], [⟨-2, 1, "blank".toList⟩]⟩, ?_, rfl, ?_⟩
  · rw [items_of_eq (get_asValue _ _ _).2.1]
    rfl
  · have hcut : sliced (.arr [read (noteOn engine now 10001), read (noteOn engine now (-1))])
        (last Share.maxNotes) =
          .ok [read (noteOn engine now 10001), read (noteOn engine now (-1))] :=
      congrArg Except.ok (last_of_few (by simp [Share.maxNotes]))
    have hmarks : sliced (.arr []) (last Share.maxAnnotations) = .ok [] := rfl
    have hannotations : ([] : List Json).mapM ( cleanAnnotation [-2]) = .ok [] := rfl
    have hcleaned : cleanSnapshot (.obj [("annotations", .arr []),
        ("notes", .arr [read (noteOn engine now 10001), read (noteOn engine now (-1))]),
        ("virtualPages", .arr [read summaryPage])]) =
          .ok ⟨([] : List (Option Mark)).reduceOption,
            [read (noteOn engine now 10001), read (noteOn engine now (-1))].filterMap
              (cleanNote [-2]), [⟨-2, 1, "blank".toList⟩]⟩ :=
      cleanSnapshot_of rfl hpages hmarks hannotations hcut
    rw [hnotes] at hcleaned
    exact hcleaned
  · intro h
    simp [Snapshot.toJson] at h

end LockIn.Workspace.Sharing
