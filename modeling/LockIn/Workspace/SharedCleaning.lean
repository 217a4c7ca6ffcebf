import LockIn.Workspace.SharedSnapshot
import Mathlib.Data.List.ReduceOption

/-!
# What cleaning an upload keeps

A snapshot that was cleaned once is cleaned to itself, and of a cleaned snapshot the chosen pages
carry exactly the marks on them.
-/

namespace LockIn.Workspace.Share

open Json (Fields getD hashable)
open List
open Outcome

variable {virtualIds : List Int} {items : List Json} {pages : List AddedPage} {fields : Fields}
  {mark : Mark} {snapshot : Snapshot} {raw : Json}

/-- A value that can be cut. -/
def isSliceable : Json → Bool
  | .arr _ | .str _ | .null | .bool false | .obj [] => true
  | .int number => number = 0
  | .float number => number = 0
  | .bool true | .obj (_ :: _) => false

def AddsPage (fields : Fields) (id : Int) : Prop :=
  getD fields "id" = .int id ∧ isVirtual id = true ∧
    ∃ after, getD fields "afterPage" = .int after ∧ isPdfPage after = true

def HashableBackgrounds (virtualIds : List Int) (items : List Json) : Prop :=
  ∀ before fields rest id, items = before ++ .obj fields :: rest → AddsPage fields id →
    id ∉ virtualIds → (∀ other, .obj other ∈ before → ¬AddsPage other id) →
      hashable (getD fields "background") = true

def HashableTypes (items : List Json) : Prop :=
  ∀ fields, .obj fields ∈ items → hashable (getD fields "type") = true

/-- An upload whose lists can be cut, where no type and no background that is looked at is a list or
an object. -/
def Readable (raw : Json) : Prop :=
  ∀ fields, raw = .obj fields →
    (isSliceable (getD fields "virtualPages") = true ∧
      isSliceable (getD fields "annotations") = true ∧ isSliceable (getD fields "notes") = true) ∧
    (∀ items, getD fields "virtualPages" = .arr items →
      HashableBackgrounds [] (items.take maxVirtualPages)) ∧
    ∀ items, getD fields "annotations" = .arr items → HashableTypes (last maxAnnotations items)

variable {value item : Json} {cut : List Json → List Json} {limit : Nat}

theorem sliced_isOk (h : isSliceable value = true) (cut : List Json → List Json) :
    ∃ items, sliced value cut = .ok items := by
  unfold sliced
  split
  · exact ⟨_, rfl⟩
  · exact ⟨_, rfl⟩
  · exact ⟨_, rfl⟩
  · exact ⟨_, rfl⟩
  · exact ⟨_, rfl⟩
  · rw [if_pos (by simpa [isSliceable] using h)]
    exact ⟨_, rfl⟩
  · rw [if_pos (by simpa [isSliceable] using h)]
    exact ⟨_, rfl⟩
  · cases h
  · cases h

theorem sliced_cases (hcut : ∀ items, cut items ⊆ items) (h : sliced value cut = .ok items) :
    (∃ whole, value = .arr whole ∧ cut whole = items) ∨ ∀ fields, .obj fields ∉ items := by
  have hnone (hitems : cut [] = items) : ∀ fields, .obj fields ∉ items := by
    intro fields hfields
    exact not_mem_nil (hcut [] (hitems ▸ hfields))
  unfold sliced at h
  split at h
  · exact .inl ⟨_, rfl, Except.ok.inj h⟩
  · refine .inr fun fields hfields => ?_
    cases h
    obtain ⟨char, -, hchar⟩ := mem_map.1 (hcut _ hfields)
    cases hchar
  · exact .inr (hnone (Except.ok.inj h))
  · exact .inr (hnone (Except.ok.inj h))
  · exact .inr (hnone (Except.ok.inj h))
  · split_ifs at h
    exact .inr (hnone (Except.ok.inj h))
  · split_ifs at h
    exact .inr (hnone (Except.ok.inj h))
  · cases h
  · cases h

theorem hashableBackgrounds_of_none (h : ∀ fields, .obj fields ∉ items) :
    HashableBackgrounds virtualIds items := by
  rintro before fields rest id rfl
  exact absurd (mem_append_right before mem_cons_self) (h fields)

theorem HashableBackgrounds.tail {item : Json} {known : List Int}
    (h : HashableBackgrounds virtualIds (item :: items)) (hknown : virtualIds ⊆ known)
    (hitem : ∀ other id, item = .obj other → AddsPage other id → id ∈ known) :
    HashableBackgrounds known items := by
  rintro before fields rest id rfl hadds hnew hfirst
  refine h (item :: before) fields rest id rfl hadds (fun hseen => hnew (hknown hseen)) ?_
  intro other hother
  rcases mem_cons.1 hother with heq | hin
  · exact fun hother => hnew (hitem other id heq.symm hother)
  · exact hfirst other hin

theorem cleanPages_isOk (h : HashableBackgrounds virtualIds items) :
    ∃ pages, cleanPages virtualIds items = .ok pages := by
  induction items generalizing virtualIds with
  | nil => exact ⟨[], rfl⟩
  | cons item rest ih =>
    unfold cleanPages
    split
    · exact ⟨[], rfl⟩
    · rename_i fields rest' heq
      obtain ⟨rfl, rfl⟩ := List.cons.inj heq
      split
      · rename_i id after hid hafter
        have hadds {other : Int} (hother : AddsPage fields other) :
            other = id ∧ isVirtual id = true ∧ isPdfPage after = true := by
          obtain ⟨hsame, hvirtual, page, hpage, hpdf⟩ := hother
          obtain rfl : id = other := Json.int.inj (hid.symm.trans hsame)
          obtain rfl : after = page := Json.int.inj (hafter.symm.trans hpage)
          exact ⟨rfl, hvirtual, hpdf⟩
        split_ifs with hkeeps hhash
        · obtain ⟨pages, hpages⟩ := ih (h.tail (subset_cons_self id virtualIds)
            fun other page hsame hother => by
              cases hsame
              exact (hadds hother).1 ▸ mem_cons_self)
          exact ⟨_, by rw [hpages]; rfl⟩
        · exact absurd (h [] fields rest id rfl ⟨hid, hkeeps.1, after, hafter, hkeeps.2.1⟩
            hkeeps.2.2 fun other hother => absurd hother not_mem_nil) hhash
        · refine ih (h.tail (List.Subset.refl _) fun other page hsame hother => ?_)
          cases hsame
          obtain ⟨rfl, hvirtual, hpdf⟩ := hadds hother
          by_contra hnew
          exact hkeeps ⟨hvirtual, hpdf, hnew⟩
      · rename_i hnot
        refine ih (h.tail (List.Subset.refl _) fun other page hsame hother => ?_)
        cases hsame
        obtain ⟨hid, -, after, hafter, -⟩ := hother
        exact absurd hafter (hnot page after hid)
    · rename_i hnot heq
      obtain ⟨rfl, rfl⟩ := List.cons.inj heq
      refine ih (h.tail (List.Subset.refl _) fun other page hsame hother => ?_)
      exact (hnot other hsame).elim

theorem take_subset (limit : Nat) (items : List Json) : items.take limit ⊆ items :=
  (take_sublist _ _).subset

theorem last_subset (limit : Nat) (items : List Json) : last limit items ⊆ items :=
  (drop_sublist _ _).subset

theorem cleanAnnotation_isOk
    (h : ∀ fields, item = .obj fields → hashable (getD fields "type") = true) :
    ∃ result, cleanAnnotation virtualIds item = .ok result := by
  unfold cleanAnnotation
  split
  · rename_i fields
    rw [if_neg (not_not.2 (h fields rfl))]
    exact ⟨_, rfl⟩
  · exact ⟨_, rfl⟩

theorem cleanSnapshot_readable (h : Readable raw) : cleanSnapshot raw ≠ .error .otherError := by
  unfold cleanSnapshot
  split
  · rename_i fields
    obtain ⟨⟨hpages, hannotations, hnotes⟩, hbackgrounds, htypes⟩ := h fields rfl
    obtain ⟨opened, hopened⟩ := sliced_isOk hpages (·.take maxVirtualPages)
    obtain ⟨marks, hmarks⟩ := sliced_isOk hannotations (last maxAnnotations)
    obtain ⟨notes, hnoted⟩ := sliced_isOk hnotes (last maxNotes)
    have hopen : HashableBackgrounds [] opened := by
      rcases sliced_cases (take_subset maxVirtualPages) hopened with ⟨whole, hwhole, rfl⟩ | hnone
      · exact hbackgrounds whole hwhole
      · exact hashableBackgrounds_of_none hnone
    have hmark : HashableTypes marks := by
      rcases sliced_cases (last_subset maxAnnotations) hmarks with ⟨whole, hwhole, rfl⟩ | hnone
      · exact htypes whole hwhole
      · exact fun fields hfields => absurd hfields (hnone fields)
    obtain ⟨pages, hclean⟩ := cleanPages_isOk hopen
    have hresult : ∀ item ∈ marks, ∃ result, cleanAnnotation (pages.map (·.id)) item = .ok result :=
      fun item hitem => cleanAnnotation_isOk fun fields heq => hmark fields (heq ▸ hitem)
    obtain ⟨annotations, hannotated⟩ := mapM_isOk_iff.2 hresult
    rw [hopened, hmarks, hnoted]
    simp only [ok_bind, hclean, hannotated]
    exact fun h => nomatch h
  · exact fun h => nomatch h

def AddedPage.WellFormed (page : AddedPage) : Prop :=
  isVirtual page.id = true ∧ isPdfPage page.afterPage = true ∧ page.background ∈ backgrounds

def Snapshot.ids (snapshot : Snapshot) : List Int := snapshot.virtualPages.map (·.id)

/-- What cleaning leaves: pages of their own, marks and notes on known pages, and no more than the
limits. -/
structure Cleaned (snapshot : Snapshot) : Prop where
  pages : ∀ page ∈ snapshot.virtualPages, page.WellFormed
  nodup : snapshot.ids.Nodup
  annotations : ∀ mark ∈ snapshot.annotations, keepsAnnotation snapshot.ids mark.fields = true
  notes : ∀ mark ∈ snapshot.notes, keepsNote snapshot.ids mark.fields = true
  fewPages : snapshot.virtualPages.length ≤ maxVirtualPages
  fewAnnotations : snapshot.annotations.length ≤ maxAnnotations
  fewNotes : snapshot.notes.length ≤ maxNotes

theorem backgroundOf_mem (value : Json) : backgroundOf value ∈ backgrounds := by
  unfold backgroundOf
  split
  · split_ifs with hin
    · exact hin
    · decide
  · decide

theorem cleanPages_wellFormed (h : cleanPages virtualIds items = .ok pages) :
    (∀ page ∈ pages, page.WellFormed ∧ page.id ∉ virtualIds) ∧ (pages.map (·.id)).Nodup ∧
      pages.length ≤ items.length := by
  induction items generalizing virtualIds pages with
  | nil =>
    cases h
    exact ⟨fun page hpage => absurd hpage not_mem_nil, nodup_nil, le_refl _⟩
  | cons item rest ih =>
    have hskip (h : cleanPages virtualIds rest = .ok pages) :
        (∀ page ∈ pages, page.WellFormed ∧ page.id ∉ virtualIds) ∧ (pages.map (·.id)).Nodup ∧
          pages.length ≤ (item :: rest).length := by
      obtain ⟨hpages, hnodup, hlength⟩ := ih h
      exact ⟨hpages, hnodup, hlength.trans (Nat.le_succ _)⟩
    unfold cleanPages at h
    split at h
    · rename_i heq
      cases heq
    · rename_i fields rest' heq
      obtain ⟨rfl, rfl⟩ := List.cons.inj heq
      split at h
      · rename_i id after hid hafter
        split_ifs at h with hkeeps hhash
        · obtain ⟨others, hothers, h⟩ := bind_eq_ok.1 h
          cases h
          obtain ⟨hpages, hnodup, hlength⟩ := ih hothers
          refine ⟨?_, ?_, Nat.succ_le_succ hlength⟩
          · intro page hpage
            rcases mem_cons.1 hpage with rfl | hin
            · exact ⟨⟨hkeeps.1, hkeeps.2.1, backgroundOf_mem _⟩, hkeeps.2.2⟩
            · obtain ⟨hwell, hfresh⟩ := hpages page hin
              exact ⟨hwell, fun hseen => hfresh (mem_cons_of_mem _ hseen)⟩
          · rw [map_cons, nodup_cons]
            refine ⟨fun hin => ?_, hnodup⟩
            obtain ⟨page, hpage, hsame⟩ := mem_map.1 hin
            exact (hpages page hpage).2 (hsame ▸ mem_cons_self)
        · exact hskip h
      · exact hskip h
    · rename_i heq
      obtain ⟨-, rfl⟩ := List.cons.inj heq
      exact hskip h

theorem markOn_fields (mark : Mark) : markOn mark.fields = some mark := by
  unfold markOn
  split
  · rename_i page hpage
    obtain rfl : mark.page = page := Json.int.inj (mark.onPage.symm.trans hpage)
    rfl
  · rename_i hnot
    exact absurd mark.onPage (hnot mark.page)

theorem fields_of_markOn (h : markOn fields = some mark) : mark.fields = fields := by
  unfold markOn at h
  split at h
  · cases h
    rfl
  · cases h

theorem cleanAnnotation_some (h : cleanAnnotation virtualIds item = .ok (some mark)) :
    keepsAnnotation virtualIds mark.fields = true := by
  unfold cleanAnnotation at h
  split at h
  · split_ifs at h with hhash hkeeps
    · rw [fields_of_markOn (Except.ok.inj h)]
      exact hkeeps
    · cases h
  · cases h

theorem cleanNote_some (h : cleanNote virtualIds item = some mark) :
    keepsNote virtualIds mark.fields = true := by
  unfold cleanNote at h
  split at h
  · split_ifs at h with hkeeps
    rw [fields_of_markOn h]
    exact hkeeps
  · cases h

theorem sliced_length (hcut : ∀ items, (cut items).length ≤ limit)
    (h : sliced value cut = .ok items) : items.length ≤ limit := by
  unfold sliced at h
  split at h
  · cases h
    exact hcut _
  · cases h
    exact hcut _
  · cases h
    exact hcut _
  · cases h
    exact hcut _
  · cases h
    exact hcut _
  · split_ifs at h
    cases h
    exact hcut _
  · split_ifs at h
    cases h
    exact hcut _
  · cases h
  · cases h

theorem length_last (limit : Nat) (items : List Json) : (last limit items).length ≤ limit := by
  unfold last
  rw [length_drop]
  omega

theorem cleaned_of_ok (h : cleanSnapshot raw = .ok snapshot) : Cleaned snapshot := by
  unfold cleanSnapshot at h
  split at h
  · obtain ⟨pages, hpages, h⟩ := bind_eq_ok.1 h
    obtain ⟨opened, hopened, hpages⟩ := bind_eq_ok.1 hpages
    obtain ⟨annotations, hannotations, h⟩ := bind_eq_ok.1 h
    obtain ⟨marks, hmarks, hannotations⟩ := bind_eq_ok.1 hannotations
    obtain ⟨notes, hnotes, h⟩ := bind_eq_ok.1 h
    cases h
    obtain ⟨hwell, hnodup, hlength⟩ := cleanPages_wellFormed hpages
    have hsame := congrArg List.length (mapM_ok_iff.1 hannotations)
    rw [length_map, length_map] at hsame
    constructor
    · exact fun page hpage => (hwell page hpage).1
    · exact hnodup
    · intro mark hmark
      rw [reduceOption_mem_iff] at hmark
      obtain ⟨item, -, hitem⟩ := (mem_of_mapM hannotations).1 hmark
      exact cleanAnnotation_some hitem
    · intro mark hmark
      obtain ⟨item, -, hitem⟩ := mem_filterMap.1 hmark
      exact cleanNote_some hitem
    · exact hlength.trans (sliced_length (length_take_le _) hopened)
    · refine (reduceOption_length_le _).trans ?_
      rw [← hsame]
      exact sliced_length (length_last _) hmarks
    · exact (length_filterMap_le _ _).trans (sliced_length (length_last _) hnotes)
  · cases h

theorem cleanPages_again (hpages : ∀ page ∈ pages, page.WellFormed ∧ page.id ∉ virtualIds)
    (hnodup : (pages.map (·.id)).Nodup) :
    cleanPages virtualIds (pages.map AddedPage.toJson) = .ok pages := by
  induction pages generalizing virtualIds with
  | nil => rfl
  | cons page rest ih =>
    obtain ⟨hwell, hfresh⟩ := hpages page mem_cons_self
    rw [map_cons, nodup_cons] at hnodup
    have hothers : ∀ other ∈ rest, other.WellFormed ∧ other.id ∉ page.id :: virtualIds := by
      intro other hother
      obtain ⟨hother', hnew⟩ := hpages other (mem_cons_of_mem _ hother)
      refine ⟨hother', fun hseen => ?_⟩
      rcases mem_cons.1 hseen with heq | hin
      · exact hnodup.1 (heq ▸ mem_map_of_mem hother)
      · exact hnew hin
    have hrest := ih hothers hnodup.2
    have hid : getD [("id", .int page.id), ("afterPage", .int page.afterPage),
        ("background", .str page.background)] "id" = .int page.id := rfl
    have hafter : getD [("id", .int page.id), ("afterPage", .int page.afterPage),
        ("background", .str page.background)] "afterPage" = .int page.afterPage := rfl
    have hbackground : getD [("id", .int page.id), ("afterPage", .int page.afterPage),
        ("background", .str page.background)] "background" = .str page.background := rfl
    rw [map_cons, AddedPage.toJson, cleanPages, hid, hafter, hbackground]
    dsimp only
    rw [if_pos ⟨hwell.1, hwell.2.1, hfresh⟩, if_neg (by simp [hashable]), hrest, backgroundOf,
      if_pos hwell.2.2]
    rfl

theorem hashable_of_keeps (h : keepsAnnotation virtualIds fields = true) :
    hashable (getD fields "type") = true := by
  unfold keepsAnnotation at h
  simp only [Bool.and_eq_true] at h
  obtain ⟨type, -, htype⟩ := List.any_eq_true.1 h.1.1.1
  unfold isType at htype
  split at htype
  · rename_i text hstr
    rw [hstr]
    rfl
  · cases htype

theorem cleanAnnotation_again (h : keepsAnnotation virtualIds mark.fields = true) :
    cleanAnnotation virtualIds mark.toJson = .ok (some mark) := by
  rw [Mark.toJson, cleanAnnotation, if_neg (not_not.2 (hashable_of_keeps h)), if_pos h,
    markOn_fields]

theorem cleanNote_again (h : keepsNote virtualIds mark.fields = true) :
    cleanNote virtualIds mark.toJson = some mark := by
  rw [Mark.toJson, cleanNote, if_pos h, markOn_fields]

theorem last_of_few (h : items.length ≤ limit) : last limit items = items := by
  unfold last
  rw [Nat.sub_eq_zero_of_le h, drop_zero]

theorem cleanSnapshot_of {opened marks notes : List Json} {annotations : List (Option Mark)}
    (hopened : sliced (getD fields "virtualPages") (·.take maxVirtualPages) = .ok opened)
    (hpages : cleanPages [] opened = .ok pages)
    (hmarks : sliced (getD fields "annotations") (last maxAnnotations) = .ok marks)
    (hannotations : marks.mapM ( cleanAnnotation (pages.map (·.id))) = .ok annotations)
    (hnotes : sliced (getD fields "notes") (last maxNotes) = .ok notes) :
    cleanSnapshot (.obj fields) =
      .ok ⟨annotations.reduceOption, notes.filterMap (cleanNote (pages.map (·.id))), pages⟩ := by
  rw [cleanSnapshot, hopened, hmarks, hnotes]
  simp only [ok_bind, hpages, hannotations]

theorem Cleaned.again (h : Cleaned snapshot) : cleanSnapshot snapshot.toJson = .ok snapshot := by
  have hpages : cleanPages [] ((snapshot.virtualPages.map AddedPage.toJson).take maxVirtualPages) =
      .ok snapshot.virtualPages := by
    rw [take_of_length_le (by rw [length_map]; exact h.fewPages)]
    exact cleanPages_again (fun page hpage => ⟨h.pages page hpage, not_mem_nil⟩) h.nodup
  have hannotations : (last maxAnnotations (snapshot.annotations.map Mark.toJson)).mapM
      ( cleanAnnotation snapshot.ids) = .ok (snapshot.annotations.map some) := by
    rw [last_of_few (by rw [length_map]; exact h.fewAnnotations), mapM_ok_iff,
      map_map, map_map]
    exact map_congr_left fun mark hmark => cleanAnnotation_again (h.annotations mark hmark)
  have hnotes : (last maxNotes (snapshot.notes.map Mark.toJson)).filterMap
      (cleanNote snapshot.ids) = snapshot.notes := by
    rw [last_of_few (by rw [length_map]; exact h.fewNotes), filterMap_map]
    refine (filterMap_congr fun mark hmark => ?_).trans filterMap_some
    exact cleanNote_again (h.notes mark hmark)
  rw [Snapshot.toJson, cleanSnapshot_of rfl hpages rfl hannotations rfl]
  have hmarks : (snapshot.annotations.map some).reduceOption = snapshot.annotations := by
    simp [List.reduceOption]
  rw [hmarks]
  exact congrArg (fun notes =>
    Except.ok (Snapshot.mk snapshot.annotations notes snapshot.virtualPages)) hnotes

def Snapshot.on (snapshot : Snapshot) (chosen : Int → Bool) : Snapshot :=
  ⟨snapshot.annotations.filter (chosen ·.page), snapshot.notes.filter (chosen ·.page),
    snapshot.virtualPages.filter (chosen ·.id)⟩

theorem page_known (h : knownPage virtualIds (getD mark.fields "page") = true) :
    isPdfPage mark.page = true ∨ isVirtual mark.page = true ∧ mark.page ∈ virtualIds := by
  rw [mark.onPage] at h
  simpa [knownPage] using h

theorem Cleaned.known (h : Cleaned snapshot) (hmark : mark ∈ snapshot.annotations ++ snapshot.notes) :
    isPdfPage mark.page = true ∨ isVirtual mark.page = true ∧ mark.page ∈ snapshot.ids := by
  rcases mem_append.1 hmark with hin | hin
  · have hkeeps := h.annotations mark hin
    simp only [ keepsAnnotation, Bool.and_eq_true] at hkeeps
    exact page_known hkeeps.1.1.2
  · have hkeeps := h.notes mark hin
    simp only [keepsNote, Bool.and_eq_true] at hkeeps
    exact page_known hkeeps.2

theorem not_virtual_of_pdf {page : Int} (h : isPdfPage page = true) : isVirtual page = false := by
  simp only [isPdfPage, decide_eq_true_eq] at h
  simp only [isVirtual, decide_eq_false_iff_not]
  omega

theorem Cleaned.filter (h : Cleaned snapshot) (chosen : List Int) :
    filterSnapshot snapshot (some chosen) = snapshot.on fun page => page ∈ chosen := by
  have hkeep : ∀ mark ∈ snapshot.annotations ++ snapshot.notes,
      (if isVirtual mark.page then
        decide (mark.page ∈ (snapshot.virtualPages.filter (·.id ∈ chosen)).map (·.id))
      else decide (mark.page ∈ chosen)) = decide (mark.page ∈ chosen) := by
    intro mark hmark
    split_ifs with hvirtual
    · rw [decide_eq_decide]
      constructor
      · intro hin
        obtain ⟨page, hpage, heq⟩ := mem_map.1 hin
        rw [← heq]
        exact of_decide_eq_true (mem_filter.1 hpage).2
      · intro hchosen
        rcases h.known hmark with hpdf | ⟨-, hin⟩
        · rw [not_virtual_of_pdf hpdf] at hvirtual
          cases hvirtual
        · obtain ⟨page, hpage, heq⟩ := mem_map.1 hin
          exact mem_map.2 ⟨page, mem_filter.2 ⟨hpage, by simpa [heq] using hchosen⟩, heq⟩
    · rfl
  unfold filterSnapshot Snapshot.on
  dsimp only
  rw [filter_congr fun mark hmark => hkeep mark (mem_append_left _ hmark),
    filter_congr fun mark hmark => hkeep mark (mem_append_right _ hmark)]

end LockIn.Workspace.Share
