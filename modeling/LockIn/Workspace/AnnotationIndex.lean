import LockIn.Library.Grids
import LockIn.Workspace.CatalogAnnotation

/-!
# The spatial index of annotations

Annotations are found on a page by a grid.  An annotation is put into the cells that its bounds
touch, with as much room as it is painted outside of them, and a query looks into the cells of a
square or a rectangle.
-/

namespace LockIn.Workspace.SpatialIndex

open Grids (Rect Cell Buckets bucket insert cells)
open List
open scoped Grids
open Utf16 (Text)

structure Position (K : Type) where
  x : K
  y : K

inductive Body (K : Type) where
  | ink (type : StrokeTool) (points : List (Position K)) (width : Option K)
  | shape (start finish : Position K) (width : Option K)
  | frame (x y width height : K)
  | text (text : Text) (x y width : K) (align : Align)
  | other

/-- No page, or none that is a number, is the first page. -/
structure AnnotationRecord (K : Type) where
  id : Text
  page : Option K
  body : Body K

abbrev PageBuckets (K : Type) : Type := Buckets (AnnotationRecord K)

section
variable {K : Type} {item : AnnotationRecord K} {buckets : PageBuckets K} {places : List Cell}
  {cell : Cell}

def candidates (buckets : PageBuckets K) (places : List Cell) : List (AnnotationRecord K) :=
  (Dictionary.ofList ((places.flatMap (bucket buckets)).map fun item =>
    (item.id, item))).map Prod.snd

theorem mem_candidates_of_entry {key : Text}
    (h : (key, item) ∈ Dictionary.ofList ((places.flatMap (bucket buckets)).map fun item =>
      (item.id, item))) :
    item.id = key ∧ ∃ cell ∈ places, item ∈ bucket buckets cell := by
  obtain ⟨found, hfound, heq⟩ := mem_map.1 (Dictionary.mem_of_mem_ofList h)
  obtain ⟨hkey, rfl⟩ := Prod.mk.inj heq
  exact ⟨hkey, mem_flatMap.1 hfound⟩

theorem candidates_nodup : ((candidates buckets places).map AnnotationRecord.id).Nodup := by
  have hkeys := Dictionary.nodup_ofList ((places.flatMap (bucket buckets)).map fun item =>
    (item.id, item))
  unfold candidates
  rw [map_map]
  have hsame : (Dictionary.ofList ((places.flatMap (bucket buckets)).map fun item =>
      (item.id, item))).map (AnnotationRecord.id ∘ Prod.snd) =
        (Dictionary.ofList ((places.flatMap (bucket buckets)).map fun item =>
          (item.id, item))).map Prod.fst :=
    map_congr_left fun entry hentry => (mem_candidates_of_entry hentry).1
  rw [hsame]
  exact hkeys

theorem mem_bucket_of_candidates (h : item ∈ candidates buckets places) :
    ∃ cell ∈ places, item ∈ bucket buckets cell := by
  obtain ⟨entry, hentry, rfl⟩ := mem_map.1 h
  exact (mem_candidates_of_entry hentry).2

theorem mem_candidates (hcell : cell ∈ places) (hin : item ∈ bucket buckets cell)
    (hid : ∀ other, (∃ cell ∈ places, other ∈ bucket buckets cell) → other.id = item.id →
      other = item) : item ∈ candidates buckets places := by
  have hpair : item.id ∈ Dictionary.keys ((places.flatMap (bucket buckets)).map
      fun item => (item.id, item)) :=
    mem_map.2 ⟨_, mem_map.2 ⟨item, mem_flatMap.2 ⟨cell, hcell, hin⟩, rfl⟩, rfl⟩
  obtain ⟨entry, hentry, hkey⟩ := mem_map.1 (Dictionary.mem_keys_ofList.2 hpair)
  obtain ⟨key, found⟩ := entry
  obtain ⟨hfound, hplace⟩ := mem_candidates_of_entry hentry
  obtain rfl : found = item := hid found hplace (hfound.trans hkey)
  exact mem_map.2 ⟨_, hentry, rfl⟩

theorem candidates_nil : candidates ([] : PageBuckets K) places = [] := by
  have hempty : places.flatMap (bucket ([] : PageBuckets K)) = [] := by
    rw [flatMap_eq_nil_iff]
    exact fun _ _ => rfl
  rw [candidates, hempty]
  rfl

end

structure Index (K : Type) where
  cellSize : K
  pages : List (K × PageBuckets K)

section
variable {K : Type} [DecidableEq K]

def pageBuckets (pages : List (K × PageBuckets K)) (page : K) : PageBuckets K :=
  (Dictionary.get pages page).getD []

theorem pageBuckets_set (pages : List (K × PageBuckets K)) (key : K)
    (buckets : PageBuckets K) (page : K) :
    pageBuckets (Dictionary.set pages key buckets) page =
      if page = key then buckets else pageBuckets pages page := by
  rw [pageBuckets, Dictionary.get_set]
  split_ifs
  · rfl
  · rfl

end

section
variable {K : Type} [Field K] [LinearOrder K] [FloorRing K]

/-- `finite(value, 1)` -/
def finiteOrOne (value : Option K) : K := value.getD 1

/-- `Number(page) || 1` -/
def pageNumber (page : Option K) : K :=
  match page with
  | none => 1
  | some page => if page = 0 then 1 else page

/-- `text.split("\n")` -/
def linesOf : Text → List Text
  | [] => [[]]
  | unit :: rest =>
    if unit = 10 then [] :: linesOf rest
    else
      match linesOf rest with
      | [] => [[unit]]
      | line :: lines => (unit :: line) :: lines

def longest (lines : List Text) : Nat := (lines.map List.length).foldl max 0

/-- The loop over the points: the smallest and the largest coordinates. -/
def inkBounds (first : Position K) (rest : List (Position K)) : Rect K :=
  let minX := rest.foldl (fun least point => min least point.x) first.x
  let maxX := rest.foldl (fun greatest point => max greatest point.x) first.x
  let minY := rest.foldl (fun least point => min least point.y) first.y
  let maxY := rest.foldl (fun greatest point => max greatest point.y) first.y
  ⟨minX, minY, max 1 (maxX - minX), max 1 (maxY - minY)⟩

def textBounds (text : Text) (x y annotationWidth : K) (align : Align) : Rect K :=
  let lines := linesOf text
  let fontSize := max 18 (annotationWidth * 5)
  let width := max 60 ((longest lines : K) * fontSize * (56 / 100))
  let left :=
    match align with
    | .center => x - width / 2
    | .right => x - width
    | .left => x
  ⟨left, y - fontSize, width, fontSize * (12 / 10 + ((lines.length : K) - 1) * (13 / 10))⟩

def annotationBounds (item : AnnotationRecord K) : Option (Rect K) :=
  match item.body with
  | .ink _ [] _ => none
  | .ink _ (first :: rest) _ => some (inkBounds first rest)
  | .shape start finish _ => some ⟨min start.x finish.x, min start.y finish.y,
      max 1 |finish.x - start.x|, max 1 |finish.y - start.y|⟩
  | .frame x y width height => some ⟨x, y, width, height⟩
  | .text text x y width align => some (textBounds text x y width align)
  | .other => none

/-- How far an annotation is painted outside its bounds. -/
def paddingOf (item : AnnotationRecord K) : K :=
  match item.body with
  | .ink _ _ width => max (1 / 2) (finiteOrOne width * (115 / 100))
  | .shape _ _ width => max (1 / 2) (finiteOrOne width / 2)
  | _ => 0

/-- One round of `createAnnotationSpatialIndex`. -/
def addItem (cellSize : K) (pages : List (K × PageBuckets K))
    (item : AnnotationRecord K) : List (K × PageBuckets K) :=
  match annotationBounds item with
  | none => pages
  | some bounds =>
    let padding := paddingOf item
    let page := pageNumber item.page
    let places := cells cellSize (bounds.x - padding) (bounds.x + bounds.width + padding)
      (bounds.y - padding) (bounds.y + bounds.height + padding)
    Dictionary.set pages page (insert (pageBuckets pages page) places item)

def createAnnotationSpatialIndex (annotations : List (AnnotationRecord K)) (cellSize : K) :
    Index K :=
  ⟨cellSize, annotations.foldl (addItem cellSize) []⟩

def defaultCellSize : K := 140

/-- `Number(index?.cellSize) || 140` -/
def Index.size (index : Index K) : K :=
  if index.cellSize = 0 then defaultCellSize else index.cellSize

def queryAnnotationSpatialIndex (index : Index K) (page : Option K) (point : Position K) (radius : K) :
    List (AnnotationRecord K) :=
  match Dictionary.get index.pages (pageNumber page) with
  | none => []
  | some buckets => candidates buckets (cells index.size (point.x - radius) (point.x + radius)
      (point.y - radius) (point.y + radius))

def queryAnnotationSpatialIndexBounds (index : Index K) (page : Option K)
    (bounds : Option (Rect K)) : List (AnnotationRecord K) :=
  match Dictionary.get index.pages (pageNumber page), bounds with
  | some buckets, some bounds => candidates buckets (cells index.size bounds.x
      (bounds.x + bounds.width) bounds.y (bounds.y + bounds.height))
  | _, _ => []

def square (point : Position K) (radius : K) : Rect K :=
  ⟨point.x - radius, point.y - radius, 2 * radius, 2 * radius⟩

def Touches (item : AnnotationRecord K) (rect : Rect K) : Prop :=
  ∃ bounds, annotationBounds item = some bounds ∧
    (bounds.grow (paddingOf item)).Meets rect

variable {annotations : List (AnnotationRecord K)} {item other : AnnotationRecord K}
  {cell : Cell} {size page : K}

def placesOf (size : K) (item : AnnotationRecord K) : List Cell :=
  match annotationBounds item with
  | none => []
  | some bounds =>
    cells size (bounds.x - paddingOf item) (bounds.x + bounds.width + paddingOf item)
      (bounds.y - paddingOf item) (bounds.y + bounds.height + paddingOf item)

theorem mem_addItem (pages : List (K × PageBuckets K)) :
    other ∈ bucket (pageBuckets (addItem size pages item) page) cell ↔
      other ∈ bucket (pageBuckets pages page) cell ∨
        (page = pageNumber item.page ∧ cell ∈ placesOf size item ∧ other = item) := by
  unfold addItem placesOf
  cases annotationBounds item with
  | none => simp
  | some bounds =>
    simp only
    rw [pageBuckets_set]
    by_cases hpage : page = pageNumber item.page
    · rw [if_pos hpage, Grids.mem_bucket_insert, hpage]
      simp
    · rw [if_neg hpage]
      simp [hpage]

theorem mem_index :
    other ∈ bucket (pageBuckets (createAnnotationSpatialIndex annotations size).pages page) cell ↔
      other ∈ annotations ∧ page = pageNumber other.page ∧ cell ∈ placesOf size other := by
  have hfold (annotations : List (AnnotationRecord K)) (pages : List (K × PageBuckets K)) :
      other ∈ bucket (pageBuckets (annotations.foldl (addItem size) pages) page) cell ↔
        other ∈ bucket (pageBuckets pages page) cell ∨
          (other ∈ annotations ∧ page = pageNumber other.page ∧ cell ∈ placesOf size other) := by
    induction annotations generalizing pages with
    | nil => simp
    | cons item rest ih =>
      rw [foldl_cons, ih, mem_addItem, or_assoc, mem_cons]
      constructor
      · rintro (hold | ⟨hpage, hcell, rfl⟩ | ⟨hin, hplace⟩)
        · exact .inl hold
        · exact .inr ⟨.inl rfl, hpage, hcell⟩
        · exact .inr ⟨.inr hin, hplace⟩
      · rintro (hold | ⟨rfl | hin, hplace⟩)
        · exact .inl hold
        · exact .inr (.inl ⟨hplace.1, hplace.2, rfl⟩)
        · exact .inr (.inr ⟨hin, hplace⟩)
  have h := hfold annotations []
  simpa [createAnnotationSpatialIndex, pageBuckets, Dictionary.get, Table.find] using h

def lookup (index : Index K) (page : Option K) (left right top bottom : K) :
    List (AnnotationRecord K) :=
  candidates (pageBuckets index.pages (pageNumber page)) (cells index.size left right top bottom)

theorem query_eq_lookup (index : Index K) (page : Option K) (point : Position K) (radius : K) :
    queryAnnotationSpatialIndex index page point radius =
      lookup index page (point.x - radius) (point.x + radius) (point.y - radius)
        (point.y + radius) := by
  unfold queryAnnotationSpatialIndex lookup pageBuckets
  cases Dictionary.get index.pages (pageNumber page) with
  | none => rw [Option.getD_none, candidates_nil]
  | some buckets => rfl

theorem queryBounds_eq_lookup (index : Index K) (page : Option K) (bounds : Rect K) :
    queryAnnotationSpatialIndexBounds index page (some bounds) =
      lookup index page bounds.x (bounds.x + bounds.width) bounds.y
        (bounds.y + bounds.height) := by
  unfold queryAnnotationSpatialIndexBounds lookup pageBuckets
  cases Dictionary.get index.pages (pageNumber page) with
  | none => rw [Option.getD_none, candidates_nil]
  | some buckets => rfl

theorem default_size (annotations : List (AnnotationRecord K)) :
    (createAnnotationSpatialIndex annotations defaultCellSize).size = defaultCellSize := by
  rw [Index.size, createAnnotationSpatialIndex]
  exact ite_self _

theorem lookup_subset {left right top bottom : K} {page : Option K}
    (h : item ∈ lookup (createAnnotationSpatialIndex annotations defaultCellSize) page left right
      top bottom) : item ∈ annotations ∧ pageNumber item.page = pageNumber page := by
  obtain ⟨cell, -, hcell⟩ := mem_bucket_of_candidates h
  exact ⟨(mem_index.1 hcell).1, (mem_index.1 hcell).2.1.symm⟩

variable [IsStrictOrderedRing K]

theorem mem_lookup {left right top bottom : K} {page : Option K}
    (hids : (annotations.map AnnotationRecord.id).Nodup) (hin : item ∈ annotations)
    (hpage : pageNumber item.page = pageNumber page)
    (htouches : Touches item ⟨left, top, right - left, bottom - top⟩) :
    item ∈ lookup (createAnnotationSpatialIndex annotations defaultCellSize) page left right top
      bottom := by
  obtain ⟨bounds, hbounds, x, y, ⟨hxBounds, hyBounds⟩, hxRect, hyRect⟩ := htouches
  have hsize : (0 : K) < defaultCellSize := by norm_num [defaultCellSize]
  simp only [Rect.grow] at hxBounds hyBounds
  have hplace : (Grids.cellOf defaultCellSize x, Grids.cellOf defaultCellSize y) ∈
      placesOf defaultCellSize item := by
    unfold placesOf
    rw [hbounds]
    refine Grids.cell_mem_cells hsize ⟨hxBounds.1, ?_⟩ ⟨hyBounds.1, ?_⟩
    · linarith [hxBounds.2]
    · linarith [hyBounds.2]
  unfold lookup
  rw [default_size]
  refine mem_candidates (Grids.cell_mem_cells hsize ⟨hxRect.1, ?_⟩ ⟨hyRect.1, ?_⟩)
    (mem_index.2 ⟨hin, hpage.symm, hplace⟩) ?_
  · linarith [hxRect.2]
  · linarith [hyRect.2]
  · rintro other ⟨cell, -, hother⟩ hid
    exact inj_on_of_nodup_map hids (mem_index.1 hother).1 hin hid

end

end LockIn.Workspace.SpatialIndex
