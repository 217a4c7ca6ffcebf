import LockIn.Workspace.EraserIndex

/-!
# Spatial queries miss nothing

An annotation whose painted bounds meet what is asked for is returned, and the index of an eraser path
answers as a test of every segment against every other does, however many queries it has served.  The
latter needs a reach that is not below the tolerance at which segments count as crossing.  Every call has
one: the width of the stroke is always included, and the radius of an eraser is not negative.
-/

namespace LockIn.Workspace.Ink

open Grids (Rect)
open List
open scoped Grids
open SpatialIndex (Position AnnotationRecord)

section
variable {index : EraserIndex} {path : List (Position ℝ)} {radius threshold : ℝ} {stroke : InkStroke}
  {includeStrokeWidth : Bool} {first second : Segment}

theorem grown_holds {rect : Rect ℝ} {x y x' y' : ℝ} (h : rect.Holds x y) (hx : |x - x'| ≤ threshold)
    (hy : |y - y'| ≤ threshold) : (rect.grow threshold).Holds x' y' := by
  obtain ⟨⟨hleft, hright⟩, htop, hbottom⟩ := h
  rw [abs_le] at hx hy
  refine ⟨⟨?_, ?_⟩, ?_, ?_⟩ <;> simp only [Rect.grow] <;> linarith

theorem near_grown (h : Near first second threshold) :
    ∃ x y, (boundsOf second).Holds x y ∧ ((boundsOf first).grow threshold).Holds x y := by
  obtain ⟨x, y, x', y', hfirst, hsecond, hx, hy⟩ := h
  exact ⟨x', y', hsecond, grown_holds hfirst hx hy⟩

theorem segment_query (h : Reached path radius index) (hreach : threshold < 0 ∨ tolerance ≤ threshold) :
    (someEraserSegmentNear index (boundsOf first) threshold fun segment =>
      distanceBetweenSegments first segment ≤ threshold).2 =
        (eraserSegments path).any fun segment => distanceBetweenSegments first segment ≤ threshold := by
  obtain ⟨hsound, hsegments⟩ := h.sound
  rw [query_eq_any hsound, hsegments]
  intro segment _ hnear
  rw [decide_eq_true_eq] at hnear
  rcases hreach with hnegative | htolerance
  · exact absurd ((distanceBetweenSegments_nonneg first segment).trans hnear) (not_le.2 hnegative)
  · exact near_grown (near_of_distanceBetween htolerance hnear)

theorem point_query (h : Reached path radius index) (point : Position ℝ) :
    (pointTouchesEraserPath point index threshold).2 =
      (eraserSegments path).any fun segment => distancePointToSegment point segment ≤ threshold := by
  obtain ⟨hsound, hsegments⟩ := h.sound
  rw [pointTouchesEraserPath, query_eq_any hsound, hsegments]
  intro segment _ hnear
  rw [decide_eq_true_eq] at hnear
  obtain ⟨x, y, hheld, hx, hy⟩ := distance_place point segment
  have hpoint : Rect.Holds ⟨point.x, point.y, 0, 0⟩ point.x point.y := by
    simp [Rect.Holds]
  exact ⟨x, y, hheld, grown_holds hpoint (hx.trans hnear) (hy.trans hnear)⟩

variable {size : ℝ}

theorem anyPairNear_spec (pairs : List (Sample × Sample)) (h : Reached path radius index)
    (hreach : ∀ pair ∈ pairs, reach stroke size includeStrokeWidth pair < 0 ∨
      tolerance ≤ reach stroke size includeStrokeWidth pair) :
    (anyPairNear stroke size includeStrokeWidth pairs index).2 =
      pairs.any fun pair => (eraserSegments path).any fun segment =>
        distanceBetweenSegments (segmentOf pair) segment ≤
          reach stroke size includeStrokeWidth pair := by
  induction pairs generalizing index with
  | nil => rfl
  | cons pair rest ih =>
    have hquery : (someEraserSegmentNear index (boundsOf (segmentOf pair))
        (reach stroke size includeStrokeWidth pair) fun segment =>
          distanceBetweenSegments (segmentOf pair) segment ≤
            reach stroke size includeStrokeWidth pair).2 =
        (eraserSegments path).any fun segment => distanceBetweenSegments (segmentOf pair) segment ≤
          reach stroke size includeStrokeWidth pair :=
      segment_query h (hreach pair mem_cons_self)
    have hlater : Reached path radius _ := .queried (boundsOf (segmentOf pair))
      (reach stroke size includeStrokeWidth pair) (fun segment =>
        distanceBetweenSegments (segmentOf pair) segment ≤
          reach stroke size includeStrokeWidth pair) h
    have hrest := ih hlater fun other hother => hreach other (mem_cons_of_mem _ hother)
    rw [anyPairNear, any_cons, ← hquery]
    simp only
    split_ifs with hnear
    · rw [hnear, Bool.true_or]
    · rw [Bool.not_eq_true] at hnear
      rw [hnear, Bool.false_or, hrest]

theorem anyPairNear_reached (pairs : List (Sample × Sample)) (h : Reached path radius index) (size : ℝ) :
    Reached path radius (anyPairNear stroke size includeStrokeWidth pairs index).1 := by
  induction pairs generalizing index with
  | nil => exact h
  | cons pair rest ih =>
    rw [anyPairNear]
    simp only
    split_ifs
    · exact .queried _ _ _ h
    · exact ih (.queried _ _ _ h)

theorem stroke_reached (h : Reached path radius index) (stroke : InkStroke) (size : ℝ)
    (includeStrokeWidth : Bool) :
    Reached path radius (strokeIntersectsEraserIndex stroke index size includeStrokeWidth).1 := by
  unfold strokeIntersectsEraserIndex
  split_ifs
  · exact h
  · split
    · exact h
    · exact .queried _ _ _ h
    · exact anyPairNear_reached _ h size

noncomputable def strokeIntersectsAny (stroke : InkStroke) (path : List (Position ℝ)) (radius : ℝ)
    (includeStrokeWidth : Bool) : Bool :=
  (eraserSegments path).any fun segment =>
    strokeIntersectsEraserPath stroke segment radius includeStrokeWidth

def Reaches (stroke : InkStroke) (radius : ℝ) (includeStrokeWidth : Bool) : Prop :=
  ∀ pair ∈ stroke.pairs, reach stroke radius includeStrokeWidth pair < 0 ∨
    tolerance ≤ reach stroke radius includeStrokeWidth pair

theorem any_any_comm {α β : Type} (rows : List α) (columns : List β) (p : α → β → Bool) :
    (rows.any fun row => columns.any (p row)) = columns.any fun column => rows.any (p · column) := by
  rw [Bool.eq_iff_iff]
  simp only [List.any_eq_true]
  constructor
  · rintro ⟨row, hrow, column, hcolumn, h⟩
    exact ⟨column, hcolumn, row, hrow, h⟩
  · rintro ⟨column, hcolumn, row, hrow, h⟩
    exact ⟨row, hrow, column, hcolumn, h⟩

theorem strokeIntersects_eq (h : Reached path radius index)
    (hreach : Reaches stroke size includeStrokeWidth) :
    (strokeIntersectsEraserIndex stroke index size includeStrokeWidth).2 =
      strokeIntersectsAny stroke path size includeStrokeWidth := by
  unfold strokeIntersectsEraserIndex strokeIntersectsAny
  rw [h.sound.2]
  cases hsegments : eraserSegments path with
  | nil => rfl
  | cons segment rest =>
    rw [isEmpty_cons, if_neg Bool.false_ne_true, ← hsegments]
    unfold strokeIntersectsEraserPath
    split
    · simp
    · exact point_query h _
    · rw [anyPairNear_spec _ h hreach]
      exact any_any_comm _ _ _

theorem clamp_ge {value least greatest : ℝ} (h : least ≤ greatest) : least ≤ clamp value least greatest :=
  le_min h (le_max_left _ _)

theorem width_ge (stroke : InkStroke) (sample : Sample) :
    77 / 1000 ≤ strokeWidthAtPoint stroke sample := by
  have hbase : (35 : ℝ) / 100 ≤ max (35 / 100) (stroke.width.getD 4) := le_max_left _ _
  have hclamp : max (35 / 100) (stroke.width.getD 4) * (22 / 100) ≤ strokeWidthAtPoint stroke sample :=
    clamp_ge (by linarith)
  linarith

theorem reaches_of_width (hradius : 0 ≤ radius) : Reaches stroke radius true := by
  intro pair _
  have hwidth := (width_ge stroke pair.1).trans
    (le_max_left (strokeWidthAtPoint stroke pair.1) (strokeWidthAtPoint stroke pair.2))
  right
  rw [reach, if_pos rfl, tolerance]
  linarith

end

/-- Everything that touches the rectangle is returned, once, and nothing of another page. -/
structure Complete (annotations : List (AnnotationRecord ℝ)) (page : Option ℝ) (rect : Rect ℝ)
    (answer : List (AnnotationRecord ℝ)) : Prop where
  once : (answer.map AnnotationRecord.id).Nodup
  all (item : AnnotationRecord ℝ) (hin : item ∈ annotations)
    (hpage : SpatialIndex.pageNumber item.page = SpatialIndex.pageNumber page)
    (htouches : SpatialIndex.Touches item rect) : item ∈ answer
  only (item : AnnotationRecord ℝ) (hin : item ∈ answer) :
    item ∈ annotations ∧ SpatialIndex.pageNumber item.page = SpatialIndex.pageNumber page

theorem lookup_complete {annotations : List (AnnotationRecord ℝ)}
    (hids : (annotations.map AnnotationRecord.id).Nodup) (page : Option ℝ)
    (left right top bottom : ℝ) :
    Complete annotations page ⟨left, top, right - left, bottom - top⟩
      (SpatialIndex.lookup (SpatialIndex.createAnnotationSpatialIndex annotations
        SpatialIndex.defaultCellSize) page left right top bottom) where
  once := SpatialIndex.candidates_nodup
  all _ hin hpage htouches := SpatialIndex.mem_lookup hids hin hpage htouches
  only _ hin := SpatialIndex.lookup_subset hin

/-- Queries of annotations are complete.  The index of an eraser path, after any queries, answers as
the test of all segments does wherever the stroke's reaches are not from zero to below the tolerance;
so it does for every stroke with its width and every radius that is not negative. -/
theorem queries_miss_nothing :
    (∀ annotations : List (AnnotationRecord ℝ), (annotations.map AnnotationRecord.id).Nodup →
      ∀ page : Option ℝ,
        (∀ (point : Position ℝ) (radius : ℝ), Complete annotations page
          (SpatialIndex.square point radius) (SpatialIndex.queryAnnotationSpatialIndex
            (SpatialIndex.createAnnotationSpatialIndex annotations SpatialIndex.defaultCellSize) page
            point radius)) ∧
        ∀ bounds : Rect ℝ, Complete annotations page bounds
          (SpatialIndex.queryAnnotationSpatialIndexBounds
            (SpatialIndex.createAnnotationSpatialIndex annotations SpatialIndex.defaultCellSize) page
            (some bounds))) ∧
      ∀ (path : List (Position ℝ)) (radius : ℝ) (index : EraserIndex), Reached path radius index →
        ∀ (stroke : InkStroke) (size : ℝ) (includeStrokeWidth : Bool),
          Reached path radius (strokeIntersectsEraserIndex stroke index size includeStrokeWidth).1 ∧
            (Reaches stroke size includeStrokeWidth ∨ (includeStrokeWidth = true ∧ 0 ≤ size) →
              (strokeIntersectsEraserIndex stroke index size includeStrokeWidth).2 =
                strokeIntersectsAny stroke path size includeStrokeWidth) := by
  refine ⟨fun annotations hids page => ⟨fun point radius => ?_, fun bounds => ?_⟩,
    fun path radius index hindex stroke size includeStrokeWidth =>
      ⟨stroke_reached hindex stroke size includeStrokeWidth, fun hreach => ?_⟩⟩
  · have hsquare : SpatialIndex.square point radius = ⟨point.x - radius, point.y - radius,
        point.x + radius - (point.x - radius), point.y + radius - (point.y - radius)⟩ := by
      unfold SpatialIndex.square
      congr 1 <;> ring
    rw [SpatialIndex.query_eq_lookup, hsquare]
    exact lookup_complete hids page _ _ _ _
  · have hbounds : bounds = ⟨bounds.x, bounds.y, bounds.x + bounds.width - bounds.x,
        bounds.y + bounds.height - bounds.y⟩ := by
      simp only [add_sub_cancel_left]
    rw [SpatialIndex.queryBounds_eq_lookup]
    conv_lhs => rw [hbounds]
    exact lookup_complete hids page _ _ _ _
  · rcases hreach with hreach | ⟨rfl, hradius⟩
    · exact strokeIntersects_eq hindex hreach
    · exact strokeIntersects_eq hindex (reaches_of_width hradius)

def dot : InkStroke where
  type := .pen
  profile := none
  width := some 4
  pressureSensitivity := none
  pressureSource := none
  points := [⟨1, 1, none, false, some .touch, none, none⟩]

theorem dot_is_found :
    (strokeIntersectsEraserIndex dot (createEraserPathIndex [⟨0, 0⟩] 5) 5 true).2 =
        strokeIntersectsAny dot [⟨0, 0⟩] 5 true ∧
      Complete [⟨[65], some 1, .frame 0 0 10 10⟩] (some 1) (SpatialIndex.square ⟨-1, -1⟩ 2)
        (SpatialIndex.queryAnnotationSpatialIndex (SpatialIndex.createAnnotationSpatialIndex
          [⟨[65], some 1, .frame 0 0 10 10⟩] SpatialIndex.defaultCellSize) (some 1) ⟨-1, -1⟩ 2) :=
  ⟨(queries_miss_nothing.2 [⟨0, 0⟩] 5 _ .created dot 5 true).2 (.inr ⟨rfl, by norm_num⟩),
    (queries_miss_nothing.1 [⟨[65], some 1, .frame 0 0 10 10⟩] (by simp) (some 1)).1 ⟨-1, -1⟩ 2⟩

end LockIn.Workspace.Ink
