import LockIn.Workspace.StrokeGeometry

/-!
# The index of an eraser path

The segments of an eraser path are put into a grid once for a drag.  Every query looks into the cells
around a stroke segment, and marks the segments it has tested with its own number so that none is
tested twice.

A mark is never above the number of the last query, so that no segment looks tested before a query
begins.  Hence a query finds a segment wherever there is one to be found, however many queries came
before it.
-/

namespace LockIn.Workspace.Ink

open Grids (Rect Buckets bucket insert cells)
open List
open scoped Grids
open SpatialIndex (Position)

inductive ProfileName where
  | known (profile : StrokeProfile)
  | unknown

structure Sample where
  x : ℝ
  y : ℝ
  p : Option ℝ
  pressureAvailable : Bool
  pointer : Option Pointer
  tiltX : Option ℝ
  tiltY : Option ℝ

def Sample.position (sample : Sample) : Position ℝ := ⟨sample.x, sample.y⟩

structure InkStroke where
  type : StrokeTool
  profile : Option ProfileName
  width : Option ℝ
  pressureSensitivity : Option ℝ
  pressureSource : Option PressureSource
  points : List Sample

noncomputable section

/-- What is read of a profile where a stroke is hit: a nib without a direction is full. -/
structure ProfileConfig where
  pressureStrength : ℝ
  tiltStrength : ℝ
  nib : ℝ

/-- `PEN_PROFILE_CONFIG` -/
def profileConfig : StrokeProfile → ProfileConfig
  | .ball => ⟨4 / 100, 0, 1⟩
  | .fountain => ⟨7 / 10, 4 / 100, 1⟩
  | .brush => ⟨145 / 100, 2 / 10, 1⟩
  | .pencil => ⟨56 / 100, 38 / 100, 1⟩
  | .highlighter => ⟨0, 0, 1⟩
  | .calligraphy => ⟨3 / 10, 0, 15 / 10⟩

def configOf (stroke : InkStroke) : ProfileConfig :=
  match stroke.profile with
  | some (.known profile) => profileConfig profile
  | some .unknown => profileConfig .ball
  | none => profileConfig (if stroke.type = .pencil then .pencil else .ball)

def pressureAvailable (stroke : InkStroke) (sample : Sample) : Bool :=
  sample.pressureAvailable || (sample.pointer = some .pen && 0 < sample.p.getD 0) ||
    stroke.pressureSource = some .speed

/-- `strokeWidthAtPoint`, of a point without its neighbours: neither speed nor taper is known. -/
def strokeWidthAtPoint (stroke : InkStroke) (sample : Sample) : ℝ :=
  let baseWidth := max (35 / 100) (stroke.width.getD 4)
  let config := configOf stroke
  let configuredSensitivity := clamp (stroke.pressureSensitivity.getD (55 / 100)) 0 1
  let pressure :=
    if pressureAvailable stroke sample then clamp (sample.p.getD (5 / 10)) (4 / 100) 1 else 5 / 10
  let pressureFactor := 1 + (pressure - 5 / 10) * 2 * config.pressureStrength * configuredSensitivity
  let tilt := min 90 (hypot (sample.tiltX.getD 0) (sample.tiltY.getD 0))
  let tiltFactor := 1 + tilt / 90 * config.tiltStrength
  clamp (baseWidth * pressureFactor * tiltFactor * config.nib) (baseWidth * (22 / 100))
    (baseWidth * (225 / 100))

def InkStroke.pairs (stroke : InkStroke) : List (Sample × Sample) :=
  stroke.points.zip stroke.points.tail

def segmentOf (pair : Sample × Sample) : Segment := ⟨pair.1.position, pair.2.position⟩

def pointReach (stroke : InkStroke) (radius : ℝ) (includeStrokeWidth : Bool) (sample : Sample) : ℝ :=
  radius + if includeStrokeWidth then strokeWidthAtPoint stroke sample / 2 else 0

/-- How near an eraser has to come to a segment. -/
def reach (stroke : InkStroke) (radius : ℝ) (includeStrokeWidth : Bool) (pair : Sample × Sample) : ℝ :=
  radius + if includeStrokeWidth then
    max (strokeWidthAtPoint stroke pair.1) (strokeWidthAtPoint stroke pair.2) / 2 else 0

/-- `strokeIntersectsEraserPath`, of one segment of the path. -/
def strokeIntersectsEraserPath (stroke : InkStroke) (eraser : Segment) (radius : ℝ)
    (includeStrokeWidth : Bool) : Bool :=
  match stroke.points with
  | [] => false
  | [sample] => distancePointToSegment sample.position eraser ≤
      pointReach stroke radius includeStrokeWidth sample
  | _ => stroke.pairs.any fun pair =>
      distanceBetweenSegments (segmentOf pair) eraser ≤ reach stroke radius includeStrokeWidth pair

structure EraserIndex where
  cellSize : ℝ
  segments : List Segment
  cells : Buckets Nat
  visitMarks : List Nat
  visitToken : Nat

def eraserSegments (path : List (Position ℝ)) : List Segment :=
  match path with
  | [point] => [⟨point, point⟩]
  | path => (path.zip path.tail).map fun pair => ⟨pair.1, pair.2⟩

def segmentCells (size : ℝ) (segment : Segment) : List Grids.Cell :=
  cells size (min segment.start.x segment.finish.x) (max segment.start.x segment.finish.x)
    (min segment.start.y segment.finish.y) (max segment.start.y segment.finish.y)

def eraserCells (size : ℝ) (segments : List Segment) : Buckets Nat :=
  segments.zipIdx.foldl (fun buckets entry => insert buckets (segmentCells size entry.1) entry.2) []

def createEraserPathIndex (path : List (Position ℝ)) (radius : ℝ) : EraserIndex :=
  let cellSize := max 10 (radius * (25 / 10))
  let segments := eraserSegments path
  ⟨cellSize, segments, eraserCells cellSize segments, List.replicate segments.length 0, 0⟩

def lastToken : Nat := 0xfffffff0

/-- The number of the next query.  Before the marks overflow they are cleared. -/
def EraserIndex.advance (index : EraserIndex) : EraserIndex :=
  if lastToken ≤ index.visitToken + 1 then
    { index with visitMarks := List.replicate index.visitMarks.length 0, visitToken := 1 }
  else { index with visitToken := index.visitToken + 1 }

/-- The loop over the segments in the cells.  A mark is a number of 32 bits. -/
def visit (segments : List Segment) (token : Nat) (predicate : Segment → Bool) :
    List Nat → List Nat → List Nat × Bool
  | [], marks => (marks, false)
  | segmentIndex :: rest, marks =>
    if marks[segmentIndex]? = some token then visit segments token predicate rest marks
    else
      let marks := marks.set segmentIndex (token % 2 ^ 32)
      if (segments[segmentIndex]?).any predicate then (marks, true)
      else visit segments token predicate rest marks

def someEraserSegmentNear (index : EraserIndex) (bounds : Rect ℝ) (padding : ℝ)
    (predicate : Segment → Bool) : EraserIndex × Bool :=
  let index := index.advance
  let places := cells index.cellSize (bounds.x - padding) (bounds.x + bounds.width + padding)
    (bounds.y - padding) (bounds.y + bounds.height + padding)
  let (visitMarks, answer) := visit index.segments index.visitToken predicate
    (places.flatMap (bucket index.cells)) index.visitMarks
  ({ index with visitMarks := visitMarks }, answer)

def pointTouchesEraserPath (point : Position ℝ) (index : EraserIndex) (threshold : ℝ) :
    EraserIndex × Bool :=
  someEraserSegmentNear index ⟨point.x, point.y, 0, 0⟩ threshold fun segment =>
    distancePointToSegment point segment ≤ threshold

def anyPairNear (stroke : InkStroke) (radius : ℝ) (includeStrokeWidth : Bool) :
    List (Sample × Sample) → EraserIndex → EraserIndex × Bool
  | [], index => (index, false)
  | pair :: rest, index =>
    let threshold := reach stroke radius includeStrokeWidth pair
    let (index, near) := someEraserSegmentNear index (boundsOf (segmentOf pair)) threshold fun segment =>
      distanceBetweenSegments (segmentOf pair) segment ≤ threshold
    if near then (index, true) else anyPairNear stroke radius includeStrokeWidth rest index

def strokeIntersectsEraserIndex (stroke : InkStroke) (index : EraserIndex) (radius : ℝ)
    (includeStrokeWidth : Bool) : EraserIndex × Bool :=
  if index.segments.isEmpty then (index, false)
  else
    match stroke.points with
    | [] => (index, false)
    | [sample] => pointTouchesEraserPath sample.position index
        (pointReach stroke radius includeStrokeWidth sample)
    | _ => anyPairNear stroke radius includeStrokeWidth stroke.pairs index

end

open Grids (Rect Cell bucket cells)

/-- The index is one of its segments, and no mark is above the number of the last query. -/
structure EraserIndex.Sound (index : EraserIndex) : Prop where
  size_pos : 0 < index.cellSize
  placed : ∀ (i : Nat) (segment : Segment), index.segments[i]? = some segment →
    ∀ cell ∈ segmentCells index.cellSize segment, i ∈ bucket index.cells cell
  old : ∀ mark ∈ index.visitMarks, mark ≤ index.visitToken
  token : index.visitToken < lastToken

/-- The index after any queries. -/
inductive Reached (path : List (Position ℝ)) (radius : ℝ) : EraserIndex → Prop where
  | created : Reached path radius (createEraserPathIndex path radius)
  | queried {index : EraserIndex} (bounds : Rect ℝ) (padding : ℝ) (predicate : Segment → Bool)
      (before : Reached path radius index) :
      Reached path radius (someEraserSegmentNear index bounds padding predicate).1

section
variable {index : EraserIndex} {segments : List Segment} {predicate : Segment → Bool} {token : Nat}
  {marks : List Nat} {bounds : Rect ℝ} {padding radius : ℝ} {path : List (Position ℝ)}

def Tested (segments : List Segment) (predicate : Segment → Bool) (token : Nat) (marks : List Nat) :
    Prop :=
  ∀ i : Nat, marks[i]? = some token → (segments[i]?).any predicate = false

variable {i : Nat}

theorem tested_set (h : Tested segments predicate token marks)
    (hi : (segments[i]?).any predicate = false) :
    Tested segments predicate token (marks.set i token) := by
  intro j hj
  by_cases hij : i = j
  · exact hij ▸ hi
  · rw [getElem?_set_ne hij] at hj
    exact h j hj

theorem visit_spec (htoken : token < 2 ^ 32) (places : List Nat)
    (hmarks : ∀ mark ∈ marks, mark ≤ token) (htested : Tested segments predicate token marks) :
    ((visit segments token predicate places marks).2 = true ↔
        ∃ i ∈ places, (segments[i]?).any predicate = true) ∧
      ∀ mark ∈ (visit segments token predicate places marks).1, mark ≤ token := by
  induction places generalizing marks with
  | nil =>
    refine ⟨?_, hmarks⟩
    rw [visit]
    simp
  | cons i rest ih =>
    rw [visit, Nat.mod_eq_of_lt htoken]
    by_cases hmark : marks[i]? = some token
    · rw [if_pos hmark]
      obtain ⟨hanswer, hlater⟩ := ih hmarks htested
      refine ⟨hanswer.trans ?_, hlater⟩
      rw [exists_mem_cons_iff, htested i hmark]
      simp
    · have hset : ∀ mark ∈ marks.set i token, mark ≤ token := by
        intro mark hmem
        rcases mem_or_eq_of_mem_set hmem with hold | rfl
        · exact hmarks mark hold
        · exact le_rfl
      rw [if_neg hmark]
      cases hfound : (segments[i]?).any predicate with
      | true => exact ⟨⟨fun _ => ⟨i, mem_cons_self, hfound⟩, fun _ => rfl⟩, hset⟩
      | false =>
        obtain ⟨hanswer, hlater⟩ := ih hset (tested_set htested hfound)
        refine ⟨hanswer.trans ?_, hlater⟩
        rw [exists_mem_cons_iff, hfound]
        simp

theorem advance_fresh (h : index.Sound) :
    (∀ mark ∈ index.advance.visitMarks, mark < index.advance.visitToken) ∧
      index.advance.visitToken < lastToken := by
  unfold EraserIndex.advance
  split_ifs with hlast
  · refine ⟨fun mark hmark => ?_, (by decide : 1 < lastToken)⟩
    rw [eq_of_mem_replicate hmark]
    exact Nat.one_pos
  · exact ⟨fun mark hmark => Nat.lt_succ_of_le (h.old mark hmark), Nat.lt_of_not_le hlast⟩

theorem advance_same (index : EraserIndex) : index.advance.segments = index.segments ∧
    index.advance.cells = index.cells ∧ index.advance.cellSize = index.cellSize := by
  unfold EraserIndex.advance
  split_ifs
  · exact ⟨rfl, rfl, rfl⟩
  · exact ⟨rfl, rfl, rfl⟩

noncomputable def queryCells (index : EraserIndex) (bounds : Rect ℝ) (padding : ℝ) : List Cell :=
  cells index.cellSize (bounds.x - padding) (bounds.x + bounds.width + padding)
    (bounds.y - padding) (bounds.y + bounds.height + padding)

theorem query_spec (h : index.Sound) (bounds : Rect ℝ) (padding : ℝ) (predicate : Segment → Bool) :
    ((someEraserSegmentNear index bounds padding predicate).2 = true ↔
        ∃ i ∈ (queryCells index bounds padding).flatMap (bucket index.cells),
          (index.segments[i]?).any predicate = true) ∧
      (someEraserSegmentNear index bounds padding predicate).1.Sound ∧
      (someEraserSegmentNear index bounds padding predicate).1.segments = index.segments := by
  obtain ⟨hsegments, hcells, hsize⟩ := advance_same index
  obtain ⟨hfresh, htoken⟩ := advance_fresh h
  have hbound : index.advance.visitToken < 2 ^ 32 := htoken.trans (by decide)
  have htested : Tested index.advance.segments predicate index.advance.visitToken
      index.advance.visitMarks := fun i hi =>
    absurd (hfresh _ (mem_of_getElem? hi)) (lt_irrefl _)
  have hvisit := visit_spec hbound ((queryCells index bounds padding).flatMap (bucket index.cells))
    (fun mark hmark => (hfresh mark hmark).le) htested
  unfold someEraserSegmentNear
  simp only [hsegments, hcells, hsize] at hvisit ⊢
  refine ⟨hvisit.1, ⟨?_, ?_, hvisit.2, htoken⟩, trivial⟩
  · exact hsize ▸ h.size_pos
  · exact h.placed

theorem mem_queryCells (h : index.Sound) {segment : Segment} {x y : ℝ}
    (hi : index.segments[i]? = some segment) (hsegment : (boundsOf segment).Holds x y)
    (hbounds : (bounds.grow padding).Holds x y) :
    i ∈ (queryCells index bounds padding).flatMap (bucket index.cells) := by
  obtain ⟨hx, hy⟩ := boundsOf_holds.1 hsegment
  obtain ⟨hxBounds, hyBounds⟩ := hbounds
  simp only [Rect.grow] at hxBounds hyBounds
  refine mem_flatMap.2 ⟨(Grids.cellOf index.cellSize x, Grids.cellOf index.cellSize y), ?_, ?_⟩
  · refine Grids.cell_mem_cells h.size_pos ⟨hxBounds.1, ?_⟩ ⟨hyBounds.1, ?_⟩
    · linarith [hxBounds.2]
    · linarith [hyBounds.2]
  · exact h.placed i segment hi _ (Grids.cell_mem_cells h.size_pos hx hy)

/-- Where everything that is looked for has a place in the padded bounds, nothing is missed. -/
theorem query_eq_any (h : index.Sound) (hnear : ∀ segment ∈ index.segments, predicate segment = true →
    ∃ x y, (boundsOf segment).Holds x y ∧ (bounds.grow padding).Holds x y) :
    (someEraserSegmentNear index bounds padding predicate).2 = index.segments.any predicate := by
  rw [Bool.eq_iff_iff, (query_spec h bounds padding predicate).1, List.any_eq_true]
  constructor
  · rintro ⟨i, -, hi⟩
    obtain ⟨segment, hsegment, hpredicate⟩ := (Option.any_eq_true _ _).1 hi
    exact ⟨segment, mem_of_getElem? hsegment, hpredicate⟩
  · rintro ⟨segment, hin, hpredicate⟩
    obtain ⟨i, hi⟩ := mem_iff_getElem?.1 hin
    obtain ⟨x, y, hsegment, hbounds⟩ := hnear segment hin hpredicate
    exact ⟨i, mem_queryCells h hi hsegment hbounds, by rw [hi]; exact hpredicate⟩

theorem mem_eraserCells {size : ℝ} {cell : Cell} :
    i ∈ bucket (eraserCells size segments) cell ↔
      ∃ segment, segments[i]? = some segment ∧ cell ∈ segmentCells size segment := by
  have hfold (entries : List (Segment × Nat)) (buckets : Grids.Buckets Nat) :
      i ∈ bucket (entries.foldl (fun buckets entry =>
        Grids.insert buckets (segmentCells size entry.1) entry.2) buckets) cell ↔
          i ∈ bucket buckets cell ∨ ∃ entry ∈ entries, entry.2 = i ∧
            cell ∈ segmentCells size entry.1 := by
    induction entries generalizing buckets with
    | nil => simp
    | cons entry rest ih =>
      rw [foldl_cons, ih, Grids.mem_bucket_insert, exists_mem_cons_iff, or_assoc,
        eq_comm, and_comm]
  rw [eraserCells, hfold, Grids.bucket_nil]
  constructor
  · rintro (hnone | ⟨⟨segment, j⟩, hentry, rfl, hcell⟩)
    · exact absurd hnone not_mem_nil
    · exact ⟨segment, mem_zipIdx_iff_getElem?.1 hentry, hcell⟩
  · rintro ⟨segment, hi, hcell⟩
    exact .inr ⟨(segment, i), mem_zipIdx_iff_getElem?.2 hi, rfl, hcell⟩

theorem created_sound (path : List (Position ℝ)) (radius : ℝ) :
    (createEraserPathIndex path radius).Sound where
  size_pos := lt_of_lt_of_le (by norm_num) (le_max_left _ _)
  placed _ segment hi _ hcell := mem_eraserCells.2 ⟨segment, hi, hcell⟩
  old mark hmark := by
    have hzero : mark = 0 := eq_of_mem_replicate hmark
    rw [hzero]
    exact Nat.zero_le _
  token := by
    have hzero : (createEraserPathIndex path radius).visitToken = 0 := rfl
    rw [hzero]
    decide

theorem Reached.sound (h : Reached path radius index) :
    index.Sound ∧ index.segments = eraserSegments path := by
  induction h with
  | created => exact ⟨created_sound path radius, rfl⟩
  | queried bounds padding predicate _ ih =>
    obtain ⟨-, hsound, hsegments⟩ := query_spec ih.1 bounds padding predicate
    exact ⟨hsound, hsegments.trans ih.2⟩

end

end LockIn.Workspace.Ink
