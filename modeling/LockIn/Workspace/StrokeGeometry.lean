import LockIn.Workspace.AnnotationIndex

/-!
# How far apart two segments are

Whether an eraser touches a stroke is a question of the distance of their segments.  Segments that
cross, or nearly touch at an end, are at distance zero; otherwise the distance is that of an end of one
to the other segment.
-/

namespace LockIn.Workspace.Ink

open Grids (Rect)
open scoped Grids
open SpatialIndex (Position)

structure Segment where
  start : Position ℝ
  finish : Position ℝ

noncomputable section

def hypot (x y : ℝ) : ℝ := √(x ^ 2 + y ^ 2)

def clamp (value least greatest : ℝ) : ℝ := min greatest (max least value)

def pointDistance (first second : Position ℝ) : ℝ := hypot (second.x - first.x) (second.y - first.y)

def epsilon : ℝ := 1 / 2 ^ 52

def ratioAt (point : Position ℝ) (segment : Segment) : ℝ :=
  let dx := segment.finish.x - segment.start.x
  let dy := segment.finish.y - segment.start.y
  clamp (((point.x - segment.start.x) * dx + (point.y - segment.start.y) * dy) / (dx * dx + dy * dy))
    0 1

def distancePointToSegment (point : Position ℝ) (segment : Segment) : ℝ :=
  let dx := segment.finish.x - segment.start.x
  let dy := segment.finish.y - segment.start.y
  if dx * dx + dy * dy ≤ epsilon then pointDistance point segment.start
  else
    let ratio := ratioAt point segment
    hypot (point.x - (segment.start.x + dx * ratio)) (point.y - (segment.start.y + dy * ratio))

def orientation (first second third : Position ℝ) : ℝ :=
  (second.x - first.x) * (third.y - first.y) - (second.y - first.y) * (third.x - first.x)

def tolerance : ℝ := 1 / 10000

def pointOnSegment (point : Position ℝ) (segment : Segment) : Bool :=
  min segment.start.x segment.finish.x - tolerance ≤ point.x &&
    point.x ≤ max segment.start.x segment.finish.x + tolerance &&
    min segment.start.y segment.finish.y - tolerance ≤ point.y &&
    point.y ≤ max segment.start.y segment.finish.y + tolerance

def segmentsIntersect (first second : Segment) : Bool :=
  let o1 := orientation first.start first.finish second.start
  let o2 := orientation first.start first.finish second.finish
  let o3 := orientation second.start second.finish first.start
  let o4 := orientation second.start second.finish first.finish
  (o1 * o2 < 0 && o3 * o4 < 0) || (|o1| ≤ tolerance && pointOnSegment second.start first) ||
    (|o2| ≤ tolerance && pointOnSegment second.finish first) ||
    (|o3| ≤ tolerance && pointOnSegment first.start second) ||
    (|o4| ≤ tolerance && pointOnSegment first.finish second)

def distanceBetweenSegments (first second : Segment) : ℝ :=
  if segmentsIntersect first second then 0
  else min (min (distancePointToSegment first.start second) (distancePointToSegment first.finish second))
    (min (distancePointToSegment second.start first) (distancePointToSegment second.finish first))

def boundsOf (segment : Segment) : Rect ℝ :=
  ⟨min segment.start.x segment.finish.x, min segment.start.y segment.finish.y,
    |segment.finish.x - segment.start.x|, |segment.finish.y - segment.start.y|⟩

variable {segment first second : Segment} {point : Position ℝ} {x y threshold : ℝ}

theorem min_add_abs_sub (a b : ℝ) : min a b + |b - a| = max a b := by
  rcases le_total a b with h | h
  · rw [min_eq_left h, max_eq_right h, abs_of_nonneg (sub_nonneg.2 h)]
    ring
  · rw [min_eq_right h, max_eq_left h, abs_of_nonpos (sub_nonpos.2 h)]
    ring

theorem boundsOf_holds : (boundsOf segment).Holds x y ↔
    (min segment.start.x segment.finish.x ≤ x ∧ x ≤ max segment.start.x segment.finish.x) ∧
      min segment.start.y segment.finish.y ≤ y ∧ y ≤ max segment.start.y segment.finish.y := by
  unfold boundsOf Rect.Holds
  simp only [min_add_abs_sub]

theorem start_held : (boundsOf segment).Holds segment.start.x segment.start.y :=
  boundsOf_holds.2 ⟨⟨min_le_left _ _, le_max_left _ _⟩, min_le_left _ _, le_max_left _ _⟩

theorem finish_held : (boundsOf segment).Holds segment.finish.x segment.finish.y :=
  boundsOf_holds.2 ⟨⟨min_le_right _ _, le_max_right _ _⟩, min_le_right _ _, le_max_right _ _⟩

variable {ratio : ℝ}

theorem between_held (a b : ℝ) (h0 : 0 ≤ ratio) (h1 : ratio ≤ 1) :
    min a b ≤ a + (b - a) * ratio ∧ a + (b - a) * ratio ≤ max a b := by
  rcases le_total a b with h | h
  · rw [min_eq_left h, max_eq_right h]
    constructor <;> nlinarith
  · rw [min_eq_right h, max_eq_left h]
    constructor <;> nlinarith

theorem place_held (h0 : 0 ≤ ratio) (h1 : ratio ≤ 1) :
    (boundsOf segment).Holds (segment.start.x + (segment.finish.x - segment.start.x) * ratio)
      (segment.start.y + (segment.finish.y - segment.start.y) * ratio) :=
  boundsOf_holds.2 ⟨between_held _ _ h0 h1, between_held _ _ h0 h1⟩

theorem abs_le_hypot (x y : ℝ) : |x| ≤ hypot x y ∧ |y| ≤ hypot x y := by
  constructor
  · exact Real.abs_le_sqrt (by nlinarith [sq_nonneg y])
  · exact Real.abs_le_sqrt (by nlinarith [sq_nonneg x])

theorem hypot_nonneg (x y : ℝ) : 0 ≤ hypot x y := Real.sqrt_nonneg _

theorem clamp_mem (value : ℝ) : 0 ≤ clamp value 0 1 ∧ clamp value 0 1 ≤ 1 :=
  ⟨le_min zero_le_one (le_max_left _ _), min_le_left _ _⟩

theorem distance_place (point : Position ℝ) (segment : Segment) :
    ∃ x y, (boundsOf segment).Holds x y ∧ |point.x - x| ≤ distancePointToSegment point segment ∧
      |point.y - y| ≤ distancePointToSegment point segment := by
  unfold distancePointToSegment
  simp only
  split_ifs
  · have h := abs_le_hypot (segment.start.x - point.x) (segment.start.y - point.y)
    rw [abs_sub_comm segment.start.x, abs_sub_comm segment.start.y] at h
    exact ⟨_, _, start_held, h.1, h.2⟩
  · have hratio := clamp_mem (((point.x - segment.start.x) * (segment.finish.x - segment.start.x) +
      (point.y - segment.start.y) * (segment.finish.y - segment.start.y)) /
        ((segment.finish.x - segment.start.x) * (segment.finish.x - segment.start.x) +
          (segment.finish.y - segment.start.y) * (segment.finish.y - segment.start.y)))
    exact ⟨_, _, place_held hratio.1 hratio.2, abs_le_hypot _ _⟩

theorem distancePointToSegment_nonneg (point : Position ℝ) (segment : Segment) :
    0 ≤ distancePointToSegment point segment := by
  unfold distancePointToSegment
  simp only
  split_ifs
  · exact hypot_nonneg _ _
  · exact hypot_nonneg _ _

theorem distanceBetweenSegments_nonneg (first second : Segment) :
    0 ≤ distanceBetweenSegments first second := by
  unfold distanceBetweenSegments
  split_ifs
  · exact le_rfl
  · exact le_min (le_min (distancePointToSegment_nonneg _ _) (distancePointToSegment_nonneg _ _))
      (le_min (distancePointToSegment_nonneg _ _) (distancePointToSegment_nonneg _ _))

/-- Each of the two has a place in its bounds, and these are not further apart on either axis. -/
def Near (first second : Segment) (distance : ℝ) : Prop :=
  ∃ x y x' y', (boundsOf first).Holds x y ∧ (boundsOf second).Holds x' y' ∧
    |x - x'| ≤ distance ∧ |y - y'| ≤ distance

theorem Near.symm (h : Near first second threshold) : Near second first threshold := by
  obtain ⟨x, y, x', y', hfirst, hsecond, hx, hy⟩ := h
  exact ⟨x', y', x, y, hsecond, hfirst, abs_sub_comm x x' ▸ hx, abs_sub_comm y y' ▸ hy⟩

theorem near_of_distance (hpoint : (boundsOf first).Holds point.x point.y)
    (h : distancePointToSegment point second ≤ threshold) : Near first second threshold := by
  obtain ⟨x, y, hheld, hx, hy⟩ := distance_place point second
  exact ⟨_, _, x, y, hpoint, hheld, hx.trans h, hy.trans h⟩

theorem ratio_of_opposite {a b : ℝ} (h : a * b < 0) : 0 ≤ a / (a - b) ∧ a / (a - b) ≤ 1 := by
  rcases mul_neg_iff.1 h with ⟨ha, hb⟩ | ⟨ha, hb⟩
  · have hpos : 0 < a - b := by linarith
    exact ⟨div_nonneg ha.le hpos.le, (div_le_one hpos).2 (by linarith)⟩
  · have hneg : a - b < 0 := by linarith
    exact ⟨div_nonneg_of_nonpos ha.le hneg.le, (div_le_one_of_neg hneg).2 (by linarith)⟩

/-- Segments that cross have a place in common. -/
theorem near_of_crossing
    (hfirst : orientation first.start first.finish second.start *
      orientation first.start first.finish second.finish < 0)
    (hsecond : orientation second.start second.finish first.start *
      orientation second.start second.finish first.finish < 0) : Near first second 0 := by
  have hratio := ratio_of_opposite hfirst
  have hother := ratio_of_opposite hsecond
  have hdifference : orientation second.start second.finish first.start -
      orientation second.start second.finish first.finish =
        -(orientation first.start first.finish second.start -
          orientation first.start first.finish second.finish) := by
    unfold orientation
    ring
  have hne : orientation first.start first.finish second.start -
      orientation first.start first.finish second.finish ≠ 0 := by
    intro hzero
    have hsame := sub_eq_zero.1 hzero
    rw [hsame] at hfirst
    exact absurd hfirst (not_lt.2 (mul_self_nonneg _))
  refine ⟨_, _, _, _, place_held hother.1 hother.2, place_held hratio.1 hratio.2, ?_, ?_⟩
  · rw [hdifference, div_neg, abs_nonpos_iff, sub_eq_zero]
    field_simp
    unfold orientation
    ring
  · rw [hdifference, div_neg, abs_nonpos_iff, sub_eq_zero]
    field_simp
    unfold orientation
    ring

theorem clamp_between {a b value : ℝ} (room : ℝ) (hroom : 0 ≤ room) (hlow : min a b - room ≤ value)
    (hhigh : value ≤ max a b + room) :
    ∃ place, (min a b ≤ place ∧ place ≤ max a b) ∧ |value - place| ≤ room := by
  have horder : min a b ≤ max a b := min_le_max
  refine ⟨min (max a b) (max (min a b) value), ⟨le_min horder (le_max_left _ _), min_le_left _ _⟩, ?_⟩
  rcases le_total value (min a b) with hbelow | habove
  · rw [max_eq_left hbelow, min_eq_right horder, abs_le]
    constructor <;> linarith
  · rw [max_eq_right habove]
    rcases le_total value (max a b) with hinside | hover
    · rw [min_eq_right hinside, sub_self, abs_zero]
      exact hroom
    · rw [min_eq_left hover, abs_le]
      constructor <;> linarith

theorem near_of_pointOnSegment (hpoint : (boundsOf first).Holds point.x point.y)
    (h : pointOnSegment point second = true) : Near first second tolerance := by
  unfold pointOnSegment at h
  simp only [Bool.and_eq_true, decide_eq_true_eq] at h
  have hroom : 0 ≤ tolerance := by norm_num [tolerance]
  obtain ⟨x, hx, hxnear⟩ := clamp_between tolerance hroom h.1.1.1 h.1.1.2
  obtain ⟨y, hy, hynear⟩ := clamp_between tolerance hroom h.1.2 h.2
  exact ⟨_, _, x, y, hpoint, boundsOf_holds.2 ⟨hx, hy⟩, hxnear, hynear⟩

theorem Near.mono {least : ℝ} (h : Near first second least) (hle : least ≤ threshold) :
    Near first second threshold := by
  obtain ⟨x, y, x', y', hfirst, hsecond, hx, hy⟩ := h
  exact ⟨x, y, x', y', hfirst, hsecond, hx.trans hle, hy.trans hle⟩

theorem near_of_distanceBetween (htolerance : tolerance ≤ threshold)
    (h : distanceBetweenSegments first second ≤ threshold) : Near first second threshold := by
  have hroom : 0 ≤ tolerance := by norm_num [tolerance]
  unfold distanceBetweenSegments at h
  split_ifs at h with hcross
  · unfold segmentsIntersect at hcross
    simp only [Bool.or_eq_true, Bool.and_eq_true, decide_eq_true_eq] at hcross
    rcases hcross with (((hcross | hend) | hend) | hend) | hend
    · exact (near_of_crossing hcross.1 hcross.2).mono (hroom.trans htolerance)
    · exact (near_of_pointOnSegment start_held hend.2).symm.mono htolerance
    · exact (near_of_pointOnSegment finish_held hend.2).symm.mono htolerance
    · exact (near_of_pointOnSegment start_held hend.2).mono htolerance
    · exact (near_of_pointOnSegment finish_held hend.2).mono htolerance
  · rcases min_le_iff.1 h with h | h
    · rcases min_le_iff.1 h with h | h
      · exact near_of_distance start_held h
      · exact near_of_distance finish_held h
    · rcases min_le_iff.1 h with h | h
      · exact (near_of_distance start_held h).symm
      · exact (near_of_distance finish_held h).symm

end

end LockIn.Workspace.Ink
