import LockIn.Library.Thinning
import LockIn.Workspace.EraserIndex
import LockIn.Workspace.StrokeReduction

/-!
# Fewer samples of the same ink

A stroke is thinned by its chords: kept are the samples that bend the line, or change its pressure, by
more than a tolerance.
-/

namespace LockIn.Workspace.Ink

open Chords (Kept Gap flagged Thinned Tolerance)
open scoped Grids

noncomputable section

instance : Inhabited Sample := ⟨⟨0, 0, none, false, none, none, none⟩⟩

def pressureTolerance : ℝ := 8 / 100

/-- How far a sample is from the chord of two others.  A change of pressure counts as much as a bend
of the same relative size. -/
def sampleDeviation (point start finish : Sample) (tolerance : ℝ) : ℝ :=
  let dx := finish.x - start.x
  let dy := finish.y - start.y
  let lengthSquared := dx * dx + dy * dy
  let ratio :=
    if lengthSquared < 1 / 10 ^ 12 then 0
    else max 0 (min 1 (((point.x - start.x) * dx + (point.y - start.y) * dy) / lengthSquared))
  let distance :=
    if lengthSquared < 1 / 10 ^ 12 then hypot (point.x - start.x) (point.y - start.y)
    else hypot (point.x - (start.x + dx * ratio)) (point.y - (start.y + dy * ratio))
  match start.p, finish.p, point.p with
  | some startPressure, some endPressure, some pressure =>
    let pressureError := |pressure - (startPressure + (endPressure - startPressure) * ratio)|
    max distance (pressureError * tolerance / pressureTolerance)
  | _, _, _ => distance

def sampleMeasure : Chords.Measure Sample ℝ := ⟨sampleDeviation, id⟩

def simplifyStroke (points : List Sample) (tolerance : ℝ) : List Sample :=
  Chords.thin sampleMeasure points tolerance

def reduceStrokeSamples (points : List Sample) (maxCount : ℝ) (startTolerance : Tolerance ℝ) :
    List Sample :=
  Chords.reduce sampleMeasure points ⌊maxCount⌋₊ startTolerance

/-- No sample that was dropped deviates by more than the tolerance from the chord of the kept ones
around it. -/
def Close (points reduced : List Sample) (tolerance : ℝ) : Prop :=
  ∃ keep : List Bool, keep.length = points.length ∧ reduced = flagged keep points ∧
    ∀ place < points.length, ¬Kept keep place → ∃ first last, Gap keep first last ∧ first < place ∧
      place < last ∧ sampleDeviation points[place]! points[first]! points[last]! tolerance ≤ tolerance

/-- A simplified stroke has both ends of the stroke, and what is dropped is within the tolerance of
what is kept around it.  A reduced stroke has both ends and no more samples than are allowed. -/
theorem reduction_faithful :
    (∀ (points : List Sample) (tolerance : ℝ),
      Thinned points (simplifyStroke points tolerance) ∧
        Close points (simplifyStroke points tolerance) tolerance) ∧
    ∀ (points : List Sample) (maxCount : ℝ), 2 ≤ maxCount → ∀ startTolerance : Tolerance ℝ,
      Thinned points (reduceStrokeSamples points maxCount startTolerance) ∧
        ((reduceStrokeSamples points maxCount startTolerance).length : ℝ) ≤ maxCount := by
  refine ⟨Chords.thin_spec, fun points maxCount hcount startTolerance => ?_⟩
  obtain ⟨hthinned, hlength⟩ : Thinned points (reduceStrokeSamples points maxCount startTolerance) ∧
    _ := Chords.reduce_spec points ⌊maxCount⌋₊ startTolerance
  refine ⟨hthinned, ?_⟩
  have hfloor : 2 ≤ ⌊maxCount⌋₊ := Nat.le_floor (by exact_mod_cast hcount)
  rw [max_eq_right hfloor] at hlength
  exact (Nat.cast_le.2 hlength).trans (Nat.floor_le (by linarith))

/-- A sample of the wire as a sample of the ink. -/
def sampleOf (point : InkPoint) : Sample := ⟨point.x, point.y, some point.p, false, none, none, none⟩

/-- The rational measure of the wire is the square of the measure of the ink. -/
theorem squaredDeviation_eq (point start finish : InkPoint) {tolerance : ℚ} (h : 0 ≤ tolerance) :
    (squaredDeviation point start finish tolerance : ℝ) =
      sampleDeviation (sampleOf point) (sampleOf start) (sampleOf finish) tolerance ^ 2 := by
  have htolerance : (0 : ℝ) ≤ tolerance := Rat.cast_nonneg.2 h
  have hsquare (a b e : ℝ) : max (hypot a b) (|e| * tolerance / pressureTolerance) ^ 2 =
      max (a ^ 2 + b ^ 2) ((|e| * tolerance / (2 / 25)) ^ 2) := by
    have hpressure : pressureTolerance = 2 / 25 := by norm_num [pressureTolerance]
    have hroot : 0 ≤ hypot a b := Real.sqrt_nonneg _
    have herror : 0 ≤ |e| * tolerance / (2 / 25) := by positivity
    have hsum : hypot a b ^ 2 = a ^ 2 + b ^ 2 := Real.sq_sqrt (by positivity)
    rw [hpressure, ← hsum]
    rcases le_total (hypot a b) (|e| * tolerance / (2 / 25)) with hle | hle
    · rw [max_eq_right hle, max_eq_right (pow_le_pow_left₀ hroot hle 2)]
    · rw [max_eq_left hle, max_eq_left (pow_le_pow_left₀ herror hle 2)]
  have hsize : ((finish.x - start.x) * (finish.x - start.x) + (finish.y - start.y) *
      (finish.y - start.y) < 1 / 10 ^ 12) ↔ ((finish.x - start.x : ℝ) * (finish.x - start.x) +
        (finish.y - start.y) * (finish.y - start.y) < 1 / 10 ^ 12) := by
    rw [← Rat.cast_lt (K := ℝ)]
    push_cast
    exact Iff.rfl
  unfold squaredDeviation sampleDeviation
  simp only [sampleOf]
  by_cases hshort : (finish.x - start.x : ℝ) * (finish.x - start.x) +
      (finish.y - start.y) * (finish.y - start.y) < 1 / 10 ^ 12
  · simp only [hshort, hsize.2 hshort, if_true, mul_zero, add_zero]
    rw [hsquare]
    push_cast
    rfl
  · simp only [hshort, mt hsize.1 hshort, if_false]
    rw [hsquare]
    unfold Decimal.clamp
    push_cast
    rfl

end

end LockIn.Workspace.Ink
