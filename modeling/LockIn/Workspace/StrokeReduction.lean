import LockIn.Library.Thinning
import LockIn.Workspace.CatalogAnnotation

/-!
# Fewer samples for the same stroke

The samples of a stroke that goes on the wire are thinned by their chords, as those of any
stroke are.  With squares of the distances everything stays rational.
-/

namespace LockIn.Workspace

open Decimal (clamp)

/-- The square of `sampleDeviation`. -/
def squaredDeviation (point start finish : InkPoint) (tolerance : ℚ) : ℚ :=
  let dx := finish.x - start.x
  let dy := finish.y - start.y
  let lengthSquared := dx * dx + dy * dy
  let ratio :=
    if lengthSquared < 1 / 10 ^ 12 then 0
    else clamp (((point.x - start.x) * dx + (point.y - start.y) * dy) / lengthSquared) 0 1
  let distanceSquared :=
    (point.x - (start.x + dx * ratio)) ^ 2 + (point.y - (start.y + dy * ratio)) ^ 2
  let pressureError := |point.p - (start.p + (finish.p - start.p) * ratio)|
  max distanceSquared ((pressureError * tolerance / (2 / 25)) ^ 2)

def wireMeasure : Chords.Measure InkPoint ℚ := ⟨squaredDeviation, (· ^ 2)⟩

instance : Inhabited InkPoint := ⟨⟨0, 0, 0, 0, .unknown, 0, 0⟩⟩

/-- With the start tolerance that no caller changes. -/
def reduceStrokeSamples (points : List InkPoint) (maxCount : Nat) : List InkPoint :=
  Chords.reduce wireMeasure points maxCount ⟨3 / 20, by norm_num⟩

theorem reduceStrokeSamples_of_le {points : List InkPoint} {maxCount : Nat}
    (h : points.length ≤ max 2 maxCount) : reduceStrokeSamples points maxCount = points :=
  Chords.reduce_of_le h _

theorem length_reduceStrokeSamples_le (points : List InkPoint) (maxCount : Nat) :
    (reduceStrokeSamples points maxCount).length ≤ max 2 maxCount :=
  (Chords.reduce_spec points maxCount _).2

end LockIn.Workspace
