import LockIn.Workspace.FocusValidation

/-!
# Values that the wire does not change

Every value the device sends is a decimal within the bounds that the server asks for, and
such a value converts to itself: read back and sent again it is the same.
-/

namespace LockIn.Workspace

open Decimal (Within HasPlaces clamp roundTo hasPlaces_zero hasPlaces_one within_roundTo_clamp)
open List

theorem within_unit (places : Nat) (value : ℚ) :
    Within places 0 1 (roundTo places (clamp value 0 1)) :=
  within_roundTo_clamp (hasPlaces_zero places) (hasPlaces_one places) (by norm_num) value

theorem within_tilt (value : ℚ) : Within 2 (-90) 90 (roundTo 2 (clamp value (-90) 90)) := by
  apply within_roundTo_clamp _ _ (by norm_num)
  · exact ⟨-9000, by norm_num⟩
  · exact ⟨9000, by norm_num⟩

theorem within_radius (value : ℚ) :
    Within 6 (1 / 2000) (2 / 25) (roundTo 6 (clamp value (1 / 2000) (2 / 25))) := by
  apply within_roundTo_clamp _ _ (by norm_num)
  · exact ⟨500, by norm_num⟩
  · exact ⟨80000, by norm_num⟩

theorem within_thickness (value : ℚ) :
    Within 2 (1 / 100) 64 (roundTo 2 (clamp value (1 / 100) 64)) := by
  apply within_roundTo_clamp _ _ (by norm_num)
  · exact ⟨1, by norm_num⟩
  · exact ⟨6400, by norm_num⟩

structure Point.OnWire (point : Point) : Prop where
  x : Within 6 0 1 point.x
  y : Within 6 0 1 point.y

theorem toFocusPoint_onWire (value : Point) : (toFocusPoint value).OnWire where
  x := within_unit 6 _
  y := within_unit 6 _

theorem Point.OnWire.toFocusPoint_fromFocusPoint {point : Point} (h : point.OnWire) :
    toFocusPoint (fromFocusPoint point) = point := by
  have hx : clamp point.x 0 1 * 1000 / 1000 = point.x := by
    rw [h.x.clamp]
    ring
  have hy : clamp point.y 0 1 * 1000 / 1000 = point.y := by
    rw [h.y.clamp]
    ring
  show Point.mk (roundTo 6 (clamp (clamp point.x 0 1 * 1000 / 1000) 0 1))
    (roundTo 6 (clamp (clamp point.y 0 1 * 1000 / 1000) 0 1)) = point
  rw [hx, hy, h.x.roundTo_clamp, h.y.roundTo_clamp]

theorem map_toFocusPoint_fromFocusPoint {points : List Point} (h : ∀ point ∈ points, point.OnWire) :
    (points.map fromFocusPoint).map toFocusPoint = points := by
  rw [map_map]
  calc _ = points.map id := map_congr_left fun point hpoint =>
        (h point hpoint).toFocusPoint_fromFocusPoint
    _ = points := map_id points

structure WireSample.OnWire (sample : WireSample) : Prop where
  point : sample.point.OnWire
  pressure : Within 4 0 1 sample.pressure
  tiltX : Within 2 (-90) 90 sample.tiltX
  tiltY : Within 2 (-90) 90 sample.tiltY
  timestamp : HasPlaces 0 sample.timestamp
  nonneg : 0 ≤ sample.timestamp

theorem wireSample_onWire (sample : InkPoint) : (wireSample sample).OnWire where
  point := toFocusPoint_onWire sample.position
  pressure := within_unit 4 sample.p
  tiltX := within_tilt sample.tiltX
  tiltY := within_tilt sample.tiltY
  timestamp := (hasPlaces_zero 0).max (Decimal.roundTo_hasPlaces 0 sample.t)
  nonneg := le_max_left _ _

theorem WireSample.OnWire.wireSample_catalogPoint {sample : WireSample} (h : sample.OnWire) :
    wireSample (catalogPoint sample) = sample := by
  have hpoint : toFocusPoint (fromFocusPoint sample.point) = sample.point :=
    h.point.toFocusPoint_fromFocusPoint
  show WireSample.mk (toFocusPoint (fromFocusPoint sample.point)).x
    (toFocusPoint (fromFocusPoint sample.point)).y sample.pointer
    (roundTo 4 (clamp sample.pressure 0 1)) (roundTo 2 (clamp sample.tiltX (-90) 90))
    (roundTo 2 (clamp sample.tiltY (-90) 90)) (max 0 (roundTo 0 sample.timestamp)) = sample
  rw [hpoint, h.pressure.roundTo_clamp, h.tiltX.roundTo_clamp, h.tiltY.roundTo_clamp,
    h.timestamp.roundTo, max_eq_right h.nonneg]
  rfl

theorem map_wireSample_catalogPoint (points : List InkPoint) :
    ((points.map wireSample).map catalogPoint).map wireSample = points.map wireSample := by
  rw [map_map, map_map]
  apply map_congr_left
  intro point _
  exact (wireSample_onWire point).wireSample_catalogPoint

structure WireErasure.OnWire (erasure : WireErasure) : Prop where
  radius : Within 6 (1 / 2000) (2 / 25) erasure.radius
  points : ∀ point ∈ erasure.points, point.OnWire
  nonempty : erasure.points ≠ []
  few : erasure.points.length ≤ 96

theorem wireErasure_onWire {erasure : Erasure} (h : (wireErasure erasure).points ≠ []) :
    (wireErasure erasure).OnWire where
  radius := within_radius _
  points := by
    intro point hpoint
    obtain ⟨original, _, rfl⟩ := mem_map.1 hpoint
    exact toFocusPoint_onWire original
  nonempty := h
  few := by
    show ((erasure.points.take 96).map toFocusPoint).length ≤ 96
    rw [length_map]
    exact length_take_le 96 _

theorem WireErasure.OnWire.wireErasure_catalogErasure {erasure : WireErasure} (h : erasure.OnWire) :
    wireErasure (catalogErasure erasure) = erasure := by
  have hradius : erasure.radius * 1000 / 1000 = erasure.radius := by ring
  have hpoints : ((erasure.points.map fromFocusPoint).take 96).map toFocusPoint = erasure.points := by
    rw [take_of_length_le (by rw [length_map]; exact h.few)]
    exact map_toFocusPoint_fromFocusPoint h.points
  show WireErasure.mk (roundTo 6 (clamp (erasure.radius * 1000 / 1000) (1 / 2000) (2 / 25)))
    (((erasure.points.map fromFocusPoint).take 96).map toFocusPoint) = erasure
  rw [hradius, h.radius.roundTo_clamp, hpoints]

structure ErasuresOnWire (erasures : List WireErasure) : Prop where
  each : ∀ erasure ∈ erasures, erasure.OnWire
  few : erasures.length ≤ 32
  nonempty : erasures ≠ []

theorem wireErasures_onWire {erasures : List Erasure} {sent : List WireErasure}
    (h : wireErasures erasures = some sent) : ErasuresOnWire sent := by
  unfold wireErasures at h
  by_cases hempty : ((erasures.take 32).map wireErasure).filter (·.points ≠ []) = []
  · simp only [hempty, if_true] at h
    simp at h
  · simp only [hempty, if_false] at h
    cases h
    refine ⟨?_, ?_, hempty⟩
    · intro erasure herasure
      have hmem := mem_filter.1 herasure
      obtain ⟨original, _, rfl⟩ := mem_map.1 hmem.1
      exact wireErasure_onWire (by simpa using hmem.2)
    · calc _ ≤ ((erasures.take 32).map wireErasure).length := length_filter_le _ _
        _ = (erasures.take 32).length := length_map _
        _ ≤ 32 := length_take_le 32 _

theorem ErasuresOnWire.wireErasures_map {erasures : List WireErasure} (h : ErasuresOnWire erasures) :
    wireErasures (erasures.map catalogErasure) = some erasures := by
  have htake : (erasures.map catalogErasure).take 32 = erasures.map catalogErasure :=
    take_of_length_le (by rw [length_map]; exact h.few)
  have hmap : (erasures.map catalogErasure).map wireErasure = erasures := by
    rw [map_map]
    calc _ = erasures.map id := map_congr_left fun erasure herasure =>
          (h.each erasure herasure).wireErasure_catalogErasure
      _ = erasures := map_id erasures
  have hfilter : erasures.filter (·.points ≠ []) = erasures := by
    apply filter_eq_self.2
    intro erasure herasure
    simpa using (h.each erasure herasure).nonempty
  unfold wireErasures
  simp only [htake, hmap, hfilter, h.nonempty, if_false]

theorem wireErasures_read_back (erasures : List Erasure) :
    wireErasures (((wireErasures erasures).getD []).map catalogErasure) = wireErasures erasures := by
  cases h : wireErasures erasures with
  | none => rfl
  | some sent => exact (wireErasures_onWire h).wireErasures_map

variable {fallback : ℚ}

theorem styleValue_read_back (hfallback : Within 3 0 1 fallback) (value : ℚ) :
    styleValue ((styleValue value fallback).getD fallback) fallback = styleValue value fallback := by
  by_cases h : roundTo 3 (clamp value 0 1) = fallback
  · have hnone : styleValue value fallback = none := if_pos h
    rw [hnone]
    show styleValue fallback fallback = none
    exact if_pos hfallback.roundTo_clamp
  · have hsome : styleValue value fallback = some (roundTo 3 (clamp value 0 1)) := if_neg h
    rw [hsome]
    show styleValue (roundTo 3 (clamp value 0 1)) fallback = _
    unfold styleValue
    rw [(within_unit 3 value).roundTo_clamp, if_neg h]

theorem styleValue_within {value sent : ℚ} (h : styleValue value fallback = some sent) :
    Within 3 0 1 sent := by
  obtain ⟨hdefault, h⟩ := Option.ite_none_left_eq_some.1 h
  cases h
  exact within_unit 3 value

theorem within_defaultPressureSensitivity : Within 3 0 1 defaultPressureSensitivity :=
  ⟨⟨550, by norm_num [defaultPressureSensitivity]⟩, by norm_num [defaultPressureSensitivity],
    by norm_num [defaultPressureSensitivity]⟩

theorem within_defaultSmoothing : Within 3 0 1 defaultSmoothing :=
  ⟨⟨500, by norm_num [defaultSmoothing]⟩, by norm_num [defaultSmoothing],
    by norm_num [defaultSmoothing]⟩

end LockIn.Workspace
