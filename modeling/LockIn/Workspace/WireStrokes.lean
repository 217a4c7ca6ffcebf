import LockIn.Workspace.WireValues

/-!
# Strokes on the wire

A stroke that was sent fits the limits, so that reading it back and sending it again neither
simplifies it further nor changes its style, and it is small enough for the server.
-/

namespace LockIn.Workspace

open JsonSize (array member quoted)
open List

variable {α : Type} {item : Stroke} {points : List InkPoint} {value : ℚ} {style : WireStyle}

theorem strokeStyle_bind (item : Stroke) {field : WireStyle → Option α}
    (h : field ⟨none, none, none, none⟩ = none) :
    (strokeStyle item).bind field = field (styleMembers item) := by
  unfold strokeStyle
  by_cases hempty : styleMembers item = ⟨none, none, none, none⟩
  · rw [if_pos hempty, hempty, h]
    rfl
  · rw [if_neg hempty]
    rfl

theorem styleMembers_read_back (item : Stroke) (payload : StrokePayload)
    (h : payload.style = strokeStyle item) :
    styleMembers (catalogStroke item.type payload) = styleMembers item := by
  have hprofile : payload.style.bind (·.profile) = (styleMembers item).profile := by
    rw [h, strokeStyle_bind item rfl]
  have hsource : payload.style.bind (·.pressureSource) = (styleMembers item).pressureSource := by
    rw [h, strokeStyle_bind item rfl]
  have hsensitivity : payload.style.bind (·.pressureSensitivity) =
      (styleMembers item).pressureSensitivity := by
    rw [h, strokeStyle_bind item rfl]
  have hsmoothing : payload.style.bind (·.smoothing) = (styleMembers item).smoothing := by
    rw [h, strokeStyle_bind item rfl]
  simp only [styleMembers, catalogStroke, hprofile, hsource, hsensitivity, hsmoothing,
    styleValue_read_back within_defaultPressureSensitivity,
    styleValue_read_back within_defaultSmoothing, WireStyle.mk.injEq, and_true]
  by_cases hdefault : item.profile = defaultProfile item.type
  · simp only [hdefault, if_true, Option.getD_none]
  · simp only [hdefault, if_false, Option.getD_some]

theorem encode_read_back (item : Stroke) (points : List InkPoint) :
    encode (catalogStroke item.type (encode item points)) ((points.map wireSample).map catalogPoint) =
      encode item points := by
  have hsamples := map_wireSample_catalogPoint points
  have hstyle : strokeStyle (catalogStroke item.type (encode item points)) = strokeStyle item := by
    unfold strokeStyle
    rw [styleMembers_read_back item (encode item points) rfl]
  have herasures := wireErasures_read_back item.erasures
  show StrokePayload.mk (((points.map wireSample).map catalogPoint).map wireSample)
    (strokeStyle (catalogStroke item.type (encode item points)))
    (wireErasures (((wireErasures item.erasures).getD []).map catalogErasure)) = _
  rw [hsamples, hstyle, herasures]
  rfl

def Fits (item : Stroke) (points : List InkPoint) : Prop :=
  (encode item points).size JsonSize.javascript ≤ wirePayloadBudget ∨ points.length ≤ 2

theorem fitBudget_of_fits (h : Fits item points) : fitBudget item points = points := by
  rw [fitBudget]
  apply if_neg
  intro hover
  rcases h with h | h
  · omega
  · omega

theorem fitBudget_fits (item : Stroke) (points : List InkPoint) :
    Fits item (fitBudget item points) := by
  fun_induction fitBudget item points with
  | case1 points hover ih => exact ih
  | case2 points hfits =>
    unfold Fits
    omega

theorem length_fitBudget_le (item : Stroke) (points : List InkPoint) :
    (fitBudget item points).length ≤ points.length := by
  fun_induction fitBudget item points with
  | case1 points hover ih =>
    have hle := length_reduceStrokeSamples_le points (points.length * 3 / 4)
    omega
  | case2 points hfits => exact Nat.le_refl _

theorem keptPoints_fits (item : Stroke) : Fits item (keptPoints item) :=
  fitBudget_fits item _

theorem length_keptPoints_le (item : Stroke) : (keptPoints item).length ≤ wireSampleLimit := by
  calc (keptPoints item).length ≤ (reduceStrokeSamples item.points wireSampleLimit).length :=
        length_fitBudget_le item _
    _ ≤ max 2 wireSampleLimit := length_reduceStrokeSamples_le _ _
    _ = wireSampleLimit := by decide

theorem keptPoints_of_fits (hlimit : item.points.length ≤ wireSampleLimit)
    (h : Fits item item.points) : keptPoints item = item.points := by
  have hreduce : reduceStrokeSamples item.points wireSampleLimit = item.points :=
    reduceStrokeSamples_of_le (le_trans hlimit (le_max_right _ _))
  unfold keptPoints
  rw [hreduce, fitBudget_of_fits h]

theorem keptPoints_read_back (item : Stroke) :
    keptPoints (catalogStroke item.type (encode item (keptPoints item))) =
      ((keptPoints item).map wireSample).map catalogPoint := by
  have hlength : (((keptPoints item).map wireSample).map catalogPoint).length =
      (keptPoints item).length := by
    rw [length_map, length_map]
  apply keptPoints_of_fits
  · show (((keptPoints item).map wireSample).map catalogPoint).length ≤ wireSampleLimit
    rw [hlength]
    exact length_keptPoints_le item
  · show Fits _ (((keptPoints item).map wireSample).map catalogPoint)
    unfold Fits
    rw [encode_read_back, hlength]
    exact keptPoints_fits item

theorem unit_size_le {places : Nat} (h : Decimal.Within places 0 1 value) :
    JsonSize.javascript value ≤ 9 := by
  apply JsonSize.javascript_le (by decide) (by decide)
  rw [abs_of_nonneg h.le]
  linarith [h.ge]

theorem tilt_size_le (h : Decimal.Within 2 (-90) 90 value) : JsonSize.javascript value ≤ 10 := by
  apply JsonSize.javascript_le (by decide) (by decide)
  rw [abs_lt]
  constructor
  · linarith [h.le]
  · linarith [h.ge]

theorem timestamp_size_le (hnonneg : 0 ≤ value) (h : value ≤ maxTimestamp) :
    JsonSize.javascript value ≤ 21 := by
  apply JsonSize.javascript_le (by decide) (by decide)
  rw [abs_of_nonneg hnonneg]
  unfold maxTimestamp at h
  linarith

theorem radius_size_le (h : Decimal.Within 6 (1 / 2000) (2 / 25) value) :
    JsonSize.javascript value ≤ 9 := by
  apply JsonSize.javascript_le (by decide) (by decide)
  have hlow := h.le
  have hhigh := h.ge
  rw [abs_of_nonneg (by linarith)]
  linarith

theorem Point.OnWire.size_le {point : Point} (h : point.OnWire) :
    point.size JsonSize.javascript ≤ 29 := by
  have hx := unit_size_le h.x
  have hy := unit_size_le h.y
  have hname : "x".length = 1 ∧ "y".length = 1 := by decide
  simp only [Point.size, array, member, hname.1, hname.2, sum_cons, sum_nil,
    length_cons, length_nil]
  omega

theorem Pointer.nameLength_le (pointer : Pointer) : pointer.nameLength ≤ 7 := by
  cases pointer <;> decide

theorem StrokeProfile.nameLength_le (profile : StrokeProfile) : profile.nameLength ≤ 11 := by
  cases profile <;> decide

theorem WireSample.OnWire.size_le {sample : WireSample} (h : sample.OnWire)
    (htime : sample.timestamp ≤ maxTimestamp) : sample.size JsonSize.javascript ≤ 142 := by
  have hx := unit_size_le h.point.x
  have hy := unit_size_le h.point.y
  have hpressure := unit_size_le h.pressure
  have htiltX := tilt_size_le h.tiltX
  have htiltY := tilt_size_le h.tiltY
  have htimestamp := timestamp_size_le h.nonneg htime
  have hpointer := sample.pointer.nameLength_le
  have hnames : "x".length = 1 ∧ "y".length = 1 ∧ "pointer".length = 7 ∧ "pressure".length = 8 ∧
      "tiltX".length = 5 ∧ "tiltY".length = 5 ∧ "timestamp".length = 9 := by decide
  simp only [WireSample.size, array, member, quoted, hnames, sum_cons, sum_nil,
    length_cons, length_nil]
  simp only [WireSample.point] at hx hy
  omega

theorem WireErasure.OnWire.size_le {erasure : WireErasure} (h : erasure.OnWire) :
    erasure.size JsonSize.javascript ≤ 2912 := by
  have hradius := radius_size_le h.radius
  have hpoints : array (erasure.points.map (Point.size JsonSize.javascript)) ≤ 2 + 96 * 30 := by
    calc _ ≤ 2 + (erasure.points.map (Point.size JsonSize.javascript)).length * (29 + 1) := by
          apply JsonSize.array_le
          intro size hsize
          obtain ⟨point, hpoint, rfl⟩ := mem_map.1 hsize
          exact (h.points point hpoint).size_le
      _ = 2 + erasure.points.length * (29 + 1) := by rw [length_map]
      _ ≤ 2 + 96 * 30 := by
          have hfew := h.few
          omega
  have hnames : "radius".length = 6 ∧ "points".length = 6 := by decide
  rw [WireErasure.size, array, sum_cons, sum_cons, sum_nil]
  simp only [member, hnames, length_cons, length_nil]
  omega

theorem ErasuresOnWire.size_le {erasures : List WireErasure} (h : ErasuresOnWire erasures) :
    array (erasures.map (WireErasure.size JsonSize.javascript)) ≤ 2 + 32 * 2913 := by
  calc _ ≤ 2 + (erasures.map (WireErasure.size JsonSize.javascript)).length * (2912 + 1) := by
        apply JsonSize.array_le
        intro size hsize
        obtain ⟨erasure, herasure, rfl⟩ := mem_map.1 hsize
        exact (h.each erasure herasure).size_le
    _ = 2 + erasures.length * (2912 + 1) := by rw [length_map]
    _ ≤ 2 + 32 * 2913 := by
        have hfew := h.few
        omega

structure WireStyle.OnWire (style : WireStyle) : Prop where
  pressureSensitivity : ∀ value, style.pressureSensitivity = some value →
    Decimal.Within 3 0 1 value
  smoothing : ∀ value, style.smoothing = some value → Decimal.Within 3 0 1 value

theorem strokeStyle_onWire (h : strokeStyle item = some style) : style.OnWire := by
  obtain ⟨hempty, h⟩ := Option.ite_none_left_eq_some.1 h
  cases h
  constructor
  · intro value hvalue
    exact styleValue_within hvalue
  · intro value hvalue
    exact styleValue_within hvalue

/-- The members of an object that may be absent. -/
theorem sum_optional_le {value : Option α} {size : α → Nat} {most : Nat}
    (h : ∀ item, value = some item → size item ≤ most) : ((value.map size).toList).sum ≤ most := by
  cases value with
  | none => exact Nat.zero_le most
  | some item => simpa using h item rfl

theorem length_optional_le {β : Type} (value : Option α) (f : α → β) :
    (value.map f).toList.length ≤ 1 := by
  cases value <;> simp

theorem WireStyle.OnWire.size_le (h : style.OnWire) : style.size JsonSize.javascript ≤ 104 := by
  have hnames : "profile".length = 7 ∧ "pressureSource".length = 14 ∧
      "pressureSensitivity".length = 19 ∧ "smoothing".length = 9 := by decide
  have hprofile : (style.profile.map fun profile =>
      member "profile".length (quoted profile.nameLength)).toList.sum ≤ 23 := by
    apply sum_optional_le
    intro profile _
    have hle := profile.nameLength_le
    simp only [member, quoted, hnames]
    omega
  have hsource : (style.pressureSource.map fun source =>
      member "pressureSource".length (quoted source.nameLength)).toList.sum ≤ 24 := by
    apply sum_optional_le
    intro source _
    cases source
    decide
  have hsensitivity : (style.pressureSensitivity.map fun value =>
      member "pressureSensitivity".length (JsonSize.javascript value)).toList.sum ≤ 31 := by
    apply sum_optional_le
    intro value hvalue
    have hle := unit_size_le (h.pressureSensitivity value hvalue)
    simp only [member, hnames]
    omega
  have hsmoothing : (style.smoothing.map fun value =>
      member "smoothing".length (JsonSize.javascript value)).toList.sum ≤ 21 := by
    apply sum_optional_le
    intro value hvalue
    have hle := unit_size_le (h.smoothing value hvalue)
    simp only [member, hnames]
    omega
  have hone := length_optional_le style.profile fun profile =>
    member "profile".length (quoted profile.nameLength)
  have htwo := length_optional_le style.pressureSource fun source =>
    member "pressureSource".length (quoted source.nameLength)
  have hthree := length_optional_le style.pressureSensitivity fun value =>
    member "pressureSensitivity".length (JsonSize.javascript value)
  have hfour := length_optional_le style.smoothing fun value =>
    member "smoothing".length (JsonSize.javascript value)
  rw [WireStyle.size, array]
  simp only [sum_append, length_append]
  omega

theorem two_samples_size_le (hfew : points.length ≤ 2)
    (htime : ∀ point ∈ points, (wireSample point).timestamp ≤ maxTimestamp) :
    (encode item points).size JsonSize.javascript ≤ maxPayloadBytes := by
  have hnames : "kind".length = 4 ∧ "samples".length = 7 ∧ "style".length = 5 ∧
      "erasures".length = 8 ∧ "stroke".length = 6 := by decide
  have hsamples :
      array ((points.map wireSample).map (WireSample.size JsonSize.javascript)) ≤ 2 + 2 * 143 := by
    calc _ ≤ 2 + ((points.map wireSample).map (WireSample.size JsonSize.javascript)).length *
            (142 + 1) := by
          apply JsonSize.array_le
          intro size hsize
          obtain ⟨sample, hsample, rfl⟩ := mem_map.1 hsize
          obtain ⟨point, hpoint, rfl⟩ := mem_map.1 hsample
          exact (wireSample_onWire point).size_le (htime point hpoint)
      _ = 2 + points.length * (142 + 1) := by rw [length_map, length_map]
      _ ≤ 2 + 2 * 143 := by omega
  have hstyle : ((strokeStyle item).map fun style =>
      member "style".length (style.size JsonSize.javascript)).toList.sum ≤ 112 := by
    apply sum_optional_le
    intro style hsome
    have hle := (strokeStyle_onWire hsome).size_le
    simp only [member, hnames]
    omega
  have herasures : ((wireErasures item.erasures).map fun erasures =>
      member "erasures".length
        (array (erasures.map (WireErasure.size JsonSize.javascript)))).toList.sum ≤ 93229 := by
    apply sum_optional_le
    intro erasures hsome
    have hle := (wireErasures_onWire hsome).size_le
    simp only [member, hnames]
    omega
  have hone := length_optional_le (strokeStyle item) fun style =>
    member "style".length (style.size JsonSize.javascript)
  have htwo := length_optional_le (wireErasures item.erasures) fun erasures =>
    member "erasures".length (array (erasures.map (WireErasure.size JsonSize.javascript)))
  have hkind : member "kind".length (quoted "stroke".length) = 15 := by decide
  have hmember : member "samples".length
      (array ((points.map wireSample).map (WireSample.size JsonSize.javascript))) ≤ 298 := by
    simp only [member, hnames]
    omega
  rw [StrokePayload.size, array]
  unfold maxPayloadBytes
  simp only [encode, sum_append, length_append, sum_cons, sum_nil,
    length_cons, length_nil]
  omega

theorem member_mono {name size size' : Nat} (h : size ≤ size') : member name size ≤ member name size' := by
  unfold member
  omega

theorem array_mono {sizes sizes' : List Nat} (h : List.Forall₂ (· ≤ ·) sizes sizes') :
    array sizes ≤ array sizes' := by
  have hsum : sizes.sum ≤ sizes'.sum := h.sum_le_sum
  have hlength : sizes.length = sizes'.length := h.length_eq
  unfold array
  omega

theorem forall₂_optional (value : Option α) {size size' : α → Nat}
    (h : ∀ item, size item ≤ size' item) :
    List.Forall₂ (· ≤ ·) (value.map size).toList (value.map size').toList := by
  cases value with
  | none => exact List.Forall₂.nil
  | some item => exact List.Forall₂.cons (h item) List.Forall₂.nil

section
variable {number number' : ℚ → Nat} (h : ∀ value, number value ≤ number' value)
include h

theorem Point.size_mono (point : Point) : point.size number ≤ point.size number' := by
  apply array_mono
  exact .cons (member_mono (h _)) (.cons (member_mono (h _)) .nil)

theorem WireSample.size_mono (sample : WireSample) : sample.size number ≤ sample.size number' := by
  apply array_mono
  refine .cons (member_mono (h _)) (.cons (member_mono (h _)) (.cons (Nat.le_refl _) ?_))
  refine .cons (member_mono (h _)) (.cons (member_mono (h _)) ?_)
  exact .cons (member_mono (h _)) (.cons (member_mono (h _)) .nil)

theorem WireStyle.size_mono (style : WireStyle) : style.size number ≤ style.size number' := by
  apply array_mono
  refine rel_append (rel_append (rel_append ?_ ?_) ?_) ?_
  · exact forall₂_optional _ fun _ => Nat.le_refl _
  · exact forall₂_optional _ fun _ => Nat.le_refl _
  · exact forall₂_optional _ fun _ => member_mono (h _)
  · exact forall₂_optional _ fun _ => member_mono (h _)

theorem WireErasure.size_mono (erasure : WireErasure) :
    erasure.size number ≤ erasure.size number' := by
  apply array_mono
  refine .cons (member_mono (h _)) (.cons (member_mono ?_) .nil)
  exact JsonSize.array_map_le fun point _ => point.size_mono h

theorem StrokePayload.size_mono (payload : StrokePayload) :
    payload.size number ≤ payload.size number' := by
  apply array_mono
  refine rel_append (rel_append ?_ ?_) ?_
  · refine .cons (Nat.le_refl _) (.cons (member_mono ?_) .nil)
    exact JsonSize.array_map_le fun sample _ => sample.size_mono h
  · exact forall₂_optional _ fun style => member_mono (style.size_mono h)
  · refine forall₂_optional _ fun erasures => member_mono ?_
    exact JsonSize.array_map_le fun erasure _ => erasure.size_mono h

end

/-- What the loop lets through is within the server's limit. -/
theorem size_keptPoints_le
    (htime : ∀ point ∈ keptPoints item, (wireSample point).timestamp ≤ maxTimestamp) :
    (encode item (keptPoints item)).size JsonSize.python ≤ maxPayloadBytes := by
  have hpython := StrokePayload.size_mono JsonSize.python_le_javascript (encode item (keptPoints item))
  have hsize : (encode item (keptPoints item)).size JsonSize.javascript ≤ maxPayloadBytes := by
    rcases keptPoints_fits item with hbudget | hfew
    · exact le_trans hbudget (by decide)
    · exact two_samples_size_le hfew htime
  exact le_trans hpython hsize

end LockIn.Workspace
