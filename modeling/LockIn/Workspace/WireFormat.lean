import LockIn.Workspace.WireStrokes

/-!
# An annotation read back

An annotation that the server can hold is sent, checked and stored, and read back.  It is
then sent as it was, and so is not taken for an edit, when its colour is in lower case, no
sample that bounds a stroke was left out, its times are in the server's range and both sides
strip its text alike.
-/

namespace LockIn.Workspace

open Decimal (Within HasPlaces clamp roundTo)
open List
open Outcome
open Utf16 (Text)

variable {label : String} {point : Point} {sample : WireSample} {item : Stroke} {p : ℚ → Prop}
  {values : List ℚ} {color : Text} {body : AnnotationBody} {sent : FocusTool × Payload}
  {tool : FocusTool} {stored : Payload}

theorem checkNumber_ok {minimum maximum value : ℚ} (hlow : minimum ≤ value)
    (hhigh : value ≤ maximum) : checkNumber label minimum maximum value = .ok value :=
  if_pos ⟨hlow, hhigh⟩

theorem le_of_checkNumber {minimum maximum value result : ℚ}
    (h : checkNumber label minimum maximum value = .ok result) : value ≤ maximum := by
  unfold checkNumber at h
  by_cases hrange : minimum ≤ value ∧ value ≤ maximum
  · exact hrange.2
  · rw [if_neg hrange] at h
    exact absurd h (by simp [refused])

theorem Point.OnWire.checkPoint (h : point.OnWire) (label : String) :
    checkPoint label point = .ok point := by
  unfold Workspace.checkPoint
  rw [checkNumber_ok h.x.le h.x.ge, ok_bind, checkNumber_ok h.y.le h.y.ge, ok_bind]

theorem WireSample.OnWire.checkSample (h : sample.OnWire)
    (htime : sample.timestamp ≤ maxTimestamp) : checkSample sample = .ok sample := by
  have hx : checkNumber "sample.x" 0 1 sample.x = .ok sample.x :=
    checkNumber_ok h.point.x.le h.point.x.ge
  have hy : checkNumber "sample.y" 0 1 sample.y = .ok sample.y :=
    checkNumber_ok h.point.y.le h.point.y.ge
  unfold Workspace.checkSample
  rw [hx, ok_bind, hy, ok_bind,
    checkNumber_ok h.pressure.le h.pressure.ge, ok_bind,
    checkNumber_ok h.tiltX.le h.tiltX.ge, ok_bind,
    checkNumber_ok h.tiltY.le h.tiltY.ge, ok_bind,
    checkNumber_ok h.nonneg htime, ok_bind]

theorem timestamp_le_of_checkSample {result : WireSample} (h : checkSample sample = .ok result) :
    sample.timestamp ≤ maxTimestamp := by
  obtain ⟨_, _, h⟩ := bind_eq_ok.1 h
  obtain ⟨_, _, h⟩ := bind_eq_ok.1 h
  obtain ⟨_, _, h⟩ := bind_eq_ok.1 h
  obtain ⟨_, _, h⟩ := bind_eq_ok.1 h
  obtain ⟨_, _, h⟩ := bind_eq_ok.1 h
  obtain ⟨_, htime, _⟩ := bind_eq_ok.1 h
  exact le_of_checkNumber htime

theorem checkOptional_ok {places : Nat} {value : Option ℚ}
    (h : ∀ number, value = some number → Within places 0 1 number) :
    checkOptional label value = .ok value := by
  cases value with
  | none => rfl
  | some number =>
    have hnumber := h number rfl
    show some <$> checkNumber label 0 1 number = _
    rw [checkNumber_ok hnumber.le hnumber.ge]
    rfl

theorem WireStyle.OnWire.checkStyle {style : WireStyle} (h : style.OnWire) :
    checkStyle style = .ok style := by
  unfold Workspace.checkStyle
  rw [checkOptional_ok h.pressureSensitivity, ok_bind, checkOptional_ok h.smoothing,
    ok_bind]

theorem WireErasure.OnWire.checkErasure {erasure : WireErasure} (h : erasure.OnWire) (index : Nat) :
    checkErasure erasure index = .ok erasure := by
  have hcount : ¬ (erasure.points.length < 1 ∨ 96 < erasure.points.length) := by
    have hpos := length_pos_of_ne_nil h.nonempty
    have hfew := h.few
    omega
  have hpoints : erasure.points.mapM (Workspace.checkPoint "erasure.point") = .ok erasure.points := by
    rw [mapM_eq_ok fun point hpoint => (h.points point hpoint).checkPoint "erasure.point"]
    exact congrArg Except.ok (map_id _)
  unfold Workspace.checkErasure
  rw [if_neg hcount, checkNumber_ok h.radius.le h.radius.ge, ok_bind, hpoints,
    ok_bind]

theorem ErasuresOnWire.checkErasures {erasures : List WireErasure} (h : ErasuresOnWire erasures) :
    checkErasures erasures = .ok erasures := by
  have hcount : ¬ 32 < erasures.length := by
    have hfew := h.few
    omega
  unfold Workspace.checkErasures
  rw [if_neg hcount, mapM_eq_ok]
  · exact congrArg Except.ok (zipIdx_map_fst 0 erasures)
  · intro erasure herasure
    have hmem : erasure.1 ∈ erasures := (mem_zipIdx' herasure).2 ▸ getElem_mem _
    exact (h.each erasure.1 hmem).checkErasure erasure.2

theorem checkPresent_ok {α : Type} {check : α → Validated α} {value : Option α}
    (h : ∀ item, value = some item → check item = .ok item) : checkPresent check value = .ok value := by
  cases value with
  | none => rfl
  | some item =>
    show some <$> check item = _
    rw [h item rfl]
    rfl

theorem validateStroke_ok {points : List InkPoint} (hmany : 2 ≤ points.length)
    (hfew : points.length ≤ 2048)
    (htime : ∀ point ∈ points, (wireSample point).timestamp ≤ maxTimestamp) :
    validateStroke (encode item points) = .ok (.stroke (encode item points)) := by
  have hcount : ¬ ((encode item points).samples.length < 2 ∨
      2048 < (encode item points).samples.length) := by
    simp only [encode, length_map]
    omega
  have hsamples : (encode item points).samples.mapM checkSample =
      .ok (encode item points).samples := by
    rw [mapM_eq_ok (g := id)]
    · exact congrArg Except.ok (map_id _)
    · intro sample hsample
      obtain ⟨point, hpoint, rfl⟩ := mem_map.1 hsample
      exact (wireSample_onWire point).checkSample (htime point hpoint)
  have hstyle : checkPresent checkStyle (encode item points).style =
      .ok (encode item points).style :=
    checkPresent_ok fun style hsome => (strokeStyle_onWire hsome).checkStyle
  have herasures : checkPresent checkErasures (encode item points).erasures =
      .ok (encode item points).erasures :=
    checkPresent_ok fun erasures hsome => (wireErasures_onWire hsome).checkErasures
  unfold validateStroke
  rw [if_neg hcount, hsamples, ok_bind, hstyle, ok_bind, herasures, ok_bind]

theorem foldl_of_all {f : ℚ → ℚ → ℚ} (hf : ∀ a b, f a b = a ∨ f a b = b) (rest : List ℚ) (start : ℚ)
    (hstart : p start) (h : ∀ value ∈ rest, p value) : p (rest.foldl f start) := by
  induction rest generalizing start with
  | nil => exact hstart
  | cons head tail ih =>
    apply ih
    · rcases hf start head with hchoice | hchoice
      · rw [hchoice]
        exact hstart
      · rw [hchoice]
        exact h head mem_cons_self
    · exact fun value hvalue => h value (mem_cons_of_mem _ hvalue)

theorem least_of_all (hne : values ≠ []) (h : ∀ value ∈ values, p value) : p (least values) := by
  cases values with
  | nil => exact absurd rfl hne
  | cons first rest =>
    exact foldl_of_all min_choice rest first (h first mem_cons_self)
      fun value hvalue => h value (mem_cons_of_mem _ hvalue)

theorem greatest_of_all (hne : values ≠ []) (h : ∀ value ∈ values, p value) :
    p (greatest values) := by
  cases values with
  | nil => exact absurd rfl hne
  | cons first rest =>
    exact foldl_of_all max_choice rest first (h first mem_cons_self)
      fun value hvalue => h value (mem_cons_of_mem _ hvalue)

theorem side_ok {values : List ℚ} (hne : values ≠ []) (h : ∀ value ∈ values, Within 6 0 1 value) :
    Within 6 0 1 (least values) ∧
      Within 6 0 1 (roundTo 6 (max (1 / 1000) (greatest values - least values))) ∧
      least values + roundTo 6 (max (1 / 1000) (greatest values - least values)) ≤ 1001 / 1000 := by
  have hleast : Within 6 0 1 (least values) := least_of_all hne h
  have hgreatest : Within 6 0 1 (greatest values) := greatest_of_all hne h
  have hthousandth : HasPlaces 6 (1 / 1000) := ⟨1000, by norm_num⟩
  have hwidth : HasPlaces 6 (max (1 / 1000) (greatest values - least values)) :=
    hthousandth.max (hgreatest.hasPlaces.sub hleast.hasPlaces)
  rw [hwidth.roundTo]
  have hleastLow := hleast.le
  have hleastHigh := hleast.ge
  have hgreatestHigh := hgreatest.ge
  refine ⟨hleast, ⟨hwidth, ?_, ?_⟩, ?_⟩
  · exact le_trans (by norm_num) (le_max_left (1 / 1000 : ℚ) _)
  · apply max_le
    · norm_num
    · linarith
  · rcases max_choice (1 / 1000 : ℚ) (greatest values - least values) with hmax | hmax
    · rw [hmax]
      linarith
    · rw [hmax]
      linarith

theorem validateBounds_ok {points : List Point} (hne : points ≠ [])
    (h : ∀ point ∈ points, point.OnWire) : validateBounds (boundsOf points) = .ok (boundsOf points) := by
  obtain ⟨hx, hwidth, hright⟩ := @side_ok (points.map (·.x)) (by simpa using hne) (by
    intro value hvalue
    obtain ⟨point, hpoint, rfl⟩ := mem_map.1 hvalue
    exact (h point hpoint).x)
  obtain ⟨hy, hheight, hbottom⟩ := @side_ok (points.map (·.y)) (by simpa using hne) (by
    intro value hvalue
    obtain ⟨point, hpoint, rfl⟩ := mem_map.1 hvalue
    exact (h point hpoint).y)
  have hinside : ¬ (1001 / 1000 < (boundsOf points).x + (boundsOf points).width ∨
      1001 / 1000 < (boundsOf points).y + (boundsOf points).height) := by
    rintro (hout | hout)
    · exact absurd hright (not_le.2 hout)
    · exact absurd hbottom (not_le.2 hout)
  have hxOk : checkNumber "bounds.x" 0 1 (boundsOf points).x = .ok (boundsOf points).x :=
    checkNumber_ok hx.le hx.ge
  have hyOk : checkNumber "bounds.y" 0 1 (boundsOf points).y = .ok (boundsOf points).y :=
    checkNumber_ok hy.le hy.ge
  have hwidthOk : checkNumber "bounds.width" 0 1 (boundsOf points).width =
      .ok (boundsOf points).width := checkNumber_ok hwidth.le hwidth.ge
  have hheightOk : checkNumber "bounds.height" 0 1 (boundsOf points).height =
      .ok (boundsOf points).height := checkNumber_ok hheight.le hheight.ge
  unfold validateBounds
  rw [hxOk, ok_bind, hyOk, ok_bind, hwidthOk, ok_bind, hheightOk,
    ok_bind, if_neg hinside]

theorem isHexDigit_lower {unit : UInt16} (h : isHexDigit unit = true) :
    isHexDigit (if 0x41 ≤ unit ∧ unit ≤ 0x5A then unit + 0x20 else unit) = true := by
  by_cases hupper : 0x41 ≤ unit ∧ unit ≤ 0x5A
  · rw [if_pos hupper]
    simp only [isHexDigit, Bool.or_eq_true, Bool.and_eq_true, decide_eq_true_eq,
      UInt16.le_iff_toNat_le, UInt16.toNat_add, UInt16.reduceToNat] at h hupper ⊢
    omega
  · rw [if_neg hupper]
    exact h

theorem isHexColor_lower (h : isHexColor color = true) : isHexColor (Utf16.lower color) = true := by
  cases color with
  | nil => exact absurd h (by decide)
  | cons first rest =>
    simp only [isHexColor, head?_cons, tail_cons, Bool.and_eq_true, Bool.or_eq_true,
      decide_eq_true_eq, Option.some.injEq, all_eq_true] at h
    obtain ⟨⟨rfl, hlength⟩, hdigits⟩ := h
    have hrest : (Utf16.lower rest).all isHexDigit = true := by
      rw [all_eq_true]
      intro unit hunit
      obtain ⟨original, horiginal, rfl⟩ := mem_map.1 hunit
      exact isHexDigit_lower (hdigits original horiginal)
    show isHexColor ((if (0x41 : UInt16) ≤ 0x23 ∧ (0x23 : UInt16) ≤ 0x5A then 0x23 + 0x20 else 0x23) ::
      Utf16.lower rest) = true
    simp only [isHexColor, head?_cons, tail_cons, Utf16.length_lower, hrest]
    have hcount : rest.length = 6 ∨ rest.length = 8 :=
      hlength.imp of_decide_eq_true of_decide_eq_true
    simpa using hcount

theorem isHexColor_wireColor (color : Text) : isHexColor (wireColor color) = true := by
  unfold wireColor
  by_cases h : isHexColor color = true
  · rw [if_pos h]
    exact h
  · rw [if_neg h]
    decide

theorem validateColor_wireColor (color : Text) :
    validateColor (wireColor color) = .ok (Utf16.lower (wireColor color)) :=
  if_pos (isHexColor_wireColor color)

theorem wireColor_of_isHexColor (h : isHexColor color = true) :
    wireColor color = color := if_pos h

theorem wireThickness_read_back (width : ℚ) : wireThickness (wireThickness width) = wireThickness width := by
  have hwithin : Within 2 (1 / 100) 64 (wireThickness width) := within_thickness _
  have hne : wireThickness width ≠ 0 := by
    have hlow := hwithin.le
    intro hzero
    rw [hzero] at hlow
    norm_num at hlow
  show roundTo 2 (clamp (if wireThickness width = 0 then 4 else wireThickness width) (1 / 100) 64) = _
  rw [if_neg hne, hwithin.roundTo_clamp]

theorem wireOpacity_read_back (opacity : ℚ) : wireOpacity (wireOpacity opacity) = wireOpacity opacity :=
  (within_unit 3 opacity).roundTo_clamp

/-- The server takes what is sent for the annotation, and what it returns converts to the
same mutation, the id aside. -/
def RoundTrips (item : CatalogAnnotation) : Prop :=
  ∃ wire stored back again, catalogAnnotationToFocus item = some wire ∧
    storeMutation wire = .ok stored ∧ focusAnnotationToCatalog stored = some back ∧
    catalogAnnotationToFocus back = some again ∧ { again with id := wire.id } = wire

def BodyTrips (body : AnnotationBody) : Prop :=
  ∃ tool payload stored back, payloadOf body = some (tool, payload) ∧
    validatePayload tool payload = .ok stored ∧
    catalogBody tool stored (focusBounds body) = some back ∧
    payloadOf back = some (tool, payload) ∧ focusBounds back = focusBounds body

theorem anchors_ne_nil (h : payloadOf body = some sent) : anchors body ≠ [] := by
  cases body with
  | stroke item =>
    intro hempty
    have hpoints : item.points = [] := map_eq_nil_iff.1 hempty
    have hreduce : reduceStrokeSamples item.points wireSampleLimit = [] := by
      rw [hpoints]
      exact reduceStrokeSamples_of_le (Nat.zero_le _)
    have hkept : (keptPoints item).length ≤ 0 := by
      calc (keptPoints item).length ≤ (reduceStrokeSamples item.points wireSampleLimit).length :=
            length_fitBudget_le item _
        _ = 0 := by rw [hreduce]; rfl
    have hnone : payloadOf (.stroke item) = none := by
      apply if_neg
      simp only [encode, length_map]
      omega
    rw [hnone] at h
    simp at h
  | shape item => exact cons_ne_nil _ _
  | text item => exact cons_ne_nil _ _
  | deviceOnly => exact absurd h (by simp [payloadOf])

theorem validateBounds_focusBounds (h : payloadOf body = some sent) :
    validateBounds (focusBounds body) = .ok (focusBounds body) := by
  apply validateBounds_ok
  · intro hempty
    exact anchors_ne_nil h (map_eq_nil_iff.1 hempty)
  · intro point hpoint
    obtain ⟨original, _, rfl⟩ := mem_map.1 hpoint
    exact toFocusPoint_onWire original

theorem catalogAnnotationToFocus_eq_some {item : CatalogAnnotation} {wire : FocusMutation} :
    catalogAnnotationToFocus item = some wire ↔
      item.id ≠ [] ∧ ∃ tool payload, payloadOf item.body = some (tool, payload) ∧
        wire = mutationOf item tool payload := by
  unfold catalogAnnotationToFocus
  by_cases hid : item.id = []
  · rw [if_pos hid]
    exact ⟨fun h => absurd h (by simp), fun h => absurd hid h.1⟩
  · rw [if_neg hid, Option.map_eq_some_iff]
    constructor
    · rintro ⟨⟨tool, payload⟩, hsent, rfl⟩
      exact ⟨hid, tool, payload, hsent, rfl⟩
    · rintro ⟨_, tool, payload, hsent, rfl⟩
      exact ⟨(tool, payload), hsent, rfl⟩

def spelled (wire : FocusMutation) (payload : Payload) : FocusMutation :=
  { wire with id := Utf16.lower wire.id, payload := payload, color := Utf16.lower wire.color }

theorem storeMutation_eq_ok {item : CatalogAnnotation} {payload : Payload} {stored : FocusMutation}
    (h : payloadOf item.body = some (tool, payload)) :
    storeMutation (mutationOf item tool payload) = .ok stored ↔
      ∃ kept, validatePayload tool payload = .ok kept ∧
        stored = spelled (mutationOf item tool payload) kept := by
  have hbounds : validateBounds (mutationOf item tool payload).bounds =
      .ok (mutationOf item tool payload).bounds := validateBounds_focusBounds h
  have hcolor : validateColor (mutationOf item tool payload).color =
      .ok (Utf16.lower (mutationOf item tool payload).color) := validateColor_wireColor item.color
  unfold storeMutation
  rw [hbounds, ok_bind, bind_eq_ok, hcolor]
  constructor
  · rintro ⟨kept, hkept, heq⟩
    exact ⟨kept, hkept, (Except.ok.inj heq).symm⟩
  · rintro ⟨kept, hkept, rfl⟩
    exact ⟨kept, hkept, rfl⟩

theorem lower_ne_nil {text : Text} (h : text ≠ []) : Utf16.lower text ≠ [] := by
  intro hempty
  have hlength := Utf16.length_lower text
  rw [hempty] at hlength
  exact h (eq_nil_of_length_eq_zero hlength.symm)

theorem roundTrips_iff {item : CatalogAnnotation} (hid : item.id ≠ []) :
    RoundTrips item ↔
      Utf16.lower (wireColor item.color) = wireColor item.color ∧ BodyTrips item.body := by
  have hcolor : wireColor (Utf16.lower (wireColor item.color)) = Utf16.lower (wireColor item.color) :=
    wireColor_of_isHexColor (isHexColor_lower (isHexColor_wireColor item.color))
  constructor
  · rintro ⟨wire, stored, back, again, hwire, hstored, hback, hagain, heq⟩
    obtain ⟨_, tool, payload, hsent, rfl⟩ := catalogAnnotationToFocus_eq_some.1 hwire
    obtain ⟨kept, hkept, rfl⟩ := (storeMutation_eq_ok hsent).1 hstored
    obtain ⟨body, hbody, rfl⟩ := Option.map_eq_some_iff.1 hback
    obtain ⟨_, tool', payload', hsent', rfl⟩ := catalogAnnotationToFocus_eq_some.1 hagain
    have hcolorEq : wireColor (Utf16.lower (wireColor item.color)) = wireColor item.color :=
      congrArg FocusMutation.color heq
    have hboundsEq : focusBounds body = focusBounds item.body := congrArg FocusMutation.bounds heq
    have htool : tool' = tool := congrArg FocusMutation.tool heq
    have hpayload : payload' = payload := congrArg FocusMutation.payload heq
    rw [htool, hpayload] at hsent'
    exact ⟨hcolor.symm.trans hcolorEq, tool, payload, kept, body, hsent, hkept, hbody, hsent', hboundsEq⟩
  · rintro ⟨hlower, tool, payload, kept, body, hsent, hkept, hbody, hsent', hboundsEq⟩
    have hstored : storeMutation (mutationOf item tool payload) =
        .ok (spelled (mutationOf item tool payload) kept) :=
      (storeMutation_eq_ok hsent).2 ⟨kept, hkept, rfl⟩
    have hback : focusAnnotationToCatalog (spelled (mutationOf item tool payload) kept) =
        some (annotationOf (spelled (mutationOf item tool payload) kept) body) :=
      Option.map_eq_some_iff.2 ⟨body, hbody, rfl⟩
    refine ⟨_, _, _, _, catalogAnnotationToFocus_eq_some.2 ⟨hid, tool, payload, hsent, rfl⟩, hstored,
      hback, catalogAnnotationToFocus_eq_some.2 ⟨lower_ne_nil hid, tool, payload, hsent', rfl⟩, ?_⟩
    show FocusMutation.mk item.id item.page (focusBounds body)
      (wireColor (Utf16.lower (wireColor item.color))) (wireThickness (wireThickness item.width))
      (wireOpacity (wireOpacity item.opacity)) tool payload = mutationOf item tool payload
    rw [hboundsEq, hcolor, hlower, wireThickness_read_back, wireOpacity_read_back]
    rfl

@[simp]
theorem strokeTool_focusTool (type : StrokeTool) : type.focusTool.strokeTool = some type := by
  cases type <;> rfl

@[simp]
theorem family_focusTool (type : StrokeTool) : type.focusTool.family = .drawing := by
  cases type <;> rfl

theorem payloadOf_stroke (h : payloadOf (.stroke item) = some sent) :
    2 ≤ (keptPoints item).length ∧
      sent = (item.type.focusTool, .stroke (encode item (keptPoints item))) := by
  have hlength : (encode item (keptPoints item)).samples.length = (keptPoints item).length :=
    length_map _
  unfold payloadOf at h
  simp only [hlength] at h
  obtain ⟨hmany, h⟩ := Option.ite_none_right_eq_some.1 h
  exact ⟨hmany, (Option.some.inj h).symm⟩

theorem payloadOf_stroke_read_back (hmany : 2 ≤ (keptPoints item).length) :
    payloadOf (.stroke (catalogStroke item.type (encode item (keptPoints item)))) =
      some (item.type.focusTool, .stroke (encode item (keptPoints item))) := by
  have hlength : (encode item (keptPoints item)).samples.length = (keptPoints item).length :=
    length_map _
  unfold payloadOf
  simp only [keptPoints_read_back, encode_read_back, hlength, if_pos hmany]
  rfl

theorem focusBounds_stroke_read_back (item : Stroke) (points : List InkPoint) :
    focusBounds (.stroke (catalogStroke item.type (encode item points))) =
      focusBounds (.stroke { item with points := points }) := by
  have hpoints : (((points.map wireSample).map catalogPoint).map (·.position)).map toFocusPoint =
      (points.map (·.position)).map toFocusPoint := by
    simp only [map_map]
    apply map_congr_left
    intro point _
    exact (toFocusPoint_onWire point.position).toFocusPoint_fromFocusPoint
  show boundsOf ((((points.map wireSample).map catalogPoint).map (·.position)).map toFocusPoint) =
    boundsOf ((points.map (·.position)).map toFocusPoint)
  rw [hpoints]

theorem validatePayload_stroke (hmany : 2 ≤ (keptPoints item).length) :
    validatePayload item.type.focusTool (.stroke (encode item (keptPoints item))) = .ok stored ↔
      (∀ point ∈ keptPoints item, (wireSample point).timestamp ≤ maxTimestamp) ∧
        stored = .stroke (encode item (keptPoints item)) := by
  have hkind : validateKind item.type.focusTool (.stroke (encode item (keptPoints item))) =
      validateStroke (encode item (keptPoints item)) := by
    unfold validateKind
    rw [family_focusTool]
  constructor
  · intro h
    have hstroke : validateStroke (encode item (keptPoints item)) = .ok stored := by
      rw [← hkind]
      simp only [validatePayload, payloadBytes] at h
      by_cases hsize : maxPayloadBytes < (encode item (keptPoints item)).size JsonSize.python
      · rw [if_pos hsize] at h
        exact absurd h (by simp [refused])
      · rw [if_neg hsize] at h
        exact h
    have htime : ∀ point ∈ keptPoints item, (wireSample point).timestamp ≤ maxTimestamp := by
      intro point hpoint
      unfold validateStroke at hstroke
      by_cases hcount : (encode item (keptPoints item)).samples.length < 2 ∨
          2048 < (encode item (keptPoints item)).samples.length
      · rw [if_pos hcount] at hstroke
        exact absurd hstroke (by simp [refused])
      · rw [if_neg hcount] at hstroke
        obtain ⟨samples, hsamples, _⟩ := bind_eq_ok.1 hstroke
        obtain ⟨result, hresult⟩ :=
          ok_of_mapM hsamples (wireSample point) (mem_map_of_mem hpoint)
        exact timestamp_le_of_checkSample hresult
    have hlength := length_keptPoints_le item
    rw [validateStroke_ok hmany (le_trans hlength (by decide)) htime] at hstroke
    exact ⟨htime, (Except.ok.inj hstroke).symm⟩
  · rintro ⟨htime, rfl⟩
    have hsize : ¬ maxPayloadBytes < (encode item (keptPoints item)).size JsonSize.python := by
      have hle := size_keptPoints_le htime
      omega
    have hlength := length_keptPoints_le item
    simp only [validatePayload, payloadBytes]
    rw [if_neg hsize, hkind]
    exact validateStroke_ok hmany (le_trans hlength (by decide)) htime

theorem stroke_trips_iff (h : payloadOf (.stroke item) ≠ none) :
    BodyTrips (.stroke item) ↔
      (∀ point ∈ keptPoints item, (wireSample point).timestamp ≤ maxTimestamp) ∧
        focusBounds (.stroke { item with points := keptPoints item }) = focusBounds (.stroke item) := by
  obtain ⟨sent, hsent⟩ := Option.ne_none_iff_exists'.1 h
  obtain ⟨hmany, rfl⟩ := payloadOf_stroke hsent
  constructor
  · rintro ⟨tool, payload, stored, back, hpayload, hstored, hback, _, hbounds⟩
    cases hsent.symm.trans hpayload
    obtain ⟨htime, rfl⟩ := (validatePayload_stroke hmany).1 hstored
    simp only [catalogBody, strokeTool_focusTool, Option.map_some, Option.some.injEq] at hback
    rw [← hback, focusBounds_stroke_read_back] at hbounds
    exact ⟨htime, hbounds⟩
  · rintro ⟨htime, hbounds⟩
    refine ⟨_, _, _, _, hsent, (validatePayload_stroke hmany).2 ⟨htime, rfl⟩, ?_,
      payloadOf_stroke_read_back hmany, ?_⟩
    · simp only [catalogBody, strokeTool_focusTool, Option.map_some]
    · rw [focusBounds_stroke_read_back]
      exact hbounds

theorem shapeName_of_focusTool {shape : ShapeName} (h : shape.focusTool = some tool) :
    tool.family = .shape ∧ ∃ name, tool.shapeName = some name ∧ name.focusTool = some tool := by
  cases shape <;> cases h <;> exact ⟨rfl, _, rfl, rfl⟩

theorem Point.OnWire.size_python_le (h : point.OnWire) : point.size JsonSize.python ≤ 29 :=
  le_trans (point.size_mono JsonSize.python_le_javascript) h.size_le

theorem validatePayload_shape {start finish : Point} (htool : tool.family = .shape)
    (hstart : start.OnWire) (hfinish : finish.OnWire) :
    validatePayload tool (.shape start finish) = .ok (.shape start finish) := by
  have hstartSize := hstart.size_python_le
  have hfinishSize := hfinish.size_python_le
  have hnames : "kind".length = 4 ∧ "shape".length = 5 ∧ "start".length = 5 ∧ "end".length = 3 := by
    decide
  simp only [validatePayload, payloadBytes]
  rw [if_neg]
  · simp only [validateKind, htool]
    rw [hstart.checkPoint, ok_bind, hfinish.checkPoint, ok_bind]
  · simp only [JsonSize.array, JsonSize.member, JsonSize.quoted, hnames, maxPayloadBytes,
      sum_cons, sum_nil, length_cons, length_nil]
    omega

theorem shape_trips {item : Shape} (h : payloadOf (.shape item) ≠ none) : BodyTrips (.shape item) := by
  obtain ⟨sent, hsent⟩ := Option.ne_none_iff_exists'.1 h
  obtain ⟨tool, htool, rfl⟩ := Option.map_eq_some_iff.1 hsent
  obtain ⟨hfamily, name, hname, hagain⟩ := shapeName_of_focusTool htool
  have hstart := (toFocusPoint_onWire item.start).toFocusPoint_fromFocusPoint
  have hfinish := (toFocusPoint_onWire item.finish).toFocusPoint_fromFocusPoint
  refine ⟨tool, _, _, .shape ⟨name, fromFocusPoint (toFocusPoint item.start),
    fromFocusPoint (toFocusPoint item.finish)⟩, hsent,
    validatePayload_shape hfamily (toFocusPoint_onWire _) (toFocusPoint_onWire _), ?_, ?_, ?_⟩
  · simp only [catalogBody, hname, Option.map_some]
  · simp only [payloadOf, hagain, Option.map_some, hstart, hfinish]
  · show boundsOf [toFocusPoint (fromFocusPoint (toFocusPoint item.start)),
      toFocusPoint (fromFocusPoint (toFocusPoint item.finish))] = _
    rw [hstart, hfinish]
    rfl

theorem validatePayload_text {value : Text} {align : Align} {bold : Bool}
    (hshort : value.length ≤ 1000) :
    validatePayload .text (.text value align bold) = .ok stored ↔
      Utf16.IsWellFormed value ∧ strip value ≠ [] ∧ stored = .text (strip value) align bold := by
  have hcount : ¬ 4000 < (Utf16.codePoints value).length := by
    have hle := Utf16.codePoints_length_le value
    omega
  have hkind : ∀ result, validateKind .text (.text value align bold) = .ok result ↔
      strip value ≠ [] ∧ result = .text (strip value) align bold := by
    intro result
    show validateText value align bold = .ok result ↔ _
    unfold validateText
    by_cases hempty : strip value = []
    · rw [if_pos (Or.inl hempty)]
      exact ⟨fun h => absurd h (by simp [refused]), fun h => absurd hempty h.1⟩
    · rw [if_neg (by simp only [hempty, hcount, or_self, not_false_eq_true])]
      exact ⟨fun h => ⟨hempty, (Except.ok.inj h).symm⟩, fun h => by rw [h.2]⟩
  by_cases hformed : Utf16.IsWellFormed value
  · obtain ⟨bytes, hbytes, hle⟩ := JsonSize.textBytes_eq hformed
    have hnames : "kind".length = 4 ∧ "value".length = 5 ∧ "align".length = 5 ∧ "bold".length = 4 ∧
        "text".length = 4 := by decide
    have halign : align.nameLength ≤ 6 := by cases align <;> decide
    have hbold : (if bold then 4 else 5) ≤ 5 := by cases bold <;> decide
    have hsize : ¬ maxPayloadBytes < JsonSize.array
        [JsonSize.member "kind".length (JsonSize.quoted "text".length),
          JsonSize.member "value".length bytes,
          JsonSize.member "align".length (JsonSize.quoted align.nameLength),
          JsonSize.member "bold".length (if bold then 4 else 5)] := by
      simp only [JsonSize.array, JsonSize.member, JsonSize.quoted, hnames, maxPayloadBytes,
        sum_cons, sum_nil, length_cons, length_nil]
      omega
    simp only [validatePayload, payloadBytes, hbytes, Option.map_some, if_neg hsize]
    rw [hkind]
    simp only [hformed, true_and]
  · have hnone : JsonSize.textBytes value = none := by
      cases hbytes : JsonSize.textBytes value with
      | none => rfl
      | some bytes => exact absurd (JsonSize.isWellFormed_of_textBytes hbytes) hformed
    simp only [validatePayload, payloadBytes, hnone, Option.map_none]
    exact ⟨fun h => absurd h (by simp), fun h => absurd h.1 hformed⟩

theorem focusBounds_text_read_back (item : TextNote) (value : Text) :
    focusBounds (.text (catalogText (focusBounds (.text item)) value item.align item.bold)) =
      focusBounds (.text item) := by
  have hpoint := (toFocusPoint_onWire ⟨item.x, item.y⟩).toFocusPoint_fromFocusPoint
  show boundsOf [toFocusPoint (fromFocusPoint (toFocusPoint ⟨item.x, item.y⟩))] =
    boundsOf [toFocusPoint ⟨item.x, item.y⟩]
  rw [hpoint]

theorem payloadOf_text {item : TextNote} (h : trim item.text ≠ []) :
    payloadOf (.text item) = some (.text, .text (trim item.text) item.align item.bold) := if_neg h

theorem text_trips_iff {item : TextNote} (hne : item.text ≠ []) (hshort : item.text.length ≤ 1000)
    (htrim : trim item.text = item.text) :
    BodyTrips (.text item) ↔ Utf16.IsWellFormed item.text ∧ strip item.text = item.text := by
  have hsent : payloadOf (.text item) = some (.text, .text item.text item.align item.bold) := by
    have hpayload := @payloadOf_text item (by rw [htrim]; exact hne)
    rw [htrim] at hpayload
    exact hpayload
  constructor
  · rintro ⟨tool, payload, stored, back, hpayload, hstored, hback, hagain, _⟩
    cases hsent.symm.trans hpayload
    obtain ⟨hformed, hstripped, rfl⟩ := (validatePayload_text hshort).1 hstored
    simp only [catalogBody, if_true, Option.some.injEq] at hback
    rw [← hback] at hagain
    refine ⟨hformed, ?_⟩
    by_contra hchanged
    have hshorter : trim (strip item.text) ≠ item.text := Utf16.trimBy_trimBy_ne hchanged
    by_cases hempty : trim (strip item.text) = []
    · have hnone : payloadOf (.text (catalogText (focusBounds (.text item)) (strip item.text)
          item.align item.bold)) = none := if_pos hempty
      rw [hnone] at hagain
      simp at hagain
    · rw [@payloadOf_text (catalogText _ (strip item.text) _ _) hempty] at hagain
      simp only [Option.some.injEq, Prod.mk.injEq, Payload.text.injEq, true_and] at hagain
      exact hshorter hagain.1
  · rintro ⟨hformed, hstrip⟩
    refine ⟨_, _, .text item.text item.align item.bold, .text (catalogText (focusBounds (.text item))
      item.text item.align item.bold), hsent, ?_, ?_, ?_, focusBounds_text_read_back item item.text⟩
    · apply (validatePayload_text hshort).2
      rw [hstrip]
      exact ⟨hformed, hne, rfl⟩
    · simp only [catalogBody, if_true]
    · have htrimmed : trim item.text ≠ [] := by rw [htrim]; exact hne
      rw [@payloadOf_text (catalogText _ item.text _ _) htrimmed]
      show some (FocusTool.text, Payload.text (trim item.text) item.align item.bold) = _
      rw [htrim]

/-- The server keeps the body as it was sent: a stroke's times are in its range and its samples
that are left out do not bound it, and the server finds nothing to strip from a text. -/
def KeptAsSent : AnnotationBody → Prop
  | .stroke item =>
    (∀ point ∈ keptPoints item, (wireSample point).timestamp ≤ maxTimestamp) ∧
      focusBounds (.stroke { item with points := keptPoints item }) = focusBounds (.stroke item)
  | .shape _ => True
  | .text item => Utf16.IsWellFormed item.text ∧ strip item.text = item.text
  | .deviceOnly => True

theorem sanitized_text {item : TextNote} (h : sanitizeBody (.text item) = some (.text item)) :
    item.text ≠ [] ∧ item.text.length ≤ 1000 ∧ trim item.text = item.text := by
  simp only [sanitizeBody] at h
  obtain ⟨hempty, h⟩ := Option.ite_none_left_eq_some.1 h
  have htext : (trim item.text).take 1000 = item.text :=
    congrArg TextNote.text (AnnotationBody.text.inj (Option.some.inj h))
  refine ⟨by rw [← htext]; exact hempty, ?_, Utf16.trimBy_of_take htext⟩
  calc item.text.length = ((trim item.text).take 1000).length := by rw [htext]
    _ ≤ 1000 := length_take_le 1000 _

theorem roundTrips_iff_keptAsSent (item : CatalogAnnotation)
    (hsafe : sanitizeCatalogAnnotation item = some item)
    (hsyncable : isServerSyncableAnnotation item = true) :
    RoundTrips item ↔
      Utf16.lower (wireColor item.color) = wireColor item.color ∧ KeptAsSent item.body := by
  simp only [Bool.and_eq_true, isServerSyncableAnnotation] at hsyncable
  obtain ⟨wire, hwire⟩ := Option.isSome_iff_exists.1 hsyncable.2
  obtain ⟨hid, tool, payload, hsent, _⟩ := catalogAnnotationToFocus_eq_some.1 hwire
  have hbody : sanitizeBody item.body = some item.body := by
    obtain ⟨body, hbody, heq⟩ := Option.map_eq_some_iff.1 hsafe
    rw [hbody]
    exact congrArg (fun annotation => some annotation.body) heq
  have hne : payloadOf item.body ≠ none := by rw [hsent]; exact Option.some_ne_none _
  rw [roundTrips_iff hid, and_congr_right_iff]
  intro _
  cases hcase : item.body with
  | stroke stroke =>
    rw [hcase] at hne
    exact stroke_trips_iff hne
  | shape shape =>
    rw [hcase] at hne
    exact iff_of_true (shape_trips hne) trivial
  | text note =>
    rw [hcase] at hbody
    obtain ⟨hnote, hshort, htrim⟩ := sanitized_text hbody
    exact text_trips_iff hnote hshort htrim
  | deviceOnly =>
    rw [hcase] at hne
    exact absurd rfl hne

def lineOf (color : List Char) : CatalogAnnotation :=
  { id := Utf16.ofChars
      (List.replicate 8 'a' ++ ['-'] ++ List.replicate 4 'a' ++ ['-'] ++ List.replicate 4 'a' ++ ['-'] ++
        List.replicate 4 'a' ++ ['-'] ++ List.replicate 12 'a')
    page := 1
    color := Utf16.ofChars color
    width := 4
    opacity := 1
    body := .shape ⟨.line, ⟨0, 0⟩, ⟨1000, 1000⟩⟩ }

def lowerCaseLine : CatalogAnnotation := lineOf ['#', 'f', 'f', '0', '0', '0', '0']

def upperCaseLine : CatalogAnnotation := lineOf ['#', 'F', 'F', '0', '0', '0', '0']

theorem lowerCaseLine_roundTrips : RoundTrips lowerCaseLine :=
  (roundTrips_iff_keptAsSent lowerCaseLine (by decide +kernel) (by decide +kernel)).2
    ⟨by decide +kernel, trivial⟩

/-- The server returns the colour in lower case, the device keeps the case it was written in. -/
theorem upperCaseLine_changes :
    sanitizeCatalogAnnotation upperCaseLine = some upperCaseLine ∧
      isServerSyncableAnnotation upperCaseLine = true ∧ ¬ RoundTrips upperCaseLine := by
  refine ⟨by decide +kernel, by decide +kernel, ?_⟩
  rw [roundTrips_iff (by decide +kernel)]
  rintro ⟨hlower, _⟩
  exact absurd hlower (by decide +kernel)

end LockIn.Workspace
