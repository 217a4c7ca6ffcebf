import LockIn.Library.JsonSize
import LockIn.Library.Outcome
import LockIn.Workspace.StrokeReduction

/-!
# What the device sends and what the server stores

On the wire positions are fractions of the page and every number is rounded to what the
server stores.  A stroke too long for the server is simplified until it fits.

The server checks the bounds, the payload and the colour of a mutation, and keeps them in
its own spelling: text stripped and colours in lower case.
-/

namespace LockIn.Workspace

open Decimal (clamp roundTo)
open Utf16 (Text)

inductive FocusTool where
  | pen
  | pencil
  | highlighter
  | line
  | arrow
  | rectangle
  | circle
  | text
  | stickyNote
deriving DecidableEq

structure Bounds where
  x : ℚ
  y : ℚ
  width : ℚ
  height : ℚ
deriving DecidableEq

structure WireSample where
  x : ℚ
  y : ℚ
  pointer : Pointer
  pressure : ℚ
  tiltX : ℚ
  tiltY : ℚ
  timestamp : ℚ
deriving DecidableEq

def WireSample.point (sample : WireSample) : Point := ⟨sample.x, sample.y⟩

structure WireStyle where
  profile : Option StrokeProfile
  pressureSource : Option PressureSource
  pressureSensitivity : Option ℚ
  smoothing : Option ℚ
deriving DecidableEq

structure WireErasure where
  radius : ℚ
  points : List Point
deriving DecidableEq

structure StrokePayload where
  samples : List WireSample
  style : Option WireStyle
  erasures : Option (List WireErasure)
deriving DecidableEq

inductive Payload where
  | stroke (payload : StrokePayload)
  | shape (start finish : Point)
  | text (value : Text) (align : Align) (bold : Bool)
deriving DecidableEq

/-- An annotation as it is sent, and as the server returns it. -/
structure FocusMutation where
  id : Text
  pageNumber : ℚ
  bounds : Bounds
  color : Text
  thickness : ℚ
  opacity : ℚ
  tool : FocusTool
  payload : Payload
deriving DecidableEq

def isHexDigit (unit : UInt16) : Bool :=
  (0x30 ≤ unit && unit ≤ 0x39) || (0x41 ≤ unit && unit ≤ 0x46) || (0x61 ≤ unit && unit ≤ 0x66)

/-- `HEX_COLOR`, and `COLOR_PATTERN` of the server. -/
def isHexColor (color : Text) : Bool :=
  color.head? = some 0x23 && (color.tail.length = 6 || color.tail.length = 8) &&
    color.tail.all isHexDigit

/-- `UUID_PATTERN`. -/
def isUuid (id : Text) : Bool :=
  id.length = 36 &&
    id.zipIdx.all fun (unit, index) =>
      if index ∈ [8, 13, 18, 23] then unit = 0x2D else isHexDigit unit

def defaultColor : Text := Utf16.ofChars ['#', '8', 'b', '5', 'c', 'f', '6']

def wireColor (color : Text) : Text := if isHexColor color then color else defaultColor

def defaultProfile : StrokeTool → StrokeProfile
  | .pencil => .pencil
  | .highlighter => .highlighter
  | .pen => .ball

def defaultPressureSensitivity : ℚ := 11 / 20

def defaultSmoothing : ℚ := 1 / 2

/-- What is sent for one of `STYLE_DEFAULTS`. -/
def styleValue (value fallback : ℚ) : Option ℚ :=
  if roundTo 3 (clamp value 0 1) = fallback then none else some (roundTo 3 (clamp value 0 1))

def styleMembers (item : Stroke) : WireStyle :=
  { profile := if item.profile = defaultProfile item.type then none else some item.profile
    pressureSource := item.pressureSource
    pressureSensitivity := styleValue item.pressureSensitivity defaultPressureSensitivity
    smoothing := styleValue item.smoothing defaultSmoothing }

def strokeStyle (item : Stroke) : Option WireStyle :=
  if styleMembers item = ⟨none, none, none, none⟩ then none else some (styleMembers item)

def toFocusPoint (value : Point) : Point :=
  ⟨roundTo 6 (clamp (value.x / 1000) 0 1), roundTo 6 (clamp (value.y / 1000) 0 1)⟩

def fromFocusPoint (value : Point) : Point :=
  ⟨clamp value.x 0 1 * 1000, clamp value.y 0 1 * 1000⟩

def wireSample (sample : InkPoint) : WireSample :=
  { x := (toFocusPoint sample.position).x
    y := (toFocusPoint sample.position).y
    pointer := sample.pointer
    pressure := roundTo 4 (clamp sample.p 0 1)
    tiltX := roundTo 2 (clamp sample.tiltX (-90) 90)
    tiltY := roundTo 2 (clamp sample.tiltY (-90) 90)
    timestamp := max 0 (roundTo 0 sample.t) }

def wireErasure (erasure : Erasure) : WireErasure :=
  { radius := roundTo 6 (clamp (erasure.radius / 1000) (1 / 2000) (2 / 25))
    points := (erasure.points.take 96).map toFocusPoint }

def wireErasures (erasures : List Erasure) : Option (List WireErasure) :=
  let sent := ((erasures.take 32).map wireErasure).filter (·.points ≠ [])
  if sent = [] then none else some sent

/-- `Math.min(...values)`, where there are any. -/
def least : List ℚ → ℚ
  | [] => 0
  | value :: rest => rest.foldl min value

/-- `Math.max(...values)`, where there are any. -/
def greatest : List ℚ → ℚ
  | [] => 0
  | value :: rest => rest.foldl max value

def boundsOf (normalized : List Point) : Bounds :=
  let xs := normalized.map (·.x)
  let ys := normalized.map (·.y)
  { x := least xs
    y := least ys
    width := roundTo 6 (max (1 / 1000) (greatest xs - least xs))
    height := roundTo 6 (max (1 / 1000) (greatest ys - least ys)) }

/-- The points that `focusBounds` takes in. -/
def anchors : AnnotationBody → List Point
  | .stroke stroke => stroke.points.map (·.position)
  | .shape shape => [shape.start, shape.finish]
  | .text note => [⟨note.x, note.y⟩]
  | .deviceOnly => []

def focusBounds (body : AnnotationBody) : Bounds :=
  boundsOf ((anchors body).map toFocusPoint)

def Pointer.nameLength : Pointer → Nat
  | .pen => 3
  | .touch => 5
  | .mouse => 5
  | .unknown => 7

def StrokeProfile.nameLength : StrokeProfile → Nat
  | .ball => 4
  | .fountain => 8
  | .brush => 5
  | .pencil => 6
  | .highlighter => 11
  | .calligraphy => 11

def PressureSource.nameLength : PressureSource → Nat
  | .speed => 5

section
variable (number : ℚ → Nat)

open JsonSize (array member quoted)

def Point.size (point : Point) : Nat :=
  array [member "x".length (number point.x), member "y".length (number point.y)]

def WireSample.size (sample : WireSample) : Nat :=
  array
    [member "x".length (number sample.x), member "y".length (number sample.y),
      member "pointer".length (quoted sample.pointer.nameLength),
      member "pressure".length (number sample.pressure), member "tiltX".length (number sample.tiltX),
      member "tiltY".length (number sample.tiltY),
      member "timestamp".length (number sample.timestamp)]

def WireStyle.size (style : WireStyle) : Nat :=
  array
    ((style.profile.map fun profile => member "profile".length (quoted profile.nameLength)).toList ++
      (style.pressureSource.map fun source =>
        member "pressureSource".length (quoted source.nameLength)).toList ++
      (style.pressureSensitivity.map fun value =>
        member "pressureSensitivity".length (number value)).toList ++
      (style.smoothing.map fun value => member "smoothing".length (number value)).toList)

def WireErasure.size (erasure : WireErasure) : Nat :=
  array
    [member "radius".length (number erasure.radius),
      member "points".length (array (erasure.points.map (Point.size number)))]

/-- The length of the payload as JSON, where `number` is that of a number. -/
def StrokePayload.size (payload : StrokePayload) : Nat :=
  array
    ([member "kind".length (quoted "stroke".length),
      member "samples".length (array (payload.samples.map (WireSample.size number)))] ++
      (payload.style.map fun style => member "style".length (style.size number)).toList ++
      (payload.erasures.map fun erasures =>
        member "erasures".length (array (erasures.map (WireErasure.size number)))).toList)

end

def wireSampleLimit : Nat := 900

def wirePayloadBudget : Nat := 120000

def encode (item : Stroke) (points : List InkPoint) : StrokePayload :=
  { samples := points.map wireSample
    style := strokeStyle item
    erasures := wireErasures item.erasures }

def fitBudget (item : Stroke) (points : List InkPoint) : List InkPoint :=
  if wirePayloadBudget < (encode item points).size JsonSize.javascript ∧ 2 < points.length then
    fitBudget item (reduceStrokeSamples points (points.length * 3 / 4))
  else points
termination_by points.length
decreasing_by
  have hle := length_reduceStrokeSamples_le points (points.length * 3 / 4)
  omega

def keptPoints (item : Stroke) : List InkPoint :=
  fitBudget item (reduceStrokeSamples item.points wireSampleLimit)

def StrokeTool.focusTool : StrokeTool → FocusTool
  | .pen => .pen
  | .pencil => .pencil
  | .highlighter => .highlighter

def ShapeName.focusTool : ShapeName → Option FocusTool
  | .line => some .line
  | .arrow => some .arrow
  | .rectangle | .square => some .rectangle
  | .circle | .ellipse => some .circle
  | .rounded | .polygon | .triangle => none

def payloadOf : AnnotationBody → Option (FocusTool × Payload)
  | .stroke item =>
    let payload := encode item (keptPoints item)
    if 2 ≤ payload.samples.length then some (item.type.focusTool, .stroke payload) else none
  | .shape item =>
    item.shape.focusTool.map fun tool =>
      (tool, .shape (toFocusPoint item.start) (toFocusPoint item.finish))
  | .text item =>
    let value := trim item.text
    if value = [] then none else some (.text, .text value item.align item.bold)
  | .deviceOnly => none

def wireThickness (width : ℚ) : ℚ :=
  roundTo 2 (clamp (if width = 0 then 4 else width) (1 / 100) 64)

def wireOpacity (opacity : ℚ) : ℚ := roundTo 3 (clamp opacity 0 1)

/-- `base` with its tool and payload. -/
def mutationOf (item : CatalogAnnotation) (tool : FocusTool) (payload : Payload) : FocusMutation :=
  { id := item.id
    pageNumber := item.page
    bounds := focusBounds item.body
    color := wireColor item.color
    thickness := wireThickness item.width
    opacity := wireOpacity item.opacity
    tool := tool
    payload := payload }

def catalogAnnotationToFocus (item : CatalogAnnotation) : Option FocusMutation :=
  if item.id = [] then none
  else (payloadOf item.body).map fun sent => mutationOf item sent.1 sent.2

def FocusTool.strokeTool : FocusTool → Option StrokeTool
  | .pen => some .pen
  | .pencil => some .pencil
  | .highlighter => some .highlighter
  | _ => none

def FocusTool.shapeName : FocusTool → Option ShapeName
  | .line => some .line
  | .arrow => some .arrow
  | .rectangle => some .rectangle
  | .circle => some .circle
  | _ => none

def catalogPoint (sample : WireSample) : InkPoint :=
  { x := (fromFocusPoint sample.point).x
    y := (fromFocusPoint sample.point).y
    p := sample.pressure
    t := sample.timestamp
    pointer := sample.pointer
    tiltX := sample.tiltX
    tiltY := sample.tiltY }

def catalogErasure (erasure : WireErasure) : Erasure :=
  { radius := erasure.radius * 1000
    points := erasure.points.map fromFocusPoint }

def catalogStroke (type : StrokeTool) (payload : StrokePayload) : Stroke :=
  { type := type
    profile := (payload.style.bind (·.profile)).getD (defaultProfile type)
    pressureSensitivity :=
      (payload.style.bind (·.pressureSensitivity)).getD defaultPressureSensitivity
    smoothing := (payload.style.bind (·.smoothing)).getD defaultSmoothing
    pressureSource := payload.style.bind (·.pressureSource)
    points := payload.samples.map catalogPoint
    erasures := (payload.erasures.getD []).map catalogErasure }

def catalogText (bounds : Bounds) (value : Text) (align : Align) (bold : Bool) : TextNote :=
  { text := value
    x := (fromFocusPoint ⟨bounds.x, bounds.y⟩).x
    y := (fromFocusPoint ⟨bounds.x, bounds.y⟩).y
    align := align
    bold := bold }

def catalogBody (tool : FocusTool) (payload : Payload) (bounds : Bounds) : Option AnnotationBody :=
  match payload with
  | .stroke payload => tool.strokeTool.map fun type => .stroke (catalogStroke type payload)
  | .shape start finish =>
    tool.shapeName.map fun shape => .shape ⟨shape, fromFocusPoint start, fromFocusPoint finish⟩
  | .text value align bold =>
    if tool = .text then some (.text (catalogText bounds value align bold)) else none

def annotationOf (item : FocusMutation) (body : AnnotationBody) : CatalogAnnotation :=
  { id := item.id
    page := item.pageNumber
    color := item.color
    width := item.thickness
    opacity := item.opacity
    body := body }

def focusAnnotationToCatalog (item : FocusMutation) : Option CatalogAnnotation :=
  (catalogBody item.tool item.payload item.bounds).map (annotationOf item)

def isServerSyncableAnnotation (item : CatalogAnnotation) : Bool :=
  isSafeInteger item.page && 1 ≤ item.page && isUuid item.id &&
    (catalogAnnotationToFocus item).isSome

open JsonSize (array member quoted)

inductive ValidationFailure where
  /-- A `FocusValidationError`. -/
  | refused (message : String)
  /-- The text has no UTF-8 form, so that measuring the payload fails. -/
  | unencodable
deriving DecidableEq

abbrev Validated (α : Type) : Type := Except ValidationFailure α

def refused {α : Type} (message : String) : Validated α := .error (.refused message)

def checkNumber (label : String) (minimum maximum value : ℚ) : Validated ℚ :=
  if minimum ≤ value ∧ value ≤ maximum then .ok value
  else refused (label ++ " is outside the supported range.")

def checkPoint (label : String) (point : Point) : Validated Point := do
  let x ← checkNumber (label ++ ".x") 0 1 point.x
  let y ← checkNumber (label ++ ".y") 0 1 point.y
  .ok ⟨x, y⟩

def checkOptional (label : String) : Option ℚ → Validated (Option ℚ)
  | none => .ok none
  | some value => some <$> checkNumber label 0 1 value

def checkStyle (style : WireStyle) : Validated WireStyle := do
  let pressureSensitivity ← checkOptional "style.pressureSensitivity" style.pressureSensitivity
  let smoothing ← checkOptional "style.smoothing" style.smoothing
  .ok { style with pressureSensitivity := pressureSensitivity, smoothing := smoothing }

def validateBounds (bounds : Bounds) : Validated Bounds := do
  let x ← checkNumber "bounds.x" 0 1 bounds.x
  let y ← checkNumber "bounds.y" 0 1 bounds.y
  let width ← checkNumber "bounds.width" 0 1 bounds.width
  let height ← checkNumber "bounds.height" 0 1 bounds.height
  if 1001 / 1000 < x + width ∨ 1001 / 1000 < y + height then
    refused "Annotation bounds must stay inside the normalized page."
  else .ok ⟨x, y, width, height⟩

def maxTimestamp : ℚ := 9999999999999

def checkSample (sample : WireSample) : Validated WireSample := do
  let x ← checkNumber "sample.x" 0 1 sample.x
  let y ← checkNumber "sample.y" 0 1 sample.y
  let pressure ← checkNumber "sample.pressure" 0 1 sample.pressure
  let tiltX ← checkNumber "sample.tiltX" (-90) 90 sample.tiltX
  let tiltY ← checkNumber "sample.tiltY" (-90) 90 sample.tiltY
  let timestamp ← checkNumber "sample.timestamp" 0 maxTimestamp sample.timestamp
  .ok ⟨x, y, sample.pointer, pressure, tiltX, tiltY, timestamp⟩

def checkErasure (erasure : WireErasure) (index : Nat) : Validated WireErasure :=
  if erasure.points.length < 1 ∨ 96 < erasure.points.length then
    refused ("Ink erasure " ++ toString index ++ " has invalid points.")
  else do
    let radius ← checkNumber "erasure.radius" (1 / 2000) (2 / 25) erasure.radius
    let points ← erasure.points.mapM (checkPoint "erasure.point")
    .ok ⟨radius, points⟩

def checkErasures (erasures : List WireErasure) : Validated (List WireErasure) :=
  if 32 < erasures.length then refused "Ink erasures are invalid."
  else erasures.zipIdx.mapM fun erasure => checkErasure erasure.1 erasure.2

def checkPresent {α : Type} (check : α → Validated α) : Option α → Validated (Option α)
  | none => .ok none
  | some value => some <$> check value

def validateStroke (payload : StrokePayload) : Validated Payload :=
  if payload.samples.length < 2 ∨ 2048 < payload.samples.length then
    refused "A stroke requires between 2 and 2048 samples."
  else do
    let samples ← payload.samples.mapM checkSample
    let style ← checkPresent checkStyle payload.style
    let erasures ← checkPresent checkErasures payload.erasures
    .ok (.stroke ⟨samples, style, erasures⟩)

/-- `str.isspace`, of which no character takes more than one unit. -/
def isSpace (unit : UInt16) : Bool :=
  unit ∈ [0x09, 0x0A, 0x0B, 0x0C, 0x0D, 0x1C, 0x1D, 0x1E, 0x1F, 0x20, 0x85, 0xA0, 0x1680, 0x2028,
    0x2029, 0x202F, 0x205F, 0x3000] || (0x2000 ≤ unit && unit ≤ 0x200A)

def strip (text : Text) : Text := Utf16.trimBy isSpace text

def validateText (value : Text) (align : Align) (bold : Bool) : Validated Payload :=
  if strip value = [] ∨ 4000 < (Utf16.codePoints value).length then
    refused "Annotation text must contain 1 to 4000 characters."
  else .ok (.text (strip value) align bold)

def Align.nameLength : Align → Nat
  | .left => 4
  | .center => 6
  | .right => 5

def payloadBytes : Payload → Option Nat
  | .stroke payload => some (payload.size JsonSize.python)
  | .shape start finish =>
    some (array
      [member "kind".length (quoted "shape".length),
        member "start".length (start.size JsonSize.python),
        member "end".length (finish.size JsonSize.python)])
  | .text value align bold =>
    (JsonSize.textBytes value).map fun bytes =>
      array
        [member "kind".length (quoted "text".length), member "value".length bytes,
          member "align".length (quoted align.nameLength),
          member "bold".length (if bold then 4 else 5)]

def maxPayloadBytes : Nat := 128 * 1024

inductive ToolFamily where
  | drawing
  | shape
  | note
deriving DecidableEq

/-- `STROKE_TOOLS`, `SHAPE_TOOLS` and `TEXT_TOOLS`. -/
def FocusTool.family : FocusTool → ToolFamily
  | .pen | .pencil | .highlighter => .drawing
  | .line | .arrow | .rectangle | .circle => .shape
  | .text | .stickyNote => .note

def validateKind (tool : FocusTool) (payload : Payload) : Validated Payload :=
  match tool.family, payload with
  | .drawing, .stroke payload => validateStroke payload
  | .drawing, _ => refused "A drawing annotation requires stroke samples."
  | .shape, .shape start finish => do
    let start ← checkPoint "shape.start" start
    let finish ← checkPoint "shape.end" finish
    .ok (.shape start finish)
  | .shape, _ => refused "A shape annotation requires start and end points."
  | .note, .text value align bold =>
    if tool = .stickyNote then refused "A note annotation requires the expected text payload."
    else validateText value align bold
  | .note, _ => refused "A note annotation requires the expected text payload."

def validatePayload (tool : FocusTool) (payload : Payload) : Validated Payload :=
  match payloadBytes payload with
  | none => .error .unencodable
  | some bytes =>
    if maxPayloadBytes < bytes then refused "Annotation payload is too large."
    else validateKind tool payload

def validateColor (color : Text) : Validated Text :=
  if isHexColor color then .ok (Utf16.lower color)
  else refused "Annotation color must be a six or eight digit hex color."

/-- What is stored of a mutation, and returned: numbers have no more places than the columns
keep, and an id is written in lower case. -/
def storeMutation (mutation : FocusMutation) : Validated FocusMutation := do
  let bounds ← validateBounds mutation.bounds
  let payload ← validatePayload mutation.tool mutation.payload
  let color ← validateColor mutation.color
  .ok { mutation with id := Utf16.lower mutation.id, bounds := bounds, payload := payload, color := color }

end LockIn.Workspace
