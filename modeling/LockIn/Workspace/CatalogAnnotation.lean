import LockIn.Library.Decimal
import LockIn.Library.Utf16
import Mathlib

/-!
# The annotations of the workspace

The workspace measures a page in thousandths and keeps what a pen recorded in full.  What it
loads it first brings within its limits.
-/

namespace LockIn.Workspace

open Decimal (clamp roundTo)
open Utf16 (Text)

/-- A position in thousandths of the page, or on the wire a fraction of it. -/
structure Point where
  x : ℚ
  y : ℚ
deriving DecidableEq

inductive Pointer where
  | pen
  | touch
  | mouse
  | unknown
deriving DecidableEq

inductive StrokeTool where
  | pen
  | pencil
  | highlighter
deriving DecidableEq

inductive StrokeProfile where
  | ball
  | fountain
  | brush
  | pencil
  | highlighter
  | calligraphy
deriving DecidableEq

inductive PressureSource where
  | speed
deriving DecidableEq

inductive ShapeName where
  | line
  | arrow
  | circle
  | ellipse
  | square
  | rectangle
  | rounded
  | polygon
  | triangle
deriving DecidableEq

inductive Align where
  | left
  | center
  | right
deriving DecidableEq

structure InkPoint where
  x : ℚ
  y : ℚ
  p : ℚ
  t : ℚ
  pointer : Pointer
  tiltX : ℚ
  tiltY : ℚ
deriving DecidableEq

def InkPoint.position (point : InkPoint) : Point := ⟨point.x, point.y⟩

structure Erasure where
  radius : ℚ
  points : List Point
deriving DecidableEq

structure Stroke where
  type : StrokeTool
  profile : StrokeProfile
  pressureSensitivity : ℚ
  smoothing : ℚ
  pressureSource : Option PressureSource
  points : List InkPoint
  erasures : List Erasure
deriving DecidableEq

structure Shape where
  shape : ShapeName
  start : Point
  finish : Point
deriving DecidableEq

structure TextNote where
  text : Text
  x : ℚ
  y : ℚ
  align : Align
  bold : Bool
deriving DecidableEq

/-- Images, cards and covers never leave the device. -/
inductive AnnotationBody where
  | stroke (stroke : Stroke)
  | shape (shape : Shape)
  | text (note : TextNote)
  | deviceOnly
deriving DecidableEq

structure CatalogAnnotation where
  id : Text
  page : ℚ
  color : Text
  width : ℚ
  opacity : ℚ
  body : AnnotationBody
deriving DecidableEq

def isSafeInteger (value : ℚ) : Bool := value.den = 1 && |value| ≤ 9007199254740991

def isVirtualPageKey (value : ℚ) : Bool := isSafeInteger value && value < 0

/-- `String.prototype.trim`. -/
def isTrimmed (unit : UInt16) : Bool :=
  unit ∈ [0x09, 0x0A, 0x0B, 0x0C, 0x0D, 0x20, 0xA0, 0x1680, 0x2028, 0x2029, 0x202F, 0x205F, 0x3000,
    0xFEFF] || (0x2000 ≤ unit && unit ≤ 0x200A)

def trim (text : Text) : Text := Utf16.trimBy isTrimmed text

def safePoint (point : Point) : Point := ⟨clamp point.x 0 1000, clamp point.y 0 1000⟩

def safeInkPoint (point : InkPoint) : InkPoint :=
  { x := clamp point.x 0 1000
    y := clamp point.y 0 1000
    p := clamp point.p 0 1
    t := max 0 point.t
    pointer := point.pointer
    tiltX := clamp point.tiltX (-90) 90
    tiltY := clamp point.tiltY (-90) 90 }

def safeErasure (erasure : Erasure) : Erasure :=
  { radius := clamp erasure.radius (1 / 2) 80
    points := (erasure.points.take 96).map safePoint }

def sanitizeStroke (stroke : Stroke) : Option Stroke :=
  let points := (stroke.points.take 12000).map safeInkPoint
  if points = [] then none
  else some
    { type := stroke.type
      profile := stroke.profile
      pressureSensitivity := clamp stroke.pressureSensitivity 0 1
      smoothing := clamp stroke.smoothing 0 1
      pressureSource := stroke.pressureSource
      points := points
      erasures := ((stroke.erasures.take 32).filter (·.points ≠ [])).map safeErasure }

def sanitizeBody : AnnotationBody → Option AnnotationBody
  | .stroke stroke => (sanitizeStroke stroke).map .stroke
  | .shape shape =>
    some (.shape ⟨shape.shape, safePoint shape.start, safePoint shape.finish⟩)
  | .text note =>
    let text := (trim note.text).take 1000
    if text = [] then none
    else some (.text ⟨text, clamp note.x 0 1000, clamp note.y 0 1000, note.align, note.bold⟩)
  | .deviceOnly => some .deviceOnly

def sanitizeCatalogAnnotation (item : CatalogAnnotation) : Option CatalogAnnotation :=
  (sanitizeBody item.body).map fun body =>
    { id := item.id
      page := if isVirtualPageKey item.page then item.page else max 1 (roundTo 0 item.page)
      color := item.color.take 32
      width := clamp item.width 1 120
      opacity := clamp item.opacity (1 / 20) 1
      body := body }

end LockIn.Workspace
