import LockIn.Library.JsonText
import LockIn.Workspace.CatalogAnnotation

/-!
# Backups of a workspace

A backup holds the marks, the notes and the pages of a workspace as its sanitisers leave them.
The file is read back with the same sanitisers after its own checks, and restoring it adds what is
missing.  Marks and notes are plain data of any shape, as they are in storage and in a file.
-/

namespace LockIn.Workspace.Snapshot

open Decimal (clamp)
open Script (Value Engine)
open Utf16 (Text)

def maxVirtualPages : Nat := 200

def maxSummaryPages : Nat := 20000

section
variable (engine : Engine)

def finite (value : Value) (fallback : ℚ) : ℚ :=
  match Script.toNumber engine value with
  | .finite value => value
  | _ => fallback

def number (value : ℚ) : Value := .number (.finite value)

/-- `Math.min(high, Math.max(low, finite(value, fallback)))`. -/
def bounded (low high fallback : ℚ) (value : Value) : Value :=
  number (clamp (finite engine value fallback) low high)

/-- `Math.max(low, finite(value, fallback))`. -/
def atLeast (low fallback : ℚ) (value : Value) : Value :=
  number (max low (finite engine value fallback))

/-- `Math.max(0, Math.round(finite(value)))`. -/
def count (value : Value) : Value := number (max 0 (Script.round (finite engine value 0)))

def optionalNumber (value : Value) : Value :=
  match value with
  | .null | .undefined | .string [] => .null
  | value =>
    match Script.toNumber engine value with
    | .finite value => number value
    | _ => .null

def chosen (choices : List String) (fallback : String) (value : Value) : Value :=
  match value with
  | .string text => if text ∈ choices.map Utf16.ofString then .string text else .text fallback
  | _ => .text fallback

/-- `value === true`. -/
def flag (value : Value) : Value := .bool value.isTrue

def cut (limit : Nat) (fallback : Value) (value : Value) : Value :=
  match value with
  | .string text => .string (text.take limit)
  | _ => fallback

def trimmedCut (limit : Nat) (value : Value) : Text :=
  match value with
  | .string text => (trim text).take limit
  | _ => []

def isVirtualPage (value : Value) : Bool :=
  match value with
  | .number (.finite value) => isVirtualPageKey value
  | _ => false

def pageOf (value : Value) : Value :=
  if isVirtualPage value then value else number (max 1 (Script.round (finite engine value 1)))

/-- The date of a value in the format of the language, or a fallback where it has none.  A number
whose text is read as a date can be none itself, for which writing it throws. -/
def dateOf (fallback : Text) (value : Value) : Option Text :=
  if (engine.parseDate (Script.toText engine value)).isSome then
    (Script.timeOf engine value).map engine.isoDate
  else some fallback

end

inductive MarkType where
  | pen
  | pencil
  | highlighter
  | shape
  | text
  | image
  | card
  | cover
deriving DecidableEq

def MarkType.all : List MarkType :=
  [.pen, .pencil, .highlighter, .shape, .text, .image, .card, .cover]

def MarkType.name : MarkType → String
  | .pen => "pen"
  | .pencil => "pencil"
  | .highlighter => "highlighter"
  | .shape => "shape"
  | .text => "text"
  | .image => "image"
  | .card => "card"
  | .cover => "cover"

def markType (value : Value) : Option MarkType :=
  MarkType.all.find? fun type => value.text? = some (Utf16.ofString type.name)

def MarkType.defaultProfile : MarkType → String
  | .pencil => "pencil"
  | .highlighter => "highlighter"
  | _ => "ball"

def strokePointFields : List String := ["pointer", "pointerId", "buttons", "pressureAvailable"]

def sharedPointFields (value : Value) : Option Value :=
  match value with
  | .object members => some (.object (strokePointFields.filterMap fun field =>
      (Dictionary.get members (Utf16.ofString field)).map fun value =>
        (Utf16.ofString field, value)))
  | .array _ => some (.object [])
  | _ => none

section
variable (engine : Engine) (now : Script.Time)

def safePoint (point : Value) : Value :=
  .record [
    ("x", bounded engine 0 1000 0 (point.get "x")),
    ("y", bounded engine 0 1000 0 (point.get "y")),
    ("p", bounded engine 0 1 0 (point.get "p")),
    ("t", atLeast engine 0 now.val (point.get "t")),
    ("pointer", chosen ["pen", "touch", "mouse", "unknown"] "unknown" (point.get "pointer")),
    ("pointerId", count engine (point.get "pointerId")),
    ("buttons", count engine (point.get "buttons")),
    ("pressureAvailable", flag (point.get "pressureAvailable")),
    ("contactWidth", atLeast engine 0 0 (point.get "contactWidth")),
    ("contactHeight", atLeast engine 0 0 (point.get "contactHeight")),
    ("tiltX", bounded engine (-90) 90 0 (point.get "tiltX")),
    ("tiltY", bounded engine (-90) 90 0 (point.get "tiltY")),
    ("altitudeAngle", optionalNumber engine (point.get "altitudeAngle")),
    ("azimuthAngle", optionalNumber engine (point.get "azimuthAngle")),
    ("twist", optionalNumber engine (point.get "twist")),
    ("tangentialPressure", optionalNumber engine (point.get "tangentialPressure"))]

/-- Where a point is: `safePoint(point).x` and `.y`. -/
def safePosition (point : Value) : Value :=
  .record [
    ("x", bounded engine 0 1000 0 (point.get "x")),
    ("y", bounded engine 0 1000 0 (point.get "y"))]

def safeErasure (erasure : Value) : Value :=
  .record [
    ("radius", bounded engine (1 / 2) 80 4 (erasure.get "radius")),
    ("points", .array (((erasure.get "points").items.take 96).map (safePosition engine)))]

def strokePoints (mark : Value) : List Value :=
  let shared := sharedPointFields (mark.get "pointShared")
  ((mark.get "points").items.take 12000).map fun point =>
    safePoint engine now ((shared.map fun shared => shared.spread point).getD point)

def strokeErasures (mark : Value) : List Value :=
  (((mark.get "erasures").items.take 32).filter fun erasure =>
    (erasure.get "points").items ≠ []).map (safeErasure engine)

/-- The members that all marks have.  An image, a card and a cover have a width of their own, which
stands in its place. -/
def base (type : MarkType) (mark width : Value) (createdAt : Text) : List (String × Value) := [
  ("id", mark.get "id"),
  ("page", pageOf engine (mark.get "page")),
  ("type", .text type.name),
  ("color", cut 32 (.text "#8b5cf6") (mark.get "color")),
  ("width", width),
  ("opacity", bounded engine (1 / 20) 1 1 (mark.get "opacity")),
  ("profile", chosen ["ball", "fountain", "brush", "pencil", "highlighter", "calligraphy"]
    type.defaultProfile (mark.get "profile")),
  ("pressureSensitivity", bounded engine 0 1 (11 / 20) (mark.get "pressureSensitivity")),
  ("smoothing", bounded engine 0 1 (1 / 2) (mark.get "smoothing")),
  ("pressureSource",
    if (mark.get "pressureSource").text? = some (Utf16.ofString "speed") then .text "speed"
    else .undefined),
  ("createdAt", .string createdAt),
  ("groupId", cut 80 (.text "") (mark.get "groupId")),
  ("locked", flag (mark.get "locked")),
  ("zOrder", number (clamp (Script.round (finite engine (mark.get "zOrder") 0))
    (-100000) 100000))]

def shapeNames : List String :=
  ["line", "arrow", "circle", "ellipse", "square", "rectangle", "rounded", "polygon", "triangle"]

/-- `/^data:image\/(?:png|jpeg|webp|gif);base64,/i`. -/
def isImageSource (source : Text) : Bool :=
  ["png", "jpeg", "webp", "gif"].any fun kind =>
    (Utf16.ofString ("data:image/" ++ kind ++ ";base64,")).isPrefixOf (Utf16.lower source)

/-- `String(value || "")`. -/
def textOf (value : Value) : Text := if value.truthy then Script.toText engine value else []

def extra (type : MarkType) (mark : Value) : Option (List (String × Value)) :=
  let position := [
    ("x", bounded engine 0 1000 0 (mark.get "x")),
    ("y", bounded engine 0 1000 0 (mark.get "y"))]
  match type with
  | .pen | .pencil | .highlighter =>
    let erasures := strokeErasures engine mark
    match strokePoints engine now mark with
    | [] => none
    | points => some [
        ("points", .array points),
        ("erasures", if erasures = [] then .undefined else .array erasures)]
  | .shape => some [
      ("shape", chosen shapeNames "rectangle" (mark.get "shape")),
      ("start", safePoint engine now (mark.get "start")),
      ("end", safePoint engine now (mark.get "end")),
      ("dashed", flag (mark.get "dashed")),
      ("fill", flag (mark.get "fill")),
      ("fillColor",
        cut 32 (cut 32 (.text "#8b5cf6") (mark.get "color")) (mark.get "fillColor"))]
  | .text =>
    match trimmedCut 1000 (mark.get "text") with
    | [] => none
    | text => some (position ++ [
        ("text", .string text),
        ("align", chosen ["left", "center", "right"] "left" (mark.get "align")),
        ("bold", flag (mark.get "bold"))])
  | .image =>
    match mark.get "src" with
    | .string source =>
      if isImageSource source ∧ source.length ≤ 3000000 then
        some ([
          ("src", .string source),
          ("kind", chosen ["clip"] "image" (mark.get "kind"))] ++ position ++ [
          ("height", bounded engine 20 900 220 (mark.get "height"))])
      else none
    | _ => none
  | .card => some ([
      ("cardKind", chosen ["sticky", "note", "lined", "revision"] "note" (mark.get "cardKind")),
      ("text", .string ((textOf engine (mark.get "text")).take 1200))] ++ position ++ [
      ("height", bounded engine 100 900 230 (mark.get "height"))])
  | .cover => some ([
      ("kind", chosen ["text"] "area" (mark.get "kind")),
      ("label", .string (trimmedCut 200 (mark.get "label")))] ++ position ++ [
      ("height", bounded engine 6 1000 60 (mark.get "height"))])

def markWidth (type : MarkType) : Value → Value :=
  match type with
  | .image => bounded engine 20 900 300
  | .card => bounded engine 120 900 290
  | .cover => bounded engine 6 1000 160
  | _ => bounded engine 1 120 4

/-- `sanitizeCatalogAnnotation`; what it throws for is dropped by its callers here. -/
def sanitizeCatalogAnnotation (mark : Value) : Option Value :=
  match mark.get "id", markType (mark.get "type") with
  | .string _, some type => do
    let createdAt ← dateOf engine (engine.isoDate now) (mark.get "createdAt")
    let extra ← extra engine now type mark
    return .record (base engine type mark (markWidth engine type (mark.get "width"))
      createdAt ++ extra)
  | _, _ => none

def sanitizeCatalogNote (note : Value) : Option Value :=
  match note.get "id", trimmedCut 10000 (note.get "body") with
  | .string id, unit :: body => do
    let createdAt ← dateOf engine (engine.isoDate now) (note.get "createdAt")
    let updatedAt ← dateOf engine createdAt (note.get "updatedAt")
    return .record [
      ("id", .string (id.take 80)),
      ("page", pageOf engine (note.get "page")),
      ("body", .string (unit :: body)),
      ("createdAt", .string createdAt),
      ("updatedAt", .string updatedAt)]
  | _, _ => none

/-- `/^[0-9a-f-]{36}$/i`. -/
def isSummaryId (id : Text) : Bool :=
  id.length = 36 && id.all fun unit =>
    (0x30 ≤ unit && unit ≤ 0x39) || (0x41 ≤ unit && unit ≤ 0x46) || (0x61 ≤ unit && unit ≤ 0x66) ||
      unit = 0x2D

def pageNumbers (item : Value) : Option (ℚ × ℚ) :=
  match Script.toNumber engine (item.get "id"), Script.toNumber engine (item.get "afterPage") with
  | .finite id, .finite afterPage =>
    if isVirtualPageKey id ∧ isSafeInteger afterPage ∧ 1 ≤ afterPage ∧ afterPage ≤ 10000 then
      some (id, afterPage)
    else none
  | _, _ => none

def pageSummary (item : Value) : Option Text :=
  (item.get "summary").text?.filter fun id => isSummaryId id

def pageRecord (item : Value) (id afterPage : ℚ) : Value :=
  .record [
    ("id", number id),
    ("afterPage", number afterPage),
    ("background", chosen ["blank", "lined", "grid", "dot"] "blank" (item.get "background")),
    ("summary", ((pageSummary item).map Value.string).getD .undefined)]

def keptPages (seen : List ℚ) (added summaries : Nat) : List Value → List Value
  | [] => []
  | item :: rest =>
    match pageNumbers engine item with
    | none => keptPages seen added summaries rest
    | some (id, afterPage) =>
      let full := if (pageSummary item).isSome then maxSummaryPages ≤ summaries
        else maxVirtualPages ≤ added
      if id ∈ seen ∨ full then keptPages seen added summaries rest
      else
        pageRecord item id afterPage ::
          if (pageSummary item).isSome then keptPages (id :: seen) added (summaries + 1) rest
          else keptPages (id :: seen) (added + 1) summaries rest

def sanitizeVirtualPages (value : Value) : List Value := keptPages engine [] 0 0 value.items

end

/-- `items.slice(-limit)`. -/
def latest {α : Type} (limit : Nat) (items : List α) : List α := items.drop (items.length - limit)

end LockIn.Workspace.Snapshot
