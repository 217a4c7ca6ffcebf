import LockIn.Library.Dictionary
import LockIn.Library.Json
import LockIn.Library.Outcome
import LockIn.Library.Whitespace
import Mathlib

/-!
# Shared marks on the server

A student uploads the marks of a sheet as a document that may be anything.  What is well formed in
it is kept and the rest is dropped; classmates see how many marks each page carries and copy all
pages or some.
-/

namespace LockIn.Workspace.Share

open Json (Fields getD hashable)

abbrev Text : Type := List Char

/-- `AnnotationShareError` with its message, or an error of the language that is not caught. -/
inductive Raised where
  | shareError (message : String)
  | otherError

def maxAnnotations : Nat := 5000

def maxNotes : Nat := 500

def maxVirtualPages : Nat := 200

def maxPage : Int := 10000

def annotationTypes : List Text :=
  ["pen", "pencil", "highlighter", "shape", "text", "image", "card", "cover"].map String.toList

def backgrounds : List Text := ["blank", "lined", "grid", "dot"].map String.toList

/-- `_is_virtual` of a whole number, which neither a truth value nor a fraction is. -/
def isVirtual (page : Int) : Bool := page < 0

def isPdfPage (page : Int) : Bool := 1 ≤ page ∧ page ≤ maxPage

/-- A letter of a pattern that ignores case, which the letters with and without a dot and the long s
match as well. -/
def sameLetter (letter char : Char) : Bool :=
  char.toLower = letter ∨ (letter = 'i' ∧ (char.toNat = 0x130 ∨ char.toNat = 0x131)) ∨
    (letter = 's' ∧ char.toNat = 0x17F)

def matchesFolded : List Char → Text → Bool
  | [], _ => true
  | _ :: _, [] => false
  | letter :: pattern, char :: text => sameLetter letter char && matchesFolded pattern text

/-- `_IMAGE_DATA_URL.match(str(src or ""))`: what other values than texts are written as does not
begin with the letter d. -/
def isImageDataUrl : Json → Bool
  | .str source => ["png", "jpeg", "webp", "gif"].any fun kind =>
      matchesFolded ("data:image/" ++ kind ++ ";base64,").toList source
  | _ => false

structure AddedPage where
  id : Int
  afterPage : Int
  background : Text

structure Mark where
  fields : Fields
  page : Int
  onPage : getD fields "page" = .int page

structure Snapshot where
  annotations : List Mark
  notes : List Mark
  virtualPages : List AddedPage

/-- `(value or [])[...]`, where a text is cut as well and its letters are looked at one by one. -/
def sliced (value : Json) (cut : List Json → List Json) : Except Raised (List Json) :=
  match value with
  | .arr items => .ok (cut items)
  | .str text => .ok (cut (text.map fun char => .str [char]))
  | .null | .bool false | .obj [] => .ok (cut [])
  | .int number => if number = 0 then .ok (cut []) else .error .otherError
  | .float number => if number = 0 then .ok (cut []) else .error .otherError
  | .bool true | .obj (_ :: _) => .error .otherError

/-- `items[-limit:]` -/
def last (limit : Nat) (items : List Json) : List Json := items.drop (items.length - limit)

def backgroundOf : Json → Text
  | .str text => if text ∈ backgrounds then text else "blank".toList
  | _ => "blank".toList

def cleanPages (virtualIds : List Int) : List Json → Except Raised (List AddedPage)
  | [] => .ok []
  | .obj fields :: rest =>
    match getD fields "id", getD fields "afterPage" with
    | .int id, .int after =>
      if isVirtual id ∧ isPdfPage after ∧ id ∉ virtualIds then
        if ¬hashable (getD fields "background") then .error .otherError
        else do
          let pages ← cleanPages (id :: virtualIds) rest
          .ok (⟨id, after, backgroundOf (getD fields "background")⟩ :: pages)
      else cleanPages virtualIds rest
    | _, _ => cleanPages virtualIds rest
  | _ :: rest => cleanPages virtualIds rest

def knownPage (virtualIds : List Int) : Json → Bool
  | .int page => isPdfPage page ∨ (isVirtual page ∧ page ∈ virtualIds)
  | _ => false

def isText : Json → Bool
  | .str _ => true
  | _ => false

def isType (value : Json) (type : Text) : Bool :=
  match value with
  | .str text => text = type
  | _ => false

def keepsAnnotation (virtualIds : List Int) (fields : Fields) : Bool :=
  annotationTypes.any (isType (getD fields "type")) &&
    knownPage virtualIds (getD fields "page") && isText (getD fields "id") &&
    (!isType (getD fields "type") "image".toList || isImageDataUrl (getD fields "src"))

def keepsNote (virtualIds : List Int) (fields : Fields) : Bool :=
  isText (getD fields "id") && knownPage virtualIds (getD fields "page")

def markOn (fields : Fields) : Option Mark :=
  match h : getD fields "page" with
  | .int page => some ⟨fields, page, h⟩
  | _ => none

def cleanAnnotation (virtualIds : List Int) : Json → Except Raised (Option Mark)
  | .obj fields =>
    if ¬hashable (getD fields "type") then .error .otherError
    else .ok (if keepsAnnotation virtualIds fields then markOn fields else none)
  | _ => .ok none

def cleanNote (virtualIds : List Int) : Json → Option Mark
  | .obj fields => if keepsNote virtualIds fields then markOn fields else none
  | _ => none

/-- Keep only well-formed marks; anything else in the upload is dropped. -/
def cleanSnapshot : Json → Except Raised Snapshot
  | .obj raw => do
    let virtualPages ← sliced (getD raw "virtualPages") (·.take maxVirtualPages) >>= cleanPages []
    let virtualIds := virtualPages.map (·.id)
    let annotations ← sliced (getD raw "annotations") (last maxAnnotations) >>=
      fun items => items.mapM ( cleanAnnotation virtualIds)
    let notes ← sliced (getD raw "notes") (last maxNotes)
    .ok ⟨annotations.reduceOption, notes.filterMap (cleanNote virtualIds), virtualPages⟩
  | _ => .error (.shareError "The marks could not be read.")

inductive PageKind where
  | pdf
  | added
deriving DecidableEq

/-- A page and how many marks it carries. -/
structure PageEntry where
  key : Int
  kind : PageKind
  page : Int
  background : Option Text
  marks : Nat

def PageEntry.before (first second : PageEntry) : Bool :=
  first.page < second.page ∨
    (first.page = second.page ∧ (first.kind = .added → second.kind = .added))

def pdfEntry (entry : Int × Nat) : PageEntry := ⟨entry.1, .pdf, entry.1, none, entry.2⟩

def addedEntry (counts : List (Int × Nat)) (item : AddedPage) : PageEntry :=
  ⟨item.id, .added, item.afterPage, some item.background, (Dictionary.get counts item.id).getD 0⟩

def summarize (snapshot : Snapshot) : Nat × List PageEntry :=
  let counts := Dictionary.tally ((snapshot.annotations ++ snapshot.notes).map (·.page))
  let pages := (counts.filter fun entry => isPdfPage entry.1).map pdfEntry ++
    snapshot.virtualPages.map (addedEntry counts)
  ((counts.map Prod.snd).sum, pages.mergeSort PageEntry.before)

/-- The snapshot limited to chosen pages; `none` keeps everything. -/
def filterSnapshot (snapshot : Snapshot) (chosen : Option (List Int)) : Snapshot :=
  match chosen with
  | none => snapshot
  | some chosen =>
    let virtualPages := snapshot.virtualPages.filter (·.id ∈ chosen)
    let keep (item : Mark) : Bool :=
      if isVirtual item.page then item.page ∈ virtualPages.map (·.id) else item.page ∈ chosen
    ⟨snapshot.annotations.filter keep, snapshot.notes.filter keep, virtualPages⟩

def AddedPage.toJson (page : AddedPage) : Json :=
  .obj [("id", .int page.id), ("afterPage", .int page.afterPage), ("background", .str page.background)]

def Mark.toJson (mark : Mark) : Json := .obj mark.fields

def Snapshot.toJson (snapshot : Snapshot) : Json :=
  .obj [("annotations", .arr (snapshot.annotations.map Mark.toJson)),
    ("notes", .arr (snapshot.notes.map Mark.toJson)),
    ("virtualPages", .arr (snapshot.virtualPages.map AddedPage.toJson))]

end LockIn.Workspace.Share
