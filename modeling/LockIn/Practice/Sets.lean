import LockIn.Library.Machine
import LockIn.Library.Table
import LockIn.Library.Whitespace
import Mathlib

/-!
# Practice sets

A set is a numbered list of image slides, each with the name that a student types for it.
Administrators fill the set, name its slides, put them in order and publish it.  Every call
but the upload of several images is one transaction, so that a refused call changes nothing.

An archive lists its entries, and each may be added, refused or left over when the set is
full.  The images are added in the natural order of their names, in which digits count by
their value.  Two things can fail on the way and are not caught: the key of a name, and the
reading of an entry when others have been added.
-/

namespace LockIn.Practice

abbrev Text : Type := List Char

/-- The digits as the language knows them: `\d` are those with a decimal value, and `isdigit` has
others beside them, superscripts for one. -/
structure Digits where
  decimal : Char → Option Nat
  isDigit : Char → Bool
  decimal_isDigit : ∀ char, (decimal char).isSome = true → isDigit char = true

def latinDigits : Digits where
  decimal char := if '0' ≤ char ∧ char ≤ '9' then some (char.toNat - 48) else none
  isDigit char := ('0' ≤ char ∧ char ≤ '9') || char.toNat ∈ [0xB2, 0xB3, 0xB9]
  decimal_isDigit := by
    intro char h
    by_cases hdigit : '0' ≤ char ∧ char ≤ '9'
    · simp [hdigit]
    · simp [if_neg hdigit] at h

/-- What Python, Django and the database know about texts, and the limits of the settings. -/
structure Rules where
  nfc : Text → Text
  isSpace : Char → Bool
  /-- The category `Cf`. -/
  isFormat : Char → Bool
  casefold : Text → Text
  /-- `title__iexact`. -/
  sameTitle : Text → Text → Bool
  digits : Digits
  /-- The name that an upload gets, which is cut where it is long. -/
  uploadName : Text → Text
  maxSlidesPerSet : Nat
  imageMaxBytes : Nat

structure PracticeSet where
  id : Nat
  subject : Nat
  title : Text
  isPublished : Bool
deriving DecidableEq

structure ManagedFile where
  originalName : Text
  data : List UInt8
deriving DecidableEq

structure PracticeSlide where
  id : Nat
  practiceSet : Nat
  position : Nat
  answer : Text
  managedFile : ManagedFile
deriving DecidableEq

/-- The tables, the rows in the order they were created, and the next free ids. -/
structure World where
  sets : List PracticeSet
  slides : List PracticeSlide
  nextSet : Nat
  nextSlide : Nat
deriving DecidableEq

inductive PracticeError where
  | doesNotExist
  | titleTaken (message : String)
  | notReady (message : String)
  | invalid (message : String)
deriving DecidableEq

def titleMaxLength : Nat := 120

def answerMaxLength : Nat := 200

section
variable (rules : Rules)

/-- `" ".join(value.split())`. -/
def singleSpaced (value : Text) : Text :=
  [' '].intercalate ((value.splitOnP rules.isSpace).filter (· ≠ []))

def normalizeTitle (value : Text) : Except PracticeError Text :=
  let title := singleSpaced rules value
  if title = [] then .error (.invalid "Give the set a name.")
  else if titleMaxLength < title.length then .error (.invalid "Keep the name under 120 characters.")
  else .ok title

def normalizeAnswer (value : Text) : Text :=
  rules.casefold ((rules.nfc value).filter fun char => !rules.isSpace char && !rules.isFormat char)

def cleanAnswer (value : Text) : Except PracticeError Text :=
  let answer := singleSpaced rules value
  if answerMaxLength < answer.length then
    .error (.invalid "Keep each answer under 200 characters.")
  else .ok answer

def findSet (world : World) (id : Nat) : Except PracticeError PracticeSet :=
  match Table.find PracticeSet.id world.sets id with
  | none => .error .doesNotExist
  | some practiceSet => .ok practiceSet

def findSlide (world : World) (id : Nat) : Except PracticeError PracticeSlide :=
  match Table.find PracticeSlide.id world.slides id with
  | none => .error .doesNotExist
  | some slide => .ok slide

/-- `practice_set.slides`, as created. -/
def slidesOf (slides : List PracticeSlide) (set : Nat) : List PracticeSlide :=
  slides.filter (·.practiceSet = set)

/-- `order_by("position", "created_at", "id")`. -/
def orderedSlides (slides : List PracticeSlide) (set : Nat) : List PracticeSlide :=
  (slidesOf slides set).insertionSort fun first second => first.position ≤ second.position

def saveSet (world : World) (practiceSet : PracticeSet) : World :=
  { world with sets := Table.put PracticeSet.id world.sets practiceSet }

def saveSlide (world : World) (slide : PracticeSlide) : World :=
  { world with slides := Table.put PracticeSlide.id world.slides slide }

def setPosition (slides : List PracticeSlide) (id position : Nat) : List PracticeSlide :=
  slides.map fun slide => if slide.id = id then { slide with position := position } else slide

/-- `for index, slide_id in enumerate(ids, start=start)`. -/
def numberFrom (start : Nat) : List Nat → List PracticeSlide → List PracticeSlide
  | [], slides => slides
  | id :: rest, slides => numberFrom (start + 1) rest (setPosition slides id start)

def renumber (world : World) (set : Nat) : World :=
  { world with
    slides := numberFrom 1 ((orderedSlides world.slides set).map (·.id)) world.slides }

def missingAnswers (slides : List PracticeSlide) : Nat :=
  (slides.filter fun slide => normalizeAnswer rules slide.answer = []).length

def checkPublishable (world : World) (set : Nat) : Except PracticeError Unit :=
  let slides := slidesOf world.slides set
  let missing := missingAnswers rules slides
  if slides = [] then .error (.notReady "Add at least one slide before publishing.")
  else if missing ≠ 0 then
    .error (.notReady (toString missing ++ " slide" ++ (if missing ≠ 1 then "s" else "") ++
      " still need an answer before publishing."))
  else .ok ()

/-- `filter(id=set).update(is_published=False)`. -/
def unpublish (world : World) (set : Nat) : World :=
  { world with
    sets := world.sets.map fun row => if row.id = set then { row with isPublished := false } else row }

def unpublishIfIncomplete (world : World) (set : Nat) : World :=
  match checkPublishable rules world set with
  | .ok () => world
  | .error _ => unpublish world set

def titleTakenMessage : String := "This subject already has a set with this name."

def createSet (world : World) (subject : Nat) (title : Text) : Except PracticeError World := do
  let normalized ← normalizeTitle rules title
  if world.sets.any fun row => row.subject = subject && rules.sameTitle row.title normalized then
    .error (.titleTaken titleTakenMessage)
  else
    .ok { world with
      sets := world.sets ++ [⟨world.nextSet, subject, normalized, false⟩]
      nextSet := world.nextSet + 1 }

/-- The title part of `update_set`. -/
def rename (world : World) (locked : PracticeSet) : Option Text → Except PracticeError PracticeSet
  | none => .ok locked
  | some title => do
    let normalized ← normalizeTitle rules title
    if world.sets.any fun row =>
        row.subject = locked.subject && rules.sameTitle row.title normalized && row.id ≠ locked.id then
      .error (.titleTaken titleTakenMessage)
    else .ok { locked with title := normalized }

/-- The publication part of `update_set`. -/
def publish (world : World) (locked : PracticeSet) : Option Bool → Except PracticeError PracticeSet
  | none => .ok locked
  | some false => .ok { locked with isPublished := false }
  | some true => do
    checkPublishable rules world locked.id
    .ok { locked with isPublished := true }

def updateSet (world : World) (set : Nat) (title : Option Text) (isPublished : Option Bool) :
    Except PracticeError World := do
  let locked ← findSet world set
  let renamed ← rename rules world locked title
  let published ← publish rules world renamed isPublished
  .ok (saveSet world published)

/-- An image and what `create_managed_file` says of it. -/
structure Upload where
  name : Text
  data : List UInt8
  refusal : Option String

structure UploadOutcome where
  added : List Nat
  rejected : List (Text × String)
deriving DecidableEq

def fullMessage : String :=
  "A set holds up to " ++ toString rules.maxSlidesPerSet ++ " slides."

/-- `order_by("-position")...first() or 0`. -/
def lastPosition (slides : List PracticeSlide) : Nat :=
  (slides.map (·.position)).foldl max 0

/-- The transaction of one image: the new world, or why the image was not taken. -/
def addSlide (world : World) (set : Nat) (upload : Upload) : Except String World :=
  let slides := slidesOf world.slides set
  if rules.maxSlidesPerSet ≤ slides.length then .error (fullMessage rules)
  else
    match upload.refusal with
    | some message => .error message
    | none =>
      .ok (unpublishIfIncomplete rules
        { world with
          slides := world.slides ++ [⟨world.nextSlide, set, lastPosition slides + 1, [],
            ⟨upload.name, upload.data⟩⟩]
          nextSlide := world.nextSlide + 1 } set)

def addEach (set : Nat) : List Upload → World → World × UploadOutcome
  | [], world => (world, ⟨[], []⟩)
  | upload :: rest, world =>
    match addSlide rules world set upload with
    | .error message =>
      let (after, outcome) := addEach set rest world
      (after, ⟨outcome.added, (upload.name, message) :: outcome.rejected⟩)
    | .ok next =>
      let (after, outcome) := addEach set rest next
      (after, ⟨world.nextSlide :: outcome.added, outcome.rejected⟩)

def addSlides (world : World) (set : Nat) (uploads : List Upload) :
    Except PracticeError (World × UploadOutcome) := do
  let _ ← findSet world set
  .ok (addEach rules set uploads world)

inductive ReadError where
  | badZipFile
  | osError
  | runtimeError
deriving DecidableEq

structure ZipInfo where
  filename : Text
  isDir : Bool
  fileSize : Nat
  encrypted : Bool
  /-- What reading the entry gives. -/
  content : Except ReadError (List UInt8)
  refusal : Option String

structure Archive where
  size : Option Nat
  isValid : Bool
  infos : List ZipInfo

def archiveMaxBytes : Nat := 80 * 1024 * 1024

def archiveUnpackedMaxBytes : Nat := 400 * 1024 * 1024

/-- `text.rsplit(mark, 1)[-1]`. -/
def afterLast (mark : Char) (text : Text) : Text := (text.reverse.takeWhile (· ≠ mark)).reverse

def backslash : Char := Char.ofNat 92

def entryPath (info : ZipInfo) : Text :=
  info.filename.map fun char => if char = backslash then '/' else char

def entryBase (info : ZipInfo) : Text := afterLast '/' (entryPath info)

def isArchiveJunk (path base : Text) : Bool :=
  "__MACOSX".toList ∈ path.splitOn '/' || base.head? = some '.' ||
    rules.casefold base ∈ ["thumbs.db".toList, "desktop.ini".toList]

def isArchiveImage (base : Text) : Bool :=
  '.' ∈ base &&
    rules.casefold (afterLast '.' base) ∈ ["jpg".toList, "jpeg".toList, "png".toList, "webp".toList]

def tooLargeMessage : String :=
  "Larger than " ++ toString (rules.imageMaxBytes / 1024 / 1024) ++ " MB."

def entryRefusal (info : ZipInfo) : Option String :=
  if !isArchiveImage rules (entryBase info) then some "Only JPEG, PNG or WebP images are accepted."
  else if info.encrypted then some "Password-protected files cannot be read."
  else if rules.imageMaxBytes < info.fileSize then some (tooLargeMessage rules)
  else none

/-- `sys.get_int_max_str_digits()` -/
def intMaxStrDigits : Nat := 4300

abbrev KeyPart := Lex (ℕ ⊕ Text)

/-- `int(part)`; none stands for the `ValueError`. -/
def parseInt (part : Text) : Option Nat :=
  if part.length ≤ intMaxStrDigits ∧ part.all fun char => (rules.digits.decimal char).isSome then
    some (part.foldl (fun value char => 10 * value + (rules.digits.decimal char).getD 0) 0)
  else none

/-- The parts that are left of `re.split(r"(\d+)", name)` when the empty ones are gone. -/
def keyParts (name : Text) : List Text :=
  name.splitBy fun first second =>
    (rules.digits.decimal first).isSome == (rules.digits.decimal second).isSome

def keyPart (part : Text) : Option KeyPart :=
  if part.all rules.digits.isDigit then (parseInt rules part).map fun value => toLex (.inl value)
  else some (toLex (.inr part))

def naturalKey (name : Text) : Option (List KeyPart) :=
  (keyParts rules (rules.casefold name)).mapM (keyPart rules)

def filesOf (archive : Archive) : List ZipInfo := archive.infos.filter fun info => !info.isDir

/-- The entries that are neither directories nor junk. -/
def consideredOf (archive : Archive) : List ZipInfo :=
  (filesOf archive).filter fun info => !isArchiveJunk rules (entryPath info) (entryBase info)

def acceptedOf (archive : Archive) : List ZipInfo :=
  (consideredOf rules archive).filter fun info => entryRefusal rules info = none

def refusedOf (archive : Archive) : List (Text × String) :=
  (consideredOf rules archive).filterMap fun info =>
    (entryRefusal rules info).map fun message => (entryBase info, message)

/-- `_natural_key(base)`, of a name that has one. -/
def nameKey (info : ZipInfo) : List KeyPart := (naturalKey rules (entryBase info)).getD []

/-- `entries.sort(key=...)`. -/
def orderedOf (archive : Archive) : List ZipInfo :=
  (acceptedOf rules archive).insertionSort fun first second =>
    toLex (nameKey rules first, entryPath first) ≤ toLex (nameKey rules second, entryPath second)

def archiveRefusal (archive : Archive) : Option PracticeError :=
  if archive.size.any fun size => archiveMaxBytes < size then
    some (.invalid "The ZIP is larger than 80 MB.")
  else if !archive.isValid then some (.invalid "That file is not a valid ZIP archive.")
  else if archiveUnpackedMaxBytes < ((filesOf archive).map (·.fileSize)).sum then
    some (.invalid "The ZIP unpacks to more than 400 MB.")
  else if acceptedOf rules archive = [] ∧ refusedOf rules archive = [] then
    some (.invalid "The ZIP has no images in it.")
  else none

/-- What escapes the call beside a `PracticeError`. -/
inductive Crash where
  | valueError
  | reading (error : ReadError)
deriving DecidableEq

inductive ArchiveAnswer where
  | refused (error : PracticeError)
  | crashed (error : Crash) (world : World)
  | returned (world : World) (outcome : UploadOutcome)
deriving DecidableEq

def ArchiveAnswer.committed : ArchiveAnswer → Except PracticeError World
  | .refused error => .error error
  | .crashed _ world => .ok world
  | .returned world _ => .ok world

/-- One entry after another, until one cannot be read: what was added by then stays. -/
def addEntries (set : Nat) : List ZipInfo → World → UploadOutcome → ArchiveAnswer
  | [], world, outcome => .returned world outcome
  | info :: rest, world, outcome =>
    match info.content with
    | .error error => .crashed (.reading error) world
    | .ok content =>
      let base := entryBase info
      let data := content.take (rules.imageMaxBytes + 1)
      if rules.imageMaxBytes < data.length then
        addEntries set rest world
          ⟨outcome.added, outcome.rejected ++ [(base, tooLargeMessage rules)]⟩
      else
        let (next, one) := addEach rules set [⟨rules.uploadName base, data, info.refusal⟩] world
        addEntries set rest next ⟨outcome.added ++ one.added, outcome.rejected ++ one.rejected⟩

def roomOf (world : World) (set : Nat) : Nat :=
  rules.maxSlidesPerSet - (slidesOf world.slides set).length

/-- `add_slides_from_archive`; the set is one that is there. -/
def addSlidesFromArchive (world : World) (set : Nat) (archive : Archive) : ArchiveAnswer :=
  match archiveRefusal rules archive with
  | some error => .refused error
  | none =>
    if ∀ info ∈ acceptedOf rules archive, (naturalKey rules (entryBase info)).isSome then
      let entries := orderedOf rules archive
      let room := roomOf rules world set
      let overflow := (entries.drop room).map fun info => (entryBase info, fullMessage rules)
      addEntries rules set (entries.take room) world ⟨[], refusedOf rules archive ++ overflow⟩
    else .crashed .valueError world

def setSlideAnswer (world : World) (slide : Nat) (answer : Text) : Except PracticeError World := do
  let cleaned ← cleanAnswer rules answer
  let locked ← findSlide world slide
  let saved := saveSlide world { locked with answer := cleaned }
  .ok (if normalizeAnswer rules cleaned = [] then unpublishIfIncomplete rules saved locked.practiceSet
    else saved)

/-- A blank entry keeps what is there. -/
def saveAnswer (world : World) (pair : PracticeSlide × Text) : World :=
  if pair.2 ≠ [] ∧ pair.2 ≠ pair.1.answer then saveSlide world { pair.1 with answer := pair.2 }
  else world

def tooManyMessage (answers slides : Nat) : String :=
  "The list has " ++ toString answers ++ " answers but the set has only " ++ toString slides ++
    " slides."

def setAnswersInOrder (world : World) (set : Nat) (answers : List Text) :
    Except PracticeError World := do
  let _ ← findSet world set
  let slides := orderedSlides world.slides set
  if slides.length < answers.length then
    .error (.invalid (tooManyMessage answers.length slides.length))
  else
    let cleaned ← answers.mapM (cleanAnswer rules)
    .ok ((slides.zip cleaned).foldl saveAnswer world)

end

def deleteSlide (world : World) (slide : Nat) : Except PracticeError World := do
  let deleted ← findSlide world slide
  let without := { world with slides := world.slides.filter (·.id ≠ slide) }
  let numbered := renumber without deleted.practiceSet
  .ok (if slidesOf numbered.slides deleted.practiceSet = [] then unpublish numbered deleted.practiceSet
    else numbered)

def reorderSlides (world : World) (set : Nat) (orderedIds : List Nat) : Except PracticeError World := do
  let _ ← findSet world set
  let current := (slidesOf world.slides set).map (·.id)
  if ¬ orderedIds.Nodup ∨ ¬ (∀ id ∈ orderedIds, id ∈ current) ∨ ¬ (∀ id ∈ current, id ∈ orderedIds) then
    .error (.invalid "The order must list every slide of the set exactly once.")
  else .ok { world with slides := numberFrom 1 orderedIds world.slides }

def moveSlide (world : World) (set slide : Nat) (position : Int) : Except PracticeError World := do
  let _ ← findSet world set
  let ids := (orderedSlides world.slides set).map (·.id)
  if slide ∉ ids then .error (.invalid "That slide is not in this set.")
  else if ¬ (1 ≤ position ∧ position ≤ ids.length) then
    .error (.invalid ("Choose a position from 1 to " ++ toString ids.length ++ "."))
  else
    let moved := (ids.erase slide).insertIdx (position.toNat - 1) slide
    .ok { world with slides := numberFrom 1 moved world.slides }

inductive Call where
  | createSet (subject : Nat) (title : Text)
  | updateSet (set : Nat) (title : Option Text) (isPublished : Option Bool)
  | addSlides (set : Nat) (uploads : List Upload)
  | addSlidesFromArchive (set : Nat) (archive : Archive)
  | setSlideAnswer (slide : Nat) (answer : Text)
  | setAnswersInOrder (set : Nat) (answers : List Text)
  | deleteSlide (slide : Nat)
  | reorderSlides (set : Nat) (orderedIds : List Nat)
  | moveSlide (set slide : Nat) (position : Int)

def Call.exec (rules : Rules) (call : Call) (world : World) : Except PracticeError World :=
  match call with
  | .createSet subject title => Practice.createSet rules world subject title
  | .updateSet set title isPublished => Practice.updateSet rules world set title isPublished
  | .addSlides set uploads => Prod.fst <$> Practice.addSlides rules world set uploads
  | .addSlidesFromArchive set archive => do
    let _ ← findSet world set
    (Practice.addSlidesFromArchive rules world set archive).committed
  | .setSlideAnswer slide answer => Practice.setSlideAnswer rules world slide answer
  | .setAnswersInOrder set answers => Practice.setAnswersInOrder rules world set answers
  | .deleteSlide slide => Practice.deleteSlide world slide
  | .reorderSlides set orderedIds => Practice.reorderSlides world set orderedIds
  | .moveSlide set slide position => Practice.moveSlide world set slide position

def emptyWorld : World := ⟨[], [], 1, 1⟩

def practice (rules : Rules) : Machine World Call PracticeError where
  init := emptyWorld
  exec := Call.exec rules
  time := fun _ => 0

end LockIn.Practice
