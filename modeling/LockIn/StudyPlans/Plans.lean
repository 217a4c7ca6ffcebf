import LockIn.Library.Machine
import LockIn.Library.Table

/-!
# Study plans

A student keeps a plan of study sessions, writes them one by one or has a week generated from a
profile.  A preview says what would be generated and carries a token of all it was made from, and
generating is refused when the token is not that of the preview of the moment.

A date is its ordinal, as `date.toordinal` counts it, so ordinal 1 is a Monday.
-/

namespace LockIn.StudyPlans

abbrev Text : Type := List Char

inductive Mode where
  | beginning
  | normal
  | custom
deriving DecidableEq

inductive Status where
  | planned
  | completed
deriving DecidableEq

/-- What a profile says, within the bounds of its constraints. -/
structure Preferences where
  mode : Mode
  dailyMinutes : Nat
  sessionMinutes : Nat
  weekdays : List Nat
  subjects : List Text
  timezone : Text
  dailyValid : 10 ≤ dailyMinutes ∧ dailyMinutes ≤ 240
  sessionValid : 10 ≤ sessionMinutes ∧ sessionMinutes ≤ 120

structure Profile extends Preferences where
  revision : Nat

structure Item where
  id : Nat
  title : Text
  subject : Text
  scheduledDate : Nat
  durationMinutes : Nat
  status : Status
  completedAt : Option Nat
  generatedSlot : Option Nat
  planMode : Mode
  revision : Nat
  clientRequestId : Option Nat

/-- The plan of one student, the items in the order they were created. -/
structure Planner where
  profile : Option Profile
  items : List Item
  nextItem : Nat

inductive PlanError where
  | planChanged
  | validation (field message : String)
  | notFound
  | integrity

/-- When a call is made: the instant, and the date of every time zone. -/
structure Moment where
  now : Nat
  localDate : Text → Nat

/-- `date.weekday`, 0 for a Monday. -/
def weekday (date : Nat) : Nat := (date + 6) % 7

/-- The profile before the first one is saved. -/
def defaultPreferences : Preferences where
  mode := .custom
  dailyMinutes := 60
  sessionMinutes := 25
  weekdays := [0, 1, 2, 3, 4]
  subjects := []
  timezone := "Africa/Tripoli".toList
  dailyValid := by decide
  sessionValid := by decide

def profileFor (planner : Planner) : Preferences :=
  match planner.profile with
  | none => defaultPreferences
  | some profile => profile.toPreferences

def planToday (moment : Moment) (preferences : Preferences) : Nat :=
  moment.localDate preferences.timezone

def profileRevision (planner : Planner) : Nat :=
  match planner.profile with
  | none => 0
  | some profile => profile.revision

def saveProfile (planner : Planner) (expectedRevision : Nat) (preferences : Preferences) :
    Except PlanError Planner :=
  if expectedRevision ≠ profileRevision planner then .error .planChanged
  else .ok { planner with profile := some ⟨preferences, expectedRevision + 1⟩ }

def onDay (items : List Item) (day : Nat) : List Item := items.filter (·.scheduledDate = day)

def minutesOf (items : List Item) : Nat := (items.map (·.durationMinutes)).sum

def validateDay (items : List Item) (day minutes : Nat) (exclude : Option Nat) :
    Except PlanError Unit :=
  let others := (onDay items day).filter fun item => exclude ≠ some item.id
  if 48 ≤ others.length ∨ 480 < minutesOf others + minutes then
    .error (.validation "duration_minutes" "A day can contain at most 480 minutes and 48 sessions.")
  else .ok ()

/-- The minutes of the sessions that `total` minutes are split into. -/
def durations (total session : Nat) : List Nat :=
  let result := List.replicate (total / session) session
  let rest := total % session
  if 5 ≤ rest then result ++ [rest]
  else if rest ≠ 0 ∧ result ≠ [] then result.dropLast ++ [session + rest]
  else result

def completedDays (items : List Item) (today : Nat) : Nat :=
  ((items.filter fun item =>
    item.planMode = .beginning && item.status = .completed && decide (item.scheduledDate ≤ today)).map
      (·.scheduledDate)).dedup.length

def beginnerMinutes (items : List Item) (today : Nat) : Nat :=
  match completedDays items today / 3 with
  | 0 => 10
  | 1 => 15
  | 2 => 20
  | _ => 25

structure PreviewItem where
  title : Text
  subject : Text
  scheduledDate : Nat
  durationMinutes : Nat
  generatedSlot : Nat
  planMode : Mode

/-- What a preview makes of a day: it is past or not a day of the profile, it is skipped, or it
gets sessions. -/
inductive DayPlan where
  | outside
  | skipped
  | planned (items : List PreviewItem)

def DayPlan.items : DayPlan → List PreviewItem
  | .planned items => items
  | .outside | .skipped => []

def DayPlan.isSkipped : DayPlan → Bool
  | .skipped => true
  | .outside | .planned _ => false

def dayDurations (preferences : Preferences) (beginner : Nat) (daily : List Item) : List Nat :=
  match preferences.mode with
  | .beginning => [beginner]
  | .normal | .custom => durations (preferences.dailyMinutes - minutesOf daily) preferences.sessionMinutes

def subjectFor (preferences : Preferences) (day slot : Nat) : Text :=
  (preferences.subjects[(day + slot) % preferences.subjects.length]?).getD []

def previewItem (preferences : Preferences) (day slot minutes : Nat) : PreviewItem :=
  let subject := subjectFor preferences day slot
  ⟨if subject = [] then "Study session".toList else subject, subject, day, minutes, slot, preferences.mode⟩

def planDay (preferences : Preferences) (beginner today : Nat) (existing : List Item) (day : Nat) :
    DayPlan :=
  if day < today ∨ weekday day ∉ preferences.weekdays then .outside
  else
    let daily := onDay existing day
    -- An existing generated day is kept intact, with what was edited or completed.
    if daily.any (·.generatedSlot.isSome) then .skipped
    else
      let minutes := dayDurations preferences beginner daily
      if 480 - minutesOf daily < minutes.sum ∨ 48 < daily.length + minutes.length then .skipped
      else .planned (minutes.mapIdx fun slot minutes => previewItem preferences day slot minutes)

/-- What a preview token is the digest of. -/
structure Canonical where
  profile : Profile
  today : Nat
  items : List PreviewItem
  existing : List (Nat × Nat)

structure Preview where
  items : List PreviewItem
  count : Nat
  skippedDays : Nat
  minutes : Nat
  previewToken : Nat

def existingItems (planner : Planner) (start : Nat) : List Item :=
  (planner.items.filter fun item => start ≤ item.scheduledDate && item.scheduledDate ≤ start + 6).insertionSort
    fun first second => first.scheduledDate ≤ second.scheduledDate

section
variable (token : Canonical → Nat)

def previewPlan (planner : Planner) (moment : Moment) (start : Nat) : Except PlanError Preview :=
  match planner.profile with
  | none => .error (.validation "mode" "Save a Beginning or Normal plan first.")
  | some profile =>
    let today := planToday moment profile.toPreferences
    if profile.mode = .custom then
      .error (.validation "mode" "Save a Beginning or Normal plan first.")
    else if start < today - weekday today ∨ today + 365 < start then
      .error (.validation "start_date" "Choose the current week or a future week within a year.")
    else
      let existing := existingItems planner start
      let days := (List.range 7).map fun offset =>
        planDay profile.toPreferences (beginnerMinutes planner.items today) today existing (start + offset)
      let items := days.flatMap (·.items)
      .ok ⟨items, items.length, (days.filter (·.isSkipped)).length,
        (items.map (·.durationMinutes)).sum,
        token ⟨profile, today, items, existing.map fun item => (item.id, item.revision)⟩⟩

def generatedItem (item : PreviewItem) (id : Nat) : Item :=
  ⟨id, item.title, item.subject, item.scheduledDate, item.durationMinutes, .planned, none,
    some item.generatedSlot, item.planMode, 1, none⟩

def rowsFit (items rows : List Item) : Bool :=
  rows.all fun row => decide (5 ≤ row.durationMinutes) && decide (row.durationMinutes ≤ 480) &&
    !items.any fun item => item.scheduledDate = row.scheduledDate && item.generatedSlot = row.generatedSlot

def generatePlan (planner : Planner) (moment : Moment) (start previewToken : Nat) :
    Except PlanError Planner :=
  match previewPlan token planner moment start with
  | .error error => .error error
  | .ok preview =>
    if preview.previewToken ≠ previewToken then .error .planChanged
    else
      let rows := preview.items.mapIdx fun position item => generatedItem item (planner.nextItem + position)
      if !rowsFit planner.items rows then .error .integrity
      else .ok ⟨planner.profile, planner.items ++ rows, planner.nextItem + rows.length⟩

end

structure ItemData where
  clientRequestId : Option Nat
  title : Text
  subject : Text
  scheduledDate : Nat
  durationMinutes : Nat
  durationValid : 5 ≤ durationMinutes ∧ durationMinutes ≤ 480

def requestItem (planner : Planner) (request : Option Nat) : Option Item :=
  match request with
  | none => none
  | some request => planner.items.find? fun item => item.clientRequestId = some request

def createItem (planner : Planner) (data : ItemData) : Except PlanError Planner :=
  match requestItem planner data.clientRequestId with
  | some existing =>
    if existing.title = data.title ∧ existing.subject = data.subject ∧
        existing.scheduledDate = data.scheduledDate ∧ existing.durationMinutes = data.durationMinutes then
      .ok planner
    else .error .planChanged
  | none =>
    match validateDay planner.items data.scheduledDate data.durationMinutes none with
    | .error error => .error error
    | .ok () =>
      .ok ⟨planner.profile, planner.items ++
        [⟨planner.nextItem, data.title, data.subject, data.scheduledDate, data.durationMinutes,
          .planned, none, none, .custom, 1, data.clientRequestId⟩], planner.nextItem + 1⟩

structure ItemChanges where
  expectedRevision : Option Nat
  title : Option Text
  subject : Option Text
  scheduledDate : Option Nat
  durationMinutes : Option Nat
  status : Option Status
  durationValid : ∀ minutes ∈ durationMinutes, 5 ≤ minutes ∧ minutes ≤ 480

def ItemChanges.isEmpty (changes : ItemChanges) : Bool :=
  changes.title.isNone && changes.subject.isNone && changes.scheduledDate.isNone &&
    changes.durationMinutes.isNone && changes.status.isNone

def changedItem (item : Item) (changes : ItemChanges) : Item :=
  let date := changes.scheduledDate.getD item.scheduledDate
  { item with
    title := changes.title.getD item.title
    subject := changes.subject.getD item.subject
    scheduledDate := date
    durationMinutes := changes.durationMinutes.getD item.durationMinutes
    status := changes.status.getD item.status
    generatedSlot := if date ≠ item.scheduledDate then none else item.generatedSlot }

def completedAt (item changed : Item) (now : Nat) : Option Nat :=
  if changed.status ≠ item.status then
    if changed.status = .completed then some now else none
  else item.completedAt

/-- Only a move or a longer session is held against the limits of the day. -/
def checkMove (items : List Item) (item changed : Item) : Except PlanError Unit :=
  if changed.scheduledDate ≠ item.scheduledDate ∨ item.durationMinutes < changed.durationMinutes then
    validateDay items changed.scheduledDate changed.durationMinutes (some item.id)
  else .ok ()

def updateItem (planner : Planner) (moment : Moment) (id : Nat) (changes : ItemChanges) :
    Except PlanError Planner :=
  match Table.find Item.id planner.items id with
  | none => .error .notFound
  | some item =>
    if changes.isEmpty && changes.expectedRevision.isNone then
      .error (.validation "non_field_errors" "Provide at least one field to update.")
    else if changes.expectedRevision.getD item.revision ≠ item.revision then .error .planChanged
    else if changes.isEmpty then .error (.validation "" "Provide at least one field to update.")
    else
      let changed := changedItem item changes
      if changed.status = .completed ∧ planToday moment (profileFor planner) < changed.scheduledDate then
        .error (.validation "status" "Future sessions cannot be completed yet.")
      else
        match checkMove planner.items item changed with
        | .error error => .error error
        | .ok () =>
          .ok { planner with
            items := Table.put Item.id planner.items
              { changed with
                completedAt := completedAt item changed moment.now
                revision := item.revision + 1 } }

def deleteItem (planner : Planner) (id : Nat) (revision : Option String) : Except PlanError Planner :=
  match Table.find Item.id planner.items id with
  | none => .error .notFound
  | some item =>
    if revision.any fun expected => expected ≠ toString item.revision then .error .planChanged
    else .ok { planner with items := planner.items.filter (·.id ≠ id) }

inductive Request where
  | createItem (data : ItemData)
  | updateItem (id : Nat) (changes : ItemChanges)
  | deleteItem (id : Nat) (revision : Option String)
  | saveProfile (expectedRevision : Nat) (preferences : Preferences)
  | generatePlan (start previewToken : Nat)

structure Call where
  request : Request
  moment : Moment

def Call.exec (token : Canonical → Nat) (call : Call) (planner : Planner) : Except PlanError Planner :=
  match call.request with
  | .createItem data => StudyPlans.createItem planner data
  | .updateItem id changes => StudyPlans.updateItem planner call.moment id changes
  | .deleteItem id revision => StudyPlans.deleteItem planner id revision
  | .saveProfile expectedRevision preferences =>
    StudyPlans.saveProfile planner expectedRevision preferences
  | .generatePlan start previewToken =>
    StudyPlans.generatePlan token planner call.moment start previewToken

def plans (token : Canonical → Nat) : Machine Planner Call PlanError where
  init := ⟨none, [], 1⟩
  exec call planner := call.exec token planner
  time call := call.moment.now

end LockIn.StudyPlans
