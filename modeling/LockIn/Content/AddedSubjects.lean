import LockIn.Library.Machine
import LockIn.Library.Table
import LockIn.Library.Whitespace

/-!
# Subjects that a student adds

A student studies the subjects of their cohort.  A Second Year Dentistry student may add a few
subjects of the First Year of the same program, and swap one of them through a request that an
operator decides.  What is added is stored, and what it grants is decided on every read: a
subject that is retired, or a student who moved to another cohort, leaves rows behind that grant
nothing.
-/

namespace LockIn.Content.AddedSubjects

open Outcome
open Whitespace (Text)

structure AcademicProgram where
  id : Nat
  code : String

structure StudentCohort where
  id : Nat
  program : AcademicProgram
  code : String
  isActive : Bool

structure CatalogSubject where
  id : Nat
  cohort : Nat
  materialSlug : String
  isActive : Bool

structure Directory where
  cohorts : List StudentCohort
  subjects : List CatalogSubject
  cohortIds : Table.Distinct StudentCohort.id cohorts
  cohortCodes : Table.Distinct (fun cohort => (cohort.program.id, cohort.code)) cohorts
  subjectIds : Table.Distinct CatalogSubject.id subjects
  materialSlugs : Table.Distinct CatalogSubject.materialSlug subjects

def activateCohort (cohort : Nat) (active : Bool) (row : StudentCohort) : StudentCohort :=
  if row.id = cohort then { row with isActive := active } else row

def activateSubject (subject : Nat) (active : Bool) (row : CatalogSubject) : CatalogSubject :=
  if row.id = subject then { row with isActive := active } else row

variable {κ : Type}

theorem distinct_map {ρ : Type} {key : ρ → κ} {rows : List ρ} {change : ρ → ρ}
    (hkey : ∀ row, key (change row) = key row) (h : Table.Distinct key rows) :
    Table.Distinct key (rows.map change) := by
  unfold Table.Distinct
  rw [List.map_map]
  have hsame : key ∘ change = key := funext hkey
  rw [hsame]
  exact h

theorem activateCohort_key (key : StudentCohort → κ)
    (hkey : ∀ row active, key { row with isActive := active } = key row) (cohort : Nat)
    (active : Bool) (row : StudentCohort) : key (activateCohort cohort active row) = key row := by
  unfold activateCohort
  split
  · exact hkey row active
  · rfl

theorem activateSubject_key (key : CatalogSubject → κ)
    (hkey : ∀ row active, key { row with isActive := active } = key row) (subject : Nat)
    (active : Bool) (row : CatalogSubject) :
    key (activateSubject subject active row) = key row := by
  unfold activateSubject
  split
  · exact hkey row active
  · rfl

def Directory.setCohortActive (directory : Directory) (cohort : Nat) (active : Bool) : Directory :=
  { directory with
    cohorts := directory.cohorts.map (activateCohort cohort active)
    cohortIds :=
      distinct_map (activateCohort_key _ (fun _ _ => rfl) cohort active) directory.cohortIds
    cohortCodes :=
      distinct_map (activateCohort_key (fun cohort => (cohort.program.id, cohort.code))
        (fun _ _ => rfl) cohort active) directory.cohortCodes }

def Directory.setSubjectActive (directory : Directory) (subject : Nat) (active : Bool) : Directory :=
  { directory with
    subjects := directory.subjects.map (activateSubject subject active)
    subjectIds :=
      distinct_map (activateSubject_key _ (fun _ _ => rfl) subject active) directory.subjectIds
    materialSlugs :=
      distinct_map (activateSubject_key _ (fun _ _ => rfl) subject active) directory.materialSlugs }

structure AddedCatalogSubject where
  user : Nat
  subject : Nat
deriving DecidableEq

inductive RequestStatus where
  | pending
  | approved
  | declined
deriving DecidableEq

structure AddedSubjectChangeRequest where
  id : Nat
  user : Nat
  removeSubject : Nat
  addSubject : Nat
  note : Text
  status : RequestStatus
  adminNote : Text
  decidedBy : Option Nat
  decidedAt : Option Nat
  createdAt : Nat

/-- The catalog, the cohort of every user, and what was added and asked for. -/
structure State where
  directory : Directory
  cohortOf : Nat → Option Nat
  additions : List AddedCatalogSubject
  requests : List AddedSubjectChangeRequest

structure AddedSubjectError where
  message : String
  code : String

def addedSubjectLimit : Nat := 2

def sourceYear : String := "year-1"
def targetYear : String := "year-2"
def programPrefix : String := "dentistry"

def activeCohort (state : State) (user : Nat) : Option StudentCohort :=
  ((state.cohortOf user).bind (Table.find StudentCohort.id state.directory.cohorts)).filter
    (·.isActive)

def canAddSubjects (state : State) (user : Nat) : Bool :=
  (activeCohort state user).any fun cohort =>
    cohort.code = targetYear && programPrefix.toList.isPrefixOf cohort.program.code.toList

def isSource (directory : Directory) (program : Nat) (subject : CatalogSubject) : Bool :=
  subject.isActive && (Table.find StudentCohort.id directory.cohorts subject.cohort).any fun cohort =>
    cohort.isActive && cohort.program.id = program && cohort.code = sourceYear

def addableSubjects (state : State) (user : Nat) : List CatalogSubject :=
  match activeCohort state user with
  | none => []
  | some cohort =>
    if canAddSubjects state user then
      state.directory.subjects.filter (isSource state.directory cohort.program.id)
    else []

def hasAdded (state : State) (user : Nat) (subject : CatalogSubject) : Bool :=
  state.additions.any fun row => row.user = user && row.subject = subject.id

def addedSubjects (state : State) (user : Nat) : List CatalogSubject :=
  (addableSubjects state user).filter (hasAdded state user)

def studentSubjects (state : State) (contentAdministrator : Nat → Bool) (user : Nat) :
    List CatalogSubject :=
  let subjects := state.directory.subjects.filter (·.isActive)
  if contentAdministrator user then subjects
  else
    match activeCohort state user with
    | none => []
    | some cohort =>
      let addedIds := (addedSubjects state user).map CatalogSubject.id
      subjects.filter fun subject => subject.cohort = cohort.id || subject.id ∈ addedIds

def pendingRequest (state : State) (user : Nat) : Option AddedSubjectChangeRequest :=
  state.requests.find? fun item => item.user = user && item.status = .pending

/-- `get_or_create` of an addition. -/
def State.add (state : State) (user subject : Nat) : State :=
  if ⟨user, subject⟩ ∈ state.additions then state
  else { state with additions := state.additions ++ [⟨user, subject⟩] }

def State.remove (state : State) (user subject : Nat) : State :=
  { state with additions := state.additions.filter (· ≠ ⟨user, subject⟩) }

def notEligible : AddedSubjectError := ⟨"Your year cannot add subjects.", "not_eligible"⟩
def notAddable : AddedSubjectError := ⟨"This subject cannot be added.", "subject_not_addable"⟩

def addSubject (user : Nat) (materialSlug : String) (state : State) :
    Except AddedSubjectError State :=
  if canAddSubjects state user = false then .error notEligible
  else
    match (addableSubjects state user).find? (·.materialSlug = materialSlug) with
    | none => .error notAddable
    | some subject =>
      if (addedSubjects state user).any (·.id = subject.id) then .ok state
      else if (addedSubjects state user).length ≥ addedSubjectLimit then
        .error ⟨"You can add up to " ++ toString addedSubjectLimit ++ " subjects.",
          "added_subject_limit"⟩
      else .ok (state.add user subject.id)

def clip (note : Text) : Text := (Whitespace.strip note).take 500

def requestChange (user : Nat) (removeSlug addSlug : String) (note : Text) (now : Nat)
    (state : State) : Except AddedSubjectError State :=
  if canAddSubjects state user = false then .error notEligible
  else if (pendingRequest state user).isSome then
    .error ⟨"You already have a pending request.", "subject_change_pending"⟩
  else
    match (addedSubjects state user).find? (·.materialSlug = removeSlug) with
    | none => .error ⟨"Choose a subject you added.", "subject_not_added"⟩
    | some remove =>
      match (addableSubjects state user).find? (·.materialSlug = addSlug) with
      | none => .error notAddable
      | some add =>
        if (addedSubjects state user).any (·.id = add.id) then .error notAddable
        else
          .ok { state with
            requests := state.requests ++ [
              { id := state.requests.length, user := user, removeSubject := remove.id
                addSubject := add.id, note := clip note, status := .pending, adminNote := []
                decidedBy := none, decidedAt := none, createdAt := now }] }

def applySwap (item : AddedSubjectChangeRequest) (state : State) : State :=
  (state.remove item.user item.removeSubject).add item.user item.addSubject

def decided (item : AddedSubjectChangeRequest) (approve : Bool) (actor : Nat) (adminNote : Text)
    (now : Nat) : AddedSubjectChangeRequest :=
  { item with
    status := if approve then .approved else .declined
    adminNote := clip adminNote
    decidedBy := some actor
    decidedAt := some now }

def decideChange (request : Nat) (approve : Bool) (actor : Nat) (adminNote : Text) (now : Nat)
    (state : State) : Except AddedSubjectError State :=
  match Table.find AddedSubjectChangeRequest.id state.requests request with
  | none => .error ⟨"Request not found.", "not_found"⟩
  | some item =>
    if item.status ≠ .pending then .error ⟨"This request was already decided.", "already_decided"⟩
    -- The student may have changed year since asking.
    else if approve ∧ ¬(addableSubjects state item.user).any (·.id = item.addSubject) then
      .error ⟨"The student can no longer add this subject.", "subject_not_addable"⟩
    else
      let swapped := if approve then applySwap item state else state
      .ok { swapped with
        requests := Table.put AddedSubjectChangeRequest.id swapped.requests
          (decided item approve actor adminNote now) }

inductive Action where
  | addSubject (user : Nat) (materialSlug : String)
  | requestChange (user : Nat) (removeSlug addSlug : String) (note : Text)
  | decideChange (request : Nat) (approve : Bool) (actor : Nat) (adminNote : Text)
  | changeCohort (user : Nat) (cohort : Option Nat)
  | setCohortActive (cohort : Nat) (active : Bool)
  | setSubjectActive (subject : Nat) (active : Bool)

structure Call where
  action : Action
  now : Nat

def execute (call : Call) (state : State) : Except AddedSubjectError State :=
  match call.action with
  | .addSubject user materialSlug => addSubject user materialSlug state
  | .requestChange user removeSlug addSlug note =>
    requestChange user removeSlug addSlug note call.now state
  | .decideChange request approve actor adminNote =>
    decideChange request approve actor adminNote call.now state
  | .changeCohort user cohort =>
    .ok { state with cohortOf := fun other => if other = user then cohort else state.cohortOf other }
  | .setCohortActive cohort active =>
    .ok { state with directory := state.directory.setCohortActive cohort active }
  | .setSubjectActive subject active =>
    .ok { state with directory := state.directory.setSubjectActive subject active }

/-- The system from a catalog and an enrolment in which nothing was added yet. -/
def machine (directory : Directory) (cohortOf : Nat → Option Nat) :
    Machine State Call AddedSubjectError where
  init := { directory := directory, cohortOf := cohortOf, additions := [], requests := [] }
  exec := execute
  time := Call.now

end LockIn.Content.AddedSubjects
