import LockIn.Education.TreeShape
import LockIn.Library.Whitespace
import Mathlib

/-!
# Catalog branches

Students see a subject through a catalog branch of their cohort.  `project_all` makes the branches from
the education tree: every subject below a content root of an active cohort gets one, and a branch that
is there is only ever renamed or moved.

A branch is named by its material slug, which no two branches share and which never changes.
-/

namespace LockIn.Content.Branches

open Education (Node Uuid Text Kind Shape insideOf)

structure AcademicProgram where
  code : Text
  position : Nat

structure Cohort where
  id : Uuid
  program : AcademicProgram
  code : Text
  position : Nat
  isActive : Bool
  contentNodes : List Uuid

/-- The education tree and the cohorts that study by it, with the orders that the queries ask for. -/
structure School where
  nodes : List Node
  shape : Shape nodes
  cohorts : List Cohort
  nodeOrder : Node → Node → Bool
  cohortOrder : Cohort → Cohort → Bool

structure CatalogSubject where
  cohort : Uuid
  sourceNode : Option Uuid
  title : Text
  slug : Text
  materialSlug : Text
  position : Nat
  isActive : Bool
deriving DecidableEq

structure Constraints (rows : List CatalogSubject) : Prop where
  material : Table.Distinct CatalogSubject.materialSlug rows
  source : ∀ row ∈ rows, ∀ other ∈ rows, row.sourceNode = other.sourceNode →
    row.sourceNode ≠ none → row = other
  slug : ∀ row ∈ rows, ∀ other ∈ rows, row.cohort = other.cohort → row.slug = other.slug →
    row = other

instance (rows : List CatalogSubject) : Decidable (Constraints rows) :=
  decidable_of_iff
    (Table.Distinct CatalogSubject.materialSlug rows ∧
      (∀ row ∈ rows, ∀ other ∈ rows, row.sourceNode = other.sourceNode →
        row.sourceNode ≠ none → row = other) ∧
      ∀ row ∈ rows, ∀ other ∈ rows, row.cohort = other.cohort → row.slug = other.slug →
        row = other)
    ⟨fun ⟨hmaterial, hsource, hslug⟩ => ⟨hmaterial, hsource, hslug⟩,
      fun ⟨hmaterial, hsource, hslug⟩ => ⟨hmaterial, hsource, hslug⟩⟩

/-- A table that the database can hold. -/
abbrev Catalog := { rows : List CatalogSubject // Constraints rows }

structure ProjectionResult where
  created : List Text := []
  updated : List Text := []
  unowned : List Text := []
  conflicted : List Text := []

def ProjectionResult.merge (result other : ProjectionResult) : ProjectionResult where
  created := result.created ++ other.created
  updated := result.updated ++ other.updated
  unowned := result.unowned ++ other.unowned
  conflicted := result.conflicted ++ other.conflicted

inductive Failure
  | integrityError
  | transactionManagementError

/-- What a transaction sees.  After an error it can only be rolled back. -/
structure Connection where
  rows : List CatalogSubject
  needsRollback : Bool := false

/-- `CatalogSubject.objects.filter(...).first()` -/
def Connection.first (connection : Connection) (matching : CatalogSubject → Bool) :
    Except Failure (Option CatalogSubject) :=
  if connection.needsRollback then .error .transactionManagementError
  else .ok (connection.rows.find? matching)

def Connection.store (connection : Connection) (rows : List CatalogSubject) :
    Except Connection Connection :=
  if Constraints rows then .ok { connection with rows := rows }
  else .error { connection with needsRollback := true }

/-- `subject.save(update_fields=...)` -/
def Connection.update (connection : Connection) (subject : CatalogSubject) :
    Except Failure Connection :=
  (connection.store (Table.put CatalogSubject.materialSlug connection.rows subject)).mapError
    fun _ => .integrityError

def atomic {α : Type} (call : Connection → Except Failure (α × Connection))
    (rows : List CatalogSubject) : Except Failure (α × List CatalogSubject) := do
  let (value, connection) ← call { rows := rows }
  .ok (value, if connection.needsRollback then rows else connection.rows)

def titleOverrides : List (Text × Text) :=
  [("general-pathology".toList, "General Pathology".toList),
    ("oral-histology".toList, "Oral Histology".toList),
    ("fixed-prosthodontic".toList, "Fixed Prosthodontic".toList),
    ("removable-prosthodontic".toList, "Removable Prosthodontic".toList)]

def titleOf (node : Node) : Text := (Dictionary.get titleOverrides node.slug).getD node.title

def materialSlugLimit : Nat := 240

def materialSlugFor (cohort : Cohort) (nodeSlug : Text) : Text :=
  (cohort.program.code ++ '-' :: cohort.code ++ '-' :: nodeSlug).take materialSlugLimit

def ancestorIds (node : Node) : List Text :=
  let parts := (node.path.splitOn '/').filter (· ≠ [])
  if node.id.text ∈ parts then parts else parts ++ [node.id.text]

def owningCohort (school : School) (node : Node) : Option Cohort :=
  let owning := school.cohorts.filter fun cohort =>
    cohort.isActive && cohort.contentNodes.any fun id => id.text ∈ ancestorIds node
  (owning.insertionSort fun first second => school.cohortOrder first second).head?

def refresh (subject : CatalogSubject) (node : Node) (result : ProjectionResult)
    (connection : Connection) :
    Except Failure ((CatalogSubject × ProjectionResult) × Connection) := do
  let refreshed := { subject with title := titleOf node, position := node.position }
  if subject.title ≠ titleOf node ∨ subject.position ≠ node.position then
    let connection ← connection.update refreshed
    .ok ((refreshed,
      { result with updated := result.updated ++ [subject.materialSlug] }), connection)
  else .ok ((subject, result), connection)

def newBranch (cohort : Cohort) (node : Node) : CatalogSubject where
  cohort := cohort.id
  sourceNode := some node.id
  title := titleOf node
  slug := node.slug
  materialSlug := materialSlugFor cohort node.slug
  position := node.position
  isActive := true

def createBranch (cohort : Cohort) (node : Node) (connection : Connection) :
    Except Failure ((Option CatalogSubject × ProjectionResult) × Connection) :=
  let subject := newBranch cohort node
  match connection.store (connection.rows ++ [subject]) with
  | .ok connection => .ok ((some subject, { created := [subject.materialSlug] }), connection)
  | .error broken => do
    -- what is there now is read in the transaction that the error has broken
    let found ← broken.first fun row => row.sourceNode = some node.id
    .ok ((found, { conflicted := [node.slug] }), broken)

def projectOwned (cohort : Cohort) (node : Node) (connection : Connection) :
    Except Failure ((Option CatalogSubject × ProjectionResult) × Connection) := do
  match ← connection.first fun row => row.sourceNode = some node.id with
  | some existing =>
    if existing.cohort ≠ cohort.id then
      .ok ((some existing, { conflicted := [node.slug] }), connection)
    else
      let ((subject, result), connection) ← refresh existing node {} connection
      .ok ((some subject, result), connection)
  | none =>
    match ← connection.first fun row =>
      row.cohort = cohort.id && row.slug = node.slug && row.sourceNode = none with
    | some unlinked =>
      let adopted := { unlinked with sourceNode := some node.id }
      let connection ← connection.update adopted
      let ((subject, _), connection) ← refresh adopted node {} connection
      .ok ((some subject, { updated := [adopted.materialSlug] }), connection)
    | none => createBranch cohort node connection

def projectSubjectNode (school : School) (node : Node) (cohort : Option Cohort) :
    List CatalogSubject →
      Except Failure ((Option CatalogSubject × ProjectionResult) × List CatalogSubject) :=
  atomic fun connection =>
    if node.kind ≠ .subject then .ok ((none, {}), connection)
    else
      match cohort.or (owningCohort school node) with
      | none => .ok ((none, { unowned := [node.slug] }), connection)
      | some cohort => projectOwned cohort node connection

/-- `cohort.content_nodes.all()` -/
def School.roots (school : School) (cohort : Cohort) : List Node :=
  (school.nodes.filter (·.id ∈ cohort.contentNodes)).insertionSort fun first second =>
    school.nodeOrder first second

def School.subjects (school : School) (root : Node) : List Node :=
  (school.nodes.filter fun node => node.kind = .subject && insideOf root.path node).insertionSort
    fun first second => school.nodeOrder first second

def projectNodes (school : School) (cohort : Cohort) :
    List Node → List Uuid → ProjectionResult → List CatalogSubject →
      Except Failure (ProjectionResult × List CatalogSubject)
  | [], _, result, rows => .ok (result, rows)
  | node :: rest, seen, result, rows =>
    if node.id ∈ seen then projectNodes school cohort rest seen result rows
    else do
      let ((_, nodeResult), rows) ← projectSubjectNode school node (some cohort) rows
      projectNodes school cohort rest (node.id :: seen) (result.merge nodeResult) rows

def projectCohort (school : School) (cohort : Cohort) (rows : List CatalogSubject) :
    Except Failure (ProjectionResult × List CatalogSubject) :=
  projectNodes school cohort ((school.roots cohort).flatMap school.subjects) [] {} rows

def School.activeCohorts (school : School) : List Cohort :=
  (school.cohorts.filter (·.isActive)).insertionSort fun first second =>
    school.cohortOrder first second

def projectCohorts (school : School) :
    List Cohort → ProjectionResult → List CatalogSubject →
      Except Failure (ProjectionResult × List CatalogSubject)
  | [], result, rows => .ok (result, rows)
  | cohort :: rest, result, rows => do
    let (cohortResult, rows) ← projectCohort school cohort rows
    projectCohorts school rest (result.merge cohortResult) rows

def projectAll (school : School) (rows : List CatalogSubject) :
    Except Failure (ProjectionResult × List CatalogSubject) :=
  projectCohorts school school.activeCohorts {} rows

end LockIn.Content.Branches
