import LockIn.Library.Dictionary
import LockIn.Library.Outcome

/-!
# The education tree and its search index

Institutions, their departments and subjects and so on down to lessons form a tree.  Every node
keeps its path and its depth, and whether students can find it.  Content and questions are attached
to nodes through their versions, and the search index has an entry for whatever can be shown, with
the path of the node it is at.
-/

namespace LockIn.Education

abbrev Text : Type := List Char

/-- An identifier as it is written. -/
structure Uuid where
  text : Text
  slashless : '/' ∉ text
deriving DecidableEq

inductive Kind where
  | institution
  | college
  | department
  | academicYear
  | semester
  | subject
  | unit
  | lesson
deriving DecidableEq

inductive NodeStatus where
  | draft
  | published
  | archived
deriving DecidableEq

structure Node where
  id : Uuid
  parent : Option Uuid
  kind : Kind
  title : Text
  slug : Text
  description : Text
  position : Nat
  path : Text
  depth : Nat
  status : NodeStatus
  isDiscoverable : Bool
  revision : Nat
deriving DecidableEq

inductive ResourceKind where
  | node (kind : Kind)
  | learningObject
  | question
deriving DecidableEq

structure Entry where
  resourceKind : ResourceKind
  resourceId : Uuid
  contentType : String
  title : Text
  summary : Text
  language : Text
  academicPath : Text
  isDiscoverable : Bool
  publishedAt : Option Nat

def Entry.key (entry : Entry) : ResourceKind × Uuid := (entry.resourceKind, entry.resourceId)

inductive CatalogueError where
  | education (message : String)
  | educationConflict (message : String)
  | content (message : String)
  | contentConflict (message : String)
  | question (message : String)
  | questionConflict (message : String)
  | doesNotExist
  /-- A constraint of the database. -/
  | database
  | indexError

structure Texts where
  strip : Text → Text
  lower : Text → Text
  slugify : Text → Text
  /-- A text with each run of blanks as one and without cases. -/
  normalizeOption : Text → Text

def findNode (nodes : List Node) (id : Uuid) : Except CatalogueError Node :=
  match Table.find Node.id nodes id with
  | none => .error .doesNotExist
  | some node => .ok node

def findParent (nodes : List Node) : Option Uuid → Except CatalogueError (Option Node)
  | none => .ok none
  | some id => some <$> findNode nodes id

def upsertSearchEntry (entries : List Entry) (entry : Entry) : List Entry :=
  if entry.key ∈ entries.map Entry.key then Table.put Entry.key entries entry else entries ++ [entry]

def removeSearchEntry (entries : List Entry) (key : ResourceKind × Uuid) : List Entry :=
  entries.filter (·.key ≠ key)

def setAcademicPathVisibility (entries : List Entry) (academicPath : Text) (isDiscoverable : Bool) :
    List Entry :=
  entries.map fun entry =>
    if entry.academicPath = academicPath then { entry with isDiscoverable } else entry

def replacePrefix (oldPrefix newPrefix path : Text) : Text :=
  if oldPrefix.isPrefixOf path then newPrefix ++ path.drop oldPrefix.length else path

def replaceAcademicPathPrefix (entries : List Entry) (oldPrefix newPrefix : Text) : List Entry :=
  entries.map fun entry =>
    { entry with academicPath := replacePrefix oldPrefix newPrefix entry.academicPath }

def isIndexed (kind : Kind) : Bool := kind = .subject || kind = .lesson

def educationEntry (node : Node) : Entry where
  resourceKind := .node node.kind
  resourceId := node.id
  contentType := ""
  title := node.title
  summary := node.description
  language := "und".toList
  academicPath := node.path
  isDiscoverable := true
  publishedAt := none

def syncNodeSearch (entries : List Entry) (node : Node) : List Entry :=
  if node.isDiscoverable && isIndexed node.kind then upsertSearchEntry entries (educationEntry node)
  else removeSearchEntry entries (.node node.kind, node.id)

def insideOf (path : Text) (node : Node) : Bool := path.isPrefixOf node.path

def subtreeOf (nodes : List Node) (path : Text) : List Node :=
  (nodes.filter (insideOf path)).insertionSort fun first second => first.depth ≤ second.depth

def relit (flags : List (Uuid × Bool)) (item : Node) : Node :=
  { item with
    isDiscoverable := item.status = .published && match item.parent with
      | none => true
      | some parent => (Dictionary.get flags parent).getD false }

def refreshed : List (Uuid × Bool) → List Node → List Node
  | _, [] => []
  | flags, item :: rest =>
    relit flags item :: refreshed (Dictionary.set flags item.id (relit flags item).isDiscoverable) rest

/-- Rows saved together. -/
def bulkUpdate (nodes items : List Node) : List Node :=
  nodes.map fun node => (Table.find Node.id items node.id).getD node

def refreshSubtreeDiscoverability (nodes : List Node) (entries : List Entry) (node : Node) :
    Except CatalogueError (List Node × List Entry) := do
  let parent ← findParent nodes node.parent
  let items := refreshed (parent.toList.map fun parent => (parent.id, parent.isDiscoverable))
    (subtreeOf nodes node.path)
  .ok (bulkUpdate nodes items, items.foldl (fun entries item =>
    syncNodeSearch (setAcademicPathVisibility entries item.path item.isDiscoverable) item) entries)

/-- What roles and scopes allow, at the time of a call, by the node in question. -/
structure Actor where
  id : Nat
  isContentAdministrator : Bool
  isAssessmentAdministrator : Bool
  canManageHierarchy : Option Node → Bool
  canCreateContent : Node → Bool
  canReviewContent : Node → Bool
  canPublishContent : Node → Bool
  canCreateAssessments : Node → Bool
  canReviewAssessments : Node → Bool
  canPublishAssessments : Node → Bool

structure Tree where
  nodes : List Node
  entries : List Entry

def nodePath (id : Uuid) (parent : Option Node) : Text :=
  (match parent with
    | none => ['/']
    | some parent => parent.path) ++ id.text ++ ['/']

def depthUnder : Option Node → Nat
  | none => 0
  | some parent => parent.depth + 1

def slugTaken (nodes : List Node) (node : Node) : Bool :=
  nodes.any fun other => other.id ≠ node.id && other.parent = node.parent && other.slug = node.slug

section
variable (texts : Texts)

def normalizedSlug (title : Text) (slug : Option Text) : Except CatalogueError Text :=
  let value := texts.slugify (texts.strip (match slug with
    | none | some [] => title
    | some slug => slug))
  if value = [] then .error (.education "A usable slug is required.") else .ok (value.take 180)

def cleaned (node : Node) : Node :=
  { node with
    title := texts.strip node.title
    slug := texts.lower (texts.strip node.slug)
    description := texts.strip node.description }

/-- The fields, the model's own rules and its constraints. -/
def fullClean (nodes : List Node) (node : Node) : Bool :=
  node.title ≠ [] && node.title.length ≤ 180 && node.slug ≠ [] && node.slug.length ≤ 180 &&
    node.position ≤ 2147483647 && node.path.length ≤ 2048 && node.parent ≠ some node.id &&
    (node.parent.isNone == (node.kind = .institution)) && !slugTaken nodes (cleaned texts node)

def createNode (actor : Actor) (tree : Tree) (id : Uuid) (kind : Kind) (title : Text)
    (parent : Option Uuid) (slug : Option Text) (description : Text) (position : Nat) :
    Except CatalogueError Tree := do
  let parent ← findParent tree.nodes parent
  if !actor.canManageHierarchy parent && !(parent.isNone && actor.isContentAdministrator) then
    .error (.education "You cannot manage this hierarchy location.")
  else do
    let slug ← normalizedSlug texts title slug
    let node : Node :=
      { id, parent := parent.map Node.id, kind, title, slug, description, position
        path := nodePath id parent
        depth := depthUnder parent
        status := .draft
        isDiscoverable := false
        revision := 1 }
    if !fullClean texts tree.nodes node || tree.nodes.any (·.id = id) then
      .error (.education "That hierarchy node conflicts with the current structure.")
    else .ok { tree with nodes := tree.nodes ++ [cleaned texts node] }

def ensureNodeRevision (node : Node) (expectedRevision : Nat) : Except CatalogueError Unit :=
  if node.revision ≠ expectedRevision then
    .error (.educationConflict "This hierarchy node changed. Reload it and try again.")
  else .ok ()

structure NodeChanges where
  title : Option Text
  slug : Option Text
  description : Option Text
  position : Option Nat

def renamedSlug (node : Node) (title : Text) : Option Text → Except CatalogueError Text
  | none => .ok node.slug
  | some slug => normalizedSlug texts title (some slug)

def updateNode (actor : Actor) (tree : Tree) (id : Uuid) (expectedRevision : Nat) (changes : NodeChanges) :
    Except CatalogueError Tree := do
  let node ← findNode tree.nodes id
  if !actor.canManageHierarchy (some node) then
    .error (.education "You cannot manage this hierarchy node.")
  else do
    ensureNodeRevision node expectedRevision
    let title := changes.title.getD node.title
    let slug ← renamedSlug texts node title changes.slug
    let changed : Node :=
      { node with
        title, slug
        description := changes.description.getD node.description
        position := changes.position.getD node.position
        revision := node.revision + 1 }
    if !fullClean texts tree.nodes changed then
      .error (.education "That hierarchy update conflicts with the current structure.")
    else
      .ok {
        nodes := Table.put Node.id tree.nodes (cleaned texts changed)
        entries := syncNodeSearch tree.entries (cleaned texts changed) }

end

def moved (node : Node) (newParent : Option Node) (position : Nat) (item : Node) : Node :=
  let shifted : Node :=
    { item with
      path := replacePrefix node.path (nodePath node.id newParent) item.path
      depth := item.depth + depthUnder newParent - node.depth }
  if item.id = node.id then
    { shifted with parent := newParent.map Node.id, position, revision := item.revision + 1 }
  else shifted

def moveNode (actor : Actor) (tree : Tree) (id : Uuid) (newParentId : Option Uuid)
    (expectedRevision position : Nat) : Except CatalogueError Tree := do
  let node ← findNode tree.nodes id
  let newParent ← findParent tree.nodes newParentId
  if !actor.canManageHierarchy (some node) || !actor.canManageHierarchy newParent then
    .error (.education "You cannot move this hierarchy node.")
  else do
    ensureNodeRevision node expectedRevision
    if newParent.any (insideOf node.path) then
      .error (.education "A node cannot be moved into itself or one of its descendants.")
    else if node.kind = .institution && newParent.isSome then
      .error (.education "An institution must remain a root node.")
    else if node.kind ≠ .institution && newParent.isNone then
      .error (.education "Only an institution can be a root node.")
    else
      let nodes := bulkUpdate tree.nodes
        ((subtreeOf tree.nodes node.path).map (moved node newParent position))
      if nodes.any (2048 < ·.path.length) || 2147483647 < position ||
          slugTaken nodes (moved node newParent position node) then .error .database
      else do
        let entries := replaceAcademicPathPrefix tree.entries node.path (nodePath node.id newParent)
        let node ← findNode nodes id
        let (nodes, entries) ← refreshSubtreeDiscoverability nodes entries node
        .ok { nodes, entries }

def setNodeStatus (actor : Actor) (tree : Tree) (id : Uuid) (expectedRevision : Nat) (status : NodeStatus) :
    Except CatalogueError Tree := do
  let node ← findNode tree.nodes id
  let parent ← findParent tree.nodes node.parent
  if !actor.canManageHierarchy (some node) then
    .error (.education "You cannot manage this hierarchy node.")
  else do
    ensureNodeRevision node expectedRevision
    if status ≠ .published && status ≠ .archived then
      .error (.education "Unsupported hierarchy state transition.")
    else if status = .published && parent.any fun parent => !parent.isDiscoverable then
      .error (.education "Publish the parent path before publishing this node.")
    else do
      let changed := { node with status, revision := node.revision + 1 }
      let (nodes, entries) ← refreshSubtreeDiscoverability (Table.put Node.id tree.nodes changed)
        tree.entries changed
      .ok { nodes, entries }

end LockIn.Education
