import LockIn.Library.Machine
import LockIn.Library.Table
import LockIn.Library.Whitespace
import Mathlib

/-!
# Knowledge artifacts

Students keep summaries and maps beside the sheets they read.  `save_artifact` creates, updates
and deletes them.  A client numbers its saves, a save names the revision it starts from, and the
receipt of a save answers when it is delivered again.  A deleted artifact stays as a tombstone,
and the receipts of its saves go with its content.
-/

namespace LockIn.Knowledge

abbrev Text : Type := List Char

inductive Kind where
  | summary
  | map
deriving DecidableEq

structure Node where
  conceptId : Option Text
  drawing : Text
deriving DecidableEq

/-- The content of an artifact, `{}` where nothing is in it. -/
structure Content where
  conceptIds : List Text
  nodes : List Node
  rest : Text
deriving DecidableEq

def Content.empty : Content := ⟨[], [], []⟩

structure ToolSettings where
  summaryEnabled : Bool
  mapEnabled : Bool

structure Version where
  sheet : Nat
  title : Text
  number : Nat

structure Document where
  sheet : Nat
  edition : Text

/-- What a student sends. -/
structure Data where
  accountId : Nat
  mutationId : Nat
  expectedRevision : Nat
  sourceVersionId : Nat
  sourceFileId : Nat
  kind : Kind
  title : Text
  pageStart : Nat
  pageEnd : Nat
  content : Content
  deleted : Bool

/-- What stays as it is: the settings, the published versions, and the sheet and edition of a
document, which publishing does not change. -/
structure Site where
  enabled : Bool
  toolSettings : Nat → Option ToolSettings
  version : Nat → Version
  document : Nat → Document
  /-- The SHA-256 digest of a save, from its artifact, its document and its data. -/
  digest : Nat → Nat → Data → Nat

structure ConceptSource where
  document : Nat
  sourceVersion : Nat
  sourceFile : Nat
  concept : Text
  conceptSheet : Nat
  conceptPublished : Bool

/-- A document as a call finds it: the version and the file published last, which are of its own
sheet, with the pages of the files and the sources of the concepts. -/
structure Publication (site : Site) where
  document : Nat
  version : Nat
  file : Nat
  pageCount : Nat → Option Nat
  sources : List ConceptSource
  onSheet : (site.version version).sheet = (site.document document).sheet

structure Artifact where
  id : Nat
  owner : Nat
  document : Nat
  sourceVersion : Nat
  sourceFile : Nat
  kind : Kind
  title : Text
  pageStart : Nat
  pageEnd : Nat
  content : Content
  linkedConceptIds : List Text
  revision : Nat
  deleted : Bool
  updatedAt : Nat
deriving DecidableEq

/-- The payload of an artifact.  A receipt keeps it without the content. -/
structure Response where
  id : Nat
  kind : Kind
  title : Text
  documentId : Nat
  sourceVersionId : Nat
  sourceFileId : Nat
  sourceTitle : Text
  sourceVersionNumber : Nat
  sourceEdition : Text
  pageStart : Nat
  pageEnd : Nat
  content : Option Content
  linkedConceptIds : List Text
  revision : Nat
  deleted : Bool
  updatedAt : Nat
  stale : Bool

structure Receipt where
  owner : Nat
  mutationId : Nat
  digest : Nat
  response : Response

structure Notebook where
  artifacts : List Artifact
  receipts : List Receipt

inductive KnowledgeError where
  | permissionDenied (message : String)
  | conflict (message : String)
  | validation (message : String)
  | notFound
  | integrity

def conflictDetail : String := "A newer copy exists. Your local work has been kept."

section
variable {site : Site}

def toolFlags (publication : Publication site) (kind : Kind) : Bool :=
  match site.toolSettings (site.version publication.version).sheet with
  | none => true
  | some config =>
    match kind with
    | .summary => config.summaryEnabled
    | .map => config.mapEnabled

def conceptsFor (publication : Publication site) : List Text :=
  (publication.sources.filter fun source =>
    source.document = publication.document && source.sourceVersion = publication.version &&
      source.sourceFile = publication.file && source.conceptPublished &&
      source.conceptSheet = (site.version publication.version).sheet).map (·.concept)

def artifactPayload (item : Artifact) (publication : Publication site) : Response where
  id := item.id
  kind := item.kind
  title := item.title
  documentId := item.document
  sourceVersionId := item.sourceVersion
  sourceFileId := item.sourceFile
  sourceTitle := (site.version item.sourceVersion).title
  sourceVersionNumber := (site.version item.sourceVersion).number
  sourceEdition := (site.document item.document).edition
  pageStart := item.pageStart
  pageEnd := item.pageEnd
  content := some item.content
  linkedConceptIds := item.linkedConceptIds
  revision := item.revision
  deleted := item.deleted
  updatedAt := item.updatedAt
  stale := item.document ≠ publication.document || item.sourceVersion ≠ publication.version ||
    item.sourceFile ≠ publication.file

def findArtifact (notebook : Notebook) (id : Nat) : Option Artifact :=
  Table.find Artifact.id notebook.artifacts id

def findReceipt (notebook : Notebook) (user mutationId : Nat) : Option Receipt :=
  notebook.receipts.find? fun row => row.owner = user && row.mutationId = mutationId

def sheetOf (item : Artifact) (site : Site) : Nat := (site.version item.sourceVersion).sheet

def ownArtifacts (notebook : Notebook) (user : Nat) (publication : Publication site) : List Artifact :=
  notebook.artifacts.filter fun item =>
    item.owner = user && sheetOf item site = (site.version publication.version).sheet

def linkedConcepts (content : Content) : List Text :=
  content.conceptIds ++ content.nodes.filterMap (·.conceptId)

/-- The artifact is at the revision expected, of the same kind and source, and not deleted unless
it is to be deleted again. -/
def checkArtifact (item : Artifact) (data : Data) : Except KnowledgeError Artifact :=
  if item.revision ≠ data.expectedRevision ∨ item.kind ≠ data.kind then
    .error (.conflict conflictDetail)
  else if item.deleted && !data.deleted then
    .error (.conflict "This document was deleted. Export or save a new copy.")
  else if item.sourceVersion ≠ data.sourceVersionId ∨ item.sourceFile ≠ data.sourceFileId then
    .error (.conflict "The source of this work cannot be changed.")
  else .ok item

def newArtifact (notebook : Notebook) (user : Nat) (publication : Publication site) (id : Nat)
    (data : Data) (now : Nat) : Except KnowledgeError Artifact :=
  if data.expectedRevision ≠ 0 then .error (.conflict conflictDetail)
  else if data.sourceVersionId ≠ publication.version ∨ data.sourceFileId ≠ publication.file then
    .error (.conflict "The PDF changed. Your draft still refers to its earlier version.")
  else if 100 ≤ (ownArtifacts notebook user publication).length then
    .error (.validation "This notebook has reached its 100 document limit.")
  else if 500 ≤ (notebook.artifacts.filter (·.owner = user)).length then
    .error (.validation "The account document limit has been reached.")
  else
    .ok ⟨id, user, publication.document, publication.version, publication.file, data.kind, [], 0, 0,
      .empty, [], 0, false, now⟩

def startFrom (notebook : Notebook) (user : Nat) (publication : Publication site) (id : Nat)
    (data : Data) (now : Nat) : Except KnowledgeError Artifact :=
  match findArtifact notebook id with
  | some item =>
    if item.owner ≠ user ∨ sheetOf item site ≠ (site.version publication.version).sheet then
      .error .notFound
    else checkArtifact item data
  | none => newArtifact notebook user publication id data now

def checkContent (publication : Publication site) (item : Artifact) (data : Data) :
    Except KnowledgeError Unit :=
  if (publication.pageCount item.sourceFile).any fun count => count ≠ 0 && count < data.pageEnd then
    .error (.validation "The page range exceeds this source version.")
  else if (linkedConcepts data.content).any fun concept =>
      concept ∉ conceptsFor publication && concept ∉ linkedConcepts item.content then
    .error (.validation "Concept links must belong to this sheet.")
  else if data.pageStart < 1 ∨ data.pageEnd < data.pageStart then .error .integrity
  else .ok ()

def revised (item : Artifact) (data : Data) (now : Nat) : Artifact :=
  { item with
    title := if data.deleted then [] else data.title
    pageStart := data.pageStart
    pageEnd := data.pageEnd
    content := if data.deleted then .empty else data.content
    linkedConceptIds :=
      if data.deleted then []
      else (linkedConcepts data.content).dedup.insertionSort fun first second => first ≤ second
    deleted := data.deleted
    revision := item.revision + 1
    updatedAt := now }

def putArtifact (notebook : Notebook) (item : Artifact) : List Artifact :=
  match findArtifact notebook item.id with
  | some _ => Table.put Artifact.id notebook.artifacts item
  | none => notebook.artifacts ++ [item]

def keptReceipts (notebook : Notebook) (user : Nat) (item : Artifact) : List Receipt :=
  if item.deleted then notebook.receipts.filter fun row => !(row.owner = user && row.response.id = item.id)
  else notebook.receipts

/-- The answer to a save that is delivered again. -/
def replayed (receipt : Receipt) (data : Data) : Response :=
  { receipt.response with
    content := some (if receipt.response.deleted then .empty else data.content) }

def saveArtifact (notebook : Notebook) (user : Nat) (publication : Publication site) (id : Nat)
    (data : Data) (now : Nat) : Except KnowledgeError (Notebook × Response) :=
  if !site.enabled then .error (.permissionDenied "Study tools are not enabled.")
  else if data.accountId ≠ user then
    .error (.permissionDenied "This save belongs to another signed-in account.")
  else if !toolFlags publication data.kind then
    .error (.permissionDenied "This tool is disabled for this sheet.")
  else
    let digest := site.digest id publication.document data
    match findReceipt notebook user data.mutationId with
    | some receipt =>
      if receipt.digest ≠ digest then
        .error (.conflict "This save identifier was already used for different content.")
      else .ok (notebook, replayed receipt data)
    | none => do
      let item ← startFrom notebook user publication id data now
      checkContent publication item data
      let saved := revised item data now
      let response := artifactPayload saved publication
      .ok (⟨putArtifact notebook saved,
        keptReceipts notebook user saved ++
          [⟨user, data.mutationId, digest, { response with content := none }⟩]⟩, response)

end

/-- A save, as its receipt knows it. -/
structure Mutation where
  user : Nat
  document : Nat
  artifact : Nat
  data : Data

structure Call (site : Site) where
  user : Nat
  publication : Publication site
  artifact : Nat
  data : Data
  now : Nat

def Call.mutation {site : Site} (call : Call site) : Mutation :=
  ⟨call.user, call.publication.document, call.artifact, call.data⟩

def Call.exec {site : Site} (call : Call site) (notebook : Notebook) :
    Except KnowledgeError (Notebook × Response) :=
  saveArtifact notebook call.user call.publication call.artifact call.data call.now

end LockIn.Knowledge
