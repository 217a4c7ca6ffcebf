import LockIn.Library.Machine
import LockIn.Workspace.ThreeWayMerge

/-!
# The annotations of a sheet on several devices

The server holds the annotations of a sheet in a collection with a revision.  Every device
edits its own copy and mirrors it: it loads the collection, reconciles it with its copy by a
three-way merge, and pushes what differs from what it takes the server to hold.  A batch is
applied only at the revision it expects, and a receipt answers it when it is sent again.

A device is a single thread, so that its calls run up to the next request they await.
Requests are handled, repeated or lost at any time.
-/

namespace LockIn.Workspace

/-- What the sync uses of annotations (`α`) and of mutations, their form on the wire (`ω`).
`toFocus` answers for the annotations that the server can hold. -/
structure Adapter (ι α ω φ : Type) where
  id : α → ι
  print : α → φ
  toFocus : α → Option ω
  toCatalog : ω → Option α
  mutationId : ω → ι
  pageNumber : ω → Nat
  valid : ω → Bool
  mutationId_toFocus : ∀ item wire, toFocus item = some wire → mutationId wire = id item
  pageNumber_toFocus : ∀ item wire, toFocus item = some wire → 1 ≤ pageNumber wire
  reads_back : ∀ item wire, toFocus item = some wire →
    ∃ back, toCatalog wire = some back ∧ id back = id item ∧ (toFocus back).isSome

variable {δ ι α ω φ : Type}

namespace Adapter

def isServerSyncable (adapter : Adapter ι α ω φ) (item : α) : Bool :=
  (adapter.toFocus item).isSome

def ids (adapter : Adapter ι α ω φ) (items : List α) : List ι :=
  items.map adapter.id

def syncableIds (adapter : Adapter ι α ω φ) (items : List α) : List ι :=
  adapter.ids (items.filter adapter.isServerSyncable)

def mutationIds (adapter : Adapter ι α ω φ) (wires : List ω) : List ι :=
  wires.map adapter.mutationId

end Adapter

def maxSyncMutations : Nat := 100

/-- One request to `sync_annotations`, less its key: what its digest is taken of. -/
structure Batch (ι ω : Type) where
  expected : Nat
  annotations : List ω
  deletedIds : List ι
deriving DecidableEq

structure Request (ι ω : Type) where
  key : Nat
  batch : Batch ι ω
deriving DecidableEq

structure SyncResult (ι : Type) where
  revision : Nat
  deletedIds : List ι
  replayed : Bool

structure Receipt (ι ω : Type) where
  request : Request ι ω
  result : SyncResult ι

/-- A stored annotation.  A deleted one keeps its row. -/
structure Row (ω : Type) where
  mutation : ω
  deleted : Bool

structure Collection (ι ω : Type) where
  revision : Nat
  rows : List (Row ω)
  receipts : List (Receipt ι ω)

inductive SyncRefusal where
  | invalid
  | conflict

def liveRows (rows : List (Row ω)) : List ω :=
  (rows.filter (!·.deleted)).map (·.mutation)

def Collection.live (collection : Collection ι ω) : List ω := liveRows collection.rows

section
variable [DecidableEq ι] (adapter : Adapter ι α ω φ)

def saveMutation (rows : List (Row ω)) (wire : ω) : List (Row ω) :=
  if rows.any fun row => adapter.mutationId row.mutation = adapter.mutationId wire then
    Table.put (fun row => adapter.mutationId row.mutation) rows ⟨wire, false⟩
  else rows ++ [⟨wire, false⟩]

def markDeleted (rows : List (Row ω)) (deletedIds : List ι) : List (Row ω) :=
  rows.map fun row =>
    if adapter.mutationId row.mutation ∈ deletedIds then { row with deleted := true } else row

def deletedBy (rows : List (Row ω)) (deletedIds : List ι) : List ι :=
  (adapter.mutationIds (liveRows rows)).filter (· ∈ deletedIds)

def applyBatch (collection : Collection ι ω) (request : Request ι ω) :
    Collection ι ω × SyncResult ι :=
  let saved := request.batch.annotations.foldl (saveMutation adapter) collection.rows
  let deleted := deletedBy adapter saved request.batch.deletedIds
  let revision :=
    if request.batch.annotations ≠ [] ∨ deleted ≠ [] then collection.revision + 1
    else collection.revision
  let result := { revision := revision, deletedIds := deleted, replayed := false }
  ({ revision := revision
     rows := markDeleted adapter saved request.batch.deletedIds
     receipts := collection.receipts ++ [⟨request, result⟩] }, result)

def wellFormed (batch : Batch ι ω) : Bool :=
  batch.annotations.length + batch.deletedIds.length ≤ maxSyncMutations ∧
    (adapter.mutationIds batch.annotations).Nodup ∧ batch.deletedIds.Nodup ∧
    ∀ id ∈ adapter.mutationIds batch.annotations, id ∉ batch.deletedIds

def syncAnnotations [DecidableEq ω] (pageCount : Nat) (collection : Collection ι ω)
    (request : Request ι ω) : Except SyncRefusal (Collection ι ω × SyncResult ι) :=
  if wellFormed adapter request.batch = false then .error .invalid
  else
    match collection.receipts.find? (·.request.key = request.key) with
    | some receipt =>
      if receipt.request.batch = request.batch then
        .ok (collection, { receipt.result with replayed := true })
      else .error .invalid
    | none =>
      if collection.revision ≠ request.batch.expected then .error .conflict
      else if request.batch.annotations.any fun wire =>
          pageCount < adapter.pageNumber wire || !adapter.valid wire then .error .invalid
      else .ok (applyBatch adapter collection request)

end

structure AnnotationPage (ω : Type) where
  revision : Nat
  results : List ω
  next : Bool

def pagesPerRead : Nat := 10

def pageSize : Nat := 250

/-- The annotations on the ten pages from `first`, in the order they are read. -/
def annotationsForPages (adapter : Adapter ι α ω φ) (pageCount first : Nat) (wires : List ω) :
    List ω :=
  (wires.filter fun wire => first ≤ adapter.pageNumber wire ∧
    adapter.pageNumber wire < first + pagesPerRead ∧ adapter.pageNumber wire ≤ pageCount)
  |>.insertionSort fun one other => adapter.pageNumber one ≤ adapter.pageNumber other

def getAnnotations (adapter : Adapter ι α ω φ) (pageCount : Nat) (collection : Collection ι ω)
    (first page : Nat) : Option (AnnotationPage ω) :=
  let found := annotationsForPages adapter pageCount first collection.live
  if 1 < page ∧ found.length ≤ (page - 1) * pageSize then none
  else some
    { revision := collection.revision
      results := (found.drop ((page - 1) * pageSize)).take pageSize
      next := page * pageSize < found.length }

/-- A snapshot given to `push`, with the number of merges its device had adopted by then. -/
structure Snapshot (α : Type) where
  annotations : List α
  taken : Nat
deriving DecidableEq

/-- What a push has to send. -/
inductive Mutation (ι ω φ : Type) where
  | write (id : ι) (print : φ) (wire : ω)
  | delete (id : ι)

namespace Mutation

def id : Mutation ι ω φ → ι
  | write id _ _ => id
  | delete id => id

def wire? : Mutation ι ω φ → Option ω
  | write _ _ wire => some wire
  | delete _ => none

def deletedId? : Mutation ι ω φ → Option ι
  | write _ _ _ => none
  | delete id => some id

end Mutation

/-- What a push awaits: the batch that is out, with the mutations in it and those after it, or
the reader state. -/
inductive PushStage (ι ω φ : Type) where
  | sending (request : Request ι ω) (batch rest : List (Mutation ι ω φ))
  | readerState

structure Drain (ι α ω φ : Type) where
  snapshot : Snapshot α
  stage : PushStage ι ω φ

/-- What a load or a refresh awaits, and the answer once the server has given it.  A probe is
answered with the revision and whether the reader state moved. -/
inductive ReadStage (ω : Type) where
  | probe (answer : Option (Nat × Bool))
  | pages (first page revision : Nat) (annotations : List ω) (answer : Option (AnnotationPage ω))

structure Reading (α ω : Type) where
  content? : Option (List α)
  stage : ReadStage ω

/-- The content of one device, its stored baseline and the variables of its sync.  The last
three fields record what its caller has seen: how many merges it adopted, what the last push
that succeeded mirrored and at which revision the last refresh ended. -/
structure Device (ι α ω φ : Type) where
  content : List α
  baseline : List (ι × φ)
  isLoaded : Bool
  disabled : Bool
  collectionRevision : Nat
  syncedAnnotations : List (ι × φ)
  remote : Option (List α)
  annotationSyncKey : Option (Request ι ω)
  latest : Option (Snapshot α)
  pending : Bool
  drain : Option (Drain ι α ω φ)
  reading : Option (Reading α ω)
  adopted : Nat
  mirrored : Option (Snapshot α)
  refreshed : Option Nat

/-- `createCatalogServerSync` over what the device has stored. -/
def createCatalogServerSync (content : List α) (baseline : List (ι × φ)) (adopted : Nat) :
    Device ι α ω φ :=
  { content := content
    baseline := baseline
    isLoaded := false
    disabled := false
    collectionRevision := 0
    syncedAnnotations := []
    remote := none
    annotationSyncKey := none
    latest := none
    pending := false
    drain := none
    reading := none
    adopted := adopted
    mirrored := none
    refreshed := none }

section
variable [DecidableEq ι] [DecidableEq φ] (adapter : Adapter ι α ω φ)

def mergeById (content remote : List α) (base : List (ι × φ)) : List α :=
  (ThreeWay.mergeById adapter.id adapter.print content remote (Dictionary.get base)).items

/-- Annotations that the server cannot hold stay as they are. -/
def reconcile (device : Device ι α ω φ) (content : List α) : List α :=
  match device.remote with
  | none => content
  | some remote =>
    mergeById adapter (content.filter adapter.isServerSyncable) remote device.baseline ++
      content.filter (!adapter.isServerSyncable ·)

/-- The caller takes the result of `reconcile` as its content. -/
def adopt (device : Device ι α ω φ) (content : List α) : Device ι α ω φ :=
  { device with
    content := reconcile adapter device content
    remote := none
    adopted := device.adopted + 1 }

/-- The end of `load`. -/
def finishLoad (device : Device ι α ω φ) (revision : Nat) (wires : List ω) : Device ι α ω φ :=
  let annotations := wires.filterMap adapter.toCatalog
  { device with
    isLoaded := true
    collectionRevision := revision
    syncedAnnotations :=
      Dictionary.ofList (annotations.map fun item => (adapter.id item, adapter.print item))
    remote := some annotations
    reading := none }

def finishReading (device : Device ι α ω φ) (content? : Option (List α)) (revision : Nat)
    (wires : List ω) : Device ι α ω φ :=
  let loaded := finishLoad adapter device revision wires
  match content? with
  | none => loaded
  | some content => { adopt adapter loaded content with refreshed := some revision }

/-- The answer to the request that a load or refresh awaits. -/
def receive (pageCount : Nat) (device : Device ι α ω φ) (reading : Reading α ω) :
    Except String (Device ι α ω φ) :=
  match reading.stage with
  | .probe (some (revision, moved)) =>
    if revision = device.collectionRevision ∧ moved = false then
      .ok { device with reading := none, refreshed := some revision }
    else .ok { device with reading := some { reading with stage := .pages 1 1 0 [] none } }
  | .pages first page revision annotations (some answer) =>
    let revision := max revision answer.revision
    let annotations := annotations ++ answer.results
    if answer.next then
      .ok { device with
        reading := some { reading with stage := .pages first (page + 1) revision annotations none } }
    else if first + pagesPerRead ≤ pageCount then
      .ok { device with
        reading := some
          { reading with stage := .pages (first + pagesPerRead) 1 revision annotations none } }
    else .ok (finishReading adapter device reading.content? revision annotations)
  | _ => .error "Nothing was answered."

omit [DecidableEq φ] in
/-- The annotations of a snapshot that the server can hold, with their form on the wire. -/
def current (annotations : List α) : List (ι × α × ω) :=
  Dictionary.ofList (annotations.filterMap fun item =>
    (adapter.toFocus item).map fun wire => (adapter.id item, item, wire))

def writeOf (synced : List (ι × φ)) (entry : ι × α × ω) : Option (Mutation ι ω φ) :=
  if Dictionary.get synced entry.1 = some (adapter.print entry.2.1) then none
  else some (.write entry.1 (adapter.print entry.2.1) entry.2.2)

/-- What differs between a snapshot and what the server is taken to hold. -/
def mutations (synced : List (ι × φ)) (annotations : List α) : List (Mutation ι ω φ) :=
  let current := current adapter annotations
  current.filterMap (writeOf adapter synced) ++
    ((Dictionary.keys synced).filter (· ∉ Dictionary.keys current)).map .delete

omit [DecidableEq φ] in
def saveBaseline (device : Device ι α ω φ) : Device ι α ω φ :=
  { device with baseline := device.syncedAnnotations }

def keyFor [DecidableEq ω] (device : Device ι α ω φ) (freshKey : Nat) (batch : Batch ι ω) :
    Request ι ω :=
  match device.annotationSyncKey with
  | some request => if request.batch = batch then request else ⟨freshKey, batch⟩
  | none => ⟨freshKey, batch⟩

def batchOf (expected : Nat) (mutations : List (Mutation ι ω φ)) : Batch ι ω :=
  { expected := expected
    annotations := mutations.filterMap (·.wire?)
    deletedIds := mutations.filterMap (·.deletedId?) }

/-- The loop over the batches of a push, up to the request it awaits.  After the last batch the
reader state follows. -/
def sendAnnotations [DecidableEq ω] (freshKey : Nat) (device : Device ι α ω φ)
    (snapshot : Snapshot α) (left : List (Mutation ι ω φ)) :
    Device ι α ω φ × List (Request ι ω) :=
  match left with
  | [] => ({ saveBaseline device with drain := some ⟨snapshot, .readerState⟩ }, [])
  | _ :: _ =>
    let batch := left.take maxSyncMutations
    let request := keyFor device freshKey (batchOf device.collectionRevision batch)
    ({ device with
       annotationSyncKey := some request
       drain := some ⟨snapshot, .sending request batch (left.drop maxSyncMutations)⟩ }, [request])

/-- One turn of the loop of `drain`, up to the request it awaits. -/
def drainNext [DecidableEq ω] (freshKey : Nat) (device : Device ι α ω φ) :
    Device ι α ω φ × List (Request ι ω) :=
  match device.latest with
  | none => ({ device with pending := false, drain := none }, [])
  | some snapshot =>
    sendAnnotations freshKey { device with latest := none, mirrored := none } snapshot
      (mutations adapter device.syncedAnnotations snapshot.annotations)

def push [DecidableEq ω] (freshKey : Nat) (device : Device ι α ω φ) (snapshot : Snapshot α) :
    Except String (Device ι α ω φ × List (Request ι ω)) :=
  if device.disabled || !device.isLoaded then .error "The sync is unavailable."
  else
    let queued := { device with latest := some snapshot, pending := true }
    if queued.drain.isSome then .ok (queued, [])
    else .ok (drainNext adapter freshKey queued)

omit [DecidableEq φ] in
def Mutation.applyTo (synced : List (ι × φ)) : Mutation ι ω φ → List (ι × φ)
  | .write id print _ => Dictionary.set synced id print
  | .delete id => Dictionary.delete synced id

omit [DecidableEq φ] in
/-- What follows a batch that the server applied at `revision`. -/
def acknowledge (device : Device ι α ω φ) (revision : Nat) (batch : List (Mutation ι ω φ)) :
    Device ι α ω φ :=
  saveBaseline
    { device with
      annotationSyncKey := none
      collectionRevision := revision
      syncedAnnotations := batch.foldl Mutation.applyTo device.syncedAnnotations }

omit [DecidableEq ι] [DecidableEq φ] in
/-- An error ends the push and keeps the newest unsent snapshot. -/
def abandon (device : Device ι α ω φ) (drain : Drain ι α ω φ) (accessError : Bool) :
    Device ι α ω φ :=
  { device with
    latest := device.latest.or (some drain.snapshot)
    disabled := device.disabled || accessError
    drain := none }

end

/-- The devices, the server, every batch sent and every result given.  The last four fields
record what happened: the ids that an edit removed from a device that held them, the ids
deleted on the server, the batches applied and the annotations at every revision. -/
structure World (δ ι α ω φ : Type) where
  devices : δ → Device ι α ω φ
  collection : Collection ι ω
  sent : List (Request ι ω)
  results : List (Request ι ω × Nat)
  nextKey : Nat
  removed : List ι
  deleted : List ι
  applied : List (Request ι ω)
  editions : Nat → List ω

/-- How the request for the reader state ends, if there is anything to save. -/
inductive ReaderStateOutcome where
  | unchanged
  | saved
  | failed (accessError : Bool)

/-- What happens.  A load or refresh is awaited before the next one. -/
inductive SyncEvent (δ ι α ω : Type) where
  | edit (device : δ) (content : List α)
  | load (device : δ)
  | refresh (device : δ)
  /-- The server answers the read that is out. -/
  | served (device : δ) (moved : Bool)
  | received (device : δ)
  | readFailed (device : δ)
  | reconcile (device : δ)
  | push (device : δ)
  | retry (device : δ)
  /-- The server handles a batch that was sent at any time before. -/
  | delivered (request : Request ι ω)
  | acknowledged (device : δ) (revision : Nat)
  | sendFailed (device : δ) (accessError : Bool)
  | readerState (device : δ) (outcome : ReaderStateOutcome)
  /-- The sheet is opened anew from what the device has stored. -/
  | reopen (device : δ)

namespace World

variable [DecidableEq δ]

def withDevice (w : World δ ι α ω φ) (d : δ) (device : Device ι α ω φ) : World δ ι α ω φ :=
  { w with devices := Function.update w.devices d device }

def sends (w : World δ ι α ω φ) (d : δ) (step : Device ι α ω φ × List (Request ι ω)) :
    World δ ι α ω φ :=
  { w.withDevice d step.1 with
    sent := w.sent ++ step.2
    nextKey := w.nextKey + 1 }

/-- A batch is applied for the first time. -/
def records (w : World δ ι α ω φ) (request : Request ι ω) (collection : Collection ι ω)
    (result : SyncResult ι) : World δ ι α ω φ :=
  { w with
    collection := collection
    deleted := w.deleted ++ result.deletedIds
    applied := w.applied ++ [request]
    editions := Function.update w.editions collection.revision collection.live }

end World

section
variable [DecidableEq δ] [DecidableEq ι] [DecidableEq ω] [DecidableEq φ]
  (adapter : Adapter ι α ω φ) (pageCount : Nat)

/-- What an edit takes away from the annotations the server can hold. -/
def removedBy (before after : List α) : List ι :=
  (adapter.syncableIds before).filter (· ∉ adapter.syncableIds after)

def handle (w : World δ ι α ω φ) (request : Request ι ω) : Except String (World δ ι α ω φ) :=
  match syncAnnotations adapter pageCount w.collection request with
  | .error _ => .error "The batch is refused."
  | .ok (collection, result) =>
    let next := if result.replayed then w else w.records request collection result
    .ok { next with results := w.results ++ [(request, result.revision)] }

def serve (w : World δ ι α ω φ) (reading : Reading α ω) (moved : Bool) :
    Except String (Reading α ω) :=
  match reading.stage with
  | .probe none =>
    .ok { reading with stage := .probe (some (w.collection.revision, moved)) }
  | .pages first page revision annotations none =>
    match getAnnotations adapter pageCount w.collection first page with
    | some answer => .ok { reading with stage := .pages first page revision annotations (some answer) }
    | none => .error "Invalid page."
  | _ => .error "No request is out."

def SyncEvent.exec : SyncEvent δ ι α ω → World δ ι α ω φ → Except String (World δ ι α ω φ)
  | .edit d content, w =>
    let device := w.devices d
    .ok { w.withDevice d { device with content := content } with
      removed := w.removed ++ removedBy adapter device.content content }
  | .load d, w =>
    let device := w.devices d
    if device.reading.isSome then .error "A read is under way."
    else .ok (w.withDevice d { device with reading := some ⟨none, .pages 1 1 0 [] none⟩ })
  | .refresh d, w =>
    let device := w.devices d
    if device.reading.isSome then .error "A read is under way."
    else if device.disabled || !device.isLoaded then .error "The sync is unavailable."
    else .ok (w.withDevice d { device with reading := some ⟨some device.content, .probe none⟩ })
  | .served d moved, w =>
    match (w.devices d).reading with
    | none => .error "No request is out."
    | some reading => do
      let answered ← serve adapter pageCount w reading moved
      return w.withDevice d { w.devices d with reading := some answered }
  | .received d, w =>
    match (w.devices d).reading with
    | none => .error "No request is out."
    | some reading => do
      let device ← receive adapter pageCount (w.devices d) reading
      return w.withDevice d device
  | .readFailed d, w => .ok (w.withDevice d { w.devices d with reading := none })
  | .reconcile d, w =>
    let device := w.devices d
    if device.remote.isNone then .error "Nothing was loaded."
    else .ok (w.withDevice d (adopt adapter device device.content))
  | .push d, w => do
    let device := w.devices d
    let step ← Workspace.push adapter w.nextKey device ⟨device.content, device.adopted⟩
    return w.sends d step
  | .retry d, w =>
    let device := w.devices d
    match device.latest with
    | none => .error "There is nothing to retry."
    | some snapshot =>
      if device.drain.isSome then .error "A push is under way."
      else do
        let step ← Workspace.push adapter w.nextKey device snapshot
        return w.sends d step
  | .delivered request, w =>
    if request ∈ w.sent then handle adapter pageCount w request
    else .error "The batch was not sent."
  | .acknowledged d revision, w =>
    let device := w.devices d
    match device.drain with
    | some ⟨snapshot, .sending request batch rest⟩ =>
      if (request, revision) ∈ w.results then
        .ok (w.sends d (sendAnnotations w.nextKey (acknowledge device revision batch) snapshot rest))
      else .error "The server gave no such result."
    | _ => .error "No batch is out."
  | .sendFailed d accessError, w =>
    let device := w.devices d
    match device.drain with
    | some ⟨snapshot, .sending request batch rest⟩ =>
      .ok (w.withDevice d
        (abandon device ⟨snapshot, .sending request batch rest⟩ accessError))
    | _ => .error "No batch is out."
  | .readerState d outcome, w =>
    let device := w.devices d
    match device.drain with
    | some ⟨snapshot, .readerState⟩ =>
      let mirrored := { device with mirrored := some snapshot }
      match outcome with
      | .unchanged => .ok (w.sends d (drainNext adapter w.nextKey mirrored))
      | .saved => .ok (w.sends d (drainNext adapter w.nextKey (saveBaseline mirrored)))
      | .failed accessError =>
        .ok (w.withDevice d (abandon device ⟨snapshot, .readerState⟩ accessError))
    | _ => .error "The reader state is not awaited."
  | .reopen d, w =>
    let device := w.devices d
    .ok (w.withDevice d (createCatalogServerSync device.content device.baseline device.adopted))

def World.initial : World δ ι α ω φ :=
  { devices := fun _ => createCatalogServerSync [] [] 0
    collection := ⟨0, [], []⟩
    sent := []
    results := []
    nextKey := 0
    removed := []
    deleted := []
    applied := []
    editions := fun _ => [] }

/-- Only the order of the steps matters. -/
def catalogSync : Machine (World δ ι α ω φ) (SyncEvent δ ι α ω) String where
  init := World.initial
  exec := SyncEvent.exec adapter pageCount
  time _ := 0

end

end LockIn.Workspace
