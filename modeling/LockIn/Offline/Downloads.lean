import LockIn.Library.Binary64
import LockIn.Library.Closures
import LockIn.Library.Dictionary
import LockIn.Library.Transaction
import LockIn.Offline.BundleCheck

/-!
# Downloads and what they need

An offline item names the items it depends on, and the manifest says which of them there are.  The
items of a download are found by a search that gives up where a dependency is not available or
leads back to what the search is in the middle of.

A PDF is kept in the cache under a URL of the student, the item and the checksum, a bundle of
questions among the records of the database, and what was downloaded under the id of the item.  An
item is downloaded after everything it needs, each part checked and stored on its own.
-/

namespace LockIn.OfflineDownloads

open Whitespace (Text)
open List

section
/-- A document has a number, a bundle a digest. -/
inductive Version where
  | number (value : Nat)
  | digest (text : Text)
deriving DecidableEq

structure OfflineItem where
  id : Text
  type : Text
  available : Bool
  version : Option Version
  checksum : Option Text
  size : Option Nat
  downloadUrl : Option Text
  dependencies : List Text
  sheetId : Option Text
  edition : Option Text

/-- `new Map(items.map((entry) => [entry.id, entry]))` -/
def index (items : List OfflineItem) : List (Text × OfflineItem) :=
  Dictionary.ofList (items.map fun entry => (entry.id, entry))

def dependency (items : List OfflineItem) (id : Text) : Option OfflineItem :=
  (Dictionary.get (index items) id).filter (·.available)

theorem mem_of_dependency {items : List OfflineItem} {id : Text} {entry : OfflineItem}
    (h : dependency items id = some entry) : entry ∈ items ∧ entry.id = id := by
  obtain ⟨hget, -⟩ := Option.filter_eq_some_iff.1 h
  have hmem := Dictionary.mem_of_mem_ofList (Dictionary.mem_of_get hget)
  obtain ⟨other, hother, heq⟩ := mem_map.1 hmem
  cases heq
  exact ⟨hother, rfl⟩

def itemGraph (items : List OfflineItem) : Closures.Graph OfflineItem Text where
  key := (·.id)
  needs := (·.dependencies)
  find := dependency items
  key_find _ _ h := (mem_of_dependency h).2

def circular : String := "This download has a circular dependency."

def unavailablePart : String := "A required part of this download is unavailable."

/-- The last case is the engine's for a recursion that does not end. -/
def message : Closures.Failure → String
  | .missing => unavailablePart
  | .cyclic => circular
  | .exhausted => "Maximum call stack size exceeded"

def dependencyGraph (items : List OfflineItem) (item : OfflineItem) :
    Except String (List OfflineItem) :=
  (Closures.visit (itemGraph items) (items.length + 2) [] [] item).mapError message

def DependsOn (items : List OfflineItem) : OfflineItem → OfflineItem → Prop :=
  Closures.Reaches (itemGraph items)

variable {items graph : List OfflineItem} {item : OfflineItem}

def knownIds (items : List OfflineItem) (item : OfflineItem) : List Text :=
  item.id :: items.map (·.id)

theorem dependency_known (id : Text) (entry : OfflineItem) (h : dependency items id = some entry) :
    id ∈ knownIds items item := by
  obtain ⟨hmem, rfl⟩ := mem_of_dependency h
  exact mem_cons_of_mem _ (mem_map_of_mem hmem)

theorem dependencyGraph_eq_ok : dependencyGraph items item = .ok graph ↔
    Closures.visit (itemGraph items) (items.length + 2) [] [] item = .ok graph :=
  Outcome.mapError_eq_ok

theorem dependencyGraph_error :
    (∃ reason, dependencyGraph items item = .error reason) ↔
      Closures.Missing (itemGraph items) item ∨ Closures.Cyclic (itemGraph items) item := by
  have hkeys : ∀ id entry, (itemGraph items).find id = some entry → id ∈ knownIds items item :=
    dependency_known
  have hrounds : (knownIds items item).length ≤ items.length + 1 := by simp [knownIds]
  have hok := Closures.closure_iff hkeys mem_cons_self hrounds
  rw [← not_iff_not, not_or, ← hok]
  unfold dependencyGraph
  cases Closures.visit (itemGraph items) (items.length + 2) [] [] item with
  | ok graph => simp [Except.mapError]
  | error reason => simp [Except.mapError]

/-- The recursion ends. -/
theorem dependencyGraph_message {reason : String} (h : dependencyGraph items item = .error reason) :
    reason = unavailablePart ∨ reason = circular := by
  unfold dependencyGraph at h
  cases hvisit : Closures.visit (itemGraph items) (items.length + 2) [] [] item with
  | ok graph =>
    rw [hvisit] at h
    cases h
  | error failure =>
    rw [hvisit] at h
    cases h
    cases failure with
    | missing => exact .inl rfl
    | cyclic => exact .inr rfl
    | exhausted =>
      have hkeys : ∀ id entry, (itemGraph items).find id = some entry → id ∈ knownIds items item :=
        dependency_known
      refine absurd hvisit (Closures.visit_rounds hkeys _ [] [] item mem_cons_self
        nodup_nil (nil_subset _) ?_)
      simp [knownIds]

/-- What the search returns: everything that is needed, once, what is needed first. -/
theorem dependencyGraph_ok (h : dependencyGraph items item = .ok graph) :
    (graph.map (·.id)).Nodup ∧ (∀ entry, entry ∈ graph ↔ DependsOn items item entry) ∧
      ∀ before entry after, graph = before ++ entry :: after →
        ∀ id ∈ entry.dependencies, ∃ other ∈ before, dependency items id = some other := by
  obtain ⟨hnodup, hmem, hordered, -⟩ := Closures.closure_ok (dependencyGraph_eq_ok.1 h)
  exact ⟨hnodup, hmem, hordered⟩

end

open Json (member truthy same items?)
open OfflineStudy (present validActiveStudyBundle)
open Transaction (Call andThen answer decided forEach refuse write)

/-- What is known of a download: the item it was made for, and whether access was denied since. -/
structure Metadata where
  item : OfflineItem
  blocked : Bool

/-- The records of a student, each kind under keys of its own: the manifest, what was downloaded by
the id of the item, bundles by their whole keys; and the cache by the paths of its URLs. -/
structure Store where
  manifest : Option (List OfflineItem)
  downloads : List (Text × Metadata)
  contents : List (Text × Json)
  files : List (List Text × List UInt8)

def parent : Text := "..".toList

def here : Text := ".".toList

def enter (done : List Text) (segment : Text) : List Text :=
  if segment = parent then done.dropLast
  else if segment = here then done
  else done ++ [segment]

/-- The path of a URL when `.` and `..` are resolved. -/
def resolved (path : List Text) : List Text :=
  path.foldl enter [] ++
    if path.getLast? = some parent ∨ path.getLast? = some here then [[]] else []

/-- The segments of the URL, each as it was before it was encoded. -/
def cacheKey (user id checksum : Text) : List Text :=
  resolved (["__lockin_offline__".toList, user, id] ++ if checksum ≠ [] then [checksum] else [])

/-- `url === base || url.startsWith(base + "/")` -/
def belongsToItem (url : List Text) (user id : Text) : Bool :=
  (cacheKey user id []).isPrefixOf url

def OfflineItem.cacheKey (item : OfflineItem) (user : Text) : List Text :=
  OfflineDownloads.cacheKey user item.id (item.checksum.getD [])

def cachedFile (store : Store) (user : Text) (item : OfflineItem) : Option (List UInt8) :=
  (Dictionary.get store.files (item.cacheKey user)).or
    (Dictionary.get store.files (cacheKey user item.id []))

def isJsonType (type : Text) : Bool := type = "questions".toList ∨ type = "active_study".toList

/-- `content:${id}:` -/
def contentPrefix (id : Text) : Text := "content:".toList ++ id ++ ":".toList

def contentKey (item : OfflineItem) : Text :=
  contentPrefix item.id ++ item.checksum.getD "undefined".toList

def readOfflineManifest (store : Store) : Option (List OfflineItem) := store.manifest

def readDownloadMetadata (store : Store) (id : Text) : Option Metadata :=
  Dictionary.get store.downloads id

def isOwnContentStored (store : Store) (user : Text) (item : OfflineItem) : Bool :=
  let metadata := readDownloadMetadata store item.id
  if metadata.any (·.blocked) ∨ metadata.bind (·.item.checksum) ≠ item.checksum ∨
      metadata.bind (·.item.version) ≠ item.version then false
  else if isJsonType item.type then truthy (Dictionary.get store.contents (contentKey item))
  else (cachedFile store user item).isSome

inductive ItemState where
  | unavailable
  | downloaded
  | update
  | incomplete
  | download

/-- `manifest || await readOfflineManifest(userId) || { items: [item] }` -/
def itemsFor (store : Store) (manifest : Option (List OfflineItem)) (item : OfflineItem) :
    List OfflineItem :=
  (manifest.or (readOfflineManifest store)).getD [item]

def offlineItemState (store : Store) (user : Text) (item : OfflineItem)
    (manifest : Option (List OfflineItem)) : ItemState :=
  match dependencyGraph (itemsFor store manifest item) item with
  | .error _ => .unavailable
  | .ok graph =>
    if graph.all (isOwnContentStored store user) then .downloaded
    else if graph.all fun entry => (readDownloadMetadata store entry.id).isSome then .update
    else if graph.any (fun entry => (readDownloadMetadata store entry.id).isSome) ∨
        graph.any (isOwnContentStored store user) then .incomplete
    else .download

/-- Where a download may be interrupted: the session has ended, or the device rejects a call. -/
inductive Point where
  | started
  | reading
  | checked
  | received
  | locking
  | opening
  | putting
  | recording
  | listing
  | deleting (key : Text)
  | removing (url : List Text)
  | finishing

structure Response where
  ok : Bool
  chunks : List (List UInt8)

/-- What happens while one item is downloaded. -/
structure Conditions where
  interrupted : Point → Option String
  estimate : Option (Nat × Nat)
  request : Text → Except String Json
  fetch : Text → Except String Response

/-- A browser: what it computes, and what happens in it during a download. -/
structure Browser where
  sha256 : List UInt8 → Text
  propertyKey : Json → Text
  opening : Option String
  during : OfflineItem → Conditions

abbrev Action (α : Type) : Type := Call Store String α

def orThrow (interruption : Option String) : Action Unit :=
  match interruption with
  | none => answer ()
  | some reason => refuse reason

def storeJsonContent (conditions : Conditions) (item : OfflineItem) (bundle : Json) :
    Action (Option Metadata) :=
  andThen (orThrow (conditions.interrupted .recording)) fun _ =>
  andThen (write fun store => { store with
    contents := Dictionary.set store.contents (contentKey item) bundle
    downloads := Dictionary.set store.downloads item.id ⟨item, false⟩ }) fun _ =>
  andThen (orThrow (conditions.interrupted .listing)) fun _ =>
  andThen (decided fun store => .ok (Dictionary.keys store.contents)) fun storedKeys =>
  andThen (forEach (fun key =>
    if (contentPrefix item.id).isPrefixOf key ∧ key ≠ contentKey item then
      andThen (orThrow (conditions.interrupted (.deleting key))) fun _ =>
        write fun store => { store with contents := Dictionary.delete store.contents key }
    else answer ()) storedKeys) fun _ =>
  answer (some ⟨item, false⟩)

/-- `[\w-]` -/
def isIdentifier (char : Char) : Bool := char.isAlphanum ∨ char = '_' ∨ char = '-'

def matchesPath (start : String) (ends : List String) (url : Text) : Bool :=
  ends.any fun stop =>
    start.toList.isPrefixOf url && stop.toList.isSuffixOf url &&
      start.length + stop.length < url.length &&
      ((url.drop start.length).take
        (url.length - start.length - stop.length)).all isIdentifier

def propertyKey (browser : Browser) : Option Json → Text
  | none => "undefined".toList
  | some (.str text) => text
  | some value => browser.propertyKey value

/-- `value[key]`, of which what is inherited has nothing to say here. -/
def property (value : Option Json) (key : Text) : Option Json :=
  match value with
  | some (.obj fields) => (fields.find? fun field => field.1.toList = key).map (·.2)
  | some (.arr items) =>
    (items.zipIdx.find? fun entry => (toString entry.2).toList = key).map (·.1)
  | _ => none

def textValue (text : Option Text) : Option Json := text.map .str

def completeQuestions (browser : Browser) (bundle : Json) (item : OfflineItem) : Bool :=
  let field := member (some bundle)
  same (field "content_version") (textValue item.checksum) &&
    match items? (field "results") with
    | none => false
    | some results =>
      same (some (.int results.length)) (field "count") && truthy (field "answer_keys") &&
        results.all fun question => present (some question) &&
          (items? (member (property (field "answer_keys")
            (propertyKey browser (member (some question) "id"))) "correct_choice_ids")).isSome

def OfflineItem.toJson (item : OfflineItem) : Json :=
  .obj ([("checksum", item.checksum), ("sheet_id", item.sheetId), ("edition", item.edition)].filterMap
    fun field => field.2.map fun text => (field.1, .str text))

def apiBasePath : String := "/api/v1"

/-- Seeding the runs of the device writes no record that a download reads. -/
def downloadJson (browser : Browser) (item : OfflineItem) (url : Text) : Action (Option Metadata) :=
  let conditions := browser.during item
  andThen (orThrow (conditions.interrupted .checked)) fun _ =>
  if item.type = "questions".toList then
    if ¬matchesPath "/api/v1/offline/questions/" ["/?source=exam", "/?source=ai-sheet"]
        (url.map Char.toLower) then refuse "Invalid question download."
    else andThen (decided fun _ => conditions.request (url.drop apiBasePath.length)) fun bundle =>
      if ¬completeQuestions browser bundle item then refuse "Question download is incomplete."
      else storeJsonContent conditions item bundle
  else if ¬matchesPath "/api/v1/offline/active-study/" ["/?edition=university", "/?edition=lockin"]
      (url.map Char.toLower) then refuse "Invalid Active Study download."
  else andThen (decided fun _ => conditions.request (url.drop apiBasePath.length)) fun bundle =>
    if ¬validActiveStudyBundle (some bundle) (some item.toJson) then
      refuse "The Active Study download is incomplete."
    else andThen (storeJsonContent conditions item bundle) fun metadata =>
      andThen (orThrow (conditions.interrupted .finishing)) fun _ => answer metadata

/-- A denial that is known for this very file. -/
def deniedAt (store : Store) (item : OfflineItem) : Bool :=
  (readDownloadMetadata store item.id).any fun existing =>
    existing.blocked ∧ existing.item.downloadUrl = item.downloadUrl

/-- The new version is committed before the old one is removed. -/
def storePdfBlob (conditions : Conditions) (user : Text) (item : OfflineItem) (blob : List UInt8) :
    Action (Option Metadata) :=
  andThen (orThrow (conditions.interrupted .locking)) fun _ =>
  andThen (decided fun store => .ok (deniedAt store item)) fun denied =>
  if denied then answer none
  else
    andThen (orThrow (conditions.interrupted .opening)) fun _ =>
    andThen (orThrow (conditions.interrupted .putting)) fun _ =>
    andThen (write fun store =>
      { store with files := Dictionary.set store.files (item.cacheKey user) blob }) fun _ =>
    match conditions.interrupted .recording with
    | some reason =>
      andThen (write fun store =>
        { store with files := Dictionary.delete store.files (item.cacheKey user) }) fun _ =>
      refuse reason
    | none =>
      andThen (write fun store =>
        { store with downloads := Dictionary.set store.downloads item.id ⟨item, false⟩ }) fun _ =>
      andThen (orThrow (conditions.interrupted .listing)) fun _ =>
      andThen (decided fun store => .ok (Dictionary.keys store.files)) fun urls =>
      andThen (forEach (fun url =>
        if belongsToItem url user item.id ∧ url ≠ item.cacheKey user then
          andThen (orThrow (conditions.interrupted (.removing url))) fun _ =>
            write fun store => { store with files := Dictionary.delete store.files url }
        else answer ()) urls) fun _ =>
      answer (some ⟨item, false⟩)

def downloadFile (browser : Browser) (user : Text) (item : OfflineItem) (url : Text) :
    Action (Option Metadata) :=
  let conditions := browser.during item
  andThen (orThrow (conditions.interrupted .checked)) fun _ =>
  if ¬matchesPath "/api/v1/files/" ["/view", "/download"] url then refuse "Invalid download item."
  else andThen (decided fun _ => conditions.fetch url) fun response =>
    if ¬response.ok then refuse "Download failed."
    else andThen (orThrow (conditions.interrupted .received)) fun _ =>
      let blob := response.chunks.flatten
      let received := (response.chunks.map List.length).sum
      if (item.size.any fun size => size ≠ 0 ∧ received ≠ size) ∨
          (item.checksum.any fun checksum =>
            checksum ≠ [] ∧ browser.sha256 blob ≠ checksum.map Char.toLower) then
        refuse "Download integrity check failed."
      else storePdfBlob conditions user item blob

/-- `estimate.quota - estimate.usage < item.size * 1.1` -/
def lowOnStorage (conditions : Conditions) (item : OfflineItem) : Bool :=
  match item.size, conditions.estimate with
  | some size, some (quota, usage) =>
    size ≠ 0 ∧ quota ≠ 0 ∧ usage ≠ 0 ∧
      ((quota : ℚ) - usage < Binary64.round (size * Binary64.round (11 / 10)))
  | _, _ => false

def downloadOne (browser : Browser) (user : Text) (item : OfflineItem) : Action (Option Metadata) :=
  let conditions := browser.during item
  andThen (orThrow (conditions.interrupted .started)) fun _ =>
  match item.available, item.downloadUrl with
  | true, some url =>
    andThen (orThrow (conditions.interrupted .reading)) fun _ =>
    andThen (decided fun store => .ok (isOwnContentStored store user item)) fun stored =>
    if stored then decided fun store => .ok (readDownloadMetadata store item.id)
    else if lowOnStorage conditions item then
      refuse "This device is low on storage. Remove a download and try again."
    else if isJsonType item.type then downloadJson browser item url
    else downloadFile browser user item url
  | _, _ => refuse "Invalid download item."

/-- The parts one after another; the answer is that of the last. -/
def downloadAll (browser : Browser) (user : Text) (metadata : Option Metadata) :
    List OfflineItem → Action (Option Metadata)
  | [] => answer metadata
  | entry :: rest =>
    andThen (downloadOne browser user entry) fun metadata =>
      downloadAll browser user metadata rest

def downloadOfflineItem (browser : Browser) (user : Text) (item : OfflineItem)
    (manifest : Option (List OfflineItem)) : Action (Option Metadata) :=
  andThen (orThrow browser.opening) fun _ =>
  andThen (decided fun store => dependencyGraph (itemsFor store manifest item) item) fun graph =>
  downloadAll browser user none graph

end LockIn.OfflineDownloads
