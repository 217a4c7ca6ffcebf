import LockIn.Workspace.CatalogSyncSpec

/-!
# What the devices and the server keep

Deletions are inferred: what a device takes the server to hold and does not hold itself is
deleted on the server.  So the invariant accounts for every id in that map and in the stored
baseline: the device has it, or an edit removed it.  On the side of the server it says what
every revision held and that a batch is applied at the revision it expects.

It is kept by careful steps: a snapshot is sent only when it was taken after the last merge, a
device loads, refreshes and pushes one after the other, and the collection does not move
between the requests of one read.
-/

namespace LockIn.Workspace

open List Outcome

variable {δ ι α ω φ : Type}

namespace World

def Ever (adapter : Adapter ι α ω φ) (w : World δ ι α ω φ) (revision : Nat) (x : ι) : Prop :=
  ∃ r ≤ revision, x ∈ adapter.mutationIds (w.editions r)

def Accounts (w : World δ ι α ω φ) (before after : List ι) : Prop :=
  ∀ x ∈ before, x ∈ after ∨ x ∈ w.removed

/-- The device refreshed at the revision that the server still has, and the content it pushed
is the content it has, with no merge in between. -/
def Settled (w : World δ ι α ω φ) (d : δ) : Prop :=
  (w.devices d).remote = none ∧ (w.devices d).refreshed = some w.collection.revision ∧
    ∃ snapshot, (w.devices d).mirrored = some snapshot ∧
      snapshot.taken = (w.devices d).adopted ∧ snapshot.annotations = (w.devices d).content

structure Grows (w w' : World δ ι α ω φ) : Prop where
  revision : w.collection.revision ≤ w'.collection.revision
  editions : ∀ r ≤ w.collection.revision, w'.editions r = w.editions r
  removed : ∀ x ∈ w.removed, x ∈ w'.removed
  sent : ∀ request ∈ w.sent, request ∈ w'.sent

end World

def oneRevision : Option (Reading α ω) → Bool
  | some ⟨_, .pages first page revision _ (some answer)⟩ =>
    (first = 1 ∧ page = 1) ∨ answer.revision = revision
  | _ => true

/-- The steps under which no annotation is lost. -/
def Careful (w : World δ ι α ω φ) : SyncEvent δ ι α ω → Prop
  | .load d | .refresh d => (w.devices d).drain.isNone
  | .push d =>
    (w.devices d).drain.isNone → (w.devices d).reading.isNone ∧ (w.devices d).remote.isNone
  | .retry d =>
    (w.devices d).reading.isNone ∧ (w.devices d).remote.isNone ∧
      (w.devices d).latest.all (·.taken = (w.devices d).adopted)
  | .received d => oneRevision (w.devices d).reading
  | _ => True

instance (w : World δ ι α ω φ) (event : SyncEvent δ ι α ω) : Decidable (Careful w event) := by
  cases event <;> unfold Careful <;> infer_instance

section
variable (adapter : Adapter ι α ω φ) (pageCount : Nat)

structure Sendable (w : World δ ι α ω φ) (request : Request ι ω) : Prop where
  expected_le : request.batch.expected ≤ w.collection.revision
  written : ∀ wire ∈ request.batch.annotations, ∃ item, adapter.toFocus item = some wire
  held : ∀ x ∈ request.batch.deletedIds,
    x ∈ adapter.mutationIds (w.editions request.batch.expected)
  removed : ∀ x ∈ request.batch.deletedIds, x ∈ w.removed
  changes : request.batch.annotations ≠ [] ∨ request.batch.deletedIds ≠ []

structure Applied (w : World δ ι α ω φ) (request : Request ι ω) (revision : Nat) : Prop where
  next : revision = request.batch.expected + 1
  revision_le : revision ≤ w.collection.revision
  ids : ∀ x, x ∈ adapter.mutationIds (w.editions revision) ↔
    request.batch.leaves adapter (adapter.mutationIds (w.editions request.batch.expected)) x

structure ServerKeeps (w : World δ ι α ω φ) : Prop where
  empty : w.editions 0 = []
  current : w.editions w.collection.revision = w.collection.live
  gone : ∀ r ≤ w.collection.revision, ∀ x, w.Ever adapter r x →
    x ∉ adapter.mutationIds (w.editions r) → x ∈ w.removed
  stored : ∀ r ≤ w.collection.revision, ∀ wire ∈ w.editions r,
    adapter.pageNumber wire ≤ pageCount ∧ ∃ item, adapter.toFocus item = some wire
  deleted : ∀ x ∈ w.deleted, x ∈ w.removed
  sent : ∀ request ∈ w.sent, Sendable adapter w request
  keys : ∀ request ∈ w.sent, request.key < w.nextKey
  one_batch : ∀ request ∈ w.sent, ∀ other ∈ w.sent, request.key = other.key →
    request.batch = other.batch
  results : ∀ result ∈ w.results, Applied adapter w result.1 result.2
  receipts : ∀ receipt ∈ w.collection.receipts, receipt.request ∈ w.sent ∧
    Applied adapter w receipt.request receipt.result.revision
  applied : w.applied = w.collection.receipts.map (·.request)
  keys_once : (w.applied.map (·.key)).Nodup
  expected_once : (w.applied.map (·.batch.expected)).Nodup

/-- A snapshot that may be sent: what the map has and it has not was removed by an edit, and so
was what it has and the device has not any more. -/
def Fresh (w : World δ ι α ω φ) (synced : List (ι × φ)) (content : List α)
    (snapshot : Snapshot α) : Prop :=
  w.Accounts (Dictionary.keys synced) (adapter.syncableIds snapshot.annotations) ∧
    w.Accounts (adapter.syncableIds snapshot.annotations) (adapter.syncableIds content)

def StageKeeps (w : World δ ι α ω φ) (revision : Nat) (synced : List (ι × φ))
    (snapshot : Snapshot α) : PushStage ι ω φ → Prop
  | .sending request batch rest =>
    request ∈ w.sent ∧ request.batch = batchOf revision batch ∧
      Outstanding adapter synced (adapter.syncableIds snapshot.annotations) (batch ++ rest)
  | .readerState => ∀ x, x ∈ adapter.syncableIds snapshot.annotations ↔ x ∈ Dictionary.keys synced

structure DrainKeeps (w : World δ ι α ω φ) (device : Device ι α ω φ) (drain : Drain ι α ω φ) :
    Prop where
  reading : device.reading = none
  remote : device.remote = none
  mirrored : device.mirrored = none
  taken : drain.snapshot.taken = device.adopted
  fresh : Fresh adapter w device.syncedAnnotations device.content drain.snapshot
  queued : ∀ snapshot, device.latest = some snapshot → snapshot.taken = device.adopted ∧
    w.Accounts (adapter.syncableIds drain.snapshot.annotations)
      (adapter.syncableIds snapshot.annotations)
  stage : StageKeeps adapter w device.collectionRevision device.syncedAnnotations drain.snapshot
    drain.stage

/-- A revision read after everything that the device knows. -/
structure Known (w : World δ ι α ω φ) (own : Nat) (baseline : List (ι × φ)) (revision : Nat) :
    Prop where
  le : revision ≤ w.collection.revision
  ge : own ≤ revision
  baseline : ∀ x ∈ Dictionary.keys baseline, w.Ever adapter revision x

def ReadStageKeeps (w : World δ ι α ω φ) (own : Nat) (baseline : List (ι × φ)) :
    ReadStage ω → Prop
  | .probe _ => True
  | .pages first page revision read answer =>
    1 ≤ page ∧ (first = 1 ∧ page = 1 → revision = 0 ∧ read = []) ∧
      (¬(first = 1 ∧ page = 1) → Known adapter w own baseline revision ∧
        ReadUpTo adapter pageCount (w.editions revision) first page read) ∧
      ∀ given, answer = some given → Known adapter w own baseline given.revision ∧
        Answers adapter pageCount (w.editions given.revision) first page given

structure ReadKeeps (w : World δ ι α ω φ) (device : Device ι α ω φ) (reading : Reading α ω) :
    Prop where
  drain : device.drain = none
  content : ∀ content, reading.content? = some content →
    w.Accounts (Dictionary.keys device.baseline) (adapter.syncableIds content)
  stage : ReadStageKeeps adapter pageCount w device.collectionRevision device.baseline reading.stage

/-- What was loaded and is not merged yet. -/
structure RemoteKeeps (w : World δ ι α ω φ) (own : Nat) (synced baseline : List (ι × φ))
    (remote : List α) : Prop where
  ids : ∀ x, x ∈ adapter.ids remote ↔ x ∈ Dictionary.keys synced
  syncable : ∀ item ∈ remote, adapter.isServerSyncable item = true
  baseline : ∀ x ∈ Dictionary.keys baseline, w.Ever adapter own x

structure DeviceKeeps (w : World δ ι α ω φ) (device : Device ι α ω φ) : Prop where
  synced_ids : ∀ x, x ∈ Dictionary.keys device.syncedAnnotations ↔
    x ∈ adapter.mutationIds (w.editions device.collectionRevision)
  synced_once : (Dictionary.keys device.syncedAnnotations).Nodup
  revision_le : device.collectionRevision ≤ w.collection.revision
  baseline_ever : ∀ x ∈ Dictionary.keys device.baseline, w.Ever adapter w.collection.revision x
  baseline_kept : w.Accounts (Dictionary.keys device.baseline) (adapter.syncableIds device.content)
  synced_kept : device.remote = none →
    w.Accounts (Dictionary.keys device.syncedAnnotations) (adapter.syncableIds device.content)
  remote : ∀ remote, device.remote = some remote →
    RemoteKeeps adapter w device.collectionRevision device.syncedAnnotations device.baseline remote
  latest : ∀ snapshot, device.latest = some snapshot → snapshot.taken ≤ device.adopted ∧
    (snapshot.taken = device.adopted → device.remote = none →
      Fresh adapter w device.syncedAnnotations device.content snapshot)
  mirrored : ∀ snapshot, device.mirrored = some snapshot → snapshot.taken ≤ device.adopted ∧
    (snapshot.taken = device.adopted → device.remote = none →
      ∀ x, x ∈ adapter.syncableIds snapshot.annotations ↔
        x ∈ Dictionary.keys device.syncedAnnotations)
  refreshed_le : ∀ revision, device.refreshed = some revision → revision ≤ device.collectionRevision
  key_sent : ∀ request, device.annotationSyncKey = some request → request ∈ w.sent
  drain : ∀ drain, device.drain = some drain → DrainKeeps adapter w device drain
  reading : ∀ reading, device.reading = some reading →
    ReadKeeps adapter pageCount w device reading

structure Keeps (w : World δ ι α ω φ) : Prop where
  server : ServerKeeps adapter pageCount w
  devices : ∀ d, DeviceKeeps adapter pageCount w (w.devices d)

end

variable {adapter : Adapter ι α ω φ} {pageCount : Nat} {w w' : World δ ι α ω φ}

variable {r : Nat} {x : ι}

namespace World

theorem Accounts.refl (w : World δ ι α ω φ) (ids : List ι) : w.Accounts ids ids :=
  fun _ hx => .inl hx

theorem Accounts.trans {first second third : List ι} (h : w.Accounts first second)
    (h' : w.Accounts second third) : w.Accounts first third :=
  fun x hx => (h x hx).elim (h' x) .inr

theorem Accounts.mono {before after : List ι} (h : w.Accounts before after)
    (hremoved : ∀ x ∈ w.removed, x ∈ w'.removed) : w'.Accounts before after :=
  fun x hx => (h x hx).imp_right (hremoved x)

theorem Ever.mono {r' : Nat} (h : w.Ever adapter r x) (hle : r ≤ r') : w.Ever adapter r' x := by
  obtain ⟨first, hfirst, hx⟩ := h
  exact ⟨first, hfirst.trans hle, hx⟩

theorem Grows.refl (w : World δ ι α ω φ) : w.Grows w :=
  ⟨Nat.le_refl _, fun _ _ => rfl, fun _ hx => hx, fun _ hr => hr⟩

theorem Ever.grows (h : w.Ever adapter r x) (hg : w.Grows w') (hle : r ≤ w.collection.revision) :
    w'.Ever adapter r x := by
  obtain ⟨first, hfirst, hx⟩ := h
  exact ⟨first, hfirst, by rw [hg.editions first (hfirst.trans hle)]; exact hx⟩

end World

section
variable (hg : w.Grows w')
include hg

theorem Sendable.grows {request : Request ι ω} (h : Sendable adapter w request) :
    Sendable adapter w' request where
  expected_le := h.expected_le.trans hg.revision
  written := h.written
  held := by
    rw [hg.editions _ h.expected_le]
    exact h.held
  removed := fun x hx => hg.removed x (h.removed x hx)
  changes := h.changes

theorem Applied.grows {request : Request ι ω} {revision : Nat}
    (h : Applied adapter w request revision) : Applied adapter w' request revision where
  next := h.next
  revision_le := h.revision_le.trans hg.revision
  ids := by
    have hle := h.revision_le
    have hnext := h.next
    rw [hg.editions _ hle, hg.editions request.batch.expected (by omega)]
    exact h.ids

variable {synced : List (ι × φ)} {snapshot : Snapshot α} {own : Nat} {device : Device ι α ω φ}

theorem Fresh.grows {content : List α} (h : Fresh adapter w synced content snapshot) :
    Fresh adapter w' synced content snapshot :=
  ⟨h.1.mono hg.removed, h.2.mono hg.removed⟩

theorem Known.grows {revision : Nat} {baseline : List (ι × φ)}
    (h : Known adapter w own baseline revision) : Known adapter w' own baseline revision where
  le := h.le.trans hg.revision
  ge := h.ge
  baseline := fun x hx => (h.baseline x hx).grows hg h.le

theorem ReadStageKeeps.grows {baseline : List (ι × φ)} {stage : ReadStage ω}
    (h : ReadStageKeeps adapter pageCount w own baseline stage) :
    ReadStageKeeps adapter pageCount w' own baseline stage := by
  cases stage with
  | probe answer => trivial
  | pages first page revision read answer =>
    obtain ⟨hpage, hstart, hlater, hanswer⟩ := h
    refine ⟨hpage, hstart, fun hmore => ?_, fun given hgiven => ?_⟩
    · obtain ⟨hknown, hread⟩ := hlater hmore
      rw [hg.editions _ hknown.le]
      exact ⟨hknown.grows hg, hread⟩
    · obtain ⟨hknown, hread⟩ := hanswer given hgiven
      rw [hg.editions _ hknown.le]
      exact ⟨hknown.grows hg, hread⟩

theorem StageKeeps.grows {revision : Nat} {stage : PushStage ι ω φ}
    (h : StageKeeps adapter w revision synced snapshot stage) :
    StageKeeps adapter w' revision synced snapshot stage := by
  cases stage with
  | sending request batch rest => exact ⟨hg.sent _ h.1, h.2⟩
  | readerState => exact h

theorem ReadKeeps.grows {reading : Reading α ω} (h : ReadKeeps adapter pageCount w device reading) :
    ReadKeeps adapter pageCount w' device reading where
  drain := h.drain
  content := fun content hcontent => (h.content content hcontent).mono hg.removed
  stage := h.stage.grows hg

theorem DrainKeeps.grows {drain : Drain ι α ω φ} (h : DrainKeeps adapter w device drain) :
    DrainKeeps adapter w' device drain where
  reading := h.reading
  remote := h.remote
  mirrored := h.mirrored
  taken := h.taken
  fresh := h.fresh.grows hg
  queued := fun snapshot hlatest =>
    ⟨(h.queued snapshot hlatest).1, (h.queued snapshot hlatest).2.mono hg.removed⟩
  stage := h.stage.grows hg

theorem DeviceKeeps.grows (h : DeviceKeeps adapter pageCount w device) :
    DeviceKeeps adapter pageCount w' device where
  synced_ids := by
    rw [hg.editions _ h.revision_le]
    exact h.synced_ids
  synced_once := h.synced_once
  revision_le := h.revision_le.trans hg.revision
  baseline_ever := fun x hx =>
    ((h.baseline_ever x hx).grows hg (Nat.le_refl _)).mono hg.revision
  baseline_kept := h.baseline_kept.mono hg.removed
  synced_kept := fun hremote => (h.synced_kept hremote).mono hg.removed
  remote := fun remote hremote =>
    have hkeeps := h.remote remote hremote
    ⟨hkeeps.ids, hkeeps.syncable, fun x hx => (hkeeps.baseline x hx).grows hg h.revision_le⟩
  latest := fun snapshot hlatest =>
    ⟨(h.latest snapshot hlatest).1, fun htaken hremote =>
      ((h.latest snapshot hlatest).2 htaken hremote).grows hg⟩
  mirrored := h.mirrored
  refreshed_le := h.refreshed_le
  key_sent := fun request hkey => hg.sent _ (h.key_sent request hkey)
  drain := fun drain hdrain => (h.drain drain hdrain).grows hg
  reading := fun reading hreading => (h.reading reading hreading).grows hg

end

theorem ServerKeeps.of_grows (h : ServerKeeps adapter pageCount w) (hg : w.Grows w')
    (hcollection : w'.collection = w.collection) (heditions : w'.editions = w.editions)
    (hresults : w'.results = w.results) (hdeleted : w'.deleted = w.deleted)
    (happlied : w'.applied = w.applied) (hsent : ∀ request ∈ w'.sent, Sendable adapter w' request)
    (hkeys : ∀ request ∈ w'.sent, request.key < w'.nextKey)
    (hone : ∀ request ∈ w'.sent, ∀ other ∈ w'.sent, request.key = other.key →
      request.batch = other.batch) : ServerKeeps adapter pageCount w' where
  empty := by rw [heditions, h.empty]
  current := by rw [hcollection, heditions, h.current]
  gone := by
    unfold World.Ever
    rw [hcollection, heditions]
    exact fun r hr x hever hx => hg.removed x (h.gone r hr x hever hx)
  stored := by
    rw [hcollection, heditions]
    exact h.stored
  deleted := by
    rw [hdeleted]
    exact fun x hx => hg.removed x (h.deleted x hx)
  sent := hsent
  keys := hkeys
  one_batch := hone
  results := by
    rw [hresults]
    exact fun result hresult => (h.results result hresult).grows hg
  receipts := by
    rw [hcollection]
    intro receipt hreceipt
    obtain ⟨hold, happlied⟩ := h.receipts receipt hreceipt
    exact ⟨hg.sent _ hold, happlied.grows hg⟩
  applied := by rw [happlied, hcollection, h.applied]
  keys_once := by
    rw [happlied]
    exact h.keys_once
  expected_once := by
    rw [happlied]
    exact h.expected_once

section
variable {request : Request ι ω} {next : Collection ι ω} {result : SyncResult ι}

theorem Applies.next_revision (h : Applies adapter pageCount w.collection next request result)
    (hserver : ServerKeeps adapter pageCount w) (hsend : Sendable adapter w request) :
    result.revision = w.collection.revision + 1 := by
  rw [h.moves, if_pos]
  by_cases hwrites : request.batch.annotations = []
  · have hsome : request.batch.deletedIds ≠ [] := hsend.changes.resolve_left (not_not.mpr hwrites)
    obtain ⟨x, hx⟩ := exists_mem_of_ne_nil _ hsome
    have hlive := hsend.held x hx
    rw [← h.expected, hserver.current] at hlive
    exact .inr (ne_nil_of_mem ((h.deleted x).mpr ⟨hlive, hx⟩))
  · exact .inl hwrites

theorem Applies.grows (h : Applies adapter pageCount w.collection next request result)
    (hserver : ServerKeeps adapter pageCount w) (hsend : Sendable adapter w request) :
    w.Grows (w.records request next result) where
  revision := by
    show w.collection.revision ≤ next.revision
    rw [h.revision, h.next_revision hserver hsend]
    omega
  editions := by
    intro r hr
    have hne : r ≠ next.revision := by
      rw [h.revision, h.next_revision hserver hsend]
      omega
    exact Function.update_of_ne hne _ _
  removed := fun _ hx => hx
  sent := fun _ hr => hr

theorem Applies.applied (h : Applies adapter pageCount w.collection next request result)
    (hserver : ServerKeeps adapter pageCount w) (hsend : Sendable adapter w request) :
    Applied adapter (w.records request next result) request result.revision := by
  have hnext := h.next_revision hserver hsend
  refine ⟨by rw [hnext, h.expected], Nat.le_of_eq h.revision.symm, ?_⟩
  have hbefore : (w.records request next result).editions request.batch.expected =
      w.collection.live := by
    rw [(h.grows hserver hsend).editions _ hsend.expected_le, ← h.expected, hserver.current]
  have hafter : (w.records request next result).editions result.revision = next.live := by
    show Function.update w.editions next.revision next.live result.revision = next.live
    rw [h.revision, Function.update_self]
  rw [hbefore, hafter]
  exact h.ids

theorem Applies.gone (h : Applies adapter pageCount w.collection next request result)
    (hserver : ServerKeeps adapter pageCount w) (hsend : Sendable adapter w request)
    (hr : r ≤ next.revision) (hever : (w.records request next result).Ever adapter r x)
    (hx : x ∉ adapter.mutationIds ((w.records request next result).editions r)) :
    x ∈ w.removed := by
  have hnext := h.next_revision hserver hsend
  have hg := h.grows hserver hsend
  obtain ⟨first, hfirst, hin⟩ := hever
  have hne : first ≠ next.revision := by
    rintro rfl
    exact hx (Nat.le_antisymm hfirst hr ▸ hin)
  have hrevision := h.revision
  have hold : first ≤ w.collection.revision := by omega
  rw [hg.editions first hold] at hin
  by_cases hnow : r = next.revision
  · have hlast : r ≠ first := by omega
    have hleft : x ∉ adapter.mutationIds next.live := by
      have hedition : (w.records request next result).editions r = next.live := by
        rw [hnow]
        exact Function.update_self _ _ _
      rwa [hedition] at hx
    by_cases hlive : x ∈ adapter.mutationIds w.collection.live
    · have hdeleted : x ∈ request.batch.deletedIds := by
        by_contra hkept
        exact hleft ((h.ids x).mpr (.inr ⟨hlive, hkept⟩))
      exact hsend.removed x hdeleted
    · rw [← hserver.current] at hlive
      exact hserver.gone _ (Nat.le_refl _) x ⟨first, hold, hin⟩ hlive
  · have hle : r ≤ w.collection.revision := by omega
    rw [hg.editions r hle] at hx
    exact hserver.gone r hle x ⟨first, hfirst, hin⟩ hx

theorem ServerKeeps.records (h : ServerKeeps adapter pageCount w)
    (happlies : Applies adapter pageCount w.collection next request result)
    (hin : request ∈ w.sent) : ServerKeeps adapter pageCount (w.records request next result) := by
  have hsend := h.sent request hin
  have hg := happlies.grows h hsend
  have happlied := happlies.applied h hsend
  have hnext := happlies.next_revision h hsend
  refine
    { empty := (hg.editions 0 (Nat.zero_le _)).trans h.empty
      current := ?_
      gone := fun r hr x hever hx => happlies.gone h hsend hr hever hx
      stored := ?_
      deleted := ?_
      sent := fun other hother => (h.sent other hother).grows hg
      keys := h.keys
      one_batch := h.one_batch
      results := fun given hgiven => (h.results given hgiven).grows hg
      receipts := ?_
      applied := ?_
      keys_once := ?_
      expected_once := ?_ }
  · exact Function.update_self _ _ _
  · intro r hr wire hwire
    by_cases hnow : r = next.revision
    · have hedition : (w.records request next result).editions r = next.live := by
        rw [hnow]
        exact Function.update_self _ _ _
      rw [hedition] at hwire
      rcases happlies.from_batch wire hwire with hbatch | hlive
      · exact ⟨happlies.fits wire hbatch, hsend.written wire hbatch⟩
      · rw [← h.current] at hlive
        exact h.stored _ (Nat.le_refl _) wire hlive
    · have hr' : r ≤ next.revision := hr
      have hrevision := happlies.revision
      have hle : r ≤ w.collection.revision := by omega
      rw [hg.editions r hle] at hwire
      exact h.stored r hle wire hwire
  · intro x hx
    rcases mem_append.mp hx with hold | hnew
    · exact h.deleted x hold
    · exact hsend.removed x ((happlies.deleted x).mp hnew).2
  · intro receipt hreceipt
    have hall : receipt ∈ next.receipts := hreceipt
    rw [happlies.receipts] at hall
    rcases mem_append.mp hall with hold | hnew
    · obtain ⟨hsent, hbefore⟩ := h.receipts receipt hold
      exact ⟨hsent, hbefore.grows hg⟩
    · obtain rfl := mem_singleton.mp hnew
      exact ⟨hin, happlied⟩
  · show w.applied ++ [request] = next.receipts.map (·.request)
    rw [happlies.receipts, map_append, ← h.applied, map_singleton]
  · show ((w.applied ++ [request]).map (·.key)).Nodup
    rw [map_append, map_singleton]
    refine nodup_append.mpr ⟨h.keys_once, nodup_singleton _, ?_⟩
    intro key hkey other hother heq
    rw [h.applied, map_map] at hkey
    obtain ⟨receipt, hreceipt, rfl⟩ := mem_map.mp hkey
    exact happlies.unanswered receipt hreceipt (heq.trans (mem_singleton.mp hother))
  · show ((w.applied ++ [request]).map (·.batch.expected)).Nodup
    rw [map_append, map_singleton]
    refine nodup_append.mpr ⟨h.expected_once, nodup_singleton _, ?_⟩
    intro expected hexpected other hother heq
    rw [h.applied, map_map] at hexpected
    obtain ⟨receipt, hreceipt, rfl⟩ := mem_map.mp hexpected
    have hbefore := (h.receipts receipt hreceipt).2
    have hlt := hbefore.next ▸ hbefore.revision_le
    have hsame : receipt.request.batch.expected = w.collection.revision :=
      heq.trans ((mem_singleton.mp hother).trans happlies.expected.symm)
    omega

theorem Keeps.grows (h : Keeps adapter pageCount w) (hserver : ServerKeeps adapter pageCount w')
    (hg : w.Grows w') (hdevices : w'.devices = w.devices) : Keeps adapter pageCount w' where
  server := hserver
  devices := by
    intro d
    rw [hdevices]
    exact (h.devices d).grows hg

theorem World.Grows.gives (hg : w.Grows w') (request : Request ι ω) (revision : Nat) :
    w.Grows { w' with results := w'.results ++ [(request, revision)] } :=
  ⟨hg.revision, hg.editions, hg.removed, hg.sent⟩

theorem ServerKeeps.gives (h : ServerKeeps adapter pageCount w) {revision : Nat}
    (happlied : Applied adapter w request revision) :
    ServerKeeps adapter pageCount { w with results := w.results ++ [(request, revision)] } :=
  have hg := (World.Grows.refl w).gives request revision
  { empty := h.empty
    current := h.current
    gone := h.gone
    stored := h.stored
    deleted := h.deleted
    sent := fun other hother => (h.sent other hother).grows hg
    keys := h.keys
    one_batch := h.one_batch
    results := by
      intro given hgiven
      rcases mem_append.mp hgiven with hold | hnew
      · exact (h.results given hold).grows hg
      · obtain rfl := mem_singleton.mp hnew
        exact happlied.grows hg
    receipts := fun receipt hreceipt =>
      ⟨(h.receipts receipt hreceipt).1, (h.receipts receipt hreceipt).2.grows hg⟩
    applied := h.applied
    keys_once := h.keys_once
    expected_once := h.expected_once }

theorem Keeps.handle [DecidableEq δ] [DecidableEq ι] [DecidableEq ω] [DecidableEq φ]
    (h : Keeps adapter pageCount w)
    (hin : request ∈ w.sent) (hhandle : handle adapter pageCount w request = .ok w') :
    Keeps adapter pageCount w' := by
  unfold Workspace.handle at hhandle
  split at hhandle
  · simp at hhandle
  · next next result hsync =>
    obtain rfl := Except.ok.inj hhandle
    rcases syncAnnotations_ok hsync with ⟨rfl, hreplayed, receipt, hreceipt, -, hbatch, hrevision⟩ |
        ⟨hfirst, happlies⟩
    · rw [if_pos hreplayed]
      have hold := (h.server.receipts receipt hreceipt).2
      have happlied : Applied adapter w request result.revision := by
        rw [← hrevision]
        exact ⟨hbatch ▸ hold.next, hold.revision_le, hbatch ▸ hold.ids⟩
      exact h.grows (h.server.gives happlied) ((World.Grows.refl w).gives _ _) rfl
    · rw [if_neg (by simp [hfirst])]
      have hsend := h.server.sent request hin
      have hrecords := h.server.records happlies hin
      have hg := happlies.grows h.server hsend
      exact h.grows (hrecords.gives (happlies.applied h.server hsend)) (hg.gives _ _) rfl

end

end LockIn.Workspace
