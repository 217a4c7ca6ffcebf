import LockIn.Workspace.CatalogSync

/-!
# What each call of the sync does

One lemma for each operation, in terms of ids: which ids a batch leaves on the server, which
the merge keeps, what the mutations of a push make of the map of synced annotations, and what
a read returns.
-/

namespace LockIn.Workspace

open List Outcome

variable {δ ι α ω φ : Type} {adapter : Adapter ι α ω φ} {pageCount : Nat}

namespace Adapter

variable {items : List α}

theorem mem_ids {x : ι} : x ∈ adapter.ids items ↔ ∃ item ∈ items, adapter.id item = x :=
  mem_map

theorem mem_syncableIds {x : ι} :
    x ∈ adapter.syncableIds items ↔
      ∃ item ∈ items, adapter.isServerSyncable item = true ∧ adapter.id item = x := by
  simp [syncableIds, ids, and_assoc]

theorem syncableIds_append (items others : List α) :
    adapter.syncableIds (items ++ others) =
      adapter.syncableIds items ++ adapter.syncableIds others := by
  simp [syncableIds, ids]

theorem syncableIds_of_all (h : ∀ item ∈ items, adapter.isServerSyncable item = true) :
    adapter.syncableIds items = adapter.ids items := by
  unfold syncableIds
  rw [filter_eq_self.mpr h]

theorem syncableIds_of_none (h : ∀ item ∈ items, adapter.isServerSyncable item = false) :
    adapter.syncableIds items = [] := by
  unfold syncableIds ids
  rw [map_eq_nil_iff, filter_eq_nil_iff]
  intro item hitem hsync
  exact absurd (hsync.symm.trans (h item hitem)) (by simp)

end Adapter

theorem mem_mutationIds {wires : List ω} {x : ι} :
    x ∈ adapter.mutationIds wires ↔ ∃ wire ∈ wires, adapter.mutationId wire = x :=
  mem_map

variable {rows : List (Row ω)} {wire : ω}

theorem mem_liveRows :
    wire ∈ liveRows rows ↔ ∃ row ∈ rows, row.deleted = false ∧ row.mutation = wire := by
  simp [liveRows, and_assoc]

variable {collection : Collection ι ω}

section
variable [DecidableEq ι]

theorem mem_live_saveMutation {other : ω} :
    other ∈ liveRows (saveMutation adapter rows wire) ↔
      other = wire ∨
        (other ∈ liveRows rows ∧ adapter.mutationId other ≠ adapter.mutationId wire) := by
  unfold saveMutation
  rw [mem_liveRows]
  split
  · next hsome =>
    obtain ⟨found, hfound, hid⟩ := List.any_eq_true.mp hsome
    rw [decide_eq_true_eq] at hid
    constructor
    · rintro ⟨row, hrow, hlive, rfl⟩
      rcases Table.mem_put.mp hrow with ⟨rfl, _⟩ | ⟨hold, hne⟩
      · exact .inl rfl
      · exact .inr ⟨mem_liveRows.mpr ⟨row, hold, hlive, rfl⟩, hne⟩
    · rintro (rfl | ⟨hlive, hne⟩)
      · exact ⟨⟨other, false⟩, Table.mem_put.mpr (.inl ⟨rfl, found, hfound, hid⟩), rfl, rfl⟩
      · obtain ⟨row, hrow, hdeleted, rfl⟩ := mem_liveRows.mp hlive
        exact ⟨row, Table.mem_put.mpr (.inr ⟨hrow, hne⟩), hdeleted, rfl⟩
  · next hnone =>
    rw [Bool.not_eq_true, any_eq_false] at hnone
    constructor
    · rintro ⟨row, hrow, hlive, rfl⟩
      rcases mem_append.mp hrow with hold | hnew
      · have hne := hnone row hold
        rw [decide_eq_true_eq] at hne
        exact .inr ⟨mem_liveRows.mpr ⟨row, hold, hlive, rfl⟩, hne⟩
      · exact .inl (by rw [mem_singleton.mp hnew])
    · rintro (rfl | ⟨hlive, _⟩)
      · exact ⟨⟨other, false⟩, mem_append_right _ (mem_singleton_self _), rfl, rfl⟩
      · obtain ⟨row, hrow, hdeleted, rfl⟩ := mem_liveRows.mp hlive
        exact ⟨row, mem_append_left _ hrow, hdeleted, rfl⟩

theorem mem_live_foldl {wires : List ω} {other : ω}
    (h : other ∈ liveRows (wires.foldl (saveMutation adapter) rows)) :
    other ∈ wires ∨ other ∈ liveRows rows := by
  induction wires generalizing rows with
  | nil => exact .inr h
  | cons wire rest ih =>
    rcases ih h with hrest | hlive
    · exact .inl (mem_cons_of_mem _ hrest)
    · rcases mem_live_saveMutation.mp hlive with rfl | ⟨hold, _⟩
      · exact .inl mem_cons_self
      · exact .inr hold

theorem mem_ids_foldl {wires : List ω} {x : ι} :
    x ∈ adapter.mutationIds (liveRows (wires.foldl (saveMutation adapter) rows)) ↔
      x ∈ adapter.mutationIds wires ∨ x ∈ adapter.mutationIds (liveRows rows) := by
  induction wires generalizing rows with
  | nil => simp [Adapter.mutationIds]
  | cons wire rest ih =>
    have hone : x ∈ adapter.mutationIds (liveRows (saveMutation adapter rows wire)) ↔
        x = adapter.mutationId wire ∨ x ∈ adapter.mutationIds (liveRows rows) := by
      rw [mem_mutationIds, mem_mutationIds]
      constructor
      · rintro ⟨other, hother, rfl⟩
        rcases mem_live_saveMutation.mp hother with rfl | ⟨hold, _⟩
        · exact .inl rfl
        · exact .inr ⟨other, hold, rfl⟩
      · rintro (rfl | ⟨other, hother, rfl⟩)
        · exact ⟨wire, mem_live_saveMutation.mpr (.inl rfl), rfl⟩
        · by_cases hsame : adapter.mutationId other = adapter.mutationId wire
          · exact ⟨wire, mem_live_saveMutation.mpr (.inl rfl), hsame.symm⟩
          · exact ⟨other, mem_live_saveMutation.mpr (.inr ⟨hother, hsame⟩), rfl⟩
    have hcons : x ∈ adapter.mutationIds (wire :: rest) ↔
        x = adapter.mutationId wire ∨ x ∈ adapter.mutationIds rest := by
      simp [Adapter.mutationIds]
    rw [foldl_cons, ih, hone, hcons]
    tauto

theorem mem_live_markDeleted {deletedIds : List ι} :
    wire ∈ liveRows (markDeleted adapter rows deletedIds) ↔
      wire ∈ liveRows rows ∧ adapter.mutationId wire ∉ deletedIds := by
  rw [mem_liveRows, mem_liveRows]
  constructor
  · rintro ⟨row, hrow, hlive, rfl⟩
    obtain ⟨old, hold, rfl⟩ := mem_map.mp hrow
    by_cases hin : adapter.mutationId old.mutation ∈ deletedIds
    · rw [if_pos hin] at hlive
      simp at hlive
    · rw [if_neg hin] at hlive ⊢
      exact ⟨⟨old, hold, hlive, rfl⟩, hin⟩
  · rintro ⟨⟨row, hrow, hlive, rfl⟩, hin⟩
    refine ⟨row, mem_map.mpr ⟨row, hrow, if_neg hin⟩, hlive, rfl⟩

def Batch.leaves (adapter : Adapter ι α ω φ) (batch : Batch ι ω) (before : List ι) (x : ι) : Prop :=
  x ∈ adapter.mutationIds batch.annotations ∨ (x ∈ before ∧ x ∉ batch.deletedIds)

structure Applies (adapter : Adapter ι α ω φ) (pageCount : Nat) (collection next : Collection ι ω)
    (request : Request ι ω) (result : SyncResult ι) : Prop where
  expected : collection.revision = request.batch.expected
  unanswered : ∀ receipt ∈ collection.receipts, receipt.request.key ≠ request.key
  receipts : next.receipts = collection.receipts ++ [⟨request, result⟩]
  revision : next.revision = result.revision
  moves : result.revision =
    if request.batch.annotations ≠ [] ∨ result.deletedIds ≠ [] then collection.revision + 1
    else collection.revision
  fits : ∀ wire ∈ request.batch.annotations, adapter.pageNumber wire ≤ pageCount
  from_batch : ∀ wire ∈ next.live, wire ∈ request.batch.annotations ∨ wire ∈ collection.live
  ids : ∀ x, x ∈ adapter.mutationIds next.live ↔
    request.batch.leaves adapter (adapter.mutationIds collection.live) x
  deleted : ∀ x, x ∈ result.deletedIds ↔
    x ∈ adapter.mutationIds collection.live ∧ x ∈ request.batch.deletedIds

theorem disjoint_of_wellFormed {batch : Batch ι ω} (h : wellFormed adapter batch = true) :
    ∀ x ∈ adapter.mutationIds batch.annotations, x ∉ batch.deletedIds := by
  unfold wellFormed at h
  rw [decide_eq_true_eq] at h
  exact h.2.2.2

variable {request : Request ι ω}

theorem applyBatch_spec (hformed : wellFormed adapter request.batch = true)
    (hexpected : collection.revision = request.batch.expected)
    (hnew : ∀ receipt ∈ collection.receipts, receipt.request.key ≠ request.key)
    (hfits : ∀ wire ∈ request.batch.annotations, adapter.pageNumber wire ≤ pageCount) :
    Applies adapter pageCount collection (applyBatch adapter collection request).1 request
      (applyBatch adapter collection request).2 where
  expected := hexpected
  unanswered := hnew
  receipts := rfl
  revision := rfl
  moves := rfl
  fits := hfits
  from_batch := by
    intro wire hwire
    obtain ⟨hsaved, _⟩ := mem_live_markDeleted.mp hwire
    exact mem_live_foldl hsaved
  ids := by
    intro x
    have hdisjoint := disjoint_of_wellFormed hformed x
    have hsaved : x ∈ adapter.mutationIds (liveRows (request.batch.annotations.foldl
        (saveMutation adapter) collection.rows)) ↔ _ := mem_ids_foldl
    constructor
    · intro hx
      obtain ⟨wire, hwire, rfl⟩ := mem_mutationIds.mp hx
      obtain ⟨hlive, hkept⟩ := mem_live_markDeleted.mp hwire
      exact (hsaved.mp (mem_mutationIds.mpr ⟨wire, hlive, rfl⟩)).imp_right (⟨·, hkept⟩)
    · intro hx
      have hkept : x ∉ request.batch.deletedIds := hx.elim hdisjoint (·.2)
      obtain ⟨wire, hwire, rfl⟩ := mem_mutationIds.mp (hsaved.mpr (hx.imp_right (·.1)))
      exact mem_mutationIds.mpr ⟨wire, mem_live_markDeleted.mpr ⟨hwire, hkept⟩, rfl⟩
  deleted := by
    intro x
    have hdisjoint := disjoint_of_wellFormed hformed x
    have hsaved : x ∈ adapter.mutationIds (liveRows (request.batch.annotations.foldl
        (saveMutation adapter) collection.rows)) ↔ _ := mem_ids_foldl
    show x ∈ deletedBy adapter _ _ ↔ _
    unfold deletedBy
    rw [mem_filter, hsaved, decide_eq_true_eq]
    constructor
    · rintro ⟨hin | hin, hdeleted⟩
      · exact absurd hdeleted (hdisjoint hin)
      · exact ⟨hin, hdeleted⟩
    · rintro ⟨hin, hdeleted⟩
      exact ⟨.inr hin, hdeleted⟩

theorem syncAnnotations_ok [DecidableEq ω] {next : Collection ι ω} {result : SyncResult ι}
    (h : syncAnnotations adapter pageCount collection request = .ok (next, result)) :
    (next = collection ∧ result.replayed = true ∧ ∃ receipt ∈ collection.receipts,
        receipt.request.key = request.key ∧ receipt.request.batch = request.batch ∧
          receipt.result.revision = result.revision) ∨
      (result.replayed = false ∧ Applies adapter pageCount collection next request result) := by
  obtain ⟨hformed, h⟩ := unless_ok.1 h
  rw [Bool.not_eq_false] at hformed
  split at h
  · next receipt hfind =>
    obtain ⟨hsame, h⟩ := when_ok.1 h
    obtain ⟨rfl, rfl⟩ := Prod.mk.inj (Except.ok.inj h)
    exact .inl ⟨rfl, rfl, receipt, mem_of_find?_eq_some hfind,
      by simpa using find?_some hfind, hsame, rfl⟩
  · next hnone =>
    rw [find?_eq_none] at hnone
    obtain ⟨hexpected, h⟩ := unless_ok.1 h
    obtain ⟨hvalid, h⟩ := unless_ok.1 h
    rw [Bool.not_eq_true, any_eq_false] at hvalid
    have hfits : ∀ wire ∈ request.batch.annotations, adapter.pageNumber wire ≤ pageCount := by
      intro wire hwire
      have hone := hvalid wire hwire
      rw [Bool.or_eq_true, not_or, decide_eq_true_eq] at hone
      omega
    have hspec := applyBatch_spec hformed (not_not.mp hexpected)
      (fun receipt hreceipt => by simpa using hnone receipt hreceipt) hfits
    obtain ⟨rfl, rfl⟩ := Prod.mk.inj (Except.ok.inj h)
    exact .inr ⟨rfl, hspec⟩

end

theorem mem_annotationsForPages {first : Nat} {wires : List ω} :
    wire ∈ annotationsForPages adapter pageCount first wires ↔
      wire ∈ wires ∧ first ≤ adapter.pageNumber wire ∧
        adapter.pageNumber wire < first + pagesPerRead ∧ adapter.pageNumber wire ≤ pageCount := by
  unfold annotationsForPages
  rw [mem_insertionSort, mem_filter, decide_eq_true_eq]

/-- What has been read when page `page` of the ten pages from `first` comes next. -/
def ReadUpTo (adapter : Adapter ι α ω φ) (pageCount : Nat) (wires : List ω) (first page : Nat)
    (read : List ω) : Prop :=
  ∀ wire, wire ∈ read ↔ (wire ∈ wires ∧ adapter.pageNumber wire < first) ∨
    wire ∈ (annotationsForPages adapter pageCount first wires).take ((page - 1) * pageSize)

structure Answers (adapter : Adapter ι α ω φ) (pageCount : Nat) (wires : List ω) (first page : Nat)
    (answer : AnnotationPage ω) : Prop where
  results : answer.results =
    ((annotationsForPages adapter pageCount first wires).drop ((page - 1) * pageSize)).take pageSize
  next : answer.next = decide
    (page * pageSize < (annotationsForPages adapter pageCount first wires).length)

theorem getAnnotations_eq_some {first page : Nat} {answer : AnnotationPage ω}
    (h : getAnnotations adapter pageCount collection first page = some answer) :
    answer.revision = collection.revision ∧
      Answers adapter pageCount collection.live first page answer := by
  unfold getAnnotations at h
  obtain ⟨_, h⟩ := Option.ite_none_left_eq_some.1 h
  obtain rfl := Option.some.inj h
  exact ⟨rfl, rfl, rfl⟩

namespace ReadUpTo

variable {wires read : List ω} {first page : Nat} {answer : AnnotationPage ω}

theorem start (h : ∀ wire ∈ wires, 1 ≤ adapter.pageNumber wire) :
    ReadUpTo adapter pageCount wires 1 1 [] := by
  intro wire
  have hzero : (1 - 1) * pageSize = 0 := by simp
  rw [hzero, take_zero]
  constructor
  · intro hin
    exact absurd hin not_mem_nil
  · rintro (⟨hin, hlt⟩ | hin)
    · have hone := h wire hin
      omega
    · exact hin

theorem read_page (h : ReadUpTo adapter pageCount wires first page read) (hpage : 1 ≤ page)
    (ha : Answers adapter pageCount wires first page answer) :
    ReadUpTo adapter pageCount wires first (page + 1) (read ++ answer.results) := by
  intro wire
  have hsize : (page + 1 - 1) * pageSize = (page - 1) * pageSize + pageSize := by
    obtain ⟨before, rfl⟩ : ∃ before, page = before + 1 := ⟨page - 1, by omega⟩
    simp [Nat.add_mul]
  rw [mem_append, h wire, ha.results, hsize, take_add, mem_append, or_assoc]

theorem read_ten (h : ReadUpTo adapter pageCount wires first page read) (hpage : 1 ≤ page)
    (ha : Answers adapter pageCount wires first page answer) (hlast : answer.next = false)
    (hfits : ∀ wire ∈ wires, adapter.pageNumber wire ≤ pageCount) :
    ReadUpTo adapter pageCount wires (first + pagesPerRead) 1 (read ++ answer.results) := by
  intro wire
  have hall : (annotationsForPages adapter pageCount first wires).take ((page + 1 - 1) * pageSize) =
      annotationsForPages adapter pageCount first wires := by
    refine take_of_length_le ?_
    have hnext := ha.next.symm.trans hlast
    rw [decide_eq_false_iff_not] at hnext
    rw [Nat.add_sub_cancel]
    omega
  have hzero : (1 - 1) * pageSize = 0 := by simp
  rw [h.read_page hpage ha wire, hall, mem_annotationsForPages, hzero, take_zero]
  constructor
  · rintro (⟨hin, hlt⟩ | ⟨hin, _, hlt, _⟩)
    · exact .inl ⟨hin, by omega⟩
    · exact .inl ⟨hin, hlt⟩
  · rintro (⟨hin, hlt⟩ | hin)
    · by_cases hbefore : adapter.pageNumber wire < first
      · exact .inl ⟨hin, hbefore⟩
      · exact .inr ⟨hin, by omega, hlt, hfits wire hin⟩
    · exact absurd hin not_mem_nil

theorem complete (h : ReadUpTo adapter pageCount wires first 1 read) (hpast : pageCount < first)
    (hfits : ∀ wire ∈ wires, adapter.pageNumber wire ≤ pageCount) (wire : ω) :
    wire ∈ read ↔ wire ∈ wires := by
  have hzero : (1 - 1) * pageSize = 0 := by simp
  rw [h wire, hzero, take_zero]
  constructor
  · rintro (⟨hin, _⟩ | hin)
    · exact hin
    · exact absurd hin not_mem_nil
  · intro hin
    have hfit := hfits wire hin
    exact .inl ⟨hin, by omega⟩

end ReadUpTo

section
variable [DecidableEq ι] [DecidableEq φ] {content remote : List α} {base : List (ι × φ)}
  {item other : α} {x : ι}

theorem mem_mergeById (h : other ∈ mergeById adapter content remote base) :
    other ∈ content ∨ other ∈ remote := by
  rw [mergeById, ThreeWay.mergeById_items] at h
  rcases mem_append.mp h with hlocal | hadded
  · obtain ⟨item, hitem, hmerge⟩ := mem_filterMap.mp hlocal
    rcases ThreeWay.resolve_eq_some hmerge with rfl | hremote
    · exact .inl hitem
    · exact .inr (ThreeWay.mem_of_get_remote adapter.id hremote).1
  · exact .inr (mem_of_mem_filter hadded)

/-- An annotation of the device is kept, unless the server deleted what the baseline has. -/
theorem mem_ids_mergeById_of_content (h : x ∈ adapter.ids content) :
    x ∈ adapter.ids (mergeById adapter content remote base) ∨
      (x ∉ adapter.ids remote ∧ x ∈ Dictionary.keys base) := by
  obtain ⟨item, hitem, rfl⟩ := Adapter.mem_ids.mp h
  rw [mergeById, ThreeWay.mergeById_items]
  cases hmerge : ThreeWay.resolve adapter.print
      (Dictionary.get (Dictionary.ofList (remote.map fun item => (adapter.id item, item)))
        (adapter.id item)) (Dictionary.get base (adapter.id item)) item with
  | none =>
    obtain ⟨hget, hknown⟩ := ThreeWay.resolve_eq_none.mp hmerge
    rw [Dictionary.get_eq_none, Dictionary.mem_keys_ofList] at hget
    refine .inr ⟨fun hin => hget ?_, Dictionary.mem_keys_of_get hknown.symm⟩
    unfold Dictionary.keys
    rw [map_map]
    exact hin
  | some other =>
    have hid : adapter.id other = adapter.id item := by
      rcases ThreeWay.resolve_eq_some hmerge with rfl | hremote
      · rfl
      · exact (ThreeWay.mem_of_get_remote adapter.id hremote).2
    refine .inl (Adapter.mem_ids.mpr ⟨other, mem_append_left _ ?_, hid⟩)
    exact mem_filterMap.mpr ⟨item, hitem, hmerge⟩

/-- An annotation of the server arrives, unless the device dropped what its baseline has. -/
theorem mem_ids_mergeById_of_remote (h : x ∈ adapter.ids remote) :
    x ∈ adapter.ids (mergeById adapter content remote base) ∨
      (x ∉ adapter.ids content ∧ x ∈ Dictionary.keys base) := by
  by_cases hcontent : x ∈ adapter.ids content
  · exact (mem_ids_mergeById_of_content hcontent).imp_right fun hgone => absurd h hgone.1
  · obtain ⟨item, hitem, rfl⟩ := Adapter.mem_ids.mp h
    by_cases hknown : Dictionary.get base (adapter.id item) = some (adapter.print item)
    · exact .inr ⟨hcontent, Dictionary.mem_keys_of_get hknown⟩
    · rw [mergeById, ThreeWay.mergeById_items]
      refine .inl (Adapter.mem_ids.mpr ⟨item, mem_append_right _ ?_, rfl⟩)
      exact mem_filter.mpr ⟨hitem, decide_eq_true ⟨hcontent, hknown⟩⟩

end

namespace Mutation

def writtenId? : Mutation ι ω φ → Option ι
  | write id _ _ => some id
  | delete _ => none

end Mutation

def writtenIds (mutations : List (Mutation ι ω φ)) : List ι := mutations.filterMap (·.writtenId?)

def deletedIds (mutations : List (Mutation ι ω φ)) : List ι := mutations.filterMap (·.deletedId?)

section
variable {left : List (Mutation ι ω φ)} {x : ι}

theorem mem_writtenIds :
    x ∈ writtenIds left ↔ ∃ print wire, Mutation.write x print wire ∈ left := by
  unfold writtenIds
  rw [mem_filterMap]
  constructor
  · rintro ⟨mutation, hmem, hid⟩
    cases mutation with
    | write id print wire =>
      obtain rfl := Option.some.inj hid
      exact ⟨print, wire, hmem⟩
    | delete id => exact absurd hid (by simp [Mutation.writtenId?])
  · rintro ⟨print, wire, hmem⟩
    exact ⟨_, hmem, rfl⟩

theorem mem_deletedIds : x ∈ deletedIds left ↔ Mutation.delete x ∈ left := by
  unfold deletedIds
  rw [mem_filterMap]
  constructor
  · rintro ⟨mutation, hmem, hid⟩
    cases mutation with
    | write id print wire => exact absurd hid (by simp [Mutation.deletedId?])
    | delete id =>
      obtain rfl := Option.some.inj hid
      exact hmem
  · exact fun hmem => ⟨_, hmem, rfl⟩

theorem mem_mutation_ids_of_deleted (h : x ∈ deletedIds left) : x ∈ left.map (·.id) :=
  mem_map.mpr ⟨_, mem_deletedIds.mp h, rfl⟩

theorem mem_mutation_ids_of_written (h : x ∈ writtenIds left) : x ∈ left.map (·.id) := by
  obtain ⟨print, wire, hmem⟩ := mem_writtenIds.mp h
  exact mem_map.mpr ⟨_, hmem, rfl⟩

theorem deletedIds_append (left right : List (Mutation ι ω φ)) :
    deletedIds (left ++ right) = deletedIds left ++ deletedIds right :=
  filterMap_append

theorem writtenIds_append (left right : List (Mutation ι ω φ)) :
    writtenIds (left ++ right) = writtenIds left ++ writtenIds right :=
  filterMap_append

theorem mem_keys_foldl_applyTo [DecidableEq ι] {synced : List (ι × φ)}
    (hnodup : (left.map (·.id)).Nodup) :
    x ∈ Dictionary.keys (left.foldl Mutation.applyTo synced) ↔
      x ∈ writtenIds left ∨ (x ∈ Dictionary.keys synced ∧ x ∉ deletedIds left) := by
  induction left generalizing synced with
  | nil => simp [writtenIds, deletedIds]
  | cons mutation rest ih =>
    obtain ⟨hfirst, hrest⟩ := nodup_cons.mp hnodup
    rw [foldl_cons, ih hrest]
    cases mutation with
    | write id print wire =>
      have hkeys : x ∈ Dictionary.keys ((Mutation.write id print wire).applyTo synced) ↔
          x = id ∨ x ∈ Dictionary.keys synced := Dictionary.mem_keys_set
      have hwritten : x ∈ writtenIds (Mutation.write id print wire :: rest) ↔
          x = id ∨ x ∈ writtenIds rest := by simp [writtenIds, Mutation.writtenId?]
      have hdeleted : deletedIds (Mutation.write id print wire :: rest) = deletedIds rest := by
        simp [deletedIds, Mutation.deletedId?]
      have honce : x = id → x ∉ deletedIds rest := by
        rintro rfl hin
        exact hfirst (mem_mutation_ids_of_deleted hin)
      rw [hkeys, hwritten, hdeleted]
      tauto
    | delete id =>
      have hkeys : x ∈ Dictionary.keys ((Mutation.delete id : Mutation ι ω φ).applyTo synced) ↔
          x ∈ Dictionary.keys synced ∧ x ≠ id := Dictionary.mem_keys_delete
      have hwritten : writtenIds (Mutation.delete id :: rest) = writtenIds rest := by
        simp [writtenIds, Mutation.writtenId?]
      have hdeleted : x ∈ deletedIds (Mutation.delete id :: rest) ↔
          x = id ∨ x ∈ deletedIds rest := by simp [deletedIds, Mutation.deletedId?]
      rw [hkeys, hwritten, hdeleted]
      tauto

theorem nodup_foldl_applyTo [DecidableEq ι] {synced : List (ι × φ)}
    (h : (Dictionary.keys synced).Nodup) :
    (Dictionary.keys (left.foldl Mutation.applyTo synced)).Nodup := by
  induction left generalizing synced with
  | nil => exact h
  | cons mutation rest ih =>
    cases mutation with
    | write id print wire => exact ih (Dictionary.nodup_set h)
    | delete id => exact ih (Dictionary.nodup_delete h)

end

/-- The mutations still to be sent turn the map of synced annotations into the ids of the
snapshot. -/
structure Outstanding (adapter : Adapter ι α ω φ) (synced : List (ι × φ)) (target : List ι)
    (left : List (Mutation ι ω φ)) : Prop where
  once : (left.map (·.id)).Nodup
  written : ∀ id print wire, Mutation.write id print wire ∈ left →
    ∃ item, adapter.toFocus item = some wire ∧ adapter.id item = id
  deleted : ∀ x ∈ deletedIds left, x ∈ Dictionary.keys synced
  reaches : ∀ x, x ∈ target ↔
    x ∈ writtenIds left ∨ (x ∈ Dictionary.keys synced ∧ x ∉ deletedIds left)

section
variable {synced : List (ι × φ)} {target : List ι} {batch rest left : List (Mutation ι ω φ)}

theorem Outstanding.after_batch [DecidableEq ι] (h : Outstanding adapter synced target (batch ++ rest)) :
    Outstanding adapter (batch.foldl Mutation.applyTo synced) target rest := by
  have honce := h.once
  rw [map_append] at honce
  obtain ⟨hbatch, hrest, hapart⟩ := nodup_append.mp honce
  have hdisjoint : ∀ x ∈ batch.map (·.id), x ∉ rest.map (·.id) :=
    fun x hx hin => hapart x hx x hin rfl
  have hdeletes : ∀ x ∈ deletedIds rest, x ∈ Dictionary.keys (batch.foldl Mutation.applyTo synced) := by
    intro x hx
    have hall : x ∈ deletedIds (batch ++ rest) := by
      rw [deletedIds_append]
      exact mem_append_right _ hx
    refine (mem_keys_foldl_applyTo hbatch).mpr (.inr ⟨h.deleted x hall, fun hin => ?_⟩)
    exact hdisjoint x (mem_mutation_ids_of_deleted hin) (mem_mutation_ids_of_deleted hx)
  refine ⟨hrest, fun id print wire hin => h.written id print wire (mem_append_right _ hin),
    hdeletes, fun x => ?_⟩
  have hnot : x ∈ writtenIds batch → x ∉ deletedIds rest := fun hin hout =>
    hdisjoint x (mem_mutation_ids_of_written hin) (mem_mutation_ids_of_deleted hout)
  rw [h.reaches x, mem_keys_foldl_applyTo hbatch, writtenIds_append, deletedIds_append,
    mem_append, mem_append]
  tauto

theorem Outstanding.done (h : Outstanding adapter synced target []) (x : ι) :
    x ∈ target ↔ x ∈ Dictionary.keys synced := by
  rw [h.reaches x]
  simp [writtenIds, deletedIds]

theorem mem_mutationIds_batchOf {expected : Nat} {x : ι}
    (h : Outstanding adapter synced target (batch ++ rest)) :
    x ∈ adapter.mutationIds (batchOf expected batch).annotations ↔ x ∈ writtenIds batch := by
  rw [mem_mutationIds, mem_writtenIds]
  constructor
  · rintro ⟨wire, hwire, rfl⟩
    obtain ⟨mutation, hmem, hget⟩ := mem_filterMap.mp hwire
    cases mutation with
    | write id print sent =>
      obtain rfl := Option.some.inj hget
      obtain ⟨item, hfocus, rfl⟩ := h.written id print sent (mem_append_left _ hmem)
      rw [adapter.mutationId_toFocus item sent hfocus]
      exact ⟨print, sent, hmem⟩
    | delete id => exact absurd hget (by simp [Mutation.wire?])
  · rintro ⟨print, wire, hmem⟩
    obtain ⟨item, hfocus, rfl⟩ := h.written x print wire (mem_append_left _ hmem)
    exact ⟨wire, mem_filterMap.mpr ⟨_, hmem, rfl⟩, adapter.mutationId_toFocus item wire hfocus⟩

theorem leaves_batchOf [DecidableEq ι] {expected : Nat} {before : List ι}
    (h : Outstanding adapter synced target (batch ++ rest))
    (hbefore : ∀ x, x ∈ before ↔ x ∈ Dictionary.keys synced) (x : ι) :
    (batchOf expected batch).leaves adapter before x ↔
      x ∈ Dictionary.keys (batch.foldl Mutation.applyTo synced) := by
  have honce := h.once
  rw [map_append] at honce
  rw [mem_keys_foldl_applyTo (nodup_append.mp honce).1, Batch.leaves,
    mem_mutationIds_batchOf h, hbefore x]
  exact Iff.rfl

end

section
variable [DecidableEq ι] {synced : List (ι × φ)} {annotations : List α}

variable {entry : ι × α × ω}

/-- The entries of `current`. -/
theorem mem_current (h : entry ∈ current adapter annotations) :
    entry.2.1 ∈ annotations ∧ adapter.id entry.2.1 = entry.1 ∧
      adapter.toFocus entry.2.1 = some entry.2.2 := by
  obtain ⟨item, hitem, hmap⟩ := mem_filterMap.mp (Dictionary.mem_of_mem_ofList h)
  obtain ⟨wire, hwire, rfl⟩ := Option.map_eq_some_iff.mp hmap
  exact ⟨hitem, rfl, hwire⟩

theorem mem_keys_current {x : ι} :
    x ∈ Dictionary.keys (current adapter annotations) ↔ x ∈ adapter.syncableIds annotations := by
  unfold current
  rw [Dictionary.mem_keys_ofList, Adapter.mem_syncableIds]
  unfold Dictionary.keys
  rw [mem_map]
  constructor
  · rintro ⟨entry, hentry, rfl⟩
    obtain ⟨item, hitem, hmap⟩ := mem_filterMap.mp hentry
    obtain ⟨wire, hwire, rfl⟩ := Option.map_eq_some_iff.mp hmap
    exact ⟨item, hitem, by rw [Adapter.isServerSyncable, hwire, Option.isSome_some], rfl⟩
  · rintro ⟨item, hitem, hsync, rfl⟩
    obtain ⟨wire, hwire⟩ := Option.isSome_iff_exists.mp hsync
    exact ⟨(adapter.id item, item, wire), mem_filterMap.mpr ⟨item, hitem, by rw [hwire]; rfl⟩, rfl⟩

private theorem map_filterMap_sublist {β γ κ : Type} {f : β → Option γ} {g : γ → κ} {h : β → κ}
    (hkeeps : ∀ b c, f b = some c → g c = h b) (items : List β) :
    ((items.filterMap f).map g).Sublist (items.map h) := by
  induction items with
  | nil => exact List.Sublist.slnil
  | cons b rest ih =>
    cases hb : f b with
    | none =>
      rw [filterMap_cons_none hb]
      exact ih.cons (h b)
    | some c =>
      rw [filterMap_cons_some hb, map_cons, map_cons, hkeeps b c hb]
      exact ih.cons_cons (h b)

variable [DecidableEq φ]

theorem writeOf_eq_some {mutation : Mutation ι ω φ}
    (h : writeOf adapter synced entry = some mutation) :
    mutation = .write entry.1 (adapter.print entry.2.1) entry.2.2 := by
  obtain ⟨_, h⟩ := Option.ite_none_left_eq_some.1 h
  exact (Option.some.inj h).symm

theorem write_mem_mutations {id : ι} {print : φ}
    (h : Mutation.write id print wire ∈ mutations adapter synced annotations) :
    ∃ item ∈ annotations, adapter.toFocus item = some wire ∧ adapter.id item = id := by
  rcases mem_append.mp h with hwrite | hdelete
  · obtain ⟨entry, hentry, hmap⟩ := mem_filterMap.mp hwrite
    obtain ⟨rfl, _, rfl⟩ := Mutation.write.inj (writeOf_eq_some hmap)
    obtain ⟨hitem, hid, hfocus⟩ := mem_current hentry
    exact ⟨entry.2.1, hitem, hfocus, hid⟩
  · obtain ⟨x, _, heq⟩ := mem_map.mp hdelete
    simp at heq

theorem mem_deletedIds_mutations {x : ι} :
    x ∈ deletedIds (mutations adapter synced annotations : List (Mutation ι ω φ)) ↔
      x ∈ Dictionary.keys synced ∧ x ∉ adapter.syncableIds annotations := by
  rw [mem_deletedIds, ← mem_keys_current]
  constructor
  · intro h
    rcases mem_append.mp h with hwrite | hdelete
    · obtain ⟨entry, _, hmap⟩ := mem_filterMap.mp hwrite
      exact absurd (writeOf_eq_some hmap) (by simp)
    · obtain ⟨y, hy, heq⟩ := mem_map.mp hdelete
      obtain rfl := Mutation.delete.inj heq
      obtain ⟨hkey, hcurrent⟩ := mem_filter.mp hy
      exact ⟨hkey, of_decide_eq_true hcurrent⟩
  · rintro ⟨hkey, hcurrent⟩
    refine mem_append_right _ (mem_map.mpr ⟨x, ?_, rfl⟩)
    exact mem_filter.mpr ⟨hkey, decide_eq_true hcurrent⟩

theorem mem_writtenIds_mutations {x : ι} (h : x ∈ adapter.syncableIds annotations) :
    x ∈ writtenIds (mutations adapter synced annotations : List (Mutation ι ω φ)) ∨
      x ∈ Dictionary.keys synced := by
  obtain ⟨⟨key, item, wire⟩, hentry, rfl⟩ := mem_map.mp (mem_keys_current.mpr h)
  by_cases hknown : Dictionary.get synced key = some (adapter.print item)
  · exact .inr (Dictionary.mem_keys_of_get hknown)
  · refine .inl (mem_writtenIds.mpr ⟨adapter.print item, wire, mem_append_left _ ?_⟩)
    exact mem_filterMap.mpr ⟨(key, item, wire), hentry, if_neg hknown⟩

theorem nodup_mutations (hnodup : (Dictionary.keys synced).Nodup) :
    ((mutations adapter synced annotations : List (Mutation ι ω φ)).map (·.id)).Nodup := by
  unfold mutations
  rw [map_append, map_map]
  have hcurrent : (Dictionary.keys (current adapter annotations)).Nodup := Dictionary.nodup_ofList _
  have hwrites : ((current adapter annotations).filterMap (writeOf adapter synced)).map (·.id)
      |>.Sublist (Dictionary.keys (current adapter annotations)) :=
    map_filterMap_sublist (fun entry mutation hmap => by rw [writeOf_eq_some hmap]; rfl) _
  have hdeletes : ((fun mutation : Mutation ι ω φ => mutation.id) ∘ Mutation.delete) = id := rfl
  rw [hdeletes, map_id]
  refine nodup_append.mpr ⟨hcurrent.sublist hwrites, hnodup.filter _, ?_⟩
  rintro x hx y hy rfl
  exact of_decide_eq_true (mem_filter.mp hy).2 (hwrites.subset hx)

/-- What a push has to send. -/
theorem mutations_outstanding (hnodup : (Dictionary.keys synced).Nodup) :
    Outstanding adapter synced (adapter.syncableIds annotations)
      (mutations adapter synced annotations) where
  once := nodup_mutations hnodup
  written := by
    intro id print wire h
    obtain ⟨item, _, hfocus, hid⟩ := write_mem_mutations h
    exact ⟨item, hfocus, hid⟩
  deleted := fun x hx => (mem_deletedIds_mutations.mp hx).1
  reaches := by
    intro x
    constructor
    · intro h
      refine (mem_writtenIds_mutations h).imp_right fun hkey => ⟨hkey, fun hdeleted => ?_⟩
      exact (mem_deletedIds_mutations.mp hdeleted).2 h
    · rintro (hwritten | ⟨hkey, hkept⟩)
      · obtain ⟨print, wire, hmem⟩ := mem_writtenIds.mp hwritten
        obtain ⟨item, hitem, hfocus, rfl⟩ := write_mem_mutations hmem
        refine Adapter.mem_syncableIds.mpr ⟨item, hitem, ?_, rfl⟩
        rw [Adapter.isServerSyncable, hfocus, Option.isSome_some]
      · by_contra hgone
        exact hkept (mem_deletedIds_mutations.mpr ⟨hkey, hgone⟩)

end

end LockIn.Workspace
