import LockIn.Library.Dictionary
import LockIn.Library.Table

/-!
# The three-way merge of two copies

`mergeById` merges the items that this device holds with those of the server, given the prints
that both agreed on at the last sync.  It walks the items of the device and then those of the
server, and notes whether the device has to take anything over.
-/

namespace LockIn.Workspace.ThreeWay

open List

variable {ι α φ : Type}

/-- The answer of `mergeById`. -/
structure Merge (α : Type) where
  items : List α
  localChanged : Bool

variable {x : ι}

section
variable [DecidableEq ι] [DecidableEq φ] (id : α → ι) (print : α → φ)

def mergeLocalItem (remoteById : List (ι × α)) (base : ι → Option φ) (merge : Merge α)
    (item : α) : Merge α :=
  match Dictionary.get remoteById (id item) with
  | some other =>
    -- Equal prints keep the richer object of the device.
    if print item ≠ print other ∧ some (print item) = base (id item) then
      ⟨merge.items ++ [other], true⟩
    else ⟨merge.items ++ [item], merge.localChanged⟩
  | none =>
    if some (print item) = base (id item) then { merge with localChanged := true }
    else ⟨merge.items ++ [item], merge.localChanged⟩

def mergeRemoteItem (localIds : List ι) (base : ι → Option φ) (merge : Merge α) (item : α) :
    Merge α :=
  if id item ∈ localIds then merge
  else if base (id item) = some (print item) then merge
  else ⟨merge.items ++ [item], true⟩

def mergeById (content remote : List α) (base : ι → Option φ) : Merge α :=
  let remoteById := Dictionary.ofList (remote.map fun item => (id item, item))
  remote.foldl (mergeRemoteItem id print (content.map id) base)
    (content.foldl (mergeLocalItem id print remoteById base) ⟨[], false⟩)

def printsOf (items : List α) : ι → Option φ :=
  Dictionary.get (Dictionary.ofList (items.map fun item => (id item, print item)))

/-- What the merge makes of an item of the device, given the one of the server. -/
def resolve (other : Option α) (known : Option φ) (item : α) : Option α :=
  match other with
  | some other =>
    if print item ≠ print other ∧ some (print item) = known then some other else some item
  | none => if some (print item) = known then none else some item

def takesRemote (other : Option α) (known : Option φ) (item : α) : Bool :=
  match other with
  | some other => print item ≠ print other ∧ some (print item) = known
  | none => some (print item) = known

def addedBy (localIds : List ι) (base : ι → Option φ) (item : α) : Bool :=
  id item ∉ localIds ∧ base (id item) ≠ some (print item)

theorem mergeLocalItem_eq (remoteById : List (ι × α)) (base : ι → Option φ) (merge : Merge α)
    (item : α) :
    mergeLocalItem id print remoteById base merge item =
      ⟨merge.items ++
          (resolve print (Dictionary.get remoteById (id item)) (base (id item)) item).toList,
        merge.localChanged ||
          takesRemote print (Dictionary.get remoteById (id item)) (base (id item)) item⟩ := by
  unfold mergeLocalItem resolve takesRemote
  cases Dictionary.get remoteById (id item) with
  | some other =>
    by_cases hother : print item ≠ print other ∧ some (print item) = base (id item)
    · simp [hother]
    · simp [hother]
  | none =>
    by_cases hknown : some (print item) = base (id item)
    · simp [hknown]
    · simp [hknown]

theorem foldl_mergeLocalItem (remoteById : List (ι × α)) (base : ι → Option φ)
    (content : List α) (merge : Merge α) :
    content.foldl (mergeLocalItem id print remoteById base) merge =
      ⟨merge.items ++ content.filterMap fun item =>
          resolve print (Dictionary.get remoteById (id item)) (base (id item)) item,
        merge.localChanged || content.any fun item =>
          takesRemote print (Dictionary.get remoteById (id item)) (base (id item)) item⟩ := by
  induction content generalizing merge with
  | nil => simp
  | cons item rest ih =>
    rw [foldl_cons, ih, mergeLocalItem_eq]
    cases hresolve : resolve print (Dictionary.get remoteById (id item)) (base (id item)) item with
    | none => simp [hresolve, Bool.or_assoc]
    | some kept => simp [hresolve, Bool.or_assoc]

theorem foldl_mergeRemoteItem (localIds : List ι) (base : ι → Option φ) (remote : List α)
    (merge : Merge α) :
    remote.foldl (mergeRemoteItem id print localIds base) merge =
      ⟨merge.items ++ remote.filter (addedBy id print localIds base),
        merge.localChanged || remote.any (addedBy id print localIds base)⟩ := by
  induction remote generalizing merge with
  | nil => simp
  | cons item rest ih =>
    rw [foldl_cons, ih]
    by_cases hlocal : id item ∈ localIds
    · simp [mergeRemoteItem, addedBy, hlocal]
    · by_cases hknown : base (id item) = some (print item)
      · simp [mergeRemoteItem, addedBy, hlocal, hknown]
      · simp [mergeRemoteItem, addedBy, hlocal, hknown]

theorem mergeById_items (content remote : List α) (base : ι → Option φ) :
    (mergeById id print content remote base).items =
      (content.filterMap fun item => resolve print
          (Dictionary.get (Dictionary.ofList (remote.map fun item => (id item, item))) (id item))
          (base (id item)) item) ++
        remote.filter (addedBy id print (content.map id) base) := by
  unfold mergeById
  simp only [foldl_mergeLocalItem, foldl_mergeRemoteItem, nil_append]

/-- What the server is found to hold under an id is one of its items with that id. -/
theorem mem_of_get_remote {remote : List α} {other : α}
    (h : Dictionary.get (Dictionary.ofList (remote.map fun item => (id item, item))) x =
      some other) : other ∈ remote ∧ id other = x := by
  have hmem := Dictionary.mem_of_mem_ofList (Dictionary.mem_of_get h)
  obtain ⟨original, horiginal, heq⟩ := mem_map.mp hmem
  obtain ⟨hid, rfl⟩ := Prod.mk.inj heq
  exact ⟨horiginal, hid⟩

end

theorem map_id_filterMap {id : α → ι} {f : α → Option α}
    (h : ∀ item kept, f item = some kept → id kept = id item) (content : List α) :
    ((content.filterMap f).map id).Sublist (content.map id) := by
  induction content with
  | nil => exact List.Sublist.slnil
  | cons item rest ih =>
    cases hf : f item with
    | none =>
      rw [filterMap_cons_none hf, map_cons]
      exact ih.cons _
    | some kept =>
      rw [filterMap_cons_some hf, map_cons, map_cons, h item kept hf]
      exact ih.cons_cons _

section
variable [DecidableEq φ] {print : α → φ} {other : Option α} {known : Option φ} {item kept : α}

theorem resolve_eq_none : resolve print other known item = none ↔
    other = none ∧ some (print item) = known := by
  unfold resolve
  cases other with
  | none => by_cases hknown : some (print item) = known <;> simp [hknown]
  | some other =>
    by_cases hother : print item ≠ print other ∧ some (print item) = known <;> simp [hother]

theorem resolve_eq_some (h : resolve print other known item = some kept) :
    kept = item ∨ other = some kept := by
  unfold resolve at h
  cases other with
  | none =>
    simp only at h
    split at h
    · cases h
    · exact .inl (Option.some.inj h).symm
  | some other =>
    simp only at h
    split at h
    · exact .inr h
    · exact .inl (Option.some.inj h).symm

theorem takesRemote_iff : takesRemote print other known item = true ↔
    resolve print other known item ≠ some item := by
  unfold takesRemote resolve
  cases other with
  | none => by_cases hknown : some (print item) = known <;> simp [hknown]
  | some other =>
    by_cases hother : print item ≠ print other ∧ some (print item) = known
    · have hne : other ≠ item := fun heq => hother.1 (heq ▸ rfl)
      simp [hother, hne]
    · simp [hother]

end

section
variable [DecidableEq ι] [DecidableEq φ] {id : α → ι} {print : α → φ} {content remote : List α}
  {base : ι → Option φ} {item kept : α}

def resolved (id : α → ι) (print : α → φ) (remote : List α) (base : ι → Option φ) (item : α) :
    Option α :=
  resolve print (Table.find id remote (id item)) (base (id item)) item

theorem mergeById_eq (hremote : Table.Distinct id remote) :
    mergeById id print content remote base =
      ⟨content.filterMap (resolved id print remote base) ++
          remote.filter (addedBy id print (content.map id) base),
        (content.any fun item =>
          takesRemote print (Table.find id remote (id item)) (base (id item)) item) ||
          remote.any (addedBy id print (content.map id) base)⟩ := by
  have hget (x : ι) : Dictionary.get (Dictionary.ofList (remote.map fun item => (id item, item))) x =
      Table.find id remote x := by
    rw [Dictionary.get_ofList_map hremote (fun item => item), Option.map_id']
  unfold mergeById
  simp only [foldl_mergeLocalItem, foldl_mergeRemoteItem, hget, nil_append, Bool.false_or]
  rfl

theorem resolved_id (h : resolved id print remote base item = some kept) : id kept = id item := by
  rcases resolve_eq_some h with rfl | hother
  · rfl
  · exact Table.find_key hother

theorem mem_items (hremote : Table.Distinct id remote) :
    kept ∈ (mergeById id print content remote base).items ↔
      (∃ item ∈ content, resolved id print remote base item = some kept) ∨
        (kept ∈ remote ∧ id kept ∉ content.map id ∧ base (id kept) ≠ some (print kept)) := by
  rw [mergeById_eq hremote, mem_append, mem_filterMap, mem_filter]
  unfold addedBy
  rw [decide_eq_true_eq]

theorem items_distinct (hcontent : Table.Distinct id content) (hremote : Table.Distinct id remote) :
    Table.Distinct id (mergeById id print content remote base).items := by
  have hlocal := map_id_filterMap (f := resolved id print remote base)
    (fun _ _ h => resolved_id h) content
  unfold Table.Distinct
  rw [mergeById_eq hremote, map_append, nodup_append]
  refine ⟨hcontent.sublist hlocal, hremote.sublist (filter_sublist.map id), ?_⟩
  rintro x hx y hy rfl
  obtain ⟨item, hitem, rfl⟩ := mem_map.1 hy
  have hadded := (mem_filter.1 hitem).2
  unfold addedBy at hadded
  rw [decide_eq_true_eq] at hadded
  exact hadded.1 (hlocal.subset hx)

/-- An item of the device is dropped when the server dropped it and it was left untouched. -/
theorem resolved_eq_none : resolved id print remote base item = none ↔
    id item ∉ remote.map id ∧ base (id item) = some (print item) := by
  unfold resolved
  rw [resolve_eq_none, Table.find_eq_none, eq_comm (b := base (id item)), mem_map, not_exists]
  exact and_congr_left' (forall_congr' fun _ => not_and.symm)

theorem mem_ids_of_content (hremote : Table.Distinct id remote) (hin : x ∈ content.map id) :
    x ∈ (mergeById id print content remote base).items.map id ↔
      ∃ item ∈ content, id item = x ∧ (resolved id print remote base item).isSome := by
  constructor
  · intro h
    obtain ⟨kept, hkept, rfl⟩ := mem_map.1 h
    rcases (mem_items hremote).1 hkept with ⟨item, hitem, hresolved⟩ | ⟨_, hnew, _⟩
    · exact ⟨item, hitem, (resolved_id hresolved).symm, by rw [hresolved]; rfl⟩
    · exact absurd hin hnew
  · rintro ⟨item, hitem, rfl, hsome⟩
    obtain ⟨kept, hkept⟩ := Option.isSome_iff_exists.1 hsome
    exact mem_map.2 ⟨kept, (mem_items hremote).2 (.inl ⟨item, hitem, hkept⟩), resolved_id hkept⟩

variable {mine : α}

/-- An id of the device is kept unless the server dropped it and the device left it untouched. -/
theorem mem_ids_local (hcontent : Table.Distinct id content) (hremote : Table.Distinct id remote)
    (hmine : mine ∈ content) :
    id mine ∈ (mergeById id print content remote base).items.map id ↔
      id mine ∈ remote.map id ∨ base (id mine) ≠ some (print mine) := by
  have hdropped : resolved id print remote base mine = none ↔
      id mine ∉ remote.map id ∧ base (id mine) = some (print mine) := resolved_eq_none
  rw [mem_ids_of_content hremote (mem_map_of_mem hmine)]
  constructor
  · rintro ⟨item, hitem, hid, hsome⟩
    obtain rfl := hcontent.eq hitem hmine hid
    by_contra hnone
    rw [not_or, not_not] at hnone
    rw [hdropped.2 hnone] at hsome
    simp at hsome
  · intro hkept
    refine ⟨mine, hmine, rfl, Option.isSome_iff_ne_none.2 fun hnone => ?_⟩
    obtain ⟨hgone, hknown⟩ := hdropped.1 hnone
    exact hkept.elim hgone fun hchanged => hchanged hknown

theorem mem_ids_remote (hremote : Table.Distinct id remote) (hout : x ∉ content.map id) :
    x ∈ (mergeById id print content remote base).items.map id ↔
      ∃ item ∈ remote, id item = x ∧ base x ≠ some (print item) := by
  constructor
  · intro h
    obtain ⟨kept, hkept, rfl⟩ := mem_map.1 h
    rcases (mem_items hremote).1 hkept with ⟨item, hitem, hresolved⟩ | ⟨hmem, _, hchanged⟩
    · rw [resolved_id hresolved] at hout
      exact absurd (mem_map_of_mem hitem) hout
    · exact ⟨kept, hmem, rfl, hchanged⟩
  · rintro ⟨item, hitem, rfl, hchanged⟩
    exact mem_map_of_mem ((mem_items hremote).2 (.inr ⟨hitem, hout, hchanged⟩))

theorem mem_ids (hcontent : Table.Distinct id content) (hremote : Table.Distinct id remote)
    (x : ι) :
    x ∈ (mergeById id print content remote base).items.map id ↔
      (x ∈ content.map id ∧ x ∈ remote.map id) ∨
        (x ∉ remote.map id ∧ ∃ item ∈ content, id item = x ∧ base x ≠ some (print item)) ∨
        (x ∉ content.map id ∧ ∃ item ∈ remote, id item = x ∧ base x ≠ some (print item)) := by
  by_cases hin : x ∈ content.map id
  · obtain ⟨mine, hmine, rfl⟩ := mem_map.1 hin
    rw [mem_ids_local hcontent hremote hmine]
    constructor
    · intro hkept
      by_cases hboth : id mine ∈ remote.map id
      · exact .inl ⟨hin, hboth⟩
      · exact .inr (.inl ⟨hboth, mine, hmine, rfl, hkept.resolve_left hboth⟩)
    · rintro (⟨_, hboth⟩ | ⟨_, item, hitem, hid, hchanged⟩ | ⟨hout, _⟩)
      · exact .inl hboth
      · obtain rfl := hcontent.eq hitem hmine hid
        exact .inr hchanged
      · exact absurd hin hout
  · rw [mem_ids_remote hremote hin]
    constructor
    · intro hadded
      exact .inr (.inr ⟨hin, hadded⟩)
    · rintro (⟨hmem, _⟩ | ⟨_, item, hitem, rfl, _⟩ | ⟨_, hadded⟩)
      · exact absurd hmem hin
      · exact absurd (mem_map_of_mem hitem) hin
      · exact hadded

theorem mem_items_both (hremote : Table.Distinct id remote) {theirs : α} (hmine : mine ∈ content)
    (htheirs : theirs ∈ remote) (hid : id theirs = id mine) :
    (if base (id mine) = some (print mine) ∧ base (id mine) ≠ some (print theirs) then theirs
      else mine) ∈ (mergeById id print content remote base).items := by
  have hfind : Table.find id remote (id mine) = some theirs := hid ▸ hremote.find htheirs
  refine (mem_items hremote).2 (.inl ⟨mine, hmine, ?_⟩)
  unfold resolved resolve
  rw [hfind]
  simp only
  by_cases hknown : base (id mine) = some (print mine)
  · by_cases hsame : print mine = print theirs
    · simp [hknown, hsame]
    · simp [hknown, hsame]
  · simp [hknown, Ne.symm hknown]

theorem localChanged_iff (hcontent : Table.Distinct id content)
    (hremote : Table.Distinct id remote) :
    (mergeById id print content remote base).localChanged = true ↔
      (mergeById id print content remote base).items ≠ content := by
  have hchanged : (mergeById id print content remote base).localChanged = true ↔
      (∃ item ∈ content, resolved id print remote base item ≠ some item) ∨
        ∃ item ∈ remote, addedBy id print (content.map id) base item = true := by
    rw [mergeById_eq hremote, Bool.or_eq_true, List.any_eq_true, List.any_eq_true]
    simp only [takesRemote_iff]
    rfl
  rw [hchanged]
  constructor
  · rintro (⟨item, hitem, hother⟩ | ⟨item, hitem, hadded⟩) hsame
    · have hkept : item ∈ (mergeById id print content remote base).items := by
        rw [hsame]
        exact hitem
      rcases (mem_items hremote).1 hkept with ⟨source, hsource, hresolved⟩ | ⟨_, hnew, _⟩
      · obtain rfl := hcontent.eq hsource hitem (resolved_id hresolved).symm
        exact hother hresolved
      · exact hnew (mem_map_of_mem hitem)
    · unfold addedBy at hadded
      rw [decide_eq_true_eq] at hadded
      have hkept : item ∈ (mergeById id print content remote base).items :=
        (mem_items hremote).2 (.inr ⟨hitem, hadded⟩)
      rw [hsame] at hkept
      exact hadded.1 (mem_map_of_mem hkept)
  · intro hdiffers
    by_contra hnone
    rw [not_or] at hnone
    push Not at hnone
    apply hdiffers
    have hadded : remote.filter (addedBy id print (content.map id) base) = [] :=
      filter_eq_nil_iff.2 hnone.2
    have hkept : content.filterMap (resolved id print remote base) = content.filterMap some :=
      filterMap_congr hnone.1
    rw [mergeById_eq hremote, hadded, hkept, filterMap_some, append_nil]

/-- A device that agreed with the server on all that the server holds takes nothing over. -/
theorem mergeById_synced (hremote : Table.Distinct id remote) (content : List α) :
    mergeById id print content remote (printsOf id print remote) = ⟨content, false⟩ := by
  have hprints (x : ι) : printsOf id print remote x = (Table.find id remote x).map print :=
    Dictionary.get_ofList_map hremote print x
  have hkept : ∀ item ∈ content,
      resolved id print remote (printsOf id print remote) item = some item := by
    intro item _
    unfold resolved resolve
    rw [hprints]
    cases Table.find id remote (id item) with
    | none => simp
    | some other => simp
  have hadded : ∀ item ∈ remote,
      ¬addedBy id print (content.map id) (printsOf id print remote) item = true := by
    intro item hitem
    unfold addedBy
    rw [decide_eq_true_eq, hprints, hremote.find hitem]
    exact fun hnew => hnew.2 rfl
  have hchanged : (content.any fun item =>
      takesRemote print (Table.find id remote (id item)) (printsOf id print remote (id item)) item) =
        false := by
    rw [any_eq_false]
    exact fun item hitem htakes => takesRemote_iff.1 htakes (hkept item hitem)
  rw [mergeById_eq hremote, hchanged, any_eq_false.2 hadded, filter_eq_nil_iff.2 hadded,
    filterMap_congr hkept, filterMap_some, append_nil]
  rfl

structure Merged (id : α → ι) (print : α → φ) (content remote : List α) (base : ι → Option φ)
    (merge : Merge α) : Prop where
  distinct : Table.Distinct id merge.items
  sides : ∀ item ∈ merge.items, item ∈ content ∨ item ∈ remote
  ids : ∀ x, x ∈ merge.items.map id ↔
    (x ∈ content.map id ∧ x ∈ remote.map id) ∨
      (x ∉ remote.map id ∧ ∃ item ∈ content, id item = x ∧ base x ≠ some (print item)) ∨
      (x ∉ content.map id ∧ ∃ item ∈ remote, id item = x ∧ base x ≠ some (print item))
  both : ∀ mine ∈ content, ∀ theirs ∈ remote, id theirs = id mine →
    (if base (id mine) = some (print mine) ∧ base (id mine) ≠ some (print theirs) then theirs
      else mine) ∈ merge.items
  changed : merge.localChanged = true ↔ merge.items ≠ content

/-- The three-way merge law. -/
theorem three_way_merge (id : α → ι) (print : α → φ) (content remote : List α)
    (base : ι → Option φ) (hcontent : Table.Distinct id content)
    (hremote : Table.Distinct id remote) :
    Merged id print content remote base (mergeById id print content remote base) ∧
      mergeById id print (mergeById id print content remote base).items remote
          (printsOf id print remote) =
        ⟨(mergeById id print content remote base).items, false⟩ := by
  refine ⟨⟨items_distinct hcontent hremote, ?_, mem_ids hcontent hremote, ?_,
    localChanged_iff hcontent hremote⟩, mergeById_synced hremote _⟩
  · intro item hitem
    rcases (mem_items hremote).1 hitem with ⟨source, hsource, hresolved⟩ | ⟨hmem, _⟩
    · rcases resolve_eq_some hresolved with rfl | hother
      · exact .inl hsource
      · exact .inr (Table.find_mem hother)
    · exact .inr hmem
  · intro mine hmine theirs htheirs hid
    exact mem_items_both hremote hmine htheirs hid

/-- An edit of each side, an item new on each side and one that the server dropped. -/
theorem edits_merged :
    Merged Prod.fst Prod.snd [(1, 'a'), (2, 'b'), (3, 'c'), (5, 'e')]
        [(1, 'x'), (2, 'b'), (4, 'd')] (printsOf Prod.fst Prod.snd [(1, 'a'), (2, 'n'), (3, 'c')])
        ⟨[(1, 'x'), (2, 'b'), (5, 'e'), (4, 'd')], true⟩ ∧
      mergeById Prod.fst Prod.snd [(1, 'x'), (2, 'b'), (5, 'e'), (4, 'd')]
          [(1, 'x'), (2, 'b'), (4, 'd')] (printsOf Prod.fst Prod.snd [(1, 'x'), (2, 'b'), (4, 'd')]) =
        ⟨[(1, 'x'), (2, 'b'), (5, 'e'), (4, 'd')], false⟩ := by
  have hmerge := three_way_merge Prod.fst Prod.snd [(1, 'a'), (2, 'b'), (3, 'c'), (5, 'e')]
    [(1, 'x'), (2, 'b'), (4, 'd')] (printsOf Prod.fst Prod.snd [(1, 'a'), (2, 'n'), (3, 'c')])
    (by decide) (by decide)
  exact hmerge

end

end LockIn.Workspace.ThreeWay
