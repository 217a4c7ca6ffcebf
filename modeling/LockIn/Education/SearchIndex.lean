import LockIn.Education.TreeShape

/-!
# What the search index shows

The entry of a resource is shown as its path and its flag.  Each change of the index is told by
what it shows of every resource afterwards.
-/

namespace LockIn.Education

open List Table

def shown (entries : List Entry) (key : ResourceKind × Uuid) : Option (Text × Bool) :=
  (Table.find Entry.key entries key).map fun entry => (entry.academicPath, entry.isDiscoverable)

section
variable {entries : List Entry} {key : ResourceKind × Uuid} {node item : Node}

theorem find_upsert (entries : List Entry) (entry : Entry) (key : ResourceKind × Uuid) :
    Table.find Entry.key (upsertSearchEntry entries entry) key =
      if key = entry.key then some entry else Table.find Entry.key entries key := by
  unfold upsertSearchEntry
  split
  · next hin =>
    obtain ⟨old, hold, hkey⟩ := mem_map.1 hin
    split
    · next heq =>
      rw [heq]
      cases hfind : Table.find Entry.key entries entry.key with
      | none => exact absurd hkey (find_eq_none.1 hfind old hold)
      | some found => exact find_put_self hfind
    · next hne => exact find_put_of_ne hne
  · next hnot =>
    have hnone : Table.find Entry.key entries entry.key = none :=
      find_eq_none.2 fun old hold heq => hnot (mem_map.2 ⟨old, hold, heq⟩)
    rw [find_append]
    split
    · next heq =>
      rw [heq, hnone]
      simp [Table.find]
    · next hne =>
      have hother : Table.find Entry.key [entry] key = none := find_eq_none.2 (by simp [Ne.symm hne])
      rw [hother, Option.or_none]

theorem shown_upsert (entries : List Entry) (entry : Entry) (key : ResourceKind × Uuid) :
    shown (upsertSearchEntry entries entry) key =
      if key = entry.key then some (entry.academicPath, entry.isDiscoverable) else shown entries key := by
  unfold shown
  rw [find_upsert]
  split <;> rfl

theorem distinct_upsert (h : Table.Distinct Entry.key entries) (entry : Entry) :
    Table.Distinct Entry.key (upsertSearchEntry entries entry) := by
  unfold upsertSearchEntry
  split
  · exact h.put entry
  · next hnot => exact h.append fun old hold heq => hnot (mem_map.2 ⟨old, hold, heq⟩)

theorem shown_remove (entries : List Entry) (removed key : ResourceKind × Uuid) :
    shown (removeSearchEntry entries removed) key = if key = removed then none else shown entries key := by
  unfold shown removeSearchEntry Table.find
  rw [find?_filter]
  split
  · next heq =>
    rw [Option.map_eq_none_iff, find?_eq_none]
    intro entry _
    simp [heq]
  · next hne =>
    congr 2
    funext entry
    by_cases hkey : entry.key = key
    · simp [hkey, hne]
    · simp [hkey]

theorem distinct_remove (h : Table.Distinct Entry.key entries) (removed : ResourceKind × Uuid) :
    Table.Distinct Entry.key (removeSearchEntry entries removed) :=
  h.sublist (filter_sublist.map Entry.key)

theorem shown_map (change : Entry → Entry) (view : Text × Bool → Text × Bool)
    (hkey : ∀ entry, (change entry).key = entry.key)
    (hview : ∀ entry, ((change entry).academicPath, (change entry).isDiscoverable) =
      view (entry.academicPath, entry.isDiscoverable)) (entries : List Entry) (key : ResourceKind × Uuid) :
    shown (entries.map change) key = (shown entries key).map view := by
  unfold shown
  rw [find_map fun entry _ => hkey entry, Option.map_map, Option.map_map]
  congr 1
  exact funext hview

theorem distinct_map {change : Entry → Entry} (hkey : ∀ entry, (change entry).key = entry.key)
    (h : Table.Distinct Entry.key entries) : Table.Distinct Entry.key (entries.map change) := by
  have hkeys : (entries.map change).map Entry.key = entries.map Entry.key := by
    rw [map_map]
    exact map_congr_left fun entry _ => hkey entry
  unfold Table.Distinct
  rw [hkeys]
  exact h

def lighten (path : Text) (flag : Bool) (view : Text × Bool) : Text × Bool :=
  if view.1 = path then (view.1, flag) else view

theorem shown_visibility (entries : List Entry) (path : Text) (flag : Bool) (key : ResourceKind × Uuid) :
    shown (setAcademicPathVisibility entries path flag) key = (shown entries key).map (lighten path flag) := by
  refine shown_map _ (lighten path flag) (fun entry => ?_) (fun entry => ?_) entries key
  · split <;> rfl
  · unfold lighten
    split <;> rfl

theorem shown_replace (entries : List Entry) (oldPrefix newPrefix : Text) (key : ResourceKind × Uuid) :
    shown (replaceAcademicPathPrefix entries oldPrefix newPrefix) key =
      (shown entries key).map fun view => (replacePrefix oldPrefix newPrefix view.1, view.2) :=
  shown_map (fun entry => { entry with academicPath := replacePrefix oldPrefix newPrefix entry.academicPath })
    (fun view => (replacePrefix oldPrefix newPrefix view.1, view.2)) (fun _ => rfl) (fun _ => rfl) entries key

theorem distinct_replace (oldPrefix newPrefix : Text) (h : Table.Distinct Entry.key entries) :
    Table.Distinct Entry.key (replaceAcademicPathPrefix entries oldPrefix newPrefix) :=
  distinct_map (fun _ => rfl) h

def nodeView (node : Node) : Option (Text × Bool) :=
  if node.isDiscoverable && isIndexed node.kind then some (node.path, true) else none

def nodeKey (node : Node) : ResourceKind × Uuid := (.node node.kind, node.id)

theorem shown_sync (entries : List Entry) (node : Node) (key : ResourceKind × Uuid) :
    shown (syncNodeSearch entries node) key = if key = nodeKey node then nodeView node else shown entries key := by
  unfold syncNodeSearch nodeView
  split
  · exact shown_upsert entries (educationEntry node) key
  · exact shown_remove entries (nodeKey node) key

theorem distinct_sync (h : Table.Distinct Entry.key entries) (node : Node) :
    Table.Distinct Entry.key (syncNodeSearch entries node) := by
  unfold syncNodeSearch
  split
  · exact distinct_upsert h _
  · exact distinct_remove h _

def syncAll (entries : List Entry) (items : List Node) : List Entry :=
  items.foldl (fun entries item =>
    syncNodeSearch (setAcademicPathVisibility entries item.path item.isDiscoverable) item) entries

theorem distinct_syncAll (h : Table.Distinct Entry.key entries) (items : List Node) :
    Table.Distinct Entry.key (syncAll entries items) := by
  induction items generalizing entries with
  | nil => exact h
  | cons item items ih =>
    refine ih (distinct_sync (distinct_map (fun entry => ?_) h) item)
    split <;> rfl

variable {items : List Node} {flag : Bool}

theorem shown_syncAll_other {path : Text} (hkey : ∀ item ∈ items, key ≠ nodeKey item)
    (hpath : ∀ item ∈ items, path ≠ item.path) (h : shown entries key = some (path, flag)) :
    shown (syncAll entries items) key = some (path, flag) := by
  induction items generalizing entries with
  | nil => exact h
  | cons item items ih =>
    refine ih (fun other hother => hkey other (mem_cons_of_mem _ hother))
      (fun other hother => hpath other (mem_cons_of_mem _ hother)) ?_
    rw [shown_sync, if_neg (hkey item mem_cons_self), shown_visibility, h, Option.map_some, lighten,
      if_neg (hpath item mem_cons_self)]

theorem shown_syncAll_none (hkey : ∀ item ∈ items, key ≠ nodeKey item)
    (h : shown entries key = none) : shown (syncAll entries items) key = none := by
  induction items generalizing entries with
  | nil => exact h
  | cons item items ih =>
    refine ih (fun other hother => hkey other (mem_cons_of_mem _ hother)) ?_
    rw [shown_sync, if_neg (hkey item mem_cons_self), shown_visibility, h, Option.map_none]

theorem shown_syncAll_at (hkey : ∀ item ∈ items, key ≠ nodeKey item)
    (hpaths : items.Pairwise fun first second => first.path ≠ second.path) (hmem : item ∈ items)
    (h : shown entries key = some (item.path, flag)) :
    shown (syncAll entries items) key = some (item.path, item.isDiscoverable) := by
  induction items generalizing entries flag with
  | nil => exact absurd hmem not_mem_nil
  | cons first items ih =>
    obtain ⟨hfirst, hrest⟩ := pairwise_cons.1 hpaths
    have hkeys := fun other hother => hkey other (mem_cons_of_mem _ hother)
    have hstep : shown (syncNodeSearch (setAcademicPathVisibility entries first.path first.isDiscoverable) first) key =
        some (lighten first.path first.isDiscoverable (item.path, flag)) := by
      rw [shown_sync, if_neg (hkey first mem_cons_self), shown_visibility, h, Option.map_some]
    rcases mem_cons.1 hmem with rfl | hin
    · rw [lighten, if_pos rfl] at hstep
      have hlater := shown_syncAll_other hkeys hfirst hstep
      exact hlater
    · rw [lighten, if_neg (hfirst item hin).symm] at hstep
      exact ih hkeys hrest hin hstep

theorem shown_syncAll_node (hids : Table.Distinct Node.id items)
    (hpaths : items.Pairwise fun first second => first.path ≠ second.path) (hmem : item ∈ items) :
    shown (syncAll entries items) (nodeKey item) = nodeView item := by
  induction items generalizing entries with
  | nil => exact absurd hmem not_mem_nil
  | cons first items ih =>
    obtain ⟨hfirst, hrest⟩ := pairwise_cons.1 hpaths
    obtain ⟨hid, hidRest⟩ := nodup_cons.1 hids
    rcases mem_cons.1 hmem with rfl | hin
    · have hkeys : ∀ other ∈ items, nodeKey item ≠ nodeKey other := by
        intro other hother heq
        have heqId : item.id = other.id := congrArg Prod.snd heq
        exact hid (heqId ▸ mem_map_of_mem hother)
      have hstep : shown (syncNodeSearch (setAcademicPathVisibility entries item.path item.isDiscoverable) item)
          (nodeKey item) = nodeView item := by
        rw [shown_sync, if_pos rfl]
      rw [nodeView] at hstep ⊢
      split at hstep
      · next hc =>
        rw [if_pos hc]
        have hlater := shown_syncAll_other hkeys hfirst hstep
        exact hlater
      · next hc =>
        rw [if_neg hc]
        have hlater := shown_syncAll_none hkeys hstep
        exact hlater
    · exact ih hidRest hrest hin

end

end LockIn.Education
