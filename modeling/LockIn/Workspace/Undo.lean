import LockIn.Library.Table
import LockIn.Library.Timeline

/-!
# Undo in the catalog workspace

The workspace keeps the annotations of a sheet as one list, in the order they are painted,
and changes it by four commands.  A command is applied forwards by redo and backwards by
undo.  What a command takes away is put back by the positions recorded when it was run.

Each annotation command takes itself back from the list it was applied to.  For the
commands that take items away this rests on one fact about lists: what a filter removed,
put back one by one in the order of the recorded indexes, gives the list again.
-/

namespace LockIn.Workspace

open List

section
structure AnnotationItem (β : Type) where
  id : String
  body : β
deriving DecidableEq

variable {β : Type}

/-- `new Map(entries).get(key)` and `Object.fromEntries(entries)[key]`: of the entries
under one key the last counts. -/
def entryOf {ν : Type} (entries : List (String × ν)) (key : String) : Option ν :=
  (Table.find Prod.fst entries.reverse key).map Prod.snd

/-- `new Set(items.map((item) => item.id))`. -/
def ids (items : List (AnnotationItem β)) : List String :=
  items.map (·.id)

/-- The positions at which ids sat, as an object from ids to indexes. -/
abbrev Positions : Type := List (String × Nat)

inductive AnnotationCommand (β : Type) where
  | add (items : List (AnnotationItem β))
  | remove (items : List (AnnotationItem β)) (positions : Option Positions)
  | update (before after : List (AnnotationItem β))
  | replace (before after : List (AnnotationItem β)) (beforePositions : Option Positions)

inductive Direction where
  | redo
  | undo

def spliceAt (next : List (AnnotationItem β)) (placed : Nat × AnnotationItem β) :
    List (AnnotationItem β) :=
  next.insertIdx (min placed.1 next.length) placed.2

def reinsertAtRecordedPositions (list items : List (AnnotationItem β)) (positions : Option Positions) :
    List (AnnotationItem β) :=
  let indexOf (item : AnnotationItem β) := entryOf (positions.getD []) item.id
  let placed := items.filterMap fun item => (indexOf item).map fun index => (index, item)
  let appended := items.filter fun item => (indexOf item).isNone
  (placed.mergeSort fun first second => first.1 ≤ second.1).foldl spliceAt list ++ appended

/-- The entries of `indexById`. -/
def indexById (annotations : List (AnnotationItem β)) : Positions :=
  annotations.zipIdx.map fun (item, index) => (item.id, index)

def positionsFor (annotations items : List (AnnotationItem β)) : Positions :=
  items.filterMap fun item =>
    (entryOf (indexById annotations) item.id).map fun index => (item.id, index)

def withCommandPositions (command : AnnotationCommand β) (annotations : List (AnnotationItem β)) :
    AnnotationCommand β :=
  match command with
  | .remove items none => .remove items (some (positionsFor annotations items))
  | .replace before after none => .replace before after (some (positionsFor annotations before))
  | _ => command

def without (annotations removed : List (AnnotationItem β)) : List (AnnotationItem β) :=
  annotations.filter fun item => item.id ∉ ids removed

def notIn (items existing : List (AnnotationItem β)) : List (AnnotationItem β) :=
  items.filter fun item => item.id ∉ ids existing

def replaceEach (annotations replacements : List (AnnotationItem β)) : List (AnnotationItem β) :=
  annotations.map fun item =>
    (entryOf (replacements.map fun other => (other.id, other)) item.id).getD item

/-- Whether a replacement gives back the ids it takes, so that it is made in place. -/
def keepsIds (annotations before after : List (AnnotationItem β)) : Bool :=
  (ids before).dedup.length = before.length ∧ (ids after).dedup.length = after.length ∧
    (ids before).dedup.length = (ids after).dedup.length ∧
    ∀ id ∈ ids before, id ∈ ids after ∧ id ∈ ids annotations

def replaceAtFirst (annotations removedItems insertedItems : List (AnnotationItem β)) :
    List (AnnotationItem β) :=
  let firstIndex := annotations.findIdx? fun item => item.id ∈ ids removedItems
  let retained := without annotations removedItems
  let additions := notIn insertedItems retained
  let start := firstIndex.getD retained.length
  retained.take start ++ additions ++ retained.drop start

def applyAnnotationCommand (annotations : List (AnnotationItem β)) (command : AnnotationCommand β) :
    Direction → List (AnnotationItem β)
  | .redo =>
    match command with
    | .add items => annotations ++ notIn items annotations
    | .remove items _ => without annotations items
    | .update _ after => replaceEach annotations after
    | .replace before after _ =>
      if keepsIds annotations before after then replaceEach annotations after
      else replaceAtFirst annotations before after
  | .undo =>
    match command with
    | .add items => without annotations items
    | .remove items positions =>
      reinsertAtRecordedPositions annotations (notIn items annotations) positions
    | .update before _ => replaceEach annotations before
    | .replace before after (some positions) =>
      let retained := without annotations after
      reinsertAtRecordedPositions retained (notIn before retained) (some positions)
    | .replace before after none => replaceAtFirst annotations after before

/-- The annotations on screen with the commands that the undo and redo buttons would apply,
the latest first. -/
abbrev Editing (β : Type) : Type := History (List (AnnotationItem β)) (AnnotationCommand β)

/-- `slice(-79)`: the stacks keep this many commands beside the one pushed. -/
def keptCommands : Nat := 79

def Distinct (annotations : List (AnnotationItem β)) : Prop :=
  (ids annotations).Nodup

/-- The commands that are recorded: what is added is new, what is taken away or replaced is
in the list, and what takes its place has its ids or new ones. -/
def AnnotationCommand.Recordable (command : AnnotationCommand β)
    (annotations : List (AnnotationItem β)) : Prop :=
  match command with
  | .add items => (ids items).Nodup ∧ ∀ item ∈ items, item.id ∉ ids annotations
  | .remove items positions => positions = none ∧ (ids items).Nodup ∧ items ⊆ annotations
  | .update before after =>
    before ⊆ annotations ∧ ∀ item ∈ after, item.id ∈ ids before ∨ item.id ∉ ids annotations
  | .replace before after positions =>
    positions = none ∧ (ids before).Nodup ∧ before ⊆ annotations ∧ (ids after).Nodup ∧
      ∀ item ∈ after, item.id ∈ ids before ∨ item.id ∉ ids annotations

end

variable {β : Type} {annotations items before after : List (AnnotationItem β)}

variable {ν : Type} {key : String} {item : AnnotationItem β} {index : Nat}
  {command : AnnotationCommand β} {editing : Editing β} {lists : Timeline (List (AnnotationItem β))}

theorem entryOf_eq_none {entries : List (String × ν)} :
    entryOf entries key = none ↔ key ∉ entries.map Prod.fst := by
  unfold entryOf
  rw [Option.map_eq_none_iff, Table.find_eq_none]
  simp only [mem_reverse, mem_map, not_exists, not_and]

theorem entryOf_mem {entries : List (String × ν)} {value : ν}
    (h : entryOf entries key = some value) : (key, value) ∈ entries := by
  obtain ⟨entry, hfind, rfl⟩ := Option.map_eq_some_iff.mp h
  have hkey : entry.1 = key := Table.find_key hfind
  rw [← hkey]
  exact mem_reverse.mp (Table.find_mem hfind)

theorem entryOf_of_mem {entries : List (String × ν)} {value : ν} (hd : (entries.map Prod.fst).Nodup)
    (hm : (key, value) ∈ entries) : entryOf entries key = some value := by
  have hrev : Table.Distinct Prod.fst entries.reverse := by
    unfold Table.Distinct
    rwa [map_reverse, nodup_reverse]
  have hfind := hrev.find (mem_reverse.mpr hm)
  unfold entryOf
  rw [hfind, Option.map_some]

theorem mem_ids_of_mem (h : item ∈ items) : item.id ∈ ids items :=
  mem_map_of_mem h

theorem Distinct.eq (hd : Distinct annotations) {other : AnnotationItem β} (hi : item ∈ annotations)
    (ho : other ∈ annotations) (hid : item.id = other.id) : item = other :=
  inj_on_of_nodup_map hd hi ho hid

theorem map_fst_indexById (annotations : List (AnnotationItem β)) :
    (indexById annotations).map Prod.fst = ids annotations := by
  unfold indexById ids
  rw [map_map]
  show annotations.zipIdx.map ((·.id) ∘ Prod.fst) = _
  rw [← map_map, zipIdx_map_fst]

theorem entryOf_positionsFor (hd : Distinct annotations) (hs : items ⊆ annotations)
    (hi : (ids items).Nodup) (hm : item ∈ items) (index : Nat) :
    entryOf (positionsFor annotations items) item.id = some index ↔
      annotations[index]? = some item := by
  have hindexed : ((indexById annotations).map Prod.fst).Nodup := by
    rwa [map_fst_indexById]
  have hat : ∀ {other : AnnotationItem β} {i : Nat}, other ∈ annotations →
      (entryOf (indexById annotations) other.id = some i ↔ annotations[i]? = some other) := by
    intro other i hother
    constructor
    · intro h
      obtain ⟨⟨found, j⟩, hfound, heq⟩ := mem_map.mp (entryOf_mem h)
      obtain ⟨hid, rfl⟩ := Prod.mk.inj heq
      have hget := mk_mem_zipIdx_iff_getElem?.mp hfound
      rwa [← hd.eq (mem_of_getElem? hget) hother hid]
    · intro h
      apply entryOf_of_mem hindexed
      exact mem_map.mpr ⟨(other, i), mk_mem_zipIdx_iff_getElem?.mpr h, rfl⟩
  have hkeys : ((positionsFor annotations items).map Prod.fst).Nodup := by
    have hsub : ((positionsFor annotations items).map Prod.fst).Sublist (ids items) := by
      clear hs hi hm
      induction items with
      | nil => exact .slnil
      | cons first rest ih =>
        cases hfirst : entryOf (indexById annotations) first.id with
        | none => simpa [positionsFor, ids, hfirst] using ih.cons first.id
        | some i => simpa [positionsFor, ids, hfirst] using ih
    exact hi.sublist hsub
  rw [← hat (hs hm)]
  constructor
  · intro h
    obtain ⟨other, _, hentry⟩ := mem_filterMap.mp (entryOf_mem h)
    obtain ⟨i, hfound, heq⟩ := Option.map_eq_some_iff.mp hentry
    obtain ⟨hid, rfl⟩ := Prod.mk.inj heq
    rwa [← hid]
  · intro h
    apply entryOf_of_mem hkeys
    exact mem_filterMap.mpr ⟨item, hm, by rw [h, Option.map_some]⟩

def takenFrom (removed : List String) (list : List (AnnotationItem β)) (start : Nat) :
    List (Nat × AnnotationItem β) :=
  ((list.zipIdx start).filter fun entry => entry.1.id ∈ removed).map Prod.swap

theorem spliceAt_length (front back : List (AnnotationItem β)) (item : AnnotationItem β) :
    spliceAt (front ++ back) (front.length, item) = front ++ item :: back := by
  unfold spliceAt
  rw [length_append, Nat.min_eq_left (by omega)]
  induction front with
  | nil => rfl
  | cons first front ih => exact congrArg (first :: ·) ih

theorem foldl_spliceAt (removed : List String) (front list : List (AnnotationItem β)) :
    (takenFrom removed list front.length).foldl spliceAt
        (front ++ list.filter fun item => item.id ∉ removed) = front ++ list := by
  induction list generalizing front with
  | nil => rfl
  | cons item rest ih =>
    have hstep := ih (front ++ [item])
    rw [length_append, length_singleton, append_assoc, append_assoc,
      singleton_append, singleton_append] at hstep
    by_cases hin : item.id ∈ removed
    · have htaken : takenFrom removed (item :: rest) front.length =
          (front.length, item) :: takenFrom removed rest (front.length + 1) := by
        simp [takenFrom, hin]
      have hkept : (item :: rest).filter (fun item => item.id ∉ removed) =
          rest.filter fun item => item.id ∉ removed := by
        simp [hin]
      rw [htaken, hkept, foldl_cons, spliceAt_length]
      exact hstep
    · have htaken : takenFrom removed (item :: rest) front.length =
          takenFrom removed rest (front.length + 1) := by
        simp [takenFrom, hin]
      have hkept : (item :: rest).filter (fun item => item.id ∉ removed) =
          item :: rest.filter fun item => item.id ∉ removed := by
        simp [hin]
      rw [htaken, hkept]
      exact hstep

theorem mem_takenFrom {removed : List String} :
    (index, item) ∈ takenFrom removed annotations 0 ↔
      annotations[index]? = some item ∧ item.id ∈ removed := by
  unfold takenFrom
  rw [mem_map_swap, mem_filter, mk_mem_zipIdx_iff_getElem?, decide_eq_true_eq]

theorem takenFrom_sorted (removed : List String) (list : List (AnnotationItem β)) (start : Nat) :
    (takenFrom removed list start).Pairwise fun first second => first.1 < second.1 := by
  have hindexes : (list.zipIdx start).Pairwise fun first second => first.2 < second.2 := by
    have hrange : ((list.zipIdx start).map Prod.snd).Pairwise (· < ·) := by
      rw [zipIdx_map_snd]
      exact pairwise_lt_range'
    exact pairwise_map.mp hrange
  exact pairwise_map.mpr (hindexes.filter _)

def placedAt (annotations items : List (AnnotationItem β)) : List (Nat × AnnotationItem β) :=
  items.filterMap fun item =>
    (entryOf (positionsFor annotations items) item.id).map fun index => (index, item)

theorem mem_placedAt (hd : Distinct annotations) (hs : items ⊆ annotations)
    (hi : (ids items).Nodup) :
    (index, item) ∈ placedAt annotations items ↔
      annotations[index]? = some item ∧ item ∈ items := by
  unfold placedAt
  rw [mem_filterMap]
  constructor
  · rintro ⟨other, hm, hentry⟩
    obtain ⟨i, hfound, heq⟩ := Option.map_eq_some_iff.mp hentry
    cases heq
    exact ⟨(entryOf_positionsFor hd hs hi hm index).mp hfound, hm⟩
  · rintro ⟨hget, hm⟩
    exact ⟨item, hm, by rw [(entryOf_positionsFor hd hs hi hm index).mpr hget, Option.map_some]⟩

/-- Sorted by index they are what the filter removed, in the order it was met. -/
theorem mergeSort_placedAt (hd : Distinct annotations) (hs : items ⊆ annotations)
    (hi : (ids items).Nodup) :
    ((placedAt annotations items).mergeSort fun first second => first.1 ≤ second.1) =
      takenFrom (ids items) annotations 0 := by
  have hsame : (placedAt annotations items).Perm (takenFrom (ids items) annotations 0) := by
    refine (perm_ext_iff_of_nodup ?_ ?_).mpr ?_
    · refine List.Nodup.filterMap ?_ (List.Nodup.of_map _ hi)
      intro first second entry hfirst hsecond
      obtain ⟨_, _, rfl⟩ := Option.map_eq_some_iff.mp hfirst
      obtain ⟨_, _, heq⟩ := Option.map_eq_some_iff.mp hsecond
      exact (Prod.mk.inj heq).2.symm
    · refine (takenFrom_sorted _ _ _).imp ?_
      intro first second hlt heq
      rw [heq] at hlt
      omega
    · rintro ⟨index, item⟩
      rw [mem_placedAt hd hs hi, mem_takenFrom]
      constructor
      · rintro ⟨hget, hm⟩
        exact ⟨hget, mem_ids_of_mem hm⟩
      · rintro ⟨hget, hid⟩
        obtain ⟨other, hother, hsameId⟩ := mem_map.mp hid
        have heq := hd.eq (hs hother) (mem_of_getElem? hget) hsameId
        exact ⟨hget, heq ▸ hother⟩
  have hsorted : ((placedAt annotations items).mergeSort fun first second =>
      first.1 ≤ second.1).Pairwise fun first second => first.1 ≤ second.1 := by
    have hsort : ((placedAt annotations items).mergeSort fun first second =>
        first.1 ≤ second.1).Pairwise fun first second => decide (first.1 ≤ second.1) = true := by
      apply pairwise_mergeSort
      · intro first second third
        simp only [decide_eq_true_eq]
        omega
      · intro first second
        simp only [Bool.or_eq_true, decide_eq_true_eq]
        omega
    simpa only [decide_eq_true_eq] using hsort
  refine List.Perm.eq_of_pairwise ?_ hsorted ((takenFrom_sorted _ _ _).imp Nat.le_of_lt)
    ((mergeSort_perm _ _).trans hsame)
  · rintro ⟨i, first⟩ ⟨j, second⟩ _ hsecond hle hge
    have hij : i = j := Nat.le_antisymm hle hge
    have hfirst : (i, first) ∈ takenFrom (ids items) annotations 0 := by
      apply hsame.mem_iff.mp
      exact (mergeSort_perm _ _).mem_iff.mp ‹_›
    subst hij
    have hsame := (mem_takenFrom.mp hfirst).1.symm.trans (mem_takenFrom.mp hsecond).1
    rw [Option.some.inj hsame]

/-- The loop that sorts and splices rebuilds the list from what was kept of it. -/
theorem reinsert_without (hd : Distinct annotations) (hs : items ⊆ annotations)
    (hi : (ids items).Nodup) :
    reinsertAtRecordedPositions (without annotations items) items
      (some (positionsFor annotations items)) = annotations := by
  have happended : (items.filter fun item =>
      (entryOf (positionsFor annotations items) item.id).isNone) = [] := by
    rw [filter_eq_nil_iff]
    intro item hm
    obtain ⟨index, hindex⟩ := mem_iff_getElem?.mp (hs hm)
    simp [(entryOf_positionsFor hd hs hi hm index).mpr hindex]
  have hsorted := mergeSort_placedAt hd hs hi
  unfold placedAt at hsorted
  unfold reinsertAtRecordedPositions
  simp only [Option.getD_some, happended, hsorted, append_nil]
  exact foldl_spliceAt (ids items) [] annotations

theorem mem_without :
    item ∈ without annotations items ↔ item ∈ annotations ∧ item.id ∉ ids items := by
  unfold without
  rw [mem_filter, decide_eq_true_eq]

theorem without_eq_self (h : ∀ item ∈ annotations, item.id ∉ ids items) :
    without annotations items = annotations :=
  filter_eq_self.mpr fun item hm => by simpa using h item hm

theorem without_eq_nil (h : ∀ item ∈ annotations, item.id ∈ ids items) :
    without annotations items = [] :=
  filter_eq_nil_iff.mpr fun item hm => by simpa using h item hm

theorem without_append (front back items : List (AnnotationItem β)) :
    without (front ++ back) items = without front items ++ without back items :=
  filter_append ..

theorem without_congr (h : ∀ item ∈ annotations, item.id ∈ ids before ↔ item.id ∈ ids after) :
    without annotations before = without annotations after := by
  refine filter_congr fun item hm => ?_
  simp [h item hm]

theorem notIn_eq_self (h : ∀ item ∈ items, item.id ∉ ids annotations) :
    notIn items annotations = items :=
  filter_eq_self.mpr fun item hm => by simpa using h item hm

theorem notIn_without (items annotations : List (AnnotationItem β)) :
    notIn items (without annotations items) = items := by
  apply notIn_eq_self
  intro item hm hid
  obtain ⟨other, hother, heq⟩ := mem_map.mp hid
  exact (mem_without.mp hother).2 (heq ▸ mem_ids_of_mem hm)

theorem without_notIn (items annotations : List (AnnotationItem β)) :
    without (notIn items annotations) items = [] :=
  without_eq_nil fun _ hm => mem_ids_of_mem (mem_filter.mp hm).1

theorem replacement_id (replacements : List (AnnotationItem β)) (item : AnnotationItem β) :
    ((entryOf (replacements.map fun other => (other.id, other)) item.id).getD item).id =
      item.id := by
  cases hentry : entryOf (replacements.map fun other => (other.id, other)) item.id with
  | none => rfl
  | some other =>
    obtain ⟨found, _, heq⟩ := mem_map.mp (entryOf_mem hentry)
    obtain ⟨hid, rfl⟩ := Prod.mk.inj heq
    exact hid

theorem replacement_of_notMem {replacements : List (AnnotationItem β)}
    (h : item.id ∉ ids replacements) :
    (entryOf (replacements.map fun other => (other.id, other)) item.id).getD item = item := by
  have hnone : entryOf (replacements.map fun other => (other.id, other)) item.id = none := by
    rw [entryOf_eq_none, map_map]
    exact h
  rw [hnone, Option.getD_none]

@[simp]
theorem ids_replaceEach (annotations replacements : List (AnnotationItem β)) :
    ids (replaceEach annotations replacements) = ids annotations := by
  unfold ids replaceEach
  rw [map_map]
  exact map_congr_left fun item _ => replacement_id replacements item

theorem replaceEach_replaceEach (hd : Distinct annotations) (hs : before ⊆ annotations)
    (ha : ∀ item ∈ after, item.id ∈ ids before ∨ item.id ∉ ids annotations) :
    replaceEach (replaceEach annotations after) before = annotations := by
  unfold replaceEach
  rw [map_map]
  conv_rhs => rw [← map_id annotations]
  refine map_congr_left fun item hm => ?_
  show (entryOf _ ((entryOf _ item.id).getD item).id).getD _ = item
  rw [replacement_id]
  cases hentry : entryOf (before.map fun other => (other.id, other)) item.id with
  | some old =>
    obtain ⟨found, hfound, heq⟩ := mem_map.mp (entryOf_mem hentry)
    obtain ⟨hid, rfl⟩ := Prod.mk.inj heq
    exact hd.eq (hs hfound) hm hid
  | none =>
    rw [Option.getD_none]
    apply replacement_of_notMem
    intro hid
    obtain ⟨other, hother, heq⟩ := mem_map.mp hid
    rw [entryOf_eq_none, map_map] at hentry
    rcases ha other hother with hin | hout
    · exact hentry (heq ▸ hin)
    · exact hout (heq ▸ mem_ids_of_mem hm)

theorem without_replaceEach (annotations after : List (AnnotationItem β)) :
    without (replaceEach annotations after) after = without annotations after := by
  unfold without replaceEach
  rw [filter_map]
  have hsame : annotations.filter ((fun item => decide (item.id ∉ ids after)) ∘ fun item =>
      (entryOf (after.map fun other => (other.id, other)) item.id).getD item) =
      annotations.filter fun item => decide (item.id ∉ ids after) := by
    refine filter_congr fun item _ => ?_
    show decide (_ ∉ _) = _
    rw [replacement_id]
  rw [hsame]
  conv_rhs => rw [← map_id (annotations.filter fun item => decide (item.id ∉ ids after))]
  refine map_congr_left fun item hm => ?_
  exact replacement_of_notMem (mem_without.mp hm).2

/-- What a replacement leaves once its own items are filtered out again, on either of the
ways redo takes. -/
theorem without_replaced
    (ha : ∀ item ∈ after, item.id ∈ ids before ∨ item.id ∉ ids annotations) :
    without (applyAnnotationCommand annotations (.replace before after none) .redo) after =
      without annotations before := by
  have hout : ∀ item ∈ annotations, item.id ∈ ids after → item.id ∈ ids before := by
    intro item hm hid
    obtain ⟨other, hother, heq⟩ := mem_map.mp hid
    rcases ha other hother with hin | hnew
    · exact heq ▸ hin
    · exact absurd (heq ▸ mem_ids_of_mem hm) hnew
  simp only [applyAnnotationCommand]
  split
  · next hkeeps =>
    have hkeeps := of_decide_eq_true hkeeps
    rw [without_replaceEach]
    exact without_congr fun item hm => ⟨hout item hm, fun hid => (hkeeps.2.2.2 _ hid).1⟩
  · have hretained : ∀ item ∈ without annotations before, item.id ∉ ids after := by
      intro item hm hid
      obtain ⟨hm, hnot⟩ := mem_without.mp hm
      exact hnot (hout item hm hid)
    unfold replaceAtFirst
    simp only [without_append, without_notIn, append_nil]
    rw [without_eq_self fun item hm => hretained item (mem_of_mem_take hm),
      without_eq_self fun item hm => hretained item (mem_of_mem_drop hm)]
    exact take_append_drop _ _

theorem Distinct.without (hd : Distinct annotations) (items : List (AnnotationItem β)) :
    Distinct (without annotations items) :=
  hd.sublist (filter_sublist.map _)

theorem Distinct.replaceEach (hd : Distinct annotations) (replacements : List (AnnotationItem β)) :
    Distinct (replaceEach annotations replacements) := by
  unfold Distinct
  rwa [ids_replaceEach]

theorem Distinct.append_notIn (hd : Distinct annotations) (hi : (ids items).Nodup) :
    Distinct (annotations ++ notIn items annotations) := by
  unfold Distinct ids
  rw [map_append, nodup_append]
  refine ⟨hd, hi.sublist (filter_sublist.map _), ?_⟩
  intro first hfirst second hsecond heq
  obtain ⟨item, hitem, rfl⟩ := mem_map.mp hsecond
  have hnew : item.id ∉ ids annotations := by simpa using (mem_filter.mp hitem).2
  exact hnew (heq ▸ hfirst)

theorem Distinct.replaceAtFirst (hd : Distinct annotations) (ha : (ids after).Nodup) :
    Distinct (replaceAtFirst annotations before after) := by
  have hkept := (hd.without before).append_notIn ha
  refine (List.Perm.nodup_iff (List.Perm.map _ ?_)).mpr hkept
  show List.Perm (_ ++ _ ++ _) (_ ++ _)
  rw [append_assoc]
  refine (perm_append_comm.append_left _).trans ?_
  rw [← append_assoc, take_append_drop]

theorem redo_distinct (hd : Distinct annotations) (hr : command.Recordable annotations) :
    Distinct (applyAnnotationCommand annotations (withCommandPositions command annotations)
      .redo) := by
  cases command with
  | add items => exact hd.append_notIn hr.1
  | remove items positions =>
    obtain ⟨rfl, _⟩ := hr
    exact hd.without items
  | update before after => exact hd.replaceEach after
  | replace before after positions =>
    obtain ⟨rfl, _, _, ha, _⟩ := hr
    simp only [withCommandPositions, applyAnnotationCommand]
    split
    · exact hd.replaceEach after
    · exact hd.replaceAtFirst ha

theorem undo_redo (hd : Distinct annotations) (hr : command.Recordable annotations) :
    applyAnnotationCommand (applyAnnotationCommand annotations
      (withCommandPositions command annotations) .redo)
      (withCommandPositions command annotations) .undo = annotations := by
  cases command with
  | add items =>
    obtain ⟨_, hnew⟩ := hr
    show without (annotations ++ notIn items annotations) items = annotations
    rw [without_append, without_notIn, append_nil]
    apply without_eq_self
    intro item hm hid
    obtain ⟨other, hother, heq⟩ := mem_map.mp hid
    exact hnew other hother (heq ▸ mem_ids_of_mem hm)
  | remove items positions =>
    obtain ⟨rfl, hi, hs⟩ := hr
    show reinsertAtRecordedPositions (without annotations items)
      (notIn items (without annotations items)) (some (positionsFor annotations items)) = _
    rw [notIn_without]
    exact reinsert_without hd hs hi
  | update before after =>
    obtain ⟨hs, ha⟩ := hr
    exact replaceEach_replaceEach hd hs ha
  | replace before after positions =>
    obtain ⟨rfl, hb, hs, _, ha⟩ := hr
    have hleft := without_replaced ha
    show reinsertAtRecordedPositions (without (applyAnnotationCommand annotations
      (.replace before after none) .redo) after) (notIn before (without (applyAnnotationCommand
      annotations (.replace before after none) .redo) after))
      (some (positionsFor annotations before)) = _
    rw [hleft, notIn_without]
    exact reinsert_without hd hs hb

def commands (β : Type) : Undoable (List (AnnotationItem β)) (AnnotationCommand β) where
  redo command annotations := applyAnnotationCommand annotations command .redo
  undo command annotations := applyAnnotationCommand annotations command .undo
  Sound := Distinct
  Ready recorded annotations := ∃ command : AnnotationCommand β,
    command.Recordable annotations ∧ withCommandPositions command annotations = recorded
  redo_sound := by
    rintro recorded annotations hd ⟨command, hr, rfl⟩
    exact redo_distinct hd hr
  undo_redo := by
    rintro recorded annotations hd ⟨command, hr, rfl⟩
    exact undo_redo hd hr

/-- What the student does to the annotations and their history. -/
inductive Step (β : Type) where
  | run (command : AnnotationCommand β)
  | undo
  | redo

def runCommand (command : AnnotationCommand β) (editing : Editing β) : Editing β :=
  editing.record (commands β) keptCommands (withCommandPositions command editing.content)

def undoTool (editing : Editing β) : Editing β :=
  editing.undo (commands β) keptCommands

def redoTool (editing : Editing β) : Editing β :=
  editing.redo (commands β) keptCommands

def Step.apply (editing : Editing β) : Step β → Editing β
  | .run command => runCommand command editing
  | .undo => undoTool editing
  | .redo => redoTool editing

/-- The same step on lists that are kept rather than recomputed: undo goes back to the list
before, redo forward to the one after. -/
def Step.follow (lists : Timeline (List (AnnotationItem β))) :
    Step β → Timeline (List (AnnotationItem β))
  | .run command =>
    lists.record keptCommands (applyAnnotationCommand lists.present
      (withCommandPositions command lists.present) .redo)
  | .undo => lists.undo keptCommands
  | .redo => lists.redo keptCommands

def Recordable (lists : Timeline (List (AnnotationItem β))) : List (Step β) → Prop
  | [] => True
  | step :: rest =>
    (match step with
      | .run command => command.Recordable lists.present
      | _ => True) ∧ Recordable (step.follow lists) rest

theorem follows_step {step : Step β} {rest : List (Step β)}
    (hf : (commands β).Follows editing lists) (hr : Recordable lists (step :: rest)) :
    (commands β).Follows (step.apply editing) (step.follow lists) := by
  cases step with
  | run command =>
    have hready : command.Recordable lists.present := hr.1
    rw [← hf.same] at hready
    show (commands β).Follows (runCommand command editing) (lists.record _ _)
    rw [← hf.same]
    exact hf.record ⟨command, hready, rfl⟩
  | undo => exact hf.undo
  | redo => exact hf.redo

theorem follows_steps {steps : List (Step β)} (hf : (commands β).Follows editing lists)
    (hr : Recordable lists steps) :
    (commands β).Follows (steps.foldl Step.apply editing) (steps.foldl Step.follow lists) := by
  induction steps generalizing editing lists with
  | nil => exact hf
  | cons step rest ih => exact ih (follows_step hf hr) hr.2

/-- Whatever is run, undone and redone in whatever order, the list shown is the one that was
there at that point of the history, element for element. -/
theorem undo_exact (annotations : List (AnnotationItem β)) (steps : List (Step β))
    (hd : Distinct annotations) (hr : Recordable (.opened annotations) steps) :
    (steps.foldl Step.apply (.opened annotations)).content =
      (steps.foldl Step.follow (.opened annotations)).present :=
  (follows_steps (Undoable.follows_opened hd) hr).same

def threeStrokes : List (AnnotationItem Nat) :=
  [⟨"a", 1⟩, ⟨"b", 2⟩, ⟨"c", 3⟩]

/-- The middle stroke is split by the eraser, the outer ones are deleted, and all of it is
taken back and done again up to the split. -/
def splitAndDelete : List (Step Nat) :=
  [.run (.replace [⟨"b", 2⟩] [⟨"b", 4⟩, ⟨"d", 5⟩] none),
    .run (.remove [⟨"c", 3⟩, ⟨"a", 1⟩] none), .undo, .undo, .redo]

theorem undo_exact_split_and_delete :
    (splitAndDelete.foldl Step.apply (.opened threeStrokes)).content =
      [⟨"a", 1⟩, ⟨"b", 4⟩, ⟨"d", 5⟩, ⟨"c", 3⟩] := by
  have hready : Recordable (.opened threeStrokes) splitAndDelete := by
    refine ⟨?_, ?_, trivial, trivial, trivial, trivial⟩
    · show none = none ∧ _ ∧ _ ∧ _ ∧ _
      decide +kernel
    · show none = none ∧ _ ∧ _
      decide +kernel
  have hdistinct : (ids threeStrokes).Nodup := by decide +kernel
  rw [undo_exact threeStrokes splitAndDelete hdistinct hready]
  decide +kernel

end LockIn.Workspace
