import LockIn.Library.Dictionary
import LockIn.Library.Outcome

/-!
# Maps and their edits

A map is a graph of concepts.  Its editor copies a selection, pastes what was copied, here or in
another map, clones a selection in place and removes nodes.  A copy has ids of its own.  No map
holds more than 300 nodes or 600 edges, and an edit that would bring it over throws.

A map stays well formed and within its limits in every sequence of copies and removals.  What a
clone adds is the selection under new ids, and it is refused exactly when the map would be over a
limit.  A paste clones the clipboard within itself before it counts what the map would hold, so it
is refused as well when twice the clipboard is over a limit.
-/

namespace LockIn.Knowledge.Maps

open List

section
abbrev Text : Type := List Char

/-- `content` is what the editor copies as it is: the text, the size and the look. -/
structure MapNode (ι : Type) where
  id : ι
  x : ℚ
  y : ℚ
  content : Text
deriving DecidableEq

structure MapEdge (ι : Type) where
  id : ι
  fromId : ι
  toId : ι
  content : Text
deriving DecidableEq

structure Graph (ι : Type) where
  nodes : List (MapNode ι)
  edges : List (MapEdge ι)
deriving DecidableEq

/-- `content` is what no edit of the graph changes: the viewport and the concepts. -/
structure MindMap (ι : Type) extends Graph ι where
  content : Text
deriving DecidableEq

def maxNodes : Nat := 300

def maxEdges : Nat := 600

def mapLimit : String := "map_limit"

variable {ι : Type}

def nodeIds (graph : Graph ι) : List ι := graph.nodes.map (·.id)

def edgeIds (graph : Graph ι) : List ι := graph.edges.map (·.id)

structure WellFormed (graph : Graph ι) : Prop where
  nodup : (nodeIds graph).Nodup
  ends : ∀ edge ∈ graph.edges, edge.fromId ∈ nodeIds graph ∧ edge.toId ∈ nodeIds graph

structure WithinLimits (graph : Graph ι) : Prop where
  nodes : graph.nodes.length ≤ maxNodes
  edges : graph.edges.length ≤ maxEdges

def Exceeds (map part : Graph ι) : Prop :=
  maxNodes < map.nodes.length + part.nodes.length ∨ maxEdges < map.edges.length + part.edges.length

instance (map part : Graph ι) : Decidable (Exceeds map part) :=
  inferInstanceAs (Decidable (_ ∨ _))

def extended (map : MindMap ι) (copied : Graph ι) : MindMap ι :=
  { map with nodes := map.nodes ++ copied.nodes, edges := map.edges ++ copied.edges }

structure Fresh (newId : Nat → ι) (graph : Graph ι) : Prop where
  injective : Function.Injective newId
  nodes : ∀ n, newId n ∉ nodeIds graph
  edges : ∀ n, newId n ∉ edgeIds graph

structure IsCopy (rename : ι → ι) (part copied : Graph ι) : Prop where
  injective : Set.InjOn rename {id | id ∈ nodeIds part}
  nodes : copied.nodes = part.nodes.map fun node =>
    { node with id := rename node.id, x := node.x + 30, y := node.y + 30 }
  edges : List.Forall₂ (fun edge other => other =
    { edge with id := other.id, fromId := rename edge.fromId, toId := rename edge.toId })
    part.edges copied.edges

structure Apart (copied graph : Graph ι) : Prop where
  nodup : (nodeIds copied ++ edgeIds copied).Nodup
  apart : ∀ id ∈ nodeIds copied ++ edgeIds copied, id ∉ nodeIds graph ++ edgeIds graph

variable {newId : Nat → ι} {map : MindMap ι} {graph part copied : Graph ι} {id : ι}

theorem mem_nodeIds : id ∈ nodeIds graph ↔ ∃ node ∈ graph.nodes, node.id = id :=
  mem_map

theorem WellFormed.restrict (h : WellFormed graph) (keep : ι → Bool) :
    WellFormed
      { nodes := graph.nodes.filter fun node => keep node.id
        edges := graph.edges.filter fun edge => keep edge.fromId && keep edge.toId } := by
  refine ⟨h.nodup.sublist (filter_sublist.map _), fun edge hedge => ?_⟩
  obtain ⟨hmem, hends⟩ := mem_filter.1 hedge
  rw [Bool.and_eq_true] at hends
  have hkept {id : ι} (hid : id ∈ nodeIds graph) (hkeep : keep id = true) :
      id ∈ (graph.nodes.filter fun node => keep node.id).map (·.id) := by
    obtain ⟨node, hnode, rfl⟩ := mem_nodeIds.1 hid
    exact mem_map.2 ⟨node, mem_filter.2 ⟨hnode, hkeep⟩, rfl⟩
  exact ⟨hkept (h.ends edge hmem).1 hends.1, hkept (h.ends edge hmem).2 hends.2⟩

variable {rename : ι → ι}

theorem IsCopy.ends (hcopy : IsCopy rename part copied) (h : WellFormed part) :
    ∀ edge ∈ copied.edges, edge.fromId ∈ nodeIds copied ∧ edge.toId ∈ nodeIds copied := by
  have hids : nodeIds copied = (nodeIds part).map rename := by
    unfold nodeIds
    rw [hcopy.nodes, map_map, map_map]
    rfl
  intro edge hedge
  obtain ⟨n, hn, rfl⟩ := mem_iff_getElem.1 hedge
  obtain ⟨hlength, heach⟩ := forall₂_iff_get.1 hcopy.edges
  have hpart : n < part.edges.length := by omega
  have hends := h.ends part.edges[n] (getElem_mem hpart)
  have hsame := heach n hpart hn
  simp only [get_eq_getElem] at hsame
  rw [hsame, hids]
  exact ⟨mem_map_of_mem hends.1, mem_map_of_mem hends.2⟩

theorem WellFormed.extended (h : WellFormed map.toGraph) (hcopy : IsCopy rename part copied)
    (hpart : WellFormed part) (hapart : Apart copied map.toGraph) :
    WellFormed (extended map copied).toGraph := by
  have hids : nodeIds (Maps.extended map copied).toGraph =
      nodeIds map.toGraph ++ nodeIds copied := map_append
  constructor
  · rw [hids]
    refine List.Nodup.append h.nodup (nodup_append.1 hapart.nodup).1 fun id hold hnew => ?_
    exact hapart.apart id (mem_append_left _ hnew) (mem_append_left _ hold)
  · intro edge hedge
    rw [hids]
    rcases mem_append.1 hedge with hold | hnew
    · obtain ⟨hfrom, hto⟩ := h.ends edge hold
      exact ⟨mem_append_left _ hfrom, mem_append_left _ hto⟩
    · obtain ⟨hfrom, hto⟩ := hcopy.ends hpart edge hnew
      exact ⟨mem_append_right _ hfrom, mem_append_right _ hto⟩

theorem nodup_edgeIds_extended (h : (edgeIds map.toGraph).Nodup)
    (hapart : Apart copied map.toGraph) : (edgeIds (extended map copied).toGraph).Nodup := by
  have hids : edgeIds (extended map copied).toGraph = edgeIds map.toGraph ++ edgeIds copied :=
    map_append
  rw [hids]
  refine List.Nodup.append h (nodup_append.1 hapart.nodup).2.1 fun id hold hnew => ?_
  exact hapart.apart id (mem_append_right _ hnew) (mem_append_right _ hold)

theorem withinLimits_extended (hlength : copied.nodes.length = part.nodes.length)
    (hlength' : copied.edges.length = part.edges.length) (h : ¬Exceeds map.toGraph part) :
    WithinLimits (extended map copied).toGraph := by
  unfold Exceeds at h
  constructor
  · show (map.nodes ++ copied.nodes).length ≤ maxNodes
    rw [length_append]
    omega
  · show (map.edges ++ copied.edges).length ≤ maxEdges
    rw [length_append]
    omega

/-! ## The calls

`newId n` is what the call number `n` of `newId()` answers. -/

variable [DecidableEq ι]

def copyMapSelection (map : Graph ι) (ids : List ι) : Graph ι where
  nodes := map.nodes.filter fun node => node.id ∈ ids
  edges := map.edges.filter fun edge => edge.fromId ∈ ids ∧ edge.toId ∈ ids

def removeMapNodes (map : MindMap ι) (ids : List ι) : MindMap ι :=
  { map with
    nodes := map.nodes.filter fun node => node.id ∉ ids
    edges := map.edges.filter fun edge => edge.fromId ∉ ids ∧ edge.toId ∉ ids }

/-- `new Map(selected.map((node) => [node.id, newId()]))` -/
def replacements (newId : Nat → ι) (selected : List (MapNode ι)) : List (ι × ι) :=
  Dictionary.ofList (selected.mapIdx fun index node => (node.id, newId index))

/-- `replacements.get(id)`, which is only asked for ids that are there. -/
def replaced (newId : Nat → ι) (selected : List (MapNode ι)) (id : ι) : ι :=
  (Dictionary.get (replacements newId selected) id).getD id

def copiedNode (newId : Nat → ι) (selected : List (MapNode ι)) (node : MapNode ι) : MapNode ι :=
  { node with id := replaced newId selected node.id, x := node.x + 30, y := node.y + 30 }

def copiedEdge (newId : Nat → ι) (selected : List (MapNode ι)) (index : Nat) (edge : MapEdge ι) :
    MapEdge ι :=
  { edge with
    id := newId (selected.length + index)
    fromId := replaced newId selected edge.fromId
    toId := replaced newId selected edge.toId }

def cloneMapSelection (newId : Nat → ι) (map : MindMap ι) (ids : List ι) :
    Except String (MindMap ι) :=
  let selected := map.nodes.filter fun node => node.id ∈ ids
  let known := Dictionary.keys (replacements newId selected)
  if maxNodes < map.nodes.length + selected.length then .error mapLimit
  else
    let edges := (map.edges.filter fun edge => edge.fromId ∈ known ∧ edge.toId ∈ known).mapIdx
      (copiedEdge newId selected)
    if maxEdges < map.edges.length + edges.length then .error mapLimit
    else .ok { map with
      nodes := map.nodes ++ selected.map (copiedNode newId selected)
      edges := map.edges ++ edges }

def pasteMapSelection (newId : Nat → ι) (map : MindMap ι) (clipboard : Graph ι) :
    Except String (MindMap ι) := do
  let ids := clipboard.nodes.map (·.id)
  let pasted ← cloneMapSelection newId { map with toGraph := clipboard } ids
  let newNodes := pasted.nodes.drop clipboard.nodes.length
  let newEdges := pasted.edges.drop clipboard.edges.length
  if maxNodes < map.nodes.length + newNodes.length ∨
      maxEdges < map.edges.length + newEdges.length then .error mapLimit
  else .ok { map with nodes := map.nodes ++ newNodes, edges := map.edges ++ newEdges }

theorem WellFormed.copy (h : WellFormed graph) (ids : List ι) :
    WellFormed (copyMapSelection graph ids) := by
  have hrestrict := h.restrict fun id => id ∈ ids
  simpa only [copyMapSelection, Bool.decide_and] using hrestrict

theorem WellFormed.remove (h : WellFormed map.toGraph) (ids : List ι) :
    WellFormed (removeMapNodes map ids).toGraph := by
  have hrestrict := h.restrict fun id => id ∉ ids
  simpa only [removeMapNodes, Bool.decide_and] using hrestrict

theorem copyMapSelection_nodeIds (h : WellFormed graph) :
    copyMapSelection graph (nodeIds graph) = graph := by
  have hnodes : graph.nodes.filter (fun node => decide (node.id ∈ nodeIds graph)) = graph.nodes :=
    filter_eq_self.2 fun node hnode => decide_eq_true (mem_nodeIds.2 ⟨node, hnode, rfl⟩)
  have hedges : graph.edges.filter (fun edge =>
      decide (edge.fromId ∈ nodeIds graph ∧ edge.toId ∈ nodeIds graph)) = graph.edges :=
    filter_eq_self.2 fun edge hedge => decide_eq_true (h.ends edge hedge)
  rw [copyMapSelection, hnodes, hedges]

section
variable {selected : List (MapNode ι)}

omit [DecidableEq ι] in
theorem keys_drawn (newId : Nat → ι) (selected : List (MapNode ι)) :
    Dictionary.keys (selected.mapIdx fun index node => (node.id, newId index)) =
      selected.map (·.id) := by
  apply ext_getElem
  · simp [Dictionary.keys]
  · intro n hn hn'
    simp [Dictionary.keys]

theorem mem_keys_replacements :
    id ∈ Dictionary.keys (replacements newId selected) ↔ id ∈ selected.map (·.id) := by
  rw [replacements, Dictionary.mem_keys_ofList, keys_drawn]

theorem replaced_getElem (newId : Nat → ι) (h : (selected.map (·.id)).Nodup) {n : Nat} (hn : n < selected.length) :
    replaced newId selected selected[n].id = newId n := by
  have hkeys := h
  rw [← keys_drawn newId] at hkeys
  have hmem : (selected[n].id, newId n) ∈
      selected.mapIdx fun index node => (node.id, newId index) :=
    mem_mapIdx.2 ⟨n, hn, rfl⟩
  rw [replaced, replacements, Dictionary.ofList_of_nodup hkeys, Dictionary.get_of_mem hkeys hmem]
  rfl

theorem exists_replaced (newId : Nat → ι) (h : (selected.map (·.id)).Nodup)
    (hid : id ∈ selected.map (·.id)) :
    ∃ n, ∃ hn : n < selected.length, selected[n].id = id ∧ replaced newId selected id = newId n := by
  obtain ⟨node, hnode, rfl⟩ := mem_map.1 hid
  obtain ⟨n, hn, rfl⟩ := mem_iff_getElem.1 hnode
  exact ⟨n, hn, rfl, replaced_getElem newId h hn⟩

end

def renewed (newId : Nat → ι) (part : Graph ι) : Graph ι where
  nodes := part.nodes.map (copiedNode newId part.nodes)
  edges := part.edges.mapIdx (copiedEdge newId part.nodes)

@[simp]
theorem length_nodes_renewed : (renewed newId part).nodes.length = part.nodes.length :=
  length_map _

@[simp]
theorem length_edges_renewed : (renewed newId part).edges.length = part.edges.length :=
  length_mapIdx

theorem nodeIds_renewed (h : WellFormed part) :
    nodeIds (renewed newId part) = (List.range part.nodes.length).map newId := by
  apply ext_getElem
  · simp [nodeIds]
  · intro n hn hn'
    have hlt : n < part.nodes.length := by simpa [nodeIds] using hn
    have hreplaced := replaced_getElem newId h.nodup hlt
    simpa [nodeIds, renewed, copiedNode] using hreplaced

theorem edgeIds_renewed (newId : Nat → ι) (part : Graph ι) :
    edgeIds (renewed newId part) =
      (List.range part.edges.length).map fun n => newId (part.nodes.length + n) := by
  apply ext_getElem
  · simp [edgeIds]
  · intro n hn hn'
    simp [edgeIds, renewed, copiedEdge]

theorem ids_renewed (h : WellFormed part) :
    nodeIds (renewed newId part) ++ edgeIds (renewed newId part) =
      (List.range (part.nodes.length + part.edges.length)).map newId := by
  rw [nodeIds_renewed h, edgeIds_renewed, range_add, map_append, map_map]
  rfl

theorem isCopy_renewed (h : WellFormed part) (hinj : Function.Injective newId) :
    IsCopy (replaced newId part.nodes) part (renewed newId part) := by
  refine ⟨fun first hfirst second hsecond heq => ?_, rfl, ?_⟩
  · obtain ⟨n, hn, rfl, hnew⟩ := exists_replaced newId h.nodup hfirst
    obtain ⟨m, hm, rfl, hother⟩ := exists_replaced newId h.nodup hsecond
    have hsame : newId n = newId m := by rw [← hnew, heq, hother]
    obtain rfl := hinj hsame
    rfl
  · rw [forall₂_iff_get]
    refine ⟨length_edges_renewed.symm, fun n hn hn' => ?_⟩
    simp [renewed, copiedEdge]

theorem apart_renewed (h : WellFormed part) (hfresh : Fresh newId graph) :
    Apart (renewed newId part) graph := by
  constructor
  · rw [ids_renewed h]
    exact nodup_range.map hfresh.injective
  · intro id hid
    rw [ids_renewed h] at hid
    obtain ⟨n, _, rfl⟩ := mem_map.1 hid
    rw [mem_append, not_or]
    exact ⟨hfresh.nodes n, hfresh.edges n⟩

theorem filter_known (h : WellFormed graph) (ids : List ι) :
    (graph.edges.filter fun edge =>
      edge.fromId ∈ Dictionary.keys (replacements newId (copyMapSelection graph ids).nodes) ∧
        edge.toId ∈ Dictionary.keys (replacements newId (copyMapSelection graph ids).nodes)) =
      (copyMapSelection graph ids).edges := by
  have hknown {id : ι} (hid : id ∈ nodeIds graph) :
      id ∈ Dictionary.keys (replacements newId (copyMapSelection graph ids).nodes) ↔ id ∈ ids := by
    obtain ⟨node, hnode, rfl⟩ := mem_nodeIds.1 hid
    rw [mem_keys_replacements, mem_map]
    constructor
    · rintro ⟨other, hother, heq⟩
      rw [← heq]
      exact of_decide_eq_true (mem_filter.1 hother).2
    · exact fun hin => ⟨node, mem_filter.2 ⟨hnode, decide_eq_true hin⟩, rfl⟩
  refine filter_congr fun edge hedge => decide_eq_decide.2 ?_
  rw [hknown (h.ends edge hedge).1, hknown (h.ends edge hedge).2]

theorem cloneMapSelection_eq (h : WellFormed map.toGraph) (ids : List ι) :
    cloneMapSelection newId map ids =
      if Exceeds map.toGraph (copyMapSelection map.toGraph ids) then .error mapLimit
      else .ok (extended map (renewed newId (copyMapSelection map.toGraph ids))) := by
  have hselected : (map.nodes.filter fun node => decide (node.id ∈ ids)) =
      (copyMapSelection map.toGraph ids).nodes := rfl
  unfold cloneMapSelection
  simp only [hselected, filter_known h ids, length_mapIdx]
  by_cases hnodes : maxNodes < map.nodes.length + (copyMapSelection map.toGraph ids).nodes.length
  · have hexceeds : Exceeds map.toGraph (copyMapSelection map.toGraph ids) := .inl hnodes
    rw [if_pos hnodes, if_pos hexceeds]
  · rw [if_neg hnodes]
    by_cases hedges : maxEdges < map.edges.length + (copyMapSelection map.toGraph ids).edges.length
    · have hexceeds : Exceeds map.toGraph (copyMapSelection map.toGraph ids) := .inr hedges
      rw [if_pos hedges, if_pos hexceeds]
    · have hfits : ¬Exceeds map.toGraph (copyMapSelection map.toGraph ids) :=
        not_or.2 ⟨hnodes, hedges⟩
      rw [if_neg hedges, if_neg hfits]
      rfl

/-- Pasting clones the clipboard within itself first. -/
theorem pasteMapSelection_eq (h : WellFormed part) :
    pasteMapSelection newId map part =
      if Exceeds part part ∨ Exceeds map.toGraph part then .error mapLimit
      else .ok (extended map (renewed newId part)) := by
  have hclone : cloneMapSelection newId { map with toGraph := part } (nodeIds part) =
      if Exceeds part part then .error mapLimit
      else .ok (extended { map with toGraph := part } (renewed newId part)) := by
    have hself : cloneMapSelection newId { map with toGraph := part } (nodeIds part) =
        if Exceeds part (copyMapSelection part (nodeIds part)) then .error mapLimit
        else .ok (extended { map with toGraph := part }
          (renewed newId (copyMapSelection part (nodeIds part)))) :=
      cloneMapSelection_eq h (nodeIds part)
    rwa [copyMapSelection_nodeIds h] at hself
  show (cloneMapSelection newId { map with toGraph := part } (nodeIds part) >>= _) = _
  rw [hclone]
  by_cases hself : Exceeds part part
  · rw [if_pos hself, if_pos (.inl hself)]
    rfl
  · have hnodes : (part.nodes ++ (renewed newId part).nodes).drop part.nodes.length =
        (renewed newId part).nodes := drop_left
    have hedges : (part.edges ++ (renewed newId part).edges).drop part.edges.length =
        (renewed newId part).edges := drop_left
    rw [if_neg hself, Outcome.ok_bind]
    simp only [extended, hnodes, hedges, hself, false_or, length_nodes_renewed,
      length_edges_renewed]
    rfl

end

variable {ι : Type} [DecidableEq ι]

/-- A paste is of what was selected in some map, this one or another. -/
inductive Copying (ι : Type) where
  | paste (source : Graph ι) (ids : List ι)
  | clone (ids : List ι)

inductive Edit (ι : Type) where
  | copy (copying : Copying ι)
  | remove (ids : List ι)

def Copying.part (map : MindMap ι) : Copying ι → Graph ι
  | .paste source ids => copyMapSelection source ids
  | .clone ids => copyMapSelection map.toGraph ids

def Copying.exec (newId : Nat → ι) (map : MindMap ι) : Copying ι → Except String (MindMap ι)
  | .paste source ids => pasteMapSelection newId map (copyMapSelection source ids)
  | .clone ids => cloneMapSelection newId map ids

def Edit.exec (newId : Nat → ι) (map : MindMap ι) : Edit ι → Except String (MindMap ι)
  | .copy copying => copying.exec newId map
  | .remove ids => .ok (removeMapNodes map ids)

def Copying.FromMap : Copying ι → Prop
  | .paste source _ => WellFormed source
  | .clone _ => True

structure Copying.Given (newId : Nat → ι) (map : MindMap ι) (copying : Copying ι) : Prop where
  fromMap : copying.FromMap
  freshHere : Fresh newId map.toGraph
  freshThere : Fresh newId (copying.part map)

def Edit.Given (newId : Nat → ι) (map : MindMap ι) : Edit ι → Prop
  | .copy copying => copying.Given newId map
  | .remove _ => True

/-- `later` comes from `map` by one edit. -/
def Step (map later : MindMap ι) : Prop :=
  ∃ (newId : Nat → ι) (edit : Edit ι), edit.Given newId map ∧ edit.exec newId map = .ok later

def Reaches : MindMap ι → MindMap ι → Prop := Relation.ReflTransGen Step

def Copied (map : MindMap ι) (part : Graph ι) (result : MindMap ι) : Prop :=
  ∃ (rename : ι → ι) (copied : Graph ι), result = extended map copied ∧
    IsCopy rename part copied ∧ Apart copied map.toGraph ∧ Apart copied part

/-- The copy is refused exactly when it does not fit, and else made in full. -/
structure Copying.Sound (newId : Nat → ι) (map : MindMap ι) (copying : Copying ι) : Prop where
  refused : copying.exec newId map = .error mapLimit ↔ Exceeds map.toGraph (copying.part map)
  made : ∀ result, copying.exec newId map = .ok result → Copied map (copying.part map) result

/-- Twice the clipboard is within the limits, or there is no room for it anyway. -/
def Copying.Direct (map : MindMap ι) : Copying ι → Prop
  | .paste source ids =>
    (2 * (copyMapSelection source ids).nodes.length ≤ maxNodes ∧
      2 * (copyMapSelection source ids).edges.length ≤ maxEdges) ∨
    Exceeds map.toGraph (copyMapSelection source ids)
  | .clone _ => True

instance (map : MindMap ι) (copying : Copying ι) : Decidable (copying.Direct map) := by
  cases copying
  · exact inferInstanceAs (Decidable (_ ∨ _))
  · exact inferInstanceAs (Decidable True)

variable {newId : Nat → ι} {map later start : MindMap ι} {part : Graph ι} {copying : Copying ι}

theorem Copying.part_wellFormed (h : WellFormed map.toGraph) (hfrom : copying.FromMap) :
    WellFormed (copying.part map) := by
  cases copying with
  | paste source ids => exact WellFormed.copy hfrom ids
  | clone ids => exact h.copy ids

omit [DecidableEq ι] in
theorem exceeds_self : Exceeds part part ↔
    ¬(2 * part.nodes.length ≤ maxNodes ∧ 2 * part.edges.length ≤ maxEdges) := by
  unfold Exceeds
  omega

theorem Copying.exec_eq (h : WellFormed map.toGraph) (hfrom : copying.FromMap) :
    copying.exec newId map =
      if ¬copying.Direct map ∨ Exceeds map.toGraph (copying.part map) then .error mapLimit
      else .ok (extended map (renewed newId (copying.part map))) := by
  cases copying with
  | paste source ids =>
    refine (pasteMapSelection_eq (WellFormed.copy hfrom ids)).trans (if_congr ?_ rfl rfl)
    show _ ↔ ¬(_ ∨ _) ∨ Exceeds map.toGraph (copyMapSelection source ids)
    rw [exceeds_self]
    by_cases hexceeds : Exceeds map.toGraph (copyMapSelection source ids)
    · simp only [hexceeds, or_true]
    · simp only [hexceeds, or_false]
  | clone ids =>
    refine (cloneMapSelection_eq h ids).trans (if_congr ?_ rfl rfl)
    show _ ↔ ¬True ∨ Exceeds map.toGraph (copyMapSelection map.toGraph ids)
    rw [not_true, false_or]

/-- What a copy that is made leads to. -/
theorem Copying.exec_ok (h : WellFormed map.toGraph) (hfrom : copying.FromMap)
    (hexec : copying.exec newId map = .ok later) :
    ¬Exceeds map.toGraph (copying.part map) ∧
      later = extended map (renewed newId (copying.part map)) := by
  rw [Copying.exec_eq h hfrom] at hexec
  split_ifs at hexec with hrefused
  obtain ⟨_, hfits⟩ := not_or.1 hrefused
  exact ⟨hfits, (Except.ok.inj hexec).symm⟩

theorem Copying.made (h : WellFormed map.toGraph) (hgiven : copying.Given newId map)
    (hexec : copying.exec newId map = .ok later) : Copied map (copying.part map) later := by
  have hpart := Copying.part_wellFormed h hgiven.fromMap
  obtain ⟨_, rfl⟩ := Copying.exec_ok h hgiven.fromMap hexec
  exact ⟨_, _, rfl, isCopy_renewed hpart hgiven.freshHere.injective,
    apart_renewed hpart hgiven.freshHere, apart_renewed hpart hgiven.freshThere⟩

theorem Copying.sound_iff (h : WellFormed map.toGraph) (hgiven : copying.Given newId map) :
    copying.Sound newId map ↔ copying.Direct map := by
  have hexec : copying.exec newId map =
      if ¬copying.Direct map ∨ Exceeds map.toGraph (copying.part map) then .error mapLimit
      else .ok (extended map (renewed newId (copying.part map))) :=
    Copying.exec_eq h hgiven.fromMap
  constructor
  · intro hsound
    by_contra hindirect
    have hrefused := hsound.refused.1 (by rw [hexec, if_pos (.inl hindirect)])
    cases copying with
    | paste source ids => exact hindirect (.inr hrefused)
    | clone ids => exact hindirect trivial
  · intro hdirect
    refine ⟨?_, fun result => Copying.made h hgiven⟩
    rw [hexec]
    by_cases hexceeds : Exceeds map.toGraph (copying.part map)
    · simp [hexceeds]
    · simp [hexceeds, hdirect]

structure Kept (start map : MindMap ι) : Prop where
  wellFormed : WellFormed map.toGraph
  withinLimits : WithinLimits start.toGraph → WithinLimits map.toGraph
  edges : (edgeIds start.toGraph).Nodup → (edgeIds map.toGraph).Nodup

theorem Kept.copy (h : Kept start map) (hgiven : copying.Given newId map)
    (hexec : copying.exec newId map = .ok later) : Kept start later := by
  have hpart := Copying.part_wellFormed h.wellFormed hgiven.fromMap
  have hapart := apart_renewed hpart hgiven.freshHere
  obtain ⟨hfits, rfl⟩ := Copying.exec_ok h.wellFormed hgiven.fromMap hexec
  exact ⟨h.wellFormed.extended (isCopy_renewed hpart hgiven.freshHere.injective) hpart hapart,
    fun _ => withinLimits_extended length_nodes_renewed length_edges_renewed hfits,
    fun hstart => nodup_edgeIds_extended (h.edges hstart) hapart⟩

theorem Kept.remove (h : Kept start map) (ids : List ι) : Kept start (removeMapNodes map ids) := by
  refine ⟨h.wellFormed.remove ids, fun hstart => ?_, fun hstart => ?_⟩
  · have hlimits := h.withinLimits hstart
    exact ⟨(length_filter_le _ _).trans hlimits.nodes,
      (length_filter_le _ _).trans hlimits.edges⟩
  · exact (h.edges hstart).sublist (filter_sublist.map _)

theorem Kept.step (h : Kept start map) (hstep : Step map later) : Kept start later := by
  obtain ⟨newId, edit, hgiven, hexec⟩ := hstep
  cases edit with
  | copy copying => exact h.copy hgiven hexec
  | remove ids =>
    cases hexec
    exact h.remove ids

theorem kept_of_reaches (h : WellFormed start.toGraph) (hrun : Reaches start map) :
    Kept start map := by
  induction hrun with
  | refl => exact ⟨h, id, id⟩
  | tail _ hstep ih => exact ih.step hstep

/-- In every run of edits the map keeps its distinct ids, its joined ends and its limits, and what a
copy adds is the part under new ids.  A copy is refused exactly when it would not fit if and only if
it is direct. -/
theorem edits_keep_maps (h : WellFormed start.toGraph) (hrun : Reaches start map) :
    WellFormed map.toGraph ∧ ((edgeIds start.toGraph).Nodup → (edgeIds map.toGraph).Nodup) ∧
      (WithinLimits start.toGraph → WithinLimits map.toGraph) ∧
      ∀ newId (copying : Copying ι), copying.Given newId map →
        (∀ later, copying.exec newId map = .ok later → Copied map (copying.part map) later) ∧
        (copying.Sound newId map ↔ copying.Direct map) := by
  have hkept := kept_of_reaches h hrun
  refine ⟨hkept.wellFormed, hkept.edges, hkept.withinLimits, fun newId copying hgiven => ?_⟩
  exact ⟨fun later => Copying.made hkept.wellFormed hgiven,
    Copying.sound_iff hkept.wellFormed hgiven⟩

def pair : MindMap Nat where
  nodes := [⟨0, 0, 0, []⟩, ⟨1, 5, 5, []⟩]
  edges := [⟨2, 0, 1, []⟩]
  content := []

/-- All of `pair` pasted into it. -/
def pairTwice : MindMap Nat where
  nodes := pair.nodes ++ [⟨10, 30, 30, []⟩, ⟨11, 35, 35, []⟩]
  edges := pair.edges ++ [⟨12, 10, 11, []⟩]
  content := []

/-- A paste and a removal, and the pasted part with its edge is pasted again. -/
theorem pasted_again_sound : WellFormed (removeMapNodes pairTwice [1]).toGraph ∧
    (Copying.paste pairTwice.toGraph [10, 11]).Sound (· + 20) (removeMapNodes pairTwice [1]) := by
  have hfresh {count : Nat} {graph : Graph Nat}
      (hnodes : ∀ id ∈ nodeIds graph, id < count) (hedges : ∀ id ∈ edgeIds graph, id < count) :
      Fresh (· + count) graph := by
    refine ⟨fun _ _ h => Nat.add_right_cancel h, fun n hmem => ?_, fun n hmem => ?_⟩
    · exact absurd (hnodes _ hmem) (by omega)
    · exact absurd (hedges _ hmem) (by omega)
  have hpair : WellFormed pair.toGraph := ⟨by decide, by decide⟩
  have hpasted : Step pair pairTwice :=
    ⟨(· + 10), .copy (.paste pair.toGraph [0, 1]), ⟨hpair, hfresh (by decide) (by decide),
      hfresh (by decide) (by decide)⟩, by decide +kernel⟩
  have hremoved : Step pairTwice (removeMapNodes pairTwice [1]) := ⟨id, .remove [1], trivial, rfl⟩
  have hgiven : (Copying.paste pairTwice.toGraph [10, 11]).Given (· + 20)
      (removeMapNodes pairTwice [1]) :=
    ⟨⟨by decide, by decide⟩, hfresh (by decide) (by decide), hfresh (by decide) (by decide)⟩
  obtain ⟨hwell, _, _, hcopies⟩ := edits_keep_maps hpair (.tail (.single hpasted) hremoved)
  exact ⟨hwell, (hcopies _ _ hgiven).2.2 (by decide)⟩

def nothing : MindMap Nat := ⟨⟨[], []⟩, []⟩

def large : Graph Nat := ⟨(List.range 151).map fun n => ⟨n, 0, 0, []⟩, []⟩

theorem nodeIds_large : nodeIds large = List.range 151 := by
  unfold nodeIds large
  rw [map_map]
  exact map_id _

theorem large_wellFormed : WellFormed large := by
  refine ⟨?_, fun edge hedge => absurd hedge not_mem_nil⟩
  rw [nodeIds_large]
  exact nodup_range

/-- All of a map of 151 nodes is not pasted into an empty map, where it would fit. -/
theorem large_paste_refused :
    WellFormed nothing.toGraph ∧
      (Copying.paste large (nodeIds large)).Given (· + 151) nothing ∧
      (Copying.paste large (nodeIds large)).exec (· + 151) nothing = .error mapLimit ∧
      ¬Exceeds nothing.toGraph ((Copying.paste large (nodeIds large)).part nothing) := by
  have hpart : (Copying.paste large (nodeIds large)).part nothing = large :=
    copyMapSelection_nodeIds large_wellFormed
  have hinj : Function.Injective (· + 151 : Nat → Nat) := fun first second h => Nat.add_right_cancel h
  have hnothing : WellFormed nothing.toGraph := ⟨nodup_nil, forall_mem_nil _⟩
  have hexceeds : Exceeds large large := .inl (by simp [large, maxNodes])
  have hfits : ¬Exceeds nothing.toGraph large := by simp [Exceeds, nothing, large, maxNodes, maxEdges]
  refine ⟨hnothing, ⟨large_wellFormed, ⟨hinj, ?_, ?_⟩, ⟨hinj, ?_, ?_⟩⟩, ?_, ?_⟩
  · exact fun _ => not_mem_nil
  · exact fun _ => not_mem_nil
  · intro n hmem
    rw [hpart, nodeIds_large, mem_range] at hmem
    omega
  · intro n hmem
    rw [hpart] at hmem
    exact not_mem_nil hmem
  · show pasteMapSelection _ nothing ((Copying.paste large (nodeIds large)).part nothing) = _
    rw [hpart, pasteMapSelection_eq large_wellFormed, if_pos (.inl hexceeds)]
  · rw [hpart]
    exact hfits

end LockIn.Knowledge.Maps
