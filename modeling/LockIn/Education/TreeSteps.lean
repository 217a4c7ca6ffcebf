import LockIn.Education.SearchIndex

/-!
# What the tree services keep

Each service that changes the tree keeps its shape, its flags and what the index shows, wherever
the content and the questions are.
-/

namespace LockIn.Education

open List Outcome Table

/-- What the index is to show of a resource, by the tree and by where content and questions are. -/
def expected (nodes : List Node) (home : ResourceKind × Uuid → Option Uuid) (key : ResourceKind × Uuid) :
    Option (Text × Bool) :=
  match key.1 with
  | .node kind => (Table.find Node.id nodes key.2).bind fun node =>
    if node.kind = kind then nodeView node else none
  | .learningObject | .question => (home key).bind fun id =>
    (Table.find Node.id nodes id).map fun node => (node.path, node.isDiscoverable)

structure Indexed (nodes : List Node) (entries : List Entry) (home : ResourceKind × Uuid → Option Uuid) :
    Prop where
  distinct : Table.Distinct Entry.key entries
  shows : ∀ key, shown entries key = expected nodes home key
  housed : ∀ key id, home key = some id → id ∈ nodes.map Node.id

structure Kept (tree : Tree) (home : ResourceKind × Uuid → Option Uuid) : Prop where
  shape : Shape tree.nodes
  lit : Lit tree.nodes
  indexed : Indexed tree.nodes tree.entries home

variable {entries' : List Entry}

section
variable {nodes : List Node} {entries : List Entry} {home : ResourceKind × Uuid → Option Uuid}
  {node root item : Node} {key : ResourceKind × Uuid} {path : Text}

theorem exists_find (h : Table.Distinct Node.id nodes) {id : Uuid} (hmem : id ∈ nodes.map Node.id) :
    ∃ node ∈ nodes, node.id = id ∧ Table.find Node.id nodes id = some node := by
  obtain ⟨node, hnode, rfl⟩ := mem_map.1 hmem
  exact ⟨node, hnode, rfl, h.find hnode⟩

variable {items : List Node} {change : Node → Node} {row : Node}

theorem Refreshed.path_mem (h : Refreshed nodes path items) (hshape : Shape nodes)
    (hmem : node ∈ nodes) (hitem : item ∈ items) (hpath : node.path = item.path) :
    item.id = node.id := by
  obtain ⟨old, hold, _, hsame⟩ := h.old item hitem
  rw [hsame.same.id, hshape.path_injective hmem hold (hpath.trans hsame.same.path)]

theorem Refreshed.paths (h : Refreshed nodes path items) (hshape : Shape nodes) :
    items.Pairwise fun first second => first.path ≠ second.path := by
  have hids : items.Pairwise fun first second => first.id ≠ second.id := pairwise_map.1 h.distinct
  refine hids.imp_of_mem fun {first second} hfirst hsecond hne hpath => hne ?_
  obtain ⟨old, hold, _, hsame⟩ := h.old first hfirst
  have hid := h.path_mem hshape hold hsecond (hsame.same.path.symm.trans hpath)
  rw [hid, hsame.same.id]

theorem Refreshed.shown_at (h : Refreshed nodes path items) (hshape : Shape nodes)
    (hkey : ∀ item ∈ items, key ≠ nodeKey item) (hmem : node ∈ nodes)
    (hshown : shown entries key = some (node.path, node.isDiscoverable)) :
    shown (syncAll entries items) key = some (node.path,
      ((Table.find Node.id items node.id).getD node).isDiscoverable) := by
  rcases h.find hshape hmem with ⟨_, item, hitem, hfind, hsame⟩ | ⟨_, hfind⟩
  · rw [hfind, Option.getD_some, ← hsame.same.path]
    rw [← hsame.same.path] at hshown
    exact shown_syncAll_at hkey (h.paths hshape) hitem hshown
  · rw [hfind, Option.getD_none]
    refine shown_syncAll_other hkey (fun item hitem hpath => ?_) hshown
    exact find_eq_none.1 hfind item hitem (h.path_mem hshape hmem hitem hpath)

theorem Indexed.refresh (h : Indexed nodes entries home) (hshape : Shape nodes)
    (hitems : Refreshed nodes path items) :
    Indexed (bulkUpdate nodes items) (syncAll entries items) home := by
  refine ⟨distinct_syncAll h.distinct items, fun key => ?_, fun key id hid => ?_⟩
  · obtain ⟨kind, id⟩ := key
    have hbefore := h.shows (kind, id)
    have hattached : (∀ item ∈ items, (kind, id) ≠ nodeKey item) →
        expected nodes home (kind, id) = ((home (kind, id)).bind fun id =>
          (Table.find Node.id nodes id).map fun node => (node.path, node.isDiscoverable)) →
        shown (syncAll entries items) (kind, id) = (home (kind, id)).bind fun id =>
          (Table.find Node.id (bulkUpdate nodes items) id).map fun node => (node.path, node.isDiscoverable) := by
      intro hkeys hexpected
      rw [hexpected] at hbefore
      cases hhome : home (kind, id) with
      | none =>
        rw [hhome] at hbefore
        exact shown_syncAll_none hkeys hbefore
      | some at' =>
        obtain ⟨node, hmem, hid, hfind⟩ := exists_find hshape.distinct (h.housed (kind, id) at' hhome)
        rw [hhome, Option.bind_some, hfind] at hbefore
        rw [hitems.shown_at hshape hkeys hmem hbefore, Option.bind_some, find_bulkUpdate, hfind,
          Option.map_some, Option.map_some, (hitems.saved hshape hmem).same.path]
    cases kind with
    | learningObject => exact hattached (fun item _ hc => by cases hc) rfl
    | question => exact hattached (fun item _ hc => by cases hc) rfl
    | node kind =>
      show _ = (Table.find Node.id (bulkUpdate nodes items) id).bind fun node =>
        if node.kind = kind then nodeView node else none
      rw [find_bulkUpdate]
      cases hfind : Table.find Node.id nodes id with
      | none =>
        have hkeys : ∀ item ∈ items, (ResourceKind.node kind, id) ≠ nodeKey item := by
          intro item hitem hc
          obtain ⟨old, hold, _, hsame⟩ := hitems.old item hitem
          exact find_eq_none.1 hfind old hold
            (hsame.same.id.symm.trans (congrArg Prod.snd hc).symm)
        refine shown_syncAll_none hkeys (hbefore.trans ?_)
        show (Table.find Node.id nodes id).bind _ = none
        rw [hfind]
        rfl
      | some node =>
        have hmem := find_mem hfind
        obtain rfl : node.id = id := find_key hfind
        rw [Option.map_some, Option.bind_some]
        have hother : ∀ item ∈ items, item.id = node.id → kind ≠ item.kind →
            ∀ other ∈ items, (ResourceKind.node kind, node.id) ≠ nodeKey other := by
          intro item hitem hid hkind other hotherMem hc
          have hsameItem := hitems.distinct.eq hotherMem hitem ((congrArg Prod.snd hc).symm.trans hid.symm)
          rw [hsameItem] at hc
          injection hc with hc
          injection hc with hc
          exact hkind hc
        have hexpected : expected nodes home (.node kind, node.id) =
            if node.kind = kind then nodeView node else none := by
          show (Table.find Node.id nodes node.id).bind _ = _
          rw [hfind]
          rfl
        rcases hitems.find hshape hmem with ⟨_, item, hitem, hfindItem, hsame⟩ | ⟨_, hfindItem⟩
        · rw [hfindItem, Option.getD_some]
          by_cases hkind : item.kind = kind
          · rw [if_pos hkind, ← hkind, ← hsame.same.id]
            exact shown_syncAll_node hitems.distinct (hitems.paths hshape) hitem
          · rw [if_neg hkind]
            refine shown_syncAll_none (hother item hitem hsame.same.id (Ne.symm hkind))
              (hbefore.trans (hexpected.trans (if_neg ?_)))
            rw [← hsame.same.kind]
            exact hkind
        · rw [hfindItem, Option.getD_none, ← hexpected]
          have hkeys : ∀ item ∈ items, (ResourceKind.node kind, node.id) ≠ nodeKey item :=
            fun item hitem hc => find_eq_none.1 hfindItem item hitem (congrArg Prod.snd hc).symm
          rw [← hbefore]
          cases hshown : shown entries (.node kind, node.id) with
          | none => exact shown_syncAll_none hkeys hshown
          | some view =>
            refine shown_syncAll_other hkeys (fun item hitem hpath => ?_) hshown
            -- what is shown of a node is shown at its own path
            have hview : view.1 = node.path := by
              rw [hbefore, hexpected] at hshown
              obtain ⟨_, hshown⟩ := Option.ite_none_right_eq_some.1 hshown
              obtain ⟨_, hshown⟩ := Option.ite_none_right_eq_some.1 hshown
              rw [← Option.some.inj hshown]
            exact find_eq_none.1 hfindItem item hitem
              (hitems.path_mem hshape hmem hitem (hview.symm.trans hpath))
  · rw [map_id_bulkUpdate]
    exact h.housed key id hid

theorem Indexed.map (h : Indexed nodes entries home) (rename : Text → Text)
    (hid : ∀ node ∈ nodes, (change node).id = node.id)
    (hkind : ∀ node ∈ nodes, (change node).kind = node.kind)
    (hflag : ∀ node ∈ nodes, (change node).isDiscoverable = node.isDiscoverable)
    (hpath : ∀ node ∈ nodes, (change node).path = rename node.path)
    (hdistinct : Table.Distinct Entry.key entries')
    (hshown : ∀ key, shown entries' key = (shown entries key).map fun view => (rename view.1, view.2)) :
    Indexed (nodes.map change) entries' home := by
  refine ⟨hdistinct, fun key => ?_, fun key id hhome => ?_⟩
  · obtain ⟨kind, id⟩ := key
    rw [hshown, h.shows]
    have hattached : (((home (kind, id)).bind fun id =>
        (Table.find Node.id nodes id).map fun node => (node.path, node.isDiscoverable)).map
          fun view => (rename view.1, view.2)) = (home (kind, id)).bind fun id =>
        (Table.find Node.id (nodes.map change) id).map fun node => (node.path, node.isDiscoverable) := by
      cases home (kind, id) with
      | none => rfl
      | some at' =>
        rw [Option.bind_some, Option.bind_some, find_map hid]
        cases hfind : Table.find Node.id nodes at' with
        | none => rfl
        | some node =>
          have hmem := find_mem hfind
          simp only [Option.map_some, hpath node hmem, hflag node hmem]
    cases kind with
    | learningObject => exact hattached
    | question => exact hattached
    | node kind =>
      show ((Table.find Node.id nodes id).bind fun node => if node.kind = kind then nodeView node else none).map _ =
        (Table.find Node.id (nodes.map change) id).bind fun node => if node.kind = kind then nodeView node else none
      rw [find_map hid]
      cases hfind : Table.find Node.id nodes id with
      | none => rfl
      | some node =>
        have hmem := find_mem hfind
        rw [Option.bind_some, Option.map_some, Option.bind_some, hkind node hmem]
        by_cases hc : node.kind = kind
        · rw [if_pos hc, if_pos hc]
          unfold nodeView
          rw [hflag node hmem, hkind node hmem, hpath node hmem]
          split <;> rfl
        · rw [if_neg hc, if_neg hc]
          rfl
  · have hids : (nodes.map change).map Node.id = nodes.map Node.id := by
      rw [map_map]
      exact map_congr_left hid
    rw [hids]
    exact h.housed key id hhome

theorem flagIn_map (hid : ∀ node ∈ nodes, (change node).id = node.id)
    (hflag : ∀ node ∈ nodes, (change node).isDiscoverable = node.isDiscoverable) (id : Uuid) :
    flagIn (nodes.map change) id = flagIn nodes id := by
  unfold flagIn
  rw [find_map hid]
  cases hfind : Table.find Node.id nodes id with
  | none => rfl
  | some node => exact hflag node (find_mem hfind)

def replaced (row node : Node) : Node := if node.id = row.id then row else node

theorem put_eq_map (nodes : List Node) (row : Node) : Table.put Node.id nodes row = nodes.map (replaced row) :=
  rfl

theorem replaced_same (hshape : Shape nodes) (hmem : node ∈ nodes) (hrow : SamePlace node row) :
    ∀ other ∈ nodes, SamePlace other (replaced row other) := by
  intro other hother
  unfold replaced
  split
  · next hid =>
    rw [hshape.distinct.eq hother hmem (hid.trans hrow.id)]
    exact hrow
  · exact .refl other

theorem replaced_flag (hshape : Shape nodes) (hmem : node ∈ nodes) (hrow : SamePlace node row)
    (hflag : row.isDiscoverable = node.isDiscoverable) :
    ∀ other ∈ nodes, (replaced row other).isDiscoverable = other.isDiscoverable := by
  intro other hother
  unfold replaced
  split
  · next hid =>
    rw [hshape.distinct.eq hother hmem (hid.trans hrow.id)]
    exact hflag
  · rfl

theorem Indexed.put {row : Node} (h : Indexed nodes entries home) (hshape : Shape nodes) (hmem : node ∈ nodes)
    (hrow : SamePlace node row) (hflag : row.isDiscoverable = node.isDiscoverable) :
    Indexed (Table.put Node.id nodes row) entries home := by
  have hsame := replaced_same hshape hmem hrow
  rw [put_eq_map]
  exact h.map id (fun other hother => (hsame other hother).id) (fun other hother => (hsame other hother).kind)
    (replaced_flag hshape hmem hrow hflag) (fun other hother => (hsame other hother).path)
    h.distinct fun key => by cases shown entries key <;> rfl

theorem Indexed.sync (h : Indexed nodes entries home) (hshape : Shape nodes) (hmem : node ∈ nodes) :
    Indexed nodes (syncNodeSearch entries node) home := by
  refine ⟨distinct_sync h.distinct node, fun key => ?_, h.housed⟩
  rw [shown_sync]
  split
  · next hkey =>
    rw [hkey]
    show _ = (Table.find Node.id nodes node.id).bind fun other =>
      if other.kind = node.kind then nodeView other else none
    rw [hshape.find hmem, Option.bind_some, if_pos rfl]
  · exact h.shows key

end

section
variable {texts : Texts} {actor : Actor} {tree next : Tree} {home : ResourceKind × Uuid → Option Uuid}
  {id : Uuid} {expectedRevision : Nat} {node : Node} {nodes : List Node}

theorem findNode_ok (h : findNode nodes id = .ok node) : node ∈ nodes ∧ node.id = id := by
  unfold findNode at h
  split at h
  · simp at h
  · next hfind =>
    obtain rfl := Except.ok.inj h
    exact ⟨find_mem hfind, find_key hfind⟩

theorem findParent_ok {parent : Option Node} {reference : Option Uuid} (h : findParent nodes reference = .ok parent) :
    reference = parent.map Node.id ∧ ∀ found ∈ parent, found ∈ nodes := by
  cases reference with
  | none =>
    obtain rfl := Except.ok.inj h
    exact ⟨rfl, by simp⟩
  | some id =>
    obtain ⟨found, hfound, rfl⟩ := map_eq_ok.1 h
    obtain ⟨hmem, hid⟩ := findNode_ok hfound
    exact ⟨congrArg some hid.symm, by simpa using hmem⟩

theorem updateNode_kept {changes : NodeChanges} (hkept : Kept tree home)
    (h : updateNode texts actor tree id expectedRevision changes = .ok next) : Kept next home := by
  obtain ⟨node, hnode, h⟩ := bind_eq_ok.1 h
  obtain ⟨hmem, _⟩ := findNode_ok hnode
  obtain ⟨_, h⟩ := unless_ok.1 h
  obtain ⟨_, _, h⟩ := bind_eq_ok.1 h
  obtain ⟨slug, _, h⟩ := bind_eq_ok.1 h
  obtain ⟨_, h⟩ := unless_ok.1 h
  obtain rfl := Except.ok.inj h
  set row := cleaned texts { node with
    title := changes.title.getD node.title
    slug
    description := changes.description.getD node.description
    position := changes.position.getD node.position
    revision := node.revision + 1 } with hrow
  have hsame : SamePlace node row := ⟨rfl, rfl, rfl, rfl, rfl⟩
  have hplaces := replaced_same hkept.shape hmem hsame
  have hflags := replaced_flag hkept.shape hmem hsame rfl
  have hshape : Shape (Table.put Node.id tree.nodes row) := hkept.shape.map hplaces
  refine ⟨hshape, ?_, (hkept.indexed.put hkept.shape hmem hsame rfl).sync hshape ?_⟩
  · intro changed hchanged
    rw [put_eq_map] at hchanged ⊢
    obtain ⟨old, hold, rfl⟩ := mem_map.1 hchanged
    rw [hflags old hold, hkept.lit old hold]
    have hunder : litUnder (flagIn tree.nodes) (replaced row old) = litUnder (flagIn tree.nodes) old := by
      unfold replaced
      split
      · next hid =>
        rw [hkept.shape.distinct.eq hold hmem hid]
        rfl
      · rfl
    rw [← hunder]
    exact litUnder_congr fun parent _ =>
      (flagIn_map (fun other hother => (hplaces other hother).id) hflags parent).symm
  · have hfind : Table.find Node.id tree.nodes row.id = some node := hkept.shape.find hmem
    exact mem_put_self hfind

theorem refresh_kept {entries : List Entry} {nodes nodes' : List Node} (hshape : Shape nodes)
    (hindexed : Indexed nodes entries home) (hmem : node ∈ nodes)
    (houtside : ∀ other ∈ nodes, insideOf node.path other = false →
      other.isDiscoverable = litUnder (flagIn nodes) other)
    (h : refreshSubtreeDiscoverability nodes entries node = .ok (nodes', entries')) :
    Kept ⟨nodes', entries'⟩ home := by
  obtain ⟨parent, hparent, h⟩ := bind_eq_ok.1 h
  obtain ⟨rfl, rfl⟩ := Prod.mk.inj (Except.ok.inj h)
  have hitems := refreshed_subtree hshape hmem hparent
  exact ⟨hitems.shape hshape, hitems.lights hshape ⟨node, hmem, rfl⟩ houtside,
    hindexed.refresh hshape hitems⟩

theorem setNodeStatus_kept {status : NodeStatus} (hkept : Kept tree home)
    (h : setNodeStatus actor tree id expectedRevision status = .ok next) : Kept next home := by
  obtain ⟨node, hnode, h⟩ := bind_eq_ok.1 h
  obtain ⟨hmem, _⟩ := findNode_ok hnode
  obtain ⟨parent, hparent, h⟩ := bind_eq_ok.1 h
  obtain ⟨_, h⟩ := unless_ok.1 h
  obtain ⟨_, _, h⟩ := bind_eq_ok.1 h
  obtain ⟨_, h⟩ := unless_ok.1 h
  obtain ⟨_, h⟩ := unless_ok.1 h
  obtain ⟨⟨nodes, entries⟩, hrefresh, h⟩ := bind_eq_ok.1 h
  obtain rfl := Except.ok.inj h
  set row : Node := { node with status, revision := node.revision + 1 } with hrow
  have hsame : SamePlace node row := ⟨rfl, rfl, rfl, rfl, rfl⟩
  have hplaces := replaced_same hkept.shape hmem hsame
  have hflags := replaced_flag hkept.shape hmem hsame rfl
  have hfind : Table.find Node.id tree.nodes row.id = some node := hkept.shape.find hmem
  refine refresh_kept (hkept.shape.map hplaces) (hkept.indexed.put hkept.shape hmem hsame rfl)
    (mem_put_self hfind) (fun other hother hout => ?_) hrefresh
  obtain ⟨old, hold, rfl⟩ := mem_map.1 hother
  have hne : old.id ≠ row.id := by
    intro hid
    rw [replaced, if_pos hid, inside_self row] at hout
    simp at hout
  rw [replaced, if_neg hne, hkept.lit old hold]
  exact litUnder_congr fun parent _ =>
    (flagIn_map (fun other hother => (hplaces other hother).id) hflags parent).symm

theorem Kept.append (hkept : Kept tree home) (hnew : node.id ∉ tree.nodes.map Node.id)
    (hfits : Fits tree.nodes node) (hflag : node.isDiscoverable = false) (hstatus : node.status = .draft) :
    Kept { tree with nodes := tree.nodes ++ [node] } home := by
  have hfind : ∀ id ∈ tree.nodes.map Node.id,
      Table.find Node.id (tree.nodes ++ [node]) id = Table.find Node.id tree.nodes id := by
    intro id hid
    obtain ⟨found, _, _, hfound⟩ := exists_find hkept.shape.distinct hid
    rw [find_append, hfound, Option.some_or]
  have hfits' : ∀ other, Fits tree.nodes other → Fits (tree.nodes ++ [node]) other := by
    intro other hother
    unfold Fits at hother ⊢
    cases hparent : other.parent with
    | none =>
      rw [hparent] at hother
      exact hother
    | some id =>
      rw [hparent] at hother
      obtain ⟨hkind, parent, hfound, hpath⟩ := hother
      exact ⟨hkind, parent, by rw [find_append, hfound, Option.some_or], hpath⟩
  have hlit : ∀ other, Fits tree.nodes other →
      litUnder (flagIn (tree.nodes ++ [node])) other = litUnder (flagIn tree.nodes) other := by
    intro other hother
    refine litUnder_congr fun parent hparent => ?_
    unfold Fits at hother
    rw [hparent] at hother
    obtain ⟨_, found, hfound, _⟩ := hother
    unfold flagIn
    rw [find_append, hfound, Option.some_or]
  refine ⟨⟨hkept.shape.distinct.append fun old hold hid => hnew (hid ▸ mem_map_of_mem hold), ?_⟩, ?_,
    hkept.indexed.distinct, ?_, ?_⟩
  · intro other hother
    rcases mem_append.1 hother with hold | hone
    · exact hfits' other (hkept.shape.fits other hold)
    · rw [mem_singleton.1 hone]
      exact hfits' node hfits
  · intro other hother
    rcases mem_append.1 hother with hold | hone
    · rw [hlit other (hkept.shape.fits other hold)]
      exact hkept.lit other hold
    · rw [mem_singleton.1 hone, hflag, litUnder, hstatus]
      rfl
  · rintro ⟨kind, id⟩
    rw [hkept.indexed.shows]
    have hattached : ((home (kind, id)).bind fun id =>
        (Table.find Node.id tree.nodes id).map fun node => (node.path, node.isDiscoverable)) =
          (home (kind, id)).bind fun id =>
            (Table.find Node.id (tree.nodes ++ [node]) id).map fun node => (node.path, node.isDiscoverable) := by
      cases hhome : home (kind, id) with
      | none => rfl
      | some at' => rw [Option.bind_some, Option.bind_some, hfind at' (hkept.indexed.housed _ _ hhome)]
    cases kind with
    | learningObject => exact hattached
    | question => exact hattached
    | node kind =>
      show (Table.find Node.id tree.nodes id).bind _ = (Table.find Node.id (tree.nodes ++ [node]) id).bind _
      by_cases hin : id ∈ tree.nodes.map Node.id
      · rw [hfind id hin]
      · have hnone : Table.find Node.id tree.nodes id = none :=
          find_eq_none.2 fun old hold heq => hin (heq ▸ mem_map_of_mem hold)
        rw [find_append, hnone, Option.none_or]
        by_cases hid : node.id = id
        · simp [Table.find, hid, nodeView, hflag]
        · simp [Table.find, hid]
  · intro key id hhome
    rw [map_append]
    exact mem_append_left _ (hkept.indexed.housed key id hhome)

theorem createNode_kept {kind : Kind} {title description : Text} {parent : Option Uuid} {slug : Option Text}
    {position : Nat} (hkept : Kept tree home)
    (h : createNode texts actor tree id kind title parent slug description position = .ok next) :
    Kept next home := by
  obtain ⟨found, hfound, h⟩ := bind_eq_ok.1 h
  obtain ⟨_, hmem⟩ := findParent_ok hfound
  obtain ⟨_, h⟩ := unless_ok.1 h
  obtain ⟨slug, _, h⟩ := bind_eq_ok.1 h
  obtain ⟨hclean, h⟩ := unless_ok.1 h
  obtain rfl := Except.ok.inj h
  simp only [Bool.or_eq_true, not_or, Bool.not_eq_true', Bool.not_eq_false, fullClean, Bool.and_eq_true,
    beq_iff_eq] at hclean
  obtain ⟨⟨⟨_, hkind⟩, _⟩, hfresh⟩ := hclean
  refine hkept.append ?_ ?_ rfl rfl
  · intro hin
    obtain ⟨old, hold, hid⟩ := mem_map.1 hin
    have hsame : old.id = id := hid
    exact hfresh (List.any_eq_true.2 ⟨old, hold, by simpa using hsame⟩)
  · unfold Fits cleaned
    cases found with
    | none => exact ⟨by simpa using hkind, rfl, rfl⟩
    | some row =>
      refine ⟨by simpa using hkind, row, hkept.shape.find (hmem row rfl), rfl, rfl⟩

end

section
variable {actor : Actor} {tree next : Tree} {home : ResourceKind × Uuid → Option Uuid} {nodes : List Node}
  {node item parent : Node} {newParent : Option Node} {position : Nat}

def carried (node : Node) (newParent : Option Node) (position : Nat) (item : Node) : Node :=
  if insideOf node.path item then moved node newParent position item else item

@[simp]
theorem moved_id : (moved node newParent position item).id = item.id := by
  unfold moved
  split <;> rfl

theorem moved_path : (moved node newParent position item).path =
    replacePrefix node.path (nodePath node.id newParent) item.path := by
  unfold moved
  split <;> rfl

theorem moved_depth :
    (moved node newParent position item).depth = item.depth + depthUnder newParent - node.depth := by
  unfold moved
  split <;> rfl

theorem moved_parent (hne : item.id ≠ node.id) : (moved node newParent position item).parent = item.parent := by
  unfold moved
  rw [if_neg hne]

theorem carried_inside (h : insideOf node.path item = true) :
    carried node newParent position item = moved node newParent position item := by
  rw [carried, if_pos h]

theorem carried_outside (h : insideOf node.path item = false) : carried node newParent position item = item := by
  rw [carried, h, if_neg Bool.false_ne_true]

@[simp]
theorem carried_id : (carried node newParent position item).id = item.id := by
  unfold carried
  split
  · exact moved_id
  · rfl

@[simp]
theorem carried_kind : (carried node newParent position item).kind = item.kind := by
  unfold carried moved
  split
  · split <;> rfl
  · rfl

@[simp]
theorem carried_flag : (carried node newParent position item).isDiscoverable = item.isDiscoverable := by
  unfold carried moved
  split
  · split <;> rfl
  · rfl

theorem carried_path : (carried node newParent position item).path =
    replacePrefix node.path (nodePath node.id newParent) item.path := by
  unfold carried
  split
  · exact moved_path
  · next hout =>
    exact (if_neg hout).symm

theorem bulkUpdate_moved (h : Table.Distinct Node.id nodes) :
    bulkUpdate nodes ((subtreeOf nodes node.path).map (moved node newParent position)) =
      nodes.map (carried node newParent position) := by
  refine map_congr_left fun item hmem => ?_
  rw [find_map fun _ _ => moved_id]
  by_cases hin : insideOf node.path item = true
  · have hfind : Table.find Node.id (subtreeOf nodes node.path) item.id = some item :=
      (distinct_subtreeOf h node.path).find (mem_subtreeOf.2 ⟨hmem, hin⟩)
    rw [hfind, carried_inside hin]
    rfl
  · have hnone : Table.find Node.id (subtreeOf nodes node.path) item.id = none := by
      refine find_eq_none.2 fun other hother hid => hin ?_
      obtain ⟨hnodes, hinside⟩ := mem_subtreeOf.1 hother
      rw [← h.eq hnodes hmem hid]
      exact hinside
    rw [hnone, carried_outside (Bool.eq_false_iff.2 hin)]
    rfl

theorem Shape.inside_depth (h : Shape nodes) (hmem : node ∈ nodes) (hitem : item ∈ nodes)
    (hin : insideOf node.path item = true) : node.depth ≤ item.depth := by
  obtain ⟨above, _, hdepth, hpath⟩ := h.ancestors hmem
  obtain ⟨above', _, hdepth', hpath'⟩ := h.ancestors hitem
  have hbegins := isPrefixOf_iff.1 hin
  rw [hpath, hpath', Paths.render_begins (namesOf_plain _ _) (namesOf_plain _ _)] at hbegins
  have hle := hbegins.length_le
  simp only [namesOf, length_append, length_map, length_reverse, length_singleton] at hle
  omega

theorem replacePrefix_self (oldPrefix newPrefix : Text) : replacePrefix oldPrefix newPrefix oldPrefix = newPrefix := by
  unfold replacePrefix
  rw [if_pos (isPrefixOf_iff.2 prefix_rfl), drop_length, append_nil]

theorem replacePrefix_append {oldPrefix path : Text} (newPrefix more : Text) (h : oldPrefix.isPrefixOf path = true) :
    replacePrefix oldPrefix newPrefix (path ++ more) = replacePrefix oldPrefix newPrefix path ++ more := by
  have hbegins := isPrefixOf_iff.1 h
  unfold replacePrefix
  rw [if_pos h, if_pos (isPrefixOf_iff.2 (hbegins.trans (prefix_append path more))),
    drop_append_of_le_length hbegins.length_le, append_assoc]

/-- A node that goes under one outside of its subtree takes the subtree with it. -/
theorem Shape.move (h : Shape nodes) (hmem : node ∈ nodes) (hparent : ∀ parent ∈ newParent, parent ∈ nodes)
    (houtside : ∀ parent ∈ newParent, insideOf node.path parent = false)
    (hkind : node.kind = .institution ↔ newParent = none) : Shape (nodes.map (carried node newParent position)) := by
  have hids : (nodes.map (carried node newParent position)).map Node.id = nodes.map Node.id := by
    rw [map_map]
    exact map_congr_left fun _ _ => carried_id
  have hfind : ∀ other ∈ nodes, Table.find Node.id (nodes.map (carried node newParent position)) other.id =
      some (carried node newParent position other) := by
    intro other hother
    rw [find_map fun _ _ => carried_id, h.find hother, Option.map_some]
  constructor
  · unfold Table.Distinct
    rw [hids]
    exact h.distinct
  · intro changed hchanged
    obtain ⟨item, hitem, rfl⟩ := mem_map.1 hchanged
    by_cases hself : item = node
    · -- the node itself stands under its new parent
      subst hself
      have hin := inside_self item
      have hplace : (carried item newParent position item).parent = newParent.map Node.id := by
        rw [carried_inside hin, moved, if_pos rfl]
      have hpath : (carried item newParent position item).path = nodePath item.id newParent := by
        rw [carried_path, replacePrefix_self]
      have hdepth : (carried item newParent position item).depth = depthUnder newParent := by
        rw [carried_inside hin, moved_depth]
        omega
      unfold Fits
      rw [hplace, carried_kind, hpath, hdepth, carried_id]
      cases newParent with
      | none => exact ⟨hkind.2 rfl, rfl, rfl⟩
      | some found =>
        refine ⟨fun hc => absurd (hkind.1 hc) (by simp), found, ?_, rfl, rfl⟩
        rw [hfind found (hparent found rfl), carried_outside (houtside found rfl)]
    · have hne : item.id ≠ node.id := fun hid => hself (h.distinct.eq hitem hmem hid)
      have hfits := h.fits item hitem
      unfold Fits at hfits ⊢
      cases hplace : item.parent with
      | none =>
        rw [hplace] at hfits
        have hout : insideOf node.path item = false := by
          refine Bool.eq_false_iff.2 fun hin => ?_
          exact hself ((h.inside_root hmem hitem hplace).1 hin)
        rw [carried_outside hout, hplace]
        exact hfits
      | some id =>
        rw [hplace] at hfits
        obtain ⟨hitemKind, above, habove, hpath, hdepth⟩ := hfits
        obtain rfl : above.id = id := find_key habove
        have haboveMem := find_mem habove
        have hiff := h.inside_iff hmem hitem hplace habove
        by_cases hin : insideOf node.path item = true
        · have haboveIn : insideOf node.path above = true := (hiff.1 hin).resolve_left hself
          have hle := h.inside_depth hmem haboveMem haboveIn
          have hparentSame : (carried node newParent position item).parent = some above.id := by
            rw [carried_inside hin, moved_parent hne, hplace]
          rw [hparentSame, carried_kind]
          refine ⟨hitemKind, _, hfind above haboveMem, ?_, ?_⟩
          · rw [carried_path, hpath, nodePath, append_assoc, replacePrefix_append _ _ haboveIn, nodePath,
              carried_path, carried_id, append_assoc]
          · rw [carried_inside hin, carried_inside haboveIn, moved_depth, moved_depth, hdepth]
            omega
        · have hout := Bool.eq_false_iff.2 hin
          have haboveOut : insideOf node.path above = false :=
            Bool.eq_false_iff.2 fun hc => hin (hiff.2 (.inr hc))
          rw [carried_outside hout, hplace]
          exact ⟨hitemKind, above, by rw [hfind above haboveMem, carried_outside haboveOut], hpath, hdepth⟩

theorem moveNode_kept {id : Uuid} {newParentId : Option Uuid} {expectedRevision : Nat} (hkept : Kept tree home)
    (h : moveNode actor tree id newParentId expectedRevision position = .ok next) : Kept next home := by
  obtain ⟨node, hnode, h⟩ := bind_eq_ok.1 h
  obtain ⟨hmem, rfl⟩ := findNode_ok hnode
  obtain ⟨newParent, hnewParent, h⟩ := bind_eq_ok.1 h
  obtain ⟨_, hparentMem⟩ := findParent_ok hnewParent
  obtain ⟨_, h⟩ := unless_ok.1 h
  obtain ⟨_, _, h⟩ := bind_eq_ok.1 h
  obtain ⟨hcircle, h⟩ := unless_ok.1 h
  obtain ⟨hroot, h⟩ := unless_ok.1 h
  obtain ⟨hbranch, h⟩ := unless_ok.1 h
  obtain ⟨_, h⟩ := unless_ok.1 h
  rw [bulkUpdate_moved hkept.shape.distinct] at h
  obtain ⟨there, hthere, h⟩ := bind_eq_ok.1 h
  obtain ⟨⟨nodes, entries⟩, hrefresh, h⟩ := bind_eq_ok.1 h
  obtain rfl := Except.ok.inj h
  have houtside : ∀ parent ∈ newParent, insideOf node.path parent = false := by
    intro parent hparent
    rw [Option.mem_def.1 hparent] at hcircle
    simpa using hcircle
  have hkind : node.kind = .institution ↔ newParent = none := by
    cases newParent with
    | none => simpa using hbranch
    | some parent => simpa using hroot
  have hshape : Shape (tree.nodes.map (carried node newParent position)) :=
    hkept.shape.move hmem hparentMem houtside hkind
  have hfind : Table.find Node.id (tree.nodes.map (carried node newParent position)) node.id =
      some (carried node newParent position node) := by
    rw [find_map fun _ _ => carried_id, hkept.shape.find hmem, Option.map_some]
  obtain ⟨hthereMem, hthereId⟩ := findNode_ok hthere
  obtain rfl : there = carried node newParent position node :=
    Option.some.inj ((hshape.find hthereMem).symm.trans (hthereId ▸ hfind))
  have hindexed : Indexed (tree.nodes.map (carried node newParent position))
      (replaceAcademicPathPrefix tree.entries node.path (nodePath node.id newParent)) home :=
    hkept.indexed.map (replacePrefix node.path (nodePath node.id newParent)) (fun _ _ => carried_id)
      (fun _ _ => carried_kind) (fun _ _ => carried_flag) (fun _ _ => carried_path)
      (distinct_replace _ _ hkept.indexed.distinct) (shown_replace _ _ _)
  refine refresh_kept hshape hindexed hthereMem (fun other hother hout => ?_) hrefresh
  obtain ⟨item, hitem, rfl⟩ := mem_map.1 hother
  -- what was under the node is under it where it is now
  have hitemOut : insideOf node.path item = false := by
    refine Bool.eq_false_iff.2 fun hin => ?_
    have hnow : insideOf (carried node newParent position node).path
        (carried node newParent position item) = true := by
      have hbegins : node.path.isPrefixOf item.path = true := hin
      refine isPrefixOf_iff.2 ?_
      rw [carried_path, carried_path, replacePrefix_self, replacePrefix, if_pos hbegins]
      exact prefix_append _ _
    rw [hnow] at hout
    simp at hout
  rw [carried_outside hitemOut, hkept.lit item hitem]
  exact litUnder_congr fun parent _ =>
    (flagIn_map (fun _ _ => carried_id) (fun _ _ => carried_flag) parent).symm

end

end LockIn.Education
