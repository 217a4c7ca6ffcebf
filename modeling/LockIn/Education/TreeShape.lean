import LockIn.Education.Catalogue
import LockIn.Library.Paths

/-!
# The shape of the tree

Every node that is not an institution stands under a parent, one deeper and with the parent's path
and its own identifier as its path.  The paths then tell which nodes are under which, so that a
query by the beginning of a path selects a subtree.
-/

namespace LockIn.Education

open List Table

def Fits (nodes : List Node) (node : Node) : Prop :=
  match node.parent with
  | none => node.kind = .institution ∧ node.path = nodePath node.id none ∧ node.depth = 0
  | some id => node.kind ≠ .institution ∧ ∃ parent, Table.find Node.id nodes id = some parent ∧
    node.path = nodePath node.id (some parent) ∧ node.depth = parent.depth + 1

structure Shape (nodes : List Node) : Prop where
  distinct : Table.Distinct Node.id nodes
  fits : ∀ node ∈ nodes, Fits nodes node

/-- The nodes above a node, the nearest first. -/
inductive Ancestors (nodes : List Node) : Node → List Node → Prop
  | root {node : Node} : node.parent = none → Ancestors nodes node []
  | under {node parent : Node} {above : List Node} : node.parent = some parent.id →
      Table.find Node.id nodes parent.id = some parent → Ancestors nodes parent above →
      Ancestors nodes node (parent :: above)

def namesOf (node : Node) (above : List Node) : List Text :=
  above.reverse.map (·.id.text) ++ [node.id.text]

theorem namesOf_plain (node : Node) (above : List Node) : Paths.Plain '/' (namesOf node above) := by
  intro name hname
  rcases mem_append.1 hname with hname | hname
  · obtain ⟨other, _, rfl⟩ := mem_map.1 hname
    exact other.id.slashless
  · rw [mem_singleton.1 hname]
    exact node.id.slashless

theorem namesOf_cons (node parent : Node) (above : List Node) :
    namesOf node (parent :: above) = namesOf parent above ++ [node.id.text] := by
  simp [namesOf]

section
variable {nodes : List Node} {node item root parent : Node} {above : List Node}

theorem Uuid.text_injective {first second : Uuid} (h : first.text = second.text) : first = second := by
  cases first
  cases second
  congr

theorem Shape.ancestors (h : Shape nodes) (hmem : node ∈ nodes) :
    ∃ above, Ancestors nodes node above ∧ node.depth = above.length ∧
      node.path = Paths.render '/' (namesOf node above) := by
  induction hdepth : node.depth generalizing node with
  | zero =>
    have hfits := h.fits node hmem
    unfold Fits at hfits
    split at hfits
    · next hparent =>
      refine ⟨[], .root hparent, rfl, hfits.2.1.trans ?_⟩
      simp [nodePath, namesOf, Paths.render]
    · obtain ⟨_, parent, _, _, hpdepth⟩ := hfits
      omega
  | succ depth ih =>
    have hfits := h.fits node hmem
    unfold Fits at hfits
    split at hfits
    · exact absurd (hdepth.symm.trans hfits.2.2) (by simp)
    · next id hparent =>
      obtain ⟨_, parent, hfind, hpath, hpdepth⟩ := hfits
      have hid : parent.id = id := find_key hfind
      obtain ⟨above, habove, hlength, hppath⟩ := ih (find_mem hfind) (by omega)
      refine ⟨parent :: above, .under (hparent.trans (congrArg some hid.symm)) (hid ▸ hfind) habove,
        by rw [length_cons, ← hlength], ?_⟩
      rw [hpath, namesOf_cons, Paths.render_concat, ← hppath]
      rfl

theorem isPrefixOf_iff {first second : Text} : first.isPrefixOf second = true ↔ first <+: second :=
  isPrefixOf_iff_prefix

theorem Shape.path_injective (h : Shape nodes) (hmem : node ∈ nodes) (hmem' : item ∈ nodes)
    (hpath : node.path = item.path) : node = item := by
  obtain ⟨above, _, _, hrender⟩ := h.ancestors hmem
  obtain ⟨above', _, _, hrender'⟩ := h.ancestors hmem'
  have hnames := Paths.render_injective (namesOf_plain _ _) (namesOf_plain _ _)
    (hrender.symm.trans (hpath.trans hrender'))
  have hlast := append_inj_right' hnames rfl
  exact h.distinct.eq hmem hmem' (Uuid.text_injective (List.cons.inj hlast).1)

theorem Shape.inside_iff (h : Shape nodes) (hroot : root ∈ nodes) (hmem : item ∈ nodes)
    (hparent : item.parent = some parent.id) (hfind : Table.find Node.id nodes parent.id = some parent) :
    insideOf root.path item = true ↔ item = root ∨ insideOf root.path parent = true := by
  unfold insideOf
  obtain ⟨rootAbove, _, _, hrootPath⟩ := h.ancestors hroot
  obtain ⟨above, _, _, hparentPath⟩ := h.ancestors (find_mem hfind)
  have hitemPath : item.path = Paths.render '/' (namesOf item (parent :: above)) := by
    have hfits := h.fits item hmem
    unfold Fits at hfits
    rw [hparent] at hfits
    obtain ⟨_, found, hfound, hpath, _⟩ := hfits
    obtain rfl := Option.some.inj (hfound.symm.trans hfind)
    rw [hpath, namesOf_cons, Paths.render_concat, ← hparentPath]
    rfl
  rw [isPrefixOf_iff, isPrefixOf_iff, hrootPath, hparentPath, hitemPath,
    Paths.render_begins (namesOf_plain _ _) (namesOf_plain _ _),
    Paths.render_begins (namesOf_plain _ _) (namesOf_plain _ _), namesOf_cons, prefix_concat_iff]
  refine or_congr_left ⟨fun heq => ?_, fun heq => ?_⟩
  · refine h.path_injective hmem hroot ?_
    rw [hitemPath, hrootPath, namesOf_cons, heq]
  · rw [← namesOf_cons]
    refine Paths.render_injective (namesOf_plain _ _) (namesOf_plain _ _) ?_
    rw [← hitemPath, ← hrootPath, heq]

theorem Shape.inside_root (h : Shape nodes) (hroot : root ∈ nodes) (hmem : item ∈ nodes)
    (hparent : item.parent = none) : insideOf root.path item = true ↔ item = root := by
  unfold insideOf
  obtain ⟨rootAbove, _, _, hrootPath⟩ := h.ancestors hroot
  have hitemPath : item.path = Paths.render '/' [item.id.text] := by
    have hfits := h.fits item hmem
    unfold Fits at hfits
    rw [hparent] at hfits
    rw [hfits.2.1]
    simp [nodePath, Paths.render]
  constructor
  · intro hbegins
    rw [isPrefixOf_iff, hrootPath, hitemPath, Paths.render_begins (namesOf_plain _ _)
      (by intro name hname; rw [mem_singleton.1 hname]; exact item.id.slashless)] at hbegins
    refine h.path_injective hmem hroot ?_
    rw [hitemPath, hrootPath]
    have hlength : (namesOf root rootAbove).length = rootAbove.length + 1 := by simp [namesOf]
    have hle := hbegins.length_le
    rw [hbegins.eq_of_length (by simp at hle ⊢; omega)]
  · rintro rfl
    exact isPrefixOf_iff.2 prefix_rfl

theorem inside_self (node : Node) : insideOf node.path node = true :=
  isPrefixOf_iff.2 prefix_rfl

end

section
variable {nodes items : List Node} {node item : Node} {id : Uuid}

theorem id_saved (items : List Node) (node : Node) :
    ((Table.find Node.id items node.id).getD node).id = node.id := by
  cases hfind : Table.find Node.id items node.id with
  | none => rfl
  | some item => exact find_key hfind

theorem find_bulkUpdate (nodes items : List Node) (id : Uuid) :
    Table.find Node.id (bulkUpdate nodes items) id =
      (Table.find Node.id nodes id).map fun node => (Table.find Node.id items node.id).getD node :=
  find_map (fun node _ => id_saved items node) id

theorem map_id_bulkUpdate (nodes items : List Node) :
    (bulkUpdate nodes items).map Node.id = nodes.map Node.id := by
  unfold bulkUpdate
  rw [map_map]
  exact map_congr_left fun node _ => id_saved items node

theorem mem_bulkUpdate (hmem : item ∈ bulkUpdate nodes items) :
    ∃ node ∈ nodes, item = (Table.find Node.id items node.id).getD node := by
  obtain ⟨node, hnode, rfl⟩ := mem_map.1 hmem
  exact ⟨node, hnode, rfl⟩

theorem subtreeOf_perm (nodes : List Node) (path : Text) :
    List.Perm (subtreeOf nodes path) (nodes.filter (insideOf path)) :=
  perm_insertionSort _ _

theorem mem_subtreeOf {path : Text} : item ∈ subtreeOf nodes path ↔ item ∈ nodes ∧ insideOf path item = true := by
  rw [(subtreeOf_perm nodes path).mem_iff, mem_filter]

theorem distinct_subtreeOf (h : Table.Distinct Node.id nodes) (path : Text) :
    Table.Distinct Node.id (subtreeOf nodes path) :=
  (((subtreeOf_perm nodes path).map Node.id).nodup_iff).2 (h.sublist (filter_sublist.map Node.id))

theorem sorted_subtreeOf (nodes : List Node) (path : Text) :
    (subtreeOf nodes path).Pairwise fun first second => first.depth ≤ second.depth :=
  pairwise_insertionSort _ _

end

section
variable {items : List Node} {flags : List (Uuid × Bool)} {node item : Node} {id : Uuid}

theorem map_id_refreshed (flags : List (Uuid × Bool)) (items : List Node) :
    (refreshed flags items).map Node.id = items.map Node.id := by
  induction items generalizing flags with
  | nil => rfl
  | cons item items ih => exact congrArg (item.id :: ·) (ih _)

theorem mem_refreshed (hmem : node ∈ refreshed flags items) :
    ∃ item ∈ items, node = { item with isDiscoverable := node.isDiscoverable } := by
  induction items generalizing flags with
  | nil => exact absurd hmem not_mem_nil
  | cons item items ih =>
    rcases mem_cons.1 hmem with rfl | hrest
    · exact ⟨item, mem_cons_self, rfl⟩
    · obtain ⟨found, hfound, heq⟩ := ih hrest
      exact ⟨found, mem_cons_of_mem _ hfound, heq⟩

def flagOf (items : List Node) (flags : List (Uuid × Bool)) (id : Uuid) : Bool :=
  match Table.find Node.id items id with
  | some item => item.isDiscoverable
  | none => (Dictionary.get flags id).getD false

def litUnder (flag : Uuid → Bool) (node : Node) : Bool :=
  node.status = .published && match node.parent with
    | none => true
    | some parent => flag parent

theorem litUnder_congr {flag flag' : Uuid → Bool} (h : ∀ parent, node.parent = some parent → flag parent = flag' parent) :
    litUnder flag node = litUnder flag' node := by
  unfold litUnder
  split
  · rfl
  · next parent hparent => rw [h parent hparent]

theorem refreshed_lit (hids : Table.Distinct Node.id items)
    (hafter : items.Pairwise fun first second => first.parent ≠ some second.id)
    (hself : ∀ item ∈ items, item.parent ≠ some item.id) (hmem : node ∈ refreshed flags items) :
    node.isDiscoverable = litUnder (flagOf (refreshed flags items) flags) node := by
  induction items generalizing flags with
  | nil => exact absurd hmem not_mem_nil
  | cons item items ih =>
    obtain ⟨hitem, hrest⟩ := nodup_cons.1 hids
    obtain ⟨hitemAfter, hrestAfter⟩ := pairwise_cons.1 hafter
    have hnot : ∀ items id, id ∉ items.map Node.id →
        ∀ {flags}, Table.find Node.id (refreshed flags items) id = none := by
      intro items id hid flags
      refine find_eq_none.2 fun other hother heq => hid ?_
      rw [← heq, ← map_id_refreshed flags items]
      exact mem_map_of_mem hother
    rcases mem_cons.1 hmem with rfl | hin
    · -- its own parent is neither it nor after it
      show litUnder (fun id => (Dictionary.get flags id).getD false) item =
        litUnder (flagOf (refreshed flags (item :: items)) flags) item
      refine litUnder_congr fun parent hparent => ?_
      have habsent : parent ∉ (item :: items).map Node.id := by
        intro hin
        rcases mem_cons.1 hin with heq | hin
        · exact hself item mem_cons_self (hparent.trans (congrArg some heq))
        · obtain ⟨other, hother, heq⟩ := mem_map.1 hin
          exact hitemAfter other hother (hparent.trans (congrArg some heq.symm))
      unfold flagOf
      rw [hnot (item :: items) parent habsent]
    · rw [ih hrest hrestAfter (fun other hother => hself other (mem_cons_of_mem _ hother)) hin]
      -- the flags known later are those of the items refreshed so far
      have hflags : flagOf (refreshed (Dictionary.set flags item.id (relit flags item).isDiscoverable) items)
          (Dictionary.set flags item.id (relit flags item).isDiscoverable) =
            flagOf (refreshed flags (item :: items)) flags := by
        funext id
        unfold flagOf
        by_cases hid : id = item.id
        · rw [hid, hnot items item.id hitem]
          have hhead : Table.find Node.id (refreshed flags (item :: items)) item.id =
              some (relit flags item) := by
            simp [refreshed, Table.find, relit]
          rw [hhead]
          rw [Dictionary.get_set, if_pos rfl, Option.getD_some]
        · have htail : Table.find Node.id (refreshed flags (item :: items)) id =
              Table.find Node.id
                (refreshed (Dictionary.set flags item.id (relit flags item).isDiscoverable) items) id := by
            have hne : ((relit flags item).id == id) = false := beq_false_of_ne (Ne.symm hid)
            simp [refreshed, Table.find, hne]
          rw [htail, Dictionary.get_set, if_neg hid]
      rw [hflags]

end

structure SamePlace (node node' : Node) : Prop where
  id : node'.id = node.id
  parent : node'.parent = node.parent
  kind : node'.kind = node.kind
  path : node'.path = node.path
  depth : node'.depth = node.depth

theorem SamePlace.refl (node : Node) : SamePlace node node := ⟨rfl, rfl, rfl, rfl, rfl⟩

def Relights (node node' : Node) : Prop := node' = { node with isDiscoverable := node'.isDiscoverable }

theorem Relights.same {node node' : Node} (h : Relights node node') : SamePlace node node' := by
  rw [h]
  exact ⟨rfl, rfl, rfl, rfl, rfl⟩

def flagIn (nodes : List Node) (id : Uuid) : Bool := (Table.find Node.id nodes id).any (·.isDiscoverable)

def Lit (nodes : List Node) : Prop := ∀ node ∈ nodes, node.isDiscoverable = litUnder (flagIn nodes) node

section
variable {nodes nodes' : List Node} {entries entries' : List Entry} {node : Node}

theorem Shape.map {f : Node → Node} (h : Shape nodes) (hf : ∀ node ∈ nodes, SamePlace node (f node)) :
    Shape (nodes.map f) := by
  have hids : (nodes.map f).map Node.id = nodes.map Node.id := by
    rw [map_map]
    exact map_congr_left fun node hmem => (hf node hmem).id
  constructor
  · unfold Table.Distinct
    rw [hids]
    exact h.distinct
  · intro node' hmem'
    obtain ⟨node, hmem, rfl⟩ := mem_map.1 hmem'
    have hsame := hf node hmem
    have hfits := h.fits node hmem
    unfold Fits at hfits ⊢
    rw [hsame.parent, hsame.kind, hsame.path, hsame.depth]
    cases hparent : node.parent with
    | none =>
      rw [hparent] at hfits
      refine ⟨hfits.1, hfits.2.1.trans ?_, hfits.2.2⟩
      simp only [nodePath, hsame.id]
    | some id =>
      rw [hparent] at hfits
      obtain ⟨hkind, parent, hfind, hpath, hdepth⟩ := hfits
      have hparentSame := hf parent (find_mem hfind)
      refine ⟨hkind, f parent, ?_, hpath.trans ?_, by rw [hdepth, hparentSame.depth]⟩
      · rw [find_map (fun node hmem => (hf node hmem).id), hfind]
        rfl
      · simp only [nodePath, hsame.id, hparentSame.path]

theorem Shape.find (h : Shape nodes) (hmem : node ∈ nodes) : Table.find Node.id nodes node.id = some node :=
  h.distinct.find hmem

theorem Shape.parent (h : Shape nodes) (hmem : node ∈ nodes) {id : Uuid} (hparent : node.parent = some id) :
    ∃ parent ∈ nodes, parent.id = id ∧ node.depth = parent.depth + 1 := by
  have hfits := h.fits node hmem
  unfold Fits at hfits
  rw [hparent] at hfits
  obtain ⟨_, parent, hfind, _, hdepth⟩ := hfits
  exact ⟨parent, find_mem hfind, find_key hfind, hdepth⟩

theorem Shape.parents_first (h : Shape nodes) (path : Text) :
    (subtreeOf nodes path).Pairwise fun first second => first.parent ≠ some second.id := by
  refine (sorted_subtreeOf nodes path).imp_of_mem fun {first second} hfirst hsecond hle hparent => ?_
  obtain ⟨parent, hmem, hid, hdepth⟩ := h.parent (mem_subtreeOf.1 hfirst).1 hparent
  rw [h.distinct.eq hmem (mem_subtreeOf.1 hsecond).1 hid] at hdepth
  omega

theorem Shape.not_own_parent (h : Shape nodes) (hmem : node ∈ nodes) : node.parent ≠ some node.id := by
  intro hparent
  obtain ⟨parent, hin, hid, hdepth⟩ := h.parent hmem hparent
  rw [h.distinct.eq hin hmem hid] at hdepth
  omega

structure Refreshed (nodes : List Node) (path : Text) (items : List Node) : Prop where
  distinct : Table.Distinct Node.id items
  old : ∀ item ∈ items, ∃ node ∈ nodes, insideOf path node = true ∧
    Relights node item
  new : ∀ node ∈ nodes, insideOf path node = true →
    ∃ item ∈ items, Relights node item
  lit : ∀ item ∈ items, item.isDiscoverable = litUnder (flagIn (bulkUpdate nodes items)) item

theorem Refreshed.find {path : Text} {items : List Node} (h : Refreshed nodes path items) (hshape : Shape nodes)
    (hmem : node ∈ nodes) : (insideOf path node = true ∧ ∃ item ∈ items,
      Table.find Node.id items node.id = some item ∧ Relights node item) ∨
      insideOf path node = false ∧ Table.find Node.id items node.id = none := by
  by_cases hinside : insideOf path node = true
  · obtain ⟨item, hitem, hsame⟩ := h.new node hmem hinside
    have hfind := h.distinct.find hitem
    rw [hsame.same.id] at hfind
    exact .inl ⟨hinside, item, hitem, hfind, hsame⟩
  · refine .inr ⟨Bool.eq_false_iff.2 hinside, find_eq_none.2 fun item hitem hid => hinside ?_⟩
    obtain ⟨other, hother, hin, hsame⟩ := h.old item hitem
    rw [← hshape.distinct.eq hother hmem (hsame.same.id.symm.trans hid)]
    exact hin

theorem Refreshed.saved {path : Text} {items : List Node} (h : Refreshed nodes path items) (hshape : Shape nodes)
    (hmem : node ∈ nodes) : Relights node ((Table.find Node.id items node.id).getD node) := by
  rcases h.find hshape hmem with ⟨_, item, _, hfind, hsame⟩ | ⟨_, hfind⟩
  · rw [hfind]
    exact hsame
  · rw [hfind]
    exact rfl

theorem Refreshed.shape {path : Text} {items : List Node} (h : Refreshed nodes path items) (hshape : Shape nodes) :
    Shape (bulkUpdate nodes items) :=
  hshape.map fun _ hmem => (h.saved hshape hmem).same

theorem refreshed_subtree (hshape : Shape nodes) (hmem : node ∈ nodes) {parent : Option Node}
    (hparent : findParent nodes node.parent = .ok parent) :
    Refreshed nodes node.path (refreshed (parent.toList.map fun parent => (parent.id, parent.isDiscoverable))
      (subtreeOf nodes node.path)) := by
  set flags := parent.toList.map fun parent => (parent.id, parent.isDiscoverable) with hflags
  have hids := distinct_subtreeOf hshape.distinct node.path
  have hitems : Table.Distinct Node.id (refreshed flags (subtreeOf nodes node.path)) := by
    unfold Table.Distinct
    rw [map_id_refreshed]
    exact hids
  have hold : ∀ item ∈ refreshed flags (subtreeOf nodes node.path), ∃ old ∈ nodes,
      insideOf node.path old = true ∧ Relights old item := by
    intro item hitem
    obtain ⟨old, hin, hsame⟩ := mem_refreshed hitem
    obtain ⟨hnodes, hinside⟩ := mem_subtreeOf.1 hin
    exact ⟨old, hnodes, hinside, hsame⟩
  have hnew : ∀ old ∈ nodes, insideOf node.path old = true →
      ∃ item ∈ refreshed flags (subtreeOf nodes node.path), Relights old item := by
    intro old hnodes hinside
    have hin : old.id ∈ (refreshed flags (subtreeOf nodes node.path)).map Node.id := by
      rw [map_id_refreshed]
      exact mem_map_of_mem (mem_subtreeOf.2 ⟨hnodes, hinside⟩)
    obtain ⟨item, hitem, hid⟩ := mem_map.1 hin
    obtain ⟨other, hother, _, hsame⟩ := hold item hitem
    rw [hshape.distinct.eq hother hnodes (hsame.same.id.symm.trans hid)] at hsame
    exact ⟨item, hitem, hsame⟩
  refine ⟨hitems, hold, hnew, fun item hitem => ?_⟩
  have hlit := refreshed_lit hids (hshape.parents_first node.path)
    (fun old hin => hshape.not_own_parent (mem_subtreeOf.1 hin).1) hitem
  rw [hlit]
  refine litUnder_congr fun id hid => ?_
  obtain ⟨old, hnodes, hinside, hsame⟩ := hold item hitem
  have holdParent : old.parent = some id := hsame.same.parent.symm.trans hid
  obtain ⟨above, habove, hid', _⟩ := hshape.parent hnodes holdParent
  have hfindAbove : Table.find Node.id nodes id = some above := hid' ▸ hshape.find habove
  unfold flagIn
  rw [find_bulkUpdate, hfindAbove, Option.map_some, Option.any_some]
  unfold flagOf
  rw [← hid']
  cases hfind : Table.find Node.id (refreshed flags (subtreeOf nodes node.path)) above.id with
  | some found => rfl
  | none =>
    -- the parent is outside, so this is the node whose subtree is refreshed
    have houtside : insideOf node.path above ≠ true := by
      intro hin
      obtain ⟨found, hfound, hsameFound⟩ := hnew above habove hin
      exact find_eq_none.1 hfind found hfound hsameFound.same.id
    have hroot : old = node :=
      ((hshape.inside_iff hmem hnodes (hid'.symm ▸ holdParent) (hshape.find habove)).1 hinside).resolve_right
        houtside
    rw [← hroot, holdParent, ← hid'] at hparent
    obtain ⟨found, hfound, hsome⟩ := Outcome.map_eq_ok.1 hparent
    unfold findNode at hfound
    rw [hshape.find habove] at hfound
    obtain rfl := Except.ok.inj hfound
    rw [hflags, ← hsome]
    simp [Dictionary.get, Table.find]

theorem Refreshed.lights {path : Text} {items : List Node} (h : Refreshed nodes path items) (hshape : Shape nodes)
    (hroot : ∃ root ∈ nodes, root.path = path)
    (houtside : ∀ node ∈ nodes, insideOf path node = false → node.isDiscoverable = litUnder (flagIn nodes) node) :
    Lit (bulkUpdate nodes items) := by
  intro node' hmem'
  obtain ⟨node, hmem, rfl⟩ := mem_bulkUpdate hmem'
  rcases h.find hshape hmem with ⟨_, item, hitem, hfind, _⟩ | ⟨hout, hfind⟩
  · rw [hfind]
    exact h.lit item hitem
  · rw [hfind, Option.getD_none, houtside node hmem hout]
    obtain ⟨root, hrootMem, rfl⟩ := hroot
    refine litUnder_congr fun id hid => ?_
    obtain ⟨above, habove, rfl, _⟩ := hshape.parent hmem hid
    -- the parent of a node outside is outside as well
    have haboveOut : insideOf root.path above = false := by
      refine Bool.eq_false_iff.2 fun hin => ?_
      rw [(hshape.inside_iff hrootMem hmem hid (hshape.find habove)).2 (.inr hin)] at hout
      simp at hout
    have hnone : Table.find Node.id items above.id = none := by
      rcases h.find hshape habove with ⟨hin, _⟩ | ⟨_, hnone⟩
      · rw [hin] at haboveOut
        simp at haboveOut
      · exact hnone
    unfold flagIn
    rw [find_bulkUpdate, hshape.find habove, Option.map_some, hnone, Option.getD_none]

end

end LockIn.Education
