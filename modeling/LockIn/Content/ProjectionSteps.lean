import LockIn.Content.CatalogBranches

/-!
# What the projection of one subject does

A subject that has a branch keeps it, one that has none is given a branch of its cohort and slug that
belongs to no subject yet, or else a new one.  A new branch whose slugs are taken is an error: the
handler reads the database in the transaction that the refused row has broken.
-/

namespace LockIn.Content.Branches

open Education (Node Uuid Text)
open List

variable {cohort : Cohort} {node other : Node} {rows after : List CatalogSubject}
  {result : ProjectionResult}

def HasBranch (rows : List CatalogSubject) (id : Uuid) : Prop :=
  ∃ row ∈ rows, row.sourceNode = some id

def Taken (rows : List CatalogSubject) (slot : Uuid × Text) : Prop :=
  ∃ row ∈ rows, (row.cohort, row.slug) = slot

def Open (rows : List CatalogSubject) (slot : Uuid × Text) : Prop :=
  ∃ row ∈ rows, (row.cohort, row.slug) = slot ∧ row.sourceNode = none

def SlugTaken (rows : List CatalogSubject) (materialSlug : Text) : Prop :=
  ∃ row ∈ rows, row.materialSlug = materialSlug

def slotOf (cohort : Cohort) (node : Node) : Uuid × Text := (cohort.id, node.slug)

def Fits (rows : List CatalogSubject) (cohort : Cohort) (node : Node) : Prop :=
  HasBranch rows node.id ∨ Open rows (slotOf cohort node) ∨
    ¬Taken rows (slotOf cohort node) ∧ ¬SlugTaken rows (materialSlugFor cohort node.slug)

def CatalogSubject.renewed (row : CatalogSubject) (node : Node) : CatalogSubject :=
  { row with title := titleOf node, position := node.position }

def CatalogSubject.adoptedBy (row : CatalogSubject) (node : Node) : CatalogSubject :=
  ({ row with sourceNode := some node.id } : CatalogSubject).renewed node

/-- The ways that the projection of a subject goes. -/
inductive Stepped (cohort : Cohort) (node : Node) (rows : List CatalogSubject) :
    ProjectionResult → List CatalogSubject → Prop
  | elsewhere {row : CatalogSubject} : row ∈ rows → row.sourceNode = some node.id →
      row.cohort ≠ cohort.id → Stepped cohort node rows { conflicted := [node.slug] } rows
  | settled {row : CatalogSubject} : row ∈ rows → row.sourceNode = some node.id →
      row.cohort = cohort.id → row.renewed node = row → Stepped cohort node rows {} rows
  | refreshed {row : CatalogSubject} : row ∈ rows → row.sourceNode = some node.id →
      row.cohort = cohort.id → row.renewed node ≠ row →
      Stepped cohort node rows { updated := [row.materialSlug] }
        (Table.put CatalogSubject.materialSlug rows (row.renewed node))
  | adopted {row : CatalogSubject} : ¬HasBranch rows node.id → row ∈ rows →
      (row.cohort, row.slug) = slotOf cohort node → row.sourceNode = none →
      Stepped cohort node rows { updated := [row.materialSlug] }
        (Table.put CatalogSubject.materialSlug rows (row.adoptedBy node))
  | created : ¬HasBranch rows node.id → ¬Taken rows (slotOf cohort node) →
      ¬SlugTaken rows (materialSlugFor cohort node.slug) →
      Stepped cohort node rows { created := [materialSlugFor cohort node.slug] }
        (rows ++ [newBranch cohort node])

variable {old row : CatalogSubject}

theorem mem_put_row {new : CatalogSubject} (hold : old ∈ rows)
    (hsame : new.materialSlug = old.materialSlug) :
    row ∈ Table.put CatalogSubject.materialSlug rows new ↔
      row = new ∨ row ∈ rows ∧ row.materialSlug ≠ old.materialSlug := by
  rw [Table.mem_put, hsame]
  exact or_congr_left (and_iff_left ⟨old, hold, rfl⟩)

theorem mem_put_new {new : CatalogSubject} (hold : old ∈ rows)
    (hsame : new.materialSlug = old.materialSlug) :
    new ∈ Table.put CatalogSubject.materialSlug rows new :=
  (mem_put_row hold hsame).2 (.inl rfl)

theorem mem_put_other {new : CatalogSubject} (hold : old ∈ rows)
    (hsame : new.materialSlug = old.materialSlug) (hrow : row ∈ rows)
    (hne : row.materialSlug ≠ old.materialSlug) :
    row ∈ Table.put CatalogSubject.materialSlug rows new :=
  (mem_put_row hold hsame).2 (.inr ⟨hrow, hne⟩)

theorem constraints_put (h : Constraints rows) (new : CatalogSubject) (hold : old ∈ rows)
    (hmaterial : new.materialSlug = old.materialSlug) (hcohort : new.cohort = old.cohort)
    (hslug : new.slug = old.slug)
    (hsource : new.sourceNode = old.sourceNode ∨ ∀ row ∈ rows, row.sourceNode ≠ new.sourceNode) :
    Constraints (Table.put CatalogSubject.materialSlug rows new) := by
  have hother : ∀ row ∈ rows, row.materialSlug ≠ old.materialSlug → row ≠ old :=
    fun row _ hne heq => hne (congrArg _ heq)
  refine ⟨h.material.put new, fun row hrow other hother' => ?_, fun row hrow other hother' => ?_⟩
  · rw [mem_put_row hold hmaterial] at hrow hother'
    rcases hrow with rfl | ⟨hrow, hrowNe⟩
    · rcases hother' with rfl | ⟨hmem, hne⟩
      · exact fun _ _ => rfl
      · intro heq hsome
        rcases hsource with hsame | hnew
        · rw [hsame] at heq hsome
          exact absurd (h.source old hold other hmem heq hsome).symm (hother other hmem hne)
        · exact absurd heq.symm (hnew other hmem)
    · rcases hother' with rfl | ⟨hmem, hne⟩
      · intro heq hsome
        rcases hsource with hsame | hnew
        · rw [hsame] at heq
          exact absurd (h.source row hrow old hold heq hsome) (hother row hrow hrowNe)
        · exact absurd heq (hnew row hrow)
      · exact h.source row hrow other hmem
  · rw [mem_put_row hold hmaterial] at hrow hother'
    rcases hrow with rfl | ⟨hrow, hrowNe⟩
    · rcases hother' with rfl | ⟨hmem, hne⟩
      · exact fun _ _ => rfl
      · rw [hcohort, hslug]
        intro hcohort' hslug'
        exact absurd (h.slug old hold other hmem hcohort' hslug').symm (hother other hmem hne)
    · rcases hother' with rfl | ⟨hmem, hne⟩
      · rw [hcohort, hslug]
        intro hcohort' hslug'
        exact absurd (h.slug row hrow old hold hcohort' hslug') (hother row hrow hrowNe)
      · exact h.slug row hrow other hmem

theorem constraints_append (h : Constraints rows) (cohort : Cohort)
    (hnode : ¬HasBranch rows node.id) :
    Constraints (rows ++ [newBranch cohort node]) ↔
      ¬Taken rows (slotOf cohort node) ∧ ¬SlugTaken rows (materialSlugFor cohort node.slug) := by
  constructor
  · intro hnew
    have hlast : newBranch cohort node ∈ rows ++ [newBranch cohort node] :=
      mem_append_right _ mem_cons_self
    have hfree : ¬SlugTaken rows (materialSlugFor cohort node.slug) := by
      rintro ⟨row, hrow, hslug⟩
      have hnodup := hnew.material
      unfold Table.Distinct at hnodup
      rw [map_append, nodup_append] at hnodup
      exact hnodup.2.2 _ (mem_map_of_mem hrow) _ mem_cons_self hslug
    refine ⟨?_, hfree⟩
    rintro ⟨row, hrow, hslot⟩
    have heq := hnew.slug row (mem_append_left _ hrow) _ hlast
      (congrArg Prod.fst hslot) (congrArg Prod.snd hslot)
    exact hfree ⟨row, hrow, congrArg _ heq⟩
  · rintro ⟨hslot, hslug⟩
    refine ⟨h.material.append fun row hrow heq => hslug ⟨row, hrow, heq⟩,
      fun row hrow other hother => ?_, fun row hrow other hother => ?_⟩
    · rcases mem_append.1 hrow with hrow | hrow <;>
        rcases mem_append.1 hother with hother | hother
      · exact h.source row hrow other hother
      · rw [mem_singleton.1 hother]
        exact fun heq _ => absurd ⟨row, hrow, heq⟩ hnode
      · rw [mem_singleton.1 hrow]
        exact fun heq _ => absurd ⟨other, hother, heq.symm⟩ hnode
      · rw [mem_singleton.1 hrow, mem_singleton.1 hother]
        exact fun _ _ => rfl
    · rcases mem_append.1 hrow with hrow | hrow <;>
        rcases mem_append.1 hother with hother | hother
      · exact h.slug row hrow other hother
      · rw [mem_singleton.1 hother]
        exact fun hcohort hsame => absurd ⟨row, hrow, Prod.ext hcohort hsame⟩ hslot
      · rw [mem_singleton.1 hrow]
        exact fun hcohort hsame => absurd ⟨other, hother, Prod.ext hcohort.symm hsame.symm⟩ hslot
      · rw [mem_singleton.1 hrow, mem_singleton.1 hother]
        exact fun _ _ => rfl

theorem Stepped.constraints (hstep : Stepped cohort node rows result after)
    (h : Constraints rows) : Constraints after := by
  cases hstep with
  | elsewhere => exact h
  | settled => exact h
  | @refreshed row hrow => exact constraints_put h (row.renewed node) hrow rfl rfl rfl (.inl rfl)
  | @adopted row hnone hrow =>
    exact constraints_put h (row.adoptedBy node) hrow rfl rfl rfl (.inr fun row hmem heq => hnone ⟨row, hmem, heq⟩)
  | created hnone hslot hslug => exact (constraints_append h cohort hnone).2 ⟨hslot, hslug⟩

theorem update_ok {subject : CatalogSubject}
    (h : Constraints (Table.put CatalogSubject.materialSlug rows subject)) :
    ({ rows := rows } : Connection).update subject =
      .ok { rows := Table.put CatalogSubject.materialSlug rows subject } := by
  unfold Connection.update Connection.store
  rw [if_pos h]
  rfl

theorem renewed_eq_iff :
    row.renewed node = row ↔ ¬(row.title ≠ titleOf node ∨ row.position ≠ node.position) := by
  rw [not_or, not_not, not_not]
  constructor
  · intro h
    exact ⟨(congrArg CatalogSubject.title h).symm, (congrArg CatalogSubject.position h).symm⟩
  · rintro ⟨htitle, hposition⟩
    unfold CatalogSubject.renewed
    rw [← htitle, ← hposition]

theorem refresh_spec
    (h : Constraints (Table.put CatalogSubject.materialSlug rows (row.renewed node))) :
    (refresh row node result { rows := rows } = .ok ((row, result), { rows := rows }) ∧
      row.renewed node = row) ∨
    row.renewed node ≠ row ∧ refresh row node result { rows := rows } =
      .ok ((row.renewed node, { result with updated := result.updated ++ [row.materialSlug] }),
        { rows := Table.put CatalogSubject.materialSlug rows (row.renewed node) }) := by
  unfold refresh
  split_ifs with hchanged
  · refine .inr ⟨fun hsame => renewed_eq_iff.1 hsame hchanged, ?_⟩
    have hupdate := update_ok h
    unfold CatalogSubject.renewed at hupdate
    dsimp only
    rw [hupdate]
    rfl
  · exact .inl ⟨rfl, renewed_eq_iff.2 hchanged⟩

theorem first_eq (rows : List CatalogSubject) (matching : CatalogSubject → Bool) :
    ({ rows := rows } : Connection).first matching = .ok (rows.find? matching) := rfl

theorem createBranch_spec (h : Constraints rows) (cohort : Cohort) (hnode : ¬HasBranch rows node.id) :
    ((¬Taken rows (slotOf cohort node) ∧ ¬SlugTaken rows (materialSlugFor cohort node.slug)) ∧
      createBranch cohort node { rows := rows } =
        .ok ((some (newBranch cohort node), { created := [materialSlugFor cohort node.slug] }),
          { rows := rows ++ [newBranch cohort node] })) ∨
    (¬(¬Taken rows (slotOf cohort node) ∧ ¬SlugTaken rows (materialSlugFor cohort node.slug)) ∧
      createBranch cohort node { rows := rows } = .error .transactionManagementError) := by
  have hiff := constraints_append h cohort hnode
  unfold createBranch Connection.store
  by_cases hfree : Constraints (rows ++ [newBranch cohort node])
  · simp only [if_pos hfree]
    exact .inl ⟨hiff.1 hfree, rfl⟩
  · simp only [if_neg hfree]
    exact .inr ⟨fun hfits => hfree (hiff.2 hfits), rfl⟩

theorem projectOwned_spec (h : Constraints rows) (cohort : Cohort) (node : Node) :
    (Fits rows cohort node ∧ ∃ subject result after, Stepped cohort node rows result after ∧
      projectOwned cohort node { rows := rows } = .ok ((subject, result), { rows := after })) ∨
    (¬Fits rows cohort node ∧
      projectOwned cohort node { rows := rows } = .error .transactionManagementError) := by
  unfold projectOwned
  rw [first_eq, Outcome.ok_bind]
  cases hexisting : rows.find? fun row => row.sourceNode = some node.id with
  | some existing =>
    left
    have hmem := mem_of_find?_eq_some hexisting
    have hnode : existing.sourceNode = some node.id := by
      have hfound := find?_some hexisting
      exact of_decide_eq_true hfound
    refine ⟨.inl ⟨existing, hmem, hnode⟩, ?_⟩
    simp only
    split_ifs with hcohort
    · exact ⟨_, _, _, .elsewhere hmem hnode hcohort, rfl⟩
    · rw [not_not] at hcohort
      rcases refresh_spec (constraints_put h (existing.renewed node) hmem rfl rfl
        rfl (.inl rfl)) with ⟨hrefresh, hsame⟩ | ⟨hchanged, hrefresh⟩
      · rw [hrefresh]
        exact ⟨_, _, _, .settled hmem hnode hcohort hsame, rfl⟩
      · rw [hrefresh]
        exact ⟨_, _, _, .refreshed hmem hnode hcohort hchanged, rfl⟩
  | none =>
    have hnone : ¬HasBranch rows node.id := by
      rintro ⟨row, hrow, heq⟩
      exact find?_eq_none.1 hexisting row hrow (decide_eq_true heq)
    simp only
    rw [first_eq, Outcome.ok_bind]
    cases hunlinked : rows.find? fun row =>
      row.cohort = cohort.id && row.slug = node.slug && row.sourceNode = none with
    | some unlinked =>
      left
      have hmem := mem_of_find?_eq_some hunlinked
      have hfound := find?_some hunlinked
      simp only [Bool.and_eq_true, decide_eq_true_eq] at hfound
      obtain ⟨⟨hcohort, hslug⟩, hfree⟩ := hfound
      have hslot : (unlinked.cohort, unlinked.slug) = slotOf cohort node := Prod.ext hcohort hslug
      refine ⟨.inr (.inl ⟨unlinked, hmem, hslot, hfree⟩), ?_⟩
      have hnew : ∀ row ∈ rows, row.sourceNode ≠ some node.id :=
        fun row hrow heq => hnone ⟨row, hrow, heq⟩
      have hadopted := constraints_put h { unlinked with sourceNode := some node.id } hmem rfl rfl
        rfl (.inr hnew)
      have hput : Table.put CatalogSubject.materialSlug (Table.put CatalogSubject.materialSlug rows
          { unlinked with sourceNode := some node.id })
          (unlinked.adoptedBy node) =
          Table.put CatalogSubject.materialSlug rows (unlinked.adoptedBy node) :=
        Table.put_put rfl
      have hrenewed := constraints_put h (unlinked.adoptedBy node) hmem rfl rfl rfl (.inr hnew)
      have hstep : Stepped cohort node rows _ _ := .adopted hnone hmem hslot hfree
      unfold CatalogSubject.adoptedBy at hput hrenewed hstep
      simp only
      rw [update_ok hadopted, Outcome.ok_bind]
      rcases refresh_spec (hput ▸ hrenewed) with ⟨hrefresh, hsame⟩ | ⟨_, hrefresh⟩
      · rw [hrefresh]
        rw [hsame] at hstep
        exact ⟨_, _, _, hstep, rfl⟩
      · rw [hrefresh, hput]
        exact ⟨_, _, _, hstep, rfl⟩
    | none =>
      simp only
      have hclosed : ¬Open rows (slotOf cohort node) := by
        rintro ⟨row, hrow, hslot, hfree⟩
        have hnot := find?_eq_none.1 hunlinked row hrow
        simp only [Bool.and_eq_true, decide_eq_true_eq] at hnot
        exact hnot ⟨⟨congrArg Prod.fst hslot, congrArg Prod.snd hslot⟩, hfree⟩
      rcases createBranch_spec h cohort hnone with ⟨hfits, hcreate⟩ | ⟨hnot, hcreate⟩
      · exact .inl ⟨.inr (.inr hfits), _, _, _, .created hnone hfits.1 hfits.2, hcreate⟩
      · refine .inr ⟨?_, hcreate⟩
        rintro (hbranch | hopen | hfits)
        · exact hnone hbranch
        · exact hclosed hopen
        · exact hnot hfits

theorem projectSubjectNode_spec (school : School) (h : Constraints rows)
    (hkind : node.kind = .subject) (cohort : Cohort) :
    (Fits rows cohort node ∧ ∃ subject result after, Stepped cohort node rows result after ∧
      projectSubjectNode school node (some cohort) rows = .ok ((subject, result), after)) ∨
    (¬Fits rows cohort node ∧
      projectSubjectNode school node (some cohort) rows = .error .transactionManagementError) := by
  have hcall : projectSubjectNode school node (some cohort) rows =
      atomic (projectOwned cohort node) rows := by
    unfold projectSubjectNode
    simp only [hkind, ne_eq, not_true_eq_false, if_false]
    rfl
  rw [hcall]
  unfold atomic
  rcases projectOwned_spec h cohort node with ⟨hfits, subject, result, after, hstep, heq⟩ | ⟨hnot, heq⟩
  · rw [heq]
    exact .inl ⟨hfits, subject, result, after, hstep, rfl⟩
  · rw [heq]
    exact .inr ⟨hnot, rfl⟩

/-- A later state of a branch.  A node that it has it keeps. -/
structure SameBranch (row next : CatalogSubject) : Prop where
  cohort : next.cohort = row.cohort
  slug : next.slug = row.slug
  materialSlug : next.materialSlug = row.materialSlug
  isActive : next.isActive = row.isActive
  sourceNode : row.sourceNode ≠ none → next.sourceNode = row.sourceNode

def Continues (rows after : List CatalogSubject) : Prop :=
  ∃ updated created, after = updated ++ created ∧ List.Forall₂ SameBranch rows updated

theorem SameBranch.refl (row : CatalogSubject) : SameBranch row row :=
  ⟨rfl, rfl, rfl, rfl, fun _ => rfl⟩

theorem SameBranch.trans {next last : CatalogSubject} (h : SameBranch row next)
    (h' : SameBranch next last) : SameBranch row last where
  cohort := h'.cohort.trans h.cohort
  slug := h'.slug.trans h.slug
  materialSlug := h'.materialSlug.trans h.materialSlug
  isActive := h'.isActive.trans h.isActive
  sourceNode hsome := by
    have hnext := h.sourceNode hsome
    exact (h'.sourceNode (hnext ▸ hsome)).trans hnext

theorem Continues.refl (rows : List CatalogSubject) : Continues rows rows :=
  ⟨rows, [], (append_nil rows).symm, forall₂_same.2 fun row _ => .refl row⟩

theorem Continues.mem (h : Continues rows after) (hrow : row ∈ rows) :
    ∃ next ∈ after, SameBranch row next := by
  obtain ⟨updated, created, rfl, hsame⟩ := h
  obtain ⟨index, hindex, rfl⟩ := getElem_of_mem hrow
  have hlt : index < updated.length := hsame.length_eq ▸ hindex
  exact ⟨updated[index], mem_append_left _ (getElem_mem hlt), hsame.get hindex hlt⟩

theorem Continues.trans {last : List CatalogSubject} (h : Continues rows after)
    (h' : Continues after last) : Continues rows last := by
  obtain ⟨updated, created, rfl, hsame⟩ := h
  obtain ⟨later, more, rfl, hlater⟩ := h'
  suffices hfront : ∃ front back, later = front ++ back ∧ List.Forall₂ SameBranch rows front by
    obtain ⟨front, back, rfl, hfront⟩ := hfront
    exact ⟨front, back ++ more, append_assoc _ _ _, hfront⟩
  induction hsame generalizing later with
  | nil => exact ⟨[], later, rfl, .nil⟩
  | cons hfirst _ ih =>
    cases hlater with
    | cons hnext hrest =>
      obtain ⟨front, back, rfl, hfront⟩ := ih _ hrest
      exact ⟨_ :: front, back, rfl, .cons (hfirst.trans hnext) hfront⟩

theorem continues_put (h : Constraints rows) {new : CatalogSubject} (hold : old ∈ rows)
    (hsame : SameBranch old new) :
    Continues rows (Table.put CatalogSubject.materialSlug rows new) := by
  refine ⟨_, [], (append_nil _).symm, ?_⟩
  unfold Table.put
  rw [forall₂_map_right_iff, forall₂_same]
  intro row hrow
  split_ifs with hslug
  · rw [hsame.materialSlug] at hslug
    rw [h.material.eq hrow hold hslug]
    exact hsame
  · exact .refl row

theorem Stepped.continues (hstep : Stepped cohort node rows result after)
    (h : Constraints rows) : Continues rows after := by
  cases hstep with
  | elsewhere => exact .refl _
  | settled => exact .refl _
  | refreshed hrow => exact continues_put h hrow ⟨rfl, rfl, rfl, rfl, fun _ => rfl⟩
  | adopted _ hrow _ hfree =>
    exact continues_put h hrow ⟨rfl, rfl, rfl, rfl, fun hsome => absurd hfree hsome⟩
  | created => exact ⟨rows, _, rfl, forall₂_same.2 fun row _ => .refl row⟩

theorem hasBranch_put (new : CatalogSubject) (hold : old ∈ rows)
    (hmaterial : new.materialSlug = old.materialSlug) (h : Constraints rows)
    (hsource : old.sourceNode ≠ none → new.sourceNode = old.sourceNode) (id : Uuid) :
    HasBranch (Table.put CatalogSubject.materialSlug rows new) id ↔
      HasBranch rows id ∨ new.sourceNode = some id := by
  constructor
  · rintro ⟨row, hrow, hnode⟩
    rcases (mem_put_row hold hmaterial).1 hrow with rfl | ⟨hrow, _⟩
    · exact .inr hnode
    · exact .inl ⟨row, hrow, hnode⟩
  · rintro (⟨row, hrow, hnode⟩ | hnode)
    · by_cases hsame : row.materialSlug = old.materialSlug
      · rw [h.material.eq hrow hold hsame] at hnode
        refine ⟨new, (mem_put_row hold hmaterial).2 (.inl rfl), ?_⟩
        rw [hsource (by rw [hnode]; simp), hnode]
      · exact ⟨row, (mem_put_row hold hmaterial).2 (.inr ⟨hrow, hsame⟩), hnode⟩
    · exact ⟨new, (mem_put_row hold hmaterial).2 (.inl rfl), hnode⟩

theorem Stepped.hasBranch (hstep : Stepped cohort node rows result after) (h : Constraints rows)
    (id : Uuid) : HasBranch after id ↔ HasBranch rows id ∨ id = node.id := by
  have hthere : HasBranch rows node.id → (HasBranch rows id ↔ HasBranch rows id ∨ id = node.id) := by
    intro hnode
    refine ⟨.inl, fun hor => hor.elim (fun hid => hid) fun heq => heq ▸ hnode⟩
  cases hstep with
  | elsewhere hrow hnode => exact hthere ⟨_, hrow, hnode⟩
  | settled hrow hnode => exact hthere ⟨_, hrow, hnode⟩
  | @refreshed row hrow hnode =>
    rw [hasBranch_put (row.renewed node) hrow rfl h (fun _ => rfl)]
    refine or_congr_right ?_
    change row.sourceNode = some id ↔ _
    rw [hnode, Option.some.injEq]
    exact eq_comm
  | @adopted row hnone hrow _ hfree =>
    refine (hasBranch_put (row.adoptedBy node) hrow rfl h (fun hsome => absurd hfree hsome) id).trans ?_
    refine or_congr_right ?_
    change some node.id = some id ↔ _
    rw [Option.some.injEq]
    exact eq_comm
  | created =>
    constructor
    · rintro ⟨row, hrow, hid⟩
      rcases mem_append.1 hrow with hold | hlast
      · exact .inl ⟨row, hold, hid⟩
      · rw [mem_singleton.1 hlast] at hid
        exact .inr (Option.some.inj hid).symm
    · rintro (⟨row, hrow, hid⟩ | rfl)
      · exact ⟨row, mem_append_left _ hrow, hid⟩
      · exact ⟨_, mem_append_right _ mem_cons_self, rfl⟩

theorem exists_put (new : CatalogSubject) (hold : old ∈ rows)
    (hmaterial : new.materialSlug = old.materialSlug) (h : Constraints rows)
    {P : CatalogSubject → Prop} (hsame : P new ↔ P old) :
    (∃ row ∈ Table.put CatalogSubject.materialSlug rows new, P row) ↔ ∃ row ∈ rows, P row := by
  constructor
  · rintro ⟨row, hrow, hP⟩
    rcases (mem_put_row hold hmaterial).1 hrow with rfl | ⟨hrow, _⟩
    · exact ⟨old, hold, hsame.1 hP⟩
    · exact ⟨row, hrow, hP⟩
  · rintro ⟨row, hrow, hP⟩
    by_cases heq : row.materialSlug = old.materialSlug
    · rw [h.material.eq hrow hold heq] at hP
      exact ⟨new, (mem_put_row hold hmaterial).2 (.inl rfl), hsame.2 hP⟩
    · exact ⟨row, (mem_put_row hold hmaterial).2 (.inr ⟨hrow, heq⟩), hP⟩

theorem Stepped.same_slugs (hstep : Stepped cohort node rows result after) (h : Constraints rows)
    (hnode : HasBranch rows node.id) :
    (∀ slot, Taken after slot ↔ Taken rows slot) ∧ (∀ slot, Open after slot ↔ Open rows slot) ∧
      ∀ materialSlug, SlugTaken after materialSlug ↔ SlugTaken rows materialSlug := by
  cases hstep with
  | elsewhere => exact ⟨fun _ => .rfl, fun _ => .rfl, fun _ => .rfl⟩
  | settled => exact ⟨fun _ => .rfl, fun _ => .rfl, fun _ => .rfl⟩
  | @refreshed row hrow =>
    exact ⟨fun _ => exists_put (row.renewed node) hrow rfl h .rfl,
      fun _ => exists_put (row.renewed node) hrow rfl h .rfl,
      fun _ => exists_put (row.renewed node) hrow rfl h .rfl⟩
  | adopted hnone => exact absurd hnode hnone
  | created hnone => exact absurd hnode hnone

theorem Stepped.new_slugs (hstep : Stepped cohort node rows result after) (h : Constraints rows)
    (hnone : ¬HasBranch rows node.id) :
    (∀ slot, Taken after slot ↔ Taken rows slot ∨ slotOf cohort node = slot) ∧
      (∀ slot, Open after slot ↔ Open rows slot ∧ slotOf cohort node ≠ slot) ∧
      ∀ materialSlug, SlugTaken after materialSlug ↔ SlugTaken rows materialSlug ∨
        ¬Taken rows (slotOf cohort node) ∧ materialSlugFor cohort node.slug = materialSlug := by
  cases hstep with
  | elsewhere hrow hnode => exact absurd ⟨_, hrow, hnode⟩ hnone
  | settled hrow hnode => exact absurd ⟨_, hrow, hnode⟩ hnone
  | refreshed hrow hnode => exact absurd ⟨_, hrow, hnode⟩ hnone
  | @adopted row _ hrow hslot hfree =>
    have hput : ∀ {next}, next ∈ Table.put CatalogSubject.materialSlug rows (row.adoptedBy node) ↔
        next = row.adoptedBy node ∨ next ∈ rows ∧ next.materialSlug ≠ row.materialSlug :=
      fun {_} => mem_put_row hrow rfl
    refine ⟨fun slot => ?_, fun slot => ?_, fun materialSlug => ?_⟩
    · refine (exists_put (row.adoptedBy node) hrow rfl h .rfl).trans
        (or_iff_left_of_imp fun heq => ?_).symm
      exact ⟨row, hrow, hslot.trans heq⟩
    · constructor
      · rintro ⟨next, hnext, hnextSlot, hnextFree⟩
        rcases hput.1 hnext with rfl | ⟨hnext, hne⟩
        · cases hnextFree
        · refine ⟨⟨next, hnext, hnextSlot, hnextFree⟩, fun heq => hne ?_⟩
          have hpair := hnextSlot.trans (hslot.trans heq).symm
          rw [h.slug next hnext row hrow (congrArg Prod.fst hpair) (congrArg Prod.snd hpair)]
      · rintro ⟨⟨next, hnext, hnextSlot, hnextFree⟩, hne⟩
        refine ⟨next, hput.2 (.inr ⟨hnext, fun heq => hne ?_⟩), hnextSlot, hnextFree⟩
        rw [← hslot, ← hnextSlot, h.material.eq hnext hrow heq]
    · refine (exists_put (row.adoptedBy node) hrow rfl h .rfl).trans
        (or_iff_left_of_imp fun hnew => ?_).symm
      exact absurd ⟨row, hrow, hslot⟩ hnew.1
  | created _ hslot hslug =>
    have happend : ∀ {P : CatalogSubject → Prop}, (∃ row ∈ rows ++ [newBranch cohort node], P row) ↔
        (∃ row ∈ rows, P row) ∨ P (newBranch cohort node) := by
      intro P
      constructor
      · rintro ⟨row, hrow, hP⟩
        rcases mem_append.1 hrow with hold | hlast
        · exact .inl ⟨row, hold, hP⟩
        · exact .inr (mem_singleton.1 hlast ▸ hP)
      · rintro (⟨row, hrow, hP⟩ | hP)
        · exact ⟨row, mem_append_left _ hrow, hP⟩
        · exact ⟨_, mem_append_right _ mem_cons_self, hP⟩
    refine ⟨fun slot => happend, fun slot => happend.trans ?_, fun materialSlug => happend.trans ?_⟩
    · constructor
      · rintro (hopen | ⟨_, hfree⟩)
        · refine ⟨hopen, fun heq => hslot ?_⟩
          obtain ⟨row, hrow, hrowSlot, _⟩ := hopen
          exact ⟨row, hrow, hrowSlot.trans heq.symm⟩
        · cases hfree
      · exact fun hopen => .inl hopen.1
    · exact or_congr_right (and_iff_right hslot).symm

def Settled (rows : List CatalogSubject) (cohort : Cohort) (node : Node) : Prop :=
  ∃ row ∈ rows, row.sourceNode = some node.id ∧ (row.cohort = cohort.id → row.renewed node = row)

def conflictOf (rows : List CatalogSubject) (cohort : Cohort) (node : Node) : List Text :=
  if ∃ row ∈ rows, row.sourceNode = some node.id ∧ row.cohort = cohort.id then [] else [node.slug]

theorem Stepped.settles (hstep : Stepped cohort node rows result after) (h : Constraints rows) :
    Settled after cohort node ∧ result.conflicted = conflictOf after cohort node := by
  have hother : ∀ {row}, row ∈ rows → row.sourceNode = some node.id → row.cohort ≠ cohort.id →
      ¬∃ row ∈ rows, row.sourceNode = some node.id ∧ row.cohort = cohort.id := by
    rintro row hrow hnode hcohort ⟨next, hnext, hsame, hnextCohort⟩
    rw [h.source next hnext row hrow (hsame.trans hnode.symm) (by rw [hsame]; simp)] at hnextCohort
    exact hcohort hnextCohort
  unfold conflictOf
  cases hstep with
  | elsewhere hrow hnode hcohort =>
    rw [if_neg (hother hrow hnode hcohort)]
    exact ⟨⟨_, hrow, hnode, fun hsame => absurd hsame hcohort⟩, rfl⟩
  | settled hrow hnode hcohort hsame =>
    rw [if_pos ⟨_, hrow, hnode, hcohort⟩]
    exact ⟨⟨_, hrow, hnode, fun _ => hsame⟩, rfl⟩
  | @refreshed row hrow hnode hcohort =>
    have hmem : row.renewed node ∈ Table.put CatalogSubject.materialSlug rows (row.renewed node) :=
      mem_put_new hrow rfl
    rw [if_pos ⟨_, hmem, hnode, hcohort⟩]
    exact ⟨⟨_, hmem, hnode, fun _ => rfl⟩, rfl⟩
  | @adopted row _ hrow hslot =>
    have hmem : row.adoptedBy node ∈
        Table.put CatalogSubject.materialSlug rows (row.adoptedBy node) :=
      mem_put_new hrow rfl
    rw [if_pos ⟨_, hmem, rfl, congrArg Prod.fst hslot⟩]
    exact ⟨⟨_, hmem, rfl, fun _ => rfl⟩, rfl⟩
  | created =>
    have hmem : newBranch cohort node ∈ rows ++ [newBranch cohort node] :=
      mem_append_right _ mem_cons_self
    rw [if_pos ⟨_, hmem, rfl, rfl⟩]
    exact ⟨⟨_, hmem, rfl, fun _ => rfl⟩, rfl⟩

end LockIn.Content.Branches
