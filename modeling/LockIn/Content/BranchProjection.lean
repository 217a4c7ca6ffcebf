import LockIn.Content.ProjectionSteps

/-!
# Projecting all subjects

A run goes through the subjects of one cohort after the other.  It ends, and a second one finds nothing
left to do, exactly when the subjects without a branch do not collide: with each other, with branches
that belong to other subjects, or by their material slugs.
-/

namespace LockIn.Content.Branches

open Education (Node Uuid Text Shape Ancestors insideOf)
open List

variable {school : School} {cohort other : Cohort} {node item : Node}
  {rows after : List CatalogSubject} {result : ProjectionResult} {plan needing : List (Cohort × Node)}

def unseen (seen : List Uuid) : List Node → List Node
  | [] => []
  | node :: rest =>
    if node.id ∈ seen then unseen seen rest else node :: unseen (node.id :: seen) rest

def School.cohortSteps (school : School) (cohort : Cohort) : List (Cohort × Node) :=
  (unseen [] ((school.roots cohort).flatMap school.subjects)).map fun node => (cohort, node)

def School.steps (school : School) : List (Cohort × Node) :=
  school.activeCohorts.flatMap school.cohortSteps

def runSteps (school : School) :
    List (Cohort × Node) → ProjectionResult → List CatalogSubject →
      Except Failure (ProjectionResult × List CatalogSubject)
  | [], result, rows => .ok (result, rows)
  | (cohort, node) :: rest, result, rows => do
    let ((_, nodeResult), rows) ← projectSubjectNode school node (some cohort) rows
    runSteps school rest (result.merge nodeResult) rows

theorem merge_assoc (first second third : ProjectionResult) :
    (first.merge second).merge third = first.merge (second.merge third) := by
  unfold ProjectionResult.merge
  simp only [append_assoc]

@[simp]
theorem merge_empty (result : ProjectionResult) : result.merge {} = result := by
  unfold ProjectionResult.merge
  simp only [append_nil]

@[simp]
theorem empty_merge (result : ProjectionResult) : ({} : ProjectionResult).merge result = result := rfl

theorem runSteps_append (first second : List (Cohort × Node)) (result : ProjectionResult)
    (rows : List CatalogSubject) :
    runSteps school (first ++ second) result rows =
      runSteps school first result rows >>= fun done => runSteps school second done.1 done.2 := by
  induction first generalizing result rows with
  | nil => rfl
  | cons step rest ih =>
    rw [cons_append, runSteps, runSteps, bind_assoc]
    exact congrArg _ (funext fun done => ih _ _)

/-- What was reported before stays in front. -/
theorem runSteps_merge (school : School) (steps : List (Cohort × Node)) (first second : ProjectionResult)
    (rows : List CatalogSubject) :
    runSteps school steps (first.merge second) rows =
      (fun done => (first.merge done.1, done.2)) <$> runSteps school steps second rows := by
  induction steps generalizing second rows with
  | nil => rfl
  | cons step rest ih =>
    rw [runSteps, runSteps, map_bind]
    refine congrArg _ (funext fun ⟨⟨_, nodeResult⟩, rows⟩ => ?_)
    change runSteps school rest ((first.merge second).merge nodeResult) rows = _
    rw [merge_assoc]
    exact ih _ _

theorem projectNodes_eq (nodes : List Node) (seen : List Uuid) (result : ProjectionResult)
    (rows : List CatalogSubject) :
    projectNodes school cohort nodes seen result rows =
      runSteps school ((unseen seen nodes).map fun node => (cohort, node)) result rows := by
  induction nodes generalizing seen result rows with
  | nil => rfl
  | cons node rest ih =>
    rw [projectNodes, unseen]
    split_ifs
    · exact ih _ _ _
    · rw [map_cons, runSteps]
      exact congrArg _ (funext fun done => ih _ _ _)

theorem projectCohorts_eq (cohorts : List Cohort) (result : ProjectionResult)
    (rows : List CatalogSubject) :
    projectCohorts school cohorts result rows =
      runSteps school (cohorts.flatMap school.cohortSteps) result rows := by
  induction cohorts generalizing result rows with
  | nil => rfl
  | cons cohort rest ih =>
    have hfirst : runSteps school (school.cohortSteps cohort) result rows =
        (fun done => (result.merge done.1, done.2)) <$>
          runSteps school (school.cohortSteps cohort) {} rows := by
      rw [← runSteps_merge, merge_empty]
    rw [projectCohorts, flatMap_cons, runSteps_append, hfirst]
    unfold projectCohort
    rw [projectNodes_eq, bind_map_left]
    exact congrArg _ (funext fun done => ih _ _)

theorem projectAll_eq (school : School) (rows : List CatalogSubject) :
    projectAll school rows = runSteps school school.steps {} rows :=
  projectCohorts_eq _ _ _

variable {seen : List Uuid} {nodes : List Node} {root : Node} {last : List CatalogSubject}

theorem mem_unseen : node ∈ unseen seen nodes → node ∈ nodes ∧ node.id ∉ seen := by
  induction nodes generalizing seen with
  | nil => exact fun h => absurd h not_mem_nil
  | cons first rest ih =>
    intro h
    rw [unseen] at h
    split_ifs at h with hseen
    · exact ⟨mem_cons_of_mem _ (ih h).1, (ih h).2⟩
    · rcases mem_cons.1 h with rfl | h
      · exact ⟨mem_cons_self, hseen⟩
      · exact ⟨mem_cons_of_mem _ (ih h).1, fun hmem => (ih h).2 (mem_cons_of_mem _ hmem)⟩

theorem exists_unseen (h : node ∈ nodes) (hnot : node.id ∉ seen) :
    ∃ first ∈ unseen seen nodes, first.id = node.id := by
  induction nodes generalizing seen with
  | nil => cases h
  | cons first rest ih =>
    rw [unseen]
    split_ifs with hseen
    · rcases mem_cons.1 h with rfl | hrest
      · exact absurd hseen hnot
      · exact ih hrest hnot
    · by_cases hsame : node.id = first.id
      · exact ⟨first, mem_cons_self, hsame.symm⟩
      · have hrest : node ∈ rest := (mem_cons.1 h).resolve_left fun heq => hsame (heq ▸ rfl)
        have hnew : node.id ∉ first.id :: seen := fun hmem => (mem_cons.1 hmem).elim hsame hnot
        obtain ⟨found, hfound, hid⟩ := ih hrest hnew
        exact ⟨found, mem_cons_of_mem _ hfound, hid⟩

def Below (nodes : List Node) (root node : Node) : Prop :=
  ∃ above, Ancestors nodes node above ∧ (node = root ∨ root ∈ above)

theorem inside_iff_mem {above : List Node} (hshape : Shape nodes) (hroot : root ∈ nodes)
    (habove : Ancestors nodes node above) (hnode : node ∈ nodes) :
    insideOf root.path node = true ↔ node = root ∨ root ∈ above := by
  induction habove with
  | root hparent =>
    rw [hshape.inside_root hroot hnode hparent]
    simp
  | @under node parent above hparent hfind _ ih =>
    rw [hshape.inside_iff hroot hnode hparent hfind, ih (Table.find_mem hfind), mem_cons,
      @eq_comm _ root parent]

theorem inside_iff_below (hshape : Shape nodes) (hroot : root ∈ nodes) (hnode : node ∈ nodes) :
    insideOf root.path node = true ↔ Below nodes root node := by
  constructor
  · intro hinside
    obtain ⟨above, habove, _⟩ := hshape.ancestors hnode
    exact ⟨above, habove, (inside_iff_mem hshape hroot habove hnode).1 hinside⟩
  · rintro ⟨above, habove, hbelow⟩
    exact (inside_iff_mem hshape hroot habove hnode).2 hbelow

theorem mem_subjects :
    node ∈ school.subjects root ↔ node ∈ school.nodes ∧ node.kind = .subject ∧
      insideOf root.path node = true := by
  unfold School.subjects
  rw [mem_insertionSort, mem_filter, Bool.and_eq_true, decide_eq_true_eq]

theorem mem_roots : node ∈ school.roots cohort ↔ node ∈ school.nodes ∧ node.id ∈ cohort.contentNodes := by
  unfold School.roots
  rw [mem_insertionSort, mem_filter, decide_eq_true_eq]

theorem mem_steps (h : (cohort, node) ∈ school.steps) :
    node ∈ school.nodes ∧ node.kind = .subject := by
  obtain ⟨found, _, hstep⟩ := mem_flatMap.1 h
  obtain ⟨item, hitem, heq⟩ := mem_map.1 hstep
  obtain ⟨_, rfl⟩ := Prod.mk.inj heq
  obtain ⟨root, _, hsubject⟩ := mem_flatMap.1 (mem_unseen hitem).1
  have hmem := mem_subjects.1 hsubject
  exact ⟨hmem.1, hmem.2.1⟩

theorem step_of_below (hcohort : cohort ∈ school.cohorts) (hactive : cohort.isActive = true)
    (hroot : root ∈ school.nodes) (hcontent : root.id ∈ cohort.contentNodes)
    (hnode : node ∈ school.nodes) (hkind : node.kind = .subject)
    (hbelow : Below school.nodes root node) : (cohort, node) ∈ school.steps := by
  have hinside := (inside_iff_below school.shape hroot hnode).2 hbelow
  have hsubject : node ∈ (school.roots cohort).flatMap school.subjects :=
    mem_flatMap.2 ⟨root, mem_roots.2 ⟨hroot, hcontent⟩, mem_subjects.2 ⟨hnode, hkind, hinside⟩⟩
  have hnew : node.id ∉ ([] : List Uuid) := not_mem_nil
  obtain ⟨found, hfound, hid⟩ := exists_unseen hsubject hnew
  have hsame : found = node := by
    obtain ⟨_, _, hmem⟩ := mem_flatMap.1 (mem_unseen hfound).1
    exact school.shape.distinct.eq (mem_subjects.1 hmem).1 hnode hid
  refine mem_flatMap.2 ⟨cohort, ?_, mem_map.2 ⟨node, hsame ▸ hfound, rfl⟩⟩
  unfold School.activeCohorts
  rw [mem_insertionSort, mem_filter]
  exact ⟨hcohort, hactive⟩

theorem Stepped.keeps_settled (hstep : Stepped cohort node rows result after) (h : Constraints rows)
    (hsettled : Settled rows other item) (hsame : item.id = node.id → item = node) :
    Settled after other item := by
  obtain ⟨found, hfound, hitem, hrenewed⟩ := hsettled
  cases hstep with
  | elsewhere => exact ⟨found, hfound, hitem, hrenewed⟩
  | settled => exact ⟨found, hfound, hitem, hrenewed⟩
  | @refreshed row hrow hnode =>
    by_cases hrows : found.materialSlug = row.materialSlug
    · obtain rfl := h.material.eq hfound hrow hrows
      have hid : item.id = node.id := Option.some.inj (hitem.symm.trans hnode)
      rw [hsame hid]
      exact ⟨found.renewed node, mem_put_new hrow rfl, hnode, fun _ => rfl⟩
    · exact ⟨found, mem_put_other hrow rfl hfound hrows, hitem, hrenewed⟩
  | @adopted row _ hrow _ hfree =>
    have hrows : found.materialSlug ≠ row.materialSlug := by
      intro hrows
      rw [h.material.eq hfound hrow hrows, hfree] at hitem
      cases hitem
    exact ⟨found, mem_put_other hrow rfl hfound hrows, hitem, hrenewed⟩
  | created => exact ⟨found, mem_append_left _ hfound, hitem, hrenewed⟩

theorem Continues.conflictOf (h : Continues rows after) (hafter : Constraints after)
    (hbranch : HasBranch rows item.id) (cohort : Cohort) :
    conflictOf after cohort item = conflictOf rows cohort item := by
  obtain ⟨row, hrow, hnode⟩ := hbranch
  have hsome : row.sourceNode ≠ none := by
    rw [hnode]
    simp
  obtain ⟨next, hnext, hsame⟩ := h.mem hrow
  have hnextNode : next.sourceNode = some item.id := (hsame.sourceNode hsome).trans hnode
  refine if_congr ⟨?_, ?_⟩ rfl rfl
  · rintro ⟨found, hfound, hitem, hcohort⟩
    have heq := hafter.source found hfound next hnext (hitem.trans hnextNode.symm) (by rw [hitem]; simp)
    refine ⟨row, hrow, hnode, ?_⟩
    rw [← hsame.cohort, ← heq]
    exact hcohort
  · rintro ⟨found, hfound, hitem, hcohort⟩
    obtain ⟨later, hlater, hkept⟩ := h.mem hfound
    refine ⟨later, hlater, ?_, hkept.cohort.trans hcohort⟩
    exact (hkept.sourceNode (by rw [hitem]; simp)).trans hitem

theorem Stepped.of_settled (hstep : Stepped cohort node rows result after) (h : Constraints rows)
    (hsettled : Settled rows cohort node) :
    after = rows ∧ result = { conflicted := conflictOf rows cohort node } := by
  obtain ⟨found, hfound, hnode, hrenewed⟩ := hsettled
  have hone : ∀ {row}, row ∈ rows → row.sourceNode = some node.id → row = found := fun hrow hsame =>
    h.source _ hrow found hfound (hsame.trans hnode.symm) (by rw [hsame]; simp)
  unfold conflictOf
  cases hstep with
  | elsewhere hrow hitem hcohort =>
    refine ⟨rfl, ?_⟩
    rw [if_neg]
    rintro ⟨row, hmem, hsame, hrowCohort⟩
    rw [hone hrow hitem, ← hone hmem hsame] at hcohort
    exact hcohort hrowCohort
  | settled hrow hitem hcohort =>
    rw [if_pos ⟨_, hrow, hitem, hcohort⟩]
    exact ⟨rfl, rfl⟩
  | refreshed hrow hitem hcohort hchanged =>
    rw [hone hrow hitem] at hcohort hchanged
    exact absurd (hrenewed hcohort) hchanged
  | adopted hnone => exact absurd ⟨found, hfound, hnode⟩ hnone
  | created hnone => exact absurd ⟨found, hfound, hnode⟩ hnone

def reports (rows : List CatalogSubject) (plan : List (Cohort × Node)) : List Text :=
  plan.flatMap fun step => conflictOf rows step.1 step.2

theorem run_settled (h : Constraints rows) (hkind : ∀ step ∈ plan, step.2.kind = .subject)
    (hsettled : ∀ step ∈ plan, Settled rows step.1 step.2) :
    runSteps school plan {} rows = .ok ({ conflicted := reports rows plan }, rows) := by
  induction plan with
  | nil => rfl
  | cons step rest ih =>
    obtain ⟨cohort, node⟩ := step
    have hthis := hsettled _ mem_cons_self
    have hrest := ih (fun step hstep => hkind step (mem_cons_of_mem _ hstep))
      fun step hstep => hsettled step (mem_cons_of_mem _ hstep)
    rcases projectSubjectNode_spec school h (hkind _ mem_cons_self) cohort with
      ⟨_, subject, result, after, hstep, hcall⟩ | ⟨hnot, _⟩
    · obtain ⟨rfl, rfl⟩ := hstep.of_settled h hthis
      have hmerge := runSteps_merge school rest
        { conflicted := conflictOf after cohort node } {} after
      rw [merge_empty, hrest] at hmerge
      rw [runSteps, hcall, Outcome.ok_bind]
      exact hmerge
    · obtain ⟨row, hrow, hnode, _⟩ := hthis
      exact absurd (.inl ⟨row, hrow, hnode⟩) hnot

instance (rows : List CatalogSubject) (id : Uuid) : Decidable (HasBranch rows id) :=
  inferInstanceAs (Decidable (∃ row ∈ rows, _))

instance (rows : List CatalogSubject) (slot : Uuid × Text) : Decidable (Taken rows slot) :=
  inferInstanceAs (Decidable (∃ row ∈ rows, _))

def needed (rows : List CatalogSubject) (plan : List (Cohort × Node)) : List (Cohort × Node) :=
  plan.foldl (fun needing step =>
    if HasBranch rows step.2.id ∨ ∃ earlier ∈ needing, earlier.2.id = step.2.id then needing
    else needing ++ [step]) []

def slots (needing : List (Cohort × Node)) : List (Uuid × Text) :=
  needing.map fun step => slotOf step.1 step.2

def newSlugs (rows : List CatalogSubject) (needing : List (Cohort × Node)) : List Text :=
  (needing.filter fun step => ¬Taken rows (slotOf step.1 step.2)).map fun step =>
    materialSlugFor step.1 step.2.slug

structure Clear (rows : List CatalogSubject) (needing : List (Cohort × Node)) : Prop where
  /-- No two of them have one cohort and one slug. -/
  slots : (slots needing).Nodup
  /-- A branch with the cohort and the slug of one of them belongs to no subject. -/
  unlinked : ∀ step ∈ needing, ∀ row ∈ rows, (row.cohort, row.slug) = slotOf step.1 step.2 →
    row.sourceNode = none
  /-- The others have different material slugs. -/
  newSlugs : (newSlugs rows needing).Nodup
  /-- No branch has one of these. -/
  unused : ∀ materialSlug ∈ Branches.newSlugs rows needing, ¬SlugTaken rows materialSlug

theorem needed_concat (rows : List CatalogSubject) (plan : List (Cohort × Node))
    (step : Cohort × Node) : needed rows (plan ++ [step]) =
      if HasBranch rows step.2.id ∨ ∃ earlier ∈ needed rows plan, earlier.2.id = step.2.id then
        needed rows plan
      else needed rows plan ++ [step] := by
  unfold needed
  rw [foldl_append]
  rfl

theorem newSlugs_concat (rows : List CatalogSubject) (needing : List (Cohort × Node))
    (cohort : Cohort) (node : Node) : newSlugs rows (needing ++ [(cohort, node)]) =
      newSlugs rows needing ++ if Taken rows (slotOf cohort node) then []
        else [materialSlugFor cohort node.slug] := by
  unfold newSlugs
  rw [filter_append, map_append]
  refine congrArg _ ?_
  by_cases htaken : Taken rows (slotOf cohort node)
  · simp [htaken]
  · simp [htaken]

theorem clear_nil (rows : List CatalogSubject) : Clear rows [] :=
  ⟨nodup_nil, nofun, nodup_nil, nofun⟩

theorem clear_concat : Clear rows (needing ++ [(cohort, node)]) ↔ Clear rows needing ∧
    slotOf cohort node ∉ slots needing ∧
    (∀ row ∈ rows, (row.cohort, row.slug) = slotOf cohort node → row.sourceNode = none) ∧
    (¬Taken rows (slotOf cohort node) → materialSlugFor cohort node.slug ∉ newSlugs rows needing ∧
      ¬SlugTaken rows (materialSlugFor cohort node.slug)) := by
  have hslots : slots (needing ++ [(cohort, node)]) = slots needing ++ [slotOf cohort node] := by
    unfold slots
    rw [map_append]
    rfl
  have hnodup : ∀ {α : Type} {items : List α} {item : α},
      (items ++ [item]).Nodup ↔ items.Nodup ∧ item ∉ items := by
    intro α items item
    rw [← concat_eq_append, nodup_concat]
    exact and_comm
  have hnew := newSlugs_concat rows needing cohort node
  constructor
  · rintro ⟨hpairs, hfree, hslugs, hunused⟩
    rw [hslots, hnodup] at hpairs
    refine ⟨⟨hpairs.1, fun step hstep => hfree step (mem_append_left _ hstep), ?_, ?_⟩,
      hpairs.2, hfree (cohort, node) (mem_append_right _ mem_cons_self), fun hopen => ?_⟩
    · rw [hnew] at hslugs
      exact (nodup_append.1 hslugs).1
    · intro materialSlug hmem
      exact hunused materialSlug (hnew ▸ mem_append_left _ hmem)
    · rw [if_neg hopen] at hnew
      rw [hnew, hnodup] at hslugs
      exact ⟨hslugs.2, hunused _ (hnew ▸ mem_append_right _ mem_cons_self)⟩
  · rintro ⟨⟨hpairs, hfree, hslugs, hunused⟩, hslot, hnone, hopen⟩
    refine ⟨?_, fun step hstep => ?_, ?_, fun materialSlug hmem => ?_⟩
    · rw [hslots, hnodup]
      exact ⟨hpairs, hslot⟩
    · rcases mem_append.1 hstep with hold | hlast
      · exact hfree step hold
      · rw [mem_singleton.1 hlast]
        exact hnone
    · rw [hnew]
      split_ifs with htaken
      · rw [append_nil]
        exact hslugs
      · exact hnodup.2 ⟨hslugs, (hopen htaken).1⟩
    · rw [hnew] at hmem
      rcases mem_append.1 hmem with hold | hlast
      · exact hunused materialSlug hold
      · split_ifs at hlast with htaken
        · cases hlast
        · rw [mem_singleton.1 hlast]
          exact (hopen htaken).2

/-- How far the branches have come when some subjects have been given theirs. -/
structure Reached (rows : List CatalogSubject) (needing : List (Cohort × Node))
    (after : List CatalogSubject) : Prop where
  branch : ∀ id, HasBranch after id ↔ HasBranch rows id ∨ ∃ step ∈ needing, step.2.id = id
  taken : ∀ slot, Taken after slot ↔ Taken rows slot ∨ slot ∈ slots needing
  unlinked : ∀ slot, Open after slot ↔ Open rows slot ∧ slot ∉ slots needing
  slug : ∀ materialSlug, SlugTaken after materialSlug ↔
    SlugTaken rows materialSlug ∨ materialSlug ∈ newSlugs rows needing

theorem reached_nil (rows : List CatalogSubject) : Reached rows [] rows := by
  refine ⟨fun id => ?_, fun slot => ?_, fun slot => ?_, fun materialSlug => ?_⟩
  · simp
  · simp [slots]
  · simp [slots]
  · simp [newSlugs]

theorem Reached.fits_iff (h : Reached rows needing after) (hrows : Constraints rows)
    (hclear : Clear rows needing) (hnone : ¬HasBranch after node.id) :
    Fits after cohort node ↔ Clear rows (needing ++ [(cohort, node)]) := by
  unfold Fits
  rw [h.unlinked, h.taken, h.slug, clear_concat, not_or, not_or]
  by_cases htaken : Taken rows (slotOf cohort node)
  · have hopen : Open rows (slotOf cohort node) ↔
        ∀ row ∈ rows, (row.cohort, row.slug) = slotOf cohort node → row.sourceNode = none := by
      constructor
      · rintro ⟨row, hrow, hslot, hfree⟩ other hother hotherSlot
        have hpair := hotherSlot.trans hslot.symm
        rw [hrows.slug other hother row hrow (congrArg Prod.fst hpair) (congrArg Prod.snd hpair)]
        exact hfree
      · intro hall
        obtain ⟨row, hrow, hslot⟩ := htaken
        exact ⟨row, hrow, hslot, hall row hrow hslot⟩
    rw [hopen]
    constructor
    · rintro (hbranch | hthere | ⟨⟨hnot, _⟩, _⟩)
      · exact absurd hbranch hnone
      · exact ⟨hclear, hthere.2, hthere.1, fun hnot => absurd htaken hnot⟩
      · exact absurd htaken hnot
    · rintro ⟨_, hslot, hall, _⟩
      exact .inr (.inl ⟨hall, hslot⟩)
  · constructor
    · rintro (hbranch | ⟨⟨row, hrow, hslot, _⟩, _⟩ | ⟨⟨_, hslot⟩, hunused, hnew⟩)
      · exact absurd hbranch hnone
      · exact absurd ⟨row, hrow, hslot⟩ htaken
      · exact ⟨hclear, hslot, fun row hrow heq => absurd ⟨row, hrow, heq⟩ htaken,
          fun _ => ⟨hnew, hunused⟩⟩
    · rintro ⟨_, hslot, _, hopen⟩
      exact .inr (.inr ⟨⟨htaken, hslot⟩, (hopen htaken).2, (hopen htaken).1⟩)

theorem Reached.concat (h : Reached rows needing after) (hafter : Constraints after)
    (hstep : Stepped cohort node after result last) (hnone : ¬HasBranch after node.id)
    (hslot : slotOf cohort node ∉ slots needing) :
    Reached rows (needing ++ [(cohort, node)]) last := by
  have hslots : slots (needing ++ [(cohort, node)]) = slots needing ++ [slotOf cohort node] := by
    unfold slots
    rw [map_append]
    rfl
  obtain ⟨htaken, hopen, hslug⟩ := hstep.new_slugs hafter hnone
  refine ⟨fun id => ?_, fun slot => ?_, fun slot => ?_, fun materialSlug => ?_⟩
  · rw [hstep.hasBranch hafter, h.branch, or_assoc]
    refine or_congr_right ?_
    constructor
    · rintro (⟨step, hmem, hid⟩ | rfl)
      · exact ⟨step, mem_append_left _ hmem, hid⟩
      · exact ⟨(cohort, node), mem_append_right _ mem_cons_self, rfl⟩
    · rintro ⟨step, hmem, hid⟩
      rcases mem_append.1 hmem with hold | hlast
      · exact .inl ⟨step, hold, hid⟩
      · rw [mem_singleton.1 hlast] at hid
        exact .inr hid.symm
  · rw [htaken, h.taken, hslots, mem_append, mem_singleton, or_assoc, eq_comm]
  · rw [hopen, h.unlinked, hslots, mem_append, mem_singleton, not_or, and_assoc]
    exact and_congr_right fun _ => and_congr_right fun _ => ne_comm
  · have hsame : Taken after (slotOf cohort node) ↔ Taken rows (slotOf cohort node) := by
      rw [h.taken]
      exact or_iff_left hslot
    rw [hslug, h.slug, newSlugs_concat, mem_append, or_assoc, hsame]
    refine or_congr_right (or_congr_right ?_)
    split_ifs with hthere
    · exact iff_of_false (fun hnew => hnew.1 hthere) not_mem_nil
    · rw [mem_singleton, eq_comm]
      exact and_iff_right hthere

theorem Reached.same (h : Reached rows needing after) (hafter : Constraints after)
    (hstep : Stepped cohort node after result last) (hbranch : HasBranch after node.id) :
    Reached rows needing last := by
  obtain ⟨htaken, hopen, hslug⟩ := hstep.same_slugs hafter hbranch
  refine ⟨fun id => ?_, fun slot => (htaken slot).trans (h.taken slot),
    fun slot => (hopen slot).trans (h.unlinked slot),
    fun materialSlug => (hslug materialSlug).trans (h.slug materialSlug)⟩
  rw [hstep.hasBranch hafter, ← h.branch]
  refine or_iff_left_of_imp ?_
  rintro rfl
  exact hbranch

structure Done (rows : List CatalogSubject) (plan : List (Cohort × Node))
    (result : ProjectionResult) (after : List CatalogSubject) : Prop where
  constraints : Constraints after
  continues : Continues rows after
  reached : Reached rows (needed rows plan) after
  settled : ∀ step ∈ plan, Settled after step.1 step.2
  conflicted : result.conflicted = reports after plan

theorem run_spec (school : School) (h : Constraints rows) (plan : List (Cohort × Node))
    (hplan : ∀ step ∈ plan, step.2 ∈ school.nodes ∧ step.2.kind = .subject) :
    (Clear rows (needed rows plan) ∧ ∃ result after,
      runSteps school plan {} rows = .ok (result, after) ∧ Done rows plan result after) ∨
    (¬Clear rows (needed rows plan) ∧ ∃ failure, runSteps school plan {} rows = .error failure) := by
  induction plan using List.reverseRecOn with
  | nil =>
    exact .inl ⟨clear_nil rows, {}, rows, rfl, h, .refl rows, reached_nil rows, nofun, rfl⟩
  | append_singleton plan step ih =>
    obtain ⟨cohort, node⟩ := step
    have hstepPlan := hplan (cohort, node) (mem_append_right _ mem_cons_self)
    have hall : Clear rows (needed rows (plan ++ [(cohort, node)])) → Clear rows (needed rows plan) := by
      rw [needed_concat]
      split_ifs
      · exact id
      · exact fun hclear => (clear_concat.1 hclear).1
    rcases ih fun step hstep => hplan step (mem_append_left _ hstep) with
      ⟨hclear, result, after, hrun, hdone⟩ | ⟨hnot, failure, hrun⟩
    · have hlast : runSteps school (plan ++ [(cohort, node)]) {} rows =
          projectSubjectNode school node (some cohort) after >>= fun done =>
            .ok (result.merge done.1.2, done.2) := by
        rw [runSteps_append, hrun]
        rfl
      have hneeded : needed rows (plan ++ [(cohort, node)]) =
          if HasBranch after node.id then needed rows plan
          else needed rows plan ++ [(cohort, node)] :=
        (needed_concat rows plan _).trans (if_congr (hdone.reached.branch node.id).symm rfl rfl)
      have hiff : Fits after cohort node ↔ Clear rows (needed rows (plan ++ [(cohort, node)])) := by
        rw [hneeded]
        split_ifs with hbranch
        · exact iff_of_true (.inl hbranch) hclear
        · exact hdone.reached.fits_iff h hclear hbranch
      rcases projectSubjectNode_spec school hdone.constraints hstepPlan.2 cohort with
        ⟨hfits, subject, report, last, hstep, hcall⟩ | ⟨hcollides, hcall⟩
      · refine .inl ⟨hiff.1 hfits, result.merge report, last, ?_, hstep.constraints hdone.constraints,
          hdone.continues.trans (hstep.continues hdone.constraints), ?_, fun other hother => ?_, ?_⟩
        · rw [hlast, hcall]
          rfl
        · have hnext := hiff.1 hfits
          rw [hneeded] at hnext ⊢
          split_ifs at hnext ⊢ with hbranch
          · exact hdone.reached.same hdone.constraints hstep hbranch
          · exact hdone.reached.concat hdone.constraints hstep hbranch (clear_concat.1 hnext).2.1
        · rcases mem_append.1 hother with hold | hnew
          · refine hstep.keeps_settled hdone.constraints (hdone.settled other hold) fun hid => ?_
            exact school.shape.distinct.eq (hplan other hother).1 hstepPlan.1 hid
          · rw [mem_singleton.1 hnew]
            exact (hstep.settles hdone.constraints).1
        · have hsame : ∀ earlier ∈ plan, conflictOf last earlier.1 earlier.2 =
              conflictOf after earlier.1 earlier.2 := by
            intro earlier hearlier
            obtain ⟨row, hrow, hnode, _⟩ := hdone.settled earlier hearlier
            exact (hstep.continues hdone.constraints).conflictOf
              (hstep.constraints hdone.constraints) ⟨row, hrow, hnode⟩ _
          have hreports : reports last plan = reports after plan := flatMap_congr hsame
          change result.conflicted ++ report.conflicted = reports last (plan ++ [(cohort, node)])
          unfold reports at hreports ⊢
          rw [flatMap_append, hreports, hdone.conflicted, (hstep.settles hdone.constraints).2]
          simp [reports]
      · refine .inr ⟨fun hnext => hcollides (hiff.2 hnext), .transactionManagementError, ?_⟩
        rw [hlast, hcall]
        rfl
    · refine .inr ⟨fun hclear => hnot (hall hclear), failure, ?_⟩
      rw [runSteps_append, hrun]
      rfl

/-- What `project_all` has done when it returns. -/
structure Projected (school : School) (rows : List CatalogSubject) (result : ProjectionResult)
    (after : List CatalogSubject) : Prop where
  complete : ∀ cohort ∈ school.cohorts, cohort.isActive = true → ∀ root ∈ school.nodes,
    root.id ∈ cohort.contentNodes → ∀ node ∈ school.nodes, node.kind = .subject →
    Below school.nodes root node →
    (∃! row, row ∈ after ∧ row.sourceNode = some node.id) ∨ node.slug ∈ result.conflicted
  kept : Continues rows after
  unique : Constraints after
  again : ∃ second, projectAll school after = .ok (second, after) ∧ second.created = [] ∧
    second.updated = [] ∧ second.conflicted = result.conflicted

/-- A projection goes through, and leaves nothing to do, exactly when no subjects collide. -/
theorem projected_iff_clear (school : School) (catalog : Catalog) :
    (∃ result after, projectAll school catalog.1 = .ok (result, after) ∧
      Projected school catalog.1 result after) ↔
      Clear catalog.1 (needed catalog.1 school.steps) := by
  have hplan : ∀ step ∈ school.steps, step.2 ∈ school.nodes ∧ step.2.kind = .subject :=
    fun step hstep => mem_steps hstep
  rw [projectAll_eq]
  rcases run_spec school catalog.2 school.steps hplan with
    ⟨hclear, result, after, hrun, hdone⟩ | ⟨hnot, failure, hrun⟩
  · refine iff_of_true ⟨result, after, hrun, ?_, hdone.continues, hdone.constraints, ?_⟩ hclear
    · intro cohort hcohort hactive root hroot hcontent node hnode hkind hbelow
      left
      obtain ⟨row, hrow, hsource, _⟩ := hdone.settled _
        (step_of_below hcohort hactive hroot hcontent hnode hkind hbelow)
      refine ⟨row, ⟨hrow, hsource⟩, ?_⟩
      rintro other ⟨hother, hsame⟩
      exact hdone.constraints.source other hother row hrow (hsame.trans hsource.symm)
        (by rw [hsame]; simp)
    · rw [projectAll_eq, run_settled hdone.constraints (fun step hstep => (hplan step hstep).2)
        hdone.settled]
      exact ⟨_, rfl, rfl, rfl, hdone.conflicted.symm⟩
  · refine iff_of_false ?_ hnot
    rintro ⟨result, after, hdone, _⟩
    cases hrun.symm.trans hdone

/-! Two years of one institution, each with a subject `anatomy`. -/

def named (name : Char) (h : '/' ∉ [name]) : Uuid := ⟨[name], h⟩

def someNode (id : Uuid) (parent : Option Uuid) (kind : Education.Kind) (slug path : String)
    (depth : Nat) : Node where
  id := id
  parent := parent
  kind := kind
  title := slug.toList
  slug := slug.toList
  description := []
  position := 0
  path := path.toList
  depth := depth
  status := .published
  isDiscoverable := true
  revision := 1

def twoYears : List Node :=
  let institution := named 'i' (by decide)
  let first := named 'f' (by decide)
  let second := named 's' (by decide)
  [someNode institution none .institution "faculty" "/i/" 0,
    someNode first (some institution) .academicYear "first" "/i/f/" 1,
    someNode second (some institution) .academicYear "second" "/i/s/" 1,
    someNode (named 'a' (by decide)) (some first) .subject "anatomy" "/i/f/a/" 2,
    someNode (named 'b' (by decide)) (some second) .subject "anatomy" "/i/s/b/" 2]

theorem twoYears_shape : Shape twoYears where
  distinct := by decide
  fits := by
    intro node hnode
    unfold twoYears at hnode
    simp only [mem_cons, not_mem_nil, or_false] at hnode
    rcases hnode with rfl | rfl | rfl | rfl | rfl
    · exact ⟨rfl, rfl, rfl⟩
    · exact ⟨nofun, _, rfl, rfl, rfl⟩
    · exact ⟨nofun, _, rfl, rfl, rfl⟩
    · exact ⟨nofun, _, rfl, rfl, rfl⟩
    · exact ⟨nofun, _, rfl, rfl, rfl⟩

def twoYearSchool : School where
  nodes := twoYears
  shape := twoYears_shape
  cohorts :=
    [{ id := named 'c' (by decide)
       program := { code := "dentistry".toList, position := 0 }
       code := "2026".toList
       position := 0
       isActive := true
       contentNodes := [named 'i' (by decide)] }]
  nodeOrder first second := first.position ≤ second.position
  cohortOrder first second := first.position ≤ second.position

/-- Without any branch before, the second `anatomy` finds the cohort and the slug taken. -/
theorem second_anatomy_raises : ¬∃ result after, projectAll twoYearSchool [] = .ok (result, after) ∧
    Projected twoYearSchool [] result after := by
  rintro ⟨result, after, hrun, _⟩
  have hraises : (projectAll twoYearSchool []).isOk = false := by decide +kernel
  rw [hrun] at hraises
  cases hraises

end LockIn.Content.Branches
