import LockIn.Education.QuestionSteps
import LockIn.Education.TreeSteps
import LockIn.Library.Machine

/-!
# The tree and the index agree

Through any calls the tree stays a tree, its paths, depths and flags are what its parents say, and
the index has one entry for whatever can be shown and no other.
-/

namespace LockIn.Education

open List Outcome Table

def homeOfLearningObject (learningObject : LearningObject) : Option Uuid :=
  if learningObject.archivedAt.isNone then learningObject.publishedVersion.map (·.academicNode) else none

def homeOfQuestion (question : Question) : Option Uuid :=
  if question.retiredAt.isNone then question.publishedVersion.map (·.academicNode) else none

def home (world : World) (key : ResourceKind × Uuid) : Option Uuid :=
  match key.1 with
  | .node _ => none
  | .learningObject => (Table.find LearningObject.id world.learningObjects key.2).bind homeOfLearningObject
  | .question => (Table.find Question.id world.questions key.2).bind homeOfQuestion

def ArchivedMarked (learningObject : LearningObject) : Prop :=
  learningObject.publishedVersion ≠ none →
    (learningObject.archivedAt = none ↔ learningObject.workflowStatus ≠ .archived)

def RetiredMarked (question : Question) : Prop :=
  question.publishedVersion ≠ none → (question.retiredAt = none ↔ question.workflowStatus ≠ .retired)

structure Whole (world : World) : Prop where
  kept : Kept world.tree (home world)
  learningObjects : Table.Distinct LearningObject.id world.learningObjects
  questions : Table.Distinct Question.id world.questions
  archived : ∀ learningObject ∈ world.learningObjects, ArchivedMarked learningObject
  retired : ∀ question ∈ world.questions, RetiredMarked question

section
variable {tree : Tree} {home home' : ResourceKind × Uuid → Option Uuid} {key : ResourceKind × Uuid} {node : Node}

/-- What the index is to show of something attached to the tree. -/
def viewAt (nodes : List Node) (at' : Option Uuid) : Option (Text × Bool) :=
  at'.bind fun id => (Table.find Node.id nodes id).map fun node => (node.path, node.isDiscoverable)

theorem expected_attached (nodes : List Node) (home : ResourceKind × Uuid → Option Uuid)
    (hkey : ∀ kind, key.1 ≠ .node kind) : expected nodes home key = viewAt nodes (home key) := by
  unfold expected
  split
  · next kind hkind => exact absurd hkind (hkey kind)
  · rfl
  · rfl

theorem expected_congr (nodes : List Node) (h : home' key = home key) :
    expected nodes home' key = expected nodes home key := by
  unfold expected
  rw [h]

theorem Kept.congr (h : Kept tree home) (hsame : ∀ key, home' key = home key) : Kept tree home' := by
  obtain rfl : home' = home := funext hsame
  exact h

theorem Kept.publish (h : Kept tree home) (hkey : ∀ kind, key.1 ≠ .node kind) (hmem : node ∈ tree.nodes)
    (hflag : node.isDiscoverable = true) (hhome : home' key = some node.id)
    (hother : ∀ other, other ≠ key → home' other = home other) {entry : Entry} (hentry : entry.key = key)
    (hpath : entry.academicPath = node.path) (hshow : entry.isDiscoverable = true) :
    Kept { tree with entries := upsertSearchEntry tree.entries entry } home' := by
  refine ⟨h.shape, h.lit, distinct_upsert h.indexed.distinct entry, fun other => ?_, fun other id hid => ?_⟩
  · rw [shown_upsert, hentry]
    split
    · next heq =>
      rw [heq, expected_attached _ _ hkey, hhome, hpath, hshow, ← hflag]
      show _ = (Table.find Node.id tree.nodes node.id).map _
      rw [h.shape.find hmem]
      rfl
    · next hne => rw [h.indexed.shows, expected_congr _ (hother other hne)]
  · by_cases heq : other = key
    · rw [heq, hhome] at hid
      rw [← Option.some.inj hid]
      exact mem_map_of_mem hmem
    · rw [hother other heq] at hid
      exact h.indexed.housed other id hid

/-- What is taken back leaves the index. -/
theorem Kept.withdraw (h : Kept tree home) (hkey : ∀ kind, key.1 ≠ .node kind) (hhome : home' key = none)
    (hother : ∀ other, other ≠ key → home' other = home other) :
    Kept { tree with entries := removeSearchEntry tree.entries key } home' := by
  refine ⟨h.shape, h.lit, distinct_remove h.indexed.distinct key, fun other => ?_, fun other id hid => ?_⟩
  · rw [shown_remove]
    split
    · next heq =>
      rw [heq, expected_attached _ _ hkey, hhome]
      rfl
    · next hne => rw [h.indexed.shows, expected_congr _ (hother other hne)]
  · by_cases heq : other = key
    · rw [heq, hhome] at hid
      simp at hid
    · rw [hother other heq] at hid
      exact h.indexed.housed other id hid

end

section
variable {world : World} {learningObject : LearningObject} {question : Question} {key : ResourceKind × Uuid}
  {id : Uuid}

theorem findLearningObject_ok (h : findLearningObject world id = .ok learningObject) :
    learningObject.id = id ∧
      Table.find LearningObject.id world.learningObjects learningObject.id = some learningObject := by
  unfold findLearningObject at h
  split at h
  · simp at h
  · next hfind =>
    obtain rfl := Except.ok.inj h
    have hid := find_key hfind
    exact ⟨hid, hid ▸ hfind⟩

theorem home_putQuestion {old : Question} (hfind : Table.find Question.id world.questions id = some old)
    (hid : question.id = id) :
    home (putQuestion world question) key =
      if key = (.question, id) then homeOfQuestion question else home world key := by
  subst hid
  obtain ⟨kind, id⟩ := key
  cases kind with
  | node kind => rw [if_neg (by simp)]; rfl
  | learningObject => rw [if_neg (by simp)]; rfl
  | question =>
    by_cases hid : id = question.id
    · rw [hid, if_pos rfl]
      show (Table.find Question.id (Table.put Question.id world.questions question) question.id).bind _ = _
      rw [find_put_self hfind]
      rfl
    · rw [if_neg (by simpa using hid)]
      show (Table.find Question.id (Table.put Question.id world.questions question) id).bind _ = _
      rw [find_put_of_ne hid]
      rfl

variable {old : LearningObject}

theorem home_putLearningObject
    (hfind : Table.find LearningObject.id world.learningObjects id = some old)
    (hid : learningObject.id = id) :
    home (putLearningObject world learningObject) key =
      if key = (.learningObject, id) then homeOfLearningObject learningObject else home world key := by
  subst hid
  obtain ⟨kind, id⟩ := key
  cases kind with
  | node kind => rw [if_neg (by simp)]; rfl
  | question => rw [if_neg (by simp)]; rfl
  | learningObject =>
    by_cases hid : id = learningObject.id
    · rw [hid, if_pos rfl]
      show (Table.find LearningObject.id (Table.put LearningObject.id world.learningObjects learningObject)
        learningObject.id).bind _ = _
      rw [find_put_self hfind]
      rfl
    · rw [if_neg (by simpa using hid)]
      show (Table.find LearningObject.id (Table.put LearningObject.id world.learningObjects learningObject)
        id).bind _ = _
      rw [find_put_of_ne hid]
      rfl

theorem home_question (hfind : Table.find Question.id world.questions id = some question) :
    home world (.question, id) = homeOfQuestion question := by
  show (Table.find Question.id world.questions id).bind _ = _
  rw [hfind]
  rfl

theorem home_learningObject (hfind : Table.find LearningObject.id world.learningObjects id = some learningObject) :
    home world (.learningObject, id) = homeOfLearningObject learningObject := by
  show (Table.find LearningObject.id world.learningObjects id).bind _ = _
  rw [hfind]
  rfl

theorem Whole.withQuestion {entries : List Entry} (h : Whole world) (hmarked : RetiredMarked question)
    (hkept : Kept { world.tree with entries } (home (putQuestion world question))) :
    Whole (withEntries (putQuestion world question) entries) := by
  refine ⟨hkept, h.learningObjects, h.questions.put question, h.archived, fun row hrow => ?_⟩
  rcases mem_of_mem_put hrow with rfl | hrow
  · exact hmarked
  · exact h.retired row hrow

theorem Whole.withLearningObject {entries : List Entry} (h : Whole world)
    (hmarked : ArchivedMarked learningObject)
    (hkept : Kept { world.tree with entries } (home (putLearningObject world learningObject))) :
    Whole (withEntries (putLearningObject world learningObject) entries) := by
  refine ⟨hkept, h.learningObjects.put learningObject, h.questions, fun row hrow => ?_, h.retired⟩
  rcases mem_of_mem_put hrow with rfl | hrow
  · exact hmarked
  · exact h.archived row hrow

theorem homeOfQuestion_none (h : question.publishedVersion = none ∨ question.retiredAt ≠ none) :
    homeOfQuestion question = none := by
  unfold homeOfQuestion
  rcases h with hnone | hdate
  · rw [hnone]
    split <;> rfl
  · rw [if_neg fun hc => hdate (Option.isNone_iff_eq_none.1 hc)]

theorem Whole.questionStep {next : World} {open' : Question → Prop} (h : Whole world)
    (hstep : QuestionStep open' world next) : Whole next := by
  cases hstep with
  | create new hfresh hpublished hstatus =>
    refine ⟨h.kept.congr ?_, h.learningObjects, h.questions.append hfresh, h.archived, ?_⟩
    · rintro ⟨kind, id⟩
      cases kind with
      | node kind => rfl
      | learningObject => rfl
      | question =>
        show (Table.find Question.id (world.questions ++ [new]) id).bind _ = _
        rw [find_append]
        cases hfind : Table.find Question.id world.questions id with
        | some found =>
          rw [home_question hfind]
          rfl
        | none =>
          have hnone : home world (.question, id) = none := by
            show (Table.find Question.id world.questions id).bind _ = none
            rw [hfind]
            rfl
          rw [hnone, Option.none_or]
          by_cases hid : new.id = id
          · simp [Table.find, hid, homeOfQuestion_none (.inl hpublished)]
          · simp [Table.find, hid]
    · exact Table.forall_mem_append h.retired (fun hc => absurd hpublished hc)
  | edit old new hfind hpublished hdate hold hnew =>
    have hmarked : RetiredMarked new := by
      intro hc
      rw [hpublished] at hc
      rw [hdate, h.retired old (find_mem hfind) hc]
      exact ⟨fun _ => hnew, fun _ => hold⟩
    have hkept : Kept world.tree (home (putQuestion world new)) := by
      refine h.kept.congr fun key => ?_
      rw [home_putQuestion hfind rfl]
      split
      · next heq =>
        rw [heq, home_question hfind]
        unfold homeOfQuestion
        rw [hpublished, hdate]
      · rfl
    exact h.withQuestion hmarked hkept
  | publish old new version node entry hfind hold hpublished hdate hnew hmem hnode hflag hkey hpath hshow =>
    refine h.withQuestion ?_ (h.kept.publish (by simp) hmem hflag ?_ ?_ hkey hpath hshow)
    · exact fun _ => ⟨fun _ => by rw [hnew]; simp, fun _ => hdate⟩
    · rw [home_putQuestion hfind rfl, if_pos rfl, homeOfQuestion, hdate, hpublished, hnode]
      rfl
    · intro other hne
      rw [home_putQuestion hfind rfl, if_neg hne]
  | retire old new hfind hdate hnew =>
    refine h.withQuestion ?_ (h.kept.withdraw (by simp) ?_ ?_)
    · exact fun _ => ⟨fun hc => absurd hc hdate, fun hc => absurd hnew hc⟩
    · rw [home_putQuestion hfind rfl, if_pos rfl, homeOfQuestion_none (.inr hdate)]
    · intro other hne
      rw [home_putQuestion hfind rfl, if_neg hne]
  | unpublish old new hfind hopen hpublished =>
    refine h.withQuestion ?_ (h.kept.withdraw (by simp) ?_ ?_)
    · exact fun hc => absurd hpublished hc
    · rw [home_putQuestion hfind rfl, if_pos rfl, homeOfQuestion_none (.inl hpublished)]
    · intro other hne
      rw [home_putQuestion hfind rfl, if_neg hne]
  | batches batches => exact ⟨h.kept, h.learningObjects, h.questions, h.archived, h.retired⟩

theorem Whole.manyQuestions {next : World} (h : Whole world)
    (hsteps : QuestionSteps (fun _ => True) world next) : Whole next := by
  induction hsteps with
  | refl => exact h
  | tail _ hstep ih => exact ih.questionStep hstep

theorem Whole.edit {new : LearningObject} (h : Whole world)
    (hfind : Table.find LearningObject.id world.learningObjects new.id = some old)
    (hpublished : new.publishedVersion = old.publishedVersion)
    (hdate : new.archivedAt = old.archivedAt) (hold : old.workflowStatus ≠ .archived)
    (hnew : new.workflowStatus ≠ .archived) : Whole (putLearningObject world new) := by
  have hmarked : ArchivedMarked new := by
    intro hc
    rw [hpublished] at hc
    rw [hdate, h.archived old (find_mem hfind) hc]
    exact ⟨fun _ => hnew, fun _ => hold⟩
  have hkept : Kept world.tree (home (putLearningObject world new)) := by
    refine h.kept.congr fun key => ?_
    rw [home_putLearningObject hfind rfl]
    split
    · next heq =>
      rw [heq, home_learningObject hfind]
      unfold homeOfLearningObject
      rw [hpublished, hdate]
    · rfl
  exact h.withLearningObject hmarked hkept

section
variable {site : Site} {actor : Actor} {files : Files} {next : World} {expectedRevision now : Nat}
  {data : LearningObjectInput}

theorem Whole.createLearningObject (h : Whole world)
    (hcreate : createLearningObject site actor world id data = .ok next) :
    Whole next ∧ next.questions = world.questions := by
  obtain ⟨_, _, hcreate⟩ := bind_eq_ok.1 hcreate
  obtain ⟨_, _, hcreate⟩ := bind_eq_ok.1 hcreate
  obtain ⟨hfresh, hcreate⟩ := unless_ok.1 hcreate
  obtain rfl := Except.ok.inj hcreate
  refine ⟨⟨h.kept.congr ?_, h.learningObjects.append fun row hrow hid => hfresh ?_, h.questions, ?_,
    h.retired⟩, rfl⟩
  · rintro ⟨kind, other⟩
    cases kind with
    | node kind => rfl
    | question => rfl
    | learningObject =>
      unfold home
      rw [find_append]
      cases hfind : Table.find LearningObject.id world.learningObjects other with
      | some found => rfl
      | none =>
        rw [Option.none_or]
        by_cases hid : id = other
        · simp [Table.find, hid, homeOfLearningObject]
        · simp [Table.find, hid]
  · exact List.any_eq_true.2 ⟨row, hrow, by simpa using hid⟩
  · exact Table.forall_mem_append h.archived (fun hc => absurd rfl hc)

theorem Whole.reviseLearningObject (h : Whole world)
    (hrevise : reviseLearningObject site actor world id expectedRevision data = .ok next) :
    Whole next ∧ next.questions = world.questions := by
  obtain ⟨old, hold, hrevise⟩ := bind_eq_ok.1 hrevise
  obtain ⟨_, hfind⟩ := findLearningObject_ok hold
  obtain ⟨_, hrevise⟩ := unless_ok.1 hrevise
  obtain ⟨_, _, hrevise⟩ := bind_eq_ok.1 hrevise
  obtain ⟨hstatus, hrevise⟩ := unless_ok.1 hrevise
  obtain ⟨_, _, hrevise⟩ := bind_eq_ok.1 hrevise
  obtain ⟨_, _, hrevise⟩ := bind_eq_ok.1 hrevise
  split at hrevise
  · simp at hrevise
  · obtain rfl := Except.ok.inj hrevise
    simp only [Bool.or_eq_true, decide_eq_true_eq, not_or] at hstatus
    refine ⟨h.edit hfind rfl rfl hstatus.2 ?_, rfl⟩
    simp

theorem Whole.submitForReview (h : Whole world)
    (hsubmit : submitForReview site actor files world id expectedRevision = .ok next) :
    Whole next ∧ next.questions = world.questions := by
  obtain ⟨old, hold, hsubmit⟩ := bind_eq_ok.1 hsubmit
  obtain ⟨_, hfind⟩ := findLearningObject_ok hold
  obtain ⟨_, hsubmit⟩ := unless_ok.1 hsubmit
  obtain ⟨_, _, hsubmit⟩ := bind_eq_ok.1 hsubmit
  obtain ⟨hstatus, hsubmit⟩ := unless_ok.1 hsubmit
  split at hsubmit
  · simp at hsubmit
  · obtain ⟨_, _, hsubmit⟩ := bind_eq_ok.1 hsubmit
    obtain rfl := Except.ok.inj hsubmit
    refine ⟨h.edit hfind rfl rfl (fun hc => hstatus ?_) ?_, rfl⟩
    · rw [hc]
      rfl
    · simp

theorem Whole.rejectLearningObject {reviewNote : Text} (h : Whole world)
    (hreject : rejectLearningObject site actor world id expectedRevision reviewNote = .ok next) :
    Whole next ∧ next.questions = world.questions := by
  obtain ⟨old, hold, hreject⟩ := bind_eq_ok.1 hreject
  obtain ⟨_, hfind⟩ := findLearningObject_ok hold
  obtain ⟨_, _, hreject⟩ := bind_eq_ok.1 hreject
  obtain ⟨_, _, hreject⟩ := bind_eq_ok.1 hreject
  obtain ⟨hstatus, hreject⟩ := unless_ok.1 hreject
  obtain ⟨_, hreject⟩ := unless_ok.1 hreject
  obtain rfl := Except.ok.inj hreject
  refine ⟨h.edit hfind rfl rfl (by rw [not_not.1 hstatus]; simp) ?_, rfl⟩
  simp

theorem Whole.publishLearningObject (h : Whole world)
    (hpublish : publishLearningObject site actor files world id expectedRevision now = .ok next) :
    Whole next ∧ next.questions = world.questions := by
  obtain ⟨old, hold, hpublish⟩ := bind_eq_ok.1 hpublish
  obtain ⟨hid, hfind⟩ := findLearningObject_ok hold
  obtain ⟨⟨version, node⟩, hpermitted, hpublish⟩ := bind_eq_ok.1 hpublish
  obtain ⟨_, hmem, hnode⟩ := permitted_ok hpermitted
  obtain ⟨_, _, hpublish⟩ := bind_eq_ok.1 hpublish
  obtain ⟨_, hpublish⟩ := unless_ok.1 hpublish
  obtain ⟨hflag, hpublish⟩ := unless_ok.1 hpublish
  obtain ⟨_, _, hpublish⟩ := bind_eq_ok.1 hpublish
  obtain ⟨_, hpublish⟩ := unless_ok.1 hpublish
  obtain rfl := Except.ok.inj hpublish
  refine ⟨h.withLearningObject (fun _ => ⟨fun _ => by simp, fun _ => rfl⟩)
    (h.kept.publish (by simp) hmem (by simpa using hflag) ?_ ?_
      (congrArg (Prod.mk ResourceKind.learningObject) hid.symm) rfl rfl), rfl⟩
  · refine (home_putLearningObject hfind (by rfl)).trans ((if_pos rfl).trans ?_)
    rw [hnode]
    rfl
  · exact fun other hne => (home_putLearningObject hfind (by rfl)).trans (if_neg hne)

theorem Whole.archiveLearningObject (h : Whole world)
    (harchive : archiveLearningObject actor world id expectedRevision now = .ok next) :
    Whole next ∧ next.questions = world.questions := by
  obtain ⟨old, hold, harchive⟩ := bind_eq_ok.1 harchive
  obtain ⟨rfl, hfind⟩ := findLearningObject_ok hold
  obtain ⟨_, _, harchive⟩ := bind_eq_ok.1 harchive
  obtain ⟨_, _, harchive⟩ := bind_eq_ok.1 harchive
  obtain rfl := Except.ok.inj harchive
  refine ⟨h.withLearningObject (fun _ => ⟨fun hc => absurd hc (by simp), fun hc => absurd rfl hc⟩)
    (h.kept.withdraw (by simp) ?_ ?_), rfl⟩
  · exact (home_putLearningObject hfind (by rfl)).trans (if_pos rfl)
  · exact fun other hne => (home_putLearningObject hfind (by rfl)).trans (if_neg hne)

end

theorem Whole.onTree {tree : Tree} (h : Whole world) (hkept : Kept tree (home world)) :
    Whole { world with tree } :=
  ⟨hkept, h.learningObjects, h.questions, h.archived, h.retired⟩

theorem Whole.exec {site : Site} {next : World} (call : Call) (h : Whole world)
    (hexec : call.exec site world = .ok next) : Whole next := by
  obtain ⟨request, actor, files, now⟩ := call
  cases request with
  | createNode id kind title parent slug description position =>
    obtain ⟨tree, htree, rfl⟩ := map_eq_ok.1 hexec
    exact h.onTree (createNode_kept h.kept htree)
  | updateNode id expectedRevision changes =>
    obtain ⟨tree, htree, rfl⟩ := map_eq_ok.1 hexec
    exact h.onTree (updateNode_kept h.kept htree)
  | moveNode id newParent expectedRevision position =>
    obtain ⟨tree, htree, rfl⟩ := map_eq_ok.1 hexec
    exact h.onTree (moveNode_kept h.kept htree)
  | setNodeStatus id expectedRevision status =>
    obtain ⟨tree, htree, rfl⟩ := map_eq_ok.1 hexec
    exact h.onTree (setNodeStatus_kept h.kept htree)
  | createLearningObject id data => exact (h.createLearningObject hexec).1
  | reviseLearningObject id expectedRevision data => exact (h.reviseLearningObject hexec).1
  | submitForReview id expectedRevision => exact (h.submitForReview hexec).1
  | rejectLearningObject id expectedRevision reviewNote => exact (h.rejectLearningObject hexec).1
  | publishLearningObject id expectedRevision => exact (h.publishLearningObject hexec).1
  | archiveLearningObject id expectedRevision => exact (h.archiveLearningObject hexec).1
  | createQuestion id data => exact h.manyQuestions (.single (createQuestion_step hexec))
  | reviseQuestion id expectedRevision data => exact h.manyQuestions (.single (reviseQuestion_step hexec))
  | submitQuestionForReview id expectedRevision => exact h.manyQuestions (.single (submitQuestionForReview_step hexec))
  | rejectQuestion id expectedRevision reviewNote => exact h.manyQuestions (.single (rejectQuestion_step hexec))
  | publishQuestion id expectedRevision => exact h.manyQuestions (.single (publishQuestion_step hexec))
  | retireQuestion id expectedRevision => exact h.manyQuestions (.single (retireQuestion_step hexec))
  | bulkQuestionAction questionIds action targetSheet =>
    exact h.manyQuestions (bulkQuestionAction_steps (fun _ _ _ _ => trivial) hexec)
  | importQuestions batch sheet questions publish metadata =>
    exact h.manyQuestions (importQuestions_steps hexec)
  | undoImport batch => exact h.manyQuestions (undoImport_steps h.questions hexec)

end

def catalogue (site : Site) : Machine World Call CatalogueError where
  init := ⟨⟨[], []⟩, [], [], []⟩
  exec call world := call.exec site world
  time := Call.now

theorem Whole.init (site : Site) : Whole (catalogue site).init := by
  refine ⟨⟨⟨nodup_nil, by simp [catalogue]⟩, by simp [Lit, catalogue], nodup_nil, ?_, ?_⟩,
    nodup_nil, nodup_nil, by simp [catalogue], by simp [catalogue]⟩
  · rintro ⟨kind, id⟩
    cases kind <;> rfl
  · rintro ⟨kind, id⟩ at' hhome
    cases kind <;> exact absurd hhome (by simp [home, catalogue, Table.find])

theorem reached_whole {site : Site} {admits : World → Call → Prop} {world : World} {now : Nat}
    (h : (catalogue site).Reaches admits world now) : Whole world :=
  h.invariant (I := fun world _ => Whole world) (Whole.init site)
    fun _ _ call _ hwhole _ _ hexec => hwhole.exec call hexec

def Shows (entries : List Entry) (key : ResourceKind × Uuid) (path : Text) (flag : Bool) : Prop :=
  ∃ entry ∈ entries, entry.key = key ∧ entry.academicPath = path ∧ entry.isDiscoverable = flag

structure Standing (nodes : List Node) (node : Node) : Prop where
  root : node.parent = none ↔ node.kind = .institution
  path : match node.parent with
    | none => node.path = nodePath node.id none
    | some id => ∃ parent ∈ nodes, parent.id = id ∧ node.path = nodePath node.id (some parent)
  line : ∃ above, Ancestors nodes node above ∧ node ∉ above ∧ node.depth = above.length ∧
    (node.isDiscoverable = true ↔
      node.status = .published ∧ ∀ ancestor ∈ above, ancestor.status = .published)

def ShownAt (nodes : List Node) (academicNode : Uuid) (path : Text) (flag : Bool) : Prop :=
  ∃ node ∈ nodes, node.id = academicNode ∧ node.path = path ∧ node.isDiscoverable = flag

structure Sound (world : World) : Prop where
  nodes : Table.Distinct Node.id world.tree.nodes
  standing : ∀ node ∈ world.tree.nodes, Standing world.tree.nodes node
  oneEntry : Table.Distinct Entry.key world.tree.entries
  nodeEntries : ∀ kind id path flag, Shows world.tree.entries (.node kind, id) path flag ↔
    ∃ node ∈ world.tree.nodes, node.id = id ∧ node.kind = kind ∧ (kind = .subject ∨ kind = .lesson) ∧
      node.isDiscoverable = true ∧ node.path = path ∧ node.isDiscoverable = flag
  contentEntries : ∀ id path flag, Shows world.tree.entries (.learningObject, id) path flag ↔
    ∃ learningObject ∈ world.learningObjects, learningObject.id = id ∧
      learningObject.workflowStatus ≠ .archived ∧ ∃ version, learningObject.publishedVersion = some version ∧
        ShownAt world.tree.nodes version.academicNode path flag
  questionEntries : ∀ id path flag, Shows world.tree.entries (.question, id) path flag ↔
    ∃ question ∈ world.questions, question.id = id ∧ question.workflowStatus ≠ .retired ∧
      ∃ version, question.publishedVersion = some version ∧
        ShownAt world.tree.nodes version.academicNode path flag

section
variable {nodes : List Node} {entries : List Entry} {node : Node} {above : List Node}
  {key : ResourceKind × Uuid} {path : Text} {flag : Bool} {world : World} {id : Uuid}

theorem Ancestors.depth (h : Ancestors nodes node above) (hshape : Shape nodes) (hmem : node ∈ nodes) :
    ∀ ancestor ∈ above, ancestor.depth < node.depth := by
  induction h with
  | root => simp
  | under hparent hfind _ ih =>
    obtain ⟨found, hfound, hid, hdepth⟩ := hshape.parent hmem hparent
    have hsame := hshape.distinct.eq hfound (find_mem hfind) hid
    rw [hsame] at hdepth
    intro ancestor hin
    rcases mem_cons.1 hin with rfl | hin
    · omega
    · have hlt := ih (find_mem hfind) ancestor hin
      omega

theorem Ancestors.lights (h : Ancestors nodes node above) (hlit : Lit nodes) (hmem : node ∈ nodes) :
    node.isDiscoverable = true ↔ node.status = .published ∧ ∀ ancestor ∈ above, ancestor.status = .published := by
  induction h with
  | root hparent =>
    rw [hlit _ hmem, litUnder, hparent]
    simp
  | under hparent hfind _ ih =>
    rw [hlit _ hmem, litUnder, hparent]
    have hflag := ih (find_mem hfind)
    simp only [flagIn, hfind, Option.any_some, Bool.and_eq_true, decide_eq_true_eq, hflag,
      forall_mem_cons]

theorem Kept.standing {tree : Tree} {home : ResourceKind × Uuid → Option Uuid} (h : Kept tree home)
    (hmem : node ∈ tree.nodes) : Standing tree.nodes node := by
  have hfits := h.shape.fits node hmem
  unfold Fits at hfits
  obtain ⟨above, habove, hdepth, _⟩ := h.shape.ancestors hmem
  refine ⟨?_, ?_, above, habove, fun hin => ?_, hdepth, habove.lights h.lit hmem⟩
  · cases hparent : node.parent with
    | none =>
      rw [hparent] at hfits
      exact ⟨fun _ => hfits.1, fun _ => rfl⟩
    | some id =>
      rw [hparent] at hfits
      exact ⟨fun hc => absurd hc (by simp), fun hc => absurd hc hfits.1⟩
  · cases hparent : node.parent with
    | none =>
      rw [hparent] at hfits
      exact hfits.2.1
    | some id =>
      rw [hparent] at hfits
      obtain ⟨_, parent, hfind, hpath, _⟩ := hfits
      exact ⟨parent, find_mem hfind, find_key hfind, hpath⟩
  · have hlt := habove.depth h.shape hmem node hin
    omega

theorem shows_iff (h : Table.Distinct Entry.key entries) :
    Shows entries key path flag ↔ shown entries key = some (path, flag) := by
  constructor
  · rintro ⟨entry, hmem, rfl, rfl, rfl⟩
    unfold shown
    rw [h.find hmem]
    rfl
  · intro hshown
    obtain ⟨entry, hfind, hview⟩ := Option.map_eq_some_iff.1 hshown
    obtain ⟨hpath, hflag⟩ := Prod.mk.inj hview
    exact ⟨entry, find_mem hfind, find_key hfind, hpath, hflag⟩

theorem viewAt_iff (h : Shape nodes) (at' : Option Uuid) :
    viewAt nodes at' = some (path, flag) ↔ ∃ id, at' = some id ∧ ShownAt nodes id path flag := by
  unfold viewAt
  rw [Option.bind_eq_some_iff]
  refine exists_congr fun id => and_congr_right fun _ => ?_
  rw [Option.map_eq_some_iff]
  constructor
  · rintro ⟨node, hfind, hview⟩
    obtain ⟨hpath, hflag⟩ := Prod.mk.inj hview
    exact ⟨node, find_mem hfind, find_key hfind, hpath, hflag⟩
  · rintro ⟨node, hmem, rfl, rfl, rfl⟩
    exact ⟨node, h.find hmem, rfl⟩

theorem homeOfQuestion_iff {question : Question} (hmarked : RetiredMarked question) :
    homeOfQuestion question = some id ↔ question.workflowStatus ≠ .retired ∧
      ∃ version, question.publishedVersion = some version ∧ version.academicNode = id := by
  unfold homeOfQuestion
  cases hpublished : question.publishedVersion with
  | none => simp
  | some version =>
    rw [← hmarked (by rw [hpublished]; simp)]
    simp

theorem homeOfLearningObject_iff {learningObject : LearningObject} (hmarked : ArchivedMarked learningObject) :
    homeOfLearningObject learningObject = some id ↔ learningObject.workflowStatus ≠ .archived ∧
      ∃ version, learningObject.publishedVersion = some version ∧ version.academicNode = id := by
  unfold homeOfLearningObject
  cases hpublished : learningObject.publishedVersion with
  | none => simp
  | some version =>
    rw [← hmarked (by rw [hpublished]; simp)]
    simp

theorem Whole.sound (h : Whole world) : Sound world where
  nodes := h.kept.shape.distinct
  standing := fun _ => h.kept.standing
  oneEntry := h.kept.indexed.distinct
  nodeEntries := by
    intro kind id path flag
    rw [shows_iff h.kept.indexed.distinct, h.kept.indexed.shows]
    show (Table.find Node.id world.tree.nodes id).bind _ = _ ↔ _
    rw [Option.bind_eq_some_iff]
    constructor
    · rintro ⟨node, hfind, hview⟩
      obtain ⟨hkind, hview⟩ := Option.ite_none_right_eq_some.1 hview
      obtain ⟨hc, hview⟩ := Option.ite_none_right_eq_some.1 hview
      obtain ⟨hpath, hflag⟩ := Prod.mk.inj (Option.some.inj hview)
      simp only [Bool.and_eq_true, isIndexed, Bool.or_eq_true, decide_eq_true_eq, hkind] at hc
      exact ⟨node, find_mem hfind, find_key hfind, hkind, hc.2, hc.1, hpath, hc.1.trans hflag⟩
    · rintro ⟨node, hmem, rfl, rfl, hindexed, hflag, rfl, hsame⟩
      refine ⟨node, h.kept.shape.find hmem, ?_⟩
      rw [if_pos rfl, nodeView, if_pos, ← hsame, hflag]
      simpa [isIndexed, hflag] using hindexed
  contentEntries := by
    intro id path flag
    rw [shows_iff h.kept.indexed.distinct, h.kept.indexed.shows, expected_attached _ _ (by simp),
      viewAt_iff h.kept.shape]
    constructor
    · rintro ⟨at', hhome, hshown⟩
      obtain ⟨row, hfind, hrow⟩ := Option.bind_eq_some_iff.1 hhome
      obtain ⟨hstatus, version, hpublished, rfl⟩ :=
        (homeOfLearningObject_iff (h.archived row (find_mem hfind))).1 hrow
      exact ⟨row, find_mem hfind, find_key hfind, hstatus, version, hpublished, hshown⟩
    · rintro ⟨row, hmem, rfl, hstatus, version, hpublished, hshown⟩
      refine ⟨version.academicNode, ?_, hshown⟩
      rw [home_learningObject (h.learningObjects.find hmem), homeOfLearningObject_iff (h.archived row hmem)]
      exact ⟨hstatus, version, hpublished, rfl⟩
  questionEntries := by
    intro id path flag
    rw [shows_iff h.kept.indexed.distinct, h.kept.indexed.shows, expected_attached _ _ (by simp),
      viewAt_iff h.kept.shape]
    constructor
    · rintro ⟨at', hhome, hshown⟩
      obtain ⟨row, hfind, hrow⟩ := Option.bind_eq_some_iff.1 hhome
      obtain ⟨hstatus, version, hpublished, rfl⟩ :=
        (homeOfQuestion_iff (h.retired row (find_mem hfind))).1 hrow
      exact ⟨row, find_mem hfind, find_key hfind, hstatus, version, hpublished, hshown⟩
    · rintro ⟨row, hmem, rfl, hstatus, version, hpublished, hshown⟩
      refine ⟨version.academicNode, ?_, hshown⟩
      rw [home_question (h.questions.find hmem), homeOfQuestion_iff (h.retired row hmem)]
      exact ⟨hstatus, version, hpublished, rfl⟩

end

/-- The tree and the index agree in every state that any calls lead to. -/
theorem tree_and_index_agree {site : Site} {world : World} {now : Nat}
    (h : (catalogue site).Reaches Machine.Always world now) : Sound world :=
  (reached_whole h).sound

def plainSite : Site := ⟨⟨id, id, id, id⟩, false⟩

def administrator : Actor where
  id := 1
  isContentAdministrator := true
  isAssessmentAdministrator := true
  canManageHierarchy := fun _ => true
  canCreateContent := fun _ => true
  canReviewContent := fun _ => true
  canPublishContent := fun _ => true
  canCreateAssessments := fun _ => true
  canReviewAssessments := fun _ => true
  canPublishAssessments := fun _ => true

def university : Uuid := ⟨['u'], by decide⟩

def academy : Uuid := ⟨['a'], by decide⟩

def anatomy : Uuid := ⟨['s'], by decide⟩

def lesson : Uuid := ⟨['l'], by decide⟩

def sheet : Uuid := ⟨['p'], by decide⟩

def quiz : Uuid := ⟨['q'], by decide⟩

def slides : ManagedFile := ⟨⟨['f'], by decide⟩, 1, .pdf, .ready, .clean⟩

def ask (request : Request) : Call := ⟨request, administrator, fun _ => some slides, 0⟩

def openNode (id : Uuid) (kind : Kind) (parent : Option Uuid) : List Call :=
  [ask (.createNode id kind id.text parent none [] 0), ask (.setNodeStatus id 1 .published)]

def sheetInput : LearningObjectInput where
  academicNode := lesson
  contentType := .pdf
  title := "Bones".toList
  summary := []
  language := "en".toList
  availableFrom := none
  availableUntil := none
  primaryFile := some slides
  companions := []
  position := 0

def quizInput : QuestionInput where
  academicNode := lesson
  questionType := .trueFalse
  prompt := "Is it a bone?".toList
  options := [⟨"yes".toList, true⟩, ⟨"no".toList, false⟩]
  explanation := []
  difficulty := .easy
  language := "en".toList
  metadata := "{}".toList
  sourceLearningObject := some sheet
  topic := []
  sourcePage := some 1
  importBatch := none

/-- A sheet and a question are published in a lesson, and its subject then moves to an academy that
is not open yet. -/
def movedSubject : List Call :=
  openNode university .institution none ++ openNode anatomy .subject (some university) ++
    openNode lesson .lesson (some anatomy) ++
  [ask (.createLearningObject sheet sheetInput), ask (.submitForReview sheet 1),
    ask (.publishLearningObject sheet 2), ask (.createQuestion quiz quizInput),
    ask (.submitQuestionForReview quiz 1), ask (.publishQuestion quiz 2),
    ask (.createNode academy .institution academy.text none none [] 0),
    ask (.moveNode anatomy (some academy) 2 0)]

theorem moved_subject_sound : Sound ((catalogue plainSite).outcome movedSubject) :=
  tree_and_index_agree (.of_accepts (by decide +kernel) (by decide +kernel) (Machine.admitted_always _ _))

example : ((catalogue plainSite).outcome movedSubject).tree.entries.map
    (fun entry => (entry.resourceKind, entry.academicPath, entry.isDiscoverable)) =
      [(.learningObject, "/a/s/l/".toList, false), (.question, "/a/s/l/".toList, false)] := by
  decide +kernel

end LockIn.Education
