import LockIn.Knowledge.Artifacts

/-!
# Revisions, tombstones and redelivery

A run keeps beside the notebook the saves that changed an artifact and the answers to them, the
last one first.  A save is answered from its receipt as long as the artifact is not deleted after
it.  When the receipt is gone the artifact has gone past the revision that the save expects, so
the save is refused.
-/

namespace LockIn.Knowledge

open List Table

variable {site : Site} {notebook next : Notebook} {publication : Publication site} {user id now : Nat}
  {data : Data} {item before after : Artifact} {response : Response}

def revisionOf (notebook : Notebook) (id : Nat) : Nat :=
  ((findArtifact notebook id).map (·.revision)).getD 0

def isDeleted (notebook : Notebook) (id : Nat) : Bool := (findArtifact notebook id).any (·.deleted)

def sentContent (data : Data) : Content := if data.deleted then .empty else data.content

/-- The artifact of a save is at its next revision, which is the one after the revision the save
expects, and every other artifact is what it was. -/
structure Advanced (notebook next : Notebook) (mutation : Mutation) : Prop where
  saved : ∃ after, findArtifact next mutation.artifact = some after ∧
    after.revision = revisionOf notebook mutation.artifact + 1 ∧
    after.content = sentContent mutation.data ∧ after.deleted = mutation.data.deleted
  expected : mutation.data.expectedRevision = revisionOf notebook mutation.artifact
  tombstone : isDeleted notebook mutation.artifact = true → mutation.data.deleted = true
  others : ∀ id, id ≠ mutation.artifact → findArtifact next id = findArtifact notebook id

theorem checkArtifact_ok (h : checkArtifact before data = .ok item) :
    item = before ∧ before.revision = data.expectedRevision ∧
      (before.deleted = true → data.deleted = true) := by
  unfold checkArtifact at h
  split at h
  · simp at h
  rename_i hrevision
  split at h
  · simp at h
  rename_i hdeleted
  split at h
  · simp at h
  refine ⟨(Except.ok.inj h).symm, not_not.1 (not_or.1 hrevision).1, ?_⟩
  intro hbefore
  rw [hbefore] at hdeleted
  simpa using hdeleted

theorem newArtifact_ok (h : newArtifact notebook user publication id data now = .ok item) :
    data.expectedRevision = 0 ∧ item.id = id ∧ item.revision = 0 := by
  unfold newArtifact at h
  split at h
  · simp at h
  rename_i hexpected
  split at h
  · simp at h
  split at h
  · simp at h
  split at h
  · simp at h
  obtain rfl := Except.ok.inj h
  exact ⟨not_not.1 hexpected, rfl, rfl⟩

theorem startFrom_ok (h : startFrom notebook user publication id data now = .ok item) :
    item.id = id ∧ item.revision = revisionOf notebook id ∧
      data.expectedRevision = revisionOf notebook id ∧
      (isDeleted notebook id = true → data.deleted = true) := by
  unfold startFrom at h
  cases hfind : findArtifact notebook id with
  | some found =>
    rw [hfind] at h
    simp only at h
    split at h
    · simp at h
    obtain ⟨rfl, hrevision, hdeleted⟩ := checkArtifact_ok h
    have hid : item.id = id := find_key hfind
    refine ⟨hid, ?_, ?_, ?_⟩
    · simp only [revisionOf, hfind, Option.map_some, Option.getD_some]
    · simp only [revisionOf, hfind, Option.map_some, Option.getD_some]
      exact hrevision.symm
    · simp only [isDeleted, hfind, Option.any_some]
      exact hdeleted
  | none =>
    rw [hfind] at h
    obtain ⟨hexpected, hid, hrevision⟩ := newArtifact_ok h
    refine ⟨hid, ?_, ?_, ?_⟩
    · simp only [revisionOf, hfind, Option.map_none, Option.getD_none]
      exact hrevision
    · simp only [revisionOf, hfind, Option.map_none, Option.getD_none]
      exact hexpected
    · simp [isDeleted, hfind]

theorem findArtifact_put_self (item : Artifact) (receipts : List Receipt) :
    findArtifact ⟨putArtifact notebook item, receipts⟩ item.id = some item := by
  unfold putArtifact
  cases hfind : findArtifact notebook item.id with
  | some found => exact find_put_self hfind
  | none =>
    show Table.find Artifact.id (notebook.artifacts ++ [item]) item.id = some item
    rw [find_append]
    have hnone : Table.find Artifact.id notebook.artifacts item.id = none := hfind
    rw [hnone]
    simp [Table.find]

theorem findArtifact_put_of_ne (item : Artifact) (receipts : List Receipt) (hne : id ≠ item.id) :
    findArtifact ⟨putArtifact notebook item, receipts⟩ id = findArtifact notebook id := by
  unfold putArtifact
  cases hfind : findArtifact notebook item.id with
  | some found => exact find_put_of_ne hne
  | none =>
    show Table.find Artifact.id (notebook.artifacts ++ [item]) id = findArtifact notebook id
    rw [find_append]
    have hother : Table.find Artifact.id [item] id = none := by
      simp [Table.find, hne.symm]
    rw [hother, Option.or_none]
    rfl

/-- The gates that a save passes whatever the notebook holds. -/
structure Admitted (site : Site) (mutation : Mutation) : Prop where
  enabled : site.enabled = true
  account : mutation.data.accountId = mutation.user
  tool : ∀ publication : Publication site, publication.document = mutation.document →
    toolFlags publication mutation.data.kind = true

theorem toolFlags_eq {other : Publication site} (h : other.document = publication.document)
    (kind : Kind) : toolFlags other kind = toolFlags publication kind := by
  have hsheet : (site.version other.version).sheet = (site.version publication.version).sheet := by
    rw [other.onSheet, publication.onSheet, h]
  unfold toolFlags
  rw [hsheet]

def Mutation.digest (site : Site) (mutation : Mutation) : Nat :=
  site.digest mutation.artifact mutation.document mutation.data

def receiptOf (site : Site) (mutation : Mutation) (response : Response) : Receipt :=
  ⟨mutation.user, mutation.data.mutationId, mutation.digest site, { response with content := none }⟩

/-- A save that is new changes its artifact. -/
structure Applied (site : Site) (notebook next : Notebook) (mutation : Mutation)
    (response : Response) : Prop where
  advanced : Advanced notebook next mutation
  fresh : findReceipt notebook mutation.user mutation.data.mutationId = none
  receipts : next.receipts = (if mutation.data.deleted then
      notebook.receipts.filter fun row => !(row.owner = mutation.user && row.response.id = mutation.artifact)
    else notebook.receipts) ++ [receiptOf site mutation response]
  id : response.id = mutation.artifact
  deleted : response.deleted = mutation.data.deleted
  content : response.content = some (sentContent mutation.data)

/-- A save with a receipt is answered from it. -/
def Replays (site : Site) (notebook next : Notebook) (mutation : Mutation) (response : Response) :
    Prop :=
  next = notebook ∧ ∃ receipt, findReceipt notebook mutation.user mutation.data.mutationId = some receipt ∧
    receipt.digest = mutation.digest site ∧ response = replayed receipt mutation.data

variable {call : Call site} {receipt : Receipt}

theorem exec_ok (h : call.exec notebook = .ok (next, response)) :
    Admitted site call.mutation ∧
      (Replays site notebook next call.mutation response ∨
        Applied site notebook next call.mutation response) := by
  obtain ⟨user, publication, id, data, now⟩ := call
  unfold Call.exec saveArtifact at h
  split at h
  · simp at h
  rename_i henabled
  split at h
  · simp at h
  rename_i haccount
  split at h
  · simp at h
  rename_i htool
  refine ⟨⟨by simpa using henabled, not_not.1 haccount, ?_⟩, ?_⟩
  · intro other hother
    rw [toolFlags_eq hother]
    show toolFlags publication data.kind = true
    simpa using htool
  cases hreceipt : findReceipt notebook user data.mutationId with
  | some receipt =>
    rw [hreceipt] at h
    simp only at h
    split at h
    · simp at h
    rename_i hdigest
    obtain ⟨rfl, rfl⟩ := Prod.mk.inj (Except.ok.inj h)
    exact .inl ⟨rfl, receipt, hreceipt, not_not.1 hdigest, rfl⟩
  | none =>
    rw [hreceipt] at h
    obtain ⟨item, hstart, hrest⟩ := Outcome.bind_eq_ok.1 h
    obtain ⟨_, _, hsave⟩ := Outcome.bind_eq_ok.1 hrest
    obtain ⟨rfl, rfl⟩ := Prod.mk.inj (Except.ok.inj hsave)
    obtain ⟨rfl, hrevision, hexpected, hdeleted⟩ := startFrom_ok hstart
    right
    refine ⟨⟨⟨revised item data now, ?_, ?_, rfl, rfl⟩, hexpected, hdeleted, ?_⟩, hreceipt, rfl, rfl, rfl, rfl⟩
    · exact findArtifact_put_self (revised item data now) _
    · show item.revision + 1 = revisionOf notebook item.id + 1
      rw [hrevision]
    · intro other hne
      exact findArtifact_put_of_ne (revised item data now) _ hne

/-- A save that changed its artifact, and the answer to it. -/
structure Delivery where
  mutation : Mutation
  response : Response

def Delivery.deletes (delivery : Delivery) (id : Nat) : Prop :=
  delivery.mutation.artifact = id ∧ delivery.mutation.data.deleted = true

def knowledge (site : Site) : Machine (Notebook × List Delivery) (Call site) KnowledgeError where
  init := (⟨[], []⟩, [])
  exec call run := (fun answer =>
      (answer.1, if answer.1.artifacts = run.1.artifacts then run.2 else ⟨call.mutation, answer.2⟩ :: run.2)) <$>
    call.exec run.1
  time := Call.now

def SameSave (site : Site) (mutation other : Mutation) : Prop :=
  mutation.user = other.user ∧ mutation.data.mutationId = other.data.mutationId ∧
    mutation.digest site = other.digest site

structure Sound (site : Site) (run : Notebook × List Delivery) : Prop where
  /-- A save that is not refused was delivered before and changes nothing, or advances its artifact. -/
  saves : ∀ (call : Call site) next response, call.exec run.1 = .ok (next, response) →
    (next = run.1 ∧ ∃ delivery ∈ run.2, SameSave site delivery.mutation call.mutation) ∨
      Advanced run.1 next call.mutation
  tombstones : ∀ delivery ∈ run.2, delivery.mutation.data.deleted = true →
    isDeleted run.1 delivery.mutation.artifact = true
  answered : ∀ delivery ∈ run.2, delivery.response.content = some (sentContent delivery.mutation.data)
  /-- A save delivered again changes no artifact, and is answered as before unless the artifact was
  deleted since. -/
  redelivered : ∀ later delivery earlier, run.2 = later ++ delivery :: earlier →
    ∀ call : Call site, call.mutation = delivery.mutation →
      (∀ next response, call.exec run.1 = .ok (next, response) → next.artifacts = run.1.artifacts) ∧
        ((∀ other ∈ later, ¬ other.deletes delivery.mutation.artifact) →
          call.exec run.1 = .ok (run.1, delivery.response))

structure Kept (site : Site) (run : Notebook × List Delivery) : Prop where
  admitted : ∀ delivery ∈ run.2, Admitted site delivery.mutation
  past : ∀ delivery ∈ run.2,
    delivery.mutation.data.expectedRevision < revisionOf run.1 delivery.mutation.artifact
  tombstones : ∀ delivery ∈ run.2, delivery.mutation.data.deleted = true →
    isDeleted run.1 delivery.mutation.artifact = true
  answered : ∀ delivery ∈ run.2, delivery.response.id = delivery.mutation.artifact ∧
    delivery.response.deleted = delivery.mutation.data.deleted ∧
    delivery.response.content = some (sentContent delivery.mutation.data)
  delivered : ∀ receipt ∈ run.1.receipts, ∃ delivery ∈ run.2,
    delivery.mutation.user = receipt.owner ∧ delivery.mutation.data.mutationId = receipt.mutationId ∧
      delivery.mutation.digest site = receipt.digest
  receipts : ∀ later delivery earlier, run.2 = later ++ delivery :: earlier →
    (∀ other ∈ later, ¬ other.deletes delivery.mutation.artifact) →
      findReceipt run.1 delivery.mutation.user delivery.mutation.data.mutationId =
        some (receiptOf site delivery.mutation delivery.response)

theorem kept_empty : Kept site (⟨[], []⟩, []) where
  admitted := by simp
  past := by simp
  tombstones := by simp
  answered := by simp
  delivered := by simp
  receipts := by
    intro later delivery earlier h
    simp at h

theorem find?_filter_of_find? {rows : List Receipt} {row : Receipt} {p q : Receipt → Bool}
    (hfind : rows.find? p = some row) (hq : q row = true) : (rows.filter q).find? p = some row := by
  induction rows with
  | nil => simp at hfind
  | cons head rest ih =>
    by_cases hp : p head = true
    · rw [find?_cons_of_pos hp] at hfind
      obtain rfl := Option.some.inj hfind
      rw [filter_cons_of_pos hq, find?_cons_of_pos hp]
    · rw [find?_cons_of_neg hp] at hfind
      by_cases hhead : q head = true
      · rw [filter_cons_of_pos hhead, find?_cons_of_neg hp]
        exact ih hfind
      · rw [filter_cons_of_neg hhead]
        exact ih hfind

theorem Applied.findReceipt_self {mutation : Mutation}
    (h : Applied site notebook next mutation response) :
    findReceipt next mutation.user mutation.data.mutationId = some (receiptOf site mutation response) := by
  have hfresh := find?_eq_none.1 h.fresh
  unfold findReceipt
  rw [h.receipts, find?_append]
  have hnone : (if mutation.data.deleted then
      notebook.receipts.filter fun row => !(row.owner = mutation.user && row.response.id = mutation.artifact)
    else notebook.receipts).find? (fun row =>
      row.owner = mutation.user && row.mutationId = mutation.data.mutationId) = none := by
    rw [find?_eq_none]
    intro row hrow
    split at hrow
    · exact hfresh row (mem_filter.1 hrow).1
    · exact hfresh row hrow
  rw [hnone, Option.none_or]
  simp [receiptOf]

theorem Applied.findReceipt_of_find {mutation : Mutation} {mutationId : Nat}
    (h : Applied site notebook next mutation response)
    (hfind : findReceipt notebook user mutationId = some receipt)
    (hkept : mutation.data.deleted = true → receipt.response.id ≠ mutation.artifact) :
    findReceipt next user mutationId = some receipt := by
  unfold findReceipt
  rw [h.receipts, find?_append]
  have hold : (if mutation.data.deleted then
      notebook.receipts.filter fun row => !(row.owner = mutation.user && row.response.id = mutation.artifact)
    else notebook.receipts).find? (fun row => row.owner = user && row.mutationId = mutationId) =
      some receipt := by
    split
    · rename_i hdeleted
      exact find?_filter_of_find? hfind (by simp [hkept hdeleted])
    · exact hfind
  rw [hold, Option.some_or]

theorem Advanced.revisionOf_le {mutation : Mutation} (h : Advanced notebook next mutation) (id : Nat) :
    revisionOf notebook id ≤ revisionOf next id := by
  by_cases hid : id = mutation.artifact
  · subst hid
    obtain ⟨after, hafter, hrevision, _⟩ := h.saved
    have hnext : revisionOf next mutation.artifact = after.revision := by
      simp only [revisionOf, hafter, Option.map_some, Option.getD_some]
    omega
  · unfold revisionOf
    rw [h.others id hid]

theorem Advanced.isDeleted {mutation : Mutation} (h : Advanced notebook next mutation)
    (hdeleted : isDeleted notebook id = true) : Knowledge.isDeleted next id = true := by
  by_cases hid : id = mutation.artifact
  · subst hid
    obtain ⟨after, hafter, _, _, hafterDeleted⟩ := h.saved
    unfold Knowledge.isDeleted
    rw [hafter, Option.any_some, hafterDeleted]
    exact h.tombstone hdeleted
  · unfold Knowledge.isDeleted
    rw [h.others id hid]
    exact hdeleted

theorem Advanced.artifacts_ne {mutation : Mutation} (h : Advanced notebook next mutation) :
    next.artifacts ≠ notebook.artifacts := by
  intro heq
  obtain ⟨after, hafter, hrevision, _⟩ := h.saved
  have hsame : findArtifact next mutation.artifact = findArtifact notebook mutation.artifact := by
    unfold findArtifact
    rw [heq]
  have hbefore : revisionOf notebook mutation.artifact = after.revision := by
    simp only [revisionOf, ← hsame, hafter, Option.map_some, Option.getD_some]
  omega

theorem Kept.applied {log : List Delivery} {mutation : Mutation} (h : Kept site (notebook, log))
    (hadmitted : Admitted site mutation) (happlied : Applied site notebook next mutation response) :
    Kept site (next, ⟨mutation, response⟩ :: log) := by
  have hadvanced := happlied.advanced
  constructor
  · intro delivery hmem
    rcases mem_cons.1 hmem with rfl | hold
    · exact hadmitted
    · exact h.admitted delivery hold
  · intro delivery hmem
    rcases mem_cons.1 hmem with rfl | hold
    · obtain ⟨after, hafter, hrevision, _⟩ := hadvanced.saved
      have hexpected := hadvanced.expected
      have hnext : revisionOf next mutation.artifact = after.revision := by
        simp only [revisionOf, hafter, Option.map_some, Option.getD_some]
      show mutation.data.expectedRevision < revisionOf next mutation.artifact
      omega
    · have hlt := h.past delivery hold
      exact lt_of_lt_of_le hlt (hadvanced.revisionOf_le _)
  · intro delivery hmem hdeleted
    rcases mem_cons.1 hmem with rfl | hold
    · obtain ⟨after, hafter, _, _, hafterDeleted⟩ := hadvanced.saved
      show isDeleted next mutation.artifact = true
      unfold isDeleted
      rw [hafter, Option.any_some, hafterDeleted]
      exact hdeleted
    · exact hadvanced.isDeleted (h.tombstones delivery hold hdeleted)
  · intro delivery hmem
    rcases mem_cons.1 hmem with rfl | hold
    · exact ⟨happlied.id, happlied.deleted, happlied.content⟩
    · exact h.answered delivery hold
  · intro receipt hmem
    rw [happlied.receipts] at hmem
    rcases mem_append.1 hmem with hold | hnew
    · have hthere : receipt ∈ notebook.receipts := by
        split at hold
        · exact (mem_filter.1 hold).1
        · exact hold
      obtain ⟨delivery, hdelivery, hsame⟩ := h.delivered receipt hthere
      exact ⟨delivery, mem_cons_of_mem _ hdelivery, hsame⟩
    · obtain rfl := mem_singleton.1 hnew
      exact ⟨_, mem_cons_self, rfl, rfl, rfl⟩
  · intro later delivery earlier hlog hkept
    cases later with
    | nil =>
      obtain ⟨rfl, rfl⟩ := List.cons.inj hlog
      exact happlied.findReceipt_self
    | cons newest later =>
      obtain ⟨rfl, hrest⟩ := List.cons.inj hlog
      have hold := h.receipts later delivery earlier hrest
        fun other hother => hkept other (mem_cons_of_mem _ hother)
      refine happlied.findReceipt_of_find hold ?_
      intro hdeleted hid
      have hmem : delivery ∈ log := by
        rw [hrest]
        exact mem_append_right _ mem_cons_self
      have hartifact := (h.answered delivery hmem).1
      exact hkept _ mem_cons_self ⟨hid.symm.trans hartifact, hdeleted⟩

variable {run : Notebook × List Delivery}

theorem Kept.exec (h : Kept site run) (hexec : call.exec run.1 = .ok (next, response)) :
    Kept site (next, if next.artifacts = run.1.artifacts then run.2
      else ⟨call.mutation, response⟩ :: run.2) := by
  obtain ⟨hadmitted, hreplays | happlied⟩ := exec_ok hexec
  · rw [hreplays.1, if_pos rfl]
    exact h
  · rw [if_neg happlied.advanced.artifacts_ne]
    exact h.applied hadmitted happlied

theorem reached_kept (h : (knowledge site).Reaches Machine.Always run now) : Kept site run := by
  refine h.invariant (I := fun run _ => Kept site run) kept_empty ?_
  intro run now call after hkept _ _ hexec
  obtain ⟨⟨next, response⟩, hanswer, rfl⟩ := Outcome.map_eq_ok.1 hexec
  exact hkept.exec hanswer

theorem exec_replays {mutation : Mutation} (hcall : call.mutation = mutation)
    (hadmitted : Admitted site mutation)
    (hreceipt : findReceipt notebook mutation.user mutation.data.mutationId = some receipt)
    (hdigest : receipt.digest = mutation.digest site) :
    call.exec notebook = .ok (notebook, replayed receipt mutation.data) := by
  subst hcall
  obtain ⟨user, publication, id, data, now⟩ := call
  have htool : toolFlags publication data.kind = true := hadmitted.tool publication rfl
  have haccount : data.accountId = user := hadmitted.account
  have hfind : findReceipt notebook user data.mutationId = some receipt := hreceipt
  have hsame : receipt.digest = site.digest id publication.document data := hdigest
  unfold Call.exec saveArtifact
  simp only [hadmitted.enabled, haccount, htool, hfind, hsame, Bool.not_true, Bool.false_eq_true, if_false,
    ne_eq, not_true_eq_false]
  rfl

theorem Kept.redelivered (h : Kept site run) {later earlier : List Delivery} {delivery : Delivery}
    (hlog : run.2 = later ++ delivery :: earlier) (hcall : call.mutation = delivery.mutation) :
    (∀ next response, call.exec run.1 = .ok (next, response) → next.artifacts = run.1.artifacts) ∧
      ((∀ other ∈ later, ¬ other.deletes delivery.mutation.artifact) →
        call.exec run.1 = .ok (run.1, delivery.response)) := by
  have hmem : delivery ∈ run.2 := by
    rw [hlog]
    exact mem_append_right _ mem_cons_self
  constructor
  · intro next response hexec
    obtain ⟨_, hreplays | happlied⟩ := exec_ok hexec
    · rw [hreplays.1]
    · have hpast := h.past delivery hmem
      have hexpected := happlied.advanced.expected
      rw [hcall] at hexpected
      omega
  · intro hkept
    rw [exec_replays hcall (h.admitted delivery hmem) (h.receipts later delivery earlier hlog hkept) rfl]
    obtain ⟨_, hdeleted, hcontent⟩ := h.answered delivery hmem
    have hsame : replayed (receiptOf site delivery.mutation delivery.response) delivery.mutation.data =
        delivery.response := by
      show { delivery.response with
        content := some (if delivery.response.deleted then .empty else delivery.mutation.data.content) } =
          delivery.response
      rw [hdeleted]
      exact congrArg (fun content => { delivery.response with content := content }) hcontent.symm
    rw [hsame]

/-- In every run artifacts never come back and never skip a revision, and a save delivered again
changes nothing. -/
theorem artifacts_never_skip {run : Notebook × List Delivery} {now : Nat}
    (h : (knowledge site).Reaches Machine.Always run now) : Sound site run := by
  have hkept := reached_kept h
  constructor
  · intro call next response hexec
    obtain ⟨_, ⟨hnext, receipt, hreceipt, hdigest, _⟩ | happlied⟩ := exec_ok hexec
    · left
      obtain ⟨delivery, hmem, huser, hmutation, hsame⟩ :=
        hkept.delivered receipt (mem_of_find?_eq_some hreceipt)
      have hrow := find?_some hreceipt
      simp only [Bool.and_eq_true, decide_eq_true_eq] at hrow
      exact ⟨hnext, delivery, hmem, huser.trans hrow.1, hmutation.trans hrow.2, hsame.trans hdigest⟩
    · exact .inr happlied.advanced
  · exact hkept.tombstones
  · intro delivery hmem
    exact (hkept.answered delivery hmem).2.2
  · intro later delivery earlier hlog call hcall
    exact hkept.redelivered hlog hcall

/-- One sheet, its version 3 and its document 4. -/
def plainSite : Site where
  enabled := true
  toolSettings := fun _ => none
  version := fun number => ⟨1, "Bones".toList, number⟩
  document := fun _ => ⟨1, "university".toList⟩
  digest := fun artifact document data => artifact + 10 * document + 100 * data.mutationId

def bones : Publication plainSite := ⟨4, 3, 5, fun _ => some 20, [], rfl⟩

def notes (mutationId expectedRevision : Nat) (deleted : Bool) : Data :=
  ⟨1, mutationId, expectedRevision, 3, 5, .summary, "My bones".toList, 1, 2, ⟨[], [], "Ulna".toList⟩, deleted⟩

def createdTwice : List (Call plainSite) :=
  [⟨1, bones, 9, notes 1 0 false, 10⟩, ⟨1, bones, 9, notes 1 0 false, 20⟩,
    ⟨1, bones, 9, notes 2 1 false, 30⟩, ⟨1, bones, 9, notes 3 2 true, 40⟩]

theorem created_twice_sound : Sound plainSite ((knowledge plainSite).outcome createdTwice) :=
  artifacts_never_skip (.of_accepts (by decide +kernel) (by decide +kernel) (Machine.admitted_always _ _))

end LockIn.Knowledge
