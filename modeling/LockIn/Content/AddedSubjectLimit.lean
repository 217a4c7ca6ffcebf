import LockIn.Content.AddedSubjects

/-!
# The limit of added subjects

What a student added is stored for good, but the limit is checked against what grants access when
a subject is added.  A subject added while another is retired brings the student over the limit
when that one returns.  As long as additions stay within the limit of what is stored, and a swap
replaces a subject that still grants access, the limit holds in every state.
-/

namespace LockIn.Content.AddedSubjects

open List Outcome Table
open Whitespace (Text)

def subjectCohort (directory : Directory) (subject : Nat) : Option Nat :=
  (Table.find CatalogSubject.id directory.subjects subject).map CatalogSubject.cohort

def storedAdditions (state : State) (user cohort : Nat) : List AddedCatalogSubject :=
  state.additions.filter fun row =>
    row.user = user && subjectCohort state.directory row.subject = some cohort

def addedIds (state : State) (user : Nat) : List Nat :=
  (addedSubjects state user).map CatalogSubject.id

variable {directory : Directory} {materialSlug : String} {note adminNote : Text}
  {now request actor : Nat} {approve : Bool} {item : AddedSubjectChangeRequest}

section
variable {state next : State} {user : Nat} {subject other : CatalogSubject}

theorem mem_addableSubjects : subject ∈ addableSubjects state user ↔
    ∃ cohort, activeCohort state user = some cohort ∧ canAddSubjects state user = true ∧
      subject ∈ state.directory.subjects ∧
      isSource state.directory cohort.program.id subject = true := by
  unfold addableSubjects
  cases hactive : activeCohort state user with
  | none => simp
  | some cohort =>
    by_cases hcan : canAddSubjects state user = true
    · simp [hcan]
    · simp [hcan]

theorem addableSubjects_sublist (state : State) (user : Nat) :
    (addableSubjects state user).Sublist state.directory.subjects := by
  unfold addableSubjects
  cases activeCohort state user with
  | none => exact nil_sublist _
  | some cohort =>
    by_cases hcan : canAddSubjects state user = true
    · simp only [hcan, if_true]
      exact filter_sublist
    · simp [hcan]

theorem addedIds_nodup (state : State) (user : Nat) : (addedIds state user).Nodup := by
  have hsublist : (addedSubjects state user).Sublist state.directory.subjects :=
    filter_sublist.trans (addableSubjects_sublist state user)
  exact state.directory.subjectIds.sublist (hsublist.map CatalogSubject.id)

theorem length_addedIds (state : State) (user : Nat) :
    (addedIds state user).length = (addedSubjects state user).length := length_map _

theorem hasAdded_iff : hasAdded state user subject = true ↔ ⟨user, subject.id⟩ ∈ state.additions := by
  unfold hasAdded
  rw [List.any_eq_true]
  constructor
  · rintro ⟨⟨owner, row⟩, hrow, hsame⟩
    simp only [Bool.and_eq_true, decide_eq_true_eq] at hsame
    obtain ⟨rfl, rfl⟩ := hsame
    exact hrow
  · intro hrow
    exact ⟨_, hrow, by simp⟩

theorem mem_addedSubjects : subject ∈ addedSubjects state user ↔
    subject ∈ addableSubjects state user ∧ ⟨user, subject.id⟩ ∈ state.additions := by
  unfold addedSubjects
  rw [mem_filter, hasAdded_iff]

theorem isSource_cohort {program : Nat} (h : isSource state.directory program subject = true) :
    ∃ cohort ∈ state.directory.cohorts, cohort.id = subject.cohort ∧
      cohort.program.id = program ∧ cohort.code = sourceYear := by
  unfold isSource at h
  rw [Bool.and_eq_true, Option.any_eq_true] at h
  obtain ⟨_, cohort, hfind, hcohort⟩ := h
  simp only [Bool.and_eq_true, decide_eq_true_eq] at hcohort
  exact ⟨cohort, find_mem hfind, find_key hfind, hcohort.1.2, hcohort.2⟩

theorem addable_cohort (hsubject : subject ∈ addableSubjects state user)
    (hother : other ∈ addableSubjects state user) : other.cohort = subject.cohort := by
  obtain ⟨cohort, hactive, _, _, hsource⟩ := mem_addableSubjects.1 hsubject
  obtain ⟨cohort', hactive', _, _, hsource'⟩ := mem_addableSubjects.1 hother
  obtain rfl : cohort = cohort' := Option.some.inj (hactive.symm.trans hactive')
  obtain ⟨first, hfirst, hid, hprogram, hcode⟩ := isSource_cohort hsource
  obtain ⟨second, hsecond, hid', hprogram', hcode'⟩ := isSource_cohort hsource'
  have hsame : second = first := by
    apply state.directory.cohortCodes.eq hsecond hfirst
    rw [hprogram, hprogram', hcode, hcode']
  rw [← hid, ← hid', hsame]

theorem subjectCohort_of_mem (h : subject ∈ directory.subjects) :
    subjectCohort directory subject.id = some subject.cohort := by
  unfold subjectCohort
  rw [directory.subjectIds.find h]
  rfl

theorem subjectCohort_addable (h : subject ∈ addableSubjects state user) :
    subjectCohort state.directory subject.id = some subject.cohort :=
  subjectCohort_of_mem ((addableSubjects_sublist state user).subset h)

theorem length_addedSubjects_le
    (hsubject : subject ∈ addedSubjects state user) :
    (addedSubjects state user).length ≤ (storedAdditions state user subject.cohort).length := by
  have hsubset : (addedSubjects state user).map (fun other => AddedCatalogSubject.mk user other.id) ⊆
      storedAdditions state user subject.cohort := by
    intro row hrow
    obtain ⟨other, hother, rfl⟩ := mem_map.1 hrow
    obtain ⟨haddable, hstored⟩ := mem_addedSubjects.1 hother
    refine mem_filter.2 ⟨hstored, ?_⟩
    have hcohort : other.cohort = subject.cohort :=
      addable_cohort (mem_addedSubjects.1 hsubject).1 haddable
    simp only [decide_true, Bool.true_and, subjectCohort_addable haddable, hcohort]
  have hnodup : ((addedSubjects state user).map
      (fun other => AddedCatalogSubject.mk user other.id)).Nodup := by
    have hids := addedIds_nodup state user
    have hmap : (addedSubjects state user).map (fun other => AddedCatalogSubject.mk user other.id) =
        ((addedSubjects state user).map CatalogSubject.id).map (AddedCatalogSubject.mk user) := by
      rw [map_map]
      rfl
    rw [hmap]
    exact hids.map fun _ _ h => (AddedCatalogSubject.mk.inj h).2
  have hle := (subperm_of_subset hnodup hsubset).length_le
  rwa [length_map] at hle

end

section
variable {state next : State} {user : Nat}

theorem addSubject_ok (h : addSubject user materialSlug state = .ok next) :
    next = state ∨ ∃ subject,
      (addableSubjects state user).find? (·.materialSlug = materialSlug) = some subject ∧
        ⟨user, subject.id⟩ ∉ state.additions ∧
        (addedSubjects state user).length < addedSubjectLimit ∧
        next = { state with additions := state.additions ++ [⟨user, subject.id⟩] } := by
  unfold addSubject at h
  split at h
  · cases h
  split at h
  · cases h
  next subject hfind =>
  split at h
  · exact .inl (Except.ok.inj h).symm
  next hnew =>
  split at h
  · cases h
  next hbelow =>
  have haddable : subject ∈ addableSubjects state user := mem_of_find?_eq_some hfind
  have hfree : ⟨user, subject.id⟩ ∉ state.additions := by
    intro hstored
    exact hnew (List.any_eq_true.2 ⟨subject, mem_addedSubjects.2 ⟨haddable, hstored⟩, by simp⟩)
  refine .inr ⟨subject, hfind, hfree, Nat.lt_of_not_le hbelow, ?_⟩
  unfold State.add at h
  rw [if_neg hfree] at h
  exact (Except.ok.inj h).symm

theorem requestChange_ok {removeSlug addSlug : String}
    (h : requestChange user removeSlug addSlug note now state = .ok next) :
    pendingRequest state user = none ∧
      ∃ remove ∈ addedSubjects state user, ∃ add ∈ addableSubjects state user, ∃ item,
        next = { state with requests := state.requests ++ [item] } ∧
          item.id = state.requests.length ∧ item.user = user ∧ item.status = .pending ∧
          item.removeSubject = remove.id ∧ item.addSubject = add.id := by
  unfold requestChange at h
  split at h
  · cases h
  split at h
  · cases h
  next hpending =>
  split at h
  · cases h
  next remove hremove =>
  split at h
  · cases h
  next add hadd =>
  split at h
  · cases h
  cases h
  exact ⟨by simpa using hpending, remove, mem_of_find?_eq_some hremove, add,
    mem_of_find?_eq_some hadd, _, rfl, rfl, rfl, rfl, rfl, rfl⟩

theorem decideChange_ok (h : decideChange request approve actor adminNote now state = .ok next) :
    ∃ item, Table.find AddedSubjectChangeRequest.id state.requests request = some item ∧
      item.status = .pending ∧
      (approve = true → ∃ add ∈ addableSubjects state item.user, add.id = item.addSubject) ∧
      next = { (if approve then applySwap item state else state) with
        requests := Table.put AddedSubjectChangeRequest.id state.requests
          (decided item approve actor adminNote now) } := by
  unfold decideChange at h
  split at h
  · cases h
  next item hfind =>
  split at h
  · cases h
  next hpending =>
  split at h
  · cases h
  next haddable =>
  cases h
  refine ⟨item, hfind, not_not.1 hpending, ?_, ?_⟩
  · intro happrove
    rw [not_and, not_not, List.any_eq_true] at haddable
    obtain ⟨add, hadd, hid⟩ := haddable happrove
    exact ⟨add, hadd, of_decide_eq_true hid⟩
  · have hsame : (if approve then applySwap item state else state).requests = state.requests := by
      cases approve with
      | false => rfl
      | true =>
        unfold applySwap State.add
        simp only [if_true]
        split <;> rfl
    rw [hsame]

end

theorem applySwap_additions (item : AddedSubjectChangeRequest) (state : State) :
    (applySwap item state).additions =
      let kept := state.additions.filter (· ≠ ⟨item.user, item.removeSubject⟩)
      if ⟨item.user, item.addSubject⟩ ∈ kept then kept
      else kept ++ [⟨item.user, item.addSubject⟩] := by
  unfold applySwap State.add State.remove
  simp only
  split <;> rfl

theorem applySwap_same (item : AddedSubjectChangeRequest) (state : State) :
    (applySwap item state).directory = state.directory ∧
      (applySwap item state).cohortOf = state.cohortOf ∧
      (applySwap item state).requests = state.requests := by
  unfold applySwap State.add State.remove
  split <;> exact ⟨rfl, rfl, rfl⟩

theorem mem_applySwap {state : State} {row : AddedCatalogSubject} :
    row ∈ (applySwap item state).additions ↔
      row = ⟨item.user, item.addSubject⟩ ∨
        (row ∈ state.additions ∧ row ≠ ⟨item.user, item.removeSubject⟩) := by
  rw [applySwap_additions]
  simp only
  split
  · next hin =>
    rw [mem_filter, decide_eq_true_eq] at hin
    rw [mem_filter, decide_eq_true_eq]
    constructor
    · exact .inr
    · rintro (rfl | hkept)
      · exact hin
      · exact hkept
  · rw [mem_append, mem_filter, decide_eq_true_eq, mem_singleton, or_comm]

theorem applySwap_nodup {state : State} (h : state.additions.Nodup) :
    (applySwap item state).additions.Nodup := by
  rw [applySwap_additions]
  simp only
  split
  · exact h.filter _
  · next hnew => exact nodup_append.2 ⟨h.filter _, nodup_singleton _, by
      rintro row hrow other hother rfl
      obtain rfl := mem_singleton.1 hother
      exact hnew hrow⟩

/-- A list without repetitions that takes one new item for one that it gives up is not longer. -/
theorem length_le_of_swap {α : Type} [DecidableEq α] {before after : List α} {gained lost : α}
    (hnodup : after.Nodup) (hlost : lost ∈ before)
    (hsubset : ∀ x ∈ after, x = gained ∨ (x ∈ before ∧ x ≠ lost)) :
    after.length ≤ before.length := by
  have hsub : after ⊆ gained :: before.erase lost := by
    intro x hx
    rcases hsubset x hx with rfl | ⟨hbefore, hne⟩
    · exact mem_cons_self
    · exact mem_cons_of_mem _ ((mem_erase_of_ne hne).2 hbefore)
  have hle := (subperm_of_subset hnodup hsub).length_le
  have hpos : 0 < before.length := length_pos_of_mem hlost
  rw [length_cons, length_erase_of_mem hlost] at hle
  omega

/-- What was added and asked for in a state, whatever grants access at the time. -/
structure Kept (state : State) : Prop where
  additions : state.additions.Nodup
  requestIds : Table.Distinct AddedSubjectChangeRequest.id state.requests
  numbered : ∀ item ∈ state.requests, item.id < state.requests.length
  pendingOnce : ∀ first ∈ state.requests, ∀ second ∈ state.requests, first.user = second.user →
    first.status = .pending → second.status = .pending → first = second
  asked : ∀ item ∈ state.requests, item.status = .pending →
    ⟨item.user, item.removeSubject⟩ ∈ state.additions ∧
      subjectCohort state.directory item.removeSubject =
        subjectCohort state.directory item.addSubject

def WithinLimit (state : State) : Prop :=
  ∀ user cohort, (storedAdditions state user cohort).length ≤ addedSubjectLimit

/-- The condition on a step: a subject is added while fewer than the limit are stored, and a swap
that is approved gives up a subject that grants access or takes one that already does. -/
def withinStored (state : State) (call : Call) : Bool :=
  match call.action with
  | .addSubject user materialSlug =>
    ((addableSubjects state user).find? (·.materialSlug = materialSlug)).all fun subject =>
      hasAdded state user subject ||
        (storedAdditions state user subject.cohort).length < addedSubjectLimit
  | .decideChange request true _ _ =>
    (Table.find AddedSubjectChangeRequest.id state.requests request).all fun item =>
      item.removeSubject ∈ addedIds state item.user || item.addSubject ∈ addedIds state item.user
  | _ => true

def WithinStored (state : State) (call : Call) : Prop := withinStored state call = true

instance (state : State) (call : Call) : Decidable (WithinStored state call) :=
  inferInstanceAs (Decidable (_ = _))

section
variable {state next : State} {call : Call}

theorem storedAdditions_le_added {user : Nat} (hlimit : WithinLimit state) :
    (addedSubjects state user).length ≤ addedSubjectLimit := by
  cases hadded : addedSubjects state user with
  | nil => exact Nat.zero_le _
  | cons subject rest =>
    have hmem : subject ∈ addedSubjects state user := by rw [hadded]; exact mem_cons_self
    rw [← hadded]
    exact (length_addedSubjects_le hmem).trans (hlimit user subject.cohort)

theorem subjectCohort_setSubjectActive (directory : Directory) (subject : Nat) (active : Bool)
    (id : Nat) : subjectCohort (directory.setSubjectActive subject active) id =
      subjectCohort directory id := by
  unfold subjectCohort Directory.setSubjectActive
  simp only
  rw [find_map (fun row _ => activateSubject_key _ (fun _ _ => rfl) subject active row),
    Option.map_map]
  congr 1
  funext row
  exact activateSubject_key CatalogSubject.cohort (fun _ _ => rfl) subject active row

theorem Kept.congr (h : Kept state) (hadditions : next.additions = state.additions)
    (hrequests : next.requests = state.requests)
    (hcohorts : ∀ id, subjectCohort next.directory id = subjectCohort state.directory id) :
    Kept next := by
  obtain ⟨hnodup, hids, hnumbered, honce, hasked⟩ := h
  refine ⟨hadditions ▸ hnodup, hrequests ▸ hids, hrequests ▸ hnumbered, hrequests ▸ honce, ?_⟩
  intro item hitem hpending
  rw [hrequests] at hitem
  rw [hadditions, hcohorts, hcohorts]
  exact hasked item hitem hpending

theorem WithinLimit.congr (h : WithinLimit state) (hadditions : next.additions = state.additions)
    (hcohorts : ∀ id, subjectCohort next.directory id = subjectCohort state.directory id) :
    WithinLimit next := by
  intro user cohort
  have hsame : storedAdditions next user cohort = storedAdditions state user cohort := by
    unfold storedAdditions
    rw [hadditions]
    simp only [hcohorts]
  rw [hsame]
  exact h user cohort

theorem Kept.addSubject {user : Nat} (h : Kept state)
    (hexec : addSubject user materialSlug state = .ok next) : Kept next := by
  rcases addSubject_ok hexec with rfl | ⟨subject, _, hnew, _, rfl⟩
  · exact h
  · obtain ⟨hnodup, hids, hnumbered, honce, hasked⟩ := h
    refine ⟨?_, hids, hnumbered, honce, fun item hitem hpending => ?_⟩
    · refine nodup_append.2 ⟨hnodup, nodup_singleton _, ?_⟩
      rintro row hrow other hother rfl
      obtain rfl := mem_singleton.1 hother
      exact hnew hrow
    · obtain ⟨hrow, hcohort⟩ := hasked item hitem hpending
      exact ⟨mem_append_left _ hrow, hcohort⟩

theorem Kept.requestChange {user : Nat} {removeSlug addSlug : String} (h : Kept state)
    (hexec : requestChange user removeSlug addSlug note now state = .ok next) : Kept next := by
  obtain ⟨hnone, remove, hremove, add, hadd, item, rfl, hid, huser, hstatus, hremoved, hadded⟩ :=
    requestChange_ok hexec
  obtain ⟨hnodup, hids, hnumbered, honce, hasked⟩ := h
  have hfree : ∀ other ∈ state.requests, other.user = user → other.status ≠ .pending := by
    intro other hother howner hpending
    have hno := find?_eq_none.1 hnone other hother
    simp [howner, hpending] at hno
  refine ⟨hnodup, ?_, ?_, ?_, ?_⟩
  · refine Table.Distinct.append hids fun other hother => ?_
    rw [hid]
    exact Nat.ne_of_lt (hnumbered other hother)
  · intro other hother
    rw [length_append, length_singleton]
    rcases mem_append.1 hother with hold | hone
    · exact Nat.lt_succ_of_lt (hnumbered other hold)
    · obtain rfl := mem_singleton.1 hone
      rw [hid]
      exact Nat.lt_succ_self _
  · intro first hfirst second hsecond howner hpending hpending'
    rcases mem_append.1 hfirst with hold | hone
    · rcases mem_append.1 hsecond with hold' | hone'
      · exact honce first hold second hold' howner hpending hpending'
      · obtain rfl := mem_singleton.1 hone'
        exact absurd hpending (hfree first hold (howner.trans huser))
    · obtain rfl := mem_singleton.1 hone
      rcases mem_append.1 hsecond with hold' | hone'
      · exact absurd hpending' (hfree second hold' (howner.symm.trans huser))
      · exact (mem_singleton.1 hone').symm
  · intro other hother hpending
    rcases mem_append.1 hother with hold | hone
    · exact hasked other hold hpending
    · obtain rfl := mem_singleton.1 hone
      obtain ⟨haddable, hstored⟩ := mem_addedSubjects.1 hremove
      rw [huser, hremoved, hadded]
      refine ⟨hstored, ?_⟩
      show subjectCohort state.directory remove.id = subjectCohort state.directory add.id
      rw [subjectCohort_addable haddable, subjectCohort_addable hadd, addable_cohort haddable hadd]

theorem mem_decided {other : AddedSubjectChangeRequest}
    (h : other ∈ Table.put AddedSubjectChangeRequest.id state.requests
      (decided item approve actor adminNote now)) :
    other = decided item approve actor adminNote now ∨
      (other ∈ state.requests ∧ other.id ≠ item.id) := by
  rcases mem_put.1 h with ⟨rfl, _⟩ | hold
  · exact .inl rfl
  · exact .inr hold

theorem decided_not_pending (item : AddedSubjectChangeRequest) (approve : Bool) (actor : Nat)
    (adminNote : Text) (now : Nat) :
    (decided item approve actor adminNote now).status ≠ .pending := by
  cases approve <;> exact RequestStatus.noConfusion

theorem Kept.decideChange (h : Kept state)
    (hexec : decideChange request approve actor adminNote now state = .ok next) : Kept next := by
  obtain ⟨item, hfind, hpending, haddable, rfl⟩ := decideChange_ok hexec
  have hitem := find_mem hfind
  obtain ⟨hnodup, hids, hnumbered, honce, hasked⟩ := h
  have hadditions : (if approve then applySwap item state else state).additions.Nodup := by
    cases approve with
    | false => exact hnodup
    | true => exact applySwap_nodup hnodup
  have hdirectory : (if approve then applySwap item state else state).directory =
      state.directory := by
    cases approve with
    | false => rfl
    | true => exact (applySwap_same item state).1
  have hkeeps : ∀ row ∈ state.additions, row ≠ ⟨item.user, item.removeSubject⟩ →
      row ∈ (if approve then applySwap item state else state).additions := by
    intro row hrow hne
    cases approve with
    | false => exact hrow
    | true => exact mem_applySwap.2 (.inr ⟨hrow, hne⟩)
  refine ⟨hadditions, Table.Distinct.put hids _, ?_, ?_, ?_⟩
  · intro other hother
    have hlength : (Table.put AddedSubjectChangeRequest.id state.requests
        (decided item approve actor adminNote now)).length = state.requests.length :=
      length_map _
    show other.id < (Table.put AddedSubjectChangeRequest.id state.requests _).length
    rw [hlength]
    rcases mem_decided hother with rfl | ⟨hold, _⟩
    · exact hnumbered item hitem
    · exact hnumbered other hold
  · intro first hfirst second hsecond howner hfirstPending hsecondPending
    rcases mem_decided hfirst with rfl | ⟨hold, _⟩
    · exact absurd hfirstPending (decided_not_pending item approve actor adminNote now)
    rcases mem_decided hsecond with rfl | ⟨hold', _⟩
    · exact absurd hsecondPending (decided_not_pending item approve actor adminNote now)
    exact honce first hold second hold' howner hfirstPending hsecondPending
  · intro other hother hotherPending
    rcases mem_decided hother with rfl | ⟨hold, hne⟩
    · exact absurd hotherPending (decided_not_pending item approve actor adminNote now)
    obtain ⟨hrow, hcohort⟩ := hasked other hold hotherPending
    refine ⟨hkeeps _ hrow fun hsame => hne ?_, ?_⟩
    · -- Two pending requests of one student are one request.
      have howner : other.user = item.user := (AddedCatalogSubject.mk.inj hsame).1
      rw [honce other hold item hitem howner hotherPending hpending]
    · show subjectCohort (if approve then applySwap item state else state).directory _ =
        subjectCohort (if approve then applySwap item state else state).directory _
      rw [hdirectory]
      exact hcohort

theorem Kept.step (h : Kept state) (hexec : execute call state = .ok next) : Kept next := by
  obtain ⟨action, now⟩ := call
  cases action with
  | addSubject user materialSlug => exact h.addSubject hexec
  | requestChange user removeSlug addSlug note => exact h.requestChange hexec
  | decideChange request approve actor adminNote => exact h.decideChange hexec
  | changeCohort user cohort =>
    cases hexec
    exact h.congr rfl rfl fun _ => rfl
  | setCohortActive cohort active =>
    cases hexec
    exact h.congr rfl rfl fun _ => rfl
  | setSubjectActive subject active =>
    cases hexec
    exact h.congr rfl rfl (subjectCohort_setSubjectActive state.directory subject active)

theorem WithinLimit.addSubject {user : Nat} (h : WithinLimit state)
    (hadmits : withinStored state ⟨.addSubject user materialSlug, now⟩ = true)
    (hexec : addSubject user materialSlug state = .ok next) : WithinLimit next := by
  rcases addSubject_ok hexec with rfl | ⟨subject, hfind, hnew, _, rfl⟩
  · exact h
  have hbelow : (storedAdditions state user subject.cohort).length < addedSubjectLimit := by
    unfold withinStored at hadmits
    simp only [hfind, Option.all_some, Bool.or_eq_true, decide_eq_true_eq] at hadmits
    exact hadmits.resolve_left fun hstored => hnew (hasAdded_iff.1 hstored)
  have hcohort := subjectCohort_addable (mem_of_find?_eq_some hfind)
  intro other cohort
  have hsplit : storedAdditions
      { state with additions := state.additions ++ [⟨user, subject.id⟩] } other cohort =
      storedAdditions state other cohort ++ [AddedCatalogSubject.mk user subject.id].filter fun row =>
        row.user = other && subjectCohort state.directory row.subject = some cohort :=
    filter_append _ _
  rw [hsplit, length_append]
  by_cases hmine : user = other ∧ subject.cohort = cohort
  · obtain ⟨rfl, rfl⟩ := hmine
    have hone := length_filter_le (fun row : AddedCatalogSubject =>
      row.user = user && subjectCohort state.directory row.subject = some subject.cohort)
      [⟨user, subject.id⟩]
    rw [length_singleton] at hone
    omega
  · have hnone : ([AddedCatalogSubject.mk user subject.id].filter fun row =>
        row.user = other && subjectCohort state.directory row.subject = some cohort) = [] := by
      rw [filter_eq_nil_iff]
      intro row hrow
      obtain rfl := mem_singleton.1 hrow
      simp only [hcohort, Option.some.injEq, Bool.and_eq_true, decide_eq_true_eq]
      exact hmine
    rw [hnone, length_nil, Nat.add_zero]
    exact h other cohort

theorem WithinLimit.applySwap (h : WithinLimit state) (hnodup : state.additions.Nodup)
    (hrow : ⟨item.user, item.removeSubject⟩ ∈ state.additions)
    (hcohort : subjectCohort state.directory item.removeSubject =
      subjectCohort state.directory item.addSubject) : WithinLimit (applySwap item state) := by
  intro user cohort
  refine Nat.le_trans ?_ (h user cohort)
  have hdirectory := (applySwap_same item state).1
  have hmem (row : AddedCatalogSubject) :
      row ∈ storedAdditions (AddedSubjects.applySwap item state) user cohort ↔
        (row = ⟨item.user, item.addSubject⟩ ∨
          (row ∈ state.additions ∧ row ≠ ⟨item.user, item.removeSubject⟩)) ∧
          row.user = user ∧ subjectCohort state.directory row.subject = some cohort := by
    unfold storedAdditions
    rw [mem_filter, mem_applySwap, hdirectory, Bool.and_eq_true, decide_eq_true_eq,
      decide_eq_true_eq]
  have hnodup' : (storedAdditions (AddedSubjects.applySwap item state) user cohort).Nodup :=
    (applySwap_nodup hnodup).filter _
  by_cases hmine : item.user = user ∧ subjectCohort state.directory item.addSubject = some cohort
  · have hlost : ⟨item.user, item.removeSubject⟩ ∈ storedAdditions state user cohort := by
      refine mem_filter.2 ⟨hrow, ?_⟩
      simp only [hcohort, hmine, decide_true, Bool.and_self]
    refine length_le_of_swap hnodup' hlost fun row hmember =>
      (?_ : row = ⟨item.user, item.addSubject⟩ ∨ _)
    obtain ⟨rfl | ⟨hold, hne⟩, howner, hin⟩ := (hmem row).1 hmember
    · exact .inl rfl
    · exact .inr ⟨mem_filter.2 ⟨hold, by simp [howner, hin]⟩, hne⟩
  · refine (subperm_of_subset hnodup' ?_).length_le
    intro row hmember
    obtain ⟨rfl | ⟨hold, _⟩, howner, hin⟩ := (hmem row).1 hmember
    · exact absurd ⟨howner, hin⟩ hmine
    · exact mem_filter.2 ⟨hold, by simp [howner, hin]⟩

theorem WithinLimit.decideChange (h : WithinLimit state) (hkept : Kept state)
    (hexec : decideChange request approve actor adminNote now state = .ok next) :
    WithinLimit next := by
  obtain ⟨item, hfind, hpending, _, rfl⟩ := decideChange_ok hexec
  obtain ⟨hrow, hcohort⟩ := hkept.asked item (find_mem hfind) hpending
  cases approve with
  | false => exact h
  | true => exact h.applySwap hkept.additions hrow hcohort

theorem WithinLimit.step (h : WithinLimit state) (hkept : Kept state)
    (hadmits : withinStored state call = true) (hexec : execute call state = .ok next) :
    WithinLimit next := by
  obtain ⟨action, now⟩ := call
  cases action with
  | addSubject user materialSlug => exact h.addSubject hadmits hexec
  | requestChange user removeSlug addSlug note =>
    obtain ⟨_, _, _, _, _, _, rfl, _⟩ := requestChange_ok hexec
    exact h
  | decideChange request approve actor adminNote => exact h.decideChange hkept hexec
  | changeCohort user cohort =>
    cases hexec
    exact h
  | setCohortActive cohort active =>
    cases hexec
    exact h
  | setSubjectActive subject active =>
    cases hexec
    exact h.congr rfl (subjectCohort_setSubjectActive state.directory subject active)

theorem addableSubjects_congr {user : Nat} (hdirectory : next.directory = state.directory)
    (hcohorts : next.cohortOf = state.cohortOf) :
    addableSubjects next user = addableSubjects state user := by
  have hactive : activeCohort next user = activeCohort state user := by
    unfold activeCohort
    rw [hdirectory, hcohorts]
  unfold addableSubjects canAddSubjects
  rw [hactive, hdirectory]

theorem mem_addedIds {user x : Nat} : x ∈ addedIds state user ↔
    (∃ subject ∈ addableSubjects state user, subject.id = x) ∧ ⟨user, x⟩ ∈ state.additions := by
  unfold addedIds
  rw [mem_map]
  constructor
  · rintro ⟨subject, hsubject, rfl⟩
    obtain ⟨haddable, hstored⟩ := mem_addedSubjects.1 hsubject
    exact ⟨⟨subject, haddable, rfl⟩, hstored⟩
  · rintro ⟨⟨subject, haddable, rfl⟩, hstored⟩
    exact ⟨subject, mem_addedSubjects.2 ⟨haddable, hstored⟩, rfl⟩

/-- A swap that gives up what grants access, or takes what already does, gains nothing. -/
theorem applySwap_count (h : item.removeSubject ∈ addedIds state item.user ∨
      item.addSubject ∈ addedIds state item.user) :
    (addedSubjects (applySwap item state) item.user).length ≤
      (addedSubjects state item.user).length := by
  obtain ⟨hdirectory, hcohorts, _⟩ := applySwap_same item state
  have hmem : ∀ x ∈ addedIds (applySwap item state) item.user,
      x = item.addSubject ∨ (x ∈ addedIds state item.user ∧ x ≠ item.removeSubject) := by
    intro x hx
    obtain ⟨haddable, hstored⟩ := mem_addedIds.1 hx
    rw [addableSubjects_congr hdirectory hcohorts] at haddable
    rcases mem_applySwap.1 hstored with hgained | ⟨hold, hne⟩
    · exact .inl (AddedCatalogSubject.mk.inj hgained).2
    · exact .inr ⟨mem_addedIds.2 ⟨haddable, hold⟩, fun hsame => hne (by rw [hsame])⟩
  have hnodup := addedIds_nodup (applySwap item state) item.user
  rw [← length_addedIds, ← length_addedIds]
  rcases h with hremove | hadd
  · exact length_le_of_swap hnodup hremove hmem
  · refine (subperm_of_subset hnodup fun x hx => ?_).length_le
    rcases hmem x hx with rfl | ⟨hold, _⟩
    · exact hadd
    · exact hold

/-- An approved swap does not add to what grants access when it is approved. -/
def KeepsCount (state next : State) (call : Call) : Prop :=
  match call.action with
  | .decideChange request true _ _ =>
    ∀ item, Table.find AddedSubjectChangeRequest.id state.requests request = some item →
      (addedSubjects next item.user).length ≤ (addedSubjects state item.user).length
  | _ => True

theorem keepsCount (hadmits : withinStored state call = true)
    (hexec : execute call state = .ok next) : KeepsCount state next call := by
  unfold KeepsCount
  split
  · next request actor adminNote haction =>
    intro item hfind
    unfold execute at hexec
    unfold withinStored at hadmits
    simp only [haction] at hexec hadmits
    obtain ⟨found, hfound, _, _, rfl⟩ := decideChange_ok hexec
    obtain rfl := Option.some.inj (hfind.symm.trans hfound)
    simp only [hfind, Option.all_some, Bool.or_eq_true, decide_eq_true_eq] at hadmits
    exact applySwap_count hadmits
  · exact True.intro

theorem decided_step (hkept : Kept state) (hitem : item ∈ state.requests)
    (hdecided : item.status ≠ .pending) (hexec : execute call state = .ok next) :
    item ∈ next.requests := by
  obtain ⟨action, now⟩ := call
  cases action with
  | addSubject user materialSlug =>
    rcases addSubject_ok hexec with rfl | ⟨_, _, _, _, rfl⟩
    · exact hitem
    · exact hitem
  | requestChange user removeSlug addSlug note =>
    obtain ⟨_, _, _, _, _, _, rfl, _⟩ := requestChange_ok hexec
    exact mem_append_left _ hitem
  | decideChange request approve actor adminNote =>
    obtain ⟨found, hfound, hpending, _, rfl⟩ := decideChange_ok hexec
    refine mem_put.2 (.inr ⟨hitem, fun hid => hdecided ?_⟩)
    rw [hkept.requestIds.eq hitem (find_mem hfound) hid]
    exact hpending
  | changeCohort user cohort =>
    cases hexec
    exact hitem
  | setCohortActive cohort active =>
    cases hexec
    exact hitem
  | setSubjectActive subject active =>
    cases hexec
    exact hitem

theorem studentSubjects_scope {contentAdministrator : Nat → Bool} {user : Nat}
    {subject : CatalogSubject} (hstudent : contentAdministrator user = false)
    (h : subject ∈ studentSubjects state contentAdministrator user) :
    (∃ cohort, activeCohort state user = some cohort ∧ subject.cohort = cohort.id) ∨
      subject ∈ addedSubjects state user := by
  unfold studentSubjects at h
  simp only [hstudent, Bool.false_eq_true, if_false] at h
  split at h
  · cases h
  next cohort hactive =>
  obtain ⟨hactiveSubject, hscope⟩ := mem_filter.1 h
  rw [Bool.or_eq_true, decide_eq_true_eq, decide_eq_true_eq] at hscope
  rcases hscope with hown | hadded
  · exact .inl ⟨cohort, hactive, hown⟩
  · obtain ⟨added, hmem, hid⟩ := mem_map.1 hadded
    have hlisted : added ∈ state.directory.subjects :=
      (addableSubjects_sublist state user).subset (mem_addedSubjects.1 hmem).1
    obtain rfl := state.directory.subjectIds.eq hlisted (mem_filter.1 hactiveSubject).1 hid
    exact .inr hmem

end

/-- What holds of a student's additions and requests after a run. -/
structure Sound (contentAdministrator : Nat → Bool) (run : State × List (Nat × State)) : Prop where
  limit : ∀ user, (addedSubjects run.1 user).length ≤ addedSubjectLimit
  pendingOnce : ∀ user,
    (run.1.requests.filter fun item => item.user = user && item.status = .pending).length ≤ 1
  final : ∀ before ∈ run.2, ∀ item ∈ before.2.requests, item.status ≠ .pending →
    Table.find AddedSubjectChangeRequest.id run.1.requests item.id = some item
  scope : ∀ user, contentAdministrator user = false →
    ∀ subject ∈ studentSubjects run.1 contentAdministrator user,
      (∃ cohort, activeCohort run.1 user = some cohort ∧ subject.cohort = cohort.id) ∨
        subject ∈ addedSubjects run.1 user

theorem kept_of_reaches {cohortOf : Nat → Option Nat} {run : State × List (Nat × State)}
    (h : (machine directory cohortOf).traced.Reaches
      (fun run call => WithinStored run.1 call) run now) :
    Kept run.1 ∧ WithinLimit run.1 ∧ ∀ before ∈ run.2, ∀ item ∈ before.2.requests,
      item.status ≠ .pending → item ∈ run.1.requests := by
  refine h.traced_invariant (I := fun state trace _ =>
    Kept state ∧ WithinLimit state ∧ ∀ before ∈ trace, ∀ item ∈ before.2.requests,
      item.status ≠ .pending → item ∈ state.requests) ?_ ?_
  · refine ⟨⟨nodup_nil, nodup_nil, ?_, ?_, ?_⟩, fun _ _ => Nat.zero_le _, ?_⟩
    all_goals exact forall_mem_nil _
  · rintro state trace now call next ⟨hkept, hlimit, hfinal⟩ _ hadmits hexec
    refine ⟨hkept.step hexec, hlimit.step hkept hadmits hexec, ?_⟩
    intro before hbefore item hitem hdecided
    rcases mem_cons.1 hbefore with rfl | hearlier
    · exact hitem
    · exact decided_step hkept (hfinal before hearlier item hitem hdecided) hdecided hexec

/-- The limit holds in every run that adds within what is stored. -/
theorem added_subjects_within_limit (directory : Directory) (cohortOf : Nat → Option Nat)
    (contentAdministrator : Nat → Bool) {run : State × List (Nat × State)} {now : Nat}
    (h : (machine directory cohortOf).traced.Reaches
      (fun run call => WithinStored run.1 call) run now) :
    Sound contentAdministrator run ∧
      ∀ call next, WithinStored run.1 call → execute call run.1 = .ok next →
        KeepsCount run.1 next call := by
  obtain ⟨hkept, hlimit, hfinal⟩ := kept_of_reaches h
  refine ⟨⟨fun user => storedAdditions_le_added hlimit, ?_, ?_, ?_⟩, ?_⟩
  · intro user
    refine hkept.requestIds.length_filter_le_one fun first hfirst second hsecond hone htwo => ?_
    simp only [Bool.and_eq_true, decide_eq_true_eq] at hone htwo
    exact hkept.pendingOnce first hfirst second hsecond (hone.1.trans htwo.1.symm) hone.2 htwo.2
  · intro before hbefore item hitem hdecided
    exact hkept.requestIds.find (hfinal before hbefore item hitem hdecided)
  · intro user hstudent subject hsubject
    exact studentSubjects_scope hstudent hsubject
  · intro call next hadmits hexec
    exact keepsCount hadmits hexec

def twoYears : Directory where
  cohorts := [⟨1, ⟨1, "dentistry"⟩, "year-1", true⟩, ⟨2, ⟨1, "dentistry"⟩, "year-2", true⟩]
  subjects := [⟨1, 1, "anatomy", true⟩, ⟨2, 1, "biology", true⟩, ⟨3, 1, "chemistry", true⟩]
  cohortIds := by decide
  cohortCodes := by decide
  subjectIds := by decide
  materialSlugs := by decide

def secondYear : Machine State Call AddedSubjectError := machine twoYears fun _ => some 2

def returningSubject : List Call :=
  [⟨.addSubject 1 "anatomy", 1⟩, ⟨.addSubject 1 "biology", 2⟩, ⟨.setSubjectActive 1 false, 3⟩,
    ⟨.addSubject 1 "chemistry", 4⟩, ⟨.setSubjectActive 1 true, 5⟩]

def retiredSwap : List Call :=
  [⟨.addSubject 1 "anatomy", 1⟩, ⟨.addSubject 1 "biology", 2⟩,
    ⟨.requestChange 1 "anatomy" "chemistry" [], 3⟩, ⟨.setSubjectActive 1 false, 4⟩]

/-- Three subjects are granted where two are allowed, and an approved swap adds one. -/
theorem returning_subject_exceeds_limit :
    (∃ state now, secondYear.Reaches Machine.Always state now ∧
      (addedSubjects state 1).length = 3) ∧
    ∃ state now next, secondYear.Reaches Machine.Always state now ∧
      execute ⟨.decideChange 0 true 9 [], 5⟩ state = .ok next ∧
      (addedSubjects state 1).length = 1 ∧ (addedSubjects next 1).length = 2 := by
  have hreturned : secondYear.Reaches Machine.Always (secondYear.outcome returningSubject) 5 :=
    Machine.Reaches.of_accepts (by decide +kernel) (by decide) (Machine.admitted_always _ _)
  have hretired : secondYear.Reaches Machine.Always (secondYear.outcome retiredSwap) 4 :=
    Machine.Reaches.of_accepts (by decide +kernel) (by decide) (Machine.admitted_always _ _)
  refine ⟨⟨_, _, hreturned, by decide +kernel⟩, _, _,
    secondYear.outcome (retiredSwap ++ [⟨.decideChange 0 true 9 [], 5⟩]), hretired, ?_, ?_, ?_⟩
  · rfl
  · decide +kernel
  · decide +kernel

def swappedSubject : List Call :=
  [⟨.addSubject 1 "anatomy", 1⟩, ⟨.addSubject 1 "biology", 2⟩,
    ⟨.requestChange 1 "anatomy" "chemistry" [], 3⟩, ⟨.decideChange 0 true 9 [], 4⟩]

theorem swapped_subject_sound :
    Sound (fun _ => false) (secondYear.traced.outcome swappedSubject) ∧
      ((secondYear.traced.outcome swappedSubject).1.requests.map (·.status)) = [.approved] := by
  have hreaches : secondYear.traced.Reaches (fun run call => WithinStored run.1 call)
      (secondYear.traced.outcome swappedSubject) 4 :=
    Machine.Reaches.of_accepts (by decide +kernel) (by decide) (by decide +kernel)
  exact ⟨(added_subjects_within_limit twoYears (fun _ => some 2) (fun _ => false) hreaches).1,
    by decide +kernel⟩

end LockIn.Content.AddedSubjects
