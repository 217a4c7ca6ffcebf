import LockIn.Study.Tracking

/-!
# The attempts of a run

The attempts of one kind and part are numbered in the order they are made, and a new one is
made only when all the others are submitted.  So at most the last one is open, and the
attempt that was submitted last is the one with the highest number.
-/

namespace LockIn.Study

open List Table

/-- `first` was made, and submitted, before `second` was made. -/
def Attempt.Before (first second : Attempt) : Prop :=
  first.number < second.number ∧ first.submittedAt.isSome

structure InOrder (attempts : List Attempt) : Prop where
  before : attempts.Pairwise Attempt.Before
  numbered : ∀ attempt ∈ attempts, attempt.number ≤ attempts.length

def Run.Ordered (run : Run) : Prop :=
  ∀ kind part, InOrder (run.attemptsOf kind part)

def Run.submittedOf (run : Run) (kind : AttemptKind) (part : Option Nat) : List Attempt :=
  (run.attemptsOf kind part).filter (·.submittedAt.isSome)

def Run.submitted (run : Run) (kind : AttemptKind) : List Attempt :=
  run.attempts.filter fun attempt => attempt.kind = kind ∧ attempt.submittedAt.isSome

theorem mem_attemptsOf {run : Run} {kind : AttemptKind} {part : Option Nat} {attempt : Attempt} :
    attempt ∈ run.attemptsOf kind part ↔
      attempt ∈ run.attempts ∧ attempt.kind = kind ∧ attempt.part = part := by
  unfold Run.attemptsOf
  rw [mem_filter, decide_eq_true_eq]

variable {attempts : List Attempt}

theorem latest_concat {attempt : Attempt} (h : ∀ other ∈ attempts, other.number < attempt.number) :
    latest (attempts ++ [attempt]) = some attempt := by
  induction attempts with
  | nil => rfl
  | cons first rest ih =>
    have hrest := ih fun other hother => h other (mem_cons_of_mem _ hother)
    have hfirst := h first mem_cons_self
    rw [cons_append, latest, hrest]
    simp only [hfirst, if_true]

theorem latest_mem {attempt : Attempt} (h : latest attempts = some attempt) :
    attempt ∈ attempts := by
  induction attempts with
  | nil => cases h
  | cons first rest ih =>
    unfold latest at h
    cases hrest : latest rest with
    | none =>
      rw [hrest] at h
      cases h
      exact mem_cons_self
    | some other =>
      rw [hrest] at h
      simp only at h
      split at h
      · cases h
        exact mem_cons_of_mem _ (ih hrest)
      · cases h
        exact mem_cons_self

theorem inOrder_append (h : InOrder attempts)
    (hclosed : ∀ other ∈ attempts, other.submittedAt.isSome) {attempt : Attempt}
    (hnumber : attempt.number = attempts.length + 1) : InOrder (attempts ++ [attempt]) where
  before := by
    rw [pairwise_append]
    refine ⟨h.before, pairwise_singleton _ _, ?_⟩
    intro other hother last hlast
    obtain rfl := mem_singleton.mp hlast
    have hle := h.numbered other hother
    exact ⟨by omega, hclosed other hother⟩
  numbered other hother := by
    rw [length_append, length_singleton]
    rcases mem_append.mp hother with hold | hone
    · have hle := h.numbered other hold
      omega
    · obtain rfl := mem_singleton.mp hone
      omega

theorem inOrder_submitted (h : InOrder attempts) :
    InOrder (attempts.filter (·.submittedAt.isSome)) where
  before := h.before.filter _
  numbered other hother := by
    rcases eq_nil_or_concat attempts with rfl | ⟨front, last, rfl⟩
    · exact absurd hother not_mem_nil
    · rw [concat_eq_append] at h hother ⊢
      obtain ⟨_, _, hbefore⟩ := pairwise_append.mp h.before
      have hfront : front.filter (·.submittedAt.isSome) = front :=
        filter_eq_self.mpr fun attempt hattempt =>
          (hbefore attempt hattempt last (by simp)).2
      rw [filter_append, hfront] at hother ⊢
      have hlength := h.numbered
      rw [length_append, length_singleton] at hlength
      cases hlast : last.submittedAt.isSome with
      | true =>
        have hone : [last].filter (·.submittedAt.isSome) = [last] := by simp [hlast]
        rw [hone] at hother ⊢
        rw [length_append, length_singleton]
        exact hlength other hother
      | false =>
        have hnone : [last].filter (·.submittedAt.isSome) = [] := by simp [hlast]
        rw [hnone, append_nil] at hother ⊢
        have hlt := (hbefore other hother last (by simp)).1
        have hle := hlength last (by simp)
        omega

theorem attemptsOf_append (run : Run) (attempt : Attempt) (kind : AttemptKind) (part : Option Nat) :
    ({ run with attempts := run.attempts ++ [attempt] } : Run).attemptsOf kind part =
      run.attemptsOf kind part ++ if attempt.kind = kind ∧ attempt.part = part then [attempt] else [] := by
  unfold Run.attemptsOf
  rw [filter_append]
  by_cases h : attempt.kind = kind ∧ attempt.part = part
  · rw [if_pos h, filter_cons_of_pos (by simpa using h), filter_nil]
  · rw [if_neg h, filter_cons_of_neg (by simpa using h), filter_nil]

theorem ordered_append {run : Run} (h : run.Ordered) {attempt : Attempt}
    (hclosed : ∀ other ∈ run.attemptsOf attempt.kind attempt.part, other.submittedAt.isSome)
    (hnumber : attempt.number = (run.attemptsOf attempt.kind attempt.part).length + 1) :
    ({ run with attempts := run.attempts ++ [attempt] } : Run).Ordered := by
  intro kind part
  rw [attemptsOf_append]
  split
  · next hsame =>
    obtain ⟨rfl, rfl⟩ := hsame
    exact inOrder_append (h _ _) hclosed hnumber
  · rw [append_nil]
    exact h kind part

theorem submittedOf_append (run : Run) {attempt : Attempt} (hopen : attempt.submittedAt = none)
    (kind : AttemptKind) (part : Option Nat) :
    ({ run with attempts := run.attempts ++ [attempt] } : Run).submittedOf kind part =
      run.submittedOf kind part := by
  unfold Run.submittedOf
  rw [attemptsOf_append, filter_append]
  split
  · rw [filter_cons_of_neg (by simp [hopen]), filter_nil, append_nil]
  · rw [filter_nil, append_nil]

theorem submitted_append (run : Run) {attempt : Attempt} (hopen : attempt.submittedAt = none)
    (kind : AttemptKind) :
    ({ run with attempts := run.attempts ++ [attempt] } : Run).submitted kind = run.submitted kind := by
  unfold Run.submitted
  rw [filter_append, filter_cons_of_neg (by simp [hopen]), filter_nil,
    append_nil]

theorem attemptsOf_withoutOpen (run : Run) (kind : AttemptKind) (part : Option Nat) :
    (withoutOpen run kind part).attemptsOf kind part = run.submittedOf kind part := by
  unfold withoutOpen Run.attemptsOf Run.submittedOf Run.attemptsOf
  simp only [filter_filter]
  refine filter_congr fun attempt _ => ?_
  by_cases hkind : attempt.kind = kind
  · by_cases hpart : attempt.part = part
    · cases attempt.submittedAt <;> simp [hkind, hpart]
    · simp [hpart]
  · simp [hkind]

theorem attemptsOf_withoutOpen_of_ne (run : Run) {kind other : AttemptKind} {part place : Option Nat}
    (h : ¬(other = kind ∧ place = part)) :
    (withoutOpen run kind part).attemptsOf other place = run.attemptsOf other place := by
  unfold withoutOpen Run.attemptsOf
  simp only [filter_filter]
  refine filter_congr fun attempt _ => ?_
  by_cases hkind : attempt.kind = other ∧ attempt.part = place
  · obtain ⟨rfl, rfl⟩ := hkind
    have hother := (not_and_or.mp h).imp_right (Or.inl (b := attempt.submittedAt ≠ none))
    simpa using hother
  · simp [hkind]

theorem ordered_withoutOpen {run : Run} (h : run.Ordered) (kind : AttemptKind) (part : Option Nat) :
    (withoutOpen run kind part).Ordered := by
  intro other place
  by_cases hsame : other = kind ∧ place = part
  · obtain ⟨rfl, rfl⟩ := hsame
    rw [attemptsOf_withoutOpen]
    exact inOrder_submitted (h _ _)
  · rw [attemptsOf_withoutOpen_of_ne run hsame]
    exact h other place

theorem submittedOf_withoutOpen (run : Run) (kind other : AttemptKind) (part place : Option Nat) :
    (withoutOpen run kind part).submittedOf other place = run.submittedOf other place := by
  by_cases hsame : other = kind ∧ place = part
  · obtain ⟨rfl, rfl⟩ := hsame
    unfold Run.submittedOf
    rw [attemptsOf_withoutOpen]
    unfold Run.submittedOf
    rw [filter_filter]
    simp only [Bool.and_self]
  · unfold Run.submittedOf
    rw [attemptsOf_withoutOpen_of_ne run hsame]

theorem submitted_withoutOpen (run : Run) (kind other : AttemptKind) (part : Option Nat) :
    (withoutOpen run kind part).submitted other = run.submitted other := by
  unfold withoutOpen Run.submitted
  simp only [filter_filter]
  refine filter_congr fun attempt _ => ?_
  cases hsome : attempt.submittedAt <;> simp

theorem attempt_notMem {run : Run} {id : Nat} (h : run.attempt? id = none) :
    ∀ attempt ∈ run.attempts, attempt.id ≠ id :=
  find_eq_none.mp h

theorem distinct_activeAttempt {run : Run} (h : Table.Distinct Attempt.id run.attempts) {fresh : Nat}
    (hfree : run.attempt? fresh = none) (kind : AttemptKind) (part : Option Nat) (total : Nat) :
    Table.Distinct Attempt.id (activeAttempt run kind part total fresh).1.attempts := by
  unfold activeAttempt
  split
  · exact h
  · exact h.append (attempt_notMem hfree)

theorem distinct_withoutOpen {run : Run} (h : Table.Distinct Attempt.id run.attempts)
    (kind : AttemptKind) (part : Option Nat) :
    Table.Distinct Attempt.id (withoutOpen run kind part).attempts :=
  h.sublist (filter_sublist.map _)

theorem distinct_adoptAttempt {run : Run} (h : Table.Distinct Attempt.id run.attempts)
    {offline : OfflineAttempt} (hfree : run.attempt? offline.attemptId = none) (part : Option Nat)
    (total : Nat) : Table.Distinct Attempt.id (adoptAttempt run offline part total).attempts :=
  (distinct_withoutOpen h offline.kind part).append fun attempt hattempt =>
    attempt_notMem hfree attempt (mem_filter.mp hattempt).1

/-- `saved` is `attempt` at a later time. -/
structure Attempt.Becomes (attempt saved : Attempt) : Prop where
  id : saved.id = attempt.id
  kind : saved.kind = attempt.kind
  part : saved.part = attempt.part
  number : saved.number = attempt.number
  submitted : attempt.submittedAt.isSome → saved.submittedAt.isSome

section
variable {run : Run} {attempt saved : Attempt} (hids : Table.Distinct Attempt.id run.attempts)
  (hmem : attempt ∈ run.attempts) (hb : attempt.Becomes saved)
include hids hmem hb

theorem attemptsOf_saveAttempt (kind : AttemptKind) (part : Option Nat) :
    (run.saveAttempt saved).attemptsOf kind part =
      Table.put Attempt.id (run.attemptsOf kind part) saved := by
  refine filter_put fun other hother hid => ?_
  rw [hids.eq hother hmem (hid.trans hb.id), hb.kind, hb.part]

theorem ordered_saveAttempt (h : run.Ordered) : (run.saveAttempt saved).Ordered := by
  intro kind part
  rw [attemptsOf_saveAttempt hids hmem hb]
  obtain ⟨hbefore, hnumbered⟩ := h kind part
  -- Each attempt keeps its number and, once submitted, stays so.
  have hsame : ∀ other ∈ run.attemptsOf kind part,
      (if other.id = saved.id then saved else other).number = other.number ∧
        (other.submittedAt.isSome →
          (if other.id = saved.id then saved else other).submittedAt.isSome) := by
    intro other hother
    split
    · next hid =>
      rw [hids.eq (mem_attemptsOf.mp hother).1 hmem (hid.trans hb.id)]
      exact ⟨hb.number, hb.submitted⟩
    · exact ⟨rfl, fun hsome => hsome⟩
  constructor
  · unfold Table.put
    rw [pairwise_map]
    refine hbefore.imp_of_mem ?_
    intro first second hfirst hsecond hlt
    refine ⟨?_, (hsame first hfirst).2 hlt.2⟩
    rw [(hsame first hfirst).1, (hsame second hsecond).1]
    exact hlt.1
  · intro other hother
    unfold Table.put at hother ⊢
    rw [length_map]
    obtain ⟨old, hold, rfl⟩ := mem_map.mp hother
    rw [(hsame old hold).1]
    exact hnumbered old hold

/-- An attempt that stays as open as it was changes no list of submitted attempts but in its
own place. -/
theorem submittedOf_saveAttempt (hsame : saved.submittedAt.isSome = attempt.submittedAt.isSome)
    (kind : AttemptKind) (part : Option Nat) :
    (run.saveAttempt saved).submittedOf kind part =
      Table.put Attempt.id (run.submittedOf kind part) saved := by
  unfold Run.submittedOf
  rw [attemptsOf_saveAttempt hids hmem hb]
  refine filter_put fun other hother hid => ?_
  rw [hids.eq (mem_attemptsOf.mp hother).1 hmem (hid.trans hb.id), hsame]

theorem length_submitted_saveAttempt
    (hsame : saved.submittedAt.isSome = attempt.submittedAt.isSome) (kind : AttemptKind) :
    ((run.saveAttempt saved).submitted kind).length = (run.submitted kind).length := by
  unfold Run.saveAttempt Run.submitted
  rw [filter_put]
  · exact length_map _
  · intro other hother hid
    rw [hids.eq hother hmem (hid.trans hb.id), hb.kind, hsame]

end

theorem attemptsOf_open {run : Run} (h : run.Ordered) {attempt : Attempt}
    (hmem : attempt ∈ run.attempts) (hopen : attempt.submittedAt = none) :
    ∃ front, run.attemptsOf attempt.kind attempt.part = front ++ [attempt] ∧
      (∀ other ∈ front, other.Before attempt) := by
  have hin : attempt ∈ run.attemptsOf attempt.kind attempt.part :=
    mem_attemptsOf.mpr ⟨hmem, rfl, rfl⟩
  obtain ⟨front, back, hsplit⟩ := append_of_mem hin
  have hbefore := (h attempt.kind attempt.part).before
  rw [hsplit] at hbefore
  obtain ⟨_, hback, hcross⟩ := pairwise_append.mp hbefore
  have hnil : back = [] := by
    cases back with
    | nil => rfl
    | cons next rest =>
      have hclosed := ((pairwise_cons.mp hback).1 next mem_cons_self).2
      rw [hopen] at hclosed
      cases hclosed
  subst hnil
  exact ⟨front, hsplit, fun other hother => hcross other hother attempt mem_cons_self⟩

section
variable {run : Run} {attempt saved : Attempt} (hids : Table.Distinct Attempt.id run.attempts)
  (hmem : attempt ∈ run.attempts) (hb : attempt.Becomes saved)
  (hopen : attempt.submittedAt = none) (hclosed : saved.submittedAt.isSome)
include hids hmem hb hopen hclosed

theorem latest_submitted (h : run.Ordered) :
    latest ((run.saveAttempt saved).submittedOf attempt.kind attempt.part) = some saved := by
  obtain ⟨front, hsplit, hbefore⟩ := attemptsOf_open h hmem hopen
  have hfront : ∀ other ∈ front, other.id ≠ saved.id := by
    intro other hother hid
    have hin : other ∈ run.attemptsOf attempt.kind attempt.part := by
      rw [hsplit]
      exact mem_append_left _ hother
    have hlt := (hbefore other hother).1
    rw [hids.eq (mem_attemptsOf.mp hin).1 hmem (hid.trans hb.id)] at hlt
    omega
  have hone : [saved].filter (·.submittedAt.isSome) = [saved] := by simp [hclosed]
  unfold Run.submittedOf
  rw [attemptsOf_saveAttempt hids hmem hb, hsplit, put_append_new hfront hb.id.symm,
    filter_append, hone]
  apply latest_concat
  intro other hother
  rw [hb.number]
  exact (hbefore other (mem_filter.mp hother).1).1

theorem length_submitted_graded :
    ((run.saveAttempt saved).submitted attempt.kind).length =
      (run.submitted attempt.kind).length + 1 := by
  exact length_filter_put hids hmem hb.id.symm (by simp [hopen]) (by simp [hb.kind, hclosed])

end

theorem length_submitted_of_ne {run : Run} {attempt saved : Attempt}
    (hids : Table.Distinct Attempt.id run.attempts) (hmem : attempt ∈ run.attempts)
    (hb : attempt.Becomes saved) {kind : AttemptKind} (hne : attempt.kind ≠ kind) :
    ((run.saveAttempt saved).submitted kind).length = (run.submitted kind).length := by
  unfold Run.saveAttempt Run.submitted
  rw [filter_put]
  · exact length_map _
  · intro other hother hid
    rw [hids.eq hother hmem (hid.trans hb.id)]
    simp [hb.kind, hne]

end LockIn.Study
