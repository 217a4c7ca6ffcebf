import LockIn.Library.Outcome
import LockIn.Library.Stretches
import LockIn.Library.Table

/-!
# Streaks

A learning day is a day on which a student did something that qualifies.  Each activity is recorded
once, and with it the streak is calculated again from all recorded days.  Nothing runs at midnight:
what is stored is the streak as of the day on which the last activity was recorded.
-/

namespace LockIn.Motivation

open Stretches (IsLongest IsLongestEnding)
open List

/-- The active policy.  `day` is the day of an instant in its timezone, if there is such a zone. -/
structure StreakPolicy where
  id : Nat
  qualifyingActivityTypes : List String
  day : Option (ℤ → ℤ)

structure StreakActivity where
  sourceKey : String
  policy : Nat
  activityType : String
  qualifiedOn : ℤ
  occurredAt : ℤ

structure UserStreak where
  policy : Nat
  currentDays : Nat
  longestDays : Nat
  lastQualifiedOn : Option ℤ
  revision : Nat
deriving DecidableEq

/-- What is stored of one user. -/
structure StreakBooks where
  isActive : Bool
  activities : List StreakActivity
  state : Option UserStreak

inductive StreakError where
  | rule (message : String)
  | userDoesNotExist
deriving DecidableEq

structure Activity where
  sourceKey : String
  activityType : String
  occurredAt : ℤ
deriving DecidableEq

def qualifiedDate (policy : StreakPolicy) (occurredAt : ℤ) : Except StreakError ℤ :=
  match policy.day with
  | none => .error (.rule "The active streak policy has an invalid timezone.")
  | some day => .ok (day occurredAt)

/-- `sorted(set(days))` -/
def uniqueDays (days : List ℤ) : List ℤ := days.dedup.insertionSort (· ≤ ·)

structure Streak where
  current : Nat
  longest : Nat
  last : Option ℤ

def calculate (days : List ℤ) (today : ℤ) : Streak :=
  match uniqueDays days with
  | [] => ⟨0, 0, none⟩
  | first :: rest =>
    let longest := (Stretches.scan first 1 1 rest).2
    let last := (first :: rest).getLast (cons_ne_nil first rest)
    let current := Stretches.countBack (first :: rest) ((first :: rest).length - 1) 1
    ⟨if last < today - 1 then 0 else current, longest, some last⟩

/-- `values_list("qualified_on")` of the activities of the policy. -/
def recordedDays (policy : StreakPolicy) (books : StreakBooks) : List ℤ :=
  (books.activities.filter (·.policy = policy.id)).map (·.qualifiedOn)

def emptyStreak (policy : StreakPolicy) : UserStreak := ⟨policy.id, 0, 0, none, 0⟩

def UserStreak.write (state : UserStreak) (policy : StreakPolicy) (streak : Streak) : UserStreak where
  policy := policy.id
  currentDays := streak.current
  longestDays := streak.longest
  lastQualifiedOn := streak.last
  revision := state.revision + 1

def recordActivity (policy : StreakPolicy) (books : StreakBooks) (activity : Activity) (now : ℤ) :
    Except StreakError (StreakBooks × Bool) := do
  if activity.activityType ∉ policy.qualifyingActivityTypes then
    .error (.rule "This activity does not qualify under the active streak policy.")
  else if !books.isActive then .error .userDoesNotExist
  else
    let qualifiedOn ← qualifiedDate policy activity.occurredAt
    let state := books.state.getD (emptyStreak policy)
    if activity.sourceKey ∈ books.activities.map (·.sourceKey) then
      .ok ({ books with state := some state }, false)
    else
      let recorded := { books with
        activities := books.activities ++
          [⟨activity.sourceKey, policy.id, activity.activityType, qualifiedOn, activity.occurredAt⟩] }
      let today ← qualifiedDate policy now
      let streak := calculate (recordedDays policy recorded) today
      match streak.last with
      | none => .error (.rule "A newly recorded streak activity must produce a qualified date.")
      | some _ => .ok ({ recorded with state := some (state.write policy streak) }, true)

def rebuildStreak (policy : StreakPolicy) (books : StreakBooks) (now : ℤ) :
    Except StreakError StreakBooks := do
  let today ← qualifiedDate policy now
  let streak := calculate (recordedDays policy books) today
  .ok { books with state := some ((books.state.getD (emptyStreak policy)).write policy streak) }

section
variable {days other : List ℤ} {today : ℤ}

theorem mem_uniqueDays {day : ℤ} : day ∈ uniqueDays days ↔ day ∈ days := by
  rw [uniqueDays, mem_insertionSort, mem_dedup]

theorem uniqueDays_sorted (days : List ℤ) : (uniqueDays days).Pairwise (· < ·) := by
  have hle : (uniqueDays days).Pairwise (· ≤ ·) := pairwise_insertionSort _ _
  have hnodup : (uniqueDays days).Nodup :=
    (perm_insertionSort _ _).nodup_iff.2 (nodup_dedup days)
  exact (hle.and hnodup).imp fun h => lt_of_le_of_ne h.1 h.2

theorem uniqueDays_congr (h : ∀ day, day ∈ days ↔ day ∈ other) :
    uniqueDays days = uniqueDays other := by
  refine List.Perm.eq_of_pairwise ?_ (uniqueDays_sorted days) (uniqueDays_sorted other) ?_
  · exact fun a b _ _ hab hba => absurd hab (lt_asymm hba)
  · rw [perm_ext_iff_of_nodup ((uniqueDays_sorted days).imp ne_of_lt)
      ((uniqueDays_sorted other).imp ne_of_lt)]
    intro day
    rw [mem_uniqueDays, mem_uniqueDays, h day]

theorem calculate_congr (h : ∀ day, day ∈ days ↔ day ∈ other) (today : ℤ) :
    calculate days today = calculate other today := by
  rw [calculate, calculate, uniqueDays_congr h]

@[simp]
theorem calculate_nil (today : ℤ) : calculate [] today = ⟨0, 0, none⟩ := rfl

/-- What a streak says of some days: their last one, their longest run, and the run that ends at the
last one unless that is before yesterday. -/
structure Describes (streak : Streak) (days : List ℤ) (today : ℤ) : Prop where
  longest : IsLongest days streak.longest
  last : ∃ last, streak.last = some last ∧ IsGreatest {day | day ∈ days} last ∧
    (last < today - 1 → streak.current = 0) ∧
    (¬last < today - 1 → IsLongestEnding days last streak.current)

theorem isLongestEnding_singleton (day : ℤ) : IsLongestEnding [day] day 1 := by
  have hbelow : ∀ d ∈ ([] : List ℤ), d ≤ day - 2 := forall_mem_nil _
  exact Stretches.isLongestEnding_gap hbelow (by omega)

theorem isLongest_singleton (day : ℤ) : IsLongest [day] 1 := by
  have hnil : IsLongest [] 0 := by
    refine ⟨⟨0, fun k hk => by omega⟩, ?_⟩
    rintro n ⟨first, h⟩
    by_contra hpos
    exact absurd (h 0 (by omega)) not_mem_nil
  exact hnil.add (forall_mem_nil _) (isLongestEnding_singleton day)

theorem calculate_describes (hne : days ≠ []) (today : ℤ) :
    Describes (calculate days today) days today := by
  have hsorted := uniqueDays_sorted days
  have hmem (day : ℤ) : day ∈ uniqueDays days ↔ day ∈ days := mem_uniqueDays
  obtain ⟨day, hday⟩ := exists_mem_of_ne_nil days hne
  rw [← hmem day] at hday
  unfold calculate
  cases hunique : uniqueDays days with
  | nil =>
    rw [hunique] at hday
    exact absurd hday not_mem_nil
  | cons first rest =>
    rw [hunique] at hsorted hmem
    constructor
    · have hscan : IsLongest ([first] ++ rest) (Stretches.scan first 1 1 rest).2 :=
        Stretches.scan_spec hsorted rfl (isLongestEnding_singleton first) (isLongest_singleton first)
      exact hscan.congr hmem
    · have hin : (first :: rest).getLast (cons_ne_nil first rest) ∈ first :: rest :=
        getLast_mem _
      have hback : IsLongestEnding (first :: rest)
          ((first :: rest).getLast (cons_ne_nil first rest))
          (Stretches.countBack (first :: rest) ((first :: rest).length - 1) 1) :=
        Stretches.countBack_spec hsorted (by simp) (fun k hk => ?_) Nat.one_pos
      · refine ⟨_, rfl, ⟨(hmem _).1 hin, fun day hday => ?_⟩, fun hold => if_pos hold, fun hnew => ?_⟩
        · obtain ⟨j, hj, rfl⟩ := mem_iff_getElem.1 ((hmem day).2 hday)
          rw [getLast_eq_getElem]
          exact Stretches.getElem_le_of_sorted hsorted _ (by omega)
        · simp only [if_neg hnew]
          exact hback.congr hmem
      · obtain rfl : k = 0 := by omega
        refine ⟨by simp, ?_⟩
        rw [getLast_eq_getElem]
        simp

theorem calculate_any (days : List ℤ) (today other : ℤ) :
    (calculate days other).longest = (calculate days today).longest ∧
      (calculate days other).last = (calculate days today).last := by
  unfold calculate
  cases uniqueDays days with
  | nil => exact ⟨rfl, rfl⟩
  | cons first rest => exact ⟨rfl, rfl⟩

theorem calculate_later (hne : days ≠ []) {later : ℤ} (hle : today ≤ later) :
    ∃ last, (calculate days today).last = some last ∧
      (calculate days later).current =
        if last < later - 1 then 0 else (calculate days today).current := by
  unfold calculate
  cases hunique : uniqueDays days with
  | nil =>
    obtain ⟨day, hday⟩ := exists_mem_of_ne_nil days hne
    rw [← mem_uniqueDays, hunique] at hday
    exact absurd hday not_mem_nil
  | cons first rest =>
    refine ⟨_, rfl, ?_⟩
    simp only
    split_ifs with hlater htoday
    · rfl
    · omega
    · rfl

end

section
variable {policy : StreakPolicy} {books : StreakBooks} {activity : Activity} {now : ℤ}
  {day : ℤ → ℤ}

def Accepted (policy : StreakPolicy) (books : StreakBooks) (activity : Activity) : Prop :=
  activity.activityType ∈ policy.qualifyingActivityTypes ∧ books.isActive = true

def UserStreak.streak (state : UserStreak) : Streak :=
  ⟨state.currentDays, state.longestDays, state.lastQualifiedOn⟩

def newActivity (policy : StreakPolicy) (activity : Activity) (qualifiedOn : ℤ) : StreakActivity where
  sourceKey := activity.sourceKey
  policy := policy.id
  activityType := activity.activityType
  qualifiedOn := qualifiedOn
  occurredAt := activity.occurredAt

theorem recordedDays_append (policy : StreakPolicy) (books : StreakBooks) (activity : Activity)
    (qualifiedOn : ℤ) :
    recordedDays policy { books with
      activities := books.activities ++ [newActivity policy activity qualifiedOn] } =
      recordedDays policy books ++ [qualifiedOn] := by
  simp [recordedDays, newActivity]

theorem qualifiedDate_eq (hday : policy.day = some day) (instant : ℤ) :
    qualifiedDate policy instant = .ok (day instant) := by
  rw [qualifiedDate, hday]

theorem recordActivity_refused (h : ¬Accepted policy books activity) (now : ℤ) :
    ∃ reason, recordActivity policy books activity now = .error reason := by
  unfold recordActivity
  by_cases htype : activity.activityType ∈ policy.qualifyingActivityTypes
  · have hactive : books.isActive = false := by
      rw [← Bool.not_eq_true]
      exact fun hactive => h ⟨htype, hactive⟩
    rw [if_neg (not_not.2 htype), if_pos (by simp [hactive])]
    exact ⟨_, rfl⟩
  · rw [if_pos htype]
    exact ⟨_, rfl⟩

theorem recordActivity_known (hday : policy.day = some day) (h : Accepted policy books activity)
    (hknown : activity.sourceKey ∈ books.activities.map (·.sourceKey)) :
    recordActivity policy books activity now =
      .ok ({ books with state := some (books.state.getD (emptyStreak policy)) }, false) := by
  unfold recordActivity
  rw [if_neg (not_not.2 h.1), if_neg (by simp [h.2]), qualifiedDate_eq hday, Outcome.ok_bind,
    if_pos hknown]

theorem recordActivity_new (hday : policy.day = some day) (h : Accepted policy books activity)
    (hnew : activity.sourceKey ∉ books.activities.map (·.sourceKey)) (now : ℤ) :
    ∃ state, recordActivity policy books activity now =
        .ok ({ books with
          activities := books.activities ++
            [newActivity policy activity (day activity.occurredAt)]
          state := some state }, true) ∧
      state.streak =
        calculate (recordedDays policy books ++ [day activity.occurredAt]) (day now) := by
  unfold recordActivity
  rw [if_neg (not_not.2 h.1), if_neg (by simp [h.2]), qualifiedDate_eq hday, Outcome.ok_bind,
    if_neg hnew, qualifiedDate_eq hday, Outcome.ok_bind]
  have hdays := recordedDays_append policy books activity (day activity.occurredAt)
  rw [newActivity] at hdays
  obtain ⟨last, hlast, -⟩ := (calculate_describes (append_ne_nil_of_right_ne_nil
    (recordedDays policy books) (cons_ne_nil (day activity.occurredAt) [])) (day now)).last
  simp only [hdays, hlast]
  exact ⟨_, rfl, by rw [UserStreak.streak, UserStreak.write]⟩

theorem rebuildStreak_eq (hday : policy.day = some day) (books : StreakBooks) (now : ℤ) :
    ∃ state, rebuildStreak policy books now = .ok { books with state := some state } ∧
      state.streak = calculate (recordedDays policy books) (day now) := by
  rw [rebuildStreak, qualifiedDate_eq hday, Outcome.ok_bind]
  exact ⟨_, rfl, by rw [UserStreak.streak, UserStreak.write]⟩

end

end LockIn.Motivation
