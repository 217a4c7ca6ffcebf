import LockIn.Motivation.Streaks
import LockIn.Motivation.XpLedger

/-!
# Projections beside their ledgers

The stored streak and the stored balances are kept up to date one delivery at a time, and both can
be built again from what was recorded.  The streak is what the recorded days give on the day on
which the last activity was recorded: late and repeated deliveries make no difference, later days do,
since nothing runs at midnight and the reader ends the run.  The balances are the sums of the ledger.
-/

namespace LockIn.Motivation

open List

structure Delivery where
  activity : Activity
  now : ℤ

structure StreakRun where
  books : StreakBooks
  asOf : Option ℤ

def StreakRun.deliver (policy : StreakPolicy) (run : StreakRun) (delivery : Delivery) : StreakRun :=
  match recordActivity policy run.books delivery.activity delivery.now with
  | .ok (books, true) => ⟨books, some delivery.now⟩
  | .ok (books, false) => ⟨books, run.asOf⟩
  | .error _ => run

def StreakRun.start (isActive : Bool) : StreakRun := ⟨⟨isActive, [], none⟩, none⟩

def deliverAll (policy : StreakPolicy) (isActive : Bool) (deliveries : List Delivery) : StreakRun :=
  deliveries.foldl (StreakRun.deliver policy) (StreakRun.start isActive)

section
variable {policy : StreakPolicy} {day : ℤ → ℤ} {run : StreakRun} {delivery : Delivery}
  {deliveries other : List Delivery} {isActive : Bool} {now : ℤ}

/-- What is recorded of the deliveries, and what is stored beside it: nothing before the first
activity, and what was calculated when the last one was recorded after that. -/
structure StreakRun.Kept (policy : StreakPolicy) (day : ℤ → ℤ) (isActive : Bool)
    (delivered : List Delivery) (run : StreakRun) : Prop where
  active : run.books.isActive = isActive
  policies : ∀ row ∈ run.books.activities, row.policy = policy.id
  known : ∀ row ∈ run.books.activities, ∃ delivery ∈ delivered,
    Accepted policy run.books delivery.activity ∧ row = newActivity policy delivery.activity
      (day delivery.activity.occurredAt)
  recorded : ∀ delivery ∈ delivered, Accepted policy run.books delivery.activity →
    delivery.activity.sourceKey ∈ run.books.activities.map (·.sourceKey)
  once : (run.books.activities.map (·.sourceKey)).Nodup
  empty : run.books.activities = [] → run.books.state = none ∧ run.asOf = none
  stored : run.books.activities ≠ [] → ∃ now state, run.asOf = some now ∧
    run.books.state = some state ∧
    state.streak = calculate (recordedDays policy run.books) (day now)

theorem StreakRun.Kept.start (policy : StreakPolicy) (day : ℤ → ℤ) (isActive : Bool) :
    (StreakRun.start isActive).Kept policy day isActive [] where
  active := rfl
  policies := forall_mem_nil _
  known := forall_mem_nil _
  recorded := forall_mem_nil _
  once := nodup_nil
  empty := fun _ => ⟨rfl, rfl⟩
  stored := fun h => absurd rfl h

theorem StreakRun.Kept.deliver {delivered : List Delivery} (hday : policy.day = some day)
    (h : run.Kept policy day isActive delivered) (delivery : Delivery) :
    (run.deliver policy delivery).Kept policy day isActive (delivered ++ [delivery]) := by
  have hgrown {row : StreakActivity} (hrow : row ∈ run.books.activities) :
      ∃ earlier ∈ delivered ++ [delivery], Accepted policy run.books earlier.activity ∧
        row = newActivity policy earlier.activity (day earlier.activity.occurredAt) := by
    obtain ⟨earlier, hearlier, hrest⟩ := h.known row hrow
    exact ⟨earlier, mem_append_left _ hearlier, hrest⟩
  by_cases haccepted : Accepted policy run.books delivery.activity
  · by_cases hknown : delivery.activity.sourceKey ∈ run.books.activities.map (·.sourceKey)
    · have hsame : run.deliver policy delivery = ⟨{ run.books with
          state := some (run.books.state.getD (emptyStreak policy)) }, run.asOf⟩ := by
        rw [StreakRun.deliver, recordActivity_known hday haccepted hknown]
      rw [hsame]
      refine ⟨h.active, h.policies, fun row hrow => hgrown hrow, ?_, h.once, ?_, ?_⟩
      · intro earlier hearlier hin
        rcases mem_append.1 hearlier with hold | hself
        · exact h.recorded earlier hold hin
        · rw [mem_singleton.1 hself]
          exact hknown
      · intro hnone
        rw [show run.books.activities = [] from hnone] at hknown
        exact absurd hknown not_mem_nil
      · intro hsome
        obtain ⟨now, state, hasOf, hstate, hstreak⟩ := h.stored hsome
        exact ⟨now, state, hasOf, by rw [hstate, Option.getD_some], hstreak⟩
    · obtain ⟨state, hrecord, hstreak⟩ :=
        recordActivity_new hday haccepted hknown delivery.now
      have hsame : run.deliver policy delivery = ⟨{ run.books with
          activities := run.books.activities ++
            [newActivity policy delivery.activity (day delivery.activity.occurredAt)]
          state := some state }, some delivery.now⟩ := by
        rw [StreakRun.deliver, hrecord]
      rw [hsame]
      refine ⟨h.active, ?_, ?_, ?_, ?_, fun hnone => ?_, fun _ => ?_⟩
      · refine Table.forall_mem_append h.policies ?_
        rfl
      · intro row hrow
        rcases mem_append.1 hrow with hold | hself
        · exact hgrown hold
        · exact ⟨delivery, by simp, haccepted, mem_singleton.1 hself⟩
      · intro earlier hearlier hin
        rw [map_append, mem_append]
        rcases mem_append.1 hearlier with hold | hself
        · exact .inl (h.recorded earlier hold hin)
        · rw [mem_singleton.1 hself]
          exact .inr (mem_singleton.2 rfl)
      · have honce : Table.Distinct StreakActivity.sourceKey run.books.activities := h.once
        exact honce.append fun row hrow hkey => hknown (mem_map.2 ⟨row, hrow, hkey⟩)
      · simp at hnone
      · refine ⟨delivery.now, state, rfl, rfl, ?_⟩
        rw [hstreak, ← recordedDays_append]
        rfl
  · obtain ⟨reason, hrefused⟩ := recordActivity_refused haccepted delivery.now
    have hsame : run.deliver policy delivery = run := by
      rw [StreakRun.deliver, hrefused]
    rw [hsame]
    refine ⟨h.active, h.policies, fun row hrow => hgrown hrow, ?_, h.once, h.empty, h.stored⟩
    intro earlier hearlier hin
    rcases mem_append.1 hearlier with hold | hself
    · exact h.recorded earlier hold hin
    · rw [mem_singleton.1 hself] at hin
      exact absurd hin haccepted

theorem StreakRun.Kept.deliverAll (hday : policy.day = some day) (isActive : Bool)
    (deliveries : List Delivery) :
    (deliverAll policy isActive deliveries).Kept policy day isActive deliveries := by
  induction deliveries using List.reverseRecOn with
  | nil => exact StreakRun.Kept.start policy day isActive
  | append_singleton deliveries delivery ih =>
    rw [Motivation.deliverAll, foldl_append]
    exact ih.deliver hday delivery

/-- Every source names one activity. -/
def Consistent (deliveries : List Delivery) : Prop :=
  ∀ first ∈ deliveries, ∀ second ∈ deliveries,
    first.activity.sourceKey = second.activity.sourceKey → first.activity = second.activity

/-- The recorded days are the days of the activities that were delivered, each as often and in
whichever order. -/
theorem mem_recordedDays (hday : policy.day = some day) (hconsistent : Consistent deliveries)
    (date : ℤ) :
    date ∈ recordedDays policy (deliverAll policy isActive deliveries).books ↔
      ∃ delivery ∈ deliveries,
        (delivery.activity.activityType ∈ policy.qualifyingActivityTypes ∧ isActive = true) ∧
        day delivery.activity.occurredAt = date := by
  have h := StreakRun.Kept.deliverAll hday isActive deliveries
  have haccepted (activity : Activity) :
      Accepted policy (deliverAll policy isActive deliveries).books activity ↔
        activity.activityType ∈ policy.qualifyingActivityTypes ∧ isActive = true := by
    rw [Accepted, h.active]
  constructor
  · intro hdate
    obtain ⟨row, hrow, rfl⟩ := mem_map.1 hdate
    obtain ⟨delivery, hdelivery, hin, rfl⟩ := h.known row (mem_filter.1 hrow).1
    exact ⟨delivery, hdelivery, (haccepted _).1 hin, rfl⟩
  · rintro ⟨delivery, hdelivery, hin, rfl⟩
    obtain ⟨row, hrow, hkey⟩ := mem_map.1 (h.recorded delivery hdelivery ((haccepted _).2 hin))
    obtain ⟨earlier, hearlier, -, rfl⟩ := h.known row hrow
    have hsame := hconsistent earlier hearlier delivery hdelivery hkey
    rw [← hsame]
    exact mem_map.2 ⟨_, mem_filter.2 ⟨hrow, by simp [newActivity]⟩, rfl⟩

theorem recordedDays_congr (hday : policy.day = some day) (hdeliveries : Consistent deliveries)
    (hother : Consistent other)
    (hsame : ∀ activity, activity ∈ deliveries.map Delivery.activity ↔
      activity ∈ other.map Delivery.activity) (date : ℤ) :
    date ∈ recordedDays policy (deliverAll policy isActive deliveries).books ↔
      date ∈ recordedDays policy (deliverAll policy isActive other).books := by
  have hpass {first second : List Delivery}
      (hsame : ∀ activity, activity ∈ first.map Delivery.activity →
        activity ∈ second.map Delivery.activity)
      (h : ∃ delivery ∈ first,
        (delivery.activity.activityType ∈ policy.qualifyingActivityTypes ∧ isActive = true) ∧
        day delivery.activity.occurredAt = date) :
      ∃ delivery ∈ second,
        (delivery.activity.activityType ∈ policy.qualifyingActivityTypes ∧ isActive = true) ∧
        day delivery.activity.occurredAt = date := by
    obtain ⟨delivery, hdelivery, hrest⟩ := h
    obtain ⟨again, hagain, heq⟩ := mem_map.1
      (hsame delivery.activity (mem_map.2 ⟨delivery, hdelivery, rfl⟩))
    exact ⟨again, hagain, by rw [heq]; exact hrest⟩
  rw [mem_recordedDays hday hdeliveries, mem_recordedDays hday hother]
  exact ⟨hpass fun activity => (hsame activity).1, hpass fun activity => (hsame activity).2⟩

/-- The stored streak is the one of the recorded days, as of the day on which the last activity was
recorded.  A rebuild finds the same one, but for a run that has become too old since. -/
structure StreakRun.Faithful (policy : StreakPolicy) (day : ℤ → ℤ) (run : StreakRun) : Prop where
  once : (run.books.activities.map (·.sourceKey)).Nodup
  empty : run.asOf = none → run.books.state = none ∧ recordedDays policy run.books = []
  stored : ∀ recordedAt, run.asOf = some recordedAt → ∃ state, run.books.state = some state ∧
    Describes state.streak (recordedDays policy run.books) (day recordedAt) ∧
    ∀ now, ∃ rebuilt last,
      rebuildStreak policy run.books now = .ok { run.books with state := some rebuilt } ∧
      rebuilt.longestDays = state.longestDays ∧ state.lastQualifiedOn = some last ∧
      rebuilt.lastQualifiedOn = some last ∧
      (day now = day recordedAt → rebuilt.currentDays = state.currentDays) ∧
      (day recordedAt ≤ day now →
        rebuilt.currentDays = if last < day now - 1 then 0 else state.currentDays)

theorem StreakRun.Kept.faithful (hday : policy.day = some day)
    (h : run.Kept policy day isActive deliveries) : run.Faithful policy day where
  once := h.once
  empty := by
    intro hnone
    by_cases hactivities : run.books.activities = []
    · exact ⟨(h.empty hactivities).1, by simp [recordedDays, hactivities]⟩
    · obtain ⟨now, state, hsome, -⟩ := h.stored hactivities
      rw [hnone] at hsome
      cases hsome
  stored := by
    intro recordedAt hasOf
    have hactivities : run.books.activities ≠ [] := by
      intro hnone
      rw [(h.empty hnone).2] at hasOf
      cases hasOf
    have hdays : recordedDays policy run.books ≠ [] := by
      obtain ⟨row, hrow⟩ := exists_mem_of_ne_nil _ hactivities
      exact ne_nil_of_mem (mem_map.2
        ⟨row, mem_filter.2 ⟨hrow, decide_eq_true (h.policies row hrow)⟩, rfl⟩)
    obtain ⟨stamp, state, hat, hstate, hstreak⟩ := h.stored hactivities
    obtain rfl : recordedAt = stamp := Option.some.inj (hasOf.symm.trans hat)
    refine ⟨state, hstate, hstreak ▸ calculate_describes hdays _, fun now => ?_⟩
    obtain ⟨rebuilt, hrebuild, hrebuilt⟩ := rebuildStreak_eq hday run.books now
    obtain ⟨hlongest, hlast⟩ :=
      calculate_any (recordedDays policy run.books) (day recordedAt) (day now)
    rw [← hrebuilt, ← hstreak] at hlongest hlast
    obtain ⟨last, hsome, -⟩ := (calculate_describes hdays (day recordedAt)).last
    rw [← hstreak] at hsome
    refine ⟨rebuilt, last, hrebuild, hlongest, hsome, hlast.trans hsome, fun hsame => ?_,
      fun hle => ?_⟩
    · have heq : rebuilt.streak = state.streak := by rw [hrebuilt, hstreak, hsame]
      exact congrArg Streak.current heq
    · obtain ⟨last', hsome', hcurrent⟩ := calculate_later hdays hle
      rw [← hstreak] at hsome' hcurrent
      rw [← hrebuilt] at hcurrent
      obtain rfl : last = last' := Option.some.inj (hsome.symm.trans hsome')
      exact hcurrent

end

/-- Whatever is delivered, in whichever order and however often, the stored streak is the one of the
recorded days as of the last recording, two deliveries of the same activities record the same days,
and the stored balances are the sums of a ledger that pays every source once under a rule.  A
rebuild of a balance only counts its revision up. -/
theorem projections_follow_ledgers (policy : StreakPolicy) (day : ℤ → ℤ)
    (hday : policy.day = some day) (isActive : Bool) (deliveries : List Delivery)
    (calls : List XpCall) :
    (deliverAll policy isActive deliveries).Faithful policy day ∧
      (∀ other, Consistent deliveries → Consistent other →
        (∀ activity, activity ∈ deliveries.map Delivery.activity ↔
          activity ∈ other.map Delivery.activity) →
        ∀ today, calculate (recordedDays policy (deliverAll policy isActive deliveries).books) today =
          calculate (recordedDays policy (deliverAll policy isActive other).books) today) ∧
      (XpBooks.empty.run calls).Kept ∧
      ∀ user, (rebuildBalance (XpBooks.empty.run calls) user).transactions =
          (XpBooks.empty.run calls).transactions ∧
        ∀ who, (rebuildBalance (XpBooks.empty.run calls) user).balance who =
          if who = user then
            { (XpBooks.empty.run calls).balance user with
              revision := ((XpBooks.empty.run calls).balance user).revision + 1 }
          else (XpBooks.empty.run calls).balance who := by
  refine ⟨(StreakRun.Kept.deliverAll hday isActive deliveries).faithful hday, ?_,
    XpBooks.Kept.run calls, fun user => (XpBooks.Kept.run calls).rebuildBalance_eq user⟩
  intro other hdeliveries hother hsame today
  exact calculate_congr (recordedDays_congr hday hdeliveries hother hsame) today

def utcDay (instant : ℤ) : ℤ := instant / 86400

def learningDays : StreakPolicy :=
  ⟨1, ["lesson.completed", "assessment.passed", "focus.deep_session"], some utcDay⟩

def lesson : Activity := ⟨"lesson:1", "lesson.completed", 40000⟩

/-- The lesson arrives on its day, and once more two days later. -/
def lessonTwice : List Delivery := [⟨lesson, 40000⟩, ⟨lesson, 220000⟩]

def lessonAward : XpTransaction :=
  ⟨1, "lesson:1", none, "lesson.completed", none, "lesson", 20, "learning", "Lesson completed",
    true, 40000⟩

def nextLesson : Activity := ⟨"lesson:2", "lesson.completed", 130000⟩

def thirdLesson : Activity := ⟨"lesson:3", "lesson.completed", 210000⟩

/-- The lesson of the day in between arrives last. -/
def lateLesson : List Delivery := [⟨lesson, 40000⟩, ⟨thirdLesson, 210000⟩, ⟨nextLesson, 220000⟩]

def lessonsInOrder : List Delivery :=
  [⟨lesson, 40000⟩, ⟨nextLesson, 130000⟩, ⟨lesson, 135000⟩, ⟨thirdLesson, 210000⟩]

theorem late_lesson_faithful :
    (deliverAll learningDays true lateLesson).books.state = some ⟨1, 3, 3, some 2, 3⟩ ∧
      (deliverAll learningDays true lateLesson).Faithful learningDays utcDay ∧
      (∀ today, calculate
          (recordedDays learningDays (deliverAll learningDays true lateLesson).books) today =
        calculate
          (recordedDays learningDays (deliverAll learningDays true lessonsInOrder).books) today) ∧
      (XpBooks.empty.run [.award true lessonAward, .award true lessonAward]).Kept := by
  obtain ⟨hfaithful, horders, hkept, _⟩ := projections_follow_ledgers learningDays utcDay rfl true
    lateLesson [.award true lessonAward, .award true lessonAward]
  have hlate : Consistent lateLesson := by unfold Consistent; decide
  have hother : Consistent lessonsInOrder := by unfold Consistent; decide
  refine ⟨by decide, hfaithful, horders lessonsInOrder hlate hother fun activity => ?_, hkept⟩
  simp only [lateLesson, lessonsInOrder, map_cons, map_nil, mem_cons,
    not_mem_nil]
  tauto

/-- The second arrival calculates nothing: the stored run is one day long when a rebuild at that
instant finds it ended.  The rebuilt balance has another revision. -/
theorem stale_run_is_kept :
    (deliverAll learningDays true lessonTwice).books.state = some ⟨1, 1, 1, some 0, 1⟩ ∧
      (rebuildStreak learningDays (deliverAll learningDays true lessonTwice).books 220000).map
          (·.state) = .ok (some ⟨1, 0, 1, some 0, 2⟩) ∧
      (XpBooks.empty.run [.award true lessonAward]).balance 1 = ⟨20, 20, 1, some 40000, 1⟩ ∧
      (rebuildBalance (XpBooks.empty.run [.award true lessonAward]) 1).balance 1 =
        ⟨20, 20, 1, some 40000, 2⟩ := by
  decide

end LockIn.Motivation
