import Mathlib.Tactic

/-!
# The proleptic Gregorian calendar

Days are numbered from 1 January of year 1, which is day zero.  `toDays` numbers
a civil date and `ofDays` reads the date of a day, and `toDays_ofDays` says that
nothing is lost on the way.  Adding months keeps the day of the month, clamped to
the length of the month reached, and the fact this file exists for is that it
always moves an instant forward: `lt_advanceMonths`.
-/

namespace Gregorian

/-- A civil date.  Months and days are counted from one. -/
structure Date where
  year : Nat
  month : Nat
  day : Nat

def isLeap (year : Nat) : Bool :=
  year % 4 == 0 && (year % 100 != 0 || year % 400 == 0)

def daysInMonth (year month : Nat) : Nat :=
  match month with
  | 2 => if isLeap year then 29 else 28
  | 4 | 6 | 9 | 11 => 30
  | _ => 31

/-- Days before 1 January of `year`. -/
def daysBeforeYear (year : Nat) : Nat :=
  365 * (year - 1) + (year - 1) / 4 - (year - 1) / 100 + (year - 1) / 400

/-- Days of `year` before the first of `month`. -/
def daysBeforeMonth (year : Nat) : Nat → Nat
  | 0 => 0
  | 1 => 0
  | month + 2 => daysBeforeMonth year (month + 1) + daysInMonth year (month + 1)

def firstOfMonth (year month : Nat) : Nat :=
  daysBeforeYear year + daysBeforeMonth year month

def toDays (date : Date) : Nat :=
  firstOfMonth date.year date.month + (date.day - 1)

structure Date.Valid (date : Date) : Prop where
  year_pos : 1 ≤ date.year
  month_pos : 1 ≤ date.month
  month_le : date.month ≤ 12
  day_pos : 1 ≤ date.day
  day_le : date.day ≤ daysInMonth date.year date.month

/-- The year a day falls in and the day's number within that year.  The two
minima are the last days of a century and of a leap cycle, which the division
would otherwise put in the next one. -/
def splitYear (days : Nat) : Nat × Nat :=
  let n400 := days / 146097
  let inCycle := days % 146097
  let n100 := min (inCycle / 36524) 3
  let inCentury := inCycle - 36524 * n100
  let n4 := inCentury / 1461
  let inLeapCycle := inCentury % 1461
  let n1 := min (inLeapCycle / 365) 3
  (400 * n400 + 100 * n100 + 4 * n4 + n1 + 1, inLeapCycle - 365 * n1)

/-- Walk through the months of `year`, at most `left` of them, until the day
falls in one. -/
def splitMonth (year : Nat) : Nat → Nat → Nat → Nat × Nat
  | 0, month, rest => (month, rest)
  | left + 1, month, rest =>
    if rest < daysInMonth year month then (month, rest)
    else splitMonth year left (month + 1) (rest - daysInMonth year month)

def ofDays (days : Nat) : Date :=
  let inYear := splitYear days
  let inMonth := splitMonth inYear.1 11 1 inYear.2
  ⟨inYear.1, inMonth.1, inMonth.2 + 1⟩

def daysInYear (year : Nat) : Nat :=
  if isLeap year then 366 else 365

theorem daysBeforeMonth_december (year : Nat) :
    daysBeforeMonth year 12 + 31 = daysInYear year := by
  by_cases h : isLeap year = true <;>
    simp [daysBeforeMonth, daysInMonth, daysInYear, h]

theorem daysBeforeYear_succ {year : Nat} (hy : 1 ≤ year) :
    daysBeforeYear (year + 1) = daysBeforeYear year + daysInYear year := by
  obtain ⟨y, rfl⟩ : ∃ y, year = y + 1 := ⟨year - 1, by omega⟩
  have h4 : (y + 1) / 4 = y / 4 + if (y + 1) % 4 = 0 then 1 else 0 := by split <;> omega
  have h100 : (y + 1) / 100 = y / 100 + if (y + 1) % 100 = 0 then 1 else 0 := by split <;> omega
  have h400 : (y + 1) / 400 = y / 400 + if (y + 1) % 400 = 0 then 1 else 0 := by split <;> omega
  have hle : y / 100 ≤ y := Nat.div_le_self y 100
  simp only [daysBeforeYear, daysInYear, Nat.add_sub_cancel, h4, h100, h400]
  by_cases c4 : (y + 1) % 4 = 0
  · by_cases c100 : (y + 1) % 100 = 0
    · by_cases c400 : (y + 1) % 400 = 0
      · simp [isLeap, c4, c100, c400]
        omega
      · simp [isLeap, c100, c400]
        omega
    · have c400 : (y + 1) % 400 ≠ 0 := by omega
      simp [isLeap, c4, c100, c400]
      omega
  · have c100 : (y + 1) % 100 ≠ 0 := by omega
    have c400 : (y + 1) % 400 ≠ 0 := by omega
    simp [isLeap, c4, c100, c400]
    omega

theorem splitYear_spec (days : Nat) :
    1 ≤ (splitYear days).1 ∧
      days = daysBeforeYear (splitYear days).1 + (splitYear days).2 ∧
      (splitYear days).2 < daysInYear (splitYear days).1 := by
  have hleap : ∀ a b c : Nat, b ≤ 3 → c ≤ 24 → (c ≠ 24 ∨ b = 3) →
      isLeap (400 * a + 100 * b + 4 * c + 3 + 1) = true := by
    intro a b c hb hc h
    simp only [isLeap, Bool.and_eq_true, Bool.or_eq_true, beq_iff_eq, bne_iff_ne]
    omega
  simp only [splitYear]
  generalize h400 : days / 146097 = a
  generalize hr1 : days % 146097 = r1
  generalize h100 : min (r1 / 36524) 3 = b
  generalize h4 : (r1 - 36524 * b) / 1461 = c
  generalize hr3 : (r1 - 36524 * b) % 1461 = r3
  generalize h1 : min (r3 / 365) 3 = d
  have hb : b ≤ 3 := by omega
  have hc : c ≤ 24 := by omega
  have hd : d ≤ 3 := by omega
  refine ⟨by omega, ?_, ?_⟩
  · have q4 : (400 * a + 100 * b + 4 * c + d) / 4 = 100 * a + 25 * b + c := by omega
    have q100 : (400 * a + 100 * b + 4 * c + d) / 100 = 4 * a + b := by omega
    have q400 : (400 * a + 100 * b + 4 * c + d) / 400 = a := by omega
    simp only [daysBeforeYear, Nat.add_sub_cancel, q4, q100, q400]
    omega
  · by_cases hlast : r3 - 365 * d < 365
    · have : 365 ≤ daysInYear (400 * a + 100 * b + 4 * c + d + 1) := by
        unfold daysInYear
        split <;> omega
      omega
    · -- The extra day of a leap year closes a four-year cycle.
      have hd3 : d = 3 := by omega
      subst hd3
      have hl := hleap a b c hb hc (by omega)
      simp only [daysInYear, hl, if_true]
      omega

theorem splitMonth_spec (year left month rest : Nat) (hm : 1 ≤ month) (hl : month + left = 12)
    (hr : daysBeforeMonth year month + rest < daysInYear year) :
    1 ≤ (splitMonth year left month rest).1 ∧
      (splitMonth year left month rest).1 ≤ 12 ∧
      (splitMonth year left month rest).2 <
        daysInMonth year (splitMonth year left month rest).1 ∧
      daysBeforeMonth year (splitMonth year left month rest).1 +
        (splitMonth year left month rest).2 = daysBeforeMonth year month + rest := by
  induction left generalizing month rest with
  | zero =>
    have hm12 : month = 12 := by omega
    subst hm12
    have hdec := daysBeforeMonth_december year
    refine ⟨by simp [splitMonth], by simp [splitMonth], ?_, rfl⟩
    show rest < 31
    omega
  | succ left ih =>
    by_cases h : rest < daysInMonth year month
    · simp only [splitMonth, h, if_true]
      exact ⟨hm, by omega, trivial, trivial⟩
    · simp only [splitMonth, h, if_false]
      obtain ⟨k, rfl⟩ : ∃ k, month = k + 1 := ⟨month - 1, by omega⟩
      have hstep : daysBeforeMonth year (k + 1 + 1) =
          daysBeforeMonth year (k + 1) + daysInMonth year (k + 1) := rfl
      have hnext := ih (k + 1 + 1) (rest - daysInMonth year (k + 1)) (by omega) (by omega)
        (by omega)
      omega

theorem ofDays_valid (days : Nat) : (ofDays days).Valid := by
  obtain ⟨hy, _, hlt⟩ := splitYear_spec days
  obtain ⟨h1, h12, hd, _⟩ := splitMonth_spec (splitYear days).1 11 1 (splitYear days).2
    (by omega) (by omega) (by simpa [daysBeforeMonth] using hlt)
  exact ⟨hy, h1, h12, Nat.succ_le_succ (Nat.zero_le _), hd⟩

theorem toDays_ofDays (days : Nat) : toDays (ofDays days) = days := by
  obtain ⟨_, heq, hlt⟩ := splitYear_spec days
  obtain ⟨_, _, _, hsum⟩ := splitMonth_spec (splitYear days).1 11 1 (splitYear days).2
    (by omega) (by omega) (by simpa [daysBeforeMonth] using hlt)
  have h1 : daysBeforeMonth (splitYear days).1 1 = 0 := rfl
  simp only [toDays, ofDays, firstOfMonth]
  omega

/-! ## Adding months

Counting months from year zero turns "a later month" into "a larger number", and
each month starts where the one before it ends. -/

/-- The number of the first day of the month with index `index`. -/
def firstOfIndex (index : Nat) : Nat :=
  firstOfMonth (index / 12) (index % 12 + 1)

theorem firstOfIndex_succ (index : Nat) (h : 12 ≤ index) :
    firstOfIndex (index + 1) =
      firstOfIndex index + daysInMonth (index / 12) (index % 12 + 1) := by
  by_cases hlast : index % 12 = 11
  · have hdiv : (index + 1) / 12 = index / 12 + 1 := by omega
    have hmod : (index + 1) % 12 = 0 := by omega
    have hyear := @daysBeforeYear_succ (index / 12) (by omega)
    have hdec := daysBeforeMonth_december (index / 12)
    simp only [firstOfIndex, firstOfMonth, hdiv, hmod, hlast]
    have h31 : daysInMonth (index / 12) (11 + 1) = 31 := rfl
    have h0 : daysBeforeMonth (index / 12 + 1) (0 + 1) = 0 := rfl
    have h12 : daysBeforeMonth (index / 12) (11 + 1) = daysBeforeMonth (index / 12) 12 := rfl
    omega
  · have hdiv : (index + 1) / 12 = index / 12 := by omega
    have hmod : (index + 1) % 12 = index % 12 + 1 := by omega
    simp only [firstOfIndex, firstOfMonth, hdiv, hmod]
    have hstep : daysBeforeMonth (index / 12) (index % 12 + 1 + 1) =
        daysBeforeMonth (index / 12) (index % 12 + 1) +
          daysInMonth (index / 12) (index % 12 + 1) := rfl
    omega

theorem firstOfIndex_lt {i j : Nat} (hi : 12 ≤ i) (hij : i < j) :
    firstOfIndex i + daysInMonth (i / 12) (i % 12 + 1) ≤ firstOfIndex j := by
  obtain ⟨k, rfl⟩ : ∃ k, j = i + 1 + k := ⟨j - (i + 1), by omega⟩
  induction k with
  | zero => exact Nat.le_of_eq (firstOfIndex_succ i hi).symm
  | succ k ih =>
    have hstep := firstOfIndex_succ (i + 1 + k) (by omega)
    have := ih (by omega)
    rw [show i + 1 + (k + 1) = i + 1 + k + 1 from rfl, hstep]
    omega

def addMonths (date : Date) (months : Nat) : Date :=
  let total := date.month - 1 + months
  let year := date.year + total / 12
  let month := total % 12 + 1
  ⟨year, month, min date.day (daysInMonth year month)⟩

theorem toDays_lt_addMonths {date : Date} (hv : date.Valid) {months : Nat} (hm : 0 < months) :
    toDays date < toDays (addMonths date months) := by
  obtain ⟨hy, h1, h12, hd, hle⟩ := hv
  have hi : (12 * date.year + (date.month - 1)) / 12 = date.year := by omega
  have hi' : (12 * date.year + (date.month - 1)) % 12 + 1 = date.month := by omega
  have hj : (12 * date.year + (date.month - 1) + months) / 12 =
      date.year + (date.month - 1 + months) / 12 := by omega
  have hj' : (12 * date.year + (date.month - 1) + months) % 12 + 1 =
      (date.month - 1 + months) % 12 + 1 := by omega
  have hlt := firstOfIndex_lt (i := 12 * date.year + (date.month - 1))
    (j := 12 * date.year + (date.month - 1) + months) (by omega) (by omega)
  simp only [firstOfIndex, hi, hi', hj, hj'] at hlt
  simp only [toDays, addMonths]
  omega

/-! ## Instants

An instant is the number of microseconds from the midnight that opens 1 January
of year 1.  It is a plain number, so that comparing instants is arithmetic. -/

def day : Nat := 86400000000

/-- `days` whole days after `t`. -/
def addDays (t days : Nat) : Nat := t + days * day

/-- The same time of day as `t`, `months` months later. -/
def advanceMonths (t months : Nat) : Nat :=
  toDays (addMonths (ofDays (t / day)) months) * day + t % day

theorem le_addDays (t days : Nat) : t ≤ addDays t days := Nat.le_add_right _ _

theorem lt_addDays (t : Nat) {days : Nat} (h : 0 < days) : t < addDays t days := by
  have : 0 < days * day := Nat.mul_pos h (by decide)
  exact Nat.lt_add_of_pos_right this

theorem lt_advanceMonths (t : Nat) {months : Nat} (h : 0 < months) :
    t < advanceMonths t months := by
  have hlt := toDays_lt_addMonths (ofDays_valid (t / day)) h
  rw [toDays_ofDays] at hlt
  unfold advanceMonths
  generalize toDays (addMonths (ofDays (t / day)) months) = later at hlt
  simp only [day] at hlt ⊢
  omega

end Gregorian
