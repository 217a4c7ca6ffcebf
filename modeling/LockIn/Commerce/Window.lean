import LockIn.Commerce.Rows

/-!
# The window a purchase pays for

`paidPeriodWindow` picks the instant paid time starts at, its anchor, from the
state of the subscription, and ends the window a billing interval later or at the
fixed end of a term plan.  It is used when a card is submitted, on the
subscription as it is, and again when the card is approved, on the state saved at
submission.
-/

namespace LockIn.Commerce

open Gregorian

/-- The arithmetic of `advance_billing_period`, which does not depend on its check. -/
def advanceInterval (start : Nat) (interval : Interval) (count : Nat) : Nat :=
  match interval with
  | .day => addDays start count
  | .month => advanceMonths start count
  | .year => advanceMonths start (count * 12)

def advanceBillingPeriod (start : Nat) (interval : Interval) (count : Nat) :
    Except CommerceError Nat :=
  if count = 0 then .error (.value "A billing interval count must be positive.")
  else .ok (advanceInterval start interval count)

variable {count : Nat} {price : Price}

theorem lt_advanceInterval (start : Nat) (interval : Interval) (h : 0 < count) :
    start < advanceInterval start interval count := by
  cases interval with
  | day => exact lt_addDays start h
  | month => exact lt_advanceMonths start h
  | year => exact lt_advanceMonths start (by omega)

theorem advanceBillingPeriod_eq (start : Nat) (interval : Interval) (h : 0 < count) :
    advanceBillingPeriod start interval count = .ok (advanceInterval start interval count) :=
  if_neg (by omega)

def paidPeriodAnchor (s : SubscriptionState) (effectiveAt : Nat) : Nat :=
  if s.status = .trialing ∧ s.trialEndsAt.any (effectiveAt < ·) then
    s.trialEndsAt.getD effectiveAt
  else if ((s.status = .active ∨ s.status = .grace) ∧ s.currentPeriodEndsAt.isSome) ∨
      (s.currentPeriodEndsAt.isSome ∧ s.graceEndsAt.any (effectiveAt ≤ ·)) then
    s.currentPeriodEndsAt.getD effectiveAt
  else effectiveAt

def paidPeriodWindow (s : SubscriptionState) (price : Price) (effectiveAt : Nat) :
    Except CommerceError (Nat × Nat) :=
  let anchor := paidPeriodAnchor s effectiveAt
  match fixedPeriodEnd price.planVersion with
  | some fixedEnd =>
    if fixedEnd ≤ anchor then .error (.value "This term has already ended.")
    else .ok (anchor, fixedEnd)
  | none =>
    match advanceBillingPeriod anchor price.interval price.intervalCount with
    | .error e => .error e
    | .ok endsAt => .ok (anchor, endsAt)

/-- The instant a window opened at `anchor` closes at. -/
def windowEnd (price : Price) (anchor : Nat) : Nat :=
  match fixedPeriodEnd price.planVersion with
  | some fixedEnd => fixedEnd
  | none => advanceInterval anchor price.interval price.intervalCount

theorem paidPeriodWindow_ok {s : SubscriptionState} {effectiveAt : Nat} {window : Nat × Nat}
    (h : paidPeriodWindow s price effectiveAt = .ok window) :
    window = (paidPeriodAnchor s effectiveAt, windowEnd price (paidPeriodAnchor s effectiveAt)) ∧
      window.1 < window.2 := by
  unfold paidPeriodWindow at h
  cases hf : fixedPeriodEnd price.planVersion with
  | some fixedEnd =>
    simp only [hf] at h
    by_cases hle : fixedEnd ≤ paidPeriodAnchor s effectiveAt
    · rw [if_pos hle] at h
      simp at h
    · rw [if_neg hle] at h
      cases h
      exact ⟨by simp only [windowEnd, hf], by simpa using hle⟩
  | none =>
    simp only [hf, advanceBillingPeriod_eq _ _ price.interval_pos] at h
    cases h
    exact ⟨by simp only [windowEnd, hf], lt_advanceInterval _ _ price.interval_pos⟩

theorem paidPeriodWindow_rolling (h : fixedPeriodEnd price.planVersion = none)
    (s : SubscriptionState) (effectiveAt : Nat) :
    paidPeriodWindow s price effectiveAt =
      .ok (paidPeriodAnchor s effectiveAt,
        advanceInterval (paidPeriodAnchor s effectiveAt) price.interval price.intervalCount) := by
  unfold paidPeriodWindow
  simp only [h, advanceBillingPeriod_eq _ _ price.interval_pos]

end LockIn.Commerce
