import LockIn.Commerce.PurchaseSpec
import LockIn.Commerce.System

/-!
# Paid time and what a provider settles

Paid time bought at an instant without access should start at that instant.
`paidPeriodWindow` does so exactly when no paid period is left on the row to anchor
at: an end that is still stored draws the window to itself when the row says active
or grace, whatever has passed since, and when the row says anything else but its
grace end has not passed.

A payment that a provider or two administrators report as succeeded is settled by the
handler of `PaymentSucceeded`, which opens a period at the effective instant and ends it a
billing interval later.  The review of a card asks `paidPeriodWindow` instead.  The two
agree on a rolling price exactly when the handler carries its activation out, the row is in
no running trial and nothing on it draws paid time away; a term plan they agree on only
where its calendar end happens to lie one interval ahead.
-/

namespace LockIn.Commerce

open Gregorian List Outcome

/-- Nothing on the row draws paid time away from `t`: there is no period end, or it is
`t` itself, or the row is neither active nor in grace and its grace end has passed. -/
def SubscriptionState.Cleared (s : SubscriptionState) (t : Nat) : Prop :=
  s.currentPeriodEndsAt = none ∨ s.currentPeriodEndsAt = some t ∨
    ((s.status ≠ .active ∧ s.status ≠ .grace) ∧ s.graceEndsAt.all (· < t))

/-- The row is in a trial that ends after `t`. -/
def SubscriptionState.TrialRuns (s : SubscriptionState) (t : Nat) : Prop :=
  s.status = .trialing ∧ s.trialEndsAt.any (t < ·) = true

variable {s : SubscriptionState} {t paymentId effectiveAt : Nat} {p : Payment}

theorem trial_over_of_not_live (h : s.live t = false) : ¬s.TrialRuns t := by
  rintro ⟨hs, ht⟩
  simp [SubscriptionState.live, hs, ht] at h

theorem graceEnd_all_lt_iff (endsAt : Option Nat) (t : Nat) :
    endsAt.all (· < t) = !endsAt.any (t ≤ ·) := by
  cases endsAt with
  | none => rfl
  | some g =>
    by_cases h : g < t
    · simp [h]
    · simp [h, Nat.le_of_not_lt h]

/-- Outside a running trial the anchor is the instant itself exactly when the row is
clear. -/
theorem paidPeriodAnchor_eq_iff (h : ¬s.TrialRuns t) : paidPeriodAnchor s t = t ↔ s.Cleared t := by
  have hover : ¬(s.status = .trialing ∧ s.trialEndsAt.any (t < ·) = true) := h
  unfold paidPeriodAnchor SubscriptionState.Cleared
  rw [if_neg hover, graceEnd_all_lt_iff]
  cases hp : s.currentPeriodEndsAt with
  | none => simp
  | some p =>
    by_cases hs : s.status = .active ∨ s.status = .grace
    · have hs' : ¬(s.status ≠ .active ∧ s.status ≠ .grace) := by tauto
      simp [hs, hs']
    · have hs' : s.status ≠ .active ∧ s.status ≠ .grace := by tauto
      by_cases hg : s.graceEndsAt.any (t ≤ ·) = true
      · simp [hg]
      · simp [hs', hg]

/-- At an instant without access a rolling price opens its window at that instant
exactly when no stored period is left to anchor at. -/
theorem paidPeriodWindow_starts_now_iff (s : SubscriptionState) (price : Price)
    (effectiveAt : Nat) (hrolling : fixedPeriodEnd price.planVersion = none)
    (hnone : s.live effectiveAt = false) :
    paidPeriodWindow s price effectiveAt =
        (advanceBillingPeriod effectiveAt price.interval price.intervalCount).map
          (fun endsAt => (effectiveAt, endsAt)) ↔
      s.Cleared effectiveAt := by
  rw [paidPeriodWindow_rolling hrolling, advanceBillingPeriod_eq _ _ price.interval_pos,
    ← paidPeriodAnchor_eq_iff (trial_over_of_not_live hnone)]
  constructor
  · intro h
    have hpair := Except.ok.inj h
    exact congrArg Prod.fst hpair
  · intro h
    rw [h]
    rfl

def cancelledEarly : SubscriptionState :=
  { SubscriptionState.blank .cancelled rollingVersion "admin_cancelled" with
    currentPeriodStartedAt := some (10 * day), currentPeriodEndsAt := some (40 * day)
    graceEndsAt := some (47 * day), endedAt := some (20 * day) }

/-- Bought again on the day of the cancellation, the window opens at the end of the
cancelled period. -/
theorem paidPeriodWindow_regrants_cancelled_period :
    ¬∀ (s : SubscriptionState) (price : Price) (effectiveAt : Nat),
      fixedPeriodEnd price.planVersion = none → s.live effectiveAt = false →
      paidPeriodWindow s price effectiveAt =
        (advanceBillingPeriod effectiveAt price.interval price.intervalCount).map
          (fun endsAt => (effectiveAt, endsAt)) := by
  intro h
  have hwindow := h cancelledEarly (thirtyDays rollingVersion) (20 * day) rfl (by decide)
  have hreal : paidPeriodWindow cancelledEarly (thirtyDays rollingVersion) (20 * day) =
      .ok (40 * day, 70 * day) := by decide
  rw [hreal] at hwindow
  exact absurd hwindow (by decide)

/-- Bought again once the grace end of the cancelled period has passed, it opens at once. -/
theorem paidPeriodWindow_starts_now_after_grace :
    paidPeriodWindow cancelledEarly (thirtyDays rollingVersion) (48 * day) =
        (advanceBillingPeriod (48 * day) .day 30).map (fun endsAt => (48 * day, endsAt)) ↔
      cancelledEarly.Cleared (48 * day) :=
  paidPeriodWindow_starts_now_iff cancelledEarly (thirtyDays rollingVersion) (48 * day) rfl
    (by decide)

def SubscriptionStatus.occupies : SubscriptionStatus → Bool
  | .trialing | .active | .grace | .suspended => true
  | _ => false

def Account.occupied (account : Account) : Bool :=
  account.subscription.any (·.status.occupies)

def replacementRequest (paymentId effectiveAt : Nat) : TransitionRequest :=
  { toStatus := .cancelled
    reasonCode := "plan_replaced"
    effectiveAt := effectiveAt
    key := .replacement paymentId
    periodStartedAt := none
    periodEndsAt := none
    allowOutOfOrder := false }

/-- The other subscriptions of the account, each with its own history.  The first live one
is cancelled. -/
def replaceOtherLive (others : List Account) (paymentId effectiveAt now : Nat) :
    Except CommerceError (List Account) :=
  match others with
  | [] => .ok []
  | other :: rest =>
    if other.occupied then do
      let result ← transitionSubscription other (replacementRequest paymentId effectiveAt) now
      return result.account :: rest
    else do
      let rest ← replaceOtherLive rest paymentId effectiveAt now
      return other :: rest

def settledRequest (paymentId effectiveAt periodEnd : Nat) : TransitionRequest :=
  { toStatus := .active
    reasonCode := "payment_succeeded"
    effectiveAt := effectiveAt
    key := .paymentSucceeded paymentId
    periodStartedAt := some effectiveAt
    periodEndsAt := some periodEnd
    allowOutOfOrder := false }

/-- The activation of the paid subscription.  The table keeps one live subscription to an
account. -/
def activatePaid (account : Account) (others : List Account) (p : Payment)
    (effectiveAt now : Nat) : Except CommerceError TransitionResult := do
  let periodEnd ← advanceBillingPeriod effectiveAt p.price.interval p.price.intervalCount
  let result ← transitionSubscription account (settledRequest p.id effectiveAt periodEnd) now
  Outcome.refuse
    [(result.changed && others.any Account.occupied,
      .integrity "subscription_one_live_per_account")]
  return result

/-- What the handler has committed when it ends, and whether its activation moved the row. -/
structure Settlement where
  account : Account
  others : List Account
  moved : Bool

/-- `_payment_succeeded`, on the account of the payment's subscription and beside it the
other subscriptions.  Its services commit one by one.  The event bus swallows what one of
them raises, and what was committed before stays. -/
def paymentSucceeded (account : Account) (others : List Account) (paymentId effectiveAt now : Nat) :
    Settlement :=
  match account.payment? paymentId with
  | none => ⟨account, others, false⟩
  | some p =>
    match replaceOtherLive others p.id effectiveAt now with
    | .error _ => ⟨account, others, false⟩
    | .ok others =>
      match activatePaid account others p effectiveAt now with
      | .error _ => ⟨account, others, false⟩
      | .ok result =>
        match invoiceReviewed result.account p.id now with
        | .error _ => ⟨result.account, others, result.changed⟩
        | .ok account => ⟨account, others, result.changed⟩

theorem invoiceReviewed_row {account result : Account} {now : Nat}
    (h : invoiceReviewed account paymentId now = .ok result) :
    result.subscription = account.subscription ∧ result.transitions = account.transitions := by
  unfold invoiceReviewed at h
  split at h
  · obtain ⟨q, _, h⟩ := bind_eq_ok.mp h
    cases h
    exact ⟨rfl, rfl⟩
  · simp at h

/-- A transition is carried out: its key is unspent, nothing in the history is later, the
status allows it, and a purchase that awaits review under the current policy has a
submission to read the access from. -/
structure Moves (account : Account) (r : TransitionRequest) : Prop where
  fresh : account.spent r.key = false
  inOrder : (latestEffectiveAt account.transitions).any (r.effectiveAt < ·) = false
  allowed : ∃ s, account.subscription = some s ∧ r.toStatus ∈ s.status.allowedNext
  submitted : ∀ s p, account.subscription = some s →
    s.provisionalPaymentId.bind account.payment? = some p → p.policyVersion = userPolicyVersion →
    p.manualSubmission.isSome = true

theorem accessTerms_ok_iff (account : Account) (s : Subscription) (now : Nat) :
    (∃ terms, accessTerms account s now = .ok terms) ↔
      ∀ p, s.provisionalPaymentId.bind account.payment? = some p →
        p.policyVersion = userPolicyVersion → p.manualSubmission.isSome = true := by
  unfold accessTerms
  cases hp : s.provisionalPaymentId.bind account.payment? with
  | none => simp
  | some p =>
    by_cases hpolicy : p.policyVersion = userPolicyVersion
    · cases hsubmission : p.manualSubmission with
      | none => simp [hpolicy, hsubmission]
      | some submission => simp [hpolicy, hsubmission]
    · simp [hpolicy]

theorem transition_moves_iff (account : Account) (r : TransitionRequest) (now : Nat)
    (horder : r.allowOutOfOrder = false)
    (hperiod : (r.periodStartedAt.any fun start => r.periodEndsAt.any (· ≤ start)) = false) :
    (∃ result, transitionSubscription account r now = .ok result ∧ result.changed = true) ↔
      Moves account r := by
  constructor
  · rintro ⟨result, h, hchanged⟩
    obtain ⟨s, hs, ⟨_, rfl⟩ | ⟨_, _, _, rfl⟩ | ⟨hfresh, hallowed, _, hsync⟩⟩ :=
      transitionSubscription_cases h
    · simp at hchanged
    · simp at hchanged
    · have htime : (latestEffectiveAt account.transitions).any (r.effectiveAt < ·) = false := by
        by_contra hlate
        unfold transitionSubscription at h
        simp only [hs, hfresh, horder, Bool.eq_true_of_not_eq_false hlate] at h
        cases h
        simp at hchanged
      obtain ⟨t, terms, ht, hterms, _⟩ := syncSubscriptionEntitlements_ok hsync
      cases ht
      have hread := (accessTerms_ok_iff _ _ _).mp ⟨terms, hterms⟩
      refine ⟨hfresh, htime, ⟨s, hs, hallowed⟩, fun u p hu hp => ?_⟩
      obtain rfl : s = u := Option.some.inj (hs.symm.trans hu)
      exact hread p hp
  · rintro ⟨hfresh, htime, ⟨s, hs, hallowed⟩, hread⟩
    obtain ⟨terms, hterms⟩ := (accessTerms_ok_iff (account.moved s r) (s.transitioned r) now).mpr
      fun p hp => hread s p hs hp
    have hvalid : validateTransition s.status r.toStatus = .ok () := if_pos hallowed
    refine ⟨⟨{ account.moved s r with
      grants := convergeGrants terms now (account.moved s r).grants }, true⟩, ?_, rfl⟩
    have hsync : syncSubscriptionEntitlements (account.moved s r) now =
        .ok { account.moved s r with
          grants := convergeGrants terms now (account.moved s r).grants } := by
      unfold syncSubscriptionEntitlements
      simp only [show (account.moved s r).subscription = some (s.transitioned r) from rfl, hterms]
    unfold transitionSubscription
    simp only [hs, hfresh, htime, hvalid, hperiod, Outcome.refuse, ok_bind,
      Bool.false_eq_true, Bool.and_false, if_false]
    exact congrArg (· >>= fun synced => pure (⟨synced, true⟩ : TransitionResult)) hsync

/-- At most one other subscription is live, and its replacement is carried out. -/
def Replaceable (others : List Account) (paymentId effectiveAt : Nat) : Prop :=
  match others.filter Account.occupied with
  | [] => True
  | [other] => Moves other (replacementRequest paymentId effectiveAt)
  | _ => False

theorem replacement_frees_iff {other : Account} (hlive : other.occupied = true)
    (paymentId effectiveAt now : Nat) :
    (∃ result, transitionSubscription other (replacementRequest paymentId effectiveAt) now =
        .ok result ∧ result.account.occupied = false) ↔
      Moves other (replacementRequest paymentId effectiveAt) := by
  rw [← transition_moves_iff other (replacementRequest paymentId effectiveAt) now rfl rfl]
  refine exists_congr fun result => and_congr_right fun h => ?_
  obtain ⟨s, hs, ⟨_, rfl⟩ | ⟨_, _, _, rfl⟩ | ⟨_, _, hchanged, hsync⟩⟩ :=
    transitionSubscription_cases h
  · simp [hlive]
  · have hkept : ∀ t, (other.record t).occupied = other.occupied := fun _ => rfl
    simp [hkept, hlive]
  · obtain ⟨grants, hgrants, _⟩ := sync_frame hsync
    rw [hgrants, hchanged]
    exact ⟨fun _ => rfl, fun _ => rfl⟩

theorem replaceOtherLive_frees_iff (others : List Account) (paymentId effectiveAt now : Nat) :
    (∃ rest, replaceOtherLive others paymentId effectiveAt now = .ok rest ∧
        rest.any Account.occupied = false) ↔
      Replaceable others paymentId effectiveAt := by
  induction others with
  | nil => simp [replaceOtherLive, Replaceable]
  | cons other rest ih =>
    by_cases hlive : other.occupied = true
    · have hreplaced : Replaceable (other :: rest) paymentId effectiveAt ↔
          Moves other (replacementRequest paymentId effectiveAt) ∧
            rest.any Account.occupied = false := by
        unfold Replaceable
        rw [filter_cons_of_pos hlive]
        cases hrest : rest.filter Account.occupied with
        | nil =>
          have hfree : rest.any Account.occupied = false := by
            simpa [any_eq_false] using filter_eq_nil_iff.mp hrest
          exact (and_iff_left hfree).symm
        | cons next more =>
          have hnext : next ∈ rest.filter Account.occupied := hrest ▸ mem_cons_self
          obtain ⟨hmem, hoccupied⟩ := mem_filter.mp hnext
          simp only [false_iff, not_and, Bool.not_eq_false]
          exact fun _ => List.any_eq_true.mpr ⟨next, hmem, hoccupied⟩
      rw [hreplaced, ← replacement_frees_iff hlive paymentId effectiveAt now]
      simp only [replaceOtherLive, if_pos hlive]
      constructor
      · rintro ⟨replaced, h, hfree⟩
        obtain ⟨result, hresult, h⟩ := bind_eq_ok.mp h
        cases h
        obtain ⟨hfirst, hothers⟩ := Bool.or_eq_false_iff.mp hfree
        exact ⟨⟨result, hresult, hfirst⟩, hothers⟩
      · rintro ⟨⟨result, hresult, hfirst⟩, hothers⟩
        refine ⟨result.account :: rest, ?_, Bool.or_eq_false_iff.mpr ⟨hfirst, hothers⟩⟩
        rw [hresult]
        rfl
    · have hsame : Replaceable (other :: rest) paymentId effectiveAt ↔
          Replaceable rest paymentId effectiveAt := by
        unfold Replaceable
        rw [filter_cons_of_neg hlive]
      rw [hsame, ← ih]
      simp only [replaceOtherLive, if_neg hlive]
      constructor
      · rintro ⟨replaced, h, hfree⟩
        obtain ⟨replaced, hreplaced, h⟩ := bind_eq_ok.mp h
        cases h
        exact ⟨replaced, hreplaced, (Bool.or_eq_false_iff.mp hfree).2⟩
      · rintro ⟨replaced, hreplaced, hfree⟩
        refine ⟨other :: replaced, ?_,
          Bool.or_eq_false_iff.mpr ⟨Bool.eq_false_of_not_eq_true hlive, hfree⟩⟩
        rw [hreplaced]
        rfl

/-- What the activation of a payment asks for: one interval from the effective instant. -/
def paidRequest (p : Payment) (effectiveAt : Nat) : TransitionRequest :=
  settledRequest p.id effectiveAt
    (advanceInterval effectiveAt p.price.interval p.price.intervalCount)

theorem activatePaid_moves_iff (account : Account) (others : List Account) (p : Payment)
    (effectiveAt now : Nat) :
    (∃ result, activatePaid account others p effectiveAt now = .ok result ∧
        result.changed = true) ↔
      Moves account (paidRequest p effectiveAt) ∧ others.any Account.occupied = false := by
  have hlater : (some effectiveAt).any (fun start => (some (advanceInterval effectiveAt
      p.price.interval p.price.intervalCount)).any (· ≤ start)) = false := by
    simpa using lt_advanceInterval effectiveAt p.price.interval p.price.interval_pos
  rw [← transition_moves_iff account (paidRequest p effectiveAt) now rfl hlater]
  unfold activatePaid
  simp only [advanceBillingPeriod_eq _ _ p.price.interval_pos, ok_bind]
  constructor
  · rintro ⟨result, h, hchanged⟩
    obtain ⟨moved, hmoved, h⟩ := bind_eq_ok.mp h
    obtain ⟨_, hfree, h⟩ := bind_eq_ok.mp h
    cases h
    refine ⟨⟨result, hmoved, hchanged⟩, ?_⟩
    by_contra hlive
    simp [Outcome.refuse, hchanged, Bool.eq_true_of_not_eq_false hlive] at hfree
  · rintro ⟨⟨result, hmoved, hchanged⟩, hfree⟩
    refine ⟨result, ?_, hchanged⟩
    have hmoved : transitionSubscription account (settledRequest p.id effectiveAt
        (advanceInterval effectiveAt p.price.interval p.price.intervalCount)) now = .ok result :=
      hmoved
    simp only [hmoved, ok_bind, hfree, Bool.and_false, Outcome.refuse, Bool.false_eq_true,
      if_false]
    rfl

/-- The handler moves the row exactly when it finds no other live subscription or replaces
it, and the activation is carried out. -/
theorem paymentSucceeded_moves_iff {account : Account} (others : List Account)
    (effectiveAt now : Nat) (hp : account.payment? paymentId = some p) :
    (paymentSucceeded account others paymentId effectiveAt now).moved = true ↔
      Replaceable others paymentId effectiveAt ∧ Moves account (paidRequest p effectiveAt) := by
  have hid : p.id = paymentId := Table.find_key hp
  rw [← replaceOtherLive_frees_iff others paymentId effectiveAt now]
  unfold paymentSucceeded
  simp only [hp, hid]
  cases hothers : replaceOtherLive others paymentId effectiveAt now with
  | error e => simp
  | ok rest =>
    have hmoves := activatePaid_moves_iff account rest p effectiveAt now
    simp only [Except.ok.injEq, exists_eq_left']
    rw [and_comm, ← hmoves]
    cases hactive : activatePaid account rest p effectiveAt now with
    | error e => simp
    | ok result =>
      simp only [Except.ok.injEq, exists_eq_left']
      cases invoiceReviewed result.account paymentId now <;> exact Iff.rfl

theorem activatePaid_row {account : Account} {others : List Account} {now : Nat}
    {result : TransitionResult} (h : activatePaid account others p effectiveAt now = .ok result)
    (hchanged : result.changed = true) :
    ∃ t, result.account.subscription = some t ∧ t.currentPeriodStartedAt = some effectiveAt ∧
      t.currentPeriodEndsAt =
        some (advanceInterval effectiveAt p.price.interval p.price.intervalCount) := by
  unfold activatePaid at h
  simp only [advanceBillingPeriod_eq _ _ p.price.interval_pos, ok_bind] at h
  obtain ⟨moved, hmoved, h⟩ := bind_eq_ok.mp h
  obtain ⟨_, _, h⟩ := bind_eq_ok.mp h
  cases h
  obtain ⟨s, _, ⟨_, rfl⟩ | ⟨_, _, _, rfl⟩ | ⟨_, _, _, hsync⟩⟩ := transitionSubscription_cases hmoved
  · simp at hchanged
  · simp at hchanged
  · obtain ⟨grants, hgrants, _⟩ := sync_frame hsync
    rw [hgrants]
    exact ⟨_, rfl, rfl, rfl⟩

/-- A handler that moves the row leaves it with one interval from the effective instant. -/
theorem paymentSucceeded_period {account : Account} {others : List Account} {now : Nat}
    (hp : account.payment? paymentId = some p)
    (h : (paymentSucceeded account others paymentId effectiveAt now).moved = true) :
    ∃ t, (paymentSucceeded account others paymentId effectiveAt now).account.subscription =
        some t ∧ t.currentPeriodStartedAt = some effectiveAt ∧
      t.currentPeriodEndsAt =
        some (advanceInterval effectiveAt p.price.interval p.price.intervalCount) := by
  unfold paymentSucceeded at h ⊢
  simp only [hp] at h ⊢
  cases hothers : replaceOtherLive others p.id effectiveAt now with
  | error e => simp [hothers] at h
  | ok rest =>
    simp only [hothers] at h ⊢
    cases hactive : activatePaid account rest p effectiveAt now with
    | error e => simp [hactive] at h
    | ok result =>
      simp only [hactive] at h ⊢
      cases hinvoiced : invoiceReviewed result.account p.id now with
      | error e =>
        simp only [hinvoiced] at h
        exact activatePaid_row hactive h
      | ok invoiced =>
        simp only [hinvoiced] at h
        simp only
        rw [(invoiceReviewed_row hinvoiced).1]
        exact activatePaid_row hactive h

/-- The handler and the review of a card give the same period: the handler gives the row
one, and it is the window that `paidPeriodWindow` gives for the row it started from. -/
def SettlesAlike (before : Account) (price : Price) (effectiveAt : Nat) (done : Settlement) :
    Prop :=
  done.moved = true ∧
    ∃ s t window, before.subscription = some s ∧ done.account.subscription = some t ∧
      paidPeriodWindow s.toSubscriptionState price effectiveAt = .ok window ∧
      t.currentPeriodStartedAt = some window.1 ∧ t.currentPeriodEndsAt = some window.2

/-- A window opens at `t` and lasts one interval exactly when nothing draws it away and the
plan has no calendar end, or one that lies an interval ahead. -/
theorem paidPeriodWindow_eq_interval_iff (s : SubscriptionState) (price : Price) (t : Nat) :
    paidPeriodWindow s price t =
        .ok (t, advanceInterval t price.interval price.intervalCount) ↔
      ¬s.TrialRuns t ∧ s.Cleared t ∧
        (fixedPeriodEnd price.planVersion).all
          (· == advanceInterval t price.interval price.intervalCount) = true := by
  have hanchor : paidPeriodAnchor s t = t ↔ ¬s.TrialRuns t ∧ s.Cleared t := by
    by_cases htrial : s.TrialRuns t
    · refine ⟨fun hsame => ?_, fun hboth => absurd htrial hboth.1⟩
      obtain ⟨endsAt, hends, hlt⟩ := (Option.any_eq_true _ _).mp htrial.2
      have hmoved : paidPeriodAnchor s t = endsAt := by
        have hrun : s.status = .trialing ∧ s.trialEndsAt.any (t < ·) = true := htrial
        rw [paidPeriodAnchor, if_pos hrun, hends, Option.getD_some]
      rw [hmoved] at hsame
      have hlater : t < endsAt := by simpa using hlt
      omega
    · rw [paidPeriodAnchor_eq_iff htrial]
      exact ⟨fun hclear => ⟨htrial, hclear⟩, And.right⟩
  have hlater : t < advanceInterval t price.interval price.intervalCount :=
    lt_advanceInterval _ _ price.interval_pos
  rw [← and_assoc, ← hanchor]
  constructor
  · intro h
    obtain ⟨hsame, _⟩ := paidPeriodWindow_ok h
    obtain ⟨hfirst, hsecond⟩ := Prod.mk.inj hsame
    refine ⟨hfirst.symm, ?_⟩
    cases hfixed : fixedPeriodEnd price.planVersion with
    | none => rfl
    | some fixedEnd =>
      have hend : windowEnd price (paidPeriodAnchor s t) = fixedEnd := by simp [windowEnd, hfixed]
      simp [hsecond, hend]
  · rintro ⟨hsame, hfixed⟩
    cases hplan : fixedPeriodEnd price.planVersion with
    | none => rw [paidPeriodWindow_rolling hplan, hsame]
    | some fixedEnd =>
      rw [hplan] at hfixed
      have hend : fixedEnd = advanceInterval t price.interval price.intervalCount := by
        simpa using hfixed
      unfold paidPeriodWindow
      simp only [hplan, hsame, hend, Nat.not_le.mpr hlater, if_false]

/-- The handler and the card review buy the same period exactly when the handler carries the
activation out, the row is in no running trial, nothing stored on it draws paid time away,
and the plan has no calendar end other than one interval ahead. -/
theorem settles_alike_iff (account : Account) (others : List Account) (s : Subscription)
    (p : Payment) (paymentId effectiveAt now : Nat) (hs : account.subscription = some s)
    (hp : account.payment? paymentId = some p) :
    SettlesAlike account p.price effectiveAt
        (paymentSucceeded account others paymentId effectiveAt now) ↔
      (Replaceable others paymentId effectiveAt ∧ Moves account (paidRequest p effectiveAt)) ∧
        ¬s.TrialRuns effectiveAt ∧ s.Cleared effectiveAt ∧
        (fixedPeriodEnd p.price.planVersion).all
          (· == advanceInterval effectiveAt p.price.interval p.price.intervalCount) = true := by
  rw [← paymentSucceeded_moves_iff others effectiveAt now hp, ← paidPeriodWindow_eq_interval_iff]
  refine and_congr_right fun hmoved => ?_
  obtain ⟨t, ht, hstarts, hends⟩ := paymentSucceeded_period hp hmoved
  constructor
  · rintro ⟨r, u, ⟨opens, closes⟩, hr, hu, hwindow, hopens, hcloses⟩
    obtain rfl : r = s := Option.some.inj (hr.symm.trans hs)
    obtain rfl : u = t := Option.some.inj (hu.symm.trans ht)
    have hfirst : effectiveAt = opens := Option.some.inj (hstarts.symm.trans hopens)
    have hsecond := Option.some.inj (hends.symm.trans hcloses)
    rw [hwindow, hsecond, hfirst]
  · intro hwindow
    exact ⟨s, t, _, hs, ht, hwindow, hstarts, hends⟩

/-- Another subscription of the reader, in its trial. -/
def inTrial : Account :=
  commerce.outcome [callAt 0 (.createTrialForUser (some 0))]

/-- A reader who starts paying for `price` at the provider, which reports the money. -/
def checkedOut (price : Price) : List Call :=
  [callAt 0 (.createPayment price "checkout-0001" none),
    callAt day (.applyProviderPaymentState 1 .succeeded price.amountMinor "LYD" day 7 "")]

def paidAtProvider (price : Price) : Account :=
  (commerceFrom (Account.empty.opened price 0)).outcome (checkedOut price)

/-- A term that ends on day 200 is settled for thirty days. -/
theorem provider_shortens_term :
    ¬∀ (account : Account) (others : List Account) (s : Subscription) (p : Payment)
      (paymentId effectiveAt now : Nat), account.subscription = some s →
      account.payment? paymentId = some p →
      SettlesAlike account p.price effectiveAt
        (paymentSucceeded account others paymentId effectiveAt now) := by
  intro h
  have hgiven : ((paidAtProvider (termPrice (200 * day))).subscription.any fun s =>
      ((paidAtProvider (termPrice (200 * day))).payment? 1).any fun p =>
        decide (paidPeriodWindow s.toSubscriptionState p.price day = .ok (day, 200 * day)) &&
          decide ((paymentSucceeded (paidAtProvider (termPrice (200 * day))) [] 1 day
            day).account.subscription.map (·.currentPeriodEndsAt) = some (some (31 * day)))) =
      true := by
    decide +kernel
  simp only [Option.any_eq_true, Bool.and_eq_true, decide_eq_true_eq] at hgiven
  obtain ⟨s, hs, p, hp, hwindow, hends⟩ := hgiven
  obtain ⟨_, r, t, window, hr, ht, hsame, _, hcloses⟩ := h _ [] s p 1 day day hs hp
  obtain rfl : r = s := Option.some.inj (hr.symm.trans hs)
  rw [hwindow] at hsame
  cases hsame
  rw [ht, Option.map_some, hcloses] at hends
  exact absurd hends (by decide)

/-- A rolling month settled by the provider, from a row that awaits it and beside a trial
that it replaces. -/
theorem provider_settles_rolling_month :
    ∃ (s : Subscription) (p : Payment),
      (paidAtProvider (thirtyDays rollingVersion)).subscription = some s ∧
      (paidAtProvider (thirtyDays rollingVersion)).payment? 1 = some p ∧
      (SettlesAlike (paidAtProvider (thirtyDays rollingVersion)) p.price day
          (paymentSucceeded (paidAtProvider (thirtyDays rollingVersion)) [inTrial] 1 day day) ↔
        (Replaceable [inTrial] 1 day ∧
            Moves (paidAtProvider (thirtyDays rollingVersion)) (paidRequest p day)) ∧
          ¬s.TrialRuns day ∧ s.Cleared day ∧
          (fixedPeriodEnd p.price.planVersion).all
            (· == advanceInterval day p.price.interval p.price.intervalCount) = true) := by
  have hgiven : ((paidAtProvider (thirtyDays rollingVersion)).subscription.any fun _ =>
      ((paidAtProvider (thirtyDays rollingVersion)).payment? 1).any fun _ => true) = true := by
    decide +kernel
  simp only [Option.any_eq_true] at hgiven
  obtain ⟨s, hs, p, hp, _⟩ := hgiven
  exact ⟨s, p, hs, hp, settles_alike_iff _ [inTrial] s p 1 day day hs hp⟩

end LockIn.Commerce
