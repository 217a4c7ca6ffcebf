import LockIn.Commerce.Admin
import LockIn.Commerce.LifecycleSpec

/-!
# What administrators do

One statement for each administrative service, as `LifecycleSpec` has for the lifecycle.
-/

namespace LockIn.Commerce

open Gregorian Outcome

/-- The row of a trial that starts at `start`. -/
def trialSubscription (version : PlanVersion) (start now : Nat) : Subscription :=
  { SubscriptionState.blank .trialing version "trial_started" with
    startedAt := some start
    trialStartedAt := some start
    trialEndsAt := some (addDays start version.trialDays)
    currentPeriodStartedAt := some start
    currentPeriodEndsAt := some (addDays start version.trialDays)
    revision := 1
    createdAt := now }

variable {account result : Account} {settings : Settings} {user : User} {startedAt : Option Nat}
  {now : Nat} {s : Subscription} {key : String} {change : AdminChange}

theorem createTrialForUser_ok {result : Account × Bool}
    (h : createTrialForUser account settings user startedAt now = .ok result) :
    (account.subscription.isSome = true ∧ result.1 = account) ∨
      (account.subscription = none ∧ ∃ version start,
        syncSubscriptionEntitlements ((account.putSubscription
            (trialSubscription version start now)).record
          ⟨.trial, none, .trialing, "trial_started", start⟩) now = .ok result.1) := by
  obtain ⟨_, _, h⟩ := bind_eq_ok.mp h
  cases hs : account.subscription with
  | some s =>
    simp only [hs] at h
    cases h
    exact .inl ⟨rfl, rfl⟩
  | none =>
    simp only [hs] at h
    split at h
    · simp at h
    · next version _ =>
      obtain ⟨_, _, h⟩ := bind_eq_ok.mp h
      obtain ⟨inserted, hinserted, h⟩ := bind_eq_ok.mp h
      obtain ⟨synced, hsynced, h⟩ := bind_eq_ok.mp h
      cases h
      obtain ⟨_, rfl⟩ := insertTransition_ok hinserted
      exact .inr ⟨rfl, version, _, hsynced⟩

theorem createTrialForUser_frame {result : Account × Bool}
    (h : createTrialForUser account settings user startedAt now = .ok result) :
    SameBooks account result.1 ∧ result.1.agreements = account.agreements := by
  rcases createTrialForUser_ok h with ⟨_, hsame⟩ | ⟨_, version, start, hsynced⟩
  · rw [hsame]
    exact ⟨SameBooks.refl _, rfl⟩
  · obtain ⟨grants, hgrants, hmanual⟩ := sync_frame hsynced
    rw [hgrants]
    exact ⟨⟨rfl, rfl, rfl, rfl, rfl, hmanual⟩, rfl⟩

theorem scheduleCancellation_ok (h : scheduleCancellation account now = .ok result) :
    result = account ∨ ∃ s, account.subscription = some s ∧ s.status.givesAccess = true ∧
      s.cancelAtPeriodEnd = false ∧ account.spent (.cancel (s.revision + 1)) = false ∧
      result = (account.putSubscription { s with
          cancelAtPeriodEnd := true
          cancellationRequestedAt := some now
          revision := s.revision + 1 }).record
        ⟨.cancel (s.revision + 1), some s.status, s.status, "cancellation_scheduled", now⟩ := by
  unfold scheduleCancellation at h
  cases hs : account.subscription with
  | none => rw [hs] at h; simp at h
  | some s =>
    simp only [hs] at h
    by_cases hlive : s.status.givesAccess = true
    · rw [if_neg (by simpa using hlive)] at h
      by_cases hcancel : s.cancelAtPeriodEnd = true
      · rw [if_pos hcancel] at h
        exact .inl (Except.ok.inj h).symm
      · rw [if_neg hcancel] at h
        obtain ⟨hfresh, rfl⟩ := insertTransition_ok h
        exact .inr ⟨s, rfl, hlive, by simpa using hcancel, hfresh, rfl⟩
    · rw [if_pos (by simpa using hlive)] at h
      simp at h

theorem scheduleCancellation_frame (h : scheduleCancellation account now = .ok result) :
    SameBooks account result ∧ result.agreements = account.agreements := by
  rcases scheduleCancellation_ok h with rfl | ⟨s, _, _, _, _, rfl⟩
  · exact ⟨SameBooks.refl _, rfl⟩
  · exact ⟨⟨rfl, rfl, rfl, rfl, rfl, rfl⟩, rfl⟩

theorem adminEdit_ok {reasonCode : String}
    (h : adminEdit account s reasonCode key now = .ok result) :
    account.spent (.admin key) = false ∧
      result = (account.putSubscription
        { s with statusReason := reasonCode, revision := s.revision + 1 }).record
          ⟨.admin key, some s.status, s.status, reasonCode, now⟩ :=
  insertTransition_ok h

/-- An administrative change is a transition made or ignored, an edit of the row, or
nothing. -/
inductive AdminWrites (account : Account) (s : Subscription) (change : AdminChange) (key : String)
    (now : Nat) (result : Account) : Prop
  | unchanged (h : result = account) (same : s.cancelAtPeriodEnd = true)
  | activated (endsAt : Nat) (startsAt : Option Nat) (reason : String) (moved : TransitionResult)
      (later : now < endsAt)
      (h : transitionSubscription account
        { adminRequest .active reason key now with
          periodStartedAt := startsAt, periodEndsAt := some endsAt } now = .ok moved)
      (hresult : result = moved.account)
  | stopped (toStatus : SubscriptionStatus) (reason : String) (moved : TransitionResult)
      (hstatus : toStatus = .suspended ∨ toStatus = .cancelled)
      (hreason : reason = "admin_suspended" ∨ reason = "admin_cancelled")
      (h : transitionSubscription account (adminRequest toStatus reason key now) now = .ok moved)
      (hresult : result = moved.account)
  | cancelled (live : s.status.givesAccess = true)
      (h : adminEdit account
        { s with cancelAtPeriodEnd := true, cancellationRequestedAt := some now }
        "admin_cancellation_scheduled" key now = .ok result)
  | expires (endsAt : Nat) (reason : String)
      (h : adminEdit account
        { s with
          currentPeriodEndsAt := some endsAt
          graceEndsAt := some (addDays endsAt s.planVersion.graceDays)
          cancelAtPeriodEnd := false
          cancellationRequestedAt := none } reason key now = .ok result)
  | changedPlan (planVersion : PlanVersion)
      (h : adminEdit account { s with planVersion := planVersion } "admin_plan_changed" key now =
        .ok result)

theorem adminTransition_ok {r : TransitionRequest}
    (h : adminTransition account r now = .ok result) :
    ∃ moved, transitionSubscription account r now = .ok moved ∧ result = moved.account := by
  obtain ⟨moved, hmoved, h⟩ := bind_eq_ok.mp h
  exact ⟨moved, hmoved, (Except.ok.inj h).symm⟩

theorem applyAdminChange_ok (h : applyAdminChange account s change key now = .ok result) :
    AdminWrites account s change key now result := by
  have hactivate : adminActivate account s change key now = .ok result →
      AdminWrites account s change key now result := by
    intro h
    unfold adminActivate at h
    cases hends : (change.periodEndsAt.or s.currentPeriodEndsAt).filter fun endsAt =>
        decide (now < endsAt) with
    | none => rw [hends] at h; simp at h
    | some endsAt =>
      simp only [hends] at h
      obtain ⟨moved, hmoved, hresult⟩ := adminTransition_ok h
      have hlater := (Option.filter_eq_some_iff.mp hends).2
      exact .activated endsAt _ _ moved (by simpa using hlater) hmoved hresult
  have hexpire : adminExpiration account s change key now = .ok result →
      AdminWrites account s change key now result := by
    intro h
    unfold adminExpiration at h
    split at h
    · simp at h
    · split at h
      · simp at h
      · split at h
        · simp at h
        · exact .expires _ _ h
  unfold applyAdminChange at h
  cases haction : change.action with
  | activate => simp only [haction] at h; exact hactivate h
  | reactivate => simp only [haction] at h; exact hactivate h
  | suspend =>
    simp only [haction] at h
    obtain ⟨moved, hmoved, hresult⟩ := adminTransition_ok h
    exact .stopped _ _ moved (.inl rfl) (.inl rfl) hmoved hresult
  | cancelNow =>
    simp only [haction] at h
    obtain ⟨moved, hmoved, hresult⟩ := adminTransition_ok h
    exact .stopped _ _ moved (.inr rfl) (.inr rfl) hmoved hresult
  | cancelPeriodEnd =>
    simp only [haction] at h
    unfold adminCancelPeriodEnd at h
    by_cases hlive : s.status.givesAccess = true
    · rw [if_neg (by simpa using hlive)] at h
      by_cases hcancel : s.cancelAtPeriodEnd = true
      · rw [if_pos hcancel] at h
        exact .unchanged (Except.ok.inj h).symm hcancel
      · rw [if_neg hcancel] at h
        exact .cancelled hlive h
    · rw [if_pos (by simpa using hlive)] at h
      simp at h
  | extend => simp only [haction] at h; exact hexpire h
  | changeExpiration => simp only [haction] at h; exact hexpire h
  | changePlan =>
    simp only [haction] at h
    unfold adminChangePlan at h
    split at h
    · simp at h
    · split at h
      · simp at h
      · exact .changedPlan _ h

theorem AdminWrites.frame (h : AdminWrites account s change key now result) :
    SameBooks account result ∧ result.agreements = account.agreements := by
  have hedit : ∀ (t : Subscription) (reason : String),
      adminEdit account t reason key now = .ok result →
      SameBooks account result ∧ result.agreements = account.agreements := by
    intro t reason h
    obtain ⟨_, rfl⟩ := adminEdit_ok h
    exact ⟨⟨rfl, rfl, rfl, rfl, rfl, rfl⟩, rfl⟩
  cases h with
  | unchanged h => rw [h]; exact ⟨SameBooks.refl _, rfl⟩
  | activated _ _ _ moved _ h hresult => rw [hresult]; exact transitionSubscription_frame h
  | stopped _ _ moved _ _ h hresult => rw [hresult]; exact transitionSubscription_frame h
  | cancelled _ h => exact hedit _ _ h
  | expires _ _ h => exact hedit _ _ h
  | changedPlan _ h => exact hedit _ _ h

theorem manageSubscription_ok (h : manageSubscription account change now = .ok result) :
    result = account ∨ ∃ s key written synced events, account.subscription = some s ∧
      AdminWrites account s change key now written ∧
      syncSubscriptionEntitlements written now = .ok synced ∧
      result = { synced with adminEvents := events } := by
  obtain ⟨_, _, h⟩ := bind_eq_ok.mp h
  obtain ⟨key, _, h⟩ := bind_eq_ok.mp h
  cases hs : account.subscription with
  | none => simp only [hs] at h; simp at h
  | some s =>
    simp only [hs] at h
    split at h
    · obtain ⟨_, _, h⟩ := bind_eq_ok.mp h
      exact .inl (Except.ok.inj h).symm
    · obtain ⟨written, hwritten, h⟩ := bind_eq_ok.mp h
      obtain ⟨synced, hsynced, h⟩ := bind_eq_ok.mp h
      exact .inr ⟨s, key, written, synced, _, rfl, applyAdminChange_ok hwritten, hsynced,
        (Except.ok.inj h).symm⟩

theorem manageSubscription_frame (h : manageSubscription account change now = .ok result) :
    (∃ events, SameBooks { account with adminEvents := events } result) ∧
      result.agreements = account.agreements := by
  rcases manageSubscription_ok h with rfl | ⟨s, key, written, synced, events, _, hwritten, hsynced,
    rfl⟩
  · exact ⟨⟨_, SameBooks.refl _⟩, rfl⟩
  · obtain ⟨hbooks, hagreements⟩ := hwritten.frame
    obtain ⟨grants, rfl, hmanual⟩ := sync_frame hsynced
    exact ⟨⟨events, hbooks.payments, hbooks.claims, hbooks.corrections, rfl, hbooks.nextId,
      hmanual.trans hbooks.manualGrants⟩, hagreements⟩

theorem requestPaymentStatusCorrection_ok {r : CorrectionRequest}
    (h : requestPaymentStatusCorrection account r = .ok result) :
    result = account ∨ ∃ correction : PaymentStatusCorrection,
      correction.requestedStatus.correctable = true ∧
      result = { account with
        corrections := account.corrections ++ [correction]
        nextId := account.nextId + 1 } := by
  obtain ⟨_, _, h⟩ := bind_eq_ok.mp h
  obtain ⟨key, _, h⟩ := bind_eq_ok.mp h
  obtain ⟨_, _, h⟩ := bind_eq_ok.mp h
  split at h
  · simp at h
  · obtain ⟨_, hstatus, h⟩ := bind_eq_ok.mp h
    split at h
    · obtain ⟨_, _, h⟩ := bind_eq_ok.mp h
      exact .inl (Except.ok.inj h).symm
    · cases h
      exact .inr ⟨_, by simpa using (refuse_cons_ok.mp hstatus).1, rfl⟩

theorem reviewPaymentStatusCorrection_ok {r : CorrectionReview}
    (h : reviewPaymentStatusCorrection account r now = .ok result) :
    result = account ∨ ∃ correction decided : PaymentStatusCorrection,
      correction ∈ account.corrections ∧ decided.requestedStatus = correction.requestedStatus ∧
      ∃ applied : Account, (applied = account ∨ applyCorrection account correction now = .ok applied) ∧
        result = { applied with
          corrections := Table.put PaymentStatusCorrection.id account.corrections decided } := by
  obtain ⟨_, _, h⟩ := bind_eq_ok.mp h
  obtain ⟨key, _, h⟩ := bind_eq_ok.mp h
  cases hc : Table.find PaymentStatusCorrection.id account.corrections r.correctionId with
  | none => simp only [hc] at h; simp at h
  | some correction =>
    simp only [hc] at h
    split at h
    · obtain ⟨_, _, h⟩ := bind_eq_ok.mp h
      exact .inl (Except.ok.inj h).symm
    · obtain ⟨_, _, h⟩ := bind_eq_ok.mp h
      refine .inr ⟨correction,
        { correction with
          approvalIdempotencyKey := key
          status := if r.approve then .approved else .rejected },
        Table.find_mem hc, rfl, ?_⟩
      cases happrove : r.approve with
      | true =>
        simp only [happrove, if_true] at h
        obtain ⟨applied, happlied, h⟩ := bind_eq_ok.mp h
        have hkept : applied.corrections = account.corrections := by
          unfold applyCorrection at happlied
          split at happlied
          · simp at happlied
          · obtain ⟨_, _, happlied⟩ := bind_eq_ok.mp happlied
            cases happlied
            rfl
        cases h
        exact ⟨applied, .inr happlied, by rw [hkept]; rfl⟩
      | false =>
        simp only [happrove, Bool.false_eq_true, if_false] at h
        obtain ⟨applied, happlied, h⟩ := bind_eq_ok.mp h
        cases happlied
        cases h
        exact ⟨_, .inl rfl, rfl⟩

end LockIn.Commerce
