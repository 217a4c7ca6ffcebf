import LockIn.Commerce.Installments

/-!
# What the lifecycle does

One statement for each operation on a subscription: what a successful call has done, and
what it has left alone.  The proofs about runs use these and do not unfold the
operations.
-/

namespace LockIn.Commerce

open Outcome

def manualGrants (grants : List EntitlementGrant) : List EntitlementGrant :=
  grants.filter fun g => g.source != .subscription

/-- The lifecycle of a subscription leaves the books of its account alone, and the grants
that do not come from the subscription. -/
structure SameBooks (a b : Account) : Prop where
  payments : b.payments = a.payments
  claims : b.claims = a.claims
  corrections : b.corrections = a.corrections
  adminEvents : b.adminEvents = a.adminEvents
  nextId : b.nextId = a.nextId
  manualGrants : manualGrants b.grants = manualGrants a.grants

theorem SameBooks.refl (a : Account) : SameBooks a a := ⟨rfl, rfl, rfl, rfl, rfl, rfl⟩

theorem SameBooks.trans {a b c : Account} (h : SameBooks a b) (h' : SameBooks b c) :
    SameBooks a c :=
  ⟨h'.payments.trans h.payments, h'.claims.trans h.claims, h'.corrections.trans h.corrections,
    h'.adminEvents.trans h.adminEvents, h'.nextId.trans h.nextId,
    h'.manualGrants.trans h.manualGrants⟩

theorem sameBooks_record (a : Account) (t : SubscriptionTransition) : SameBooks a (a.record t) :=
  ⟨rfl, rfl, rfl, rfl, rfl, rfl⟩

theorem sameBooks_putSubscription (a : Account) (s : Subscription) :
    SameBooks a (a.putSubscription s) :=
  ⟨rfl, rfl, rfl, rfl, rfl, rfl⟩

theorem sameBooks_putAgreement (a : Account) (agreement : InstallmentAgreement) :
    SameBooks a (a.putAgreement agreement) :=
  ⟨rfl, rfl, rfl, rfl, rfl, rfl⟩

variable {account result : Account} {now : Nat} {r : TransitionRequest}

theorem syncSubscriptionEntitlements_ok
    (h : syncSubscriptionEntitlements account now = .ok result) :
    ∃ s terms, account.subscription = some s ∧ accessTerms account s now = .ok terms ∧
      result = { account with grants := convergeGrants terms now account.grants } := by
  unfold syncSubscriptionEntitlements at h
  cases hs : account.subscription with
  | none => rw [hs] at h; simp at h
  | some s =>
    simp only [hs] at h
    cases ht : accessTerms account s now with
    | error e => rw [ht] at h; simp at h
    | ok terms =>
      rw [ht] at h
      exact ⟨s, terms, rfl, ht, (Except.ok.inj h).symm⟩

theorem convergeGrant_source (terms : AccessTerms) (now : Nat) (g : EntitlementGrant) :
    (g.source ≠ .subscription → convergeGrant terms now g = g) ∧
      ((convergeGrant terms now g).source = .subscription ↔ g.source = .subscription) := by
  unfold convergeGrant
  by_cases h : g.source = .subscription
  · rw [if_pos h]
    refine ⟨fun hne => absurd h hne, ?_⟩
    split
    · simp [newGrant, h]
    · unfold revokeActive
      split
      · simp [EntitlementGrant.revoke, h]
      · simp [h]
  · rw [if_neg h]
    exact ⟨fun _ => rfl, Iff.rfl⟩

theorem revokeActive_source (g : EntitlementGrant) (now : Nat) :
    (g.source ≠ .subscription → revokeActive g now = g) ∧
      ((revokeActive g now).source = .subscription ↔ g.source = .subscription) := by
  unfold revokeActive
  by_cases h : g.source = .subscription ∧ g.status = .active
  · rw [if_pos h]
    exact ⟨fun hne => absurd h.1 hne, by simp [EntitlementGrant.revoke, h.1]⟩
  · rw [if_neg h]
    exact ⟨fun _ => rfl, Iff.rfl⟩

theorem manualGrants_map {f : EntitlementGrant → EntitlementGrant} (grants : List EntitlementGrant)
    (h : ∀ g, (g.source ≠ .subscription → f g = g) ∧
      ((f g).source = .subscription ↔ g.source = .subscription)) :
    manualGrants (grants.map f) = manualGrants grants := by
  induction grants with
  | nil => rfl
  | cons g rest ih =>
    unfold manualGrants at ih ⊢
    by_cases hg : g.source = .subscription
    · have hfg : (f g).source = .subscription := (h g).2.mpr hg
      simpa [hg, hfg] using ih
    · have hfg : f g = g := (h g).1 hg
      simpa [hg, hfg] using ih

theorem manualGrants_converge (terms : AccessTerms) (now : Nat) (grants : List EntitlementGrant) :
    manualGrants (convergeGrants terms now grants) = manualGrants grants := by
  unfold convergeGrants
  split
  · have hnew : ∀ rules : List PlanEntitlementRule,
        manualGrants (rules.map (newGrant terms)) = [] := by
      intro rules
      simp [manualGrants, newGrant]
    have hsplit : ∀ a b : List EntitlementGrant,
        manualGrants (a ++ b) = manualGrants a ++ manualGrants b :=
      fun a b => List.filter_append a b
    rw [hsplit, hnew, List.append_nil]
    exact manualGrants_map grants (convergeGrant_source terms now)
  · exact manualGrants_map grants fun g => revokeActive_source g now

theorem sync_frame (h : syncSubscriptionEntitlements account now = .ok result) :
    ∃ grants, result = { account with grants := grants } ∧
      manualGrants grants = manualGrants account.grants := by
  obtain ⟨s, terms, _, _, rfl⟩ := syncSubscriptionEntitlements_ok h
  exact ⟨_, rfl, manualGrants_converge terms now account.grants⟩

theorem insertTransition_ok {t : SubscriptionTransition}
    (h : account.insertTransition t = .ok result) :
    account.spent t.key = false ∧ result = account.record t := by
  obtain ⟨hs, h⟩ := unless_ok.1 h
  exact ⟨by simpa using hs, (Except.ok.inj h).symm⟩

def transitionEntry (s : Subscription) (r : TransitionRequest) : SubscriptionTransition :=
  ⟨r.key, some s.status, r.toStatus, r.reasonCode, r.effectiveAt⟩

def Account.moved (account : Account) (s : Subscription) (r : TransitionRequest) : Account :=
  (account.putSubscription (s.transitioned r)).record (transitionEntry s r)

theorem validateTransition_ok {fromStatus toStatus : SubscriptionStatus}
    (h : validateTransition fromStatus toStatus = .ok ()) : toStatus ∈ fromStatus.allowedNext := by
  unfold validateTransition at h
  by_contra hn
  rw [if_neg hn] at h
  simp at h

theorem transitionSubscription_cases {result : TransitionResult}
    (h : transitionSubscription account r now = .ok result) :
    ∃ s, account.subscription = some s ∧
      ((account.spent r.key = true ∧ result = ⟨account, false⟩) ∨
        (account.spent r.key = false ∧ r.allowOutOfOrder = false ∧
          (latestEffectiveAt account.transitions).any (r.effectiveAt < ·) = true ∧
          result = ⟨account.record
            ⟨r.key, some s.status, s.status, "out_of_order_ignored", r.effectiveAt⟩, false⟩) ∨
        (account.spent r.key = false ∧ r.toStatus ∈ s.status.allowedNext ∧
          result.changed = true ∧
          syncSubscriptionEntitlements (account.moved s r) now = .ok result.account)) := by
  unfold transitionSubscription at h
  cases hs : account.subscription with
  | none => rw [hs] at h; simp at h
  | some s =>
    simp only [hs] at h
    refine ⟨s, rfl, ?_⟩
    by_cases hspent : account.spent r.key = true
    · rw [if_pos hspent] at h
      exact .inl ⟨hspent, (Except.ok.inj h).symm⟩
    · have hfresh : account.spent r.key = false := by simpa using hspent
      rw [if_neg hspent] at h
      refine .inr ?_
      by_cases hlate : (!r.allowOutOfOrder &&
          (latestEffectiveAt account.transitions).any (r.effectiveAt < ·)) = true
      · rw [if_pos hlate] at h
        rw [Bool.and_eq_true, Bool.not_eq_true'] at hlate
        exact .inl ⟨hfresh, hlate.1, hlate.2, (Except.ok.inj h).symm⟩
      · rw [if_neg hlate] at h
        obtain ⟨_, hvalid, h⟩ := bind_eq_ok.mp h
        obtain ⟨_, _, h⟩ := bind_eq_ok.mp h
        obtain ⟨synced, hsync, h⟩ := bind_eq_ok.mp h
        cases h
        exact .inr ⟨hfresh, validateTransition_ok hvalid, rfl, hsync⟩

theorem transitionSubscription_reconciled {result : TransitionResult}
    (horder : r.allowOutOfOrder = true) (h : transitionSubscription account r now = .ok result) :
    ∃ s, account.subscription = some s ∧
      ((account.spent r.key = true ∧ result.account = account) ∨
        (account.spent r.key = false ∧ r.toStatus ∈ s.status.allowedNext ∧
          syncSubscriptionEntitlements (account.moved s r) now = .ok result.account)) := by
  obtain ⟨s, hs, ⟨hspent, rfl⟩ | ⟨_, hno, _⟩ | ⟨hfresh, hallowed, _, hsync⟩⟩ :=
    transitionSubscription_cases h
  · exact ⟨s, hs, .inl ⟨hspent, rfl⟩⟩
  · rw [horder] at hno
    simp at hno
  · exact ⟨s, hs, .inr ⟨hfresh, hallowed, hsync⟩⟩

theorem transitionSubscription_frame {result : TransitionResult}
    (h : transitionSubscription account r now = .ok result) :
    SameBooks account result.account ∧ result.account.agreements = account.agreements := by
  obtain ⟨s, _, ⟨_, rfl⟩ | ⟨_, _, _, rfl⟩ | ⟨_, _, _, hsync⟩⟩ := transitionSubscription_cases h
  · exact ⟨SameBooks.refl _, rfl⟩
  · exact ⟨sameBooks_record _ _, rfl⟩
  · obtain ⟨grants, hgrants, hmanual⟩ := sync_frame hsync
    rw [hgrants]
    exact ⟨⟨rfl, rfl, rfl, rfl, rfl, hmanual⟩, rfl⟩

theorem refreshLifecycle_frame {depth : Nat} (h : refreshLifecycle now depth account = .ok result) :
    SameBooks account result ∧ result.agreements = account.agreements := by
  induction depth generalizing account with
  | zero => exact absurd h (by simp [refreshLifecycle])
  | succ depth ih =>
    rw [refreshLifecycle] at h
    cases hs : account.subscription with
    | none => rw [hs] at h; simp at h
    | some s =>
      simp only [hs] at h
      cases hd : dueTransition s now with
      | none =>
        rw [hd] at h
        cases h
        exact ⟨SameBooks.refl _, rfl⟩
      | some due =>
        obtain ⟨request, goesOn⟩ := due
        simp only [hd] at h
        obtain ⟨moved, hmoved, h⟩ := bind_eq_ok.mp h
        obtain ⟨hbooks, hagreements⟩ := transitionSubscription_frame hmoved
        cases goesOn with
        | true =>
          obtain ⟨hbooks', hagreements'⟩ := ih h
          exact ⟨hbooks.trans hbooks', hagreements'.trans hagreements⟩
        | false =>
          cases h
          exact ⟨hbooks, hagreements⟩

theorem enforceInstallments_cases (h : enforceInstallments account now = .ok result) :
    ∃ s, account.subscription = some s ∧
      (((enforcement account s now).request = none ∧
          result = completeAgreement account (enforcement account s now).completes now) ∨
        ∃ request moved, (enforcement account s now).request = some request ∧
          transitionSubscription
            (completeAgreement account (enforcement account s now).completes now) request now =
              .ok moved ∧ result = moved.account) := by
  unfold enforceInstallments at h
  cases hs : account.subscription with
  | none => rw [hs] at h; simp at h
  | some s =>
    simp only [hs] at h
    refine ⟨s, rfl, ?_⟩
    cases hr : (enforcement account s now).request with
    | none =>
      rw [hr] at h
      exact .inl ⟨rfl, (Except.ok.inj h).symm⟩
    | some request =>
      simp only [hr] at h
      obtain ⟨moved, hmoved, h⟩ := bind_eq_ok.mp h
      exact .inr ⟨request, moved, rfl, hmoved, (Except.ok.inj h).symm⟩

theorem sameBooks_completeAgreement (account : Account) (agreement : Option InstallmentAgreement)
    (now : Nat) : SameBooks account (completeAgreement account agreement now) := by
  cases agreement with
  | none => exact SameBooks.refl _
  | some agreement => exact sameBooks_putAgreement _ _

theorem enforceInstallments_frame (h : enforceInstallments account now = .ok result) :
    SameBooks account result := by
  obtain ⟨s, _, ⟨_, rfl⟩ | ⟨request, moved, _, hmoved, rfl⟩⟩ := enforceInstallments_cases h
  · exact sameBooks_completeAgreement _ _ _
  · exact (sameBooks_completeAgreement _ _ _).trans (transitionSubscription_frame hmoved).1

theorem refreshSubscription_frame (h : refreshSubscription account now = .ok result) :
    SameBooks account result := by
  obtain ⟨reconciled, hreconciled, h⟩ := bind_eq_ok.mp h
  exact (refreshLifecycle_frame hreconciled).1.trans (enforceInstallments_frame h)

end LockIn.Commerce
