import LockIn.Commerce.LifecycleSpec

/-!
# Reconciliation step by step

A refresh is a chain of steps: transitions that the dates or the installments of the
subscription call for, each under a key that was not spent, and the completion of an
agreement that is paid in full.  `Reconciling` says once what can be called for, so that an
invariant of refreshing is proved one step at a time.
-/

namespace LockIn.Commerce

/-- The transitions that reconciliation makes at `now`. -/
inductive Reconciling (s : Subscription) (now : Nat) : TransitionRequest → Prop
  | trialEnded (endsAt : Nat) (hstatus : s.status = .trialing) (hends : s.trialEndsAt = some endsAt)
      (hle : endsAt ≤ now) :
      Reconciling s now (reconcile (if s.cancelAtPeriodEnd then .cancelled else .expired)
        "trial_ended" endsAt (.trialEnd endsAt))
  | periodMissing (hstatus : s.status = .active) (hends : s.currentPeriodEndsAt = none)
      (hgrace : s.graceEndsAt = none) :
      Reconciling s now (reconcile .expired "active_period_missing" now .activePeriodMissing)
  | periodEnded (endsAt : Nat) (hstatus : s.status = .active)
      (hends : s.currentPeriodEndsAt = some endsAt) (hle : endsAt ≤ now) :
      Reconciling s now (reconcile
        (if s.cancelAtPeriodEnd then .cancelled
          else if 0 < s.planVersion.graceDays then .grace else .expired)
        "period_ended" endsAt (.periodEnd endsAt))
  | graceEnded (endsAt : Nat) (hstatus : s.status = .grace) (hends : s.graceEndsAt = some endsAt)
      (hle : endsAt ≤ now) :
      Reconciling s now (reconcile .expired "grace_ended" endsAt (.graceEnd endsAt))
  | suspended (agreementId : Nat) (hstatus : s.status = .active) :
      Reconciling s now (suspendRequest s agreementId now)
  | resumed (hheld : isInstallmentSuspension s.toSubscriptionState = true)
      (hahead : s.currentPeriodEndsAt.all (now < ·) = true) :
      Reconciling s now (resumeRequest s now)
  | lapsed (endsAt : Nat) (hheld : isInstallmentSuspension s.toSubscriptionState = true)
      (hends : s.currentPeriodEndsAt = some endsAt) (hle : endsAt ≤ now) :
      Reconciling s now (reconcile .expired "period_ended" endsAt (.periodEnd endsAt))

theorem suspended_of_held {s : SubscriptionState} (h : isInstallmentSuspension s = true) :
    s.status = .suspended := by
  simp only [isInstallmentSuspension, Bool.and_eq_true, beq_iff_eq] at h
  exact h.1

variable {s t : Subscription} {now : Nat} {r : TransitionRequest} {goesOn : Bool}
  {account result : Account}

theorem Reconciling.allowed (h : Reconciling s now r) : r.toStatus ∈ s.status.allowedNext := by
  cases h with
  | trialEnded endsAt hstatus _ _ =>
    rw [hstatus]
    show (if s.cancelAtPeriodEnd then SubscriptionStatus.cancelled else .expired) ∈ _
    split <;> simp [SubscriptionStatus.allowedNext]
  | periodMissing hstatus _ _ =>
    rw [hstatus]
    simp [SubscriptionStatus.allowedNext, reconcile]
  | periodEnded endsAt hstatus _ _ =>
    rw [hstatus]
    show (if s.cancelAtPeriodEnd then SubscriptionStatus.cancelled
      else if 0 < s.planVersion.graceDays then .grace else .expired) ∈ _
    split
    · simp [SubscriptionStatus.allowedNext]
    · split <;> simp [SubscriptionStatus.allowedNext]
  | graceEnded endsAt hstatus _ _ =>
    rw [hstatus]
    simp [SubscriptionStatus.allowedNext, reconcile]
  | suspended agreementId hstatus =>
    rw [hstatus]
    simp [SubscriptionStatus.allowedNext, suspendRequest, reconcile]
  | resumed hheld _ =>
    rw [suspended_of_held hheld]
    simp [SubscriptionStatus.allowedNext, resumeRequest, reconcile]
  | lapsed endsAt hheld _ _ =>
    rw [suspended_of_held hheld]
    simp [SubscriptionStatus.allowedNext, reconcile]

theorem Reconciling.shape (h : Reconciling s now r) :
    r.allowOutOfOrder = true ∧ r.periodStartedAt = none ∧ r.periodEndsAt = none := by
  cases h <;> exact ⟨rfl, rfl, rfl⟩

theorem dueTransition_reconciling (h : dueTransition s now = some (r, goesOn)) :
    Reconciling s now r ∧ (r.toStatus = .cancelled ∨ r.toStatus = .expired ∨
      (r.toStatus = .grace ∧ goesOn = true)) := by
  unfold dueTransition at h
  split at h
  · next hmissing =>
    cases h
    exact ⟨.periodMissing hmissing.1 hmissing.2.1 hmissing.2.2, .inr (.inl rfl)⟩
  · split at h
    · next trialEnd hstatus hends =>
      split at h
      · cases h
        refine ⟨.trialEnded trialEnd hstatus hends ‹_›, ?_⟩
        by_cases hcancel : s.cancelAtPeriodEnd = true
        · exact .inl (if_pos hcancel)
        · exact .inr (.inl (if_neg hcancel))
      · simp at h
    · next periodEnd hstatus hends =>
      split at h
      · cases h
        refine ⟨.periodEnded periodEnd hstatus hends ‹_›, ?_⟩
        by_cases hcancel : s.cancelAtPeriodEnd = true
        · exact .inl (if_pos hcancel)
        · by_cases hgrace : 0 < s.planVersion.graceDays
          · exact .inr (.inr ⟨(if_neg hcancel).trans (if_pos hgrace), rfl⟩)
          · exact .inr (.inl ((if_neg hcancel).trans (if_neg hgrace)))
      · simp at h
    · next graceEnd hstatus hends =>
      split at h
      · cases h
        exact ⟨.graceEnded graceEnd hstatus hends ‹_›, .inr (.inl rfl)⟩
      · simp at h
    · simp at h

theorem dueTransition_final (h : dueTransition s now = some (r, false)) :
    r.toStatus.givesAccess = false := by
  rcases (dueTransition_reconciling h).2 with hr | hr | ⟨_, hno⟩
  · rw [hr]; rfl
  · rw [hr]; rfl
  · simp at hno

theorem dueTransition_eq_none (h : s.status.givesAccess = false) (now : Nat) :
    dueTransition s now = none := by
  cases hs : s.status with
  | trialing => rw [hs] at h; exact absurd h (by simp [SubscriptionStatus.givesAccess])
  | active => rw [hs] at h; exact absurd h (by simp [SubscriptionStatus.givesAccess])
  | grace => rw [hs] at h; exact absurd h (by simp [SubscriptionStatus.givesAccess])
  | pending => simp [dueTransition, hs]
  | expired => simp [dueTransition, hs]
  | cancelled => simp [dueTransition, hs]
  | suspended => simp [dueTransition, hs]
  | refunded => simp [dueTransition, hs]

def resumption (s : Subscription) (now : Nat) : Option TransitionRequest :=
  if isInstallmentSuspension s.toSubscriptionState then some (resumeRequest s now) else none

def suspension (s : Subscription) (agreementId now : Nat) : Option TransitionRequest :=
  if s.status = .active then some (suspendRequest s agreementId now) else none

/-- The installments have a say: the subscription runs or is suspended, no first installment
is under review, and no suspended period has run out. -/
structure Enforceable (account : Account) (s : Subscription) (now : Nat) : Prop where
  status : s.status = .active ∨ s.status = .suspended
  notPending : account.firstInstallmentPending = false
  ahead : isInstallmentSuspension s.toSubscriptionState = true →
    s.currentPeriodEndsAt.all (now < ·) = true

/-- The decisions of `enforce_installments`, by what they rest on. -/
inductive Enforces (account : Account) (s : Subscription) (now : Nat) : Enforcement → Prop
  | idle (h : (s.status ≠ .active ∧ s.status ≠ .suspended) ∨
      account.firstInstallmentPending = true) : Enforces account s now ⟨none, none⟩
  | lapsed (endsAt : Nat) (hpending : account.firstInstallmentPending = false)
      (hheld : isInstallmentSuspension s.toSubscriptionState = true)
      (hends : s.currentPeriodEndsAt = some endsAt) (hle : endsAt ≤ now) :
      Enforces account s now
        ⟨none, some (reconcile .expired "period_ended" endsAt (.periodEnd endsAt))⟩
  | free (h : Enforceable account s now) (hnone : account.activeAgreement = none) :
      Enforces account s now ⟨none, resumption s now⟩
  | completed (h : Enforceable account s now) (agreement : InstallmentAgreement)
      (hactive : account.activeAgreement = some agreement)
      (hstate : account.installmentState agreement now = .completed) :
      Enforces account s now ⟨some agreement, resumption s now⟩
  | blocked (h : Enforceable account s now) (agreement : InstallmentAgreement)
      (hactive : account.activeAgreement = some agreement)
      (hstate : (account.installmentState agreement now).blocksAccess = true) :
      Enforces account s now ⟨none, suspension s agreement.id now⟩
  | kept (h : Enforceable account s now) (agreement : InstallmentAgreement)
      (hactive : account.activeAgreement = some agreement)
      (hstate : (account.installmentState agreement now).blocksAccess = false)
      (hopen : account.installmentState agreement now ≠ .completed) :
      Enforces account s now ⟨none, resumption s now⟩

theorem enforcement_spec (account : Account) (s : Subscription) (now : Nat) :
    Enforces account s now (enforcement account s now) := by
  unfold enforcement
  by_cases hstatus : s.status ≠ .active ∧ s.status ≠ .suspended
  · rw [if_pos hstatus]
    exact .idle (.inl hstatus)
  · rw [if_neg hstatus]
    by_cases hpending : account.firstInstallmentPending = true
    · rw [if_pos hpending]
      exact .idle (.inr hpending)
    · rw [if_neg hpending]
      have hnot : account.firstInstallmentPending = false := by simpa using hpending
      cases hends : s.currentPeriodEndsAt.filter fun endsAt =>
          isInstallmentSuspension s.toSubscriptionState && decide (endsAt ≤ now) with
      | some endsAt =>
        obtain ⟨hsome, hboth⟩ := Option.filter_eq_some_iff.mp hends
        rw [Bool.and_eq_true, decide_eq_true_eq] at hboth
        exact .lapsed endsAt hnot hboth.1 hsome hboth.2
      | none =>
        have henforceable : Enforceable account s now := by
          refine ⟨by tauto, hnot, fun hheld => ?_⟩
          cases hperiod : s.currentPeriodEndsAt with
          | none => rfl
          | some endsAt =>
            rw [hperiod, Option.filter_eq_none_iff] at hends
            have hfalse := hends endsAt rfl
            simp only [hheld, Bool.true_and, decide_eq_true_eq, Nat.not_le] at hfalse
            simpa using hfalse
        cases hagreement : account.activeAgreement with
        | none => exact .free henforceable hagreement
        | some agreement =>
          dsimp only
          by_cases hstate : account.installmentState agreement now = .completed
          · rw [if_pos hstate]
            exact .completed henforceable agreement hagreement hstate
          · rw [if_neg hstate]
            by_cases hblocks : (account.installmentState agreement now).blocksAccess = true
            · rw [if_pos hblocks]
              exact .blocked henforceable agreement hagreement hblocks
            · rw [if_neg hblocks]
              exact .kept henforceable agreement hagreement (by simpa using hblocks) hstate

/-- What the installments call for is called for. -/
theorem Enforces.reconciling {e : Enforcement} (h : Enforces account s now e)
    (hr : e.request = some r) : Reconciling s now r := by
  have hresume : Enforceable account s now → resumption s now = some r → Reconciling s now r := by
    intro henforceable hr
    unfold resumption at hr
    split at hr
    · next hheld =>
      cases hr
      exact .resumed hheld (henforceable.ahead hheld)
    · simp at hr
  cases h with
  | idle => simp at hr
  | lapsed endsAt _ hheld hends hle =>
    cases hr
    exact .lapsed endsAt hheld hends hle
  | free henforceable => exact hresume henforceable hr
  | completed henforceable => exact hresume henforceable hr
  | kept henforceable => exact hresume henforceable hr
  | blocked _ agreement =>
    unfold suspension at hr
    split at hr
    · next hactive =>
      cases hr
      exact .suspended agreement.id hactive
    · simp at hr

/-- One step of a refresh. -/
inductive ReconcileStep (now : Nat) (a : Account) : Account → Prop
  | moved (s : Subscription) (r : TransitionRequest) (b : Account) (hs : a.subscription = some s)
      (hr : Reconciling s now r) (hfresh : a.spent r.key = false)
      (hsync : syncSubscriptionEntitlements (a.moved s r) now = .ok b) : ReconcileStep now a b
  | completed (agreement : InstallmentAgreement) (hactive : a.activeAgreement = some agreement) :
      ReconcileStep now a (completeAgreement a (some agreement) now)

/-- The account after a step of a transition: all but the grants are as the transition
wrote them. -/
theorem moved_synced (h : syncSubscriptionEntitlements (account.moved s r) now = .ok result) :
    result.subscription = some (s.transitioned r) ∧
      result.transitions = account.transitions ++ [transitionEntry s r] ∧
      result.agreements = account.agreements ∧ SameBooks account result := by
  obtain ⟨grants, rfl, hmanual⟩ := sync_frame h
  exact ⟨rfl, rfl, rfl, rfl, rfl, rfl, rfl, rfl, hmanual⟩

theorem transition_step {result : TransitionResult} (hs : account.subscription = some s)
    (hr : Reconciling s now r) (h : transitionSubscription account r now = .ok result) :
    (account.spent r.key = true ∧ result.account = account) ∨
      (account.spent r.key = false ∧
        syncSubscriptionEntitlements (account.moved s r) now = .ok result.account ∧
        ReconcileStep now account result.account) := by
  obtain ⟨t, ht, ⟨hspent, hsame⟩ | ⟨hfresh, _, hsync⟩⟩ :=
    transitionSubscription_reconciled hr.shape.1 h
  · exact .inl ⟨hspent, hsame⟩
  · obtain rfl : t = s := Option.some.inj (ht.symm.trans hs)
    exact .inr ⟨hfresh, hsync, .moved t r _ hs hr hfresh hsync⟩

open Relation in
/-- The lifecycle is a chain of steps.  What is still due at its end is under a spent key,
and is not the end of a period. -/
theorem refreshLifecycle_steps {depth : Nat} (h : refreshLifecycle now depth account = .ok result) :
    ReflTransGen (ReconcileStep now) account result ∧
      ∀ s r goesOn, result.subscription = some s → dueTransition s now = some (r, goesOn) →
        goesOn = false ∧ result.spent r.key = true := by
  induction depth generalizing account with
  | zero => exact absurd h (by simp [refreshLifecycle])
  | succ depth ih =>
    rw [refreshLifecycle] at h
    cases hs : account.subscription with
    | none => rw [hs] at h; simp at h
    | some s =>
      simp only [hs] at h
      cases hd : dueTransition s now with
      | none =>
        rw [hd] at h
        cases h
        refine ⟨.refl, fun t r goesOn ht hdue => ?_⟩
        obtain rfl : t = s := Option.some.inj (ht.symm.trans hs)
        exact absurd (hd.symm.trans hdue) (by simp)
      | some due =>
        obtain ⟨request, goesOn⟩ := due
        simp only [hd] at h
        obtain ⟨moved, hmoved, h⟩ := Outcome.bind_eq_ok.mp h
        obtain ⟨hreconciling, _⟩ := dueTransition_reconciling hd
        have hstep := transition_step hs hreconciling hmoved
        cases goesOn with
        | true =>
          obtain ⟨hsteps, hrest⟩ := ih h
          refine ⟨?_, hrest⟩
          rcases hstep with ⟨_, hsame⟩ | ⟨_, _, hone⟩
          · rwa [hsame] at hsteps
          · exact .head hone hsteps
        | false =>
          cases h
          rcases hstep with ⟨hspent, hsame⟩ | ⟨_, hsync, hone⟩
          · rw [hsame]
            refine ⟨.refl, fun t r goesOn ht hdue => ?_⟩
            obtain rfl : t = s := Option.some.inj (ht.symm.trans hs)
            rw [hd] at hdue
            cases hdue
            exact ⟨rfl, hspent⟩
          · refine ⟨.single hone, fun t r goesOn ht hdue => ?_⟩
            obtain rfl : t = s.transitioned request :=
              Option.some.inj (ht.symm.trans (moved_synced hsync).1)
            have hnone : dueTransition (s.transitioned request) now = none :=
              dueTransition_eq_none (dueTransition_final hd) now
            exact absurd (hnone.symm.trans hdue) (by simp)

open Relation in
theorem enforceInstallments_steps (h : enforceInstallments account now = .ok result) :
    ReflTransGen (ReconcileStep now) account result := by
  obtain ⟨s, hs, hcases⟩ := enforceInstallments_cases h
  have hspec := enforcement_spec account s now
  have hcompletes : ReflTransGen (ReconcileStep now) account
      (completeAgreement account (enforcement account s now).completes now) := by
    cases hc : (enforcement account s now).completes with
    | none => exact .refl
    | some agreement =>
      have hactive : account.activeAgreement = some agreement := by
        generalize enforcement account s now = e at hspec hc
        cases hspec with
        | completed _ agreement' hactive _ =>
          cases hc
          exact hactive
        | _ => simp at hc
      exact .single (.completed agreement hactive)
  rcases hcases with ⟨_, rfl⟩ | ⟨request, moved, hrequest, hmoved, rfl⟩
  · exact hcompletes
  · have hs' : (completeAgreement account (enforcement account s now).completes now).subscription =
        some s := by
      cases (enforcement account s now).completes with
      | none => exact hs
      | some agreement => exact hs
    rcases transition_step hs' (hspec.reconciling hrequest) hmoved with ⟨_, hsame⟩ | ⟨_, _, hone⟩
    · rwa [hsame]
    · exact hcompletes.tail hone

open Relation in
theorem refreshSubscription_steps (h : refreshSubscription account now = .ok result) :
    ReflTransGen (ReconcileStep now) account result := by
  obtain ⟨reconciled, hreconciled, h⟩ := Outcome.bind_eq_ok.mp h
  exact (refreshLifecycle_steps hreconciled).1.trans (enforceInstallments_steps h)

/-- What reconciliation never writes: the plan, the dates, the cancellation and the payment a
subscription rests on. -/
structure SameTerms (s t : Subscription) : Prop where
  plan : t.planVersion = s.planVersion
  trialStarted : t.trialStartedAt = s.trialStartedAt
  trialEnds : t.trialEndsAt = s.trialEndsAt
  periodStarted : t.currentPeriodStartedAt = s.currentPeriodStartedAt
  periodEnds : t.currentPeriodEndsAt = s.currentPeriodEndsAt
  grace : t.graceEndsAt = s.graceEndsAt
  cancel : t.cancelAtPeriodEnd = s.cancelAtPeriodEnd
  provisional : t.provisionalPaymentId = s.provisionalPaymentId

theorem SameTerms.refl (s : Subscription) : SameTerms s s := ⟨rfl, rfl, rfl, rfl, rfl, rfl, rfl, rfl⟩

theorem SameTerms.trans {u : Subscription} (h : SameTerms s t) (h' : SameTerms t u) :
    SameTerms s u :=
  ⟨h'.plan.trans h.plan, h'.trialStarted.trans h.trialStarted, h'.trialEnds.trans h.trialEnds,
    h'.periodStarted.trans h.periodStarted, h'.periodEnds.trans h.periodEnds,
    h'.grace.trans h.grace, h'.cancel.trans h.cancel, h'.provisional.trans h.provisional⟩

theorem Reconciling.terms (h : Reconciling s now r) : SameTerms s (s.transitioned r) := by
  obtain ⟨_, hstart, hend⟩ := h.shape
  refine ⟨rfl, rfl, rfl, ?_, ?_, ?_, rfl, rfl⟩
  · simp [Subscription.transitioned, hstart]
  · simp [Subscription.transitioned, hend]
  · simp [Subscription.transitioned, hend]

open Relation in
theorem steps_terms (h : ReflTransGen (ReconcileStep now) account result)
    (hs : account.subscription = some s) : ∃ t, result.subscription = some t ∧ SameTerms s t := by
  induction h with
  | refl => exact ⟨s, hs, .refl s⟩
  | tail _ hstep ih =>
    obtain ⟨t, ht, hsame⟩ := ih
    cases hstep with
    | moved u r _ hu hr _ hsync =>
      obtain rfl : u = t := Option.some.inj (hu.symm.trans ht)
      exact ⟨_, (moved_synced hsync).1, hsame.trans hr.terms⟩
    | completed agreement _ => exact ⟨t, ht, hsame⟩

theorem refreshSubscription_terms (h : refreshSubscription account now = .ok result) :
    ∃ s t, account.subscription = some s ∧ result.subscription = some t ∧ SameTerms s t := by
  cases hs : account.subscription with
  | none =>
    obtain ⟨reconciled, hreconciled, _⟩ := Outcome.bind_eq_ok.mp h
    rw [recursionLimit, refreshLifecycle] at hreconciled
    simp only [hs] at hreconciled
    simp at hreconciled
  | some s =>
    obtain ⟨t, ht, hterms⟩ := steps_terms (refreshSubscription_steps h) hs
    exact ⟨s, t, rfl, ht, hterms⟩

theorem refreshSubscription_settles (h : refreshSubscription account now = .ok result)
    (ht : result.subscription = some t) (hperiod : t.currentPeriodEndsAt.isSome = true)
    (hd : dueTransition t now = some (r, goesOn)) : goesOn = false ∧ result.spent r.key = true := by
  obtain ⟨reconciled, hreconciled, henforced⟩ := Outcome.bind_eq_ok.mp h
  have hsettles := (refreshLifecycle_steps hreconciled).2
  obtain ⟨s, hs, hcases⟩ := enforceInstallments_cases henforced
  have hspec := enforcement_spec reconciled s now
  have hrow : ∀ completes, (completeAgreement reconciled completes now).subscription = some s ∧
      (completeAgreement reconciled completes now).transitions = reconciled.transitions := by
    intro completes
    cases completes with
    | none => exact ⟨hs, rfl⟩
    | some agreement => exact ⟨hs, rfl⟩
  obtain ⟨hrowCompleted, hkeysCompleted⟩ := hrow (enforcement reconciled s now).completes
  have hsame : result = completeAgreement reconciled (enforcement reconciled s now).completes now →
      goesOn = false ∧ result.spent r.key = true := by
    rintro rfl
    obtain rfl : t = s := Option.some.inj (ht.symm.trans hrowCompleted)
    unfold Account.spent
    rw [hkeysCompleted]
    exact hsettles t r goesOn hs hd
  rcases hcases with ⟨_, hkept⟩ | ⟨request, moved, hrequest, hmoved, rfl⟩
  · exact hsame hkept
  · have hcalled := hspec.reconciling hrequest
    rcases transition_step hrowCompleted hcalled hmoved with ⟨_, hkept⟩ | ⟨_, hsync, _⟩
    · exact hsame hkept
    · obtain rfl : t = s.transitioned request :=
        Option.some.inj (ht.symm.trans (moved_synced hsync).1)
      -- A status the installments lead to is left by no date, or has its period ahead.
      have hnone : dueTransition (s.transitioned request) now = none := by
        have hsuspend : ∀ id, suspension s id now = some request →
            dueTransition (s.transitioned request) now = none := by
          intro id hsome
          unfold suspension at hsome
          split at hsome
          · cases hsome
            exact dueTransition_eq_none rfl now
          · simp at hsome
        have hresume : Enforceable reconciled s now → resumption s now = some request →
            dueTransition (s.transitioned request) now = none := by
          intro henforceable hsome
          unfold resumption at hsome
          split at hsome
          · next hheld =>
            cases hsome
            obtain ⟨endsAt, hends⟩ := Option.isSome_iff_exists.mp hperiod
            have hends' : s.currentPeriodEndsAt = some endsAt := hends
            have hahead := henforceable.ahead hheld
            simp only [hends', Option.all_some, decide_eq_true_eq] at hahead
            simp [dueTransition, Subscription.transitioned, resumeRequest, reconcile, hends',
              Nat.not_le.mpr hahead]
          · simp at hsome
        generalize enforcement reconciled s now = e at hspec hrequest
        cases hspec with
        | idle _ => simp at hrequest
        | lapsed endsAt _ _ _ _ =>
          cases hrequest
          exact dueTransition_eq_none rfl now
        | free henforceable _ => exact hresume henforceable hrequest
        | completed henforceable _ _ _ => exact hresume henforceable hrequest
        | blocked _ agreement _ _ => exact hsuspend agreement.id hrequest
        | kept henforceable _ _ _ _ => exact hresume henforceable hrequest
      exact absurd (hnone.symm.trans hd) (by simp)

theorem refreshed_active_ahead {endsAt : Nat} (h : refreshSubscription account now = .ok result)
    (ht : result.subscription = some t) (hactive : t.status = .active)
    (hends : t.currentPeriodEndsAt = some endsAt) : now < endsAt := by
  by_contra hle
  have hd : ∃ r, dueTransition t now = some (r, true) := by
    simp [dueTransition, hactive, hends, Nat.not_lt.mp hle]
  obtain ⟨r, hr⟩ := hd
  exact absurd (refreshSubscription_settles h ht (by simp [hends]) hr).1 (by simp)

theorem refreshed_grace_ahead {endsAt : Nat} (h : refreshSubscription account now = .ok result)
    (ht : result.subscription = some t) (hgrace : t.status = .grace)
    (hperiod : t.currentPeriodEndsAt.isSome = true) (hends : t.graceEndsAt = some endsAt) :
    now < endsAt ∨ result.spent (.graceEnd endsAt) = true := by
  by_cases hlt : now < endsAt
  · exact .inl hlt
  · have hd : dueTransition t now =
        some (reconcile .expired "grace_ended" endsAt (.graceEnd endsAt), false) := by
      simp [dueTransition, hgrace, hends, Nat.not_lt.mp hlt]
    exact .inr (refreshSubscription_settles h ht hperiod hd).2

end LockIn.Commerce
