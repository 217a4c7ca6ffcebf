import LockIn.Commerce.Reconciliation

/-!
# Refreshing to the end

A refresh comes to an end when the keys of the dates ahead are unspent: the end of a trial,
of a period and of a grace window each move the status on.  What it ends in is quiet, so that
refreshing again at the same instant changes nothing.
-/

namespace LockIn.Commerce

open List Outcome

def Account.Convergent (account : Account) : Prop :=
  ∀ s p, account.subscription = some s → s.provisionalPaymentId.bind account.payment? = some p →
    p.manualSubmission.isSome = true

theorem sync_total {account : Account} {s : Subscription} (hs : account.subscription = some s)
    (h : account.Convergent) (now : Nat) :
    ∃ result, syncSubscriptionEntitlements account now = .ok result := by
  unfold syncSubscriptionEntitlements
  simp only [hs]
  cases hp : s.provisionalPaymentId.bind account.payment? with
  | none => exact ⟨_, by simp only [accessTerms, hp]; rfl⟩
  | some p =>
    obtain ⟨submission, hsubmission⟩ := Option.isSome_iff_exists.mp (h s p hs hp)
    by_cases hpolicy : p.policyVersion ≠ userPolicyVersion
    · exact ⟨_, by simp only [accessTerms, hp, if_pos hpolicy]; rfl⟩
    · exact ⟨_, by simp only [accessTerms, hp, if_neg hpolicy, hsubmission]; rfl⟩

theorem Account.Convergent.moved {account : Account} {s : Subscription} (r : TransitionRequest)
    (hs : account.subscription = some s) (h : account.Convergent) :
    (account.moved s r).Convergent := by
  intro t p ht hp
  cases ht
  exact h s p hs hp

theorem Account.Convergent.synced {account result : Account} {now : Nat} (h : account.Convergent)
    (hsync : syncSubscriptionEntitlements account now = .ok result) : result.Convergent := by
  obtain ⟨grants, rfl, _⟩ := sync_frame hsync
  exact h

theorem Account.Convergent.completed {account : Account} (h : account.Convergent)
    (agreement : Option InstallmentAgreement) (now : Nat) :
    (completeAgreement account agreement now).Convergent := by
  cases agreement with
  | none => exact h
  | some agreement => exact h

variable {r : TransitionRequest} {goesOn : Bool} {agreement : InstallmentAgreement}

theorem transition_total {account : Account} {s : Subscription} {now : Nat}
    (hs : account.subscription = some s) (hr : Reconciling s now r)
    (hfresh : account.spent r.key = false) (h : account.Convergent) :
    ∃ result, transitionSubscription account r now = .ok ⟨result, true⟩ ∧
      syncSubscriptionEntitlements (account.moved s r) now = .ok result := by
  have hmoved : (account.moved s r).subscription = some (s.transitioned r) := rfl
  obtain ⟨result, hsync⟩ := sync_total hmoved (h.moved r hs) now
  obtain ⟨horder, hstart, hend⟩ := hr.shape
  refine ⟨result, ?_, hsync⟩
  unfold transitionSubscription
  simp only [hs]
  rw [if_neg (by simp [hfresh]), if_neg (by simp [horder])]
  have hvalid : validateTransition s.status r.toStatus = .ok () := if_pos hr.allowed
  simp only [hvalid, ok_bind, hstart, Option.any_none, Outcome.refuse, Bool.false_eq_true,
    if_false]
  show (do
      let synced ← syncSubscriptionEntitlements (account.moved s r) now
      return (⟨synced, true⟩ : TransitionResult)) = _
  rw [hsync]
  rfl

theorem transition_spent {account : Account} {s : Subscription} (hs : account.subscription = some s)
    (h : account.spent r.key = true) (now : Nat) :
    transitionSubscription account r now = .ok ⟨account, false⟩ := by
  unfold transitionSubscription
  simp only [hs]
  exact if_pos h

theorem spent_append {account result : Account} {t : SubscriptionTransition}
    (h : result.transitions = account.transitions ++ [t]) (key : TransitionKey) :
    result.spent key = (account.spent key || t.key == key) := by
  unfold Account.spent
  rw [h, any_append]
  simp

/-- A grace window that runs, or that the end of the period leads to. -/
def SubscriptionState.GraceAhead (v : SubscriptionState) : Prop :=
  v.status = .grace ∨ ((v.status = .active ∨ v.status = .suspended) ∧
    0 < v.planVersion.graceDays ∧ v.cancelAtPeriodEnd = false)

structure DatesAhead (account : Account) (s : Subscription) : Prop where
  trial : s.status = .trialing →
    ∀ endsAt, s.trialEndsAt = some endsAt → account.spent (.trialEnd endsAt) = false
  period : s.status = .active →
    ∃ endsAt, s.currentPeriodEndsAt = some endsAt ∧ account.spent (.periodEnd endsAt) = false
  grace : s.GraceAhead →
    ∀ endsAt, s.graceEndsAt = some endsAt → account.spent (.graceEnd endsAt) = false

theorem Reconciling.intoGrace {s : Subscription} {now : Nat} (h : Reconciling s now r)
    (hto : r.toStatus = .grace) :
    s.status = .active ∧ 0 < s.planVersion.graceDays ∧ s.cancelAtPeriodEnd = false := by
  cases h with
  | trialEnded endsAt _ _ _ =>
    by_cases hcancel : s.cancelAtPeriodEnd = true
    · simp [reconcile, hcancel] at hto
    · simp [reconcile, hcancel] at hto
  | periodEnded endsAt hstatus _ _ =>
    by_cases hcancel : s.cancelAtPeriodEnd = true
    · simp [reconcile, hcancel] at hto
    · by_cases hgrace : 0 < s.planVersion.graceDays
      · exact ⟨hstatus, hgrace, by simpa using hcancel⟩
      · simp [reconcile, hcancel, hgrace] at hto
  | periodMissing => exact absurd hto (by simp [reconcile])
  | graceEnded => exact absurd hto (by simp [reconcile])
  | suspended => exact absurd hto (by simp [suspendRequest, reconcile])
  | resumed => exact absurd hto (by simp [resumeRequest, reconcile])
  | lapsed => exact absurd hto (by simp [reconcile])

theorem DatesAhead.due_fresh {account : Account} {s : Subscription} {now : Nat}
    (h : DatesAhead account s) (hd : dueTransition s now = some (r, goesOn)) :
    account.spent r.key = false := by
  unfold dueTransition at hd
  split at hd
  · next hmissing =>
    obtain ⟨endsAt, hends, _⟩ := h.period hmissing.1
    exact absurd (hends.symm.trans hmissing.2.1) (by simp)
  · split at hd
    · next trialEnd hstatus hends =>
      split at hd
      · cases hd
        exact h.trial hstatus trialEnd hends
      · simp at hd
    · next periodEnd hstatus hends =>
      split at hd
      · cases hd
        obtain ⟨endsAt, hsome, hfresh⟩ := h.period hstatus
        obtain rfl : endsAt = periodEnd := Option.some.inj (hsome.symm.trans hends)
        exact hfresh
      · simp at hd
    · next graceEnd hstatus hends =>
      split at hd
      · cases hd
        exact h.grace (.inl hstatus) graceEnd hends
      · simp at hd
    · simp at hd

theorem dueTransition_goesOn {s : Subscription} {now : Nat}
    (hd : dueTransition s now = some (r, true)) :
    s.status = .active ∧ ∃ endsAt, r.key = .periodEnd endsAt := by
  unfold dueTransition at hd
  split at hd
  · simp at hd
  · split at hd
    · split at hd
      · simp at hd
      · simp at hd
    · next periodEnd hstatus hends =>
      split at hd
      · cases hd
        exact ⟨hstatus, _, rfl⟩
      · simp at hd
    · split at hd
      · simp at hd
      · simp at hd
    · simp at hd

theorem dueTransition_leaves {s : Subscription} {now : Nat}
    (hd : dueTransition s now = some (r, goesOn)) :
    (s.transitioned r).status ≠ .active ∧ (s.transitioned r).status ≠ .suspended := by
  show r.toStatus ≠ .active ∧ r.toStatus ≠ .suspended
  rcases (dueTransition_reconciling hd).2 with hr | hr | ⟨hr, _⟩
  · simp [hr]
  · simp [hr]
  · simp [hr]

/-- With the dates ahead the lifecycle ends, whatever stack of two calls or more it is given,
and nothing is due where it ends. -/
theorem refreshLifecycle_total {account : Account} {s : Subscription}
    (hs : account.subscription = some s) (h : DatesAhead account s) (hc : account.Convergent)
    (now : Nat) :
    ∃ result t, (∀ depth, refreshLifecycle now (depth + 2) account = .ok result) ∧
      result.subscription = some t ∧ dueTransition t now = none ∧ result.Convergent ∧
      (t = s ∨ (t.status ≠ .active ∧ t.status ≠ .suspended)) := by
  cases hd : dueTransition s now with
  | none =>
    refine ⟨account, s, fun depth => ?_, hs, hd, hc, .inl rfl⟩
    rw [refreshLifecycle]
    simp only [hs, hd]
  | some due =>
    obtain ⟨r, goesOn⟩ := due
    obtain ⟨hreconciling, hto⟩ := dueTransition_reconciling hd
    obtain ⟨moved, hmoved, hsync⟩ := transition_total hs hreconciling (h.due_fresh hd) hc
    obtain ⟨hrow, hkeys, _, _⟩ := moved_synced hsync
    have hcm : moved.Convergent := (hc.moved r hs).synced hsync
    have hfirst : ∀ depth, refreshLifecycle now (depth + 1) account =
        if goesOn then refreshLifecycle now depth moved else .ok moved := by
      intro depth
      rw [refreshLifecycle]
      simp only [hs, hd, hmoved, ok_bind]
      rfl
    cases goesOn with
    | false =>
      exact ⟨moved, _, fun depth => hfirst (depth + 1), hrow,
        dueTransition_eq_none (dueTransition_final hd) now, hcm, .inr (dueTransition_leaves hd)⟩
    | true =>
      obtain ⟨hactive, periodEnd, hkey⟩ := dueTransition_goesOn hd
      cases hd' : dueTransition (s.transitioned r) now with
      | none =>
        refine ⟨moved, _, fun depth => ?_, hrow, hd', hcm, .inr (dueTransition_leaves hd)⟩
        rw [hfirst (depth + 1), if_pos rfl, refreshLifecycle]
        simp only [hrow, hd']
      | some due' =>
        -- Only the grace window can end now, and its key is still unspent.
        obtain ⟨r', goesOn'⟩ := due'
        have hstatus : r.toStatus = .grace := by
          have hnone : r.toStatus.givesAccess = false → False := fun haccess =>
            absurd ((dueTransition_eq_none haccess now).symm.trans hd') (by simp)
          rcases hto with hr | hr | ⟨hr, _⟩
          · exact (hnone (by rw [hr]; rfl)).elim
          · exact (hnone (by rw [hr]; rfl)).elim
          · exact hr
        have hahead : DatesAhead moved (s.transitioned r) := by
          refine ⟨fun ht => ?_, fun ht => ?_, fun _ graceEnd hends => ?_⟩
          · exact absurd (hstatus.symm.trans ht) (by simp)
          · exact absurd (hstatus.symm.trans ht) (by simp)
          · have hends' : s.graceEndsAt = some graceEnd := by
              simpa [Subscription.transitioned, hreconciling.shape.2.2] using hends
            obtain ⟨_, hdays, hcancel⟩ := hreconciling.intoGrace hstatus
            rw [spent_append hkeys, h.grace (.inr ⟨.inl hactive, hdays, hcancel⟩) graceEnd hends']
            simp [transitionEntry, hkey]
        obtain ⟨hreconciling', _⟩ := dueTransition_reconciling hd'
        obtain ⟨moved', hmoved', hsync'⟩ :=
          transition_total hrow hreconciling' (hahead.due_fresh hd') hcm
        have hends : goesOn' = false := by
          cases goesOn' with
          | false => rfl
          | true => exact absurd (hstatus.symm.trans (dueTransition_goesOn hd').1) (by simp)
        subst hends
        refine ⟨moved', _, fun depth => ?_, (moved_synced hsync').1,
          dueTransition_eq_none (dueTransition_final hd') now, (hcm.moved r' hrow).synced hsync',
          .inr (dueTransition_leaves hd')⟩
        rw [hfirst (depth + 1), if_pos rfl, refreshLifecycle]
        simp only [hrow, hd', hmoved', ok_bind]
        rfl

/-- Refreshing at `now` has nothing left to do: nothing is due, no agreement is paid in full
and whatever the installments call for has been recorded before. -/
def Account.Quiet (account : Account) (s : Subscription) (now : Nat) : Prop :=
  dueTransition s now = none ∧ (enforcement account s now).completes = none ∧
    ∀ r, (enforcement account s now).request = some r → account.spent r.key = true

theorem Account.Quiet.refresh {account : Account} {s : Subscription} {now : Nat}
    (hs : account.subscription = some s) (h : account.Quiet s now) (depth : Nat) :
    refreshSubscriptionWithin (depth + 1) account now = .ok account := by
  obtain ⟨hdue, hcompletes, hspent⟩ := h
  unfold refreshSubscriptionWithin
  rw [refreshLifecycle]
  simp only [hs, hdue, ok_bind]
  unfold enforceInstallments
  simp only [hs, hcompletes, completeAgreement]
  cases hr : (enforcement account s now).request with
  | none => rfl
  | some r =>
    simp only [transition_spent hs (hspent r hr) now, ok_bind]
    rfl

/-- The agreements of an account have identifiers of their own and one of them is active at
most. -/
structure AgreementBooks (account : Account) : Prop where
  ids : Table.Distinct InstallmentAgreement.id account.agreements
  one : ∀ a ∈ account.agreements, ∀ b ∈ account.agreements,
    a.status = .active → b.status = .active → a = b

theorem activeAgreement_mem {account : Account} (h : account.activeAgreement = some agreement) :
    agreement ∈ account.agreements ∧ agreement.status = .active := by
  have hmem := mem_of_getLast? h
  simpa using mem_filter.mp hmem

theorem AgreementBooks.completed {account : Account} (h : AgreementBooks account)
    (hactive : account.activeAgreement = some agreement) (now : Nat) :
    (completeAgreement account (some agreement) now).activeAgreement = none := by
  obtain ⟨hmem, hstatus⟩ := activeAgreement_mem hactive
  unfold Account.activeAgreement
  rw [getLast?_eq_none_iff, filter_eq_nil_iff]
  intro a ha
  rcases Table.mem_put.mp ha with ⟨rfl, _⟩ | ⟨hold, hne⟩
  · simp
  · intro hactive'
    have hsame := h.one a hold agreement hmem (by simpa using hactive') hstatus
    exact hne (by rw [hsame])

theorem activeAgreement_congr {a b : Account} (h : b.agreements = a.agreements) :
    b.activeAgreement = a.activeAgreement := by
  unfold Account.activeAgreement
  rw [h]

theorem installmentState_congr {a b : Account} (h : b.payments = a.payments)
    (agreement : InstallmentAgreement) (now : Nat) :
    b.installmentState agreement now = a.installmentState agreement now := by
  simp only [Account.installmentState, Account.nextInstallment, Account.installmentSettled,
    Account.installmentPending, Account.agreementPayments, h]

/-- An active period that is not over at `now` ends after it. -/
theorem period_ahead {s : Subscription} {now endsAt : Nat} (hdue : dueTransition s now = none)
    (hactive : s.status = .active) (hends : s.currentPeriodEndsAt = some endsAt) : now < endsAt := by
  by_contra hle
  simp [dueTransition, hactive, hends, Nat.not_lt.mp hle] at hdue

theorem dueTransition_active {s : Subscription} {now endsAt : Nat} (hactive : s.status = .active)
    (hends : s.currentPeriodEndsAt = some endsAt) (hlt : now < endsAt) :
    dueTransition s now = none := by
  simp [dueTransition, hactive, hends, Nat.not_le.mpr hlt]

theorem not_held_of_status {s : SubscriptionState} (h : s.status ≠ .suspended) :
    isInstallmentSuspension s = false := by
  cases hheld : isInstallmentSuspension s with
  | false => rfl
  | true => exact absurd (suspended_of_held hheld) h

section
variable {account : Account} {s : Subscription} {now : Nat}

theorem quiet_of_status (hdue : dueTransition s now = none)
    (h : s.status ≠ .active ∧ s.status ≠ .suspended) : account.Quiet s now := by
  have hidle : enforcement account s now = ⟨none, none⟩ := if_pos h
  exact ⟨hdue, by rw [hidle], by simp [hidle]⟩

/-- What is not suspended for an installment is quiet when no agreement is paid in full or
missed. -/
theorem quiet_of_open (hdue : dueTransition s now = none)
    (hheld : isInstallmentSuspension s.toSubscriptionState = false) (h : ∀ agreement, account.activeAgreement = some agreement →
      account.installmentState agreement now ≠ .completed ∧
        (account.installmentState agreement now).blocksAccess = false) :
    account.Quiet s now := by
  have hnone : resumption s now = none := by simp [resumption, hheld]
  have hspec := enforcement_spec account s now
  refine ⟨hdue, ?_⟩
  generalize enforcement account s now = e at hspec
  cases hspec with
  | idle _ => exact ⟨rfl, by simp⟩
  | lapsed _ _ hheld' _ _ => rw [hheld] at hheld'; simp at hheld'
  | free _ _ => exact ⟨rfl, by simp [hnone]⟩
  | completed _ agreement hagreement hstate => exact absurd hstate (h agreement hagreement).1
  | blocked _ agreement hagreement hstate =>
    rw [(h agreement hagreement).2] at hstate
    simp at hstate
  | kept _ _ _ _ _ => exact ⟨rfl, by simp [hnone]⟩

theorem quiet_of_blocked (hstatus : s.status = .suspended)
    (hahead : s.currentPeriodEndsAt.all (now < ·) = true)
    (hactive : account.activeAgreement = some agreement)
    (hblocks : (account.installmentState agreement now).blocksAccess = true) :
    account.Quiet s now := by
  have hdue : dueTransition s now = none :=
    dueTransition_eq_none (by rw [hstatus]; rfl) now
  have hspec := enforcement_spec account s now
  refine ⟨hdue, ?_⟩
  generalize enforcement account s now = e at hspec
  cases hspec with
  | idle _ => exact ⟨rfl, by simp⟩
  | lapsed endsAt _ _ hends hle =>
    simp only [hends, Option.all_some, decide_eq_true_eq] at hahead
    omega
  | free _ hnone => exact absurd (hactive.symm.trans hnone) (by simp)
  | completed _ agreement' hactive' hstate =>
    obtain rfl : agreement' = agreement := Option.some.inj (hactive'.symm.trans hactive)
    rw [hstate] at hblocks
    exact absurd hblocks (by simp [InstallmentState.blocksAccess])
  | blocked _ _ _ _ => exact ⟨rfl, by simp [suspension, hstatus]⟩
  | kept _ agreement' hactive' hstate _ =>
    obtain rfl : agreement' = agreement := Option.some.inj (hactive'.symm.trans hactive)
    rw [hblocks] at hstate
    simp at hstate

def makeRequested (account : Account) (request : Option TransitionRequest) (now : Nat) :
    Except CommerceError Account :=
  match request with
  | none => .ok account
  | some r => do
    let result ← transitionSubscription account r now
    return result.account

theorem enforceInstallments_eq (hs : account.subscription = some s) :
    enforceInstallments account now =
      makeRequested (completeAgreement account (enforcement account s now).completes now)
        (enforcement account s now).request now := by
  unfold enforceInstallments
  simp only [hs]
  rfl

/-- A suspension that nothing explains is lifted, or stays because its key was spent. -/
theorem resumption_total (hs : account.subscription = some s) (hdue : dueTransition s now = none)
    (hc : account.Convergent)
    (hperiod : s.status = .suspended → s.currentPeriodEndsAt.isSome = true)
    (hahead : isInstallmentSuspension s.toSubscriptionState = true →
      s.currentPeriodEndsAt.all (now < ·) = true)
    (hopen : ∀ agreement, account.activeAgreement = some agreement →
      account.installmentState agreement now ≠ .completed ∧
        (account.installmentState agreement now).blocksAccess = false) :
    ∃ result t, makeRequested account (resumption s now) now = .ok result ∧
      result.subscription = some t ∧ result.Quiet t now := by
  cases hheld : isInstallmentSuspension s.toSubscriptionState with
  | false =>
    have hnone : resumption s now = none := by simp [resumption, hheld]
    exact ⟨account, s, by rw [hnone]; rfl, hs, quiet_of_open hdue hheld hopen⟩
  | true =>
    have hsome : resumption s now = some (resumeRequest s now) := by simp [resumption, hheld]
    have hsuspended := suspended_of_held hheld
    by_cases hspent : account.spent (resumeRequest s now).key = true
    · refine ⟨account, s, ?_, hs, hdue, ?_⟩
      · rw [hsome]
        simp only [makeRequested, transition_spent hs hspent now, ok_bind]
        rfl
      · have hspec := enforcement_spec account s now
        generalize enforcement account s now = e at hspec
        have hresume : ∀ r, resumption s now = some r → account.spent r.key = true := by
          intro r hr
          rw [hsome] at hr
          cases hr
          exact hspent
        cases hspec with
        | idle _ => exact ⟨rfl, by simp⟩
        | lapsed endsAt _ _ hends hle =>
          have hlater := hahead hheld
          simp only [hends, Option.all_some, decide_eq_true_eq] at hlater
          omega
        | free _ _ => exact ⟨rfl, hresume⟩
        | completed _ agreement hagreement hstate => exact absurd hstate (hopen agreement hagreement).1
        | blocked _ agreement hagreement hstate =>
          rw [(hopen agreement hagreement).2] at hstate
          simp at hstate
        | kept _ _ _ _ _ => exact ⟨rfl, hresume⟩
    · obtain ⟨result, hmade, hsync⟩ :=
        transition_total hs (.resumed hheld (hahead hheld)) (by simpa using hspent) hc
      obtain ⟨hrow, _, hagreements, hbooks⟩ := moved_synced hsync
      obtain ⟨endsAt, hends⟩ := Option.isSome_iff_exists.mp (hperiod hsuspended)
      have hlater := hahead hheld
      simp only [hends, Option.all_some, decide_eq_true_eq] at hlater
      refine ⟨result, _, ?_, hrow, quiet_of_open ?_ (not_held_of_status (by simp
        [Subscription.transitioned, resumeRequest, reconcile])) ?_⟩
      · rw [hsome]
        simp only [makeRequested, hmade, ok_bind]
        rfl
      · have hends' : (s.transitioned (resumeRequest s now)).currentPeriodEndsAt = some endsAt := hends
        exact dueTransition_active rfl hends' hlater
      · intro agreement hagreement
        rw [activeAgreement_congr hagreements] at hagreement
        rw [installmentState_congr hbooks.payments]
        exact hopen agreement hagreement

theorem suspension_total (hs : account.subscription = some s) (hdue : dueTransition s now = none)
    (hc : account.Convergent) (hperiod : s.status = .active → s.currentPeriodEndsAt.isSome = true)
    (henforceable : Enforceable account s now)
    (hagreement : account.activeAgreement = some agreement)
    (hblocks : (account.installmentState agreement now).blocksAccess = true) :
    ∃ result t, makeRequested account (suspension s agreement.id now) now = .ok result ∧
      result.subscription = some t ∧ result.Quiet t now := by
  have hequation : ∀ e, Enforces account s now e → e.completes = none ∧
      ∀ r, e.request = some r → suspension s agreement.id now = some r := by
    intro e hspec
    cases hspec with
    | idle _ => exact ⟨rfl, by simp⟩
    | lapsed endsAt _ hheld hends hle =>
      have hlater := henforceable.ahead hheld
      simp only [hends, Option.all_some, decide_eq_true_eq] at hlater
      omega
    | free _ hnone => exact absurd (hagreement.symm.trans hnone) (by simp)
    | completed _ agreement' hactive' hstate =>
      obtain rfl : agreement' = agreement := Option.some.inj (hactive'.symm.trans hagreement)
      rw [hstate] at hblocks
      exact absurd hblocks (by simp [InstallmentState.blocksAccess])
    | blocked _ agreement' hactive' _ =>
      obtain rfl : agreement' = agreement := Option.some.inj (hactive'.symm.trans hagreement)
      exact ⟨rfl, fun r hr => hr⟩
    | kept _ agreement' hactive' hstate _ =>
      obtain rfl : agreement' = agreement := Option.some.inj (hactive'.symm.trans hagreement)
      rw [hblocks] at hstate
      simp at hstate
  obtain ⟨hcompletes, hrequest⟩ := hequation _ (enforcement_spec account s now)
  by_cases hactive : s.status = .active
  · have hsome : suspension s agreement.id now = some (suspendRequest s agreement.id now) :=
      if_pos hactive
    by_cases hspent : account.spent (suspendRequest s agreement.id now).key = true
    · refine ⟨account, s, ?_, hs, hdue, hcompletes, fun r hr => ?_⟩
      · rw [hsome]
        simp only [makeRequested, transition_spent hs hspent now, ok_bind]
        rfl
      · have hr' := hrequest r hr
        rw [hsome] at hr'
        cases hr'
        exact hspent
    · obtain ⟨result, hmade, hsync⟩ :=
        transition_total hs (.suspended agreement.id hactive) (by simpa using hspent) hc
      obtain ⟨hrow, _, hagreements, hbooks⟩ := moved_synced hsync
      obtain ⟨endsAt, hends⟩ := Option.isSome_iff_exists.mp (hperiod hactive)
      have hlater := period_ahead hdue hactive hends
      refine ⟨result, _, ?_, hrow, quiet_of_blocked rfl ?_
        ((activeAgreement_congr hagreements).trans hagreement) ?_⟩
      · rw [hsome]
        simp only [makeRequested, hmade, ok_bind]
        rfl
      · show s.currentPeriodEndsAt.all (now < ·) = true
        simpa [hends] using hlater
      · rw [installmentState_congr hbooks.payments]
        exact hblocks
  · have hnone : suspension s agreement.id now = none := if_neg hactive
    refine ⟨account, s, by rw [hnone]; rfl, hs, hdue, hcompletes, fun r hr => ?_⟩
    exact absurd (hnone.symm.trans (hrequest r hr)) (by simp)

end

theorem enforceInstallments_total {account : Account} {s : Subscription} {now : Nat}
    (hs : account.subscription = some s) (hdue : dueTransition s now = none)
    (hc : account.Convergent) (hagreements : AgreementBooks account)
    (hperiod : s.status = .active ∨ s.status = .suspended → s.currentPeriodEndsAt.isSome = true) :
    ∃ result t, enforceInstallments account now = .ok result ∧ result.subscription = some t ∧
      result.Quiet t now := by
  rw [enforceInstallments_eq hs]
  have hspec := enforcement_spec account s now
  have hself : ∀ e, enforcement account s now = e → e.completes = none → e.request = none →
      account.Quiet s now := by
    intro e he hcompletes hrequest
    exact ⟨hdue, by rw [he]; exact hcompletes, by rw [he, hrequest]; simp⟩
  generalize he : enforcement account s now = e at hspec ⊢
  cases hspec with
  | idle _ => exact ⟨account, s, rfl, hs, hself _ he rfl rfl⟩
  | lapsed endsAt hpending hheld hends hle =>
    have hreconciling : Reconciling s now
        (reconcile .expired "period_ended" endsAt (.periodEnd endsAt)) :=
      .lapsed endsAt hheld hends hle
    by_cases hspent : account.spent (.periodEnd endsAt) = true
    · refine ⟨account, s, ?_, hs, hdue, by rw [he], fun r hr => ?_⟩
      · simp only [completeAgreement, makeRequested,
          transition_spent hs (r := reconcile _ _ _ (.periodEnd endsAt)) hspent now,
          ok_bind]
        rfl
      · rw [he] at hr
        cases hr
        exact hspent
    · have hfresh : account.spent (.periodEnd endsAt) = false := by simpa using hspent
      obtain ⟨result, hmade, hsync⟩ := transition_total hs hreconciling hfresh hc
      refine ⟨result, _, ?_, (moved_synced hsync).1, quiet_of_status ?_ ?_⟩
      · simp only [completeAgreement, makeRequested, hmade, ok_bind]
        rfl
      · exact dueTransition_eq_none rfl now
      · exact ⟨by simp [Subscription.transitioned, reconcile],
          by simp [Subscription.transitioned, reconcile]⟩
  | free henforceable hnone =>
    exact resumption_total hs hdue hc (fun h => hperiod (.inr h)) henforceable.ahead
      fun agreement hagreement => absurd (hnone.symm.trans hagreement) (by simp)
  | completed henforceable agreement hagreement hstate =>
    have hs' : (completeAgreement account (some agreement) now).subscription = some s := hs
    refine resumption_total hs' hdue
      (hc.completed (some agreement) now) (fun h => hperiod (.inr h)) henforceable.ahead ?_
    intro other hother
    exact absurd ((hagreements.completed hagreement now).symm.trans hother) (by simp)
  | blocked henforceable agreement hagreement hstate =>
    exact suspension_total hs hdue hc (fun h => hperiod (.inl h)) henforceable hagreement hstate
  | kept henforceable agreement hagreement hstate hopen =>
    refine resumption_total hs hdue hc (fun h => hperiod (.inr h)) henforceable.ahead ?_
    intro other hother
    obtain rfl : other = agreement := Option.some.inj (hother.symm.trans hagreement)
    exact ⟨hopen, hstate⟩

/-- With the dates ahead a refresh ends, and refreshing again at the same instant changes
nothing. -/
theorem refreshSubscription_total {account : Account} {s : Subscription} {now : Nat}
    (hs : account.subscription = some s) (h : DatesAhead account s) (hc : account.Convergent)
    (hagreements : AgreementBooks account)
    (hheld : s.status = .suspended → s.currentPeriodEndsAt.isSome = true) :
    ∃ result t, (∀ depth, refreshSubscriptionWithin (depth + 2) account now = .ok result) ∧
      result.subscription = some t ∧ result.Quiet t now := by
  obtain ⟨reconciled, t, hlifecycle, ht, hdue, hct, hkept⟩ := refreshLifecycle_total hs h hc now
  have hsame := (refreshLifecycle_frame (hlifecycle 0)).2
  have hbooks : AgreementBooks reconciled := by
    obtain ⟨h1, h2⟩ := hagreements
    rw [← hsame] at h1 h2
    exact ⟨h1, h2⟩
  have hperiod : t.status = .active ∨ t.status = .suspended → t.currentPeriodEndsAt.isSome = true := by
    intro hstatus
    rcases hkept with rfl | ⟨hactive, hsuspended⟩
    · rcases hstatus with hactive | hsuspended
      · obtain ⟨endsAt, hends, _⟩ := h.period hactive
        simp [hends]
      · exact hheld hsuspended
    · exact (hstatus.elim hactive hsuspended).elim
  obtain ⟨result, u, henforced, hu, hquiet⟩ :=
    enforceInstallments_total ht hdue hct hbooks hperiod
  refine ⟨result, u, fun depth => ?_, hu, hquiet⟩
  unfold refreshSubscriptionWithin
  rw [hlifecycle depth, ok_bind]
  exact henforced

end LockIn.Commerce
