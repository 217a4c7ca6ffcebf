import LockIn.Commerce.Keys
import LockIn.Commerce.System

/-!
# What a reader's calls keep

The calls of a reader and of the operators who review the cards keep the dates of the
subscription in order: a trial has its end, a paid row has a period and the grace window
after it, and while a purchase is under review the subscription holds the period it
reserved and the submission the state to go back to.

`ReaderBooks K` says so.  The proposition `K` adds what holds in runs whose purchases
reserve periods not yet recorded as over: the end of the grace window is unspent wherever a
row can come back to it.
-/

namespace LockIn.Commerce

open Gregorian Relation Table

def SubscriptionStatus.held : SubscriptionStatus → Bool
  | .active | .grace | .suspended => true
  | _ => false

def SubscriptionState.Dated (v : SubscriptionState) : Prop :=
  ∃ endsAt, v.currentPeriodEndsAt = some endsAt ∧
    v.graceEndsAt = some (addDays endsAt v.planVersion.graceDays)

structure RowBooks (account : Account) (v : SubscriptionState) : Prop where
  trial : v.status = .trialing → v.graceEndsAt = none ∧
    ∃ endsAt, v.trialEndsAt = some endsAt ∧ account.spent (.trialEnd endsAt) = false
  dated : v.status.held = true → v.Dated

structure Owner (K : Prop) (account : Account) (s : Subscription) (p : Payment)
    (submission : ManualRechargeSubmission) (clock : Nat) : Prop where
  submitted : p.manualSubmission = some submission
  pending : submission.status = .pending
  plan : s.planVersion = p.price.planVersion
  period : s.currentPeriodEndsAt = some submission.subscriptionPeriodEndsAt
  grace : s.graceEndsAt =
    some (addDays submission.subscriptionPeriodEndsAt s.planVersion.graceDays)
  started : s.status ≠ .trialing
  reserved : ∃ submittedAt, submittedAt ≤ clock ∧
    paidPeriodWindow submission.previousSubscriptionState p.price submittedAt =
      .ok (submission.subscriptionPeriodStartedAt, submission.subscriptionPeriodEndsAt)
  row : RowBooks account submission.previousSubscriptionState
  notSuspended : submission.previousSubscriptionState.status ≠ .suspended
  early : submission.isEarlyRenewal = true →
    (submission.previousSubscriptionState.status = .active ∨
      submission.previousSubscriptionState.status = .grace) ∧
    submission.previousSubscriptionEndAt =
      submission.previousSubscriptionState.currentPeriodEndsAt ∧
    submission.extensionEndsAt = some submission.subscriptionPeriodEndsAt
  ordinary : submission.isEarlyRenewal = false →
    submission.previousSubscriptionState.status ≠ .active ∧
      (K → submission.previousSubscriptionState.status ≠ .grace)
  graceFresh : K → submission.isEarlyRenewal = true → s.status.held = true → ∀ endsAt,
    submission.previousSubscriptionState.graceEndsAt = some endsAt →
      account.spent (.graceEnd endsAt) = false

/-- A payment has its submission, which is pending as long as it is, and the number of an
installment only in an agreement. -/
def Payment.UnderReview (p : Payment) : Prop :=
  ∃ submission, p.manualSubmission = some submission ∧
    (p.status = .pending ↔ submission.status = .pending) ∧
    (p.agreementId = none → p.installmentNumber = none)

structure ReaderBooks (K : Prop) (account : Account) (clock : Nat) : Prop where
  keys : KeyBooks account clock
  agreements : AgreementBooks account
  agreementIds : ∀ a ∈ account.agreements, a.id < account.nextId
  reviews : ∀ p ∈ account.payments, p.UnderReview
  row : ∀ s, account.subscription = some s → RowBooks account s.toSubscriptionState
  graceFresh : K → ∀ s, account.subscription = some s → s.GraceAhead →
    ∀ endsAt, s.graceEndsAt = some endsAt → account.spent (.graceEnd endsAt) = false
  owner : ∀ s id, account.subscription = some s → s.provisionalPaymentId = some id →
    ∃ p submission, account.payment? id = some p ∧ Owner K account s p submission clock

variable {K : Prop}

theorem readerBooks_empty : ReaderBooks K Account.empty 0 where
  keys := keyBooks_empty
  agreements := ⟨List.nodup_nil, by simp [Account.empty]⟩
  agreementIds := by simp [Account.empty]
  reviews := by simp [Account.empty]
  row := by simp [Account.empty]
  graceFresh := by simp [Account.empty]
  owner := by simp [Account.empty]

section
variable {account : Account} {clock : Nat}

variable {s : Subscription} {later now : Nat} {r : TransitionRequest} {v : SubscriptionState}
  {result : Account}

theorem Owner.mono {p : Payment} {submission : ManualRechargeSubmission}
    (h : Owner K account s p submission clock) (hle : clock ≤ later) :
    Owner K account s p submission later := by
  obtain ⟨submittedAt, hsubmitted, hwindow⟩ := h.reserved
  exact { h with reserved := ⟨submittedAt, Nat.le_trans hsubmitted hle, hwindow⟩ }

theorem ReaderBooks.mono (h : ReaderBooks K account clock) (hle : clock ≤ later) :
    ReaderBooks K account later :=
  { h with
    keys := h.keys.mono hle
    owner := fun s id hs hid => by
      obtain ⟨p, submission, hp, howner⟩ := h.owner s id hs hid
      exact ⟨p, submission, hp, howner.mono hle⟩ }

theorem ReaderBooks.idle (h : ReaderBooks K account clock)
    (hidle : account.submissionPending = false) (hs : account.subscription = some s) :
    s.provisionalPaymentId = none := by
  cases hid : s.provisionalPaymentId with
  | none => rfl
  | some id =>
    obtain ⟨p, submission, hp, howner⟩ := h.owner s id hs hid
    have hpending : account.submissionPending = true :=
      List.any_eq_true.mpr ⟨p, find_mem hp, by simp [howner.submitted, howner.pending]⟩
    rw [hidle] at hpending
    simp at hpending

theorem ReaderBooks.convergent (h : ReaderBooks K account clock) : account.Convergent := by
  intro s p hs hp
  obtain ⟨id, hid, hfound⟩ := Option.bind_eq_some_iff.mp hp
  obtain ⟨submission, hsubmission, _⟩ := h.reviews p (find_mem hfound)
  simp [hsubmission]

theorem Reconciling.effect (h : Reconciling s now r) :
    r.toStatus ≠ .trialing ∧ (r.toStatus.held = true → s.status.held = true) ∧
      (∀ endsAt, r.key = .trialEnd endsAt → s.status = .trialing) ∧
      ∀ endsAt, r.key = .graceEnd endsAt → r.toStatus.held = false := by
  cases h with
  | trialEnded endsAt hstatus _ _ =>
    by_cases hcancel : s.cancelAtPeriodEnd = true
    · simp [reconcile, hcancel, hstatus, SubscriptionStatus.held]
    · simp [reconcile, hcancel, hstatus, SubscriptionStatus.held]
  | periodMissing hstatus _ _ => simp [reconcile, hstatus, SubscriptionStatus.held]
  | periodEnded endsAt hstatus _ _ =>
    by_cases hcancel : s.cancelAtPeriodEnd = true
    · simp [reconcile, hcancel, hstatus, SubscriptionStatus.held]
    · by_cases hgrace : 0 < s.planVersion.graceDays
      · simp [reconcile, hcancel, hgrace, hstatus, SubscriptionStatus.held]
      · simp [reconcile, hcancel, hgrace, hstatus, SubscriptionStatus.held]
  | graceEnded endsAt hstatus _ _ => simp [reconcile, hstatus, SubscriptionStatus.held]
  | suspended _ hstatus => simp [suspendRequest, reconcile, hstatus, SubscriptionStatus.held]
  | resumed hheld _ =>
    simp [resumeRequest, reconcile, suspended_of_held hheld, SubscriptionStatus.held]
  | lapsed endsAt hheld _ _ =>
    simp [reconcile, suspended_of_held hheld, SubscriptionStatus.held]

theorem SubscriptionState.GraceAhead.held (h : v.GraceAhead) : v.status.held = true := by
  rcases h with hgrace | ⟨hactive | hsuspended, _⟩
  · rw [hgrace]; rfl
  · rw [hactive]; rfl
  · rw [hsuspended]; rfl

theorem Reconciling.graceAhead (h : Reconciling s now r) (hto : (s.transitioned r).GraceAhead) :
    s.GraceAhead := by
  rcases hto with hgrace | ⟨hstatus, hdays, hcancel⟩
  · obtain ⟨hactive, hahead⟩ := h.intoGrace hgrace
    exact .inr ⟨.inl hactive, hahead⟩
  · refine .inr ⟨?_, hdays, hcancel⟩
    have hheld : r.toStatus.held = true := by
      rcases hstatus with hactive | hsuspended
      · show (s.transitioned r).status.held = true
        rw [hactive]; rfl
      · show (s.transitioned r).status.held = true
        rw [hsuspended]; rfl
    have hfrom := h.effect.2.1 hheld
    cases h with
    | graceEnded => exact absurd hheld (by simp [reconcile, SubscriptionStatus.held])
    | trialEnded _ htrial => exact absurd hfrom (by simp [htrial, SubscriptionStatus.held])
    | periodMissing hactive => exact .inl hactive
    | periodEnded _ hactive => exact .inl hactive
    | suspended _ hactive => exact .inl hactive
    | resumed hsuspension => exact .inr (suspended_of_held hsuspension)
    | lapsed _ hsuspension => exact .inr (suspended_of_held hsuspension)

theorem RowBooks.of_spent {a b : Account} (h : RowBooks a v)
    (hkeys : v.status = .trialing → ∀ endsAt, b.spent (.trialEnd endsAt) = a.spent (.trialEnd endsAt)) :
    RowBooks b v := by
  refine ⟨fun htrial => ?_, h.dated⟩
  obtain ⟨hgrace, endsAt, hends, hfresh⟩ := h.trial htrial
  exact ⟨hgrace, endsAt, hends, by rw [hkeys htrial, hfresh]⟩

theorem ReaderBooks.step (h : ReaderBooks K account clock) {result : Account} {now : Nat}
    (hle : clock ≤ now) (hstep : ReconcileStep now account result) : ReaderBooks K result now := by
  have hkeys := h.keys.step hle hstep
  cases hstep with
  | completed agreement hactive =>
    obtain ⟨hmem, hstatus⟩ := activeAgreement_mem hactive
    refine
      { keys := hkeys
        agreements := ⟨h.agreements.ids.put _, fun a ha b hb haa hba => ?_⟩
        agreementIds := fun a ha => ?_
        reviews := h.reviews
        row := fun s hs => (h.row s hs).of_spent fun _ _ => rfl
        graceFresh := h.graceFresh
        owner := fun s id hs hid => ?_ }
    · rcases mem_of_mem_put ha with rfl | ha
      · simp at haa
      · rcases mem_of_mem_put hb with rfl | hb
        · simp at hba
        · exact h.agreements.one a ha b hb haa hba
    · rcases mem_of_mem_put ha with rfl | ha
      · exact h.agreementIds agreement hmem
      · exact h.agreementIds a ha
    · obtain ⟨p, submission, hp, howner⟩ := h.owner s id hs hid
      exact ⟨p, submission, hp, { howner.mono hle with
        row := howner.row.of_spent fun _ _ => rfl
        graceFresh := howner.graceFresh }⟩
  | moved s r _ hs hr hfresh hsync =>
    obtain ⟨hrow, htransitions, hagreements, hbooks⟩ := moved_synced hsync
    obtain ⟨hnotTrial, hheld, htrialKey, hgraceKey⟩ := hr.effect
    have hperiod := hr.terms.periodEnds
    have hgrace := hr.terms.grace
    have hspent := spent_append htransitions
    have hunspent : ∀ key, r.key ≠ key → result.spent key = account.spent key := by
      intro key hne
      rw [hspent key]
      simp [transitionEntry, hne]
    refine
      { keys := hkeys
        agreements := ?_
        agreementIds := ?_
        reviews := ?_
        row := ?_
        graceFresh := ?_
        owner := ?_ }
    · obtain ⟨h1, h2⟩ := h.agreements
      rw [← hagreements] at h1 h2
      exact ⟨h1, h2⟩
    · rw [hagreements, hbooks.nextId]
      exact h.agreementIds
    · rw [hbooks.payments]
      exact h.reviews
    · intro t ht
      obtain rfl : t = s.transitioned r := Option.some.inj (ht.symm.trans hrow)
      refine ⟨fun htrial => absurd htrial hnotTrial, fun hto => ?_⟩
      obtain ⟨endsAt, hends, hgraceEnds⟩ := (h.row s hs).dated (hheld hto)
      exact ⟨endsAt, hperiod.trans hends, hgrace.trans hgraceEnds⟩
    · intro hk t ht hto endsAt hends
      obtain rfl : t = s.transitioned r := Option.some.inj (ht.symm.trans hrow)
      rw [hunspent]
      · exact h.graceFresh hk s hs (hr.graceAhead hto) endsAt (hgrace.symm.trans hends)
      · intro hkey
        exact absurd (hto.held.symm.trans (hgraceKey endsAt hkey)) (by simp)
    · intro t id ht hid
      obtain rfl : t = s.transitioned r := Option.some.inj (ht.symm.trans hrow)
      obtain ⟨p, submission, hp, howner⟩ := h.owner s id hs hid
      have htrialKeys : ∀ endsAt, result.spent (.trialEnd endsAt) = account.spent (.trialEnd endsAt) :=
        fun endsAt => hunspent _ fun hkey => howner.started (htrialKey endsAt hkey)
      refine ⟨p, submission, ?_, { howner.mono hle with
        period := hperiod.trans howner.period
        grace := hgrace.trans howner.grace
        started := hnotTrial
        row := howner.row.of_spent fun _ => htrialKeys
        graceFresh := fun hk hearly hto endsAt hends => ?_ }⟩
      · unfold Account.payment?
        rw [hbooks.payments]
        exact hp
      · rw [hunspent]
        · exact howner.graceFresh hk hearly (hheld hto) endsAt hends
        · intro hkey
          exact absurd (hto.symm.trans (hgraceKey endsAt hkey)) (by simp)

theorem ReaderBooks.refreshed (h : ReaderBooks K account clock) {result : Account} {now : Nat}
    (hle : clock ≤ now) (hrefresh : refreshSubscription account now = .ok result) :
    ReaderBooks K result now :=
  steps_invariant (I := ReaderBooks K) (fun _ ha => ha.mono hle)
    (fun _ _ ha hstep => ha.step (Nat.le_refl _) hstep) h (refreshSubscription_steps hrefresh)

theorem ReaderBooks.synced (h : ReaderBooks K account clock)
    (hsync : syncSubscriptionEntitlements account now = .ok result) :
    ReaderBooks K result clock := by
  have hkeys := h.keys.synced hsync
  obtain ⟨grants, rfl, _⟩ := sync_frame hsync
  refine
    { keys := hkeys
      agreements := ⟨h.agreements.ids, h.agreements.one⟩
      agreementIds := h.agreementIds
      reviews := h.reviews
      row := fun s hs => (h.row s hs).of_spent fun _ _ => rfl
      graceFresh := h.graceFresh
      owner := fun s id hs hid => ?_ }
  obtain ⟨p, submission, hp, howner⟩ := h.owner s id hs hid
  exact ⟨p, submission, hp, { howner with
    row := howner.row.of_spent fun _ _ => rfl
    graceFresh := howner.graceFresh }⟩

theorem ReaderBooks.written (h : ReaderBooks K account clock) {t : SubscriptionTransition}
    (hkeys : KeyBooks ((account.putSubscription s).record t) now) (hdate : t.key.date = none)
    (hrow : RowBooks account s.toSubscriptionState)
    (hgrace : K → s.GraceAhead → ∀ endsAt, s.graceEndsAt = some endsAt →
      account.spent (.graceEnd endsAt) = false)
    (howner : ∀ id, s.provisionalPaymentId = some id → ∃ p submission,
      account.payment? id = some p ∧ Owner K account s p submission now) :
    ReaderBooks K ((account.putSubscription s).record t) now := by
  have hspent : ∀ key, key.date.isSome = true →
      ((account.putSubscription s).record t).spent key = account.spent key := by
    intro key hkey
    have hne : t.key ≠ key := by
      rintro rfl
      rw [hdate] at hkey
      simp at hkey
    simp [Account.spent, Account.record, Account.putSubscription, hne]
  refine
    { keys := hkeys
      agreements := ⟨h.agreements.ids, h.agreements.one⟩
      agreementIds := h.agreementIds
      reviews := h.reviews
      row := fun u hu => ?_
      graceFresh := fun hk u hu hheld endsAt hends => ?_
      owner := fun u id hu hid => ?_ }
  · cases hu
    exact hrow.of_spent fun _ endsAt => hspent _ rfl
  · cases hu
    rw [hspent _ rfl]
    exact hgrace hk hheld endsAt hends
  · cases hu
    obtain ⟨p, submission, hp, ho⟩ := howner id hid
    exact ⟨p, submission, hp, { ho with
      row := ho.row.of_spent fun _ endsAt => hspent _ rfl
      graceFresh := fun hk hearly hheld endsAt hends => by
        rw [hspent _ rfl]
        exact ho.graceFresh hk hearly hheld endsAt hends }⟩

/-- The payments, agreements and identifiers may change under a row that keeps resting on
what it rests on. -/
theorem ReaderBooks.filed (h : ReaderBooks K account clock) {payments : List Payment}
    {agreements : List InstallmentAgreement} {nextId : Nat}
    (hkeys : KeyBooks { account with
      payments := payments, agreements := agreements, nextId := nextId } clock)
    (hagreements : AgreementBooks { account with agreements := agreements })
    (hids : ∀ a ∈ agreements, a.id < nextId) (hreviews : ∀ p ∈ payments, p.UnderReview)
    (howner : ∀ s id, account.subscription = some s → s.provisionalPaymentId = some id →
      Table.find Payment.id payments id = account.payment? id) :
    ReaderBooks K { account with
      payments := payments, agreements := agreements, nextId := nextId } clock := by
  refine
    { keys := hkeys
      agreements := ⟨hagreements.ids, hagreements.one⟩
      agreementIds := hids
      reviews := hreviews
      row := fun s hs => (h.row s hs).of_spent fun _ _ => rfl
      graceFresh := h.graceFresh
      owner := fun s id hs hid => ?_ }
  obtain ⟨p, submission, hp, ho⟩ := h.owner s id hs hid
  exact ⟨p, submission, (howner s id hs hid).trans hp, { ho with
    row := ho.row.of_spent fun _ _ => rfl
    graceFresh := ho.graceFresh }⟩

theorem ReaderBooks.trialCreated (h : ReaderBooks K account clock) {settings : Settings}
    {user : User} {startedAt : Option Nat} {result : Account × Bool} (hle : clock ≤ now)
    (hok : createTrialForUser account settings user startedAt now = .ok result) :
    ReaderBooks K result.1 now := by
  rcases createTrialForUser_ok hok with ⟨_, hsame⟩ | ⟨hs, version, start, hsynced⟩
  · rw [hsame]
    exact h.mono hle
  · refine ReaderBooks.synced ?_ hsynced
    have hnone : ∀ key, account.spent key = false := by
      intro key
      rw [Account.spent, h.keys.untouched hs]
      rfl
    refine h.written (h.keys.written hle ?_ ?_ ?_ ?_) rfl ?_ ?_ ?_
    · intro old hold
      exact absurd (hs.symm.trans hold) (by simp)
    · intro date hd
      exact absurd hd (by simp [TransitionKey.date])
    · intro id hid
      exact absurd hid (by simp [TransitionKey.payment])
    · intro revision hr
      exact absurd hr (by simp [TransitionKey.revision])
    · exact ⟨fun _ => ⟨rfl, _, rfl, hnone _⟩, fun hheld => absurd hheld (by simp
        [trialSubscription, SubscriptionState.blank, SubscriptionStatus.held])⟩
    · intro _ hahead
      exact absurd hahead
        (by simp [trialSubscription, SubscriptionState.blank, SubscriptionState.GraceAhead])
    · intro id hid
      exact absurd hid (by simp [trialSubscription, SubscriptionState.blank])

theorem ReaderBooks.cancellationScheduled (h : ReaderBooks K account clock) (hle : clock ≤ now)
    (hok : scheduleCancellation account now = .ok result) : ReaderBooks K result now := by
  rcases scheduleCancellation_ok hok with rfl | ⟨s, hs, _, _, _, rfl⟩
  · exact h.mono hle
  · have hrow := h.row s hs
    refine h.written (h.keys.written hle ?_ ?_ ?_ ?_) rfl ⟨hrow.trial, hrow.dated⟩ ?_ ?_
    · intro old hold
      obtain rfl : old = s := Option.some.inj (hold.symm.trans hs)
      exact Nat.le_succ _
    · intro date hd
      exact absurd hd (by simp [TransitionKey.date])
    · intro id hid
      exact absurd hid (by simp [TransitionKey.payment])
    · intro revision hr
      exact absurd hr (by simp [TransitionKey.revision])
    · intro hk hahead
      exact h.graceFresh hk s hs (.inl (by simpa [SubscriptionState.GraceAhead] using hahead))
    · intro id hid
      obtain ⟨p, submission, hp, ho⟩ := h.owner s id hs hid
      exact ⟨p, submission, hp, { ho.mono hle with
        plan := ho.plan
        period := ho.period
        grace := ho.grace
        started := ho.started
        graceFresh := ho.graceFresh }⟩

theorem ReaderBooks.congr {a b : Account} (h : ReaderBooks K a clock)
    (hs : b.subscription = a.subscription) (ht : b.transitions = a.transitions)
    (hp : b.payments = a.payments) (ha : b.agreements = a.agreements) (hn : b.nextId = a.nextId) :
    ReaderBooks K b clock := by
  obtain ⟨bs, bt, be, bg, bp, ba, bc, bx, bn⟩ := b
  cases hs
  cases ht
  cases hp
  cases ha
  cases hn
  have hkeys : KeyBooks ⟨a.subscription, a.transitions, be, bg, a.payments, a.agreements, bc, bx,
      a.nextId⟩ clock :=
    ⟨⟨h.keys.payments.distinct, h.keys.payments.fresh⟩, h.keys.dates, h.keys.paymentKeys,
      h.keys.revisions, h.keys.untouched⟩
  refine
    { keys := hkeys
      agreements := ⟨h.agreements.ids, h.agreements.one⟩
      agreementIds := h.agreementIds
      reviews := h.reviews
      row := fun s hs => (h.row s hs).of_spent fun _ _ => rfl
      graceFresh := h.graceFresh
      owner := fun s id hs hid => ?_ }
  obtain ⟨p, submission, hp, ho⟩ := h.owner s id hs hid
  exact ⟨p, submission, hp, { ho with
    row := ho.row.of_spent fun _ _ => rfl
    graceFresh := ho.graceFresh }⟩

def Account.PeriodFresh (account : Account) : Prop :=
  ∀ s endsAt, account.subscription = some s → s.status = .active →
    s.currentPeriodEndsAt = some endsAt → account.spent (.periodEnd endsAt) = false

theorem Account.PeriodFresh.congr {a b : Account} (h : a.PeriodFresh)
    (hs : b.subscription = a.subscription) (ht : b.transitions = a.transitions) :
    b.PeriodFresh := by
  intro s endsAt hrow hactive hends
  have hfresh := h s endsAt (hs.symm.trans hrow) hactive hends
  unfold Account.spent at hfresh ⊢
  rw [ht]
  exact hfresh

theorem KeyBooks.periodFresh (h : KeyBooks result now)
    (hrefresh : refreshSubscription account now = .ok result) : result.PeriodFresh :=
  fun _ _ hs hactive hends => h.date_fresh rfl (refreshed_active_ahead hrefresh hs hactive hends)

end

end LockIn.Commerce
