import LockIn.Commerce.ReaderBooks

/-!
# What purchases and reviews keep

A purchase reserves a period and saves the state before it; a review lets the reserved
period stand, moves it to the day of approval or takes it back.  Each keeps `ReaderBooks`,
so that every call of a reader or a reviewer does.
-/

namespace LockIn.Commerce

open Gregorian List Outcome Relation Table

variable {K : Prop}

section
variable {account : Account} {clock : Nat}

variable {price : Price} {now submittedAt : Nat} {s : Subscription} {user : User} {pay : Bool}
  {window : Nat × Nat} {p : Payment} {result : Account} {submission : ManualRechargeSubmission}
  {v : SubscriptionState} {reason : String} {decision : Decision}

theorem isEarlyRenewal_status {s : SubscriptionState} (h : isEarlyRenewal s price now = true) :
    s.status = .active ∨ s.status = .grace := by
  unfold isEarlyRenewal earlyRenewalAllowed laterTermRenewal at h
  cases hends : s.currentPeriodEndsAt with
  | none => simp [hends] at h
  | some endsAt =>
    simp only [hends, Option.any_some, Bool.or_eq_true, Bool.and_eq_true, beq_iff_eq] at h
    tauto

/-- A period that runs, or is in its grace window, is renewed early when a purchase is
allowed. -/
theorem isEarlyRenewal_of_allowed {s : SubscriptionState} {endsAt : Nat}
    (hallowed : purchaseBlockReason account s price now = none)
    (hends : s.currentPeriodEndsAt = some endsAt) (h : (s.status = .active ∧ now < endsAt) ∨
      (s.status = .grace ∧ s.graceEndsAt.any (now ≤ ·) = true)) :
    isEarlyRenewal s price now = true := by
  rcases h with ⟨hactive, hlt⟩ | ⟨hgrace, hany⟩
  · cases hearly : earlyRenewalAllowed s now with
    | true => simp [isEarlyRenewal, hearly]
    | false =>
      -- Outside the final days only a later term may be bought.
      have hheld : isInstallmentSuspension s = false := not_held_of_status (by simp [hactive])
      have hfixed : (fixedPeriodEnd price.planVersion).isSome = true := by
        unfold purchaseBlockReason at hallowed
        cases hf : fixedPeriodEnd price.planVersion with
        | some fixedEnd => rfl
        | none => simp [hheld, hactive, hf, hends, hlt, hearly] at hallowed
      simp [isEarlyRenewal, laterTermRenewal, hfixed, hactive, hends, hlt]
  · simp [isEarlyRenewal, earlyRenewalAllowed, hends, hgrace, hany]

theorem not_suspended_of_allowed {s : SubscriptionState}
    (hallowed : purchaseBlockReason account s price now = none) : s.status ≠ .suspended := by
  intro hs
  unfold purchaseBlockReason at hallowed
  cases hheld : isInstallmentSuspension s with
  | true => simp [hheld] at hallowed
  | false => simp [hheld, hs] at hallowed

/-- What a purchase is evaluated on: nothing is under review, the period that runs is not
over, and where `K` holds neither is the grace window. -/
structure PurchaseBase (K : Prop) (account : Account) (s : Subscription) (now : Nat) : Prop where
  row : account.subscription = some s
  resting : s.provisionalPaymentId = none
  active : s.status = .active → ∀ endsAt, s.currentPeriodEndsAt = some endsAt → now < endsAt
  grace : K → s.status = .grace → s.graceEndsAt.any (now ≤ ·) = true

theorem ReaderBooks.purchased (h : ReaderBooks K account clock) (hle : clock ≤ now)
    (hbase : PurchaseBase K account s now)
    (hallowed : purchaseBlockReason account s.toSubscriptionState price now = none)
    (hreserve : K → 0 < price.planVersion.graceDays → s.cancelAtPeriodEnd = false →
      account.spent (.graceEnd (addDays window.2 price.planVersion.graceDays)) = false)
    (hp : Purchased account s user price pay now window p result) : ReaderBooks K result now := by
  obtain ⟨_, hsub, htransitions⟩ := hp.moved (h.keys.payment_fresh rfl)
  obtain ⟨key, amount, hpos, agreementId, number, hrow, hagreements⟩ := hp.row
  have hsubmission : p.manualSubmission = some (newSubmission window s.toSubscriptionState
      (isEarlyRenewal s.toSubscriptionState price now) s.currentPeriodEndsAt now) := by
    rw [hrow]
    rfl
  have hrowBooks := h.row s hbase.row
  -- The rows of payments and agreements are filed first, then the subscription is written.
  have hfiled : ReaderBooks K { account with
      payments := account.payments ++ [p], agreements := result.agreements,
      nextId := result.nextId } clock := by
    refine h.filed (h.keys.addPayment hp.id hp.nextId_lt _) ?_ ?_ ?_ ?_
    · rcases hagreements with ⟨_, _, _, hsame, _⟩ | ⟨_, hnone, _, _, hopened, _⟩
      · rw [hsame]
        exact ⟨h.agreements.ids, h.agreements.one⟩
      · rw [hopened]
        refine ⟨h.agreements.ids.append fun a ha => ?_, fun a ha b hb haa hba => ?_⟩
        · have hlt := h.agreementIds a ha
          show a.id ≠ account.nextId + 1
          omega
        · rcases mem_append.mp ha with ha | ha
          · exact absurd haa (hnone a ha)
          · rcases mem_append.mp hb with hb | hb
            · exact absurd hba (hnone b hb)
            · rw [mem_singleton.mp ha, mem_singleton.mp hb]
    · intro a ha
      rcases hagreements with ⟨_, _, _, hsame, hnext⟩ | ⟨_, _, _, _, hopened, hnext⟩
      · rw [hsame] at ha
        have hlt := h.agreementIds a ha
        omega
      · rw [hopened] at ha
        rcases mem_append.mp ha with ha | ha
        · have hlt := h.agreementIds a ha
          omega
        · rw [mem_singleton.mp ha]
          show account.nextId + 1 < result.nextId
          omega
    · intro q hq
      rcases mem_append.mp hq with hq | hq
      · exact h.reviews q hq
      · obtain rfl : q = p := by simpa using hq
        refine ⟨_, hsubmission, ?_, fun hnone => ?_⟩
        · rw [hrow]
          exact ⟨fun _ => rfl, fun _ => rfl⟩
        · rcases hagreements with ⟨_, _, hnumber, _, _⟩ | ⟨_, _, hid, _, _, _⟩
          · rw [hrow]
            exact hnumber
          · rw [hrow] at hnone
            exact absurd (hid.symm.trans hnone) (by simp)
    · intro t id ht hid
      obtain rfl : t = s := Option.some.inj (ht.symm.trans hbase.row)
      exact absurd (hbase.resting.symm.trans hid) (by simp)
  have hperiod : (s.purchased price window account.nextId now).currentPeriodEndsAt =
      some window.2 := rfl
  have hgrace : (s.purchased price window account.nextId now).graceEndsAt =
      some (addDays window.2 price.planVersion.graceDays) := rfl
  have hwritten : ReaderBooks K (({ account with
      payments := account.payments ++ [p], agreements := result.agreements,
      nextId := result.nextId } : Account).putSubscription
        (s.purchased price window account.nextId now) |>.record
      ⟨.manualPayment account.nextId, some s.status, .active, "manual_payment_pending_review",
        now⟩) now := by
    refine hfiled.written (hfiled.keys.written hle ?_ ?_ ?_ ?_) rfl ?_ ?_ ?_
    · intro old hold
      obtain rfl : old = s := Option.some.inj (hold.symm.trans hbase.row)
      exact Nat.le_succ _
    · intro date hd
      exact absurd hd (by simp [TransitionKey.date])
    · intro id hid
      cases hid
      exact hp.nextId_lt
    · intro revision hr
      exact absurd hr (by simp [TransitionKey.revision])
    · exact ⟨fun htrial => absurd htrial (by simp [Subscription.purchased,
        Subscription.transitioned, provisionalRequest]), fun _ => ⟨window.2, hperiod, hgrace⟩⟩
    · intro hk hahead endsAt hends
      cases hgrace.symm.trans hends
      rcases hahead with hstatus | ⟨_, hdays, hcancel⟩
      · exact absurd hstatus (by simp [Subscription.purchased, Subscription.transitioned,
          provisionalRequest])
      · exact hreserve hk hdays hcancel
    · intro id hid
      obtain rfl : id = account.nextId := (Option.some.inj hid).symm
      refine ⟨p, newSubmission window s.toSubscriptionState
        (isEarlyRenewal s.toSubscriptionState price now) s.currentPeriodEndsAt now, ?_, ?_⟩
      · show Table.find Payment.id (account.payments ++ [p]) account.nextId = some p
        rw [find_append, find_eq_none.mpr h.keys.payments.ne_nextId]
        simp [Table.find, hp.id]
      · refine
          { submitted := hsubmission
            pending := rfl
            plan := by rw [hrow]; rfl
            period := hperiod
            grace := hgrace
            started := by simp [Subscription.purchased, Subscription.transitioned,
              provisionalRequest]
            reserved := ⟨now, Nat.le_refl _, by rw [hrow]; exact hp.reserved⟩
            row := hrowBooks.of_spent fun _ _ => rfl
            notSuspended := not_suspended_of_allowed hallowed
            early := fun hearly => ⟨isEarlyRenewal_status hearly, ?_, ?_⟩
            ordinary := fun hordinary => ⟨fun hactive => ?_, fun hk hgraceStatus => ?_⟩
            graceFresh := fun hk hearly _ endsAt hends => ?_ }
        · exact if_pos hearly
        · exact if_pos hearly
        · have hstatus : s.status = .active := hactive
          obtain ⟨endsAt, hends, _⟩ := hrowBooks.dated (by rw [hstatus]; rfl)
          have hearly := isEarlyRenewal_of_allowed hallowed hends
            (.inl ⟨hstatus, hbase.active hstatus endsAt hends⟩)
          exact absurd (hearly.symm.trans hordinary) (by simp)
        · have hstatus : s.status = .grace := hgraceStatus
          obtain ⟨endsAt, hends, _⟩ := hrowBooks.dated (by rw [hstatus]; rfl)
          have hearly := isEarlyRenewal_of_allowed hallowed hends
            (.inr ⟨hstatus, hbase.grace hk hstatus⟩)
          exact absurd (hearly.symm.trans hordinary) (by simp)
        · rcases isEarlyRenewal_status hearly with hstatus | hstatus
          · obtain ⟨periodEnd, hperiodEnd, hgraceEnd⟩ := hrowBooks.dated (by rw [hstatus]; rfl)
            have hlt := hbase.active hstatus periodEnd hperiodEnd
            cases hgraceEnd.symm.trans hends
            have hlater := le_addDays periodEnd s.planVersion.graceDays
            exact h.keys.date_fresh rfl (by omega)
          · exact h.graceFresh hk s hbase.row (.inl hstatus) endsAt hends
  exact hwritten.congr hsub htransitions hp.payments rfl rfl

theorem ReaderBooks.opened (h : ReaderBooks K account clock) {result : Account × Subscription}
    (hle : clock ≤ now) (hok : openSubscription account price now = .ok result) :
    ReaderBooks K result.1 now := by
  rcases openSubscription_ok hok with ⟨_, hsame⟩ | ⟨hs, _, hopened⟩
  · rw [hsame]
    exact h.mono hle
  · rw [hopened]
    refine h.written (h.keys.written hle ?_ ?_ ?_ ?_) rfl ?_ ?_ ?_
    · intro old hold
      exact absurd (hs.symm.trans hold) (by simp)
    · intro date hd
      exact absurd hd (by simp [TransitionKey.date])
    · intro id hid
      exact absurd hid (by simp [TransitionKey.payment])
    · intro revision hr
      exact absurd hr (by simp [TransitionKey.revision])
    · exact ⟨fun htrial => absurd htrial (by simp [awaitingPayment, SubscriptionState.blank]),
        fun hheld => absurd hheld
          (by simp [awaitingPayment, SubscriptionState.blank, SubscriptionStatus.held])⟩
    · intro _ hahead
      exact absurd hahead
        (by simp [awaitingPayment, SubscriptionState.blank, SubscriptionState.GraceAhead])
    · intro id hid
      exact absurd hid (by simp [awaitingPayment, SubscriptionState.blank])

theorem submissionPending_congr {a b : Account} (h : b.payments = a.payments) :
    b.submissionPending = a.submissionPending := by
  unfold Account.submissionPending
  rw [h]

theorem ReaderBooks.reconciled (h : ReaderBooks K account clock) {first : Subscription}
    (hle : clock ≤ now) (hidle : account.submissionPending = false)
    (hfirst : account.subscription = some first)
    (hok : reconcileForPurchase account first now = .ok result)
    (hs : result.subscription = some s) :
    ReaderBooks K result now ∧ PurchaseBase K result s now := by
  have hbooks := reconcileForPurchase_frame hok
  have hkept : ReaderBooks K result now := by
    unfold reconcileForPurchase at hok
    split at hok
    · cases hok
      exact h.mono hle
    · exact h.refreshed hle hok
  refine ⟨hkept, hs, ?_, ?_, ?_⟩
  · exact hkept.idle ((submissionPending_congr hbooks.payments).trans hidle) hs
  · intro hactive endsAt hends
    unfold reconcileForPurchase at hok
    split at hok
    · next hkeeps =>
      cases hok
      obtain rfl : s = first := Option.some.inj (hs.symm.trans hfirst)
      simp [keepsGrace, hactive] at hkeeps
    · exact refreshed_active_ahead hok hs hactive hends
  · intro hk hgrace
    unfold reconcileForPurchase at hok
    split at hok
    · next hkeeps =>
      cases hok
      obtain rfl : s = first := Option.some.inj (hs.symm.trans hfirst)
      exact (Bool.and_eq_true _ _ |>.mp hkeeps).2
    · obtain ⟨endsAt, hends, hgraceEnds⟩ := (hkept.row s hs).dated (by rw [hgrace]; rfl)
      rcases refreshed_grace_ahead hok hs hgrace (by simp [hends]) hgraceEnds with hlt | hspent
      · simp [hgraceEnds, Nat.le_of_lt hlt]
      · have hfresh := hkept.graceFresh hk s hs (.inl hgrace) _ hgraceEnds
        exact absurd (hfresh.symm.trans hspent) (by simp)

theorem ReaderBooks.submitted (h : ReaderBooks K account clock) {key : String}
    {opened reconciled : Account} {first : Subscription} (hle : clock ≤ now)
    (hsub : Submitted account user price key pay now opened reconciled first s window p result)
    (hreserve : K → 0 < price.planVersion.graceDays → s.cancelAtPeriodEnd = false →
      reconciled.spent (.graceEnd (addDays window.2 price.planVersion.graceDays)) = false) :
    ReaderBooks K result now := by
  obtain ⟨hbooks, _, hfirst⟩ := openSubscription_frame hsub.opens
  have hopened : ReaderBooks K opened now := h.opened hle hsub.opens
  obtain ⟨hreconciled, hbase⟩ := hopened.reconciled (Nat.le_refl _)
    ((submissionPending_congr hbooks.payments).trans hsub.idle) hfirst hsub.reconciles
    hsub.subscription
  exact hreconciled.purchased (Nat.le_refl _) hbase hsub.allowed hreserve hsub.purchased

theorem ReaderBooks.installmentPaid (h : ReaderBooks K account clock)
    {agreement : InstallmentAgreement} {paid : Account} (hidle : account.submissionPending = false)
    (hpaid : InstallmentPaid account s user agreement now p paid) : ReaderBooks K paid clock := by
  obtain ⟨key, amount, hpos, number, window, hrow⟩ := hpaid.row
  rw [hpaid.paid]
  refine h.filed (h.keys.addPayment hpaid.id (Nat.lt_succ_self _) _)
    ⟨h.agreements.ids, h.agreements.one⟩ ?_ ?_ ?_
  · intro a ha
    exact Nat.lt_succ_of_lt (h.agreementIds a ha)
  · intro q hq
    rcases mem_append.mp hq with hq | hq
    · exact h.reviews q hq
    · obtain rfl : q = p := by simpa using hq
      rw [hrow]
      exact ⟨_, rfl, ⟨fun _ => rfl, fun _ => rfl⟩, fun hnone => absurd hnone (by simp
        [Payment.awaiting, Payment.submitted, Payment.record])⟩
  · intro t id ht hid
    exact absurd ((h.idle hidle ht).symm.trans hid) (by simp)

theorem approvedWindow_ok {approved : Subscription} {after : ManualRechargeSubmission}
    (h : approvedWindow s p submission now = .ok (approved, after)) :
    approved = s ∨ ∃ startsAt endsAt,
      paidPeriodWindow submission.previousSubscriptionState p.price now = .ok (startsAt, endsAt) ∧
      approved = { s with
        trialEndsAt := submission.previousSubscriptionState.trialEndsAt
        currentPeriodStartedAt := some startsAt
        currentPeriodEndsAt := some endsAt
        graceEndsAt := some (addDays endsAt s.planVersion.graceDays) } := by
  unfold approvedWindow at h
  split at h
  · cases h
    exact .inl rfl
  · -- The anchor reads nothing but what the saved state puts back.
    have hprior : paidPeriodWindow (priorDates s.toSubscriptionState
        submission.previousSubscriptionState) p.price now =
          paidPeriodWindow submission.previousSubscriptionState p.price now := rfl
    simp only [hprior] at h
    split at h
    · simp at h
    · next startsAt endsAt hwindow =>
      cases h
      exact .inr ⟨startsAt, endsAt, hwindow, rfl⟩

theorem paidPeriodAnchor_later (hle : submittedAt ≤ now)
    (htrial : v.status = .trialing → v.graceEndsAt = none) :
    paidPeriodAnchor v now = paidPeriodAnchor v submittedAt ∨ paidPeriodAnchor v now = now := by
  unfold paidPeriodAnchor
  by_cases hfirst : v.status = .trialing ∧ v.trialEndsAt.any (now < ·) = true
  · have hbefore : v.trialEndsAt.any (submittedAt < ·) = true := by
      obtain ⟨endsAt, hends, hlt⟩ := (Option.any_eq_true _ _).mp hfirst.2
      rw [hends]
      simp only [Option.any_some, decide_eq_true_eq] at hlt ⊢
      omega
    obtain ⟨endsAt, hends, _⟩ := (Option.any_eq_true _ _).mp hfirst.2
    rw [if_pos hfirst, if_pos ⟨hfirst.1, hbefore⟩, hends]
    exact .inl rfl
  · rw [if_neg hfirst]
    split
    · next hsecond =>
      left
      have hnot : v.status ≠ .trialing := by
        intro ht
        rcases hsecond with ⟨hstatus, _⟩ | ⟨_, hgrace⟩
        · rw [ht] at hstatus
          simp at hstatus
        · rw [htrial ht] at hgrace
          simp at hgrace
      rw [if_neg fun hboth => hnot hboth.1, if_pos]
      · obtain ⟨endsAt, hends⟩ := Option.isSome_iff_exists.mp (hsecond.elim And.right And.left)
        rw [hends]
        rfl
      · rcases hsecond with hsecond | ⟨hperiod, hgrace⟩
        · exact .inl hsecond
        · refine .inr ⟨hperiod, ?_⟩
          obtain ⟨endsAt, hends, hge⟩ := (Option.any_eq_true _ _).mp hgrace
          rw [hends]
          simp only [Option.any_some, decide_eq_true_eq] at hge ⊢
          omega
    · exact .inr rfl

theorem paidPeriodWindow_later {reserved : Nat × Nat} (hle : submittedAt ≤ now)
    (htrial : v.status = .trialing → v.graceEndsAt = none)
    (hreserved : paidPeriodWindow v price submittedAt = .ok reserved)
    (hwindow : paidPeriodWindow v price now = .ok window) : window = reserved ∨ now < window.2 := by
  obtain ⟨hsame, hlt⟩ := paidPeriodWindow_ok hwindow
  obtain ⟨hsame', _⟩ := paidPeriodWindow_ok hreserved
  rcases paidPeriodAnchor_later hle htrial with hanchor | hanchor
  · rw [hsame, hsame', hanchor]
    exact .inl rfl
  · right
    rw [hsame, hanchor] at hlt
    rw [hsame, hanchor]
    exact hlt

theorem ReaderBooks.decisionWritten (h : ReaderBooks K account clock) {s' : Subscription}
    {key : TransitionKey} (hle : clock ≤ now) (hs : account.subscription = some s)
    (hp : p ∈ account.payments)
    (hkey : key.date = none ∧ key.payment = some p.id ∧ key.revision = none)
    (hrevision : s'.revision = s.revision + 1) (hresting : s'.provisionalPaymentId = none)
    (hrow : RowBooks account s'.toSubscriptionState)
    (hgrace : K → s'.GraceAhead → ∀ endsAt, s'.graceEndsAt = some endsAt →
      account.spent (.graceEnd endsAt) = false) :
    ReaderBooks K ((account.putSubscription s').record
      ⟨key, some s.status, s'.status, reason, now⟩) now := by
  obtain ⟨hdate, hpayment, hrev⟩ := hkey
  refine h.written (h.keys.written hle ?_ ?_ ?_ ?_) hdate hrow hgrace ?_
  · intro old hold
    obtain rfl : old = s := Option.some.inj (hold.symm.trans hs)
    omega
  · intro date hd
    exact absurd (hdate.symm.trans hd) (by simp)
  · intro id hid
    obtain rfl : p.id = id := Option.some.inj (hpayment.symm.trans hid)
    exact h.keys.payments.fresh p hp
  · intro revision hr
    exact absurd (hrev.symm.trans hr) (by simp)
  · intro id hid
    exact absurd (hresting.symm.trans hid) (by simp)

theorem recordDecision_ok {key : TransitionKey} {fromStatus : SubscriptionStatus}
    (h : recordDecision account s key fromStatus reason now = .ok result) :
    ∃ refreshed, refreshSubscription ((account.putSubscription s).record
        ⟨key, some fromStatus, s.status, reason, now⟩) now = .ok refreshed ∧
      syncSubscriptionEntitlements refreshed now = .ok result := by
  obtain ⟨inserted, hinserted, hrest⟩ := bind_eq_ok.mp h
  obtain ⟨refreshed, hrefreshed, hsynced⟩ := bind_eq_ok.mp hrest
  obtain ⟨_, rfl⟩ := insertTransition_ok hinserted
  exact ⟨refreshed, hrefreshed, hsynced⟩

/-- The row that a decision is written to. -/
inductive Decides (s : Subscription) (p : Payment) (submission : ManualRechargeSubmission)
    (now : Nat) : Decision → Subscription → TransitionKey → Prop
  | approved (approved : Subscription) (after : ManualRechargeSubmission)
      (hwindow : approvedWindow s p submission now = .ok (approved, after)) :
      Decides s p submission now .approve
        { approved.verified with
          lastPaymentAt := some now
          statusReason := "manual_payment_approved" } (.manualApproval p.id)
  | rejected (rejected : Subscription) (hrejected : rejectedSubscription s submission = .ok rejected) :
      Decides s p submission now .reject rejected.verified (.manualRejection p.id)

theorem decideSubscription_ok {result : Account × ManualRechargeSubmission}
    (h : decideSubscription account s p submission decision now = .ok result) :
    (s.provisionalPaymentId ≠ some p.id ∧ result.1 = account) ∨
      (s.provisionalPaymentId = some p.id ∧ ∃ s' key reason,
        Decides s p submission now decision s' key ∧
        recordDecision account s' key s.status reason now = .ok result.1) := by
  unfold decideSubscription at h
  split at h
  · next hother =>
    cases h
    exact .inl ⟨hother, rfl⟩
  · next hrests =>
    rw [not_not] at hrests
    refine .inr ⟨hrests, ?_⟩
    cases decision with
    | approve =>
      obtain ⟨⟨approved, after⟩, hwindow, h⟩ := bind_eq_ok.mp h
      obtain ⟨recorded, hrecorded, h⟩ := bind_eq_ok.mp h
      cases h
      exact ⟨_, _, _, .approved approved after hwindow, hrecorded⟩
    | reject =>
      obtain ⟨recorded, hrejected, h⟩ := bind_eq_ok.mp h
      cases h
      obtain ⟨rejected, hrow, hrecorded⟩ := bind_eq_ok.mp hrejected
      exact ⟨_, _, _, .rejected rejected hrow, hrecorded⟩

/-- What a rejection puts back under `ReaderBooks`. -/
theorem Owner.rejectedSubscription {rejected : Subscription}
    (ho : Owner K account s p submission clock)
    (h : rejectedSubscription s submission = .ok rejected) :
    (submission.isEarlyRenewal = true ∧
        rejected = s.rollBack submission.previousSubscriptionState) ∨
      (submission.isEarlyRenewal = false ∧
        rejected = s.restore submission.previousSubscriptionState) := by
  unfold Commerce.rejectedSubscription at h
  cases hearly : submission.isEarlyRenewal with
  | true =>
    simp only [hearly, if_true] at h
    split at h
    · simp at h
    · cases h
      exact .inl ⟨rfl, rfl⟩
  | false =>
    simp only [hearly, Bool.false_eq_true, if_false, ho.period, if_true] at h
    cases h
    exact .inr ⟨rfl, rfl⟩

theorem Decides.key {s' : Subscription} {key : TransitionKey}
    (h : Decides s p submission now decision s' key) :
    key.date = none ∧ key.payment = some p.id ∧ key.revision = none := by
  cases h with
  | approved => exact ⟨rfl, rfl, rfl⟩
  | rejected => exact ⟨rfl, rfl, rfl⟩

theorem Owner.decided {s' : Subscription} {key : TransitionKey} (h : ReaderBooks K account clock)
    (hle : clock ≤ now) (hs : account.subscription = some s)
    (ho : Owner K account s p submission clock) (hd : Decides s p submission now decision s' key) :
    s'.revision = s.revision + 1 ∧ s'.provisionalPaymentId = none ∧
      RowBooks account s'.toSubscriptionState ∧
      (K → s'.GraceAhead → ∀ endsAt, s'.graceEndsAt = some endsAt →
        account.spent (.graceEnd endsAt) = false) := by
  have hrow := h.row s hs
  cases hd with
  | approved approved after hwindow =>
    rcases approvedWindow_ok hwindow with rfl | ⟨startsAt, endsAt, hgiven, rfl⟩
    · exact ⟨rfl, rfl, ⟨fun ht => absurd ht ho.started, hrow.dated⟩,
        fun hk hahead => h.graceFresh hk approved hs hahead⟩
    · refine ⟨rfl, rfl, ⟨fun ht => absurd ht ho.started, fun _ => ⟨endsAt, rfl, rfl⟩⟩, ?_⟩
      intro hk hahead graceEnd hends
      obtain rfl : addDays endsAt s.planVersion.graceDays = graceEnd := Option.some.inj hends
      obtain ⟨submittedAt, hsubmitted, hreserved⟩ := ho.reserved
      rcases paidPeriodWindow_later (Nat.le_trans hsubmitted hle)
        (fun ht => (ho.row.trial ht).1) hreserved hgiven with hsame | hlater
      · obtain ⟨_, rfl⟩ := Prod.mk.inj hsame
        exact h.graceFresh hk s hs hahead _ ho.grace
      · have hle' := le_addDays endsAt s.planVersion.graceDays
        exact h.keys.date_fresh rfl (by omega)
  | rejected rejected hrejected =>
    rcases ho.rejectedSubscription hrejected with ⟨hearly, rfl⟩ | ⟨hordinary, rfl⟩
    · obtain ⟨hstatus, _, _⟩ := ho.early hearly
      refine ⟨rfl, rfl, ⟨fun ht => absurd ht ho.started, fun _ => ?_⟩, ?_⟩
      · refine ho.row.dated ?_
        rcases hstatus with hactive | hgrace
        · rw [hactive]; rfl
        · rw [hgrace]; rfl
      · intro hk hahead
        exact ho.graceFresh hk hearly hahead.held
    · obtain ⟨hactive, hgrace⟩ := ho.ordinary hordinary
      refine ⟨rfl, rfl, ⟨ho.row.trial, ho.row.dated⟩, fun hk hahead => ?_⟩
      rcases hahead with hstatus | ⟨hstatus | hstatus, _⟩
      · exact absurd hstatus (hgrace hk)
      · exact absurd hstatus hactive
      · exact absurd hstatus ho.notSuspended

theorem ReaderBooks.decided (h : ReaderBooks K account clock)
    {result : Account × ManualRechargeSubmission} (hle : clock ≤ now)
    (hs : account.subscription = some s) (hp : account.payment? p.id = some p)
    (hsubmission : p.manualSubmission = some submission)
    (hok : decideSubscription account s p submission decision now = .ok result) :
    ReaderBooks K result.1 now ∧
      (∀ t, result.1.subscription = some t → t.provisionalPaymentId ≠ some p.id) ∧
      (account.PeriodFresh → result.1.PeriodFresh) := by
  rcases decideSubscription_ok hok with ⟨hother, hsame⟩ | ⟨hrests, s', key, reason, hd, hrecorded⟩
  · rw [hsame]
    refine ⟨h.mono hle, fun t ht => ?_, id⟩
    obtain rfl : t = s := Option.some.inj (ht.symm.trans hs)
    exact hother
  · obtain ⟨q, submission', hq, ho⟩ := h.owner s p.id hs hrests
    obtain rfl : q = p := Option.some.inj (hq.symm.trans hp)
    obtain rfl : submission' = submission := Option.some.inj (ho.submitted.symm.trans hsubmission)
    obtain ⟨hrevision, hresting, hrow, hgrace⟩ := ho.decided h hle hs hd
    obtain ⟨refreshed, hrefreshed, hsynced⟩ := recordDecision_ok hrecorded
    have hwritten : ReaderBooks K ((account.putSubscription s').record
        ⟨key, some s.status, s'.status, reason, now⟩) now :=
      h.decisionWritten hle hs (find_mem hp) hd.key hrevision hresting hrow hgrace
    have hkept := hwritten.refreshed (Nat.le_refl _) hrefreshed
    obtain ⟨_, u, hs', hu, hterms⟩ := refreshSubscription_terms hrefreshed
    cases hs'
    obtain ⟨grants, hgrants, _⟩ := sync_frame hsynced
    refine ⟨hkept.synced hsynced, fun t ht => ?_, fun _ => ?_⟩
    · rw [hgrants] at ht
      obtain rfl : t = u := Option.some.inj (ht.symm.trans hu)
      rw [hterms.provisional, hresting]
      simp
    · rw [hgrants]
      exact (hkept.keys.periodFresh hrefreshed).congr rfl rfl

theorem ReaderBooks.paymentPut (h : ReaderBooks K account clock) {q : Payment}
    (hp : account.payment? p.id = some p) (hid : q.id = p.id) (hreview : q.UnderReview)
    (hother : ∀ t, account.subscription = some t → t.provisionalPaymentId ≠ some p.id) :
    ReaderBooks K (account.putPayment q) clock := by
  refine h.filed (h.keys.putPayment (find_mem hp) hid) ⟨h.agreements.ids, h.agreements.one⟩
    h.agreementIds ?_ ?_
  · exact forall_mem_put h.reviews hreview
  · intro t id ht hid'
    have hne : id ≠ q.id := by
      rintro rfl
      exact hother t ht (by rw [hid', hid])
    exact find_put_of_ne hne

theorem Payment.UnderReview.reviewed (h : p.UnderReview) (r : Review)
    (after : ManualRechargeSubmission) (now : Nat) : (p.reviewed r after now).UnderReview := by
  obtain ⟨_, _, _, hnumber⟩ := h
  refine ⟨after.decided r now, rfl, ⟨fun hpending => ?_, fun hpending => ?_⟩, fun hnone => ?_⟩
  · have hstatus : r.paymentStatus = .pending := hpending
    unfold Review.paymentStatus at hstatus
    split at hstatus
    · simp at hstatus
    · simp at hstatus
  · have hstatus : r.decision.target = .pending := hpending
    cases hd : r.decision with
    | approve => simp [hd, Decision.target] at hstatus
    | reject => simp [hd, Decision.target] at hstatus
  · have hagreement : (p.reviewed r after now).agreementId = p.agreementId := by
      simp only [Payment.reviewed, Payment.record, Payment.collected]
      split <;> rfl
    have hkept : (p.reviewed r after now).installmentNumber = p.installmentNumber := by
      simp only [Payment.reviewed, Payment.record, Payment.collected]
      split <;> rfl
    rw [hkept]
    exact hnumber (hagreement.symm.trans hnone)

theorem cancelRefusedAgreement_row (account : Account) (p : Payment) (r : Review) (now : Nat) :
    (cancelRefusedAgreement account p r now).subscription = account.subscription := by
  unfold cancelRefusedAgreement
  split
  · split
    · rfl
    · rfl
  · rfl

theorem ReaderBooks.cancelRefusedAgreement (h : ReaderBooks K account clock) (p : Payment)
    (r : Review) (now : Nat) :
    ReaderBooks K (Commerce.cancelRefusedAgreement account p r now) clock := by
  unfold Commerce.cancelRefusedAgreement
  split
  · split
    · exact h
    · next agreement hagreement =>
      obtain ⟨hbound, hactive⟩ := Option.filter_eq_some_iff.mp hagreement
      obtain ⟨id, _, hfound⟩ := Option.bind_eq_some_iff.mp hbound
      have hmem : agreement ∈ account.agreements := find_mem hfound
      refine h.filed (h.keys.agreements _) ⟨h.agreements.ids.put _, ?_⟩ ?_ h.reviews fun _ _ _ _ => rfl
      · intro a ha b hb haa hba
        rcases mem_of_mem_put ha with rfl | ha
        · simp at haa
        · rcases mem_of_mem_put hb with rfl | hb
          · simp at hba
          · exact h.agreements.one a ha b hb haa hba
      · exact forall_mem_put h.agreementIds (h.agreementIds agreement hmem)
  · exact h

theorem ReaderBooks.reviewed (h : ReaderBooks K account clock) {paymentId : Nat} {r : Review}
    {after : ManualRechargeSubmission} {decided : Account} (hle : clock ≤ now)
    (hr : Reviewed account paymentId r now p s submission decided after result) :
    ReaderBooks K result now ∧ (account.PeriodFresh → result.PeriodFresh) := by
  have hid : p.id = paymentId := find_key hr.found
  have hp : account.payment? p.id = some p := by rw [hid]; exact hr.found
  obtain ⟨hdecided, hother, hfresh⟩ := h.decided hle hr.subscribed hp hr.submitted hr.decides
  have hbooks := decideSubscription_frame hr.decides
  have hp' : decided.payment? p.id = some p := by
    unfold Account.payment?
    rw [hbooks.payments]
    exact hp
  have hreview : p.UnderReview := h.reviews p (find_mem hp)
  have hrecorded : ReaderBooks K (decided.reviewRecorded p r after now) now := by
    refine hdecided.paymentPut hp' ?_ (hreview.reviewed r after now) hother
    simp only [Payment.reviewed, Payment.record, Payment.collected]
    split <;> rfl
  obtain ⟨_, settled, hsettled, hinvoiced⟩ := settleReview_ok hr.settles
  have hkept : ReaderBooks K settled now ∧
      (∀ t, settled.subscription = some t → t.provisionalPaymentId ≠ some p.id) ∧
      (account.PeriodFresh → settled.PeriodFresh) := by
    rcases hsettled with ⟨_, rfl⟩ | ⟨_, hrefreshed⟩
    · exact ⟨hrecorded, hother, fun hf => (hfresh hf).congr rfl rfl⟩
    · have hrefreshedBooks :=
        (hrecorded.cancelRefusedAgreement p r now).refreshed (Nat.le_refl _) hrefreshed
      refine ⟨hrefreshedBooks, fun t ht => ?_, fun _ => hrefreshedBooks.keys.periodFresh hrefreshed⟩
      obtain ⟨u, v, hu, hv, hterms⟩ := refreshSubscription_terms hrefreshed
      rw [cancelRefusedAgreement_row] at hu
      obtain rfl : t = v := Option.some.inj (ht.symm.trans hv)
      rw [hterms.provisional]
      exact hother u hu
  obtain ⟨hkeptBooks, hkeptOther, hkeptFresh⟩ := hkept
  rcases hinvoiced with rfl | ⟨q, invoice, hq, rfl⟩
  · exact ⟨hkeptBooks, hkeptFresh⟩
  · have hqid : q.id = p.id := find_key hq
    refine ⟨hkeptBooks.paymentPut (p := q) (by rw [hqid]; exact hq) rfl ?_
      (by rw [hqid]; exact hkeptOther), fun hf => (hkeptFresh hf).congr rfl rfl⟩
    exact hkeptBooks.reviews q (find_mem hq)

end

end LockIn.Commerce
