import LockIn.Commerce.LifecycleSpec
import LockIn.Commerce.Review

/-!
# What purchases and reviews do

One statement for each service that writes a payment: where a successful call leads, in
terms of the rows it started from.
-/

namespace LockIn.Commerce

open Outcome

variable {account result : Account} {user : User} {price : Price} {key : String} {now : Nat}
  {pay : Bool} {s : Subscription} {window : Nat × Nat} {p : Payment} {settings : Settings}
  {codes : List String} {r : Review}

theorem createPayment_ok {amount : Option Nat} {result : Account × Payment × Bool}
    (h : createPayment account user price key amount now = .ok result) :
    (∃ existing, account.paymentByKey key = some existing ∧ result = (account, existing, false)) ∨
      (account.paymentByKey key = none ∧ ∃ hpos : 0 < amount.getD price.amountMinor,
        result = (account.addPayment (newPayment user price account.nextId key _ hpos now),
          newPayment user price account.nextId key _ hpos now, true)) := by
  obtain ⟨_, _, h⟩ := bind_eq_ok.mp h
  cases hs : account.subscription with
  | none => simp only [hs] at h; simp at h
  | some s =>
    simp only [hs] at h
    obtain ⟨_, _, h⟩ := bind_eq_ok.mp h
    cases hkey : account.paymentByKey key with
    | some existing =>
      simp only [hkey] at h
      cases h
      exact .inl ⟨existing, rfl, rfl⟩
    | none =>
      simp only [hkey] at h
      by_cases hpos : 0 < amount.getD price.amountMinor
      · rw [dif_pos hpos] at h
        cases h
        exact .inr ⟨rfl, hpos, rfl⟩
      · rw [dif_neg hpos] at h
        simp at h

def Payment.awaiting (p : Payment) (agreementId installmentNumber : Option Nat)
    (submission : ManualRechargeSubmission) (now : Nat) : Payment :=
  { p.submitted agreementId installmentNumber now with manualSubmission := some submission }

structure PaymentIds (account : Account) : Prop where
  distinct : Table.Distinct Payment.id account.payments
  fresh : ∀ p ∈ account.payments, p.id < account.nextId

theorem PaymentIds.ne_nextId (h : PaymentIds account) :
    ∀ p ∈ account.payments, p.id ≠ account.nextId :=
  fun p hp => Nat.ne_of_lt (h.fresh p hp)

def openedAgreement (price : Price) (id now : Nat) : InstallmentAgreement :=
  { id := id
    price := price
    totalAmountMinor := price.amountMinor
    installmentAmountsMinor := price.installmentAmountsMinor
    anchorAt := now
    status := .active
    completedAt := none
    cancelledAt := none }

/-- The payment of a purchase is attached to nothing, or to the first installment of an
agreement opened for it. -/
theorem attachAgreement_ok {result : Account × Option Nat × Option Nat}
    (h : attachAgreement account price pay now = .ok result) :
    (pay = false ∧ result = (account, none, none)) ∨
      (pay = true ∧ (∀ a ∈ account.agreements, a.status ≠ .active) ∧
        result = ({ account with
          agreements := account.agreements ++ [openedAgreement price account.nextId now]
          nextId := account.nextId + 1 }, some account.nextId, some 1)) := by
  cases pay with
  | false =>
    cases h
    exact .inl ⟨rfl, rfl⟩
  | true =>
    obtain ⟨created, hcreated, h⟩ := bind_eq_ok.mp h
    obtain ⟨hany, hcreated⟩ := unless_ok.1 hcreated
    cases hcreated
    cases h
    exact .inr ⟨rfl, by simpa using hany, rfl⟩

def Subscription.purchased (s : Subscription) (price : Price) (window : Nat × Nat)
    (paymentId now : Nat) : Subscription :=
  { Subscription.transitioned { s with planVersion := price.planVersion }
      (provisionalRequest s.toSubscriptionState window paymentId now) with
    paymentVerification := .provisional
    provisionalPaymentId := some paymentId }

structure Purchased (account : Account) (s : Subscription) (user : User) (price : Price)
    (pay : Bool) (now : Nat) (window : Nat × Nat) (p : Payment) (result : Account) : Prop where
  reserved : paidPeriodWindow s.toSubscriptionState price now = .ok window
  id : p.id = account.nextId
  row : ∃ key amount, ∃ hpos : 0 < amount, ∃ agreementId number,
    p = (newPayment user price account.nextId key amount hpos now).awaiting agreementId number
      (newSubmission window s.toSubscriptionState (isEarlyRenewal s.toSubscriptionState price now)
        s.currentPeriodEndsAt now) now ∧
    ((pay = false ∧ agreementId = none ∧ number = none ∧ result.agreements = account.agreements ∧
        result.nextId = account.nextId + 1) ∨
      (pay = true ∧ (∀ a ∈ account.agreements, a.status ≠ .active) ∧
        agreementId = some (account.nextId + 1) ∧ number = some 1 ∧
        result.agreements = account.agreements ++
          [openedAgreement price (account.nextId + 1) now] ∧
        result.nextId = account.nextId + 2))
  payments : result.payments = account.payments ++ [p]
  corrections : result.corrections = account.corrections
  manualGrants : manualGrants result.grants = manualGrants account.grants
  moved : account.spent (.manualPayment account.nextId) = false →
    SubscriptionStatus.active ∈ s.status.allowedNext ∧
    result.subscription = some (s.purchased price window account.nextId now) ∧
    result.transitions = account.transitions ++
      [⟨.manualPayment account.nextId, some s.status, .active, "manual_payment_pending_review",
        now⟩]
  synced : ∃ before, syncSubscriptionEntitlements before now = .ok result

theorem Purchased.nextId_lt (h : Purchased account s user price pay now window p result) :
    account.nextId < result.nextId := by
  obtain ⟨_, _, _, _, _, _, ⟨_, _, _, _, hid⟩ | ⟨_, _, _, _, _, hid⟩⟩ := h.row
  · omega
  · omega

theorem purchase_ok {result : ManualPaymentResult} (hids : PaymentIds account)
    (hkey : account.paymentByKey key = none)
    (h : purchase account s user price key pay now = .ok result) :
    ∃ window p, Purchased account s user price pay now window p result.account := by
  obtain ⟨window, hwindow, h⟩ := bind_eq_ok.mp h
  obtain ⟨⟨added, p, created⟩, hcreated, h⟩ := bind_eq_ok.mp h
  obtain ⟨⟨attached, agreementId, number⟩, hattached, h⟩ := bind_eq_ok.mp h
  obtain ⟨moved, hmoved, h⟩ := bind_eq_ok.mp h
  obtain ⟨marked, hmarked, h⟩ := bind_eq_ok.mp h
  obtain ⟨synced, hsynced, h⟩ := bind_eq_ok.mp h
  cases h
  rcases createPayment_ok hcreated with ⟨_, hexisting, _⟩ | ⟨_, hpos, hadded⟩
  · exact absurd (hkey.symm.trans hexisting) (by simp)
  rw [Prod.mk.injEq, Prod.mk.injEq] at hadded
  obtain ⟨hadded, hp, _⟩ := hadded
  have hpid : p.id = account.nextId := by rw [hp]; rfl
  have haddedPayments : added.payments = account.payments ++ [p] := by rw [hadded, hp]; rfl
  -- What the agreement adds, and what it leaves alone.
  have hattach : attached.payments = added.payments ∧ attached.corrections = added.corrections ∧
      attached.grants = added.grants ∧ attached.subscription = added.subscription ∧ attached.transitions = added.transitions ∧
      ((pay = false ∧ agreementId = none ∧ number = none ∧
          attached.agreements = account.agreements ∧ attached.nextId = account.nextId + 1) ∨
        (pay = true ∧ (∀ a ∈ account.agreements, a.status ≠ .active) ∧
          agreementId = some (account.nextId + 1) ∧ number = some 1 ∧
          attached.agreements = account.agreements ++
            [openedAgreement price (account.nextId + 1) now] ∧
          attached.nextId = account.nextId + 2)) := by
    rcases attachAgreement_ok hattached with ⟨hpay, hsame⟩ | ⟨hpay, hnone, hopened⟩
    · cases hsame
      exact ⟨rfl, rfl, rfl, rfl, rfl, .inl ⟨hpay, rfl, rfl, by rw [hadded]; rfl, by rw [hadded]; rfl⟩⟩
    · cases hopened
      subst hadded
      exact ⟨rfl, rfl, rfl, rfl, rfl, .inr ⟨hpay, hnone, rfl, rfl, rfl, rfl⟩⟩
  obtain ⟨hap, hac, hag, has, hat, hopened⟩ := hattach
  -- The two writes over the payment just added.
  have hput : ∀ q : Payment, q.id = p.id → ∀ r : Payment, r.id = p.id →
      Table.put Payment.id (account.payments ++ [q]) r = account.payments ++ [r] :=
    fun q hq r hr => Table.put_append_new
      (fun x hx => by rw [hr, hpid]; exact hids.ne_nextId x hx) (hq.trans hr.symm)
  obtain ⟨hbooks, hagreements⟩ := transitionSubscription_frame hmoved
  have hmovedPayments : moved.account.payments =
      account.payments ++ [p.submitted agreementId number now] := by
    rw [hbooks.payments]
    show Table.put Payment.id attached.payments _ = _
    rw [hap, haddedPayments]
    exact hput p rfl _ rfl
  have hmark : ∃ s', moved.account.subscription = some s' ∧ marked = moved.account.putSubscription
      { s' with paymentVerification := .provisional, provisionalPaymentId := some p.id } := by
    unfold markProvisional at hmarked
    cases hm : moved.account.subscription with
    | none => rw [hm] at hmarked; simp at hmarked
    | some s' => rw [hm] at hmarked; exact ⟨s', rfl, (Except.ok.inj hmarked).symm⟩
  obtain ⟨s', hs', rfl⟩ := hmark
  obtain ⟨grants, rfl, hmanual⟩ := sync_frame hsynced
  refine ⟨window, p.awaiting agreementId number (newSubmission window s.toSubscriptionState
    (isEarlyRenewal s.toSubscriptionState price now) s.currentPeriodEndsAt now) now, ?_⟩
  refine
    { reserved := hwindow
      id := hpid
      row := ⟨key, _, hpos, agreementId, number, by rw [hp]; rfl, ?_⟩
      payments := ?_
      corrections := ?_
      manualGrants := ?_
      moved := ?_
      synced := ⟨_, hsynced⟩ }
  · show (pay = false ∧ agreementId = none ∧ number = none ∧
        moved.account.agreements = account.agreements ∧
        moved.account.nextId = account.nextId + 1) ∨
      (pay = true ∧ (∀ a ∈ account.agreements, a.status ≠ .active) ∧
        agreementId = some (account.nextId + 1) ∧ number = some 1 ∧
        moved.account.agreements = account.agreements ++
          [openedAgreement price (account.nextId + 1) now] ∧
        moved.account.nextId = account.nextId + 2)
    rw [hagreements, hbooks.nextId]
    exact hopened
  · show Table.put Payment.id moved.account.payments _ = _
    rw [hmovedPayments]
    exact hput (p.submitted agreementId number now) rfl (p.awaiting _ _ _ now) rfl
  · show moved.account.corrections = account.corrections
    rw [hbooks.corrections]
    exact hac.trans (by rw [hadded]; rfl)
  · refine hmanual.trans (hbooks.manualGrants.trans ?_)
    show manualGrants attached.grants = _
    rw [hag, hadded]
    rfl
  · intro hfresh
    have hkeyFresh : (attached.putPayment (p.submitted agreementId number now)).spent
        (.manualPayment account.nextId) = false := by
      show attached.spent _ = false
      unfold Account.spent
      rw [hat, hadded]
      exact hfresh
    have hkeyOf : (provisionalRequest s.toSubscriptionState window
        (p.submitted agreementId number now).id now).key = .manualPayment account.nextId := by
      show TransitionKey.manualPayment p.id = _
      rw [hpid]
    obtain ⟨s₀, hs₀, ⟨hspent, _⟩ | ⟨_, hallowed, hconverged⟩⟩ :=
      transitionSubscription_reconciled rfl hmoved
    · rw [hkeyOf, hkeyFresh] at hspent
      simp at hspent
    · have hs₀' : s₀ = { s with planVersion := price.planVersion } := by
        have hsub : attached.subscription = some { s with planVersion := price.planVersion } := by
          rw [has, hadded]
          rfl
        exact Option.some.inj (hs₀.symm.trans hsub)
      subst hs₀'
      obtain ⟨grants', hmovedTo, _⟩ := sync_frame hconverged
      rw [hmovedTo] at hs'
      cases hs'
      refine ⟨hallowed, ?_, ?_⟩
      · show some _ = some _
        rw [← hpid]
        rfl
      · show moved.account.transitions = _
        rw [hmovedTo]
        show attached.transitions ++ [_] = _
        rw [hat, hadded, ← hpid]
        rfl

/-- The row an account is given when its first purchase is made. -/
def awaitingPayment (price : Price) (now : Nat) : Subscription :=
  { SubscriptionState.blank .pending price.planVersion "awaiting_payment" with
    revision := 1
    createdAt := now }

def Account.opened (account : Account) (price : Price) (now : Nat) : Account :=
  (account.putSubscription (awaitingPayment price now)).record
    ⟨.manualOpen, none, .pending, "manual_payment_started", now⟩

theorem openSubscription_ok {result : Account × Subscription}
    (h : openSubscription account price now = .ok result) :
    (account.subscription = some result.2 ∧ result.1 = account) ∨
      (account.subscription = none ∧ account.spent .manualOpen = false ∧
        result = (account.opened price now, awaitingPayment price now)) := by
  unfold openSubscription at h
  cases hs : account.subscription with
  | some s =>
    rw [hs] at h
    cases h
    exact .inl ⟨rfl, rfl⟩
  | none =>
    simp only [hs] at h
    obtain ⟨inserted, hinserted, h⟩ := bind_eq_ok.mp h
    cases h
    obtain ⟨hfresh, hrecord⟩ := insertTransition_ok hinserted
    exact .inr ⟨rfl, hfresh, by rw [hrecord]; rfl⟩

theorem openSubscription_frame {result : Account × Subscription}
    (h : openSubscription account price now = .ok result) :
    SameBooks account result.1 ∧ result.1.agreements = account.agreements ∧
      result.1.subscription = some result.2 := by
  rcases openSubscription_ok h with ⟨hs, hsame⟩ | ⟨_, _, hopened⟩
  · rw [hsame]
    exact ⟨SameBooks.refl _, rfl, hs⟩
  · rw [hopened]
    exact ⟨⟨rfl, rfl, rfl, rfl, rfl, rfl⟩, rfl, rfl⟩

theorem reconcileForPurchase_frame (h : reconcileForPurchase account s now = .ok result) :
    SameBooks account result := by
  unfold reconcileForPurchase at h
  split at h
  · cases h
    exact SameBooks.refl _
  · exact refreshSubscription_frame h

theorem PaymentIds.sameBooks {a b : Account} (h : PaymentIds a) (hs : SameBooks a b) :
    PaymentIds b := by
  obtain ⟨h1, h2⟩ := h
  rw [← hs.payments] at h1 h2
  rw [← hs.nextId] at h2
  exact ⟨h1, h2⟩

theorem SameBooks.paymentByKey {a b : Account} (h : SameBooks a b) (key : String) :
    b.paymentByKey key = a.paymentByKey key := by
  unfold Account.paymentByKey
  rw [h.payments]

theorem replaySubmission_ok {existing : Payment} {result : ManualPaymentResult}
    (h : replaySubmission account existing = .ok result) :
    result.account = account ∧ result.created = false := by
  unfold replaySubmission at h
  split at h
  · simp at h
  · cases h
    exact ⟨rfl, rfl⟩

/-- A purchase accepted for the first time, and what it goes through. -/
structure Submitted (account : Account) (user : User) (price : Price) (key : String) (pay : Bool)
    (now : Nat) (opened reconciled : Account) (first s : Subscription) (window : Nat × Nat)
    (p : Payment) (result : Account) : Prop where
  newKey : account.paymentByKey key = none
  idle : account.submissionPending = false
  opens : openSubscription account price now = .ok (opened, first)
  reconciles : reconcileForPurchase opened first now = .ok reconciled
  subscription : reconciled.subscription = some s
  allowed : purchaseBlockReason reconciled s.toSubscriptionState price now = none
  purchased : Purchased reconciled s user price pay now window p result

theorem Submitted.sameBooks {opened reconciled : Account} {first : Subscription}
    (h : Submitted account user price key pay now opened reconciled first s window p result) :
    SameBooks account reconciled :=
  (openSubscription_frame h.opens).1.trans (reconcileForPurchase_frame h.reconciles)

theorem submitManualRecharge_ok {result : ManualPaymentResult} (hids : PaymentIds account)
    (h : submitManualRecharge account settings user price codes key pay now = .ok result) :
    (result.created = false ∧ result.account = account) ∨
      (result.created = true ∧ ∃ opened reconciled first s window p,
        Submitted account user price key pay now opened reconciled first s window p
          result.account) := by
  obtain ⟨_, _, h⟩ := bind_eq_ok.mp h
  cases hkey : account.paymentByKey key with
  | some existing =>
    simp only [hkey] at h
    obtain ⟨hsame, hcreated⟩ := replaySubmission_ok h
    exact .inl ⟨hcreated, hsame⟩
  | none =>
    simp only [hkey] at h
    obtain ⟨_, hidle, h⟩ := bind_eq_ok.mp h
    obtain ⟨⟨opened, first⟩, hopened, h⟩ := bind_eq_ok.mp h
    obtain ⟨reconciled, hreconciled, h⟩ := bind_eq_ok.mp h
    cases hs : reconciled.subscription with
    | none => simp only [hs] at h; simp at h
    | some s =>
      simp only [hs] at h
      cases hblock : purchaseBlockReason reconciled s.toSubscriptionState price now with
      | some reason => simp only [hblock] at h; simp at h
      | none =>
        simp only [hblock] at h
        obtain ⟨_, _, h⟩ := bind_eq_ok.mp h
        have hbooks : SameBooks account reconciled :=
          (openSubscription_frame hopened).1.trans (reconcileForPurchase_frame hreconciled)
        have hcreated : result.created = true := by
          obtain ⟨_, _, h⟩ := bind_eq_ok.mp h
          obtain ⟨_, _, h⟩ := bind_eq_ok.mp h
          obtain ⟨_, _, h⟩ := bind_eq_ok.mp h
          obtain ⟨_, _, h⟩ := bind_eq_ok.mp h
          obtain ⟨_, _, h⟩ := bind_eq_ok.mp h
          obtain ⟨_, _, h⟩ := bind_eq_ok.mp h
          cases h
          rfl
        obtain ⟨window, p, hpurchased⟩ :=
          purchase_ok (hids.sameBooks hbooks) ((hbooks.paymentByKey key).trans hkey) h
        exact .inr ⟨hcreated, opened, reconciled, first, s, window, p,
          ⟨hkey, (refuse_cons_ok.mp hidle).1, hopened, hreconciled, hs, hblock,
            hpurchased⟩⟩

/-- What the payment of an installment writes before the subscription is brought up to
date. -/
structure InstallmentPaid (account : Account) (s : Subscription) (user : User)
    (agreement : InstallmentAgreement) (now : Nat) (p : Payment) (paid : Account) : Prop where
  live : s.status = .active ∨ s.status = .suspended
  id : p.id = account.nextId
  row : ∃ key amount, ∃ hpos : 0 < amount, ∃ number window,
    p = (newPayment user agreement.price account.nextId key amount hpos now).awaiting
      (some agreement.id) (some number)
      (newSubmission window s.toSubscriptionState false none now) now
  paid : paid = { account with
    payments := account.payments ++ [p]
    nextId := account.nextId + 1 }

theorem payInstallment_ok {agreement : InstallmentAgreement} {result : ManualPaymentResult}
    (hids : PaymentIds account) (hkey : account.paymentByKey key = none)
    (h : payInstallment account s user agreement key now = .ok result) :
    ∃ p paid, InstallmentPaid account s user agreement now p paid ∧
      refreshSubscription paid now = .ok result.account := by
  obtain ⟨_, hlive, h⟩ := bind_eq_ok.mp h
  have hlive' : s.status = .active ∨ s.status = .suspended := by
    have hfirst := (refuse_cons_ok.mp hlive).1
    by_contra hn
    rw [not_or] at hn
    simp [hn.1, hn.2] at hfirst
  cases hstart : s.currentPeriodStartedAt with
  | none => simp only [hstart] at h; simp at h
  | some startedAt =>
    cases hend : s.currentPeriodEndsAt with
    | none => simp only [hstart, hend] at h; simp at h
    | some endsAt =>
      simp only [hstart, hend] at h
      cases hnumber : (installmentSnapshot account agreement now).nextNumber with
      | none => simp only [hnumber] at h; simp at h
      | some number =>
        cases hamount : (installmentSnapshot account agreement now).nextAmountMinor with
        | none => simp only [hnumber, hamount] at h; simp at h
        | some amount =>
          simp only [hnumber, hamount] at h
          cases hcreated : createPayment account user agreement.price key (some amount) now with
          | error e => rw [hcreated] at h; cases e <;> simp at h
          | ok created =>
          obtain ⟨added, p, isNew⟩ := created
          simp only [hcreated, ok_bind] at h
          obtain ⟨_, _, h⟩ := bind_eq_ok.mp h
          obtain ⟨refreshed, hrefreshed, h⟩ := bind_eq_ok.mp h
          cases h
          rcases createPayment_ok hcreated with ⟨_, hexisting, _⟩ | ⟨_, hpos, hadded⟩
          · exact absurd (hkey.symm.trans hexisting) (by simp)
          rw [Prod.mk.injEq, Prod.mk.injEq] at hadded
          obtain ⟨rfl, rfl, _⟩ := hadded
          refine ⟨(newPayment user agreement.price account.nextId key _ hpos now).awaiting
            (some agreement.id) (some number)
            (newSubmission (startedAt, endsAt) s.toSubscriptionState false none now) now, _,
            ⟨hlive', rfl, ⟨key, _, hpos, number, (startedAt, endsAt), rfl⟩, rfl⟩, ?_⟩
          have hput : Table.put Payment.id (account.payments ++
                [newPayment user agreement.price account.nextId key _ hpos now])
              ((newPayment user agreement.price account.nextId key _ hpos now).awaiting
                (some agreement.id) (some number)
                (newSubmission (startedAt, endsAt) s.toSubscriptionState false none now) now) =
              account.payments ++ [_] :=
            Table.put_append_new (fun x hx => hids.ne_nextId x hx) rfl
          rw [← hput]
          exact hrefreshed

/-- A submission for an installment is answered with the payment it made before, or is the
payment of an agreement that is active. -/
theorem submitInstallmentPayment_ok {agreementId : Nat} {result : ManualPaymentResult}
    (hids : PaymentIds account)
    (h : submitInstallmentPayment account settings user agreementId codes key now = .ok result) :
    result.account = account ∨
      (account.submissionPending = false ∧ ∃ agreement reconciled s p paid,
        account.agreement? agreementId = some agreement ∧ agreement.status = .active ∧
        refreshSubscription account now = .ok reconciled ∧ reconciled.subscription = some s ∧
        InstallmentPaid reconciled s user agreement now p paid ∧
        refreshSubscription paid now = .ok result.account) := by
  obtain ⟨_, _, h⟩ := bind_eq_ok.mp h
  obtain ⟨_, _, h⟩ := bind_eq_ok.mp h
  cases hkey : account.paymentByKey key with
  | some existing =>
    simp only [hkey] at h
    exact .inl (replaySubmission_ok h).1
  | none =>
    simp only [hkey] at h
    obtain ⟨_, hidle, h⟩ := bind_eq_ok.mp h
    cases hagreement : (account.agreement? agreementId).filter fun a => a.status == .active with
    | none => simp only [hagreement] at h; simp at h
    | some agreement =>
      simp only [hagreement] at h
      obtain ⟨_, _, h⟩ := bind_eq_ok.mp h
      obtain ⟨reconciled, hreconciled, h⟩ := bind_eq_ok.mp h
      cases hs : reconciled.subscription with
      | none => simp only [hs] at h; simp at h
      | some s =>
        simp only [hs] at h
        have hbooks := refreshSubscription_frame hreconciled
        obtain ⟨hfound, hactive⟩ := Option.filter_eq_some_iff.mp hagreement
        obtain ⟨p, paid, hpaid, hrefresh⟩ :=
          payInstallment_ok (hids.sameBooks hbooks) ((hbooks.paymentByKey key).trans hkey) h
        exact .inr ⟨(refuse_cons_ok.mp hidle).1, agreement, reconciled, s, p, paid, hfound,
          by simpa using hactive, hreconciled, hs, hpaid, hrefresh⟩

structure Reviewed (account : Account) (paymentId : Nat) (r : Review) (now : Nat) (p : Payment)
    (s : Subscription) (submission : ManualRechargeSubmission) (decided : Account)
    (after : ManualRechargeSubmission) (result : Account) : Prop where
  found : account.payment? paymentId = some p
  subscribed : account.subscription = some s
  submitted : p.manualSubmission = some submission
  pending : submission.status = .pending
  new : p.hasTransition (.manualReview r.idempotencyKey) = false
  decides : decideSubscription account s p submission r.decision now = .ok (decided, after)
  settles : settleReview decided p r after now = .ok result

theorem reviewManualRecharge_ok {paymentId : Nat} {result : Account × Bool}
    (h : reviewManualRecharge account paymentId r now = .ok result) :
    result = (account, false) ∨ ∃ p s submission decided after,
      Reviewed account paymentId r now p s submission decided after result.1 := by
  obtain ⟨_, _, h⟩ := bind_eq_ok.mp h
  cases hp : account.payment? paymentId with
  | none => simp only [hp] at h; simp at h
  | some p =>
    cases hs : account.subscription with
    | none => simp only [hp, hs] at h; simp at h
    | some s =>
      simp only [hp, hs] at h
      cases hsub : p.manualSubmission with
      | none => simp only [hsub] at h; simp at h
      | some submission =>
        simp only [hsub] at h
        by_cases hseen : p.hasTransition (.manualReview r.idempotencyKey) = true
        · rw [if_pos hseen] at h
          exact .inl (Except.ok.inj h).symm
        · rw [if_neg hseen] at h
          by_cases hpending : submission.status = .pending
          · rw [if_neg (by simpa using hpending)] at h
            obtain ⟨_, _, h⟩ := bind_eq_ok.mp h
            obtain ⟨⟨decided, after⟩, hdecided, h⟩ := bind_eq_ok.mp h
            obtain ⟨settled, hsettled, h⟩ := bind_eq_ok.mp h
            cases h
            exact .inr ⟨p, s, submission, decided, after,
              ⟨hp, hs, hsub, hpending, by simpa using hseen, hdecided, hsettled⟩⟩
          · rw [if_pos hpending] at h
            obtain ⟨_, h⟩ := when_ok.1 h
            exact .inl (Except.ok.inj h).symm

theorem recordDecision_frame {key : TransitionKey} {fromStatus : SubscriptionStatus}
    {reason : String} (h : recordDecision account s key fromStatus reason now = .ok result) :
    SameBooks account result := by
  obtain ⟨inserted, hinserted, hrest⟩ := bind_eq_ok.mp h
  obtain ⟨refreshed, hrefreshed, hsynced⟩ := bind_eq_ok.mp hrest
  obtain ⟨_, rfl⟩ := insertTransition_ok hinserted
  obtain ⟨grants, rfl, hmanual⟩ := sync_frame hsynced
  have hbooks := refreshSubscription_frame hrefreshed
  exact ⟨hbooks.payments, hbooks.claims, hbooks.corrections, hbooks.adminEvents, hbooks.nextId,
    hmanual.trans hbooks.manualGrants⟩

theorem decideSubscription_frame {submission : ManualRechargeSubmission} {decision : Decision}
    {result : Account × ManualRechargeSubmission}
    (h : decideSubscription account s p submission decision now = .ok result) :
    SameBooks account result.1 := by
  unfold decideSubscription at h
  split at h
  · cases h
    exact SameBooks.refl _
  · cases decision with
    | approve =>
      obtain ⟨_, _, h⟩ := bind_eq_ok.mp h
      obtain ⟨recorded, hrecorded, h⟩ := bind_eq_ok.mp h
      cases h
      exact recordDecision_frame hrecorded
    | reject =>
      obtain ⟨rejected, hrejected, h⟩ := bind_eq_ok.mp h
      cases h
      obtain ⟨_, _, hrecorded⟩ := bind_eq_ok.mp hrejected
      exact recordDecision_frame hrecorded

def Account.reviewRecorded (account : Account) (p : Payment) (r : Review)
    (after : ManualRechargeSubmission) (now : Nat) : Account :=
  account.putPayment (p.reviewed r after now)

theorem settleReview_ok {after : ManualRechargeSubmission}
    (h : settleReview account p r after now = .ok result) :
    (p.reviewed r after now).refundedAmountMinor ≤ (p.reviewed r after now).amountMinor ∧
    ∃ settled,
      ((p.agreementId = none ∧ settled = account.reviewRecorded p r after now) ∨
        (p.agreementId.isSome ∧ refreshSubscription
          (cancelRefusedAgreement (account.reviewRecorded p r after now) p r now) now =
            .ok settled)) ∧
      (result = settled ∨ ∃ q invoice, settled.payment? p.id = some q ∧
        result = settled.putPayment { q with invoice := invoice }) := by
  obtain ⟨_, hbound, h⟩ := bind_eq_ok.mp h
  have hle := (refuse_cons_ok.mp hbound).1
  refine ⟨by simpa using hle, ?_⟩
  obtain ⟨settled, hsettled, h⟩ : ∃ settled,
      ((p.agreementId = none ∧ settled = account.reviewRecorded p r after now) ∨
        (p.agreementId.isSome ∧ refreshSubscription
          (cancelRefusedAgreement (account.reviewRecorded p r after now) p r now) now =
            .ok settled)) ∧
      (if r.paymentStatus = PaymentStatus.succeeded then invoiceReviewed settled p.id now
        else .ok settled) = .ok result := by
    cases ha : p.agreementId with
    | none =>
      simp only [ha, Option.isSome_none, Bool.false_eq_true, if_false] at h
      exact ⟨_, .inl ⟨rfl, rfl⟩, h⟩
    | some id =>
      simp only [ha, Option.isSome_some, if_true] at h
      obtain ⟨settled, hsettled, h⟩ := bind_eq_ok.mp h
      exact ⟨settled, .inr ⟨rfl, hsettled⟩, h⟩
  refine ⟨settled, hsettled, ?_⟩
  split at h
  · unfold invoiceReviewed at h
    split at h
    · next q s hq hs =>
      obtain ⟨invoiced, hinvoiced, h⟩ := bind_eq_ok.mp h
      cases h
      have hshape : ∃ invoice, invoiced = { q with invoice := invoice } := by
        obtain ⟨_, hinvoiced⟩ := unless_ok.1 hinvoiced
        split at hinvoiced
        · cases hinvoiced
          exact ⟨q.invoice, rfl⟩
        · obtain ⟨_, _, hinvoiced⟩ := bind_eq_ok.mp hinvoiced
          cases hinvoiced
          exact ⟨_, rfl⟩
      obtain ⟨invoice, rfl⟩ := hshape
      exact .inr ⟨q, invoice, hq, rfl⟩
    · simp at h
  · exact .inl (Except.ok.inj h).symm

theorem cancelRefusedAgreement_frame (account : Account) (p : Payment) (r : Review) (now : Nat) :
    SameBooks account (cancelRefusedAgreement account p r now) := by
  unfold cancelRefusedAgreement
  split
  · split
    · exact SameBooks.refl _
    · exact sameBooks_putAgreement _ _
  · exact SameBooks.refl _

end LockIn.Commerce
