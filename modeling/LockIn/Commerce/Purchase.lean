import LockIn.Commerce.Installments
import LockIn.Commerce.Payments

/-!
# Buying with recharge cards

A reader submits recharge cards for a price and an operator reviews them.  The
submission reserves the period at once: the subscription becomes active, provisionally,
under the new plan, and the state it had before is saved.  Approval starts the paid time;
rejection rolls the reservation back, an early renewal by taking its extension off and
any other purchase by restoring the saved state.  The installments of a term are paid by
submissions of their own, which reserve nothing.
-/

namespace LockIn.Commerce

open Gregorian

def earlyRenewalAllowed (s : SubscriptionState) (now : Nat) : Bool :=
  s.currentPeriodEndsAt.any fun endsAt =>
    (s.status == .active && decide (now < endsAt) && decide (endsAt - now ≤ earlyRenewalWindow)) ||
      (s.status == .grace && s.graceEndsAt.any (now ≤ ·))

def laterTermRenewal (s : SubscriptionState) (price : Price) (now : Nat) : Bool :=
  (fixedPeriodEnd price.planVersion).isSome && (s.status == .active || s.status == .grace) &&
    s.currentPeriodEndsAt.any fun endsAt =>
      decide (now < endsAt) || s.graceEndsAt.any (now ≤ ·)

def isEarlyRenewal (s : SubscriptionState) (price : Price) (now : Nat) : Bool :=
  earlyRenewalAllowed s now || laterTermRenewal s price now

/-- Why this price cannot be bought now, or `none`. -/
def purchaseBlockReason (account : Account) (s : SubscriptionState) (price : Price) (now : Nat) :
    Option String :=
  let live := s.status = .active ∨ s.status = .grace
  if isInstallmentSuspension s then
    some "Pay the installment that is due before buying another plan."
  else if s.status = .suspended then
    some "This subscription is suspended. Contact support before paying."
  else match fixedPeriodEnd price.planVersion with
    | some fixedEnd =>
      if fixedEnd ≤ now then some "This term has already ended."
      else if live ∧ account.activeAgreement.isSome then
        some "Finish paying your current installments before changing plan."
      else if live ∧ s.currentPeriodEndsAt.any (fixedEnd ≤ ·) then
        some "Your current subscription already covers this term."
      else none
    | none =>
      if s.status = .active ∧ s.currentPeriodEndsAt.any (now < ·) ∧
          ¬earlyRenewalAllowed s now then
        some "Early renewal is available during the final seven days only."
      else none

/-- A completed paid purchase uses the introductory offer up. -/
def firstSubscriptionOfferAvailable (account : Account) : Bool :=
  !account.payments.any fun p =>
    p.status == .succeeded && p.failureCode != partialCollectionFailureCode

def priceEligibilities (account : Account) : List Eligibility :=
  let paid := account.payments.filter fun p => p.status == .succeeded
  if paid.any fun p => p.price.planVersion.planCode == fourMonths then [.fourMonthUpgrade]
  else if paid.any fun p => decide (p.createdAt < firstMonthOfferEndsAt) &&
      legacyDurationPlans.contains p.price.planVersion.planCode then
    [.loyalty2026]
  else []

def normalizeRechargeCode (value : String) : Except CommerceError String :=
  if value.toList.all Char.isDigit ∧ value.length = 13 then .ok value
  else .error (.rechargeCode "Enter exactly 13 digits with no spaces or symbols.")

def validatedCodes (settings : Settings) (rechargeCodes : List String) :
    Except CommerceError Unit := do
  Outcome.refuse
    [(!(decide (1 ≤ rechargeCodes.length) && decide (rechargeCodes.length ≤ maxRechargeCodes)),
      .manualPayment "Submit between one and 5 recharge cards.")]
  let normalized ← rechargeCodes.mapM normalizeRechargeCode
  Outcome.refuse
    [(!decide (normalized.map settings.rechargeCodeDigest).Nodup,
      .duplicateRechargeCode "The same recharge card cannot be submitted twice.")]

/-- A payment just created, which took the identifier `id`. -/
def newPayment (user : User) (price : Price) (id : Nat) (idempotencyKey : String)
    (amountMinor : Nat) (h : 0 < amountMinor) (now : Nat) : Payment :=
  { id := id
    price := price
    amountMinor := amountMinor
    currency := price.currency
    refundedAmountMinor := 0
    method := .provider
    status := .initiated
    idempotencyKey := idempotencyKey
    policyVersion := user.policyVersion
    failureCode := ""
    initiatedAt := now
    succeededAt := none
    failedAt := none
    agreementId := none
    installmentNumber := none
    revision := 1
    createdAt := now
    transitions := [⟨.created, none, .initiated, now⟩]
    manualSubmission := none
    refunds := []
    invoice := none
    amount_pos := h }

def Account.addPayment (account : Account) (p : Payment) : Account :=
  { account with payments := account.payments ++ [p], nextId := account.nextId + 1 }

def Account.paymentByKey (account : Account) (idempotencyKey : String) : Option Payment :=
  account.payments.find? fun p => p.idempotencyKey == idempotencyKey

/-- `amountMinor` overrides the price only for one installment of it. -/
def createPayment (account : Account) (user : User) (price : Price) (idempotencyKey : String)
    (amountMinor : Option Nat) (now : Nat) : Except CommerceError (Account × Payment × Bool) := do
  Outcome.refuse [(idempotencyKey == "", .value "An idempotency key is required.")]
  match account.subscription with
  | none => .error (.doesNotExist "Subscription")
  | some s =>
    Outcome.refuse
      [(s.planVersion.id != price.planVersion.id,
        .value "Payment price and subscription must describe the same account plan.")]
    match account.paymentByKey idempotencyKey with
    | some existing => return (account, existing, false)
    | none =>
      if h : 0 < amountMinor.getD price.amountMinor then
        let p := newPayment user price account.nextId idempotencyKey _ h now
        return (account.addPayment p, p, true)
      else .error (.integrity "payment_amount_positive")

def Payment.submitted (p : Payment) (agreementId installmentNumber : Option Nat) (now : Nat) :
    Payment :=
  Payment.record
    { p with
      method := .libyana
      status := .pending
      agreementId := agreementId
      installmentNumber := installmentNumber
      revision := p.revision + 1 }
    ⟨.libyanaSubmitted, some .initiated, .pending, now⟩

structure ManualPaymentResult where
  account : Account
  paymentId : Nat
  created : Bool

def Account.submissionPending (account : Account) : Bool :=
  account.payments.any fun p => p.manualSubmission.any fun s => s.status == .pending

/-- The answer to a submission whose idempotency key is already used. -/
def replaySubmission (account : Account) (existing : Payment) :
    Except CommerceError ManualPaymentResult :=
  match existing.manualSubmission with
  | none => .error (.manualPayment "This idempotency key belongs to a different payment flow.")
  | some _ => .ok ⟨account, existing.id, false⟩

def newSubmission (window : Nat × Nat) (previous : SubscriptionState) (isEarlyRenewal : Bool)
    (previousSubscriptionEndAt : Option Nat) (now : Nat) : ManualRechargeSubmission :=
  { status := .pending
    submittedAt := now
    reviewedAt := none
    rejectionReason := ""
    subscriptionPeriodStartedAt := window.1
    subscriptionPeriodEndsAt := window.2
    previousSubscriptionState := previous
    isEarlyRenewal := isEarlyRenewal
    previousSubscriptionEndAt := if isEarlyRenewal then previousSubscriptionEndAt else none
    extensionStartedAt := if isEarlyRenewal then some window.1 else none
    extensionEndsAt := if isEarlyRenewal then some window.2 else none }

/-- The subscription a purchase starts from.  An account without one is given one, in the
state a payment is waiting on. -/
def openSubscription (account : Account) (price : Price) (now : Nat) :
    Except CommerceError (Account × Subscription) :=
  match account.subscription with
  | some s => .ok (account, s)
  | none => do
    let s : Subscription :=
      { SubscriptionState.blank .pending price.planVersion "awaiting_payment" with
        revision := 1
        createdAt := now }
    let account ← (account.putSubscription s).insertTransition
      ⟨.manualOpen, none, .pending, "manual_payment_started", now⟩
    return (account, s)

/-- Grace remains payable through its inclusive end instant, so a subscription in it is
not reconciled before the purchase is evaluated. -/
def keepsGrace (s : SubscriptionState) (now : Nat) : Bool :=
  s.status == .grace && s.graceEndsAt.any (now ≤ ·)

def reconcileForPurchase (account : Account) (s : Subscription) (now : Nat) :
    Except CommerceError Account :=
  if keepsGrace s.toSubscriptionState now then .ok account else refreshSubscription account now

def createAgreement (account : Account) (price : Price) (now : Nat) :
    Except CommerceError (Account × InstallmentAgreement) :=
  if account.agreements.any fun a => a.status == .active then
    .error (.integrity "installment_one_active_per_account")
  else
    let agreement : InstallmentAgreement :=
      { id := account.nextId
        price := price
        totalAmountMinor := price.amountMinor
        installmentAmountsMinor := price.installmentAmountsMinor
        anchorAt := now
        status := .active
        completedAt := none
        cancelledAt := none }
    .ok ({ account with
      agreements := account.agreements ++ [agreement], nextId := account.nextId + 1 }, agreement)

def attachAgreement (account : Account) (price : Price) (payInInstallments : Bool) (now : Nat) :
    Except CommerceError (Account × Option Nat × Option Nat) :=
  if payInInstallments then do
    let (account, agreement) ← createAgreement account price now
    return (account, some agreement.id, some 1)
  else .ok (account, none, none)

def submissionChecks (account : Account) (settings : Settings) (user : User) (price : Price)
    (rechargeCodes : List String) (idempotencyKey : String) (now : Nat) :
    Except CommerceError Unit := do
  Outcome.refuse
    [((strip idempotencyKey).length < 12,
        .manualPayment "A stable idempotency key is required."),
      (user.policyVersion == userPolicyVersion && settings.policyEffectiveAt.all (now < ·),
        .manualPayment "The policy launch time has not been announced or reached yet."),
      (settings.accountPolicyVersion == userPolicyVersion &&
          (user.policyVersion != userPolicyVersion || user.policyAcceptedAt.isNone),
        .manualPayment "Read and accept the current policies before submitting a new purchase."),
      (price.currency != "LYD" || price.status != .active,
        .manualPayment "This plan is not available for Libyana payment."),
      (price.firstSubscriptionOnly && !firstSubscriptionOfferAvailable account,
        .manualPayment "The first-subscription offer has already been used."),
      (price.eligibility != .everyone && !(priceEligibilities account).contains price.eligibility,
        .manualPayment "This price is not available for your account."),
      (price.amountMinor == 5 * 10 ^ price.currencyExponent && rechargeCodes.length != 1,
        .manualPayment "The 5 LYD plan accepts exactly one recharge card code."),
      ((freeAccessEndsAt user now).isSome,
        .manualPayment "Your program is free for now, so no payment is needed.")]
  validatedCodes settings rechargeCodes

def provisionalRequest (s : SubscriptionState) (window : Nat × Nat) (paymentId now : Nat) :
    TransitionRequest :=
  { toStatus := .active
    reasonCode := "manual_payment_pending_review"
    effectiveAt := now
    key := .manualPayment paymentId
    periodStartedAt :=
      if s.status = .active ∨ s.status = .grace then s.currentPeriodStartedAt.or (some window.1)
      else some window.1
    periodEndsAt := some window.2
    allowOutOfOrder := true }

def markProvisional (account : Account) (paymentId : Nat) : Except CommerceError Account :=
  match account.subscription with
  | none => .error (.doesNotExist "Subscription")
  | some s => .ok (account.putSubscription
      { s with paymentVerification := .provisional, provisionalPaymentId := some paymentId })

def purchase (account : Account) (s : Subscription) (user : User) (price : Price)
    (idempotencyKey : String) (payInInstallments : Bool) (now : Nat) :
    Except CommerceError ManualPaymentResult := do
  let previous := s.toSubscriptionState
  let window ← paidPeriodWindow previous price now
  let account := account.putSubscription { s with planVersion := price.planVersion }
  let (account, p, _) ← createPayment account user price idempotencyKey
    (if payInInstallments then price.installmentAmountsMinor.head? else none) now
  let (account, agreementId, installmentNumber) ← attachAgreement account price payInInstallments now
  let p := p.submitted agreementId installmentNumber now
  let account := account.putPayment p
  let result ← transitionSubscription account (provisionalRequest previous window p.id now) now
  let account ← markProvisional result.account p.id
  let account := account.putPayment
    { p with manualSubmission := some (newSubmission window previous
        (isEarlyRenewal previous price now) previous.currentPeriodEndsAt now) }
  let account ← syncSubscriptionEntitlements account now
  return ⟨account, p.id, true⟩

def submitManualRecharge (account : Account) (settings : Settings) (user : User) (price : Price)
    (rechargeCodes : List String) (idempotencyKey : String) (payInInstallments : Bool)
    (now : Nat) : Except CommerceError ManualPaymentResult := do
  submissionChecks account settings user price rechargeCodes idempotencyKey now
  match account.paymentByKey idempotencyKey with
  | some existing => replaySubmission account existing
  | none =>
    Outcome.refuse
      [(account.submissionPending, .manualPayment "A recharge card is already awaiting review.")]
    let (account, s) ← openSubscription account price now
    let account ← reconcileForPurchase account s now
    match account.subscription with
    | none => .error (.doesNotExist "Subscription")
    | some s =>
      match purchaseBlockReason account s.toSubscriptionState price now with
      | some reason => .error (.manualPayment reason)
      | none =>
        Outcome.refuse
          [(payInInstallments && !installmentsAvailable price now,
            .manualPayment "This plan cannot be paid in installments now.")]
        purchase account s user price idempotencyKey payInInstallments now

def partlyCollected (account : Account) (agreement : InstallmentAgreement) : Bool :=
  (account.agreementPayments agreement.id).any fun p =>
    p.manualSubmission.any (fun s => s.status == .rejected) && p.settled

def installmentTaken (account : Account) (agreement : InstallmentAgreement) (number : Nat) : Bool :=
  (account.agreementPayments agreement.id).any fun p =>
    p.installmentNumber == some number && (p.status == .pending || p.status == .succeeded)

def payInstallment (account : Account) (s : Subscription) (user : User)
    (agreement : InstallmentAgreement) (idempotencyKey : String) (now : Nat) :
    Except CommerceError ManualPaymentResult := do
  Outcome.refuse
    [(s.status != .active && s.status != .suspended,
      .manualPayment "This subscription has ended.")]
  match s.currentPeriodStartedAt, s.currentPeriodEndsAt with
  | some startedAt, some endsAt =>
    let snapshot := installmentSnapshot account agreement now
    match snapshot.nextNumber, snapshot.nextAmountMinor with
    | some number, some amount =>
      let (account, p, _) ←
        match createPayment account user agreement.price idempotencyKey (some amount) now with
        | .ok created => Except.ok created
        | .error (.value message) => .error (.manualPayment message)
        | .error e => .error e
      Outcome.refuse
        [(installmentTaken account agreement number,
          .manualPayment "This installment is already paid or awaiting review.")]
      let p := p.submitted (some agreement.id) (some number) now
      let account := account.putPayment
        { p with manualSubmission := some (newSubmission (startedAt, endsAt) s.toSubscriptionState
            false none now) }
      -- Paid inside the two-day window: access comes back now, not at approval.
      let account ← refreshSubscription account now
      return ⟨account, p.id, true⟩
    | _, _ => .error (.manualPayment "Every installment is already paid.")
  | _, _ => .error (.manualPayment "This subscription has no paid term to pay toward.")

def submitInstallmentPayment (account : Account) (settings : Settings) (user : User)
    (agreementId : Nat) (rechargeCodes : List String) (idempotencyKey : String) (now : Nat) :
    Except CommerceError ManualPaymentResult := do
  Outcome.refuse
    [((strip idempotencyKey).length < 12, .manualPayment "A stable idempotency key is required.")]
  validatedCodes settings rechargeCodes
  match account.paymentByKey idempotencyKey with
  | some existing => replaySubmission account existing
  | none =>
    Outcome.refuse
      [(account.submissionPending, .manualPayment "A recharge card is already awaiting review.")]
    match (account.agreement? agreementId).filter fun a => a.status == .active with
    | none => .error (.manualPayment "There is no installment plan to pay.")
    | some agreement =>
      Outcome.refuse
        [(partlyCollected account agreement,
          .manualPayment ("A partially collected card needs support reconciliation or refund " ++
            "before another payment."))]
      let account ← refreshSubscription account now
      match account.subscription with
      | none => .error (.doesNotExist "Subscription")
      | some s => payInstallment account s user agreement idempotencyKey now

end LockIn.Commerce
