import LockIn.Commerce.Purchase

/-!
# Reviewing a submission

`reviewManualRecharge` approves or rejects the cards of a payment.  Whatever it decides is
recorded on the payment and its submission.  The subscription is changed only while it
still rests on this payment: approval verifies it and, under the current policy, starts
the paid window anew; rejection takes it back to what it was.
-/

namespace LockIn.Commerce

open Gregorian

inductive Decision
  | approve | reject
deriving DecidableEq

structure Review where
  decision : Decision
  reason : String
  idempotencyKey : String
  /-- What a rejected card collected all the same. -/
  collectedAmountMinor : Int

def Decision.target : Decision → SubmissionStatus
  | .approve => .approved
  | .reject => .rejected

def priorDates (s prior : SubscriptionState) : SubscriptionState :=
  { s with
    status := prior.status
    currentPeriodStartedAt := prior.currentPeriodStartedAt
    currentPeriodEndsAt := prior.currentPeriodEndsAt
    trialEndsAt := prior.trialEndsAt
    graceEndsAt := prior.graceEndsAt }

/-- Reserved at submission, the paid duration starts at approval under the current policy.
Earlier purchases keep the window they reserved. -/
def approvedWindow (s : Subscription) (p : Payment) (submission : ManualRechargeSubmission)
    (now : Nat) : Except CommerceError (Subscription × ManualRechargeSubmission) :=
  if p.policyVersion ≠ userPolicyVersion then .ok (s, submission)
  else
    let prior := submission.previousSubscriptionState
    match paidPeriodWindow (priorDates s.toSubscriptionState prior) p.price now with
    | .error _ => .error (.manualPayment
        ("This paid term can no longer be activated. Record any actual collection " ++
          "on rejection so the student can receive it back."))
    | .ok (startsAt, endsAt) =>
      .ok ({ s with
          trialEndsAt := prior.trialEndsAt
          currentPeriodStartedAt := some startsAt
          currentPeriodEndsAt := some endsAt
          graceEndsAt := some (addDays endsAt s.planVersion.graceDays) },
        { submission with
          subscriptionPeriodStartedAt := startsAt
          subscriptionPeriodEndsAt := endsAt })

/-- The subscription no longer rests on a payment under review. -/
def Subscription.verified (s : Subscription) : Subscription :=
  { s with
    paymentVerification := .verified
    provisionalPaymentId := none
    revision := s.revision + 1 }

def recordDecision (account : Account) (s : Subscription) (key : TransitionKey)
    (fromStatus : SubscriptionStatus) (reasonCode : String) (now : Nat) :
    Except CommerceError Account := do
  let account ← (account.putSubscription s).insertTransition
    ⟨key, some fromStatus, s.status, reasonCode, now⟩
  let account ← refreshSubscription account now
  syncSubscriptionEntitlements account now

def approveSubscription (account : Account) (s : Subscription) (p : Payment)
    (submission : ManualRechargeSubmission) (now : Nat) :
    Except CommerceError (Account × ManualRechargeSubmission) := do
  let (approved, submission) ← approvedWindow s p submission now
  let account ← recordDecision account
    { approved.verified with
      lastPaymentAt := some now
      statusReason := "manual_payment_approved" }
    (.manualApproval p.id) s.status "manual_payment_approved" now
  return (account, submission)

/-- Take the extension of an early renewal off, and nothing else. -/
def Subscription.rollBack (s : Subscription) (previous : SubscriptionState) : Subscription :=
  { s with
    planVersion := previous.planVersion
    currentPeriodStartedAt := previous.currentPeriodStartedAt
    currentPeriodEndsAt := previous.currentPeriodEndsAt
    graceEndsAt := previous.graceEndsAt
    paymentVerification := previous.paymentVerification
    provisionalPaymentId := previous.provisionalPaymentId
    lastPaymentAt := previous.lastPaymentAt
    statusReason := previous.statusReason }

def Subscription.restore (s : Subscription) (previous : SubscriptionState) : Subscription :=
  { s with toSubscriptionState := previous }

def rejectedSubscription (s : Subscription) (submission : ManualRechargeSubmission) :
    Except CommerceError Subscription :=
  if submission.isEarlyRenewal then
    if submission.previousSubscriptionEndAt = none ∨ submission.extensionEndsAt = none ∨
        s.currentPeriodEndsAt ≠ submission.extensionEndsAt then
      .error (.manualPayment "The early-renewal extension cannot be rolled back safely.")
    else .ok (s.rollBack submission.previousSubscriptionState)
  else if s.currentPeriodEndsAt = some submission.subscriptionPeriodEndsAt then
    .ok (s.restore submission.previousSubscriptionState)
  else .ok s

def rejectSubscription (account : Account) (s : Subscription) (p : Payment)
    (submission : ManualRechargeSubmission) (now : Nat) : Except CommerceError Account := do
  let rejected ← rejectedSubscription s submission
  recordDecision account rejected.verified (.manualRejection p.id) s.status
    "manual_payment_rejected" now

def ManualRechargeSubmission.decided (submission : ManualRechargeSubmission) (r : Review)
    (now : Nat) : ManualRechargeSubmission :=
  { submission with
    status := r.decision.target
    rejectionReason :=
      if r.decision = .reject then clip (strip r.reason) 500 else submission.rejectionReason
    reviewedAt := some now }

/-- The status a review gives its payment.  A rejected order can still contain money that
was actually collected. -/
def Review.paymentStatus (r : Review) : PaymentStatus :=
  if r.decision = .approve ∨ 0 < r.collectedAmountMinor then .succeeded else .failed

def Review.failureCode (r : Review) : String :=
  if r.decision = .approve then ""
  else if 0 < r.collectedAmountMinor then partialCollectionFailureCode else "manual_rejected"

def Payment.collected (p : Payment) (r : Review) : Payment :=
  if h : r.decision = .reject ∧ 0 < r.collectedAmountMinor then
    { p with amountMinor := r.collectedAmountMinor.toNat, amount_pos := by omega }
  else p

def Payment.reviewed (p : Payment) (r : Review) (submission : ManualRechargeSubmission)
    (now : Nat) : Payment :=
  Payment.record
    { p.collected r with
      status := r.paymentStatus
      failureCode := r.failureCode
      succeededAt := if r.paymentStatus = PaymentStatus.succeeded then some now else p.succeededAt
      failedAt := if r.decision = .reject then some now else p.failedAt
      revision := p.revision + 1
      manualSubmission := some (submission.decided r now) }
    ⟨.manualReview r.idempotencyKey, some p.status, r.paymentStatus, now⟩

def cancelRefusedAgreement (account : Account) (p : Payment) (r : Review) (now : Nat) : Account :=
  if r.decision = .reject ∧ p.installmentNumber = some 1 then
    match (p.agreementId.bind account.agreement?).filter fun a => a.status == .active with
    | none => account
    | some agreement =>
      account.putAgreement { agreement with status := .cancelled, cancelledAt := some now }
  else account

def invoiceReviewed (account : Account) (paymentId : Nat) (now : Nat) :
    Except CommerceError Account :=
  match account.payment? paymentId, account.subscription with
  | some p, some s => do
    let p ← issuePaidInvoice p s now
    return account.putPayment p
  | _, _ => .error (.doesNotExist "Payment")

def settleReview (account : Account) (p : Payment) (r : Review)
    (submission : ManualRechargeSubmission) (now : Nat) : Except CommerceError Account := do
  let reviewed := p.reviewed r submission now
  Outcome.refuse
    [(reviewed.amountMinor < reviewed.refundedAmountMinor,
      .integrity "payment_refund_not_over_amount")]
  let account := account.putPayment reviewed
  let account ←
    if p.agreementId.isSome then refreshSubscription (cancelRefusedAgreement account p r now) now
    else .ok account
  if r.paymentStatus = PaymentStatus.succeeded then invoiceReviewed account p.id now
  else return account

def decideSubscription (account : Account) (s : Subscription) (p : Payment)
    (submission : ManualRechargeSubmission) (decision : Decision) (now : Nat) :
    Except CommerceError (Account × ManualRechargeSubmission) :=
  if s.provisionalPaymentId ≠ some p.id then .ok (account, submission)
  else match decision with
    | .approve => approveSubscription account s p submission now
    | .reject => do
      let account ← rejectSubscription account s p submission now
      return (account, submission)

def Review.check (r : Review) : Except CommerceError Unit :=
  Outcome.refuse
    [(decide (r.collectedAmountMinor < 0), .manualPayment "Collected value cannot be negative."),
      (decide ((strip r.reason).length < 3), .manualPayment "A review reason is required."),
      (decide ((strip r.idempotencyKey).length < 12),
        .manualPayment "A stable idempotency key is required.")]

def reviewManualRecharge (account : Account) (paymentId : Nat) (r : Review) (now : Nat) :
    Except CommerceError (Account × Bool) := do
  r.check
  match account.payment? paymentId, account.subscription with
  | none, _ => .error (.manualPayment "This request is no longer available.")
  | some _, none => .error (.doesNotExist "Subscription")
  | some p, some s =>
    match p.manualSubmission with
    | none => .error (.doesNotExist "ManualRechargeSubmission")
    | some submission =>
      if p.hasTransition (.manualReview r.idempotencyKey) then return (account, false)
      else if submission.status ≠ .pending then
        if submission.status = r.decision.target then return (account, false)
        else .error (.manualPayment "This payment has already been reviewed.")
      else
        Outcome.refuse
          [(r.collectedAmountMinor != 0 && r.decision == .approve,
              .manualPayment "A partial collection is recorded only when rejecting."),
            (decide ((p.amountMinor : Int) < r.collectedAmountMinor),
              .manualPayment "The collected value cannot exceed the payment amount.")]
        let (account, submission) ← decideSubscription account s p submission r.decision now
        let account ← settleReview account p r submission now
        return (account, true)

end LockIn.Commerce
