import LockIn.Commerce.Refunds

/-!
# Refund claims

A reader's claim is quoted, approved and completed.  The quote says how much of each
payment of the purchase goes back; approving the claim reserves those amounts and, unless
only a wrong payment is returned, ends the purchase; completing it records the transfer
and refunds the payments.
-/

namespace LockIn.Commerce

open Gregorian

def ClaimStatus.isOpen : ClaimStatus → Bool
  | .requested | .needsInfo | .approved | .compensating => true
  | _ => false

def purchasePayments (account : Account) (p : Payment) (wholePurchase : Bool) : List Payment :=
  match p.agreementId with
  | some agreementId =>
    if wholePurchase then account.agreementPayments agreementId
    else account.payments.filter fun q => q.id == p.id
  | none => account.payments.filter fun q => q.id == p.id

def ClaimKind.byChoice : ClaimKind → Bool
  | .voluntary | .termination => true
  | _ => false

def quoteRate (account : Account) (p : Payment) (kind : ClaimKind) (receivedAt : Nat) : Nat :=
  if kind.byChoice then voluntaryRate account p receivedAt else 100

/-- Money collected from a rejected card bought no service, so the rate of the window
never reduces it. -/
def itemRate (item : Payment) (rate : Nat) : Nat :=
  if item.failureCode = partialCollectionFailureCode then 100 else rate

def quoteAmount (item : Payment) (rate : Nat) : Nat :=
  item.amountMinor * itemRate item rate / 100 - item.reserved

def allocationQuote (account : Account) (p : Payment) (kind : ClaimKind) (receivedAt : Nat) :
    List Allocation :=
  let rate := quoteRate account p kind receivedAt
  (purchasePayments account p (kind != .paymentError)).filterMap fun item =>
    if item.settled && quoteAmount item rate != 0 then some ⟨item.id, quoteAmount item rate⟩
    else none

def quotedTotal (allocations : List Allocation) : Nat :=
  (allocations.map (·.amountMinor)).sum

/-- The payment a claim is filed on: the first of an installment purchase, unless the
claim is about one payment only. -/
def claimedPayment (account : Account) (p : Payment) (kind : ClaimKind) :
    Except CommerceError Payment :=
  match p.agreementId with
  | none => .ok p
  | some agreementId =>
    if kind = .paymentError then .ok p
    else match (account.agreementPayments agreementId).filter fun q =>
        q.installmentNumber == some 1 with
      | [] => .error (.doesNotExist "Payment")
      | [first] => .ok first
      | _ => .error (.multipleObjectsReturned "Payment")

/-- What a reader asks for. -/
structure ClaimRequest where
  paymentId : Nat
  kind : ClaimKind
  remedy : Remedy
  reason : String
  receiverPhone : String
  idempotencyKey : String
  receivedAt : Option Nat

def newClaim (r : ClaimRequest) (id paymentId receivedAt quoted : Nat) : RefundClaim :=
  { id := id
    paymentId := paymentId
    kind := r.kind
    remedy := r.remedy
    reason := r.reason
    receiverPhone := r.receiverPhone
    status := .requested
    receivedAt := receivedAt
    idempotencyKey := r.idempotencyKey
    quotedAmountMinor := quoted
    approvedAmountMinor := none
    allocations := []
    decisionReason := ""
    transferReference := ""
    completedAt := none }

def createClaim (account : Account) (r : ClaimRequest) (now : Nat) :
    Except CommerceError (Account × RefundClaim × Bool) := do
  Outcome.refuse
    [(r.idempotencyKey.length < 12, .value "A stable idempotency key is required.")]
  match account.payment? r.paymentId with
  | none => .error (.doesNotExist "Payment")
  | some requested =>
    let p ← claimedPayment account requested r.kind
    match account.claims.find? fun c => c.idempotencyKey == r.idempotencyKey with
    | some existing =>
      Outcome.refuse
        [(existing.paymentId != p.id, .value "This key already belongs to another purchase.")]
      return (account, existing, false)
    | none =>
      match account.claims.find? fun c => c.paymentId == p.id && c.status.isOpen with
      | some existing => return (account, existing, false)
      | none =>
        let received := r.receivedAt.getD now
        Outcome.refuse
          [(now < received || received < p.createdAt,
              .value "The receipt time must be between purchase submission and now."),
            (r.remedy == .extension && r.kind != .platformError,
              .value "Compensation is an optional remedy for a platform error."),
            ((r.kind == .termination || r.remedy == .terminate) && p.agreementId.isNone,
              .value "This purchase has no installment agreement.")]
        let claim := newClaim r account.nextId p.id received
          (quotedTotal (allocationQuote account p r.kind received))
        return ({ account with
          claims := account.claims ++ [claim], nextId := account.nextId + 1 }, claim, true)

/-- Whether the purchase of `group` was followed by another one. -/
def laterPurchase (account : Account) (group : List Payment) : Bool :=
  group.getLast?.any fun latest =>
    account.payments.any fun q =>
      decide (latest.createdAt < q.createdAt) && (q.status == .succeeded || q.status == .pending) &&
        !(group.any fun g => g.id == q.id) && q.failureCode != partialCollectionFailureCode

def cancelAgreementOf (account : Account) (p : Payment) (now : Nat) : Account :=
  match p.agreementId.bind account.agreement? with
  | none => account
  | some agreement =>
    account.putAgreement { agreement with status := .cancelled, cancelledAt := some now }

def releaseProvisional (account : Account) (s : Subscription) (group : List Payment) : Account :=
  if s.provisionalPaymentId.any fun id => group.any fun g => g.id == id then
    account.putSubscription { s with provisionalPaymentId := none }
  else account

def cancelRenewal (account : Account) (s : Subscription) (submission : ManualRechargeSubmission)
    (claimId now : Nat) : Except CommerceError Account :=
  match submission.previousSubscriptionEndAt with
  | none => .error (.value
      "The earlier paid period requires operator review before removing this renewal.")
  | some oldEnd =>
    if s.currentPeriodEndsAt ≠ some submission.subscriptionPeriodEndsAt then
      .error (.value
        "The earlier paid period requires operator review before removing this renewal.")
    else
      let previous := submission.previousSubscriptionState
      let account := account.putSubscription { s with planVersion := previous.planVersion }
      if s.status = .active ∨ s.status = .grace then do
        let result ← transitionSubscription account
          ⟨if now < oldEnd then .active else .expired, "renewal_cancelled", now,
            .claimAccess claimId, previous.currentPeriodStartedAt, some oldEnd, false⟩ now
        return result.account
      else .error (.value "Restore the earlier period before cancelling this renewal.")

def cancelPurchase (account : Account) (claim : RefundClaim) (p : Payment) (now : Nat) :
    Except CommerceError Account :=
  if p.manualSubmission.any fun submission => submission.status == .rejected then .ok account
  else
    let group := purchasePayments account p true
    if laterPurchase account group then
      .error (.value ("A later purchase exists. Adjust its access separately " ++
        "before approving this cancellation."))
    else match account.subscription with
      | none => .error (.doesNotExist "Subscription")
      | some s =>
        let account := cancelAgreementOf (releaseProvisional account s group) p now
        match account.subscription, p.manualSubmission with
        | none, _ => .error (.doesNotExist "Subscription")
        | some s, submission? =>
          match submission?.filter (·.isEarlyRenewal) with
          | some submission => cancelRenewal account s submission claim.id now
          | none =>
            if s.status.givesAccess ∨ s.status = .suspended ∨ s.status = .pending then do
              let result ← transitionSubscription account
                ⟨.cancelled, "refund_or_installment_termination", now, .claimAccess claim.id,
                  none, none, false⟩ now
              return result.account
            else .ok account

inductive ClaimAction
  | approve | complete | compensate | restore | needsInfo | reject
deriving DecidableEq

structure ClaimReview where
  action : ClaimAction
  reason : String
  transferReference : String
  transferredTo : String
  transferredAmountMinor : Option Int
  agreedAlternative : Bool
  alternativeAgreementReference : String

def ClaimKind.reasonType : ClaimKind → RefundReasonType
  | .voluntary | .termination => .voluntary
  | .platformError => .platformError
  | .paymentError => .paymentError

def reserveAllocations (account : Account) (claim : RefundClaim) (now : Nat) :
    List Allocation → Except CommerceError Account
  | [] => .ok account
  | row :: rest => do
    let (account, _) ← requestRefund account row.paymentId row.amountMinor (clip claim.reason 240)
      (.claim claim.id row.paymentId) claim.kind.reasonType (some claim.receivedAt) now
    reserveAllocations account claim now rest

def approveClaim (account : Account) (claim : RefundClaim) (p : Payment) (now : Nat) :
    Except CommerceError (Account × RefundClaim) := do
  let allocations := allocationQuote account p claim.kind claim.receivedAt
  let total := quotedTotal allocations
  Outcome.refuse
    [(total == 0 && claim.kind != .termination,
      .value ("No settled refundable amount was found. Review partially collected cards " ++
        "or the statutory claim; do not discard the request."))]
  let account ← reserveAllocations account claim now allocations
  -- A payment error refunds only the wrong payment and leaves the purchase as it is.
  let account ← if claim.kind = .paymentError then .ok account
    else cancelPurchase account claim p now
  return (account, { claim with
    allocations := allocations
    approvedAmountMinor := some total
    status := if total = 0 then .resolved else .approved })

def Refund.confirm (refund : Refund) (claimId now : Nat) : Except CommerceError Refund :=
  if refund.hasTransition (.claimCompleted claimId) then
    .error (.integrity "refund_transition_idempotent")
  else .ok (Refund.record
    { refund with status := .succeeded, succeededAt := some now, revision := refund.revision + 1 }
    ⟨.claimCompleted claimId, some .requested, .succeeded, now⟩)

def completeAllocation (account : Account) (claim : RefundClaim) (row : Allocation) (now : Nat) :
    Except CommerceError Account :=
  match account.payment? row.paymentId with
  | none => .error (.doesNotExist "Refund")
  | some p =>
    match p.refunds.find? fun r => r.idempotencyKey == .claim claim.id row.paymentId with
    | none => .error (.doesNotExist "Refund")
    | some refund =>
      if refund.status = .succeeded then .ok account
      else do
        let p ← deliverRefund p refund.id refund.amountMinor now
        let refund ← refund.confirm claim.id now
        return account.putRefund p refund

def completeAllocations (account : Account) (claim : RefundClaim) (now : Nat) :
    List Allocation → Except CommerceError Account
  | [] => .ok account
  | row :: rest => do
    let account ← completeAllocation account claim row now
    completeAllocations account claim now rest

def completeClaim (account : Account) (claim : RefundClaim) (review : ClaimReview) (now : Nat) :
    Except CommerceError (Account × RefundClaim) := do
  Outcome.refuse
    [(claim.status != .approved || (strip review.transferReference).length == 0,
        .value "Approve the request and supply the actual transfer reference first."),
      (review.agreedAlternative && ((strip review.alternativeAgreementReference).length < 8 ||
          (strip review.transferredTo).length == 0),
        .value ("Record the user's agreement to the alternative method " ++
          "and its actual recipient.")),
      (!review.agreedAlternative && (claim.receiverPhone.length == 0 ||
          review.transferredTo != claim.receiverPhone),
        .value "Confirm the actual recipient. Reload if the recipient changed."),
      (review.transferredAmountMinor != claim.approvedAmountMinor.map (fun n => (n : Int)),
        .value "Confirm the entire approved net amount without deducting fees.")]
  let account ← completeAllocations account claim now claim.allocations
  return (account, { claim with
    status := .completed
    transferReference := strip review.transferReference
    completedAt := some now })

/-- The entitlements of the purchase, free until the service is restored. -/
def compensate (account : Account) (claim : RefundClaim) (now : Nat) :
    List PlanEntitlementRule → Except CommerceError Account
  | [] => .ok account
  | rule :: rest => do
    let account ← grantManualEntitlement account rule.entitlement claim.id now none
      rule.quantityLimit rule.configuration
    compensate account claim now rest

/-- What an action makes of the account and the claim, or `none` when the claim is
answered as it is. -/
def decideClaim (account : Account) (claim : RefundClaim) (p : Payment) (review : ClaimReview)
    (now : Nat) : Except CommerceError (Option (Account × RefundClaim)) :=
  match review.action with
  | .approve =>
    if claim.status = .approved then .ok none
    else if (claim.status ≠ .requested ∧ claim.status ≠ .needsInfo) ∨ claim.remedy = .extension then
      .error (.value "This request cannot be approved for a transfer.")
    else some <$> approveClaim account claim p now
  | .complete =>
    if claim.status = .completed then
      if claim.transferReference ≠ review.transferReference then
        .error (.value "This transfer is already recorded with a different reference.")
      else .ok none
    else some <$> completeClaim account claim review now
  | .compensate =>
    if claim.status = .compensating then .ok none
    else if (claim.status ≠ .requested ∧ claim.status ≠ .needsInfo) ∨ claim.remedy ≠ .extension then
      .error (.value "Free compensation requires the user's explicit extension choice.")
    else do
      let account ← compensate account claim now p.price.planVersion.entitlementRules
      return some (account, { claim with status := .compensating })
  | .restore =>
    if claim.status ≠ .compensating then
      .error (.value "This request has no active compensation.")
    else .ok (some (revokeManualEntitlements account claim.id now,
      { claim with status := .resolved, completedAt := some now }))
  | .needsInfo | .reject =>
    if claim.status ≠ .requested ∧ claim.status ≠ .needsInfo then
      .error (.value "This request has already been decided.")
    else .ok (some (account,
      { claim with status := if review.action = .needsInfo then .needsInfo else .rejected }))

def reviewClaim (account : Account) (claimId : Nat) (review : ClaimReview) (now : Nat) :
    Except CommerceError Account :=
  match account.claim? claimId with
  | none => .error (.doesNotExist "RefundClaim")
  | some claim =>
    match account.payment? claim.paymentId with
    | none => .error (.doesNotExist "Payment")
    | some p => do
      Outcome.refuse
        [((strip review.reason).length < 8,
          .value "An explanatory decision reason is required.")]
      match ← decideClaim account claim p review now with
      | none => return account
      | some (account, claim) =>
        return account.putClaim { claim with decisionReason := strip review.reason }

end LockIn.Commerce
