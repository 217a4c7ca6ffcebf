import LockIn.Commerce.Installments
import LockIn.Commerce.Payments

/-!
# Refunds

A refund reserves part of what a payment brought in from the moment it is requested,
and goes on doing so until it fails or is cancelled.  `requestRefund` is the one place
that compares the amount with what is left.  A refund requested by choice is limited by
the rate of the voluntary window, which runs from the activation of the purchase.
-/

namespace LockIn.Commerce

open Gregorian

/-- `ALLOWED_TRANSITIONS`. -/
def RefundStatus.allowedNext : RefundStatus → List RefundStatus
  | .requested => [.pending, .succeeded, .failed, .cancelled]
  | .pending => [.succeeded, .failed, .cancelled]
  | .failed => [.pending]
  | .succeeded => []
  | .cancelled => []

def validateRefundTransition (fromStatus toStatus : RefundStatus) : Except CommerceError Unit :=
  if toStatus ∈ fromStatus.allowedNext then .ok ()
  else .error (.value ("Refund cannot transition from " ++ fromStatus.text ++ " to " ++
    toStatus.text ++ "."))

def RefundStatus.reserves : RefundStatus → Bool
  | .requested | .pending | .succeeded => true
  | .failed | .cancelled => false

def Refund.held (refund : Refund) : Nat :=
  if refund.status.reserves then refund.amountMinor else 0

def Payment.reserved (p : Payment) : Nat := (p.refunds.map Refund.held).sum

def refundWindow : Nat := 15 * day

def fullInstallmentWindow : Nat := 10 * day

def Account.firstPayment (account : Account) (p : Payment) : Option Payment :=
  match p.agreementId with
  | none => some p
  | some agreementId =>
    ((account.agreementPayments agreementId).filter fun q =>
      q.installmentNumber == some 1).getLast?

/-- The instant a payment activated what it bought, when it is the first of its
purchase: the latest of its receipt, its approval and the start of the window. -/
def Payment.activation (first : Payment) : Option Nat :=
  match first.succeededAt, first.manualSubmission with
  | none, _ => none
  | some succeededAt, none => some succeededAt
  | some succeededAt, some submission =>
    match submission.reviewedAt with
    | none => none
    | some reviewedAt =>
      if submission.status ≠ .approved then none
      else some (max (max succeededAt reviewedAt) submission.subscriptionPeriodStartedAt)

def activationAt (account : Account) (p : Payment) : Option Nat :=
  (account.firstPayment p).bind Payment.activation

def voluntaryRate (account : Account) (p : Payment) (receivedAt : Nat) : Nat :=
  match activationAt account p with
  | none => 100
  | some start =>
    if start + refundWindow < receivedAt then 0
    else if ((account.firstPayment p).getD p).policyVersion ≠ userPolicyVersion then 100
    else if p.agreementId.isSome ∧ start + fullInstallmentWindow < receivedAt then 50
    else 100

theorem voluntaryRate_cases (account : Account) (p : Payment) (receivedAt : Nat) :
    voluntaryRate account p receivedAt = 0 ∨ voluntaryRate account p receivedAt = 50 ∨
      voluntaryRate account p receivedAt = 100 := by
  unfold voluntaryRate
  cases activationAt account p with
  | none => exact .inr (.inr rfl)
  | some start =>
    dsimp only
    split
    · exact .inl rfl
    · split
      · exact .inr (.inr rfl)
      · split
        · exact .inr (.inl rfl)
        · exact .inr (.inr rfl)

inductive RefundReasonType
  | voluntary | platformError | paymentError
deriving DecidableEq

def refundLimit (account : Account) (p : Payment) (reasonType : RefundReasonType)
    (receivedAt : Nat) : Nat :=
  if reasonType ≠ .voluntary then p.amountMinor
  else p.amountMinor * voluntaryRate account p receivedAt / 100

def newRefund (p : Payment) (id amountMinor : Nat) (h : 0 < amountMinor) (reason : String)
    (key : RefundKey) (now : Nat) : Refund :=
  { id := id
    amountMinor := amountMinor
    currency := p.currency
    status := .requested
    reason := clip (strip reason) 240
    idempotencyKey := key
    failureCode := ""
    requestedAt := now
    succeededAt := none
    failedAt := none
    revision := 1
    transitions := [⟨.requested, none, .requested, now⟩]
    amount_pos := h }

def Payment.addRefund (p : Payment) (refund : Refund) : Payment :=
  { p with refunds := p.refunds ++ [refund] }

def Account.addRefund (account : Account) (p : Payment) (refund : Refund) : Account :=
  { account.putPayment (p.addRefund refund) with nextId := account.nextId + 1 }

def requestRefund (account : Account) (paymentId : Nat) (amountMinor : Int) (reason : String)
    (key : RefundKey) (reasonType : RefundReasonType) (receivedAt : Option Nat) (now : Nat) :
    Except CommerceError (Account × Refund × Bool) := do
  Outcome.refuse [(key == .request "", .value "An idempotency key is required.")]
  match account.payment? paymentId with
  | none => .error (.doesNotExist "Payment")
  | some p =>
    match p.refunds.find? fun refund => refund.idempotencyKey == key with
    | some existing => return (account, existing, false)
    | none =>
      Outcome.refuse
        [(!p.settled, .value "Only a settled payment can be refunded."),
          (reasonType == .voluntary && voluntaryRate account p (receivedAt.getD now) == 0,
            .value ("The 15-day refund period for voluntary cancellation has ended; " ++
              "service and payment claims remain available."))]
      if h : amountMinor ≤ 0 ∨
          (refundLimit account p reasonType (receivedAt.getD now) : Int) - p.reserved < amountMinor
      then .error (.value "Refund amount exceeds the refundable payment balance.")
      else
        let refund := newRefund p account.nextId amountMinor.toNat (by omega) reason key now
        return (account.addRefund p refund, refund, true)

namespace Refund

def hasTransition (refund : Refund) (key : RefundTransitionKey) : Bool :=
  refund.transitions.any fun t => t.key == key

def record (refund : Refund) (transition : RefundTransition) : Refund :=
  { refund with transitions := refund.transitions ++ [transition] }

def latestEffectiveAt (refund : Refund) : Option Nat :=
  (refund.transitions.map (·.effectiveAt)).max?

end Refund

def Account.refund? (account : Account) (refundId : Nat) : Option (Payment × Refund) :=
  account.payments.findSome? fun p =>
    (Table.find Refund.id p.refunds refundId).map fun refund => (p, refund)

def Payment.setRefund (p : Payment) (refund : Refund) : Payment :=
  { p with refunds := Table.put Refund.id p.refunds refund }

def Account.putRefund (account : Account) (p : Payment) (refund : Refund) : Account :=
  account.putPayment (p.setRefund refund)

def markPending (refund : Refund) (sourceReference : String) (now : Nat) :
    Except CommerceError Refund :=
  if refund.status = .pending then .ok refund
  else do
    validateRefundTransition refund.status .pending
    Outcome.refuse
      [(refund.hasTransition (.providerRequest sourceReference),
        .integrity "refund_transition_idempotent")]
    return Refund.record { refund with status := .pending, revision := refund.revision + 1 }
      ⟨.providerRequest sourceReference, some refund.status, .pending, now⟩

def markRefundPending (account : Account) (refundId : Nat) (sourceReference : String)
    (now : Nat) : Except CommerceError Account :=
  match account.refund? refundId with
  | none => .error (.doesNotExist "Refund")
  | some (p, refund) => do
    let refund ← markPending refund sourceReference now
    return account.putRefund p refund

structure RefundTransitionResult where
  refund : Refund
  changed : Bool

def providerRefundState (refund : Refund) (toStatus : RefundStatus) (amountMinor : Int)
    (currency : String) (effectiveAt providerEventId : Nat) (failureCode : String) :
    Except CommerceError RefundTransitionResult :=
  if refund.hasTransition (.providerEvent providerEventId) then .ok ⟨refund, false⟩
  else if amountMinor ≠ refund.amountMinor ∨ upper currency ≠ refund.currency then
    .error (.value "Verified provider amount or currency does not match the refund record.")
  else if refund.latestEffectiveAt.any (effectiveAt < ·) then
    .ok ⟨refund.record
      ⟨.providerEvent providerEventId, some refund.status, refund.status, effectiveAt⟩, false⟩
  else do
    validateRefundTransition refund.status toStatus
    return ⟨Refund.record
      { refund with
        status := toStatus
        failureCode := clip failureCode 80
        revision := refund.revision + 1
        succeededAt :=
          if toStatus = RefundStatus.succeeded then some effectiveAt else refund.succeededAt
        failedAt := if toStatus = RefundStatus.failed then some effectiveAt else refund.failedAt }
      ⟨.providerEvent providerEventId, some refund.status, toStatus, effectiveAt⟩, true⟩

def applyProviderRefundState (account : Account) (refundId : Nat) (toStatus : RefundStatus)
    (amountMinor : Int) (currency : String) (effectiveAt providerEventId : Nat)
    (failureCode : String) : Except CommerceError Account :=
  match account.refund? refundId with
  | none => .error (.doesNotExist "Refund")
  | some (p, refund) => do
    let result ← providerRefundState refund toStatus amountMinor currency effectiveAt
      providerEventId failureCode
    return account.putRefund p result.refund

end LockIn.Commerce
