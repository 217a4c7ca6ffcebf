import LockIn.Commerce.Admin
import LockIn.Commerce.Claims
import LockIn.Commerce.Review
import LockIn.Library.Machine

/-!
# The commerce machine

The calls that move one account.  Each is one transaction: it executes whole or changes
nothing.  A call carries the settings and the reader as they are when it is made, and the
instant it is made at.
-/

namespace LockIn.Commerce

inductive Command
  | createTrialForUser (startedAt : Option Nat)
  | submitManualRecharge (price : Price) (rechargeCodes : List String) (idempotencyKey : String)
      (payInInstallments : Bool)
  | submitInstallmentPayment (agreementId : Nat) (rechargeCodes : List String)
      (idempotencyKey : String)
  | reviewManualRecharge (paymentId : Nat) (review : Review)
  | scheduleCancellation
  | refreshSubscription
  | manageSubscription (change : AdminChange)
  | createPayment (price : Price) (idempotencyKey : String) (amountMinor : Option Nat)
  | applyProviderPaymentState (paymentId : Nat) (toStatus : PaymentStatus) (amountMinor : Int)
      (currency : String) (effectiveAt providerEventId : Nat) (failureCode : String)
  | requestCorrection (request : CorrectionRequest)
  | reviewCorrection (review : CorrectionReview)
  | applySuccessfulRefund (paymentId amountMinor refundId : Nat)
  | requestRefund (paymentId : Nat) (amountMinor : Int) (reason idempotencyKey : String)
      (reasonType : RefundReasonType) (receivedAt : Option Nat)
  | markRefundPending (refundId : Nat) (sourceReference : String)
  | applyProviderRefundState (refundId : Nat) (toStatus : RefundStatus) (amountMinor : Int)
      (currency : String) (effectiveAt providerEventId : Nat) (failureCode : String)
  | createClaim (request : ClaimRequest)
  | reviewClaim (claimId : Nat) (review : ClaimReview)

structure Call where
  settings : Settings
  user : User
  now : Nat
  command : Command

def onPayment (account : Account) (paymentId : Nat)
    (service : Payment → Except CommerceError Payment) : Except CommerceError Account :=
  match account.payment? paymentId with
  | none => .error (.doesNotExist "Payment")
  | some p => do
    let p ← service p
    return account.putPayment p

def Call.execute (call : Call) (account : Account) : Except CommerceError Account :=
  match call.command with
  | .createTrialForUser startedAt =>
    Prod.fst <$> createTrialForUser account call.settings call.user startedAt call.now
  | .submitManualRecharge price rechargeCodes idempotencyKey payInInstallments =>
    ManualPaymentResult.account <$> submitManualRecharge account call.settings call.user price
      rechargeCodes idempotencyKey payInInstallments call.now
  | .submitInstallmentPayment agreementId rechargeCodes idempotencyKey =>
    ManualPaymentResult.account <$> submitInstallmentPayment account call.settings call.user
      agreementId rechargeCodes idempotencyKey call.now
  | .reviewManualRecharge paymentId review =>
    Prod.fst <$> reviewManualRecharge account paymentId review call.now
  | .scheduleCancellation => scheduleCancellation account call.now
  | .refreshSubscription => refreshSubscription account call.now
  | .manageSubscription change => manageSubscription account change call.now
  | .createPayment price idempotencyKey amountMinor =>
    Prod.fst <$> createPayment account call.user price idempotencyKey amountMinor call.now
  | .applyProviderPaymentState paymentId toStatus amountMinor currency effectiveAt
      providerEventId failureCode =>
    onPayment account paymentId fun p => PaymentTransitionResult.payment <$>
      applyProviderPaymentState p toStatus amountMinor currency effectiveAt providerEventId
        failureCode
  | .requestCorrection request => requestPaymentStatusCorrection account request
  | .reviewCorrection review => reviewPaymentStatusCorrection account review call.now
  | .applySuccessfulRefund paymentId amountMinor refundId =>
    onPayment account paymentId fun p => applySuccessfulRefund p amountMinor refundId call.now
  | .requestRefund paymentId amountMinor reason idempotencyKey reasonType receivedAt =>
    Prod.fst <$> requestRefund account paymentId amountMinor reason (.request idempotencyKey)
      reasonType receivedAt call.now
  | .markRefundPending refundId sourceReference =>
    markRefundPending account refundId sourceReference call.now
  | .applyProviderRefundState refundId toStatus amountMinor currency effectiveAt
      providerEventId failureCode =>
    applyProviderRefundState account refundId toStatus amountMinor currency effectiveAt
      providerEventId failureCode
  | .createClaim request => Prod.fst <$> createClaim account request call.now
  | .reviewClaim claimId review => reviewClaim account claimId review call.now

def commerceFrom (start : Account) : Machine Account Call CommerceError :=
  ⟨start, Call.execute, Call.now⟩

def commerce : Machine Account Call CommerceError := commerceFrom Account.empty

/-- A command of `reader`, whose trials are on the rolling plan. -/
def callAt (now : Nat) (command : Command) : Call :=
  ⟨deployment rollingVersion, reader, now, command⟩

def purchaseAt (now : Nat) (price : Price) (key : String) : Call :=
  callAt now (.submitManualRecharge price ["1234567890123"] key false)

def decideAt (now paymentId : Nat) (decision : Decision) (key : String) : Call :=
  callAt now (.reviewManualRecharge paymentId ⟨decision, "Card was checked", key, 0⟩)

end LockIn.Commerce
