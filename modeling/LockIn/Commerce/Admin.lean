import LockIn.Commerce.Installments
import LockIn.Commerce.Payments

/-!
# What administrators change

`manageSubscription` makes one audited change to a subscription under a key that can be
repeated.  A payment correction is requested by one administrator and applied when
another approves it.
-/

namespace LockIn.Commerce

open Gregorian

def requireReason (reason : String) : Except CommerceError Unit :=
  Outcome.refuse
    [(decide ((strip reason).length < 8),
      .adminControl "An administrative reason of at least 8 characters is required.")]

def requireIdempotencyKey (value : String) : Except CommerceError String := do
  let key := clip (strip value) 180
  Outcome.refuse
    [(decide (key.length < 12),
      .adminControl "A stable idempotency key is required for this action.")]
  return key

inductive AdminAction
  | activate | reactivate | suspend | cancelNow | cancelPeriodEnd | extend | changeExpiration
  | changePlan
deriving DecidableEq

def AdminAction.text : AdminAction → String
  | .activate => "activate"
  | .reactivate => "reactivate"
  | .suspend => "suspend"
  | .cancelNow => "cancel_now"
  | .cancelPeriodEnd => "cancel_period_end"
  | .extend => "extend"
  | .changeExpiration => "change_expiration"
  | .changePlan => "change_plan"

structure AdminChange where
  action : AdminAction
  reason : String
  idempotencyKey : String
  periodEndsAt : Option Nat
  /-- The plan version that the request names. -/
  planVersion : Option PlanVersion

def adminRequest (toStatus : SubscriptionStatus) (reasonCode key : String) (now : Nat) :
    TransitionRequest :=
  ⟨toStatus, reasonCode, now, .admin key, none, none, false⟩

/-- A change that leaves the status as it is: the row and its entry in the history. -/
def adminEdit (account : Account) (s : Subscription) (reasonCode key : String) (now : Nat) :
    Except CommerceError Account :=
  (account.putSubscription { s with statusReason := reasonCode, revision := s.revision + 1 })
    |>.insertTransition ⟨.admin key, some s.status, s.status, reasonCode, now⟩

def adminTransition (account : Account) (r : TransitionRequest) (now : Nat) :
    Except CommerceError Account := do
  let result ← transitionSubscription account r now
  return result.account

/-- `activate` and `reactivate`. -/
def adminActivate (account : Account) (s : Subscription) (change : AdminChange) (key : String)
    (now : Nat) : Except CommerceError Account :=
  match (change.periodEndsAt.or s.currentPeriodEndsAt).filter fun endsAt => decide (now < endsAt) with
  | none => .error (.adminControl
      "A future expiration date is required to activate paid access.")
  | some endsAt => adminTransition account
      { adminRequest .active ("admin_" ++ change.action.text) key now with
        periodStartedAt :=
          if change.periodEndsAt.isSome then some now else s.currentPeriodStartedAt
        periodEndsAt := some endsAt } now

/-- `cancel_period_end`. -/
def adminCancelPeriodEnd (account : Account) (s : Subscription) (key : String) (now : Nat) :
    Except CommerceError Account :=
  if ¬s.status.givesAccess then
    .error (.adminControl "Only a live subscription can be cancelled at period end.")
  else if s.cancelAtPeriodEnd then .ok account
  else adminEdit account
    { s with cancelAtPeriodEnd := true, cancellationRequestedAt := some now }
    "admin_cancellation_scheduled" key now

/-- `extend` and `change_expiration`. -/
def adminExpiration (account : Account) (s : Subscription) (change : AdminChange) (key : String)
    (now : Nat) : Except CommerceError Account :=
  match change.periodEndsAt with
  | none => .error (.adminControl "A new expiration date is required.")
  | some endsAt =>
    if s.currentPeriodStartedAt.all (endsAt ≤ ·) then
      .error (.adminControl "The expiration date must be after the current period start.")
    else if change.action = .extend ∧ s.currentPeriodEndsAt.any (endsAt ≤ ·) then
      .error (.adminControl "An extension must move the expiration date forward.")
    else adminEdit account
      { s with
        currentPeriodEndsAt := some endsAt
        graceEndsAt := some (addDays endsAt s.planVersion.graceDays)
        cancelAtPeriodEnd := false
        cancellationRequestedAt := none }
      ("admin_" ++ change.action.text) key now

/-- `change_plan`. -/
def adminChangePlan (account : Account) (s : Subscription) (change : AdminChange) (key : String)
    (now : Nat) : Except CommerceError Account :=
  match change.planVersion with
  | none => .error (.adminControl "A target plan version is required.")
  | some planVersion =>
    if !planVersion.planActive || planVersion.publishedAt.isNone then
      .error (.adminControl "The target plan version is not active and published.")
    else adminEdit account { s with planVersion := planVersion } "admin_plan_changed" key now

def applyAdminChange (account : Account) (s : Subscription) (change : AdminChange) (key : String)
    (now : Nat) : Except CommerceError Account :=
  match change.action with
  | .activate | .reactivate => adminActivate account s change key now
  | .suspend => adminTransition account (adminRequest .suspended "admin_suspended" key now) now
  | .cancelNow => adminTransition account (adminRequest .cancelled "admin_cancelled" key now) now
  | .cancelPeriodEnd => adminCancelPeriodEnd account s key now
  | .extend | .changeExpiration => adminExpiration account s change key now
  | .changePlan => adminChangePlan account s change key now

def manageSubscription (account : Account) (change : AdminChange) (now : Nat) :
    Except CommerceError Account := do
  requireReason change.reason
  let key ← requireIdempotencyKey change.idempotencyKey
  match account.subscription with
  | none => .error (.doesNotExist "Subscription")
  | some s =>
    match account.adminEvents.find? fun event => event.idempotencyKey == key with
    | some event =>
      Outcome.refuse
        [(event.action != change.action.text,
          .adminControl "This idempotency key was already used for a different action.")]
      return account
    | none =>
      let account ← applyAdminChange account s change key now
      let account ← syncSubscriptionEntitlements account now
      return { account with adminEvents := account.adminEvents ++ [⟨key, change.action.text⟩] }

def PaymentStatus.correctable : PaymentStatus → Bool
  | .succeeded | .failed | .cancelled => true
  | _ => false

structure CorrectionRequest where
  paymentId : Nat
  requestedStatus : PaymentStatus
  providerReference : String
  actor : Nat
  reason : String
  idempotencyKey : String

def requestPaymentStatusCorrection (account : Account) (r : CorrectionRequest) :
    Except CommerceError Account := do
  requireReason r.reason
  let key ← requireIdempotencyKey r.idempotencyKey
  let reference := strip r.providerReference
  Outcome.refuse
    [(reference.length == 0,
      .adminControl "A verified payment-provider reference is required.")]
  match account.payment? r.paymentId with
  | none => .error (.doesNotExist "Payment")
  | some p =>
    Outcome.refuse
      [(!r.requestedStatus.correctable,
        .adminControl "This payment status is not eligible for controlled reconciliation.")]
    match account.corrections.find? fun c =>
        c.paymentId == p.id && c.requestedBy == r.actor && c.idempotencyKey == key with
    | some correction =>
      Outcome.refuse
        [(correction.requestedStatus != r.requestedStatus ||
            correction.providerReference != clip reference 180,
          .adminControl ("This idempotency key was already used for a different correction " ++
            "request."))]
      return account
    | none =>
      return { account with
        corrections := account.corrections ++
          [⟨account.nextId, p.id, r.requestedStatus, clip reference 180, r.actor, key, "",
            .pending⟩]
        nextId := account.nextId + 1 }

structure CorrectionReview where
  correctionId : Nat
  approve : Bool
  actor : Nat
  reason : String
  idempotencyKey : String

def applyCorrection (account : Account) (correction : PaymentStatusCorrection) (now : Nat) :
    Except CommerceError Account :=
  match account.payment? correction.paymentId with
  | none => .error (.doesNotExist "Payment")
  | some p => do
    let result ← applyAdminReconciledPaymentState p correction.requestedStatus
      correction.providerReference correction.id now
    return account.putPayment result.payment

def reviewPaymentStatusCorrection (account : Account) (r : CorrectionReview) (now : Nat) :
    Except CommerceError Account := do
  requireReason r.reason
  let key ← requireIdempotencyKey r.idempotencyKey
  match Table.find PaymentStatusCorrection.id account.corrections r.correctionId with
  | none => .error (.doesNotExist "PaymentStatusCorrection")
  | some correction =>
    if correction.status ≠ .pending then
      Outcome.refuse
        [(correction.approvalIdempotencyKey != key,
          .adminControl "This correction request has already been reviewed.")]
      return account
    else
      Outcome.refuse
        [(correction.requestedBy == r.actor,
          .adminControl ("A different administrator must review a payment correction " ++
            "request."))]
      let account ← if r.approve then applyCorrection account correction now else .ok account
      return { account with
        corrections := Table.put PaymentStatusCorrection.id account.corrections
          { correction with
            approvalIdempotencyKey := key
            status := if r.approve then .approved else .rejected } }

end LockIn.Commerce
