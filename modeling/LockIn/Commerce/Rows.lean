import LockIn.Library.Gregorian
import LockIn.Library.Table

/-!
# The catalog and the rows of a purchase

A plan version fixes the trial and grace allowances, the entitlements it grants
and, for a term plan, the calendar instant the term ends at.  A price sells a
plan version for an interval, in full or in installments.  Both are records: once
published they are referred to and never rewritten.

The reader and the deployment settings that the commerce services consult are
here as well.  They may differ from one call to the next.

A reader has one commerce account, and everything here is what the database holds
for it: the subscription with the history of its transitions, the entitlement
grants, the payments with their submissions, refunds and invoices, the
installment agreements, the refund claims and the payment corrections.

A row that belongs to one parent is kept inside it.  Identifiers are numbers
handed out in order, so the row created last has the largest one.
-/

namespace LockIn.Commerce

open Gregorian

/-- The exceptions the services raise. -/
inductive CommerceError
  | value (message : String)
  | manualPayment (message : String)
  | duplicateRechargeCode (message : String)
  | rechargeCode (message : String)
  | adminControl (message : String)
  /-- `IntegrityError`: a uniqueness rule of the schema refused the row. -/
  | integrity (constraint : String)
  | doesNotExist (model : String)
  | multipleObjectsReturned (model : String)
  /-- `RecursionError`: the call stack is exhausted. -/
  | recursion
deriving DecidableEq

/-- The characters that `str.strip` removes. -/
def isSpace (c : Char) : Bool :=
  (9 ≤ c.toNat && c.toNat ≤ 13) || (28 ≤ c.toNat && c.toNat ≤ 32) ||
    [0x85, 0xA0, 0x1680, 0x2028, 0x2029, 0x202F, 0x205F, 0x3000].contains c.toNat ||
    (0x2000 ≤ c.toNat && c.toNat ≤ 0x200A)

def strip (text : String) : String :=
  String.ofList ((text.toList.dropWhile isSpace).reverse.dropWhile isSpace).reverse

/-- The first `count` characters, `text[:count]`. -/
def clip (text : String) (count : Nat) : String :=
  String.ofList (text.toList.take count)

structure EntitlementDefinition where
  code : String
  isActive : Bool

structure PlanEntitlementRule where
  entitlement : EntitlementDefinition
  quantityLimit : Option Nat
  configuration : String

structure PlanVersion where
  id : Nat
  /-- `plan.code`. -/
  planCode : String
  /-- Whether `plan.status` is active. -/
  planActive : Bool
  publishedAt : Option Nat
  trialDays : Nat
  graceDays : Nat
  /-- `terms["fixed_period_ends_at"]`, for a term plan. -/
  fixedPeriodEndsAt : Option Nat
  entitlementRules : List PlanEntitlementRule
  rules_unique : (entitlementRules.map (·.entitlement.code)).Nodup

/-- The calendar end of a term plan, or `none` for a duration plan. -/
def fixedPeriodEnd (planVersion : PlanVersion) : Option Nat := planVersion.fixedPeriodEndsAt

inductive Interval
  | day | month | year

inductive PriceStatus
  | draft | active | archived
deriving DecidableEq

inductive Eligibility
  | everyone | loyalty2026 | fourMonthUpgrade
deriving DecidableEq

/-- A price.  The last three fields are what its table and `save` enforce. -/
structure Price where
  planVersion : PlanVersion
  amountMinor : Nat
  currency : String
  currencyExponent : Nat
  interval : Interval
  intervalCount : Nat
  firstSubscriptionOnly : Bool
  eligibility : Eligibility
  /-- Empty when the price is sold in full only. -/
  installmentAmountsMinor : List Nat
  status : PriceStatus
  amount_pos : 0 < amountMinor
  interval_pos : 0 < intervalCount
  installments_valid : installmentAmountsMinor ≠ [] →
    2 ≤ installmentAmountsMinor.length ∧ (∀ amount ∈ installmentAmountsMinor, 0 < amount) ∧
      installmentAmountsMinor.sum = amountMinor

def hour : Nat := 3600000000

/-- Tripoli keeps UTC+2, so midnight there is ten in the evening of the day before. -/
def firstMonthOfferEndsAt : Nat := toDays ⟨2026, 10, 9⟩ * day + 22 * hour

def freeAccessEndsAtInstant : Nat := toDays ⟨2026, 10, 23⟩ * day + 22 * hour - 1000000

def fourMonths : String := "lockin_four_months"

def legacyDurationPlans : List String :=
  ["lockin_monthly", "lockin_first_month", "lockin_two_months", "lockin_three_months", fourMonths]

def freeAccessProgramCodes : List String := ["human-medicine"]

def installmentPaymentWindow : Nat := 2 * day

def earlyRenewalWindow : Nat := 7 * day

def maxRechargeCodes : Nat := 5

def userPolicyVersion : String := "2026.10"

inductive UserStatus
  | active | suspended | deleted
deriving DecidableEq

structure User where
  status : UserStatus
  isActive : Bool
  emailVerifiedAt : Option Nat
  policyVersion : String
  policyAcceptedAt : Option Nat
  /-- `is_subscription_exempt`. -/
  subscriptionExempt : Bool
  /-- The code of the program of the reader's cohort. -/
  programCode : Option String

structure Settings where
  accountPolicyVersion : String
  /-- `policy_effective_at()`. -/
  policyEffectiveAt : Option Nat
  /-- The current version of the plan that `DEFAULT_TRIAL_PLAN_CODE` names, when that
  plan is active and has one. -/
  trialVersion : Option PlanVersion
  /-- The keyed digest of a recharge code. -/
  rechargeCodeDigest : String → String

/-- When the free window of the reader's program ends, or `none` when it does not apply. -/
def freeAccessEndsAt (user : User) (now : Nat) : Option Nat :=
  if freeAccessEndsAtInstant < now then none
  else match user.programCode with
    | none => none
    | some code => if freeAccessProgramCodes.contains code then some freeAccessEndsAtInstant else none

/-- A reader under the current policy, whose program is not free. -/
def reader : User :=
  { status := .active, isActive := true, emailVerifiedAt := some 0
    policyVersion := userPolicyVersion, policyAcceptedAt := some 0, subscriptionExempt := false
    programCode := none }

def rollingVersion : PlanVersion :=
  { id := 1, planCode := "lockin_monthly", planActive := true, publishedAt := some 0
    trialDays := 7, graceDays := 7, fixedPeriodEndsAt := none
    entitlementRules := [⟨⟨"study.access", true⟩, none, ""⟩]
    rules_unique := by decide }

def thirtyDays (planVersion : PlanVersion) : Price :=
  { planVersion := planVersion, amountMinor := 25000, currency := "LYD", currencyExponent := 3
    interval := .day, intervalCount := 30, firstSubscriptionOnly := false
    eligibility := .everyone, installmentAmountsMinor := [], status := .active
    amount_pos := by decide, interval_pos := by decide
    installments_valid := by simp }

def termVersion (endsAt : Nat) : PlanVersion :=
  { rollingVersion with
    id := 2, planCode := "dentistry_full_year", trialDays := 0, graceDays := 0
    fixedPeriodEndsAt := some endsAt }

def termPrice (endsAt : Nat) : Price :=
  { thirtyDays (termVersion endsAt) with
    amountMinor := 90000, installmentAmountsMinor := [30000, 30000, 30000]
    amount_pos := by decide, installments_valid := by decide }

def deployment (trialVersion : PlanVersion) : Settings :=
  { accountPolicyVersion := userPolicyVersion, policyEffectiveAt := some 0
    trialVersion := some trialVersion, rechargeCodeDigest := id }

inductive SubscriptionStatus
  | pending | trialing | active | grace | expired | cancelled | suspended | refunded
deriving DecidableEq

namespace SubscriptionStatus

/-- The value stored in the column. -/
def text : SubscriptionStatus → String
  | pending => "pending"
  | trialing => "trialing"
  | active => "active"
  | grace => "grace"
  | expired => "expired"
  | cancelled => "cancelled"
  | suspended => "suspended"
  | refunded => "refunded"

end SubscriptionStatus

inductive PaymentVerification
  | verified | provisional

/-- What a purchase may have to put back: the fields of a subscription that
`_snapshot_subscription` saves. -/
structure SubscriptionState where
  status : SubscriptionStatus
  planVersion : PlanVersion
  startedAt : Option Nat
  trialStartedAt : Option Nat
  trialEndsAt : Option Nat
  currentPeriodStartedAt : Option Nat
  currentPeriodEndsAt : Option Nat
  graceEndsAt : Option Nat
  cancelAtPeriodEnd : Bool
  cancellationRequestedAt : Option Nat
  cancelledAt : Option Nat
  suspendedAt : Option Nat
  endedAt : Option Nat
  statusReason : String
  paymentVerification : PaymentVerification
  provisionalPaymentId : Option Nat
  lastPaymentAt : Option Nat

structure Subscription extends SubscriptionState where
  revision : Nat
  createdAt : Nat

def SubscriptionState.blank (status : SubscriptionStatus) (planVersion : PlanVersion)
    (statusReason : String) : SubscriptionState :=
  { status := status, planVersion := planVersion, startedAt := none, trialStartedAt := none
    trialEndsAt := none, currentPeriodStartedAt := none, currentPeriodEndsAt := none
    graceEndsAt := none, cancelAtPeriodEnd := false, cancellationRequestedAt := none
    cancelledAt := none, suspendedAt := none, endedAt := none, statusReason := statusReason
    paymentVerification := .verified, provisionalPaymentId := none, lastPaymentAt := none }

/-- The idempotency key of a subscription transition, by the operation that spends it. -/
inductive TransitionKey
  | trial
  | manualOpen
  | activePeriodMissing
  | trialEnd (endsAt : Nat)
  | periodEnd (endsAt : Nat)
  | graceEnd (endsAt : Nat)
  | manualPayment (paymentId : Nat)
  | manualApproval (paymentId : Nat)
  | manualRejection (paymentId : Nat)
  | cancel (revision : Nat)
  | installmentSuspend (agreementId revision : Nat)
  | installmentResume (revision : Nat)
  | claimAccess (claimId : Nat)
  | paymentSucceeded (paymentId : Nat)
  | replacement (paymentId : Nat)
  | admin (key : String)
deriving DecidableEq

structure SubscriptionTransition where
  key : TransitionKey
  fromStatus : Option SubscriptionStatus
  toStatus : SubscriptionStatus
  reasonCode : String
  effectiveAt : Nat

structure SubscriptionAdminEvent where
  idempotencyKey : String
  action : String

inductive GrantSource
  | subscription
  | manual (sourceId : Nat)
deriving DecidableEq

inductive GrantStatus
  | active | revoked | expired
deriving DecidableEq

structure EntitlementGrant where
  entitlement : EntitlementDefinition
  source : GrantSource
  status : GrantStatus
  startsAt : Nat
  endsAt : Option Nat
  quantityLimit : Option Nat
  configuration : String
  revokedAt : Option Nat
  revision : Nat

inductive PaymentStatus
  | initiated | pending | succeeded | failed | cancelled | partiallyRefunded | refunded
deriving DecidableEq

def PaymentStatus.text : PaymentStatus → String
  | .initiated => "initiated"
  | .pending => "pending"
  | .succeeded => "succeeded"
  | .failed => "failed"
  | .cancelled => "cancelled"
  | .partiallyRefunded => "partially_refunded"
  | .refunded => "refunded"

inductive PaymentMethod
  | provider | libyana

inductive PaymentTransitionKey
  | created
  | libyanaSubmitted
  | providerEvent (eventId : Nat)
  | adminCorrection (correctionId : Nat)
  | manualReview (key : String)
  | refund (refundId : Nat)
deriving DecidableEq

structure PaymentTransition where
  key : PaymentTransitionKey
  fromStatus : Option PaymentStatus
  toStatus : PaymentStatus
  effectiveAt : Nat

inductive SubmissionStatus
  | pending | approved | rejected | cancelled
deriving DecidableEq

structure ManualRechargeSubmission where
  status : SubmissionStatus
  submittedAt : Nat
  reviewedAt : Option Nat
  rejectionReason : String
  subscriptionPeriodStartedAt : Nat
  subscriptionPeriodEndsAt : Nat
  previousSubscriptionState : SubscriptionState
  isEarlyRenewal : Bool
  previousSubscriptionEndAt : Option Nat
  extensionStartedAt : Option Nat
  extensionEndsAt : Option Nat

inductive RefundStatus
  | requested | pending | succeeded | failed | cancelled
deriving DecidableEq

def RefundStatus.text : RefundStatus → String
  | .requested => "requested"
  | .pending => "pending"
  | .succeeded => "succeeded"
  | .failed => "failed"
  | .cancelled => "cancelled"

inductive RefundKey
  | request (key : String)
  | claim (claimId paymentId : Nat)
deriving DecidableEq

inductive RefundTransitionKey
  | requested
  | providerRequest (reference : String)
  | providerEvent (eventId : Nat)
  | claimCompleted (claimId : Nat)
deriving DecidableEq

structure RefundTransition where
  key : RefundTransitionKey
  fromStatus : Option RefundStatus
  toStatus : RefundStatus
  effectiveAt : Nat

structure Refund where
  id : Nat
  amountMinor : Nat
  currency : String
  status : RefundStatus
  reason : String
  idempotencyKey : RefundKey
  failureCode : String
  requestedAt : Nat
  succeededAt : Option Nat
  failedAt : Option Nat
  revision : Nat
  transitions : List RefundTransition
  amount_pos : 0 < amountMinor

inductive InvoiceStatus
  | paid | partiallyRefunded | refunded

inductive InvoiceReference
  | payment
  | refund (refundId : Nat)
deriving DecidableEq

structure InvoiceTransition where
  sourceReference : InvoiceReference
  fromStatus : Option InvoiceStatus
  toStatus : InvoiceStatus
  effectiveAt : Nat

structure Invoice where
  status : InvoiceStatus
  totalMinor : Nat
  amountPaidMinor : Nat
  amountRefundedMinor : Nat
  periodStartedAt : Option Nat
  periodEndsAt : Option Nat
  issuedAt : Nat
  revision : Nat
  transitions : List InvoiceTransition

structure Payment where
  id : Nat
  price : Price
  amountMinor : Nat
  currency : String
  refundedAmountMinor : Nat
  method : PaymentMethod
  status : PaymentStatus
  idempotencyKey : String
  /-- `price_snapshot["policy_version"]`. -/
  policyVersion : String
  failureCode : String
  initiatedAt : Nat
  succeededAt : Option Nat
  failedAt : Option Nat
  agreementId : Option Nat
  installmentNumber : Option Nat
  revision : Nat
  createdAt : Nat
  transitions : List PaymentTransition
  manualSubmission : Option ManualRechargeSubmission
  refunds : List Refund
  invoice : Option Invoice
  amount_pos : 0 < amountMinor

def partialCollectionFailureCode : String := "manual_rejected_partial_collection"

inductive AgreementStatus
  | active | completed | cancelled
deriving DecidableEq

structure InstallmentAgreement where
  id : Nat
  price : Price
  totalAmountMinor : Nat
  installmentAmountsMinor : List Nat
  anchorAt : Nat
  status : AgreementStatus
  completedAt : Option Nat
  cancelledAt : Option Nat

inductive ClaimStatus
  | requested | needsInfo | approved | completed | rejected | compensating | resolved
deriving DecidableEq

inductive ClaimKind
  | voluntary | platformError | paymentError | termination
deriving DecidableEq

inductive Remedy
  | refund | extension | terminate
deriving DecidableEq

structure Allocation where
  paymentId : Nat
  amountMinor : Nat

structure RefundClaim where
  id : Nat
  paymentId : Nat
  kind : ClaimKind
  remedy : Remedy
  reason : String
  receiverPhone : String
  status : ClaimStatus
  receivedAt : Nat
  idempotencyKey : String
  quotedAmountMinor : Nat
  approvedAmountMinor : Option Nat
  allocations : List Allocation
  decisionReason : String
  transferReference : String
  completedAt : Option Nat

inductive CorrectionStatus
  | pending | approved | rejected
deriving DecidableEq

structure PaymentStatusCorrection where
  id : Nat
  paymentId : Nat
  requestedStatus : PaymentStatus
  providerReference : String
  requestedBy : Nat
  idempotencyKey : String
  approvalIdempotencyKey : String
  status : CorrectionStatus

structure Account where
  subscription : Option Subscription
  transitions : List SubscriptionTransition
  adminEvents : List SubscriptionAdminEvent
  grants : List EntitlementGrant
  payments : List Payment
  agreements : List InstallmentAgreement
  claims : List RefundClaim
  corrections : List PaymentStatusCorrection
  /-- The identifier of the next row. -/
  nextId : Nat

def Account.empty : Account :=
  ⟨none, [], [], [], [], [], [], [], 1⟩

namespace Account

def payment? (account : Account) (id : Nat) : Option Payment :=
  Table.find Payment.id account.payments id

def agreement? (account : Account) (id : Nat) : Option InstallmentAgreement :=
  Table.find InstallmentAgreement.id account.agreements id

def claim? (account : Account) (id : Nat) : Option RefundClaim :=
  Table.find RefundClaim.id account.claims id

def putPayment (account : Account) (payment : Payment) : Account :=
  { account with payments := Table.put Payment.id account.payments payment }

def putAgreement (account : Account) (agreement : InstallmentAgreement) : Account :=
  { account with agreements := Table.put InstallmentAgreement.id account.agreements agreement }

def putClaim (account : Account) (claim : RefundClaim) : Account :=
  { account with claims := Table.put RefundClaim.id account.claims claim }

def putSubscription (account : Account) (subscription : Subscription) : Account :=
  { account with subscription := some subscription }

end Account

end LockIn.Commerce
