import LockIn.Commerce.Entitlements
import LockIn.Commerce.Window

/-!
# Lifecycles and installments

Every change of status goes through `transitionSubscription`, which spends an
idempotency key, checks the transition graph and converges the entitlements in the
same call.  A call whose key is already spent changes nothing and says so.

`refreshLifecycle` brings a subscription to the instant `now`: it asks
`dueTransition` for the transition that is due, makes it, and after the end of a paid
period asks again.  The calls it makes to itself are bounded by the depth of the
call stack.

The first installment is paid at purchase, and each later one falls due a month after
the one before it.  Nothing is stored as overdue.  `installmentSnapshot` derives the
state of an agreement from its schedule and the payments attached to it, and
`enforceInstallments` converges the status of the subscription to that state: a missed
installment suspends the subscription, a paid one resumes it.
-/

namespace LockIn.Commerce

open Gregorian

/-- `ALLOWED_TRANSITIONS`. -/
def SubscriptionStatus.allowedNext : SubscriptionStatus → List SubscriptionStatus
  | .pending => [.active, .cancelled, .expired, .suspended]
  | .trialing => [.active, .cancelled, .expired, .suspended]
  | .active => [.active, .grace, .cancelled, .expired, .suspended, .refunded]
  | .grace => [.active, .expired, .cancelled, .suspended, .refunded]
  | .suspended => [.active, .expired, .cancelled, .refunded]
  | .expired => [.active]
  | .cancelled => [.active]
  | .refunded => []

def validateTransition (fromStatus toStatus : SubscriptionStatus) : Except CommerceError Unit :=
  if toStatus ∈ fromStatus.allowedNext then .ok ()
  else .error (.value ("Subscription transition " ++ fromStatus.text ++ " -> " ++ toStatus.text ++
    " is not allowed."))

def Account.spent (account : Account) (key : TransitionKey) : Bool :=
  account.transitions.any fun t => t.key == key

def Account.record (account : Account) (transition : SubscriptionTransition) : Account :=
  { account with transitions := account.transitions ++ [transition] }

/-- Record a transition under the uniqueness rule of its table. -/
def Account.insertTransition (account : Account) (transition : SubscriptionTransition) :
    Except CommerceError Account :=
  if account.spent transition.key then .error (.integrity "subscription_transition_idempotent")
  else .ok (account.record transition)

def latestEffectiveAt (transitions : List SubscriptionTransition) : Option Nat :=
  (transitions.map (·.effectiveAt)).max?

structure TransitionRequest where
  toStatus : SubscriptionStatus
  reasonCode : String
  effectiveAt : Nat
  key : TransitionKey
  periodStartedAt : Option Nat
  periodEndsAt : Option Nat
  allowOutOfOrder : Bool

def Subscription.transitioned (s : Subscription) (r : TransitionRequest) : Subscription :=
  { s with
    status := r.toStatus
    statusReason := r.reasonCode
    revision := s.revision + 1
    currentPeriodStartedAt := r.periodStartedAt.or s.currentPeriodStartedAt
    currentPeriodEndsAt := r.periodEndsAt.or s.currentPeriodEndsAt
    graceEndsAt :=
      (r.periodEndsAt.map fun endsAt => addDays endsAt s.planVersion.graceDays).or s.graceEndsAt
    startedAt := if r.toStatus = .active then s.startedAt.or (some r.effectiveAt) else s.startedAt
    suspendedAt :=
      if r.toStatus = .active then none
      else if r.toStatus = .suspended then some r.effectiveAt else s.suspendedAt
    cancelledAt := if r.toStatus = .cancelled then some r.effectiveAt else s.cancelledAt
    endedAt :=
      if r.toStatus = .active then none
      else if r.toStatus = .cancelled ∨ r.toStatus = .expired ∨ r.toStatus = .refunded then
        some r.effectiveAt
      else s.endedAt }

structure TransitionResult where
  account : Account
  changed : Bool

def transitionSubscription (account : Account) (r : TransitionRequest) (now : Nat) :
    Except CommerceError TransitionResult :=
  match account.subscription with
  | none => .error (.doesNotExist "Subscription")
  | some s =>
    if account.spent r.key then .ok ⟨account, false⟩
    else if !r.allowOutOfOrder && (latestEffectiveAt account.transitions).any (r.effectiveAt < ·)
    then
      .ok ⟨account.record ⟨r.key, some s.status, s.status, "out_of_order_ignored", r.effectiveAt⟩,
        false⟩
    else do
      validateTransition s.status r.toStatus
      Outcome.refuse
        [((r.periodStartedAt.any fun start => r.periodEndsAt.any (· ≤ start)),
          .value "A subscription period must end after it starts.")]
      let account ← syncSubscriptionEntitlements
        ((account.putSubscription (s.transitioned r)).record
          ⟨r.key, some s.status, r.toStatus, r.reasonCode, r.effectiveAt⟩) now
      return ⟨account, true⟩

def createTrialForUser (account : Account) (settings : Settings) (user : User)
    (startedAt : Option Nat) (now : Nat) : Except CommerceError (Account × Bool) := do
  Outcome.refuse
    [(user.emailVerifiedAt.isNone || user.status != .active,
      .value "A trial requires a verified active account.")]
  match account.subscription with
  | some _ => return (account, false)
  | none =>
    match settings.trialVersion with
    | none => .error (.doesNotExist "Plan")
    | some version =>
      Outcome.refuse
        [(version.trialDays == 0,
          .value "The configured trial plan is not published with a trial period.")]
      let start := (startedAt.or user.emailVerifiedAt).getD now
      let endsAt := addDays start version.trialDays
      let subscription : Subscription :=
        { SubscriptionState.blank .trialing version "trial_started" with
          startedAt := some start
          trialStartedAt := some start
          trialEndsAt := some endsAt
          currentPeriodStartedAt := some start
          currentPeriodEndsAt := some endsAt
          revision := 1
          createdAt := now }
      let account ← (account.putSubscription subscription).insertTransition
        ⟨.trial, none, .trialing, "trial_started", start⟩
      let account ← syncSubscriptionEntitlements account now
      return (account, true)

def scheduleCancellation (account : Account) (now : Nat) : Except CommerceError Account :=
  match account.subscription with
  | none => .error (.doesNotExist "Subscription")
  | some s =>
    if ¬s.status.givesAccess then .error (.doesNotExist "Subscription")
    else if s.cancelAtPeriodEnd then .ok account
    else
      let s := { s with
        cancelAtPeriodEnd := true
        cancellationRequestedAt := some now
        revision := s.revision + 1 }
      (account.putSubscription s).insertTransition
        ⟨.cancel s.revision, some s.status, s.status, "cancellation_scheduled", now⟩

def reconcile (toStatus : SubscriptionStatus) (reasonCode : String) (effectiveAt : Nat)
    (key : TransitionKey) : TransitionRequest :=
  ⟨toStatus, reasonCode, effectiveAt, key, none, none, true⟩

/-- The transition that is due at `now`, and whether the lifecycle goes on after it. -/
def dueTransition (s : Subscription) (now : Nat) : Option (TransitionRequest × Bool) :=
  if s.status = .active ∧ s.currentPeriodEndsAt = none ∧ s.graceEndsAt = none then
    some (reconcile .expired "active_period_missing" now .activePeriodMissing, false)
  else match s.status, s.trialEndsAt, s.currentPeriodEndsAt, s.graceEndsAt with
    | .trialing, some trialEnd, _, _ =>
      if trialEnd ≤ now then
        some (reconcile (if s.cancelAtPeriodEnd then .cancelled else .expired) "trial_ended"
          trialEnd (.trialEnd trialEnd), false)
      else none
    | .active, _, some periodEnd, _ =>
      if periodEnd ≤ now then
        some (reconcile
          (if s.cancelAtPeriodEnd then .cancelled
            else if 0 < s.planVersion.graceDays then .grace else .expired)
          "period_ended" periodEnd (.periodEnd periodEnd), true)
      else none
    | .grace, _, _, some graceEnd =>
      if graceEnd ≤ now then
        some (reconcile .expired "grace_ended" graceEnd (.graceEnd graceEnd), false)
      else none
    | _, _, _, _ => none

/-- `_refresh_lifecycle`, with at most `depth` calls on the stack. -/
def refreshLifecycle (now : Nat) : Nat → Account → Except CommerceError Account
  | 0, _ => .error .recursion
  | depth + 1, account =>
    match account.subscription with
    | none => .error (.doesNotExist "Subscription")
    | some s =>
      match dueTransition s now with
      | none => .ok account
      | some (request, goesOn) => do
        let result ← transitionSubscription account request now
        if goesOn then refreshLifecycle now depth result.account else return result.account

def installmentReasonPrefix : String := "installment_"

inductive InstallmentState
  | current | inReview | overdue | defaulted | completed | cancelled
deriving DecidableEq

inductive InstallmentItemStatus
  | paid | pending | due | upcoming

structure InstallmentItem where
  number : Nat
  amountMinor : Nat
  dueAt : Nat
  status : InstallmentItemStatus

structure InstallmentSnapshot where
  state : InstallmentState
  nextNumber : Option Nat
  nextAmountMinor : Option Nat
  nextDueAt : Option Nat
  paymentWindowEndsAt : Option Nat
  pendingNumber : Option Nat
  paidMinor : Nat
  items : List InstallmentItem

def InstallmentState.blocksAccess : InstallmentState → Bool
  | .overdue | .defaulted => true
  | _ => false

/-- When an installment falls due.  The count passed on is positive, so the check of
`advanceBillingPeriod` never refuses here. -/
def dueAt (anchor number : Nat) : Nat :=
  if number ≤ 1 then anchor else advanceInterval anchor .month (number - 1)

def installmentsAvailable (price : Price) (now : Nat) : Bool :=
  match fixedPeriodEnd price.planVersion with
  | none => false
  | some endsAt =>
    2 ≤ price.installmentAmountsMinor.length &&
      dueAt now price.installmentAmountsMinor.length < endsAt

def Account.agreementPayments (account : Account) (agreementId : Nat) : List Payment :=
  account.payments.filter fun p => p.agreementId == some agreementId

/-- Whether a payment settles installment `number`, whose amount is `amount`. -/
def Payment.settles (p : Payment) (number amount : Nat) : Bool :=
  p.status == .succeeded && p.installmentNumber == some number && decide (amount ≤ p.amountMinor) &&
    p.manualSubmission.all fun submission => submission.status == .approved

def installmentNumbers (amounts : List Nat) : List Nat := List.range' 1 amounts.length

def installmentAmount (amounts : List Nat) (number : Nat) : Nat := amounts.getD (number - 1) 0

def Account.installmentSettled (account : Account) (agreement : InstallmentAgreement)
    (number : Nat) : Bool :=
  (account.agreementPayments agreement.id).any fun p =>
    p.settles number (installmentAmount agreement.installmentAmountsMinor number)

def Account.installmentPending (account : Account) (agreement : InstallmentAgreement)
    (number : Nat) : Option Payment :=
  ((account.agreementPayments agreement.id).filter fun p =>
    p.status == .pending && p.installmentNumber == some number).getLast?

def Account.nextInstallment (account : Account) (agreement : InstallmentAgreement) : Option Nat :=
  (installmentNumbers agreement.installmentAmountsMinor).find? fun number =>
    !account.installmentSettled agreement number

def Account.openInstallment (account : Account) (agreement : InstallmentAgreement) : Option Nat :=
  if agreement.status = .cancelled then none else account.nextInstallment agreement

/-- The state of a schedule that waits for installment `number`, due at `due`. -/
def dueState (number due now : Nat) (submitted : Option Payment) : InstallmentState :=
  if due ≤ now then
    match submitted with
    | some p =>
      if number = 1 ∨ p.createdAt ≤ due + installmentPaymentWindow then .inReview else .defaulted
    | none => if now ≤ due + installmentPaymentWindow then .overdue else .defaulted
  else .current

def Account.installmentState (account : Account) (agreement : InstallmentAgreement)
    (now : Nat) : InstallmentState :=
  if agreement.status = .cancelled then .cancelled
  else match account.nextInstallment agreement with
    | none => .completed
    | some number =>
      dueState number (dueAt agreement.anchorAt number) now
        (account.installmentPending agreement number)

def installmentSnapshot (account : Account) (agreement : InstallmentAgreement) (now : Nat) :
    InstallmentSnapshot :=
  let amounts := agreement.installmentAmountsMinor
  let number := account.openInstallment agreement
  let nextDue := number.map (dueAt agreement.anchorAt)
  { state := account.installmentState agreement now
    nextNumber := number
    nextAmountMinor := number.map (installmentAmount amounts)
    nextDueAt := nextDue
    paymentWindowEndsAt := nextDue.map (· + installmentPaymentWindow)
    pendingNumber := number.filter fun n => (account.installmentPending agreement n).isSome
    paidMinor :=
      (((installmentNumbers amounts).filter (account.installmentSettled agreement)).map
        (installmentAmount amounts)).sum
    items := (installmentNumbers amounts).map fun n =>
      { number := n
        amountMinor := installmentAmount amounts n
        dueAt := dueAt agreement.anchorAt n
        status :=
          if account.installmentSettled agreement n then .paid
          else if (account.installmentPending agreement n).isSome then .pending
          else if dueAt agreement.anchorAt n ≤ now then .due else .upcoming } }

def Account.activeAgreement (account : Account) : Option InstallmentAgreement :=
  (account.agreements.filter fun a => a.status == .active).getLast?

def isInstallmentSuspension (s : SubscriptionState) : Bool :=
  s.status == .suspended && installmentReasonPrefix.toList.isPrefixOf s.statusReason.toList

def Account.firstInstallmentPending (account : Account) : Bool :=
  account.payments.any fun p =>
    p.installmentNumber == some 1 && p.status == .pending && p.policyVersion == userPolicyVersion

def resumeRequest (s : Subscription) (now : Nat) : TransitionRequest :=
  reconcile .active "installment_resumed" now (.installmentResume s.revision)

def suspendRequest (s : Subscription) (agreementId now : Nat) : TransitionRequest :=
  reconcile .suspended "installment_overdue" now (.installmentSuspend agreementId s.revision)

/-- What the installments of a subscription call for: an agreement that is paid in full and
a transition to make. -/
structure Enforcement where
  completes : Option InstallmentAgreement
  request : Option TransitionRequest

/-- The decisions of `enforce_installments`. -/
def enforcement (account : Account) (s : Subscription) (now : Nat) : Enforcement :=
  let suspended := isInstallmentSuspension s.toSubscriptionState
  let resumed := if suspended then some (resumeRequest s now) else none
  if s.status ≠ .active ∧ s.status ≠ .suspended then ⟨none, none⟩
  else if account.firstInstallmentPending then ⟨none, none⟩
  else match s.currentPeriodEndsAt.filter fun endsAt => suspended && decide (endsAt ≤ now) with
    | some endsAt =>
      ⟨none, some (reconcile .expired "period_ended" endsAt (.periodEnd endsAt))⟩
    | none =>
      match account.activeAgreement with
      -- The agreement was cancelled or settled elsewhere: nothing holds access back.
      | none => ⟨none, resumed⟩
      | some agreement =>
        let state := account.installmentState agreement now
        if state = .completed then ⟨some agreement, resumed⟩
        else if state.blocksAccess then
          ⟨none, if s.status = .active then some (suspendRequest s agreement.id now) else none⟩
        else ⟨none, resumed⟩

def completeAgreement (account : Account) (agreement : Option InstallmentAgreement) (now : Nat) :
    Account :=
  match agreement with
  | none => account
  | some agreement =>
    account.putAgreement { agreement with status := .completed, completedAt := some now }

def enforceInstallments (account : Account) (now : Nat) : Except CommerceError Account :=
  match account.subscription with
  | none => .error (.doesNotExist "Subscription")
  | some s =>
    let enforced := enforcement account s now
    let account := completeAgreement account enforced.completes now
    match enforced.request with
    | none => .ok account
    | some request => do
      let result ← transitionSubscription account request now
      return result.account

/-- The deepest call stack of the interpreter. -/
def recursionLimit : Nat := 1000

/-- `refresh_subscription` on a stack of `depth` calls. -/
def refreshSubscriptionWithin (depth : Nat) (account : Account) (now : Nat) :
    Except CommerceError Account := do
  let account ← refreshLifecycle now depth account
  enforceInstallments account now

def refreshSubscription (account : Account) (now : Nat) : Except CommerceError Account :=
  refreshSubscriptionWithin recursionLimit account now

end LockIn.Commerce
