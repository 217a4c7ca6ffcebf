import LockIn.Commerce.Rows
import LockIn.Library.Outcome

/-!
# Payments and invoices

A payment is moved by the provider, by a correction two administrators agreed on and
by refunds that succeeded.  Each of these services appends to the history of the
payment under a key of its own, so that a repeated delivery is recognised, and checks
the transition graph.  An invoice is issued for a payment that succeeded and follows
its refunds under references of its own.
-/

namespace LockIn.Commerce

/-- `ALLOWED_TRANSITIONS`. -/
def PaymentStatus.allowedNext : PaymentStatus → List PaymentStatus
  | .initiated => [.pending, .succeeded, .failed, .cancelled]
  | .pending => [.succeeded, .failed, .cancelled]
  | .succeeded => [.partiallyRefunded, .refunded]
  | .partiallyRefunded => [.partiallyRefunded, .refunded]
  | .failed => []
  | .cancelled => []
  | .refunded => []

def validatePaymentTransition (fromStatus toStatus : PaymentStatus) : Except CommerceError Unit :=
  if toStatus ∈ fromStatus.allowedNext then .ok ()
  else .error (.value ("Payment transition " ++ fromStatus.text ++ " -> " ++ toStatus.text ++
    " is not allowed."))

namespace Payment

def hasTransition (p : Payment) (key : PaymentTransitionKey) : Bool :=
  p.transitions.any fun t => t.key == key

def record (p : Payment) (transition : PaymentTransition) : Payment :=
  { p with transitions := p.transitions ++ [transition] }

def latestEffectiveAt (p : Payment) : Option Nat := (p.transitions.map (·.effectiveAt)).max?

/-- Money was received and not all of it has gone back. -/
def settled (p : Payment) : Bool := p.status == .succeeded || p.status == .partiallyRefunded

/-- The payment moved to `toStatus` by a confirmed report of the money. -/
def moveTo (p : Payment) (toStatus : PaymentStatus) (failureCode : String) (effectiveAt : Nat)
    (key : PaymentTransitionKey) : Payment :=
  record
    { p with
      status := toStatus
      failureCode := failureCode
      revision := p.revision + 1
      succeededAt := if toStatus = PaymentStatus.succeeded then some effectiveAt else p.succeededAt
      failedAt := if toStatus = PaymentStatus.failed then some effectiveAt else p.failedAt }
    ⟨key, some p.status, toStatus, effectiveAt⟩

end Payment

structure PaymentTransitionResult where
  payment : Payment
  changed : Bool

/-- The letters outside ASCII that `str.upper` writes in letters of ASCII. -/
def asciiUppers : List (Char × List Char) :=
  [('ı', ['I']), ('ſ', ['S']), ('ß', ['S', 'S']), ('ﬀ', ['F', 'F']), ('ﬁ', ['F', 'I']),
    ('ﬂ', ['F', 'L']), ('ﬃ', ['F', 'F', 'I']), ('ﬄ', ['F', 'F', 'L']), ('ﬅ', ['S', 'T']),
    ('ﬆ', ['S', 'T'])]

/-- `str.upper`, which is compared with codes of ASCII letters only. -/
def upper (text : String) : String :=
  String.ofList (text.toList.flatMap fun char => (asciiUppers.lookup char).getD [char.toUpper])

def applyProviderPaymentState (p : Payment) (toStatus : PaymentStatus) (amountMinor : Int)
    (currency : String) (effectiveAt providerEventId : Nat) (failureCode : String) :
    Except CommerceError PaymentTransitionResult :=
  if p.hasTransition (.providerEvent providerEventId) then .ok ⟨p, false⟩
  else if amountMinor ≠ p.amountMinor ∨ upper currency ≠ p.currency then
    .error (.value "Verified provider amount or currency does not match the payment record.")
  else if p.latestEffectiveAt.any (effectiveAt < ·) then
    .ok ⟨p.record ⟨.providerEvent providerEventId, some p.status, p.status, effectiveAt⟩, false⟩
  else do
    validatePaymentTransition p.status toStatus
    return ⟨p.moveTo toStatus (clip failureCode 80) effectiveAt (.providerEvent providerEventId),
      true⟩

def applyAdminReconciledPaymentState (p : Payment) (toStatus : PaymentStatus)
    (providerReference : String) (correctionId effectiveAt : Nat) :
    Except CommerceError PaymentTransitionResult :=
  if p.hasTransition (.adminCorrection correctionId) then .ok ⟨p, false⟩
  else do
    Outcome.refuse
      [((strip providerReference).length == 0,
        .value "A verified provider reference is required for payment reconciliation.")]
    validatePaymentTransition p.status toStatus
    return ⟨p.moveTo toStatus (if toStatus = .succeeded then "" else p.failureCode) effectiveAt
      (.adminCorrection correctionId), true⟩

/-- The status of a payment of which `total` has been refunded. -/
def Payment.refundStatus (p : Payment) (total : Nat) : PaymentStatus :=
  if total = p.amountMinor then .refunded else .partiallyRefunded

def Payment.refundedBy (p : Payment) (amountMinor refundId now : Nat) : Payment :=
  let newTotal := p.refundedAmountMinor + amountMinor
  Payment.record
    { p with
      refundedAmountMinor := newTotal
      status := p.refundStatus newTotal
      revision := p.revision + 1 }
    ⟨.refund refundId, some p.status, p.refundStatus newTotal, now⟩

def applySuccessfulRefund (p : Payment) (amountMinor refundId now : Nat) :
    Except CommerceError Payment :=
  if p.hasTransition (.refund refundId) then .ok p
  else do
    let newTotal := p.refundedAmountMinor + amountMinor
    Outcome.refuse
      [(amountMinor == 0, .value "Refund amount must be positive."),
        (p.amountMinor < newTotal, .value "Refund total cannot exceed the payment amount.")]
    validatePaymentTransition p.status (p.refundStatus newTotal)
    return p.refundedBy amountMinor refundId now

def validateInvoiceTotals (subtotalMinor discountMinor taxMinor totalMinor : Int) :
    Except CommerceError Unit :=
  Outcome.refuse
    [(min (min subtotalMinor discountMinor) (min taxMinor totalMinor) < 0,
        .value "Invoice amounts cannot be negative."),
      (totalMinor ≤ 0, .value "Invoice total must be positive."),
      (subtotalMinor - discountMinor + taxMinor ≠ totalMinor,
        .value "Invoice components do not equal the total.")]

def paidInvoice (p : Payment) (subscription : Subscription) (issuedAt : Nat) : Invoice :=
  { status := .paid
    totalMinor := p.amountMinor
    amountPaidMinor := p.amountMinor
    amountRefundedMinor := 0
    periodStartedAt := subscription.currentPeriodStartedAt
    periodEndsAt := subscription.currentPeriodEndsAt
    issuedAt := issuedAt
    revision := 1
    transitions := [⟨.payment, none, .paid, issuedAt⟩] }

def issuePaidInvoice (p : Payment) (subscription : Subscription) (now : Nat) :
    Except CommerceError Payment :=
  if p.status ≠ .succeeded then .error (.doesNotExist "Payment")
  else match p.invoice with
    | some _ => .ok p
    | none => do
      validateInvoiceTotals p.amountMinor 0 0 p.amountMinor
      return { p with invoice := some (paidInvoice p subscription (p.succeededAt.getD now)) }

def Invoice.hasReference (invoice : Invoice) (reference : InvoiceReference) : Bool :=
  invoice.transitions.any fun t => t.sourceReference == reference

def Invoice.refundedBy (invoice : Invoice) (refundId amountMinor now : Nat) : Invoice :=
  let newTotal := invoice.amountRefundedMinor + amountMinor
  let toStatus : InvoiceStatus :=
    if newTotal = invoice.amountPaidMinor then .refunded else .partiallyRefunded
  { invoice with
    amountRefundedMinor := newTotal
    status := toStatus
    revision := invoice.revision + 1
    transitions := invoice.transitions ++ [⟨.refund refundId, some invoice.status, toStatus, now⟩] }

def Invoice.refund (invoice : Invoice) (refundId amountMinor now : Nat) :
    Except CommerceError Invoice :=
  if amountMinor = 0 ∨ invoice.amountPaidMinor < invoice.amountRefundedMinor + amountMinor then
    .error (.value "Invoice refund amount is invalid.")
  else if invoice.hasReference (.refund refundId) then .ok invoice
  else .ok (invoice.refundedBy refundId amountMinor now)

def applyInvoiceRefund (p : Payment) (refundId amountMinor now : Nat) :
    Except CommerceError Payment :=
  match p.invoice with
  | none => .error (.doesNotExist "Invoice")
  | some invoice => do
    let invoice ← invoice.refund refundId amountMinor now
    return { p with invoice := some invoice }

def deliverRefund (p : Payment) (refundId amountMinor now : Nat) : Except CommerceError Payment := do
  let p ← applySuccessfulRefund p amountMinor refundId now
  applyInvoiceRefund p refundId amountMinor now

end LockIn.Commerce
