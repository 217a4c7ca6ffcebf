import LockIn.Commerce.Payments
import LockIn.Library.Delivery

/-!
# Refunds delivered to the two ledgers

A refund that succeeded is delivered to its payment and then to the invoice of the
payment, and a delivery may be repeated.  The payment recognises a repeat before it
checks the amount, the invoice after.  So the two ledgers agree on every run that is
accepted, and a run is accepted exactly when each repeat in it would still fit into
the balance once more.
-/

namespace LockIn.Commerce

open Delivery List Outcome

/-- A payment just received and invoiced, with nothing refunded. -/
structure Payment.Unrefunded (p : Payment) : Prop where
  status : p.status = .succeeded
  refunded : p.refundedAmountMinor = 0
  unseen : ∀ id, p.hasTransition (.refund id) = false
  invoice : ∃ invoice, p.invoice = some invoice ∧ invoice.amountPaidMinor = p.amountMinor ∧
    invoice.amountRefundedMinor = 0 ∧ ∀ id, invoice.hasReference (.refund id) = false

theorem hasTransition_record (p : Payment) (t : PaymentTransition) (key : PaymentTransitionKey) :
    (p.record t).hasTransition key = (p.hasTransition key || t.key == key) := by
  simp [Payment.hasTransition, Payment.record]

variable {refundId amountMinor : Nat}

theorem applySuccessfulRefund_repeat {p : Payment} (h : p.hasTransition (.refund refundId) = true)
    (amountMinor now : Nat) : applySuccessfulRefund p amountMinor refundId now = .ok p :=
  if_pos h

theorem applySuccessfulRefund_first {p : Payment}
    (hnew : p.hasTransition (.refund refundId) = false) (hpos : 0 < amountMinor)
    (hfits : p.refundedAmountMinor + amountMinor ≤ p.amountMinor) (hsettled : p.settled = true)
    (now : Nat) :
    applySuccessfulRefund p amountMinor refundId now =
      .ok (p.refundedBy amountMinor refundId now) := by
  have hallowed : p.refundStatus (p.refundedAmountMinor + amountMinor) ∈ p.status.allowedNext := by
    unfold Payment.refundStatus
    have hs : p.status = .succeeded ∨ p.status = .partiallyRefunded := by
      simpa [Payment.settled] using hsettled
    rcases hs with hs | hs <;> rw [hs] <;> split <;> decide
  have hbound : ¬p.amountMinor < p.refundedAmountMinor + amountMinor := by omega
  have hne : (amountMinor == 0) = false := by simpa using Nat.ne_of_gt hpos
  unfold applySuccessfulRefund
  simp [hnew, Outcome.refuse, hbound, hne, validatePaymentTransition, hallowed]

theorem invoice_refund_repeat {invoice : Invoice}
    (hseen : invoice.hasReference (.refund refundId) = true) (hpos : 0 < amountMinor)
    (hfits : invoice.amountRefundedMinor + amountMinor ≤ invoice.amountPaidMinor) (now : Nat) :
    invoice.refund refundId amountMinor now = .ok invoice := by
  unfold Invoice.refund
  rw [if_neg (by omega), if_pos hseen]

theorem invoice_refund_first {invoice : Invoice}
    (hnew : invoice.hasReference (.refund refundId) = false) (hpos : 0 < amountMinor)
    (hfits : invoice.amountRefundedMinor + amountMinor ≤ invoice.amountPaidMinor) (now : Nat) :
    invoice.refund refundId amountMinor now =
      .ok (invoice.refundedBy refundId amountMinor now) := by
  unfold Invoice.refund
  rw [if_neg (by omega), if_neg (by simp [hnew])]

theorem invoice_refund_over {invoice : Invoice}
    (h : invoice.amountPaidMinor < invoice.amountRefundedMinor + amountMinor) (now : Nat) :
    invoice.refund refundId amountMinor now =
      .error (.value "Invoice refund amount is invalid.") := by
  unfold Invoice.refund
  rw [if_pos (.inr h)]

/-- Both ledgers hold exactly the refunds in `seen`, and the payment can take more of
them until they add up to its amount. -/
structure Ledgers (amount : Nat → Nat) (limit : Nat) (p : Payment) (seen : List Nat) : Prop where
  amount_eq : p.amountMinor = limit
  refunded_eq : p.refundedAmountMinor = total amount seen
  seen_iff : ∀ id, p.hasTransition (.refund id) = true ↔ id ∈ seen
  settled : total amount seen < limit → p.settled = true
  invoiced : ∃ invoice, p.invoice = some invoice ∧ invoice.amountPaidMinor = limit ∧
    invoice.amountRefundedMinor = total amount seen ∧
      ∀ id, invoice.hasReference (.refund id) = true ↔ id ∈ seen

variable {amount : Nat → Nat} {limit : Nat} {p : Payment} {seen : List Nat} {id : Nat}

theorem Payment.Unrefunded.ledgers (h : p.Unrefunded) (amount : Nat → Nat) :
    Ledgers amount p.amountMinor p [] := by
  obtain ⟨invoice, hi, hpaid, hzero, hunseen⟩ := h.invoice
  exact ⟨rfl, h.refunded, fun id => by simp [h.unseen id],
    fun _ => by simp [Payment.settled, h.status],
    invoice, hi, hpaid, hzero, fun id => by simp [hunseen id]⟩

/-- Which refunds are held does not depend on how often they were delivered. -/
theorem Ledgers.again (h : Ledgers amount limit p seen) (hid : id ∈ seen) :
    Ledgers amount limit p (id :: seen) := by
  obtain ⟨invoice, hi, hpaid, hback, href⟩ := h.invoiced
  have hmem : ∀ other, other ∈ id :: seen ↔ other ∈ seen := by
    intro other
    rw [mem_cons]
    exact ⟨fun ho => ho.elim (fun e => e ▸ hid) fun hs => hs, .inr⟩
  have htotal : total amount (id :: seen) = total amount seen := total_cons_of_mem hid
  exact ⟨h.amount_eq, by rw [htotal, h.refunded_eq], fun other => by rw [hmem, h.seen_iff],
    by rw [htotal]; exact h.settled,
    invoice, hi, hpaid, by rw [htotal, hback], fun other => by rw [hmem, href]⟩

theorem Ledgers.deliver_first (h : Ledgers amount limit p seen) (hid : id ∉ seen)
    (hpos : 0 < amount id) (hfits : total amount seen + amount id ≤ limit) (now : Nat) :
    ∃ p', deliverRefund p id (amount id) now = .ok p' ∧ Ledgers amount limit p' (id :: seen) := by
  obtain ⟨invoice, hi, hpaid, hback, href⟩ := h.invoiced
  have hnew : p.hasTransition (.refund id) = false := by
    rw [Bool.eq_false_iff]
    exact fun hs => hid ((h.seen_iff id).mp hs)
  have hnewRef : invoice.hasReference (.refund id) = false := by
    rw [Bool.eq_false_iff]
    exact fun hs => hid ((href id).mp hs)
  have hpayment := applySuccessfulRefund_first hnew hpos
    (by rw [h.refunded_eq, h.amount_eq]; exact hfits) (h.settled (by omega)) now
  have hinvoice := invoice_refund_first hnewRef hpos (by rw [hback, hpaid]; exact hfits) now
  refine ⟨{ p.refundedBy (amount id) id now with
    invoice := some (invoice.refundedBy id (amount id) now) }, ?_, ?_⟩
  · have hi' : (p.refundedBy (amount id) id now).invoice = some invoice := hi
    unfold deliverRefund applyInvoiceRefund
    rw [hpayment, ok_bind]
    simp only [hi', hinvoice, ok_bind]
    rfl
  · have htotal : total amount (id :: seen) = total amount seen + amount id :=
      total_cons_of_notMem hid
    refine ⟨h.amount_eq, ?_, ?_, ?_, invoice.refundedBy id (amount id) now, rfl, hpaid, ?_, ?_⟩
    · rw [htotal, ← h.refunded_eq]
      rfl
    · intro other
      have hrec := hasTransition_record p
        ⟨.refund id, some p.status, p.refundStatus (p.refundedAmountMinor + amount id), now⟩
        (.refund other)
      have hsame : Payment.hasTransition { p.refundedBy (amount id) id now with
          invoice := some (invoice.refundedBy id (amount id) now) } (.refund other) =
            (p.hasTransition (.refund other) || (.refund id == PaymentTransitionKey.refund other)) :=
        hrec
      rw [hsame, Bool.or_eq_true, h.seen_iff other, beq_iff_eq, PaymentTransitionKey.refund.injEq,
        mem_cons, or_comm, @eq_comm _ id other]
    · intro hlt
      have hne : p.refundedAmountMinor + amount id ≠ p.amountMinor := by
        rw [h.refunded_eq, h.amount_eq]
        omega
      have hstatus : (p.refundedBy (amount id) id now).status = .partiallyRefunded := by
        simp only [Payment.refundedBy, Payment.record, Payment.refundStatus, if_neg hne]
      simp [Payment.settled, hstatus]
    · rw [htotal, ← hback]
      rfl
    · intro other
      have happend : (invoice.refundedBy id (amount id) now).hasReference (.refund other) =
          (invoice.hasReference (.refund other) || (.refund id == InvoiceReference.refund other)) := by
        simp [Invoice.hasReference, Invoice.refundedBy]
      rw [happend, Bool.or_eq_true, href other, beq_iff_eq, InvoiceReference.refund.injEq,
        mem_cons, or_comm, @eq_comm _ id other]

theorem Ledgers.deliver_repeat (h : Ledgers amount limit p seen) (hid : id ∈ seen)
    (hpos : 0 < amount id) (hfits : total amount seen + amount id ≤ limit) (now : Nat) :
    deliverRefund p id (amount id) now = .ok p := by
  obtain ⟨invoice, hi, hpaid, hback, href⟩ := h.invoiced
  have hpayment := applySuccessfulRefund_repeat ((h.seen_iff id).mpr hid) (amount id) now
  have hinvoice := invoice_refund_repeat ((href id).mpr hid) hpos
    (by rw [hback, hpaid]; exact hfits) now
  unfold deliverRefund applyInvoiceRefund
  rw [hpayment, ok_bind]
  simp only [hi, hinvoice, ok_bind]
  rw [← hi]
  rfl

/-- A repeat that would not fit once more is refused. -/
theorem Ledgers.deliver_over (h : Ledgers amount limit p seen) (hid : id ∈ seen)
    (hover : limit < total amount seen + amount id) (now : Nat) :
    deliverRefund p id (amount id) now =
      .error (.value "Invoice refund amount is invalid.") := by
  obtain ⟨invoice, hi, hpaid, hback, href⟩ := h.invoiced
  have hpayment := applySuccessfulRefund_repeat ((h.seen_iff id).mpr hid) (amount id) now
  have hinvoice : invoice.refund id (amount id) now =
      .error (.value "Invoice refund amount is invalid.") :=
    invoice_refund_over (by rw [hback, hpaid]; exact hover) now
  unfold deliverRefund applyInvoiceRefund
  rw [hpayment, ok_bind]
  simp only [hi, hinvoice, error_bind]

def deliverAll (amount : Nat → Nat) : Payment → List (Nat × Nat) → Except CommerceError Payment
  | p, [] => .ok p
  | p, (id, now) :: rest =>
    deliverRefund p id (amount id) now >>= fun p => deliverAll amount p rest

theorem Ledgers.deliverAll_ok (h : Ledgers amount limit p seen) (deliveries : List (Nat × Nat))
    (hpos : ∀ id ∈ deliveries.map Prod.fst, 0 < amount id)
    (htotal : total amount ((deliveries.map Prod.fst).reverse ++ seen) ≤ limit)
    (hfit : RepeatsFit amount limit seen (deliveries.map Prod.fst)) :
    ∃ p', deliverAll amount p deliveries = .ok p' ∧
      Ledgers amount limit p' ((deliveries.map Prod.fst).reverse ++ seen) := by
  induction deliveries generalizing p seen with
  | nil => exact ⟨p, rfl, h⟩
  | cons delivery rest ih =>
    obtain ⟨id, now⟩ := delivery
    simp only [map_cons, reverse_cons, append_assoc, cons_append,
      nil_append] at htotal hpos ⊢
    have hposId : 0 < amount id := hpos id (by simp)
    have hstep : ∃ next, deliverRefund p id (amount id) now = .ok next ∧
        Ledgers amount limit next (id :: seen) := by
      by_cases hid : id ∈ seen
      · exact ⟨p, h.deliver_repeat hid hposId (hfit.1 hid) now, h.again hid⟩
      · have hle : total amount (id :: seen) ≤ limit :=
          Nat.le_trans (total_mono fun i hi => by simp [mem_cons.mp hi]) htotal
        rw [total_cons_of_notMem hid] at hle
        exact h.deliver_first hid hposId hle now
    obtain ⟨next, hnext, hledgers⟩ := hstep
    obtain ⟨last, hlast, hdone⟩ := ih hledgers (fun i hi => hpos i (by simp [hi])) htotal hfit.2
    refine ⟨last, ?_, hdone⟩
    simp only [deliverAll, hnext, ok_bind, hlast]

theorem Ledgers.repeatsFit_of_ok (h : Ledgers amount limit p seen)
    (deliveries : List (Nat × Nat)) (hpos : ∀ id ∈ deliveries.map Prod.fst, 0 < amount id)
    (htotal : total amount ((deliveries.map Prod.fst).reverse ++ seen) ≤ limit) {p' : Payment}
    (hok : deliverAll amount p deliveries = .ok p') :
    RepeatsFit amount limit seen (deliveries.map Prod.fst) := by
  induction deliveries generalizing p seen with
  | nil => trivial
  | cons delivery rest ih =>
    obtain ⟨id, now⟩ := delivery
    simp only [map_cons, reverse_cons, append_assoc, cons_append,
      nil_append] at htotal hpos ⊢
    have hposId : 0 < amount id := hpos id (by simp)
    obtain ⟨next, hnext, hrest⟩ := bind_eq_ok.mp hok
    have hposRest : ∀ i ∈ rest.map Prod.fst, 0 < amount i := fun i hi => hpos i (by simp [hi])
    by_cases hid : id ∈ seen
    · by_cases hfits : total amount seen + amount id ≤ limit
      · rw [h.deliver_repeat hid hposId hfits now] at hnext
        cases hnext
        exact ⟨fun _ => hfits, ih (h.again hid) hposRest htotal hrest⟩
      · rw [h.deliver_over hid (by omega) now] at hnext
        simp at hnext
    · have hle : total amount (id :: seen) ≤ limit :=
        Nat.le_trans (total_mono fun i hi => by simp [mem_cons.mp hi]) htotal
      rw [total_cons_of_notMem hid] at hle
      obtain ⟨p₁, hp₁, hledgers⟩ := h.deliver_first hid hposId hle now
      rw [hp₁] at hnext
      cases hnext
      exact ⟨fun hs => absurd hs hid, ih hledgers hposRest htotal hrest⟩

/-- Refund application is exactly-once over a run of deliveries: nothing raises, both
ledgers hold the sum of the distinct refunds, and a refund delivered again changes
nothing. -/
structure ExactlyOnce (amount : Nat → Nat) (p : Payment) (deliveries : List (Nat × Nat)) :
    Prop where
  accepted : ∃ p', deliverAll amount p deliveries = .ok p' ∧
    p'.refundedAmountMinor = total amount (deliveries.map Prod.fst) ∧
    p'.invoice.map (·.amountRefundedMinor) = some (total amount (deliveries.map Prod.fst))
  repeats : ∀ first id now rest, deliveries = first ++ (id, now) :: rest →
    id ∈ first.map Prod.fst → ∀ p', deliverAll amount p first = .ok p' →
      deliverRefund p' id (amount id) now = .ok p'

/-- Refunds of a payment, their total within its amount, are applied exactly once if and
only if each repeat still fits into the balance once more. -/
theorem exactlyOnce_iff_repeatsFit (amount : Nat → Nat) (p : Payment) (hp : p.Unrefunded)
    (deliveries : List (Nat × Nat)) (hpos : ∀ id ∈ deliveries.map Prod.fst, 0 < amount id)
    (htotal : total amount (deliveries.map Prod.fst) ≤ p.amountMinor) :
    ExactlyOnce amount p deliveries ↔
      RepeatsFit amount p.amountMinor [] (deliveries.map Prod.fst) := by
  have hledgers := hp.ledgers amount
  have htotal' : total amount ((deliveries.map Prod.fst).reverse ++ []) ≤ p.amountMinor := by
    rw [append_nil, total_reverse]
    exact htotal
  constructor
  · intro h
    obtain ⟨p', hok, _⟩ := h.accepted
    exact hledgers.repeatsFit_of_ok deliveries hpos htotal' hok
  · intro hfit
    refine ⟨?_, ?_⟩
    · obtain ⟨p', hok, hdone⟩ := hledgers.deliverAll_ok deliveries hpos htotal' hfit
      rw [append_nil] at hdone
      obtain ⟨invoice, hi, _, hback, _⟩ := hdone.invoiced
      refine ⟨p', hok, by rw [hdone.refunded_eq, total_reverse], ?_⟩
      rw [hi, Option.map_some, hback, total_reverse]
    · rintro first id now rest rfl hid p' hok
      rw [map_append, map_cons] at hfit hpos htotal'
      have hsplit := repeatsFit_append.mp hfit
      have hle : total amount ((first.map Prod.fst).reverse ++ []) ≤ p.amountMinor := by
        refine Nat.le_trans (total_mono fun i hi => ?_) htotal'
        simp only [append_nil, mem_reverse] at hi
        simp [hi]
      obtain ⟨p₁, hok₁, hdone⟩ := hledgers.deliverAll_ok first
        (fun i hi => hpos i (by simp [hi])) hle hsplit.1
      rw [hok] at hok₁
      cases hok₁
      have hseen : id ∈ (first.map Prod.fst).reverse ++ [] := by simpa using hid
      exact hdone.deliver_repeat hseen (hpos id (by simp)) (hsplit.2.1 hseen) now

theorem invoicedPayment_amount_pos : 0 < 25000 := by decide

def invoicedPayment : Payment :=
  { id := 5, price := thirtyDays rollingVersion, amountMinor := 25000, currency := "LYD"
    refundedAmountMinor := 0, method := .libyana, status := .succeeded
    idempotencyKey := "purchase-000001", policyVersion := userPolicyVersion, failureCode := ""
    initiatedAt := 0, succeededAt := some 1, failedAt := none, agreementId := none
    installmentNumber := none, revision := 3, createdAt := 0, transitions := []
    manualSubmission := none, refunds := []
    invoice := some
      { status := .paid, totalMinor := 25000, amountPaidMinor := 25000, amountRefundedMinor := 0
        periodStartedAt := none, periodEndsAt := none, issuedAt := 1, revision := 1
        transitions := [⟨.payment, none, .paid, 1⟩] }
    amount_pos := invoicedPayment_amount_pos }

theorem invoicedPayment_unrefunded : invoicedPayment.Unrefunded :=
  ⟨rfl, rfl, fun _ => rfl, _, rfl, rfl, rfl, fun _ => rfl⟩

/-- A full refund delivered twice raises the second time. -/
theorem redelivered_full_refund_raises :
    ¬∀ (amount : Nat → Nat) (p : Payment) (deliveries : List (Nat × Nat)), p.Unrefunded →
      (∀ id ∈ deliveries.map Prod.fst, 0 < amount id) →
      total amount (deliveries.map Prod.fst) ≤ p.amountMinor → ExactlyOnce amount p deliveries := by
  intro h
  obtain ⟨p', hok, _⟩ := (h (fun _ => 25000) invoicedPayment [(7, 2), (7, 3)]
    invoicedPayment_unrefunded (by decide) (by decide)).accepted
  have hraise : deliverAll (fun _ => 25000) invoicedPayment [(7, 2), (7, 3)] =
      .error (.value "Invoice refund amount is invalid.") := rfl
  rw [hraise] at hok
  simp at hok

/-- Two small refunds, the first delivered again after the second. -/
theorem small_refunds_exactlyOnce :
    ExactlyOnce (fun id => 1000 * id) invoicedPayment [(1, 2), (2, 3), (1, 4)] ↔
      RepeatsFit (fun id => 1000 * id) 25000 [] [1, 2, 1] :=
  exactlyOnce_iff_repeatsFit (fun id => 1000 * id) invoicedPayment invoicedPayment_unrefunded
    [(1, 2), (2, 3), (1, 4)] (by decide) (by decide)

end LockIn.Commerce
