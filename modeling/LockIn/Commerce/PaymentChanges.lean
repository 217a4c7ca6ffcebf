import LockIn.Commerce.AdminSpec
import LockIn.Commerce.PurchaseSpec
import LockIn.Commerce.System

/-!
# The changes of a payment's status

Five services write the status of a payment.  Those that report money check the
transition graph; the review of a card writes what its decision calls for, whatever the
status was.  The changes of a run stay on the graph when each review finds its payment
as it left it, or already where the review takes it.
-/

namespace LockIn.Commerce

open List Outcome Table

structure StatusChange where
  paymentId : Nat
  fromStatus : PaymentStatus
  toStatus : PaymentStatus

def StatusChange.Allowed (change : StatusChange) : Prop :=
  change.toStatus ∈ change.fromStatus.allowedNext

instance (change : StatusChange) : Decidable change.Allowed :=
  inferInstanceAs (Decidable (_ ∈ _))

/-- The change of a payment, which is `initiated` before it is there. -/
def statusChange (before : Account) (p : Payment) : Option StatusChange :=
  let fromStatus := ((before.payment? p.id).map Payment.status).getD .initiated
  if p.status = fromStatus then none else some ⟨p.id, fromStatus, p.status⟩

def statusChanges (before after : Account) : List StatusChange :=
  after.payments.filterMap (statusChange before)

def Payment.RefundedInFull (p : Payment) : Prop :=
  p.status = .refunded ↔ p.refundedAmountMinor = p.amountMinor

/-- What is kept of the ledger of a payment: besides the above, money that went back
shows in the status. -/
structure Payment.LedgerMatches (p : Payment) : Prop where
  full : p.RefundedInFull
  shows : 0 < p.refundedAmountMinor → p.status = .partiallyRefunded ∨ p.status = .refunded

variable {p q : Payment} {effectiveAt now : Nat} {account result : Account}
  {service : Payment → Except CommerceError Payment}

theorem Payment.LedgerMatches.move (h : p.LedgerMatches) (hamount : q.amountMinor = p.amountMinor)
    (hrefunded : q.refundedAmountMinor = p.refundedAmountMinor)
    (hstatus : q.status ∈ p.status.allowedNext) (hne : q.status ≠ .refunded) : q.LedgerMatches := by
  have hopen : p.status ≠ .refunded := by
    intro hp
    rw [hp] at hstatus
    exact absurd hstatus (by simp [PaymentStatus.allowedNext])
  refine ⟨⟨fun hq => absurd hq hne, fun hfull => ?_⟩, fun hpos => ?_⟩
  · rw [hamount, hrefunded] at hfull
    exact absurd (h.full.mpr hfull) hopen
  · rw [hrefunded] at hpos
    rcases h.shows hpos with hp | hp
    · rw [hp] at hstatus
      simpa [PaymentStatus.allowedNext] using hstatus
    · exact absurd hp hopen

/-- Money that has not gone back leaves the amount free to be corrected. -/
theorem Payment.LedgerMatches.unrefunded (hzero : q.refundedAmountMinor = 0)
    (hne : q.status ≠ .refunded) : q.LedgerMatches := by
  have hpos := q.amount_pos
  exact ⟨⟨fun hq => absurd hq hne, fun hfull => by omega⟩, fun h => by omega⟩

/-- One step of a payment: at most one change of status, along the graph. -/
structure Payment.Moves (p q : Payment) : Prop where
  id : q.id = p.id
  status : q.status = p.status ∨ q.status ∈ p.status.allowedNext
  ledger : p.LedgerMatches → q.LedgerMatches

theorem validatePaymentTransition_ok {fromStatus toStatus : PaymentStatus}
    (h : validatePaymentTransition fromStatus toStatus = .ok ()) :
    toStatus ∈ fromStatus.allowedNext := by
  unfold validatePaymentTransition at h
  by_contra hn
  rw [if_neg hn] at h
  simp at h

/-- Whether the provider's report on a payment would be applied rather than recognised as
repeated or out of order. -/
def Payment.reportApplies (p : Payment) (effectiveAt providerEventId : Nat) : Bool :=
  !p.hasTransition (.providerEvent providerEventId) &&
    !p.latestEffectiveAt.any (effectiveAt < ·)

theorem applyProviderPaymentState_moves {toStatus : PaymentStatus} {amountMinor : Int}
    {currency failureCode : String} {providerEventId : Nat} {result : PaymentTransitionResult}
    (hreport : p.reportApplies effectiveAt providerEventId = true → toStatus ≠ .refunded)
    (h : applyProviderPaymentState p toStatus amountMinor currency effectiveAt providerEventId
      failureCode = .ok result) : p.Moves result.payment := by
  unfold applyProviderPaymentState at h
  by_cases hseen : p.hasTransition (.providerEvent providerEventId) = true
  · rw [if_pos hseen] at h
    cases h
    exact ⟨rfl, .inl rfl, id⟩
  · rw [if_neg hseen] at h
    split at h
    · simp at h
    · by_cases hlate : p.latestEffectiveAt.any (effectiveAt < ·) = true
      · rw [if_pos hlate] at h
        cases h
        exact ⟨rfl, .inl rfl, fun hp => ⟨hp.full, hp.shows⟩⟩
      · rw [if_neg hlate] at h
        obtain ⟨_, hvalid, h⟩ := bind_eq_ok.mp h
        cases h
        have hallowed := validatePaymentTransition_ok hvalid
        have hne := hreport (by simp [Payment.reportApplies, hseen, hlate])
        exact ⟨rfl, .inr hallowed, fun hp => hp.move rfl rfl hallowed hne⟩

theorem applyAdminReconciledPaymentState_moves {toStatus : PaymentStatus} {reference : String}
    {correctionId : Nat} {result : PaymentTransitionResult}
    (hcorrectable : toStatus.correctable = true)
    (h : applyAdminReconciledPaymentState p toStatus reference correctionId effectiveAt =
      .ok result) : p.Moves result.payment := by
  unfold applyAdminReconciledPaymentState at h
  split at h
  · cases h
    exact ⟨rfl, .inl rfl, id⟩
  · obtain ⟨_, _, h⟩ := bind_eq_ok.mp h
    obtain ⟨_, hvalid, h⟩ := bind_eq_ok.mp h
    cases h
    have hallowed := validatePaymentTransition_ok hvalid
    have hne : toStatus ≠ .refunded := by
      rintro rfl
      exact absurd hcorrectable (by decide)
    exact ⟨rfl, .inr hallowed, fun hp => hp.move rfl rfl hallowed hne⟩

theorem applySuccessfulRefund_moves {amountMinor refundId : Nat}
    (h : applySuccessfulRefund p amountMinor refundId now = .ok q) : p.Moves q := by
  unfold applySuccessfulRefund at h
  split at h
  · cases h
    exact ⟨rfl, .inl rfl, id⟩
  · obtain ⟨_, hchecks, h⟩ := bind_eq_ok.mp h
    obtain ⟨_, hvalid, h⟩ := bind_eq_ok.mp h
    cases h
    refine ⟨rfl, .inr (validatePaymentTransition_ok hvalid), fun _ => ?_⟩
    have hstatus : (p.refundedBy amountMinor refundId now).status =
        if p.refundedAmountMinor + amountMinor = p.amountMinor then .refunded
        else .partiallyRefunded := rfl
    by_cases hfull : p.refundedAmountMinor + amountMinor = p.amountMinor
    · rw [if_pos hfull] at hstatus
      exact ⟨⟨fun _ => hfull, fun _ => hstatus⟩, fun _ => .inr hstatus⟩
    · rw [if_neg hfull] at hstatus
      refine ⟨⟨fun hq => ?_, fun hq => absurd hq hfull⟩, fun _ => .inl hstatus⟩
      rw [hstatus] at hq
      simp at hq

def Payment.awaitsReview (p : Payment) (r : Review) : Bool :=
  (p.manualSubmission.any fun submission => submission.status == .pending) &&
    !p.hasTransition (.manualReview r.idempotencyKey)

/-- The payment is still pending, or a report of the money has already taken it where the
review takes it. -/
def Payment.meetsReview (p : Payment) (r : Review) : Bool :=
  p.status == .pending ||
    (p.status == .succeeded && (r.decision == .approve || decide (0 < r.collectedAmountMinor))) ||
    (p.status == .failed && r.decision == .reject && decide (r.collectedAmountMinor ≤ 0))

theorem Payment.reviewed_moves {r : Review} {after : ManualRechargeSubmission}
    (hmeets : p.meetsReview r = true) : p.Moves (p.reviewed r after now) := by
  have hstatus : (p.reviewed r after now).status = r.paymentStatus := rfl
  have hrefunded : (p.reviewed r after now).refundedAmountMinor = p.refundedAmountMinor := by
    unfold Payment.reviewed Payment.collected
    split
    · rfl
    · rfl
  have hid : (p.reviewed r after now).id = p.id := by
    unfold Payment.reviewed Payment.collected
    split
    · rfl
    · rfl
  have hne : r.paymentStatus ≠ .refunded := by
    unfold Review.paymentStatus
    split
    · simp
    · simp
  have hmoves : (r.paymentStatus = p.status ∨ r.paymentStatus ∈ p.status.allowedNext) ∧
      p.status ≠ .partiallyRefunded ∧ p.status ≠ .refunded := by
    simp only [Payment.meetsReview, Bool.or_eq_true, Bool.and_eq_true, beq_iff_eq,
      decide_eq_true_eq] at hmeets
    rcases hmeets with (hpending | ⟨hsucceeded, hmoney⟩) | ⟨⟨hfailed, hreject⟩, hnone⟩
    · rw [hpending]
      refine ⟨.inr ?_, by simp, by simp⟩
      unfold Review.paymentStatus
      split
      · simp [PaymentStatus.allowedNext]
      · simp [PaymentStatus.allowedNext]
    · rw [hsucceeded]
      exact ⟨.inl (if_pos hmoney), by simp, by simp⟩
    · rw [hfailed]
      refine ⟨.inl (if_neg ?_), by simp, by simp⟩
      rintro (happrove | hmoney)
      · rw [hreject] at happrove
        simp at happrove
      · omega
  obtain ⟨hedge, hpartial, hfull⟩ := hmoves
  refine ⟨hid, by rw [hstatus]; exact hedge, fun hp => ?_⟩
  have hzero : p.refundedAmountMinor = 0 := by
    by_contra hpos
    rcases hp.shows (Nat.pos_of_ne_zero hpos) with h | h
    · exact hpartial h
    · exact hfull h
  exact .unrefunded (hrefunded.trans hzero) (by rw [hstatus]; exact hne)

structure PaymentBooks (account : Account) : Prop where
  ids : PaymentIds account
  ledger : ∀ p ∈ account.payments, p.LedgerMatches
  corrections : ∀ c ∈ account.corrections, c.requestedStatus.correctable = true

/-- One call leaves the payments alone, adds one, or moves one. -/
inductive PaymentsStep (a b : Account) : Prop
  | same (hp : b.payments = a.payments) (hid : a.nextId ≤ b.nextId)
  | added (p : Payment) (hp : b.payments = a.payments ++ [p]) (hid : p.id = a.nextId)
      (hlt : a.nextId < b.nextId) (hstatus : p.status = .initiated ∨ p.status = .pending)
      (hzero : p.refundedAmountMinor = 0)
  | moved (p q : Payment) (hmem : p ∈ a.payments) (hmoves : p.Moves q)
      (hp : b.payments = Table.put Payment.id a.payments q) (hid : a.nextId ≤ b.nextId)

theorem PaymentsStep.of_sameBooks {a b : Account} (h : SameBooks a b) : PaymentsStep a b :=
  .same h.payments (Nat.le_of_eq h.nextId.symm)

theorem statusChange_same (hids : PaymentIds account) (hp : p ∈ account.payments)
    (hid : q.id = p.id) (hstatus : q.status = p.status) : statusChange account q = none := by
  unfold statusChange Account.payment?
  rw [hid, hids.distinct.find hp]
  exact if_pos hstatus

theorem PaymentsStep.ids {a b : Account} (h : PaymentIds a) (hs : PaymentsStep a b) :
    PaymentIds b := by
  cases hs with
  | same hp hid => exact ⟨by rw [hp]; exact h.distinct,
      fun p hmem => Nat.lt_of_lt_of_le (h.fresh p (hp ▸ hmem)) hid⟩
  | added p hp hid hlt _ _ =>
    refine ⟨?_, fun x hx => ?_⟩
    · rw [hp]
      exact h.distinct.append fun x hx => by rw [hid]; exact h.ne_nextId x hx
    · rw [hp] at hx
      rcases mem_append.mp hx with hx | hx
      · exact Nat.lt_trans (h.fresh x hx) hlt
      · obtain rfl : x = p := by simpa using hx
        omega
  | moved p q hmem hmoves hp hid =>
    refine ⟨by rw [hp]; exact h.distinct.put q, fun x hx => ?_⟩
    rw [hp] at hx
    rcases mem_of_mem_put hx with rfl | hx
    · rw [hmoves.id]
      exact Nat.lt_of_lt_of_le (h.fresh p hmem) hid
    · exact Nat.lt_of_lt_of_le (h.fresh x hx) hid

theorem PaymentsStep.ledger {a b : Account} (h : ∀ p ∈ a.payments, p.LedgerMatches)
    (hs : PaymentsStep a b) : ∀ p ∈ b.payments, p.LedgerMatches := by
  intro x hx
  cases hs with
  | same hp _ =>
    rw [hp] at hx
    exact h x hx
  | added p hp _ _ hstatus hzero =>
    rw [hp] at hx
    rcases mem_append.mp hx with hx | hx
    · exact h x hx
    · obtain rfl : x = p := by simpa using hx
      refine .unrefunded hzero ?_
      rcases hstatus with hs | hs
      · simp [hs]
      · simp [hs]
  | moved p q hmem hmoves hp _ =>
    rw [hp] at hx
    rcases mem_of_mem_put hx with rfl | hx
    · exact hmoves.ledger (h p hmem)
    · exact h x hx

theorem PaymentsStep.changes {a b : Account} (h : PaymentIds a) (hs : PaymentsStep a b) :
    ∀ change ∈ statusChanges a b, change.Allowed := by
  intro change hchange
  obtain ⟨x, hx, hstep⟩ := mem_filterMap.mp hchange
  have hold : ∀ y ∈ a.payments, statusChange a y = none :=
    fun y hy => statusChange_same h hy rfl rfl
  cases hs with
  | same hp _ =>
    rw [hp] at hx
    exact absurd (hstep.symm.trans (hold x hx)) (by simp)
  | added p hp hid _ hstatus _ =>
    rw [hp] at hx
    rcases mem_append.mp hx with hx | hx
    · exact absurd (hstep.symm.trans (hold x hx)) (by simp)
    · obtain rfl : x = p := by simpa using hx
      have hnew : a.payment? x.id = none := by
        rw [hid]
        exact find_eq_none.mpr h.ne_nextId
      unfold statusChange at hstep
      rw [hnew] at hstep
      rcases hstatus with hs | hs
      · simp [hs] at hstep
      · simp only [hs, Option.map_none, Option.getD_none, reduceCtorEq, if_false] at hstep
        cases hstep
        simp [StatusChange.Allowed, PaymentStatus.allowedNext]
  | moved p q hmem hmoves hp _ =>
    rw [hp] at hx
    rcases mem_of_mem_put hx with rfl | hx
    · rcases hmoves.status with hs | hs
      · exact absurd (hstep.symm.trans (statusChange_same h hmem hmoves.id hs)) (by simp)
      · unfold statusChange at hstep
        rw [hmoves.id, show a.payment? p.id = some p from h.distinct.find hmem] at hstep
        simp only [Option.map_some, Option.getD_some] at hstep
        split at hstep
        · simp at hstep
        · cases hstep
          exact hs
    · exact absurd (hstep.symm.trans (hold x hx)) (by simp)

/-- The calls that write payments, and those that make or move a subscription. -/
def Command.isPaymentWork : Command → Bool
  | .requestRefund .. | .markRefundPending .. | .applyProviderRefundState .. | .createClaim ..
  | .reviewClaim .. => false
  | _ => true

/-- A review meets its payment, and the provider reports no refund as a status. -/
def StatusFits (account : Account) (call : Call) : Prop :=
  match call.command with
  | .reviewManualRecharge paymentId r =>
    (account.payment? paymentId).all (fun p => !p.awaitsReview r || p.meetsReview r) = true
  | .applyProviderPaymentState paymentId toStatus _ _ effectiveAt providerEventId _ =>
    (account.payment? paymentId).all (fun p =>
      !p.reportApplies effectiveAt providerEventId || toStatus != .refunded) = true
  | _ => True

instance (account : Account) (call : Call) : Decidable (StatusFits account call) := by
  unfold StatusFits
  split <;> infer_instance

theorem onPayment_ok {paymentId : Nat} (h : onPayment account paymentId service = .ok result) :
    ∃ p q, account.payment? paymentId = some p ∧ service p = .ok q ∧
      result = account.putPayment q := by
  unfold onPayment at h
  cases hp : account.payment? paymentId with
  | none => rw [hp] at h; simp at h
  | some p =>
    simp only [hp] at h
    obtain ⟨q, hq, h⟩ := bind_eq_ok.mp h
    exact ⟨p, q, rfl, hq, (Except.ok.inj h).symm⟩

theorem Reviewed.step {account decided result : Account} {paymentId : Nat} {r : Review} {now : Nat}
    {p : Payment} {s : Subscription} {submission after : ManualRechargeSubmission}
    (h : Reviewed account paymentId r now p s submission decided after result)
    (hmeets : p.meetsReview r = true) :
    PaymentsStep account result ∧ result.corrections = account.corrections := by
  have hp : p ∈ account.payments := find_mem h.found
  have hmoves : p.Moves (p.reviewed r after now) := Payment.reviewed_moves hmeets
  have hdecided := decideSubscription_frame h.decides
  obtain ⟨_, settled, hsettled, hresult⟩ := settleReview_ok h.settles
  have hbooks : SameBooks (decided.reviewRecorded p r after now) settled := by
    rcases hsettled with ⟨_, rfl⟩ | ⟨_, hrefreshed⟩
    · exact SameBooks.refl _
    · exact (cancelRefusedAgreement_frame _ _ _ _).trans (refreshSubscription_frame hrefreshed)
  have hwritten : settled.payments = Table.put Payment.id account.payments (p.reviewed r after now) := by
    rw [hbooks.payments]
    show Table.put Payment.id decided.payments _ = _
    rw [hdecided.payments]
  have hcorrections : settled.corrections = account.corrections :=
    hbooks.corrections.trans hdecided.corrections
  have hnext : settled.nextId = account.nextId := hbooks.nextId.trans hdecided.nextId
  rcases hresult with rfl | ⟨q, invoice, hq, rfl⟩
  · exact ⟨.moved p _ hp hmoves hwritten (Nat.le_of_eq hnext.symm), hcorrections⟩
  · refine ⟨.moved p { q with invoice := invoice } hp ?_ ?_ (Nat.le_of_eq hnext.symm), hcorrections⟩
    · have hfound : settled.payment? p.id = some (p.reviewed r after now) := by
        unfold Account.payment?
        rw [hwritten, ← hmoves.id]
        have hold : Table.find Payment.id account.payments (p.reviewed r after now).id = some p := by
          rw [hmoves.id, find_key h.found]
          exact h.found
        exact find_put_self hold
      rw [hq] at hfound
      cases hfound
      exact ⟨hmoves.id, hmoves.status, fun hp => ⟨(hmoves.ledger hp).full, (hmoves.ledger hp).shows⟩⟩
    · show Table.put Payment.id settled.payments _ = _
      rw [hwritten]
      refine put_put ?_
      show (p.reviewed r after now).id = q.id
      rw [hmoves.id, find_key hq]

theorem createPayment_step {user : User} {price : Price} {key : String} {amount : Option Nat}
    {result : Account × Payment × Bool}
    (h : createPayment account user price key amount now = .ok result) :
    PaymentsStep account result.1 ∧ result.1.corrections = account.corrections := by
  rcases createPayment_ok h with ⟨_, _, rfl⟩ | ⟨_, hpos, rfl⟩
  · exact ⟨.same rfl (Nat.le_refl _), rfl⟩
  · exact ⟨.added _ rfl rfl (Nat.lt_succ_self _) (.inl rfl) rfl, rfl⟩

theorem Submitted.step {account opened reconciled result : Account} {user : User} {price : Price}
    {key : String} {pay : Bool} {now : Nat} {first s : Subscription} {window : Nat × Nat}
    {p : Payment}
    (h : Submitted account user price key pay now opened reconciled first s window p result) :
    PaymentsStep account result ∧ result.corrections = account.corrections := by
  have hbooks := h.sameBooks
  obtain ⟨_, _, _, _, _, hrow, _⟩ := h.purchased.row
  refine ⟨.added p ?_ ?_ ?_ (.inr (by rw [hrow]; rfl)) (by rw [hrow]; rfl), ?_⟩
  · rw [h.purchased.payments, hbooks.payments]
  · rw [h.purchased.id, hbooks.nextId]
  · rw [← hbooks.nextId]
    exact h.purchased.nextId_lt
  · rw [h.purchased.corrections, hbooks.corrections]

theorem InstallmentPaid.step {account reconciled paid result : Account} {s : Subscription}
    {user : User} {agreement : InstallmentAgreement} {now : Nat} {p : Payment}
    (hbooks : SameBooks account reconciled)
    (h : InstallmentPaid reconciled s user agreement now p paid) (hafter : SameBooks paid result) :
    PaymentsStep account result ∧ result.corrections = account.corrections := by
  obtain ⟨_, _, _, _, _, hrow⟩ := h.row
  have hpaid := h.paid
  refine ⟨.added p ?_ ?_ ?_ (.inr (by rw [hrow]; rfl)) (by rw [hrow]; rfl), ?_⟩
  · rw [hafter.payments, hpaid]
    show reconciled.payments ++ [p] = _
    rw [hbooks.payments]
  · rw [h.id, hbooks.nextId]
  · rw [hafter.nextId, hpaid]
    show account.nextId < reconciled.nextId + 1
    rw [hbooks.nextId]
    exact Nat.lt_succ_self _
  · rw [hafter.corrections, hpaid]
    exact hbooks.corrections

theorem onPayment_step {paymentId : Nat}
    (hservice : ∀ p q, account.payment? paymentId = some p → service p = .ok q → p.Moves q)
    (h : onPayment account paymentId service = .ok result) :
    PaymentsStep account result ∧ result.corrections = account.corrections := by
  obtain ⟨p, q, hp, hq, rfl⟩ := onPayment_ok h
  exact ⟨.moved p q (find_mem hp) (hservice p q hp hq) rfl (Nat.le_refl _), rfl⟩

theorem reviewCorrection_step {r : CorrectionReview}
    (hc : ∀ c ∈ account.corrections, c.requestedStatus.correctable = true)
    (h : reviewPaymentStatusCorrection account r now = .ok result) :
    PaymentsStep account result ∧ ∀ c ∈ result.corrections, c.requestedStatus.correctable = true := by
  rcases reviewPaymentStatusCorrection_ok h with rfl | ⟨correction, decided, hmem, hsame, applied,
    happlied, rfl⟩
  · exact ⟨.same rfl (Nat.le_refl _), hc⟩
  · refine ⟨?_, fun c hcmem => ?_⟩
    · rcases happlied with rfl | happlied
      · exact .same rfl (Nat.le_refl _)
      · unfold applyCorrection at happlied
        cases hp : account.payment? correction.paymentId with
        | none => rw [hp] at happlied; simp at happlied
        | some p =>
          simp only [hp] at happlied
          obtain ⟨moved, hmoved, happlied⟩ := bind_eq_ok.mp happlied
          cases happlied
          exact .moved p moved.payment (find_mem hp)
            (applyAdminReconciledPaymentState_moves (hc _ hmem) hmoved) rfl (Nat.le_refl _)
    · rcases mem_of_mem_put hcmem with rfl | hcmem
      · rw [hsame]
        exact hc _ hmem
      · exact hc c hcmem

theorem PaymentBooks.call {call : Call} (h : PaymentBooks account)
    (hwork : call.command.isPaymentWork = true) (hfits : StatusFits account call)
    (hok : call.execute account = .ok result) :
    PaymentsStep account result ∧ ∀ c ∈ result.corrections, c.requestedStatus.correctable = true := by
  have keep : ∀ {b : Account}, PaymentsStep account b ∧ b.corrections = account.corrections →
      PaymentsStep account b ∧ ∀ c ∈ b.corrections, c.requestedStatus.correctable = true :=
    fun ⟨hstep, hsame⟩ => ⟨hstep, by rw [hsame]; exact h.corrections⟩
  have idle : ∀ {b : Account}, SameBooks account b →
      PaymentsStep account b ∧ ∀ c ∈ b.corrections, c.requestedStatus.correctable = true :=
    fun hbooks => keep ⟨.of_sameBooks hbooks, hbooks.corrections⟩
  unfold StatusFits at hfits
  unfold Call.execute at hok
  cases hc : call.command with
  | createTrialForUser startedAt =>
    simp only [hc] at hok
    obtain ⟨_, htrial, rfl⟩ := map_eq_ok.mp hok
    exact idle (createTrialForUser_frame htrial).1
  | submitManualRecharge price codes key pay =>
    simp only [hc] at hok
    obtain ⟨_, hsubmit, rfl⟩ := map_eq_ok.mp hok
    rcases submitManualRecharge_ok h.ids hsubmit with ⟨_, hsame⟩ | ⟨_, _, _, _, _, _, _, hnew⟩
    · rw [hsame]
      exact idle (SameBooks.refl _)
    · exact keep hnew.step
  | submitInstallmentPayment agreementId codes key =>
    simp only [hc] at hok
    obtain ⟨_, hsubmit, rfl⟩ := map_eq_ok.mp hok
    rcases submitInstallmentPayment_ok h.ids hsubmit with hsame | ⟨_, _, _, _, _, _, _, _,
      hreconciled, _, hpaid, hrefreshed⟩
    · rw [hsame]
      exact idle (SameBooks.refl _)
    · exact keep (hpaid.step (refreshSubscription_frame hreconciled)
        (refreshSubscription_frame hrefreshed))
  | reviewManualRecharge paymentId r =>
    simp only [hc] at hok hfits
    obtain ⟨result, hreview, rfl⟩ := map_eq_ok.mp hok
    rcases reviewManualRecharge_ok hreview with hsame | ⟨p, s, submission, decided, after, hnew⟩
    · rw [hsame]
      exact idle (SameBooks.refl _)
    · rw [hnew.found] at hfits
      have hawaits : p.awaitsReview r = true := by
        simp [Payment.awaitsReview, hnew.submitted, hnew.pending, hnew.new]
      exact keep (hnew.step (by simpa [hawaits] using hfits))
  | scheduleCancellation =>
    simp only [hc] at hok
    exact idle (scheduleCancellation_frame hok).1
  | refreshSubscription =>
    simp only [hc] at hok
    exact idle (refreshSubscription_frame hok)
  | manageSubscription change =>
    simp only [hc] at hok
    obtain ⟨⟨events, hbooks⟩, _⟩ := manageSubscription_frame hok
    exact keep ⟨.same hbooks.payments (Nat.le_of_eq hbooks.nextId.symm), hbooks.corrections⟩
  | createPayment price key amount =>
    simp only [hc] at hok
    obtain ⟨_, hcreated, rfl⟩ := map_eq_ok.mp hok
    exact keep (createPayment_step hcreated)
  | applyProviderPaymentState paymentId toStatus amount currency effectiveAt eventId failure =>
    simp only [hc] at hok hfits
    refine keep (onPayment_step (fun p q hp hq => ?_) hok)
    obtain ⟨moved, hmoved, rfl⟩ := map_eq_ok.mp hq
    rw [hp] at hfits
    exact applyProviderPaymentState_moves (fun happlies => by simpa [happlies] using hfits) hmoved
  | requestCorrection r =>
    simp only [hc] at hok
    rcases requestPaymentStatusCorrection_ok hok with rfl | ⟨correction, hcorrectable, rfl⟩
    · exact idle (SameBooks.refl _)
    · refine ⟨.same rfl (Nat.le_succ _), fun c hcmem => ?_⟩
      rcases mem_append.mp hcmem with hcmem | hcmem
      · exact h.corrections c hcmem
      · obtain rfl : c = correction := by simpa using hcmem
        exact hcorrectable
  | reviewCorrection r =>
    simp only [hc] at hok
    exact reviewCorrection_step h.corrections hok
  | applySuccessfulRefund paymentId amount refundId =>
    simp only [hc] at hok
    exact keep (onPayment_step (fun p q _ hq => applySuccessfulRefund_moves hq) hok)
  | requestRefund => simp [hc, Command.isPaymentWork] at hwork
  | markRefundPending => simp [hc, Command.isPaymentWork] at hwork
  | applyProviderRefundState => simp [hc, Command.isPaymentWork] at hwork
  | createClaim => simp [hc, Command.isPaymentWork] at hwork
  | reviewClaim => simp [hc, Command.isPaymentWork] at hwork

def FittingPaymentWork (account : Account) (call : Call) : Prop :=
  call.command.isPaymentWork = true ∧ StatusFits account call

instance (account : Account) (call : Call) : Decidable (FittingPaymentWork account call) :=
  inferInstanceAs (Decidable (_ ∧ _))

def PaymentStatus.final : PaymentStatus → Bool
  | .failed | .cancelled | .refunded => true
  | _ => false

/-- Over every run in which reviews meet their payments and the provider reports no refund as
a status: each change of a status is one of the graph, none leaves a final status, and a
payment is refunded exactly when all of it has gone back. -/
theorem status_changes_follow_graph (account : Account) (changes : List StatusChange) (now : Nat)
    (h : (commerce.recording statusChanges).Reaches
      (fun s call => FittingPaymentWork s.1 call) (account, changes) now) :
    (∀ change ∈ changes, change.Allowed ∧ change.fromStatus.final = false) ∧
      ∀ p ∈ account.payments, p.RefundedInFull := by
  have hempty : PaymentBooks Account.empty :=
    ⟨⟨nodup_nil, by simp [Account.empty]⟩, by simp [Account.empty], by simp [Account.empty]⟩
  obtain ⟨hbooks, hchanges⟩ := h.recording_invariant (I := PaymentBooks)
    (P := StatusChange.Allowed) hempty fun a call b hi hadmits hexec => by
      obtain ⟨hstep, hcorrections⟩ := hi.call hadmits.1 hadmits.2 hexec
      exact ⟨⟨hstep.ids hi.ids, hstep.ledger hi.ledger, hcorrections⟩, hstep.changes hi.ids⟩
  refine ⟨fun change hmem => ⟨hchanges change hmem, ?_⟩, fun p hp => (hbooks.ledger p hp).full⟩
  have hallowed : change.toStatus ∈ change.fromStatus.allowedNext := hchanges change hmem
  cases hfrom : change.fromStatus with
  | initiated => rfl
  | pending => rfl
  | succeeded => rfl
  | partiallyRefunded => rfl
  | failed => rw [hfrom] at hallowed; exact absurd hallowed (by simp [PaymentStatus.allowedNext])
  | cancelled => rw [hfrom] at hallowed; exact absurd hallowed (by simp [PaymentStatus.allowedNext])
  | refunded => rw [hfrom] at hallowed; exact absurd hallowed (by simp [PaymentStatus.allowedNext])

def submitCard (now : Nat) (key : String) : Call :=
  callAt now (.submitManualRecharge (thirtyDays rollingVersion) ["1234567890123"] key false)

def approveCard (now paymentId : Nat) (key : String) : Call :=
  callAt now (.reviewManualRecharge paymentId ⟨.approve, "Card is valid", key, 0⟩)

/-- Two administrators reconcile the payment as failed while its card awaits review, and the
card is approved. -/
def failedThenApproved : List Call :=
  [submitCard 1 "purchase-000001",
    callAt 2 (.requestCorrection ⟨1, .failed, "LIB-0001", 7, "Never arrived", "correct-000001"⟩),
    callAt 3 (.reviewCorrection ⟨2, true, 8, "Never arrived", "correct-000002"⟩),
    approveCard 4 1 "review-000001"]

theorem failed_payment_is_approved :
    ¬∀ (account : Account) (changes : List StatusChange) (now : Nat),
      (commerce.recording statusChanges).Reaches
        (fun _ call => call.command.isPaymentWork = true) (account, changes) now →
      (∀ change ∈ changes, change.Allowed ∧ change.fromStatus.final = false) ∧
        ∀ p ∈ account.payments, p.RefundedInFull := by
  intro h
  have hreached : (commerce.recording statusChanges).Reaches
      (fun _ call => call.command.isPaymentWork = true)
      ((commerce.recording statusChanges).outcome failedThenApproved) 4 :=
    Machine.Reaches.of_accepts (by decide +kernel) (by decide +kernel) (by decide +kernel)
  exact absurd (h _ _ _ hreached).1 (by decide +kernel)

def approvedThenRefunded : List Call :=
  [submitCard 1 "purchase-000001", approveCard 2 1 "review-000001",
    callAt 3 (.applySuccessfulRefund 1 25000 9)]

theorem approved_then_refunded_follows_graph :
    (∀ change ∈ ((commerce.recording statusChanges).outcome approvedThenRefunded).2,
        change.Allowed ∧ change.fromStatus.final = false) ∧
      ∀ p ∈ ((commerce.recording statusChanges).outcome approvedThenRefunded).1.payments,
        p.RefundedInFull := by
  have hreached : (commerce.recording statusChanges).Reaches
      (fun s call => FittingPaymentWork s.1 call)
      ((commerce.recording statusChanges).outcome approvedThenRefunded) 3 :=
    Machine.Reaches.of_accepts (by decide +kernel) (by decide +kernel) (by decide +kernel)
  exact status_changes_follow_graph _ _ 3 hreached

end LockIn.Commerce
