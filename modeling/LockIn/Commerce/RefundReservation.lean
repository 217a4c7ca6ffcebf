import LockIn.Commerce.LifecycleSpec
import LockIn.Commerce.RefundLedger
import LockIn.Commerce.System

/-!
# The balance that refunds reserve

A request is compared with what is left of the payment, so requests alone never reserve
more than there is.  A refund that failed lets go of its amount, and two calls can take
it back: sending it to the provider again, and completing the claim it belongs to.
Neither compares anything.  The total stays within the amount over every run in which
what is taken back still fits.
-/

namespace LockIn.Commerce

open Gregorian List Outcome Table

/-- The refunds on the books: keys are distinct, the next identifier is fresh, and no
payment is reserved beyond its amount. -/
structure RefundBooks (account : Account) : Prop where
  ids : Table.Distinct Payment.id account.payments
  refundIds : ∀ p ∈ account.payments, Table.Distinct Refund.id p.refunds
  fresh : ∀ p ∈ account.payments, ∀ r ∈ p.refunds, r.id < account.nextId
  bounded : ∀ p ∈ account.payments, p.reserved ≤ p.amountMinor

theorem RefundBooks.of_same {a b : Account} (h : RefundBooks a) (hp : b.payments = a.payments)
    (hid : a.nextId ≤ b.nextId) : RefundBooks b := by
  obtain ⟨h1, h2, h3, h4⟩ := h
  rw [← hp] at h1 h2 h3 h4
  exact ⟨h1, h2, fun p hp r hr => Nat.lt_of_lt_of_le (h3 p hp r hr) hid, h4⟩

variable {account result : Account} {p : Payment} {refund : Refund} {amountMinor : Int}
  {now refundId : Nat} {claim : RefundClaim} {rows : List Allocation}

theorem RefundBooks.of_no_refunds (hids : Table.Distinct Payment.id account.payments)
    (hnone : ∀ p ∈ account.payments, p.refunds = []) : RefundBooks account := by
  refine ⟨hids, ?_, ?_, ?_⟩
  · intro p hp
    rw [hnone p hp]
    exact nodup_nil
  · intro p hp r hr
    rw [hnone p hp] at hr
    simp at hr
  · intro p hp
    rw [Payment.reserved, hnone p hp]
    exact Nat.zero_le _

theorem RefundBooks.sameBooks {a b : Account} (h : RefundBooks a) (hs : SameBooks a b) :
    RefundBooks b :=
  h.of_same hs.payments (Nat.le_of_eq hs.nextId.symm)

theorem reserved_addRefund (p : Payment) (refund : Refund) :
    (p.addRefund refund).reserved = p.reserved + refund.held := by
  simp [Payment.reserved, Payment.addRefund]

theorem RefundBooks.addRefund (h : RefundBooks account) (hp : p ∈ account.payments)
    (hid : refund.id = account.nextId) (hfits : p.reserved + refund.held ≤ p.amountMinor) :
    RefundBooks (account.addRefund p refund) := by
  have hmem : ∀ q ∈ (account.addRefund p refund).payments,
      q = p.addRefund refund ∨ q ∈ account.payments := fun q hq => mem_of_mem_put hq
  refine ⟨h.ids.put _, ?_, ?_, ?_⟩
  · intro q hq
    rcases hmem q hq with rfl | hq
    · refine (h.refundIds p hp).append fun r hr => ?_
      have := h.fresh p hp r hr
      omega
    · exact h.refundIds q hq
  · intro q hq r hr
    show r.id < account.nextId + 1
    rcases hmem q hq with rfl | hq
    · rcases mem_append.mp hr with hr | hr
      · exact Nat.lt_succ_of_lt (h.fresh p hp r hr)
      · obtain rfl : r = refund := by simpa using hr
        omega
    · exact Nat.lt_succ_of_lt (h.fresh q hq r hr)
  · intro q hq
    rcases hmem q hq with rfl | hq
    · rw [reserved_addRefund]
      exact hfits
    · exact h.bounded q hq

/-- A refund that is written again, with the amount it had, keeps the books if what it
takes back fits. -/
theorem RefundBooks.putRefund {q : Payment} {old : Refund} (h : RefundBooks account)
    (hp : p ∈ account.payments) (hamount : q.amountMinor = p.amountMinor)
    (hrefunds : q.refunds = p.refunds) (hold : Table.find Refund.id p.refunds refund.id = some old)
    (hsame : refund.amountMinor = old.amountMinor)
    (hfits : old.status.reserves = false → refund.status.reserves = true →
      p.reserved + old.amountMinor ≤ p.amountMinor) : RefundBooks (account.putRefund q refund) := by
  have hsum : (q.setRefund refund).reserved + old.held = p.reserved + refund.held := by
    unfold Payment.reserved Payment.setRefund
    rw [hrefunds]
    exact (h.refundIds p hp).sum_put Refund.held hold
  have hmem : ∀ r ∈ (account.putRefund q refund).payments,
      r = q.setRefund refund ∨ r ∈ account.payments :=
    fun r hr => mem_of_mem_put hr
  have hlt : refund.id < account.nextId := by
    rw [← find_key hold]
    exact h.fresh p hp old (find_mem hold)
  refine ⟨h.ids.put _, ?_, ?_, ?_⟩
  · intro r hr
    rcases hmem r hr with rfl | hr
    · show Table.Distinct Refund.id (Table.put Refund.id q.refunds refund)
      rw [hrefunds]
      exact (h.refundIds p hp).put _
    · exact h.refundIds r hr
  · intro r hr x hx
    rcases hmem r hr with rfl | hr
    · rcases mem_of_mem_put hx with rfl | hx
      · exact hlt
      · rw [hrefunds] at hx
        exact h.fresh p hp x hx
    · exact h.fresh r hr x hx
  · intro r hr
    rcases hmem r hr with rfl | hr
    · show (q.setRefund refund).reserved ≤ q.amountMinor
      have hbound := h.bounded p hp
      rw [hamount]
      unfold Refund.held at hsum
      rw [hsame] at hsum
      cases ho : old.status.reserves <;> cases hn : refund.status.reserves <;>
        simp only [ho, hn, if_true, if_false, Bool.false_eq_true] at hsum
      · omega
      · have := hfits ho hn
        omega
      · omega
      · omega
    · exact h.bounded r hr

theorem requestRefund_ok {paymentId : Nat} {reason : String} {key : RefundKey}
    {reasonType : RefundReasonType} {receivedAt : Option Nat} {result : Account × Refund × Bool}
    (h : requestRefund account paymentId amountMinor reason key reasonType receivedAt now =
      .ok result) :
    result.1 = account ∨
      ∃ p ∈ account.payments, result.1 = account.addRefund p result.2.1 ∧
        result.2.1.id = account.nextId ∧ p.reserved + result.2.1.held ≤ p.amountMinor := by
  obtain ⟨_, _, h⟩ := bind_eq_ok.mp h
  cases hp : account.payment? paymentId with
  | none => simp only [hp] at h; simp at h
  | some p =>
    simp only [hp] at h
    cases he : p.refunds.find? fun refund => refund.idempotencyKey == key with
    | some existing =>
      simp only [he] at h
      cases h
      exact .inl rfl
    | none =>
      simp only [he] at h
      obtain ⟨_, _, h⟩ := bind_eq_ok.mp h
      by_cases hbound : amountMinor ≤ 0 ∨
          (refundLimit account p reasonType (receivedAt.getD now) : Int) - p.reserved < amountMinor
      · rw [dif_pos hbound] at h
        simp at h
      · rw [dif_neg hbound] at h
        cases h
        refine .inr ⟨p, find_mem hp, rfl, rfl, ?_⟩
        have hlimit : refundLimit account p reasonType (receivedAt.getD now) ≤ p.amountMinor := by
          unfold refundLimit
          split
          · exact Nat.le_refl _
          · have hrate := voluntaryRate_cases account p (receivedAt.getD now)
            have hmul : p.amountMinor * voluntaryRate account p (receivedAt.getD now) ≤
                p.amountMinor * 100 := Nat.mul_le_mul_left _ (by omega)
            omega
        show p.reserved + amountMinor.toNat ≤ p.amountMinor
        omega

theorem refund?_some (h : account.refund? refundId = some (p, refund)) :
    p ∈ account.payments ∧ Table.find Refund.id p.refunds refundId = some refund := by
  obtain ⟨q, hq, hf⟩ := exists_of_findSome?_eq_some h
  obtain ⟨r, hr, hpair⟩ := Option.map_eq_some_iff.mp hf
  cases hpair
  exact ⟨hq, hr⟩

theorem markPending_ok {result : Refund} {reference : String}
    (h : markPending refund reference now = .ok result) :
    result.id = refund.id ∧ result.amountMinor = refund.amountMinor := by
  unfold markPending at h
  split at h
  · cases h
    exact ⟨rfl, rfl⟩
  · obtain ⟨_, _, h⟩ := bind_eq_ok.mp h
    obtain ⟨_, _, h⟩ := bind_eq_ok.mp h
    cases h
    exact ⟨rfl, rfl⟩

/-- Whether the provider's report on a refund would be applied rather than recognised as
repeated or out of order. -/
def Refund.reportApplies (refund : Refund) (effectiveAt providerEventId : Nat) : Bool :=
  !refund.hasTransition (.providerEvent providerEventId) &&
    !refund.latestEffectiveAt.any (effectiveAt < ·)

theorem providerRefundState_ok {toStatus : RefundStatus} {currency failureCode : String}
    {effectiveAt providerEventId : Nat} {result : RefundTransitionResult}
    (h : providerRefundState refund toStatus amountMinor currency effectiveAt providerEventId
      failureCode = .ok result) :
    result.refund.id = refund.id ∧ result.refund.amountMinor = refund.amountMinor ∧
      (result.refund.status = refund.status ∨
        (result.refund.status = toStatus ∧
          refund.reportApplies effectiveAt providerEventId = true)) := by
  unfold providerRefundState at h
  by_cases hseen : refund.hasTransition (.providerEvent providerEventId) = true
  · rw [if_pos hseen] at h
    cases h
    exact ⟨rfl, rfl, .inl rfl⟩
  · rw [if_neg hseen] at h
    obtain ⟨_, h⟩ := unless_ok.1 h
    by_cases hlate : refund.latestEffectiveAt.any (effectiveAt < ·) = true
    · rw [if_pos hlate] at h
      cases h
      exact ⟨rfl, rfl, .inl rfl⟩
    · rw [if_neg hlate] at h
      obtain ⟨_, _, h⟩ := bind_eq_ok.mp h
      cases h
      exact ⟨rfl, rfl, .inr ⟨rfl, by simp [Refund.reportApplies, hseen, hlate]⟩⟩

theorem deliverRefund_frame {q : Payment} {amountMinor : Nat}
    (h : deliverRefund p refundId amountMinor now = .ok q) :
    q.amountMinor = p.amountMinor ∧ q.refunds = p.refunds ∧ q.id = p.id := by
  obtain ⟨paid, hpaid, h⟩ := bind_eq_ok.mp h
  have hsame : paid.amountMinor = p.amountMinor ∧ paid.refunds = p.refunds ∧ paid.id = p.id := by
    unfold applySuccessfulRefund at hpaid
    split at hpaid
    · cases hpaid
      exact ⟨rfl, rfl, rfl⟩
    · obtain ⟨_, _, hpaid⟩ := bind_eq_ok.mp hpaid
      obtain ⟨_, _, hpaid⟩ := bind_eq_ok.mp hpaid
      cases hpaid
      exact ⟨rfl, rfl, rfl⟩
  unfold applyInvoiceRefund at h
  cases hi : paid.invoice with
  | none => rw [hi] at h; simp at h
  | some invoice =>
    simp only [hi] at h
    obtain ⟨_, _, h⟩ := bind_eq_ok.mp h
    cases h
    exact hsame

theorem cancelAgreementOf_frame (account : Account) (p : Payment) (now : Nat) :
    SameBooks account (cancelAgreementOf account p now) := by
  unfold cancelAgreementOf
  split
  · exact SameBooks.refl _
  · exact sameBooks_putAgreement _ _

theorem releaseProvisional_frame (account : Account) (s : Subscription) (group : List Payment) :
    SameBooks account (releaseProvisional account s group) := by
  unfold releaseProvisional
  split
  · exact sameBooks_putSubscription _ _
  · exact SameBooks.refl _

theorem cancelRenewal_frame {s : Subscription} {submission : ManualRechargeSubmission}
    {claimId : Nat} (h : cancelRenewal account s submission claimId now = .ok result) :
    SameBooks account result := by
  unfold cancelRenewal at h
  split at h
  · simp at h
  · obtain ⟨_, h⟩ := unless_ok.1 h
    obtain ⟨_, h⟩ := when_ok.1 h
    obtain ⟨moved, hmoved, h⟩ := bind_eq_ok.mp h
    cases h
    exact (sameBooks_putSubscription _ _).trans (transitionSubscription_frame hmoved).1

theorem cancelPurchase_frame (h : cancelPurchase account claim p now = .ok result) :
    SameBooks account result := by
  unfold cancelPurchase at h
  split at h
  · cases h
    exact SameBooks.refl _
  · dsimp only at h
    obtain ⟨_, h⟩ := unless_ok.1 h
    split at h
    · simp at h
    · have hreleased := (releaseProvisional_frame account ‹Subscription›
        (purchasePayments account p true)).trans (cancelAgreementOf_frame _ p now)
      split at h
      · simp at h
      · split at h
        · exact hreleased.trans (cancelRenewal_frame h)
        · split at h
          · obtain ⟨moved, hmoved, h⟩ := bind_eq_ok.mp h
            cases h
            exact hreleased.trans (transitionSubscription_frame hmoved).1
          · cases h
            exact hreleased

theorem RefundBooks.reserveAllocations (h : RefundBooks account)
    (hok : reserveAllocations account claim now rows = .ok result) : RefundBooks result := by
  induction rows generalizing account with
  | nil =>
    cases hok
    exact h
  | cons row rest ih =>
    obtain ⟨⟨next, refund, created⟩, hrow, hok⟩ := bind_eq_ok.mp hok
    refine ih ?_ hok
    rcases requestRefund_ok hrow with hsame | ⟨p, hp, hadd, hid, hfits⟩
    · obtain rfl : next = account := hsame
      exact h
    · obtain rfl : next = account.addRefund p refund := hadd
      exact h.addRefund hp hid hfits

def allocationRefund (account : Account) (claim : RefundClaim) (row : Allocation) :
    Option (Payment × Refund) :=
  (account.payment? row.paymentId).bind fun p =>
    (p.refunds.find? fun r => r.idempotencyKey == .claim claim.id row.paymentId).map fun r => (p, r)

def FitsBack (p : Payment) (refund : Refund) : Prop :=
  refund.status.reserves = false → p.reserved + refund.amountMinor ≤ p.amountMinor

instance (p : Payment) (refund : Refund) : Decidable (FitsBack p refund) :=
  inferInstanceAs (Decidable (_ → _))

theorem completeAllocation_ok {row : Allocation}
    (h : completeAllocation account claim row now = .ok result) :
    ∃ p refund, allocationRefund account claim row = some (p, refund) ∧
      (result = account ∨ ∃ q done, result = account.putRefund q done ∧ q.id = p.id ∧
        q.amountMinor = p.amountMinor ∧ q.refunds = p.refunds ∧ done.id = refund.id ∧
        done.amountMinor = refund.amountMinor ∧ done.status = .succeeded ∧
        done.idempotencyKey = refund.idempotencyKey) := by
  unfold completeAllocation at h
  unfold allocationRefund
  cases hp : account.payment? row.paymentId with
  | none => simp only [hp] at h; simp at h
  | some p =>
    simp only [hp] at h
    cases hr : p.refunds.find? fun r => r.idempotencyKey == .claim claim.id row.paymentId with
    | none => simp only [hr] at h; simp at h
    | some refund =>
      simp only [hr] at h
      refine ⟨p, refund, by simp [hr], ?_⟩
      split at h
      · cases h
        exact .inl rfl
      · obtain ⟨q, hq, h⟩ := bind_eq_ok.mp h
        obtain ⟨done, hdone, h⟩ := bind_eq_ok.mp h
        cases h
        obtain ⟨hamount, hrefunds, hid⟩ := deliverRefund_frame hq
        obtain ⟨_, hdone⟩ := unless_ok.1 hdone
        cases hdone
        exact .inr ⟨q, _, rfl, hid, hamount, hrefunds, rfl, rfl, rfl, rfl⟩

/-- Completing a claim keeps the books if every refund it takes back fits.  A row completed
leaves the later rows as they were, or succeeded when they are about the same refund. -/
theorem RefundBooks.completeAllocations (h : RefundBooks account)
    (hfits : ∀ row ∈ rows, ∀ p refund, allocationRefund account claim row = some (p, refund) →
      FitsBack p refund) (hok : completeAllocations account claim now rows = .ok result) :
    RefundBooks result := by
  induction rows generalizing account with
  | nil =>
    cases hok
    exact h
  | cons row rest ih =>
    obtain ⟨next, hrow, hrest⟩ := bind_eq_ok.mp hok
    obtain ⟨p, refund, hfound, hsame | ⟨q, done, hput, hid, hamount, hrefunds, hdoneId,
      hdoneAmount, hstatus, hkey⟩⟩ := completeAllocation_ok hrow
    · subst hsame
      exact ih h (fun r hr => hfits r (by simp [hr])) hrest
    · have hback := hfits row (by simp) p refund hfound
      obtain ⟨p', hp, hpair⟩ := Option.bind_eq_some_iff.mp hfound
      obtain ⟨refund', hr, hpair⟩ := Option.map_eq_some_iff.mp hpair
      cases hpair
      have hmem : p ∈ account.payments := find_mem hp
      have hrmem : refund ∈ p.refunds := mem_of_find?_eq_some hr
      have hrkey : refund.idempotencyKey = .claim claim.id row.paymentId := by
        simpa using find?_some hr
      have hfind : Table.find Refund.id p.refunds done.id = some refund := by
        rw [hdoneId]
        exact (h.refundIds p hmem).find hrmem
      have hnext : RefundBooks next := by
        rw [hput]
        exact h.putRefund hmem hamount hrefunds hfind hdoneAmount fun ho _ => hback ho
      refine ih hnext ?_ hrest
      intro row' hrow' p₁ refund₁ hfound₁
      obtain ⟨p₂, hp₂, hpair⟩ := Option.bind_eq_some_iff.mp hfound₁
      obtain ⟨refund₂, hr₂, hpair⟩ := Option.map_eq_some_iff.mp hpair
      cases hpair
      by_cases hsamePayment : row'.paymentId = p.id
      · have hwritten : next.payment? row'.paymentId = some (q.setRefund done) := by
          have hold : Table.find Payment.id account.payments (q.setRefund done).id = some p := by
            show Table.find Payment.id account.payments q.id = some p
            rw [hid]
            exact h.ids.find hmem
          rw [hput, hsamePayment, ← hid]
          exact find_put_self hold
        rw [hwritten] at hp₂
        cases hp₂
        have hsameKey : row'.paymentId = row.paymentId := hsamePayment.trans (find_key hp)
        have hdone : (q.setRefund done).refunds.find? (fun r =>
            r.idempotencyKey == .claim claim.id row'.paymentId) = some done := by
          show (Table.put Refund.id q.refunds done).find? _ = some done
          rw [hrefunds, hsameKey]
          exact (h.refundIds p hmem).find?_put hr hdoneId (by simp [hkey, hrkey])
        rw [hdone] at hr₂
        cases hr₂
        intro hreleased
        rw [hstatus] at hreleased
        exact absurd hreleased (by decide)
      · have hkept : next.payment? row'.paymentId = account.payment? row'.paymentId := by
          have hne : row'.paymentId ≠ (q.setRefund done).id := fun e => hsamePayment (e.trans hid)
          rw [hput]
          exact find_put_of_ne hne
        refine hfits row' (by simp [hrow']) p₁ refund₁ ?_
        rw [hkept] at hp₂
        unfold allocationRefund
        rw [hp₂, Option.bind_some, hr₂]
        rfl

def Command.isRefundWork : Command → Bool
  | .requestRefund .. | .markRefundPending .. | .applyProviderRefundState .. | .createClaim ..
  | .reviewClaim .. => true
  | _ => false

/-- The refunds a call may take back to a status that reserves. -/
def Command.retried (command : Command) (account : Account) : List (Payment × Refund) :=
  match command with
  | .markRefundPending refundId _ => (account.refund? refundId).toList
  | .applyProviderRefundState refundId toStatus _ _ effectiveAt providerEventId _ =>
    ((account.refund? refundId).filter fun found =>
      toStatus.reserves && found.2.reportApplies effectiveAt providerEventId).toList
  | .reviewClaim claimId review =>
    match (account.claim? claimId).filter fun claim =>
        review.action == .complete && claim.status == .approved with
    | some claim => claim.allocations.filterMap (allocationRefund account claim)
    | none => []
  | _ => []

def RetriesFit (account : Account) (call : Call) : Prop :=
  ∀ found ∈ call.command.retried account, FitsBack found.1 found.2

instance (account : Account) (call : Call) : Decidable (RetriesFit account call) :=
  inferInstanceAs (Decidable (∀ found ∈ _, _))

theorem RefundBooks.grantManual {entitlement : EntitlementDefinition} {sourceId startsAt : Nat}
    {endsAt quantityLimit : Option Nat} {configuration : String} (h : RefundBooks account)
    (hok : grantManualEntitlement account entitlement sourceId startsAt endsAt quantityLimit
      configuration = .ok result) : RefundBooks result := by
  obtain ⟨_, _, hok⟩ := bind_eq_ok.mp hok
  obtain ⟨_, _, hok⟩ := bind_eq_ok.mp hok
  obtain ⟨_, _, hok⟩ := bind_eq_ok.mp hok
  split at hok
  · cases hok
    exact h
  · cases hok
    exact h.of_same rfl (Nat.le_refl _)

theorem RefundBooks.compensate {rules : List PlanEntitlementRule} (h : RefundBooks account)
    (hok : compensate account claim now rules = .ok result) : RefundBooks result := by
  induction rules generalizing account with
  | nil =>
    cases hok
    exact h
  | cons rule rest ih =>
    obtain ⟨next, hrule, hrest⟩ := bind_eq_ok.mp hok
    exact ih (h.grantManual hrule) hrest

theorem RefundBooks.decideClaim {next : Account} {decided : RefundClaim} {review : ClaimReview}
    (h : RefundBooks account)
    (hfits : review.action = .complete → claim.status = .approved → ∀ row ∈ claim.allocations,
      ∀ p refund, allocationRefund account claim row = some (p, refund) → FitsBack p refund)
    (hok : decideClaim account claim p review now = .ok (some (next, decided))) :
    RefundBooks next := by
  unfold Commerce.decideClaim at hok
  cases hact : review.action with
  | approve =>
    simp only [hact] at hok
    split at hok
    · simp at hok
    · obtain ⟨_, hok⟩ := unless_ok.1 hok
      obtain ⟨⟨approved, c⟩, happrove, hpair⟩ := map_eq_ok.mp hok
      cases hpair
      obtain ⟨_, _, happrove⟩ := bind_eq_ok.mp happrove
      obtain ⟨reserved, hreserved, happrove⟩ := bind_eq_ok.mp happrove
      have hbooks := h.reserveAllocations hreserved
      dsimp only at happrove
      split at happrove
      · cases happrove
        exact hbooks
      · obtain ⟨ended, hended, happrove⟩ := bind_eq_ok.mp happrove
        cases happrove
        exact hbooks.sameBooks (cancelPurchase_frame hended)
  | complete =>
    simp only [hact] at hok
    split at hok
    · obtain ⟨_, hok⟩ := unless_ok.1 hok
      simp at hok
    · obtain ⟨⟨completed, c⟩, hcomplete, hpair⟩ := map_eq_ok.mp hok
      cases hpair
      obtain ⟨_, hchecks, hcomplete⟩ := bind_eq_ok.mp hcomplete
      obtain ⟨done, hdone, hcomplete⟩ := bind_eq_ok.mp hcomplete
      cases hcomplete
      have happroved : claim.status = .approved := by
        have hfirst := (refuse_cons_ok.mp hchecks).1
        simp only [Bool.or_eq_false_iff] at hfirst
        simpa using hfirst.1
      exact h.completeAllocations (hfits hact happroved) hdone
  | compensate =>
    simp only [hact] at hok
    split at hok
    · simp at hok
    · obtain ⟨_, hok⟩ := unless_ok.1 hok
      obtain ⟨granted, hgranted, hpair⟩ := bind_eq_ok.mp hok
      cases hpair
      exact h.compensate hgranted
  | restore =>
    simp only [hact] at hok
    obtain ⟨_, hok⟩ := unless_ok.1 hok
    cases hok
    exact h.of_same rfl (Nat.le_refl _)
  | needsInfo =>
    simp only [hact] at hok
    obtain ⟨_, hok⟩ := unless_ok.1 hok
    cases hok
    exact h
  | reject =>
    simp only [hact] at hok
    obtain ⟨_, hok⟩ := unless_ok.1 hok
    cases hok
    exact h

theorem RefundBooks.createClaim {request : ClaimRequest} {result : Account × RefundClaim × Bool}
    (h : RefundBooks account) (hok : createClaim account request now = .ok result) :
    RefundBooks result.1 := by
  obtain ⟨_, _, hok⟩ := bind_eq_ok.mp hok
  split at hok
  · simp at hok
  · obtain ⟨_, _, hok⟩ := bind_eq_ok.mp hok
    split at hok
    · obtain ⟨_, _, hok⟩ := bind_eq_ok.mp hok
      cases hok
      exact h
    · split at hok
      · cases hok
        exact h
      · obtain ⟨_, _, hok⟩ := bind_eq_ok.mp hok
        cases hok
        exact h.of_same rfl (Nat.le_succ _)

theorem RefundBooks.step {account result : Account} {call : Call} (h : RefundBooks account)
    (hwork : call.command.isRefundWork = true) (hfits : RetriesFit account call)
    (hok : call.execute account = .ok result) : RefundBooks result := by
  unfold RetriesFit at hfits
  unfold Call.execute at hok
  cases hc : call.command with
  | requestRefund paymentId amountMinor reason key reasonType receivedAt =>
    simp only [hc] at hok
    obtain ⟨requested, hrequested, rfl⟩ := map_eq_ok.mp hok
    rcases requestRefund_ok hrequested with hsame | ⟨p, hp, hadd, hid, hfit⟩
    · rw [hsame]
      exact h
    · rw [hadd]
      exact h.addRefund hp hid hfit
  | markRefundPending refundId reference =>
    simp only [hc] at hok
    simp only [hc, Command.retried] at hfits
    unfold markRefundPending at hok
    cases hf : account.refund? refundId with
    | none => simp only [hf] at hok; simp at hok
    | some found =>
      obtain ⟨p, refund⟩ := found
      simp only [hf] at hok
      obtain ⟨done, hdone, hput⟩ := bind_eq_ok.mp hok
      cases hput
      obtain ⟨hp, hfind⟩ := refund?_some hf
      obtain ⟨hid, hamount⟩ := markPending_ok hdone
      refine h.putRefund hp rfl rfl (by rw [hid, find_key hfind]; exact hfind) hamount ?_
      intro hreleased _
      exact hfits (p, refund) (by simp [hf]) hreleased
  | applyProviderRefundState refundId toStatus amountMinor currency effectiveAt eventId failure =>
    simp only [hc] at hok
    simp only [hc, Command.retried] at hfits
    unfold applyProviderRefundState at hok
    cases hf : account.refund? refundId with
    | none => simp only [hf] at hok; simp at hok
    | some found =>
      obtain ⟨p, refund⟩ := found
      simp only [hf] at hok
      obtain ⟨done, hdone, hput⟩ := bind_eq_ok.mp hok
      cases hput
      obtain ⟨hp, hfind⟩ := refund?_some hf
      obtain ⟨hid, hamount, hstatus⟩ := providerRefundState_ok hdone
      refine h.putRefund hp rfl rfl (by rw [hid, find_key hfind]; exact hfind) hamount ?_
      intro hreleased hreserves
      rcases hstatus with hsame | ⟨hto, happlies⟩
      · rw [hsame, hreleased] at hreserves
        simp at hreserves
      · rw [hto] at hreserves
        exact hfits (p, refund) (by simp [hf, hreserves, happlies]) hreleased
  | createClaim request =>
    simp only [hc] at hok
    obtain ⟨created, hcreated, rfl⟩ := map_eq_ok.mp hok
    exact h.createClaim hcreated
  | reviewClaim claimId review =>
    simp only [hc] at hok
    simp only [hc, Command.retried] at hfits
    unfold reviewClaim at hok
    cases hclaim : account.claim? claimId with
    | none => simp only [hclaim] at hok; simp at hok
    | some claim =>
      simp only [hclaim] at hok
      split at hok
      · simp at hok
      · obtain ⟨_, _, hok⟩ := bind_eq_ok.mp hok
        obtain ⟨decided, hdecided, hok⟩ := bind_eq_ok.mp hok
        cases decided with
        | none =>
          cases hok
          exact h
        | some pair =>
          obtain ⟨next, decidedClaim⟩ := pair
          cases hok
          refine (h.decideClaim ?_ hdecided).of_same rfl (Nat.le_refl _)
          intro haction hstatus row hrow p refund hfound
          refine hfits (p, refund) ?_
          simp only [hclaim, Option.filter_some, haction, hstatus, beq_self_eq_true, Bool.and_self,
            if_true]
          exact mem_filterMap.mpr ⟨row, hrow, hfound⟩
  | _ => simp [hc, Command.isRefundWork] at hwork

/-- The total reserved stays within the amount of every payment, over every run of refund
work in which the refunds taken back still fit. -/
theorem reserved_le_amount_of_retries_fit (start : Account) (hstart : RefundBooks start)
    (account : Account) (now : Nat)
    (h : (commerceFrom start).Reaches
      (fun a call => call.command.isRefundWork = true ∧ RetriesFit a call) account now) :
    ∀ p ∈ account.payments, p.reserved ≤ p.amountMinor := by
  have hbooks : RefundBooks account :=
    h.invariant (I := fun a _ => RefundBooks a) hstart
      fun a _ call a' hi _ hadmits hexec => hi.step hadmits.1 hadmits.2 hexec
  exact hbooks.bounded

def paidAccount : Account := { Account.empty with payments := [invoicedPayment], nextId := 10 }

theorem paidAccount_books : RefundBooks paidAccount :=
  .of_no_refunds (by decide) (by decide)

/-- The whole payment is refunded, the transfer fails, the whole payment is refunded again
and the first transfer is tried once more. -/
def retriedRefund : List Call :=
  [callAt 1 (.requestRefund 5 25000 "Paid twice" "refund-000001" .paymentError none),
    callAt 2 (.applyProviderRefundState 10 .failed 25000 "LYD" 2 1 "declined"),
    callAt 3 (.requestRefund 5 25000 "Paid twice" "refund-000002" .paymentError none),
    callAt 4 (.markRefundPending 10 "transfer-000002")]

theorem retried_refund_reserves_twice :
    ¬∀ (start : Account), RefundBooks start → ∀ (account : Account) (now : Nat),
      (commerceFrom start).Reaches (fun _ call => call.command.isRefundWork = true) account now →
      ∀ p ∈ account.payments, p.reserved ≤ p.amountMinor := by
  intro h
  have hreached : (commerceFrom paidAccount).Reaches
      (fun _ call => call.command.isRefundWork = true)
      ((commerceFrom paidAccount).outcome retriedRefund) 4 :=
    Machine.Reaches.of_accepts (by decide +kernel) (by decide +kernel) (by decide +kernel)
  exact absurd (h paidAccount paidAccount_books _ _ hreached) (by decide +kernel)

def retryAlone : List Call :=
  [callAt 1 (.requestRefund 5 20000 "Paid twice" "refund-000001" .paymentError none),
    callAt 2 (.applyProviderRefundState 10 .failed 20000 "LYD" 2 1 "declined"),
    callAt 3 (.markRefundPending 10 "transfer-000002")]

theorem retry_that_fits_is_bounded :
    (commerceFrom paidAccount).accepts retryAlone = true ∧
      ∀ p ∈ ((commerceFrom paidAccount).outcome retryAlone).payments, p.reserved ≤ p.amountMinor := by
  have haccepts : (commerceFrom paidAccount).accepts retryAlone = true := by decide +kernel
  exact ⟨haccepts, reserved_le_amount_of_retries_fit paidAccount paidAccount_books _ 3
    (Machine.Reaches.of_accepts haccepts (by decide +kernel) (by decide +kernel))⟩

end LockIn.Commerce
