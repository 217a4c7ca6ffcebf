import LockIn.Commerce.Claims

/-!
# The quote and the reservation

A claim's quote is reserved row by row by the service that also limits single refund
requests.  The two compute the refundable part of a payment on their own.  They agree on
every payment but one kind: what a rejected card collected is quoted in full, while a
request by choice limits it by the rate of the voluntary window like any other payment.
-/

namespace LockIn.Commerce

open Gregorian List Table

theorem voluntaryRate_of_agreement {account : Account} {p item : Payment} {agreementId : Nat}
    (hp : p.agreementId = some agreementId) (hitem : item.agreementId = some agreementId)
    (receivedAt : Nat) :
    voluntaryRate account item receivedAt = voluntaryRate account p receivedAt := by
  have hfirst : account.firstPayment item = account.firstPayment p := by
    simp only [Account.firstPayment, hp, hitem]
  unfold voluntaryRate activationAt
  rw [hfirst, hp, hitem]
  cases account.firstPayment p <;> rfl

def Payment.bare (p : Payment) : Payment := { p with refunds := [] }

theorem bare_injOn_fields {p q : Payment} (h : p.bare = q.bare) :
    p.activation = q.activation ∧ p.policyVersion = q.policyVersion ∧
      p.agreementId = q.agreementId ∧ p.installmentNumber = q.installmentNumber := by
  have hactivation : p.bare.activation = q.bare.activation := by rw [h]
  have hpolicy : p.bare.policyVersion = q.bare.policyVersion := by rw [h]
  have hagreement : p.bare.agreementId = q.bare.agreementId := by rw [h]
  have hnumber : p.bare.installmentNumber = q.bare.installmentNumber := by rw [h]
  exact ⟨hactivation, hpolicy, hagreement, hnumber⟩

theorem map_bare_filter (payments : List Payment) (f : Payment → Bool)
    (hf : ∀ p : Payment, f p.bare = f p) :
    (payments.filter f).map Payment.bare = (payments.map Payment.bare).filter f := by
  rw [filter_map]
  congr 1
  exact filter_congr fun p _ => (hf p).symm

theorem firstPayment_bare {a b : Account}
    (h : a.payments.map Payment.bare = b.payments.map Payment.bare) (p : Payment) :
    (a.firstPayment p).map Payment.bare = (b.firstPayment p).map Payment.bare := by
  unfold Account.firstPayment
  cases p.agreementId with
  | none => rfl
  | some agreementId =>
    simp only [Account.agreementPayments, ← getLast?_map]
    rw [map_bare_filter _ _ fun _ => rfl, map_bare_filter _ _ fun _ => rfl,
      map_bare_filter _ _ fun _ => rfl, map_bare_filter _ _ fun _ => rfl, h]

theorem voluntaryRate_bare {a b : Account}
    (h : a.payments.map Payment.bare = b.payments.map Payment.bare) (p : Payment)
    (receivedAt : Nat) : voluntaryRate a p receivedAt = voluntaryRate b p receivedAt := by
  have hfirst := firstPayment_bare h p
  unfold voluntaryRate activationAt
  cases ha : a.firstPayment p with
  | none =>
    cases hb : b.firstPayment p with
    | none => rfl
    | some first => rw [ha, hb] at hfirst; simp at hfirst
  | some first =>
    cases hb : b.firstPayment p with
    | none => rw [ha, hb] at hfirst; simp at hfirst
    | some first' =>
      rw [ha, hb] at hfirst
      obtain ⟨hactivation, hpolicy, _, _⟩ := bare_injOn_fields (Option.some.inj hfirst)
      simp only [Option.bind_some, Option.getD_some, hactivation, hpolicy]

variable {receivedAt : Nat} {kind : ClaimKind}

section Row

variable {account : Account} {item : Payment} {amount : Nat} {key : RefundKey}

variable {reasonType : RefundReasonType}

theorem refundLimit_of_rate_zero
    (h : (reasonType == .voluntary && voluntaryRate account item receivedAt == 0) = true) :
    refundLimit account item reasonType receivedAt = 0 := by
  have hboth : reasonType = .voluntary ∧ voluntaryRate account item receivedAt = 0 := by
    simpa using h
  simp [refundLimit, hboth.1, hboth.2]

/-- A fresh request on a settled payment that fits under the limit, with what is already
reserved, is granted. -/
theorem requestRefund_granted (hfind : account.payment? item.id = some item)
    (hkey : key ≠ .request "") (hfresh : ∀ r ∈ item.refunds, r.idempotencyKey ≠ key)
    (hsettled : item.settled = true) (hpos : 0 < amount)
    (hfits : amount + item.reserved ≤ refundLimit account item reasonType receivedAt)
    (reason : String) (now : Nat) :
    ∃ refund : Refund,
      requestRefund account item.id amount reason key reasonType (some receivedAt) now =
        .ok (account.addRefund item refund, refund, true) ∧
      refund.amountMinor = amount ∧ refund.idempotencyKey = key ∧ refund.status = .requested := by
  have hnone : (item.refunds.find? fun r => r.idempotencyKey == key) = none := by
    simpa using hfresh
  have hkey' : (key == .request "") = false := by simpa using hkey
  have hrate : (reasonType == .voluntary && voluntaryRate account item receivedAt == 0) = false := by
    rw [Bool.eq_false_iff]
    intro hzero
    rw [refundLimit_of_rate_zero hzero] at hfits
    omega
  have hbound : ¬((amount : Int) ≤ 0 ∨
      (refundLimit account item reasonType receivedAt : Int) - item.reserved < amount) := by
    omega
  refine ⟨newRefund item account.nextId (amount : Int).toNat (by omega) reason key now, ?_,
    Int.toNat_natCast amount, rfl, rfl⟩
  unfold requestRefund
  simp only [hkey', hfind, hnone, hsettled, hrate, Outcome.refuse, Outcome.ok_bind,
    Option.getD_some, dif_neg hbound, Bool.not_true, if_false, Bool.false_eq_true]
  rfl

theorem requestRefund_refused (hfind : account.payment? item.id = some item)
    (hkey : key ≠ .request "") (hfresh : ∀ r ∈ item.refunds, r.idempotencyKey ≠ key)
    (hsettled : item.settled = true)
    (hover : refundLimit account item reasonType receivedAt < amount + item.reserved)
    (reason : String) (now : Nat) :
    ∃ e, requestRefund account item.id amount reason key reasonType (some receivedAt) now =
      .error e := by
  have hnone : (item.refunds.find? fun r => r.idempotencyKey == key) = none := by
    simpa using hfresh
  have hkey' : (key == .request "") = false := by simpa using hkey
  have hbound : (amount : Int) ≤ 0 ∨
      (refundLimit account item reasonType receivedAt : Int) - item.reserved < amount := by
    omega
  unfold requestRefund
  simp only [hkey', hfind, hnone, hsettled, Outcome.refuse, Outcome.ok_bind, Option.getD_some,
    dif_pos hbound, Bool.not_true, if_false, Bool.false_eq_true]
  by_cases hrate : (reasonType == .voluntary && voluntaryRate account item receivedAt == 0) = true
  · rw [if_pos hrate]
    exact ⟨_, rfl⟩
  · rw [if_neg hrate]
    exact ⟨_, rfl⟩

end Row

theorem reasonType_eq_voluntary (kind : ClaimKind) :
    kind.reasonType = .voluntary ↔ kind.byChoice = true := by
  cases kind <;> simp [ClaimKind.reasonType, ClaimKind.byChoice]

/-- The row quoted for a payment fits under its limit unless the payment is a partial
collection and the rate is below the full one. -/
theorem quoteAmount_fits_iff {account : Account} {item : Payment} {rate : Nat}
    (hchoice : kind.byChoice = true →
      voluntaryRate account item receivedAt = rate) (hfull : kind.byChoice = false → rate = 100)
    (hrate : rate ≤ 100) (hquoted : quoteAmount item rate ≠ 0) :
    quoteAmount item rate + item.reserved ≤ refundLimit account item kind.reasonType receivedAt ↔
      rate = 100 ∨ item.failureCode ≠ partialCollectionFailureCode := by
  have hsum : quoteAmount item rate + item.reserved = item.amountMinor * itemRate item rate / 100 := by
    unfold quoteAmount at hquoted ⊢
    omega
  rw [hsum]
  have hlimit : refundLimit account item kind.reasonType receivedAt =
      item.amountMinor * rate / 100 := by
    unfold refundLimit
    by_cases hk : kind.byChoice = true
    · rw [if_neg (by simp [(reasonType_eq_voluntary kind).mpr hk]), hchoice hk]
    · have hne : kind.reasonType ≠ .voluntary := fun e => hk ((reasonType_eq_voluntary kind).mp e)
      rw [if_pos hne, hfull (by simpa using hk)]
      omega
  rw [hlimit]
  unfold itemRate
  by_cases hp : item.failureCode = partialCollectionFailureCode
  · rw [if_pos hp]
    have hpos := item.amount_pos
    constructor
    · intro hle
      by_contra hne
      have hlt : rate ≤ 99 := by omega
      have hmul : item.amountMinor * rate ≤ item.amountMinor * 99 := Nat.mul_le_mul_left _ hlt
      omega
    · rintro (rfl | hne)
      · exact Nat.le_refl _
      · exact absurd hp hne
  · rw [if_neg hp]
    exact ⟨fun _ => .inr hp, fun _ => Nat.le_refl _⟩

def quoteRows (items : List Payment) (rate : Nat) : List Allocation :=
  items.filterMap fun item =>
    if item.settled && quoteAmount item rate != 0 then some ⟨item.id, quoteAmount item rate⟩
    else none

/-- The rows of a purchase are reserved one after another exactly when each fits: what is
reserved for one payment leaves the others as they were. -/
theorem reserve_quoteRows_iff (start : Account) (claim : RefundClaim) (rate now : Nat)
    (items : List Payment) (account : Account) (hids : Table.Distinct Payment.id account.payments)
    (hbare : account.payments.map Payment.bare = start.payments.map Payment.bare)
    (hfind : ∀ item ∈ items, account.payment? item.id = some item)
    (hnodup : (items.map Payment.id).Nodup)
    (hfresh : ∀ item ∈ items, ∀ r ∈ item.refunds, r.idempotencyKey ≠ .claim claim.id item.id) :
    (∃ result, reserveAllocations account claim now (quoteRows items rate) = .ok result) ↔
      ∀ item ∈ items, item.settled = true → quoteAmount item rate ≠ 0 →
        quoteAmount item rate + item.reserved ≤
          refundLimit start item claim.kind.reasonType claim.receivedAt := by
  induction items generalizing account with
  | nil => exact ⟨fun _ _ h => absurd h (by simp), fun _ => ⟨account, rfl⟩⟩
  | cons item rest ih =>
    have hnodup' := nodup_cons.mp hnodup
    rw [forall_mem_cons]
    by_cases hrow : item.settled = true ∧ quoteAmount item rate ≠ 0
    · have hrows : quoteRows (item :: rest) rate =
          ⟨item.id, quoteAmount item rate⟩ :: quoteRows rest rate := by
        simp [quoteRows, hrow.1, hrow.2]
      have hlimit : refundLimit account item claim.kind.reasonType claim.receivedAt =
          refundLimit start item claim.kind.reasonType claim.receivedAt := by
        unfold refundLimit
        rw [voluntaryRate_bare hbare]
      rw [hrows, reserveAllocations]
      by_cases hfits : quoteAmount item rate + item.reserved ≤
          refundLimit start item claim.kind.reasonType claim.receivedAt
      · obtain ⟨refund, hok, _⟩ := requestRefund_granted (hfind item (by simp))
          (by simp) (hfresh item (by simp)) hrow.1
          (Nat.pos_of_ne_zero hrow.2) (hlimit ▸ hfits) (clip claim.reason 240) now
        rw [hok, Outcome.ok_bind]
        have hothers : ∀ r ∈ account.payments, r.id = item.id → r.bare = item.bare := by
          intro r hr hid
          rw [hids.eq hr (find_mem (hfind item (by simp))) hid]
        rw [ih _ (hids.put _) ?_ ?_ hnodup'.2 fun i hi => hfresh i (by simp [hi])]
        · exact ⟨fun h => ⟨fun _ _ => hfits, h⟩, fun h => h.2⟩
        · rw [← hbare]
          exact map_put_eq Payment.bare hothers
        · intro i hi
          have hne : i.id ≠ (item.addRefund refund).id := by
            intro e
            exact hnodup'.1 (mem_map.mpr ⟨i, hi, e⟩)
          exact (find_put_of_ne hne).trans (hfind i (by simp [hi]))
      · obtain ⟨e, he⟩ := requestRefund_refused (hfind item (by simp))
          (by simp) (hfresh item (by simp)) hrow.1
          (hlimit ▸ Nat.lt_of_not_le hfits) (clip claim.reason 240) now
        rw [he, Outcome.error_bind]
        constructor
        · rintro ⟨_, h⟩
          simp at h
        · intro h
          exact absurd (h.1 hrow.1 hrow.2) hfits
    · have hrows : quoteRows (item :: rest) rate = quoteRows rest rate := by
        have hnone : (item.settled && quoteAmount item rate != 0) = false := by
          rw [Bool.eq_false_iff]
          intro h
          exact hrow (by simpa using h)
        exact filterMap_cons_none (by rw [hnone]; rfl)
      rw [hrows, ih account hids hbare (fun i hi => hfind i (by simp [hi])) hnodup'.2
        fun i hi => hfresh i (by simp [hi])]
      exact ⟨fun h => ⟨fun h1 h2 => absurd ⟨h1, h2⟩ hrow, h⟩, fun h => h.2⟩

def RefundClaim.Unreserved (claim : RefundClaim) (account : Account) : Prop :=
  ∀ p ∈ account.payments, ∀ r ∈ p.refunds, r.idempotencyKey ≠ .claim claim.id p.id

theorem purchasePayments_sublist (account : Account) (p : Payment) (wholePurchase : Bool) :
    (purchasePayments account p wholePurchase).Sublist account.payments := by
  unfold purchasePayments
  cases p.agreementId with
  | none => exact filter_sublist
  | some agreementId =>
    cases wholePurchase with
    | true => exact filter_sublist
    | false => exact filter_sublist

theorem voluntaryRate_of_purchase {account : Account} {p item : Payment}
    (hids : Table.Distinct Payment.id account.payments) (hp : p ∈ account.payments)
    (hitem : item ∈ purchasePayments account p (kind != .paymentError))
    (hchoice : kind.byChoice = true) (receivedAt : Nat) :
    voluntaryRate account item receivedAt = voluntaryRate account p receivedAt := by
  have hkind : (kind != .paymentError) = true := by
    cases kind <;> simp [ClaimKind.byChoice] at hchoice ⊢
  rw [hkind] at hitem
  cases ha : p.agreementId with
  | none =>
    have hmem : item ∈ account.payments ∧ item.id = p.id := by
      simpa [purchasePayments, ha] using hitem
    rw [hids.eq hmem.1 hp hmem.2]
  | some agreementId =>
    have hmem : item ∈ account.payments ∧ item.agreementId = some agreementId := by
      simpa [purchasePayments, ha, Account.agreementPayments] using hitem
    exact voluntaryRate_of_agreement ha hmem.2 receivedAt

/-- The rows a claim is quoted can all be reserved, in order, if and only if the claim has
the full rate or every partial collection of the purchase is already reserved in full. -/
theorem reserve_quote_iff (account : Account) (claim : RefundClaim) (p : Payment) (now : Nat)
    (hids : Table.Distinct Payment.id account.payments)
    (hp : account.payment? claim.paymentId = some p) (hfresh : claim.Unreserved account) :
    (∃ result, reserveAllocations account claim now
        (allocationQuote account p claim.kind claim.receivedAt) = .ok result) ↔
      quoteRate account p claim.kind claim.receivedAt = 100 ∨
        ∀ item ∈ purchasePayments account p (claim.kind != .paymentError),
          item.settled = true → item.failureCode = partialCollectionFailureCode →
            item.amountMinor ≤ item.reserved := by
  have hsub := purchasePayments_sublist account p (claim.kind != .paymentError)
  have hmem : p ∈ account.payments := find_mem hp
  have hrows := reserve_quoteRows_iff account claim
    (quoteRate account p claim.kind claim.receivedAt) now
    (purchasePayments account p (claim.kind != .paymentError)) account hids rfl
    (fun item hi => hids.find (hsub.subset hi)) (hids.sublist (hsub.map _))
    (fun item hi => hfresh item (hsub.subset hi))
  have hchoice : ∀ item ∈ purchasePayments account p (claim.kind != .paymentError),
      claim.kind.byChoice = true → voluntaryRate account item claim.receivedAt =
        quoteRate account p claim.kind claim.receivedAt := by
    intro item hi hk
    rw [voluntaryRate_of_purchase hids hmem hi hk, quoteRate, if_pos hk]
  have hfull : claim.kind.byChoice = false →
      quoteRate account p claim.kind claim.receivedAt = 100 := by
    intro hk
    simp [quoteRate, hk]
  have hle : quoteRate account p claim.kind claim.receivedAt ≤ 100 := by
    unfold quoteRate
    have := voluntaryRate_cases account p claim.receivedAt
    split <;> omega
  rw [show allocationQuote account p claim.kind claim.receivedAt = quoteRows _ _ from rfl, hrows]
  constructor
  · intro h
    by_cases hrate : quoteRate account p claim.kind claim.receivedAt = 100
    · exact .inl hrate
    · refine .inr fun item hi hsettled hpartial => ?_
      by_contra hopen
      have hamount : quoteAmount item (quoteRate account p claim.kind claim.receivedAt) ≠ 0 := by
        unfold quoteAmount itemRate
        rw [if_pos hpartial]
        omega
      have hfits := (quoteAmount_fits_iff (hchoice item hi) hfull hle hamount).mp
        (h item hi hsettled hamount)
      exact hfits.elim hrate fun hne => hne hpartial
  · intro h item hi hsettled hamount
    refine (quoteAmount_fits_iff (hchoice item hi) hfull hle hamount).mpr ?_
    rcases h with hrate | hcovered
    · exact .inl hrate
    · refine .inr fun hpartial => hamount ?_
      have hle' := hcovered item hi hsettled hpartial
      unfold quoteAmount itemRate
      rw [if_pos hpartial]
      omega

/-- A card submission that was decided at `reviewedAt`. -/
def decidedSubmission (status : SubmissionStatus) (reviewedAt : Nat) : ManualRechargeSubmission :=
  { status := status, submittedAt := 0, reviewedAt := some reviewedAt, rejectionReason := ""
    subscriptionPeriodStartedAt := 0, subscriptionPeriodEndsAt := 200 * day
    previousSubscriptionState := .blank .expired rollingVersion "trial_ended"
    isEarlyRenewal := false, previousSubscriptionEndAt := none, extensionStartedAt := none
    extensionEndsAt := none }

def firstInstallment : Payment :=
  { id := 2, price := termPrice (200 * day), amountMinor := 30000, currency := "LYD"
    refundedAmountMinor := 0, method := .libyana, status := .succeeded
    idempotencyKey := "purchase-000001", policyVersion := userPolicyVersion, failureCode := ""
    initiatedAt := 0, succeededAt := some 0, failedAt := none, agreementId := some 1
    installmentNumber := some 1, revision := 3, createdAt := 0, transitions := []
    manualSubmission := some (decidedSubmission .approved 0), refunds := [], invoice := none
    amount_pos := by decide }

def partialSecond : Payment :=
  { firstInstallment with
    id := 3, amountMinor := 10000, idempotencyKey := "purchase-000002"
    failureCode := partialCollectionFailureCode, succeededAt := some (11 * day)
    installmentNumber := some 2, createdAt := 10 * day
    manualSubmission := some (decidedSubmission .rejected (11 * day)), amount_pos := by decide }

def partlyCollectedAccount : Account :=
  { Account.empty with payments := [firstInstallment, partialSecond], nextId := 5 }

/-- A change of mind received on the twelfth day. -/
def lateClaim : RefundClaim :=
  newClaim ⟨2, .voluntary, .refund, "I no longer need it", "", "claim-00000001", none⟩ 4 2
    (12 * day) 25000

/-- The quote returns half of the first installment and all of the partial collection, and
the second of these is refused when it is reserved. -/
theorem quote_refused_by_reservation :
    ¬∀ (account : Account) (claim : RefundClaim) (p : Payment) (now : Nat),
      Table.Distinct Payment.id account.payments → account.payment? claim.paymentId = some p →
      claim.Unreserved account →
      ∃ result, reserveAllocations account claim now
        (allocationQuote account p claim.kind claim.receivedAt) = .ok result := by
  intro h
  obtain ⟨result, hok⟩ := h partlyCollectedAccount lateClaim firstInstallment (12 * day)
    (by decide) rfl (by simp [RefundClaim.Unreserved, partlyCollectedAccount, firstInstallment,
      partialSecond])
  have hrefused : reserveAllocations partlyCollectedAccount lateClaim (12 * day)
      (allocationQuote partlyCollectedAccount firstInstallment lateClaim.kind
        lateClaim.receivedAt) =
      .error (.value "Refund amount exceeds the refundable payment balance.") := by
    rfl
  rw [hrefused] at hok
  simp at hok

/-- The same claim received on the second day has the full rate. -/
theorem quote_reserved_on_second_day :
    (∃ result, reserveAllocations partlyCollectedAccount { lateClaim with receivedAt := 2 * day }
        (12 * day) (allocationQuote partlyCollectedAccount firstInstallment .voluntary (2 * day)) =
          .ok result) ↔
      quoteRate partlyCollectedAccount firstInstallment .voluntary (2 * day) = 100 ∨
        ∀ item ∈ purchasePayments partlyCollectedAccount firstInstallment true,
          item.settled = true → item.failureCode = partialCollectionFailureCode →
            item.amountMinor ≤ item.reserved :=
  reserve_quote_iff partlyCollectedAccount { lateClaim with receivedAt := 2 * day }
    firstInstallment (12 * day) (by decide) rfl
    (by simp [RefundClaim.Unreserved, partlyCollectedAccount, firstInstallment, partialSecond])

end LockIn.Commerce
