import LockIn.Commerce.AdminSpec
import LockIn.Commerce.PurchaseSpec
import LockIn.Commerce.Refreshing

/-!
# The keys that are spent

A key names what it was spent on: a date, a payment or a revision.  Dates are spent once
they have passed, payments once they exist and revisions before the next one, so that a
key about a later date, a new payment or the present revision is unspent.
-/

namespace LockIn.Commerce

open Relation

def TransitionKey.date : TransitionKey → Option Nat
  | .trialEnd endsAt | .periodEnd endsAt | .graceEnd endsAt => some endsAt
  | _ => none

def TransitionKey.payment : TransitionKey → Option Nat
  | .manualPayment id | .manualApproval id | .manualRejection id => some id
  | _ => none

def TransitionKey.revision : TransitionKey → Option Nat
  | .installmentSuspend _ revision | .installmentResume revision => some revision
  | _ => none

/-- What is known of the keys spent by `clock`. -/
structure KeyBooks (account : Account) (clock : Nat) : Prop where
  payments : PaymentIds account
  dates : ∀ key date, key.date = some date → account.spent key = true → date ≤ clock
  paymentKeys : ∀ key id, key.payment = some id → account.spent key = true → id < account.nextId
  revisions : ∀ s, account.subscription = some s → ∀ key revision, key.revision = some revision →
    account.spent key = true → revision < s.revision
  untouched : account.subscription = none → account.transitions = []

theorem keyBooks_empty : KeyBooks Account.empty 0 := by
  refine ⟨⟨List.nodup_nil, by simp [Account.empty]⟩, ?_, ?_, ?_, fun _ => rfl⟩
  · intro key date _ h
    exact absurd h (by simp [Account.spent, Account.empty])
  · intro key id _ h
    exact absurd h (by simp [Account.spent, Account.empty])
  · intro s hs
    exact absurd hs (by simp [Account.empty])

variable {key : TransitionKey}

theorem KeyBooks.date_fresh {account : Account} {clock : Nat} (h : KeyBooks account clock)
    {date : Nat} (hdate : key.date = some date) (hlt : clock < date) :
    account.spent key = false := by
  cases hs : account.spent key with
  | false => rfl
  | true => exact absurd (h.dates key date hdate hs) (Nat.not_le.mpr hlt)

theorem KeyBooks.payment_fresh {account : Account} {clock : Nat} (h : KeyBooks account clock)
    (hid : key.payment = some account.nextId) : account.spent key = false := by
  cases hs : account.spent key with
  | false => rfl
  | true => exact absurd (h.paymentKeys key _ hid hs) (Nat.lt_irrefl _)

section
variable {account : Account} {clock : Nat}

theorem KeyBooks.mono (h : KeyBooks account clock) {later : Nat} (hle : clock ≤ later) :
    KeyBooks account later :=
  { h with dates := fun key date hdate hs => Nat.le_trans (h.dates key date hdate hs) hle }

theorem KeyBooks.grants (h : KeyBooks account clock) (grants : List EntitlementGrant) :
    KeyBooks { account with grants := grants } clock :=
  ⟨⟨h.payments.distinct, h.payments.fresh⟩, h.dates, h.paymentKeys, h.revisions, h.untouched⟩

variable {result : Account} {now : Nat} {s : Subscription}

theorem KeyBooks.synced (h : KeyBooks account clock)
    (hsync : syncSubscriptionEntitlements account now = .ok result) : KeyBooks result clock := by
  obtain ⟨grants, rfl, _⟩ := sync_frame hsync
  exact h.grants grants

theorem KeyBooks.agreements (h : KeyBooks account clock) (agreements : List InstallmentAgreement) :
    KeyBooks { account with agreements := agreements } clock :=
  ⟨⟨h.payments.distinct, h.payments.fresh⟩, h.dates, h.paymentKeys, h.revisions, h.untouched⟩

/-- A row is written under one more key.  The key is about a date that has passed, a payment
that exists and an earlier revision, as far as it is about these. -/
theorem KeyBooks.written (h : KeyBooks account clock) {t : SubscriptionTransition}
    (hle : clock ≤ now)
    (hrevision : ∀ old, account.subscription = some old → old.revision ≤ s.revision)
    (hdate : ∀ date, t.key.date = some date → date ≤ now)
    (hpayment : ∀ id, t.key.payment = some id → id < account.nextId)
    (hkey : ∀ revision, t.key.revision = some revision → revision < s.revision) :
    KeyBooks ((account.putSubscription s).record t) now := by
  have hspent : ∀ key, ((account.putSubscription s).record t).spent key =
      (account.spent key || t.key == key) := fun key => spent_append rfl key
  refine ⟨⟨h.payments.distinct, h.payments.fresh⟩, ?_, ?_, ?_, ?_⟩
  · intro key date hd hs
    rw [hspent, Bool.or_eq_true, beq_iff_eq] at hs
    rcases hs with hs | rfl
    · exact Nat.le_trans (h.dates key date hd hs) hle
    · exact hdate date hd
  · intro key id hid hs
    rw [hspent, Bool.or_eq_true, beq_iff_eq] at hs
    rcases hs with hs | rfl
    · exact h.paymentKeys key id hid hs
    · exact hpayment id hid
  · intro u hu key revision hr hs
    cases hu
    rw [hspent, Bool.or_eq_true, beq_iff_eq] at hs
    rcases hs with hs | rfl
    · cases hold : account.subscription with
      | none =>
        have hempty : account.spent key = false := by
          rw [Account.spent, h.untouched hold]
          rfl
        rw [hempty] at hs
        simp at hs
      | some old =>
        exact Nat.lt_of_lt_of_le (h.revisions old hold key revision hr hs) (hrevision old hold)
    · exact hkey revision hr
  · intro hnone
    exact absurd hnone (by simp [Account.record, Account.putSubscription])

theorem Reconciling.keys {r : TransitionRequest} (h : Reconciling s now r) :
    (∀ date, r.key.date = some date → date ≤ now) ∧ r.key.payment = none ∧
      ∀ revision, r.key.revision = some revision → revision = s.revision := by
  cases h with
  | trialEnded endsAt _ _ hle =>
    refine ⟨fun date hd => ?_, rfl, fun _ hr => absurd hr (by simp [reconcile, TransitionKey.revision])⟩
    cases hd
    exact hle
  | periodMissing _ _ _ =>
    exact ⟨fun date hd => absurd hd (by simp [reconcile, TransitionKey.date]), rfl,
      fun _ hr => absurd hr (by simp [reconcile, TransitionKey.revision])⟩
  | periodEnded endsAt _ _ hle =>
    refine ⟨fun date hd => ?_, rfl, fun _ hr => absurd hr (by simp [reconcile, TransitionKey.revision])⟩
    cases hd
    exact hle
  | graceEnded endsAt _ _ hle =>
    refine ⟨fun date hd => ?_, rfl, fun _ hr => absurd hr (by simp [reconcile, TransitionKey.revision])⟩
    cases hd
    exact hle
  | suspended agreementId _ =>
    refine ⟨fun date hd => absurd hd (by simp [suspendRequest, reconcile, TransitionKey.date]), rfl,
      fun revision hr => ?_⟩
    cases hr
    rfl
  | resumed _ _ =>
    refine ⟨fun date hd => absurd hd (by simp [resumeRequest, reconcile, TransitionKey.date]), rfl,
      fun revision hr => ?_⟩
    cases hr
    rfl
  | lapsed endsAt _ _ hle =>
    refine ⟨fun date hd => ?_, rfl, fun _ hr => absurd hr (by simp [reconcile, TransitionKey.revision])⟩
    cases hd
    exact hle

theorem KeyBooks.step (h : KeyBooks account clock) {result : Account} {now : Nat} (hle : clock ≤ now)
    (hstep : ReconcileStep now account result) : KeyBooks result now := by
  cases hstep with
  | moved s r _ hs hr hfresh hsync =>
    obtain ⟨hdate, hpayment, hrevision⟩ := hr.keys
    refine KeyBooks.synced ?_ hsync
    refine h.written hle ?_ hdate ?_ ?_
    · intro old hold
      obtain rfl : old = s := Option.some.inj (hold.symm.trans hs)
      exact Nat.le_succ _
    · intro id hid
      exact absurd (hpayment.symm.trans hid) (by simp)
    · intro revision hr
      rw [hrevision revision hr]
      exact Nat.lt_succ_self _
  | completed agreement _ => exact (h.mono hle).agreements _

theorem steps_invariant {I : Account → Nat → Prop} (hmono : ∀ a, I a clock → I a now)
    (hstep : ∀ a b, I a now → ReconcileStep now a b → I b now) (h : I account clock)
    (hsteps : ReflTransGen (ReconcileStep now) account result) : I result now := by
  induction hsteps with
  | refl => exact hmono _ h
  | tail _ hlast ih => exact hstep _ _ ih hlast

theorem KeyBooks.putPayment (h : KeyBooks account clock) {old p : Payment}
    (hold : old ∈ account.payments) (hid : p.id = old.id) :
    KeyBooks (account.putPayment p) clock := by
  refine ⟨⟨h.payments.distinct.put p, fun x hx => ?_⟩, h.dates, h.paymentKeys, h.revisions,
    h.untouched⟩
  rcases Table.mem_of_mem_put hx with rfl | hx
  · rw [hid]
    exact h.payments.fresh old hold
  · exact h.payments.fresh x hx

theorem KeyBooks.addPayment (h : KeyBooks account clock) {p : Payment} (hid : p.id = account.nextId)
    {nextId : Nat} (hlt : account.nextId < nextId) (agreements : List InstallmentAgreement) :
    KeyBooks { account with
      payments := account.payments ++ [p], agreements := agreements, nextId := nextId } clock := by
  refine ⟨⟨h.payments.distinct.append fun x hx => ?_, fun x hx => ?_⟩, h.dates, ?_, h.revisions,
    h.untouched⟩
  · rw [hid]
    exact h.payments.ne_nextId x hx
  · rcases List.mem_append.mp hx with hx | hx
    · exact Nat.lt_trans (h.payments.fresh x hx) hlt
    · obtain rfl : x = p := by simpa using hx
      rw [hid]
      exact hlt
  · intro key id hkey hs
    exact Nat.lt_trans (h.paymentKeys key id hkey hs) hlt

end

end LockIn.Commerce
