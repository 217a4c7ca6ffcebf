import LockIn.Commerce.ReaderPurchases

/-!
# A refresh settles the subscription

`_refresh_lifecycle` calls itself after the end of a paid period and relies on the
transition having moved the status on.  The transition does nothing when its key is spent,
so a period that is reserved a second time after its end was recorded sends the call into
itself without end.  `Account.reservesUnrecorded` is the condition on a purchase that rules
this out.  In runs whose purchases meet it every refresh comes to an end, in a settled
subscription that a further refresh leaves as it is.
-/

namespace LockIn.Commerce

open Gregorian Outcome Relation

variable {endsAt : Nat} {price : Price} {window : Nat × Nat}

section
variable {account result : Account} {s : Subscription} {now : Nat}

theorem Reconciling.dateKeys {r : TransitionRequest} (h : Reconciling s now r) :
    (∀ endsAt, r.key = .periodEnd endsAt → s.currentPeriodEndsAt = some endsAt) ∧
      ∀ endsAt, r.key = .graceEnd endsAt →
        s.status = .grace ∧ s.graceEndsAt = some endsAt ∧ endsAt ≤ now := by
  cases h with
  | trialEnded => exact ⟨by simp [reconcile], by simp [reconcile]⟩
  | periodMissing => exact ⟨by simp [reconcile], by simp [reconcile]⟩
  | periodEnded endsAt _ hends _ =>
    refine ⟨fun x hx => ?_, by simp [reconcile]⟩
    cases hx
    exact hends
  | graceEnded endsAt hstatus hends hle =>
    refine ⟨by simp [reconcile], fun x hx => ?_⟩
    cases hx
    exact ⟨hstatus, hends, hle⟩
  | suspended => exact ⟨by simp [suspendRequest, reconcile], by simp [suspendRequest, reconcile]⟩
  | resumed => exact ⟨by simp [resumeRequest, reconcile], by simp [resumeRequest, reconcile]⟩
  | lapsed endsAt _ hends _ =>
    refine ⟨fun x hx => ?_, by simp [reconcile]⟩
    cases hx
    exact hends

theorem steps_periodEnd (h : ReflTransGen (ReconcileStep now) account result)
    (hs : account.subscription = some s) (hspent : result.spent (.periodEnd endsAt) = true) :
    account.spent (.periodEnd endsAt) = true ∨ s.currentPeriodEndsAt = some endsAt := by
  induction h with
  | refl => exact .inl hspent
  | tail hsteps hstep ih =>
    cases hstep with
    | completed agreement _ => exact ih hspent
    | moved t r _ ht hr _ hsync =>
      obtain ⟨u, hu, hterms⟩ := steps_terms hsteps hs
      obtain rfl : u = t := Option.some.inj (hu.symm.trans ht)
      rw [spent_append (moved_synced hsync).2.1, Bool.or_eq_true, beq_iff_eq] at hspent
      rcases hspent with hspent | hkey
      · exact ih hspent
      · exact .inr (hterms.periodEnds.symm.trans (hr.dateKeys.1 endsAt hkey))

/-- Once the period is over a refresh makes nothing active, and the grace window that it
records as over is the one of a row that was active or in it. -/
theorem steps_graceEnd (h : ReflTransGen (ReconcileStep now) account result)
    (hs : account.subscription = some s) (hover : s.currentPeriodEndsAt.any (· ≤ now) = true) :
    (∀ t, result.subscription = some t → (t.status = .active → s.status = .active) ∧
        (t.status = .grace → s.status = .active ∨ s.status = .grace)) ∧
      ∀ endsAt, result.spent (.graceEnd endsAt) = true → account.spent (.graceEnd endsAt) = true ∨
        (s.graceEndsAt = some endsAt ∧ endsAt ≤ now ∧
          (s.status = .active ∨ s.status = .grace)) := by
  induction h with
  | refl =>
    refine ⟨fun t ht => ?_, fun _ => .inl⟩
    obtain rfl : t = s := Option.some.inj (ht.symm.trans hs)
    exact ⟨id, .inr⟩
  | tail hsteps hstep ih =>
    obtain ⟨hstatus, hkeys⟩ := ih
    cases hstep with
    | completed agreement _ => exact ⟨hstatus, hkeys⟩
    | moved t r _ ht hr _ hsync =>
      obtain ⟨u, hu, hterms⟩ := steps_terms hsteps hs
      obtain rfl : u = t := Option.some.inj (hu.symm.trans ht)
      obtain ⟨hrow, hhistory, _⟩ := moved_synced hsync
      refine ⟨fun v hv => ?_, fun endsAt hspent => ?_⟩
      · obtain rfl : v = u.transitioned r := Option.some.inj (hv.symm.trans hrow)
        refine ⟨fun hactive => ?_, fun hgrace => ?_⟩
        · obtain ⟨periodEnd, hends, hle⟩ := (Option.any_eq_true _ _).mp hover
          have hlate : ¬now < periodEnd := by simpa using hle
          cases hr with
          | resumed _ hahead =>
            rw [hterms.periodEnds, hends] at hahead
            exact absurd (by simpa using hahead) hlate
          | trialEnded =>
            by_cases hcancel : u.cancelAtPeriodEnd = true
            · simp [Subscription.transitioned, reconcile, hcancel] at hactive
            · simp [Subscription.transitioned, reconcile, hcancel] at hactive
          | periodMissing => exact absurd hactive (by simp [Subscription.transitioned, reconcile])
          | periodEnded _ hwas => exact (hstatus u ht).1 hwas
          | graceEnded => exact absurd hactive (by simp [Subscription.transitioned, reconcile])
          | suspended _ hwas => exact (hstatus u ht).1 hwas
          | lapsed => exact absurd hactive (by simp [Subscription.transitioned, reconcile])
        · exact .inl ((hstatus u ht).1 (hr.intoGrace hgrace).1)
      · rw [spent_append hhistory, Bool.or_eq_true, beq_iff_eq] at hspent
        rcases hspent with hspent | hkey
        · exact hkeys endsAt hspent
        · obtain ⟨hgrace, hends, hle⟩ := hr.dateKeys.2 endsAt hkey
          exact .inr ⟨hterms.grace.symm.trans hends, hle, (hstatus u ht).2 hgrace⟩

end

/-- Whether the period that a purchase at `now` reserves is still to come for the history.
Only a duration plan bought inside the grace window of the last period can reserve one that
is not, since every other purchase reserves a period that ends after `now`. -/
def Account.reservesUnrecorded (account : Account) (price : Price) (now : Nat) : Bool :=
  match account.subscription, fixedPeriodEnd price.planVersion with
  | some s, none =>
    s.currentPeriodEndsAt.all fun periodEnd => s.graceEndsAt.all fun graceEnd =>
      let endsAt := advanceInterval periodEnd price.interval price.intervalCount
      let newGraceEnd := addDays endsAt price.planVersion.graceDays
      decide (graceEnd < now) ||
        (!account.spent (.periodEnd endsAt) &&
          (price.planVersion.graceDays == 0 || s.cancelAtPeriodEnd ||
            (!account.spent (.graceEnd newGraceEnd) &&
              -- An overdue period whose grace window ends now is reconciled by this call.
              !(s.status == .active && graceEnd == now && newGraceEnd == now))))
  | _, _ => true

/-- A window opens at the end of the last period, or ends later than `now`. -/
theorem paidPeriodAnchor_cases (v : SubscriptionState) (now : Nat) :
    now ≤ paidPeriodAnchor v now ∨
      ((v.status = .active ∨ v.status = .grace ∨ v.graceEndsAt.any (now ≤ ·) = true) ∧
        v.currentPeriodEndsAt = some (paidPeriodAnchor v now)) := by
  unfold paidPeriodAnchor
  split
  · next htrial =>
    obtain ⟨endsAt, hends, hlt⟩ := (Option.any_eq_true _ _).mp htrial.2
    left
    rw [hends]
    exact Nat.le_of_lt (by simpa using hlt)
  · split
    · next hsecond =>
      obtain ⟨endsAt, hends⟩ := Option.isSome_iff_exists.mp (hsecond.elim And.right And.left)
      rw [hends]
      refine .inr ⟨?_, rfl⟩
      rcases hsecond with ⟨hactive | hgrace, _⟩ | ⟨_, hgrace⟩
      · exact .inl hactive
      · exact .inr (.inl hgrace)
      · exact .inr (.inr hgrace)
    · exact .inl (Nat.le_refl _)

/-- A window that is bought is still to come, unless it opens at the end of the last period
inside its grace window. -/
theorem windowEnd_ahead {account : Account} {s : Subscription} {now : Nat}
    (hbase : PurchaseBase True account s now)
    (hallowed : purchaseBlockReason account s.toSubscriptionState price now = none)
    (hwindow : paidPeriodWindow s.toSubscriptionState price now = .ok window) :
    now < window.2 ∨ (fixedPeriodEnd price.planVersion = none ∧ ∃ periodEnd,
      s.currentPeriodEndsAt = some periodEnd ∧ periodEnd ≤ now ∧
      s.graceEndsAt.any (now ≤ ·) = true ∧
      window.2 = advanceInterval periodEnd price.interval price.intervalCount) := by
  obtain ⟨hsame, hlt⟩ := paidPeriodWindow_ok hwindow
  rcases paidPeriodAnchor_cases s.toSubscriptionState now with hle | ⟨hstatus, hends⟩
  · rw [hsame] at hlt ⊢
    exact .inl (Nat.lt_of_le_of_lt hle hlt)
  · cases hf : fixedPeriodEnd price.planVersion with
    | some fixedEnd =>
      have hend : window.2 = fixedEnd := by
        rw [hsame]
        simp [windowEnd, hf]
      left
      by_contra hpast
      have hover : fixedEnd ≤ now := by omega
      unfold purchaseBlockReason at hallowed
      simp only [hf, hover, if_true] at hallowed
      split at hallowed
      · simp at hallowed
      · split at hallowed
        · simp at hallowed
        · simp at hallowed
    | none =>
      have hend : window.2 = advanceInterval (paidPeriodAnchor s.toSubscriptionState now)
          price.interval price.intervalCount := by
        rw [hsame]
        simp [windowEnd, hf]
      by_cases hpast : paidPeriodAnchor s.toSubscriptionState now ≤ now
      · refine .inr ⟨rfl, _, hends, hpast, ?_, hend⟩
        rcases hstatus with hactive | hgrace | hany
        · exact absurd (hbase.active hactive _ hends) (Nat.not_lt.mpr hpast)
        · exact hbase.grace trivial hgrace
        · exact hany
      · left
        rw [hsame] at hlt ⊢
        exact Nat.lt_trans (Nat.not_le.mp hpast) hlt

theorem reserved_fresh {account : Account} {clock : Nat} (h : ReaderBooks True account clock)
    {user : User} {key : String} {pay : Bool} {now : Nat} {opened reconciled result : Account}
    {first s : Subscription} {p : Payment} (hle : clock ≤ now)
    (hsub : Submitted account user price key pay now opened reconciled first s window p result)
    (hcond : account.reservesUnrecorded price now = true) :
    reconciled.spent (.periodEnd window.2) = false ∧
      (0 < price.planVersion.graceDays → s.cancelAtPeriodEnd = false →
        reconciled.spent (.graceEnd (addDays window.2 price.planVersion.graceDays)) = false) := by
  obtain ⟨hbooks, _, hfirst⟩ := openSubscription_frame hsub.opens
  obtain ⟨hreconciled, hbase⟩ := (h.opened hle hsub.opens).reconciled (Nat.le_refl _)
    ((submissionPending_congr hbooks.payments).trans hsub.idle) hfirst hsub.reconciles
    hsub.subscription
  rcases windowEnd_ahead hbase hsub.allowed hsub.purchased.reserved with
    hlater | ⟨hrolling, periodEnd, hends, hover, hgrace, hend⟩
  · have hle' := le_addDays window.2 price.planVersion.graceDays
    exact ⟨hreconciled.keys.date_fresh rfl hlater,
      fun _ _ => hreconciled.keys.date_fresh rfl (by omega)⟩
  · -- The row was there before the call, with the dates it has now.
    obtain ⟨graceEnd, hgraceEnds, hge⟩ := (Option.any_eq_true _ _).mp hgrace
    have hrow : SameTerms first s ∧ (keepsGrace first.toSubscriptionState now = true ∧
          reconciled = opened ∨ keepsGrace first.toSubscriptionState now = false ∧
          ReflTransGen (ReconcileStep now) opened reconciled) := by
      have hok := hsub.reconciles
      unfold reconcileForPurchase at hok
      split at hok
      · next hkeeps =>
        cases hok
        obtain rfl : s = first := Option.some.inj (hsub.subscription.symm.trans hfirst)
        exact ⟨.refl _, .inl ⟨hkeeps, rfl⟩⟩
      · next hkeeps =>
        obtain ⟨t, ht, hterms⟩ := steps_terms (refreshSubscription_steps hok) hfirst
        obtain rfl : s = t := Option.some.inj (hsub.subscription.symm.trans ht)
        exact ⟨hterms, .inr ⟨by simpa using hkeeps, refreshSubscription_steps hok⟩⟩
    obtain ⟨hterms, hreconciles⟩ := hrow
    have hfirstEnds : first.currentPeriodEndsAt = some periodEnd := hterms.periodEnds.symm.trans hends
    have hsame : account.subscription = some first ∧ opened = account := by
      rcases openSubscription_ok hsub.opens with hexists | ⟨_, _, hnew⟩
      · exact hexists
      · cases hnew
        exact absurd hfirstEnds (by simp [awaitingPayment, SubscriptionState.blank])
    obtain ⟨hs, rfl⟩ := hsame
    have hfirstGrace : first.graceEndsAt = some graceEnd := hterms.grace.symm.trans hgraceEnds
    have hnotOver : ¬graceEnd < now := by simpa using hge
    simp only [Account.reservesUnrecorded, hs, hrolling, hfirstEnds, hfirstGrace, Option.all_some,
      Bool.or_eq_true, Bool.and_eq_true, decide_eq_true_eq, Bool.not_eq_true', hnotOver,
      false_or, ← hend, beq_iff_eq, ← hterms.cancel] at hcond
    obtain ⟨hperiodFresh, hgraceCond⟩ := hcond
    have hlt : periodEnd < window.2 := by
      rw [hend]
      exact lt_advanceInterval _ _ price.interval_pos
    rcases hreconciles with ⟨_, rfl⟩ | ⟨hnotKept, hsteps⟩
    · refine ⟨hperiodFresh, fun hdays hcancel => ?_⟩
      rcases hgraceCond with (hzero | hcancels) | ⟨hfresh, _⟩
      · omega
      · exact absurd (hcancel.symm.trans hcancels) (by simp)
      · exact hfresh
    · have hoverAny : first.currentPeriodEndsAt.any (· ≤ now) = true := by simp [hfirstEnds, hover]
      refine ⟨?_, fun hdays hcancel => ?_⟩
      · cases hspent : reconciled.spent (.periodEnd window.2) with
        | false => rfl
        | true =>
          rcases steps_periodEnd hsteps hs hspent with hbefore | hnamed
          · exact absurd (hperiodFresh.symm.trans hbefore) (by simp)
          · cases hfirstEnds.symm.trans hnamed
            exact absurd hlt (Nat.lt_irrefl _)
      · cases hspent : reconciled.spent
            (.graceEnd (addDays window.2 price.planVersion.graceDays)) with
        | false => rfl
        | true =>
          rcases hgraceCond with (hzero | hcancels) | ⟨hfresh, hnow⟩
          · omega
          · exact absurd (hcancel.symm.trans hcancels) (by simp)
          · rcases (steps_graceEnd hsteps hs hoverAny).2 _ hspent with
              hbefore | ⟨hnamed, hpast, hstatus⟩
            · exact absurd (hfresh.symm.trans hbefore) (by simp)
            · have hboundary : graceEnd = now := by
                cases hfirstGrace.symm.trans hnamed
                omega
              rcases hstatus with hactive | hin
              · cases hfirstGrace.symm.trans hnamed
                simp [hactive, hboundary] at hnow
              · simp [keepsGrace, hin, hfirstGrace, hboundary] at hnotKept

def Command.readerWork : Command → Bool
  | .createTrialForUser _ | .submitManualRecharge .. | .submitInstallmentPayment ..
  | .reviewManualRecharge .. | .scheduleCancellation | .refreshSubscription => true
  | _ => false

/-- The condition on a call: a purchase made for the first time reserves a period that is
still to come for the history. -/
def Call.reservesUnrecorded (call : Call) (account : Account) : Bool :=
  match call.command with
  | .submitManualRecharge price _ idempotencyKey _ =>
    (account.paymentByKey idempotencyKey).isSome || account.reservesUnrecorded price call.now
  | _ => true

section
variable {K : Prop} {account result : Account} {clock : Nat}

variable {call : Call}

theorem ReaderBooks.execute (h : ReaderBooks K account clock) (hle : clock ≤ call.now)
    (hwork : call.command.readerWork = true) (hreserve : K → call.reservesUnrecorded account = true)
    (hok : call.execute account = .ok result) : ReaderBooks K result call.now := by
  obtain ⟨settings, user, now, command⟩ := call
  cases command with
  | createTrialForUser startedAt =>
    obtain ⟨created, hcreated, rfl⟩ := map_eq_ok.mp hok
    exact h.trialCreated hle hcreated
  | submitManualRecharge price codes key pay =>
    obtain ⟨submitted, hsubmitted, rfl⟩ := map_eq_ok.mp hok
    rcases submitManualRecharge_ok h.keys.payments hsubmitted with
      ⟨_, hsame⟩ | ⟨_, opened, reconciled, first, s, window, p, hsub⟩
    · rw [hsame]
      exact h.mono hle
    · refine h.submitted hle hsub fun hk => ?_
      obtain rfl : K = True := eq_true hk
      exact (reserved_fresh h hle hsub
        (by simpa [Call.reservesUnrecorded, hsub.newKey] using hreserve hk)).2
  | submitInstallmentPayment agreementId codes key =>
    obtain ⟨submitted, hsubmitted, rfl⟩ := map_eq_ok.mp hok
    rcases submitInstallmentPayment_ok h.keys.payments hsubmitted with
      hsame | ⟨hidle, agreement, reconciled, s, p, paid, _, _, hreconciled, _, hpaid, hrefreshed⟩
    · rw [hsame]
      exact h.mono hle
    · have hbooks := refreshSubscription_frame hreconciled
      have hpaidBooks := (h.refreshed hle hreconciled).installmentPaid
        ((submissionPending_congr hbooks.payments).trans hidle) hpaid
      exact hpaidBooks.refreshed (Nat.le_refl _) hrefreshed
  | reviewManualRecharge paymentId review =>
    obtain ⟨reviewed, hreviewed, rfl⟩ := map_eq_ok.mp hok
    rcases reviewManualRecharge_ok hreviewed with rfl | ⟨p, s, submission, decided, after, hr⟩
    · exact h.mono hle
    · exact (h.reviewed hle hr).1
  | scheduleCancellation => exact h.cancellationScheduled hle hok
  | refreshSubscription => exact h.refreshed hle hok
  | _ => exact absurd hwork (by simp [Command.readerWork])

/-- In a run under the condition no active period has its end recorded. -/
theorem Account.PeriodFresh.execute (h : account.PeriodFresh)
    (hbooks : ReaderBooks True account clock) (hle : clock ≤ call.now)
    (hwork : call.command.readerWork = true) (hreserve : call.reservesUnrecorded account = true)
    (hok : call.execute account = .ok result) : result.PeriodFresh := by
  have hkept := hbooks.execute hle hwork (fun _ => hreserve) hok
  obtain ⟨settings, user, now, command⟩ := call
  cases command with
  | createTrialForUser startedAt =>
    obtain ⟨created, hcreated, rfl⟩ := map_eq_ok.mp hok
    rcases createTrialForUser_ok hcreated with ⟨_, hsame⟩ | ⟨_, version, start, hsynced⟩
    · rw [hsame]
      exact h
    · obtain ⟨grants, hgrants, _⟩ := sync_frame hsynced
      rw [hgrants]
      intro t endsAt ht hactive
      cases ht
      exact absurd hactive (by simp [trialSubscription, SubscriptionState.blank])
  | submitManualRecharge price codes key pay =>
    obtain ⟨submitted, hsubmitted, rfl⟩ := map_eq_ok.mp hok
    rcases submitManualRecharge_ok hbooks.keys.payments hsubmitted with
      ⟨_, hsame⟩ | ⟨_, opened, reconciled, first, s, window, p, hsub⟩
    · rw [hsame]
      exact h
    · have hkeys := (hbooks.opened hle hsub.opens).reconciled (Nat.le_refl _)
        ((submissionPending_congr (openSubscription_frame hsub.opens).1.payments).trans hsub.idle)
        (openSubscription_frame hsub.opens).2.2 hsub.reconciles hsub.subscription
      obtain ⟨_, hrow, hhistory⟩ := hsub.purchased.moved (hkeys.1.keys.payment_fresh rfl)
      intro t endsAt ht _ hends
      cases ht.symm.trans hrow
      obtain rfl : window.2 = endsAt := Option.some.inj hends
      rw [spent_append hhistory, (reserved_fresh hbooks hle hsub
        (by simpa [Call.reservesUnrecorded, hsub.newKey] using hreserve)).1]
      rfl
  | submitInstallmentPayment agreementId codes key =>
    obtain ⟨submitted, hsubmitted, rfl⟩ := map_eq_ok.mp hok
    rcases submitInstallmentPayment_ok hbooks.keys.payments hsubmitted with
      hsame | ⟨_, agreement, reconciled, s, p, paid, _, _, _, _, _, hrefreshed⟩
    · rw [hsame]
      exact h
    · exact hkept.keys.periodFresh hrefreshed
  | reviewManualRecharge paymentId review =>
    obtain ⟨reviewed, hreviewed, rfl⟩ := map_eq_ok.mp hok
    rcases reviewManualRecharge_ok hreviewed with rfl | ⟨p, s, submission, decided, after, hr⟩
    · exact h
    · exact (hbooks.reviewed hle hr).2 h
  | scheduleCancellation =>
    rcases scheduleCancellation_ok hok with rfl | ⟨s, hs, _, _, _, rfl⟩
    · exact h
    · intro t endsAt ht hactive hends
      cases ht
      have hfresh := h s endsAt hs hactive hends
      simpa [Account.spent, Account.record, Account.putSubscription] using hfresh
  | refreshSubscription => exact hkept.keys.periodFresh hok
  | _ => exact absurd hwork (by simp [Command.readerWork])

end

/-- No date has passed by `now` that the lifecycle has a transition for. -/
def SubscriptionState.Settled (v : SubscriptionState) (now : Nat) : Prop :=
  (v.status = .trialing → v.trialEndsAt.all (now < ·) = true) ∧
    (v.status = .active → v.currentPeriodEndsAt.all (now < ·) = true) ∧
    (v.status = .grace → v.graceEndsAt.all (now < ·) = true)

/-- A refresh at `now` comes to an end, on any stack of two calls or more, in a settled
subscription that refreshing again leaves as it is. -/
def Account.RefreshSettles (account : Account) (now : Nat) : Prop :=
  ∃ result t, refreshSubscription account now = .ok result ∧
    (∀ depth, refreshSubscriptionWithin (depth + 2) account now = .ok result) ∧
    result.subscription = some t ∧ t.Settled now ∧ refreshSubscription result now = .ok result

theorem settled_of_nothing_due {s : Subscription} {now : Nat} (h : dueTransition s now = none) :
    s.Settled now := by
  refine ⟨fun hstatus => ?_, fun hstatus => ?_, fun hstatus => ?_⟩
  · cases hends : s.trialEndsAt with
    | none => rfl
    | some endsAt => simpa [dueTransition, hstatus, hends] using h
  · cases hends : s.currentPeriodEndsAt with
    | none => rfl
    | some endsAt => simpa [dueTransition, hstatus, hends] using h
  · cases hends : s.graceEndsAt with
    | none => rfl
    | some endsAt => simpa [dueTransition, hstatus, hends] using h

theorem refreshLifecycle_recursion {account : Account} {s : Subscription} {now : Nat}
    (hs : account.subscription = some s) (hactive : s.status = .active)
    (hends : s.currentPeriodEndsAt = some endsAt) (hle : endsAt ≤ now)
    (hspent : account.spent (.periodEnd endsAt) = true) (depth : Nat) :
    refreshLifecycle now depth account = .error .recursion := by
  have hdue : ∃ r, r.key = .periodEnd endsAt ∧ dueTransition s now = some (r, true) := by
    simp [dueTransition, hactive, hends, hle, reconcile]
  obtain ⟨r, hkey, hr⟩ := hdue
  induction depth with
  | zero => rfl
  | succ depth ih =>
    rw [refreshLifecycle]
    simp only [hs, hr, transition_spent hs (r := r) (by rw [hkey]; exact hspent) now,
      ok_bind, if_true, ih]

/-- A row whose dates are in order and whose period is not recorded as over is settled by a
refresh. -/
theorem ReaderBooks.refreshSettles {account : Account} {clock : Nat}
    (h : ReaderBooks True account clock) (hfresh : account.PeriodFresh) {s : Subscription}
    (hs : account.subscription = some s) (now : Nat) : account.RefreshSettles now := by
  have hrow := h.row s hs
  have hahead : DatesAhead account s := by
    refine ⟨fun htrial endsAt hends => ?_, fun hactive => ?_, h.graceFresh trivial s hs⟩
    · obtain ⟨_, trialEnd, htrialEnd, hunspent⟩ := hrow.trial htrial
      cases htrialEnd.symm.trans hends
      exact hunspent
    · obtain ⟨endsAt, hends, _⟩ := hrow.dated (by rw [hactive]; rfl)
      exact ⟨endsAt, hends, hfresh s endsAt hs hactive hends⟩
  have hheld : s.status = .suspended → s.currentPeriodEndsAt.isSome = true := by
    intro hsuspended
    obtain ⟨endsAt, hends, _⟩ := hrow.dated (by rw [hsuspended]; rfl)
    simp [hends]
  obtain ⟨result, t, hresult, ht, hquiet⟩ : ∃ result t,
      (∀ depth, refreshSubscriptionWithin (depth + 2) account now = .ok result) ∧
        result.subscription = some t ∧ result.Quiet t now :=
    refreshSubscription_total hs hahead h.convergent h.agreements hheld
  exact ⟨result, t, hresult 998, hresult, ht, settled_of_nothing_due hquiet.1,
    hquiet.refresh ht 999⟩

/-- The steps of a reader or a reviewer whose purchases reserve a period still to come for
the history. -/
def UnrecordedWork (account : Account) (call : Call) : Prop :=
  call.command.readerWork = true ∧ call.reservesUnrecorded account = true

instance (account : Account) (call : Call) : Decidable (UnrecordedWork account call) :=
  inferInstanceAs (Decidable (_ ∧ _))

/-- In every state reached by trials, purchases, reviews, cancellations and refreshes whose
purchases reserve what is still to come for the history, a refresh settles the
subscription. -/
theorem refresh_settles_of_unrecorded (account : Account) (clock : Nat) (s : Subscription)
    (h : commerce.Reaches UnrecordedWork account clock) (hs : account.subscription = some s)
    (now : Nat) (hle : clock ≤ now) : account.RefreshSettles now := by
  have hkept : ReaderBooks True account clock ∧ account.PeriodFresh :=
    h.invariant (I := fun account clock => ReaderBooks True account clock ∧ account.PeriodFresh)
      ⟨readerBooks_empty, fun s _ hs => absurd hs (by simp [commerce, commerceFrom, Account.empty])⟩
      fun a _ call b hi hle hadmits hexec =>
        ⟨hi.1.execute hle hadmits.1 (fun _ => hadmits.2) hexec,
          hi.2.execute hi.1 hle hadmits.1 hadmits.2 hexec⟩
  exact (hkept.1.mono hle).refreshSettles hkept.2 hs now

def weekly : Price :=
  { thirtyDays { rollingVersion with graceDays := 14 } with
    intervalCount := 7, interval_pos := by decide }

/-- A card bought in the grace window reserves the week after the last one, which is over as
well.  A refresh records its end, the card is rejected, and another card reserves the same
week again. -/
def weekReservedTwice : List Call :=
  [purchaseAt 0 weekly "purchase-000001", decideAt 0 1 .approve "review-000001",
    callAt (15 * day) .refreshSubscription,
    purchaseAt (15 * day) weekly "purchase-000002",
    callAt (15 * day) .refreshSubscription,
    decideAt (15 * day) 2 .reject "review-000002",
    purchaseAt (15 * day) weekly "purchase-000003"]

theorem week_reserved_twice_recurses :
    ¬∀ (account : Account) (clock : Nat) (s : Subscription),
      commerce.Reaches (fun _ call => call.command.readerWork = true) account clock →
      account.subscription = some s → ∀ now, clock ≤ now → account.RefreshSettles now := by
  intro h
  have hreached : commerce.Reaches (fun _ call => call.command.readerWork = true)
      (commerce.outcome weekReservedTwice) (15 * day) :=
    Machine.Reaches.of_accepts (by decide +kernel) (by decide +kernel) (by decide +kernel)
  have hrow : (commerce.outcome weekReservedTwice).subscription.any (fun s =>
      s.status == .active && s.currentPeriodEndsAt == some (14 * day)) = true := by
    decide +kernel
  have hspent : (commerce.outcome weekReservedTwice).spent (.periodEnd (14 * day)) = true := by
    decide +kernel
  obtain ⟨s, hs, hboth⟩ := (Option.any_eq_true _ _).mp hrow
  rw [Bool.and_eq_true, beq_iff_eq, beq_iff_eq] at hboth
  have hle : 14 * day ≤ 15 * day := by decide
  obtain ⟨result, _, hresult, _⟩ := h _ _ s hreached hs (15 * day) (Nat.le_refl _)
  obtain ⟨_, hlifecycle, _⟩ := bind_eq_ok.mp hresult
  rw [refreshLifecycle_recursion hs hboth.1 hboth.2 hle hspent] at hlifecycle
  simp at hlifecycle

def weekRenewed : List Call :=
  [purchaseAt 0 weekly "purchase-000001", decideAt 0 1 .approve "review-000001",
    callAt (8 * day) .refreshSubscription,
    purchaseAt (8 * day) weekly "purchase-000002",
    decideAt (9 * day) 2 .approve "review-000002"]

theorem renewed_week_settles : (commerce.outcome weekRenewed).RefreshSettles (30 * day) := by
  have hreached : commerce.Reaches UnrecordedWork (commerce.outcome weekRenewed) (9 * day) :=
    Machine.Reaches.of_accepts (by decide +kernel) (by decide +kernel) (by decide +kernel)
  have hrow : (commerce.outcome weekRenewed).subscription.isSome = true := by decide +kernel
  obtain ⟨s, hs⟩ := Option.isSome_iff_exists.mp hrow
  exact refresh_settles_of_unrecorded _ _ s hreached hs (30 * day) (by decide)

end LockIn.Commerce
