import LockIn.Commerce.Rows
import LockIn.Library.Outcome

/-!
# Access

A subscription gives access through grant rows, and a grant row that comes from a
subscription counts only while the subscription is itself in a state that gives
access.  `syncSubscriptionEntitlements` rewrites the grant rows from the
subscription; while a purchase made under the current policy awaits review it
takes them from the state saved before the purchase instead.
-/

namespace LockIn.Commerce

def SubscriptionStatus.givesAccess : SubscriptionStatus → Bool
  | .trialing | .active | .grace => true
  | _ => false

/-- The condition on a subscription in `effective_grants_for_user`.  An active
subscription whose period has just ended is still inside its grace window, unless it
is set to end with the period. -/
def SubscriptionState.live (s : SubscriptionState) (now : Nat) : Bool :=
  (s.status == .trialing && s.trialEndsAt.any (now < ·)) ||
    (s.status == .active && s.currentPeriodEndsAt.any (now < ·)) ||
    ((s.status == .active && !s.cancelAtPeriodEnd) && s.graceEndsAt.any (now < ·)) ||
    (s.status == .grace && s.graceEndsAt.any (now < ·))

/-- `^[a-z][a-z0-9_.-]{2,79}$` on the lower-cased text. -/
def validateEntitlementCode (value : String) : Except CommerceError String :=
  let normalized := (strip value).toList.map Char.toLower
  let tailChar (c : Char) : Bool :=
    (97 ≤ c.toNat && c.toNat ≤ 122) || c.isDigit || c == '_' || c == '.' || c == '-'
  match normalized with
  | first :: rest =>
    if 97 ≤ first.toNat ∧ first.toNat ≤ 122 ∧ rest.all tailChar ∧ 2 ≤ rest.length ∧
        rest.length ≤ 79 then
      .ok (String.ofList normalized)
    else .error (.value "Entitlement codes use lowercase namespaced identifiers.")
  | [] => .error (.value "Entitlement codes use lowercase namespaced identifiers.")

/-- What the grants of a subscription follow: whether it gives access, the plan whose
rules are granted and the window of the grants. -/
structure AccessTerms where
  allowed : Bool
  planVersion : PlanVersion
  startsAt : Nat
  endsAt : Option Nat

def earliest (first : Nat) (others : List (Option Nat)) : Nat :=
  others.foldl (fun acc other => other.elim acc (min acc)) first

def rowTerms (s : Subscription) : AccessTerms :=
  let subscriptionStart :=
    ((s.currentPeriodStartedAt.or s.trialStartedAt).or s.startedAt).getD s.createdAt
  { allowed := s.status.givesAccess
    planVersion := s.planVersion
    startsAt := earliest subscriptionStart [s.trialStartedAt, s.startedAt]
    endsAt :=
      if s.status = .trialing then s.trialEndsAt
      else if s.status = .grace then s.graceEndsAt
      else s.graceEndsAt.or s.currentPeriodEndsAt }

/-- The terms while a purchase awaits review: those of the state saved before it.  The
row's own start is the fallback of the start. -/
def previousTerms (previous : SubscriptionState) (row : AccessTerms) (now : Nat) : AccessTerms :=
  let endsAt :=
    if previous.status = .trialing then previous.trialEndsAt
    else previous.graceEndsAt.or previous.currentPeriodEndsAt
  { allowed := previous.status.givesAccess && endsAt.any (now < ·)
    planVersion := previous.planVersion
    startsAt := (previous.currentPeriodStartedAt.or previous.trialStartedAt).getD row.startsAt
    endsAt := endsAt }

def accessTerms (account : Account) (s : Subscription) (now : Nat) :
    Except CommerceError AccessTerms :=
  match s.provisionalPaymentId.bind account.payment? with
  | none => .ok (rowTerms s)
  | some pending =>
    if pending.policyVersion ≠ userPolicyVersion then .ok (rowTerms s)
    else match pending.manualSubmission with
      | none => .error (.doesNotExist "ManualRechargeSubmission")
      | some submission =>
        .ok (previousTerms submission.previousSubscriptionState (rowTerms s) now)

def EntitlementGrant.revoke (grant : EntitlementGrant) (now : Nat) : EntitlementGrant :=
  { grant with status := .revoked, revokedAt := some now, revision := grant.revision + 1 }

def revokeActive (grant : EntitlementGrant) (now : Nat) : EntitlementGrant :=
  if grant.source = .subscription ∧ grant.status = .active then grant.revoke now else grant

def activeRules (planVersion : PlanVersion) : List PlanEntitlementRule :=
  planVersion.entitlementRules.filter fun rule => rule.entitlement.isActive

def newGrant (terms : AccessTerms) (rule : PlanEntitlementRule) : EntitlementGrant :=
  { entitlement := rule.entitlement
    source := .subscription
    status := .active
    startsAt := terms.startsAt
    endsAt := terms.endsAt
    quantityLimit := rule.quantityLimit
    configuration := rule.configuration
    revokedAt := none
    revision := 1 }

/-- An existing grant of the subscription under the rule for its entitlement, or
revoked when no rule is left for it. -/
def convergeGrant (terms : AccessTerms) (now : Nat) (grant : EntitlementGrant) :
    EntitlementGrant :=
  if grant.source = .subscription then
    match (activeRules terms.planVersion).find? fun rule =>
        rule.entitlement.code == grant.entitlement.code with
    | some rule => { newGrant terms rule with revision := grant.revision + 1 }
    | none => revokeActive grant now
  else grant

def convergeGrants (terms : AccessTerms) (now : Nat) (grants : List EntitlementGrant) :
    List EntitlementGrant :=
  if terms.allowed then
    grants.map (convergeGrant terms now) ++
      ((activeRules terms.planVersion).filter fun rule =>
        !grants.any fun grant =>
          grant.source == .subscription && grant.entitlement.code == rule.entitlement.code).map
        (newGrant terms)
  else grants.map fun grant => revokeActive grant now

def syncSubscriptionEntitlements (account : Account) (now : Nat) :
    Except CommerceError Account :=
  match account.subscription with
  | none => .error (.doesNotExist "Subscription")
  | some s =>
    match accessTerms account s now with
    | .error e => .error e
    | .ok terms => .ok { account with grants := convergeGrants terms now account.grants }

/-- A grant given by hand, open-ended or until `endsAt`.  An existing grant from the same
source is kept as it is. -/
def grantManualEntitlement (account : Account) (entitlement : EntitlementDefinition)
    (sourceId startsAt : Nat) (endsAt : Option Nat) (quantityLimit : Option Nat)
    (configuration : String) : Except CommerceError Account := do
  Outcome.refuse
    [(endsAt.any (· ≤ startsAt), .value "An entitlement grant must end after it starts.")]
  let _ ← validateEntitlementCode entitlement.code
  Outcome.refuse [(!entitlement.isActive, .doesNotExist "EntitlementDefinition")]
  if account.grants.any fun g =>
      g.source == .manual sourceId && g.entitlement.code == entitlement.code then
    return account
  else
    return { account with grants := account.grants ++
      [⟨entitlement, .manual sourceId, .active, startsAt, endsAt, quantityLimit, configuration,
        none, 1⟩] }

def revokeManualEntitlements (account : Account) (sourceId now : Nat) : Account :=
  { account with grants := account.grants.map fun g =>
      if g.source = .manual sourceId ∧ g.status ≠ .revoked then g.revoke now else g }

end LockIn.Commerce
