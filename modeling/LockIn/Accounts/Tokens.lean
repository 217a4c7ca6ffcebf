import LockIn.Library.Machine
import LockIn.Library.Table

/-!
# One-time codes and links

An account verifies its email with a six-digit code and resets its password, changes its email and
asks for its deletion with links.  Each code and link is a token that is kept as a digest.  A call
is one transaction that a refusal undoes, except that a wrong verification code is counted before
it is refused.
-/

namespace LockIn.Accounts

abbrev Text : Type := List Char

inductive UserStatus where
  | active
  | suspended
  | deleted
deriving DecidableEq

/-- `password` is the stored hash. -/
structure User where
  id : Nat
  email : Text
  status : UserStatus
  isActive : Bool
  emailVerifiedAt : Option Nat
  password : Nat

inductive Kind where
  | emailVerification
  | passwordReset
  | emailChange
  | accountDeletion
deriving DecidableEq

/-- `attempts` and `newEmail` are what a payload holds. -/
structure Token where
  id : Nat
  user : Nat
  kind : Kind
  digest : Nat
  attempts : Nat
  newEmail : Option Text
  expiresAt : Nat
  usedAt : Option Nat
  createdAt : Nat

inductive DeletionStatus where
  | pendingConfirmation
  | confirmed
  | processing
  | completed
  | cancelled
deriving DecidableEq

structure DeletionRequest where
  id : Nat
  user : Nat
  confirmationToken : Nat
  status : DeletionStatus
  policyVersion : Text
  requestedAt : Nat
  confirmedAt : Option Nat
  cancelledAt : Option Nat

structure AccountSession where
  user : Nat
  sessionKey : Nat
deriving DecidableEq

structure Session where
  sessionKey : Nat
  expireDate : Nat

/-- The tables, the rows in the order they were created. -/
structure World where
  users : List User
  tokens : List Token
  deletionRequests : List DeletionRequest
  accountSessions : List AccountSession
  sessions : List Session
  nextToken : Nat
  nextDeletion : Nat

/-- The settings, what Python does with texts, and the keyed digest of a value in the scope of an
account or in none.  Times are in microseconds and lifetimes in seconds. -/
structure Site where
  digest : Option Nat → Text → Nat
  strip : Text → Text
  normalizeEmail : Text → Text
  validEmail : Text → Bool
  /-- Whether the other fields of a user pass the validation of the model. -/
  validFields : User → Bool
  verificationSeconds : Nat
  resetSeconds : Nat
  emailChangeSeconds : Nat
  deletionSeconds : Nat
  cooldownSeconds : Nat
  deletionPolicyVersion : Text

inductive FailureReason where
  | invalid
  | used
  | expired
  | attemptsExceeded

inductive AccountError where
  | token (message : String) (reason : FailureReason)
  | state (message : String)
  | validation
  | doesNotExist
  | integrity

def second : Nat := 1000000

structure IssuedToken where
  rawToken : Text
  expiresAt : Nat

def findUser (world : World) (id : Nat) : Except AccountError User :=
  match Table.find User.id world.users id with
  | none => .error .doesNotExist
  | some user => .ok user

/-- A signed-in user as the request knows it. -/
structure Snapshot where
  id : Nat
  email : Text
  password : Nat

def lockCurrentIdentity (world : World) (user : Snapshot) : Except AccountError User := do
  let current ← findUser world user.id
  if !current.isActive || current.status ≠ .active || current.password ≠ user.password ||
      current.email ≠ user.email then
    .error (.state "The account changed. Sign in again before continuing.")
  else .ok current

def useTokens (tokens : List Token) (selected : Token → Bool) (now : Nat) : List Token :=
  tokens.map fun token =>
    if selected token && token.usedAt.isNone then { token with usedAt := some now } else token

def putToken (world : World) (token : Token) : World :=
  { world with tokens := Table.put Token.id world.tokens token }

def invalidLink : String := "This link is invalid or has expired."

def isUsable (token : Token) (now : Nat) : Bool := token.usedAt.isNone && decide (now < token.expiresAt)

section
variable (site : Site)

def issueToken (world : World) (user : Nat) (kind : Kind) (lifetime : Nat) (newEmail : Option Text)
    (value : Text) (scope : Option Nat) (now : Nat) : Except AccountError (World × IssuedToken) := do
  let _ ← findUser world user
  let tokens := useTokens world.tokens (fun token => token.user = user && token.kind = kind) now
  let digest := site.digest scope value
  let expiresAt := now + lifetime * second
  if tokens.any (·.digest = digest) then .error .integrity
  else
    .ok ({ world with
      tokens := tokens ++ [⟨world.nextToken, user, kind, digest, 0, newEmail, expiresAt, none, now⟩]
      nextToken := world.nextToken + 1 }, ⟨value, expiresAt⟩)

def issueVerificationCode (world : World) (user : Nat) (value : Text) (now : Nat) :
    Except AccountError (World × IssuedToken) :=
  issueToken site world user .emailVerification site.verificationSeconds none value (some user) now

def getUsableToken (world : World) (rawToken : Text) (kind : Kind) (now : Nat) :
    Except AccountError (Token × User) :=
  match world.tokens.find? fun token => token.digest = site.digest none rawToken && token.kind = kind with
  | none => .error (.token invalidLink .invalid)
  | some token =>
    match Table.find User.id world.users token.user with
    | none => .error (.token invalidLink .invalid)
    | some user =>
      if !isUsable token now then
        .error (.token invalidLink (if token.usedAt.isSome then .used else .expired))
      else .ok (token, user)

def attemptLimit : Nat := 5

def verificationToken (world : World) (user : Nat) : Option Token :=
  (world.tokens.filter fun token =>
    token.user = user && token.kind = .emailVerification && token.usedAt.isNone).getLast?

def verificationCodeFailureReason (world : World) (user : Nat) (code : Text) (now : Nat) :
    FailureReason :=
  match (world.tokens.filter fun token =>
      token.user = user && token.kind = .emailVerification &&
        token.digest = site.digest (some user) (site.strip code)).getLast? with
  | none => .invalid
  | some issued =>
    if issued.usedAt.isSome then if attemptLimit ≤ issued.attempts then .attemptsExceeded else .used
    else if issued.expiresAt ≤ now then .expired
    else .invalid

def missed (token : Token) (now : Nat) : Token :=
  { token with
    attempts := token.attempts + 1
    usedAt := if attemptLimit ≤ token.attempts + 1 then some now else token.usedAt }

def verifyEmailCode (world : World) (user : Nat) (code : Text) (now : Nat) :
    World × Except AccountError Nat :=
  match Table.find User.id world.users user with
  | none => (world, .error .doesNotExist)
  | some account =>
    let refused := fun world : World => (world, Except.error (.token "This code is invalid or has expired."
      (verificationCodeFailureReason site world user code now)))
    match verificationToken world user with
    | none => refused world
    | some token =>
      if !isUsable token now then refused world
      else if token.digest ≠ site.digest (some user) (site.strip code) then
        refused (putToken world (missed token now))
      else
        ({ putToken world { token with usedAt := some now } with
          users := Table.put User.id world.users { account with emailVerifiedAt := some now } },
          .ok user)

def verificationCodeResendWait (world : World) (user now : Nat) : Nat :=
  match (world.tokens.filter fun token =>
      token.user = user && token.kind = .emailVerification).getLast? with
  | none => 0
  | some latest => (site.cooldownSeconds * second + latest.createdAt - now + (second - 1)) / second

def resendVerification (world : World) (user : Nat) (value : Text) (now : Nat) :
    Except AccountError (World × Option IssuedToken) := do
  let account ← findUser world user
  if account.status ≠ .active || account.emailVerifiedAt.isSome then .ok (world, none)
  else if verificationCodeResendWait site world user now ≠ 0 then .ok (world, none)
  else do
    let (issued, token) ← issueVerificationCode site world user value now
    .ok (issued, some token)

def requestPasswordReset (world : World) (email value : Text) (now : Nat) :
    Except AccountError (World × Option (Nat × IssuedToken)) :=
  match world.users.find? fun user =>
      user.email = site.normalizeEmail email && user.status = .active && user.emailVerifiedAt.isSome with
  | none => .ok (world, none)
  | some user => do
    let (issued, token) ← issueToken site world user.id .passwordReset site.resetSeconds none value none now
    .ok (issued, some (user.id, token))

def invalidateSessions (world : World) (user : Nat) (keep : Option Nat) : World :=
  let gone := world.accountSessions.filter fun row => row.user = user && keep ≠ some row.sessionKey
  let keys := gone.map (·.sessionKey)
  { world with
    accountSessions := world.accountSessions.filter fun row => row ∉ gone
    sessions := world.sessions.filter fun row => row.sessionKey ∉ keys }

def putUser (world : World) (user : User) : World :=
  { world with users := Table.put User.id world.users user }

def useAll (world : World) (user now : Nat) : World :=
  { world with tokens := useTokens world.tokens (fun token => token.user = user) now }

def setPassword (world : World) (user : User) (password : Nat) : World :=
  putUser world { user with password := password }

def confirmPasswordReset (world : World) (rawToken : Text) (newPassword now : Nat) :
    Except AccountError (World × Nat) := do
  let (token, user) ← getUsableToken site world rawToken .passwordReset now
  let changed := putToken (setPassword world user newPassword) { token with usedAt := some now }
  .ok (invalidateSessions (useAll changed user.id now) user.id none, user.id)

def requestEmailChange (world : World) (user : Snapshot) (newEmail value : Text) (now : Nat) :
    Except AccountError (World × IssuedToken) := do
  let current ← lockCurrentIdentity world user
  let normalized := site.normalizeEmail newEmail
  if world.users.any fun other => other.email = normalized && other.id ≠ current.id then
    .error (.state "That email address is already in use.")
  else
    issueToken site world current.id .emailChange site.emailChangeSeconds (some normalized) value none now

def cleanEmail (world : World) (user : User) (newEmail : Text) (now : Nat) : Except AccountError User :=
  let email := site.normalizeEmail (site.normalizeEmail newEmail)
  let changed := { user with email := email, emailVerifiedAt := some now }
  if !site.validEmail email || world.users.any fun other => other.email = email && other.id ≠ user.id then
    .error (.state "That email address is already in use.")
  else if !site.validFields changed then .error .validation
  else .ok changed

def confirmEmailChange (world : World) (rawToken : Text) (now : Nat) : Except AccountError (World × Nat) := do
  let (token, user) ← getUsableToken site world rawToken .emailChange now
  match token.newEmail with
  | none | some [] => .error (.token invalidLink .invalid)
  | some newEmail => do
    let changed ← cleanEmail site world user newEmail now
    let spent := putToken (putUser world changed) { token with usedAt := some now }
    .ok (invalidateSessions (useAll spent user.id now) user.id none, user.id)

def changePassword (world : World) (user : Snapshot) (newPassword : Nat) (keepSessionKey : Option Nat)
    (now : Nat) : Except AccountError World := do
  let current ← lockCurrentIdentity world user
  if keepSessionKey.any fun key => !world.sessions.any fun session =>
      session.sessionKey = key && now < session.expireDate then
    .error (.state "The account changed. Sign in again before continuing.")
  else
    let changed := invalidateSessions (setPassword world current newPassword) current.id keepSessionKey
    .ok (useAll changed current.id now)

def isPending (user : Nat) (request : DeletionRequest) : Bool :=
  request.user = user && request.status = .pendingConfirmation

def accountDeletionStatus (world : World) (user : Nat) : Option DeletionRequest :=
  (world.deletionRequests.filter fun request =>
    request.user = user && request.status ≠ .cancelled).getLast?

def cancelled (request : DeletionRequest) (now : Nat) : DeletionRequest :=
  { request with status := .cancelled, cancelledAt := some now }

def requestAccountDeletion (world : World) (user : Snapshot) (value : Text) (now : Nat) :
    Except AccountError (World × Nat × IssuedToken) := do
  let current ← lockCurrentIdentity world user
  if (accountDeletionStatus world current.id).any fun existing =>
      existing.status = .confirmed || existing.status = .processing then
    .error (.state "This account already has a confirmed deletion request.")
  else do
    let withdrawn := { world with
      deletionRequests := world.deletionRequests.map fun request =>
        if isPending current.id request then cancelled request now else request }
    let (issued, token) ← issueToken site withdrawn current.id .accountDeletion site.deletionSeconds none
      value none now
    .ok ({ issued with
      deletionRequests := issued.deletionRequests ++
        [⟨issued.nextDeletion, current.id, world.nextToken, .pendingConfirmation, [], now, none, none⟩]
      nextDeletion := issued.nextDeletion + 1 }, issued.nextDeletion, token)

def putDeletion (world : World) (request : DeletionRequest) : World :=
  { world with deletionRequests := Table.put DeletionRequest.id world.deletionRequests request }

def confirmAccountDeletion (world : World) (rawToken : Text) (now : Nat) :
    Except AccountError (World × Nat) := do
  let (token, _) ← getUsableToken site world rawToken .accountDeletion now
  match world.deletionRequests.find? fun request =>
      request.confirmationToken = token.id && request.status = .pendingConfirmation with
  | none => .error (.token invalidLink .invalid)
  | some request =>
    .ok (putToken (putDeletion world
      { request with
        status := .confirmed
        confirmedAt := some now
        policyVersion := site.deletionPolicyVersion }) { token with usedAt := some now }, request.id)

def cancelAccountDeletion (world : World) (user : Snapshot) (now : Nat) :
    Except AccountError (World × Nat) := do
  let _ ← lockCurrentIdentity world user
  match (world.deletionRequests.filter fun request =>
      request.user = user.id && (request.status = .pendingConfirmation || request.status = .confirmed)).getLast? with
  | none => .error (.state "There is no cancellable account deletion request.")
  | some request =>
    let withdrawn := putDeletion world (cancelled request now)
    .ok ({ withdrawn with
      tokens := useTokens withdrawn.tokens (fun token => token.id = request.confirmationToken) now },
      request.id)

end

/-- What is asked for.  The `value` of a new token is the random value drawn for it. -/
inductive Request where
  | issueVerificationCode (user : Nat) (value : Text)
  | resendVerification (user : Nat) (value : Text)
  | verifyEmailCode (user : Nat) (code : Text)
  | requestPasswordReset (email value : Text)
  | confirmPasswordReset (rawToken : Text) (newPassword : Nat)
  | requestEmailChange (user : Snapshot) (newEmail value : Text)
  | confirmEmailChange (rawToken : Text)
  | requestAccountDeletion (user : Snapshot) (value : Text)
  | confirmAccountDeletion (rawToken : Text)
  | cancelAccountDeletion (user : Snapshot)
  | changePassword (user : Snapshot) (newPassword : Nat) (keepSessionKey : Option Nat)

structure Call where
  request : Request
  now : Nat

/-- What a call returns: nothing to tell, a token issued to an account, an account whose code or
link was accepted, or a deletion request. -/
inductive Answer where
  | nothing
  | issued (user : Nat) (token : IssuedToken)
  | account (user : Nat)
  | deletion (id : Nat)

/-- A transaction, which a refusal undoes. -/
def atomically (world : World) (result : Except AccountError (World × Answer)) :
    World × Except AccountError Answer :=
  match result with
  | .error error => (world, .error error)
  | .ok (next, answer) => (next, .ok answer)

def issuedTo (user : Nat) (result : World × IssuedToken) : World × Answer :=
  (result.1, .issued user result.2)

def Call.exec (site : Site) (call : Call) (world : World) : World × Except AccountError Answer :=
  match call.request with
  | .issueVerificationCode user value =>
    atomically world (issuedTo user <$> Accounts.issueVerificationCode site world user value call.now)
  | .resendVerification user value =>
    atomically world ((fun result =>
      (result.1, match result.2 with
        | none => .nothing
        | some token => .issued user token)) <$>
      Accounts.resendVerification site world user value call.now)
  | .verifyEmailCode user code =>
    let (next, result) := Accounts.verifyEmailCode site world user code call.now
    (next, .account <$> result)
  | .requestPasswordReset email value =>
    atomically world ((fun result =>
      (result.1, match result.2 with
        | none => .nothing
        | some (user, token) => .issued user token)) <$>
      Accounts.requestPasswordReset site world email value call.now)
  | .confirmPasswordReset rawToken newPassword =>
    atomically world ((fun result => (result.1, .account result.2)) <$>
      Accounts.confirmPasswordReset site world rawToken newPassword call.now)
  | .requestEmailChange user newEmail value =>
    atomically world (issuedTo user.id <$>
      Accounts.requestEmailChange site world user newEmail value call.now)
  | .confirmEmailChange rawToken =>
    atomically world ((fun result => (result.1, .account result.2)) <$>
      Accounts.confirmEmailChange site world rawToken call.now)
  | .requestAccountDeletion user value =>
    atomically world ((fun result => (result.1, .issued user.id result.2.2)) <$>
      Accounts.requestAccountDeletion site world user value call.now)
  | .confirmAccountDeletion rawToken =>
    atomically world ((fun result => (result.1, .deletion result.2)) <$>
      Accounts.confirmAccountDeletion site world rawToken call.now)
  | .cancelAccountDeletion user =>
    atomically world ((fun result => (result.1, .deletion result.2)) <$>
      Accounts.cancelAccountDeletion world user call.now)
  | .changePassword user newPassword keepSessionKey =>
    atomically world ((fun next => (next, .nothing)) <$>
      Accounts.changePassword world user newPassword keepSessionKey call.now)

end LockIn.Accounts
