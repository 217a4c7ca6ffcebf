import LockIn.Library.Machine

/-!
# Offline leases

The server issues a signed lease of at most a day.  The device keeps the lease it verified, the
wall clock it had then and by how much that trails the server, and answers from these alone
whether protected content is available.  The record survives the page, the anchor on the
monotonic clock does not.

Instants are in microseconds.  True time is counted from the moment the lease was saved, and the
wall clock may read anything.  A status call reads the stored record first and the clocks later,
and writes the record back later still, so calls overlap.
-/

namespace LockIn.OfflineLease

def second : Int := 1000000

def leaseSeconds : Int := 24 * 60 * 60

def clockRollbackTolerance : Int := 5 * 60 * second

structure Claims where
  version : Nat
  sub : Nat
  iat : Int
  exp : Int
  offlineUntil : Int
  subscriptionUntil : Option Int
deriving DecidableEq

/-- A token as its signature shows it: the key that signed it, whether its header is that of a
lease, and what it claims. -/
structure Token where
  signedBy : Nat
  leaseHeader : Bool
  claims : Claims
deriving DecidableEq

structure Lease where
  token : Token
  publicKey : Nat

inductive LeaseError where
  | permissionDenied (message : String)

structure AccessDecision where
  allowed : Bool
  expiresAt : Option Int

def issueOfflineLease (key user : Nat) (decision : AccessDecision) (verifiedAt : Int) :
    Except LeaseError Lease :=
  if !decision.allowed then
    .error (.permissionDenied "Current Lock-in study access is required for offline access.")
  else if decision.expiresAt.any fun ending => ending ≤ verifiedAt then
    .error (.permissionDenied "Lock-in study access has expired.")
  else
    let day := verifiedAt + leaseSeconds * second
    let offlineUntil := min day (decision.expiresAt.getD day)
    .ok ⟨⟨key, true, ⟨1, user, verifiedAt / second, offlineUntil / second, offlineUntil / second,
      decision.expiresAt.map (· / second)⟩⟩, key⟩

/-- How the app was built, and whether the browser has what verifying needs. -/
structure Build where
  pinnedKey : Option Nat
  prod : Bool
  crypto : Bool

def pinned (build : Build) (fallback : Nat) : Option Nat :=
  match build.pinnedKey with
  | some key => some key
  | none => if build.prod then none else some fallback

def isSafeInteger (value : Int) : Bool := value.natAbs ≤ 9007199254740991

def verifyLease (build : Build) (token : Token) (user : Nat) (key : Option Nat) : Option Claims :=
  if key.isNone || !build.crypto then none
  else if !token.leaseHeader then none
  else if some token.signedBy ≠ key then none
  else if token.claims.version ≠ 1 || token.claims.sub ≠ user || !isSafeInteger token.claims.iat ||
      !isSafeInteger token.claims.exp || token.claims.exp ≠ token.claims.offlineUntil ||
      decide (leaseSeconds < token.claims.exp - token.claims.iat) ||
      token.claims.subscriptionUntil.any (fun ending => decide (ending < token.claims.exp)) then none
  else some token.claims

structure Record where
  token : Token
  publicKey : Nat
  trustedWall : Int
  serverOffset : Option Int
deriving DecidableEq

structure Anchor where
  token : Token
  wall : Int
  tick : Int
deriving DecidableEq

/-- The device and its open page.  `opened` is when the page was opened and `page` how often it
was since the lease was saved, `reads` are the records that calls under way have read, and
`writes` those that are still to be stored. -/
structure Device where
  stored : Option Record
  anchor : Option Anchor
  opened : Int
  page : Nat
  reads : List (Option Record)
  writes : List Record
deriving DecidableEq

/-- `performance.now`, which starts with the page. -/
def performanceNow (device : Device) (now : Int) : Int := now - device.opened

/-- The device after the lease is saved at the true time 0, unless it is not verified.  Only calls
that begin after it are followed. -/
def saveVerifiedLease (build : Build) (device : Device) (user : Nat) (lease : Lease) (wall : Int) :
    Option Device :=
  match pinned build lease.publicKey with
  | none => none
  | some key =>
    if build.prod && key ≠ lease.publicKey then none
    else
      match verifyLease build lease.token user (some key) with
      | none => none
      | some claims =>
        let serverOffset := max 0 (claims.iat * second - wall)
        some {
          stored := some ⟨lease.token, key, wall, some serverOffset⟩
          anchor := some ⟨lease.token, wall, performanceNow device 0⟩
          opened := device.opened
          page := 0
          reads := []
          writes := [] }

inductive Reason where
  | account
  | missing
  | invalid
  | clockRollback
  | expired
deriving DecidableEq

/-- The answer of a status call.  It throws when the session changed under it. -/
inductive Status where
  | available
  | unavailable (reason : Reason)
  | sessionChanged
deriving DecidableEq

def anchorFor (anchor : Option Anchor) (token : Token) (wall performanceNow : Int) : Anchor :=
  match anchor with
  | some anchor => if anchor.token ≠ token then ⟨token, wall, performanceNow⟩ else anchor
  | none => ⟨token, wall, performanceNow⟩

def floorOf (stored : Record) (claims : Claims) : Int :=
  match stored.serverOffset with
  | none => max stored.trustedWall (claims.iat * second)
  | some _ => stored.trustedWall

/-- What a status call makes of the record it read and of the clocks: its answer, the anchor of the
page after it, and the record it stores. -/
def offlineAccessStatus (build : Build) (user : Nat) (stored : Option Record) (anchor : Option Anchor)
    (wall performanceNow : Int) (stillCurrent : Bool) : Status × Option Anchor × Option Record :=
  match stored with
  | none => (.unavailable .missing, anchor, none)
  | some stored =>
    match verifyLease build stored.token user (pinned build stored.publicKey) with
    | none => (.unavailable .invalid, anchor, none)
    | some claims =>
      if wall + clockRollbackTolerance < floorOf stored claims then
        (.unavailable .clockRollback, anchor, none)
      else
        let anchor := anchorFor anchor stored.token wall performanceNow
        let effectiveNow := max wall (anchor.wall + max 0 (performanceNow - anchor.tick)) +
          stored.serverOffset.getD 0
        if claims.exp * second ≤ effectiveNow then (.unavailable .expired, some anchor, none)
        else if !stillCurrent then (.sessionChanged, some anchor, none)
        else
          (.available, some anchor,
            if 60 * second < wall - stored.trustedWall then some { stored with trustedWall := wall }
            else none)

inductive Action where
  /-- A call begins and reads the record, when the user is the one signed in. -/
  | begin (current : Bool)
  /-- A call under way reads the clocks and decides. -/
  | answer (position : Nat) (wall : Int) (stillCurrent : Bool)
  /-- A record is stored. -/
  | store (position : Nat)
  /-- The page is closed, and opened now. -/
  | reopen

structure Event where
  action : Action
  now : Nat

/-- A reading of the clocks: when it was made, what the wall clock said, in which page, whether the
page has an anchor since, and whether the answer was that content is available. -/
structure Reading where
  now : Nat
  wall : Int
  page : Nat
  anchored : Bool
  available : Bool
deriving DecidableEq

/-- Whether an answer was given after the rollback check. -/
def Status.isAnchored : Status → Bool
  | .available | .sessionChanged | .unavailable .expired => true
  | .unavailable .account | .unavailable .missing | .unavailable .invalid
  | .unavailable .clockRollback => false

def Event.exec (build : Build) (user : Nat) (event : Event) (run : Device × List Reading) :
    Except Unit (Device × List Reading) :=
  let device := run.1
  match event.action with
  | .begin current =>
    if current then .ok ({ device with reads := device.reads ++ [device.stored] }, run.2)
    else .ok run
  | .answer position wall stillCurrent =>
    match device.reads[position]? with
    | none => .error ()
    | some stored =>
      let (status, anchor, written) := offlineAccessStatus build user stored device.anchor wall
        (performanceNow device event.now) stillCurrent
      .ok ({ device with
          anchor := anchor
          reads := device.reads.eraseIdx position
          writes := device.writes ++ written.toList },
        run.2 ++ [⟨event.now, wall, device.page, status.isAnchored, status = .available⟩])
  | .store position =>
    match device.writes[position]? with
    | none => .error ()
    | some record =>
      .ok ({ device with stored := some record, writes := device.writes.eraseIdx position }, run.2)
  | .reopen =>
    .ok ({ device with anchor := none, opened := event.now, page := device.page + 1, reads := [] }, run.2)

def offline (build : Build) (user : Nat) (device : Device) (wall : Int) :
    Machine (Device × List Reading) Event Unit where
  init := (device, [⟨0, wall, 0, true, false⟩])
  exec event run := event.exec build user run
  time event := event.now

end LockIn.OfflineLease
