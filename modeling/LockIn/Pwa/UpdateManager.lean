import LockIn.Library.Machine

/-!
# The update manager of a window

One window asks whether there is a newer build, shows that there is one, and takes it over when
its reader says so.  Every callback runs to its end before the next one; what happens between
two callbacks (a check that waits, a worker that moves on) is an event of its own.
-/

namespace LockIn.Pwa

inductive UpdateStatus where
  | idle
  | checking
  | upToDate
  | updateAvailable
  | updating
  /-- Another window activated the update; this one still runs the old build. -/
  | reloadRequired
  | offline
  | error
  | unsupported
deriving DecidableEq

structure Registration where
  waiting : Bool
  installing : Bool
  active : Bool

structure UpdateSnapshot where
  status : UpdateStatus
  lastCheckedAt : Option Nat
  dismissed : Bool
  error : String

/-- What a check waits for: the server's answer, or the download of a worker. -/
inductive CheckPhase where
  | requested
  | installing

structure Check where
  manual : Bool
  previous : UpdateStatus
  phase : CheckPhase

/-- The attempt to activate the waiting worker.  One that reloads the window is never cleared. -/
inductive Applying where
  | no
  | running
  | reloaded
deriving DecidableEq

structure Window where
  snapshot : UpdateSnapshot
  registration : Option Registration
  inFlight : Option Check
  /-- A manual check that waits for the one in flight; `true` when that one is over. -/
  queuedManual : Option Bool
  applying : Applying
  reloading : Bool
  lastAttemptAt : Option Nat
  dismissedUntil : Nat
  hadController : Bool
  controllerChanged : Bool
  /-- How often the page was reloaded, and `applyUpdate` pressed. -/
  reloads : Nat
  presses : Nat
  /-- Whether an activation by another window was announced. -/
  announced : Bool

/-- What a callback reads of its surroundings. -/
structure Environment where
  now : Nat
  isOffline : Bool

def updateCheckMinGapMs : Nat := 60 * 1000

def laterCooldownMs : Nat := 4 * 60 * 60 * 1000

def shouldCheckForUpdate (lastAttemptAt : Option Nat) (now : Nat) : Bool :=
  lastAttemptAt.all fun last => last + updateCheckMinGapMs ≤ now

def stableAfterFailedAutomaticCheck : List UpdateStatus := [.idle, .upToDate, .offline, .error]

namespace Window

abbrev status (window : Window) : UpdateStatus := window.snapshot.status

/-- `set` with a status. -/
def setStatus (window : Window) (status : UpdateStatus) : Window :=
  { window with snapshot := { window.snapshot with status := status } }

def setError (window : Window) (error : String) : Window :=
  { window with snapshot := { window.snapshot with error := error } }

def setDismissed (window : Window) (dismissed : Bool) : Window :=
  { window with snapshot := { window.snapshot with dismissed := dismissed } }

def setLastCheckedAt (window : Window) (now : Nat) : Window :=
  { window with snapshot := { window.snapshot with lastCheckedAt := some now } }

def hasUpdate (window : Window) : Bool :=
  window.registration.any fun registration => registration.waiting && registration.active

/-- Whether the status is one that belongs to `applyUpdate` or to another window. -/
def isTaken (window : Window) : Bool :=
  window.status = .updating || window.status = .reloadRequired

end Window

def refreshDismissal (window : Window) (env : Environment) : Window :=
  if window.snapshot.dismissed && window.dismissedUntil ≤ env.now then window.setDismissed false
  else window

def reloadOnce (window : Window) : Window :=
  if window.reloading then window
  else { window with reloading := true, reloads := window.reloads + 1 }

def syncFromRegistration (window : Window) : Window :=
  if window.registration.isNone then window
  else if window.isTaken then window
  else if window.hasUpdate then (window.setStatus .updateAvailable).setError ""
  else window

def workerRedundant (window : Window) : Window :=
  if window.status = .checking && window.inFlight.isNone then
    if window.hasUpdate then (window.setStatus .updateAvailable).setError ""
    else (window.setStatus .error).setError "download-failed"
  else window

def startCheck (window : Window) (env : Environment) (manual : Bool) : Window :=
  let previous := if window.status = .checking then .idle else window.status
  { (window.setStatus .checking).setError "" with
    lastAttemptAt := some env.now
    inFlight := some ⟨manual, previous, .requested⟩ }

/-- The part of `check` that runs when no other check does. -/
def freshCheck (window : Window) (env : Environment) (manual force : Bool) : Window :=
  if window.isTaken then window
  else
    let shown := if manual then { window.setDismissed false with dismissedUntil := 0 } else window
    if window.registration.isNone then
      if manual && window.status ≠ .unsupported then
        (shown.setStatus .error).setError "not-registered"
      else shown
    else if window.hasUpdate then (shown.setStatus .updateAvailable).setError ""
    else if env.isOffline then (shown.setStatus .offline).setError ""
    else if !manual && !force && !shouldCheckForUpdate window.lastAttemptAt env.now then shown
    else startCheck shown env manual

def check (window : Window) (env : Environment) (manual force : Bool) : Window :=
  match window.inFlight with
  | none => freshCheck window env manual force
  | some running =>
    if !manual || running.manual then window
    else if window.queuedManual.isNone then { window with queuedManual := some false }
    else window

/-- The check is over, and the manual one that waits for it may begin. -/
def settled (window : Window) : Window :=
  { window with
    inFlight := none
    queuedManual := window.queuedManual.map fun _ => true }

/-- Whether a worker is still being downloaded when a check ends. -/
def Window.stillInstalling (window : Window) : Bool :=
  !window.hasUpdate && window.registration.any (·.installing)

def checkSucceeds (window : Window) (env : Environment) : Window :=
  if window.hasUpdate then settled ((window.setStatus .updateAvailable).setLastCheckedAt env.now)
  else if window.stillInstalling then settled (window.setLastCheckedAt env.now)
  else settled ((window.setStatus .upToDate).setLastCheckedAt env.now)

def checkFails (window : Window) (env : Environment) (running : Check) : Window :=
  if env.isOffline then settled (window.setStatus .offline)
  else if running.manual then settled ((window.setStatus .error).setError "check-failed")
  else if running.previous ∈ stableAfterFailedAutomaticCheck then
    settled (window.setStatus running.previous)
  else settled (window.setStatus .idle)

def applyUpdate (window : Window) (env : Environment) : Window :=
  let pressed := { window with presses := window.presses + 1 }
  if window.applying ≠ .no then pressed
  else if window.status = .reloadRequired then reloadOnce pressed
  else if window.registration.any (·.waiting) then
    { ((pressed.setStatus .updating).setDismissed false).setError "" with applying := .running }
  else if window.controllerChanged then reloadOnce pressed
  else check pressed env true false

def finish (window : Window) (reload : Bool) : Window :=
  if reload then { reloadOnce window with applying := .reloaded }
  else
    let status := if window.hasUpdate then .updateAvailable else .error
    { (window.setStatus status).setError "activation-failed" with applying := .no }

/-- The manager's own listener. -/
def onControllerChange (window : Window) : Window :=
  let changed := { window with
    hadController := true
    controllerChanged := window.hadController || window.controllerChanged }
  if window.applying ≠ .no then changed
  else if window.hadController then
    { ((changed.setStatus .reloadRequired).setDismissed false).setError "" with announced := true }
  else changed

/-- The manager's listener was there first; an apply adds one of its own. -/
def controllerChange (window : Window) : Window :=
  if window.registration.isNone then window
  else if window.applying = .running then finish (onControllerChange window) true
  else onControllerChange window

def dismiss (window : Window) (env : Environment) : Window :=
  { window.setDismissed true with dismissedUntil := env.now + laterCooldownMs }

def onOnline (window : Window) (env : Environment) : Window :=
  let back := if window.status = .offline then window.setStatus .idle else window
  check (refreshDismissal back env) env false true

def onOffline (window : Window) : Window :=
  if window.status = .idle || window.status = .upToDate || window.status = .error then
    (window.setStatus .offline).setError ""
  else window

def attach (window : Window) (controlled : Bool) (registration : Registration) : Window :=
  if window.registration.isSome then window
  else syncFromRegistration
    { window with registration := some registration, hadController := controlled }

inductive Event where
  | attach (controlled : Bool) (registration : Registration)
  /-- There is no service worker here, or it could not be registered. -/
  | unsupported
  /-- The workers of the registration move on. -/
  | workers (registration : Registration)
  | workerInstalled
  | workerRedundant
  | check (manual force : Bool)
  /-- The window is focused or shown, or it is time. -/
  | automatic
  /-- The server has answered the check in flight. -/
  | updateAnswered
  | updateFailed
  | installWaitOver
  | queuedCheck
  | applyUpdate
  /-- The time to activate is over. -/
  | activationTimeout (activated : Bool)
  | activationFailed
  | controllerChange
  | online
  | offline
  | dismiss

def Event.exec (window : Window) (env : Environment) : Event → Except String Window
  | .attach controlled registration => .ok (Pwa.attach window controlled registration)
  | .unsupported =>
    if window.registration.isSome then .error "The worker is registered."
    else .ok (window.setStatus .unsupported)
  | .workers registration =>
    if window.registration.isSome then .ok { window with registration := some registration }
    else .error "No worker is registered."
  | .workerInstalled => .ok (syncFromRegistration window)
  | .workerRedundant => .ok (Pwa.workerRedundant window)
  | .check manual force => .ok (Pwa.check window env manual force)
  | .automatic => .ok (Pwa.check (refreshDismissal window env) env false false)
  | .updateAnswered =>
    match window.inFlight with
    | some ⟨manual, previous, .requested⟩ =>
      .ok { window with inFlight := some ⟨manual, previous, .installing⟩ }
    | _ => .error "No request is out."
  | .updateFailed =>
    match window.inFlight with
    | some ⟨manual, previous, .requested⟩ =>
      .ok (checkFails window env ⟨manual, previous, .requested⟩)
    | _ => .error "No request is out."
  | .installWaitOver =>
    match window.inFlight with
    | some ⟨_, _, .installing⟩ => .ok (checkSucceeds window env)
    | _ => .error "Nothing is waited for."
  | .queuedCheck =>
    if window.queuedManual = some true then
      .ok (Pwa.check { window with queuedManual := none } env true false)
    else .error "No check is queued."
  | .applyUpdate => .ok (Pwa.applyUpdate window env)
  | .activationTimeout activated =>
    if window.applying = .running then .ok (finish window activated)
    else .error "Nothing is being activated."
  | .activationFailed =>
    if window.applying = .running then .ok (finish window false)
    else .error "Nothing is being activated."
  | .controllerChange => .ok (Pwa.controllerChange window)
  | .online =>
    if window.registration.isSome then .ok (onOnline window env)
    else .error "Nothing listens."
  | .offline =>
    if window.registration.isSome then .ok (onOffline window)
    else .error "Nothing listens."
  | .dismiss => .ok (Pwa.dismiss window env)

def newWindow : Window :=
  { snapshot := ⟨.idle, none, false, ""⟩
    registration := none
    inFlight := none
    queuedManual := none
    applying := .no
    reloading := false
    lastAttemptAt := none
    dismissedUntil := 0
    hadController := false
    controllerChanged := false
    reloads := 0
    presses := 0
    announced := false }

def updates : Machine Window (Event × Environment) String where
  init := newWindow
  exec event window := event.1.exec window event.2
  time event := event.2.now

end LockIn.Pwa
