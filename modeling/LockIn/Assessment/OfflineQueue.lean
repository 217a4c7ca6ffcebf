import LockIn.Assessment.Attempts
import LockIn.Library.Machine

/-!
# The changes of an attempt that wait on the device

A change that could not be sent is kept in the device's storage.  A flush reads what is kept,
sends it in the order of the revisions, one request after another, and writes back what was
not acknowledged.  Nothing keeps a change from being queued, or another flush from starting,
while a flush waits for a request.

The queue is that of one reader and one attempt.
-/

namespace LockIn.Assessment

inductive Change where
  | answer (questionId : Nat) (selectedOptionIds : List Nat) (clientRevision : Nat)
  | resume (questionPosition clientRevision : Nat)
deriving DecidableEq

namespace Change

def clientRevision : Change → Nat
  | .answer _ _ revision => revision
  | .resume _ revision => revision

def isAnswer : Change → Bool
  | .answer _ _ _ => true
  | .resume _ _ => false

/-- Whether a stored item gives way to a change that is queued. -/
def replaces : Change → Change → Bool
  | .answer question _ revision, .answer question' _ revision' =>
    question = question' && revision = revision'
  | .resume _ _, .resume _ _ => true
  | _, _ => false

end Change

def storedLimit : Nat := 120

/-- `items.slice(-120)`. -/
@[irreducible]
def write (items : List Change) : List Change := items.drop (items.length - storedLimit)

def overflow (items : List Change) : List Change := items.take (items.length - storedLimit)

def withChange (current : List Change) (change : Change) : List Change :=
  (current.filter fun item => !change.replaces item) ++ [change]

def queueAttemptChange (current : List Change) (change : Change) : List Change :=
  write (withChange current change)

/-- What a flush reads, in the order it sends it. -/
def pendingChanges (stored : List Change) : List Change :=
  stored.insertionSort fun first second => first.clientRevision ≤ second.clientRevision

def sendChange (books : Books) (attempt : Nat) (change : Change) (now : Nat) : Answered Books :=
  match change with
  | .answer question selected revision => saveAnswer books ⟨attempt, question, selected, revision⟩ now
  | .resume position revision => saveAttemptResume books attempt position revision now

/-- A flush that waits for the request of the first of the changes left: what the server has
said to it, if it has reached the server. -/
structure Flush where
  id : Nat
  rest : List Change
  reply : Option Bool

structure Device where
  stored : List Change
  flushes : List Flush
  server : Books
  /-- The answers queued. -/
  queued : List Change
  acknowledged : List Change
  /-- What has reached the server, in the order it came. -/
  reached : List Change
  /-- The changes that ended a flush because the server refused them, each with what it left
  unsent. -/
  refusals : List (Change × List Change)

inductive Event where
  | queue (change : Change)
  | start (id : Nat)
  /-- The request that a flush waits for reaches the server, once or again. -/
  | arrive (id : Nat)
  | resolve (id : Nat)
  /-- The request is answered with an error. -/
  | reject (id : Nat)
  /-- The request fails on its way there or back. -/
  | fail (id : Nat)

def Device.ended (device : Device) (id : Nat) (retained : List Change) : Device :=
  { device with
    stored := write retained
    flushes := device.flushes.filter (·.id ≠ id) }

def Device.put (device : Device) (flush : Flush) : Device :=
  { device with flushes := Table.put Flush.id device.flushes flush }

def Device.waiting (device : Device) (id : Nat) : Option (Flush × Change × List Change) :=
  match Table.find Flush.id device.flushes id with
  | none => none
  | some flush =>
    match flush.rest with
    | [] => none
    | change :: rest => some (flush, change, rest)

def startFlush (device : Device) (id : Nat) : Device :=
  match pendingChanges device.stored with
  | [] => { device with stored := write [] }
  | pending => { device with flushes := device.flushes ++ [⟨id, pending, none⟩] }

def arrive (device : Device) (attempt : Nat) (flush : Flush) (change : Change) (now : Nat) : Device :=
  match sendChange device.server attempt change now with
  | .ok next =>
    { device.put { flush with reply := some true } with
      server := next
      reached := device.reached ++ [change] }
  | .error _ =>
    { device.put { flush with reply := some false } with reached := device.reached ++ [change] }

def resolve (device : Device) (flush : Flush) (change : Change) (rest : List Change) : Device :=
  let device := { device with acknowledged := device.acknowledged ++ [change] }
  match rest with
  | [] => device.ended flush.id []
  | next :: rest => device.put ⟨flush.id, next :: rest, none⟩

def Event.exec (attempt : Nat) (device : Device) (now : Nat) : Event → Except String Device
  | .queue change =>
    .ok { device with
      stored := queueAttemptChange device.stored change
      queued := if change.isAnswer then device.queued ++ [change] else device.queued }
  | .start id =>
    if (Table.find Flush.id device.flushes id).isSome then .error "The flush has started."
    else .ok (startFlush device id)
  | .arrive id =>
    match device.waiting id with
    | none => .error "No request is out."
    | some (flush, change, _) => .ok (Assessment.arrive device attempt flush change now)
  | .resolve id =>
    match device.waiting id with
    | none => .error "No request is out."
    | some (flush, change, rest) =>
      if flush.reply = some true then .ok (Assessment.resolve device flush change rest)
      else .error "The server has not accepted it."
  | .reject id =>
    match device.waiting id with
    | none => .error "No request is out."
    | some (flush, change, rest) =>
      if flush.reply = some false then
        .ok { device.ended id (change :: rest) with
          refusals := device.refusals ++ [(change, rest)] }
      else .error "The server has not refused it."
  | .fail id =>
    match device.waiting id with
    | none => .error "No request is out."
    | some (_, change, rest) => .ok (device.ended id (change :: rest))

def emptyDevice (server : Books) : Device := ⟨[], [], server, [], [], [], []⟩

def offlineAnswers (server : Books) (attempt : Nat) : Machine Device (Event × Nat) String where
  init := emptyDevice server
  exec event device := event.1.exec attempt device event.2
  time event := event.2

end LockIn.Assessment
