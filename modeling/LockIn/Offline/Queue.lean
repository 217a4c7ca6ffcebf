import LockIn.Library.Machine
import LockIn.Library.Table

/-!
# The queue of work done offline

A device keeps every operation in its own database until the server acknowledges it.  A
flush reads the operations that are due, in client order, and sends them in batches; what
the server answers for each decides whether it is removed, tried again later or kept as
failed.  The server handles the operations of a batch one by one.

Operations that the device replays itself, under ordering keys of their own, never go out
in a batch and are not among the ones here.
-/

namespace LockIn.Offline

inductive SyncStatus where
  | pending
  | syncing
  | acknowledged
  | retry
  | failedPermanent
  | conflict
deriving DecidableEq

/-- Why an operation waits or failed: the first four are the server's own. -/
inductive OperationCode where
  | invalid
  | rejected
  | outOfOrder
  | unavailable
  | connection
  | signin
  | access
deriving DecidableEq

structure OfflineOperation where
  operationId : Nat
  orderingKey : String
  clientSequence : Nat
  retryCount : Nat
  syncStatus : SyncStatus
  nextAttemptAt : Option Nat
  reason : String
  code : Option OperationCode
deriving DecidableEq

namespace OfflineOperation

/-- What no flush changes. -/
def identity (operation : OfflineOperation) : Nat × String × Nat :=
  (operation.operationId, operation.orderingKey, operation.clientSequence)

/-- `first` was enqueued before `second`, under the same ordering key. -/
def Ahead (first second : OfflineOperation) : Prop :=
  first.orderingKey = second.orderingKey ∧ first.clientSequence < second.clientSequence

instance (first second : OfflineOperation) : Decidable (first.Ahead second) :=
  inferInstanceAs (Decidable (_ ∧ _))

def isOpen (operation : OfflineOperation) : Bool :=
  operation.syncStatus == .pending || operation.syncStatus == .retry ||
    operation.syncStatus == .syncing

def isFailed (operation : OfflineOperation) : Bool :=
  operation.syncStatus == .failedPermanent || operation.syncStatus == .conflict

end OfflineOperation

/-- The records of one account. -/
structure Queue where
  sequence : Nat
  operations : List OfflineOperation

def newOperation (queue : Queue) (operationId : Nat) (orderingKey : String) : OfflineOperation :=
  { operationId := operationId
    orderingKey := orderingKey
    clientSequence := queue.sequence + 1
    retryCount := 0
    syncStatus := .pending
    nextAttemptAt := none
    reason := ""
    code := none }

/-- The database puts a record over the one with its key, or adds it. -/
def saveOperation (operations : List OfflineOperation) (operation : OfflineOperation) :
    List OfflineOperation :=
  if (Table.find OfflineOperation.operationId operations operation.operationId).isSome then
    Table.put OfflineOperation.operationId operations operation
  else operations ++ [operation]

def saveAll (operations records : List OfflineOperation) : List OfflineOperation :=
  records.foldl saveOperation operations

def removeOperation (operations : List OfflineOperation) (operationId : Nat) :
    List OfflineOperation :=
  operations.filter (·.operationId ≠ operationId)

def enqueueOperation (queue : Queue) (operationId : Nat) (orderingKey : String) : Queue :=
  { sequence := queue.sequence + 1
    operations := saveOperation queue.operations (newOperation queue operationId orderingKey) }

def listOperations (queue : Queue) : List OfflineOperation :=
  queue.operations.insertionSort fun first second => first.clientSequence ≤ second.clientSequence

def pendingOfflineOperations (queue : Queue) : List OfflineOperation :=
  (listOperations queue).filter (·.isOpen)

/-- Removes a refused operation the student has read about. -/
def dismissFailedOperation (queue : Queue) (operationId : Nat) : Queue :=
  match Table.find OfflineOperation.operationId queue.operations operationId with
  | some operation =>
    if operation.isFailed then
      { queue with operations := removeOperation queue.operations operationId }
    else queue
  | none => queue

def maxBackoffMs : Nat := 5 * 60000

def backoffDelay (retryCount : Nat) : Nat :=
  min maxBackoffMs (5000 * 2 ^ (retryCount - 1))

def due (operation : OfflineOperation) (now : Nat) : Bool :=
  operation.nextAttemptAt.all (· ≤ now)

/-- What a flush reads at its start. -/
def dueOperations (queue : Queue) (now : Nat) (force : Bool) : List OfflineOperation :=
  (pendingOfflineOperations queue).filter fun operation => force || due operation now

def scheduleRetry (operation : OfflineOperation) (now : Nat) (reason : String)
    (code : Option OperationCode) : OfflineOperation :=
  let retryCount := operation.retryCount + 1
  { operation with
    syncStatus := .retry
    retryCount := retryCount
    nextAttemptAt := some (now + backoffDelay retryCount)
    reason := if reason = "" then operation.reason else reason
    code := code.or operation.code }

structure Refusal where
  code : OperationCode
  reason : String
  retryable : Bool
deriving DecidableEq

inductive Answer where
  | accepted
  | rejected (refusal : Refusal)
  | unmentioned
deriving DecidableEq

def Answer.retryable : Answer → Bool
  | .rejected refusal => refusal.retryable
  | _ => false

structure RequestError where
  status : Option Nat
  message : String

def isConnectivityError (error : RequestError) : Bool :=
  error.status.any fun status => status = 0 ∨ status = 429 ∨ 500 ≤ status

def failedOperation (operation : OfflineOperation) (refusal : Refusal) : OfflineOperation :=
  { operation with
    syncStatus := .failedPermanent
    retryCount := operation.retryCount + 1
    reason := refusal.reason
    code := some refusal.code }

/-- The loop over the refusals of a batch: the records it saves.  A temporary refusal blocks
later work under its key, whose out of order answers then mean "not yet", not "never". -/
def refusedRecords (now : Nat) : List String → List (OfflineOperation × Answer) →
    List OfflineOperation
  | _, [] => []
  | blocked, (operation, .rejected refusal) :: rest =>
    if refusal.retryable ∨ (refusal.code = .outOfOrder ∧ operation.orderingKey ∈ blocked) then
      scheduleRetry operation now refusal.reason (some refusal.code) ::
        refusedRecords now (operation.orderingKey :: blocked) rest
    else failedOperation operation refusal :: refusedRecords now blocked rest
  | blocked, _ :: rest => refusedRecords now blocked rest

def acceptedIds (answered : List (OfflineOperation × Answer)) : List Nat :=
  (answered.filter (·.2 = .accepted)).map (·.1.operationId)

def refusedIds (records : List OfflineOperation) : List Nat :=
  (records.filter (·.syncStatus = .failedPermanent)).map (·.operationId)

def unmentionedRecords (now : Nat) (answered : List (OfflineOperation × Answer)) :
    List OfflineOperation :=
  (answered.filter (·.2 = .unmentioned)).map fun pair => scheduleRetry pair.1 now "" none

/-- The part of `flushServerBatch` that follows the response. -/
def applyAnswers (operations : List OfflineOperation) (now : Nat)
    (answered : List (OfflineOperation × Answer)) : List OfflineOperation :=
  saveAll ((acceptedIds answered).foldl removeOperation operations)
    (refusedRecords now [] answered ++ unmentionedRecords now answered)

def failedRecords (now : Nat) (error : RequestError) (batch : List OfflineOperation) :
    List OfflineOperation :=
  batch.map fun operation =>
    if isConnectivityError error then scheduleRetry operation now "" (some .connection)
    else scheduleRetry operation now error.message
      (some (if error.status = some 401 then .signin else .access))

def batchSize : Nat := 100

/-- A flush that is running: what it read at its start and has not sent yet, the request that
is out, and the operations of the batches before. -/
structure Flush where
  done : List OfflineOperation
  sent : Option (List OfflineOperation)
  rest : List OfflineOperation

/-- The device, the server, and what happened to every operation so far. -/
structure System where
  queue : Queue
  flush : Option Flush
  applied : List Nat
  enqueued : List OfflineOperation
  acknowledged : List Nat
  refused : List Nat

/-- What happens, at any instant.  One flush runs at a time; it may end at any point, with
the session, the page or its last batch. -/
inductive Event where
  | enqueue (operationId : Nat) (orderingKey : String)
  | dismiss (operationId : Nat)
  | start (now : Nat) (force : Bool)
  | send
  /-- The server handles the batch, or its first operations, and the response is lost. -/
  | delivered (answers : List Answer)
  | answered (answers : List Answer) (now : Nat)
  | failed (error : RequestError) (now : Nat)
  | ended

def predecessor (enqueued : List OfflineOperation) (operation : OfflineOperation) :
    Option OfflineOperation :=
  (enqueued.filter (·.Ahead operation)).getLast?

/-- The server handles a batch in order.  It calls an operation out of order only when it has
not applied its predecessor. -/
def serverHandles (enqueued : List OfflineOperation) :
    List Nat → List (OfflineOperation × Answer) → Except String (List Nat)
  | applied, [] => .ok applied
  | applied, (operation, .accepted) :: rest =>
    serverHandles enqueued (operation.operationId :: applied) rest
  | applied, (operation, .rejected refusal) :: rest =>
    if refusal.code = .outOfOrder ∧
        (predecessor enqueued operation).all (·.operationId ∈ applied) then
      .error "The operation is in order."
    else serverHandles enqueued applied rest
  | applied, (_, .unmentioned) :: rest => serverHandles enqueued applied rest

/-- The batch that is out. -/
def System.inFlight (s : System) : Option (Flush × List OfflineOperation) :=
  s.flush.bind fun flush => flush.sent.map (flush, ·)

def exec : Event → System → Except String System
  | .enqueue operationId orderingKey, s =>
    if operationId ∈ s.enqueued.map (·.operationId) then .error "The id is taken."
    else .ok { s with
      queue := enqueueOperation s.queue operationId orderingKey
      enqueued := s.enqueued ++ [newOperation s.queue operationId orderingKey] }
  | .dismiss operationId, s =>
    .ok { s with queue := dismissFailedOperation s.queue operationId }
  | .start now force, s =>
    match s.flush with
    | some _ => .error "A flush is running."
    | none => .ok { s with flush := some ⟨[], none, dueOperations s.queue now force⟩ }
  | .send, s =>
    match s.flush with
    | some ⟨done, none, next :: rest⟩ =>
      let batch := (next :: rest).take batchSize
      .ok { s with
        queue := { s.queue with
          operations := saveAll s.queue.operations (batch.map ({ · with syncStatus := .syncing })) }
        flush := some ⟨done, some batch, (next :: rest).drop batchSize⟩ }
    | _ => .error "There is nothing to send."
  | .delivered answers, s =>
    match s.inFlight with
    | some (_, batch) => do
      let applied ← serverHandles s.enqueued s.applied (batch.zip answers)
      return { s with applied := applied }
    | none => .error "No request is out."
  | .answered answers now, s =>
    match s.inFlight with
    | some (flush, batch) =>
      if answers.length ≠ batch.length then .error "The answers are not for this batch."
      else do
        let answered := batch.zip answers
        let applied ← serverHandles s.enqueued s.applied answered
        return { s with
          queue := { s.queue with operations := applyAnswers s.queue.operations now answered }
          flush := some ⟨flush.done ++ batch, none, flush.rest⟩
          applied := applied
          acknowledged := s.acknowledged ++ acceptedIds answered
          refused := s.refused ++ refusedIds (refusedRecords now [] answered) }
    | none => .error "No request is out."
  | .failed error now, s =>
    match s.inFlight with
    | some (_, batch) => .ok { s with
        queue := { s.queue with
          operations := saveAll s.queue.operations (failedRecords now error batch) }
        flush := none }
    | none => .error "No request is out."
  | .ended, s => .ok { s with flush := none }

/-- The clock of a device may be set, so that the instants of events say nothing of their order. -/
def deliveries : Machine System Event String where
  init := ⟨⟨0, []⟩, none, [], [], [], []⟩
  exec := exec
  time _ := 0

end LockIn.Offline
