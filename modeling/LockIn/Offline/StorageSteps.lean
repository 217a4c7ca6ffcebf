import LockIn.Offline.Queue

/-!
# The queue, one storage step at a time

Between any two transactions of the database something else may happen: another flush may
read or write, a student may dismiss a refused operation, an error may be thrown, or a tab
may close.  The enqueues of one tab wait for each other; nothing else does, and another tab may
enqueue between the two transactions of an enqueue.

A flush sends the operations of the server in batches and replays those of the device itself.
-/

namespace LockIn.Offline

/-- An operation as it is stored, and whether the device replays it itself. -/
structure Record extends OfflineOperation where
  isLocal : Bool

namespace Record

abbrev key (record : Record) : Nat := record.operationId

def asSyncing (record : Record) : Record := { record with syncStatus := .syncing }

def retried (record : Record) (now : Nat) (reason : String) (code : Option OperationCode) : Record :=
  { record with toOfflineOperation := scheduleRetry record.toOfflineOperation now reason code }

def refused (record : Record) (reason : String) (code : OperationCode) : Record :=
  { record with
    syncStatus := .failedPermanent
    retryCount := record.retryCount + 1
    reason := reason
    code := some code }

end Record

def putRecord (records : List Record) (record : Record) : List Record :=
  if (Table.find Record.key records record.operationId).isSome then
    Table.put Record.key records record
  else records ++ [record]

def putRecords (records changed : List Record) : List Record := changed.foldl putRecord records

def deleteRecord (records : List Record) (operationId : Nat) : List Record :=
  records.filter (·.operationId ≠ operationId)

def readRecords (records : List Record) (operationIds : List Nat) : List Record :=
  (records.filter (·.operationId ∈ operationIds)).insertionSort
    fun first second => first.clientSequence ≤ second.clientSequence

/-- What a flush takes up. -/
def takenUp (records : List Record) (operationIds : List Nat) (now : Nat) (force : Bool) :
    List Record :=
  (readRecords records operationIds).filter fun record =>
    record.isOpen && (force || due record.toOfflineOperation now)

/-- What is still to be written. -/
inductive Command where
  | remove (operationId : Nat)
  | retry (record : Record) (reason : String) (code : Option OperationCode)
  | save (record : Record)

def Command.perform (records : List Record) (now : Nat) : Command → List Record
  | .remove operationId => deleteRecord records operationId
  | .retry record reason code => putRecord records (record.retried now reason code)
  | .save record => putRecord records record

/-- What the server says, in any order and about anything. -/
structure Response where
  accepted : List Nat
  rejected : List (Nat × Refusal)

def acceptedCommands : List Record → List Nat → List Command × List Record
  | byId, [] => ([], byId)
  | byId, operationId :: rest =>
    match Table.find Record.key byId operationId with
    | none => acceptedCommands byId rest
    | some record =>
      let (commands, left) := acceptedCommands (deleteRecord byId operationId) rest
      (.remove record.operationId :: commands, left)

def rejectedCommands : List Record → List String → List (Nat × Refusal) → List Command × List Record
  | byId, _, [] => ([], byId)
  | byId, blocked, (operationId, refusal) :: rest =>
    match Table.find Record.key byId operationId with
    | none => rejectedCommands byId blocked rest
    | some record =>
      if refusal.retryable ∨ (refusal.code = .outOfOrder ∧ record.orderingKey ∈ blocked) then
        let (commands, left) :=
          rejectedCommands (deleteRecord byId operationId) (record.orderingKey :: blocked) rest
        (.retry record refusal.reason (some refusal.code) :: commands, left)
      else
        let (commands, left) := rejectedCommands (deleteRecord byId operationId) blocked rest
        (.save (record.refused refusal.reason refusal.code) :: commands, left)

def responseCommands (batch : List Record) (response : Response) : List Command :=
  let (removals, unaccepted) := acceptedCommands batch response.accepted
  let (saves, unmentioned) := rejectedCommands unaccepted [] response.rejected
  removals ++ saves ++ unmentioned.map fun record => .retry record "" none

def failureRecords (now : Nat) (error : RequestError) (batch : List Record) : List Record :=
  batch.map fun record =>
    if isConnectivityError error then record.retried now "" (some .connection)
    else record.retried now error.message (some (if error.status = some 401 then .signin else .access))

/-- How far a flush is. -/
inductive Phase where
  /-- It has read the keys. -/
  | listed (operationIds : List Nat)
  | ready (rest locals : List Record)
  /-- The batch is marked and its request is out. -/
  | sent (batch rest locals : List Record)
  | applying (commands : List Command) (rest locals : List Record)
  | replaying (locals : List Record)
  /-- A replayed operation is over, and whether the flush is too. -/
  | concluding (command : Command) (ends : Bool) (locals : List Record)

structure RunId where
  tab : Nat
  count : Nat
deriving DecidableEq

structure FlushRun where
  id : RunId
  phase : Phase

/-- How the replay of an operation ends. -/
inductive ReplayOutcome where
  | done
  | deferred
  | disconnected
  | refused (reason : String)

structure Enqueue where
  operationId : Nat
  orderingKey : String
  isLocal : Bool

/-- The enqueues of one tab, and what became of them. -/
structure Tab where
  enqueues : List Enqueue
  /-- The sequence number that the first of the enqueues has read. -/
  readSequence : Option Nat
  /-- The operations that `enqueueOperation` was called for, in order. -/
  called : List Nat
  /-- The operations enqueued, with their sequence numbers. -/
  given : List (Nat × Nat)
  /-- The operations whose enqueue failed or ended with the page. -/
  unwritten : List Nat

/-- The database of one account and what runs on it, and what happened so far. -/
structure Device where
  sequence : Nat
  records : List Record
  tabs : Nat → Tab
  runs : List FlushRun
  /-- The refused operations that a tab is about to remove. -/
  dismissals : List (Nat × Nat)
  operationIds : List Nat
  accepted : List Nat
  dismissed : List Nat

inductive Step where
  | enqueue (tab : Nat) (request : Enqueue)
  | readSequence (tab : Nat)
  | writeOperation (tab : Nat)
  | enqueueFails (tab : Nat)
  | start (run : RunId)
  | read (run : RunId) (now : Nat) (force : Bool)
  | send (run : RunId)
  | answered (run : RunId) (response : Response)
  | failed (run : RunId) (now : Nat) (error : RequestError)
  | apply (run : RunId) (now : Nat)
  /-- The batches are over, or an error other than a lost connection ends them. -/
  | leave (run : RunId)
  | replay (run : RunId) (outcome : ReplayOutcome)
  | conclude (run : RunId) (now : Nat)
  /-- The flush is over, or an error ends it. -/
  | stop (run : RunId)
  | dismiss (tab operationId : Nat)
  | removeDismissed (tab operationId : Nat)
  | close (tab : Nat)

def Device.putTab (device : Device) (tab : Nat) (enqueues : Tab) : Device :=
  { device with tabs := Function.update device.tabs tab enqueues }

def Device.putRun (device : Device) (run : RunId) (phase : Phase) : Device :=
  { device with runs := Table.put FlushRun.id device.runs ⟨run, phase⟩ }

def Device.stopRun (device : Device) (run : RunId) : Device :=
  { device with runs := device.runs.filter (·.id ≠ run) }

def Device.phase (device : Device) (run : RunId) : Option Phase :=
  (Table.find FlushRun.id device.runs run).map (·.phase)

def newRecord (request : Enqueue) (sequence : Nat) : Record :=
  { operationId := request.operationId
    orderingKey := request.orderingKey
    clientSequence := sequence
    retryCount := 0
    syncStatus := .pending
    nextAttemptAt := none
    reason := ""
    code := none
    isLocal := request.isLocal }

def Device.inPhase (device : Device) (run : RunId) : Except String Phase :=
  match device.phase run with
  | none => .error "No such flush."
  | some phase => .ok phase

def wrongPhase : Except String Device := .error "The flush is not there."

def writeOperation (device : Device) (tab : Nat) (request : Enqueue) (rest : List Enqueue)
    (sequence : Nat) : Device :=
  { device with
    sequence := sequence + 1
    records := putRecord device.records (newRecord request (sequence + 1)) }.putTab tab
      { device.tabs tab with
        enqueues := rest
        readSequence := none
        given := (device.tabs tab).given ++ [(request.operationId, sequence + 1)] }

def startRun (device : Device) (run : RunId) : Device :=
  { device with runs := device.runs ++ [⟨run, .listed (device.records.map Record.key)⟩] }

def readOperations (device : Device) (run : RunId) (now : Nat) (force : Bool) : Phase → Except String Device
  | .listed operationIds =>
    let pending := takenUp device.records operationIds now force
    .ok (device.putRun run (.ready (pending.filter (!·.isLocal)) (pending.filter (·.isLocal))))
  | _ => wrongPhase

def sendBatch (device : Device) (run : RunId) : Phase → Except String Device
  | .ready (next :: rest) locals =>
    let batch := (next :: rest).take batchSize
    .ok ({ device with records := putRecords device.records (batch.map Record.asSyncing) }.putRun run
      (.sent batch ((next :: rest).drop batchSize) locals))
  | _ => wrongPhase

def receiveResponse (device : Device) (run : RunId) (response : Response) : Phase → Except String Device
  | .sent batch rest locals =>
    .ok ({ device with
      accepted := device.accepted ++ (batch.map Record.key).filter (· ∈ response.accepted) }.putRun
        run (.applying (responseCommands batch response) rest locals))
  | _ => wrongPhase

def receiveFailure (device : Device) (run : RunId) (now : Nat) (error : RequestError) :
    Phase → Except String Device
  | .sent batch _ locals =>
    let kept := { device with records := putRecords device.records (failureRecords now error batch) }
    if isConnectivityError error then .ok (kept.stopRun run)
    else .ok (kept.putRun run (.replaying locals))
  | _ => wrongPhase

def applyCommand (device : Device) (run : RunId) (now : Nat) : Phase → Except String Device
  | .applying (command :: commands) rest locals =>
    .ok ({ device with records := command.perform device.records now }.putRun run
      (.applying commands rest locals))
  | .applying [] rest locals => .ok (device.putRun run (.ready rest locals))
  | _ => wrongPhase

def leaveBatches (device : Device) (run : RunId) : Phase → Except String Device
  | .ready _ locals => .ok (device.putRun run (.replaying locals))
  | .sent _ _ locals => .ok (device.putRun run (.replaying locals))
  | .applying _ _ locals => .ok (device.putRun run (.replaying locals))
  | _ => wrongPhase

def replayOperation (device : Device) (run : RunId) (outcome : ReplayOutcome) : Phase → Except String Device
  | .replaying (record :: locals) =>
    match outcome with
    | .done =>
      .ok ({ device with accepted := device.accepted ++ [record.operationId] }.putRun run
        (.concluding (.remove record.operationId) false locals))
    | .deferred => .ok (device.putRun run (.replaying locals))
    | .disconnected =>
      .ok (device.putRun run (.concluding (.retry record "" (some .connection)) true locals))
    | .refused reason =>
      .ok (device.putRun run (.concluding (.save (record.refused reason .rejected)) false locals))
  | _ => wrongPhase

def concludeReplay (device : Device) (run : RunId) (now : Nat) : Phase → Except String Device
  | .concluding command ends locals =>
    let written := { device with records := command.perform device.records now }
    if ends then .ok (written.stopRun run) else .ok (written.putRun run (.replaying locals))
  | _ => wrongPhase

def Step.exec (device : Device) : Step → Except String Device
  | .enqueue tab request =>
    if request.operationId ∈ device.operationIds then .error "The id is taken."
    else
      .ok ({ device with operationIds := device.operationIds ++ [request.operationId] }.putTab tab
        { device.tabs tab with
          enqueues := (device.tabs tab).enqueues ++ [request]
          called := (device.tabs tab).called ++ [request.operationId] })
  | .readSequence tab =>
    match (device.tabs tab).enqueues, (device.tabs tab).readSequence with
    | _ :: _, none =>
      .ok (device.putTab tab { device.tabs tab with readSequence := some device.sequence })
    | _, _ => .error "No enqueue is there."
  | .writeOperation tab =>
    match (device.tabs tab).enqueues, (device.tabs tab).readSequence with
    | request :: rest, some sequence =>
      .ok (Offline.writeOperation device tab request rest sequence)
    | _, _ => .error "No enqueue is there."
  | .enqueueFails tab =>
    match (device.tabs tab).enqueues with
    | request :: rest =>
      .ok (device.putTab tab
        { device.tabs tab with
          enqueues := rest
          readSequence := none
          unwritten := (device.tabs tab).unwritten ++ [request.operationId] })
    | [] => .error "No enqueue is there."
  | .start run =>
    if (device.phase run).isSome then .error "The flush has started."
    else .ok (startRun device run)
  | .read run now force => do
    let phase ← device.inPhase run
    readOperations device run now force phase
  | .send run => do
    let phase ← device.inPhase run
    sendBatch device run phase
  | .answered run response => do
    let phase ← device.inPhase run
    receiveResponse device run response phase
  | .failed run now error => do
    let phase ← device.inPhase run
    receiveFailure device run now error phase
  | .apply run now => do
    let phase ← device.inPhase run
    applyCommand device run now phase
  | .leave run => do
    let phase ← device.inPhase run
    leaveBatches device run phase
  | .replay run outcome => do
    let phase ← device.inPhase run
    replayOperation device run outcome phase
  | .conclude run now => do
    let phase ← device.inPhase run
    concludeReplay device run now phase
  | .stop run => .ok (device.stopRun run)
  | .dismiss tab operationId =>
    match Table.find Record.key device.records operationId with
    | none => .ok device
    | some record =>
      if record.isFailed then
        .ok { device with
          dismissals := device.dismissals ++ [(tab, operationId)]
          dismissed := device.dismissed ++ [operationId] }
      else .ok device
  | .removeDismissed tab operationId =>
    if (tab, operationId) ∈ device.dismissals then
      .ok { device with
        records := deleteRecord device.records operationId
        dismissals := device.dismissals.erase (tab, operationId) }
    else .error "Nothing is dismissed."
  | .close tab =>
    .ok ({ device with
      runs := device.runs.filter (·.id.tab ≠ tab)
      dismissals := device.dismissals.filter (·.1 ≠ tab) }.putTab tab
        { device.tabs tab with
          enqueues := []
          readSequence := none
          unwritten := (device.tabs tab).unwritten ++
            (device.tabs tab).enqueues.map Enqueue.operationId })

def emptyDevice : Device := ⟨0, [], fun _ => ⟨[], none, [], [], []⟩, [], [], [], [], []⟩

def storage : Machine Device Step String where
  init := emptyDevice
  exec step device := step.exec device
  time _ := 0

end LockIn.Offline
