import LockIn.Library.Machine
import LockIn.Library.Table
import LockIn.Library.Whitespace

/-!
# Scans of uploaded files

A worker claims the next file of the queue, scans it and reports the verdict or that there is
none.  A claim that is not reported in time is given up by a recovery, which reads the files that
are late and then puts them back one after another.  An operator can decide about a file at any
time.  All of them find a file by its id and look at its status only.

A step of the system is one transaction.  What the claims are and who changed a status last is
kept beside the files, for it is what the properties are about.
-/

namespace LockIn.Files

open Outcome
open Whitespace (Text)

inductive ScanStatus where
  | notConfigured
  | pending
  | scanning
  | clean
  | quarantined
  | failed
deriving DecidableEq

inductive ValidationStatus where
  | ready
  | rejected
deriving DecidableEq

structure ManagedFile where
  id : Nat
  owner : Nat
  blobName : Text
  sizeBytes : Nat
  validationStatus : ValidationStatus
  scanStatus : ScanStatus
  scanAttempts : Nat
  scanRequestedAt : Option Nat
  scanStartedAt : Option Nat
  scanCompletedAt : Option Nat
  scanNextAttemptAt : Option Nat
  scanEngine : Text
  scanSignature : Text
  scanErrorCode : Text
  createdAt : Nat

structure Settings where
  maxAttempts : Int
  claimTimeoutSeconds : Int
  retryBaseSeconds : Int
  retryMaxSeconds : Int

def seconds (count : Int) : Nat := count.toNat * 1000000

inductive Verdict where
  | clean
  | quarantined

def Verdict.status : Verdict → ScanStatus
  | .clean => .clean
  | .quarantined => .quarantined

structure ScanResult where
  verdict : Verdict
  engine : Text
  signature : Text

inductive ScanError where
  | decision (message : String)
  | doesNotExist
  | notClaimed

/-- `create_managed_file` of an upload that was validated. -/
def createManagedFile (id owner : Nat) (blobName : Text) (sizeBytes : Nat) (scanRequired : Bool)
    (now : Nat) : ManagedFile where
  id := id
  owner := owner
  blobName := blobName
  sizeBytes := sizeBytes
  validationStatus := .ready
  scanStatus := if scanRequired then .pending else .notConfigured
  scanAttempts := 0
  scanRequestedAt := if scanRequired then some now else none
  scanStartedAt := none
  scanCompletedAt := none
  scanNextAttemptAt := if scanRequired then some now else none
  scanEngine := []
  scanSignature := []
  scanErrorCode := []
  createdAt := now

def managedFileDeliveryReady (requireCleanScan : Bool) (file : ManagedFile) : Bool :=
  if file.validationStatus ≠ .ready then false
  else if file.scanStatus = .quarantined ∨ file.scanStatus = .failed then false
  else if requireCleanScan ∧ file.scanStatus ≠ .clean then false
  else file.blobName ≠ [] && 0 < file.sizeBytes

def queued (now : Nat) (file : ManagedFile) : Bool :=
  file.scanStatus = .pending && file.scanNextAttemptAt.all (· ≤ now)

def queuedBefore (first second : ManagedFile) : Bool :=
  match first.scanNextAttemptAt, second.scanNextAttemptAt with
  | some one, some other =>
    one < other || (one = other && first.createdAt < second.createdAt)
  | some _, none => true
  | none, some _ => false
  | none, none => first.createdAt < second.createdAt

def firstQueued : List ManagedFile → Option ManagedFile
  | [] => none
  | file :: rest =>
    match firstQueued rest with
    | none => some file
    | some other => if queuedBefore other file then some other else some file

def claimed (now : Nat) (file : ManagedFile) : ManagedFile :=
  { file with
    scanStatus := .scanning
    scanAttempts := file.scanAttempts + 1
    scanStartedAt := some now
    scanCompletedAt := none
    scanNextAttemptAt := none
    scanErrorCode := [] }

/-- `claim_next_scan`: the claimed row.  Rows that others hold a lock on are skipped. -/
def claimNextScan (now : Nat) (locked : List Nat) (files : List ManagedFile) : Option ManagedFile :=
  (firstQueued (files.filter fun file => file.id ∉ locked && queued now file)).map (claimed now)

def scanRetryDelay (settings : Settings) (attempt : Nat) : Nat :=
  let base := max 1 settings.retryBaseSeconds
  let maximum := max base settings.retryMaxSeconds
  seconds (min maximum (base * 2 ^ (attempt - 1)))

/-- `persist_scan_result`, for a file that is found. -/
def persistScanResult (now : Nat) (result : ScanResult) (file : ManagedFile) : ManagedFile :=
  if file.scanStatus ≠ .scanning then file
  else
    { file with
      scanStatus := result.verdict.status
      scanCompletedAt := some now
      scanNextAttemptAt := none
      scanEngine := result.engine.take 80
      scanSignature := result.signature.take 160
      scanErrorCode := [] }

def maximumAttempts (settings : Settings) : Nat := (max 1 settings.maxAttempts).toNat

/-- `persist_scan_failure`, for a file that is found. -/
def persistScanFailure (settings : Settings) (now : Nat) (errorCode : Text) (file : ManagedFile) :
    ManagedFile :=
  if file.scanStatus ≠ .scanning then file
  else
    let terminal : Bool := maximumAttempts settings ≤ file.scanAttempts
    { file with
      scanStatus := if terminal then .failed else .pending
      scanCompletedAt := if terminal then some now else none
      scanNextAttemptAt :=
        if terminal then none else some (now + scanRetryDelay settings file.scanAttempts)
      scanErrorCode := errorCode.take 80 }

/-- The ids that `recover_stale_scans` reads before it fails them one by one. -/
def staleIds (settings : Settings) (now : Nat) (files : List ManagedFile) : List Nat :=
  (files.filter fun file => file.scanStatus = .scanning && file.scanStartedAt.any fun started =>
    started + seconds (max 1 settings.claimTimeoutSeconds) < now).map (·.id)

def scanTimeout : Text := "scan_timeout".toList

def operatorDecisions : List ScanStatus := [.clean, .quarantined, .failed]

def overruled (now : Nat) (decision : ScanStatus) (file : ManagedFile) : ManagedFile :=
  { file with
    scanStatus := decision
    scanCompletedAt := some now
    scanNextAttemptAt := none
    scanErrorCode := if decision ≠ .clean then "operator_rejected".toList else []
    scanEngine := "operator-override".toList
    scanSignature := [] }

def recordOperatorScanDecision (now actor : Nat) (decision : ScanStatus) (reason : Text)
    (found : Option ManagedFile) : Except ScanError ManagedFile :=
  if (Whitespace.strip reason).length < 10 then
    .error (.decision "A specific reason of at least 10 characters is required.")
  else if decision ∉ operatorDecisions then
    .error (.decision "This scan decision is not supported.")
  else
    match found with
    | none => .error .doesNotExist
    | some file =>
      if decision = .clean ∧ file.owner = actor then
        .error (.decision "A file owner cannot approve their own upload.")
      else if file.scanStatus = decision then .ok file
      else .ok (overruled now decision file)

/-- A claim of a worker, with the row's number of attempts that it returned. -/
structure Claim where
  serial : Nat
  file : Nat
  attempt : Nat
deriving DecidableEq

inductive Author where
  | claim (serial : Nat)
  | report (serial : Nat)
  | recovery
  | operator (actor : Nat)
deriving DecidableEq

structure Change where
  file : Nat
  author : Author
  status : ScanStatus
  current : Option Nat
deriving DecidableEq

/-- The files, the claims whose workers have not reported, what the recoveries still have to fail,
how many claims were made, the current claim of a file and the changes, the last one first. -/
structure System where
  files : List ManagedFile
  held : List Claim
  recoveries : List (List Nat)
  made : Nat
  current : Nat → Option Nat
  changes : List Change

def file? (system : System) (id : Nat) : Option ManagedFile :=
  Table.find ManagedFile.id system.files id

/-- Save a row whose status changed; the others are not saved.  Whoever changes a status ends the
current claim, unless it is a new claim. -/
def System.save (system : System) (author : Author) (old new : ManagedFile) : System :=
  if new.scanStatus = old.scanStatus then system
  else
    { system with
      files := Table.put ManagedFile.id system.files new
      current := fun id =>
        if id = new.id then
          match author with
          | .claim serial => some serial
          | _ => none
        else system.current id
      changes := ⟨new.id, author, new.scanStatus, system.current new.id⟩ :: system.changes }

inductive Action where
  | upload (owner : Nat) (blobName : Text) (sizeBytes : Nat) (scanRequired : Bool)
  | claim (locked : List Nat)
  | result (claim : Claim) (result : ScanResult)
  | failure (claim : Claim) (errorCode : Text)
  | readStale
  | failStale (recovery : Nat)
  | decide (actor file : Nat) (decision : ScanStatus) (reason : Text)

structure Call where
  action : Action
  now : Nat

def claim (now : Nat) (locked : List Nat) (system : System) : System :=
  match claimNextScan now locked system.files with
  | none => system
  | some row =>
    match file? system row.id with
    | none => system
    | some old =>
      { system.save (.claim system.made) old row with
        held := system.held ++ [⟨system.made, row.id, row.scanAttempts⟩]
        made := system.made + 1 }

def report (claim : Claim) (persist : ManagedFile → ManagedFile) (system : System) :
    Except ScanError System :=
  if claim ∉ system.held then .error .notClaimed
  else
    match file? system claim.file with
    | none => .error .doesNotExist
    | some old =>
      let system := { system with held := system.held.erase claim }
      .ok (system.save (.report claim.serial) old (persist old))

def failStale (settings : Settings) (now recovery : Nat) (system : System) :
    Except ScanError System :=
  match system.recoveries[recovery]? with
  | some (id :: rest) =>
    match file? system id with
    | none => .error .doesNotExist
    | some old =>
      let system := { system with recoveries := system.recoveries.set recovery rest }
      .ok (system.save .recovery old (persistScanFailure settings now scanTimeout old))
  | _ => .error .notClaimed

def decideFile (now actor file : Nat) (decision : ScanStatus) (reason : Text) (system : System) :
    Except ScanError System := do
  let found := file? system file
  let new ← recordOperatorScanDecision now actor decision reason found
  return match found with
    | none => system
    | some old => system.save (.operator actor) old new

def execute (settings : Settings) (call : Call) (system : System) : Except ScanError System :=
  match call.action with
  | .upload owner blobName sizeBytes scanRequired =>
    .ok { system with
      files := system.files ++
        [createManagedFile system.files.length owner blobName sizeBytes scanRequired call.now] }
  | .claim locked => .ok (claim call.now locked system)
  | .result claim result => report claim (persistScanResult call.now result) system
  | .failure claim errorCode =>
    report claim (persistScanFailure settings call.now errorCode) system
  | .readStale =>
    .ok { system with recoveries := system.recoveries ++ [staleIds settings call.now system.files] }
  | .failStale recovery => failStale settings call.now recovery system
  | .decide actor file decision reason => decideFile call.now actor file decision reason system

def scanner (settings : Settings) : Machine System Call ScanError where
  init :=
    { files := [], held := [], recoveries := [], made := 0, current := fun _ => none, changes := [] }
  exec := execute settings
  time := Call.now

end LockIn.Files
