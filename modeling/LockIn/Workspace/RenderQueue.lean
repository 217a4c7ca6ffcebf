import LockIn.Library.Script

/-!
# The queue of page renders

`PdfRenderQueue` renders pages a few at a time, the most urgent one first.  What is enqueued in one
turn is drained in a microtask, so that the order of the calls does not matter.

A job is named by its sequence number, its place among all jobs created.  A cancel callback is outside
the queue: it does not throw and does not come back into it.
-/

namespace LockIn.Workspace

open Script (Number)

namespace Render

abbrev Priority := { priority : Number // priority ≠ .nan }

/-- `Number(priority) || 0` -/
def priorityOf (priority : Number) : Priority :=
  if h : priority = .nan then ⟨.finite 0, nofun⟩ else ⟨priority, h⟩

/-- `Math.max(1, Number(concurrency) || 1)` -/
def concurrencyOf : Number → WithTop ℚ
  | .finite value => ((max 1 value : ℚ) : WithTop ℚ)
  | .infinite false => ⊤
  | .infinite true | .nan => 1

structure Job (Key : Type) where
  key : Key
  priority : Priority
  active : Bool := false
  cancelled : Bool := false
  /-- Whether a callback is registered. -/
  cancelActive : Bool := false

structure Queue (Key : Type) where
  concurrency : WithTop ℚ
  pending : List Nat := []
  jobs : List (Key × Nat) := []
  activeCount : ℤ := 0
  drainScheduled : Bool := false
  destroyed : Bool := false
  /-- Every job there was.  The next sequence number is how many they are. -/
  created : List (Job Key) := []
  /-- The drains among the microtasks. -/
  microtasks : Nat := 0
  /-- The jobs that were started and are not over, one entry for each start. -/
  running : List Nat := []
  /-- The jobs whose cancel callback was called. -/
  told : List Nat := []

structure Start (Key : Type) where
  queue : Queue Key
  sequence : Nat

def Queue.new {Key : Type} (concurrency : Number) : Queue Key where
  concurrency := concurrencyOf concurrency

variable {Key : Type} [DecidableEq Key]

namespace Queue

def modify (queue : Queue Key) (sequence : Nat) (change : Job Key → Job Key) : Queue Key :=
  { queue with created := queue.created.modify sequence change }

/-- `this.jobs.get(job.key) === job` -/
def Holds (queue : Queue Key) (key : Key) (sequence : Nat) : Prop :=
  Dictionary.get queue.jobs key = some sequence

instance (queue : Queue Key) (key : Key) (sequence : Nat) : Decidable (queue.Holds key sequence) :=
  inferInstanceAs (Decidable (_ = _))

def forget (queue : Queue Key) (key : Key) (sequence : Nat) : Queue Key :=
  { queue with
    jobs := if queue.Holds key sequence then Dictionary.delete queue.jobs key else queue.jobs }

def scheduleDrain (queue : Queue Key) : Queue Key :=
  if queue.destroyed ∨ queue.drainScheduled then queue
  else { queue with drainScheduled := true, microtasks := queue.microtasks + 1 }

def cancelJob (queue : Queue Key) (sequence : Nat) : Queue Key :=
  match queue.created[sequence]? with
  | none => queue
  | some job =>
    if job.cancelled then queue
    else
      let queue := queue.modify sequence fun job => { job with cancelled := true }
      let queue := queue.forget job.key sequence
      let queue := if job.cancelActive then { queue with told := queue.told ++ [sequence] } else queue
      queue.scheduleDrain

def cancel (queue : Queue Key) (key : Key) : Queue Key :=
  match Dictionary.get queue.jobs key with
  | some sequence => queue.cancelJob sequence
  | none => queue

/-- The new job, in the map and at the end of the pending ones. -/
def push (queue : Queue Key) (key : Key) (priority : Number) : Queue Key :=
  { queue with
    created := queue.created ++ [{ key := key, priority := priorityOf priority }]
    jobs := Dictionary.set queue.jobs key queue.created.length
    pending := queue.pending ++ [queue.created.length] }

/-- `isFunction`: whether `run` is one. -/
def enqueue (queue : Queue Key) (key : Key) (priority : Number) (isFunction : Bool) : Queue Key :=
  if queue.destroyed ∨ isFunction = false then queue
  else ((queue.cancel key).push key priority).scheduleDrain

def clear (queue : Queue Key) : Queue Key :=
  { (queue.jobs.map Prod.snd).foldl cancelJob queue with pending := [] }

def destroy (queue : Queue Key) : Queue Key :=
  ({ queue with destroyed := true } : Queue Key).clear

def priority (queue : Queue Key) (sequence : Nat) : Number :=
  match queue.created[sequence]? with
  | some job => job.priority
  | none => .finite 0

/-- `first.priority - second.priority || first.sequence - second.sequence` -/
def compare (queue : Queue Key) (first second : Nat) : Number :=
  let difference := (queue.priority first).sub (queue.priority second)
  if difference.truthy then difference else .finite (first - second)

def sorted (queue : Queue Key) : List Nat :=
  queue.pending.insertionSort fun first second => (queue.compare first second).isPositive = false

/-- `!job.cancelled && this.jobs.get(job.key) === job` -/
def Live (queue : Queue Key) (sequence : Nat) : Prop :=
  ∃ job, queue.created[sequence]? = some job ∧ job.cancelled = false ∧ queue.Holds job.key sequence

instance (queue : Queue Key) (sequence : Nat) : Decidable (queue.Live sequence) :=
  match h : queue.created[sequence]? with
  | none => isFalse fun ⟨_, hjob, _⟩ => by rw [h] at hjob; cases hjob
  | some job => decidable_of_iff (job.cancelled = false ∧ queue.Holds job.key sequence)
      ⟨fun hlive => ⟨job, h, hlive⟩, fun ⟨_, hjob, hlive⟩ => by
        cases h.symm.trans hjob
        exact hlive⟩

/-- `this.activeCount < this.concurrency` -/
def HasRoom (queue : Queue Key) : Prop :=
  (((queue.activeCount : ℚ)) : WithTop ℚ) < queue.concurrency

instance (queue : Queue Key) : Decidable queue.HasRoom :=
  inferInstanceAs (Decidable ((_ : WithTop ℚ) < _))

def start (queue : Queue Key) (sequence : Nat) : Queue Key :=
  { queue.modify sequence fun job => { job with active := true } with
    activeCount := queue.activeCount + 1
    running := queue.running ++ [sequence] }

/-- The loop of `drain`, with the jobs that are still pending. -/
def drainLoop (queue : Queue Key) : List Nat → Queue Key × List (Start Key)
  | [] => ({ queue with pending := [] }, [])
  | sequence :: rest =>
    if queue.HasRoom then
      let taken := { queue with pending := rest }
      if taken.Live sequence then
        let (drained, starts) := (taken.start sequence).drainLoop rest
        (drained, ⟨taken, sequence⟩ :: starts)
      else taken.drainLoop rest
    else ({ queue with pending := sequence :: rest }, [])

def drain (queue : Queue Key) : Queue Key × List (Start Key) :=
  if queue.destroyed ∨ ¬queue.HasRoom then (queue, []) else queue.drainLoop queue.sorted

/-- `registerCancel`, which a started job is given. -/
def registerCancel (queue : Queue Key) (sequence : Nat) (isFunction : Bool) : Queue Key :=
  let queue := queue.modify sequence fun job => { job with cancelActive := isFunction }
  match queue.created[sequence]? with
  | some job =>
    if job.cancelled ∧ job.cancelActive then { queue with told := queue.told ++ [sequence] }
    else queue
  | none => queue

/-- The `finally` of a start, whether the job succeeded or failed. -/
def settle (queue : Queue Key) (sequence : Nat) : Queue Key :=
  match queue.created[sequence]? with
  | none => queue
  | some job =>
    let queue := queue.modify sequence fun job => { job with active := false, cancelActive := false }
    let queue := { queue with
      activeCount := queue.activeCount - 1
      running := queue.running.erase sequence }
    (queue.forget job.key sequence).scheduleDrain

end Queue

inductive Event (Key : Type)
  | enqueue (key : Key) (priority : Number) (isFunction : Bool)
  | cancel (key : Key)
  /-- The function that `enqueue` returned is called. -/
  | cancelReturned (sequence : Nat)
  | clear
  | destroy
  | registerCancel (sequence : Nat) (isFunction : Bool)
  | settle (sequence : Nat)
  /-- A scheduled drain has its turn. -/
  | microtask

/-- What an event does, and the jobs that it starts.  An event that cannot happen does nothing: a job
that does not run does not settle, and only a scheduled drain has a turn. -/
def Queue.exec (queue : Queue Key) : Event Key → Queue Key × List (Start Key)
  | .enqueue key priority isFunction => (queue.enqueue key priority isFunction, [])
  | .cancel key => (queue.cancel key, [])
  | .cancelReturned sequence => (queue.cancelJob sequence, [])
  | .clear => (queue.clear, [])
  | .destroy => (queue.destroy, [])
  | .registerCancel sequence isFunction => (queue.registerCancel sequence isFunction, [])
  | .settle sequence => (if sequence ∈ queue.running then queue.settle sequence else queue, [])
  | .microtask =>
    if 0 < queue.microtasks then
      ({ queue with microtasks := queue.microtasks - 1, drainScheduled := false } : Queue Key).drain
    else (queue, [])

def Queue.run (queue : Queue Key) : List (Event Key) → Queue Key × List (Start Key)
  | [] => (queue, [])
  | event :: rest =>
    let (next, starts) := queue.exec event
    let (final, later) := next.run rest
    (final, starts ++ later)

end Render

end LockIn.Workspace
