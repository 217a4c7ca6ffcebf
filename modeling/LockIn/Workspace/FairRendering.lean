import LockIn.Workspace.RenderQueue

/-!
# The order in which pages are rendered

What the queue keeps over every interleaving.  The map has the jobs that are neither cancelled nor over,
one for each key.  A job waits among the pending ones until it is started or cancelled, and while it
waits and there is room a drain is scheduled.
-/

namespace LockIn.Workspace.Render

open Script (Number)
open List

variable {Key : Type} [DecidableEq Key] {queue : Queue Key} {started : List Nat}
  {key other : Key} {sequence place : Nat}

def Queue.Over (queue : Queue Key) (started : List Nat) (sequence : Nat) : Prop :=
  sequence ∈ started ∧ sequence ∉ queue.running

structure Sound (queue : Queue Key) (started : List Nat) : Prop where
  keys : (Dictionary.keys queue.jobs).Nodup
  listed : ∀ key sequence, queue.Holds key sequence ↔
    ∃ job, queue.created[sequence]? = some job ∧ job.key = key ∧ job.cancelled = false ∧
      ¬queue.Over started sequence
  waiting : ∀ sequence job, queue.created[sequence]? = some job → job.cancelled = false →
    sequence ∉ started → sequence ∈ queue.pending
  fresh : ∀ sequence ∈ queue.pending, sequence ∉ started ∧ sequence < queue.created.length
  pending : queue.pending.Nodup
  once : started.Nodup
  created : ∀ sequence ∈ started, sequence < queue.created.length
  running : queue.running.Nodup
  runs : ∀ sequence ∈ queue.running, sequence ∈ started
  counted : queue.activeCount = queue.running.length
  limited : ∀ bound : ℕ, queue.concurrency ≤ ((bound : ℚ) : WithTop ℚ) →
    queue.running.length ≤ bound

def Queue.Tracked (queue : Queue Key) : Prop :=
  ∀ sequence job, queue.created[sequence]? = some job →
    (job.active = true ↔ sequence ∈ queue.running)

/-- While there is room, a job that waits has a drain to wait for. -/
def Queue.Awake (queue : Queue Key) : Prop :=
  queue.destroyed = false → queue.HasRoom → (∃ sequence ∈ queue.pending, queue.Live sequence) →
    queue.drainScheduled = true

def Queue.Flagged (queue : Queue Key) : Prop :=
  queue.microtasks = if queue.drainScheduled then 1 else 0

def Queue.order (queue : Queue Key) (sequence : Nat) : WithBot (WithTop ℚ) ×ₗ Nat :=
  toLex ((queue.priority sequence).rank, sequence)

structure Start.Due (start : Start Key) : Prop where
  live : start.queue.Live start.sequence
  room : start.queue.HasRoom
  first : ∀ sequence ∈ start.queue.pending, start.queue.Live sequence →
    ¬start.queue.order sequence < start.queue.order start.sequence

omit [DecidableEq Key] in
theorem scheduleDrain_eq (queue : Queue Key) : ∃ flag count,
    queue.scheduleDrain = { queue with drainScheduled := flag, microtasks := count } := by
  unfold Queue.scheduleDrain
  split_ifs
  · exact ⟨queue.drainScheduled, queue.microtasks, rfl⟩
  · exact ⟨true, queue.microtasks + 1, rfl⟩

theorem Sound.flags (h : Sound queue started) (flag : Bool) (count : Nat) (told : List Nat) :
    Sound { queue with drainScheduled := flag, microtasks := count, told := told } started :=
  ⟨h.keys, h.listed, h.waiting, h.fresh, h.pending, h.once, h.created, h.running, h.runs,
    h.counted, h.limited⟩

theorem Sound.scheduleDrain (h : Sound queue started) : Sound queue.scheduleDrain started := by
  obtain ⟨flag, count, heq⟩ := scheduleDrain_eq queue
  rw [heq]
  exact h.flags flag count queue.told

omit [DecidableEq Key] in
theorem tracked_scheduleDrain (h : queue.Tracked) : queue.scheduleDrain.Tracked := by
  obtain ⟨flag, count, heq⟩ := scheduleDrain_eq queue
  rw [heq]
  exact h

theorem awake_scheduleDrain (queue : Queue Key) : queue.scheduleDrain.Awake := by
  intro halive _ _
  unfold Queue.scheduleDrain at halive ⊢
  split_ifs at halive ⊢ with h
  · rcases h with h | h
    · exact absurd h (by rw [halive]; decide)
    · exact h
  · rfl

omit [DecidableEq Key] in
theorem flagged_scheduleDrain (h : queue.Flagged) : queue.scheduleDrain.Flagged := by
  unfold Queue.scheduleDrain
  by_cases hno : queue.destroyed = true ∨ queue.drainScheduled = true
  · rw [if_pos hno]
    exact h
  · rw [if_neg hno]
    rw [not_or] at hno
    unfold Queue.Flagged at h
    rw [if_neg hno.2] at h
    change queue.microtasks + 1 = 1
    rw [h]

theorem jobs_forget (h : queue.Holds key sequence) :
    (queue.forget key sequence).jobs = Dictionary.delete queue.jobs key :=
  if_pos h

theorem jobs_forget_of_not (h : ¬queue.Holds key sequence) :
    (queue.forget key sequence).jobs = queue.jobs :=
  if_neg h

theorem holds_forget : (queue.forget key sequence).Holds other place ↔
    queue.Holds other place ∧ ¬(other = key ∧ place = sequence) := by
  by_cases hholds : queue.Holds key sequence
  · unfold Queue.Holds at hholds ⊢
    rw [jobs_forget hholds, Dictionary.get_delete]
    split_ifs with hkey
    · subst hkey
      refine iff_of_false (by simp) ?_
      rintro ⟨hother, hne⟩
      exact hne ⟨rfl, Option.some.inj (hother.symm.trans hholds)⟩
    · exact ⟨fun h => ⟨h, fun hsame => hkey hsame.1⟩, And.left⟩
  · have hsame : (queue.forget key sequence).Holds other place ↔ queue.Holds other place := by
      unfold Queue.Holds
      rw [jobs_forget_of_not hholds]
    rw [hsame]
    refine ⟨fun h => ⟨h, ?_⟩, And.left⟩
    rintro ⟨rfl, rfl⟩
    exact hholds h

theorem keys_forget (h : (Dictionary.keys queue.jobs).Nodup) :
    (Dictionary.keys (queue.forget key sequence).jobs).Nodup := by
  by_cases hholds : queue.Holds key sequence
  · rw [jobs_forget hholds]
    exact Dictionary.nodup_delete h
  · rw [jobs_forget_of_not hholds]
    exact h

theorem cancelJob_cases (queue : Queue Key) (sequence : Nat) :
    (queue.cancelJob sequence = queue ∧
      ∀ job, queue.created[sequence]? = some job → job.cancelled = true) ∨
    ∃ job told, queue.created[sequence]? = some job ∧ job.cancelled = false ∧
      queue.cancelJob sequence = Queue.scheduleDrain
        { queue with
          created := queue.created.modify sequence fun job => { job with cancelled := true }
          jobs := (queue.forget job.key sequence).jobs
          told := told } := by
  unfold Queue.cancelJob
  cases hjob : queue.created[sequence]? with
  | none => exact .inl ⟨rfl, nofun⟩
  | some job =>
    simp only
    split_ifs with hcancelled htold
    · refine .inl ⟨rfl, ?_⟩
      rintro _ ⟨⟩
      exact hcancelled
    · exact .inr ⟨job, queue.told ++ [sequence], rfl, Bool.eq_false_iff.2 hcancelled, rfl⟩
    · exact .inr ⟨job, queue.told, rfl, Bool.eq_false_iff.2 hcancelled, rfl⟩

theorem created_cancelJob (queue : Queue Key) (sequence place : Nat) :
    (queue.cancelJob sequence).created[place]? = queue.created[place]?.map fun job =>
      if sequence = place then { job with cancelled := true } else job := by
  rcases cancelJob_cases queue sequence with ⟨heq, hcancelled⟩ | ⟨job, told, _, _, heq⟩
  · rw [heq]
    cases hplace : queue.created[place]? with
    | none => rfl
    | some job =>
      rw [Option.map_some]
      split_ifs with hsame
      · subst hsame
        have htrue := hcancelled job hplace
        cases job
        cases htrue
        rfl
      · rfl
  · rw [heq]
    obtain ⟨flag, count, hdrain⟩ := scheduleDrain_eq
      { queue with
        created := queue.created.modify sequence fun job => { job with cancelled := true }
        jobs := (queue.forget job.key sequence).jobs
        told := told }
    rw [hdrain]
    exact getElem?_modify _ _ _ _

theorem rest_cancelJob (queue : Queue Key) (sequence : Nat) :
    (queue.cancelJob sequence).pending = queue.pending ∧
      (queue.cancelJob sequence).running = queue.running ∧
      (queue.cancelJob sequence).destroyed = queue.destroyed := by
  rcases cancelJob_cases queue sequence with ⟨heq, _⟩ | ⟨job, told, _, _, heq⟩
  · rw [heq]
    exact ⟨rfl, rfl, rfl⟩
  · rw [heq]
    obtain ⟨flag, count, hdrain⟩ := scheduleDrain_eq
      { queue with
        created := queue.created.modify sequence fun job => { job with cancelled := true }
        jobs := (queue.forget job.key sequence).jobs
        told := told }
    rw [hdrain]
    exact ⟨rfl, rfl, rfl⟩

theorem Sound.cancelJob (h : Sound queue started) (sequence : Nat) :
    Sound (queue.cancelJob sequence) started := by
  have hheap := created_cancelJob queue sequence
  rcases cancelJob_cases queue sequence with ⟨heq, _⟩ | ⟨job, told, hjob, hlive, heq⟩
  · rw [heq]
    exact h
  · rw [heq]
    refine Sound.scheduleDrain ?_
    have hmodify : ∀ place, (queue.created.modify sequence fun job =>
        { job with cancelled := true })[place]? = queue.created[place]?.map fun job =>
          if sequence = place then { job with cancelled := true } else job :=
      fun place => getElem?_modify _ _ _ _
    have hold : ∀ place found, (queue.created.modify sequence fun job =>
        { job with cancelled := true })[place]? = some found → found.cancelled = false →
          queue.created[place]? = some found ∧ place ≠ sequence := by
      intro place found hfound huncancelled
      rw [hmodify, Option.map_eq_some_iff] at hfound
      obtain ⟨before, hbefore, rfl⟩ := hfound
      by_cases hsame : sequence = place
      · rw [if_pos hsame] at huncancelled
        cases huncancelled
      · rw [if_neg hsame]
        exact ⟨hbefore, Ne.symm hsame⟩
    refine ⟨keys_forget h.keys, fun key place => ?_, ?_, ?_, h.pending, h.once, ?_, h.running,
      h.runs, h.counted, h.limited⟩
    · refine Iff.trans holds_forget ?_
      rw [h.listed]
      constructor
      · rintro ⟨⟨found, hfound, rfl, huncancelled, hover⟩, hother⟩
        have hne : sequence ≠ place := by
          rintro rfl
          cases hjob.symm.trans hfound
          exact hother ⟨rfl, rfl⟩
        refine ⟨found, ?_, rfl, huncancelled, hover⟩
        change (queue.created.modify sequence _)[place]? = some found
        rw [hmodify, hfound, Option.map_some, if_neg hne]
      · rintro ⟨found, hfound, rfl, huncancelled, hover⟩
        obtain ⟨hbefore, hne⟩ := hold place found hfound huncancelled
        exact ⟨⟨found, hbefore, rfl, huncancelled, hover⟩, fun hsame => hne hsame.2⟩
    · intro place found hfound huncancelled hnew
      obtain ⟨hbefore, _⟩ := hold place found hfound huncancelled
      exact h.waiting place found hbefore huncancelled hnew
    · intro place hplace
      rw [length_modify]
      exact h.fresh place hplace
    · intro place hplace
      rw [length_modify]
      exact h.created place hplace

theorem tracked_cancelJob (h : queue.Tracked) (sequence : Nat) :
    (queue.cancelJob sequence).Tracked := by
  intro place found hfound
  rw [created_cancelJob, Option.map_eq_some_iff] at hfound
  obtain ⟨before, hbefore, rfl⟩ := hfound
  rw [(rest_cancelJob queue sequence).2.1, ← h place before hbefore]
  split_ifs <;> rfl

structure Kept (queue : Queue Key) (started : List Nat) : Prop where
  sound : Sound queue started
  tracked : queue.Tracked
  awake : queue.Awake
  flagged : queue.Flagged

theorem Kept.cancelJob (h : Kept queue started) (sequence : Nat) :
    Kept (queue.cancelJob sequence) started := by
  refine ⟨h.sound.cancelJob sequence, tracked_cancelJob h.tracked sequence, ?_, ?_⟩
  · rcases cancelJob_cases queue sequence with ⟨heq, _⟩ | ⟨_, _, _, _, heq⟩
    · rw [heq]
      exact h.awake
    · rw [heq]
      exact awake_scheduleDrain _
  · rcases cancelJob_cases queue sequence with ⟨heq, _⟩ | ⟨_, _, _, _, heq⟩
    · rw [heq]
      exact h.flagged
    · rw [heq]
      exact flagged_scheduleDrain h.flagged

theorem Kept.cancel (h : Kept queue started) (key : Key) : Kept (queue.cancel key) started := by
  unfold Queue.cancel
  split
  · exact h.cancelJob _
  · exact h

theorem Sound.not_holds_cancel (h : Sound queue started) (key : Key) (place : Nat) :
    ¬(queue.cancel key).Holds key place := by
  unfold Queue.cancel
  cases hget : Dictionary.get queue.jobs key with
  | none =>
    intro hholds
    exact absurd (hget.symm.trans hholds) (by simp)
  | some sequence =>
    intro hholds
    obtain ⟨job, hjob, rfl, huncancelled, hover⟩ := ((h.cancelJob sequence).listed key place).1 hholds
    rw [created_cancelJob, Option.map_eq_some_iff] at hjob
    obtain ⟨before, hbefore, rfl⟩ := hjob
    by_cases hsame : sequence = place
    · rw [if_pos hsame] at huncancelled
      cases huncancelled
    · rw [if_neg hsame] at huncancelled hget
      rw [Queue.Over, (rest_cancelJob queue sequence).2.1] at hover
      have hold : queue.Holds before.key place :=
        (h.listed before.key place).2 ⟨before, hbefore, rfl, huncancelled, hover⟩
      exact hsame (Option.some.inj (hget.symm.trans hold))

theorem created_push {priority : Number} {place : Nat} {job : Job Key}
    (h : (queue.push key priority).created[place]? = some job) :
    queue.created[place]? = some job ∨
      place = queue.created.length ∧ job = { key := key, priority := priorityOf priority } := by
  change (queue.created ++ [_])[place]? = some job at h
  rcases Nat.lt_or_ge place queue.created.length with hlt | hge
  · rw [getElem?_append_left hlt] at h
    exact .inl h
  · rw [getElem?_append_right hge] at h
    obtain ⟨hzero, rfl⟩ := List.getElem?_eq_some_iff.1 h
    rw [length_singleton] at hzero
    exact .inr ⟨by omega, by simp⟩

theorem Sound.push (h : Sound queue started) (hfree : ∀ place, ¬queue.Holds key place)
    (priority : Number) : Sound (queue.push key priority) started := by
  have hnew : queue.created.length ∉ started := fun hmem => absurd (h.created _ hmem) (lt_irrefl _)
  have hpending : queue.created.length ∉ queue.pending := fun hmem =>
    absurd (h.fresh _ hmem).2 (lt_irrefl _)
  have hlength : (queue.push key priority).created.length = queue.created.length + 1 :=
    length_append
  refine ⟨Dictionary.nodup_set h.keys, fun other place => ?_,
    fun place job hjob huncancelled hfresh => ?_, fun place hplace => ?_, ?_, h.once,
    fun place hplace => ?_, h.running, h.runs, h.counted, h.limited⟩
  · change Dictionary.get (Dictionary.set queue.jobs key queue.created.length) other = some place ↔ _
    rw [Dictionary.get_set]
    constructor
    · intro hget
      split_ifs at hget with hother
      · cases hget
        exact ⟨_, getElem?_concat_length, hother.symm, rfl, fun hover => hnew hover.1⟩
      · obtain ⟨job, hjob, hrest⟩ := (h.listed other place).1 hget
        have hlt := (List.getElem?_eq_some_iff.1 hjob).1
        exact ⟨job, (getElem?_append_left hlt).trans hjob, hrest⟩
    · rintro ⟨job, hjob, rfl, huncancelled, hover⟩
      rcases created_push hjob with hold | ⟨rfl, rfl⟩
      · have hholds := (h.listed job.key place).2 ⟨job, hold, rfl, huncancelled, hover⟩
        rw [if_neg fun hkey : job.key = key => hfree place (hkey ▸ hholds)]
        exact hholds
      · exact if_pos rfl
  · rcases created_push hjob with hold | ⟨rfl, _⟩
    · exact mem_append_left _ (h.waiting place job hold huncancelled hfresh)
    · exact mem_append_right _ mem_cons_self
  · rw [hlength]
    rcases mem_append.1 hplace with hold | hlast
    · exact ⟨(h.fresh place hold).1, (h.fresh place hold).2.trans (Nat.lt_succ_self _)⟩
    · rw [mem_singleton.1 hlast]
      exact ⟨hnew, Nat.lt_succ_self _⟩
  · refine nodup_append.2
      ⟨h.pending, nodup_singleton _, fun place hplace other hother => ?_⟩
    rw [mem_singleton.1 hother]
    rintro rfl
    exact hpending hplace
  · rw [hlength]
    exact (h.created place hplace).trans (Nat.lt_succ_self _)

theorem tracked_push (htracked : queue.Tracked) (h : Sound queue started) (key : Key)
    (priority : Number) : (queue.push key priority).Tracked := by
  intro place job hjob
  rcases created_push hjob with hold | ⟨rfl, rfl⟩
  · exact htracked place job hold
  · refine iff_of_false Bool.false_ne_true fun hrun => ?_
    exact absurd (h.created _ (h.runs _ hrun)) (lt_irrefl _)

theorem Kept.enqueue (h : Kept queue started) (key : Key) (priority : Number) (isFunction : Bool) :
    Kept (queue.enqueue key priority isFunction) started := by
  unfold Queue.enqueue
  split_ifs
  · exact h
  · have hcancelled := h.cancel key
    exact ⟨(hcancelled.sound.push (h.sound.not_holds_cancel key) priority).scheduleDrain,
      tracked_scheduleDrain (tracked_push hcancelled.tracked hcancelled.sound key priority),
      awake_scheduleDrain _, flagged_scheduleDrain hcancelled.flagged⟩

theorem Kept.cancelAll (h : Kept queue started) (sequences : List Nat) :
    Kept (sequences.foldl Queue.cancelJob queue) started := by
  induction sequences generalizing queue with
  | nil => exact h
  | cons sequence rest ih => exact ih (h.cancelJob sequence)

theorem created_cancelAll (queue : Queue Key) (sequences : List Nat) (place : Nat) :
    (sequences.foldl Queue.cancelJob queue).created[place]? =
      queue.created[place]?.map fun job =>
        if place ∈ sequences then { job with cancelled := true } else job := by
  induction sequences generalizing queue with
  | nil => simp
  | cons sequence rest ih =>
    rw [foldl_cons, ih, created_cancelJob, Option.map_map]
    congr 1
    funext job
    simp only [Function.comp_apply, mem_cons]
    by_cases hsame : sequence = place
    · subst hsame
      simp only [if_true, true_or]
      split_ifs <;> rfl
    · rw [if_neg hsame]
      simp only [Ne.symm hsame, false_or]

theorem Kept.clear (h : Kept queue started) : Kept queue.clear started := by
  have hall := h.cancelAll (queue.jobs.map Prod.snd)
  have hsound := hall.sound
  refine ⟨⟨hsound.keys, hsound.listed, fun place job hjob huncancelled hnew => ?_, nofun,
    nodup_nil, hsound.once, hsound.created, hsound.running, hsound.runs, hsound.counted,
    hsound.limited⟩, hall.tracked, ?_, hall.flagged⟩
  · change ((queue.jobs.map Prod.snd).foldl Queue.cancelJob queue).created[place]? = some job at hjob
    rw [created_cancelAll, Option.map_eq_some_iff] at hjob
    obtain ⟨before, hbefore, rfl⟩ := hjob
    split_ifs at huncancelled with hmem
    have hholds : queue.Holds before.key place :=
      (h.sound.listed _ _).2 ⟨before, hbefore, rfl, huncancelled, fun hover => hnew hover.1⟩
    exact absurd (mem_map_of_mem (Dictionary.mem_of_get hholds)) hmem
  · rintro _ _ ⟨place, hplace, _⟩
    cases hplace

theorem Kept.destroy (h : Kept queue started) : Kept queue.destroy started := by
  have hdestroyed : Kept { queue with destroyed := true } started := by
    refine ⟨⟨h.sound.keys, h.sound.listed, h.sound.waiting, h.sound.fresh, h.sound.pending,
      h.sound.once, h.sound.created, h.sound.running, h.sound.runs, h.sound.counted,
      h.sound.limited⟩, h.tracked, nofun, h.flagged⟩
  exact hdestroyed.clear

omit [DecidableEq Key] in
theorem priority_ne_nan (queue : Queue Key) (sequence : Nat) : queue.priority sequence ≠ .nan := by
  unfold Queue.priority
  split
  · rename_i job _
    exact job.priority.2
  · exact Number.noConfusion

omit [DecidableEq Key] in
/-- The comparison of `drain` is the order by priority, and by sequence where it is the same. -/
theorem compare_iff (queue : Queue Key) (first second : Nat) :
    (queue.compare first second).isPositive = false ↔ queue.order first ≤ queue.order second := by
  have hpositive : (queue.compare first second).isPositive = true ↔
      queue.order second < queue.order first := by
    have hequal := Number.truthy_sub (priority_ne_nan queue first) (priority_ne_nan queue second)
    unfold Queue.compare Queue.order
    simp only
    rw [Prod.Lex.toLex_lt_toLex]
    split_ifs with htruthy
    · have hne : (queue.priority first).rank ≠ (queue.priority second).rank := by
        intro hrank
        rw [hequal.2 hrank] at htruthy
        cases htruthy
      rw [Number.isPositive_sub htruthy]
      exact ⟨.inl, fun h => h.resolve_right fun hsame => hne hsame.1.symm⟩
    · have hrank := hequal.1 (Bool.eq_false_iff.2 htruthy)
      rw [hrank]
      have hdifference : (Number.finite (first - second)).isPositive = true ↔ second < first := by
        unfold Number.isPositive
        rw [decide_eq_true_iff, sub_pos, Nat.cast_lt]
      rw [hdifference]
      simp
  rw [Bool.eq_false_iff, Ne, hpositive, not_lt]

omit [DecidableEq Key] in
theorem sorted_pairwise (queue : Queue Key) :
    queue.sorted.Pairwise fun first second => queue.order first ≤ queue.order second := by
  have htotal : Std.Total fun first second => (queue.compare first second).isPositive = false :=
    ⟨fun first second => by
      rw [compare_iff, compare_iff]
      exact le_total _ _⟩
  have htrans : IsTrans Nat fun first second => (queue.compare first second).isPositive = false :=
    ⟨fun first second third hfirst hsecond => by
      rw [compare_iff] at *
      exact hfirst.trans hsecond⟩
  refine (pairwise_insertionSort _ queue.pending).imp fun h => ?_
  exact (compare_iff queue _ _).1 h

theorem Sound.sorted (h : Sound queue started) : Sound { queue with pending := queue.sorted } started :=
  ⟨h.keys, h.listed,
    fun place job hjob huncancelled hnew =>
      (mem_insertionSort _).2 (h.waiting place job hjob huncancelled hnew),
    fun place hplace => h.fresh place ((mem_insertionSort _).1 hplace),
    (perm_insertionSort _ _).nodup_iff.2 h.pending, h.once, h.created, h.running, h.runs,
    h.counted, h.limited⟩

variable {rest : List Nat}

/-- What is passed over is cancelled. -/
theorem Sound.skip (h : Sound { queue with pending := sequence :: rest } started)
    (hlive : ¬queue.Live sequence) : Sound { queue with pending := rest } started := by
  refine ⟨h.keys, h.listed, fun place job hjob huncancelled hnew => ?_,
    fun place hplace => h.fresh place (mem_cons_of_mem _ hplace), h.pending.of_cons, h.once,
    h.created, h.running, h.runs, h.counted, h.limited⟩
  rcases mem_cons.1 (h.waiting place job hjob huncancelled hnew) with rfl | hrest
  · refine absurd ⟨job, hjob, huncancelled, ?_⟩ hlive
    exact (h.listed job.key place).2 ⟨job, hjob, rfl, huncancelled, fun hover => hnew hover.1⟩
  · exact hrest

theorem Sound.modify (h : Sound queue started) (sequence : Nat) {change : Job Key → Job Key}
    (hkeep : ∀ job, (change job).key = job.key ∧ (change job).cancelled = job.cancelled) :
    Sound (queue.modify sequence change) started := by
  have hmodify : ∀ place, (queue.modify sequence change).created[place]? =
      queue.created[place]?.map fun job => if sequence = place then change job else job :=
    fun place => getElem?_modify _ _ _ _
  have hsame : ∀ place job, (if sequence = place then change job else job).key = job.key ∧
      (if sequence = place then change job else job).cancelled = job.cancelled := by
    intro place job
    split_ifs
    · exact hkeep job
    · exact ⟨rfl, rfl⟩
  have hlength : (queue.modify sequence change).created.length = queue.created.length :=
    length_modify _ _ _
  refine ⟨h.keys, fun key place => (h.listed key place).trans ?_,
    fun place found hfound huncancelled hfresh => ?_, fun place hplace => ?_, h.pending, h.once,
    fun place hplace => ?_, h.running, h.runs, h.counted, h.limited⟩
  · constructor
    · rintro ⟨job, hjob, rfl, huncancelled, hover⟩
      refine ⟨_, (hmodify place).trans (congrArg _ hjob), (hsame place job).1, ?_, hover⟩
      exact (hsame place job).2.trans huncancelled
    · rintro ⟨found, hfound, rfl, huncancelled, hover⟩
      rw [hmodify, Option.map_eq_some_iff] at hfound
      obtain ⟨job, hjob, rfl⟩ := hfound
      exact ⟨job, hjob, (hsame place job).1.symm, (hsame place job).2.symm.trans huncancelled, hover⟩
  · rw [hmodify, Option.map_eq_some_iff] at hfound
    obtain ⟨job, hjob, rfl⟩ := hfound
    exact h.waiting place job hjob ((hsame place job).2.symm.trans huncancelled) hfresh
  · rw [hlength]
    exact h.fresh place hplace
  · rw [hlength]
    exact h.created place hplace

theorem Sound.start (h : Sound { queue with pending := sequence :: rest } started)
    (hroom : queue.HasRoom) :
    Sound (({ queue with pending := rest } : Queue Key).start sequence) (started ++ [sequence]) := by
  obtain ⟨hnew, hlt⟩ := h.fresh sequence mem_cons_self
  have hlast := (nodup_cons.1 h.pending).1
  have hcount : queue.activeCount = queue.running.length := h.counted
  have hover : ∀ place, (place ∈ started ++ [sequence] ∧ place ∉ queue.running ++ [sequence]) ↔
      queue.Over started place := by
    intro place
    rw [mem_append, mem_append, mem_singleton]
    constructor
    · rintro ⟨hstarted, hstopped⟩
      rw [not_or] at hstopped
      exact ⟨hstarted.resolve_right hstopped.2, hstopped.1⟩
    · rintro ⟨hstarted, hstopped⟩
      refine ⟨.inl hstarted, ?_⟩
      rintro (hrun | rfl)
      · exact hstopped hrun
      · exact hnew hstarted
  have hone : ∀ {places : List Nat}, places.Nodup → sequence ∉ places →
      (places ++ [sequence]).Nodup := by
    intro places hnodup hmem
    refine nodup_append.2 ⟨hnodup, nodup_singleton _, fun place hplace other hother => ?_⟩
    rw [mem_singleton.1 hother]
    rintro rfl
    exact hmem hplace
  have hrunning : Sound { queue with
      pending := rest
      activeCount := queue.activeCount + 1
      running := queue.running ++ [sequence] } (started ++ [sequence]) := by
    refine ⟨h.keys, fun key place => ?_, fun place job hjob huncancelled hfresh => ?_,
      fun place hplace => ?_, h.pending.of_cons, hone h.once hnew, fun place hplace => ?_,
      hone h.running fun hrun => hnew (h.runs _ hrun), fun place hplace => ?_, ?_,
      fun bound hbound => ?_⟩
    · refine (h.listed key place).trans (exists_congr fun job => ?_)
      exact and_congr_right' (and_congr_right' (and_congr_right' (not_congr (hover place).symm)))
    · rw [mem_append, not_or, mem_singleton] at hfresh
      exact (mem_cons.1 (h.waiting place job hjob huncancelled hfresh.1)).resolve_left hfresh.2
    · obtain ⟨hfresh, hbound⟩ := h.fresh place (mem_cons_of_mem _ hplace)
      refine ⟨?_, hbound⟩
      rw [mem_append, not_or, mem_singleton]
      refine ⟨hfresh, ?_⟩
      rintro rfl
      exact hlast hplace
    · rcases mem_append.1 hplace with hstarted | hthis
      · exact h.created place hstarted
      · rw [mem_singleton.1 hthis]
        exact hlt
    · rcases mem_append.1 hplace with hrun | hthis
      · exact mem_append_left _ (h.runs place hrun)
      · exact mem_append_right _ hthis
    · change queue.activeCount + 1 = ((queue.running ++ [sequence]).length : ℤ)
      rw [hcount, length_append, length_singleton]
      push_cast
      rfl
    · change (queue.running ++ [sequence]).length ≤ bound
      have hless : ((queue.activeCount : ℚ) : WithTop ℚ) < ((bound : ℚ) : WithTop ℚ) :=
        lt_of_lt_of_le hroom hbound
      rw [hcount, WithTop.coe_lt_coe] at hless
      rw [length_append, length_singleton]
      exact_mod_cast hless
  exact hrunning.modify sequence fun _ => ⟨rfl, rfl⟩

omit [DecidableEq Key] in
theorem tracked_start (h : queue.Tracked) (sequence : Nat) : (queue.start sequence).Tracked := by
  intro place found hfound
  change (queue.created.modify sequence _)[place]? = some found at hfound
  rw [getElem?_modify, Option.map_eq_map, Option.map_eq_some_iff] at hfound
  obtain ⟨job, hjob, rfl⟩ := hfound
  change _ ↔ place ∈ queue.running ++ [sequence]
  rw [mem_append, mem_singleton, ← h place job hjob]
  by_cases hthis : sequence = place
  · rw [if_pos hthis]
    exact iff_of_true rfl (.inr hthis.symm)
  · rw [if_neg hthis]
    exact ⟨.inl, fun hactive => hactive.resolve_right fun heq => hthis heq.symm⟩

omit [DecidableEq Key] in
theorem order_start (queue : Queue Key) (sequence place : Nat) :
    (queue.start sequence).order place = queue.order place := by
  have hpriority : (queue.start sequence).priority place = queue.priority place := by
    have hcreated : (queue.start sequence).created =
        queue.created.modify sequence fun job => { job with active := true } := rfl
    unfold Queue.priority
    rw [hcreated, getElem?_modify]
    cases queue.created[place]? with
    | none => rfl
    | some job =>
      by_cases hsame : sequence = place
      · simp [hsame]
      · simp [hsame]
  unfold Queue.order
  rw [hpriority]

structure Drained (queue : Queue Key) (started : List Nat)
    (result : Queue Key × List (Start Key)) : Prop where
  sound : Sound result.1 (started ++ result.2.map Start.sequence)
  tracked : result.1.Tracked
  due : ∀ start ∈ result.2, start.Due
  stopped : result.1.HasRoom → result.1.pending = []
  same : result.1.drainScheduled = queue.drainScheduled ∧ result.1.microtasks = queue.microtasks

theorem drainLoop_spec {pending : List Nat} (h : Sound { queue with pending := pending } started)
    (htracked : queue.Tracked)
    (hsorted : pending.Pairwise fun first second => queue.order first ≤ queue.order second) :
    Drained queue started (queue.drainLoop pending) := by
  induction pending generalizing queue started with
  | nil =>
    refine ⟨?_, htracked, nofun, fun _ => rfl, rfl, rfl⟩
    rw [Queue.drainLoop, map_nil, append_nil]
    exact h
  | cons sequence rest ih =>
    obtain ⟨hfirst, hrest⟩ := pairwise_cons.1 hsorted
    rw [Queue.drainLoop]
    split_ifs with hroom
    · by_cases hlive : ({ queue with pending := rest } : Queue Key).Live sequence
      · simp only [if_pos hlive]
        have hordered : rest.Pairwise fun first second =>
            (({ queue with pending := rest } : Queue Key).start sequence).order first ≤
              (({ queue with pending := rest } : Queue Key).start sequence).order second := by
          simp only [order_start]
          exact hrest
        have htaken : ({ queue with pending := rest } : Queue Key).Tracked := htracked
        have hlater : Drained (({ queue with pending := rest } : Queue Key).start sequence)
            (started ++ [sequence])
            ((({ queue with pending := rest } : Queue Key).start sequence).drainLoop rest) :=
          ih (h.start hroom) (tracked_start htaken sequence) hordered
        refine ⟨?_, hlater.tracked, ?_, hlater.stopped, hlater.same⟩
        · have hsound := hlater.sound
          rw [append_assoc] at hsound
          exact hsound
        · intro start hmem
          rcases mem_cons.1 hmem with rfl | hmem
          · exact ⟨hlive, hroom, fun place hplace _ => not_lt.2 (hfirst place hplace)⟩
          · exact hlater.due start hmem
      · simp only [if_neg hlive]
        have hlater : Drained { queue with pending := rest } started
            (({ queue with pending := rest } : Queue Key).drainLoop rest) :=
          ih (h.skip hlive) htracked hrest
        exact ⟨hlater.sound, hlater.tracked, hlater.due, hlater.stopped, hlater.same⟩
    · refine ⟨?_, htracked, nofun, fun hhas => absurd hhas hroom, rfl, rfl⟩
      rw [map_nil, append_nil]
      exact h

theorem Kept.registerCancel (h : Kept queue started) (sequence : Nat) (isFunction : Bool) :
    Kept (queue.registerCancel sequence isFunction) started := by
  have hmodified : Kept (queue.modify sequence fun job =>
      { job with cancelActive := isFunction }) started := by
    refine ⟨h.sound.modify sequence fun _ => ⟨rfl, rfl⟩, fun place found hfound => ?_,
      fun halive hroom => ?_, h.flagged⟩
    · change (queue.created.modify sequence _)[place]? = some found at hfound
      rw [getElem?_modify, Option.map_eq_map, Option.map_eq_some_iff] at hfound
      obtain ⟨job, hjob, rfl⟩ := hfound
      refine Iff.trans ?_ (h.tracked place job hjob)
      by_cases hthis : sequence = place
      · rw [if_pos hthis]
      · rw [if_neg hthis]
    · rintro ⟨place, hplace, found, hfound, huncancelled, hholds⟩
      change (queue.created.modify sequence _)[place]? = some found at hfound
      rw [getElem?_modify, Option.map_eq_map, Option.map_eq_some_iff] at hfound
      obtain ⟨job, hjob, rfl⟩ := hfound
      refine h.awake halive hroom ⟨place, hplace, job, hjob, ?_⟩
      by_cases hthis : sequence = place
      · rw [if_pos hthis] at huncancelled hholds
        exact ⟨huncancelled, hholds⟩
      · rw [if_neg hthis] at huncancelled hholds
        exact ⟨huncancelled, hholds⟩
  unfold Queue.registerCancel
  simp only
  split
  · split_ifs
    · exact ⟨hmodified.sound.flags _ _ _, hmodified.tracked, hmodified.awake, hmodified.flagged⟩
    · exact hmodified
  · exact hmodified

/-- A job that is over leaves the map, the count and the jobs that run. -/
theorem Kept.settle (h : Kept queue started) (hruns : sequence ∈ queue.running) :
    Kept (queue.settle sequence) started := by
  obtain ⟨hsound, htracked, _, hflagged⟩ := h
  have hstarted := hsound.runs sequence hruns
  obtain ⟨job, hjob⟩ : ∃ job, queue.created[sequence]? = some job :=
    ⟨_, getElem?_eq_getElem (hsound.created sequence hstarted)⟩
  have hover : ∀ place, (place ∈ started ∧ place ∉ queue.running.erase sequence) ↔
      queue.Over started place ∨ place = sequence := by
    intro place
    rw [hsound.running.mem_erase_iff]
    constructor
    · rintro ⟨hplace, hgone⟩
      by_cases hthis : place = sequence
      · exact .inr hthis
      · exact .inl ⟨hplace, fun hrun => hgone ⟨hthis, hrun⟩⟩
    · rintro (⟨hplace, hgone⟩ | rfl)
      · exact ⟨hplace, fun hrun => hgone hrun.2⟩
      · exact ⟨hstarted, fun hrun => hrun.1 rfl⟩
  have hlength : (queue.running.erase sequence).length + 1 = queue.running.length := by
    have hpos : 0 < queue.running.length := length_pos_of_mem hruns
    rw [length_erase_of_mem hruns]
    omega
  have hsettled : Sound { queue with
      jobs := (queue.forget job.key sequence).jobs
      activeCount := queue.activeCount - 1
      running := queue.running.erase sequence } started := by
    refine ⟨keys_forget hsound.keys, fun key place => holds_forget.trans ?_, hsound.waiting,
      hsound.fresh, hsound.pending, hsound.once, hsound.created, hsound.running.erase _,
      fun place hplace => hsound.runs place (mem_of_mem_erase hplace), ?_, fun bound hbound => ?_⟩
    · rw [hsound.listed]
      constructor
      · rintro ⟨⟨found, hfound, rfl, huncancelled, hnot⟩, hother⟩
        refine ⟨found, hfound, rfl, huncancelled, fun hgone => ?_⟩
        rcases (hover place).1 hgone with hold | rfl
        · exact hnot hold
        · cases hjob.symm.trans hfound
          exact hother ⟨rfl, rfl⟩
      · rintro ⟨found, hfound, rfl, huncancelled, hnot⟩
        refine ⟨⟨found, hfound, rfl, huncancelled, fun hold => ?_⟩, fun hthis => ?_⟩
        · exact hnot ((hover place).2 (.inl hold))
        · exact hnot ((hover place).2 (.inr hthis.2))
    · change queue.activeCount - 1 = ((queue.running.erase sequence).length : ℤ)
      have hcount := hsound.counted
      omega
    · have hlimit := hsound.limited bound hbound
      change (queue.running.erase sequence).length ≤ bound
      omega
  unfold Queue.settle
  rw [hjob]
  refine ⟨Sound.scheduleDrain (hsettled.modify sequence fun _ => ⟨rfl, rfl⟩),
    tracked_scheduleDrain fun place found hfound => ?_, awake_scheduleDrain _,
    flagged_scheduleDrain hflagged⟩
  change (queue.created.modify sequence _)[place]? = some found at hfound
  rw [getElem?_modify, Option.map_eq_map, Option.map_eq_some_iff] at hfound
  obtain ⟨before, hbefore, rfl⟩ := hfound
  change _ ↔ place ∈ queue.running.erase sequence
  rw [hsound.running.mem_erase_iff, ← htracked place before hbefore]
  by_cases hthis : sequence = place
  · rw [if_pos hthis]
    exact iff_of_false Bool.false_ne_true fun hrun => hrun.1 hthis.symm
  · rw [if_neg hthis]
    exact ⟨fun hactive => ⟨Ne.symm hthis, hactive⟩, And.right⟩

theorem exec_kept (h : Kept queue started) (event : Event Key) :
    Kept (queue.exec event).1 (started ++ (queue.exec event).2.map Start.sequence) ∧
      ∀ start ∈ (queue.exec event).2, start.Due := by
  have hsilent : ∀ {next : Queue Key}, Kept next started →
      Kept next (started ++ ([] : List (Start Key)).map Start.sequence) ∧
        ∀ start ∈ ([] : List (Start Key)), start.Due := by
    intro next hnext
    rw [map_nil, append_nil]
    exact ⟨hnext, nofun⟩
  cases event with
  | enqueue key priority isFunction => exact hsilent (h.enqueue key priority isFunction)
  | cancel key => exact hsilent (h.cancel key)
  | cancelReturned sequence => exact hsilent (h.cancelJob sequence)
  | clear => exact hsilent h.clear
  | destroy => exact hsilent h.destroy
  | registerCancel sequence isFunction => exact hsilent (h.registerCancel sequence isFunction)
  | settle sequence =>
    refine hsilent ?_
    change Kept (if sequence ∈ queue.running then queue.settle sequence else queue) started
    split_ifs with hruns
    · exact h.settle hruns
    · exact h
  | microtask =>
    unfold Queue.exec
    split_ifs with hscheduled
    · have hcount : queue.microtasks = 1 := by
        have hflagged := h.flagged
        unfold Queue.Flagged at hflagged
        split_ifs at hflagged <;> omega
      have hturn : Sound { queue with microtasks := queue.microtasks - 1, drainScheduled := false }
          started := h.sound.flags _ _ _
      unfold Queue.drain
      split_ifs with hidle
      · refine hsilent ⟨hturn, h.tracked, fun halive hroom => ?_, ?_⟩
        · rcases hidle with hdestroyed | hfull
          · exact absurd hdestroyed (by rw [halive]; decide)
          · exact absurd hroom hfull
        · change queue.microtasks - 1 = 0
          omega
      · have hdrained := drainLoop_spec hturn.sorted h.tracked (sorted_pairwise _)
        obtain ⟨hsound, htracked, hdue, hstopped, hflag, hmicrotasks⟩ := hdrained
        refine ⟨⟨hsound, htracked, fun _ hroom => ?_, ?_⟩, hdue⟩
        · rintro ⟨place, hplace, _⟩
          rw [hstopped hroom] at hplace
          cases hplace
        · unfold Queue.Flagged
          rw [hflag, hmicrotasks]
          change queue.microtasks - 1 = 0
          omega
    · exact hsilent h

theorem kept_new (concurrency : Number) : Kept (Queue.new concurrency : Queue Key) [] := by
  refine ⟨⟨nodup_nil, fun key sequence => ?_, nofun, nofun, nodup_nil, nodup_nil,
    nofun, nodup_nil, nofun, rfl, fun bound _ => Nat.zero_le bound⟩, nofun, ?_, rfl⟩
  · refine iff_of_false nofun ?_
    rintro ⟨job, hjob, _⟩
    cases hjob
  · rintro _ _ ⟨_, hplace, _⟩
    cases hplace

theorem run_kept (h : Kept queue started) (events : List (Event Key)) :
    Kept (queue.run events).1 (started ++ (queue.run events).2.map Start.sequence) ∧
      ∀ start ∈ (queue.run events).2, start.Due := by
  induction events generalizing queue started with
  | nil =>
    rw [Queue.run, map_nil, append_nil]
    exact ⟨h, nofun⟩
  | cons event rest ih =>
    obtain ⟨hnext, hdue⟩ := exec_kept h event
    obtain ⟨hfinal, hlater⟩ := ih hnext
    rw [Queue.run]
    simp only [map_append]
    rw [← append_assoc]
    refine ⟨hfinal, fun start hmem => ?_⟩
    rcases mem_append.1 hmem with hfirst | hrest
    · exact hdue start hfirst
    · exact hlater start hrest

structure Fair (queue : Queue Key) (starts : List (Start Key)) : Prop where
  /-- A limit that is not whole is rounded up. -/
  limit : ∀ bound : ℕ, queue.concurrency ≤ ((bound : ℚ) : WithTop ℚ) →
    queue.running.length ≤ bound
  counted : queue.activeCount = queue.running.length
  active : ∀ sequence job, queue.created[sequence]? = some job →
    (job.active = true ↔ sequence ∈ queue.running)
  once : (starts.map Start.sequence).Nodup
  due : ∀ start ∈ starts, start.Due
  /-- Of the jobs with one key that are not over, at most one is not cancelled. -/
  unique : ∀ first second job other, queue.created[first]? = some job →
    queue.created[second]? = some other → job.key = other.key → job.cancelled = false →
    other.cancelled = false → ¬queue.Over (starts.map Start.sequence) first →
    ¬queue.Over (starts.map Start.sequence) second → first = second
  awake : queue.destroyed = false → queue.HasRoom →
    (∃ sequence ∈ queue.pending, queue.Live sequence) → queue.drainScheduled = true ∧
      0 < queue.microtasks

/-- Whatever happens in whatever order, the queue neither starves nor overruns. -/
theorem run_fair (concurrency : Number) (events : List (Event Key)) :
    Fair ((Queue.new concurrency : Queue Key).run events).1
      ((Queue.new concurrency : Queue Key).run events).2 := by
  obtain ⟨⟨hsound, htracked, hawake, hflagged⟩, hdue⟩ := run_kept (kept_new concurrency) events
  rw [nil_append] at hsound
  refine ⟨hsound.limited, hsound.counted, htracked, hsound.once, hdue, ?_, ?_⟩
  · intro first second job other hfirst hsecond hkey hjob hother hrunsFirst hrunsSecond
    have hholdsFirst := (hsound.listed _ _).2 ⟨job, hfirst, rfl, hjob, hrunsFirst⟩
    have hholdsSecond := (hsound.listed _ _).2 ⟨other, hsecond, rfl, hother, hrunsSecond⟩
    rw [hkey] at hholdsFirst
    exact Option.some.inj (hholdsFirst.symm.trans hholdsSecond)
  · intro halive hroom hwaits
    have hscheduled := hawake halive hroom hwaits
    unfold Queue.Flagged at hflagged
    rw [hscheduled] at hflagged
    exact ⟨hscheduled, hflagged ▸ Nat.one_pos⟩

end LockIn.Workspace.Render
