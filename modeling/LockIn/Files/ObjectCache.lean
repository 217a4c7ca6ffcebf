import LockIn.Library.ByteFields
import LockIn.Library.Machine

/-!
# The local copy of a stored object

Workers of any number of processes copy an object into a partial file that they claim, and move it to
the place of the copy when its digest is the one recorded.  The directory is all that they share.  A
claim that was not written to for long counts as one of a dead worker.  Every object has files of its
own, and a file that is open is its inode, whatever becomes of its name.
-/

namespace LockIn.Files.Cache

open ByteFields (Bytes)

def stalePartialSeconds : Nat := 15 * 60

/-- Where a worker is in `fill`: a partial file was moved when `published`. -/
inductive Phase where
  | idle
  | checked (tries : Nat)
  | met (tries : Nat)
  | stale (tries : Nat)
  | claimed
  | copying (inode : Nat) (written : Bytes)
  | verified
  | closing (published : Bool)
deriving DecidableEq

/-- The worker has the claim. -/
def Phase.holds : Phase → Bool
  | .claimed | .copying _ _ | .verified | .closing _ => true
  | _ => false

variable {count : Nat}

structure Disk (count : Nat) where
  content : Nat → Bytes
  modified : Nat → Nat
  inodes : Nat
  final : Option Nat
  partialFile : Option Nat
  workers : Fin count → Phase
  opened : List Nat

/-- `unlink` is what `forget` does, and `evict` to a copy that it picks. -/
inductive Step (count : Nat) where
  | check (worker : Fin count)
  | claim (worker : Fin count)
  | stat (worker : Fin count)
  | unlinkStale (worker : Fin count)
  | openPartial (worker : Fin count)
  | write (worker : Fin count) (chunk : Bytes)
  | verify (worker : Fin count)
  | replace (worker : Fin count)
  | fail (worker : Fin count)
  | close (worker : Fin count)
  | crash (worker : Fin count)
  | unlink
  | openCached
deriving DecidableEq

structure Call (count : Nat) where
  now : Nat
  step : Step count

def Disk.enter (disk : Disk count) (worker : Fin count) (phase : Phase) : Disk count :=
  { disk with workers := Function.update disk.workers worker phase }

def Disk.put (disk : Disk count) (inode now : Nat) (bytes : Bytes) : Disk count :=
  { disk with
    content := Function.update disk.content inode bytes
    modified := Function.update disk.modified inode now }

def Disk.create (disk : Disk count) (now : Nat) : Disk count :=
  { disk.put disk.inodes now [] with
    inodes := disk.inodes + 1
    partialFile := some disk.inodes }

/-- What a write at a place makes of a file; a gap is filled with zeros. -/
def writeAt (content : Bytes) (place : Nat) (chunk : Bytes) : Bytes :=
  content.take place ++ List.replicate (place - content.length) 0 ++ chunk ++
    content.drop (place + chunk.length)

variable {Digest : Type} (digest : Bytes → Digest) (size : Nat)
  (checksum : Digest)

/-- The bytes are those that were recorded at upload. -/
def Verified (bytes : Bytes) : Prop := bytes.length = size ∧ digest bytes = checksum

instance [DecidableEq Digest] (bytes : Bytes) : Decidable (Verified digest size checksum bytes) :=
  inferInstanceAs (Decidable (_ ∧ _))

def Call.exec [DecidableEq Digest] (call : Call count) (disk : Disk count) : Except Unit (Disk count) :=
  match call.step with
  | .check worker =>
    if disk.workers worker = .idle ∧ disk.final = none then .ok (disk.enter worker (.checked 2))
    else .error ()
  | .claim worker =>
    match disk.workers worker, disk.partialFile with
    | .checked _, none => .ok ((disk.create call.now).enter worker .claimed)
    | .checked tries, some _ => .ok (disk.enter worker (.met tries))
    | _, _ => .error ()
  | .stat worker =>
    match disk.workers worker with
    | .met tries =>
      .ok (disk.enter worker (if disk.partialFile.all fun inode =>
        call.now - disk.modified inode < stalePartialSeconds then .idle else .stale tries))
    | _ => .error ()
  | .unlinkStale worker =>
    match disk.workers worker, disk.partialFile with
    | .stale tries, some _ =>
      .ok ({ disk with partialFile := none }.enter worker
        (if tries ≤ 1 then .idle else .checked (tries - 1)))
    | .stale _, none => .ok (disk.enter worker .idle)
    | _, _ => .error ()
  | .openPartial worker =>
    match disk.workers worker, disk.partialFile with
    | .claimed, some inode =>
      .ok ((disk.put inode call.now []).enter worker (.copying inode []))
    | .claimed, none => .ok ((disk.create call.now).enter worker (.copying disk.inodes []))
    | _, _ => .error ()
  | .write worker chunk =>
    match disk.workers worker with
    | .copying inode written =>
      .ok ((disk.put inode call.now (writeAt (disk.content inode) written.length chunk)).enter
        worker (.copying inode (written ++ chunk)))
    | _ => .error ()
  | .verify worker =>
    match disk.workers worker with
    | .copying _ written =>
      .ok (disk.enter worker
        (if Verified digest size checksum written then .verified else .closing false))
    | _ => .error ()
  | .replace worker =>
    match disk.workers worker, disk.partialFile with
    | .verified, some inode =>
      .ok ({ disk with final := some inode, partialFile := none }.enter worker (.closing true))
    | .verified, none => .ok (disk.enter worker (.closing false))
    | _, _ => .error ()
  | .fail worker =>
    match disk.workers worker with
    | .claimed | .copying _ _ | .verified => .ok (disk.enter worker (.closing false))
    | _ => .error ()
  | .close worker =>
    match disk.workers worker with
    | .closing _ => .ok ({ disk with partialFile := none }.enter worker .idle)
    | _ => .error ()
  | .crash worker => .ok (disk.enter worker .idle)
  | .unlink => .ok { disk with final := none }
  | .openCached =>
    match disk.final with
    | some inode => .ok { disk with opened := inode :: disk.opened }
    | none => .error ()

def emptyDisk : Disk count := ⟨fun _ => [], fun _ => 0, 0, none, none, fun _ => .idle, []⟩

def copies [DecidableEq Digest] : Machine (Disk count) (Call count) Unit :=
  ⟨emptyDisk, Call.exec digest size checksum, Call.now⟩

/-- No copy is overtaken: no claim is made between the move of a partial file and the clean-up after
it, and none is removed as a dead one while a worker is at it. -/
def Careful (disk : Disk count) (call : Call count) : Prop :=
  ∀ worker, (call.step = .claim worker → ∀ other, disk.workers other ≠ .closing true) ∧
    (call.step = .unlinkStale worker → ∀ other, (disk.workers other).holds = false)

instance (disk : Disk count) (call : Call count) : Decidable (Careful disk call) :=
  inferInstanceAs (Decidable (∀ _, (_ → _) ∧ (_ → _)))

structure Kept (disk : Disk count) : Prop where
  exclusive : ∀ first second, (disk.workers first).holds = true →
    (disk.workers second).holds = true → first = second
  claimed : ∀ worker, (disk.workers worker).holds = true → disk.workers worker ≠ .closing true →
    disk.partialFile.isSome
  copying : ∀ worker inode written, disk.workers worker = .copying inode written →
    disk.partialFile = some inode ∧ disk.content inode = written
  verified : ∀ worker inode, disk.workers worker = .verified → disk.partialFile = some inode →
    Verified digest size checksum (disk.content inode)
  /-- A file that readers see is whole, and no worker can write to it. -/
  published : ∀ inode, disk.final = some inode ∨ inode ∈ disk.opened →
    Verified digest size checksum (disk.content inode) ∧ inode < disk.inodes ∧
      disk.partialFile ≠ some inode
  below : ∀ inode, disk.partialFile = some inode → inode < disk.inodes

variable {digest size checksum} {disk next : Disk count} {worker : Fin count} {inode now : Nat}
  {phase : Phase}

theorem kept_emptyDisk : Kept digest size checksum (emptyDisk : Disk count) := by
  refine ⟨nofun, nofun, nofun, nofun, fun inode hseen => ?_, nofun⟩
  rcases hseen with hseen | hseen
  · cases hseen
  · exact absurd hseen List.not_mem_nil

theorem enter_workers (disk : Disk count) (worker : Fin count) (phase : Phase) (other : Fin count) :
    (disk.enter worker phase).workers other = if other = worker then phase else disk.workers other :=
  Function.update_apply _ _ _ _

/-- Nobody but the worker has the claim. -/
def Disk.Alone (disk : Disk count) (worker : Fin count) : Prop :=
  ∀ other, (disk.workers other).holds = true → other = worker

/-- While no other worker has the claim, files that readers do not see can be written, made and
removed, and what is shown to readers is whole. -/
theorem Kept.act (h : Kept digest size checksum disk) (halone : disk.Alone worker)
    (hold : ∀ inode, inode < disk.inodes → disk.partialFile ≠ some inode →
      next.content inode = disk.content inode)
    (hfile : ∀ inode, next.partialFile = some inode → inode < next.inodes ∧
      (inode < disk.inodes → disk.partialFile = some inode))
    (hinodes : disk.inodes ≤ next.inodes) (hworkers : next.workers = disk.workers)
    (hseen : ∀ inode, next.final = some inode ∨ inode ∈ next.opened →
      (disk.final = some inode ∨ inode ∈ disk.opened) ∨
        Verified digest size checksum (next.content inode) ∧ inode < next.inodes ∧
          next.partialFile ≠ some inode)
    (hclaimed : phase.holds = true → phase ≠ .closing true → next.partialFile.isSome)
    (hcopying : ∀ inode written, phase = .copying inode written →
      next.partialFile = some inode ∧ next.content inode = written)
    (hverified : ∀ inode, phase = .verified → next.partialFile = some inode →
      Verified digest size checksum (next.content inode)) :
    Kept digest size checksum (next.enter worker phase) := by
  have hphase (other : Fin count) : (next.enter worker phase).workers other =
      if other = worker then phase else disk.workers other := by rw [enter_workers, hworkers]
  have hother {other : Fin count} (hne : other ≠ worker) : (disk.workers other).holds = false :=
    Bool.eq_false_iff.2 fun hholds => hne (halone other hholds)
  have hself {other : Fin count} (hholds : ((next.enter worker phase).workers other).holds = true) :
      other = worker := by
    by_contra hne
    rw [hphase, if_neg hne, hother hne] at hholds
    cases hholds
  refine ⟨fun first second hfirst hsecond => (hself hfirst).trans (hself hsecond).symm,
    ?_, ?_, ?_, ?_, fun inode hin => (hfile inode hin).1⟩
  · intro other hholds
    obtain rfl := hself hholds
    rw [hphase, if_pos rfl] at hholds ⊢
    exact hclaimed hholds
  · intro other inode written hcopies
    obtain rfl := hself (congrArg Phase.holds hcopies)
    rw [hphase, if_pos rfl] at hcopies
    exact hcopying inode written hcopies
  · intro other inode hverifies
    obtain rfl := hself (congrArg Phase.holds hverifies)
    rw [hphase, if_pos rfl] at hverifies
    exact hverified inode hverifies
  · intro inode hsees
    rcases hseen inode hsees with hbefore | hgood
    · obtain ⟨hgood, hbelow, hunseen⟩ := h.published inode hbefore
      refine ⟨?_, hbelow.trans_le hinodes, fun hin => hunseen ((hfile inode hin).2 hbelow)⟩
      show Verified digest size checksum (next.content inode)
      rw [hold inode hbelow hunseen]
      exact hgood
    · exact hgood

theorem Kept.alone (h : Kept digest size checksum disk)
    (hholds : (disk.workers worker).holds = true) : disk.Alone worker :=
  fun other hother => h.exclusive other worker hother hholds

/-- A worker goes on without touching the files. -/
theorem Kept.enter (h : Kept digest size checksum disk) (halone : disk.Alone worker)
    (hclaimed : phase.holds = true → phase ≠ .closing true → disk.partialFile.isSome)
    (hcopying : ∀ inode written, phase = .copying inode written →
      disk.partialFile = some inode ∧ disk.content inode = written)
    (hverified : ∀ inode, phase = .verified → disk.partialFile = some inode →
      Verified digest size checksum (disk.content inode)) :
    Kept digest size checksum (disk.enter worker phase) :=
  h.act halone (fun _ _ _ => rfl) (fun inode hin => ⟨h.below inode hin, fun _ => hin⟩) le_rfl rfl
    (fun _ hseen => .inl hseen) hclaimed hcopying hverified

theorem Kept.leave (h : Kept digest size checksum disk) (hphase : phase.holds = false) :
    Kept digest size checksum (disk.enter worker phase) := by
  have hsub {other : Fin count} (hholds : ((disk.enter worker phase).workers other).holds = true) :
      (disk.enter worker phase).workers other = disk.workers other := by
    rw [enter_workers] at hholds ⊢
    split_ifs at hholds ⊢
    · rw [hphase] at hholds
      cases hholds
    · rfl
  refine ⟨?_, ?_, ?_, ?_, h.published, h.below⟩
  · intro first second hfirst hsecond
    rw [hsub hfirst] at hfirst
    rw [hsub hsecond] at hsecond
    exact h.exclusive first second hfirst hsecond
  · intro other hholds
    have heq := hsub hholds
    rw [heq] at hholds ⊢
    exact h.claimed other hholds
  · intro other inode written hcopies
    rw [hsub (congrArg Phase.holds hcopies)] at hcopies
    exact h.copying other inode written hcopies
  · intro other inode hverifies
    rw [hsub (congrArg Phase.holds hverifies)] at hverifies
    exact h.verified other inode hverifies

/-- The partial file is written from its beginning, by the worker that has the claim. -/
theorem Kept.put (h : Kept digest size checksum disk) (halone : disk.Alone worker)
    (hinode : disk.partialFile = some inode) (bytes : Bytes) :
    Kept digest size checksum ((disk.put inode now bytes).enter worker (.copying inode bytes)) := by
  refine h.act halone (fun other _ hother => ?_)
    (fun other hin => ⟨h.below other hin, fun _ => hin⟩) le_rfl rfl (fun _ hseen => .inl hseen)
    (fun _ _ => Option.isSome_iff_exists.2 ⟨inode, hinode⟩) ?_ nofun
  · have hne : other ≠ inode := by
      rintro rfl
      exact hother hinode
    exact Function.update_of_ne hne _ _
  · rintro _ _ ⟨⟩
    exact ⟨hinode, Function.update_self _ _ _⟩

theorem Kept.unlinkPartial (h : Kept digest size checksum disk) (halone : disk.Alone worker)
    (hphase : phase.holds = false) :
    Kept digest size checksum ({ disk with partialFile := none }.enter worker phase) := by
  refine h.act halone (fun _ _ _ => rfl) nofun le_rfl rfl (fun _ hseen => .inl hseen)
    (fun hholds => absurd (hphase.symm.trans hholds) nofun) ?_ nofun
  rintro inode written rfl
  cases hphase

theorem Kept.exec [DecidableEq Digest] {call : Call count} (h : Kept digest size checksum disk)
    (hcareful : Careful disk call) (hexec : call.exec digest size checksum disk = .ok next) :
    Kept digest size checksum next := by
  obtain ⟨now, step⟩ := call
  cases step with
  | check worker =>
    simp only [Call.exec] at hexec
    split_ifs at hexec
    cases hexec
    exact h.leave rfl
  | claim worker =>
    have hclosed := (hcareful worker).1 rfl
    simp only [Call.exec] at hexec
    split at hexec
    · rename_i hnone
      cases hexec
      have halone : disk.Alone worker := by
        intro other hholds
        have hsome := h.claimed other hholds (hclosed other)
        rw [hnone] at hsome
        cases hsome
      refine h.act halone (fun other hother _ => ?_) ?_ (Nat.le_succ _) rfl
        (fun _ hseen => .inl hseen) (fun _ _ => rfl) nofun nofun
      · exact Function.update_of_ne hother.ne _ _
      · rintro _ ⟨⟩
        exact ⟨Nat.lt_succ_self _, fun hlt => absurd hlt (lt_irrefl _)⟩
    · cases hexec
      exact h.leave rfl
    · cases hexec
  | stat worker =>
    simp only [Call.exec] at hexec
    split at hexec
    · cases hexec
      exact h.leave (by split_ifs <;> rfl)
    · cases hexec
  | unlinkStale worker =>
    have hfree := (hcareful worker).2 rfl
    simp only [Call.exec] at hexec
    split at hexec
    · cases hexec
      refine h.unlinkPartial (fun other hholds => ?_) (by split_ifs <;> rfl)
      rw [hfree other] at hholds
      cases hholds
    · cases hexec
      exact h.leave rfl
    · cases hexec
  | openPartial worker =>
    simp only [Call.exec] at hexec
    split at hexec
    · rename_i inode hphase hsome
      cases hexec
      exact h.put (h.alone (by rw [hphase]; rfl)) hsome []
    · rename_i hphase hnone
      have hsome := h.claimed worker (by rw [hphase]; rfl) (by rw [hphase]; nofun)
      rw [hnone] at hsome
      cases hsome
    · cases hexec
  | write worker chunk =>
    simp only [Call.exec] at hexec
    split at hexec
    · rename_i inode written hphase
      cases hexec
      obtain ⟨hsome, hwritten⟩ := h.copying worker inode written hphase
      have hall : writeAt (disk.content inode) written.length chunk = written ++ chunk := by
        rw [hwritten]
        simp [writeAt]
      rw [hall]
      exact h.put (h.alone (by rw [hphase]; rfl)) hsome _
    · cases hexec
  | verify worker =>
    simp only [Call.exec] at hexec
    split at hexec
    · rename_i inode written hphase
      cases hexec
      obtain ⟨hsome, hwritten⟩ := h.copying worker inode written hphase
      refine h.enter (h.alone (by rw [hphase]; rfl))
        (fun _ _ => Option.isSome_iff_exists.2 ⟨inode, hsome⟩) ?_ ?_
      · intro other bytes
        split_ifs
        · nofun
        · nofun
      · intro other
        split_ifs with hgood
        · intro _ hother
          obtain rfl := Option.some.inj (hsome.symm.trans hother)
          rw [hwritten]
          exact hgood
        · nofun
    · cases hexec
  | replace worker =>
    simp only [Call.exec] at hexec
    split at hexec
    · rename_i inode hphase hsome
      cases hexec
      refine h.act (h.alone (by rw [hphase]; rfl)) (fun _ _ _ => rfl) nofun le_rfl rfl ?_
        (fun _ hclosing => absurd rfl hclosing) nofun nofun
      rintro other (hfinal | hopened)
      · obtain rfl := Option.some.inj hfinal
        exact .inr ⟨h.verified worker _ hphase hsome, h.below _ hsome, nofun⟩
      · exact .inl (.inr hopened)
    · rename_i hphase hnone
      have hsome := h.claimed worker (by rw [hphase]; rfl) (by rw [hphase]; nofun)
      rw [hnone] at hsome
      cases hsome
    · cases hexec
  | fail worker =>
    have hclosing (hholds : (disk.workers worker).holds = true)
        (hopen : disk.workers worker ≠ .closing true) :
        Kept digest size checksum (disk.enter worker (.closing false)) :=
      h.enter (h.alone hholds) (fun _ _ => h.claimed worker hholds hopen) nofun nofun
    simp only [Call.exec] at hexec
    split at hexec
    case h_4 => cases hexec
    all_goals
      rename_i hphase
      cases hexec
      exact hclosing (by rw [hphase]; rfl) (by rw [hphase]; nofun)
  | close worker =>
    simp only [Call.exec] at hexec
    split at hexec
    · rename_i hphase
      cases hexec
      exact h.unlinkPartial (h.alone (by rw [hphase]; rfl)) rfl
    · cases hexec
  | crash worker =>
    cases hexec
    exact h.leave rfl
  | unlink =>
    cases hexec
    exact ⟨h.exclusive, h.claimed, h.copying, h.verified,
      fun inode hseen => h.published inode (.inr (hseen.resolve_left nofun)), h.below⟩
  | openCached =>
    simp only [Call.exec] at hexec
    split at hexec
    · rename_i inode hfinal
      cases hexec
      refine ⟨h.exclusive, h.claimed, h.copying, h.verified, fun other hseen => ?_, h.below⟩
      rcases hseen with hsame | hopened
      · exact h.published other (.inl hsame)
      · rcases List.mem_cons.1 hopened with rfl | hopened
        · exact h.published _ (.inl hfinal)
        · exact h.published other (.inr hopened)
    · cases hexec

/-- What a reader has opened is whole, at once and for as long as it is read, in every run in which no
copy is overtaken. -/
theorem opened_copies_whole [DecidableEq Digest] (digest : Bytes → Digest) (size : Nat) (checksum : Digest)
    {disk : Disk count} {now : Nat} (h : (copies digest size checksum).Reaches Careful disk now) :
    ∀ inode ∈ disk.opened, Verified digest size checksum (disk.content inode) := by
  have hkept : Kept digest size checksum disk :=
    h.invariant (I := fun disk _ => Kept digest size checksum disk) kept_emptyDisk
      fun _ _ _ _ hkept _ hcareful hexec => hkept.exec hcareful hexec
  exact fun inode hopened => (hkept.published inode (.inr hopened)).1

def abc : Bytes := [97, 98, 99]

/-- A worker makes a claim and dies, another takes it over in time and a reader opens its copy. -/
def takenOver : List (Call 2) :=
  [⟨0, .check 0⟩, ⟨0, .claim 0⟩, ⟨1, .crash 0⟩, ⟨900, .check 1⟩, ⟨900, .claim 1⟩, ⟨900, .stat 1⟩,
    ⟨900, .unlinkStale 1⟩, ⟨900, .claim 1⟩, ⟨901, .openPartial 1⟩, ⟨901, .write 1 abc⟩,
    ⟨902, .verify 1⟩, ⟨902, .replace 1⟩, ⟨903, .openCached⟩]

/-- A worker that waits too long for its object moves the partial file of the one after it. -/
def tooSlow : List (Call 2) :=
  [⟨0, .check 0⟩, ⟨0, .claim 0⟩, ⟨0, .openPartial 0⟩, ⟨0, .write 0 abc⟩, ⟨900, .check 1⟩,
    ⟨900, .claim 1⟩, ⟨900, .stat 1⟩, ⟨900, .unlinkStale 1⟩, ⟨900, .claim 1⟩, ⟨901, .openPartial 1⟩,
    ⟨902, .verify 0⟩, ⟨902, .replace 0⟩, ⟨903, .openCached⟩]

/-- The copy of the worker that took over is whole. -/
theorem taken_over_whole : ((copies id 3 abc).outcome takenOver).opened = [1] ∧
    ∀ inode ∈ ((copies id 3 abc).outcome takenOver).opened,
      Verified id 3 abc (((copies id 3 abc).outcome takenOver).content inode) :=
  ⟨by decide, opened_copies_whole id 3 abc
    (Machine.Reaches.of_accepts (by decide) (by decide) (by decide))⟩

-- Without the condition an empty file is taken for the copy.
example :
    ∃ inode ∈ ((copies id 3 abc).outcome tooSlow).opened,
      ¬Verified id 3 abc (((copies id 3 abc).outcome tooSlow).content inode) :=
  ⟨1, by decide, by decide⟩

end LockIn.Files.Cache
