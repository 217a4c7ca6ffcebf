import LockIn.Files.Scanning

/-!
# Claims of a scan

A report finds its file by id and is accepted when the file is being scanned, whoever claimed it.
A worker whose claim was given up by a recovery, and whose file was claimed again, decides for the
other worker.  As long as no report meets another claim, every verdict is that of the current
claim.  What an operator decides is final for the workers in any case.
-/

namespace LockIn.Files

open List Outcome Table
open Whitespace (Text)

def Changed (settings : Settings) (old new : ManagedFile) : Author → Prop
  | .claim _ =>
    old.scanStatus = .pending ∧ new.scanStatus = .scanning ∧ new.scanAttempts = old.scanAttempts + 1
  | .report _ =>
    old.scanStatus = .scanning ∧ new.scanAttempts = old.scanAttempts ∧
      (new.scanStatus = .pending → new.scanAttempts < maximumAttempts settings)
  | .recovery =>
    old.scanStatus = .scanning ∧ new.scanAttempts = old.scanAttempts ∧ new.scanStatus ≠ .clean ∧
      (new.scanStatus = .pending → new.scanAttempts < maximumAttempts settings)
  | .operator actor =>
    new.scanStatus ∈ operatorDecisions ∧ new.scanAttempts = old.scanAttempts ∧
      (new.scanStatus = .clean → old.owner ≠ actor)

structure Move (settings : Settings) (author : Author) (old new : ManagedFile) : Prop where
  id : new.id = old.id
  owner : new.owner = old.owner
  changed : new.scanStatus ≠ old.scanStatus → Changed settings old new author

variable {actor : Nat} {decision : ScanStatus} {reason : Text} {file : ManagedFile}

section
variable {settings : Settings} {now : Nat} {old new : ManagedFile}

theorem claimed_move (serial : Nat) (h : queued now old = true) :
    Move settings (.claim serial) old (claimed now old) := by
  unfold queued at h
  rw [Bool.and_eq_true, decide_eq_true_eq] at h
  exact ⟨rfl, rfl, fun _ => ⟨h.1, rfl, rfl⟩⟩

theorem persistScanResult_move (serial : Nat) (result : ScanResult) :
    Move settings (.report serial) old (persistScanResult now result old) := by
  unfold persistScanResult
  split
  · exact ⟨rfl, rfl, fun hchanged => absurd rfl hchanged⟩
  · next hscanning =>
    refine ⟨rfl, rfl, fun _ => ⟨not_not.1 hscanning, rfl, fun hpending => ?_⟩⟩
    cases hverdict : result.verdict <;> rw [hverdict] at hpending <;> cases hpending

/-- A failure leaves a file alone that is not being scanned, and else puts it back in the queue
or, after the last attempt, gives it up. -/
theorem persistScanFailure_cases (settings : Settings) (now : Nat) (errorCode : Text)
    (old : ManagedFile) :
    persistScanFailure settings now errorCode old = old ∨
      ∃ new, persistScanFailure settings now errorCode old = new ∧ new.id = old.id ∧
        new.owner = old.owner ∧ old.scanStatus = .scanning ∧ new.scanAttempts = old.scanAttempts ∧
        new.scanStatus ≠ .clean ∧
        (new.scanStatus = .pending → new.scanAttempts < maximumAttempts settings) := by
  by_cases hscanning : old.scanStatus = .scanning
  · refine .inr ⟨_, rfl, ?_⟩
    unfold persistScanFailure
    rw [if_neg (not_not.2 hscanning)]
    by_cases hterminal : maximumAttempts settings ≤ old.scanAttempts
    · simp [hterminal, hscanning]
    · simp [hterminal, hscanning, Nat.lt_of_not_le hterminal]
  · exact .inl (if_pos hscanning)

theorem persistScanFailure_report (settings : Settings) (now serial : Nat) (errorCode : Text)
    (old : ManagedFile) :
    Move settings (.report serial) old (persistScanFailure settings now errorCode old) := by
  rcases persistScanFailure_cases settings now errorCode old with
    hsame | ⟨new, hnew, hid, howner, hscanning, hattempts, _, hpending⟩
  · rw [hsame]
    exact ⟨rfl, rfl, fun hchanged => absurd rfl hchanged⟩
  · rw [hnew]
    exact ⟨hid, howner, fun _ => ⟨hscanning, hattempts, hpending⟩⟩

theorem persistScanFailure_recovery (settings : Settings) (now : Nat) (errorCode : Text)
    (old : ManagedFile) :
    Move settings .recovery old (persistScanFailure settings now errorCode old) := by
  rcases persistScanFailure_cases settings now errorCode old with
    hsame | ⟨new, hnew, hid, howner, hscanning, hattempts, hclean, hpending⟩
  · rw [hsame]
    exact ⟨rfl, rfl, fun hchanged => absurd rfl hchanged⟩
  · rw [hnew]
    exact ⟨hid, howner, fun _ => ⟨hscanning, hattempts, hclean, hpending⟩⟩

theorem recordOperatorScanDecision_move
    (h : recordOperatorScanDecision now actor decision reason (some old) = .ok new) :
    Move settings (.operator actor) old new := by
  unfold recordOperatorScanDecision at h
  split at h
  · cases h
  split at h
  · cases h
  next hsupported =>
  simp only at h
  split at h
  · cases h
  next howner =>
  split at h
  · cases h
    exact ⟨rfl, rfl, fun hchanged => absurd rfl hchanged⟩
  · cases h
    refine ⟨rfl, rfl, fun _ => ⟨not_not.1 hsupported, rfl, ?_⟩⟩
    intro hclean hsame
    exact howner ⟨hclean, hsame⟩

end

def Author.isOperator : Author → Bool
  | .operator _ => true
  | _ => false

/-- What holds whether or not reports meet other claims. -/
structure Kept (settings : Settings) (system : System) : Prop where
  ids : Table.Distinct ManagedFile.id system.files
  numbered : ∀ file ∈ system.files, file.id < system.files.length
  attempts : ∀ file ∈ system.files, file.scanAttempts ≤ maximumAttempts settings ∧
    (file.scanStatus = .pending → file.scanAttempts < maximumAttempts settings)
  known : ∀ claim ∈ system.held, claim.file < system.files.length
  held : ∀ claim ∈ system.held, ∀ file ∈ system.files, file.id = claim.file →
    claim.attempt ≤ file.scanAttempts ∧ (file.scanStatus = .scanning →
      file.scanAttempts = claim.attempt → system.current claim.file = some claim.serial)
  changed : ∀ change ∈ system.changes, change.file < system.files.length
  overruled : ∀ change ∈ system.changes, change.author.isOperator = true →
    ∀ file ∈ system.files, file.id = change.file → file.scanStatus ∈ operatorDecisions
  operators : system.changes.Pairwise fun later earlier => earlier.file = later.file →
    earlier.author.isOperator = true → later.author.isOperator = true

section
variable {settings : Settings} {system : System} {author : Author} {old new : ManagedFile}

theorem save_same (h : new.scanStatus = old.scanStatus) : system.save author old new = system :=
  if_pos h

theorem save_files (h : new.scanStatus ≠ old.scanStatus) :
    (system.save author old new).files = Table.put ManagedFile.id system.files new := by
  unfold System.save
  rw [if_neg h]

theorem save_changes (h : new.scanStatus ≠ old.scanStatus) :
    (system.save author old new).changes =
      ⟨new.id, author, new.scanStatus, system.current new.id⟩ :: system.changes := by
  unfold System.save
  rw [if_neg h]

theorem save_current_of_ne {id : Nat} (h : id ≠ new.id) :
    (system.save author old new).current id = system.current id := by
  unfold System.save
  split
  · rfl
  · exact if_neg h

theorem save_held : (system.save author old new).held = system.held := by
  unfold System.save
  split <;> rfl

theorem save_length : (system.save author old new).files.length = system.files.length := by
  unfold System.save
  split
  · rfl
  · exact length_map _

/-- The rows after one was saved. -/
theorem mem_save (hmove : Move settings author old new) (h : new.scanStatus ≠ old.scanStatus)
    (hfile : file ∈ (system.save author old new).files) :
    file = new ∨ (file ∈ system.files ∧ file.id ≠ old.id) := by
  rw [save_files h] at hfile
  rcases mem_put.1 hfile with ⟨rfl, _⟩ | ⟨hold, hne⟩
  · exact .inl rfl
  · exact .inr ⟨hold, hmove.id ▸ hne⟩

theorem Changed.operator (h : Changed settings old new author)
    (hstatus : old.scanStatus ∈ operatorDecisions) : author.isOperator = true := by
  cases author with
  | operator actor => rfl
  | claim serial =>
    rw [h.1] at hstatus
    exact absurd hstatus (by decide)
  | report serial =>
    rw [h.1] at hstatus
    exact absurd hstatus (by decide)
  | recovery =>
    rw [h.1] at hstatus
    exact absurd hstatus (by decide)

theorem Changed.status_of_operator (h : Changed settings old new author)
    (hoperator : author.isOperator = true) : new.scanStatus ∈ operatorDecisions := by
  cases author with
  | operator actor => exact h.1
  | claim serial => cases hoperator
  | report serial => cases hoperator
  | recovery => cases hoperator

theorem Changed.attempts (h : Changed settings old new author)
    (hold : old.scanAttempts ≤ maximumAttempts settings ∧
      (old.scanStatus = .pending → old.scanAttempts < maximumAttempts settings)) :
    new.scanAttempts ≤ maximumAttempts settings ∧
      (new.scanStatus = .pending → new.scanAttempts < maximumAttempts settings) := by
  cases author with
  | claim serial =>
    obtain ⟨hpending, hscanning, hattempts⟩ := h
    have hbelow := hold.2 hpending
    exact ⟨by omega, fun hagain => by rw [hscanning] at hagain; cases hagain⟩
  | report serial =>
    obtain ⟨_, hattempts, hpending⟩ := h
    exact ⟨hattempts ▸ hold.1, hpending⟩
  | recovery =>
    obtain ⟨_, hattempts, _, hpending⟩ := h
    exact ⟨hattempts ▸ hold.1, hpending⟩
  | operator actor =>
    obtain ⟨hdecision, hattempts, _⟩ := h
    refine ⟨hattempts ▸ hold.1, fun hpending => ?_⟩
    rw [hpending] at hdecision
    exact absurd hdecision (by decide)

theorem Changed.scanning (h : Changed settings old new author)
    (hchanged : new.scanStatus ≠ old.scanStatus) :
    old.scanAttempts ≤ new.scanAttempts ∧
      (new.scanStatus = .scanning → old.scanAttempts < new.scanAttempts) := by
  cases author with
  | claim serial =>
    obtain ⟨_, _, hattempts⟩ := h
    exact ⟨by omega, fun _ => by omega⟩
  | report serial =>
    obtain ⟨hscanning, hattempts, _⟩ := h
    exact ⟨by omega, fun hagain => absurd (hagain.trans hscanning.symm) hchanged⟩
  | recovery =>
    obtain ⟨hscanning, hattempts, _⟩ := h
    exact ⟨by omega, fun hagain => absurd (hagain.trans hscanning.symm) hchanged⟩
  | operator actor =>
    obtain ⟨hdecision, hattempts, _⟩ := h
    refine ⟨by omega, fun hagain => ?_⟩
    rw [hagain] at hdecision
    exact absurd hdecision (by decide)

theorem Kept.save (h : Kept settings system) (hold : old ∈ system.files)
    (hmove : Move settings author old new) : Kept settings (system.save author old new) := by
  by_cases hchanged : new.scanStatus = old.scanStatus
  · rw [save_same hchanged]
    exact h
  obtain ⟨hids, hnumbered, hattempts, hknown, hheld, hchanges, hoverruled, hoperators⟩ := h
  have hmoved := hmove.changed hchanged
  -- An operator decided about the file before only if its status says so.
  have hbefore : ∀ change ∈ system.changes, change.author.isOperator = true →
      change.file = new.id → old.scanStatus ∈ operatorDecisions := by
    intro change hchange hoperator hfile
    exact hoverruled change hchange hoperator old hold (hmove.id ▸ hfile.symm)
  refine ⟨?_, ?_, ?_, ?_, ?_, ?_, ?_, ?_⟩
  · rw [save_files hchanged]
    exact Table.Distinct.put hids new
  · intro file hfile
    rw [save_length]
    rcases mem_save hmove hchanged hfile with rfl | ⟨hother, _⟩
    · exact hmove.id ▸ hnumbered old hold
    · exact hnumbered file hother
  · intro file hfile
    rcases mem_save hmove hchanged hfile with rfl | ⟨hother, _⟩
    · exact hmoved.attempts (hattempts old hold)
    · exact hattempts file hother
  · rw [save_held, save_length]
    exact hknown
  · rw [save_held]
    intro claim hclaim file hfile hid
    rcases mem_save hmove hchanged hfile with rfl | ⟨hother, hne⟩
    · obtain ⟨hle, _⟩ := hheld claim hclaim old hold (hmove.id ▸ hid)
      obtain ⟨hmore, hscanning⟩ := hmoved.scanning hchanged
      refine ⟨hle.trans hmore, fun hagain hsame => ?_⟩
      have hless := hscanning hagain
      omega
    · have hcurrent : claim.file ≠ new.id := by
        rw [← hid, hmove.id]
        exact hne
      rw [save_current_of_ne hcurrent]
      exact hheld claim hclaim file hother hid
  · rw [save_changes hchanged, save_length]
    intro change hchange
    rcases mem_cons.1 hchange with rfl | hearlier
    · exact hmove.id ▸ hnumbered old hold
    · exact hchanges change hearlier
  · rw [save_changes hchanged]
    intro change hchange hoperator file hfile hid
    rcases mem_cons.1 hchange with rfl | hearlier
    · rcases mem_save hmove hchanged hfile with rfl | ⟨_, hne⟩
      · exact hmoved.status_of_operator hoperator
      · exact absurd (hid.trans hmove.id) hne
    · rcases mem_save hmove hchanged hfile with rfl | ⟨hother, _⟩
      · exact hmoved.status_of_operator
          (hmoved.operator (hbefore change hearlier hoperator hid.symm))
      · exact hoverruled change hearlier hoperator file hother hid
  · rw [save_changes hchanged]
    refine pairwise_cons.2 ⟨fun earlier hearlier hfile hoperator => ?_, hoperators⟩
    exact hmoved.operator (hbefore earlier hearlier hoperator hfile)

theorem Kept.with_held {held : List Claim} (h : Kept settings system)
    (hsubset : ∀ claim ∈ held, claim ∈ system.held) :
    Kept settings { system with held := held } where
  ids := h.ids
  numbered := h.numbered
  attempts := h.attempts
  known claim hclaim := h.known claim (hsubset claim hclaim)
  held claim hclaim := h.held claim (hsubset claim hclaim)
  changed := h.changed
  overruled := h.overruled
  operators := h.operators

theorem Kept.with_recoveries {recoveries : List (List Nat)} (h : Kept settings system) :
    Kept settings { system with recoveries := recoveries } :=
  ⟨h.ids, h.numbered, h.attempts, h.known, h.held, h.changed, h.overruled, h.operators⟩

theorem Kept.upload (h : Kept settings system) (owner : Nat) (blobName : Text) (sizeBytes : Nat)
    (scanRequired : Bool) (now : Nat) :
    Kept settings { system with
      files := system.files ++
        [createManagedFile system.files.length owner blobName sizeBytes scanRequired now] } := by
  have hlimit : 0 < maximumAttempts settings := by
    unfold maximumAttempts
    omega
  have hcases : ∀ file ∈ system.files ++
      [createManagedFile system.files.length owner blobName sizeBytes scanRequired now],
      file ∈ system.files ∨ (file.id = system.files.length ∧ file.scanAttempts = 0) := by
    intro file hfile
    rcases mem_append.1 hfile with hold | hnew
    · exact .inl hold
    · obtain rfl := mem_singleton.1 hnew
      exact .inr ⟨rfl, rfl⟩
  refine ⟨?_, ?_, ?_, ?_, ?_, ?_, ?_, h.operators⟩
  · exact Table.Distinct.append h.ids fun file hfile => Nat.ne_of_lt (h.numbered file hfile)
  · intro file hfile
    rw [length_append, length_singleton]
    rcases hcases file hfile with hold | ⟨hid, _⟩
    · exact Nat.lt_succ_of_lt (h.numbered file hold)
    · rw [hid]
      exact Nat.lt_succ_self _
  · intro file hfile
    rcases hcases file hfile with hold | ⟨_, hattempts⟩
    · exact h.attempts file hold
    · rw [hattempts]
      exact ⟨Nat.zero_le _, fun _ => hlimit⟩
  · intro claim hclaim
    rw [length_append]
    exact Nat.lt_add_right _ (h.known claim hclaim)
  · intro claim hclaim file hfile hid
    rcases hcases file hfile with hold | ⟨hnew, _⟩
    · exact h.held claim hclaim file hold hid
    · exact absurd (hid.symm.trans hnew) (Nat.ne_of_lt (h.known claim hclaim))
  · intro change hchange
    rw [length_append]
    exact Nat.lt_add_right _ (h.changed change hchange)
  · intro change hchange hoperator file hfile hid
    rcases hcases file hfile with hold | ⟨hnew, _⟩
    · exact h.overruled change hchange hoperator file hold hid
    · exact absurd (hid.symm.trans hnew) (Nat.ne_of_lt (h.changed change hchange))

theorem firstQueued_mem {files : List ManagedFile} (h : firstQueued files = some file) :
    file ∈ files := by
  induction files generalizing file with
  | nil => cases h
  | cons first rest ih =>
    unfold firstQueued at h
    cases hrest : firstQueued rest with
    | none =>
      rw [hrest] at h
      obtain rfl := Option.some.inj h
      exact mem_cons_self
    | some other =>
      rw [hrest] at h
      simp only at h
      split at h
      · obtain rfl := Option.some.inj h
        exact mem_cons_of_mem _ (ih hrest)
      · obtain rfl := Option.some.inj h
        exact mem_cons_self

theorem claim_cases (hids : Table.Distinct ManagedFile.id system.files) (now : Nat)
    (locked : List Nat) :
    claim now locked system = system ∨
      ∃ old ∈ system.files, queued now old = true ∧
        claim now locked system =
          { system.save (.claim system.made) old (claimed now old) with
            held := system.held ++ [⟨system.made, old.id, old.scanAttempts + 1⟩]
            made := system.made + 1 } := by
  unfold claim claimNextScan
  cases hfirst : firstQueued (system.files.filter fun file =>
      file.id ∉ locked && queued now file) with
  | none => exact .inl rfl
  | some old =>
    obtain ⟨hmem, hqueued⟩ := mem_filter.1 (firstQueued_mem hfirst)
    have hfind : file? system old.id = some old := hids.find hmem
    refine .inr ⟨old, hmem, (Bool.and_eq_true _ _ ▸ hqueued).2, ?_⟩
    have hid : (claimed now old).id = old.id := rfl
    simp only [Option.map_some, hid, hfind]
    rfl

theorem Kept.claim (h : Kept settings system) (now : Nat) (locked : List Nat) :
    Kept settings (claim now locked system) := by
  rcases claim_cases h.ids now locked with hsame | ⟨old, hold, hqueued, hclaim⟩
  · rw [hsame]
    exact h
  rw [hclaim]
  have hmove : Move settings (.claim system.made) old (claimed now old) :=
    claimed_move system.made hqueued
  have hsaved := h.save hold hmove
  have hchanged : (claimed now old).scanStatus ≠ old.scanStatus := by
    have hpending : old.scanStatus = .pending := by
      unfold queued at hqueued
      rw [Bool.and_eq_true, decide_eq_true_eq] at hqueued
      exact hqueued.1
    rw [hpending]
    exact ScanStatus.noConfusion
  refine ⟨hsaved.ids, hsaved.numbered, hsaved.attempts, ?_, ?_, hsaved.changed, hsaved.overruled,
    hsaved.operators⟩
  · intro claim hmem
    rw [save_length]
    rcases mem_append.1 hmem with hearlier | hnew
    · exact h.known claim hearlier
    · obtain rfl := mem_singleton.1 hnew
      exact h.numbered old hold
  · intro claim hmem file hfile hid
    rcases mem_append.1 hmem with hearlier | hnew
    · exact hsaved.held claim (by rw [save_held]; exact hearlier) file hfile hid
    · obtain rfl := mem_singleton.1 hnew
      rcases mem_save hmove hchanged hfile with rfl | ⟨_, hne⟩
      · refine ⟨Nat.le_refl _, fun _ _ => ?_⟩
        show (system.save (.claim system.made) old (claimed now old)).current old.id = _
        unfold System.save
        rw [if_neg hchanged]
        exact if_pos rfl
      · exact absurd hid hne

variable {next : System} {persist : ManagedFile → ManagedFile}

theorem report_ok {claim : Claim} (h : report claim persist system = .ok next) :
    claim ∈ system.held ∧ ∃ old ∈ system.files, old.id = claim.file ∧
      next = { system with held := system.held.erase claim }.save (.report claim.serial) old
        (persist old) := by
  unfold report at h
  split at h
  · cases h
  next hheld =>
  split at h
  · cases h
  next old hfind =>
  exact ⟨not_not.1 hheld, old, find_mem hfind, find_key hfind,
    (Except.ok.inj h).symm⟩

theorem failStale_ok {now recovery : Nat} (h : failStale settings now recovery system = .ok next) :
    ∃ recoveries, ∃ old ∈ system.files,
      next = { system with recoveries := recoveries }.save .recovery old
        (persistScanFailure settings now scanTimeout old) := by
  unfold failStale at h
  split at h
  · split at h
    · cases h
    · next old hfind => exact ⟨_, old, find_mem hfind, (Except.ok.inj h).symm⟩
  · cases h

theorem decided_cases (settings : Settings) {now file : Nat}
    (h : decideFile now actor file decision reason system = .ok next) :
    next = system ∨ ∃ old ∈ system.files, ∃ new, Move settings (.operator actor) old new ∧
      next = system.save (.operator actor) old new := by
  obtain ⟨new, hnew, h⟩ := bind_eq_ok.1 h
  cases hfind : file? system file with
  | none =>
    rw [hfind] at h
    exact .inl (Except.ok.inj h).symm
  | some old =>
    rw [hfind] at h hnew
    exact .inr ⟨old, find_mem hfind, new, recordOperatorScanDecision_move hnew,
      (Except.ok.inj h).symm⟩

theorem Kept.report {claim : Claim} (h : Kept settings system)
    (hpersist : ∀ old, Move settings (.report claim.serial) old (persist old))
    (hexec : report claim persist system = .ok next) : Kept settings next := by
  obtain ⟨_, old, hold, _, rfl⟩ := report_ok hexec
  have hheld : Kept settings { system with held := system.held.erase claim } :=
    h.with_held fun _ hmem => mem_of_mem_erase hmem
  exact hheld.save hold (hpersist old)

theorem Kept.step {next : System} {call : Call} (h : Kept settings system)
    (hexec : execute settings call system = .ok next) : Kept settings next := by
  obtain ⟨action, now⟩ := call
  cases action with
  | upload owner blobName sizeBytes scanRequired =>
    cases hexec
    exact h.upload owner blobName sizeBytes scanRequired now
  | claim locked =>
    cases hexec
    exact h.claim now locked
  | result claim result =>
    exact h.report (fun _ => persistScanResult_move claim.serial result) hexec
  | failure claim errorCode =>
    exact h.report (persistScanFailure_report settings now claim.serial errorCode) hexec
  | readStale =>
    cases hexec
    exact h.with_recoveries
  | failStale recovery =>
    obtain ⟨recoveries, old, hold, rfl⟩ := failStale_ok hexec
    have hread : Kept settings { system with recoveries := recoveries } := h.with_recoveries
    exact hread.save hold (persistScanFailure_recovery settings now scanTimeout old)
  | decide actor file decision reason =>
    rcases decided_cases settings hexec with rfl | ⟨old, hold, new, hmove, rfl⟩
    · exact h
    · exact h.save hold hmove

/-- A clean status comes from the claim that was current, or from an operator who does not own
the file. -/
def CleanedBy (file : ManagedFile) (change : Change) : Prop :=
  change.status = .clean ∧
    ((∃ serial, change.author = .report serial ∧ change.current = some serial) ∨
      ∃ actor, change.author = .operator actor ∧ actor ≠ file.owner)

def lastChange (system : System) (id : Nat) : Option Change :=
  system.changes.find? (·.file = id)

structure Faithful (system : System) : Prop where
  reports : ∀ change ∈ system.changes, ∀ serial, change.author = .report serial →
    change.current = some serial
  cleaned : ∀ file ∈ system.files, file.scanStatus = .clean →
    ∃ change, lastChange system file.id = some change ∧ CleanedBy file change

theorem Faithful.save (h : Faithful system)
    (hmove : Move settings author old new)
    (hcurrent : ∀ serial, author = .report serial → new.scanStatus ≠ old.scanStatus →
      system.current new.id = some serial) : Faithful (system.save author old new) := by
  by_cases hchanged : new.scanStatus = old.scanStatus
  · rw [save_same hchanged]
    exact h
  have hmoved := hmove.changed hchanged
  constructor
  · rw [save_changes hchanged]
    intro change hchange serial hauthor
    rcases mem_cons.1 hchange with rfl | hearlier
    · exact hcurrent serial hauthor hchanged
    · exact h.reports change hearlier serial hauthor
  · intro file hfile hclean
    unfold lastChange
    rw [save_changes hchanged]
    rcases mem_save hmove hchanged hfile with rfl | ⟨hother, hne⟩
    · refine ⟨_, find?_cons_of_pos (by simp), hclean, ?_⟩
      cases author with
      | claim serial => exact absurd (hclean.symm.trans hmoved.2.1) ScanStatus.noConfusion
      | report serial => exact .inl ⟨serial, rfl, hcurrent serial rfl hchanged⟩
      | recovery => exact absurd hclean hmoved.2.2.1
      | operator actor =>
        refine .inr ⟨actor, rfl, ?_⟩
        rw [hmove.owner]
        exact (hmoved.2.2 hclean).symm
    · obtain ⟨change, hlast, hcleaned⟩ := h.cleaned file hother hclean
      refine ⟨change, ?_, hcleaned⟩
      rw [find?_cons_of_neg]
      · exact hlast
      · simp only [decide_eq_true_eq]
        rw [hmove.id]
        exact Ne.symm hne

/-- The condition on a step: a report finds its file no longer being scanned, or still being
scanned for the attempt that its claim started. -/
def meetsOwnClaim (system : System) (claim : Claim) : Bool :=
  (file? system claim.file).all fun file =>
    file.scanStatus ≠ .scanning || file.scanAttempts = claim.attempt

def ReportsInTurn (system : System) (call : Call) : Prop :=
  match call.action with
  | .result claim _ => meetsOwnClaim system claim = true
  | .failure claim _ => meetsOwnClaim system claim = true
  | _ => True

instance (system : System) (call : Call) : Decidable (ReportsInTurn system call) := by
  unfold ReportsInTurn
  split <;> infer_instance

theorem current_of_meetsOwnClaim {claim : Claim} (h : Kept settings system)
    (hadmits : meetsOwnClaim system claim = true) (hheld : claim ∈ system.held)
    (hold : old ∈ system.files) (hid : old.id = claim.file)
    (hscanning : old.scanStatus = .scanning) : system.current claim.file = some claim.serial := by
  have hfind : file? system claim.file = some old := hid ▸ h.ids.find hold
  unfold meetsOwnClaim at hadmits
  simp only [hfind, Option.all_some, Bool.or_eq_true, decide_eq_true_eq] at hadmits
  have hattempt := hadmits.resolve_left (not_not.2 hscanning)
  exact (h.held claim hheld old hold hid).2 hscanning hattempt

theorem Faithful.report {claim : Claim} (h : Faithful system) (hkept : Kept settings system)
    (hpersist : ∀ old, Move settings (.report claim.serial) old (persist old))
    (hadmits : meetsOwnClaim system claim = true) (hexec : report claim persist system = .ok next) :
    Faithful next := by
  obtain ⟨hheld, old, hold, hid, rfl⟩ := report_ok hexec
  have hreported : Faithful { system with held := system.held.erase claim } := ⟨h.reports, h.cleaned⟩
  refine hreported.save (hpersist old) fun serial hauthor hchanged => ?_
  cases hauthor
  have hscanning := ((hpersist old).changed hchanged).1
  have hcurrent : system.current claim.file = some claim.serial :=
    current_of_meetsOwnClaim hkept hadmits hheld hold hid hscanning
  rw [(hpersist old).id, hid]
  exact hcurrent

theorem Faithful.step {next : System} {call : Call} (h : Faithful system)
    (hkept : Kept settings system) (hadmits : ReportsInTurn system call)
    (hexec : execute settings call system = .ok next) : Faithful next := by
  obtain ⟨action, now⟩ := call
  cases action with
  | upload owner blobName sizeBytes scanRequired =>
    cases hexec
    refine ⟨h.reports, fun file hfile hclean => ?_⟩
    rcases mem_append.1 hfile with hearlier | hnew
    · exact h.cleaned file hearlier hclean
    · obtain rfl := mem_singleton.1 hnew
      cases scanRequired <;> cases hclean
  | claim locked =>
    cases hexec
    show Faithful (claim now locked system)
    rcases claim_cases hkept.ids now locked with hsame | ⟨old, hold, hqueued, hclaim⟩
    · rw [hsame]
      exact h
    · have hmove : Move settings (.claim system.made) old (claimed now old) :=
        claimed_move system.made hqueued
      have hsaved := h.save hmove fun serial hauthor => Author.noConfusion hauthor
      rw [hclaim]
      exact ⟨hsaved.reports, hsaved.cleaned⟩
  | result claim result =>
    exact h.report hkept (fun _ => persistScanResult_move claim.serial result) hadmits hexec
  | failure claim errorCode =>
    exact h.report hkept (persistScanFailure_report settings now claim.serial errorCode) hadmits hexec
  | readStale =>
    cases hexec
    exact ⟨h.reports, h.cleaned⟩
  | failStale recovery =>
    obtain ⟨recoveries, old, hold, rfl⟩ := failStale_ok hexec
    have hread : Faithful { system with recoveries := recoveries } := ⟨h.reports, h.cleaned⟩
    exact hread.save (persistScanFailure_recovery settings now scanTimeout old)
      fun serial hauthor => Author.noConfusion hauthor
  | decide actor file decision reason =>
    rcases decided_cases settings hexec with rfl | ⟨old, _, new, hmove, rfl⟩
    · exact h
    · exact h.save hmove fun serial hauthor => Author.noConfusion hauthor

theorem report_of_current {claim : Claim} (h : Kept settings system)
    (hpersist : ∀ old, Move settings (.report claim.serial) old (persist old))
    (hadmits : meetsOwnClaim system claim = true) (hexec : report claim persist system = .ok next)
    (hdiffers : file? next claim.file ≠ file? system claim.file) :
    system.current claim.file = some claim.serial := by
  obtain ⟨hheld, old, hold, hid, rfl⟩ := report_ok hexec
  by_cases hchanged : (persist old).scanStatus = old.scanStatus
  · rw [save_same hchanged] at hdiffers
    exact absurd rfl hdiffers
  · exact current_of_meetsOwnClaim h hadmits hheld hold hid ((hpersist old).changed hchanged).1

end

structure Sound (settings : Settings) (system : System) : Prop where
  reports : ∀ change ∈ system.changes, ∀ serial, change.author = .report serial →
    change.current = some serial
  operators : system.changes.Pairwise fun later earlier => earlier.file = later.file →
    earlier.author.isOperator = true → later.author.isOperator = true
  attempts : ∀ file ∈ system.files, file.scanAttempts ≤ maximumAttempts settings
  delivered : ∀ file ∈ system.files, managedFileDeliveryReady true file = true →
    ∃ change, lastChange system file.id = some change ∧ CleanedBy file change

def ReportsAsCurrent (system next : System) (call : Call) : Prop :=
  ∀ claim, ((∃ result, call.action = .result claim result) ∨
      ∃ errorCode, call.action = .failure claim errorCode) →
    file? next claim.file ≠ file? system claim.file →
      system.current claim.file = some claim.serial

theorem clean_of_delivered (h : managedFileDeliveryReady true file = true) :
    file.scanStatus = .clean := by
  unfold managedFileDeliveryReady at h
  split at h
  · cases h
  split at h
  · cases h
  split at h
  · cases h
  next hclean => simpa using hclean

theorem reaches_kept {settings : Settings} {system : System} {now : Nat}
    (h : (scanner settings).Reaches ReportsInTurn system now) :
    Kept settings system ∧ Faithful system := by
  refine h.invariant (I := fun system _ => Kept settings system ∧ Faithful system) ?_ ?_
  · refine ⟨⟨nodup_nil, ?_, ?_, ?_, ?_, ?_, ?_, List.Pairwise.nil⟩, ⟨?_, ?_⟩⟩
    all_goals exact forall_mem_nil _
  · rintro system now call next ⟨hkept, hfaithful⟩ _ hadmits hexec
    exact ⟨hkept.step hexec, hfaithful.step hkept hadmits hexec⟩

/-- Reports that meet another claim do not touch what an operator decided, and no file is tried more
often than the settings say. -/
theorem operators_decide_for_good {settings : Settings} {system : System} {now : Nat}
    (h : (scanner settings).Reaches Machine.Always system now) :
    (∀ file ∈ system.files, file.scanAttempts ≤ maximumAttempts settings ∧
        (file.scanStatus = .pending → file.scanAttempts < maximumAttempts settings)) ∧
      (∀ change ∈ system.changes, change.author.isOperator = true →
        ∀ file ∈ system.files, file.id = change.file → file.scanStatus ∈ operatorDecisions) ∧
      system.changes.Pairwise fun later earlier => earlier.file = later.file →
        earlier.author.isOperator = true → later.author.isOperator = true := by
  have hkept : Kept settings system := by
    refine h.invariant (I := fun system _ => Kept settings system) ?_
      fun _ _ _ _ hkept _ _ hexec => hkept.step hexec
    refine ⟨nodup_nil, ?_, ?_, ?_, ?_, ?_, ?_, List.Pairwise.nil⟩
    all_goals exact forall_mem_nil _
  exact ⟨hkept.attempts, hkept.overruled, hkept.operators⟩

/-- A verdict belongs to its claim in every run whose reports do not meet another claim. -/
theorem verdicts_belong_to_claims (settings : Settings) {system : System} {now : Nat}
    (h : (scanner settings).Reaches ReportsInTurn system now) :
    Sound settings system ∧
      ∀ call next, ReportsInTurn system call → execute settings call system = .ok next →
        ReportsAsCurrent system next call := by
  obtain ⟨hkept, hfaithful⟩ := reaches_kept h
  refine ⟨⟨hfaithful.reports, hkept.operators, fun file hfile => (hkept.attempts file hfile).1, ?_⟩,
    ?_⟩
  · intro file hfile hready
    exact hfaithful.cleaned file hfile (clean_of_delivered hready)
  · rintro ⟨action, instant⟩ next hadmits hexec claim hreport hdiffers
    rcases hreport with ⟨result, haction⟩ | ⟨errorCode, haction⟩
    · cases haction
      exact report_of_current hkept (fun _ => persistScanResult_move claim.serial result) hadmits
        hexec hdiffers
    · cases haction
      exact report_of_current hkept
        (persistScanFailure_report settings instant claim.serial errorCode) hadmits hexec hdiffers

def threeAttempts : Settings := ⟨3, 300, 30, 900⟩

def reclaimed : List Call :=
  [⟨.upload 7 "sheet.pdf".toList 10 true, 0⟩, ⟨.claim [], 0⟩, ⟨.readStale, seconds 400⟩,
    ⟨.failStale 0, seconds 400⟩, ⟨.claim [], seconds 500⟩]

def cleanResult : ScanResult := ⟨.clean, "clamav".toList, []⟩

def lateReport : List Call := reclaimed ++ [⟨.result ⟨0, 0, 1⟩ cleanResult, seconds 510⟩]

def reportsInTurn : List Call :=
  reclaimed ++ [⟨.result ⟨1, 0, 2⟩ cleanResult, seconds 510⟩,
    ⟨.result ⟨0, 0, 1⟩ cleanResult, seconds 520⟩]

theorem late_report_decides :
    ∃ system now, (scanner threeAttempts).Reaches Machine.Always system now ∧
      lastChange system 0 = some ⟨0, .report 0, .clean, some 1⟩ ∧
      system.files.map (managedFileDeliveryReady true) = [true] := by
  refine ⟨(scanner threeAttempts).outcome lateReport, _,
    Machine.Reaches.of_accepts (by decide +kernel) (by decide) (Machine.admitted_always _ _), ?_, ?_⟩
  · decide +kernel
  · decide +kernel

theorem overruled_report_changes_nothing :
    ((scanner threeAttempts).outcome (reclaimed ++ [⟨.decide 9 0 .quarantined "seen by hand".toList, seconds 505⟩,
      ⟨.result ⟨0, 0, 1⟩ cleanResult, seconds 510⟩])).changes.Pairwise fun later earlier =>
        earlier.file = later.file → earlier.author.isOperator = true →
          later.author.isOperator = true :=
  (operators_decide_for_good (.of_accepts (by decide +kernel) (by decide)
    (Machine.admitted_always _ _))).2.2

theorem reports_in_turn_sound :
    Sound threeAttempts ((scanner threeAttempts).outcome reportsInTurn) ∧
      ((scanner threeAttempts).outcome reportsInTurn).files.map
        (managedFileDeliveryReady true) = [true] := by
  have hreaches : (scanner threeAttempts).Reaches ReportsInTurn
      ((scanner threeAttempts).outcome reportsInTurn) (seconds 520) :=
    Machine.Reaches.of_accepts (by decide +kernel) (by decide) (by decide +kernel)
  exact ⟨(verdicts_belong_to_claims threeAttempts hreaches).1, by decide +kernel⟩

end LockIn.Files
