import LockIn.Offline.StorageSteps

/-!
# Work leaves the device when it is safe

An operation whose enqueue is over is stored until the server or its own handler has accepted it,
or its student has dismissed it, wherever a tab closes and whatever else runs.  What an
interrupted flush left marked is open, so that a later flush takes it up.

The sequence numbers of one tab follow the order of its calls as long as no enqueue lowers the
stored counter.  The enqueues of a tab wait for each other, but not for those of another: a tab
that has read the counter before another wrote two operations puts it back.
-/

namespace LockIn.Offline

open List Outcome Table

variable {device after : Device}

def HasKey (records : List Record) (operationId : Nat) : Prop :=
  ∃ record ∈ records, record.key = operationId

def Device.Keeps (device : Device) (operationId : Nat) : Prop :=
  HasKey device.records operationId ∨ operationId ∈ device.accepted ∨
    operationId ∈ device.dismissed

def Device.Gives (device : Device) (record : Record) : Prop :=
  ∃ tab, (record.operationId, record.clientSequence) ∈ (device.tabs tab).given

/-- No operation is lost and none is left behind.  Each stored one has the number it was given. -/
structure Preserved (device : Device) : Prop where
  safe : ∀ tab, ∀ operationId ∈ (device.tabs tab).called,
    operationId ∈ (device.tabs tab).enqueues.map Enqueue.operationId ∨
      operationId ∈ (device.tabs tab).unwritten ∨ device.Keeps operationId
  resumed : ∀ record ∈ device.records, record.syncStatus = .syncing →
    ∀ run now force, device.phase run = none →
      (force = true ∨ due record.toOfflineOperation now = true) →
        ∃ started taken, (Step.start run).exec device = .ok started ∧
          (Step.read run now force).exec started = .ok taken ∧
            ∃ rest locals, taken.phase run = some (.ready rest locals) ∧ record ∈ rest ++ locals
  recorded : ∀ record ∈ device.records, device.Gives record
  inOrder : ∀ tab, ((device.tabs tab).given.map Prod.fst).Sublist (device.tabs tab).called

/-- The numbers of each tab are different and follow the order of its calls as well. -/
structure Durable (device : Device) : Prop extends Preserved device where
  numbered : ∀ tab, (device.tabs tab).given.Pairwise fun first second => first.2 < second.2

variable {force : Bool} {record : Record} {command : Command} {response : Response}
  {changed : List Record}

theorem mem_takenUp {records : List Record} {operationIds : List Nat} {now : Nat} :
    record ∈ takenUp records operationIds now force ↔
      record ∈ records ∧ record.key ∈ operationIds ∧ record.isOpen = true ∧
        (force || due record.toOfflineOperation now) = true := by
  unfold takenUp readRecords
  rw [mem_filter, (perm_insertionSort _ _).mem_iff, mem_filter]
  simp only [decide_eq_true_eq, Bool.and_eq_true]
  exact and_assoc

theorem phase_putRun {run : RunId} {phase old : Phase} (h : device.phase run = some old) :
    (device.putRun run phase).phase run = some phase := by
  unfold Device.phase at h
  cases hfind : Table.find FlushRun.id device.runs run with
  | none =>
    rw [hfind] at h
    simp at h
  | some found =>
    have hkey : Table.find FlushRun.id device.runs (FlushRun.mk run phase).id = some found := hfind
    have hput := find_put_self hkey
    show (Table.find FlushRun.id (Table.put FlushRun.id device.runs (FlushRun.mk run phase)) run).map
      (·.phase) = some phase
    rw [hput]
    rfl

theorem taken_up_again (hin : record ∈ device.records) (hsyncing : record.syncStatus = .syncing)
    {run : RunId} {now : Nat} (hnew : device.phase run = none)
    (hdue : force = true ∨ due record.toOfflineOperation now = true) :
    ∃ started taken, (Step.start run).exec device = .ok started ∧
      (Step.read run now force).exec started = .ok taken ∧
        ∃ rest locals, taken.phase run = some (.ready rest locals) ∧ record ∈ rest ++ locals := by
  have hnone : ¬ (device.phase run).isSome = true := by
    rw [hnew]
    decide
  have hlisted : (startRun device run).phase run =
      some (.listed (device.records.map Record.key)) := by
    unfold Device.phase at hnew ⊢
    unfold startRun
    rw [Option.map_eq_none_iff] at hnew
    rw [find_append, hnew]
    simp [Table.find]
  have hopen : record.isOpen = true := by
    unfold OfflineOperation.isOpen
    rw [hsyncing]
    rfl
  have htaken : record ∈ takenUp device.records (device.records.map Record.key) now force := by
    rw [mem_takenUp]
    refine ⟨hin, mem_map_of_mem hin, hopen, ?_⟩
    rcases hdue with hforce | hdue
    · rw [hforce]
      rfl
    · rw [hdue, Bool.or_true]
  let pending := takenUp device.records (device.records.map Record.key) now force
  refine ⟨startRun device run, (startRun device run).putRun run
    (.ready (pending.filter (!·.isLocal)) (pending.filter (·.isLocal))), if_neg hnone, ?_, _, _,
    phase_putRun hlisted, ?_⟩
  · simp only [Step.exec, Device.inPhase, hlisted, ok_bind]
    rfl
  · rw [mem_append, mem_filter, mem_filter]
    cases hlocal : record.isLocal with
    | true => exact Or.inr ⟨htaken, rfl⟩
    | false => exact Or.inl ⟨htaken, rfl⟩

def Command.removed : Command → List Nat
  | .remove operationId => [operationId]
  | _ => []

def Command.records : Command → List Record
  | .remove _ => []
  | .retry record _ _ => [record]
  | .save record => [record]

section
variable {records : List Record} {operationId : Nat}

theorem hasKey_putRecord (h : HasKey records operationId) (record : Record) :
    HasKey (putRecord records record) operationId := by
  obtain ⟨old, hold, hkey⟩ := h
  unfold putRecord
  by_cases hfound : (Table.find Record.key records record.operationId).isSome = true
  · rw [if_pos hfound]
    by_cases hsame : old.key = record.key
    · exact ⟨record, mem_put.2 (Or.inl ⟨rfl, old, hold, hsame⟩), hsame.symm.trans hkey⟩
    · exact ⟨old, mem_put.2 (Or.inr ⟨hold, hsame⟩), hkey⟩
  · rw [if_neg hfound]
    exact ⟨old, mem_append_left _ hold, hkey⟩

theorem hasKey_putRecord_self (records : List Record) (record : Record) :
    HasKey (putRecord records record) record.key := by
  unfold putRecord
  cases hfound : Table.find Record.key records record.operationId with
  | none => exact ⟨record, mem_append_right _ (mem_singleton_self _), rfl⟩
  | some old => exact ⟨record, mem_put_self hfound, rfl⟩

theorem hasKey_putRecords (h : HasKey records operationId) (changed : List Record) :
    HasKey (putRecords records changed) operationId := by
  induction changed generalizing records with
  | nil => exact h
  | cons record rest ih => exact ih (hasKey_putRecord h record)

theorem hasKey_deleteRecord (h : HasKey records operationId) {removed : Nat}
    (hne : operationId ≠ removed) : HasKey (deleteRecord records removed) operationId := by
  obtain ⟨record, hrecord, hkey⟩ := h
  refine ⟨record, mem_filter.2 ⟨hrecord, ?_⟩, hkey⟩
  rw [decide_eq_true_eq]
  intro hsame
  exact hne (hkey.symm.trans hsame)

theorem hasKey_perform (h : HasKey records operationId) (hne : operationId ∉ command.removed)
    (now : Nat) : HasKey (command.perform records now) operationId := by
  cases command with
  | remove removed => exact hasKey_deleteRecord h (by simpa [Command.removed] using hne)
  | retry record reason code => exact hasKey_putRecord h _
  | save record => exact hasKey_putRecord h record

theorem removed_acceptedCommands {byId : List Record} {accepted : List Nat}
    (h : operationId ∈ (acceptedCommands byId accepted).1.flatMap Command.removed) :
    operationId ∈ byId.map Record.key ∧ operationId ∈ accepted := by
  induction accepted generalizing byId with
  | nil => exact absurd h (by simp [acceptedCommands])
  | cons first rest ih =>
    cases hfind : Table.find Record.key byId first with
    | none =>
      simp only [acceptedCommands, hfind] at h
      obtain ⟨hkey, hin⟩ := ih h
      exact ⟨hkey, mem_cons_of_mem _ hin⟩
    | some record =>
      simp only [acceptedCommands, hfind] at h
      rw [flatMap_cons, mem_append] at h
      rcases h with hhead | hrest
      · have hid : operationId = record.key := by simpa [Command.removed] using hhead
        rw [hid]
        exact ⟨mem_map_of_mem (find_mem hfind), by
          rw [find_key hfind]
          exact mem_cons_self⟩
      · obtain ⟨hkey, hin⟩ := ih hrest
        obtain ⟨other, hother, hsame⟩ := mem_map.1 hkey
        refine ⟨?_, mem_cons_of_mem _ hin⟩
        rw [← hsame]
        exact mem_map_of_mem (mem_filter.1 hother).1

theorem removed_rejectedCommands (byId : List Record) (blocked : List String)
    (rejected : List (Nat × Refusal)) :
    (rejectedCommands byId blocked rejected).1.flatMap Command.removed = [] := by
  induction rejected generalizing byId blocked with
  | nil => rfl
  | cons first rest ih =>
    cases hfind : Table.find Record.key byId first.1 with
    | none =>
      simp only [rejectedCommands, hfind]
      exact ih byId blocked
    | some record =>
      by_cases hlater : first.2.retryable = true ∨
          (first.2.code = .outOfOrder ∧ record.orderingKey ∈ blocked)
      · simp only [rejectedCommands, hfind, if_pos hlater, flatMap_cons, Command.removed,
          nil_append]
        exact ih _ _
      · simp only [rejectedCommands, hfind, if_neg hlater, flatMap_cons, Command.removed,
          nil_append]
        exact ih _ _

variable {batch : List Record}

theorem removed_responseCommands
    (h : operationId ∈ (responseCommands batch response).flatMap Command.removed) :
    operationId ∈ (batch.map Record.key).filter (· ∈ response.accepted) := by
  unfold responseCommands at h
  simp only [flatMap_append, mem_append, removed_rejectedCommands] at h
  rcases h with (haccepted | hrejected) | hunmentioned
  · obtain ⟨hkey, hin⟩ := removed_acceptedCommands haccepted
    rw [mem_filter, decide_eq_true_eq]
    exact ⟨hkey, hin⟩
  · exact absurd hrejected not_mem_nil
  · simp [Command.removed] at hunmentioned

variable {base : Device}

theorem gives_putRecord (h : ∀ record ∈ records, base.Gives record) (hgiven : base.Gives record) :
    ∀ other ∈ putRecord records record, base.Gives other := by
  intro other hother
  unfold putRecord at hother
  by_cases hfound : (Table.find Record.key records record.operationId).isSome = true
  · rw [if_pos hfound] at hother
    rcases mem_of_mem_put hother with rfl | hold
    · exact hgiven
    · exact h other hold
  · rw [if_neg hfound] at hother
    rcases mem_append.1 hother with hold | hnew
    · exact h other hold
    · rw [mem_singleton.1 hnew]
      exact hgiven

theorem gives_putRecords (h : ∀ record ∈ records, base.Gives record)
    (hchanged : ∀ record ∈ changed, base.Gives record) :
    ∀ record ∈ putRecords records changed, base.Gives record := by
  induction changed generalizing records with
  | nil => exact h
  | cons record rest ih =>
    obtain ⟨hfirst, hrest⟩ := forall_mem_cons.1 hchanged
    exact ih (gives_putRecord h hfirst) hrest

theorem gives_deleteRecord (h : ∀ record ∈ records, base.Gives record) (removed : Nat) :
    ∀ record ∈ deleteRecord records removed, base.Gives record :=
  fun record hrecord => h record (mem_filter.1 hrecord).1

theorem gives_perform (h : ∀ record ∈ records, base.Gives record)
    (hcommand : ∀ record ∈ command.records, base.Gives record) (now : Nat) :
    ∀ record ∈ command.perform records now, base.Gives record := by
  cases command with
  | remove removed => exact gives_deleteRecord h removed
  | retry record reason code =>
    have hgiven : base.Gives (record.retried now reason code) :=
      hcommand record (mem_singleton_self _)
    exact gives_putRecord h hgiven
  | save record => exact gives_putRecord h (hcommand record (mem_singleton_self _))

theorem gives_acceptedCommands (accepted : List Nat) (h : ∀ record ∈ records, base.Gives record) :
    (acceptedCommands records accepted).1.flatMap Command.records = [] ∧
      ∀ record ∈ (acceptedCommands records accepted).2, base.Gives record := by
  induction accepted generalizing records with
  | nil => exact ⟨rfl, h⟩
  | cons first rest ih =>
    cases hfind : Table.find Record.key records first with
    | none =>
      simp only [acceptedCommands, hfind]
      exact ih h
    | some record =>
      simp only [acceptedCommands, hfind, flatMap_cons, Command.records, nil_append]
      exact ih (gives_deleteRecord h first)

theorem gives_rejectedCommands (blocked : List String) (rejected : List (Nat × Refusal))
    (h : ∀ record ∈ records, base.Gives record) :
    (∀ record ∈ (rejectedCommands records blocked rejected).1.flatMap Command.records,
        base.Gives record) ∧
      ∀ record ∈ (rejectedCommands records blocked rejected).2, base.Gives record := by
  induction rejected generalizing records blocked with
  | nil => exact ⟨forall_mem_nil _, h⟩
  | cons first rest ih =>
    cases hfind : Table.find Record.key records first.1 with
    | none =>
      simp only [rejectedCommands, hfind]
      exact ih blocked h
    | some record =>
      have hgiven : base.Gives record := h record (find_mem hfind)
      have hleft := gives_deleteRecord h first.1
      by_cases hlater : first.2.retryable = true ∨
          (first.2.code = .outOfOrder ∧ record.orderingKey ∈ blocked)
      · simp only [rejectedCommands, hfind, if_pos hlater, flatMap_cons, Command.records,
          singleton_append, forall_mem_cons]
        obtain ⟨hcommands, hrest⟩ := ih (record.orderingKey :: blocked) hleft
        exact ⟨⟨hgiven, hcommands⟩, hrest⟩
      · simp only [rejectedCommands, hfind, if_neg hlater, flatMap_cons, Command.records,
          singleton_append, forall_mem_cons]
        obtain ⟨hcommands, hrest⟩ := ih blocked hleft
        exact ⟨⟨hgiven, hcommands⟩, hrest⟩

theorem gives_responseCommands (response : Response) (h : ∀ record ∈ batch, base.Gives record) :
    ∀ record ∈ (responseCommands batch response).flatMap Command.records, base.Gives record := by
  obtain ⟨haccepted, hunaccepted⟩ := gives_acceptedCommands response.accepted h
  obtain ⟨hrejected, hunmentioned⟩ := gives_rejectedCommands [] response.rejected hunaccepted
  unfold responseCommands
  simp only [flatMap_append, haccepted, nil_append, mem_append]
  rintro record (hin | hin)
  · exact hrejected record hin
  · obtain ⟨command, hcommand, hrecord⟩ := mem_flatMap.1 hin
    obtain ⟨other, hother, rfl⟩ := mem_map.1 hcommand
    rw [mem_singleton.1 hrecord]
    exact hunmentioned other hother

end

def Phase.removals : Phase → List Nat
  | .applying commands _ _ => commands.flatMap Command.removed
  | .concluding command _ _ => command.removed
  | _ => []

/-- The copies of operations that a flush holds. -/
def Phase.records : Phase → List Record
  | .listed _ => []
  | .ready rest locals => rest ++ locals
  | .sent batch rest locals => batch ++ (rest ++ locals)
  | .applying commands rest locals => commands.flatMap Command.records ++ (rest ++ locals)
  | .replaying locals => locals
  | .concluding command _ locals => command.records ++ locals

/-- An enqueue does not put the stored counter back: what it writes is not below what is
stored. -/
def Raises (device : Device) (step : Step) : Prop :=
  (match step with
    | .writeOperation tab => (device.tabs tab).readSequence.all (device.sequence ≤ · + 1)
    | _ => true) = true

instance (device : Device) (step : Step) : Decidable (Raises device step) :=
  inferInstanceAs (Decidable (_ = true))

/-- No tab has given a number above the counter, or above what its enqueue has read. -/
structure Counted (sequence : Nat) (tabs : Nat → Tab) : Prop where
  below : ∀ tab, ∀ entry ∈ (tabs tab).given, entry.2 ≤ sequence
  reading : ∀ tab read, (tabs tab).readSequence = some read →
    ∀ entry ∈ (tabs tab).given, entry.2 ≤ read
  numbered : ∀ tab, (tabs tab).given.Pairwise fun first second => first.2 < second.2

/-- What every step keeps.  The numbers are kept in runs whose enqueues all raise the counter,
which `raised` stands for. -/
structure Guarded (raised : Prop) (device : Device) : Prop where
  safe : ∀ tab, ∀ operationId ∈ (device.tabs tab).called,
    operationId ∈ (device.tabs tab).enqueues.map Enqueue.operationId ∨
      operationId ∈ (device.tabs tab).unwritten ∨ device.Keeps operationId
  removals : ∀ run ∈ device.runs, ∀ operationId ∈ run.phase.removals, operationId ∈ device.accepted
  dismissals : ∀ entry ∈ device.dismissals, entry.2 ∈ device.dismissed
  inOrder : ∀ tab, ((device.tabs tab).given.map Prod.fst ++
    (device.tabs tab).enqueues.map Enqueue.operationId).Sublist (device.tabs tab).called
  stored : ∀ record ∈ device.records, device.Gives record
  held : ∀ run ∈ device.runs, ∀ record ∈ run.phase.records, device.Gives record
  counted : raised → Counted device.sequence device.tabs

variable {raised : Prop}

theorem guarded_emptyDevice : Guarded raised emptyDevice where
  safe _ _ hno := absurd hno not_mem_nil
  removals _ hno := absurd hno not_mem_nil
  dismissals _ hno := absurd hno not_mem_nil
  inOrder _ := List.Sublist.refl _
  stored _ hno := absurd hno not_mem_nil
  held _ hno := absurd hno not_mem_nil
  counted _ := ⟨fun _ _ hno => absurd hno not_mem_nil, fun _ _ _ _ hno =>
    absurd hno not_mem_nil, fun _ => List.Pairwise.nil⟩

theorem Guarded.putRun (h : Guarded raised device) (run : RunId) {phase : Phase}
    (hphase : ∀ operationId ∈ phase.removals, operationId ∈ device.accepted)
    (hrecords : ∀ record ∈ phase.records, device.Gives record) :
    Guarded raised (device.putRun run phase) := by
  refine ⟨h.safe, ?_, h.dismissals, h.inOrder, h.stored, ?_, h.counted⟩
  · exact forall_mem_put h.removals hphase
  · exact forall_mem_put h.held hrecords

theorem Guarded.keepRuns (h : Guarded raised device) (keeps : FlushRun → Bool) :
    Guarded raised { device with runs := device.runs.filter keeps } :=
  ⟨h.safe, fun other hother => h.removals other (mem_filter.1 hother).1, h.dismissals,
    h.inOrder, h.stored, fun other hother => h.held other (mem_filter.1 hother).1, h.counted⟩

theorem Guarded.write (h : Guarded raised device) {records : List Record}
    (hkeys : ∀ operationId, HasKey device.records operationId → HasKey records operationId ∨
      operationId ∈ device.accepted ∨ operationId ∈ device.dismissed)
    (hgives : ∀ record ∈ records, device.Gives record) :
    Guarded raised { device with records := records } := by
  refine ⟨?_, h.removals, h.dismissals, h.inOrder, hgives, h.held, h.counted⟩
  intro tab operationId hcalled
  refine (h.safe tab operationId hcalled).imp_right (Or.imp_right ?_)
  rintro (hstored | hgone)
  · exact hkeys operationId hstored
  · exact Or.inr hgone

theorem Guarded.writeRecords (h : Guarded raised device)
    (hchanged : ∀ record ∈ changed, device.Gives record) :
    Guarded raised { device with records := putRecords device.records changed } :=
  h.write (fun _ hstored => Or.inl (hasKey_putRecords hstored changed))
    (gives_putRecords h.stored hchanged)

theorem Guarded.perform (h : Guarded raised device)
    (haccepted : ∀ operationId ∈ command.removed, operationId ∈ device.accepted)
    (hrecords : ∀ record ∈ command.records, device.Gives record) (now : Nat) :
    Guarded raised { device with records := command.perform device.records now } := by
  apply h.write ?_ (gives_perform h.stored hrecords now)
  intro operationId hstored
  by_cases hremoved : operationId ∈ command.removed
  · exact Or.inr (Or.inl (haccepted operationId hremoved))
  · exact Or.inl (hasKey_perform hstored hremoved now)

theorem Guarded.accept (h : Guarded raised device) (operationIds : List Nat) :
    Guarded raised { device with accepted := device.accepted ++ operationIds } := by
  refine ⟨?_, ?_, h.dismissals, h.inOrder, h.stored, h.held, h.counted⟩
  · intro tab operationId hcalled
    refine (h.safe tab operationId hcalled).imp_right (Or.imp_right ?_)
    rintro (hstored | haccepted | hdismissed)
    · exact Or.inl hstored
    · exact Or.inr (Or.inl (mem_append_left _ haccepted))
    · exact Or.inr (Or.inr hdismissed)
  · intro run hrun operationId hremoved
    exact mem_append_left _ (h.removals run hrun operationId hremoved)

theorem inPhase_ok {run : RunId} {phase : Phase} (h : device.inPhase run = .ok phase) :
    FlushRun.mk run phase ∈ device.runs := by
  unfold Device.inPhase Device.phase at h
  cases hfind : Table.find FlushRun.id device.runs run with
  | none =>
    rw [hfind] at h
    simp at h
  | some found =>
    rw [hfind] at h
    cases h
    have hid : found.id = run := find_key hfind
    rw [← hid]
    exact find_mem hfind

section
variable {tab : Nat} {enqueues : Tab}

theorem forall_putTab {p : Tab → Prop} (hnew : p enqueues) (hold : ∀ other, p (device.tabs other)) :
    ∀ other, p ((device.putTab tab enqueues).tabs other) := by
  intro other
  show p (Function.update device.tabs tab enqueues other)
  by_cases hsame : other = tab
  · rw [hsame, Function.update_self]
    exact hnew
  · rw [Function.update_of_ne hsame]
    exact hold other

theorem gives_putTab (hgiven : (device.tabs tab).given ⊆ enqueues.given) (h : device.Gives record) :
    (device.putTab tab enqueues).Gives record := by
  obtain ⟨other, hother⟩ := h
  refine ⟨other, ?_⟩
  show _ ∈ (Function.update device.tabs tab enqueues other).given
  by_cases hsame : other = tab
  · rw [hsame, Function.update_self]
    rw [hsame] at hother
    exact hgiven hother
  · rw [Function.update_of_ne hsame]
    exact hother

variable {sequence : Nat}

theorem Counted.putTab (h : Counted device.sequence device.tabs) (hle : device.sequence ≤ sequence)
    (hbelow : ∀ entry ∈ enqueues.given, entry.2 ≤ sequence)
    (hreading : ∀ read, enqueues.readSequence = some read →
      ∀ entry ∈ enqueues.given, entry.2 ≤ read)
    (hnumbered : enqueues.given.Pairwise fun first second => first.2 < second.2) :
    Counted sequence (device.putTab tab enqueues).tabs where
  below := forall_putTab (p := fun other => ∀ entry ∈ other.given, entry.2 ≤ sequence) hbelow
    fun other entry hentry => (h.below other entry hentry).trans hle
  reading := forall_putTab (p := fun other => ∀ read, other.readSequence = some read →
    ∀ entry ∈ other.given, entry.2 ≤ read) hreading h.reading
  numbered := forall_putTab (p := fun other => other.given.Pairwise fun first second =>
    first.2 < second.2) hnumbered h.numbered

/-- The enqueues of one tab change, and nothing is written. -/
theorem Guarded.putTab (h : Guarded raised device)
    (hgiven : enqueues.given = (device.tabs tab).given)
    (hsafe : ∀ operationId ∈ enqueues.called,
      operationId ∈ enqueues.enqueues.map Enqueue.operationId ∨ operationId ∈ enqueues.unwritten ∨
        device.Keeps operationId)
    (hinOrder : (enqueues.given.map Prod.fst ++
      enqueues.enqueues.map Enqueue.operationId).Sublist enqueues.called)
    (hreading : ∀ read, enqueues.readSequence = some read → read = device.sequence ∨
      (device.tabs tab).readSequence = some read) :
    Guarded raised (device.putTab tab enqueues) where
  safe := forall_putTab (p := fun other => ∀ operationId ∈ other.called,
    operationId ∈ other.enqueues.map Enqueue.operationId ∨ operationId ∈ other.unwritten ∨
      device.Keeps operationId) hsafe h.safe
  removals := h.removals
  dismissals := h.dismissals
  inOrder := forall_putTab (p := fun other => (other.given.map Prod.fst ++
    other.enqueues.map Enqueue.operationId).Sublist other.called) hinOrder h.inOrder
  stored record hrecord := gives_putTab (hgiven ▸ List.Subset.refl _) (h.stored record hrecord)
  held run hrun record hrecord := gives_putTab (hgiven ▸ List.Subset.refl _) (h.held run hrun record hrecord)
  counted hraised := by
    have hcounted := h.counted hraised
    refine hcounted.putTab le_rfl ?_ ?_ ?_
    · rw [hgiven]
      exact hcounted.below tab
    · rw [hgiven]
      intro read hread
      rcases hreading read hread with rfl | hold
      · exact hcounted.below tab
      · exact hcounted.reading tab read hold
    · rw [hgiven]
      exact hcounted.numbered tab

theorem Guarded.writeOperation (h : Guarded raised device) {request : Enqueue} {rest : List Enqueue}
    (henqueues : (device.tabs tab).enqueues = request :: rest)
    (hreading : (device.tabs tab).readSequence = some sequence)
    (hraises : raised → device.sequence ≤ sequence + 1) :
    Guarded raised (Offline.writeOperation device tab request rest sequence) := by
  have hgiven : (device.tabs tab).given ⊆
      (device.tabs tab).given ++ [(request.operationId, sequence + 1)] :=
    subset_append_left _ _
  refine ⟨?_, h.removals, h.dismissals, ?_, ?_, ?_, ?_⟩
  · have hkept : ∀ operationId, device.Keeps operationId →
        (Offline.writeOperation device tab request rest sequence).Keeps operationId :=
      fun _ => Or.imp_left fun hstored => hasKey_putRecord hstored _
    refine forall_putTab (p := fun other => ∀ operationId ∈ other.called,
      operationId ∈ other.enqueues.map Enqueue.operationId ∨ operationId ∈ other.unwritten ∨
        (Offline.writeOperation device tab request rest sequence).Keeps operationId) ?_
      fun other operationId hcalled =>
        (h.safe other operationId hcalled).imp_right (Or.imp_right (hkept operationId))
    intro operationId hcalled
    rcases h.safe tab operationId hcalled with hwaiting | hgone
    · rw [henqueues, map_cons, mem_cons] at hwaiting
      rcases hwaiting with rfl | hwaiting
      · exact Or.inr (Or.inr (Or.inl (hasKey_putRecord_self _ (newRecord request (sequence + 1)))))
      · exact Or.inl hwaiting
    · exact Or.inr (hgone.imp_right (hkept operationId))
  · refine forall_putTab (p := fun other => (other.given.map Prod.fst ++
      other.enqueues.map Enqueue.operationId).Sublist other.called) ?_ h.inOrder
    have hsublist := h.inOrder tab
    rw [henqueues, map_cons] at hsublist
    show (((device.tabs tab).given ++ [(request.operationId, sequence + 1)]).map Prod.fst ++
      rest.map Enqueue.operationId).Sublist (device.tabs tab).called
    rw [map_append, append_assoc]
    exact hsublist
  · have hnew : (Offline.writeOperation device tab request rest sequence).Gives
        (newRecord request (sequence + 1)) := by
      refine ⟨tab, ?_⟩
      show _ ∈ (Function.update device.tabs tab _ tab).given
      rw [Function.update_self]
      exact mem_append_right _ (mem_singleton_self _)
    exact gives_putRecord (fun record hrecord => gives_putTab hgiven (h.stored record hrecord)) hnew
  · exact fun run hrun record hrecord => gives_putTab hgiven (h.held run hrun record hrecord)
  · intro hraised
    have hcounted := h.counted hraised
    have hbelow := hcounted.reading tab sequence hreading
    refine hcounted.putTab (hraises hraised) ?_ (fun _ hno => absurd hno (by simp)) ?_
    · intro entry hentry
      rcases mem_append.1 hentry with hold | hnew
      · exact (hbelow entry hold).trans (Nat.le_succ _)
      · exact (congrArg Prod.snd (mem_singleton.1 hnew)).le
    · show ((device.tabs tab).given ++ [(request.operationId, sequence + 1)]).Pairwise _
      rw [pairwise_append]
      refine ⟨hcounted.numbered tab, pairwise_singleton _ _, ?_⟩
      intro entry hentry last hlast
      rw [mem_singleton.1 hlast]
      exact Nat.lt_succ_of_le (hbelow entry hentry)

end

theorem Guarded.dismiss (h : Guarded raised device) (tab operationId : Nat) :
    Guarded raised { device with
      dismissals := device.dismissals ++ [(tab, operationId)]
      dismissed := device.dismissed ++ [operationId] } := by
  refine ⟨?_, h.removals, ?_, h.inOrder, h.stored, h.held, h.counted⟩
  · intro other called hcalled
    refine (h.safe other called hcalled).imp_right (Or.imp_right ?_)
    rintro (hstored | haccepted | hdismissed)
    · exact Or.inl hstored
    · exact Or.inr (Or.inl haccepted)
    · exact Or.inr (Or.inr (mem_append_left _ hdismissed))
  · intro other hother
    rcases mem_append.1 hother with hold | hnew
    · exact mem_append_left _ (h.dismissals other hold)
    · rw [mem_singleton.1 hnew]
      exact mem_append_right _ (mem_singleton_self _)

theorem Guarded.removeDismissed (h : Guarded raised device) {tab operationId : Nat}
    (hdismissed : (tab, operationId) ∈ device.dismissals) :
    Guarded raised { device with
      records := deleteRecord device.records operationId
      dismissals := device.dismissals.erase (tab, operationId) } := by
  have hwritten : Guarded raised
      { device with records := deleteRecord device.records operationId } := by
    apply h.write ?_ (gives_deleteRecord h.stored operationId)
    intro other hstored
    by_cases hsame : other = operationId
    · rw [hsame]
      exact Or.inr (Or.inr (h.dismissals _ hdismissed))
    · exact Or.inl (hasKey_deleteRecord hstored hsame)
  exact ⟨hwritten.safe, h.removals,
    fun other hother => h.dismissals other (mem_of_mem_erase hother), h.inOrder,
    hwritten.stored, h.held, h.counted⟩

/-- A flush goes on with copies it already held. -/
theorem Guarded.advance (h : Guarded raised device) {run : RunId} {old phase : Phase}
    (hin : FlushRun.mk run old ∈ device.runs)
    (hphase : ∀ operationId ∈ phase.removals, operationId ∈ device.accepted)
    (hrecords : phase.records ⊆ old.records) : Guarded raised (device.putRun run phase) :=
  h.putRun run hphase fun record hrecord => h.held _ hin record (hrecords hrecord)

section
variable {run : RunId} {now : Nat} {phase : Phase}

theorem Guarded.readOperations (h : Guarded raised device)
    (hexec : readOperations device run now force phase = .ok after) : Guarded raised after := by
  cases phase with
  | listed operationIds =>
    cases Except.ok.inj hexec
    refine h.putRun run (forall_mem_nil _) fun record hrecord => ?_
    rcases mem_append.1 hrecord with hserver | hlocal
    · exact h.stored record (mem_takenUp.1 (mem_filter.1 hserver).1).1
    · exact h.stored record (mem_takenUp.1 (mem_filter.1 hlocal).1).1
  | _ => exact absurd hexec (by simp [Offline.readOperations, wrongPhase])

theorem Guarded.sendBatch (h : Guarded raised device) (hin : FlushRun.mk run phase ∈ device.runs)
    (hexec : sendBatch device run phase = .ok after) : Guarded raised after := by
  cases phase with
  | ready rest locals =>
    cases rest with
    | nil => exact absurd hexec (by simp [Offline.sendBatch, wrongPhase])
    | cons next rest =>
      cases Except.ok.inj hexec
      have hbatch : ∀ record ∈ (next :: rest).take batchSize, device.Gives record :=
        fun record hrecord => h.held _ hin record
          (mem_append_left _ (mem_of_mem_take hrecord))
      refine (h.writeRecords fun record hrecord => ?_).advance hin
        (forall_mem_nil _) ?_
      · obtain ⟨other, hother, rfl⟩ := mem_map.1 hrecord
        exact hbatch other hother
      · show (next :: rest).take batchSize ++ ((next :: rest).drop batchSize ++ locals) ⊆ _
        rw [← append_assoc, take_append_drop]
        exact List.Subset.refl _
  | _ => exact absurd hexec (by simp [Offline.sendBatch, wrongPhase])

theorem Guarded.receiveResponse (h : Guarded raised device)
    (hin : FlushRun.mk run phase ∈ device.runs)
    (hexec : receiveResponse device run response phase = .ok after) : Guarded raised after := by
  cases phase with
  | sent batch rest locals =>
    cases Except.ok.inj hexec
    have hheld := h.held _ hin
    refine (h.accept _).putRun run (fun operationId hremoved =>
      mem_append_right _ (removed_responseCommands hremoved)) fun record hrecord => ?_
    rcases mem_append.1 hrecord with hcommand | hlater
    · exact gives_responseCommands response
        (fun other hother => hheld other (mem_append_left _ hother)) record hcommand
    · exact hheld record (mem_append_right _ hlater)
  | _ => exact absurd hexec (by simp [Offline.receiveResponse, wrongPhase])

theorem Guarded.receiveFailure (h : Guarded raised device)
    (hin : FlushRun.mk run phase ∈ device.runs) {error : RequestError}
    (hexec : receiveFailure device run now error phase = .ok after) : Guarded raised after := by
  cases phase with
  | sent batch rest locals =>
    have hheld := h.held _ hin
    have hgiven : ∀ record ∈ failureRecords now error batch, device.Gives record := by
      intro record hrecord
      obtain ⟨other, hother, rfl⟩ := mem_map.1 hrecord
      have hgives : device.Gives other := hheld other (mem_append_left _ hother)
      split_ifs <;> exact hgives
    have hwritten := h.writeRecords hgiven
    by_cases hconnection : isConnectivityError error = true
    · simp only [Offline.receiveFailure, if_pos hconnection] at hexec
      cases Except.ok.inj hexec
      exact hwritten.keepRuns _
    · simp only [Offline.receiveFailure, if_neg hconnection] at hexec
      cases Except.ok.inj hexec
      exact hwritten.advance hin (forall_mem_nil _)
        fun _ hlocal => mem_append_right _ (mem_append_right _ hlocal)
  | _ => exact absurd hexec (by simp [Offline.receiveFailure, wrongPhase])

theorem Guarded.applyCommand (h : Guarded raised device)
    (hin : FlushRun.mk run phase ∈ device.runs)
    (hexec : applyCommand device run now phase = .ok after) : Guarded raised after := by
  cases phase with
  | applying commands rest locals =>
    cases commands with
    | nil =>
      cases Except.ok.inj hexec
      exact h.advance hin (forall_mem_nil _) (List.Subset.refl _)
    | cons command commands =>
      have hremovals := h.removals _ hin
      simp only [Phase.removals, flatMap_cons, mem_append] at hremovals
      have hheld := h.held _ hin
      simp only [Phase.records, flatMap_cons, append_assoc] at hheld
      cases Except.ok.inj hexec
      have hperformed := h.perform
        (fun operationId hremoved => hremovals operationId (Or.inl hremoved))
        (fun record hrecord => hheld record (mem_append_left _ hrecord)) now
      exact hperformed.putRun run
        (fun operationId hremoved => hremovals operationId (Or.inr hremoved))
        fun record hrecord => hheld record (mem_append_right _ hrecord)
  | _ => exact absurd hexec (by simp [Offline.applyCommand, wrongPhase])

theorem Guarded.leaveBatches (h : Guarded raised device)
    (hin : FlushRun.mk run phase ∈ device.runs)
    (hexec : leaveBatches device run phase = .ok after) : Guarded raised after := by
  have hleft : ∀ {locals}, locals ⊆ phase.records →
      Guarded raised (device.putRun run (.replaying locals)) := fun hlocals =>
    h.advance hin (forall_mem_nil _) hlocals
  cases phase with
  | ready rest locals =>
    cases Except.ok.inj hexec
    exact hleft fun _ hlocal => mem_append_right _ hlocal
  | sent batch rest locals =>
    cases Except.ok.inj hexec
    exact hleft fun _ hlocal => mem_append_right _ (mem_append_right _ hlocal)
  | applying commands rest locals =>
    cases Except.ok.inj hexec
    exact hleft fun _ hlocal => mem_append_right _ (mem_append_right _ hlocal)
  | _ => exact absurd hexec (by simp [Offline.leaveBatches, wrongPhase])

theorem Guarded.replayOperation (h : Guarded raised device)
    (hin : FlushRun.mk run phase ∈ device.runs) {outcome : ReplayOutcome}
    (hexec : replayOperation device run outcome phase = .ok after) : Guarded raised after := by
  cases phase with
  | replaying locals =>
    cases locals with
    | nil => exact absurd hexec (by simp [Offline.replayOperation, wrongPhase])
    | cons record locals =>
      have hlater : locals ⊆ (Phase.replaying (record :: locals)).records :=
        subset_cons_self _ _
      cases outcome with
      | done =>
        cases Except.ok.inj hexec
        exact (h.accept _).advance hin (fun _ hremoved => mem_append_right _ hremoved) hlater
      | deferred =>
        cases Except.ok.inj hexec
        exact h.advance hin (forall_mem_nil _) hlater
      | disconnected =>
        cases Except.ok.inj hexec
        exact h.advance hin (forall_mem_nil _) (List.Subset.refl _)
      | refused reason =>
        cases Except.ok.inj hexec
        have hheld := h.held _ hin
        refine h.putRun run (forall_mem_nil _) fun other hother => ?_
        rcases mem_cons.1 hother with rfl | hlocal
        · exact hheld record mem_cons_self
        · exact hheld other (hlater hlocal)
  | _ => exact absurd hexec (by simp [Offline.replayOperation, wrongPhase])

theorem Guarded.concludeReplay (h : Guarded raised device)
    (hin : FlushRun.mk run phase ∈ device.runs)
    (hexec : concludeReplay device run now phase = .ok after) : Guarded raised after := by
  cases phase with
  | concluding command ends locals =>
    have hperformed := h.perform (h.removals _ hin)
      (fun record hrecord => h.held _ hin record (mem_append_left _ hrecord)) now
    cases ends with
    | true =>
      cases Except.ok.inj hexec
      exact hperformed.keepRuns _
    | false =>
      cases Except.ok.inj hexec
      exact hperformed.advance hin (forall_mem_nil _)
        fun _ hlocal => mem_append_right _ hlocal
  | _ => exact absurd hexec (by simp [Offline.concludeReplay, wrongPhase])

end

theorem Guarded.exec (h : Guarded raised device) {step : Step} (hraises : raised → Raises device step)
    (hexec : step.exec device = .ok after) : Guarded raised after := by
  cases step with
  | enqueue tab request =>
    by_cases htaken : request.operationId ∈ device.operationIds
    · rw [Step.exec, if_pos htaken] at hexec
      simp at hexec
    · rw [Step.exec, if_neg htaken] at hexec
      cases hexec
      have hsame : Guarded raised
          { device with operationIds := device.operationIds ++ [request.operationId] } :=
        ⟨h.safe, h.removals, h.dismissals, h.inOrder, h.stored, h.held,
          h.counted⟩
      refine hsame.putTab rfl ?_ ?_ fun read hread => Or.inr hread
      · intro operationId hcalled
        rw [map_append, mem_append]
        rcases mem_append.1 hcalled with hold | hnew
        · exact (h.safe tab operationId hold).imp_left Or.inl
        · rw [mem_singleton.1 hnew]
          exact Or.inl (Or.inr (mem_singleton_self _))
      · rw [map_append, ← append_assoc]
        exact (h.inOrder tab).append (List.Sublist.refl _)
  | readSequence tab =>
    cases henqueues : (device.tabs tab).enqueues with
    | nil => simp [Step.exec, henqueues] at hexec
    | cons request rest =>
      cases hreading : (device.tabs tab).readSequence with
      | some sequence => simp [Step.exec, henqueues, hreading] at hexec
      | none =>
        simp only [Step.exec, henqueues, hreading] at hexec
        cases hexec
        exact h.putTab rfl (henqueues ▸ h.safe tab) (henqueues ▸ h.inOrder tab)
          fun read hread => Or.inl (Option.some.inj hread).symm
  | writeOperation tab =>
    cases henqueues : (device.tabs tab).enqueues with
    | nil => simp [Step.exec, henqueues] at hexec
    | cons request rest =>
      cases hreading : (device.tabs tab).readSequence with
      | none => simp [Step.exec, henqueues, hreading] at hexec
      | some sequence =>
        simp only [Step.exec, henqueues, hreading] at hexec
        cases hexec
        refine h.writeOperation henqueues hreading fun hraised => ?_
        have hbelow : (device.tabs tab).readSequence.all (device.sequence ≤ · + 1) = true :=
          hraises hraised
        simpa [hreading] using hbelow
  | enqueueFails tab =>
    cases henqueues : (device.tabs tab).enqueues with
    | nil => simp [Step.exec, henqueues] at hexec
    | cons request rest =>
      simp only [Step.exec, henqueues] at hexec
      cases hexec
      have hsafe := h.safe tab
      have hinOrder := h.inOrder tab
      rw [henqueues, map_cons] at hsafe hinOrder
      refine h.putTab rfl ?_ ?_ fun _ hno => absurd hno (by simp)
      · intro operationId hcalled
        rcases hsafe operationId hcalled with hwaiting | hunwritten | hkept
        · rcases mem_cons.1 hwaiting with rfl | hlater
          · exact Or.inr (Or.inl (mem_append_right _ (mem_singleton_self _)))
          · exact Or.inl hlater
        · exact Or.inr (Or.inl (mem_append_left _ hunwritten))
        · exact Or.inr (Or.inr hkept)
      · exact ((List.Sublist.refl _).append (sublist_cons_self _ _)).trans hinOrder
  | start run =>
    by_cases hstarted : (device.phase run).isSome = true
    · rw [Step.exec, if_pos hstarted] at hexec
      simp at hexec
    · rw [Step.exec, if_neg hstarted] at hexec
      cases hexec
      refine ⟨h.safe, ?_, h.dismissals, h.inOrder, h.stored, ?_, h.counted⟩
      · exact Table.forall_mem_append h.removals (fun _ hno => absurd hno not_mem_nil)
      · exact Table.forall_mem_append h.held (fun _ hno => absurd hno not_mem_nil)
  | read run now force =>
    obtain ⟨phase, _, hexec⟩ := bind_eq_ok.1 hexec
    exact h.readOperations hexec
  | send run =>
    obtain ⟨phase, hphase, hexec⟩ := bind_eq_ok.1 hexec
    exact h.sendBatch (inPhase_ok hphase) hexec
  | answered run response =>
    obtain ⟨phase, hphase, hexec⟩ := bind_eq_ok.1 hexec
    exact h.receiveResponse (inPhase_ok hphase) hexec
  | failed run now error =>
    obtain ⟨phase, hphase, hexec⟩ := bind_eq_ok.1 hexec
    exact h.receiveFailure (inPhase_ok hphase) hexec
  | apply run now =>
    obtain ⟨phase, hphase, hexec⟩ := bind_eq_ok.1 hexec
    exact h.applyCommand (inPhase_ok hphase) hexec
  | leave run =>
    obtain ⟨phase, hphase, hexec⟩ := bind_eq_ok.1 hexec
    exact h.leaveBatches (inPhase_ok hphase) hexec
  | replay run outcome =>
    obtain ⟨phase, hphase, hexec⟩ := bind_eq_ok.1 hexec
    exact h.replayOperation (inPhase_ok hphase) hexec
  | conclude run now =>
    obtain ⟨phase, hphase, hexec⟩ := bind_eq_ok.1 hexec
    exact h.concludeReplay (inPhase_ok hphase) hexec
  | stop run =>
    cases hexec
    exact h.keepRuns _
  | dismiss tab operationId =>
    cases hfound : Table.find Record.key device.records operationId with
    | none =>
      simp only [Step.exec, hfound] at hexec
      cases hexec
      exact h
    | some record =>
      simp only [Step.exec, hfound] at hexec
      by_cases hfailed : record.isFailed = true
      · rw [if_pos hfailed] at hexec
        cases hexec
        exact h.dismiss tab operationId
      · rw [if_neg hfailed] at hexec
        cases hexec
        exact h
  | removeDismissed tab operationId =>
    by_cases hdismissed : (tab, operationId) ∈ device.dismissals
    · rw [Step.exec, if_pos hdismissed] at hexec
      cases hexec
      exact h.removeDismissed hdismissed
    · rw [Step.exec, if_neg hdismissed] at hexec
      simp at hexec
  | close tab =>
    cases hexec
    have hended : Guarded raised { device with
        runs := device.runs.filter (·.id.tab ≠ tab)
        dismissals := device.dismissals.filter (·.1 ≠ tab) } :=
      ⟨h.safe, (h.keepRuns _).removals,
        fun entry hentry => h.dismissals entry (mem_filter.1 hentry).1, h.inOrder, h.stored,
        (h.keepRuns _).held, h.counted⟩
    refine hended.putTab rfl ?_ ?_ fun _ hno => absurd hno (by simp)
    · intro operationId hcalled
      rcases h.safe tab operationId hcalled with hwaiting | hunwritten | hkept
      · exact Or.inr (Or.inl (mem_append_right _ hwaiting))
      · exact Or.inr (Or.inl (mem_append_left _ hunwritten))
      · exact Or.inr (Or.inr hkept)
    · rw [map_nil, append_nil]
      exact (sublist_append_left _ _).trans (h.inOrder tab)

theorem Guarded.preserved (h : Guarded raised device) : Preserved device where
  safe := h.safe
  resumed _ hrecord hsyncing _ _ _ hnew hdue := taken_up_again hrecord hsyncing hnew hdue
  recorded := h.stored
  inOrder tab := (sublist_append_left _ _).trans (h.inOrder tab)

/-- Whatever the tabs do, no operation is lost, and it is stored with the number it was given. -/
theorem operations_preserved {now : Nat} (h : storage.Reaches Machine.Always device now) :
    Preserved device := by
  have hguarded : Guarded False device :=
    h.invariant (I := fun device _ => Guarded False device) guarded_emptyDevice
      fun _ _ _ _ hguarded _ _ hexec => hguarded.exec False.elim hexec
  exact hguarded.preserved

/-- Where no enqueue puts the counter back, the numbers of a tab follow its calls as well. -/
theorem offline_work_kept (device : Device) (now : Nat)
    (h : storage.Reaches Raises device now) : Durable device := by
  have hguarded : Guarded True device :=
    h.invariant (I := fun device _ => Guarded True device) guarded_emptyDevice
      fun _ _ _ _ hguarded _ hraises hexec => hguarded.exec (fun _ => hraises) hexec
  exact { toPreserved := hguarded.preserved, numbered := (hguarded.counted trivial).numbered }

/-- Two tabs read the same counter, and one closes while its flush sends. -/
def closedWhileSending : List Step :=
  [.enqueue 1 ⟨1, "sheet", false⟩, .enqueue 1 ⟨2, "sheet", false⟩, .enqueue 2 ⟨3, "sheet", false⟩,
    .readSequence 2, .readSequence 1, .writeOperation 1, .writeOperation 2, .readSequence 1,
    .writeOperation 1, .start ⟨1, 1⟩, .read ⟨1, 1⟩ 0 false, .send ⟨1, 1⟩,
    .answered ⟨1, 1⟩ ⟨[1], []⟩, .apply ⟨1, 1⟩ 0, .close 1]

theorem closedWhileSending_kept : Durable (storage.outcome closedWhileSending) :=
  offline_work_kept _ _
    (.of_accepts (by decide +kernel) (by decide +kernel) (by decide +kernel))

/-- A tab reads the counter, another enqueues twice, the first writes what it read, and the next
operation of the other gets the number of the one before. -/
def counterPutBack : List Step :=
  [.enqueue 2 ⟨3, "sheet", false⟩, .readSequence 2, .enqueue 1 ⟨1, "sheet", false⟩,
    .readSequence 1, .writeOperation 1, .enqueue 1 ⟨2, "sheet", false⟩, .readSequence 1,
    .writeOperation 1, .writeOperation 2, .enqueue 1 ⟨4, "sheet", false⟩, .readSequence 1,
    .writeOperation 1]

theorem tabs_repeat_numbers : ¬∀ (device : Device) (now : Nat),
    storage.Reaches Machine.Always device now → Durable device := by
  intro h
  have hgiven : ((storage.outcome counterPutBack).tabs 1).given = [(1, 1), (2, 2), (4, 2)] := by
    decide +kernel
  have hreached : storage.Reaches Machine.Always (storage.outcome counterPutBack)
      (storage.lastTime 0 counterPutBack) :=
    .of_accepts (by decide +kernel) (by decide +kernel) (Machine.admitted_always _ _)
  have hnumbered := (h _ _ hreached).numbered 1
  rw [hgiven] at hnumbered
  exact absurd hnumbered (by decide)

end LockIn.Offline
