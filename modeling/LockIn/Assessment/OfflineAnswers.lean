import LockIn.Assessment.AttemptSpec
import LockIn.Assessment.OfflineQueue

/-!
# No answer is lost, held up or overtaken

What holds of the answers that wait on the device, as long as flushes and changes do not get
in each other's way.  While a flush runs, what it has left and what was acknowledged are
together all that was queued, so that writing back what it has left loses nothing.
-/

namespace LockIn.Assessment

open List Outcome Table

def InOrder : Change → Change → Prop
  | .answer question _ revision, .answer question' _ revision' =>
    question = question' → revision ≤ revision'
  | _, _ => True

/-- As `InOrder`, and two answers to one question with one revision are one answer. -/
def Newer : Change → Change → Prop
  | .answer question selected revision, .answer question' selected' revision' =>
    question = question' → revision < revision' ∨ (revision = revision' ∧ selected = selected')
  | _, _ => True

def Consistent : Change → Change → Prop
  | .answer question selected revision, .answer question' selected' revision' =>
    question = question' → revision = revision' → selected = selected'
  | _, _ => True

def SameQuestion : Change → Change → Prop
  | .answer question _ _, .answer question' _ _ => question = question'
  | _, _ => True

instance (first second : Change) : Decidable (Newer first second) := by
  cases first <;> cases second <;> unfold Newer <;> infer_instance

instance (first second : Change) : Decidable (SameQuestion first second) := by
  cases first <;> cases second <;> unfold SameQuestion <;> infer_instance

def serverAnswer (books : Books) (attempt question : Nat) : Option AttemptAnswer :=
  (Table.find Attempt.id books.attempts attempt).bind fun row =>
    (Table.find AttemptQuestion.position row.questions question).bind (·.answer)

def UpToDate (books : Books) (attempt : Nat) : Change → Prop
  | .answer question selected revision => ∀ stored ∈ serverAnswer books attempt question,
      stored.clientRevision < revision ∨
        (stored.clientRevision = revision ∧ stored.selectedOptionIds = selected)
  | .resume _ _ => True

/-- What `save_answer` checks before it compares revisions. -/
def checkAnswer (books : Books) (attempt question : Nat) (selected : List Nat) (now : Nat) :
    Answered Unit := do
  let row ← books.findAttempt attempt
  checkOpen row now
  let found ← findQuestion row question
  checkSelection found selected

def Acceptable (books : Books) (attempt : Nat) (now : Nat) : Change → Prop
  | .answer question selected _ => checkAnswer books attempt question selected now = .ok ()
  | .resume _ _ => False

/-- Flushes do not overlap.  An answer is queued while none runs, it is a later one of its
question, and no answer that is still wanted has to make room.  What reaches the server while
answers to other questions wait behind it is nothing that the server refuses. -/
def Careful (attempt : Nat) (device : Device) (event : Event × Nat) : Prop :=
  match event.1 with
  | .queue change =>
    (change.isAnswer = true → device.flushes = [] ∧ UpToDate device.server attempt change ∧
        (∀ other ∈ device.reached, Newer other change) ∧
        ∀ other ∈ device.stored, change.replaces other = true → other = change) ∧
      ∀ item ∈ overflow (withChange device.stored change),
        item.isAnswer = true → item ∈ device.acknowledged
  | .start _ => device.flushes = []
  | .arrive id => ∀ waiting ∈ device.waiting id, waiting.2.1.isAnswer = true →
      (∀ other ∈ waiting.2.2, SameQuestion waiting.2.1 other) ∨
        Acceptable device.server attempt event.2 waiting.2.1
  | _ => True

instance (books : Books) (attempt : Nat) (change : Change) :
    Decidable (UpToDate books attempt change) := by
  cases change <;> unfold UpToDate <;> infer_instance

instance (books : Books) (attempt now : Nat) (change : Change) :
    Decidable (Acceptable books attempt now change) := by
  cases change <;> unfold Acceptable <;> infer_instance

instance (attempt : Nat) (device : Device) (event : Event × Nat) :
    Decidable (Careful attempt device event) := by
  obtain ⟨event, now⟩ := event
  cases event <;> unfold Careful <;> infer_instance

/-- No answer queued is lost, the revisions of a question reach the server in their order, and
no refusal leaves an answer to another question unsent. -/
structure Undisturbed (device : Device) : Prop where
  kept : ∀ change ∈ device.queued, change ∈ device.acknowledged ∨ change ∈ device.stored
  ordered : device.reached.Pairwise InOrder
  unblocked : ∀ refusal ∈ device.refusals, refusal.1.isAnswer = true →
    ∀ change ∈ refusal.2, SameQuestion refusal.1 change

theorem Newer.inOrder {first second : Change} (h : Newer first second) : InOrder first second := by
  cases first with
  | resume position revision => trivial
  | answer question selected revision =>
    cases second with
    | resume position' revision' => trivial
    | answer question' selected' revision' =>
      intro hquestion
      rcases h hquestion with hlt | ⟨heq, _⟩
      · exact hlt.le
      · exact heq.le

theorem newer_self (change : Change) : Newer change change := by
  cases change with
  | resume position revision => trivial
  | answer question selected revision => exact fun _ => Or.inr ⟨rfl, rfl⟩

theorem consistent_self (change : Change) : Consistent change change := by
  cases change with
  | resume position revision => trivial
  | answer question selected revision => exact fun _ _ => rfl

theorem newer_of_le {first second : Change} (hle : first.clientRevision ≤ second.clientRevision)
    (hconsistent : Consistent first second) : Newer first second := by
  cases first with
  | resume position revision => trivial
  | answer question selected revision =>
    cases second with
    | resume position' revision' => trivial
    | answer question' selected' revision' =>
      intro hquestion
      have hrevision : revision ≤ revision' := hle
      by_cases hlt : revision < revision'
      · exact Or.inl hlt
      · have heq : revision = revision' := by omega
        exact Or.inr ⟨heq, hconsistent hquestion heq⟩

theorem consistent_of_not_replaces {first second : Change} (h : first.replaces second = false) :
    Consistent first second ∧ Consistent second first := by
  cases first with
  | resume position revision =>
    refine ⟨trivial, ?_⟩
    cases second <;> trivial
  | answer question selected revision =>
    cases second with
    | resume position' revision' => exact ⟨trivial, trivial⟩
    | answer question' selected' revision' =>
      have hno : ¬ (question = question' ∧ revision = revision') := by
        simpa [Change.replaces] using h
      exact ⟨fun hquestion hrevision => absurd ⟨hquestion, hrevision⟩ hno,
        fun hquestion hrevision => absurd ⟨hquestion.symm, hrevision.symm⟩ hno⟩

variable {items current written rest : List Change} {item change : Change} {flush : Flush}

theorem mem_write (h : item ∈ items) : item ∈ overflow items ∨ item ∈ write items := by
  unfold overflow write
  rw [← take_append_drop (items.length - storedLimit) items] at h
  exact mem_append.1 h

theorem mem_of_mem_write (h : item ∈ write items) : item ∈ items := by
  unfold write at h
  exact mem_of_mem_drop h

theorem length_write (items : List Change) : (write items).length ≤ storedLimit := by
  unfold write
  rw [length_drop]
  omega

theorem write_of_short (h : items.length ≤ storedLimit) : write items = items := by
  have hnone : items.length - storedLimit = 0 := by omega
  unfold write
  rw [hnone, drop_zero]

theorem write_nil : write [] = [] := write_of_short (Nat.zero_le _)

theorem mem_withChange :
    item ∈ withChange current change ↔
      (item ∈ current ∧ change.replaces item = false) ∨ item = change := by
  simp [withChange]

theorem mem_pendingChanges {stored : List Change} : item ∈ pendingChanges stored ↔ item ∈ stored :=
  (perm_insertionSort _ stored).mem_iff

theorem length_pendingChanges (stored : List Change) :
    (pendingChanges stored).length = stored.length :=
  (perm_insertionSort _ stored).length_eq

def InRevisions (items : List Change) : Prop :=
  items.Pairwise fun first second => first.clientRevision ≤ second.clientRevision

theorem inRevisions_pendingChanges (stored : List Change) : InRevisions (pendingChanges stored) := by
  have : Std.Total fun (first second : Change) => first.clientRevision ≤ second.clientRevision :=
    ⟨fun first second => Nat.le_total _ _⟩
  have : IsTrans Change fun first second => first.clientRevision ≤ second.clientRevision :=
    ⟨fun first second third => Nat.le_trans⟩
  exact pairwise_insertionSort _ stored

section
variable {books next : Books} {attempt now : Nat}

variable {row : Attempt} {position question : Nat}

theorem findAttempt_eq_ok :
    books.findAttempt attempt = .ok row ↔ Table.find Attempt.id books.attempts attempt = some row := by
  unfold Books.findAttempt
  cases hfind : Table.find Attempt.id books.attempts attempt with
  | none => simp
  | some found => simp

theorem findQuestion_eq_ok {question : AttemptQuestion} :
    findQuestion row position = .ok question ↔
      Table.find AttemptQuestion.position row.questions position = some question := by
  unfold findQuestion
  cases hfind : Table.find AttemptQuestion.position row.questions position with
  | none => simp
  | some found => simp

theorem serverAnswer_of_find (h : Table.find Attempt.id books.attempts attempt = some row) :
    serverAnswer books attempt question =
      (Table.find AttemptQuestion.position row.questions question).bind (·.answer) := by
  unfold serverAnswer
  rw [h]
  rfl

theorem serverAnswer_putAttempt (h : Table.find Attempt.id books.attempts attempt = some row)
    (after : Attempt) (hid : after.id = row.id) :
    serverAnswer (books.putAttempt after) attempt question =
      (Table.find AttemptQuestion.position after.questions question).bind (·.answer) := by
  have hrow : row.id = attempt := find_key h
  have hfind : Table.find Attempt.id books.attempts after.id = some row := by
    rw [hid, hrow]
    exact h
  have hafter : Table.find Attempt.id (books.putAttempt after).attempts attempt = some after := by
    have hself := find_put_self hfind
    rw [hid, hrow] at hself
    exact hself
  exact serverAnswer_of_find hafter

theorem serverAnswer_saveAnswer {request : AnswerRequest}
    (h : saveAnswer books request now = .ok next) {stored : AttemptAnswer}
    (hstored : stored ∈ serverAnswer next request.attempt question) :
    stored ∈ serverAnswer books request.attempt question ∨
      (question = request.question ∧ stored.clientRevision = request.clientRevision ∧
        stored.selectedOptionIds = request.selected) := by
  obtain ⟨row, hrow, h⟩ := bind_eq_ok.1 h
  obtain ⟨_, _, h⟩ := bind_eq_ok.1 h
  obtain ⟨found, hfound, h⟩ := bind_eq_ok.1 h
  obtain ⟨_, _, h⟩ := bind_eq_ok.1 h
  have hfindRow := findAttempt_eq_ok.1 hrow
  have hfindQuestion := findQuestion_eq_ok.1 hfound
  have hposition : found.position = request.question := find_key hfindQuestion
  cases hcase : saveCase found.answer request.selected request.clientRevision with
  | same =>
    rw [hcase] at h
    cases h
    exact Or.inl hstored
  | stale =>
    rw [hcase] at h
    simp at h
  | write =>
    rw [hcase] at h
    cases h
    rw [serverAnswer_putAttempt hfindRow (answeredAttempt row found request) rfl] at hstored
    by_cases hquestion : question = request.question
    · right
      have hwritten : Table.find AttemptQuestion.position
          (answeredAttempt row found request).questions question = some { found with
            answer := some ⟨request.selected, request.clientRevision, row.serverRevision + 1⟩ } := by
        rw [hquestion, ← hposition]
        rw [← hposition] at hfindQuestion
        exact find_put_self hfindQuestion
      rw [hwritten] at hstored
      cases hstored
      exact ⟨hquestion, rfl, rfl⟩
    · left
      have hother : question ≠ found.position := hposition ▸ hquestion
      have hkept : Table.find AttemptQuestion.position (answeredAttempt row found request).questions
          question = Table.find AttemptQuestion.position row.questions question :=
        find_put_of_ne hother
      rw [hkept] at hstored
      rw [serverAnswer_of_find hfindRow]
      exact hstored

theorem serverAnswer_saveAttemptResume {clientRevision : Nat}
    (h : saveAttemptResume books attempt position clientRevision now = .ok next) :
    serverAnswer next attempt question = serverAnswer books attempt question := by
  obtain ⟨row, hrow, h⟩ := bind_eq_ok.1 h
  obtain ⟨_, _, h⟩ := bind_eq_ok.1 h
  have hfindRow := findAttempt_eq_ok.1 hrow
  by_cases hrange : ¬ (1 ≤ position ∧ position ≤ row.questions.length)
  · rw [if_pos hrange] at h
    simp at h
  rw [if_neg hrange] at h
  by_cases hnewer : row.resumeClientRevision < clientRevision
  · rw [if_pos hnewer] at h
    cases h
    rw [serverAnswer_putAttempt hfindRow (resumedAttempt row position clientRevision) rfl,
      serverAnswer_of_find hfindRow]
    rfl
  rw [if_neg hnewer] at h
  obtain ⟨hsame, h⟩ := when_ok.1 h
  cases h
  rfl

theorem UpToDate.sent {other : Change} (h : UpToDate books attempt other)
    (hnewer : Newer change other) (hsent : sendChange books attempt change now = .ok next) :
    UpToDate next attempt other := by
  cases other with
  | resume position revision => trivial
  | answer question selected revision =>
    intro stored hstored
    cases change with
    | resume position' revision' =>
      apply h
      rw [serverAnswer_saveAttemptResume hsent] at hstored
      exact hstored
    | answer question' selected' revision' =>
      rcases serverAnswer_saveAnswer hsent hstored with hold | ⟨hquestion, hrevision, hselected⟩
      · exact h stored hold
      · rw [hrevision, hselected]
        exact hnewer hquestion.symm

theorem sendChange_accepted (hcheck : Acceptable books attempt now change)
    (hnew : UpToDate books attempt change) :
    ∃ next, sendChange books attempt change now = .ok next := by
  cases change with
  | resume position revision => exact absurd hcheck not_false
  | answer question selected revision =>
    obtain ⟨row, hrow, hcheck⟩ := bind_eq_ok.1 hcheck
    obtain ⟨_, hopen, hcheck⟩ := bind_eq_ok.1 hcheck
    obtain ⟨found, hfound, hselection⟩ := bind_eq_ok.1 hcheck
    have hstored : ∀ stored, found.answer = some stored → stored.clientRevision < revision ∨
        (stored.clientRevision = revision ∧ stored.selectedOptionIds = selected) := by
      intro stored hanswer
      apply hnew stored
      rw [serverAnswer_of_find (findAttempt_eq_ok.1 hrow), findQuestion_eq_ok.1 hfound]
      exact hanswer
    show ∃ next, saveAnswer books ⟨attempt, question, selected, revision⟩ now = .ok next
    unfold saveAnswer
    simp only [hrow, hopen, hfound, hselection, ok_bind]
    cases hanswer : found.answer with
    | none => exact ⟨_, rfl⟩
    | some stored =>
      rcases hstored stored hanswer with hlt | ⟨heq, hselected⟩
      · simp only [saveCase, if_pos hlt]
        exact ⟨_, rfl⟩
      · have hnot : ¬ stored.clientRevision < revision := by omega
        simp only [saveCase, if_neg hnot, if_pos (And.intro heq.symm hselected)]
        exact ⟨_, rfl⟩

end

structure Fresh (device : Device) (attempt : Nat) (items : List Change) : Prop where
  newer : ∀ change ∈ items, ∀ other ∈ device.reached, Newer other change
  upToDate : ∀ change ∈ items, UpToDate device.server attempt change

def AllConsistent (items : List Change) : Prop :=
  ∀ first ∈ items, ∀ second ∈ items, Consistent first second

/-- A flush that runs, while no answer is queued. -/
structure Running (device : Device) (attempt : Nat) (flush : Flush) : Prop where
  inRevisions : InRevisions flush.rest
  short : flush.rest.length ≤ storedLimit
  consistent : AllConsistent flush.rest
  fresh : Fresh device attempt flush.rest
  kept : ∀ change ∈ device.queued, change ∈ device.acknowledged ∨ change ∈ flush.rest
  refused : flush.reply = some false → ∀ change rest, flush.rest = change :: rest →
    change.isAnswer = true → ∀ other ∈ rest, SameQuestion change other

structure Held (attempt : Nat) (device : Device) : Prop where
  undisturbed : Undisturbed device
  answers : ∀ change ∈ device.queued, change.isAnswer = true
  short : device.stored.length ≤ storedLimit
  consistent : AllConsistent device.stored
  idle : device.flushes = [] → Fresh device attempt device.stored
  running : ∀ flush ∈ device.flushes, device.flushes = [flush] ∧ Running device attempt flush

theorem held_emptyDevice (server : Books) (attempt : Nat) : Held attempt (emptyDevice server) := by
  refine ⟨⟨?_, List.Pairwise.nil, ?_⟩, ?_, Nat.zero_le _, ?_, fun _ => ⟨?_, ?_⟩, ?_⟩
  all_goals intro item hitem; exact absurd hitem not_mem_nil

variable {device : Device} {attempt : Nat}

theorem allConsistent_nil : AllConsistent [] := forall_mem_nil _

theorem fresh_nil : Fresh device attempt [] :=
  ⟨forall_mem_nil _, forall_mem_nil _⟩

theorem allConsistent_withChange (h : AllConsistent current) (change : Change) :
    AllConsistent (withChange current change) := by
  intro first hfirst second hsecond
  rcases mem_withChange.1 hfirst with ⟨hfirst, hfirstKept⟩ | rfl
  · rcases mem_withChange.1 hsecond with ⟨hsecond, _⟩ | rfl
    · exact h first hfirst second hsecond
    · exact (consistent_of_not_replaces hfirstKept).2
  · rcases mem_withChange.1 hsecond with ⟨_, hsecondKept⟩ | rfl
    · exact (consistent_of_not_replaces hsecondKept).1
    · exact consistent_self _

structure Written (acknowledged items written : List Change) : Prop where
  short : written.length ≤ storedLimit
  sub : ∀ item ∈ written, item ∈ items
  kept : ∀ item ∈ items, item.isAnswer = true → item ∈ acknowledged ∨ item ∈ written

theorem written_write {acknowledged : List Change}
    (hroom : ∀ item ∈ overflow items, item.isAnswer = true → item ∈ acknowledged) :
    Written acknowledged items (write items) := by
  refine ⟨length_write items, fun item hitem => mem_of_mem_write hitem, ?_⟩
  intro item hitem hanswer
  rcases mem_write hitem with hover | hwritten
  · exact Or.inl (hroom item hover hanswer)
  · exact Or.inr hwritten

theorem Held.queueAnswer (h : Held attempt device) (hanswer : change.isAnswer = true)
    (hquiet : device.flushes = []) (hupToDate : UpToDate device.server attempt change)
    (hnewer : ∀ other ∈ device.reached, Newer other change)
    (hreplaced : ∀ other ∈ device.stored, change.replaces other = true → other = change)
    (hwritten : Written device.acknowledged (withChange device.stored change) written) :
    Held attempt { device with
      stored := written
      queued := device.queued ++ [change] } := by
  have hfresh := h.idle hquiet
  refine ⟨⟨?_, h.undisturbed.ordered, h.undisturbed.unblocked⟩, ?_, hwritten.short, ?_, ?_, ?_⟩
  · intro other hother
    rcases mem_append.1 hother with hold | hnew
    · rcases h.undisturbed.kept other hold with hacknowledged | hstored
      · exact Or.inl hacknowledged
      · by_cases hreplaces : change.replaces other = true
        · rw [hreplaced other hstored hreplaces]
          exact hwritten.kept _ (mem_withChange.2 (Or.inr rfl)) hanswer
        · have hin := mem_withChange.2 (Or.inl ⟨hstored, Bool.not_eq_true _ ▸ hreplaces⟩)
          exact hwritten.kept _ hin (h.answers other hold)
    · rw [mem_singleton.1 hnew]
      exact hwritten.kept _ (mem_withChange.2 (Or.inr rfl)) hanswer
  · exact Table.forall_mem_append h.answers hanswer
  · intro first hfirst second hsecond
    exact allConsistent_withChange h.consistent change first (hwritten.sub first hfirst) second
      (hwritten.sub second hsecond)
  · intro _
    constructor
    · intro item hitem
      rcases mem_withChange.1 (hwritten.sub item hitem) with ⟨hstored, _⟩ | rfl
      · exact hfresh.newer item hstored
      · exact hnewer
    · intro item hitem
      rcases mem_withChange.1 (hwritten.sub item hitem) with ⟨hstored, _⟩ | rfl
      · exact hfresh.upToDate item hstored
      · exact hupToDate
  · intro flush hflush
    rw [show (_ : List Flush) = [] from hquiet] at hflush
    exact absurd hflush not_mem_nil

theorem Held.queueResume (h : Held attempt device) (position revision : Nat)
    (hwritten : Written device.acknowledged
      (withChange device.stored (.resume position revision)) written) :
    Held attempt { device with stored := written } := by
  refine ⟨⟨?_, h.undisturbed.ordered, h.undisturbed.unblocked⟩, h.answers, hwritten.short, ?_, ?_, ?_⟩
  · intro other hother
    rcases h.undisturbed.kept other hother with hacknowledged | hstored
    · exact Or.inl hacknowledged
    · have hanswer := h.answers other hother
      have hkept : (Change.resume position revision).replaces other = false := by
        cases other with
        | answer question selected revision => rfl
        | resume position' revision' => exact absurd hanswer Bool.false_ne_true
      exact hwritten.kept _ (mem_withChange.2 (Or.inl ⟨hstored, hkept⟩)) hanswer
  · intro first hfirst second hsecond
    exact allConsistent_withChange h.consistent _ first (hwritten.sub first hfirst) second
      (hwritten.sub second hsecond)
  · intro hquiet
    have hfresh := h.idle hquiet
    constructor
    · intro item hitem
      rcases mem_withChange.1 (hwritten.sub item hitem) with ⟨hstored, _⟩ | rfl
      · exact hfresh.newer item hstored
      · intro other _
        cases other <;> trivial
    · intro item hitem
      rcases mem_withChange.1 (hwritten.sub item hitem) with ⟨hstored, _⟩ | rfl
      · exact hfresh.upToDate item hstored
      · trivial
  · intro flush hflush
    obtain ⟨hone, hrunning⟩ := h.running flush hflush
    exact ⟨hone, hrunning.inRevisions, hrunning.short, hrunning.consistent,
      ⟨hrunning.fresh.newer, hrunning.fresh.upToDate⟩, hrunning.kept, hrunning.refused⟩

theorem Held.start (h : Held attempt device) (hquiet : device.flushes = []) (id : Nat) :
    Held attempt (startFlush device id) := by
  have hfresh := h.idle hquiet
  unfold startFlush
  cases hpending : pendingChanges device.stored with
  | nil =>
    have hempty : device.stored = [] := by
      apply eq_nil_of_length_eq_zero
      rw [← length_pendingChanges, hpending]
      rfl
    show Held attempt { device with stored := write [] }
    rw [write_nil]
    refine ⟨⟨?_, h.undisturbed.ordered, h.undisturbed.unblocked⟩, h.answers, Nat.zero_le _,
      allConsistent_nil, fun _ => fresh_nil, ?_⟩
    · intro change hchange
      have hkept := h.undisturbed.kept change hchange
      rw [hempty] at hkept
      exact hkept
    · intro flush hflush
      rw [show (_ : List Flush) = [] from hquiet] at hflush
      exact absurd hflush not_mem_nil
  | cons first rest =>
    have hmem : ∀ change, change ∈ first :: rest ↔ change ∈ device.stored := by
      intro change
      rw [← hpending]
      exact mem_pendingChanges
    have hrunning : Running device attempt ⟨id, first :: rest, none⟩ := by
      refine ⟨?_, ?_, ?_, ⟨?_, ?_⟩, ?_, ?_⟩
      · show InRevisions (first :: rest)
        rw [← hpending]
        exact inRevisions_pendingChanges device.stored
      · show (first :: rest).length ≤ storedLimit
        rw [← hpending, length_pendingChanges]
        exact h.short
      · intro change hchange other hother
        exact h.consistent change ((hmem change).1 hchange) other ((hmem other).1 hother)
      · intro change hchange
        exact hfresh.newer change ((hmem change).1 hchange)
      · intro change hchange
        exact hfresh.upToDate change ((hmem change).1 hchange)
      · intro change hchange
        rcases h.undisturbed.kept change hchange with hacknowledged | hstored
        · exact Or.inl hacknowledged
        · exact Or.inr ((hmem change).2 hstored)
      · intro hrefused
        simp at hrefused
    have hflushes : device.flushes ++ [⟨id, first :: rest, none⟩] = [⟨id, first :: rest, none⟩] := by
      rw [hquiet]
      rfl
    refine ⟨⟨h.undisturbed.kept, h.undisturbed.ordered, h.undisturbed.unblocked⟩, h.answers, h.short,
      h.consistent, ?_, ?_⟩
    · intro hnone
      simp at hnone
    · intro flush hflush
      have heq : flush = ⟨id, first :: rest, none⟩ := by
        simpa [hquiet] using hflush
      subst heq
      exact ⟨hflushes, hrunning.inRevisions, hrunning.short, hrunning.consistent,
        ⟨hrunning.fresh.newer, hrunning.fresh.upToDate⟩, hrunning.kept, hrunning.refused⟩

theorem Held.waiting (h : Held attempt device) {id : Nat}
    (hwaiting : device.waiting id = some (flush, change, rest)) :
    flush.id = id ∧ flush.rest = change :: rest ∧ device.flushes = [flush] ∧
      Running device attempt flush := by
  unfold Device.waiting at hwaiting
  cases hfind : Table.find Flush.id device.flushes id with
  | none =>
    rw [hfind] at hwaiting
    simp at hwaiting
  | some found =>
    rw [hfind] at hwaiting
    cases hrest : found.rest with
    | nil =>
      simp only [hrest] at hwaiting
      simp at hwaiting
    | cons first others =>
      simp only [hrest] at hwaiting
      cases hwaiting
      exact ⟨find_key hfind, hrest, h.running flush (find_mem hfind)⟩

theorem flushes_put {after : Flush} (hone : device.flushes = [flush]) (hid : flush.id = after.id) :
    (device.put after).flushes = [after] := by
  show Table.put Flush.id device.flushes after = [after]
  rw [hone]
  simp [Table.put, hid]

theorem flushes_ended (hone : device.flushes = [flush]) (retained : List Change) :
    (device.ended flush.id retained).flushes = [] := by
  show device.flushes.filter (·.id ≠ flush.id) = []
  rw [hone]
  simp

theorem Running.newer (h : Running device attempt flush) (hrest : flush.rest = change :: rest) :
    ∀ other ∈ flush.rest, Newer change other := by
  have hrevisions := h.inRevisions
  rw [hrest] at hrevisions
  intro other hother
  have hin := hother
  rw [hrest] at hother
  rcases mem_cons.1 hother with rfl | htail
  · exact newer_self other
  · have hle := (pairwise_cons.1 hrevisions).1 other htail
    exact newer_of_le hle (h.consistent change (hrest ▸ mem_cons_self) other hin)

theorem Held.arrive (h : Held attempt device) {now : Nat} (hrest : flush.rest = change :: rest)
    (hone : device.flushes = [flush]) (hrunning : Running device attempt flush)
    (hcareful : change.isAnswer = true → (∀ other ∈ rest, SameQuestion change other) ∨
      Acceptable device.server attempt now change) :
    Held attempt (Assessment.arrive device attempt flush change now) := by
  have hhead : change ∈ flush.rest := hrest ▸ mem_cons_self
  have hnewer := hrunning.newer hrest
  have hordered : (device.reached ++ [change]).Pairwise InOrder := by
    rw [pairwise_append]
    refine ⟨h.undisturbed.ordered, pairwise_singleton _ _, ?_⟩
    intro other hother last hlast
    rw [mem_singleton.1 hlast]
    exact (hrunning.fresh.newer change hhead other hother).inOrder
  have hreached : ∀ other ∈ flush.rest, ∀ earlier ∈ device.reached ++ [change],
      Newer earlier other := by
    intro other hother earlier hearlier
    rcases mem_append.1 hearlier with hold | hnew
    · exact hrunning.fresh.newer other hother earlier hold
    · rw [mem_singleton.1 hnew]
      exact hnewer other hother
  unfold Assessment.arrive
  cases hsend : sendChange device.server attempt change now with
  | ok next =>
    have hflushes := flushes_put hone (show flush.id = { flush with reply := some true }.id from rfl)
    refine ⟨⟨h.undisturbed.kept, hordered, h.undisturbed.unblocked⟩, h.answers, h.short, h.consistent,
      ?_, ?_⟩
    · intro hnone
      exact absurd (hflushes.symm.trans hnone) (by simp)
    · intro other hother
      obtain rfl := mem_singleton.1 (hflushes ▸ hother)
      refine ⟨hflushes, hrunning.inRevisions, hrunning.short, hrunning.consistent, ⟨hreached, ?_⟩,
        hrunning.kept, fun hno => absurd hno (by simp)⟩
      intro other hother
      exact (hrunning.fresh.upToDate other hother).sent (hnewer other hother) hsend
  | error error =>
    have hflushes := flushes_put hone (show flush.id = { flush with reply := some false }.id from rfl)
    refine ⟨⟨h.undisturbed.kept, hordered, h.undisturbed.unblocked⟩, h.answers, h.short, h.consistent,
      ?_, ?_⟩
    · intro hnone
      exact absurd (hflushes.symm.trans hnone) (by simp)
    · intro other hother
      obtain rfl := mem_singleton.1 (hflushes ▸ hother)
      refine ⟨hflushes, hrunning.inRevisions, hrunning.short, hrunning.consistent,
        ⟨hreached, hrunning.fresh.upToDate⟩, hrunning.kept, ?_⟩
      intro _ first others hfirst hanswer
      obtain ⟨rfl, rfl⟩ := List.cons.inj (hrest.symm.trans hfirst)
      rcases hcareful hanswer with hsame | hacceptable
      · exact hsame
      · obtain ⟨next, hok⟩ := sendChange_accepted hacceptable (hrunning.fresh.upToDate _ hhead)
        rw [hsend] at hok
        simp at hok

theorem Held.resolve (h : Held attempt device) (hrest : flush.rest = change :: rest)
    (hone : device.flushes = [flush]) (hrunning : Running device attempt flush) :
    Held attempt (Assessment.resolve device flush change rest) := by
  have hkept : ∀ other ∈ device.queued, other ∈ device.acknowledged ++ [change] ∨ other ∈ rest := by
    intro other hother
    rcases hrunning.kept other hother with hacknowledged | hleft
    · exact Or.inl (mem_append_left _ hacknowledged)
    · rw [hrest] at hleft
      rcases mem_cons.1 hleft with rfl | htail
      · exact Or.inl (mem_append_right _ (mem_singleton_self _))
      · exact Or.inr htail
  have htail : ∀ other ∈ rest, other ∈ flush.rest := fun other hother =>
    hrest ▸ mem_cons_of_mem change hother
  cases rest with
  | nil =>
    have hflushes := flushes_ended hone []
    have hresolved : Assessment.resolve device flush change [] = { device with
        acknowledged := device.acknowledged ++ [change]
        stored := []
        flushes := (device.ended flush.id []).flushes } := by
      simp only [Assessment.resolve, Device.ended, write_nil]
    rw [hresolved]
    refine ⟨⟨hkept, h.undisturbed.ordered, h.undisturbed.unblocked⟩, h.answers, Nat.zero_le _,
      allConsistent_nil, fun _ => fresh_nil, ?_⟩
    intro other hother
    rw [hflushes] at hother
    exact absurd hother not_mem_nil
  | cons next others =>
    have hflushes : (Assessment.resolve device flush change (next :: others)).flushes =
        [⟨flush.id, next :: others, none⟩] := flushes_put hone rfl
    have hshort := hrunning.short
    have hrevisions := hrunning.inRevisions
    rw [hrest] at hshort hrevisions
    refine ⟨⟨?_, h.undisturbed.ordered, h.undisturbed.unblocked⟩, h.answers, h.short, h.consistent,
      ?_, ?_⟩
    · intro other hother
      rcases h.undisturbed.kept other hother with hacknowledged | hstored
      · exact Or.inl (mem_append_left _ hacknowledged)
      · exact Or.inr hstored
    · intro hnone
      exact absurd (hflushes.symm.trans hnone) (by simp)
    · intro other hother
      obtain rfl := mem_singleton.1 (hflushes ▸ hother)
      refine ⟨hflushes, (pairwise_cons.1 hrevisions).2, ?_, ?_, ⟨?_, ?_⟩, hkept,
        fun hno => absurd hno (by simp)⟩
      · show (next :: others).length ≤ storedLimit
        rw [length_cons] at hshort
        omega
      · intro first hfirst second hsecond
        exact hrunning.consistent first (htail first hfirst) second (htail second hsecond)
      · intro other hother
        exact hrunning.fresh.newer other (htail other hother)
      · intro other hother
        exact hrunning.fresh.upToDate other (htail other hother)

theorem Held.ended (h : Held attempt device) (hone : device.flushes = [flush])
    (hrunning : Running device attempt flush) :
    Held attempt (device.ended flush.id flush.rest) := by
  have hflushes := flushes_ended hone flush.rest
  have hstored : (device.ended flush.id flush.rest).stored = flush.rest :=
    write_of_short hrunning.short
  refine ⟨⟨?_, h.undisturbed.ordered, h.undisturbed.unblocked⟩, h.answers, ?_, ?_, ?_, ?_⟩
  · intro other hother
    rw [hstored]
    exact hrunning.kept other hother
  · rw [hstored]
    exact hrunning.short
  · rw [hstored]
    exact hrunning.consistent
  · intro _
    rw [hstored]
    exact ⟨hrunning.fresh.newer, hrunning.fresh.upToDate⟩
  · intro other hother
    rw [hflushes] at hother
    exact absurd hother not_mem_nil

theorem Held.refuse (h : Held attempt device)
    (hsame : change.isAnswer = true → ∀ other ∈ rest, SameQuestion change other) :
    Held attempt { device with refusals := device.refusals ++ [(change, rest)] } := by
  refine ⟨⟨h.undisturbed.kept, h.undisturbed.ordered, ?_⟩, h.answers, h.short, h.consistent, ?_, ?_⟩
  · exact Table.forall_mem_append h.undisturbed.unblocked hsame
  · intro hquiet
    exact ⟨(h.idle hquiet).newer, (h.idle hquiet).upToDate⟩
  · intro flush hflush
    obtain ⟨hone, hrunning⟩ := h.running flush hflush
    exact ⟨hone, hrunning.inRevisions, hrunning.short, hrunning.consistent,
      ⟨hrunning.fresh.newer, hrunning.fresh.upToDate⟩, hrunning.kept, hrunning.refused⟩

theorem Held.exec (h : Held attempt device) {event : Event} {now : Nat} {after : Device}
    (hcareful : Careful attempt device (event, now))
    (hexec : event.exec attempt device now = .ok after) : Held attempt after := by
  cases event with
  | queue change =>
    obtain ⟨hanswer, hroom⟩ := hcareful
    have hwritten := written_write hroom
    cases Except.ok.inj hexec
    cases change with
    | answer question selected revision =>
      obtain ⟨hquiet, hupToDate, hnewer, hreplaced⟩ := hanswer rfl
      exact h.queueAnswer rfl hquiet hupToDate hnewer hreplaced hwritten
    | resume position revision => exact h.queueResume position revision hwritten
  | start id =>
    have hquiet : device.flushes = [] := hcareful
    simp only [Event.exec, hquiet, Table.find, find?_nil, Option.isSome_none,
      Bool.false_eq_true, if_false] at hexec
    cases hexec
    exact h.start hquiet id
  | arrive id =>
    cases hwaiting : device.waiting id with
    | none => simp [Event.exec, hwaiting] at hexec
    | some waiting =>
      obtain ⟨flush, change, rest⟩ := waiting
      obtain ⟨_, hrest, hone, hrunning⟩ := h.waiting hwaiting
      simp only [Event.exec, hwaiting] at hexec
      cases hexec
      exact h.arrive hrest hone hrunning (hcareful _ hwaiting)
  | resolve id =>
    cases hwaiting : device.waiting id with
    | none => simp [Event.exec, hwaiting] at hexec
    | some waiting =>
      obtain ⟨flush, change, rest⟩ := waiting
      obtain ⟨_, hrest, hone, hrunning⟩ := h.waiting hwaiting
      simp only [Event.exec, hwaiting] at hexec
      obtain ⟨haccepted, hexec⟩ := when_ok.1 hexec
      cases hexec
      exact h.resolve hrest hone hrunning
  | reject id =>
    cases hwaiting : device.waiting id with
    | none => simp [Event.exec, hwaiting] at hexec
    | some waiting =>
      obtain ⟨flush, change, rest⟩ := waiting
      obtain ⟨rfl, hrest, hone, hrunning⟩ := h.waiting hwaiting
      simp only [Event.exec, hwaiting] at hexec
      obtain ⟨hrefused, hexec⟩ := when_ok.1 hexec
      rw [← hrest] at hexec
      cases hexec
      exact (h.ended hone hrunning).refuse (hrunning.refused hrefused change rest hrest)
  | fail id =>
    cases hwaiting : device.waiting id with
    | none => simp [Event.exec, hwaiting] at hexec
    | some waiting =>
      obtain ⟨flush, change, rest⟩ := waiting
      obtain ⟨rfl, hrest, hone, hrunning⟩ := h.waiting hwaiting
      simp only [Event.exec, hwaiting, ← hrest] at hexec
      cases hexec
      exact h.ended hone hrunning

/-- In every run whose flushes do not overlap and whose changes are queued between them, in
order and with room, no answer is lost, overtaken or held up by another question's. -/
theorem offline_answers_kept (server : Books) (attempt : Nat) (device : Device) (now : Nat)
    (h : (offlineAnswers server attempt).Reaches (Careful attempt) device now) :
    Undisturbed device :=
  (h.invariant (I := fun device _ => Held attempt device) (held_emptyDevice server attempt)
    fun _ _ _ _ hheld _ hcareful hexec => hheld.exec hcareful hexec).undisturbed

def openAttempt : Books :=
  { attempts := [
      { id := 1
        quiz := 1
        version :=
          { mode := .quiz
            selectionMode := .fixed
            questionLinks := []
            questionCount := 2
            durationSeconds := none
            maximumAttempts := 1
            availableFrom := none
            availableUntil := none
            randomizeQuestions := false
            randomizeOptions := false
            passPercent := 5000
            rankingEligible := false
            achievementEligible := false
            allowedDifficulties := [] }
        status := .active
        startKey := 1
        reviewOnly := false
        serverRevision := 1
        resumePosition := 1
        resumeClientRevision := 0
        startedAt := 0
        deadlineAt := none
        completedAt := none
        questions := [⟨1, false, [1, 2], [1], 100, none⟩, ⟨2, false, [3, 4], [4], 100, none⟩] }]
    results := []
    receipts := []
    nextAttempt := 2
    nextResult := 1 }

/-- Both questions are answered, the first twice, and the first flush loses a response. -/
def answeredOffline : List (Event × Nat) :=
  [(.queue (.answer 1 [2] 1), 1), (.queue (.answer 2 [4] 1), 2), (.queue (.answer 1 [1] 2), 3),
    (.start 1, 4), (.arrive 1, 5), (.resolve 1, 6), (.arrive 1, 7), (.fail 1, 8),
    (.start 2, 9), (.arrive 2, 10), (.resolve 2, 11), (.arrive 2, 12), (.resolve 2, 13)]

theorem answeredOffline_kept : Undisturbed ((offlineAnswers openAttempt 1).outcome answeredOffline) :=
  offline_answers_kept openAttempt 1 _ _
    (.of_accepts (by decide +kernel) (by decide +kernel) (by decide +kernel))

/-- The second answer comes while the first is on its way. -/
def answeredMeanwhile : List (Event × Nat) :=
  [(.queue (.answer 1 [2] 1), 1), (.start 1, 2), (.queue (.answer 2 [4] 1), 3), (.arrive 1, 4),
    (.resolve 1, 5)]

theorem answer_queued_meanwhile_lost :
    ¬ ∀ (server : Books) (attempt : Nat) (device : Device) (now : Nat),
      (offlineAnswers server attempt).Reaches Machine.Always device now → Undisturbed device := by
  intro h
  have hkept := (h openAttempt 1 _ _ (@Machine.Reaches.of_accepts _ _ _ (offlineAnswers openAttempt 1)
    Machine.Always answeredMeanwhile (by decide +kernel) (by decide +kernel)
    (Machine.admitted_always _ _))).kept
  have hlost : .answer 2 [4] 1 ∈ ((offlineAnswers openAttempt 1).outcome answeredMeanwhile).queued ∧
      .answer 2 [4] 1 ∉ ((offlineAnswers openAttempt 1).outcome answeredMeanwhile).acknowledged ∧
      .answer 2 [4] 1 ∉ ((offlineAnswers openAttempt 1).outcome answeredMeanwhile).stored := by
    decide +kernel
  rcases hkept _ hlost.1 with hacknowledged | hstored
  · exact hlost.2.1 hacknowledged
  · exact hlost.2.2 hstored

end LockIn.Assessment
