import LockIn.Offline.Queue

/-!
# The order of delivery

The queue promises that a device gives up on no operation because of its own order of
delivery: an out of order answer fails an operation only when nothing ahead of it under its
key still waits.  The flush looks at one batch only.  So the promise holds as long as no
batch goes out while something ahead of it is held back, by its retry time or in an earlier
batch, and an out of order answer says what became of everything ahead.
-/

namespace LockIn.Offline

open List OfflineOperation Outcome Table

namespace System

def NeverGaveUp (s : System) : Prop :=
  ∀ operation ∈ s.queue.operations, operation.syncStatus = .failedPermanent →
    operation.code = some .outOfOrder →
      ∀ other ∈ s.queue.operations, other.Ahead operation → other.isOpen = false

end System

def heldBack (key : String) (answered : List (OfflineOperation × Answer)) : Bool :=
  answered.any fun pair => pair.1.orderingKey == key && pair.2.retryable

/-- An out of order answer, with no temporary refusal ahead of it under its key, comes with an
answer for everything ahead of it under its key. -/
def Telling (answered : List (OfflineOperation × Answer)) : Prop :=
  ∀ front operation refusal back, answered = front ++ (operation, .rejected refusal) :: back →
    refusal.code = .outOfOrder → refusal.retryable = false →
      heldBack operation.orderingKey front = false →
        ∀ pair ∈ front, pair.1.orderingKey = operation.orderingKey → pair.2 ≠ .unmentioned

/-- The steps under which the promise holds. -/
def Steady (s : System) : Event → Prop
  | .start now force => force = false →
    ∀ operation ∈ pendingOfflineOperations s.queue, ∀ other ∈ pendingOfflineOperations s.queue,
      other.Ahead operation → due operation now = true → due other now = true
  | .send => ∀ flush, s.flush = some flush →
    ∀ first ∈ flush.done, ∀ next ∈ flush.rest.take batchSize, first.Ahead next →
      ∀ record ∈ s.queue.operations, record.operationId = first.operationId →
        record.isOpen = false
  | .answered answers _ => ∀ flush batch, s.inFlight = some (flush, batch) →
    Telling (batch.zip answers)
  | _ => True

def Updates (operations records : List OfflineOperation) : Prop :=
  ∀ record ∈ records, ∃ old ∈ operations, old.identity = record.identity

theorem identity_eq {first second : OfflineOperation} :
    first.identity = second.identity ↔ first.operationId = second.operationId ∧
      first.orderingKey = second.orderingKey ∧ first.clientSequence = second.clientSequence := by
  unfold identity
  rw [Prod.mk.injEq, Prod.mk.injEq]

section
variable {operations records : List OfflineOperation} {record : OfflineOperation}
  (hd : Table.Distinct operationId operations)
include hd

theorem saveOperation_eq_put (h : ∃ old ∈ operations, old.identity = record.identity) :
    saveOperation operations record = Table.put operationId operations record := by
  obtain ⟨old, hold, hsame⟩ := h
  have hid := (identity_eq.mp hsame).1
  unfold saveOperation
  rw [← hid, hd.find hold, if_pos Option.isSome_some]

theorem map_identity_saveOperation (h : ∃ old ∈ operations, old.identity = record.identity) :
    (saveOperation operations record).map identity = operations.map identity := by
  rw [saveOperation_eq_put hd h]
  refine map_put_eq identity fun other hother hid => ?_
  obtain ⟨old, hold, hsame⟩ := h
  have heq : other = old := hd.eq hother hold (hid.trans (identity_eq.mp hsame).1.symm)
  rw [heq, hsame]

theorem map_identity_saveAll (h : Updates operations records) :
    (saveAll operations records).map identity = operations.map identity := by
  induction records generalizing operations with
  | nil => rfl
  | cons record rest ih =>
    have hfirst := map_identity_saveOperation hd (h record mem_cons_self)
    have hids : Table.Distinct operationId (saveOperation operations record) := by
      have hmap := congrArg (List.map Prod.fst) hfirst
      rw [map_map, map_map] at hmap
      unfold Table.Distinct at hd ⊢
      exact hmap ▸ hd
    have hrest : Updates (saveOperation operations record) rest := by
      intro other hother
      obtain ⟨old, hold, hsame⟩ := h other (mem_cons_of_mem _ hother)
      have hin : old.identity ∈ (saveOperation operations record).map identity := by
        rw [hfirst]
        exact mem_map_of_mem hold
      obtain ⟨now, hnow, heq⟩ := mem_map.mp hin
      exact ⟨now, hnow, heq.trans hsame⟩
    exact (ih hids hrest).trans hfirst

end

theorem mem_saveOperation {operations : List OfflineOperation} {record x : OfflineOperation}
    (h : x ∈ saveOperation operations record) :
    x = record ∨ (x ∈ operations ∧ x.operationId ≠ record.operationId) := by
  unfold saveOperation at h
  split at h
  · rcases mem_put.mp h with ⟨heq, _⟩ | hold
    · exact .inl heq
    · exact .inr hold
  · next hnone =>
    rcases mem_append.mp h with hold | hone
    · rw [Option.not_isSome_iff_eq_none] at hnone
      exact .inr ⟨hold, find_eq_none.mp hnone x hold⟩
    · exact .inl (mem_singleton.mp hone)

theorem mem_saveAll {operations records : List OfflineOperation} {x : OfflineOperation}
    (h : x ∈ saveAll operations records) :
    x ∈ records ∨ (x ∈ operations ∧ ∀ record ∈ records, x.operationId ≠ record.operationId) := by
  induction records generalizing operations with
  | nil => exact .inr ⟨h, forall_mem_nil _⟩
  | cons record rest ih =>
    rcases ih h with hin | ⟨hin, hrest⟩
    · exact .inl (mem_cons_of_mem _ hin)
    · rcases mem_saveOperation hin with rfl | ⟨hold, hne⟩
      · exact .inl mem_cons_self
      · refine .inr ⟨hold, fun other hother => ?_⟩
        rcases mem_cons.mp hother with rfl | hother
        · exact hne
        · exact hrest other hother

theorem foldl_removeOperation (operations : List OfflineOperation) (ids : List Nat) :
    ids.foldl removeOperation operations = operations.filter (·.operationId ∉ ids) := by
  induction ids generalizing operations with
  | nil => simp
  | cons id rest ih =>
    rw [foldl_cons, ih, removeOperation, filter_filter]
    refine filter_congr fun operation _ => ?_
    simp [Bool.and_comm]

theorem heldBack_cons (key : String) (pair : OfflineOperation × Answer)
    (answered : List (OfflineOperation × Answer)) :
    heldBack key (pair :: answered) =
      ((pair.1.orderingKey == key && pair.2.retryable) || heldBack key answered) := rfl

variable {pair : OfflineOperation × Answer} {blocked : List String} {operation : OfflineOperation}
  {refusal : Refusal} {batch : List OfflineOperation}

theorem heldBack_cons_of_lasting (key : String) (h : pair.2.retryable = false)
    (answered : List (OfflineOperation × Answer)) :
    heldBack key (pair :: answered) = heldBack key answered := by
  rw [heldBack_cons, h, Bool.and_false, Bool.false_or]

/-- A refused operation is tried again when the refusal, or one ahead of it under its key, is
temporary; otherwise it fails. -/
theorem mem_refusedRecords {now : Nat} {answered : List (OfflineOperation × Answer)}
    {record : OfflineOperation} (h : record ∈ refusedRecords now blocked answered) :
    ∃ front operation refusal back, answered = front ++ (operation, .rejected refusal) :: back ∧
      ((record = scheduleRetry operation now refusal.reason (some refusal.code) ∧
          (refusal.retryable = true ∨ operation.orderingKey ∈ blocked ∨
            heldBack operation.orderingKey front = true)) ∨
        (record = failedOperation operation refusal ∧ refusal.retryable = false ∧
          (refusal.code = .outOfOrder → operation.orderingKey ∉ blocked ∧
            heldBack operation.orderingKey front = false))) := by
  induction answered generalizing blocked with
  | nil => exact absurd h not_mem_nil
  | cons pair rest ih =>
    obtain ⟨first, answer⟩ := pair
    cases answer with
    | accepted =>
      obtain ⟨front, operation, refusal, back, hsplit, hcase⟩ := ih h
      refine ⟨(first, .accepted) :: front, operation, refusal, back, by rw [hsplit]; rfl, ?_⟩
      rw [heldBack_cons_of_lasting _ rfl]
      exact hcase
    | unmentioned =>
      obtain ⟨front, operation, refusal, back, hsplit, hcase⟩ := ih h
      refine ⟨(first, .unmentioned) :: front, operation, refusal, back, by rw [hsplit]; rfl, ?_⟩
      rw [heldBack_cons_of_lasting _ rfl]
      exact hcase
    | rejected refused =>
      rw [refusedRecords] at h
      split at h
      · next hagain =>
        rcases mem_cons.mp h with rfl | h
        · exact ⟨[], first, refused, rest, rfl, .inl ⟨rfl, hagain.imp_right (.inl ·.2)⟩⟩
        obtain ⟨front, operation, refusal, back, hsplit, hcase⟩ := ih h
        refine ⟨(first, .rejected refused) :: front, operation, refusal, back,
          by rw [hsplit]; rfl, ?_⟩
        rw [heldBack_cons]
        rcases hcase with ⟨hrecord, hwhy⟩ | ⟨hrecord, hlasting, hclear⟩
        · refine .inl ⟨hrecord, ?_⟩
          rcases hwhy with hnow | hblocked | hheld
          · exact .inl hnow
          · rcases mem_cons.mp hblocked with hsame | hold
            · rcases hagain with htemporary | ⟨_, hbefore⟩
              · refine .inr (.inr ?_)
                have hretryable : (Answer.rejected refused).retryable = true := htemporary
                rw [hretryable, hsame, beq_self_eq_true]
                rfl
              · exact .inr (.inl (hsame ▸ hbefore))
            · exact .inr (.inl hold)
          · exact .inr (.inr (by rw [hheld, Bool.or_true]))
        · refine .inr ⟨hrecord, hlasting, fun hcode => ?_⟩
          obtain ⟨hout, hheld⟩ := hclear hcode
          obtain ⟨hne, hout⟩ := not_or.mp (mem_cons.not.mp hout)
          refine ⟨hout, ?_⟩
          rw [hheld, Bool.or_false, beq_false_of_ne (Ne.symm hne), Bool.false_and]
      · next hagain =>
        obtain ⟨hlasting, hclear⟩ := not_or.mp hagain
        rw [Bool.not_eq_true] at hlasting
        rcases mem_cons.mp h with rfl | h
        · refine ⟨[], first, refused, rest, rfl, .inr ⟨rfl, hlasting, fun hcode => ?_⟩⟩
          exact ⟨fun hin => hclear ⟨hcode, hin⟩, rfl⟩
        obtain ⟨front, operation, refusal, back, hsplit, hcase⟩ := ih h
        refine ⟨(first, .rejected refused) :: front, operation, refusal, back,
          by rw [hsplit]; rfl, ?_⟩
        have hfirst : (first, Answer.rejected refused).2.retryable = false := hlasting
        rw [heldBack_cons_of_lasting _ hfirst]
        exact hcase

theorem exists_refusedRecord {now : Nat} {answered : List (OfflineOperation × Answer)}
    (h : (operation, .rejected refusal) ∈ answered) :
    ∃ record ∈ refusedRecords now blocked answered, record.operationId = operation.operationId := by
  induction answered generalizing blocked with
  | nil => exact absurd h not_mem_nil
  | cons pair rest ih =>
    obtain ⟨first, answer⟩ := pair
    rcases mem_cons.mp h with heq | hrest
    · cases heq
      rw [refusedRecords]
      split
      · exact ⟨_, mem_cons_self, rfl⟩
      · exact ⟨_, mem_cons_self, rfl⟩
    · cases answer with
      | accepted => exact ih hrest
      | unmentioned => exact ih hrest
      | rejected refused =>
        rw [refusedRecords]
        split
        · obtain ⟨record, hin, hid⟩ := @ih (first.orderingKey :: blocked) hrest
          exact ⟨record, mem_cons_of_mem _ hin, hid⟩
        · obtain ⟨record, hin, hid⟩ := @ih blocked hrest
          exact ⟨record, mem_cons_of_mem _ hin, hid⟩

structure Shrinks (before after : List OfflineOperation) : Prop where
  identities : (after.map identity).Sublist (before.map identity)
  opened : ∀ operation ∈ after, operation.isOpen = true →
    ∃ old ∈ before, old.identity = operation.identity ∧ old.isOpen = true

theorem Shrinks.refl (operations : List OfflineOperation) : Shrinks operations operations :=
  ⟨List.Sublist.refl _, fun operation hin hopen => ⟨operation, hin, rfl, hopen⟩⟩

theorem Shrinks.filter (operations : List OfflineOperation) (p : OfflineOperation → Bool) :
    Shrinks operations (operations.filter p) :=
  ⟨filter_sublist.map _, fun operation hin hopen =>
    ⟨operation, (mem_filter.mp hin).1, rfl, hopen⟩⟩

def Waiting (operations batch : List OfflineOperation) : Prop :=
  ∀ operation ∈ batch, ∃ record ∈ operations,
    record.identity = operation.identity ∧ record.isOpen = true

theorem Waiting.updates {operations records : List OfflineOperation}
    (h : Waiting operations records) : Updates operations records := by
  intro record hin
  obtain ⟨old, hold, hsame, _⟩ := h record hin
  exact ⟨old, hold, hsame⟩

theorem Shrinks.saveAll {operations records : List OfflineOperation}
    (hd : Table.Distinct operationId operations) (h : Waiting operations records) :
    Shrinks operations (saveAll operations records) := by
  constructor
  · rw [map_identity_saveAll hd h.updates]
  · intro operation hin hopen
    rcases mem_saveAll hin with hnew | ⟨hold, _⟩
    · obtain ⟨old, hold, hsame, hwas⟩ := h operation hnew
      exact ⟨old, hold, hsame, hwas⟩
    · exact ⟨operation, hold, rfl, hopen⟩

theorem OfflineOperation.Ahead.congr {first second first' second' : OfflineOperation} (h : first.Ahead second)
    (hfirst : first'.identity = first.identity) (hsecond : second'.identity = second.identity) :
    first'.Ahead second' := by
  obtain ⟨_, hfirstKey, hfirstSequence⟩ := identity_eq.mp hfirst
  obtain ⟨_, hsecondKey, hsecondSequence⟩ := identity_eq.mp hsecond
  refine ⟨?_, ?_⟩
  · rw [hfirstKey, hsecondKey, h.1]
  · rw [hfirstSequence, hsecondSequence]
    exact h.2

def Flush.all (flush : Flush) : List OfflineOperation :=
  flush.done ++ flush.sent.getD [] ++ flush.rest

def NothingAhead (operations batch : List OfflineOperation) : Prop :=
  ∀ operation ∈ batch, ∀ other ∈ operations, other.isOpen = true → other.Ahead operation →
    ∃ first ∈ batch, first.identity = other.identity

structure Running (queue : Queue) (flush : Flush) : Prop where
  ordered : flush.all.Pairwise (·.clientSequence < ·.clientSequence)
  bounded : ∀ operation ∈ flush.all, operation.clientSequence ≤ queue.sequence
  waiting : Waiting queue.operations (flush.sent.getD [] ++ flush.rest)
  ahead : NothingAhead queue.operations flush.all
  sentAhead : NothingAhead queue.operations (flush.sent.getD [])

/-- What holds of every state that steady steps reach. -/
structure Kept (s : System) : Prop where
  ids : Table.Distinct operationId s.queue.operations
  ordered : s.queue.operations.Pairwise (·.clientSequence < ·.clientSequence)
  bounded : ∀ operation ∈ s.queue.operations, operation.clientSequence ≤ s.queue.sequence
  known : ∀ operation ∈ s.queue.operations, ∃ first ∈ s.enqueued, first.identity = operation.identity
  accounted : ∀ operation ∈ s.enqueued, Waiting s.queue.operations [operation] ∨
    operation.operationId ∈ s.acknowledged ∨ operation.operationId ∈ s.refused
  running : ∀ flush, s.flush = some flush → Running s.queue flush
  neverGaveUp : s.NeverGaveUp

section
variable {before after : List OfflineOperation} (h : Shrinks before after)
include h

theorem Shrinks.ids (hd : Table.Distinct operationId before) : Table.Distinct operationId after := by
  have hids := h.identities.map Prod.fst
  rw [map_map, map_map] at hids
  exact hd.sublist hids

theorem Shrinks.ordered (ho : before.Pairwise (·.clientSequence < ·.clientSequence)) :
    after.Pairwise (·.clientSequence < ·.clientSequence) := by
  have hsequences := h.identities.map fun identity => identity.2.2
  rw [map_map, map_map] at hsequences
  have hbefore : (before.map (·.clientSequence)).Pairwise (· < ·) := pairwise_map.mpr ho
  exact pairwise_map.mp (hbefore.sublist hsequences)

theorem Shrinks.mem (hin : operation ∈ after) : ∃ old ∈ before, old.identity = operation.identity :=
  mem_map.mp (h.identities.subset (mem_map_of_mem hin))

theorem Shrinks.nothingAhead (hn : NothingAhead before batch) : NothingAhead after batch := by
  intro operation hin other hother hopen hahead
  obtain ⟨old, hold, hsame, hwas⟩ := h.opened other hother hopen
  obtain ⟨first, hfirst, heq⟩ := hn operation hin old hold hwas (hahead.congr hsame rfl)
  exact ⟨first, hfirst, heq.trans hsame⟩

end

theorem waiting_saveAll {operations records : List OfflineOperation}
    (hd : Table.Distinct operationId operations) (hupdates : Waiting operations records)
    (hrecords : ∀ record ∈ records, record.isOpen = true) (h : Waiting operations batch) :
    Waiting (saveAll operations records) batch := by
  intro operation hin
  obtain ⟨record, hrecord, hsame, hopen⟩ := h operation hin
  have hmap : record.identity ∈ (saveAll operations records).map identity := by
    rw [map_identity_saveAll hd hupdates.updates]
    exact mem_map_of_mem hrecord
  obtain ⟨saved, hsaved, heq⟩ := mem_map.mp hmap
  refine ⟨saved, hsaved, heq.trans hsame, ?_⟩
  rcases mem_saveAll hsaved with hnew | ⟨hold, _⟩
  · exact hrecords saved hnew
  · rw [hd.eq hold hrecord (identity_eq.mp heq).1]
    exact hopen

theorem Waiting.sublist {operations part : List OfflineOperation} (h : Waiting operations batch)
    (hs : part ⊆ batch) : Waiting operations part :=
  fun operation hin => h operation (hs hin)

section
variable {s s' : System} (hs : Kept s) (hsequence : s'.queue.sequence = s.queue.sequence)
  (henqueued : s'.enqueued = s.enqueued)
  (hshrinks : Shrinks s.queue.operations s'.queue.operations)
include hs hsequence henqueued hshrinks

/-- A step that adds no operation keeps all that is not about the flush, the failures and
what became of the operations. -/
theorem Kept.shrunk
    (haccounted : ∀ operation ∈ s.enqueued, Waiting s'.queue.operations [operation] ∨
      operation.operationId ∈ s'.acknowledged ∨ operation.operationId ∈ s'.refused)
    (hrunning : ∀ flush, s'.flush = some flush → Running s'.queue flush)
    (hnever : s'.NeverGaveUp) : Kept s' where
  ids := hshrinks.ids hs.ids
  ordered := hshrinks.ordered hs.ordered
  bounded operation hin := by
    obtain ⟨old, hold, hsame⟩ := hshrinks.mem hin
    rw [hsequence, ← (identity_eq.mp hsame).2.2]
    exact hs.bounded old hold
  known operation hin := by
    obtain ⟨old, hold, hsame⟩ := hshrinks.mem hin
    obtain ⟨first, hfirst, heq⟩ := hs.known old hold
    rw [henqueued]
    exact ⟨first, hfirst, heq.trans hsame⟩
  accounted := by rw [henqueued]; exact haccounted
  running := hrunning
  neverGaveUp := hnever

omit hsequence henqueued in
theorem Kept.neverGaveUp_of_shrinks
    (hfailed : ∀ operation ∈ s'.queue.operations, operation.syncStatus = .failedPermanent →
      operation ∈ s.queue.operations) : s'.NeverGaveUp := by
  intro operation hin hstatus hcode other hother hahead
  cases hopen : other.isOpen with
  | false => rfl
  | true =>
    obtain ⟨old, hold, hsame, hwas⟩ := hshrinks.opened other hother hopen
    have hclosed := hs.neverGaveUp operation (hfailed operation hin hstatus) hstatus hcode old hold
      (hahead.congr hsame rfl)
    rw [hwas] at hclosed
    cases hclosed

/-- A step that leaves open what is open and fails nothing. -/
theorem Kept.undisturbed
    (hopen : ∀ batch, Waiting s.queue.operations batch → Waiting s'.queue.operations batch)
    (hfailed : ∀ operation ∈ s'.queue.operations, operation.syncStatus = .failedPermanent →
      operation ∈ s.queue.operations)
    (hacknowledged : s'.acknowledged = s.acknowledged) (hrefused : s'.refused = s.refused)
    (hrunning : ∀ flush, s'.flush = some flush → Running s'.queue flush) : Kept s' := by
  refine hs.shrunk hsequence henqueued hshrinks ?_ hrunning (hs.neverGaveUp_of_shrinks hshrinks hfailed)
  intro operation hin
  rw [hacknowledged, hrefused]
  exact (hs.accounted operation hin).imp_left (hopen _)

end

theorem Running.shrunk {queue queue' : Queue} {flush : Flush} (h : Running queue flush)
    (hsequence : queue.sequence ≤ queue'.sequence)
    (hahead : ∀ batch, NothingAhead queue.operations batch →
      (∀ operation ∈ batch, operation.clientSequence ≤ queue.sequence) →
        NothingAhead queue'.operations batch)
    (hopen : ∀ batch, Waiting queue.operations batch → Waiting queue'.operations batch) :
    Running queue' flush where
  ordered := h.ordered
  bounded operation hin := Nat.le_trans (h.bounded operation hin) hsequence
  waiting := hopen _ h.waiting
  ahead := hahead _ h.ahead h.bounded
  sentAhead := by
    refine hahead _ h.sentAhead fun operation hin => h.bounded operation ?_
    exact mem_append_left _ (mem_append_right _ hin)

variable {s s' : System}

theorem Kept.enqueue (hs : Kept s) {operationId : Nat} {orderingKey : String}
    (h : exec (.enqueue operationId orderingKey) s = .ok s') : Kept s' := by
  rw [exec] at h
  split at h
  · cases h
  next hfresh =>
  cases h
  let added := newOperation s.queue operationId orderingKey
  have hnew : ∀ operation ∈ s.queue.operations, operation.operationId ≠ operationId := by
    intro operation hin heq
    obtain ⟨first, hfirst, hsame⟩ := hs.known operation hin
    exact hfresh (mem_map.mpr ⟨first, hfirst, (identity_eq.mp hsame).1.trans heq⟩)
  have hqueue : (enqueueOperation s.queue operationId orderingKey).operations =
      s.queue.operations ++ [added] := by
    have hnone : Table.find OfflineOperation.operationId s.queue.operations operationId = none :=
      find_eq_none.mpr hnew
    show saveOperation s.queue.operations added = _
    unfold saveOperation
    rw [if_neg]
    show ¬(Table.find OfflineOperation.operationId s.queue.operations operationId).isSome = true
    rw [hnone]
    decide
  have hadded : added.clientSequence = s.queue.sequence + 1 := rfl
  have hopen : ∀ batch, Waiting s.queue.operations batch →
      Waiting (enqueueOperation s.queue operationId orderingKey).operations batch := by
    intro batch hwaiting operation hin
    obtain ⟨record, hrecord, hsame⟩ := hwaiting operation hin
    rw [hqueue]
    exact ⟨record, mem_append_left _ hrecord, hsame⟩
  -- What is added is behind everything.
  have hahead : ∀ batch, NothingAhead s.queue.operations batch →
      (∀ operation ∈ batch, operation.clientSequence ≤ s.queue.sequence) →
        NothingAhead (enqueueOperation s.queue operationId orderingKey).operations batch := by
    intro batch hnothing hbounded operation hin other hother hopen hahead
    rw [hqueue] at hother
    rcases mem_append.mp hother with hold | hone
    · exact hnothing operation hin other hold hopen hahead
    · obtain rfl := mem_singleton.mp hone
      have hle := hbounded operation hin
      have hlt := hahead.2
      omega
  constructor
  · show Table.Distinct OfflineOperation.operationId (enqueueOperation _ _ _).operations
    rw [hqueue]
    exact hs.ids.append hnew
  · show (enqueueOperation _ _ _).operations.Pairwise _
    rw [hqueue, pairwise_append]
    refine ⟨hs.ordered, pairwise_singleton _ _, ?_⟩
    intro operation hin other hother
    obtain rfl := mem_singleton.mp hother
    have hle := hs.bounded operation hin
    omega
  · show ∀ operation ∈ (enqueueOperation _ _ _).operations, _ ≤ s.queue.sequence + 1
    rw [hqueue]
    intro operation hin
    rcases mem_append.mp hin with hold | hone
    · have hle := hs.bounded operation hold
      omega
    · obtain rfl := mem_singleton.mp hone
      omega
  · show ∀ operation ∈ (enqueueOperation _ _ _).operations, _
    rw [hqueue]
    intro operation hin
    rcases mem_append.mp hin with hold | hone
    · obtain ⟨first, hfirst, hsame⟩ := hs.known operation hold
      exact ⟨first, mem_append_left _ hfirst, hsame⟩
    · obtain rfl := mem_singleton.mp hone
      exact ⟨added, mem_append_right _ (mem_singleton_self _), rfl⟩
  · intro operation hin
    rcases mem_append.mp hin with hold | hone
    · exact (hs.accounted operation hold).imp_left (hopen _)
    · obtain rfl := mem_singleton.mp hone
      refine .inl fun operation hin => ?_
      obtain rfl := mem_singleton.mp hin
      refine ⟨added, ?_, rfl, rfl⟩
      show added ∈ (enqueueOperation _ _ _).operations
      rw [hqueue]
      exact mem_append_right _ (mem_singleton_self _)
  · intro flush hflush
    exact (hs.running flush hflush).shrunk (Nat.le_succ _) hahead hopen
  · intro operation hin hstatus hcode other hother hbefore
    have hoperation : operation ∈ s.queue.operations := by
      have hin : operation ∈ (enqueueOperation s.queue operationId orderingKey).operations := hin
      rw [hqueue] at hin
      rcases mem_append.mp hin with hold | hone
      · exact hold
      · obtain rfl := mem_singleton.mp hone
        cases hstatus
    have hother : other ∈ (enqueueOperation s.queue operationId orderingKey).operations := hother
    rw [hqueue] at hother
    rcases mem_append.mp hother with hold | hone
    · exact hs.neverGaveUp operation hoperation hstatus hcode other hold hbefore
    · obtain rfl := mem_singleton.mp hone
      have hle := hs.bounded operation hoperation
      have hlt := hbefore.2
      omega

theorem Kept.dismiss (hs : Kept s) (id : Nat) :
    Kept { s with queue := dismissFailedOperation s.queue id } := by
  have hcase : dismissFailedOperation s.queue id = s.queue ∨
      ∃ operation ∈ s.queue.operations, operation.operationId = id ∧ operation.isFailed = true ∧
        dismissFailedOperation s.queue id =
          { s.queue with operations := removeOperation s.queue.operations id } := by
    unfold dismissFailedOperation
    split
    · next operation hfound =>
      split
      · next hfailed =>
        exact .inr ⟨operation, find_mem hfound, find_key hfound, hfailed, rfl⟩
      · exact .inl rfl
    · exact .inl rfl
  rcases hcase with hsame | ⟨gone, hgone, hid, hfailed, hqueue⟩
  · rw [hsame]
    exact hs
  rw [hqueue]
  have hshrinks : Shrinks s.queue.operations (removeOperation s.queue.operations id) :=
    Shrinks.filter _ _
  have hopen : ∀ batch, Waiting s.queue.operations batch →
      Waiting (removeOperation s.queue.operations id) batch := by
    intro batch hwaiting operation hin
    obtain ⟨record, hrecord, hsame, hwas⟩ := hwaiting operation hin
    refine ⟨record, mem_filter.mpr ⟨hrecord, decide_eq_true ?_⟩, hsame, hwas⟩
    intro heq
    -- An operation that failed is not open.
    rw [hs.ids.eq hrecord hgone (heq.trans hid.symm)] at hwas
    unfold isFailed at hfailed
    unfold isOpen at hwas
    cases hstatus : gone.syncStatus <;> simp [hstatus] at hfailed hwas
  refine hs.undisturbed rfl rfl hshrinks hopen ?_ rfl rfl ?_
  · intro operation hin _
    exact (mem_filter.mp hin).1
  · intro flush hflush
    exact (hs.running flush hflush).shrunk (Nat.le_refl _)
      (fun _ hnothing _ => hshrinks.nothingAhead hnothing) hopen

theorem Kept.listOperations_eq (hs : Kept s) : listOperations s.queue = s.queue.operations := by
  exact (hs.ordered.imp Nat.le_of_lt).insertionSort_eq

theorem Kept.mem_pending (hs : Kept s) :
    operation ∈ pendingOfflineOperations s.queue ↔
      operation ∈ s.queue.operations ∧ operation.isOpen = true := by
  unfold pendingOfflineOperations
  rw [mem_filter, hs.listOperations_eq]

theorem Kept.start (hs : Kept s) {now : Nat} {force : Bool} (hsteady : Steady s (.start now force)) :
    Kept { s with flush := some ⟨[], none, dueOperations s.queue now force⟩ } := by
  have hdue : ∀ {operation}, operation ∈ dueOperations s.queue now force ↔
      operation ∈ pendingOfflineOperations s.queue ∧ (force || due operation now) = true :=
    mem_filter
  have hsublist : (dueOperations s.queue now force).Sublist s.queue.operations := by
    unfold dueOperations pendingOfflineOperations
    rw [hs.listOperations_eq]
    exact filter_sublist.trans filter_sublist
  refine hs.undisturbed rfl rfl (Shrinks.refl _) (fun _ h => h) (fun _ h _ => h) rfl rfl ?_
  intro flush hflush
  cases hflush
  constructor
  · exact hs.ordered.sublist hsublist
  · intro operation hin
    exact hs.bounded operation (hsublist.subset hin)
  · intro operation hin
    obtain ⟨hrecord, hopen⟩ := hs.mem_pending.mp (hdue.mp hin).1
    exact ⟨operation, hrecord, rfl, hopen⟩
  · intro operation hin other hother hopen hahead
    obtain ⟨hpending, hready⟩ := hdue.mp hin
    have hfirst := hs.mem_pending.mpr ⟨hother, hopen⟩
    refine ⟨other, hdue.mpr ⟨hfirst, ?_⟩, rfl⟩
    cases force with
    | true => rfl
    | false => exact hsteady rfl operation hpending other hfirst hahead hready
  · exact forall_mem_nil _

theorem Waiting.map {operations : List OfflineOperation} (h : Waiting operations batch)
    {f : OfflineOperation → OfflineOperation}
    (hf : ∀ operation, (f operation).identity = operation.identity) :
    Waiting operations (batch.map f) := by
  intro record hin
  obtain ⟨operation, hoperation, rfl⟩ := mem_map.mp hin
  obtain ⟨old, hold, hsame, hopen⟩ := h operation hoperation
  exact ⟨old, hold, hsame.trans (hf operation).symm, hopen⟩

theorem Kept.send (hs : Kept s) (hsteady : Steady s .send) (h : exec .send s = .ok s') : Kept s' := by
  rw [exec] at h
  split at h
  · next done next rest hflush =>
    have hrunning := hs.running _ hflush
    have hnothing := hsteady _ hflush
    generalize hremaining : next :: rest = remaining at *
    cases h
    let batch := remaining.take batchSize
    let records : List OfflineOperation := batch.map ({ · with syncStatus := .syncing })
    have hsplit : batch ++ remaining.drop batchSize = remaining := take_append_drop _ _
    have hwaiting : Waiting s.queue.operations records := by
      refine Waiting.map (hrunning.waiting.sublist ?_) fun _ => rfl
      exact fun operation hin => mem_of_mem_take hin
    have hrecords : ∀ record ∈ records, record.syncStatus = .syncing := by
      intro record hin
      obtain ⟨operation, _, rfl⟩ := mem_map.mp hin
      rfl
    have hrecordsOpen : ∀ record ∈ records, record.isOpen = true := by
      intro record hin
      unfold isOpen
      rw [hrecords record hin]
      rfl
    have hshrinks : Shrinks s.queue.operations (saveAll s.queue.operations records) :=
      Shrinks.saveAll hs.ids hwaiting
    have hopen : ∀ batch, Waiting s.queue.operations batch →
        Waiting (saveAll s.queue.operations records) batch :=
      fun _ hwas => waiting_saveAll hs.ids hwaiting hrecordsOpen hwas
    have hall : (⟨done, some batch, remaining.drop batchSize⟩ : Flush).all =
        (⟨done, none, remaining⟩ : Flush).all := by
      show done ++ batch ++ remaining.drop batchSize = done ++ [] ++ remaining
      rw [append_nil, append_assoc, hsplit]
    refine hs.undisturbed rfl rfl hshrinks hopen ?_ rfl rfl ?_
    · intro operation hin hstatus
      rcases mem_saveAll hin with hnew | ⟨hold, _⟩
      · rw [hrecords operation hnew] at hstatus
        cases hstatus
      · exact hold
    · intro flush hsent
      cases hsent
      constructor
      · rw [hall]
        exact hrunning.ordered
      · rw [hall]
        exact hrunning.bounded
      · show Waiting (saveAll s.queue.operations records) (batch ++ remaining.drop batchSize)
        rw [hsplit]
        exact hopen _ hrunning.waiting
      · rw [hall]
        exact hshrinks.nothingAhead hrunning.ahead
      · refine hshrinks.nothingAhead ?_
        intro operation hin other hother hopen hahead
        have hin : operation ∈ batch := hin
        have hmember : operation ∈ (⟨done, none, remaining⟩ : Flush).all :=
          mem_append_right _ (mem_of_mem_take hin)
        obtain ⟨first, hfirst, hsame⟩ := hrunning.ahead operation hmember other hother hopen hahead
        have hfirstAhead : first.Ahead operation := hahead.congr hsame rfl
        have hfirst : first ∈ done ++ [] ++ remaining := hfirst
        rw [append_nil] at hfirst
        rcases mem_append.mp hfirst with hdone | hleft
        · have hclosed := hnothing first hdone operation hin hfirstAhead other hother
            (identity_eq.mp hsame).1.symm
          rw [hopen] at hclosed
          cases hclosed
        · rw [← hsplit] at hleft
          rcases mem_append.mp hleft with hbatch | hlater
          · exact ⟨first, hbatch, hsame⟩
          · -- What is left for a later batch is behind this one.
            have hordered := hrunning.ordered
            have hunfold : (⟨done, none, remaining⟩ : Flush).all = done ++ [] ++ remaining := rfl
            rw [hunfold, append_nil, pairwise_append, ← hsplit, pairwise_append]
              at hordered
            have hlt := hordered.2.1.2.2 operation hin first hlater
            have hgt := hfirstAhead.2
            omega
  · cases h

theorem inFlight_eq_some {flush : Flush} :
    s.inFlight = some (flush, batch) ↔ s.flush = some flush ∧ flush.sent = some batch := by
  unfold System.inFlight
  rw [Option.bind_eq_some_iff]
  constructor
  · rintro ⟨_, hflush, h⟩
    obtain ⟨_, hsent, heq⟩ := Option.map_eq_some_iff.mp h
    cases heq
    exact ⟨hflush, hsent⟩
  · rintro ⟨hflush, hsent⟩
    exact ⟨flush, hflush, by rw [hsent, Option.map_some]⟩

theorem Kept.sent_waiting (hs : Kept s) {flush : Flush} (h : s.inFlight = some (flush, batch)) :
    Waiting s.queue.operations batch := by
  obtain ⟨hflush, hsent⟩ := inFlight_eq_some.mp h
  have hwaiting := (hs.running flush hflush).waiting
  rw [hsent, Option.getD_some] at hwaiting
  exact hwaiting.sublist (subset_append_left _ _)

theorem Kept.failed (hs : Kept s) {error : RequestError} {now : Nat}
    (h : exec (.failed error now) s = .ok s') : Kept s' := by
  rw [exec] at h
  split at h
  · next flush batch hbatch =>
    cases h
    have hretried : ∀ record ∈ failedRecords now error batch, record.syncStatus = .retry := by
      intro record hin
      obtain ⟨operation, _, rfl⟩ := mem_map.mp hin
      split
      · rfl
      · rfl
    have hwaiting : Waiting s.queue.operations (failedRecords now error batch) := by
      refine (hs.sent_waiting hbatch).map fun operation => ?_
      split
      · rfl
      · rfl
    have hrecordsOpen : ∀ record ∈ failedRecords now error batch, record.isOpen = true := by
      intro record hin
      unfold isOpen
      rw [hretried record hin]
      rfl
    refine hs.undisturbed rfl rfl (Shrinks.saveAll hs.ids hwaiting)
      (fun _ hwas => waiting_saveAll hs.ids hwaiting hrecordsOpen hwas) ?_ rfl rfl nofun
    intro operation hin hstatus
    rcases mem_saveAll hin with hnew | ⟨hold, _⟩
    · rw [hretried operation hnew] at hstatus
      cases hstatus
    · exact hold
  · cases h

section
variable {operations : List OfflineOperation} {answered : List (OfflineOperation × Answer)} {now : Nat}

theorem record_of_answer {record : OfflineOperation}
    (h : record ∈ refusedRecords now [] answered ++ unmentionedRecords now answered) :
    ∃ pair ∈ answered, pair.2 ≠ .accepted ∧ record.identity = pair.1.identity := by
  rcases mem_append.mp h with hrefused | hunmentioned
  · obtain ⟨front, operation, refusal, back, rfl, hcase⟩ := mem_refusedRecords hrefused
    refine ⟨(operation, .rejected refusal), by simp, by simp, ?_⟩
    rcases hcase with ⟨rfl, _⟩ | ⟨rfl, _⟩
    · rfl
    · rfl
  · obtain ⟨pair, hpair, rfl⟩ := mem_map.mp hunmentioned
    obtain ⟨hin, hanswer⟩ := mem_filter.mp hpair
    refine ⟨pair, hin, ?_, rfl⟩
    rw [of_decide_eq_true hanswer]
    nofun

theorem answer_has_record {pair : OfflineOperation × Answer} (h : pair ∈ answered)
    (hnot : pair.2 ≠ .accepted) :
    ∃ record ∈ refusedRecords now [] answered ++ unmentionedRecords now answered,
      record.operationId = pair.1.operationId := by
  obtain ⟨operation, answer⟩ := pair
  cases answer with
  | accepted => exact absurd rfl hnot
  | rejected refusal =>
    obtain ⟨record, hrecord, hid⟩ := exists_refusedRecord h
    exact ⟨record, mem_append_left _ hrecord, hid⟩
  | unmentioned =>
    refine ⟨scheduleRetry operation now "" none, mem_append_right _ ?_, rfl⟩
    exact mem_map.mpr ⟨_, mem_filter.mpr ⟨h, decide_eq_true rfl⟩, rfl⟩

theorem mem_acceptedIds {id : Nat} :
    id ∈ acceptedIds answered ↔ ∃ operation, (operation, .accepted) ∈ answered ∧
      operation.operationId = id := by
  unfold acceptedIds
  rw [mem_map]
  constructor
  · rintro ⟨⟨operation, answer⟩, hin, hid⟩
    obtain ⟨hpair, hanswer⟩ := mem_filter.mp hin
    have hanswer : answer = .accepted := of_decide_eq_true hanswer
    exact ⟨operation, hanswer ▸ hpair, hid⟩
  · rintro ⟨operation, hin, hid⟩
    exact ⟨(operation, .accepted), mem_filter.mpr ⟨hin, decide_eq_true rfl⟩, hid⟩

variable (hd : Table.Distinct operationId operations)
  (ho : answered.Pairwise (·.1.clientSequence < ·.1.clientSequence))
  (hw : Waiting operations (answered.map Prod.fst))
include hd ho hw

theorem answer_unique {first second : OfflineOperation × Answer} (hfirst : first ∈ answered)
    (hsecond : second ∈ answered) (hid : first.1.operationId = second.1.operationId) :
    first = second := by
  obtain ⟨old, hold, hsame, _⟩ := hw first.1 (mem_map_of_mem hfirst)
  obtain ⟨other, hother, hequal, _⟩ := hw second.1 (mem_map_of_mem hsecond)
  obtain ⟨hfirstId, _, hfirstSequence⟩ := identity_eq.mp hsame
  obtain ⟨hsecondId, _, hsecondSequence⟩ := identity_eq.mp hequal
  have heq : old = other := hd.eq hold hother (hfirstId.trans (hid.trans hsecondId.symm))
  have hnodup : (answered.map (·.1.clientSequence)).Nodup :=
    (pairwise_map.mpr ho).imp Nat.ne_of_lt
  refine inj_on_of_nodup_map hnodup hfirst hsecond ?_
  rw [← hfirstSequence, ← hsecondSequence, heq]

theorem waiting_records : Waiting ((acceptedIds answered).foldl removeOperation operations)
    (refusedRecords now [] answered ++ unmentionedRecords now answered) := by
  intro record hin
  obtain ⟨pair, hpair, hnot, hequal⟩ := record_of_answer hin
  obtain ⟨old, hold, hsame, hopen⟩ := hw pair.1 (mem_map_of_mem hpair)
  refine ⟨old, ?_, hsame.trans hequal.symm, hopen⟩
  rw [foldl_removeOperation, mem_filter]
  refine ⟨hold, decide_eq_true fun hgone => ?_⟩
  obtain ⟨accepted, haccepted, hid⟩ := mem_acceptedIds.mp hgone
  have heq := answer_unique hd ho hw hpair haccepted ((identity_eq.mp hsame).1.symm.trans hid.symm)
  exact hnot (congrArg Prod.snd heq)

omit hd ho hw in
theorem shrinks_removed (operations : List OfflineOperation) (ids : List Nat) :
    Shrinks operations (ids.foldl removeOperation operations) := by
  rw [foldl_removeOperation]
  exact Shrinks.filter _ _

theorem shrinks_applyAnswers : Shrinks operations (applyAnswers operations now answered) := by
  have hremoved := shrinks_removed operations (acceptedIds answered)
  have hsaved := Shrinks.saveAll (hremoved.ids hd) (@waiting_records operations answered now hd ho hw)
  constructor
  · exact hsaved.identities.trans hremoved.identities
  · intro operation hin hopen
    obtain ⟨old, hold, hsame, hwas⟩ := hsaved.opened operation hin hopen
    obtain ⟨older, holder, hequal, hbefore⟩ := hremoved.opened old hold hwas
    exact ⟨older, holder, hequal.trans hsame, hbefore⟩

theorem accounted_applyAnswers {operation : OfflineOperation} (h : Waiting operations [operation]) :
    Waiting (applyAnswers operations now answered) [operation] ∨
      operation.operationId ∈ acceptedIds answered ∨
        operation.operationId ∈ refusedIds (refusedRecords now [] answered) := by
  obtain ⟨old, hold, hsame, hopen⟩ := h operation (mem_singleton_self _)
  by_cases haccepted : operation.operationId ∈ acceptedIds answered
  · exact .inr (.inl haccepted)
  have hkept : old ∈ (acceptedIds answered).foldl removeOperation operations := by
    rw [foldl_removeOperation, mem_filter, (identity_eq.mp hsame).1]
    exact ⟨hold, decide_eq_true haccepted⟩
  have hkeptIds := (shrinks_removed operations (acceptedIds answered)).ids hd
  have hmap : old.identity ∈ (applyAnswers operations now answered).map identity := by
    unfold applyAnswers
    rw [map_identity_saveAll hkeptIds (waiting_records hd ho hw).updates]
    exact mem_map_of_mem hkept
  obtain ⟨saved, hsaved, hequal⟩ := mem_map.mp hmap
  have hidentity := hequal.trans hsame
  have hstays (hsavedOpen : saved.isOpen = true) :
      Waiting (applyAnswers operations now answered) [operation] := by
    intro other hother
    obtain rfl := mem_singleton.mp hother
    exact ⟨saved, hsaved, hidentity, hsavedOpen⟩
  rcases mem_saveAll hsaved with hnew | ⟨hunchanged, _⟩
  · rcases mem_append.mp hnew with hrefused | hunmentioned
    · obtain ⟨_, first, refusal, _, _, ⟨rfl, _⟩ | ⟨rfl, _⟩⟩ := mem_refusedRecords hrefused
      · exact .inl (hstays rfl)
      · refine .inr (.inr (mem_map.mpr ⟨failedOperation first refusal, ?_, ?_⟩))
        · exact mem_filter.mpr ⟨hrefused, decide_eq_true rfl⟩
        · exact (identity_eq.mp hidentity).1
    · obtain ⟨pair, _, rfl⟩ := mem_map.mp hunmentioned
      exact .inl (hstays rfl)
  · have heq : saved = old := hkeptIds.eq hunchanged hkept (identity_eq.mp hequal).1
    exact .inl (hstays (heq ▸ hopen))

end

theorem mem_front {answered front back : List (OfflineOperation × Answer)}
    {failed : OfflineOperation × Answer}
    (ho : answered.Pairwise (·.1.clientSequence < ·.1.clientSequence))
    (hsplit : answered = front ++ failed :: back) (hin : pair ∈ answered)
    (hlt : pair.1.clientSequence < failed.1.clientSequence) : pair ∈ front := by
  rw [hsplit] at hin ho
  rcases mem_append.mp hin with hfront | hrest
  · exact hfront
  obtain ⟨_, hafter, _⟩ := pairwise_append.mp ho
  rcases mem_cons.mp hrest with rfl | hback
  · omega
  · have hgt := (pairwise_cons.mp hafter).1 pair hback
    omega

theorem heldBack_of_mem {key : String} {answered : List (OfflineOperation × Answer)}
    (hin : pair ∈ answered) (hkey : pair.1.orderingKey = key)
    (hretryable : pair.2.retryable = true) : heldBack key answered = true :=
  List.any_eq_true.mpr ⟨pair, hin, by rw [hkey, hretryable, beq_self_eq_true]; rfl⟩

theorem nothing_open_ahead {operations : List OfflineOperation}
    {answered front back : List (OfflineOperation × Answer)} {now : Nat} {other : OfflineOperation}
    (ho : answered.Pairwise (·.1.clientSequence < ·.1.clientSequence)) (htelling : Telling answered)
    (hsplit : answered = front ++ (operation, .rejected refusal) :: back)
    (hcode : refusal.code = .outOfOrder) (hlasting : refusal.retryable = false)
    (hclear : heldBack operation.orderingKey front = false)
    (hanswered : ∃ pair ∈ answered, pair.1.identity = other.identity)
    (hother : other ∈ applyAnswers operations now answered) (hahead : other.Ahead operation) :
    other.isOpen = false := by
  have hinFront {pair : OfflineOperation × Answer} (hin : pair ∈ answered)
      (hlt : pair.1.clientSequence < operation.clientSequence) : pair ∈ front :=
    mem_front ho hsplit hin hlt
  -- No temporary refusal under the key stands in front.
  have hnotHeld {pair : OfflineOperation × Answer} (hin : pair ∈ answered)
      (hbefore : pair.1.Ahead operation) : pair.2.retryable = false := by
    cases hretryable : pair.2.retryable with
    | false => rfl
    | true =>
      rw [heldBack_of_mem (hinFront hin hbefore.2) hbefore.1 hretryable] at hclear
      cases hclear
  rcases mem_saveAll hother with hrecord | ⟨hkept, hnone⟩
  · rcases mem_append.mp hrecord with hrefused | hunmentioned
    · obtain ⟨front', first, refusal', back', hsplit', hcase⟩ := mem_refusedRecords hrefused
      have hfirst : (first, Answer.rejected refusal') ∈ answered := by
        rw [hsplit']
        simp
      rcases hcase with ⟨rfl, hwhy⟩ | ⟨rfl, _⟩
      · have hfirstAhead : first.Ahead operation := hahead.congr rfl rfl
        rcases hwhy with hnow | hblocked | hheld
        · have hfalse : refusal'.retryable = false := hnotHeld hfirst hfirstAhead
          rw [hnow] at hfalse
          cases hfalse
        · exact absurd hblocked not_mem_nil
        · obtain ⟨pair, hpair, hheld⟩ := List.any_eq_true.mp hheld
          rw [Bool.and_eq_true, beq_iff_eq] at hheld
          have hin : pair ∈ answered := by
            rw [hsplit']
            exact mem_append_left _ hpair
          have hlt : pair.1.clientSequence < first.clientSequence := by
            rw [hsplit', pairwise_append] at ho
            exact ho.2.2 pair hpair _ mem_cons_self
          have hpairAhead : pair.1.Ahead operation :=
            ⟨hheld.1.trans hfirstAhead.1, Nat.lt_trans hlt hfirstAhead.2⟩
          rw [hnotHeld hin hpairAhead] at hheld
          exact absurd hheld.2 (by decide)
      · rfl
    · obtain ⟨pair, hpair, rfl⟩ := mem_map.mp hunmentioned
      obtain ⟨hin, hanswer⟩ := mem_filter.mp hpair
      have hpairAhead : pair.1.Ahead operation := hahead.congr rfl rfl
      exact absurd (of_decide_eq_true hanswer)
        (htelling front operation refusal back hsplit hcode hlasting hclear pair
          (hinFront hin hpairAhead.2) hpairAhead.1)
  · obtain ⟨pair, hpair, hsame⟩ := hanswered
    have hid := (identity_eq.mp hsame).1
    by_cases haccepted : pair.2 = .accepted
    · rw [foldl_removeOperation] at hkept
      have hout := of_decide_eq_true (mem_filter.mp hkept).2
      refine absurd (mem_acceptedIds.mpr ⟨pair.1, ?_, hid⟩) hout
      rw [← haccepted]
      exact hpair
    · obtain ⟨record, hrecord, hrecordId⟩ := @answer_has_record answered now pair hpair haccepted
      exact absurd (hid.symm.trans hrecordId.symm) (hnone record hrecord)

theorem Kept.answered (hs : Kept s) {answers : List Answer} {now : Nat}
    (hsteady : Steady s (.answered answers now)) (h : exec (.answered answers now) s = .ok s') :
    Kept s' := by
  rw [exec] at h
  split at h
  · next flush batch hbatch =>
    have htelling := hsteady flush batch hbatch
    obtain ⟨hflush, hsent⟩ := inFlight_eq_some.mp hbatch
    have hrunning := hs.running flush hflush
    have hunfold : flush.all = flush.done ++ batch ++ flush.rest := by
      unfold Flush.all
      rw [hsent, Option.getD_some]
    split at h
    · cases h
    next hlength =>
    obtain ⟨applied, _, h⟩ := bind_eq_ok.mp h
    cases h
    have hfirsts : (batch.zip answers).map Prod.fst = batch :=
      map_fst_zip (by omega)
    have hbatchOrdered : batch.Pairwise (·.clientSequence < ·.clientSequence) := by
      have hordered := hrunning.ordered
      rw [hunfold, pairwise_append, pairwise_append] at hordered
      exact hordered.1.2.1
    have ho : (batch.zip answers).Pairwise (·.1.clientSequence < ·.1.clientSequence) := by
      rw [← hfirsts, pairwise_map] at hbatchOrdered
      exact hbatchOrdered
    have hw : Waiting s.queue.operations ((batch.zip answers).map Prod.fst) := by
      rw [hfirsts]
      exact hs.sent_waiting hbatch
    have hshrinks : Shrinks s.queue.operations (applyAnswers s.queue.operations now (batch.zip answers)) :=
      shrinks_applyAnswers hs.ids ho hw
    refine hs.shrunk rfl rfl hshrinks ?_ ?_ ?_
    · intro operation hin
      rcases hs.accounted operation hin with hopen | hacknowledged | hrefused
      · rcases @accounted_applyAnswers _ _ now hs.ids ho hw _ hopen with hstays | haccepted | hfailed
        · exact .inl hstays
        · exact .inr (.inl (mem_append_right _ haccepted))
        · exact .inr (.inr (mem_append_right _ hfailed))
      · exact .inr (.inl (mem_append_left _ hacknowledged))
      · exact .inr (.inr (mem_append_left _ hrefused))
    · intro next hnext
      cases hnext
      have hall : (⟨flush.done ++ batch, none, flush.rest⟩ : Flush).all = flush.all := by
        show flush.done ++ batch ++ [] ++ flush.rest = _
        rw [append_nil, hunfold]
      constructor
      · rw [hall]
        exact hrunning.ordered
      · rw [hall]
        exact hrunning.bounded
      · intro operation hin
        have hin : operation ∈ flush.rest := hin
        have hone : Waiting s.queue.operations [operation] := by
          refine hrunning.waiting.sublist fun other hother => ?_
          obtain rfl := mem_singleton.mp hother
          exact mem_append_right _ hin
        -- The batch holds none of what is left.
        have hother : ∀ pair ∈ batch.zip answers, pair.1.operationId ≠ operation.operationId := by
          intro pair hpair hid
          obtain ⟨old, hold, hsame, _⟩ := hone operation (mem_singleton_self _)
          obtain ⟨first, hfirst, hequal, _⟩ := hw pair.1 (mem_map_of_mem hpair)
          obtain ⟨hfirstId, _, hfirstSequence⟩ := identity_eq.mp hequal
          obtain ⟨holdId, _, holdSequence⟩ := identity_eq.mp hsame
          have heq : first = old := hs.ids.eq hfirst hold (hfirstId.trans (hid.trans holdId.symm))
          have hordered := hrunning.ordered
          rw [hunfold, pairwise_append] at hordered
          have hmember : pair.1 ∈ batch := by
            rw [← hfirsts]
            exact mem_map_of_mem hpair
          have hlt := hordered.2.2 pair.1 (mem_append_right _ hmember) operation hin
          rw [← hfirstSequence, ← holdSequence, heq] at hlt
          omega
        rcases @accounted_applyAnswers _ _ now hs.ids ho hw _ hone with hstays | haccepted | hfailed
        · exact hstays operation (mem_singleton_self _)
        · obtain ⟨accepted, hpair, hid⟩ := mem_acceptedIds.mp haccepted
          exact absurd hid (hother _ hpair)
        · obtain ⟨record, hrecord, hid⟩ := mem_map.mp hfailed
          obtain ⟨pair, hpair, _, hsame⟩ :=
            record_of_answer (mem_append_left _ (mem_filter.mp hrecord).1)
          exact absurd ((identity_eq.mp hsame).1.symm.trans hid) (hother pair hpair)
      · rw [hall]
        exact hshrinks.nothingAhead hrunning.ahead
      · exact forall_mem_nil _
    · intro operation hin hstatus hcode other hother hahead
      cases hopen : other.isOpen with
      | false => rfl
      | true =>
        obtain ⟨old, hold, hsame, hwas⟩ := hshrinks.opened other hother hopen
        rcases mem_saveAll hin with hrecord | ⟨hkept, _⟩
        · rcases mem_append.mp hrecord with hrefused | hunmentioned
          · obtain ⟨front, first, refusal, back, hsplit, ⟨rfl, _⟩ | ⟨rfl, hlasting, hclear⟩⟩ :=
              mem_refusedRecords hrefused
            · cases hstatus
            · have hcode : refusal.code = .outOfOrder := Option.some.inj hcode
              have hfirstAhead : other.Ahead first := hahead.congr rfl rfl
              have hmember : first ∈ batch := by
                rw [← hfirsts, hsplit]
                simp
              have hsentAhead := hrunning.sentAhead
              rw [hsent, Option.getD_some] at hsentAhead
              obtain ⟨ahead, hin, hequal⟩ :=
                hsentAhead first hmember old hold hwas (hfirstAhead.congr hsame rfl)
              rw [← hfirsts] at hin
              obtain ⟨pair, hpair, rfl⟩ := mem_map.mp hin
              have hclosed := nothing_open_ahead ho htelling hsplit hcode hlasting (hclear hcode).2
                ⟨pair, hpair, hequal.trans hsame⟩ hother hfirstAhead
              rw [hopen] at hclosed
              cases hclosed
          · obtain ⟨pair, _, rfl⟩ := mem_map.mp hunmentioned
            cases hstatus
        · rw [foldl_removeOperation] at hkept
          have hclosed := hs.neverGaveUp operation (mem_filter.mp hkept).1 hstatus hcode old hold
            (hahead.congr hsame rfl)
          rw [hwas] at hclosed
          cases hclosed
  · cases h

theorem Kept.step (hs : Kept s) {event : Event} (hsteady : Steady s event)
    (h : exec event s = .ok s') : Kept s' := by
  cases event with
  | enqueue operationId orderingKey => exact hs.enqueue h
  | dismiss operationId =>
    cases h
    exact hs.dismiss operationId
  | start now force =>
    rw [exec] at h
    split at h
    · cases h
    · cases h
      exact hs.start hsteady
  | send => exact hs.send hsteady h
  | delivered answers =>
    rw [exec] at h
    split at h
    · obtain ⟨applied, _, h⟩ := bind_eq_ok.mp h
      cases h
      exact hs.undisturbed rfl rfl (Shrinks.refl _) (fun _ h => h) (fun _ h _ => h) rfl rfl hs.running
    · cases h
  | answered answers now => exact hs.answered hsteady h
  | failed error now => exact hs.failed h
  | ended =>
    cases h
    exact hs.undisturbed rfl rfl (Shrinks.refl _) (fun _ h => h) (fun _ h _ => h) rfl rfl nofun

/-- A forced flush, its first batch, and a server that mentions every operation. -/
def Complete (s : System) : Event → Prop
  | .start _ force => force = true
  | .send => s.flush.all (·.done.isEmpty) = true
  | .answered answers _ => .unmentioned ∉ answers
  | _ => True

instance (s : System) : ∀ event, Decidable (Complete s event)
  | .start _ force => inferInstanceAs (Decidable (force = true))
  | .send => inferInstanceAs (Decidable (_ = true))
  | .answered answers _ => inferInstanceAs (Decidable (.unmentioned ∉ answers))
  | .enqueue _ _ => isTrue trivial
  | .dismiss _ => isTrue trivial
  | .delivered _ => isTrue trivial
  | .failed _ _ => isTrue trivial
  | .ended => isTrue trivial

end LockIn.Offline
