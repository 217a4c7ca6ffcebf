import Mathlib.Data.List.Nodup
import Mathlib.Data.List.Range

/-!
# Saves of the reader state

The reader state of a personal sheet is one row with a revision.  A save is made over the revision
that its reader last saw, under a key of its own, and the receipt of a key answers it when the save is
sent again.  The log is everything that the server was asked and what it answered.
-/

namespace LockIn.ReaderState

open List

structure Request (κ σ : Type) where
  expectedRevision : Nat
  idempotencyKey : κ
  state : σ

structure Payload (σ : Type) where
  revision : Nat
  state : σ

structure WorkspaceSave (σ : Type) where
  payload : Payload σ
  replayed : Bool

structure Receipt (κ δ σ : Type) where
  idempotencyKey : κ
  requestDigest : δ
  responsePayload : Payload σ

structure Workspace (κ δ σ : Type) where
  state : σ
  revision : Nat
  receipts : List (Receipt κ δ σ)

inductive Refusal where
  | keyReused
  | conflict

inductive Call (κ σ : Type) where
  | save (request : Request κ σ)
  | get
  | probe

inductive Exchange (κ σ : Type) where
  | saved (request : Request κ σ) (answer : Except Refusal (WorkspaceSave σ))
  | got (payload : Payload σ)
  | probed (revision : Nat)

/-- A sheet has no row before its state is first read or saved. -/
structure World (κ δ σ : Type) where
  row : Option (Workspace κ δ σ)
  log : List (Exchange κ σ)

variable {κ δ σ : Type} (digest : Nat → σ → δ) (empty : σ)

def sheetWorkspace (row : Option (Workspace κ δ σ)) : Workspace κ δ σ := row.getD ⟨empty, 0, []⟩

def workspaceRevision (row : Option (Workspace κ δ σ)) : Nat := (row.map (·.revision)).getD 0

def receiptOf (request : Request κ σ) : Receipt κ δ σ :=
  ⟨request.idempotencyKey, digest request.expectedRevision request.state,
    ⟨request.expectedRevision + 1, request.state⟩⟩

/-- The save of an exchange that was carried out, not one that a receipt answered. -/
def Exchange.applied? : Exchange κ σ → Option (Request κ σ)
  | .saved request (.ok ⟨_, false⟩) => some request
  | _ => none

def Exchange.payload? : Exchange κ σ → Option (Payload σ)
  | .saved _ (.ok save) => some save.payload
  | .got payload => some payload
  | _ => none

def applied (log : List (Exchange κ σ)) : List (Request κ σ) := log.filterMap Exchange.applied?

def versions (log : List (Exchange κ σ)) : List σ := empty :: (applied log).map (·.state)

/-- The saves that were carried out form one line of versions.  Each was made over the version before
it, each key was carried out once, and every answer shows a version of that line. -/
structure Serial (log : List (Exchange κ σ)) : Prop where
  made_over : (applied log).map (·.expectedRevision) = List.range (applied log).length
  once : ((applied log).map (·.idempotencyKey)).Nodup
  answered : ∀ request save, .saved request (.ok save) ∈ log → ∃ first ∈ applied log,
    first.idempotencyKey = request.idempotencyKey ∧
    digest first.expectedRevision first.state = digest request.expectedRevision request.state ∧
    save.payload = ⟨first.expectedRevision + 1, first.state⟩
  shown : ∀ exchange ∈ log, ∀ payload ∈ exchange.payload?,
    (versions empty log)[payload.revision]? = some payload.state
  probed : ∀ revision, .probed revision ∈ log → revision < (versions empty log).length

/-- The row is the last version and holds a receipt of every save carried out. -/
structure Sound (world : World κ δ σ) : Prop where
  serial : Serial digest empty world.log
  revision : (sheetWorkspace empty world.row).revision = (applied world.log).length
  state : (versions empty world.log)[(applied world.log).length]? =
    some (sheetWorkspace empty world.row).state
  receipts : (sheetWorkspace empty world.row).receipts =
    (applied world.log).map (receiptOf digest)

variable {digest empty} {world : World κ δ σ} {exchange : Exchange κ σ}

@[simp] theorem applied_append (log : List (Exchange κ σ)) :
    applied (log ++ [exchange]) = applied log ++ exchange.applied?.toList := by
  cases h : exchange.applied? <;> simp [applied, h]

@[simp] theorem length_versions (log : List (Exchange κ σ)) :
    (versions empty log).length = (applied log).length + 1 := by
  simp [versions]

@[simp] theorem workspaceRevision_eq (row : Option (Workspace κ δ σ)) :
    workspaceRevision row = (sheetWorkspace empty row).revision := by
  cases row <;> rfl

theorem versions_append (log : List (Exchange κ σ)) : versions empty (log ++ [exchange]) =
    versions empty log ++ (exchange.applied?.map (·.state)).toList := by
  cases h : exchange.applied? <;> simp [versions, h]

theorem shown_append {log : List (Exchange κ σ)} {place : Nat} {state : σ}
    (h : (versions empty log)[place]? = some state) :
    (versions empty (log ++ [exchange]))[place]? = some state := by
  rw [versions_append, getElem?_append_left (List.getElem?_eq_some_iff.mp h).choose, h]

/-- What an exchange has to meet for the log to stay one line of versions. -/
theorem Serial.append {log : List (Exchange κ σ)} (h : Serial digest empty log)
    (hmade : ∀ request ∈ exchange.applied?, request.expectedRevision = (applied log).length ∧
      request.idempotencyKey ∉ (applied log).map (·.idempotencyKey))
    (hanswered : ∀ request save, exchange = .saved request (.ok save) →
      ∃ first ∈ applied (log ++ [exchange]), first.idempotencyKey = request.idempotencyKey ∧
        digest first.expectedRevision first.state =
          digest request.expectedRevision request.state ∧
        save.payload = ⟨first.expectedRevision + 1, first.state⟩)
    (hshown : ∀ payload ∈ exchange.payload?,
      (versions empty (log ++ [exchange]))[payload.revision]? = some payload.state)
    (hprobed : ∀ revision, exchange = .probed revision → revision ≤ (applied log).length) :
    Serial digest empty (log ++ [exchange]) where
  made_over := by
    cases hex : exchange.applied? with
    | none => simpa [hex] using h.made_over
    | some request => simp [hex, h.made_over, (hmade request hex).1, range_succ]
  once := by
    cases hex : exchange.applied? with
    | none => simpa [hex] using h.once
    | some request =>
      simp only [applied_append, hex, Option.toList_some, map_append, map_cons,
        map_nil]
      exact nodup_append.mpr ⟨h.once, nodup_singleton _, fun key hkey other hother =>
        fun heq => (hmade request hex).2 (by simp_all)⟩
  answered request save hmem := by
    rcases mem_append.mp hmem with hold | hnew
    · obtain ⟨first, hfirst, hsame⟩ := h.answered request save hold
      exact ⟨first, by simp [hfirst], hsame⟩
    · exact hanswered request save (mem_singleton.mp hnew).symm
  shown other hmem payload hpayload := by
    rcases mem_append.mp hmem with hold | hnew
    · exact shown_append (h.shown other hold payload hpayload)
    · rw [mem_singleton.mp hnew] at hpayload
      exact hshown payload hpayload
  probed revision hmem := by
    rcases mem_append.mp hmem with hold | hnew
    · have := h.probed revision hold
      simp only [length_versions, applied_append, length_append] at this ⊢
      omega
    · have := hprobed revision (mem_singleton.mp hnew).symm
      simp only [length_versions, applied_append, length_append]
      omega

variable {request : Request κ σ}

/-- A save that was carried out made the version after the one that it was made over. -/
theorem Serial.version {log : List (Exchange κ σ)} (h : Serial digest empty log)
    (hmem : request ∈ applied log) :
    (versions empty log)[request.expectedRevision + 1]? = some request.state := by
  obtain ⟨place, hlt, hget⟩ := getElem_of_mem hmem
  have hover := congrArg (·[place]?) h.made_over
  simp only [getElem?_map, getElem?_range hlt, getElem?_eq_getElem hlt, hget,
    Option.map_some, Option.some.injEq] at hover
  simp [versions, hover, getElem?_eq_getElem hlt, hget]

/-- An exchange that carries no save out leaves the row what it was. -/
theorem Sound.answer (h : Sound digest empty world) {row : Option (Workspace κ δ σ)}
    (hrow : sheetWorkspace empty row = sheetWorkspace empty world.row)
    (hnone : exchange.applied? = none) (hserial : Serial digest empty (world.log ++ [exchange])) :
    Sound digest empty ⟨row, world.log ++ [exchange]⟩ where
  serial := hserial
  revision := by simpa [hnone, hrow] using h.revision
  state := by simpa [hnone, hrow, versions_append] using h.state
  receipts := by simpa [hnone, hrow] using h.receipts

theorem Sound.apply (h : Sound digest empty world)
    (hover : request.expectedRevision = (applied world.log).length)
    (hfresh : request.idempotencyKey ∉ (applied world.log).map (·.idempotencyKey)) :
    Sound digest empty
      ⟨some ⟨request.state, request.expectedRevision + 1,
        (sheetWorkspace empty world.row).receipts ++ [receiptOf digest request]⟩,
        world.log ++ [.saved request (.ok ⟨(receiptOf digest request).responsePayload, false⟩)]⟩ := by
  have hnew : (versions empty (world.log ++
      [.saved request (.ok ⟨(receiptOf digest request).responsePayload, false⟩)]))[
        request.expectedRevision + 1]? = some request.state := by
    rw [versions_append, getElem?_append_right (by simp [hover])]
    simp [hover, Exchange.applied?]
  refine ⟨h.serial.append ?_ ?_ ?_ (by simp), ?_, ?_, ?_⟩
  · rintro other ⟨⟩
    exact ⟨hover, hfresh⟩
  · rintro other save ⟨⟩
    exact ⟨request, by simp [Exchange.applied?], rfl, rfl, rfl⟩
  · rintro payload ⟨⟩
    exact hnew
  · simp [sheetWorkspace, Exchange.applied?, hover]
  · rw [applied_append]
    simpa [sheetWorkspace, Exchange.applied?, ← hover] using hnew
  · rw [applied_append, map_append, ← h.receipts]
    rfl

variable [DecidableEq κ] [DecidableEq δ] (digest empty)

def saveSheetWorkspace (row : Option (Workspace κ δ σ)) (request : Request κ σ) :
    Except Refusal (Workspace κ δ σ × WorkspaceSave σ) :=
  let workspace := sheetWorkspace empty row
  match workspace.receipts.find? (·.idempotencyKey = request.idempotencyKey) with
  | some receipt =>
    if receipt.requestDigest ≠ digest request.expectedRevision request.state then .error .keyReused
    else .ok (workspace, ⟨receipt.responsePayload, true⟩)
  | none =>
    if workspace.revision ≠ request.expectedRevision then .error .conflict
    else
      let payload := ⟨workspace.revision + 1, request.state⟩
      .ok (⟨request.state, workspace.revision + 1, workspace.receipts ++
          [⟨request.idempotencyKey, digest request.expectedRevision request.state, payload⟩]⟩,
        ⟨payload, false⟩)

def World.serve (world : World κ δ σ) : Call κ σ → World κ δ σ
  | .save request =>
    match saveSheetWorkspace digest empty world.row request with
    | .ok (workspace, save) => ⟨some workspace, world.log ++ [.saved request (.ok save)]⟩
    -- The row that a refused save created goes with its transaction.
    | .error refusal => ⟨world.row, world.log ++ [.saved request (.error refusal)]⟩
  | .get =>
    let workspace := sheetWorkspace empty world.row
    ⟨some workspace, world.log ++ [.got ⟨workspace.revision, workspace.state⟩]⟩
  | .probe => ⟨world.row, world.log ++ [.probed (workspaceRevision world.row)]⟩

def World.after (calls : List (Call κ σ)) : World κ δ σ :=
  calls.foldl (World.serve digest empty) ⟨none, []⟩

/-- A save that a receipt answers, one that is carried out and one that is refused. -/
theorem saveSheetWorkspace_cases (row : Option (Workspace κ δ σ)) (request : Request κ σ) :
    (∃ receipt ∈ (sheetWorkspace empty row).receipts,
      receipt.idempotencyKey = request.idempotencyKey ∧
      receipt.requestDigest = digest request.expectedRevision request.state ∧
      saveSheetWorkspace digest empty row request =
        .ok (sheetWorkspace empty row, ⟨receipt.responsePayload, true⟩)) ∨
    (request.idempotencyKey ∉ (sheetWorkspace empty row).receipts.map (·.idempotencyKey) ∧
      request.expectedRevision = (sheetWorkspace empty row).revision ∧
      saveSheetWorkspace digest empty row request =
        .ok (⟨request.state, request.expectedRevision + 1,
          (sheetWorkspace empty row).receipts ++ [receiptOf digest request]⟩,
          ⟨(receiptOf digest request).responsePayload, false⟩)) ∨
    ∃ refusal, saveSheetWorkspace digest empty row request = .error refusal := by
  rw [saveSheetWorkspace]
  cases hfind : (sheetWorkspace empty row).receipts.find?
      (·.idempotencyKey = request.idempotencyKey) with
  | some receipt =>
    by_cases hsame : receipt.requestDigest = digest request.expectedRevision request.state
    · exact .inl ⟨receipt, mem_of_find?_eq_some hfind,
        by simpa using find?_some hfind, hsame, by simp [hsame]⟩
    · exact .inr (.inr ⟨.keyReused, by simp [hsame]⟩)
  | none =>
    by_cases hover : (sheetWorkspace empty row).revision = request.expectedRevision
    · refine .inr (.inl ⟨fun hmem => ?_, hover.symm, by simp [hover, receiptOf]⟩)
      obtain ⟨receipt, hreceipt, hkey⟩ := mem_map.mp hmem
      exact (find?_eq_none.mp hfind receipt hreceipt) (by simpa using hkey)
    · exact .inr (.inr ⟨.conflict, by simp [hover]⟩)

variable {digest empty}

theorem Sound.serve (h : Sound digest empty world) (call : Call κ σ) :
    Sound digest empty (world.serve digest empty call) := by
  cases call with
  | get =>
    refine h.answer rfl rfl (h.serial.append (by simp [Exchange.applied?]) (by simp) ?_ (by simp))
    rintro payload ⟨⟩
    rw [h.revision]
    exact shown_append h.state
  | probe =>
    refine h.answer rfl rfl (h.serial.append (by simp [Exchange.applied?]) (by simp)
      (by simp [Exchange.payload?]) ?_)
    rintro revision ⟨⟩
    rw [workspaceRevision_eq, h.revision]
  | save request =>
    rw [World.serve]
    rcases saveSheetWorkspace_cases digest empty world.row request with
      ⟨receipt, hmem, hkey, hdigest, hsave⟩ | ⟨hfresh, hover, hsave⟩ | ⟨refusal, hsave⟩
    · rw [hsave]
      rw [h.receipts] at hmem
      obtain ⟨first, hfirst, rfl⟩ := mem_map.mp hmem
      refine h.answer rfl rfl (h.serial.append (by simp [Exchange.applied?]) ?_ ?_ (by simp))
      · rintro other save ⟨⟩
        exact ⟨first, by simp [hfirst], hkey, hdigest, rfl⟩
      · rintro payload ⟨⟩
        exact shown_append (h.serial.version hfirst)
    · rw [hsave]
      rw [h.revision] at hover
      rw [h.receipts, map_map] at hfresh
      exact h.apply hover hfresh
    · rw [hsave]
      exact h.answer rfl rfl (h.serial.append (by simp [Exchange.applied?]) (by simp)
        (by simp [Exchange.payload?]) (by simp))

theorem sound_after (calls : List (Call κ σ)) : Sound digest empty (World.after digest empty calls) := by
  have hstart : Sound digest empty (⟨none, []⟩ : World κ δ σ) :=
    ⟨⟨rfl, .nil, by simp, by simp, by simp⟩, rfl, rfl, rfl⟩
  unfold World.after
  generalize (⟨none, []⟩ : World κ δ σ) = world at hstart
  induction calls generalizing world with
  | nil => exact hstart
  | cons call rest ih => exact ih _ (hstart.serve call)

/-- However saves, reads and repeated saves of any number of readers come in, no save is lost under
another, none is carried out twice and no reader is shown a state under the revision of another. -/
theorem saves_make_one_line (calls : List (Call κ σ)) :
    Serial digest empty (World.after digest empty calls).log :=
  (sound_after calls).serial

end LockIn.ReaderState
