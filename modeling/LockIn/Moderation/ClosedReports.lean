import LockIn.Moderation.Reports
import LockIn.Library.Links

/-!
# Closed reports and their originals

A call files a report, revises one, or leaves the reports alone.  A run keeps beside the desk what
became of every report that a call named or changed.

A transition takes any other report for the original, also one that is itself the duplicate of the
report in hand, and then following the duplicates goes round in a circle.  In a run in which no
report becomes the duplicate of one that leads back to it, duplicates lead to a report that is not
one.
-/

namespace LockIn.Moderation

open Community (Text)
open List Table
open Outcome

variable {settings : Settings} {office : Office} {desk next : Desk} {reports : List Report}
  {actor id now : Nat} {report before after new : Report}

/-! ## What the calls do to the reports -/

def Request.revises : Request → Option Nat
  | .assignReport id _ _ => some id
  | .transitionReport id _ _ => some id
  | .createReport _ | .ingestAssessmentReport .. | .community _ => none

def SameReports (desk next : Desk) : Prop :=
  next.reports = desk.reports ∧ next.nextReport = desk.nextReport

def BothOpen (report other : Report) : Prop :=
  report.status.isClosed = false ∧ other.status.isClosed = false ∧
    report.reporter = other.reporter ∧ report.targetType = other.targetType ∧
    report.targetId = other.targetId ∧ report.reason = other.reason

structure Filed (desk next : Desk) (new : Report) : Prop where
  reports : next.reports = desk.reports ++ [new]
  id : new.id = desk.nextReport
  nextReport : next.nextReport = desk.nextReport + 1
  opened : new.status = .opened
  resolvedAt : new.resolvedAt = none
  duplicateOf : new.duplicateOf = none
  first : ∀ report ∈ desk.reports, ¬ BothOpen report new

def Request.original : Request → Option (Nat × Nat)
  | .transitionReport id _ transition =>
    if transition.status = some .duplicate then transition.duplicateOf.map fun original => (id, original)
    else none
  | .createReport _ | .ingestAssessmentReport .. | .assignReport .. | .community _ => none

/-- What an assignment or a transition makes of a report. -/
inductive Revision (request : Request) (reports : List Report) (before after : Report) : Prop
  | assigned (status : after.status = before.status) (resolvedAt : after.resolvedAt = before.resolvedAt)
      (duplicateOf : after.duplicateOf = before.duplicateOf) (original : request.original = none)
  | moved (wasOpen : before.status.isClosed = false)
      (resolvedAt : after.resolvedAt.isSome = after.status.isClosed)
      (duplicateOf : after.duplicateOf.isSome = true ↔ after.status = .duplicate)
      (found : ∀ original, after.duplicateOf = some original → ∃ report ∈ reports, report.id = original)
      (original : request.original = after.duplicateOf.map fun original => (after.id, original))

structure Revised (request : Request) (desk next : Desk) (before after : Report) : Prop where
  found : Table.find Report.id desk.reports after.id = some before
  reports : next.reports = Table.put Report.id desk.reports after
  nextReport : next.nextReport = desk.nextReport
  revision : after.revision = before.revision + 1
  reporter : after.reporter = before.reporter
  targetType : after.targetType = before.targetType
  targetId : after.targetId = before.targetId
  reason : after.reason = before.reason
  kind : Revision request desk.reports before after

theorem findReport_ok (h : findReport desk id = .ok report) :
    Table.find Report.id desk.reports id = some report := by
  unfold findReport at h
  cases hfind : Table.find Report.id desk.reports id with
  | none => rw [hfind] at h; simp at h
  | some found => rw [hfind] at h; rw [Except.ok.inj h]

theorem consumeReportRate_ok (h : consumeReportRate settings desk actor now = .ok next) :
    SameReports desk next := by
  unfold consumeReportRate at h
  simp only at h
  split at h
  · obtain rfl := Except.ok.inj h
    exact ⟨rfl, rfl⟩
  · split at h
    · obtain rfl := Except.ok.inj h
      exact ⟨rfl, rfl⟩
    · simp at h

variable {snapshot : TargetSnapshot} {description : Text} {expectedRevision last : Nat}
  {call : Call}

theorem isOpenReport_of_bothOpen (h : BothOpen report new)
    (htype : new.targetType = snapshot.targetType) (hid : new.targetId = snapshot.targetId) :
    isOpenReport new.reporter snapshot new.reason report = true := by
  obtain ⟨hopen, _, hreporter, htargetType, htargetId, hreason⟩ := h
  simp [isOpenReport, hopen, hreporter, htargetType, htargetId, hreason, htype, hid]

theorem createReportFromSnapshot_ok {reason : Reason} {clientRequestId : Nat}
    (h : createReportFromSnapshot settings desk actor snapshot reason description clientRequestId now =
      .ok next) : SameReports desk next ∨ ∃ new, Filed desk next new := by
  unfold createReportFromSnapshot at h
  split at h
  · split at h
    · obtain rfl := Except.ok.inj h
      exact .inl ⟨rfl, rfl⟩
    · simp at h
  · split at h
    · obtain rfl := Except.ok.inj h
      exact .inl ⟨rfl, rfl⟩
    · rename_i hfree
      obtain ⟨counted, hcounted, hnext⟩ := bind_eq_ok.1 h
      obtain ⟨hreports, hnextReport⟩ := consumeReportRate_ok hcounted
      obtain rfl := Except.ok.inj hnext
      refine .inr ⟨⟨counted.nextReport, actor, snapshot.targetType, snapshot.targetId,
        snapshot.targetAuthor, snapshot.privateSpace, reason, description, .opened,
        priorityFor reason, none, none, [], 1, clientRequestId, none⟩, ?_⟩
      refine ⟨by rw [hreports], hnextReport, by rw [hnextReport], rfl, rfl, rfl, ?_⟩
      intro report hmem hboth
      exact hfree (List.any_eq_true.2 ⟨report, hmem, isOpenReport_of_bothOpen hboth rfl rfl⟩)

theorem createReport_ok {request : ReportRequest}
    (h : createReport settings office desk actor request now = .ok next) :
    SameReports desk next ∨ ∃ new, Filed desk next new := by
  unfold createReport at h
  split at h
  · simp at h
  · obtain ⟨cleaned, _, hrest⟩ := bind_eq_ok.1 h
    obtain ⟨snapshot, _, hcreate⟩ := bind_eq_ok.1 hrest
    split at hcreate
    · simp at hcreate
    · exact createReportFromSnapshot_ok hcreate

theorem ingestAssessmentReport_ok {legacyReportId question questionOwner : Nat}
    {category : Category}
    (h : ingestAssessmentReport settings desk legacyReportId actor question questionOwner category
      description now = .ok next) : SameReports desk next ∨ ∃ new, Filed desk next new := by
  obtain ⟨cleaned, _, hcreate⟩ := bind_eq_ok.1 h
  exact createReportFromSnapshot_ok hcreate

theorem assignReport_ok {assignee : Nat}
    (h : assignReport office desk actor id expectedRevision assignee = .ok next) :
    ∃ before after, after.id = id ∧
      Revised (.assignReport id expectedRevision assignee) desk next before after := by
  obtain ⟨report, hfound, hrest⟩ := bind_eq_ok.1 h
  have hfind := findReport_ok hfound
  have hid : report.id = id := find_key hfind
  split at hrest
  · simp at hrest
  split at hrest
  · simp at hrest
  split at hrest
  · simp at hrest
  split at hrest
  · simp at hrest
  split at hrest
  · simp at hrest
  · obtain rfl := Except.ok.inj hrest
    refine ⟨report, { report with assignedTo := some assignee, revision := report.revision + 1 },
      hid, ?_⟩
    exact ⟨by rw [← hid] at hfind; exact hfind, rfl, rfl, rfl, rfl, rfl, rfl, rfl,
      .assigned rfl rfl rfl rfl⟩

theorem actOnContent_ok {action : Option Community.ModerationAction} {notes : Text}
    (h : actOnContent settings office desk actor report action notes now = .ok next) :
    SameReports desk next := by
  unfold actOnContent at h
  split at h
  · obtain rfl := Except.ok.inj h
    exact ⟨rfl, rfl⟩
  · obtain ⟨target, _, hmoderate⟩ := bind_eq_ok.1 h
    split at hmoderate
    · simp at hmoderate
    · obtain rfl := Except.ok.inj hmoderate
      exact ⟨rfl, rfl⟩

theorem chooseOriginal_ok {status : Status} {asked chosen : Option Nat}
    (h : chooseOriginal desk report status asked = .ok chosen) :
    (status ≠ .duplicate ∧ chosen = none) ∨
      (status = .duplicate ∧ ∃ original ∈ desk.reports,
        asked = some original.id ∧ chosen = some original.id) := by
  unfold chooseOriginal at h
  split at h
  · rename_i hstatus
    exact .inl ⟨hstatus, (Except.ok.inj h).symm⟩
  · rename_i hstatus
    right
    refine ⟨not_not.1 hstatus, ?_⟩
    split at h
    · simp at h
    · rename_i original
      split at h
      · simp at h
      split at h
      · simp at h
      · rename_i hsome
        cases hfind : Table.find Report.id desk.reports original with
        | none => exact absurd (by rw [hfind]; rfl) hsome
        | some found =>
          have hid : found.id = original := find_key hfind
          exact ⟨found, find_mem hfind, by rw [hid], by rw [hid]; exact (Except.ok.inj h).symm⟩

theorem transitionReport_ok {transition : Transition}
    (h : transitionReport settings office desk actor id expectedRevision transition now = .ok next) :
    ∃ before after, after.id = id ∧
      Revised (.transitionReport id expectedRevision transition) desk next before after := by
  obtain ⟨report, hfound, hrest⟩ := bind_eq_ok.1 h
  have hfind := findReport_ok hfound
  have hid : report.id = id := find_key hfind
  rw [← hid] at hfind
  split at hrest
  · simp at hrest
  split at hrest
  · simp at hrest
  split at hrest
  · simp at hrest
  rename_i hopen
  split at hrest
  · simp at hrest
  · simp at hrest
  · rename_i status _ hstatus
    obtain ⟨notes, _, hchoose⟩ := bind_eq_ok.1 hrest
    obtain ⟨chosen, hchosen, hact⟩ := bind_eq_ok.1 hchoose
    obtain ⟨acted, hacted, hnext⟩ := bind_eq_ok.1 hact
    obtain ⟨hreports, hnextReport⟩ := actOnContent_ok hacted
    obtain rfl := Except.ok.inj hnext
    refine ⟨report, { report with
      status := status
      resolutionNotes := notes
      duplicateOf := chosen
      resolvedAt := if status.isClosed then some now else none
      revision := report.revision + 1 }, hid, ?_⟩
    refine ⟨hfind, by rw [hreports], hnextReport, rfl, rfl, rfl, rfl, rfl, ?_⟩
    have hresolved : (if status.isClosed then some now else none).isSome = status.isClosed := by
      cases status.isClosed <;> rfl
    rcases chooseOriginal_ok hchosen with ⟨hother, rfl⟩ | ⟨rfl, original, hmem, hasked, rfl⟩
    · refine .moved (by simpa using hopen) hresolved ⟨by simp, fun heq => absurd heq hother⟩ (by simp) ?_
      have hne : transition.status ≠ some .duplicate := by
        rw [hstatus]
        exact fun heq => hother (Option.some.inj heq)
      exact if_neg hne
    · refine .moved (by simpa using hopen) hresolved ⟨fun _ => rfl, fun _ => rfl⟩ ?_ ?_
      · intro found hfound
        exact ⟨original, hmem, Option.some.inj hfound⟩
      · show (if transition.status = some .duplicate then _ else none) = _
        rw [if_pos hstatus, hasked, ← hid]

theorem exec_ok (h : call.exec settings desk = .ok next) :
    match call.request.revises with
    | none => (SameReports desk next ∨ ∃ new, Filed desk next new) ∧ call.request.original = none
    | some id => ∃ before after, after.id = id ∧ Revised call.request desk next before after := by
  obtain ⟨request, actor, now, office⟩ := call
  cases request with
  | createReport request => exact ⟨createReport_ok h, rfl⟩
  | ingestAssessmentReport legacyReportId question questionOwner category description =>
    exact ⟨ingestAssessmentReport_ok h, rfl⟩
  | assignReport id expectedRevision assignee => exact assignReport_ok h
  | transitionReport id expectedRevision transition => exact transitionReport_ok h
  | community request =>
    refine ⟨.inl ?_, rfl⟩
    unfold Call.exec at h
    simp only at h
    split at h
    · simp at h
    · obtain rfl := Except.ok.inj h
      exact ⟨rfl, rfl⟩

def duplicateLink (reports : List Report) (id : Nat) : Option Nat :=
  (Table.find Report.id reports id).bind (·.duplicateOf)

theorem duplicateLink_put (h : Table.find Report.id reports after.id = some before) :
    duplicateLink (Table.put Report.id reports after) =
      Function.update (duplicateLink reports) after.id after.duplicateOf := by
  funext id
  by_cases heq : id = after.id
  · subst heq
    rw [Function.update_self]
    unfold duplicateLink
    rw [find_put_self h]
    rfl
  · rw [Function.update_of_ne heq]
    unfold duplicateLink
    rw [find_put_of_ne heq]

theorem duplicateLink_append (h : new.duplicateOf = none) :
    duplicateLink (reports ++ [new]) = duplicateLink reports := by
  funext id
  unfold duplicateLink
  rw [find_append]
  cases hfind : Table.find Report.id reports id with
  | some found => rfl
  | none =>
    by_cases heq : new.id = id
    · simp [Table.find, heq, h]
    · simp [Table.find, heq]

def linkAfter (request : Request) (link : Nat → Option Nat) : Nat → Option Nat :=
  match request.original with
  | none => link
  | some (id, original) => Function.update link id (some original)

/-! ## Runs -/

structure Change where
  before : Report
  after : Option Report

def changesOf (request : Request) (reports next : List Report) : List Change :=
  (reports.map fun report => ⟨report, Table.find Report.id next report.id⟩).filter fun change =>
    decide (change.after ≠ some change.before) || decide (request.revises = some change.before.id)

def moderation (settings : Settings) : Machine (Desk × List Change) Call ModerationError where
  init := (emptyDesk, [])
  exec call run := (fun next => (next, run.2 ++ changesOf call.request run.1.reports next.reports)) <$>
    call.exec settings run.1
  time := Call.now

/-- No report becomes the duplicate of one from which the duplicates lead back to it. -/
def Guarded (run : Desk × List Change) (call : Call) : Prop :=
  match call.request.original with
  | none => True
  | some (id, original) =>
    id ∉ Links.trail (duplicateLink run.1.reports) run.1.reports.length original

instance (run : Desk × List Change) (call : Call) : Decidable (Guarded run call) := by
  unfold Guarded
  split <;> infer_instance

def ChangeSound (change : Change) : Prop :=
  ∃ after, change.after = some after ∧ after.revision = change.before.revision + 1 ∧
    (change.before.status.isClosed = true → after.status = change.before.status)

structure Sound (run : Desk × List Change) : Prop where
  changes : ∀ change ∈ run.2, ChangeSound change
  resolvedAt : ∀ report ∈ run.1.reports, report.resolvedAt.isSome = report.status.isClosed
  oneOpen : ∀ report ∈ run.1.reports, ∀ other ∈ run.1.reports, BothOpen report other → report = other
  duplicates : ∀ report ∈ run.1.reports, report.status = .duplicate →
    Links.Ends (duplicateLink run.1.reports) report.id ∧
      ∃ original ∈ run.1.reports, original.status ≠ .duplicate ∧
        Links.Leads (duplicateLink run.1.reports) report.id original.id

structure Kept (desk : Desk) : Prop where
  distinct : Table.Distinct Report.id desk.reports
  below : ∀ report ∈ desk.reports, report.id < desk.nextReport
  resolvedAt : ∀ report ∈ desk.reports, report.resolvedAt.isSome = report.status.isClosed
  oneOpen : ∀ report ∈ desk.reports, ∀ other ∈ desk.reports, BothOpen report other → report = other
  linked : ∀ report ∈ desk.reports, report.duplicateOf.isSome = true ↔ report.status = .duplicate
  lands : ∀ report ∈ desk.reports, ∀ original, report.duplicateOf = some original →
    ∃ found ∈ desk.reports, found.id = original

theorem kept_empty : Kept emptyDesk where
  distinct := nodup_nil
  below := by simp [emptyDesk]
  resolvedAt := by simp [emptyDesk]
  oneOpen := by simp [emptyDesk]
  linked := by simp [emptyDesk]
  lands := by simp [emptyDesk]

theorem Kept.same (h : Kept desk) (hsame : SameReports desk next) : Kept next := by
  obtain ⟨hreports, hnextReport⟩ := hsame
  constructor
  · rw [hreports]; exact h.distinct
  · rw [hreports, hnextReport]; exact h.below
  · rw [hreports]; exact h.resolvedAt
  · rw [hreports]; exact h.oneOpen
  · rw [hreports]; exact h.linked
  · rw [hreports]; exact h.lands

theorem Kept.open_duplicateOf (h : Kept desk) (hreport : report ∈ desk.reports)
    (hopen : report.status.isClosed = false) : report.duplicateOf = none := by
  cases hduplicate : report.duplicateOf with
  | none => rfl
  | some original =>
    have hstatus := (h.linked report hreport).1 (by rw [hduplicate]; rfl)
    rw [hstatus] at hopen
    exact absurd hopen (by simp [Status.isClosed])

theorem BothOpen.symm (h : BothOpen before after) : BothOpen after before := by
  obtain ⟨hbefore, hafter, hreporter, htype, hid, hreason⟩ := h
  exact ⟨hafter, hbefore, hreporter.symm, htype.symm, hid.symm, hreason.symm⟩

theorem Kept.filed (h : Kept desk) (hfiled : Filed desk next new) : Kept next := by
  have hmem : ∀ {report}, report ∈ next.reports → report ∈ desk.reports ∨ report = new := by
    intro report hreport
    rw [hfiled.reports, mem_append] at hreport
    exact hreport.imp_right mem_singleton.1
  constructor
  · rw [hfiled.reports]
    refine h.distinct.append ?_
    intro report hreport
    have hlt := h.below report hreport
    rw [hfiled.id]
    omega
  · intro report hreport
    rw [hfiled.nextReport]
    rcases hmem hreport with hold | rfl
    · have hlt := h.below report hold
      omega
    · rw [hfiled.id]
      omega
  · intro report hreport
    rcases hmem hreport with hold | rfl
    · exact h.resolvedAt report hold
    · rw [hfiled.resolvedAt, hfiled.opened]
      rfl
  · intro report hreport other hother hboth
    rcases hmem hreport with hold | rfl
    · rcases hmem hother with hotherOld | rfl
      · exact h.oneOpen report hold other hotherOld hboth
      · exact absurd hboth (hfiled.first report hold)
    · rcases hmem hother with hotherOld | rfl
      · exact absurd hboth.symm (hfiled.first other hotherOld)
      · rfl
  · intro report hreport
    rcases hmem hreport with hold | rfl
    · exact h.linked report hold
    · rw [hfiled.duplicateOf, hfiled.opened]
      simp
  · intro report hreport original horiginal
    rcases hmem hreport with hold | rfl
    · obtain ⟨found, hfound, hid⟩ := h.lands report hold original horiginal
      exact ⟨found, by rw [hfiled.reports]; exact mem_append_left _ hfound, hid⟩
    · rw [hfiled.duplicateOf] at horiginal
      simp at horiginal

section
variable {request : Request}

theorem Revised.mem_before (hrevised : Revised request desk next before after) :
    before ∈ desk.reports := find_mem hrevised.found

theorem Revised.id_before (hrevised : Revised request desk next before after) :
    before.id = after.id := find_key hrevised.found

theorem Revised.mem_next (hrevised : Revised request desk next before after)
    (hreport : report ∈ next.reports) :
    report = after ∨ (report ∈ desk.reports ∧ report.id ≠ after.id) := by
  rw [hrevised.reports] at hreport
  rcases mem_put.1 hreport with ⟨heq, _⟩ | hold
  · exact .inl heq
  · exact .inr hold

theorem Revised.open_before (hrevised : Revised request desk next before after)
    (hopen : after.status.isClosed = false) : before.status.isClosed = false := by
  cases hrevised.kind with
  | assigned hstatus _ _ _ => rw [← hstatus]; exact hopen
  | moved hwas _ _ _ _ => exact hwas

theorem Revised.bothOpen_before (hrevised : Revised request desk next before after)
    (hboth : BothOpen report after) : BothOpen report before := by
  obtain ⟨hreport, hafter, hreporter, htype, hid, hreason⟩ := hboth
  exact ⟨hreport, hrevised.open_before hafter, hreporter.trans hrevised.reporter,
    htype.trans hrevised.targetType, hid.trans hrevised.targetId, hreason.trans hrevised.reason⟩

theorem Kept.revised_oneOpen (h : Kept desk) (hrevised : Revised request desk next before after)
    (hreport : report ∈ desk.reports) (hne : report.id ≠ after.id) : ¬ BothOpen report after := by
  intro hboth
  have hsame := h.oneOpen report hreport before hrevised.mem_before (hrevised.bothOpen_before hboth)
  exact hne (hsame ▸ hrevised.id_before)

theorem Kept.revised (h : Kept desk) (hrevised : Revised request desk next before after) :
    Kept next := by
  have hids : ∀ {id}, (∃ found ∈ desk.reports, found.id = id) → ∃ found ∈ next.reports, found.id = id := by
    rintro id ⟨found, hfound, hid⟩
    rw [hrevised.reports]
    have hkey : id ∈ (Table.put Report.id desk.reports after).map Report.id := by
      rw [map_key_put]
      exact mem_map.2 ⟨found, hfound, hid⟩
    exact mem_map.1 hkey
  constructor
  · rw [hrevised.reports]
    exact h.distinct.put after
  · intro report hreport
    rw [hrevised.nextReport]
    rcases hrevised.mem_next hreport with rfl | ⟨hold, _⟩
    · rw [← hrevised.id_before]
      exact h.below before hrevised.mem_before
    · exact h.below report hold
  · intro report hreport
    rcases hrevised.mem_next hreport with rfl | ⟨hold, _⟩
    · cases hrevised.kind with
      | assigned hstatus hresolved _ _ =>
        rw [hresolved, hstatus]
        exact h.resolvedAt before hrevised.mem_before
      | moved _ hresolved _ _ _ => exact hresolved
    · exact h.resolvedAt report hold
  · intro report hreport other hother hboth
    rcases hrevised.mem_next hreport with rfl | ⟨hold, hne⟩
    · rcases hrevised.mem_next hother with rfl | ⟨hotherOld, hotherNe⟩
      · rfl
      · exact absurd hboth.symm (h.revised_oneOpen hrevised hotherOld hotherNe)
    · rcases hrevised.mem_next hother with rfl | ⟨hotherOld, _⟩
      · exact absurd hboth (h.revised_oneOpen hrevised hold hne)
      · exact h.oneOpen report hold other hotherOld hboth
  · intro report hreport
    rcases hrevised.mem_next hreport with rfl | ⟨hold, _⟩
    · cases hrevised.kind with
      | assigned hstatus _ hduplicate _ =>
        rw [hduplicate, hstatus]
        exact h.linked before hrevised.mem_before
      | moved _ _ hduplicate _ _ => exact hduplicate
    · exact h.linked report hold
  · intro report hreport original horiginal
    rcases hrevised.mem_next hreport with rfl | ⟨hold, _⟩
    · cases hrevised.kind with
      | assigned _ _ hduplicate _ =>
        exact hids (h.lands before hrevised.mem_before original (hduplicate ▸ horiginal))
      | moved _ _ _ hfound _ => exact hids (hfound original horiginal)
    · exact hids (h.lands report hold original horiginal)

theorem Kept.revised_changes (h : Kept desk) (hrevised : Revised request desk next before after)
    (hnamed : request.revises = some after.id) :
    ∀ change ∈ changesOf request desk.reports next.reports, ChangeSound change := by
  intro change hmem
  obtain ⟨hrow, hchanged⟩ := mem_filter.1 hmem
  obtain ⟨report, hreport, rfl⟩ := mem_map.1 hrow
  rw [hrevised.reports] at hchanged ⊢
  by_cases hid : report.id = after.id
  · have hsame : report = before := h.distinct.eq hreport hrevised.mem_before
      (hid.trans hrevised.id_before.symm)
    subst hsame
    refine ⟨after, ?_, hrevised.revision, ?_⟩
    · show Table.find Report.id (Table.put Report.id desk.reports after) report.id = some after
      rw [hid]
      exact find_put_self hrevised.found
    · intro hclosed
      cases hrevised.kind with
      | assigned hstatus _ _ _ => exact hstatus
      | moved hwas _ _ _ _ => exact absurd hclosed (by simp [hwas])
  · have hfind : Table.find Report.id (Table.put Report.id desk.reports after) report.id = some report := by
      rw [find_put_of_ne hid]
      exact h.distinct.find hreport
    have hother : after.id ≠ report.id := fun heq => hid heq.symm
    simp [hfind, hnamed, hother] at hchanged

end

theorem no_changes (hnone : call.request.revises = none)
    (hkeeps : ∀ report ∈ desk.reports, Table.find Report.id next.reports report.id = some report) :
    changesOf call.request desk.reports next.reports = [] := by
  rw [changesOf, filter_eq_nil_iff]
  intro change hmem
  obtain ⟨report, hreport, rfl⟩ := mem_map.1 hmem
  simp [hkeeps report hreport, hnone]

theorem Kept.exec (h : Kept desk) (hexec : call.exec settings desk = .ok next) :
    Kept next ∧ (∀ change ∈ changesOf call.request desk.reports next.reports, ChangeSound change) ∧
      duplicateLink next.reports = linkAfter call.request (duplicateLink desk.reports) := by
  have hdoes := exec_ok hexec
  unfold linkAfter
  cases hrevises : call.request.revises with
  | none =>
    rw [hrevises] at hdoes
    obtain ⟨hdone, horiginal⟩ := hdoes
    rw [horiginal]
    rcases hdone with hsame | ⟨new, hfiled⟩
    · refine ⟨h.same hsame, ?_, by rw [hsame.1]⟩
      rw [no_changes hrevises fun report hreport => by rw [hsame.1]; exact h.distinct.find hreport]
      simp
    · refine ⟨h.filed hfiled, ?_, ?_⟩
      · rw [no_changes hrevises fun report hreport => by
          rw [hfiled.reports, find_append, h.distinct.find hreport]; rfl]
        simp
      · rw [hfiled.reports]
        exact duplicateLink_append hfiled.duplicateOf
  | some id =>
    rw [hrevises] at hdoes
    obtain ⟨before, after, rfl, hrevised⟩ := hdoes
    refine ⟨h.revised hrevised, h.revised_changes hrevised hrevises, ?_⟩
    rw [hrevised.reports, duplicateLink_put hrevised.found]
    have hbefore : duplicateLink desk.reports after.id = before.duplicateOf := by
      unfold duplicateLink
      rw [hrevised.found]
      rfl
    cases hrevised.kind with
    | assigned _ _ hduplicate horiginal =>
      rw [horiginal, hduplicate, ← hbefore, Function.update_eq_self]
    | moved hwas _ hduplicate _ horiginal =>
      rw [horiginal]
      cases hafter : after.duplicateOf with
      | some original => rfl
      | none =>
        have hlink : duplicateLink desk.reports after.id = none :=
          hbefore.trans (h.open_duplicateOf hrevised.mem_before hwas)
        show Function.update (duplicateLink desk.reports) after.id none = duplicateLink desk.reports
        rw [← hlink, Function.update_eq_self]

theorem Kept.leads_mem (h : Kept desk) (hleads : Links.Leads (duplicateLink desk.reports) id last)
    (hid : ∃ report ∈ desk.reports, report.id = id) :
    ∃ report ∈ desk.reports, report.id = last := by
  induction hleads with
  | refl => exact hid
  | @step id link last hlink _ ih =>
    apply ih
    obtain ⟨found, hfind, hduplicate⟩ := Option.bind_eq_some_iff.1 hlink
    exact h.lands found (find_mem hfind) link hduplicate

theorem Kept.duplicates (h : Kept desk) (hends : ∀ id, Links.Ends (duplicateLink desk.reports) id) :
    ∀ report ∈ desk.reports, report.status = .duplicate →
      Links.Ends (duplicateLink desk.reports) report.id ∧
        ∃ original ∈ desk.reports, original.status ≠ .duplicate ∧
          Links.Leads (duplicateLink desk.reports) report.id original.id := by
  intro report hreport _
  refine ⟨hends report.id, ?_⟩
  obtain ⟨last, hleads, hlast⟩ := (hends report.id).reaches
  obtain ⟨original, horiginal, rfl⟩ := h.leads_mem hleads ⟨report, hreport, rfl⟩
  refine ⟨original, horiginal, ?_, hleads⟩
  intro hstatus
  have hlinked := (h.linked original horiginal).2 hstatus
  have hnone : original.duplicateOf = none := by
    have hfind := h.distinct.find horiginal
    unfold duplicateLink at hlast
    rw [hfind] at hlast
    exact hlast
  rw [hnone] at hlinked
  simp at hlinked

theorem mem_trail_iff (hends : ∀ id, Links.Ends (duplicateLink desk.reports) id) {first : Nat} :
    last ∈ Links.trail (duplicateLink desk.reports) desk.reports.length first ↔
      Links.Leads (duplicateLink desk.reports) first last := by
  constructor
  · exact Links.leads_of_mem_trail
  · intro hleads
    have hlength : desk.reports.length = (desk.reports.map Report.id).length := by
      rw [length_map]
    rw [hlength]
    refine Links.mem_trail_of_leads (hends first) ?_ hleads
    intro id _ hlink
    unfold duplicateLink at hlink
    cases hfind : Table.find Report.id desk.reports id with
    | none => rw [hfind] at hlink; simp at hlink
    | some found => exact mem_map.2 ⟨found, find_mem hfind, find_key hfind⟩

theorem Kept.ends_exec_iff (h : Kept desk)
    (hends : ∀ id, Links.Ends (duplicateLink desk.reports) id) (changes : List Change)
    (hexec : call.exec settings desk = .ok next) :
    (∀ id, Links.Ends (duplicateLink next.reports) id) ↔ Guarded (desk, changes) call := by
  obtain ⟨_, _, hlink⟩ := h.exec hexec
  rw [hlink]
  unfold linkAfter Guarded
  cases call.request.original with
  | none => exact ⟨fun _ => trivial, fun _ => hends⟩
  | some named => exact (Links.ends_update_iff hends).trans (not_congr (mem_trail_iff hends).symm)

theorem reached_kept {run : Desk × List Change}
    (h : (moderation settings).Reaches Guarded run now) :
    Kept run.1 ∧ (∀ change ∈ run.2, ChangeSound change) ∧
      ∀ id, Links.Ends (duplicateLink run.1.reports) id := by
  refine h.invariant (I := fun run _ => Kept run.1 ∧ (∀ change ∈ run.2, ChangeSound change) ∧
    ∀ id, Links.Ends (duplicateLink run.1.reports) id) ?_ ?_
  · refine ⟨kept_empty, by simp [moderation], ?_⟩
    intro id
    exact .stop rfl
  · rintro ⟨desk, changes⟩ now call next ⟨hkept, hchanges, hends⟩ _ hguarded hexec
    obtain ⟨after, hafter, rfl⟩ := map_eq_ok.1 hexec
    obtain ⟨hnext, hnew, _⟩ := hkept.exec hafter
    refine ⟨hnext, ?_, (hkept.ends_exec_iff hends changes hafter).2 hguarded⟩
    intro change hmem
    rcases mem_append.1 hmem with hold | hadded
    · exact hchanges change hold
    · exact hnew change hadded

/-- In every run in which no report becomes the duplicate of one that leads back to it, closed
reports stay closed and duplicates lead to an original. -/
theorem duplicates_lead_to_original {run : Desk × List Change} {now : Nat}
    (h : (moderation settings).Reaches Guarded run now) : Sound run := by
  obtain ⟨hkept, hchanges, hends⟩ := reached_kept h
  exact ⟨hchanges, hkept.resolvedAt, hkept.oneOpen, hkept.duplicates hends⟩

def plainSettings : Settings where
  rules := {
    isSpace := fun char => char = ' '
    lower := fun text => text
    sameLetter := fun first second => first = second
    digest := fun text => text.length
    windowSeconds := fun _ => 300
    limit := fun _ => 20 }
  windowSeconds := 600
  limit := 10

/-- Question 7 is published by 9, and 2 is a moderator. -/
def plainOffice : Office := ⟨⟨[2], [], [], []⟩, [], [(7, 9)], []⟩

def wrongKey : Text := "The second option is right.".toList

def seenBefore : Text := "Somebody said this before.".toList

def reportBy (user at' : Nat) : Call :=
  ⟨.createReport ⟨some .answer, 7, some .incorrectAnswer, wrongKey, 1⟩, user, at', plainOffice⟩

def closeAs (status : Status) (report revision : Nat) (original : Option Nat) (at' : Nat) : Call :=
  ⟨.transitionReport report revision ⟨some status, seenBefore, original, none⟩, 2, at', plainOffice⟩

def duplicateOfResolved : List Call :=
  [reportBy 1 10, reportBy 3 20, ⟨.assignReport 1 1 2, 2, 30, plainOffice⟩,
    closeAs .duplicate 2 1 (some 1) 40, closeAs .resolved 1 2 none 50]

def duplicateOfEachOther : List Call :=
  [reportBy 1 10, reportBy 3 20, closeAs .duplicate 2 1 (some 1) 30, closeAs .duplicate 1 1 (some 2) 40]

theorem duplicate_of_resolved_sound : Sound ((moderation plainSettings).outcome duplicateOfResolved) :=
  duplicates_lead_to_original
    (.of_accepts (by decide +kernel) (by decide +kernel) (by decide +kernel))

/-- An original may itself be the duplicate of the report in hand. -/
theorem duplicates_of_each_other_circle :
    ¬ ∀ (settings : Settings) (run : Desk × List Change) (now : Nat),
      (moderation settings).Reaches Machine.Always run now → Sound run := by
  intro h
  have hreached : (moderation plainSettings).Reaches Machine.Always
      ((moderation plainSettings).outcome duplicateOfEachOther)
      ((moderation plainSettings).lastTime 0 duplicateOfEachOther) :=
    .of_accepts (by decide +kernel) (by decide +kernel) (Machine.admitted_always _ _)
  have hsound := h _ _ _ hreached
  have hdone : ((moderation plainSettings).outcome duplicateOfEachOther).1.reports.any
      (fun report => report.id = 1 && report.status = .duplicate) = true := by
    decide +kernel
  have hforth : duplicateLink ((moderation plainSettings).outcome duplicateOfEachOther).1.reports 1 =
      some 2 := by
    decide +kernel
  have hback : duplicateLink ((moderation plainSettings).outcome duplicateOfEachOther).1.reports 2 =
      some 1 := by
    decide +kernel
  obtain ⟨report, hmem, hrow⟩ := List.any_eq_true.1 hdone
  simp only [Bool.and_eq_true, decide_eq_true_eq] at hrow
  obtain ⟨hid, hstatus⟩ := hrow
  obtain ⟨hends, _⟩ := hsound.duplicates report hmem hstatus
  rw [hid] at hends
  exact hends.no_cycle hforth (.step hback (.refl 1))

end LockIn.Moderation
