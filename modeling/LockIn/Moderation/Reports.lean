import LockIn.Community.Content

/-!
# Reports

Users report discussions, replies, questions and learning objects, and assessment attempts pass on
the reports made in them.  Moderators assign a report, move it between its open states and close
it as resolved, as rejected or as the duplicate of another report, and may act on the reported
content in the same call.
-/

namespace LockIn.Moderation

open Community (Text Directory ModerationAction)

inductive TargetType where
  | discussion
  | comment
  | question
  | answer
  | explanation
  | learningObject
deriving DecidableEq

inductive Reason where
  | spam
  | abuse
  | incorrectQuestion
  | incorrectAnswer
  | incorrectExplanation
  | duplicate
  | other
deriving DecidableEq

inductive Status where
  | opened
  | triaged
  | inProgress
  | resolved
  | rejected
  | duplicate
deriving DecidableEq

def Status.isClosed : Status → Bool
  | .opened | .triaged | .inProgress => false
  | .resolved | .rejected | .duplicate => true

inductive Priority where
  | routine
  | important
  | urgent
deriving DecidableEq

structure Report where
  id : Nat
  reporter : Nat
  targetType : TargetType
  targetId : Nat
  targetAuthor : Option Nat
  privateSpace : Option Nat
  reason : Reason
  description : Text
  status : Status
  priority : Priority
  assignedTo : Option Nat
  duplicateOf : Option Nat
  resolutionNotes : Text
  revision : Nat
  clientRequestId : Nat
  resolvedAt : Option Nat
deriving DecidableEq

structure RateBucket where
  user : Nat
  windowStartedAt : Nat
  count : Nat

/-- The reports in the order they were created, beside what the community holds. -/
structure Desk where
  community : Community.World
  reports : List Report
  buckets : List RateBucket
  nextReport : Nat

inductive ModerationError where
  | rule (message : String)
  | conflict (message : String)
  | rateLimit (message : String)
  | doesNotExist
  | community (error : Community.CommunityError)

structure Settings where
  rules : Community.Rules
  windowSeconds : Nat
  limit : Nat

/-- What a call finds outside the tables: the roles and spaces, who has the capability to manage
reports, and the published questions and learning objects with their owners. -/
structure Office where
  directory : Directory
  managers : List Nat
  questions : List (Nat × Nat)
  learningObjects : List (Nat × Nat)

section
variable (office : Office) (user : Nat)

def hasReportConflict (report : Report) : Bool :=
  report.reporter = user || report.targetAuthor = some user

def moderatedPrivateSpaceIds : List Nat :=
  ((office.directory.spaces.filter (·.owner = user)).map (·.id)) ++
    ((office.directory.memberships.filter fun row =>
      row.user = user && row.role = .moderator && row.isActive).map (·.space))

def canManageReport (report : Report) : Bool :=
  if Community.isAdministrator office.directory user then true
  else if hasReportConflict user report then false
  else if user ∈ office.managers then true
  else
    match report.privateSpace with
    | none => Community.isGlobalModerator office.directory user
    | some space => space ∈ moderatedPrivateSpaceIds office user

end

/-- What is reported, as far as a report or its check reads it. -/
structure TargetSnapshot where
  targetType : TargetType
  targetId : Nat
  targetAuthor : Option Nat
  privateSpace : Option Nat

section
variable (settings : Settings)

def consumeReportRate (desk : Desk) (user now : Nat) : Except ModerationError Desk :=
  let start := Community.windowStart now settings.windowSeconds
  let isBucket := fun row : RateBucket => row.user = user && row.windowStartedAt = start
  match desk.buckets.find? isBucket with
  | none => .ok { desk with buckets := desk.buckets ++ [⟨user, start, 1⟩] }
  | some bucket =>
    if bucket.count < settings.limit then
      .ok { desk with
        buckets := desk.buckets.map fun row =>
          if isBucket row then { row with count := row.count + 1 } else row }
    else .error (.rateLimit "Too many reports. Please wait and try again.")

def targetNotFound : ModerationError := .rule "Report target not found."

def resolveDiscussion (office : Office) (desk : Desk) (user id : Nat) :
    Except ModerationError Community.Discussion :=
  match Table.find Community.Discussion.id desk.community.discussions id with
  | none => .error targetNotFound
  | some discussion =>
    if Community.canViewDiscussion office.directory user discussion then .ok discussion
    else .error targetNotFound

def resolvePublished (published : List (Nat × Nat)) (id : Nat) : Except ModerationError Nat :=
  match published.find? (·.1 = id) with
  | none => .error targetNotFound
  | some found => .ok found.2

def resolveTarget (office : Office) (desk : Desk) (user : Nat) (targetType : Option TargetType)
    (id : Nat) : Except ModerationError TargetSnapshot :=
  match targetType with
  | some .discussion => do
    let discussion ← resolveDiscussion office desk user id
    .ok ⟨.discussion, id, some discussion.author, discussion.space⟩
  | some .comment =>
    match Table.find Community.Comment.id desk.community.comments id with
    | none => .error targetNotFound
    | some comment => do
      let discussion ← resolveDiscussion office desk user comment.discussion
      .ok ⟨.comment, id, some comment.author, discussion.space⟩
  | some .learningObject => do
    let owner ← resolvePublished office.learningObjects id
    .ok ⟨.learningObject, id, some owner, none⟩
  | some targetType => do
    let owner ← resolvePublished office.questions id
    .ok ⟨targetType, id, some owner, none⟩
  | none => .error (.rule "Unsupported report target.")

def priorityFor (reason : Reason) : Priority := if reason = .abuse then .important else .routine

def cleanDescription (description : Text) : Except ModerationError Text :=
  let cleaned := Community.strip settings.rules description
  if cleaned.length < 10 then
    .error (.rule "Report details must contain at least 10 characters.")
  else if 4000 < cleaned.length then
    .error (.rule "Report details cannot exceed 4000 characters.")
  else if Char.ofNat 0 ∈ cleaned then
    .error (.rule "Report details contain unsupported characters.")
  else .ok cleaned

def isOpenReport (reporter : Nat) (snapshot : TargetSnapshot) (reason : Reason)
    (report : Report) : Bool :=
  report.reporter = reporter && report.targetType = snapshot.targetType &&
    report.targetId = snapshot.targetId && report.reason = reason && !report.status.isClosed

def createReportFromSnapshot (desk : Desk) (reporter : Nat) (snapshot : TargetSnapshot)
    (reason : Reason) (description : Text) (clientRequestId now : Nat) :
    Except ModerationError Desk :=
  match desk.reports.find? fun row =>
      row.reporter = reporter && row.clientRequestId = clientRequestId with
  | some existing =>
    if existing.targetType = snapshot.targetType ∧ existing.targetId = snapshot.targetId ∧
        existing.reason = reason ∧ existing.description = description then
      .ok desk
    else .error (.conflict "That report request identifier is already in use.")
  | none =>
    if desk.reports.any (isOpenReport reporter snapshot reason) then .ok desk
    else do
      let counted ← consumeReportRate settings desk reporter now
      .ok { counted with
        reports := counted.reports ++
          [⟨counted.nextReport, reporter, snapshot.targetType, snapshot.targetId,
            snapshot.targetAuthor, snapshot.privateSpace, reason, description, .opened,
            priorityFor reason, none, none, [], 1, clientRequestId, none⟩]
        nextReport := counted.nextReport + 1 }

/-- What a user asks for.  No reason or type stands for one that is not supported. -/
structure ReportRequest where
  targetType : Option TargetType
  targetId : Nat
  reason : Option Reason
  description : Text
  clientRequestId : Nat

def createReport (office : Office) (desk : Desk) (reporter : Nat) (request : ReportRequest)
    (now : Nat) : Except ModerationError Desk :=
  match request.reason with
  | none => .error (.rule "Unsupported report reason.")
  | some reason => do
    let cleaned ← cleanDescription settings request.description
    let snapshot ← resolveTarget office desk reporter request.targetType request.targetId
    if snapshot.targetAuthor = some reporter then
      .error (.rule "You cannot report your own community content.")
    else
      createReportFromSnapshot settings desk reporter snapshot reason cleaned
        request.clientRequestId now

inductive Category where
  | answerKey
  | explanation
  | ambiguous
  | outdated
  | typo
  | other
  | unlisted

def Category.targetType : Category → TargetType
  | .answerKey => .answer
  | .explanation => .explanation
  | .ambiguous | .outdated | .typo | .other | .unlisted => .question

def Category.reason : Category → Reason
  | .answerKey => .incorrectAnswer
  | .explanation => .incorrectExplanation
  | .ambiguous | .outdated | .typo => .incorrectQuestion
  | .other | .unlisted => .other

def ingestAssessmentReport (desk : Desk) (legacyReportId reporter question questionOwner : Nat)
    (category : Category) (description : Text) (now : Nat) : Except ModerationError Desk := do
  let cleaned ← cleanDescription settings description
  createReportFromSnapshot settings desk reporter
    ⟨category.targetType, question, some questionOwner, none⟩ category.reason cleaned legacyReportId now

def findReport (desk : Desk) (id : Nat) : Except ModerationError Report :=
  match Table.find Report.id desk.reports id with
  | none => .error .doesNotExist
  | some report => .ok report

def assignReport (office : Office) (desk : Desk) (actor id expectedRevision assignee : Nat) :
    Except ModerationError Desk := do
  let report ← findReport desk id
  if !canManageReport office actor report then .error (.rule "You cannot assign this report.")
  else if report.revision ≠ expectedRevision then
    .error (.conflict "This report changed. Reload it and try again.")
  else if !Community.isGlobalModerator office.directory assignee then
    .error (.rule "Reports can be assigned only to a moderator or administrator.")
  else if !Community.isAdministrator office.directory actor && assignee ≠ actor then
    .error (.rule "Moderators may claim reports only for themselves.")
  else if hasReportConflict assignee report then
    .error (.rule "A conflicted moderator cannot be assigned this report.")
  else
    .ok { desk with
      reports := Table.put Report.id desk.reports
        { report with assignedTo := some assignee, revision := report.revision + 1 } }

structure Transition where
  status : Option Status
  resolutionNotes : Text
  duplicateOf : Option Nat
  contentAction : Option ModerationAction

/-- Notes that close a report are neither short nor long. -/
def cleanNotes (status : Status) (resolutionNotes : Text) : Except ModerationError Text :=
  let notes := Community.strip settings.rules resolutionNotes
  if status.isClosed && (decide (notes.length < 10) || decide (4000 < notes.length)) then
    .error (.rule "Resolution notes between 10 and 4000 characters are required.")
  else .ok notes

def chooseOriginal (desk : Desk) (report : Report) (status : Status) (duplicateOf : Option Nat) :
    Except ModerationError (Option Nat) :=
  if status ≠ .duplicate then .ok none
  else
    match duplicateOf with
    | none => .error (.rule "Choose the original report for this duplicate.")
    | some original =>
      if original = report.id then
        .error (.rule "Choose the original report for this duplicate.")
      else if (Table.find Report.id desk.reports original).isNone then
        .error (.rule "Original report not found.")
      else .ok (some original)

def asModerationError : Community.CommunityError → ModerationError
  | .rule message => .rule message
  | .doesNotExist => .doesNotExist
  | error => .community error

def contentTarget (report : Report) : Except ModerationError Community.Target :=
  match report.targetType with
  | .discussion => .ok (.discussion report.targetId)
  | .comment => .ok (.comment report.targetId)
  | _ => .error (.rule "Content actions apply only to community reports.")

def actOnContent (office : Office) (desk : Desk) (actor : Nat) (report : Report)
    (action : Option ModerationAction) (notes : Text) (now : Nat) : Except ModerationError Desk :=
  match action with
  | none => .ok desk
  | some action => do
    let target ← contentTarget report
    match Community.moderateContent settings.rules office.directory desk.community actor target action
        notes now with
    | .error error => .error (asModerationError error)
    | .ok world => .ok { desk with community := world }

def transitionReport (office : Office) (desk : Desk) (actor id expectedRevision : Nat)
    (transition : Transition) (now : Nat) : Except ModerationError Desk := do
  let report ← findReport desk id
  if !canManageReport office actor report then .error (.rule "You cannot resolve this report.")
  else if report.revision ≠ expectedRevision then
    .error (.conflict "This report changed. Reload it and try again.")
  else if report.status.isClosed then .error (.rule "This report is already closed.")
  else
    match transition.status with
    | none | some .opened => .error (.rule "Unsupported report transition.")
    | some status => do
      let notes ← cleanNotes settings status transition.resolutionNotes
      let original ← chooseOriginal desk report status transition.duplicateOf
      let acted ← actOnContent settings office desk actor report transition.contentAction notes now
      .ok { acted with
        reports := Table.put Report.id acted.reports
          { report with
            status := status
            resolutionNotes := notes
            duplicateOf := original
            resolvedAt := if status.isClosed then some now else none
            revision := report.revision + 1 } }

end

inductive Request where
  | createReport (request : ReportRequest)
  | ingestAssessmentReport (legacyReportId question questionOwner : Nat) (category : Category)
      (description : Text)
  | assignReport (id expectedRevision assignee : Nat)
  | transitionReport (id expectedRevision : Nat) (transition : Transition)
  | community (request : Community.Request)

structure Call where
  request : Request
  actor : Nat
  now : Nat
  office : Office

def Call.exec (settings : Settings) (call : Call) (desk : Desk) : Except ModerationError Desk :=
  match call.request with
  | .createReport request =>
    Moderation.createReport settings call.office desk call.actor request call.now
  | .ingestAssessmentReport legacyReportId question questionOwner category description =>
    Moderation.ingestAssessmentReport settings desk legacyReportId call.actor question questionOwner
      category description call.now
  | .assignReport id expectedRevision assignee =>
    Moderation.assignReport call.office desk call.actor id expectedRevision assignee
  | .transitionReport id expectedRevision transition =>
    Moderation.transitionReport settings call.office desk call.actor id expectedRevision transition
      call.now
  | .community request =>
    match Community.Call.exec settings.rules ⟨request, call.actor, call.now, call.office.directory⟩
        desk.community with
    | .error error => .error (.community error)
    | .ok world => .ok { desk with community := world }

def emptyDesk : Desk := ⟨Community.emptyWorld, [], [], 1⟩

end LockIn.Moderation
