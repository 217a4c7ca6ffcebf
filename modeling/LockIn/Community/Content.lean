import LockIn.Library.Machine
import LockIn.Library.Table

/-!
# Discussions and replies

Students discuss a learning context, in the open or in a creator space, and reply to each other.
Authors edit and delete what they wrote, moderators remove, restore, lock and unlock it, and every
change of an item leaves a numbered revision.  Each call is one transaction.
-/

namespace LockIn.Community

abbrev Text : Type := List Char

inductive Status where
  | active
  | locked
  | authorDeleted
  | moderatorRemoved
deriving DecidableEq

inductive Reason where
  | created
  | edited
  | authorDeleted
  | moderatorRemoved
  | restored
  | locked
  | unlocked

inductive ContextType where
  | lesson
  | learningObject
  | question
  | quiz
deriving DecidableEq

inductive RateAction where
  | discussionCreate
  | commentCreate
  | contentEdit
deriving DecidableEq

/-- What Python knows about characters, and the limits of the settings. -/
structure Rules where
  isSpace : Char → Bool
  lower : Text → Text
  /-- Whether `re.IGNORECASE` takes two characters for the same. -/
  sameLetter : Char → Char → Bool
  /-- The SHA-256 digest of a text. -/
  digest : Text → Nat
  windowSeconds : RateAction → Nat
  limit : RateAction → Nat

structure Discussion where
  id : Nat
  author : Nat
  space : Option Nat
  contextType : ContextType
  contextId : Nat
  title : Text
  body : Text
  bodyDigest : Nat
  status : Status
  removalReason : Text
  revision : Nat
  commentCount : Nat
  clientRequestId : Nat
  lastActivityAt : Nat
  deletedAt : Option Nat
  createdAt : Nat

structure DiscussionRevision where
  discussion : Nat
  editor : Nat
  revision : Nat
  title : Text
  body : Text
  reason : Reason
  note : Text

/-- A reply.  It is never locked. -/
structure Comment where
  id : Nat
  discussion : Nat
  parent : Option Nat
  author : Nat
  body : Text
  bodyDigest : Nat
  status : Status
  removalReason : Text
  revision : Nat
  clientRequestId : Nat
  deletedAt : Option Nat
  createdAt : Nat

structure CommentRevision where
  comment : Nat
  editor : Nat
  revision : Nat
  body : Text
  reason : Reason
  note : Text

structure RateBucket where
  user : Nat
  action : RateAction
  windowStartedAt : Nat
  count : Nat

/-- The tables, the rows in the order they were created, and the next free ids. -/
structure World where
  discussions : List Discussion
  discussionRevisions : List DiscussionRevision
  comments : List Comment
  commentRevisions : List CommentRevision
  buckets : List RateBucket
  nextDiscussion : Nat
  nextComment : Nat

inductive CommunityError where
  | rule (message : String)
  | conflict (message : String)
  | rateLimit (message : String)
  | doesNotExist

inductive MemberRole where
  | member
  | moderator
deriving DecidableEq

structure Space where
  id : Nat
  owner : Nat
  isActive : Bool
  contextType : ContextType
  contextId : Nat

structure Membership where
  space : Nat
  user : Nat
  role : MemberRole
  isActive : Bool

/-- The roles, the spaces and their members, as a call finds them. -/
structure Directory where
  moderators : List Nat
  administrators : List Nat
  spaces : List Space
  memberships : List Membership

section
variable (directory : Directory) (user : Nat)

def isGlobalModerator : Bool := user ∈ directory.moderators || user ∈ directory.administrators

def isAdministrator : Bool := user ∈ directory.administrators

def membershipFor (space : Space) : Option Membership :=
  directory.memberships.find? fun row => row.space = space.id && row.user = user && row.isActive

def canViewSpace (space : Space) : Bool :=
  isAdministrator directory user || space.owner = user || (membershipFor directory user space).isSome

def canManageSpace (space : Space) : Bool := isAdministrator directory user || space.owner = user

def canModerateSpace (space : Space) : Bool :=
  canManageSpace directory user space ||
    (membershipFor directory user space).any (·.role = .moderator)

def findSpace (id : Nat) : Option Space := Table.find Space.id directory.spaces id

def canViewDiscussion (discussion : Discussion) : Bool :=
  match discussion.space with
  | none => true
  | some id => (findSpace directory id).any (canViewSpace directory user)

def canCreateInSpace (space : Space) : Bool := space.isActive && canViewSpace directory user space

def canEditDiscussion (discussion : Discussion) : Bool :=
  discussion.author = user && discussion.status = .active

def canModerateIn (space : Option Nat) : Bool :=
  match space with
  | none => isGlobalModerator directory user
  | some id => (findSpace directory id).any (canModerateSpace directory user)

def canRemoveDiscussion (discussion : Discussion) : Bool :=
  if discussion.author = user && discussion.status = .active then true
  else canModerateIn directory user discussion.space

end

section
variable (rules : Rules)

/-- `" ".join(value.split())`. -/
def singleSpaced (value : Text) : Text :=
  [' '].intercalate ((value.splitOnP rules.isSpace).filter (· ≠ []))

def strip (value : Text) : Text :=
  (((value.dropWhile rules.isSpace).reverse).dropWhile rules.isSpace).reverse

/-- Whether `re.match` finds `pattern` at the start of a text. -/
def startsLike (pattern : Text) (value : Text) : Bool :=
  pattern.length ≤ value.length &&
    (pattern.zip value).all fun pair => rules.sameLetter pair.1 pair.2

/-- `len(_URL_PATTERN.findall(value))`: a match cannot overlap the next one. -/
def linkCount : Text → Nat
  | [] => 0
  | char :: rest =>
    (if startsLike rules "http://".toList (char :: rest) ||
        startsLike rules "https://".toList (char :: rest) then 1 else 0) + linkCount rest

inductive Label where
  | title
  | discussion
  | reply
deriving DecidableEq

def Label.text : Label → String
  | .title => "Title"
  | .discussion => "Discussion"
  | .reply => "Reply"

def cleanText (value : Text) (label : Label) (minimum maximum : Nat) : Except CommunityError Text :=
  let cleaned := if label = .title then singleSpaced rules value else strip rules value
  if cleaned.length < minimum then
    .error (.rule (label.text ++ " must contain at least " ++ toString minimum ++ " characters."))
  else if maximum < cleaned.length then
    .error (.rule (label.text ++ " cannot exceed " ++ toString maximum ++ " characters."))
  else if Char.ofNat 0 ∈ cleaned then
    .error (.rule (label.text ++ " contains unsupported characters."))
  else if 5 < linkCount rules cleaned then
    .error (.rule (label.text ++ " contains too many links."))
  else .ok cleaned

def cleanTitle (value : Text) : Except CommunityError Text := cleanText rules value .title 8 220

def cleanBody (value : Text) : Except CommunityError Text :=
  cleanText rules value .discussion 20 10000

def cleanReply (value : Text) : Except CommunityError Text := cleanText rules value .reply 3 6000

def bodyDigest (body : Text) : Nat := rules.digest (singleSpaced rules (rules.lower body))

def second : Nat := 1000000

def minute : Nat := 60 * second

def windowStart (now seconds : Nat) : Nat := (now / second - now / second % seconds) * second

def consumeRateLimit (world : World) (user : Nat) (action : RateAction) (now : Nat) :
    Except CommunityError World :=
  let start := windowStart now (rules.windowSeconds action)
  let isBucket := fun row : RateBucket =>
    row.user = user && row.action = action && row.windowStartedAt = start
  match world.buckets.find? isBucket with
  | none => .ok { world with buckets := world.buckets ++ [⟨user, action, start, 1⟩] }
  | some bucket =>
    if bucket.count < rules.limit action then
      .ok { world with
        buckets := world.buckets.map fun row =>
          if isBucket row then { row with count := row.count + 1 } else row }
    else .error (.rateLimit "Too many community actions. Please wait and try again.")

def assertNotDuplicateDiscussion (world : World) (author digest now : Nat) :
    Except CommunityError Unit :=
  if world.discussions.any fun row =>
      row.author = author && row.bodyDigest = digest && (row.status = .active || row.status = .locked) &&
        decide (now ≤ row.createdAt + 10 * minute) then
    .error (.rule "That discussion was already posted recently.")
  else .ok ()

def assertNotDuplicateComment (world : World) (author discussion digest now : Nat) :
    Except CommunityError Unit :=
  if world.comments.any fun row =>
      row.author = author && row.discussion = discussion && row.bodyDigest = digest &&
        row.status = .active && decide (now ≤ row.createdAt + 5 * minute) then
    .error (.rule "That reply was already posted recently.")
  else .ok ()

def findDiscussion (world : World) (id : Nat) : Except CommunityError Discussion :=
  match Table.find Discussion.id world.discussions id with
  | none => .error .doesNotExist
  | some discussion => .ok discussion

def findComment (world : World) (id : Nat) : Except CommunityError Comment :=
  match Table.find Comment.id world.comments id with
  | none => .error .doesNotExist
  | some comment => .ok comment

def saveDiscussion (world : World) (discussion : Discussion) (editor : Nat) (reason : Reason)
    (note : Text) : World :=
  { world with
    discussions := Table.put Discussion.id world.discussions discussion
    discussionRevisions := world.discussionRevisions ++
      [⟨discussion.id, editor, discussion.revision, discussion.title, discussion.body, reason, note⟩] }

def saveComment (world : World) (comment : Comment) (editor : Nat) (reason : Reason)
    (note : Text) : World :=
  { world with
    comments := Table.put Comment.id world.comments comment
    commentRevisions := world.commentRevisions ++
      [⟨comment.id, editor, comment.revision, comment.body, reason, note⟩] }

/-- What the caller asks for, and what `resolve_context` says of the context. -/
structure DiscussionRequest where
  contextType : ContextType
  contextId : Nat
  title : Text
  body : Text
  clientRequestId : Nat
  space : Option Nat
  refusal : Option String

def checkSpace (directory : Directory) (actor : Nat) (request : DiscussionRequest) :
    Except CommunityError Unit :=
  match request.space with
  | none => .ok ()
  | some id =>
    match findSpace directory id with
    | none => .error (.rule "Creator space not found.")
    | some space =>
      if !canCreateInSpace directory actor space then
        .error (.rule "You cannot post in this creator space.")
      else if space.contextType ≠ request.contextType ∨ space.contextId ≠ request.contextId then
        .error (.rule "Discussion context must match the creator space.")
      else .ok ()

def createDiscussion (directory : Directory) (world : World) (actor : Nat)
    (request : DiscussionRequest) (now : Nat) : Except CommunityError World := do
  let title ← cleanTitle rules request.title
  let body ← cleanBody rules request.body
  match world.discussions.find? fun row =>
      row.author = actor && row.clientRequestId = request.clientRequestId with
  | some existing =>
    if existing.contextType = request.contextType ∧ existing.contextId = request.contextId ∧
        existing.space = request.space ∧ existing.title = title ∧ existing.body = body then
      .ok world
    else .error (.conflict "That request identifier is already in use.")
  | none =>
    match request.refusal with
    | some message => .error (.rule message)
    | none => do
      checkSpace directory actor request
      let digest := bodyDigest rules body
      assertNotDuplicateDiscussion world actor digest now
      let counted ← consumeRateLimit rules world actor .discussionCreate now
      .ok { counted with
        discussions := counted.discussions ++
          [⟨counted.nextDiscussion, actor, request.space, request.contextType, request.contextId, title,
            body, digest, .active, [], 1, 0, request.clientRequestId, now, none, now⟩]
        discussionRevisions := counted.discussionRevisions ++
          [⟨counted.nextDiscussion, actor, 1, title, body, .created, []⟩]
        nextDiscussion := counted.nextDiscussion + 1 }

def editDiscussion (world : World) (actor id expectedRevision : Nat) (title body : Text) (now : Nat) :
    Except CommunityError World := do
  let discussion ← findDiscussion world id
  if !canEditDiscussion actor discussion then .error (.rule "You cannot edit this discussion.")
  else if discussion.revision ≠ expectedRevision then
    .error (.conflict "This discussion changed. Reload it and try again.")
  else do
    let title ← cleanTitle rules title
    let body ← cleanBody rules body
    let counted ← consumeRateLimit rules world actor .contentEdit now
    .ok (saveDiscussion counted
      { discussion with
        title := title
        body := body
        bodyDigest := bodyDigest rules body
        revision := discussion.revision + 1 } actor .edited [])

def deleteOwnDiscussion (world : World) (actor id expectedRevision now : Nat) :
    Except CommunityError World := do
  let discussion ← findDiscussion world id
  if discussion.author ≠ actor ∨ discussion.status ≠ .active then
    .error (.rule "You cannot delete this discussion.")
  else if discussion.revision ≠ expectedRevision then
    .error (.conflict "This discussion changed. Reload it and try again.")
  else
    .ok (saveDiscussion world
      { discussion with
        status := .authorDeleted
        deletedAt := some now
        revision := discussion.revision + 1 } actor .authorDeleted [])

/-- The reply that is answered is in the discussion, not itself an answer to one, and active. -/
def checkParent (world : World) (discussion : Nat) (parent : Option Nat) :
    Except CommunityError Unit :=
  match parent with
  | none => .ok ()
  | some id =>
    match world.comments.find? fun row => row.id = id && row.discussion = discussion with
    | none => .error (.rule "Parent reply not found.")
    | some found =>
      if found.parent ≠ none then .error (.rule "Replies can be nested one level only.")
      else if found.status ≠ .active then .error (.rule "You cannot reply to a removed comment.")
      else .ok ()

def createComment (directory : Directory) (world : World) (actor id : Nat) (body : Text)
    (clientRequestId : Nat) (parent : Option Nat) (now : Nat) : Except CommunityError World := do
  let body ← cleanReply rules body
  match world.comments.find? fun row =>
      row.author = actor && row.clientRequestId = clientRequestId with
  | some existing =>
    if existing.discussion = id ∧ existing.parent = parent ∧ existing.body = body then .ok world
    else .error (.conflict "That request identifier is already in use.")
  | none =>
    match Table.find Discussion.id world.discussions id with
    | none => .error (.rule "Discussion not found.")
    | some discussion =>
      if !canViewDiscussion directory actor discussion then .error (.rule "Discussion not found.")
      else if discussion.status ≠ .active then
        .error (.rule "This discussion is not accepting replies.")
      else do
        checkParent world id parent
        let digest := bodyDigest rules body
        assertNotDuplicateComment world actor id digest now
        let counted ← consumeRateLimit rules world actor .commentCreate now
        .ok { counted with
          discussions := Table.put Discussion.id counted.discussions
            { discussion with
              commentCount := discussion.commentCount + 1
              lastActivityAt := now }
          comments := counted.comments ++
            [⟨counted.nextComment, id, parent, actor, body, digest, .active, [], 1, clientRequestId,
              none, now⟩]
          commentRevisions := counted.commentRevisions ++
            [⟨counted.nextComment, actor, 1, body, .created, []⟩]
          nextComment := counted.nextComment + 1 }

def editComment (world : World) (actor id expectedRevision : Nat) (body : Text) (now : Nat) :
    Except CommunityError World := do
  let comment ← findComment world id
  if comment.author ≠ actor ∨ comment.status ≠ .active then
    .error (.rule "You cannot edit this reply.")
  else if comment.revision ≠ expectedRevision then
    .error (.conflict "This reply changed. Reload it and try again.")
  else do
    let body ← cleanReply rules body
    let counted ← consumeRateLimit rules world actor .contentEdit now
    .ok (saveComment counted
      { comment with
        body := body
        bodyDigest := bodyDigest rules body
        revision := comment.revision + 1 } actor .edited [])

def deleteOwnComment (world : World) (actor id expectedRevision now : Nat) :
    Except CommunityError World := do
  let comment ← findComment world id
  if comment.author ≠ actor ∨ comment.status ≠ .active then
    .error (.rule "You cannot delete this reply.")
  else if comment.revision ≠ expectedRevision then
    .error (.conflict "This reply changed. Reload it and try again.")
  else
    .ok (saveComment world
      { comment with
        status := .authorDeleted
        deletedAt := some now
        revision := comment.revision + 1 } actor .authorDeleted [])

inductive ModerationAction where
  | remove
  | restore
  | lock
  | unlock
deriving DecidableEq

/-- What an action leaves of an item: its status, its `deleted_at` and the reason of its revision. -/
structure Moderated where
  status : Status
  deletedAt : Option Nat
  reason : Reason

def discussionAction (status : Status) (now : Nat) :
    ModerationAction → Except CommunityError Moderated
  | .remove => .ok ⟨.moderatorRemoved, some now, .moderatorRemoved⟩
  | .restore =>
    if status ≠ .moderatorRemoved then
      .error (.rule "Only moderator-removed discussions can be restored.")
    else .ok ⟨.active, none, .restored⟩
  | .lock => .ok ⟨.locked, none, .locked⟩
  | .unlock => .ok ⟨.active, none, .unlocked⟩

def commentAction (status : Status) (now : Nat) : ModerationAction → Except CommunityError Moderated
  | .remove => .ok ⟨.moderatorRemoved, some now, .moderatorRemoved⟩
  | .restore =>
    if status ≠ .moderatorRemoved then
      .error (.rule "Only moderator-removed replies can be restored.")
    else .ok ⟨.active, none, .restored⟩
  | .lock | .unlock => .error (.rule "Unsupported moderation action.")

def removalNote (action : ModerationAction) (note : Text) : Text :=
  if action = .remove then note else []

def moderateDiscussion (directory : Directory) (world : World) (actor id : Nat)
    (action : ModerationAction) (note : Text) (now : Nat) : Except CommunityError World := do
  let discussion ← findDiscussion world id
  if !canRemoveDiscussion directory actor discussion then
    .error (.rule "You cannot moderate this discussion.")
  else do
    let moderated ← discussionAction discussion.status now action
    .ok (saveDiscussion world
      { discussion with
        status := moderated.status
        deletedAt := moderated.deletedAt
        removalReason := removalNote action note
        revision := discussion.revision + 1 } actor moderated.reason note)

def moderateComment (directory : Directory) (world : World) (actor id : Nat)
    (action : ModerationAction) (note : Text) (now : Nat) : Except CommunityError World := do
  let comment ← findComment world id
  let discussion ← findDiscussion world comment.discussion
  if !canModerateIn directory actor discussion.space then
    .error (.rule "You cannot moderate this reply.")
  else do
    let moderated ← commentAction comment.status now action
    .ok (saveComment world
      { comment with
        status := moderated.status
        deletedAt := moderated.deletedAt
        removalReason := removalNote action note
        revision := comment.revision + 1 } actor moderated.reason note)

/-- A discussion or a reply. -/
inductive Target where
  | discussion (id : Nat)
  | comment (id : Nat)
deriving DecidableEq

def moderateContent (directory : Directory) (world : World) (actor : Nat) (target : Target)
    (action : ModerationAction) (reason : Text) (now : Nat) : Except CommunityError World :=
  let note := strip rules reason
  if note.length < 10 ∨ 4000 < note.length then
    .error (.rule "A moderation reason between 10 and 4000 characters is required.")
  else
    match target with
    | .discussion id => moderateDiscussion directory world actor id action note now
    | .comment id => moderateComment directory world actor id action note now

end

inductive Request where
  | createDiscussion (request : DiscussionRequest)
  | editDiscussion (id expectedRevision : Nat) (title body : Text)
  | deleteOwnDiscussion (id expectedRevision : Nat)
  | createComment (discussion : Nat) (body : Text) (clientRequestId : Nat) (parent : Option Nat)
  | editComment (id expectedRevision : Nat) (body : Text)
  | deleteOwnComment (id expectedRevision : Nat)
  | moderateContent (target : Target) (action : ModerationAction) (reason : Text)

/-- A request, who makes it and when, and the roles and memberships of that moment. -/
structure Call where
  request : Request
  actor : Nat
  now : Nat
  directory : Directory

def Call.exec (rules : Rules) (call : Call) (world : World) : Except CommunityError World :=
  match call.request with
  | .createDiscussion request =>
    Community.createDiscussion rules call.directory world call.actor request call.now
  | .editDiscussion id expectedRevision title body =>
    Community.editDiscussion rules world call.actor id expectedRevision title body call.now
  | .deleteOwnDiscussion id expectedRevision =>
    Community.deleteOwnDiscussion world call.actor id expectedRevision call.now
  | .createComment discussion body clientRequestId parent =>
    Community.createComment rules call.directory world call.actor discussion body clientRequestId parent
      call.now
  | .editComment id expectedRevision body =>
    Community.editComment rules world call.actor id expectedRevision body call.now
  | .deleteOwnComment id expectedRevision =>
    Community.deleteOwnComment world call.actor id expectedRevision call.now
  | .moderateContent target action reason =>
    Community.moderateContent rules call.directory world call.actor target action reason call.now

def emptyWorld : World := ⟨[], [], [], [], [], 1, 1⟩

end LockIn.Community
