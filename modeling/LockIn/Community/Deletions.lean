import LockIn.Community.Content

/-!
# Deleted and removed items

A discussion and a reply are read alike, as an entry with its status and the revisions that it
left.  Every call creates an entry, or does one deed to one entry.  A run keeps beside the tables
the items that their authors deleted and those that moderators removed and did not restore since.

Only restoring looks at the status it starts from.  So what an author deleted comes back when a
moderator locks or unlocks it, or removes and restores it, and what a moderator removed comes back
by unlocking it.  In a run without these everything deleted stays deleted.
-/

namespace LockIn.Community

open List Outcome Table

variable {rules : Rules} {world next : World} {directory : Directory} {actor id now : Nat}
  {target other : Target}

/-- What a discussion and a reply have in common, with the numbers and texts of its revisions in
the order they were made. -/
structure Entry where
  status : Status
  deletedAt : Option Nat
  revision : Nat
  text : Text × Text
  revisions : List (Nat × Text × Text)

def discussionRevisionsOf (world : World) (id : Nat) : List (Nat × Text × Text) :=
  (world.discussionRevisions.filter (·.discussion = id)).map fun row =>
    (row.revision, row.title, row.body)

def commentRevisionsOf (world : World) (id : Nat) : List (Nat × Text × Text) :=
  (world.commentRevisions.filter (·.comment = id)).map fun row => (row.revision, [], row.body)

def discussionEntry (world : World) (discussion : Discussion) : Entry :=
  ⟨discussion.status, discussion.deletedAt, discussion.revision, (discussion.title, discussion.body),
    discussionRevisionsOf world discussion.id⟩

/-- A reply has no title. -/
def commentEntry (world : World) (comment : Comment) : Entry :=
  ⟨comment.status, comment.deletedAt, comment.revision, ([], comment.body),
    commentRevisionsOf world comment.id⟩

def entryOf (world : World) : Target → Option Entry
  | .discussion id => (Table.find Discussion.id world.discussions id).map (discussionEntry world)
  | .comment id => (Table.find Comment.id world.comments id).map (commentEntry world)

structure EntrySound (entry : Entry) : Prop where
  deletedAt : entry.deletedAt.isSome = true ↔
    entry.status = .authorDeleted ∨ entry.status = .moderatorRemoved
  numbers : entry.revisions.map Prod.fst = List.range' 1 entry.revision
  newest : entry.revisions.getLast? = some (entry.revision, entry.text)

def Entry.revised (entry : Entry) (status : Status) (deletedAt : Option Nat) (text : Text × Text) :
    Entry :=
  ⟨status, deletedAt, entry.revision + 1, text,
    entry.revisions ++ [(entry.revision + 1, text)]⟩

def newEntry (text : Text × Text) : Entry := ⟨.active, none, 1, text, [(1, text)]⟩

theorem newEntry_sound (text : Text × Text) : EntrySound (newEntry text) where
  deletedAt := by simp [newEntry]
  numbers := rfl
  newest := rfl

variable {entry : Entry} {expectedRevision bound : Nat} {body : Text} {action : ModerationAction}
  {moderated : Moderated} {α : Type} {call : Call}

theorem EntrySound.revised (h : EntrySound entry) {status : Status} {deletedAt : Option Nat}
    {text : Text × Text}
    (hdeleted : deletedAt.isSome = true ↔ status = .authorDeleted ∨ status = .moderatorRemoved) :
    EntrySound (entry.revised status deletedAt text) where
  deletedAt := hdeleted
  numbers := by
    have hrange : List.range' 1 (entry.revision + 1) =
        List.range' 1 entry.revision ++ [entry.revision + 1] := by
      rw [range'_concat, Nat.one_mul, Nat.add_comm 1 entry.revision]
    show (entry.revisions ++ [(entry.revision + 1, text)]).map Prod.fst =
      List.range' 1 (entry.revision + 1)
    rw [map_append, h.numbers, hrange]
    rfl
  newest := getLast?_concat

inductive Deed where
  | edit
  | delete
  | moderate (action : ModerationAction)

/-- What a deed makes of an entry, and where its guard lets it. -/
inductive Does (now : Nat) : Deed → Entry → Entry → Prop
  | edit {entry : Entry} (text : Text × Text) : entry.status = .active →
      Does now .edit entry (entry.revised entry.status entry.deletedAt text)
  | delete {entry : Entry} : entry.status = .active →
      Does now .delete entry (entry.revised .authorDeleted (some now) entry.text)
  | remove {entry : Entry} :
      Does now (.moderate .remove) entry (entry.revised .moderatorRemoved (some now) entry.text)
  | restore {entry : Entry} : entry.status = .moderatorRemoved →
      Does now (.moderate .restore) entry (entry.revised .active none entry.text)
  | lock {entry : Entry} :
      Does now (.moderate .lock) entry (entry.revised .locked none entry.text)
  | unlock {entry : Entry} :
      Does now (.moderate .unlock) entry (entry.revised .active none entry.text)

theorem Does.sound {deed : Deed} {after : Entry} (hdoes : Does now deed entry after)
    (h : EntrySound entry) : EntrySound after := by
  cases hdoes with
  | edit text _ => exact h.revised h.deletedAt
  | delete _ => exact h.revised (by simp)
  | remove => exact h.revised (by simp)
  | restore _ => exact h.revised (by simp)
  | lock => exact h.revised (by simp)
  | unlock => exact h.revised (by simp)

def Request.deed : Request → Option (Target × Deed)
  | .createDiscussion _ | .createComment .. => none
  | .editDiscussion id _ _ _ => some (.discussion id, .edit)
  | .deleteOwnDiscussion id _ => some (.discussion id, .delete)
  | .editComment id _ _ => some (.comment id, .edit)
  | .deleteOwnComment id _ => some (.comment id, .delete)
  | .moderateContent target action _ => some (target, .moderate action)

/-! ## What the calls write -/

theorem findDiscussion_ok {discussion : Discussion}
    (h : findDiscussion world id = .ok discussion) :
    Table.find Discussion.id world.discussions id = some discussion := by
  unfold findDiscussion at h
  cases hfind : Table.find Discussion.id world.discussions id with
  | none => rw [hfind] at h; simp at h
  | some found => rw [hfind] at h; rw [Except.ok.inj h]

theorem findComment_ok {comment : Comment} (h : findComment world id = .ok comment) :
    Table.find Comment.id world.comments id = some comment := by
  unfold findComment at h
  cases hfind : Table.find Comment.id world.comments id with
  | none => rw [hfind] at h; simp at h
  | some found => rw [hfind] at h; rw [Except.ok.inj h]

structure SameItems (world next : World) : Prop where
  discussions : next.discussions = world.discussions
  discussionRevisions : next.discussionRevisions = world.discussionRevisions
  comments : next.comments = world.comments
  commentRevisions : next.commentRevisions = world.commentRevisions
  nextDiscussion : next.nextDiscussion = world.nextDiscussion
  nextComment : next.nextComment = world.nextComment

theorem SameItems.entryOf (h : SameItems world next) (target : Target) :
    entryOf next target = entryOf world target := by
  cases target with
  | discussion id =>
    have hentry : discussionEntry next = discussionEntry world := by
      funext discussion
      simp only [discussionEntry, discussionRevisionsOf, h.discussionRevisions]
    simp only [Community.entryOf, h.discussions, hentry]
  | comment id =>
    have hentry : commentEntry next = commentEntry world := by
      funext comment
      simp only [commentEntry, commentRevisionsOf, h.commentRevisions]
    simp only [Community.entryOf, h.comments, hentry]

theorem consumeRateLimit_ok {action : RateAction}
    (h : consumeRateLimit rules world actor action now = .ok next) : SameItems world next := by
  unfold consumeRateLimit at h
  simp only at h
  split at h
  · obtain rfl := Except.ok.inj h
    exact ⟨rfl, rfl, rfl, rfl, rfl, rfl⟩
  · obtain ⟨_, h⟩ := when_ok.1 h
    obtain rfl := Except.ok.inj h
    exact ⟨rfl, rfl, rfl, rfl, rfl, rfl⟩

/-- A deed done to one item, and nothing to the others. -/
structure Acted (now : Nat) (world next : World) (target : Target) (deed : Deed) : Prop where
  deed : ∃ before after, entryOf world target = some before ∧ entryOf next target = some after ∧
    Does now deed before after
  others : ∀ other, other ≠ target → entryOf next other = entryOf world other
  discussions : next.discussions.map (·.id) = world.discussions.map (·.id)
  comments : next.comments.map (·.id) = world.comments.map (·.id)
  discussionRevisions : ∀ row ∈ next.discussionRevisions, row ∈ world.discussionRevisions ∨
    row.discussion ∈ world.discussions.map (·.id)
  commentRevisions : ∀ row ∈ next.commentRevisions, row ∈ world.commentRevisions ∨
    row.comment ∈ world.comments.map (·.id)
  nextDiscussion : next.nextDiscussion = world.nextDiscussion
  nextComment : next.nextComment = world.nextComment

/-- How a table of items and that of their revisions are read as entries. -/
structure Reading (α ρ : Type) where
  id : α → Nat
  item : ρ → Nat
  entry : α → List (Nat × Text × Text) → Entry
  revision : ρ → Nat × Text × Text

section
variable {ρ : Type} {reading : Reading α ρ} {items : List α} {revisions : List ρ} {saved old : α}
  {row : ρ}

def Reading.entryOf (reading : Reading α ρ) (items : List α) (revisions : List ρ) (id : Nat) :
    Option Entry :=
  (Table.find reading.id items id).map fun item =>
    reading.entry item ((revisions.filter (reading.item · = reading.id item)).map reading.revision)

theorem Reading.filter_append_other (revisions : List ρ) (h : reading.item row ≠ id) :
    (revisions ++ [row]).filter (reading.item · = id) = revisions.filter (reading.item · = id) := by
  rw [filter_append, filter_cons_of_neg (by simpa using h), filter_nil,
    append_nil]

theorem Reading.saved_self (hfind : Table.find reading.id items (reading.id saved) = some old)
    (hrow : reading.item row = reading.id saved) :
    reading.entryOf (Table.put reading.id items saved) (revisions ++ [row]) (reading.id saved) =
      some (reading.entry saved ((revisions.filter (reading.item · = reading.id saved)).map
        reading.revision ++ [reading.revision row])) := by
  simp [Reading.entryOf, find_put_self hfind, filter_append, hrow]

/-- An item reads the same when a revision of another is added and its own row is the same. -/
theorem Reading.entryOf_other {after : List α} (hrow : reading.item row = reading.id saved)
    (hother : id ≠ reading.id saved)
    (hsame : Table.find reading.id after id = Table.find reading.id items id) :
    reading.entryOf after (revisions ++ [row]) id = reading.entryOf items revisions id := by
  unfold Reading.entryOf
  rw [hsame]
  cases hfind : Table.find reading.id items id with
  | none => rfl
  | some found =>
    have hne : reading.item row ≠ reading.id found := by
      rw [hrow, find_key hfind]
      exact hother.symm
    rw [Option.map_some, Option.map_some, Reading.filter_append_other revisions hne]

theorem Reading.created_self (hitems : ∀ other ∈ items.map reading.id, other < reading.id saved)
    (hrevisions : ∀ other ∈ revisions, reading.item other < reading.id saved)
    (hrow : reading.item row = reading.id saved) :
    reading.entryOf items revisions (reading.id saved) = none ∧
      reading.entryOf (items ++ [saved]) (revisions ++ [row]) (reading.id saved) =
        some (reading.entry saved [reading.revision row]) := by
  have hnone : Table.find reading.id items (reading.id saved) = none := by
    rw [find_eq_none]
    exact fun other hother => (hitems _ (mem_map_of_mem hother)).ne
  have hempty : revisions.filter (reading.item · = reading.id saved) = [] := by
    rw [filter_eq_nil_iff]
    exact fun other hother => by simpa using (hrevisions other hother).ne
  unfold Reading.entryOf
  rw [find_append, hnone, Option.none_or]
  refine ⟨rfl, ?_⟩
  simp [Table.find, filter_append, hempty, hrow]

theorem Reading.created_other (hrow : reading.item row = reading.id saved)
    (hother : id ≠ reading.id saved) :
    reading.entryOf (items ++ [saved]) (revisions ++ [row]) id =
      reading.entryOf items revisions id := by
  apply Reading.entryOf_other hrow hother
  have hne : (reading.id saved == id) = false := beq_false_of_ne hother.symm
  rw [find_append]
  simp [Table.find, hne]

end

def discussionReading : Reading Discussion DiscussionRevision where
  id := Discussion.id
  item := DiscussionRevision.discussion
  entry discussion revisions := ⟨discussion.status, discussion.deletedAt, discussion.revision,
    (discussion.title, discussion.body), revisions⟩
  revision row := (row.revision, row.title, row.body)

def commentReading : Reading Comment CommentRevision where
  id := Comment.id
  item := CommentRevision.comment
  entry comment revisions :=
    ⟨comment.status, comment.deletedAt, comment.revision, ([], comment.body), revisions⟩
  revision row := (row.revision, [], row.body)

section
variable {discussion saved : Discussion} {comment savedComment : Comment} {reason : Reason}
  {note : Text} {deed : Deed}

theorem acted_saveDiscussion
    (hfind : Table.find Discussion.id world.discussions id = some discussion)
    (hid : saved.id = discussion.id)
    (hdoes : Does now deed (discussionEntry world discussion)
      ((discussionEntry world discussion).revised saved.status saved.deletedAt
        (saved.title, saved.body)))
    (hrevision : saved.revision = discussion.revision + 1) :
    Acted now world (saveDiscussion world saved actor reason note) (.discussion id) deed := by
  obtain rfl : saved.id = id := hid.trans (find_key hfind)
  have hkey : discussion.id = saved.id := find_key hfind
  refine ⟨⟨discussionEntry world discussion, _, by rw [entryOf, hfind]; rfl, ?_, hdoes⟩, ?_,
    map_key_put _ _, rfl, ?_, fun row hrow => .inl hrow, rfl, rfl⟩
  · refine (discussionReading.saved_self hfind rfl).trans ?_
    simp only [Entry.revised, discussionEntry, discussionReading, discussionRevisionsOf, hrevision,
      hkey]
    rfl
  · intro other hother
    cases other with
    | comment id => rfl
    | discussion id =>
      have hne : id ≠ saved.id := fun heq => hother (congrArg _ heq)
      exact discussionReading.entryOf_other rfl hne (find_put_of_ne hne)
  · exact Table.forall_mem_append (fun row hrow => .inl hrow)
      (.inr (mem_map.2 ⟨discussion, find_mem hfind, hkey⟩))

theorem acted_saveComment (hfind : Table.find Comment.id world.comments id = some comment)
    (hid : savedComment.id = comment.id)
    (hdoes : Does now deed (commentEntry world comment)
      ((commentEntry world comment).revised savedComment.status savedComment.deletedAt
        ([], savedComment.body)))
    (hrevision : savedComment.revision = comment.revision + 1) :
    Acted now world (saveComment world savedComment actor reason note) (.comment id) deed := by
  obtain rfl : savedComment.id = id := hid.trans (find_key hfind)
  have hkey : comment.id = savedComment.id := find_key hfind
  refine ⟨⟨commentEntry world comment, _, by rw [entryOf, hfind]; rfl, ?_, hdoes⟩, ?_, rfl,
    map_key_put _ _, fun row hrow => .inl hrow, ?_, rfl, rfl⟩
  · refine (commentReading.saved_self hfind rfl).trans ?_
    simp only [Entry.revised, commentEntry, commentReading, commentRevisionsOf, hrevision, hkey]
    rfl
  · intro other hother
    cases other with
    | discussion id => rfl
    | comment id =>
      have hne : id ≠ savedComment.id := fun heq => hother (congrArg _ heq)
      exact commentReading.entryOf_other rfl hne (find_put_of_ne hne)
  · exact Table.forall_mem_append (fun row hrow => .inl hrow)
      (.inr (mem_map.2 ⟨comment, find_mem hfind, hkey⟩))

end

theorem Acted.counted {counted : World} {deed : Deed} (hsame : SameItems world counted)
    (h : Acted now counted next target deed) : Acted now world next target deed where
  deed := by
    obtain ⟨before, after, hbefore, hafter, hdoes⟩ := h.deed
    exact ⟨before, after, (hsame.entryOf target) ▸ hbefore, hafter, hdoes⟩
  others := fun other hother => (h.others other hother).trans (hsame.entryOf other)
  discussions := by rw [h.discussions, hsame.discussions]
  comments := by rw [h.comments, hsame.comments]
  discussionRevisions := by
    intro row hrow
    have hcase := h.discussionRevisions row hrow
    rwa [hsame.discussionRevisions, hsame.discussions] at hcase
  commentRevisions := by
    intro row hrow
    have hcase := h.commentRevisions row hrow
    rwa [hsame.commentRevisions, hsame.comments] at hcase
  nextDiscussion := by rw [h.nextDiscussion, hsame.nextDiscussion]
  nextComment := by rw [h.nextComment, hsame.nextComment]

theorem editDiscussion_ok {title : Text}
    (h : editDiscussion rules world actor id expectedRevision title body now = .ok next) :
    Acted now world next (.discussion id) .edit := by
  obtain ⟨discussion, hfind, h⟩ := bind_eq_ok.1 h
  obtain ⟨hcan, h⟩ := unless_ok.1 h
  obtain ⟨_, h⟩ := unless_ok.1 h
  obtain ⟨cleanedTitle, _, h⟩ := bind_eq_ok.1 h
  obtain ⟨cleanedBody, _, h⟩ := bind_eq_ok.1 h
  obtain ⟨counted, hcounted, h⟩ := bind_eq_ok.1 h
  obtain rfl := Except.ok.inj h
  have hsame := consumeRateLimit_ok hcounted
  have hactive : discussion.status = .active := by
    simp only [canEditDiscussion, Bool.not_eq_true', Bool.not_eq_false, Bool.and_eq_true,
      decide_eq_true_eq] at hcan
    exact hcan.2
  have hfound : Table.find Discussion.id counted.discussions id = some discussion := by
    rw [hsame.discussions]
    exact findDiscussion_ok hfind
  refine Acted.counted hsame ?_
  exact acted_saveDiscussion hfound rfl (.edit _ hactive) rfl

theorem deleteOwnDiscussion_ok
    (h : deleteOwnDiscussion world actor id expectedRevision now = .ok next) :
    Acted now world next (.discussion id) .delete := by
  obtain ⟨discussion, hfind, h⟩ := bind_eq_ok.1 h
  obtain ⟨hown, h⟩ := unless_ok.1 h
  obtain ⟨_, h⟩ := unless_ok.1 h
  obtain rfl := Except.ok.inj h
  have hfound := findDiscussion_ok hfind
  have hactive : discussion.status = .active := by
    by_contra hother
    exact hown (.inr hother)
  exact acted_saveDiscussion hfound rfl (.delete hactive) rfl

theorem editComment_ok (h : editComment rules world actor id expectedRevision body now = .ok next) :
    Acted now world next (.comment id) .edit := by
  obtain ⟨comment, hfind, h⟩ := bind_eq_ok.1 h
  obtain ⟨hown, h⟩ := unless_ok.1 h
  obtain ⟨_, h⟩ := unless_ok.1 h
  obtain ⟨cleanedBody, _, h⟩ := bind_eq_ok.1 h
  obtain ⟨counted, hcounted, h⟩ := bind_eq_ok.1 h
  obtain rfl := Except.ok.inj h
  have hsame := consumeRateLimit_ok hcounted
  have hactive : comment.status = .active := by
    by_contra hother
    exact hown (.inr hother)
  have hfound : Table.find Comment.id counted.comments id = some comment := by
    rw [hsame.comments]
    exact findComment_ok hfind
  refine Acted.counted hsame ?_
  exact acted_saveComment hfound rfl (.edit _ hactive) rfl

theorem deleteOwnComment_ok (h : deleteOwnComment world actor id expectedRevision now = .ok next) :
    Acted now world next (.comment id) .delete := by
  obtain ⟨comment, hfind, h⟩ := bind_eq_ok.1 h
  obtain ⟨hown, h⟩ := unless_ok.1 h
  obtain ⟨_, h⟩ := unless_ok.1 h
  obtain rfl := Except.ok.inj h
  have hfound := findComment_ok hfind
  have hactive : comment.status = .active := by
    by_contra hother
    exact hown (.inr hother)
  exact acted_saveComment hfound rfl (.delete hactive) rfl

theorem discussionAction_does (entry : Entry)
    (h : discussionAction entry.status now action = .ok moderated) :
    Does now (.moderate action) entry
      (entry.revised moderated.status moderated.deletedAt entry.text) := by
  cases action with
  | remove =>
    obtain rfl := Except.ok.inj h
    exact .remove
  | restore =>
    simp only [discussionAction] at h
    obtain ⟨hremoved, h⟩ := unless_ok.1 h
    obtain rfl := Except.ok.inj h
    exact .restore (by simpa using hremoved)
  | lock =>
    obtain rfl := Except.ok.inj h
    exact .lock
  | unlock =>
    obtain rfl := Except.ok.inj h
    exact .unlock

theorem commentAction_does (entry : Entry)
    (h : commentAction entry.status now action = .ok moderated) :
    Does now (.moderate action) entry
      (entry.revised moderated.status moderated.deletedAt entry.text) := by
  cases action with
  | remove =>
    obtain rfl := Except.ok.inj h
    exact .remove
  | restore =>
    simp only [commentAction] at h
    obtain ⟨hremoved, h⟩ := unless_ok.1 h
    obtain rfl := Except.ok.inj h
    exact .restore (by simpa using hremoved)
  | lock => exact absurd h (by simp [commentAction])
  | unlock => exact absurd h (by simp [commentAction])

theorem moderateContent_ok {reason : Text}
    (h : moderateContent rules directory world actor target action reason now = .ok next) :
    Acted now world next target (.moderate action) := by
  unfold moderateContent at h
  obtain ⟨_, h⟩ := unless_ok.1 h
  cases target with
  | discussion id =>
    obtain ⟨discussion, hfind, h⟩ := bind_eq_ok.1 h
    obtain ⟨_, h⟩ := unless_ok.1 h
    obtain ⟨moderated, haction, h⟩ := bind_eq_ok.1 h
    obtain rfl := Except.ok.inj h
    have hfound := findDiscussion_ok hfind
    exact acted_saveDiscussion hfound rfl
      (discussionAction_does (discussionEntry world discussion) haction) rfl
  | comment id =>
    obtain ⟨comment, hfind, h⟩ := bind_eq_ok.1 h
    obtain ⟨discussion, _, h⟩ := bind_eq_ok.1 h
    obtain ⟨_, h⟩ := unless_ok.1 h
    obtain ⟨moderated, haction, h⟩ := bind_eq_ok.1 h
    obtain rfl := Except.ok.inj h
    have hfound := findComment_ok hfind
    exact acted_saveComment hfound rfl
      (commentAction_does (commentEntry world comment) haction) rfl

/-! ## New items -/

structure IdsBelow (world : World) : Prop where
  discussions : ∀ id ∈ world.discussions.map (·.id), id < world.nextDiscussion
  comments : ∀ id ∈ world.comments.map (·.id), id < world.nextComment
  discussionRevisions : ∀ row ∈ world.discussionRevisions, row.discussion < world.nextDiscussion
  commentRevisions : ∀ row ∈ world.commentRevisions, row.comment < world.nextComment

/-- The items are as they were, but for one that may be new. -/
structure Created (world next : World) : Prop where
  entries : ∀ target, entryOf next target = entryOf world target ∨
    entryOf world target = none ∧ ∃ text, entryOf next target = some (newEntry text)
  below : IdsBelow next

theorem Acted.idsBelow {deed : Deed} (h : Acted now world next target deed)
    (hbelow : IdsBelow world) : IdsBelow next where
  discussions := by
    rw [h.discussions, h.nextDiscussion]
    exact hbelow.discussions
  comments := by
    rw [h.comments, h.nextComment]
    exact hbelow.comments
  discussionRevisions := by
    intro row hrow
    rw [h.nextDiscussion]
    rcases h.discussionRevisions row hrow with hold | hknown
    · exact hbelow.discussionRevisions row hold
    · exact hbelow.discussions _ hknown
  commentRevisions := by
    intro row hrow
    rw [h.nextComment]
    rcases h.commentRevisions row hrow with hold | hknown
    · exact hbelow.commentRevisions row hold
    · exact hbelow.comments _ hknown

theorem Created.refl (hbelow : IdsBelow world) : Created world world :=
  ⟨fun _ => .inl rfl, hbelow⟩

theorem SameItems.idsBelow (h : SameItems world next) (hbelow : IdsBelow world) : IdsBelow next where
  discussions := by
    rw [h.discussions, h.nextDiscussion]
    exact hbelow.discussions
  comments := by
    rw [h.comments, h.nextComment]
    exact hbelow.comments
  discussionRevisions := by
    rw [h.discussionRevisions, h.nextDiscussion]
    exact hbelow.discussionRevisions
  commentRevisions := by
    rw [h.commentRevisions, h.nextComment]
    exact hbelow.commentRevisions

theorem Created.after {middle : World} (hsame : ∀ target, entryOf middle target = entryOf world target)
    (h : Created middle next) : Created world next where
  entries := by
    intro target
    rw [← hsame target]
    exact h.entries target
  below := h.below

theorem forall_mem_map_append (key : α → Nat) (rows : List α) (row : α)
    (h : ∀ id ∈ rows.map key, id < key row) : ∀ id ∈ (rows ++ [row]).map key, id < key row + 1 := by
  intro id hid
  rw [map_append] at hid
  rcases mem_append.1 hid with hold | hnew
  · have hlt := h id hold
    omega
  · obtain rfl := mem_singleton.1 hnew
    exact Nat.lt_succ_self _

theorem forall_mem_append {key : α → Nat} {rows : List α} {row : α}
    (h : ∀ other ∈ rows, key other < bound) (hrow : key row = bound) :
    ∀ other ∈ rows ++ [row], key other < bound + 1 := by
  intro other hother
  rcases mem_append.1 hother with hold | hnew
  · have hlt := h other hold
    omega
  · obtain rfl := mem_singleton.1 hnew
    omega

theorem created_discussion (hbelow : IdsBelow world) {discussion : Discussion}
    {revision : DiscussionRevision} (hid : discussion.id = world.nextDiscussion)
    (hrevision : revision.discussion = world.nextDiscussion)
    (hnew : (⟨discussion.status, discussion.deletedAt, discussion.revision,
      (discussion.title, discussion.body), [(revision.revision, revision.title, revision.body)]⟩ : Entry) =
        newEntry (discussion.title, discussion.body)) :
    Created world { world with
      discussions := world.discussions ++ [discussion]
      discussionRevisions := world.discussionRevisions ++ [revision]
      nextDiscussion := world.nextDiscussion + 1 } where
  entries := by
    have hrow : revision.discussion = discussion.id := hrevision.trans hid.symm
    intro target
    cases target with
    | comment id => exact .inl rfl
    | discussion id =>
      by_cases hsame : id = discussion.id
      · have hitems : ∀ other ∈ world.discussions.map Discussion.id, other < discussion.id :=
          hid ▸ hbelow.discussions
        rw [hsame]
        obtain ⟨hnone, hsome⟩ :=
          discussionReading.created_self hitems (hid ▸ hbelow.discussionRevisions) hrow
        exact .inr ⟨hnone, _, hsome.trans (congrArg some hnew)⟩
      · exact .inl (discussionReading.created_other hrow hsame)
  below := by
    have hall := forall_mem_map_append Discussion.id world.discussions discussion
      (hid ▸ hbelow.discussions)
    exact ⟨hid ▸ hall, hbelow.comments, forall_mem_append hbelow.discussionRevisions hrevision,
      hbelow.commentRevisions⟩

theorem created_comment (hbelow : IdsBelow world) {comment : Comment}
    {revision : CommentRevision} (hid : comment.id = world.nextComment)
    (hrevision : revision.comment = world.nextComment)
    (hnew : (⟨comment.status, comment.deletedAt, comment.revision, ([], comment.body),
      [(revision.revision, [], revision.body)]⟩ : Entry) = newEntry ([], comment.body)) :
    Created world { world with
      comments := world.comments ++ [comment]
      commentRevisions := world.commentRevisions ++ [revision]
      nextComment := world.nextComment + 1 } where
  entries := by
    have hrow : revision.comment = comment.id := hrevision.trans hid.symm
    intro target
    cases target with
    | discussion id => exact .inl rfl
    | comment id =>
      by_cases hsame : id = comment.id
      · have hitems : ∀ other ∈ world.comments.map Comment.id, other < comment.id :=
          hid ▸ hbelow.comments
        rw [hsame]
        obtain ⟨hnone, hsome⟩ :=
          commentReading.created_self hitems (hid ▸ hbelow.commentRevisions) hrow
        exact .inr ⟨hnone, _, hsome.trans (congrArg some hnew)⟩
      · exact .inl (commentReading.created_other hrow hsame)
  below := by
    have hall := forall_mem_map_append Comment.id world.comments comment (hid ▸ hbelow.comments)
    exact ⟨hbelow.discussions, hid ▸ hall, hbelow.discussionRevisions,
      forall_mem_append hbelow.commentRevisions hrevision⟩

theorem entryOf_touched (discussion : Discussion) {touched : Discussion}
    (hfind : Table.find Discussion.id world.discussions touched.id = some discussion)
    (hentry : discussionEntry world touched = discussionEntry world discussion) (target : Target) :
    entryOf { world with discussions := Table.put Discussion.id world.discussions touched } target =
      entryOf world target := by
  cases target with
  | comment id => rfl
  | discussion id =>
    simp only [entryOf]
    by_cases hsame : id = touched.id
    · subst hsame
      rw [find_put_self hfind, hfind]
      exact congrArg some hentry
    · rw [find_put_of_ne hsame]
      rfl

theorem createDiscussion_ok {request : DiscussionRequest} (hbelow : IdsBelow world)
    (h : createDiscussion rules directory world actor request now = .ok next) :
    Created world next := by
  obtain ⟨title, _, h⟩ := bind_eq_ok.1 h
  obtain ⟨body, _, h⟩ := bind_eq_ok.1 h
  split at h
  · obtain ⟨_, h⟩ := when_ok.1 h
    obtain rfl := Except.ok.inj h
    exact Created.refl hbelow
  · split at h
    · simp at h
    · obtain ⟨_, _, h⟩ := bind_eq_ok.1 h
      obtain ⟨_, _, h⟩ := bind_eq_ok.1 h
      obtain ⟨counted, hcounted, h⟩ := bind_eq_ok.1 h
      obtain rfl := Except.ok.inj h
      have hsame := consumeRateLimit_ok hcounted
      refine Created.after hsame.entryOf ?_
      exact created_discussion (hsame.idsBelow hbelow) rfl rfl rfl

theorem createComment_ok {clientRequestId : Nat} {parent : Option Nat} (hbelow : IdsBelow world)
    (h : createComment rules directory world actor id body clientRequestId parent now = .ok next) :
    Created world next := by
  obtain ⟨body, _, h⟩ := bind_eq_ok.1 h
  split at h
  · obtain ⟨_, h⟩ := when_ok.1 h
    obtain rfl := Except.ok.inj h
    exact Created.refl hbelow
  · split at h
    · simp at h
    · next discussion hfind =>
      obtain ⟨_, h⟩ := unless_ok.1 h
      obtain ⟨_, h⟩ := unless_ok.1 h
      obtain ⟨_, _, h⟩ := bind_eq_ok.1 h
      obtain ⟨_, _, h⟩ := bind_eq_ok.1 h
      obtain ⟨counted, hcounted, h⟩ := bind_eq_ok.1 h
      obtain rfl := Except.ok.inj h
      have hsame := consumeRateLimit_ok hcounted
      have hfound : Table.find Discussion.id counted.discussions discussion.id =
          some discussion := by
        rw [hsame.discussions, find_key hfind]
        exact hfind
      have hcount : IdsBelow counted := hsame.idsBelow hbelow
      have htouched : IdsBelow { counted with
          discussions := Table.put Discussion.id counted.discussions
            { discussion with
              commentCount := discussion.commentCount + 1
              lastActivityAt := now } } := by
        refine ⟨?_, hcount.comments, hcount.discussionRevisions, hcount.commentRevisions⟩
        rw [map_key_put]
        exact hcount.discussions
      refine Created.after ?_ (created_comment htouched rfl rfl rfl)
      intro target
      rw [← hsame.entryOf target]
      refine entryOf_touched discussion ?_ ?_ target
      · exact hfound
      · rfl

/-! ## Runs -/

/-- The items that their authors deleted, and those that moderators removed and did not restore
since. -/
structure Marks where
  deleted : List Target
  removed : List Target

def marksAfter (request : Request) (marks : Marks) : Marks :=
  match request.deed with
  | some (target, .delete) => { marks with deleted := target :: marks.deleted }
  | some (target, .moderate .remove) => { marks with removed := target :: marks.removed }
  | some (target, .moderate .restore) => { marks with removed := marks.removed.filter (· ≠ target) }
  | _ => marks

def community (rules : Rules) : Machine (World × Marks) Call CommunityError where
  init := (emptyWorld, ⟨[], []⟩)
  exec call run := (fun next => (next, marksAfter call.request run.2)) <$> call.exec rules run.1
  time := fun call => call.now

/-- Nobody restores, locks or unlocks what its author deleted, and nobody unlocks what a moderator
removed and did not restore. -/
def Guarded (run : World × Marks) (call : Call) : Prop :=
  match call.request.deed with
  | some (target, .moderate .restore) | some (target, .moderate .lock) => target ∉ run.2.deleted
  | some (target, .moderate .unlock) => target ∉ run.2.deleted ∧ target ∉ run.2.removed
  | _ => True

instance (run : World × Marks) (call : Call) : Decidable (Guarded run call) := by
  unfold Guarded
  split <;> infer_instance

/-- Everything deleted is deleted, what is removed is not active, `deleted_at` goes with the status,
and the revisions of every item are numbered up to the one with its text. -/
structure Sound (run : World × Marks) : Prop where
  entries : ∀ target entry, entryOf run.1 target = some entry → EntrySound entry
  deleted : ∀ target ∈ run.2.deleted, ∃ entry, entryOf run.1 target = some entry ∧
    entry.status ≠ .active ∧ entry.status ≠ .locked
  removed : ∀ target ∈ run.2.removed, ∃ entry, entryOf run.1 target = some entry ∧
    entry.status ≠ .active

structure Kept (run : World × Marks) : Prop extends Sound run where
  below : IdsBelow run.1

theorem kept_empty : Kept (emptyWorld, ⟨[], []⟩) where
  entries := by
    intro target entry h
    cases target with
    | discussion id => exact absurd h (by simp [entryOf, emptyWorld, Table.find])
    | comment id => exact absurd h (by simp [entryOf, emptyWorld, Table.find])
  deleted := by simp
  removed := by simp
  below := ⟨by simp [emptyWorld], by simp [emptyWorld], by simp [emptyWorld], by simp [emptyWorld]⟩

variable {marks : Marks} {run : World × Marks}

theorem Kept.created (h : Kept (world, marks)) (hcreated : Created world next) :
    Kept (next, marks) where
  entries := by
    intro target entry hentry
    rcases hcreated.entries target with hsame | ⟨_, text, hnew⟩
    · exact h.entries target entry (hsame ▸ hentry)
    · obtain rfl := Option.some.inj (hnew.symm.trans hentry)
      exact newEntry_sound text
  deleted := by
    intro target hmem
    obtain ⟨entry, hentry, hstatus⟩ := h.deleted target hmem
    rcases hcreated.entries target with hsame | ⟨hnone, _⟩
    · exact ⟨entry, hsame.trans hentry, hstatus⟩
    · exact absurd (hnone.symm.trans hentry) (by simp)
  removed := by
    intro target hmem
    obtain ⟨entry, hentry, hstatus⟩ := h.removed target hmem
    rcases hcreated.entries target with hsame | ⟨hnone, _⟩
    · exact ⟨entry, hsame.trans hentry, hstatus⟩
    · exact absurd (hnone.symm.trans hentry) (by simp)
  below := hcreated.below

theorem Does.stays {deed : Deed} {after : Entry} (hdoes : Does now deed entry after)
    (hrestore : deed ≠ .moderate .restore) (hunlock : deed ≠ .moderate .unlock)
    (h : entry.status ≠ .active) : after.status ≠ .active := by
  cases hdoes with
  | edit _ hactive => exact absurd hactive h
  | delete hactive => exact absurd hactive h
  | remove => simp [Entry.revised]
  | restore _ => exact absurd rfl hrestore
  | lock => simp [Entry.revised]
  | unlock => exact absurd rfl hunlock

theorem Does.not_locked {deed : Deed} {after : Entry} (hdoes : Does now deed entry after)
    (hlock : deed ≠ .moderate .lock) (h : entry.status ≠ .locked) : after.status ≠ .locked := by
  cases hdoes with
  | edit _ _ => exact h
  | delete _ => simp [Entry.revised]
  | remove => simp [Entry.revised]
  | restore _ => simp [Entry.revised]
  | lock => exact absurd rfl hlock
  | unlock => simp [Entry.revised]

theorem Kept.acted {marked : Marks} {deed : Deed} (h : Kept (world, marks))
    (hacted : Acted now world next target deed)
    (hdeleted : ∀ other ∈ marked.deleted, other = target → ∀ before after,
      entryOf world target = some before → Does now deed before after →
        after.status ≠ .active ∧ after.status ≠ .locked)
    (hremoved : ∀ other ∈ marked.removed, other = target → ∀ before after,
      entryOf world target = some before → Does now deed before after → after.status ≠ .active)
    (holdDeleted : ∀ other ∈ marked.deleted, other ≠ target → other ∈ marks.deleted)
    (holdRemoved : ∀ other ∈ marked.removed, other ≠ target → other ∈ marks.removed) :
    Kept (next, marked) := by
  obtain ⟨before, after, hbefore, hafter, hdoes⟩ := hacted.deed
  constructor
  · constructor
    · intro other entry hentry
      by_cases hsame : other = target
      · subst hsame
        obtain rfl := Option.some.inj (hafter.symm.trans hentry)
        exact hdoes.sound (h.entries other before hbefore)
      · exact h.entries other entry ((hacted.others other hsame).symm.trans hentry)
    · intro other hmem
      by_cases hsame : other = target
      · exact ⟨after, hsame ▸ hafter, hdeleted other hmem hsame before after hbefore hdoes⟩
      · obtain ⟨entry, hentry, hstatus⟩ := h.deleted other (holdDeleted other hmem hsame)
        exact ⟨entry, (hacted.others other hsame).trans hentry, hstatus⟩
    · intro other hmem
      by_cases hsame : other = target
      · exact ⟨after, hsame ▸ hafter, hremoved other hmem hsame before after hbefore hdoes⟩
      · obtain ⟨entry, hentry, hstatus⟩ := h.removed other (holdRemoved other hmem hsame)
        exact ⟨entry, (hacted.others other hsame).trans hentry, hstatus⟩
  · exact hacted.idsBelow h.below

theorem Sound.deleted_status (h : Sound run) (hmem : target ∈ run.2.deleted)
    (hentry : entryOf run.1 target = some entry) :
    entry.status ≠ .active ∧ entry.status ≠ .locked := by
  obtain ⟨found, hfound, hstatus⟩ := h.deleted target hmem
  obtain rfl := Option.some.inj (hfound.symm.trans hentry)
  exact hstatus

theorem Sound.removed_status (h : Sound run) (hmem : target ∈ run.2.removed)
    (hentry : entryOf run.1 target = some entry) : entry.status ≠ .active := by
  obtain ⟨found, hfound, hstatus⟩ := h.removed target hmem
  obtain rfl := Option.some.inj (hfound.symm.trans hentry)
  exact hstatus

theorem Kept.unmarked {deed : Deed} (h : Kept (world, marks))
    (hacted : Acted now world next target deed) (hrestore : deed ≠ .moderate .restore)
    (hlock : deed = .moderate .lock → target ∉ marks.deleted)
    (hunlock : deed = .moderate .unlock → target ∉ marks.deleted ∧ target ∉ marks.removed) :
    Kept (next, marks) := by
  refine h.acted hacted ?_ ?_ (fun other hmem _ => hmem) (fun other hmem _ => hmem)
  · rintro other hmem rfl before after hbefore hdoes
    have hstatus := h.deleted_status hmem hbefore
    refine ⟨hdoes.stays hrestore ?_ hstatus.1, hdoes.not_locked ?_ hstatus.2⟩
    · exact fun heq => (hunlock heq).1 hmem
    · exact fun heq => hlock heq hmem
  · rintro other hmem rfl before after hbefore hdoes
    exact hdoes.stays hrestore (fun heq => (hunlock heq).2 hmem) (h.removed_status hmem hbefore)

theorem Kept.deletes (h : Kept (world, marks)) (hacted : Acted now world next target .delete) :
    Kept (next, { marks with deleted := target :: marks.deleted }) := by
  refine h.acted hacted ?_ ?_ ?_ (fun other hmem _ => hmem)
  · rintro other _ rfl before after _ hdoes
    cases hdoes with
    | delete _ => exact ⟨by simp [Entry.revised], by simp [Entry.revised]⟩
  · rintro other hmem rfl before after hbefore hdoes
    exact hdoes.stays (by simp) (by simp) (h.removed_status hmem hbefore)
  · intro other hmem hne
    exact (mem_cons.1 hmem).resolve_left hne

theorem Kept.removes (h : Kept (world, marks))
    (hacted : Acted now world next target (.moderate .remove)) :
    Kept (next, { marks with removed := target :: marks.removed }) := by
  refine h.acted hacted ?_ ?_ (fun other hmem _ => hmem) ?_
  · rintro other hmem rfl before after hbefore hdoes
    have hstatus := h.deleted_status hmem hbefore
    exact ⟨hdoes.stays (by simp) (by simp) hstatus.1, hdoes.not_locked (by simp) hstatus.2⟩
  · rintro other _ rfl before after _ hdoes
    cases hdoes with
    | remove => simp [Entry.revised]
  · intro other hmem hne
    exact (mem_cons.1 hmem).resolve_left hne

theorem Kept.restores (h : Kept (world, marks))
    (hacted : Acted now world next target (.moderate .restore)) (hfree : target ∉ marks.deleted) :
    Kept (next, { marks with removed := marks.removed.filter (· ≠ target) }) := by
  refine h.acted hacted ?_ ?_ (fun other hmem _ => hmem) ?_
  · rintro other hmem rfl
    exact absurd hmem hfree
  · rintro other hmem rfl
    exact absurd (mem_filter.1 hmem).2 (by simp)
  · intro other hmem _
    exact (mem_filter.1 hmem).1

theorem exec_ok (hbelow : IdsBelow world) (h : call.exec rules world = .ok next) :
    match call.request.deed with
    | none => Created world next
    | some (target, deed) => Acted call.now world next target deed := by
  obtain ⟨request, actor, now, directory⟩ := call
  cases request with
  | createDiscussion request => exact createDiscussion_ok hbelow h
  | editDiscussion id expectedRevision title body => exact editDiscussion_ok h
  | deleteOwnDiscussion id expectedRevision => exact deleteOwnDiscussion_ok h
  | createComment discussion body clientRequestId parent => exact createComment_ok hbelow h
  | editComment id expectedRevision body => exact editComment_ok h
  | deleteOwnComment id expectedRevision => exact deleteOwnComment_ok h
  | moderateContent target action reason => exact moderateContent_ok h

theorem Kept.exec (h : Kept run) (hguarded : Guarded run call)
    (hexec : call.exec rules run.1 = .ok next) : Kept (next, marksAfter call.request run.2) := by
  have hdoes := exec_ok h.below hexec
  unfold Guarded at hguarded
  unfold marksAfter
  cases hdeed : call.request.deed with
  | none =>
    rw [hdeed] at hdoes
    exact h.created hdoes
  | some act =>
    obtain ⟨target, deed⟩ := act
    rw [hdeed] at hdoes hguarded
    cases deed with
    | edit => exact h.unmarked hdoes (by simp) (by simp) (by simp)
    | delete => exact h.deletes hdoes
    | moderate action =>
      cases action with
      | remove => exact h.removes hdoes
      | restore => exact h.restores hdoes hguarded
      | lock => exact h.unmarked hdoes (by simp) (fun _ => hguarded) (by simp)
      | unlock => exact h.unmarked hdoes (by simp) (by simp) (fun _ => hguarded)

theorem reached_kept (h : (community rules).Reaches Guarded run now) : Kept run := by
  refine h.invariant (I := fun run _ => Kept run) kept_empty ?_
  intro run now call next hkept _ hguarded hexec
  obtain ⟨world, hworld, rfl⟩ := map_eq_ok.1 hexec
  exact hkept.exec hguarded hworld

/-- In every run in which nobody restores, locks or unlocks what its author deleted, or unlocks
what a moderator removed, everything deleted stays deleted. -/
theorem deleted_stays_deleted {run : World × Marks} {now : Nat}
    (h : (community rules).Reaches Guarded run now) : Sound run :=
  (reached_kept h).toSound

def plainRules : Rules where
  isSpace := fun char => char = ' '
  lower := fun text => text.map Char.toLower
  sameLetter := fun first second => first.toLower = second.toLower
  digest := fun text => text.length
  windowSeconds := fun _ => 300
  limit := fun _ => 20

/-- Student 1 writes, and 2 is a moderator. -/
def school : Directory := ⟨[2], [], [], []⟩

def post : DiscussionRequest :=
  ⟨.lesson, 7, "Which bone?".toList, "Which bone is the longest of all?".toList, 1, none, none⟩

def offTopic : Text := "This is off topic.".toList

def restoredThenDeleted : List Call :=
  [⟨.createDiscussion post, 1, 10, school⟩, ⟨.moderateContent (.discussion 1) .remove offTopic, 2, 20, school⟩,
    ⟨.moderateContent (.discussion 1) .restore offTopic, 2, 30, school⟩,
    ⟨.deleteOwnDiscussion 1 3, 1, 40, school⟩]

def deletedThenLocked : List Call :=
  [⟨.createDiscussion post, 1, 10, school⟩, ⟨.deleteOwnDiscussion 1 1, 1, 20, school⟩,
    ⟨.moderateContent (.discussion 1) .lock offTopic, 2, 30, school⟩]

theorem restored_then_deleted_sound : Sound ((community plainRules).outcome restoredThenDeleted) :=
  deleted_stays_deleted (.of_accepts (by decide +kernel) (by decide +kernel) (by decide +kernel))

/-- Locking takes any discussion, and shows one that its author deleted. -/
theorem locked_after_deletion_shows :
    ¬ ∀ (rules : Rules) (run : World × Marks) (now : Nat),
      (community rules).Reaches Machine.Always run now → Sound run := by
  intro h
  have hreached : (community plainRules).Reaches Machine.Always
      ((community plainRules).outcome deletedThenLocked)
      ((community plainRules).lastTime 0 deletedThenLocked) :=
    .of_accepts (by decide +kernel) (by decide +kernel) (Machine.admitted_always _ _)
  have hsound := h _ _ _ hreached
  have hmarked : Target.discussion 1 ∈ ((community plainRules).outcome deletedThenLocked).2.deleted := by
    decide +kernel
  have hlocked : (entryOf ((community plainRules).outcome deletedThenLocked).1
      (.discussion 1)).map (·.status) = some .locked := by
    decide +kernel
  obtain ⟨entry, hentry, _, hstatus⟩ := hsound.deleted _ hmarked
  rw [hentry] at hlocked
  exact hstatus (Option.some.inj hlocked)

end LockIn.Community
