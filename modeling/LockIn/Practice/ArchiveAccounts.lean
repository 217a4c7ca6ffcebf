import LockIn.Practice.PublishedSets
import Mathlib.Data.String.Basic

/-!
# Every entry is accounted for

What becomes of an archive is told by one fate for each entry that is neither a directory nor junk:
the slide it became, which holds what was read under the name of the entry, or the name and the
reason under which it was rejected.
-/

namespace LockIn.Practice.Archives

open List

inductive Fate where
  | added (slide : PracticeSlide)
  | rejected (name : Text) (message : String)

def Fate.slide : Fate → Option PracticeSlide
  | .added slide => some slide
  | .rejected _ _ => none

def Fate.rejection : Fate → Option (Text × String)
  | .added _ => none
  | .rejected name message => some (name, message)

abbrev Fates := List (ZipInfo × Fate)

def Fates.added (fates : Fates) : List PracticeSlide := fates.filterMap (·.2.slide)

def Fates.rejected (fates : Fates) : List (Text × String) := fates.filterMap (·.2.rejection)

section
variable (rules : Rules)

/-- The fate is one of the entry: the slide has its name and its bytes. -/
def Fate.Of (set : Nat) (info : ZipInfo) : Fate → Prop
  | .added slide => slide.practiceSet = set ∧ ∃ content, info.content = .ok content ∧
    slide.managedFile = ⟨rules.uploadName (entryBase info), content⟩
  | .rejected name _ => name = entryBase info ∨ name = rules.uploadName (entryBase info)

/-- Slides are added at the end of the set, one after another. -/
structure Grown (set : Nat) (before after : World) (added : List PracticeSlide) : Prop where
  slides : after.slides = before.slides ++ added
  positions : added.map (·.position) =
    List.range' (lastPosition (slidesOf before.slides set) + 1) added.length
  last : lastPosition (slidesOf after.slides set) =
    lastPosition (slidesOf before.slides set) + added.length
  limit : (slidesOf after.slides set).length ≤
    max rules.maxSlidesPerSet (slidesOf before.slides set).length

/-- Every entry that is neither a directory nor junk has one fate, and the added ones come in the
natural order of their names. -/
structure Accounts (world : World) (set : Nat) (archive : Archive) (after : World)
    (outcome : UploadOutcome) (fates : Fates) : Prop where
  entries : (fates.map Prod.fst).Perm (consideredOf rules archive)
  told : ∀ entry ∈ fates, entry.2.Of rules set entry.1
  sorted : ((fates.filter (·.2.slide.isSome)).map fun entry => nameKey rules entry.1).Pairwise
    (· ≤ ·)
  outcome : outcome = ⟨fates.added.map (·.id), fates.rejected⟩
  grown : Grown rules set world after fates.added

def Accounted (world : World) (set : Nat) (archive : Archive) (after : World)
    (outcome : UploadOutcome) : Prop :=
  ∃ fates, Accounts rules world set archive after outcome fates

def AccountedFor (world : World) (set : Nat) (archive : Archive) : Prop :=
  match addSlidesFromArchive rules world set archive with
  | .refused _ => True
  | .crashed _ _ => False
  | .returned after outcome => Accounted rules world set archive after outcome

/-- A name that has a key: of its runs of digits and of other characters, those that are digits all
over are decimal and not too long. -/
def Readable (name : Text) : Prop :=
  ∀ part ∈ keyParts rules (rules.casefold name), part.all rules.digits.isDigit = true →
    part.length ≤ intMaxStrDigits ∧ ∀ char ∈ part, (rules.digits.decimal char).isSome = true

/-- The archive is refused at once, or every image has a name with a key and those that there is room
for can be read. -/
def Sound (world : World) (set : Nat) (archive : Archive) : Prop :=
  archiveRefusal rules archive ≠ none ∨
    (∀ info ∈ acceptedOf rules archive, Readable rules (entryBase info)) ∧
    ∀ info ∈ (orderedOf rules archive).take (roomOf rules world set),
      ∃ content, info.content = .ok content

end

section
variable {rules : Rules} {world next after : World} {set : Nat} {archive : Archive}
  {info : ZipInfo} {entries : List ZipInfo} {upload : Upload} {outcome : UploadOutcome}
  {name : Text}

theorem keyPart_isSome {part : Text} :
    (keyPart rules part).isSome = true ↔ (part.all rules.digits.isDigit = true →
      part.length ≤ intMaxStrDigits ∧
        ∀ char ∈ part, (rules.digits.decimal char).isSome = true) := by
  unfold keyPart parseInt
  simp only [← all_eq_true]
  by_cases hdigit : part.all rules.digits.isDigit = true
  · rw [if_pos hdigit]
    by_cases hdecimal : part.length ≤ intMaxStrDigits ∧
        part.all fun char => (rules.digits.decimal char).isSome
    · rw [if_pos hdecimal]
      exact ⟨fun _ _ => hdecimal, fun _ => rfl⟩
    · rw [if_neg hdecimal]
      exact ⟨fun h => absurd h (by simp), fun h => absurd (h hdigit) hdecimal⟩
  · simp [hdigit]

theorem naturalKey_isSome :
    (naturalKey rules name).isSome = true ↔ Readable rules name := by
  have hall (parts : List Text) : (parts.mapM (keyPart rules)).isSome = true ↔
      ∀ part ∈ parts, (keyPart rules part).isSome = true := by
    induction parts with
    | nil => simp
    | cons part rest ih =>
      rw [mapM_cons, forall_mem_cons, ← ih]
      cases keyPart rules part with
      | none => simp
      | some first =>
        cases rest.mapM (keyPart rules) with
        | none => simp
        | some others => simp
  rw [naturalKey, hall, Readable]
  exact forall₂_congr fun part _ => keyPart_isSome

theorem Grown.refl (rules : Rules) (set : Nat) (world : World) : Grown rules set world world [] where
  slides := (append_nil _).symm
  positions := rfl
  last := rfl
  limit := le_max_right _ _

theorem Grown.trans {first second : List PracticeSlide} (h : Grown rules set world next first)
    (h' : Grown rules set next after second) : Grown rules set world after (first ++ second) where
  slides := by rw [h'.slides, h.slides, append_assoc]
  positions := by
    rw [map_append, h.positions, h'.positions, h.last, length_append,
      ← List.range'_append_1]
    congr 2
    omega
  last := by
    rw [h'.last, h.last, length_append, Nat.add_assoc]
  limit := by
    have hfirst := h.limit
    have hsecond := h'.limit
    omega

theorem addSlide_ok (h : addSlide rules world set upload = .ok next) :
    ∃ slide, Grown rules set world next [slide] ∧ slide.id = world.nextSlide ∧
      slide.practiceSet = set ∧ slide.managedFile = ⟨upload.name, upload.data⟩ := by
  unfold addSlide at h
  by_cases hfull : rules.maxSlidesPerSet ≤ (slidesOf world.slides set).length
  · simp only [hfull, if_true] at h
    simp at h
  · simp only [hfull, if_false] at h
    cases hrefusal : upload.refusal with
    | some message =>
      rw [hrefusal] at h
      simp at h
    | none =>
      rw [hrefusal] at h
      cases h
      refine ⟨⟨world.nextSlide, set, lastPosition (slidesOf world.slides set) + 1, [],
        ⟨upload.name, upload.data⟩⟩, ⟨unpublishIfIncomplete_slides set, rfl, ?_, ?_⟩, rfl, rfl, rfl⟩
      · rw [unpublishIfIncomplete_slides, slidesOf_append, if_pos rfl]
        unfold lastPosition
        rw [map_append, foldl_append]
        exact max_eq_right (Nat.le_succ _)
      · rw [unpublishIfIncomplete_slides, slidesOf_append, if_pos rfl, length_append,
          length_singleton]
        omega

theorem addEach_one (rules : Rules) (set : Nat) (upload : Upload) (world : World) :
    (∃ next slide, addEach rules set [upload] world = (next, ⟨[slide.id], []⟩) ∧
        Grown rules set world next [slide] ∧ slide.practiceSet = set ∧
        slide.managedFile = ⟨upload.name, upload.data⟩) ∨
      ∃ message, addEach rules set [upload] world = (world, ⟨[], [(upload.name, message)]⟩) := by
  rw [addEach]
  cases hadd : addSlide rules world set upload with
  | error message => exact .inr ⟨message, rfl⟩
  | ok next =>
    obtain ⟨slide, hgrown, hid, hrow⟩ := addSlide_ok hadd
    refine .inl ⟨next, slide, ?_, hgrown, hrow⟩
    rw [hid]
    rfl

theorem addEntries_crashed (rules : Rules) (set : Nat)
    (h : ∃ info ∈ entries, ¬∃ content, info.content = .ok content) (world : World)
    (outcome : UploadOutcome) :
    ∃ error after, addEntries rules set entries world outcome = .crashed error after := by
  induction entries generalizing world outcome with
  | nil =>
    obtain ⟨_, hin, _⟩ := h
    exact absurd hin not_mem_nil
  | cons info rest ih =>
    rw [addEntries]
    cases hread : info.content with
    | error error => exact ⟨_, _, rfl⟩
    | ok content =>
      obtain ⟨bad, hbad, hne⟩ := h
      have hrest : ∃ info ∈ rest, ¬∃ content, info.content = .ok content := by
        rcases mem_cons.1 hbad with rfl | hin
        · exact absurd ⟨content, hread⟩ hne
        · exact ⟨bad, hin, hne⟩
      simp only
      split_ifs
      · exact ih hrest _ _
      · exact ih hrest _ _

theorem addEntries_returned (h : ∀ info ∈ entries, ∃ content, info.content = .ok content)
    (world : World) (outcome : UploadOutcome) :
    ∃ (fates : Fates) (after : World), fates.map Prod.fst = entries ∧
      (∀ entry ∈ fates, entry.2.Of rules set entry.1) ∧
      addEntries rules set entries world outcome = .returned after
        ⟨outcome.added ++ fates.added.map (·.id), outcome.rejected ++ fates.rejected⟩ ∧
      Grown rules set world after fates.added := by
  induction entries generalizing world outcome with
  | nil =>
    refine ⟨[], world, rfl, forall_mem_nil _, ?_, Grown.refl rules set world⟩
    simp [addEntries, Fates.added, Fates.rejected]
  | cons info rest ih =>
    obtain ⟨⟨content, hread⟩, hrest⟩ := forall_mem_cons.1 h
    rw [addEntries, hread]
    by_cases hlarge : rules.imageMaxBytes < (content.take (rules.imageMaxBytes + 1)).length
    · simp only [if_pos hlarge]
      obtain ⟨fates, after, hfst, hfates, hadd, hgrown⟩ := ih hrest world
        ⟨outcome.added, outcome.rejected ++ [(entryBase info, tooLargeMessage rules)]⟩
      refine ⟨(info, .rejected (entryBase info) (tooLargeMessage rules)) :: fates, after,
        by rw [map_cons, hfst], forall_mem_cons.2 ⟨.inl rfl, hfates⟩, ?_, hgrown⟩
      rw [hadd, append_assoc]
      rfl
    · simp only [if_neg hlarge]
      have hwhole : content.take (rules.imageMaxBytes + 1) = content := by
        rw [length_take] at hlarge
        exact take_of_length_le (by omega)
      rcases addEach_one rules set ⟨rules.uploadName (entryBase info),
          content.take (rules.imageMaxBytes + 1), info.refusal⟩ world with
        ⟨next, slide, hone, hgrown, hset, hfile⟩ | ⟨message, hone⟩
      · obtain ⟨fates, after, hfst, hfates, hadd, hgrown'⟩ := ih hrest next
          ⟨outcome.added ++ [slide.id], outcome.rejected ++ []⟩
        refine ⟨(info, .added slide) :: fates, after, by rw [map_cons, hfst],
          forall_mem_cons.2 ⟨⟨hset, content, hread, ?_⟩, hfates⟩, ?_, hgrown.trans hgrown'⟩
        · rw [hfile, hwhole]
        · rw [hone]
          simp only [hadd, append_assoc, nil_append]
          rfl
      · obtain ⟨fates, after, hfst, hfates, hadd, hgrown'⟩ := ih hrest world
          ⟨outcome.added ++ [], outcome.rejected ++ [(rules.uploadName (entryBase info), message)]⟩
        refine ⟨(info, .rejected (rules.uploadName (entryBase info)) message) :: fates, after,
          by rw [map_cons, hfst], forall_mem_cons.2 ⟨.inr rfl, hfates⟩, ?_, hgrown'⟩
        rw [hone]
        simp only [hadd, append_assoc, nil_append]
        rfl

theorem added_append (first second : Fates) :
    Fates.added (first ++ second) = first.added ++ second.added := filterMap_append

theorem rejected_append (first second : Fates) :
    Fates.rejected (first ++ second) = first.rejected ++ second.rejected := filterMap_append

def rejecting (entries : List ZipInfo) (message : ZipInfo → String) : Fates :=
  entries.map fun info => (info, .rejected (entryBase info) (message info))

section
variable {message : ZipInfo → String}

theorem rejecting_added : (rejecting entries message).added = [] := by
  rw [Fates.added, rejecting, filterMap_map, filterMap_eq_nil_iff]
  exact fun _ _ => rfl

theorem rejecting_rejected : (rejecting entries message).rejected =
    entries.map fun info => (entryBase info, message info) := by
  rw [Fates.rejected, rejecting, filterMap_map, ← filterMap_eq_map]
  rfl

theorem rejecting_fst : (rejecting entries message).map Prod.fst = entries := by
  rw [rejecting, map_map]
  exact map_id _

theorem rejecting_of : ∀ entry ∈ rejecting entries message, entry.2.Of rules set entry.1 := by
  intro entry hentry
  obtain ⟨info, -, rfl⟩ := mem_map.1 hentry
  exact .inl rfl

theorem rejecting_filter : (rejecting entries message).filter (·.2.slide.isSome) = [] := by
  refine filter_eq_nil_iff.2 fun entry hentry => ?_
  obtain ⟨info, -, rfl⟩ := mem_map.1 hentry
  exact Bool.false_ne_true

end

theorem refusedOf_eq (rules : Rules) (archive : Archive) :
    refusedOf rules archive = ((consideredOf rules archive).filter fun info =>
        ¬entryRefusal rules info = none).map fun info =>
      (entryBase info, (entryRefusal rules info).getD "") := by
  rw [refusedOf]
  induction consideredOf rules archive with
  | nil => rfl
  | cons info rest ih =>
    rw [filterMap_cons]
    cases hrefusal : entryRefusal rules info with
    | none => rw [filter_cons_of_neg (by simp [hrefusal]), ← ih]; rfl
    | some message =>
      rw [filter_cons_of_pos (by simp [hrefusal]), map_cons, ← ih, hrefusal]
      rfl

theorem orderedOf_sorted (rules : Rules) (archive : Archive) :
    ((orderedOf rules archive).map (nameKey rules)).Pairwise (· ≤ ·) := by
  have hsorted : (orderedOf rules archive).Pairwise fun first second =>
      toLex (nameKey rules first, entryPath first) ≤ toLex (nameKey rules second, entryPath second) :=
    pairwise_insertionSort _ _
  rw [pairwise_map]
  refine hsorted.imp fun hle => ?_
  rcases Prod.Lex.toLex_le_toLex.1 hle with hlt | ⟨heq, -⟩
  · exact le_of_lt hlt
  · exact le_of_eq heq

theorem accounted_of_sound (hgate : archiveRefusal rules archive = none)
    (hread : ∀ info ∈ acceptedOf rules archive, Readable rules (entryBase info))
    (htaken : ∀ info ∈ (orderedOf rules archive).take (roomOf rules world set),
      ∃ content, info.content = .ok content) :
    ∃ after outcome, addSlidesFromArchive rules world set archive = .returned after outcome ∧
      Accounted rules world set archive after outcome := by
  obtain ⟨fates, after, hfst, htold, hadd, hgrown⟩ := addEntries_returned htaken world
    ⟨[], refusedOf rules archive ++ ((orderedOf rules archive).drop (roomOf rules world set)).map
      fun info => (entryBase info, fullMessage rules)⟩
  have hkeys : ∀ info ∈ acceptedOf rules archive, (naturalKey rules (entryBase info)).isSome :=
    fun info hinfo => naturalKey_isSome.2 (hread info hinfo)
  refine ⟨after, _, by rw [addSlidesFromArchive, hgate]; simp only [if_pos hkeys]; exact hadd, ?_⟩
  generalize hrefused : (consideredOf rules archive).filter
    (fun info => ¬entryRefusal rules info = none) = refused
  have hadded : (rejecting refused (fun info => (entryRefusal rules info).getD "") ++
      (rejecting ((orderedOf rules archive).drop (roomOf rules world set))
        (fun _ => fullMessage rules) ++ fates)).added = fates.added := by
    rw [added_append, added_append, rejecting_added, rejecting_added, nil_append,
      nil_append]
  refine ⟨rejecting refused (fun info => (entryRefusal rules info).getD "") ++
    (rejecting ((orderedOf rules archive).drop (roomOf rules world set))
      (fun _ => fullMessage rules) ++ fates), ?_, ?_, ?_, ?_, by rwa [hadded]⟩
  · have hordered : (orderedOf rules archive).Perm (acceptedOf rules archive) :=
      perm_insertionSort _ _
    have htakenLeft : ((orderedOf rules archive).drop (roomOf rules world set) ++
        (orderedOf rules archive).take (roomOf rules world set)).Perm
        (acceptedOf rules archive) := by
      refine perm_append_comm.trans ?_
      rwa [take_append_drop]
    rw [map_append, map_append, rejecting_fst, rejecting_fst, hfst]
    refine (htakenLeft.append_left refused).trans (perm_append_comm.trans ?_)
    rw [← hrefused, acceptedOf]
    simpa using filter_append_perm
      (fun info => decide (entryRefusal rules info = none)) (consideredOf rules archive)
  · intro entry hentry
    rcases mem_append.1 hentry with hin | hin
    · exact rejecting_of entry hin
    · rcases mem_append.1 hin with hin' | hin'
      · exact rejecting_of entry hin'
      · exact htold entry hin'
  · rw [filter_append, filter_append, rejecting_filter, rejecting_filter, nil_append,
      nil_append]
    have hsub : ((fates.filter (·.2.slide.isSome)).map fun entry => nameKey rules entry.1).Sublist
        ((orderedOf rules archive).map (nameKey rules)) := by
      have htake : fates.map (fun entry => nameKey rules entry.1) =
          ((orderedOf rules archive).take (roomOf rules world set)).map (nameKey rules) := by
        rw [← hfst, map_map]
        rfl
      have hfates : ((fates.filter (·.2.slide.isSome)).map fun entry =>
          nameKey rules entry.1).Sublist (fates.map fun entry => nameKey rules entry.1) :=
        filter_sublist.map _
      rw [htake] at hfates
      exact hfates.trans ((take_sublist _ _).map _)
    exact (orderedOf_sorted rules archive).sublist hsub
  · rw [hadded, rejected_append, rejected_append, rejecting_rejected, rejecting_rejected,
      refusedOf_eq, hrefused, append_assoc]
    rfl

end

/-- For every archive and every set the call refuses or accounts for every entry, exactly when it
refuses at once or all images have names with keys and those that there is room for can be read. -/
theorem archive_accounted_iff (rules : Rules) (world : World) (set : Nat) (archive : Archive) :
    AccountedFor rules world set archive ↔ Sound rules world set archive := by
  unfold AccountedFor Sound
  cases hgate : archiveRefusal rules archive with
  | some error =>
    have hrefused : addSlidesFromArchive rules world set archive = .refused error := by
      rw [addSlidesFromArchive, hgate]
    rw [hrefused]
    exact ⟨fun _ => .inl (by simp), fun _ => trivial⟩
  | none =>
    by_cases hread : ∀ info ∈ acceptedOf rules archive, Readable rules (entryBase info)
    · by_cases htaken : ∀ info ∈ (orderedOf rules archive).take (roomOf rules world set),
          ∃ content, info.content = .ok content
      · obtain ⟨after, outcome, hanswer, haccounted⟩ := accounted_of_sound hgate hread htaken
        rw [hanswer]
        exact ⟨fun _ => .inr ⟨hread, htaken⟩, fun _ => haccounted⟩
      · have hkeys : ∀ info ∈ acceptedOf rules archive,
            (naturalKey rules (entryBase info)).isSome :=
          fun info hinfo => naturalKey_isSome.2 (hread info hinfo)
        have hbad : ∃ info ∈ (orderedOf rules archive).take (roomOf rules world set),
            ¬∃ content, info.content = .ok content := by
          simpa only [not_forall, exists_prop] using htaken
        obtain ⟨error, after, hcrash⟩ := addEntries_crashed rules set hbad world
          ⟨[], refusedOf rules archive ++
            ((orderedOf rules archive).drop (roomOf rules world set)).map
              fun info => (entryBase info, fullMessage rules)⟩
        have hanswer : addSlidesFromArchive rules world set archive = .crashed error after := by
          rw [addSlidesFromArchive, hgate]
          simp only [if_pos hkeys]
          exact hcrash
        rw [hanswer]
        exact ⟨False.elim, fun h => absurd (h.resolve_left (by simp)).2 htaken⟩
    · have hkeys : ¬∀ info ∈ acceptedOf rules archive,
          (naturalKey rules (entryBase info)).isSome :=
        fun h => hread fun info hinfo => naturalKey_isSome.1 (h info hinfo)
      have hanswer : addSlidesFromArchive rules world set archive = .crashed .valueError world := by
        rw [addSlidesFromArchive, hgate]
        simp only [if_neg hkeys]
      rw [hanswer]
      exact ⟨False.elim, fun h => absurd (h.resolve_left (by simp)).1 hread⟩

def image (name : Text) (content : Except ReadError (List UInt8)) : ZipInfo where
  filename := name
  isDir := false
  fileSize := 1000
  encrypted := false
  content := content
  refusal := none

def emptySet : World := ⟨[⟨1, 1, "Bones".toList, false⟩], [], 2, 1⟩

def zipOf (infos : List ZipInfo) : Archive := ⟨some 5000, true, infos⟩

def superscriptName : Text := ['1', Char.ofNat 0xB2, '2', '.', 'p', 'n', 'g']

/-- The second image cannot be read when the first has been added.  One name without a key stops
everything. -/
theorem archive_fails :
    (∃ after, addSlidesFromArchive fewCharacters emptySet 1
        (zipOf [image "10.png".toList (.error .badZipFile), image "2.png".toList (.ok [7])]) =
          .crashed (.reading .badZipFile) after ∧
        after.slides = [⟨1, 1, 1, [], ⟨"2.png".toList, [7]⟩⟩]) ∧
      addSlidesFromArchive fewCharacters emptySet 1
        (zipOf [image "1.png".toList (.ok [7]), image superscriptName (.ok [8])]) =
          .crashed .valueError emptySet ∧
      ¬∀ (rules : Rules) (world : World) (set : Nat) (archive : Archive),
        AccountedFor rules world set archive := by
  have hkey : addSlidesFromArchive fewCharacters emptySet 1
      (zipOf [image "1.png".toList (.ok [7]), image superscriptName (.ok [8])]) =
        .crashed .valueError emptySet := by
    decide +kernel
  refine ⟨⟨⟨emptySet.sets, [⟨1, 1, 1, [], ⟨"2.png".toList, [7]⟩⟩], 2, 2⟩, ?_, rfl⟩, hkey,
    fun h => ?_⟩
  · decide +kernel
  · have haccounted := h fewCharacters emptySet 1
      (zipOf [image "1.png".toList (.ok [7]), image superscriptName (.ok [8])])
    rwa [AccountedFor, hkey] at haccounted

end LockIn.Practice.Archives
