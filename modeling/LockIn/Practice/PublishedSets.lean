import LockIn.Practice.Sets

/-!
# Published sets are complete

The slides of a set are numbered from one without gaps, and a published set has a name for
every slide.  Each call that writes slides keeps the numbers.  Each one that could leave a
slide without a name also takes the set back, except the list of answers: a name of
invisible characters is no blank entry, and yet nothing is left of it to compare with.
-/

namespace LockIn.Practice

open Outcome

def frame (slide : PracticeSlide) : Nat × Nat × Nat :=
  (slide.id, slide.practiceSet, slide.position)

def positions (slides : List PracticeSlide) (set : Nat) : List Nat :=
  (slidesOf slides set).map (·.position)

def InOrder (slides : List PracticeSlide) (set : Nat) : Prop :=
  List.Perm (positions slides set) (List.range' 1 (slidesOf slides set).length)

structure Numbered (most : Nat) (slides : List PracticeSlide) : Prop where
  distinct : Table.Distinct PracticeSlide.id slides
  inOrder : ∀ set, InOrder slides set
  few : ∀ set, (slidesOf slides set).length ≤ most

theorem positions_eq_frames (slides : List PracticeSlide) (set : Nat) :
    positions slides set = ((slides.map frame).filter (·.2.1 = set)).map (·.2.2) := by
  rw [List.filter_map, List.map_map]
  rfl

theorem length_slidesOf (slides : List PracticeSlide) (set : Nat) :
    (slidesOf slides set).length = (positions slides set).length := (List.length_map _).symm

theorem ids_eq_frames (slides : List PracticeSlide) :
    slides.map (·.id) = (slides.map frame).map (·.1) := by
  rw [List.map_map]
  rfl

variable {most : Nat} {ids values : List Nat} {slide : PracticeSlide}

theorem Numbered.congr {slides slides' : List PracticeSlide} (h : Numbered most slides)
    (heq : slides'.map frame = slides.map frame) : Numbered most slides' := by
  have hpositions : ∀ set, positions slides' set = positions slides set := by
    intro set
    rw [positions_eq_frames, positions_eq_frames, heq]
  have hlength : ∀ set, (slidesOf slides' set).length = (slidesOf slides set).length := by
    intro set
    rw [length_slidesOf, length_slidesOf, hpositions]
  refine ⟨?_, ?_, ?_⟩
  · show (slides'.map (·.id)).Nodup
    rw [ids_eq_frames, heq, ← ids_eq_frames]
    exact h.distinct
  · intro set
    unfold InOrder
    rw [hpositions, hlength]
    exact h.inOrder set
  · intro set
    rw [hlength]
    exact h.few set

theorem slidesOf_map {slides : List PracticeSlide} {f : PracticeSlide → PracticeSlide}
    (h : ∀ slide, (f slide).practiceSet = slide.practiceSet) (set : Nat) :
    slidesOf (slides.map f) set = (slidesOf slides set).map f := by
  unfold slidesOf
  rw [List.filter_map]
  congr 1
  apply List.filter_congr
  intro slide _
  simp only [Function.comp_apply, h]

/-- The slide after `numberFrom`. -/
def numbered (start : Nat) (ids : List Nat) (slide : PracticeSlide) : PracticeSlide :=
  if slide.id ∈ ids then { slide with position := start + ids.idxOf slide.id } else slide

theorem numberFrom_eq (hnodup : ids.Nodup) (start : Nat) (slides : List PracticeSlide) :
    numberFrom start ids slides = slides.map (numbered start ids) := by
  induction ids generalizing start slides with
  | nil =>
    show slides = slides.map (numbered start [])
    have hid : numbered start [] = id := by
      funext slide
      exact if_neg List.not_mem_nil
    rw [hid, List.map_id]
  | cons first rest ih =>
    obtain ⟨hfirst, hrest⟩ := List.nodup_cons.1 hnodup
    rw [numberFrom, ih hrest, setPosition, List.map_map]
    apply List.map_congr_left
    intro slide _
    by_cases hid : slide.id = first
    · have hnot : slide.id ∉ rest := hid ▸ hfirst
      have hmem : slide.id ∈ first :: rest := hid ▸ List.mem_cons_self
      simp only [Function.comp_apply, hid, if_true, numbered]
      rw [if_neg hfirst, if_pos List.mem_cons_self, List.idxOf_cons_self]
      rfl
    · simp only [Function.comp_apply, hid, if_false, numbered, List.mem_cons, false_or]
      by_cases hmem : slide.id ∈ rest
      · rw [if_pos hmem, if_pos hmem, List.idxOf_cons_ne rest (Ne.symm hid)]
        congr 1
        omega
      · rw [if_neg hmem, if_neg hmem]

theorem map_idxOf (hnodup : ids.Nodup) (start : Nat) :
    ids.map (fun id => start + ids.idxOf id) = List.range' start ids.length := by
  apply List.ext_getElem
  · rw [List.length_map, List.length_range']
  · intro index hindex _
    rw [List.length_map] at hindex
    rw [List.getElem_map, List.getElem_range', hnodup.idxOf_getElem index hindex, Nat.one_mul]

theorem Numbered.numberFrom {slides : List PracticeSlide} {set : Nat}
    (hdistinct : Table.Distinct PracticeSlide.id slides)
    (hfew : ∀ other, (slidesOf slides other).length ≤ most)
    (hothers : ∀ other, other ≠ set → InOrder slides other)
    (hperm : List.Perm ids ((slidesOf slides set).map (·.id))) :
    Numbered most (numberFrom 1 ids slides) := by
  have hnodup : ids.Nodup := by
    rw [hperm.nodup_iff]
    exact List.Nodup.sublist (List.filter_sublist.map _) hdistinct
  have hslides : ∀ other, slidesOf (Practice.numberFrom 1 ids slides) other =
      (slidesOf slides other).map (numbered 1 ids) := by
    intro other
    rw [numberFrom_eq hnodup]
    apply slidesOf_map
    intro slide
    unfold numbered
    split <;> rfl
  have hlength : ∀ other, (slidesOf (Practice.numberFrom 1 ids slides) other).length =
      (slidesOf slides other).length := by
    intro other
    rw [hslides, List.length_map]
  refine ⟨?_, ?_, ?_⟩
  · show ((Practice.numberFrom 1 ids slides).map (·.id)).Nodup
    have hids : (slides.map (numbered 1 ids)).map (·.id) = slides.map (·.id) := by
      rw [List.map_map]
      apply List.map_congr_left
      intro slide _
      simp only [Function.comp_apply, numbered]
      split <;> rfl
    rw [numberFrom_eq hnodup, hids]
    exact hdistinct
  · intro other
    unfold InOrder positions
    rw [hlength, hslides, List.map_map]
    by_cases hother : other = set
    · subst hother
      have hmem : ∀ slide ∈ slidesOf slides other, (numbered 1 ids slide).position =
          1 + ids.idxOf slide.id := by
        intro slide hslide
        have hin : slide.id ∈ ids := hperm.mem_iff.2 (List.mem_map_of_mem hslide)
        unfold numbered
        rw [if_pos hin]
      have hmap : (slidesOf slides other).map ((·.position) ∘ numbered 1 ids) =
          ((slidesOf slides other).map (·.id)).map fun id => 1 + ids.idxOf id := by
        rw [List.map_map]
        exact List.map_congr_left hmem
      rw [hmap]
      calc List.Perm _ (ids.map fun id => 1 + ids.idxOf id) := (hperm.map _).symm
        _ = List.range' 1 ids.length := map_idxOf hnodup 1
        _ = List.range' 1 (slidesOf slides other).length := by
            rw [hperm.length_eq, List.length_map]
    · have hout : ∀ slide ∈ slidesOf slides other, (numbered 1 ids slide).position =
          slide.position := by
        intro slide hslide
        have hnot : slide.id ∉ ids := by
          intro hin
          obtain ⟨twin, htwin, hid⟩ := List.mem_map.1 (hperm.mem_iff.1 hin)
          have hslideMem := List.mem_filter.1 hslide
          have htwinMem := List.mem_filter.1 htwin
          have heq := hdistinct.eq htwinMem.1 hslideMem.1 hid
          apply hother
          rw [← of_decide_eq_true hslideMem.2, ← of_decide_eq_true htwinMem.2, heq]
        unfold numbered
        rw [if_neg hnot]
      have hmap : (slidesOf slides other).map ((·.position) ∘ numbered 1 ids) =
          positions slides other := List.map_congr_left hout
      rw [hmap]
      exact hothers other hother
  · intro other
    rw [hlength]
    exact hfew other

theorem orderedSlides_perm (slides : List PracticeSlide) (set : Nat) :
    List.Perm ((orderedSlides slides set).map (·.id)) ((slidesOf slides set).map (·.id)) :=
  (List.perm_insertionSort _ _).map _

theorem mem_orderedSlides {slides : List PracticeSlide} {set : Nat} :
    slide ∈ orderedSlides slides set ↔ slide ∈ slides ∧ slide.practiceSet = set := by
  have hmem : slide ∈ orderedSlides slides set ↔ slide ∈ slidesOf slides set :=
    (List.perm_insertionSort _ _).mem_iff
  rw [hmem, slidesOf, List.mem_filter, decide_eq_true_eq]

theorem foldl_max_le {start : Nat} (hstart : start ≤ most) (h : ∀ value ∈ values, value ≤ most) :
    values.foldl max start ≤ most := by
  induction values generalizing start with
  | nil => exact hstart
  | cons value rest ih =>
    apply ih
    · exact max_le hstart (h value List.mem_cons_self)
    · exact fun other hother => h other (List.mem_cons_of_mem _ hother)

theorem le_foldl_max {start value : Nat} (h : value ∈ values ∨ value ≤ start) :
    value ≤ values.foldl max start := by
  induction values generalizing start with
  | nil => exact h.resolve_left List.not_mem_nil
  | cons head rest ih =>
    apply ih
    rcases h with h | h
    · rcases List.mem_cons.1 h with rfl | hrest
      · exact Or.inr (le_max_right _ _)
      · exact Or.inl hrest
    · exact Or.inr (le_trans h (le_max_left _ _))

theorem InOrder.lastPosition {slides : List PracticeSlide} {set : Nat} (h : InOrder slides set) :
    lastPosition (slidesOf slides set) = (slidesOf slides set).length := by
  have hmem : ∀ value, value ∈ positions slides set ↔
      value ∈ List.range' 1 (slidesOf slides set).length := fun value => h.mem_iff
  apply Nat.le_antisymm
  · apply foldl_max_le (Nat.zero_le _)
    intro value hvalue
    have hrange := List.mem_range'_1.1 ((hmem value).1 hvalue)
    omega
  · by_cases hempty : (slidesOf slides set).length = 0
    · rw [hempty]
      exact Nat.zero_le _
    · apply le_foldl_max
      left
      apply (hmem _).2
      rw [List.mem_range'_1]
      omega

theorem slidesOf_append (slides : List PracticeSlide) (slide : PracticeSlide) (set : Nat) :
    slidesOf (slides ++ [slide]) set =
      slidesOf slides set ++ if slide.practiceSet = set then [slide] else [] := by
  unfold slidesOf
  rw [List.filter_append]
  congr 1
  by_cases h : slide.practiceSet = set
  · rw [if_pos h]
    simp [h]
  · rw [if_neg h]
    simp [h]

theorem Numbered.append {slides : List PracticeSlide} {set fresh : Nat} {answer : Text}
    {managedFile : ManagedFile} (h : Numbered most slides)
    (hfresh : ∀ slide ∈ slides, slide.id ≠ fresh) (hroom : (slidesOf slides set).length < most) :
    Numbered most
      (slides ++ [⟨fresh, set, lastPosition (slidesOf slides set) + 1, answer, managedFile⟩]) := by
  refine ⟨h.distinct.append hfresh, ?_, ?_⟩
  · intro other
    unfold InOrder positions
    rw [slidesOf_append]
    by_cases hother : set = other
    · subst hother
      rw [if_pos rfl, List.map_append, List.length_append, List.length_singleton, List.range'_concat,
        (h.inOrder set).lastPosition]
      apply (h.inOrder set).append
      rw [Nat.one_mul, Nat.add_comm]
      exact List.Perm.refl _
    · rw [if_neg hother, List.append_nil]
      exact h.inOrder other
  · intro other
    rw [slidesOf_append]
    by_cases hother : set = other
    · subst hother
      rw [if_pos rfl, List.length_append, List.length_singleton]
      omega
    · rw [if_neg hother, List.append_nil]
      exact h.few other

section
variable (rules : Rules) (careful : Prop)

/-- A set that may be published.  Its answers are told of runs whose lists of answers are all
careful. -/
structure Complete (slides : List PracticeSlide) (set : Nat) : Prop where
  nonempty : ∃ slide ∈ slides, slide.practiceSet = set
  named : careful → ∀ slide ∈ slides, slide.practiceSet = set →
    normalizeAnswer rules slide.answer ≠ []

def PublishedBut (world : World) (excepted : Option Nat) : Prop :=
  ∀ row ∈ world.sets, row.isPublished = true → some row.id ≠ excepted →
    Complete rules careful world.slides row.id

variable {rules} {careful} {world : World}

theorem checkPublishable_ok {set : Nat} (h : checkPublishable rules world set = .ok ()) :
    Complete rules careful world.slides set := by
  have hnamed : missingAnswers rules (slidesOf world.slides set) = 0 ↔
      ∀ slide ∈ slidesOf world.slides set, normalizeAnswer rules slide.answer ≠ [] := by
    unfold missingAnswers
    rw [List.length_eq_zero_iff, List.filter_eq_nil_iff]
    simp only [decide_eq_true_eq]
  have hmem : ∀ slide, slide ∈ slidesOf world.slides set ↔
      slide ∈ world.slides ∧ slide.practiceSet = set := by
    intro slide
    rw [slidesOf, List.mem_filter, decide_eq_true_eq]
  unfold checkPublishable at h
  by_cases hempty : slidesOf world.slides set = []
  · simp only [hempty, if_true] at h
    simp at h
  · by_cases hmissing : missingAnswers rules (slidesOf world.slides set) = 0
    · obtain ⟨slide, hslide⟩ := List.exists_mem_of_ne_nil _ hempty
      exact ⟨⟨slide, (hmem slide).1 hslide⟩, fun _ slide hin hset =>
        hnamed.1 hmissing slide ((hmem slide).2 ⟨hin, hset⟩)⟩
    · simp only [hempty, if_false, ne_eq, hmissing, not_false_eq_true, if_true] at h
      simp at h

variable {excepted now : Nat} {next : World} {title : Option Text} {isPublished : Option Bool}
  {uploads : List Upload}

theorem PublishedBut.unpublish (h : PublishedBut rules careful world (some excepted)) :
    PublishedBut rules careful (unpublish world excepted) none := by
  intro row hrow hpublished _
  obtain ⟨old, hold, rfl⟩ := List.mem_map.1 hrow
  by_cases hid : old.id = excepted
  · rw [if_pos hid] at hpublished
    simp at hpublished
  · rw [if_neg hid] at hpublished ⊢
    exact h old hold hpublished (fun heq => hid (Option.some.inj heq))

/-- A check afterwards is enough, whatever was done to the set. -/
theorem PublishedBut.unpublishIfIncomplete (h : PublishedBut rules careful world (some excepted)) :
    PublishedBut rules careful (unpublishIfIncomplete rules world excepted) none := by
  unfold Practice.unpublishIfIncomplete
  cases hcheck : checkPublishable rules world excepted with
  | error error => exact h.unpublish
  | ok _ =>
    intro row hrow hpublished _
    by_cases hid : row.id = excepted
    · rw [hid]
      exact checkPublishable_ok hcheck
    · exact h row hrow hpublished (fun heq => hid (Option.some.inj heq))

theorem unpublishIfIncomplete_slides (set : Nat) :
    (unpublishIfIncomplete rules world set).slides = world.slides := by
  unfold unpublishIfIncomplete
  cases checkPublishable rules world set <;> rfl

variable (rules) (careful) in
/-- What every call keeps. -/
structure Kept (world : World) : Prop where
  numbered : Numbered rules.maxSlidesPerSet world.slides
  fresh : ∀ slide ∈ world.slides, slide.id < world.nextSlide
  published : PublishedBut rules careful world none

theorem kept_emptyWorld : Kept rules careful emptyWorld where
  numbered := ⟨List.nodup_nil, fun _ => List.Perm.refl _, fun _ => Nat.zero_le _⟩
  fresh := List.forall_mem_nil _
  published := List.forall_mem_nil _

theorem findSet_ok {set : Nat} {row : PracticeSet} (h : findSet world set = .ok row) :
    row ∈ world.sets ∧ row.id = set := by
  unfold findSet at h
  cases hfind : Table.find PracticeSet.id world.sets set with
  | none =>
    rw [hfind] at h
    simp at h
  | some found =>
    rw [hfind] at h
    cases h
    exact ⟨Table.find_mem hfind, Table.find_key hfind⟩

theorem findSlide_ok {id : Nat} (h : findSlide world id = .ok slide) :
    slide ∈ world.slides ∧ slide.id = id := by
  unfold findSlide at h
  cases hfind : Table.find PracticeSlide.id world.slides id with
  | none =>
    rw [hfind] at h
    simp at h
  | some found =>
    rw [hfind] at h
    cases h
    exact ⟨Table.find_mem hfind, Table.find_key hfind⟩

theorem Kept.createSet {subject : Nat} {title : Text} (h : Kept rules careful world)
    (hcall : createSet rules world subject title = .ok next) : Kept rules careful next := by
  obtain ⟨normalized, _, hcall⟩ := bind_eq_ok.1 hcall
  by_cases htaken : world.sets.any fun row =>
      row.subject = subject && rules.sameTitle row.title normalized
  · rw [if_pos htaken] at hcall
    simp at hcall
  · rw [if_neg htaken] at hcall
    cases hcall
    refine ⟨h.numbered, h.fresh, ?_⟩
    intro row hrow hpublished hexcepted
    rcases List.mem_append.1 hrow with hold | hnew
    · exact h.published row hold hpublished hexcepted
    · rw [List.mem_singleton.1 hnew] at hpublished
      simp at hpublished

theorem rename_ok {locked renamed : PracticeSet}
    (h : rename rules world locked title = .ok renamed) :
    renamed.id = locked.id ∧ renamed.isPublished = locked.isPublished := by
  cases title with
  | none =>
    cases h
    exact ⟨rfl, rfl⟩
  | some title =>
    obtain ⟨normalized, _, h⟩ := bind_eq_ok.1 h
    by_cases htaken : world.sets.any fun row =>
        row.subject = locked.subject && rules.sameTitle row.title normalized && row.id ≠ locked.id
    · rw [if_pos htaken] at h
      simp at h
    · rw [if_neg htaken] at h
      cases h
      exact ⟨rfl, rfl⟩

theorem publish_ok {locked published : PracticeSet}
    (h : publish rules world locked isPublished = .ok published) :
    published.id = locked.id ∧ (published.isPublished = true →
      locked.isPublished = true ∨ Complete rules careful world.slides locked.id) := by
  cases isPublished with
  | none =>
    cases h
    exact ⟨rfl, Or.inl⟩
  | some wanted =>
    cases wanted with
    | false =>
      cases h
      exact ⟨rfl, fun hpublished => absurd hpublished (by simp)⟩
    | true =>
      obtain ⟨_, hcheck, h⟩ := bind_eq_ok.1 h
      cases h
      exact ⟨rfl, fun _ => Or.inr (checkPublishable_ok hcheck)⟩

theorem Kept.updateSet {set : Nat} (h : Kept rules careful world)
    (hcall : updateSet rules world set title isPublished = .ok next) : Kept rules careful next := by
  obtain ⟨locked, hlocked, hcall⟩ := bind_eq_ok.1 hcall
  obtain ⟨renamed, hrenamed, hcall⟩ := bind_eq_ok.1 hcall
  obtain ⟨published, hpublished, hcall⟩ := bind_eq_ok.1 hcall
  cases hcall
  obtain ⟨hin, _⟩ := findSet_ok hlocked
  obtain ⟨hrenamedId, hrenamedFlag⟩ := rename_ok hrenamed
  obtain ⟨hid, hflag⟩ := publish_ok hpublished
  refine ⟨h.numbered, h.fresh, ?_⟩
  intro row hrow hrowPublished hexcepted
  rcases Table.mem_of_mem_put hrow with rfl | hold
  · rw [hid]
    rcases hflag hrowPublished with hbefore | hcomplete
    · rw [hrenamedId]
      apply h.published locked hin _ (by simp)
      rw [← hrenamedFlag]
      exact hbefore
    · exact hcomplete
  · exact h.published row hold hrowPublished hexcepted

theorem Complete.append {slides : List PracticeSlide} {set : Nat}
    (h : Complete rules careful slides set) (hother : slide.practiceSet ≠ set) :
    Complete rules careful (slides ++ [slide]) set := by
  obtain ⟨old, hold, hset⟩ := h.nonempty
  refine ⟨⟨old, List.mem_append_left _ hold, hset⟩, ?_⟩
  intro hcareful row hrow hrowSet
  rcases List.mem_append.1 hrow with hin | hnew
  · exact h.named hcareful row hin hrowSet
  · rw [List.mem_singleton.1 hnew] at hrowSet
    exact absurd hrowSet hother

theorem Kept.addSlide {set : Nat} {upload : Upload} (h : Kept rules careful world)
    (hcall : addSlide rules world set upload = .ok next) : Kept rules careful next := by
  unfold Practice.addSlide at hcall
  by_cases hfull : rules.maxSlidesPerSet ≤ (slidesOf world.slides set).length
  · simp only [hfull, if_true] at hcall
    simp at hcall
  · simp only [hfull, if_false] at hcall
    cases hrefusal : upload.refusal with
    | some message =>
      rw [hrefusal] at hcall
      simp at hcall
    | none =>
      rw [hrefusal] at hcall
      cases hcall
      have hfresh : ∀ slide ∈ world.slides, slide.id ≠ world.nextSlide := by
        intro slide hslide
        have hlt := h.fresh slide hslide
        omega
      refine ⟨?_, ?_, ?_⟩
      · rw [unpublishIfIncomplete_slides]
        exact h.numbered.append hfresh (by omega)
      · rw [unpublishIfIncomplete_slides]
        intro slide hslide
        have hnext : (unpublishIfIncomplete rules
            { world with
              slides := world.slides ++
                [⟨world.nextSlide, set, lastPosition (slidesOf world.slides set) + 1, [],
                  ⟨upload.name, upload.data⟩⟩]
              nextSlide := world.nextSlide + 1 } set).nextSlide = world.nextSlide + 1 := by
          unfold unpublishIfIncomplete
          split <;> rfl
        rw [hnext]
        rcases List.mem_append.1 hslide with hold | hnew
        · have hlt := h.fresh slide hold
          omega
        · rw [List.mem_singleton.1 hnew]
          exact Nat.lt_succ_self _
      · apply PublishedBut.unpublishIfIncomplete
        intro row hrow hpublished hexcepted
        apply (h.published row hrow hpublished (by simp)).append
        intro hset
        exact hexcepted (congrArg some hset.symm)

theorem Kept.addEach {set : Nat} (h : Kept rules careful world) :
    Kept rules careful (addEach rules set uploads world).1 := by
  induction uploads generalizing world with
  | nil => exact h
  | cons upload rest ih =>
    rw [Practice.addEach]
    cases hone : Practice.addSlide rules world set upload with
    | error message => exact ih h
    | ok next => exact ih (h.addSlide hone)

theorem Kept.addSlides {result : World × UploadOutcome} {set : Nat} (h : Kept rules careful world)
    (hcall : addSlides rules world set uploads = .ok result) : Kept rules careful result.1 := by
  obtain ⟨_, _, hcall⟩ := bind_eq_ok.1 hcall
  cases hcall
  exact h.addEach

theorem Kept.addEntries {entries : List ZipInfo} {outcome : UploadOutcome} {set : Nat}
    (h : Kept rules careful world)
    (hcall : (addEntries rules set entries world outcome).committed = .ok next) :
    Kept rules careful next := by
  induction entries generalizing world outcome with
  | nil =>
    cases hcall
    exact h
  | cons info rest ih =>
    rw [Practice.addEntries] at hcall
    cases hread : info.content with
    | error error =>
      rw [hread] at hcall
      cases hcall
      exact h
    | ok content =>
      simp only [hread] at hcall
      split_ifs at hcall
      · exact ih h hcall
      · exact ih h.addEach hcall

theorem Kept.addSlidesFromArchive {set : Nat} {archive : Archive} (h : Kept rules careful world)
    (hcall : (addSlidesFromArchive rules world set archive).committed = .ok next) :
    Kept rules careful next := by
  unfold Practice.addSlidesFromArchive at hcall
  cases hgate : archiveRefusal rules archive with
  | some error =>
    rw [hgate] at hcall
    cases hcall
  | none =>
    simp only [hgate] at hcall
    split_ifs at hcall
    · exact h.addEntries hcall
    · cases hcall
      exact h

theorem map_frame_put {slides : List PracticeSlide}
    (hdistinct : Table.Distinct PracticeSlide.id slides) (h : frame slide ∈ slides.map frame) :
    (Table.put PracticeSlide.id slides slide).map frame = slides.map frame := by
  obtain ⟨old, hold, hframe⟩ := List.mem_map.1 h
  have hid : old.id = slide.id := congrArg Prod.fst hframe
  unfold Table.put
  rw [List.map_map]
  apply List.map_congr_left
  intro row hrow
  by_cases hrowId : row.id = slide.id
  · have heq : row = old := hdistinct.eq hrow hold (hrowId.trans hid.symm)
    simp only [Function.comp_apply, hrowId, if_true]
    rw [← hframe, heq]
  · simp only [Function.comp_apply, hrowId, if_false]

theorem exists_slide_of_frames {slides slides' : List PracticeSlide} {set : Nat}
    (heq : slides'.map frame = slides.map frame) (h : ∃ slide ∈ slides, slide.practiceSet = set) :
    ∃ slide ∈ slides', slide.practiceSet = set := by
  obtain ⟨slide, hslide, hset⟩ := h
  have hmem : frame slide ∈ slides'.map frame := heq ▸ List.mem_map_of_mem hslide
  obtain ⟨twin, htwin, hframe⟩ := List.mem_map.1 hmem
  have hsets : twin.practiceSet = slide.practiceSet := congrArg (·.2.1) hframe
  exact ⟨twin, htwin, hsets.trans hset⟩

theorem fresh_of_frames {slides slides' : List PracticeSlide} {bound : Nat}
    (heq : slides'.map frame = slides.map frame) (h : ∀ slide ∈ slides, slide.id < bound) :
    ∀ slide ∈ slides', slide.id < bound := by
  intro slide hslide
  have hmem : frame slide ∈ slides.map frame := heq ▸ List.mem_map_of_mem hslide
  obtain ⟨twin, htwin, hframe⟩ := List.mem_map.1 hmem
  have hid : twin.id = slide.id := congrArg (·.1) hframe
  rw [← hid]
  exact h twin htwin

theorem cleanAnswer_ok {value cleaned : Text} (h : cleanAnswer rules value = .ok cleaned) :
    cleaned = singleSpaced rules value := by
  unfold cleanAnswer at h
  by_cases hlong : answerMaxLength < (singleSpaced rules value).length
  · simp only [hlong, if_true] at h
    simp at h
  · simp only [hlong, if_false] at h
    exact (Except.ok.inj h).symm

theorem Kept.setSlideAnswer {slide : Nat} {answer : Text} (h : Kept rules careful world)
    (hcall : setSlideAnswer rules world slide answer = .ok next) : Kept rules careful next := by
  obtain ⟨cleaned, _, hcall⟩ := bind_eq_ok.1 hcall
  obtain ⟨locked, hlocked, hcall⟩ := bind_eq_ok.1 hcall
  obtain ⟨hin, _⟩ := findSlide_ok hlocked
  have hframes : (saveSlide world { locked with answer := cleaned }).slides.map frame =
      world.slides.map frame := by
    apply map_frame_put h.numbered.distinct
    show frame locked ∈ world.slides.map frame
    exact List.mem_map_of_mem hin
  have hothers : PublishedBut rules careful (saveSlide world { locked with answer := cleaned })
      (some locked.practiceSet) := by
    intro row hrow hpublished hexcepted
    have hcomplete := h.published row hrow hpublished (by simp)
    refine ⟨exists_slide_of_frames hframes hcomplete.nonempty, ?_⟩
    intro hcareful slide hslide hset
    rcases Table.mem_of_mem_put hslide with rfl | hold
    · exact absurd (congrArg some hset.symm) hexcepted
    · exact hcomplete.named hcareful slide hold hset
  by_cases hblank : normalizeAnswer rules cleaned = []
  · simp only [hblank, if_true] at hcall
    cases hcall
    refine ⟨?_, ?_, hothers.unpublishIfIncomplete⟩
    · rw [unpublishIfIncomplete_slides]
      exact h.numbered.congr hframes
    · rw [unpublishIfIncomplete_slides]
      have hnext : (unpublishIfIncomplete rules (saveSlide world { locked with answer := cleaned })
          locked.practiceSet).nextSlide = world.nextSlide := by
        unfold unpublishIfIncomplete
        split <;> rfl
      rw [hnext]
      exact fresh_of_frames hframes h.fresh
  · simp only [hblank, if_false] at hcall
    cases hcall
    refine ⟨h.numbered.congr hframes, fresh_of_frames hframes h.fresh, ?_⟩
    intro row hrow hpublished _
    have hcomplete := h.published row hrow hpublished (by simp)
    refine ⟨exists_slide_of_frames hframes hcomplete.nonempty, ?_⟩
    intro hcareful slide hslide hset
    rcases Table.mem_of_mem_put hslide with rfl | hold
    · exact hblank
    · exact hcomplete.named hcareful slide hold hset

structure Answered (world : World) (pairs : List (PracticeSlide × Text)) (next : World) : Prop where
  sets : next.sets = world.sets
  nextSlide : next.nextSlide = world.nextSlide
  frames : next.slides.map frame = world.slides.map frame
  slides : ∀ slide ∈ next.slides, slide ∈ world.slides ∨
    ∃ pair ∈ pairs, pair.2 ≠ [] ∧ slide = { pair.1 with answer := pair.2 }

theorem saveAnswer_answered {pair : PracticeSlide × Text}
    (hdistinct : Table.Distinct PracticeSlide.id world.slides)
    (h : frame pair.1 ∈ world.slides.map frame) : Answered world [pair] (saveAnswer world pair) := by
  unfold saveAnswer
  by_cases hwrite : pair.2 ≠ [] ∧ pair.2 ≠ pair.1.answer
  · rw [if_pos hwrite]
    refine ⟨rfl, rfl, map_frame_put hdistinct h, ?_⟩
    intro slide hslide
    rcases Table.mem_of_mem_put hslide with rfl | hold
    · exact Or.inr ⟨pair, List.mem_singleton_self _, hwrite.1, rfl⟩
    · exact Or.inl hold
  · rw [if_neg hwrite]
    exact ⟨rfl, rfl, rfl, fun slide hslide => Or.inl hslide⟩

theorem foldl_saveAnswer {pairs : List (PracticeSlide × Text)}
    (hdistinct : Table.Distinct PracticeSlide.id world.slides)
    (h : ∀ pair ∈ pairs, frame pair.1 ∈ world.slides.map frame) :
    Answered world pairs (pairs.foldl saveAnswer world) := by
  induction pairs generalizing world with
  | nil => exact ⟨rfl, rfl, rfl, fun slide hslide => Or.inl hslide⟩
  | cons pair rest ih =>
    have hfirst := saveAnswer_answered hdistinct (h pair List.mem_cons_self)
    have hdistinct' : Table.Distinct PracticeSlide.id (saveAnswer world pair).slides := by
      show ((saveAnswer world pair).slides.map (·.id)).Nodup
      rw [ids_eq_frames, hfirst.frames, ← ids_eq_frames]
      exact hdistinct
    have hrest := ih hdistinct' fun other hother => by
      rw [hfirst.frames]
      exact h other (List.mem_cons_of_mem _ hother)
    refine ⟨hrest.sets.trans hfirst.sets, hrest.nextSlide.trans hfirst.nextSlide,
      hrest.frames.trans hfirst.frames, ?_⟩
    intro slide hslide
    rcases hrest.slides slide hslide with hone | ⟨other, hother, hwrite⟩
    · rcases hfirst.slides slide hone with hold | ⟨one, hone, hwrite⟩
      · exact Or.inl hold
      · rw [List.mem_singleton.1 hone] at hwrite
        exact Or.inr ⟨pair, List.mem_cons_self, hwrite⟩
    · exact Or.inr ⟨other, List.mem_cons_of_mem _ hother, hwrite⟩

/-- A list of answers for a published set has no entry that is not blank and yet has nothing
left once it is normalized. -/
def Careful (rules : Rules) (world : World) : Call → Prop
  | .setAnswersInOrder set answers =>
    (∃ row ∈ world.sets, row.id = set ∧ row.isPublished = true) →
      ∀ pair ∈ (orderedSlides world.slides set).zip (answers.map (singleSpaced rules)),
        pair.2 ≠ [] → normalizeAnswer rules pair.2 ≠ []
  | _ => True

theorem Kept.setAnswersInOrder {set : Nat} {answers : List Text} (h : Kept rules careful world)
    (hadmits : careful → Careful rules world (.setAnswersInOrder set answers))
    (hcall : setAnswersInOrder rules world set answers = .ok next) : Kept rules careful next := by
  obtain ⟨_, _, hcall⟩ := bind_eq_ok.1 hcall
  by_cases hmany : (orderedSlides world.slides set).length < answers.length
  · simp only [hmany, if_true] at hcall
    simp at hcall
  · simp only [hmany, if_false] at hcall
    obtain ⟨cleaned, hcleaned, hcall⟩ := bind_eq_ok.1 hcall
    cases hcall
    have hspaced : cleaned = answers.map (singleSpaced rules) := by
      rw [mapM_eq_ok fun answer hanswer => by
        obtain ⟨result, hresult⟩ := ok_of_mapM hcleaned answer hanswer
        rw [hresult, cleanAnswer_ok hresult]] at hcleaned
      exact (Except.ok.inj hcleaned).symm
    subst hspaced
    have hmem : ∀ pair ∈ (orderedSlides world.slides set).zip (answers.map (singleSpaced rules)),
        pair.1 ∈ world.slides ∧ pair.1.practiceSet = set := fun pair hpair =>
      mem_orderedSlides.1 (List.of_mem_zip hpair).1
    have hanswered := foldl_saveAnswer h.numbered.distinct fun pair hpair =>
      List.mem_map_of_mem (f := frame) (hmem pair hpair).1
    refine ⟨h.numbered.congr hanswered.frames, ?_, ?_⟩
    · rw [hanswered.nextSlide]
      exact fresh_of_frames hanswered.frames h.fresh
    · intro row hrow hpublished _
      rw [hanswered.sets] at hrow
      have hcomplete := h.published row hrow hpublished (by simp)
      refine ⟨exists_slide_of_frames hanswered.frames hcomplete.nonempty, ?_⟩
      intro hcareful slide hslide hset
      rcases hanswered.slides slide hslide with hold | ⟨pair, hpair, hwritten, rfl⟩
      · exact hcomplete.named hcareful slide hold hset
      · have hrowSet : row.id = set := hset.symm.trans (hmem pair hpair).2
        exact hadmits hcareful ⟨row, hrow, hrowSet, hpublished⟩ pair hpair hwritten

def SameSlide (slide old : PracticeSlide) : Prop :=
  slide.id = old.id ∧ slide.practiceSet = old.practiceSet ∧ slide.answer = old.answer

theorem sameSlide_numbered (start : Nat) (ids : List Nat) (slide : PracticeSlide) :
    SameSlide (numbered start ids slide) slide := by
  unfold numbered
  split <;> exact ⟨rfl, rfl, rfl⟩

theorem mem_numberFrom {slides : List PracticeSlide} (hnodup : ids.Nodup)
    (h : slide ∈ numberFrom 1 ids slides) : ∃ old ∈ slides, SameSlide slide old := by
  rw [numberFrom_eq hnodup] at h
  obtain ⟨old, hold, rfl⟩ := List.mem_map.1 h
  exact ⟨old, hold, sameSlide_numbered 1 ids old⟩

theorem Complete.numberFrom {slides : List PracticeSlide} {set : Nat} (hnodup : ids.Nodup)
    (h : Complete rules careful slides set) :
    Complete rules careful (numberFrom 1 ids slides) set := by
  obtain ⟨slide, hslide, hset⟩ := h.nonempty
  constructor
  · refine ⟨numbered 1 ids slide, ?_, (sameSlide_numbered 1 ids slide).2.1.trans hset⟩
    rw [numberFrom_eq hnodup]
    exact List.mem_map_of_mem hslide
  · intro hcareful row hrow hrowSet
    obtain ⟨old, hold, hsame⟩ := mem_numberFrom hnodup hrow
    rw [hsame.2.2]
    exact h.named hcareful old hold (hsame.2.1.symm.trans hrowSet)

theorem nodup_ids_slidesOf {slides : List PracticeSlide}
    (h : Table.Distinct PracticeSlide.id slides) (set : Nat) :
    ((slidesOf slides set).map (·.id)).Nodup :=
  List.Nodup.sublist (List.filter_sublist.map _) h

theorem Kept.numberFrom {set : Nat} (h : Kept rules careful world)
    (hperm : List.Perm ids ((slidesOf world.slides set).map (·.id))) :
    Kept rules careful { world with slides := numberFrom 1 ids world.slides } := by
  have hnodup : ids.Nodup := hperm.nodup_iff.2 (nodup_ids_slidesOf h.numbered.distinct set)
  refine ⟨?_, ?_, ?_⟩
  · exact .numberFrom h.numbered.distinct h.numbered.few (fun other _ => h.numbered.inOrder other)
      hperm
  · intro slide hslide
    obtain ⟨old, hold, hsame⟩ := mem_numberFrom hnodup hslide
    rw [hsame.1]
    exact h.fresh old hold
  · intro row hrow hpublished hexcepted
    exact (h.published row hrow hpublished hexcepted).numberFrom hnodup

theorem Kept.reorderSlides {set : Nat} {orderedIds : List Nat} (h : Kept rules careful world)
    (hcall : reorderSlides world set orderedIds = .ok next) : Kept rules careful next := by
  obtain ⟨_, _, hcall⟩ := bind_eq_ok.1 hcall
  by_cases hwrong : ¬ orderedIds.Nodup ∨
      ¬ (∀ id ∈ orderedIds, id ∈ (slidesOf world.slides set).map (·.id)) ∨
      ¬ (∀ id ∈ (slidesOf world.slides set).map (·.id), id ∈ orderedIds)
  · simp only [hwrong, if_true] at hcall
    simp at hcall
  · simp only [hwrong, if_false] at hcall
    cases hcall
    simp only [not_or, not_not] at hwrong
    obtain ⟨hnodup, hin, hall⟩ := hwrong
    have hids := nodup_ids_slidesOf h.numbered.distinct set
    have hperm : List.Perm orderedIds ((slidesOf world.slides set).map (·.id)) := by
      rw [List.perm_ext_iff_of_nodup hnodup hids]
      exact fun id => ⟨hin id, hall id⟩
    exact h.numberFrom hperm

theorem Kept.moveSlide {set slide : Nat} {position : Int} (h : Kept rules careful world)
    (hcall : moveSlide world set slide position = .ok next) : Kept rules careful next := by
  obtain ⟨_, _, hcall⟩ := bind_eq_ok.1 hcall
  by_cases hforeign : slide ∉ (orderedSlides world.slides set).map (·.id)
  · simp only [hforeign, not_false_eq_true, if_true] at hcall
    simp at hcall
  · rw [if_neg hforeign] at hcall
    by_cases hrange : ¬ (1 ≤ position ∧
        position ≤ ((orderedSlides world.slides set).map (·.id)).length)
    · rw [if_pos hrange] at hcall
      simp at hcall
    · rw [if_neg hrange] at hcall
      cases hcall
      have hin := not_not.1 hforeign
      have hbounds := not_not.1 hrange
      have hlength := List.length_erase_of_mem hin
      have hinsert : List.Perm ((((orderedSlides world.slides set).map (·.id)).erase slide).insertIdx
          (position.toNat - 1) slide)
          (slide :: ((orderedSlides world.slides set).map (·.id)).erase slide) :=
        List.perm_insertIdx _ _ (by omega)
      exact h.numberFrom (hinsert.trans ((List.perm_cons_erase hin).symm.trans
        (orderedSlides_perm _ _)))

/-- Taking a slide away closes the gap in its set, and an empty set is taken back. -/
theorem Kept.deleteSlide {slide : Nat} (h : Kept rules careful world)
    (hcall : deleteSlide world slide = .ok next) : Kept rules careful next := by
  obtain ⟨deleted, hdeleted, hcall⟩ := bind_eq_ok.1 hcall
  obtain ⟨hin, hid⟩ := findSlide_ok hdeleted
  have hsub : ∀ row ∈ world.slides.filter (·.id ≠ slide), row ∈ world.slides :=
    fun row hrow => (List.mem_filter.1 hrow).1
  have hdistinct : Table.Distinct PracticeSlide.id (world.slides.filter (·.id ≠ slide)) :=
    List.Nodup.sublist (List.filter_sublist.map _) h.numbered.distinct
  -- no slide of another set goes
  have hothers : ∀ other, other ≠ deleted.practiceSet →
      slidesOf (world.slides.filter (·.id ≠ slide)) other = slidesOf world.slides other := by
    intro other hother
    unfold slidesOf
    rw [List.filter_filter]
    apply List.filter_congr
    intro row hrow
    by_cases hset : row.practiceSet = other
    · have hne : row.id ≠ slide := by
        intro heq
        apply hother
        rw [← hset, h.numbered.distinct.eq hrow hin (heq.trans hid.symm)]
      simp [hset, hne]
    · simp [hset]
  have hfew : ∀ other, (slidesOf (world.slides.filter (·.id ≠ slide)) other).length ≤
      rules.maxSlidesPerSet := by
    intro other
    calc _ ≤ (slidesOf world.slides other).length :=
          (List.Sublist.filter _ List.filter_sublist).length_le
      _ ≤ rules.maxSlidesPerSet := h.numbered.few other
  have hperm := orderedSlides_perm (world.slides.filter (·.id ≠ slide)) deleted.practiceSet
  have hnodup := hperm.nodup_iff.2 (nodup_ids_slidesOf hdistinct deleted.practiceSet)
  have hnumbered : Numbered rules.maxSlidesPerSet
      (renumber { world with slides := world.slides.filter (·.id ≠ slide) } deleted.practiceSet).slides := by
    apply Numbered.numberFrom hdistinct hfew _ hperm
    intro other hother
    unfold InOrder positions
    rw [hothers other hother]
    exact h.numbered.inOrder other
  have hfresh : ∀ row ∈ (renumber { world with slides := world.slides.filter (·.id ≠ slide) }
      deleted.practiceSet).slides, row.id < world.nextSlide := by
    intro row hrow
    obtain ⟨old, hold, hsame⟩ := mem_numberFrom hnodup hrow
    rw [hsame.1]
    exact h.fresh old (hsub old hold)
  -- what is left of a named set is named
  have hnamed : ∀ row ∈ world.sets, row.isPublished = true → careful →
      ∀ other ∈ (renumber { world with slides := world.slides.filter (·.id ≠ slide) }
        deleted.practiceSet).slides, other.practiceSet = row.id →
        normalizeAnswer rules other.answer ≠ [] := by
    intro row hrow hpublished hcareful other hother hset
    obtain ⟨old, hold, hsame⟩ := mem_numberFrom hnodup hother
    rw [hsame.2.2]
    exact (h.published row hrow hpublished (by simp)).named hcareful old (hsub old hold)
      (hsame.2.1.symm.trans hset)
  have hrest : PublishedBut rules careful (renumber { world with slides := world.slides.filter (·.id ≠ slide) }
      deleted.practiceSet) (some deleted.practiceSet) := by
    intro row hrow hpublished hexcepted
    have hcomplete := h.published row hrow hpublished (by simp)
    have hother : row.id ≠ deleted.practiceSet := fun heq => hexcepted (congrArg some heq)
    refine Complete.numberFrom hnodup ⟨?_, fun hcareful other hmem =>
      hcomplete.named hcareful other (hsub other hmem)⟩
    obtain ⟨kept, hkept, hset⟩ := hcomplete.nonempty
    refine ⟨kept, List.mem_filter.2 ⟨hkept, ?_⟩, hset⟩
    have hne : kept.id ≠ slide := by
      intro heq
      apply hother
      rw [← hset, h.numbered.distinct.eq hkept hin (heq.trans hid.symm)]
    simpa using hne
  by_cases hempty : slidesOf (renumber { world with slides := world.slides.filter (·.id ≠ slide) }
      deleted.practiceSet).slides deleted.practiceSet = []
  · simp only [hempty, if_true] at hcall
    cases hcall
    exact ⟨hnumbered, hfresh, hrest.unpublish⟩
  · simp only [hempty, if_false] at hcall
    cases hcall
    refine ⟨hnumbered, hfresh, ?_⟩
    intro row hrow hpublished _
    by_cases hset : row.id = deleted.practiceSet
    · obtain ⟨left, hleft⟩ := List.exists_mem_of_ne_nil _ hempty
      obtain ⟨hleftIn, hleftSet⟩ := List.mem_filter.1 hleft
      refine ⟨⟨left, hleftIn, ?_⟩, hnamed row hrow hpublished⟩
      rw [hset]
      exact of_decide_eq_true hleftSet
    · exact hrest row hrow hpublished (fun heq => hset (Option.some.inj heq))

theorem Kept.exec {call : Call} (h : Kept rules careful world)
    (hadmits : careful → Careful rules world call) (hexec : call.exec rules world = .ok next) :
    Kept rules careful next := by
  cases call with
  | createSet subject title => exact h.createSet hexec
  | updateSet set title isPublished => exact h.updateSet hexec
  | addSlides set uploads =>
    obtain ⟨result, hresult, rfl⟩ := map_eq_ok.1 hexec
    exact h.addSlides hresult
  | addSlidesFromArchive set archive =>
    obtain ⟨_, _, hexec⟩ := bind_eq_ok.1 hexec
    exact h.addSlidesFromArchive hexec
  | setSlideAnswer slide answer => exact h.setSlideAnswer hexec
  | setAnswersInOrder set answers => exact h.setAnswersInOrder hadmits hexec
  | deleteSlide slide => exact h.deleteSlide hexec
  | reorderSlides set orderedIds => exact h.reorderSlides hexec
  | moveSlide set slide position => exact h.moveSlide hexec

/-- What administrators rely on: published sets are complete, and the slides of every set are
numbered from one on and within the limit. -/
structure Sound (rules : Rules) (world : World) : Prop where
  published : ∀ row ∈ world.sets, row.isPublished = true →
    slidesOf world.slides row.id ≠ [] ∧
      ∀ slide ∈ slidesOf world.slides row.id, normalizeAnswer rules slide.answer ≠ []
  inOrder : ∀ set, List.Perm ((slidesOf world.slides set).map (·.position))
    (List.range' 1 (slidesOf world.slides set).length)
  few : ∀ set, (slidesOf world.slides set).length ≤ rules.maxSlidesPerSet

theorem Kept.sound (h : Kept rules True world) : Sound rules world where
  published := by
    intro row hrow hpublished
    have hcomplete := h.published row hrow hpublished (by simp)
    obtain ⟨slide, hslide, hset⟩ := hcomplete.nonempty
    refine ⟨List.ne_nil_of_mem (List.mem_filter.2 ⟨hslide, decide_eq_true hset⟩), ?_⟩
    intro other hother
    obtain ⟨hin, hotherSet⟩ := List.mem_filter.1 hother
    exact hcomplete.named trivial other hin (of_decide_eq_true hotherSet)
  inOrder := h.numbered.inOrder
  few := h.numbered.few

theorem kept_reached {admits : World → Call → Prop}
    (hadmits : ∀ world call, admits world call → careful → Careful rules world call)
    (h : (practice rules).Reaches admits world now) : Kept rules careful world :=
  h.invariant (I := fun world _ => Kept rules careful world) kept_emptyWorld
    fun _ _ _ _ hkept _ hcall hexec => hkept.exec (hadmits _ _ hcall) hexec

/-- Whatever the lists of answers are, slides are numbered from one on within the limit, and a
published set has some. -/
theorem slides_numbered (h : (practice rules).Reaches Machine.Always world now) :
    (∀ set, List.Perm ((slidesOf world.slides set).map (·.position))
        (List.range' 1 (slidesOf world.slides set).length)) ∧
      (∀ set, (slidesOf world.slides set).length ≤ rules.maxSlidesPerSet) ∧
      ∀ row ∈ world.sets, row.isPublished = true → slidesOf world.slides row.id ≠ [] := by
  have hkept : Kept rules False world := kept_reached (fun _ _ _ hno => hno.elim) h
  refine ⟨hkept.numbered.inOrder, hkept.numbered.few, fun row hrow hpublished => ?_⟩
  obtain ⟨slide, hslide, hset⟩ := (hkept.published row hrow hpublished (by simp)).nonempty
  exact List.ne_nil_of_mem (List.mem_filter.2 ⟨hslide, decide_eq_true hset⟩)

end

theorem published_complete (rules : Rules) (world : World) (now : Nat)
    (h : (practice rules).Reaches (Careful rules) world now) : Sound rules world :=
  (kept_reached (fun _ _ hcareful _ => hcareful) h).sound

/-- The tables as far as the runs below need them: letters, blanks and the zero-width space. -/
def fewCharacters : Rules where
  nfc := id
  isSpace := fun char => char = ' '
  isFormat := fun char => char = Char.ofNat 0x200B
  casefold := fun text => text.map Char.toLower
  sameTitle := fun first second => first.map Char.toLower = second.map Char.toLower
  digits := latinDigits
  uploadName := List.take 255
  maxSlidesPerSet := 200
  imageMaxBytes := 10000000

def publishedThenAnswered (answer : Text) : List Call :=
  [.createSet 1 ['B', 'o', 'n', 'e', 's'], .addSlides 1 [⟨['a'], [], none⟩], .setSlideAnswer 1 ['u', 'l', 'n', 'a'],
    .updateSet 1 none (some true), .setAnswersInOrder 1 [answer]]

instance (rules : Rules) (world : World) (call : Call) : Decidable (Careful rules world call) := by
  cases call <;> unfold Careful <;> infer_instance

theorem renamed_sound :
    Sound fewCharacters ((practice fewCharacters).outcome (publishedThenAnswered ['t', 'i', 'b', 'i', 'a'])) :=
  published_complete fewCharacters _ _
    (.of_accepts (by decide +kernel) (by decide +kernel) (by decide +kernel))

/-- A zero-width space is no blank entry, and nothing of it is left to compare with. -/
theorem invisible_answer_stays_published :
    ¬ ∀ (rules : Rules) (world : World) (now : Nat),
      (practice rules).Reaches Machine.Always world now → Sound rules world := by
  intro h
  have hreached : (practice fewCharacters).Reaches Machine.Always
      ((practice fewCharacters).outcome (publishedThenAnswered [Char.ofNat 0x200B]))
      ((practice fewCharacters).lastTime 0 (publishedThenAnswered [Char.ofNat 0x200B])) :=
    .of_accepts (by decide +kernel) (by decide +kernel) (Machine.admitted_always _ _)
  have hsound := (h _ _ _ hreached).published
  have hbroken : (((practice fewCharacters).outcome (publishedThenAnswered [Char.ofNat 0x200B])).sets.any
      fun row => row.isPublished &&
        (slidesOf ((practice fewCharacters).outcome
          (publishedThenAnswered [Char.ofNat 0x200B])).slides row.id).any fun slide =>
            decide (normalizeAnswer fewCharacters slide.answer = [])) = true := by
    decide +kernel
  simp only [List.any_eq_true, Bool.and_eq_true, decide_eq_true_eq] at hbroken
  obtain ⟨row, hrow, hpublished, slide, hslide, hblank⟩ := hbroken
  exact (hsound row hrow hpublished).2 slide hslide hblank

end LockIn.Practice
