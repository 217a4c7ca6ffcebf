import LockIn.Review.WeeklySelection

/-!
# The right items

The weekly recall asks as many items as it may, spreads them over the subjects, takes the most urgent
ones of each, and does not depend on the order of the candidates.  That includes the order it was
given them in: an item that is due has no advantage over one that only supplements the due ones.
-/

namespace LockIn.Review

open Dealing (Dealt place)
open List

def subjects (items : List WeeklyItem) : List String := (items.map (·.subjectKey)).dedup

structure RightItems (items : List WeeklyItem) (now : Nat) (limit : ℤ) : Prop where
  size : (selectDiverseWeeklyItems items now limit).length = min limit.toNat items.length
  nodup : (selectDiverseWeeklyItems items now limit).Nodup
  mem : ∀ item ∈ selectDiverseWeeklyItems items now limit, item ∈ items
  everySubject : (subjects items).length ≤ limit.toNat → ∀ item ∈ items,
    ∃ chosen ∈ selectDiverseWeeklyItems items now limit, chosen.subjectKey = item.subjectKey
  differentSubjects : limit.toNat < (subjects items).length →
    ((selectDiverseWeeklyItems items now limit).map (·.subjectKey)).Nodup ∧
      (selectDiverseWeeklyItems items now limit).length = limit.toNat
  mostUrgent : ∀ chosen ∈ selectDiverseWeeklyItems items now limit, ∀ item ∈ items,
    item ∉ selectDiverseWeeklyItems items now limit → item.subjectKey = chosen.subjectKey →
      reviewPriority item now ≤ reviewPriority chosen now
  anyOrder : ∀ other, other.Perm items →
    selectDiverseWeeklyItems other now limit = selectDiverseWeeklyItems items now limit
  dueFirst : ∀ chosen ∈ selectDiverseWeeklyItems items now limit, ¬chosen.isDue now →
    ∀ item ∈ items, item.isDue now → item ∈ selectDiverseWeeklyItems items now limit

def dealtBefore (now : Nat) (items : List WeeklyItem) (item : WeeklyItem) : Nat :=
  place (dealKey now items) items item

def DueAmongFirst (items : List WeeklyItem) (now : Nat) (limit : ℤ) : Prop :=
  (∀ item ∈ items, item.isDue now → dealtBefore now items item < limit.toNat) ∨
    ∀ item ∈ items, ¬item.isDue now → limit.toNat ≤ dealtBefore now items item

section
variable {now : Nat} {items other : List WeeklyItem} {item : WeeklyItem} {limit : ℤ}

theorem mem_select (hdistinct : (items.map (·.canonicalKey)).Nodup) (hitem : item ∈ items) :
    item ∈ selectDiverseWeeklyItems items now limit ↔ dealtBefore now items item < limit.toNat := by
  obtain ⟨hdealt, hlength⟩ := selectDiverseWeeklyItems_spec hdistinct now limit
  exact hdealt.mem_iff (hdistinct.of_map _) hlength hitem

theorem dealKey_perm (h : other.Perm items) : dealKey now other = dealKey now items := by
  funext item
  have hrank : rank now other item = rank now items item := Dealing.place_perm (h.filter _) item
  rw [dealKey, dealKey, hrank]

theorem select_perm (hdistinct : (items.map (·.canonicalKey)).Nodup) (h : other.Perm items) :
    selectDiverseWeeklyItems other now limit = selectDiverseWeeklyItems items now limit := by
  obtain ⟨hdealt, hlength⟩ := selectDiverseWeeklyItems_spec hdistinct now limit
  obtain ⟨hdealt', hlength'⟩ :=
    selectDiverseWeeklyItems_spec ((h.map _).nodup_iff.2 hdistinct) now limit
  rw [dealKey_perm h] at hdealt'
  exact hdealt.unique (hdistinct.of_map _) h hdealt' hlength hlength'

def leads (now : Nat) (items : List WeeklyItem) : List WeeklyItem :=
  items.filter (rank now items · = 0)

theorem mem_leads : item ∈ leads now items ↔ item ∈ items ∧ rank now items item = 0 := by
  rw [leads, mem_filter, decide_eq_true_eq]

theorem leads_nodup (hdistinct : (items.map (·.canonicalKey)).Nodup) :
    ((leads now items).map (·.subjectKey)).Nodup := by
  refine List.Nodup.map_on (fun first hfirst second hsecond hsubject => ?_)
    ((hdistinct.of_map _).filter _)
  obtain ⟨hin, hzero⟩ := mem_leads.1 hfirst
  obtain ⟨hin', hzero'⟩ := mem_leads.1 hsecond
  exact rank_inj hdistinct hin hin' hsubject (hzero.trans hzero'.symm)

theorem exists_lead (now : Nat) (hdistinct : (items.map (·.canonicalKey)).Nodup) (hitem : item ∈ items) :
    ∃ lead ∈ leads now items, lead.subjectKey = item.subjectKey := by
  obtain ⟨lead, hhead, -⟩ :=
    (DealtFrom.start now items).exists_head hdistinct hitem not_mem_nil
  obtain ⟨hin, hsubject, hrank, -⟩ := (DealtFrom.start now items).head hdistinct hhead
  exact ⟨lead, mem_leads.2 ⟨hin, hrank⟩, hsubject⟩

theorem length_leads (hdistinct : (items.map (·.canonicalKey)).Nodup) :
    (leads now items).length = (subjects items).length := by
  have hperm : ((leads now items).map (·.subjectKey)).Perm (subjects items) := by
    rw [subjects, perm_ext_iff_of_nodup (leads_nodup hdistinct) (nodup_dedup _)]
    intro key
    rw [mem_dedup]
    constructor
    · intro hkey
      obtain ⟨lead, hlead, rfl⟩ := mem_map.1 hkey
      exact mem_map.2 ⟨lead, (mem_leads.1 hlead).1, rfl⟩
    · intro hkey
      obtain ⟨item, hitem, rfl⟩ := mem_map.1 hkey
      obtain ⟨lead, hlead, hsubject⟩ := exists_lead now hdistinct hitem
      exact mem_map.2 ⟨lead, hlead, hsubject⟩
  rw [← hperm.length_eq, length_map]

theorem dealtBefore_lead (hitem : item ∈ leads now items) :
    dealtBefore now items item < (leads now items).length := by
  have hsub : items.filter (dealKey now items · < dealKey now items item) |>.Sublist
      ((leads now items).filter (dealKey now items · < dealKey now items item)) := by
    rw [leads, filter_filter]
    refine monotone_filter_right items fun other hother => ?_
    have hlt : dealKey now items other < dealKey now items item := by simpa using hother
    have hzero : rank now items other = 0 := by
      rw [dealKey_of_rank_zero (mem_leads.1 hitem).2, dealKey, Prod.Lex.toLex_lt_toLex] at hlt
      omega
    simp [hlt, hzero]
  exact hsub.length_le.trans_lt (length_filter_lt_length_iff_exists.2 ⟨item, hitem, by simp⟩)

theorem length_leads_le (hdistinct : (items.map (·.canonicalKey)).Nodup)
    (hrank : 0 < rank now items item) : (leads now items).length ≤ dealtBefore now items item := by
  refine ((((hdistinct.of_map _).filter _)).subperm fun lead hlead => ?_).length_le
  refine mem_filter.2 ⟨(mem_leads.1 hlead).1, ?_⟩
  rw [decide_eq_true_eq, dealKey_of_rank_zero (mem_leads.1 hlead).2, dealKey_of_rank_pos hrank,
    Prod.Lex.toLex_lt_toLex]
  exact .inl Nat.one_pos

theorem exists_chosen_subject (hdistinct : (items.map (·.canonicalKey)).Nodup)
    (hlimit : (subjects items).length ≤ limit.toNat) (hitem : item ∈ items) :
    ∃ chosen ∈ selectDiverseWeeklyItems items now limit, chosen.subjectKey = item.subjectKey := by
  obtain ⟨lead, hlead, hsubject⟩ := exists_lead now hdistinct hitem
  have hbefore := dealtBefore_lead hlead
  rw [length_leads hdistinct] at hbefore
  exact ⟨lead, (mem_select hdistinct (mem_leads.1 hlead).1).2 (hbefore.trans_le hlimit), hsubject⟩

theorem nodup_chosen_subjects (hdistinct : (items.map (·.canonicalKey)).Nodup)
    (hlimit : limit.toNat < (subjects items).length) :
    ((selectDiverseWeeklyItems items now limit).map (·.subjectKey)).Nodup := by
  obtain ⟨hdealt, -⟩ := selectDiverseWeeklyItems_spec hdistinct now limit
  have hlead : ∀ chosen ∈ selectDiverseWeeklyItems items now limit, chosen ∈ leads now items := by
    intro chosen hchosen
    have hin := hdealt.mem chosen hchosen
    refine mem_leads.2 ⟨hin, Nat.eq_zero_of_not_pos fun hpos => ?_⟩
    have hbefore := (mem_select hdistinct hin).1 hchosen
    have hall := length_leads_le hdistinct hpos
    rw [length_leads hdistinct] at hall
    omega
  refine List.Nodup.map_on (fun first hfirst second hsecond hsubject => ?_)
    (Dealing.nodup_of_sorted hdealt.sorted)
  obtain ⟨hin, hzero⟩ := mem_leads.1 (hlead first hfirst)
  obtain ⟨hin', hzero'⟩ := mem_leads.1 (hlead second hsecond)
  exact rank_inj hdistinct hin hin' hsubject (hzero.trans hzero'.symm)

theorem chosen_most_urgent (hdistinct : (items.map (·.canonicalKey)).Nodup) {chosen : WeeklyItem}
    (hchosen : chosen ∈ selectDiverseWeeklyItems items now limit) (hitem : item ∈ items)
    (hout : item ∉ selectDiverseWeeklyItems items now limit)
    (hsubject : item.subjectKey = chosen.subjectKey) :
    reviewPriority item now ≤ reviewPriority chosen now := by
  obtain ⟨hdealt, -⟩ := selectDiverseWeeklyItems_spec hdistinct now limit
  have hlt := hdealt.before chosen hchosen item hitem hout
  refine priority_le_of_rank hitem hsubject.symm (not_lt.1 fun hrank => ?_)
  exact lt_asymm hlt (dealKey_lt (hdealt.mem chosen hchosen) hsubject hrank)

/-- No item that is not due is chosen while a due one is left out, exactly when the due items are all
among the first ones or the first ones are all due. -/
theorem due_first_iff (hdistinct : (items.map (·.canonicalKey)).Nodup) :
    (∀ chosen ∈ selectDiverseWeeklyItems items now limit, ¬chosen.isDue now →
      ∀ item ∈ items, item.isDue now → item ∈ selectDiverseWeeklyItems items now limit) ↔
    DueAmongFirst items now limit := by
  obtain ⟨hdealt, -⟩ := selectDiverseWeeklyItems_spec hdistinct now limit
  constructor
  · intro h
    by_cases hall : ∀ item ∈ items, item.isDue now → dealtBefore now items item < limit.toNat
    · exact .inl hall
    · push Not at hall
      obtain ⟨due, hdue, hisDue, hlate⟩ := hall
      refine .inr fun item hitem hnot => ?_
      by_contra hearly
      have hin := (mem_select hdistinct hitem).2 (not_le.1 hearly)
      exact absurd ((mem_select hdistinct hdue).1 (h item hin hnot due hdue hisDue)) (not_lt.2 hlate)
  · rintro (hall | hnone) chosen hchosen hnot item hitem hisDue
    · exact (mem_select hdistinct hitem).2 (hall item hitem hisDue)
    · have hin := hdealt.mem chosen hchosen
      exact absurd ((mem_select hdistinct hin).1 hchosen) (not_lt.2 (hnone chosen hin hnot))

end

/-- For the rows of one reader, whose canonical keys differ, the right items are chosen exactly when
the due ones are all among the first in the order of dealing, or the first ones are all due. -/
theorem right_items_iff (items : List WeeklyItem) (now : Nat) (limit : ℤ)
    (hdistinct : (items.map (·.canonicalKey)).Nodup) :
    RightItems items now limit ↔ DueAmongFirst items now limit := by
  obtain ⟨hdealt, hlength⟩ := selectDiverseWeeklyItems_spec hdistinct now limit
  constructor
  · exact fun h => (due_first_iff hdistinct).1 h.dueFirst
  · intro h
    refine ⟨hlength, Dealing.nodup_of_sorted hdealt.sorted, hdealt.mem,
      fun hlimit item hitem => exists_chosen_subject hdistinct hlimit hitem,
      fun hlimit => ⟨nodup_chosen_subjects hdistinct hlimit, ?_⟩,
      fun chosen hchosen item hitem hout hsubject =>
        chosen_most_urgent hdistinct hchosen hitem hout hsubject,
      fun other hperm => select_perm hdistinct hperm, (due_first_iff hdistinct).2 h⟩
    have hsubjects : (subjects items).length ≤ items.length := by
      rw [subjects]
      exact (dedup_sublist _).length_le.trans (by rw [length_map])
    omega

def remembered (id mistakes reviewedAt nextReviewAt : Nat) : WeeklyItem where
  id := id
  canonicalKey := "question:" ++ toString id
  optionsSnapshot := ["a", "b"]
  correctOptionIdsSnapshot := ["a"]
  state := .hidden
  masteryLevel := 1
  mistakeCount := mistakes
  reviewCorrectCount := 1
  reviewIncorrectCount := 0
  relearningCount := 0
  firstMistakeAt := reviewedAt
  lastMistakeAt := reviewedAt
  lastReviewedAt := some reviewedAt
  nextReviewAt := nextReviewAt
  subjectKey := "anatomy"
  masteryValid := by decide

def freshItems : List WeeklyItem :=
  (List.range 12).map fun id => remembered id 4 (99 * day) (106 * day)

def dueItem : WeeklyItem := remembered 12 1 (92 * day) (99 * day)

/-- Two subjects have a due item and one that is not due, a third has only one that is not due. -/
def mixedItems : List WeeklyItem :=
  [remembered 0 1 (99 * day) (106 * day), remembered 1 6 (92 * day) (99 * day),
    { remembered 2 1 (99 * day) (106 * day) with subjectKey := "physiology" },
    { remembered 3 5 (92 * day) (99 * day) with subjectKey := "physiology" },
    { remembered 4 1 (99 * day) (106 * day) with subjectKey := "genetics" }]

theorem mixed_items_right :
    (selectDiverseWeeklyItems mixedItems (100 * day) 3).map (·.id) = [1, 3, 4] ∧
      RightItems mixedItems (100 * day) 3 :=
  ⟨by decide +kernel,
    (right_items_iff mixedItems (100 * day) 3 (by decide +kernel)).2 (.inl (by decide +kernel))⟩

/-- The recall is filled with items that are not due for another six days, and the one that is due is
left out. -/
theorem due_item_left_out :
    dueItem.isDue (100 * day) ∧
      dueItem ∈ weeklyCandidates (dueItem :: freshItems) (100 * day) ∧
      dueItem ∉ weeklyRecallItems (dueItem :: freshItems) (100 * day) ∧
      ∀ item ∈ weeklyRecallItems (dueItem :: freshItems) (100 * day), ¬item.isDue (100 * day) := by
  decide +kernel

end LockIn.Review
