import LockIn.Library.Dealing
import LockIn.Library.Dictionary
import LockIn.Review.Bank
import Mathlib.Data.String.Basic

/-!
# The weekly recall

The remembered items of a reader are grouped by subject and the most urgent ones come first in each
group.  Every subject gives its first item, the most urgent subject first.  Then the groups are dealt
from one after another, and what a subject has given already makes its next item less urgent.

The priority is taken as exact.

Dealing goes through the items in an order that can be told beforehand: first the first item of each
subject by priority, then all others by their priority, adjusted by how many items of their subject
are more urgent.  So the choice is an initial segment of that order, and everything about it is read
off the order.  Whether an item is due has no part in it.
-/

namespace LockIn.Review

open List

structure WeeklyItem extends ReviewItem where
  subjectKey : String
  masteryValid : masteryLevel ≤ 4
deriving DecidableEq

structure PriorityWeights where
  mistake : ℚ
  reviewFailure : ℚ
  relearning : ℚ
  lowMastery : ℚ
  weekUnseen : ℚ

def priorityWeights : PriorityWeights := ⟨4, 3, 5, 4, 1⟩

def week : Nat := 7 * day

def reviewPriority (item : WeeklyItem) (now : Nat) : ℚ :=
  let anchor := item.lastReviewedAt.getD item.lastMistakeAt
  let weeksUnseen := max 0 (((now : ℚ) - anchor) / week)
  item.mistakeCount * priorityWeights.mistake +
    item.reviewIncorrectCount * priorityWeights.reviewFailure +
    item.relearningCount * priorityWeights.relearning +
    (4 - item.masteryLevel) * priorityWeights.lowMastery +
    weeksUnseen * priorityWeights.weekUnseen

/-- `(-review_priority(item), item.canonical_key)` -/
def itemKey (now : Nat) (item : WeeklyItem) : ℚ ×ₗ String :=
  toLex (-reviewPriority item now, item.canonicalKey)

abbrev Groups := List (String × List WeeklyItem)

def Groups.at (groups : Groups) (key : String) : List WeeklyItem := (Dictionary.get groups key).getD []

/-- `groups.setdefault(item.subject_key, []).append(item)` -/
def Groups.add (groups : Groups) (item : WeeklyItem) : Groups :=
  Dictionary.set groups item.subjectKey (groups.at item.subjectKey ++ [item])

def sortItems (now : Nat) (items : List WeeklyItem) : List WeeklyItem :=
  items.insertionSort (itemKey now · ≤ itemKey now ·)

def groupItems (now : Nat) (items : List WeeklyItem) : Groups :=
  (items.foldl Groups.add []).map fun group => (group.1, sortItems now group.2)

def Groups.pop (groups : Groups) (key : String) : Groups :=
  Dictionary.set groups key (groups.at key).tail

/-- `(-review_priority(groups[key][0]), key)`; a group has an item. -/
def leadKey (now : Nat) (groups : Groups) (key : String) : ℚ ×ₗ String :=
  toLex (-((groups.at key).head?.elim 0 fun lead => reviewPriority lead now), key)

def groupOrder (now : Nat) (groups : Groups) : List String :=
  (Dictionary.keys groups).insertionSort (leadKey now groups · ≤ leadKey now groups ·)

/-- Every subject gives its first item.  Once there are as many as wanted, the second loop has
nothing to do, so that returning at once makes no difference. -/
def dealLeads (limit : ℤ) : List String → Groups → List WeeklyItem → Groups × List WeeklyItem
  | [], groups, selected => (groups, selected)
  | key :: order, groups, selected =>
    if limit ≤ selected.length then (groups, selected)
    else
      match (groups.at key).head? with
      | none => dealLeads limit order groups selected
      | some lead => dealLeads limit order (groups.pop key) (selected ++ [lead])

abbrev Counts := List (String × Nat)

def Counts.at (counts : Counts) (key : String) : Nat := (Dictionary.get counts key).getD 0

def penalty (count : Nat) : ℚ := 1 + count * (65 / 100)

def choices (now : Nat) (groups : Groups) (counts : Counts) : List (ℚ × String × WeeklyItem) :=
  groups.filterMap fun group => group.2.head?.map fun item =>
    (-(reviewPriority item now / penalty (counts.at group.1)), group.1, item)

def choiceKey (choice : ℚ × String × WeeklyItem) : ℚ ×ₗ String := toLex (choice.1, choice.2.1)

/-- As many times as there are places left. -/
def dealRest (now : Nat) : Nat → Groups → Counts → List WeeklyItem → List WeeklyItem
  | 0, _, _, selected => selected
  | left + 1, groups, counts, selected =>
    match (choices now groups counts).argmin choiceKey with
    | none => selected
    | some (_, key, item) =>
      dealRest now left (groups.pop key) (Dictionary.set counts key (counts.at key + 1))
        (selected ++ [item])

def selectDiverseWeeklyItems (items : List WeeklyItem) (now : Nat) (limit : ℤ) : List WeeklyItem :=
  let groups := groupItems now items
  let dealt := dealLeads limit (groupOrder now groups) groups []
  let counts := Dictionary.ofList (dealt.2.map fun item => (item.subjectKey, 1))
  dealRest now (limit - dealt.2.length).toNat dealt.1 counts dealt.2

def WeeklyItem.isDue (item : WeeklyItem) (now : Nat) : Prop := item.nextReviewAt ≤ now

instance (item : WeeklyItem) (now : Nat) : Decidable (item.isDue now) :=
  inferInstanceAs (Decidable (item.nextReviewAt ≤ now))

/-- The remembered items in the order in which they fall due, those that are due before the others,
which supplement them. -/
def weeklyCandidates (items : List WeeklyItem) (now : Nat) : List WeeklyItem :=
  let usable := (items.filter (·.isCandidate)).insertionSort fun first second =>
    (toLex (first.nextReviewAt, first.canonicalKey) : ℕ ×ₗ String) ≤
      toLex (second.nextReviewAt, second.canonicalKey)
  usable.filter (·.isDue now) ++ usable.filter fun item => !item.isDue now

def weeklyRecallItems (items : List WeeklyItem) (now : Nat) : List WeeklyItem :=
  selectDiverseWeeklyItems (weeklyCandidates items now) now weeklyRecallLimit

open Dealing (Dealt place)

def ofSubject (items : List WeeklyItem) (key : String) : List WeeklyItem :=
  items.filter (·.subjectKey = key)

def rank (now : Nat) (items : List WeeklyItem) (item : WeeklyItem) : Nat :=
  place (itemKey now) (ofSubject items item.subjectKey) item

/-- The first items of the subjects come before all others.  Within both it is the adjusted priority
that counts. -/
def dealKey (now : Nat) (items : List WeeklyItem) (item : WeeklyItem) : ℕ ×ₗ ℚ ×ₗ String ×ₗ ℕ :=
  toLex (min (rank now items item) 1,
    toLex (-(reviewPriority item now / penalty (rank now items item)),
      toLex (item.subjectKey, rank now items item)))

section
variable {now : Nat} {items other selected : List WeeklyItem} {item : WeeklyItem} {key : String}
  {groups : Groups} {counts : Counts} {limit : ℤ}

theorem reviewPriority_nonneg (item : WeeklyItem) (now : Nat) : 0 ≤ reviewPriority item now := by
  have hmastery : (0 : ℚ) ≤ 4 - item.masteryLevel := by
    have h := item.masteryValid
    have hcast : (item.masteryLevel : ℚ) ≤ 4 := by exact_mod_cast h
    linarith
  unfold reviewPriority priorityWeights
  positivity

theorem penalty_pos (count : Nat) : 0 < penalty count := by
  unfold penalty
  positivity

theorem penalty_mono {first second : Nat} (h : first ≤ second) : penalty first ≤ penalty second := by
  have hcast : (first : ℚ) ≤ second := by exact_mod_cast h
  unfold penalty
  linarith

theorem at_set (groups : Groups) (key k : String) (group : List WeeklyItem) :
    Groups.at (Dictionary.set groups key group) k = if k = key then group else groups.at k := by
  rw [Groups.at, Dictionary.get_set]
  split_ifs
  · rfl
  · rfl

theorem at_foldl (items : List WeeklyItem) (groups : Groups) (key : String) :
    (items.foldl Groups.add groups).at key = groups.at key ++ ofSubject items key := by
  induction items generalizing groups with
  | nil => simp [ofSubject]
  | cons item rest ih =>
    rw [foldl_cons, ih, Groups.add, at_set, ofSubject, ofSubject]
    by_cases h : item.subjectKey = key
    · rw [if_pos h.symm, filter_cons_of_pos (by simpa using h), h, append_assoc,
        singleton_append]
    · rw [if_neg (Ne.symm h), filter_cons_of_neg (by simpa using h)]

theorem nodup_foldl (items : List WeeklyItem) (h : (Dictionary.keys groups).Nodup) :
    (Dictionary.keys (items.foldl Groups.add groups)).Nodup :=
  List.foldlRecOn (motive := fun groups : Groups => (Dictionary.keys groups).Nodup) items Groups.add h
    fun _ hkeys _ _ => Dictionary.nodup_set hkeys

theorem mem_keys_foldl (items : List WeeklyItem) (groups : Groups) :
    key ∈ Dictionary.keys (items.foldl Groups.add groups) ↔
      key ∈ Dictionary.keys groups ∨ ∃ item ∈ items, item.subjectKey = key := by
  induction items generalizing groups with
  | nil => simp
  | cons item rest ih =>
    rw [foldl_cons, ih, Groups.add, Dictionary.mem_keys_set, exists_mem_cons_iff]
    constructor
    · rintro ((h | h) | h)
      · exact .inr (.inl h.symm)
      · exact .inl h
      · exact .inr (.inr h)
    · rintro (h | h | h)
      · exact .inl (.inr h)
      · exact .inl (.inl h.symm)
      · exact .inr h

theorem keys_groupItems (now : Nat) (items : List WeeklyItem) :
    Dictionary.keys (groupItems now items) = Dictionary.keys (items.foldl Groups.add []) := by
  rw [groupItems, Dictionary.keys, map_map, Dictionary.keys]
  rfl

theorem at_groupItems (now : Nat) (items : List WeeklyItem) (key : String) :
    (groupItems now items).at key = sortItems now (ofSubject items key) := by
  have h : (items.foldl Groups.add []).at key = ofSubject items key := at_foldl items [] key
  rw [groupItems, Groups.at, Dictionary.get_map, ← h, Groups.at]
  cases Dictionary.get (items.foldl Groups.add []) key with
  | none => rfl
  | some group => rfl

theorem sortItems_perm (now : Nat) (items : List WeeklyItem) : (sortItems now items).Perm items :=
  perm_insertionSort _ _

theorem sortItems_sorted (h : (items.map (·.canonicalKey)).Nodup) :
    (sortItems now items).Pairwise (itemKey now · < itemKey now ·) := by
  have hle : (sortItems now items).Pairwise (itemKey now · ≤ itemKey now ·) :=
    pairwise_insertionSort _ _
  have hne : (sortItems now items).Pairwise (·.canonicalKey ≠ ·.canonicalKey) :=
    pairwise_map.1 (((sortItems_perm now items).map _).nodup_iff.2 h)
  refine (hle.and hne).imp fun hboth => lt_of_le_of_ne hboth.1 fun heq => hboth.2 ?_
  exact congrArg (fun k : ℚ ×ₗ String => (ofLex k).2) heq

theorem mem_ofSubject : item ∈ ofSubject items key ↔ item ∈ items ∧ item.subjectKey = key := by
  rw [ofSubject, mem_filter, decide_eq_true_eq]

theorem mem_sortItems : item ∈ sortItems now items ↔ item ∈ items := (sortItems_perm now items).mem_iff

theorem ofSubject_distinct (h : (items.map (·.canonicalKey)).Nodup) (key : String) :
    ((ofSubject items key).map (·.canonicalKey)).Nodup :=
  h.sublist (filter_sublist.map _)

theorem rank_getElem (now : Nat) (key : String) (h : (items.map (·.canonicalKey)).Nodup) {i : Nat}
    (hi : i < (sortItems now (ofSubject items key)).length) :
    rank now items (sortItems now (ofSubject items key))[i] = i := by
  have hmem := mem_sortItems.1 (getElem_mem hi)
  rw [rank, (mem_ofSubject.1 hmem).2, ← Dealing.place_perm (sortItems_perm now (ofSubject items key))]
  exact Dealing.place_getElem (sortItems_sorted (ofSubject_distinct h key)) hi

theorem getElem?_rank (now : Nat) (h : (items.map (·.canonicalKey)).Nodup) (hitem : item ∈ items) :
    (sortItems now (ofSubject items item.subjectKey))[rank now items item]? = some item := by
  obtain ⟨i, hi, heq⟩ := mem_iff_getElem.1
    (mem_sortItems.2 (mem_ofSubject.2 ⟨hitem, rfl⟩) :
      item ∈ sortItems now (ofSubject items item.subjectKey))
  have hrank := rank_getElem now item.subjectKey h hi
  rw [heq] at hrank
  rw [hrank]
  exact List.getElem?_eq_some_iff.2 ⟨hi, heq⟩

theorem rank_inj (h : (items.map (·.canonicalKey)).Nodup) {first second : WeeklyItem}
    (hfirst : first ∈ items) (hsecond : second ∈ items)
    (hsubject : first.subjectKey = second.subjectKey)
    (hrank : rank now items first = rank now items second) : first = second := by
  have hat := getElem?_rank now h hfirst
  rw [hsubject, hrank, getElem?_rank now h hsecond] at hat
  exact (Option.some.inj hat).symm

theorem priority_le_of_rank {first second : WeeklyItem} (hsecond : second ∈ items)
    (hsubject : first.subjectKey = second.subjectKey)
    (hrank : rank now items first ≤ rank now items second) :
    reviewPriority second now ≤ reviewPriority first now := by
  rw [rank, rank, hsubject] at hrank
  have hnot : ¬itemKey now second < itemKey now first := by
    rw [← Dealing.place_lt_iff (mem_ofSubject.2 ⟨hsecond, rfl⟩)]
    exact not_lt.2 hrank
  by_contra hlt
  refine hnot (Prod.Lex.toLex_lt_toLex.2 (.inl ?_))
  simpa using hlt

theorem dealKey_lt (hsecond : item ∈ items) {first : WeeklyItem}
    (hsubject : first.subjectKey = item.subjectKey)
    (hrank : rank now items first < rank now items item) :
    dealKey now items first < dealKey now items item := by
  have hpriority := priority_le_of_rank hsecond hsubject hrank.le
  have hadjusted : reviewPriority item now / penalty (rank now items item) ≤
      reviewPriority first now / penalty (rank now items first) :=
    div_le_div₀ (reviewPriority_nonneg first now) hpriority (penalty_pos _) (penalty_mono hrank.le)
  rw [dealKey, dealKey, hsubject, Prod.Lex.toLex_lt_toLex]
  rcases Nat.eq_zero_or_pos (rank now items first) with hzero | hpos
  · left
    simp only
    omega
  · refine .inr ⟨by simp only; omega, ?_⟩
    rw [Prod.Lex.toLex_lt_toLex]
    rcases hadjusted.lt_or_eq with hlt | heq
    · exact .inl (neg_lt_neg hlt)
    · refine .inr ⟨by rw [heq], ?_⟩
      exact Prod.Lex.toLex_lt_toLex.2 (.inr ⟨rfl, hrank⟩)

theorem dealKey_inj (h : (items.map (·.canonicalKey)).Nodup) {first second : WeeklyItem}
    (hfirst : first ∈ items) (hsecond : second ∈ items)
    (heq : dealKey now items first = dealKey now items second) : first = second := by
  have hlast := congrArg (fun k : ℕ ×ₗ ℚ ×ₗ String ×ₗ ℕ => ofLex (ofLex (ofLex k).2).2) heq
  obtain ⟨hsubject, hrank⟩ := Prod.mk.inj (congrArg ofLex hlast)
  exact rank_inj h hfirst hsecond hsubject hrank

def given (selected : List WeeklyItem) (key : String) : Nat := (ofSubject selected key).length

structure DealtFrom (now : Nat) (items : List WeeklyItem) (groups : Groups)
    (selected : List WeeklyItem) : Prop where
  dealt : Dealt (dealKey now items) items selected
  keys : (Dictionary.keys groups).Nodup
  left : ∀ key, groups.at key = (sortItems now (ofSubject items key)).drop (given selected key)
  mem : ∀ item ∈ items, item ∈ selected ↔ rank now items item < given selected item.subjectKey

theorem given_append (selected : List WeeklyItem) (item : WeeklyItem) (key : String) :
    given (selected ++ [item]) key =
      if item.subjectKey = key then given selected key + 1 else given selected key := by
  rw [given, ofSubject, filter_append, length_append, ← ofSubject, ← given]
  by_cases h : item.subjectKey = key
  · rw [if_pos h, filter_cons_of_pos (by simpa using h), filter_nil, length_singleton]
  · rw [if_neg h, filter_cons_of_neg (by simpa using h), filter_nil, length_nil,
      Nat.add_zero]

theorem DealtFrom.start (now : Nat) (items : List WeeklyItem) :
    DealtFrom now items (groupItems now items) [] where
  dealt := .nil
  keys := by
    rw [keys_groupItems]
    exact nodup_foldl items nodup_nil
  left := fun key => at_groupItems now items key
  mem := fun item _ => ⟨fun h => absurd h not_mem_nil, fun h => absurd h (Nat.not_lt_zero _)⟩

theorem DealtFrom.head (hdistinct : (items.map (·.canonicalKey)).Nodup)
    (h : DealtFrom now items groups selected) (hhead : (groups.at key).head? = some item) :
    item ∈ items ∧ item.subjectKey = key ∧ rank now items item = given selected key ∧
      item ∉ selected := by
  rw [h.left, head?_drop] at hhead
  obtain ⟨hlt, heq⟩ := List.getElem?_eq_some_iff.1 hhead
  have hrank := rank_getElem now key hdistinct hlt
  have hin := mem_ofSubject.1 (mem_sortItems.1 (getElem_mem hlt))
  rw [heq] at hrank hin
  refine ⟨hin.1, hin.2, hrank, fun hselected => ?_⟩
  have hlt := (h.mem item hin.1).1 hselected
  rw [hin.2, hrank] at hlt
  exact lt_irrefl _ hlt

theorem DealtFrom.exists_head (hdistinct : (items.map (·.canonicalKey)).Nodup)
    (h : DealtFrom now items groups selected) (hitem : item ∈ items) (hleft : item ∉ selected) :
    ∃ lead, (groups.at item.subjectKey).head? = some lead ∧
      dealKey now items lead ≤ dealKey now items item := by
  have hge : given selected item.subjectKey ≤ rank now items item :=
    not_lt.1 fun hlt => hleft ((h.mem item hitem).2 hlt)
  have hlength := (List.getElem?_eq_some_iff.1 (getElem?_rank now hdistinct hitem)).1
  obtain ⟨lead, hhead⟩ : ∃ lead, (groups.at item.subjectKey).head? = some lead := by
    rw [h.left, head?_drop]
    exact ⟨_, getElem?_eq_getElem (hge.trans_lt hlength)⟩
  refine ⟨lead, hhead, ?_⟩
  obtain ⟨hin, hsubject, hrank, -⟩ := h.head hdistinct hhead
  rcases hge.lt_or_eq with hlt | heq
  · exact (dealKey_lt hitem hsubject (hrank ▸ hlt)).le
  · exact (congrArg _ (rank_inj hdistinct hin hitem hsubject (hrank.trans heq))).le

theorem DealtFrom.deal (hdistinct : (items.map (·.canonicalKey)).Nodup)
    (h : DealtFrom now items groups selected) (hhead : (groups.at key).head? = some item)
    (hleast : ∀ k lead, (groups.at k).head? = some lead →
      dealKey now items item ≤ dealKey now items lead) :
    DealtFrom now items (groups.pop key) (selected ++ [item]) := by
  obtain ⟨hitem, hsubject, hrank, hout⟩ := h.head hdistinct hhead
  refine ⟨h.dealt.deal hitem hout fun other hother hleft hne => ?_, Dictionary.nodup_set h.keys,
    fun k => ?_, fun other hother => ?_⟩
  · obtain ⟨lead, hlead, hle⟩ := h.exists_head hdistinct hother hleft
    refine lt_of_le_of_ne ((hleast _ lead hlead).trans hle) fun heq => hne ?_
    exact (dealKey_inj hdistinct hitem hother heq).symm
  · rw [Groups.pop, at_set, given_append, hsubject]
    by_cases hk : k = key
    · rw [if_pos hk, if_pos hk.symm, h.left, tail_drop, hk]
    · rw [if_neg hk, if_neg (Ne.symm hk), h.left]
  · rw [mem_append, mem_singleton, given_append, h.mem other hother]
    by_cases hsame : item.subjectKey = other.subjectKey
    · rw [if_pos hsame, Nat.lt_succ_iff_lt_or_eq, ← hsame, hsubject, ← hrank]
      exact or_congr_right ⟨fun heq => heq ▸ rfl, fun heq =>
        rank_inj hdistinct hother hitem hsame.symm heq⟩
    · rw [if_neg hsame]
      exact or_iff_left fun heq => hsame (heq ▸ rfl)

theorem dealKey_of_rank_zero (h : rank now items item = 0) :
    dealKey now items item =
      toLex (0, toLex (-reviewPriority item now, toLex (item.subjectKey, 0))) := by
  rw [dealKey, h, penalty, Nat.cast_zero, zero_mul, add_zero, div_one]
  rfl

theorem dealKey_of_rank_pos (h : 1 ≤ rank now items item) :
    dealKey now items item = toLex (1, toLex (-(reviewPriority item now /
      penalty (rank now items item)), toLex (item.subjectKey, rank now items item))) := by
  rw [dealKey, Nat.min_eq_right h]

theorem leadKey_eq (hhead : (groups.at key).head? = some item) :
    leadKey now groups key = toLex (-reviewPriority item now, key) := by
  rw [leadKey, hhead]
  rfl

theorem leadKey_pop {k : String} (h : k ≠ key) :
    leadKey now (groups.pop key) k = leadKey now groups k := by
  rw [leadKey, Groups.pop, at_set, if_neg h, leadKey]

theorem DealtFrom.lead_least (hdistinct : (items.map (·.canonicalKey)).Nodup)
    (h : DealtFrom now items groups selected) {order : List String}
    (hrest : ∀ item ∈ items, given selected item.subjectKey = 0 → item.subjectKey ∈ key :: order)
    (hzero : given selected key = 0) (hsorted : ∀ k ∈ order, leadKey now groups key ≤ leadKey now groups k)
    (hhead : (groups.at key).head? = some item) {k : String} {lead : WeeklyItem}
    (hlead : (groups.at k).head? = some lead) :
    dealKey now items item ≤ dealKey now items lead := by
  obtain ⟨-, hsubject, hrank, -⟩ := h.head hdistinct hhead
  obtain ⟨hin, hsubject', hrank', -⟩ := h.head hdistinct hlead
  rw [dealKey_of_rank_zero (hrank.trans hzero), hsubject]
  rcases Nat.eq_zero_or_pos (given selected k) with hk | hk
  · rw [dealKey_of_rank_zero (hrank'.trans hk), hsubject', Prod.Lex.toLex_le_toLex]
    refine .inr ⟨rfl, ?_⟩
    have hle : leadKey now groups key ≤ leadKey now groups k := by
      rcases mem_cons.1 (hsubject' ▸ hrest lead hin (hsubject'.symm ▸ hk)) with rfl | hmem
      · exact le_rfl
      · exact hsorted k hmem
    rw [leadKey_eq hhead, leadKey_eq hlead, Prod.Lex.toLex_le_toLex] at hle
    refine Prod.Lex.toLex_le_toLex.2 (hle.imp_right fun hsame => ⟨hsame.1, ?_⟩)
    rcases hsame.2.lt_or_eq with hlt | heq
    · exact Prod.Lex.toLex_le_toLex.2 (.inl hlt)
    · exact Prod.Lex.toLex_le_toLex.2 (.inr ⟨heq, le_rfl⟩)
  · rw [dealKey_of_rank_pos (hrank'.symm ▸ hk), Prod.Lex.toLex_le_toLex]
    exact .inl Nat.one_pos

theorem dealLeads_spec (limit : ℤ) (hdistinct : (items.map (·.canonicalKey)).Nodup)
    {order : List String}
    (h : DealtFrom now items groups selected) (hnodup : order.Nodup)
    (hzero : ∀ key ∈ order, given selected key = 0)
    (hrest : ∀ item ∈ items, given selected item.subjectKey = 0 → item.subjectKey ∈ order)
    (hone : ∀ key, given selected key ≤ 1)
    (hsorted : order.Pairwise (leadKey now groups · ≤ leadKey now groups ·))
    (hlimit : selected.length ≤ limit.toNat) :
    DealtFrom now items (dealLeads limit order groups selected).1
        (dealLeads limit order groups selected).2 ∧
      (∀ key, given (dealLeads limit order groups selected).2 key ≤ 1) ∧
      (dealLeads limit order groups selected).2.length ≤ limit.toNat ∧
      ((dealLeads limit order groups selected).2.length < limit.toNat →
        ∀ item ∈ items, 1 ≤ given (dealLeads limit order groups selected).2 item.subjectKey) := by
  induction order generalizing groups selected with
  | nil =>
    refine ⟨h, hone, hlimit, fun _ item hitem => Nat.one_le_iff_ne_zero.2 fun hnone => ?_⟩
    exact absurd (hrest item hitem hnone) not_mem_nil
  | cons key order ih =>
    obtain ⟨hnew, hnodup'⟩ := nodup_cons.1 hnodup
    obtain ⟨hfirst, hsorted'⟩ := pairwise_cons.1 hsorted
    unfold dealLeads
    split_ifs with hfull
    · exact ⟨h, hone, hlimit, fun hlt => absurd hlt (by simp only; omega)⟩
    · cases hhead : (groups.at key).head? with
      | none =>
        refine ih h hnodup' (fun k hk => hzero k (mem_cons_of_mem _ hk)) (fun item hitem hk => ?_)
          hone hsorted' hlimit
        refine (mem_cons.1 (hrest item hitem hk)).resolve_left fun hsame => ?_
        have hout : item ∉ selected := fun hin => by
          have hlt := (h.mem item hitem).1 hin
          omega
        obtain ⟨lead, hlead, -⟩ := h.exists_head hdistinct hitem hout
        rw [hsame, hhead] at hlead
        cases hlead
      | some lead =>
        obtain ⟨-, hsubject, -, -⟩ := h.head hdistinct hhead
        have hzero' := hzero key mem_cons_self
        have hother {k : String} (hk : k ∈ order) : k ≠ key := fun heq => hnew (heq ▸ hk)
        refine ih (h.deal hdistinct hhead fun k other hlead =>
          h.lead_least hdistinct hrest hzero' hfirst hhead hlead) hnodup' ?_ ?_ ?_ ?_ ?_
        · intro k hk
          rw [given_append, if_neg (hsubject ▸ (hother hk).symm)]
          exact hzero k (mem_cons_of_mem _ hk)
        · intro item hitem hgiven
          rw [given_append] at hgiven
          split_ifs at hgiven with hsame
          exact (mem_cons.1 (hrest item hitem hgiven)).resolve_left
            fun heq => hsame (hsubject.trans heq.symm)
        · intro k
          rw [given_append]
          split_ifs with hk
          · rw [← hk, hsubject, hzero']
          · exact hone k
        · refine hsorted'.imp_of_mem fun hx hy hle => ?_
          rwa [leadKey_pop (hother hx), leadKey_pop (hother hy)]
        · rw [length_append, length_singleton]
          omega

theorem mem_choices (hkeys : (Dictionary.keys groups).Nodup) {choice : ℚ × String × WeeklyItem} :
    choice ∈ choices now groups counts ↔
      (groups.at choice.2.1).head? = some choice.2.2 ∧
        choice.1 = -(reviewPriority choice.2.2 now / penalty (counts.at choice.2.1)) := by
  obtain ⟨value, key, item⟩ := choice
  simp only [choices, mem_filterMap, Option.map_eq_some_iff, Prod.mk.injEq]
  constructor
  · rintro ⟨⟨k, group⟩, hgroup, lead, hlead, hvalue, rfl, rfl⟩
    have hat : groups.at k = group := by
      rw [Groups.at, Dictionary.get_of_mem hkeys hgroup, Option.getD_some]
    exact ⟨by rw [hat, hlead], hvalue.symm⟩
  · rintro ⟨hhead, hvalue⟩
    have hget : Dictionary.get groups key = some (groups.at key) := by
      rw [Groups.at] at hhead ⊢
      cases hget : Dictionary.get groups key with
      | none =>
        rw [hget] at hhead
        cases hhead
      | some group => rfl
    exact ⟨(key, groups.at key), Dictionary.mem_of_get hget, item, hhead, hvalue.symm, rfl, rfl⟩

theorem DealtFrom.choice_least (hdistinct : (items.map (·.canonicalKey)).Nodup)
    (h : DealtFrom now items groups selected)
    (hcounts : ∀ key, counts.at key = given selected key)
    (hone : ∀ item ∈ items, 1 ≤ given selected item.subjectKey) {choice : ℚ × String × WeeklyItem}
    (hchoice : choice ∈ (choices now groups counts).argmin choiceKey) {k : String}
    {lead : WeeklyItem} (hlead : (groups.at k).head? = some lead) :
    dealKey now items choice.2.2 ≤ dealKey now items lead := by
  obtain ⟨hhead, hvalue⟩ := (mem_choices h.keys).1 (argmin_mem hchoice)
  obtain ⟨hin, hsubject, hrank, -⟩ := h.head hdistinct hhead
  obtain ⟨hin', hsubject', hrank', -⟩ := h.head hdistinct hlead
  have hone' := hone _ hin
  have hone'' := hone _ hin'
  rw [hsubject, ← hrank] at hone'
  rw [hsubject', ← hrank'] at hone''
  have hle := le_of_mem_argmin (a := (-(reviewPriority lead now / penalty (counts.at k)), k, lead))
    ((mem_choices h.keys).2 ⟨hlead, rfl⟩) hchoice
  rw [choiceKey, choiceKey, hvalue, hcounts, hcounts, ← hrank, ← hrank', Prod.Lex.toLex_le_toLex]
    at hle
  rw [dealKey_of_rank_pos hone', dealKey_of_rank_pos hone'', hsubject, hsubject',
    Prod.Lex.toLex_le_toLex]
  refine .inr ⟨rfl, Prod.Lex.toLex_le_toLex.2 (hle.imp_right fun hsame => ⟨hsame.1, ?_⟩)⟩
  rcases hsame.2.lt_or_eq with hlt | heq
  · exact Prod.Lex.toLex_le_toLex.2 (.inl hlt)
  · simp only at heq
    exact Prod.Lex.toLex_le_toLex.2 (.inr ⟨heq, by rw [hrank, hrank', heq]⟩)

theorem DealtFrom.length_le (h : DealtFrom now items groups selected) :
    selected.length ≤ items.length :=
  ((Dealing.nodup_of_sorted h.dealt.sorted).subperm h.dealt.mem).length_le

theorem dealRest_spec (left : Nat) (hdistinct : (items.map (·.canonicalKey)).Nodup)
    (h : DealtFrom now items groups selected)
    (hcounts : ∀ key, counts.at key = given selected key)
    (hone : 0 < left → ∀ item ∈ items, 1 ≤ given selected item.subjectKey) :
    Dealt (dealKey now items) items (dealRest now left groups counts selected) ∧
      (dealRest now left groups counts selected).length =
        min (selected.length + left) items.length := by
  induction left generalizing groups counts selected with
  | zero =>
    have hlength := h.length_le
    exact ⟨h.dealt, by rw [dealRest]; omega⟩
  | succ left ih =>
    unfold dealRest
    cases hchoice : (choices now groups counts).argmin choiceKey with
    | none =>
      have hall : items ⊆ selected := by
        intro item hitem
        by_contra hout
        obtain ⟨lead, hlead, -⟩ := h.exists_head hdistinct hitem hout
        have hmem : (-(reviewPriority lead now / penalty (counts.at item.subjectKey)),
            item.subjectKey, lead) ∈ choices now groups counts :=
          (mem_choices h.keys).2 ⟨hlead, rfl⟩
        rw [argmin_eq_none.1 hchoice] at hmem
        exact absurd hmem not_mem_nil
      have hle := ((hdistinct.of_map _).subperm hall).length_le
      have hge := h.length_le
      exact ⟨h.dealt, by simp only; omega⟩
    | some choice =>
      obtain ⟨value, key, item⟩ := choice
      have hone' := hone (Nat.succ_pos left)
      have hhead : (groups.at key).head? = some item :=
        ((mem_choices h.keys).1 (argmin_mem hchoice)).1
      obtain ⟨-, hsubject, -, -⟩ := h.head hdistinct hhead
      have hcounts' (k : String) : Counts.at (Dictionary.set counts key (counts.at key + 1)) k =
          given (selected ++ [item]) k := by
        rw [given_append, hsubject, Counts.at, Dictionary.get_set]
        by_cases hk : k = key
        · rw [if_pos hk, if_pos hk.symm, Option.getD_some, hcounts, hk]
        · rw [if_neg hk, if_neg (Ne.symm hk), ← hcounts, Counts.at]
      obtain ⟨hdealt, hlength⟩ := ih (h.deal hdistinct hhead fun k lead hlead =>
        h.choice_least hdistinct hcounts hone' hchoice hlead) hcounts' fun _ other hother => by
          have hbefore := hone' other hother
          rw [given_append]
          split_ifs
          · omega
          · exact hbefore
      rw [length_append, length_singleton] at hlength
      exact ⟨hdealt, by simp only; omega⟩

theorem groupOrder_perm (now : Nat) (groups : Groups) :
    (groupOrder now groups).Perm (Dictionary.keys groups) :=
  perm_insertionSort _ _

theorem given_eq_count (selected : List WeeklyItem) (key : String) :
    given selected key = (selected.map (·.subjectKey)).count key := by
  rw [given, ofSubject, List.count, countP_map, countP_eq_length_filter]
  rfl

/-- `{item.subject_key: 1 for item in selected}` counts subjects that gave one item each. -/
theorem counts_ofList (hone : ∀ key, given selected key ≤ 1) (key : String) :
    Counts.at (Dictionary.ofList (selected.map fun item => (item.subjectKey, 1))) key =
      given selected key := by
  have hdistinct : Table.Distinct (·.subjectKey) selected :=
    nodup_iff_count_le_one.2 fun k => given_eq_count selected k ▸ hone k
  rw [Counts.at, Dictionary.get_ofList_map hdistinct fun _ => 1]
  cases hfind : Table.find (fun item : WeeklyItem => item.subjectKey) selected key with
  | none =>
    have hnone := Table.find_eq_none.1 hfind
    rw [given, ofSubject, filter_eq_nil_iff.2 (by simpa using hnone)]
    rfl
  | some item =>
    have hpos : 0 < given selected key := length_pos_of_mem
      (mem_ofSubject.2 ⟨Table.find_mem hfind, Table.find_key hfind⟩)
    have hle := hone key
    simp only [Option.map_some, Option.getD_some]
    omega

/-- What is chosen, and how many. -/
theorem selectDiverseWeeklyItems_spec (hdistinct : (items.map (·.canonicalKey)).Nodup) (now : Nat)
    (limit : ℤ) :
    Dealt (dealKey now items) items (selectDiverseWeeklyItems items now limit) ∧
      (selectDiverseWeeklyItems items now limit).length = min limit.toNat items.length := by
  have horder := groupOrder_perm now (groupItems now items)
  have hmem (key : String) : key ∈ groupOrder now (groupItems now items) ↔
      ∃ item ∈ items, item.subjectKey = key := by
    rw [horder.mem_iff, keys_groupItems, mem_keys_foldl]
    simp [Dictionary.keys]
  obtain ⟨hdealt, hone, hlength, hall⟩ := dealLeads_spec limit hdistinct
    (DealtFrom.start now items)
    (horder.nodup_iff.2 (DealtFrom.start now items).keys) (fun _ _ => rfl)
    (fun item hitem _ => (hmem _).2 ⟨item, hitem, rfl⟩) (fun _ => Nat.zero_le _)
    (pairwise_insertionSort _ _) (Nat.zero_le _)
  rw [selectDiverseWeeklyItems]
  generalize dealLeads limit (groupOrder now (groupItems now items)) (groupItems now items) [] =
    leads at hdealt hone hlength hall
  obtain ⟨hrest, hcount⟩ := dealRest_spec (limit - leads.2.length).toNat hdistinct hdealt
    (fun key => counts_ofList hone key) fun hpos => hall (by omega)
  exact ⟨hrest, hcount.trans (by omega)⟩

end

end LockIn.Review
