import Mathlib.Tactic

/-!
# Dealing in an order

Items are dealt one after another, always one of the least that are left.  What has been dealt is an
initial segment of the items under the order: an item is in it exactly when there are fewer items
before it than were dealt.  Which items are dealt, and in which order, does not depend on how they
were listed.
-/

namespace Dealing

open List

variable {α κ : Type} [LinearOrder κ] (key : α → κ)

def place (items : List α) (item : α) : Nat := (items.filter (key · < key item)).length

structure Dealt (items chosen : List α) : Prop where
  mem : ∀ item ∈ chosen, item ∈ items
  sorted : chosen.Pairwise (key · < key ·)
  before : ∀ item ∈ chosen, ∀ other ∈ items, other ∉ chosen → key item < key other

variable {key} {items other chosen : List α} {item : α} {limit : Nat}

theorem Dealt.nil : Dealt key items [] where
  mem := forall_mem_nil _
  sorted := .nil
  before := forall_mem_nil _

theorem nodup_of_sorted (h : chosen.Pairwise (key · < key ·)) : chosen.Nodup :=
  h.imp fun hlt heq => absurd (congrArg key heq) hlt.ne

theorem Dealt.deal (h : Dealt key items chosen) (hitem : item ∈ items) (hleft : item ∉ chosen)
    (hleast : ∀ other ∈ items, other ∉ chosen → other ≠ item → key item < key other) :
    Dealt key items (chosen ++ [item]) where
  mem := by
    intro dealt hdealt
    rcases mem_append.1 hdealt with hold | hself
    · exact h.mem dealt hold
    · rw [mem_singleton.1 hself]
      exact hitem
  sorted := by
    rw [pairwise_append]
    refine ⟨h.sorted, pairwise_singleton _ _, fun dealt hdealt last hlast => ?_⟩
    rw [mem_singleton.1 hlast]
    exact h.before dealt hdealt item hitem hleft
  before := by
    intro dealt hdealt other hother hout
    rw [mem_append, mem_singleton, not_or] at hout
    rcases mem_append.1 hdealt with hold | hself
    · exact h.before dealt hold other hother hout.1
    · rw [mem_singleton.1 hself]
      exact hleast other hother hout.1 hout.2

theorem place_perm (h : items.Perm other) (item : α) : place key items item = place key other item :=
  (h.filter _).length_eq

theorem place_getElem (h : items.Pairwise (key · < key ·)) {i : Nat} (hi : i < items.length) :
    place key items items[i] = i := by
  have hbefore : ∀ other ∈ items.take i, key other < key items[i] := by
    intro other hother
    obtain ⟨j, hj, rfl⟩ := mem_iff_getElem.1 hother
    rw [length_take] at hj
    rw [getElem_take]
    exact pairwise_iff_getElem.1 h j i (by omega) hi (by omega)
  have hafter : ∀ other ∈ items.drop i, ¬key other < key items[i] := by
    intro other hother
    obtain ⟨j, hj, rfl⟩ := mem_iff_getElem.1 hother
    rw [length_drop] at hj
    rw [getElem_drop, not_lt]
    rcases Nat.eq_zero_or_pos j with rfl | hpos
    · exact le_rfl
    · exact (pairwise_iff_getElem.1 h i (i + j) hi (by omega) (by omega)).le
  rw [place]
  generalize key items[i] = pivot at hbefore hafter
  conv_lhs => rw [← take_append_drop i items]
  rw [filter_append, filter_eq_self.2 (by simpa using hbefore),
    filter_eq_nil_iff.2 (by simpa using hafter), append_nil, length_take]
  omega

theorem place_lt_place (hitem : item ∈ items) {later : α} (h : key item < key later) :
    place key items item < place key items later := by
  have hsub : (items.filter (key · < key item)).Sublist (items.filter (key · < key later)) :=
    monotone_filter_right items fun other hother => by
      simp only [decide_eq_true_eq] at hother ⊢
      exact hother.trans h
  refine lt_of_le_of_ne hsub.length_le fun heq => ?_
  have hsame := hsub.eq_of_length heq
  have hmem : item ∈ items.filter (key · < key later) := mem_filter.2 ⟨hitem, by simpa using h⟩
  rw [← hsame] at hmem
  simpa using (mem_filter.1 hmem).2

theorem place_le_place {later : α} (h : key item ≤ key later) :
    place key items item ≤ place key items later :=
  (monotone_filter_right items fun other hother => by
    simp only [decide_eq_true_eq] at hother ⊢
    exact hother.trans_le h).length_le

theorem place_lt_iff {later : α} (hlater : later ∈ items) :
    place key items later < place key items item ↔ key later < key item :=
  ⟨fun h => lt_of_not_ge fun hle => absurd (place_le_place hle) (not_le.2 h),
    fun h => place_lt_place hlater h⟩

/-- When as many are dealt as there may be, an item is dealt exactly when its place is below the
limit. -/
theorem Dealt.mem_iff (h : Dealt key items chosen) (hnodup : items.Nodup)
    (hlength : chosen.length = min limit items.length) (hitem : item ∈ items) :
    item ∈ chosen ↔ place key items item < limit := by
  have hchosen : chosen.Nodup := nodup_of_sorted h.sorted
  constructor
  · intro hin
    have hsub : items.filter (key · < key item) ⊆ chosen.filter (key · < key item) := by
      intro other hother
      obtain ⟨hmem, hlt⟩ := mem_filter.1 hother
      refine mem_filter.2 ⟨by_contra fun hout => ?_, hlt⟩
      exact absurd (h.before item hin other hmem hout) (by simpa using hlt : key other < _).not_gt
    have hle := ((hnodup.filter _).subperm hsub).length_le
    have hlt : (chosen.filter (key · < key item)).length < chosen.length :=
      length_filter_lt_length_iff_exists.2 ⟨item, hin, by simp⟩
    rw [place]
    omega
  · intro hplace
    by_contra hout
    have hall : chosen.length < items.length := by
      have hcons : (item :: chosen).Nodup := nodup_cons.2 ⟨hout, hchosen⟩
      exact (hcons.subperm (cons_subset.2 ⟨hitem, h.mem⟩)).length_le
    have hsub : chosen ⊆ items.filter (key · < key item) := fun dealt hdealt =>
      mem_filter.2 ⟨h.mem dealt hdealt, by simpa using h.before dealt hdealt item hitem hout⟩
    have hle := (hchosen.subperm hsub).length_le
    rw [place] at hplace
    omega

theorem Dealt.unique {dealt : List α} (hnodup : items.Nodup) (hperm : other.Perm items)
    (h : Dealt key items chosen) (hother : Dealt key other dealt)
    (hlength : chosen.length = min limit items.length)
    (hdealt : dealt.length = min limit other.length) : dealt = chosen := by
  have hmem (item : α) : item ∈ dealt ↔ item ∈ chosen := by
    by_cases hin : item ∈ items
    · rw [h.mem_iff hnodup hlength hin,
        hother.mem_iff (hperm.nodup_iff.2 hnodup) hdealt (hperm.mem_iff.2 hin), place_perm hperm]
    · exact ⟨fun hd => absurd (hperm.mem_iff.1 (hother.mem item hd)) hin,
        fun hc => absurd (h.mem item hc) hin⟩
  refine List.Perm.eq_of_pairwise ?_ hother.sorted h.sorted ?_
  · exact fun a b _ _ hab hba => absurd hab (lt_asymm hba)
  · exact (perm_ext_iff_of_nodup (nodup_of_sorted hother.sorted)
      (nodup_of_sorted h.sorted)).2 hmem

end Dealing
