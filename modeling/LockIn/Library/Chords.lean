import Mathlib.Tactic

/-!
# Thinning a row by its chords

Of the places of a row the two ends are kept.  Between two kept places the one that deviates most from
their chord is kept as well, if it deviates by more than a tolerance, and then the intervals on both
sides of it are looked at.  The intervals that are left wait on a stack.

No interval is on the stack twice, and each is a gap between two kept places.  In the end no place of
a gap deviates by more than the tolerance.
-/

namespace Chords

open List

section
variable {K : Type} [LinearOrder K] (deviation : Nat → Nat → Nat → K) (tolerance : K)

def farther (first last : Nat) (best : Option Nat × K) (place : Nat) : Option Nat × K :=
  if best.2 < deviation place first last then (some place, deviation place first last) else best

def farthest (first last : Nat) : Option Nat :=
  ((List.range' (first + 1) (last - (first + 1))).foldl (farther deviation first last)
    (none, tolerance)).1

variable {deviation tolerance} {first last middle place : Nat} {best : Option Nat × K}

theorem foldl_farther_none {places : List Nat}
    (h : (places.foldl (farther deviation first last) best).1 = none) :
    best.1 = none ∧ ∀ place ∈ places, deviation place first last ≤ best.2 := by
  induction places generalizing best with
  | nil => exact ⟨h, fun place hplace => absurd hplace not_mem_nil⟩
  | cons place rest ih =>
    rw [foldl_cons] at h
    obtain ⟨hbest, hrest⟩ := ih h
    unfold farther at hbest hrest
    by_cases hfar : best.2 < deviation place first last
    · rw [if_pos hfar] at hbest
      cases hbest
    · rw [if_neg hfar] at hbest hrest
      refine ⟨hbest, fun other hother => ?_⟩
      rcases mem_cons.1 hother with rfl | hin
      · exact not_lt.1 hfar
      · exact hrest other hin

theorem foldl_farther_some {places : List Nat}
    (h : (places.foldl (farther deviation first last) best).1 = some middle) :
    best.1 = some middle ∨ middle ∈ places := by
  induction places generalizing best with
  | nil => exact .inl h
  | cons place rest ih =>
    rw [foldl_cons] at h
    rcases ih h with hbest | hin
    · unfold farther at hbest
      split_ifs at hbest with hfar
      · exact .inr (Option.some.inj hbest ▸ mem_cons_self)
      · exact .inl hbest
    · exact .inr (mem_cons_of_mem _ hin)

theorem mem_between : place ∈ List.range' (first + 1) (last - (first + 1)) ↔
    first < place ∧ place < last := by
  rw [List.mem_range'_1]
  omega

theorem farthest_none (h : farthest deviation tolerance first last = none) :
    ∀ place, first < place → place < last → deviation place first last ≤ tolerance :=
  fun place hfirst hlast => (foldl_farther_none h).2 place (mem_between.2 ⟨hfirst, hlast⟩)

theorem farthest_some (h : farthest deviation tolerance first last = some middle) :
    first < middle ∧ middle < last := by
  rcases foldl_farther_some h with hnone | hin
  · cases hnone
  · exact mem_between.1 hin

def work (stack : List (Nat × Nat)) : Nat :=
  (stack.map fun interval => 3 * (interval.2 - interval.1) - 2).sum + stack.length

theorem work_cons (interval : Nat × Nat) (stack : List (Nat × Nat)) :
    work (interval :: stack) = 3 * (interval.2 - interval.1) - 2 + 1 + work stack := by
  simp only [work, map_cons, sum_cons, length_cons]
  omega

variable (deviation tolerance)

def sweep (keep : List Bool) (stack : List (Nat × Nat)) : List Bool :=
  match stack with
  | [] => keep
  | (first, last) :: rest =>
    match _h : farthest deviation tolerance first last with
    | none => sweep keep rest
    | some middle => sweep (keep.set middle true) ((middle, last) :: (first, middle) :: rest)
termination_by work stack
decreasing_by
  · rw [work_cons]
    omega
  · obtain ⟨hfirst, hlast⟩ := farthest_some _h
    simp only [work_cons]
    omega

def ends (length : Nat) : List Bool :=
  ((List.replicate length false).set 0 true).set (length - 1) true

def kept (length : Nat) : List Bool :=
  sweep deviation tolerance (ends length) [(0, length - 1)]

end

def Kept (keep : List Bool) (place : Nat) : Prop := keep[place]? = some true

instance (keep : List Bool) : DecidablePred (Kept keep) :=
  fun place => inferInstanceAs (Decidable (keep[place]? = some true))

/-- Two kept places with none between them. -/
structure Gap (keep : List Bool) (first last : Nat) : Prop where
  lt : first < last
  left : Kept keep first
  right : Kept keep last
  between : ∀ place, first < place → place < last → ¬Kept keep place

section
variable {keep : List Bool} {first last middle place : Nat}

theorem kept_set (hmiddle : middle < keep.length) :
    Kept (keep.set middle true) place ↔ place = middle ∨ Kept keep place := by
  unfold Kept
  by_cases hplace : place = middle
  · subst hplace
    simp [getElem?_set_self hmiddle]
  · simp [getElem?_set_ne (Ne.symm hplace), hplace]

theorem Kept.lt_length (h : Kept keep place) : place < keep.length := by
  obtain ⟨hlt, -⟩ := List.getElem?_eq_some_iff.1 h
  exact hlt

theorem Gap.unique {other another : Nat} (h : Gap keep first last) (h' : Gap keep other another)
    (hfirst : first < place) (hlast : place < last) (hother : other < place)
    (hanother : place < another) : first = other ∧ last = another := by
  constructor
  · rcases Nat.lt_trichotomy first other with hlt | heq | hlt
    · exact absurd h'.left (h.between other hlt (hother.trans hlast))
    · exact heq
    · exact absurd h.left (h'.between first hlt (hfirst.trans hanother))
  · rcases Nat.lt_trichotomy last another with hlt | heq | hlt
    · exact absurd h.right (h'.between last (hother.trans hlast) hlt)
    · exact heq
    · exact absurd h'.right (h.between another (hfirst.trans hanother) hlt)

theorem Gap.split (h : Gap keep first last) (hfirst : first < middle) (hlast : middle < last) :
    Gap (keep.set middle true) first middle ∧ Gap (keep.set middle true) middle last := by
  have hmiddle : middle < keep.length := hlast.trans h.right.lt_length
  refine ⟨⟨hfirst, ?_, ?_, ?_⟩, ⟨hlast, ?_, ?_, ?_⟩⟩
  · exact (kept_set hmiddle).2 (.inr h.left)
  · exact (kept_set hmiddle).2 (.inl rfl)
  · intro place hafter hbefore hkept
    rcases (kept_set hmiddle).1 hkept with rfl | hold
    · exact lt_irrefl _ hbefore
    · exact h.between place hafter (hbefore.trans hlast) hold
  · exact (kept_set hmiddle).2 (.inl rfl)
  · exact (kept_set hmiddle).2 (.inr h.right)
  · intro place hafter hbefore hkept
    rcases (kept_set hmiddle).1 hkept with rfl | hold
    · exact lt_irrefl _ hafter
    · exact h.between place (hfirst.trans hafter) hbefore hold

theorem Gap.keep_other (h : Gap keep first last) (hmiddle : middle < keep.length)
    (hout : ¬(first < middle ∧ middle < last)) : Gap (keep.set middle true) first last where
  lt := h.lt
  left := (kept_set hmiddle).2 (.inr h.left)
  right := (kept_set hmiddle).2 (.inr h.right)
  between place hafter hbefore hkept := by
    rcases (kept_set hmiddle).1 hkept with rfl | hold
    · exact hout ⟨hafter, hbefore⟩
    · exact h.between place hafter hbefore hold

theorem Gap.of_set {other another : Nat} (h : Gap keep first last) (hfirst : first < middle)
    (hlast : middle < last) (hnew : Gap (keep.set middle true) other another) :
    (other = first ∧ another = middle) ∨ (other = middle ∧ another = last) ∨
      Gap keep other another := by
  have hmiddle : middle < keep.length := hlast.trans h.right.lt_length
  obtain ⟨hleft, hright⟩ := h.split hfirst hlast
  rcases (kept_set hmiddle).1 hnew.left with rfl | hother
  · refine .inr (.inl ⟨rfl, ?_⟩)
    rcases Nat.lt_trichotomy another last with hlt | heq | hlt
    · exact absurd hnew.right (hright.between another hnew.lt hlt)
    · exact heq
    · exact absurd hright.right (hnew.between last hlast hlt)
  · rcases (kept_set hmiddle).1 hnew.right with rfl | hanother
    · refine .inl ⟨?_, rfl⟩
      rcases Nat.lt_trichotomy other first with hlt | heq | hlt
      · exact absurd hleft.left (hnew.between first hlt hfirst)
      · exact heq
      · exact absurd hnew.left (hleft.between other hlt hnew.lt)
    · exact .inr (.inr ⟨hnew.lt, hother, hanother, fun place hafter hbefore hold =>
        hnew.between place hafter hbefore ((kept_set hmiddle).2 (.inr hold))⟩)

end

section
variable {K : Type} [LinearOrder K] {deviation : Nat → Nat → Nat → K} {tolerance : K}
  {keep : List Bool} {stack : List (Nat × Nat)} {first last : Nat}

/-- The stack holds different gaps, and all others are settled. -/
structure Swept (deviation : Nat → Nat → Nat → K) (tolerance : K) (keep : List Bool)
    (stack : List (Nat × Nat)) : Prop where
  nodup : stack.Nodup
  gaps : ∀ interval ∈ stack, Gap keep interval.1 interval.2
  settled : ∀ first last, Gap keep first last → (first, last) ∈ stack ∨
    ∀ place, first < place → place < last → deviation place first last ≤ tolerance

theorem Swept.drop (h : Swept deviation tolerance keep ((first, last) :: stack))
    (hnone : farthest deviation tolerance first last = none) : Swept deviation tolerance keep stack where
  nodup := (nodup_cons.1 h.nodup).2
  gaps interval hin := h.gaps interval (mem_cons_of_mem _ hin)
  settled other another hgap := by
    rcases h.settled other another hgap with hin | hclose
    · rcases mem_cons.1 hin with heq | hrest
      · obtain ⟨rfl, rfl⟩ := Prod.mk.inj heq
        exact .inr (farthest_none hnone)
      · exact .inl hrest
    · exact .inr hclose

theorem Swept.split {middle : Nat} (h : Swept deviation tolerance keep ((first, last) :: stack))
    (hfirst : first < middle) (hlast : middle < last) :
    Swept deviation tolerance (keep.set middle true) ((middle, last) :: (first, middle) :: stack) := by
  have hgap : Gap keep first last := h.gaps (first, last) mem_cons_self
  have hmiddle : middle < keep.length := hlast.trans hgap.right.lt_length
  obtain ⟨hleft, hright⟩ := hgap.split hfirst hlast
  have hfresh : ¬Kept keep middle := hgap.between middle hfirst hlast
  -- neither part was on the stack, since its new end was not kept
  have hnew : (middle, last) ∉ stack ∧ (first, middle) ∉ stack :=
    ⟨fun hin => hfresh (h.gaps _ (mem_cons_of_mem _ hin)).left,
      fun hin => hfresh (h.gaps _ (mem_cons_of_mem _ hin)).right⟩
  obtain ⟨hself, hrest⟩ := nodup_cons.1 h.nodup
  refine ⟨?_, ?_, ?_⟩
  · rw [nodup_cons, nodup_cons, mem_cons, not_or]
    exact ⟨⟨fun heq => hfirst.ne' (Prod.mk.inj heq).1, hnew.1⟩, hnew.2, hrest⟩
  · intro interval hin
    rcases mem_cons.1 hin with rfl | hin
    · exact hright
    · rcases mem_cons.1 hin with rfl | hin
      · exact hleft
      · have hother := h.gaps interval (mem_cons_of_mem _ hin)
        refine hother.keep_other hmiddle fun hinside => hself ?_
        obtain ⟨heq, heq'⟩ := hgap.unique hother hfirst hlast hinside.1 hinside.2
        rw [heq, heq']
        exact hin
  · intro other another hnewGap
    rcases hgap.of_set hfirst hlast hnewGap with ⟨rfl, rfl⟩ | ⟨rfl, rfl⟩ | hold
    · exact .inl (by simp)
    · exact .inl (by simp)
    · rcases h.settled other another hold with hin | hclose
      · rcases mem_cons.1 hin with heq | hin
        · obtain ⟨rfl, rfl⟩ := Prod.mk.inj heq
          exact absurd ((kept_set hmiddle).2 (.inl rfl)) (hnewGap.between middle hfirst hlast)
        · exact .inl (mem_cons_of_mem _ (mem_cons_of_mem _ hin))
      · exact .inr hclose

theorem sweep_spec (h : Swept deviation tolerance keep stack) :
    Swept deviation tolerance (sweep deviation tolerance keep stack) [] ∧
      (∀ place, Kept keep place → Kept (sweep deviation tolerance keep stack) place) ∧
        (sweep deviation tolerance keep stack).length = keep.length := by
  induction keep, stack using sweep.induct deviation tolerance with
  | case1 keep =>
    rw [sweep]
    exact ⟨h, fun _ hkept => hkept, rfl⟩
  | case2 keep first last rest hnone ih =>
    rw [sweep]
    split
    · exact ih (h.drop hnone)
    · rename_i middle hsome
      rw [hnone] at hsome
      cases hsome
  | case3 keep first last rest middle hsome ih =>
    rw [sweep]
    split
    · rename_i hnone
      rw [hnone] at hsome
      cases hsome
    · rename_i other hother
      obtain rfl : middle = other := Option.some.inj (hsome.symm.trans hother)
      obtain ⟨hfirst, hlast⟩ := farthest_some hsome
      have hmiddle : middle < keep.length :=
        hlast.trans (h.gaps (first, last) mem_cons_self).right.lt_length
      obtain ⟨hswept, hkept, hlength⟩ := ih (h.split hfirst hlast)
      refine ⟨hswept, fun place hplace => hkept place ((kept_set hmiddle).2 (.inr hplace)), ?_⟩
      rw [hlength, length_set]

theorem length_ends (length : Nat) : (ends length).length = length := by
  simp [ends]

theorem kept_ends {length place : Nat} (hlength : 2 ≤ length) :
    Kept (ends length) place ↔ place = 0 ∨ place = length - 1 := by
  have hnone : ¬Kept (List.replicate length false) place := by
    intro hkept
    cases eq_of_mem_replicate (mem_of_getElem? hkept)
  unfold ends
  rw [kept_set (by simp; omega), kept_set (by simp; omega), or_comm]
  simp [hnone]

theorem swept_ends {length : Nat} (hlength : 2 ≤ length) :
    Swept deviation tolerance (ends length) [(0, length - 1)] where
  nodup := nodup_singleton _
  gaps interval hin := by
    rw [mem_singleton.1 hin]
    refine ⟨by omega, (kept_ends hlength).2 (.inl rfl), (kept_ends hlength).2 (.inr rfl), ?_⟩
    intro place hafter hbefore hkept
    have hend := (kept_ends hlength).1 hkept
    omega
  settled first last hgap := by
    have hfirst := (kept_ends hlength).1 hgap.left
    have hlast := (kept_ends hlength).1 hgap.right
    have hlt := hgap.lt
    have hpair : first = 0 ∧ last = length - 1 := by omega
    rw [hpair.1, hpair.2]
    exact .inl mem_cons_self

theorem kept_spec (deviation : Nat → Nat → Nat → K) (tolerance : K) {length : Nat}
    (hlength : 2 ≤ length) :
    (kept deviation tolerance length).length = length ∧
      Kept (kept deviation tolerance length) 0 ∧
      Kept (kept deviation tolerance length) (length - 1) ∧
      ∀ first last, Gap (kept deviation tolerance length) first last →
        ∀ place, first < place → place < last → deviation place first last ≤ tolerance := by
  have hstart : Swept deviation tolerance (ends length) [(0, length - 1)] := swept_ends hlength
  obtain ⟨hswept, hkept, hsame⟩ := sweep_spec hstart
  refine ⟨hsame.trans (length_ends length), hkept 0 ((kept_ends hlength).2 (.inl rfl)),
    hkept _ ((kept_ends hlength).2 (.inr rfl)), fun first last hgap => ?_⟩
  rcases hswept.settled first last hgap with hin | hclose
  · exact absurd hin not_mem_nil
  · exact hclose

end

section
variable {α : Type} {keep : List Bool} {row : List α} {first last place : Nat}

theorem exists_gap (hfirst : Kept keep first) (hlast : Kept keep last) (hafter : first < place)
    (hbefore : place < last) (hnot : ¬Kept keep place) :
    ∃ left right, Gap keep left right ∧ left < place ∧ place < right := by
  have hright : ∃ right, place < right ∧ Kept keep right := ⟨last, hbefore, hlast⟩
  have hleft := Nat.findGreatest_spec hafter.le hfirst
  have hle : Nat.findGreatest (Kept keep) place ≤ place := Nat.findGreatest_le place
  have hlt : Nat.findGreatest (Kept keep) place < place :=
    lt_of_le_of_ne hle fun heq => hnot (heq ▸ hleft)
  obtain ⟨hnext, hkept⟩ := Nat.find_spec hright
  refine ⟨Nat.findGreatest (Kept keep) place, Nat.find hright, ⟨hlt.trans hnext, hleft, hkept, ?_⟩,
    hlt, hnext⟩
  intro other hother hanother hin
  rcases Nat.lt_or_ge place other with hover | hunder
  · exact Nat.find_min hright hanother ⟨hover, hin⟩
  · exact Nat.findGreatest_is_greatest hother hunder hin

/-- `row.filter((_, index) => keep[index])` -/
def flagged (keep : List Bool) (row : List α) : List α :=
  (row.zipIdx.filter fun entry => keep.getD entry.2 false).map Prod.fst

theorem flagged_sublist (keep : List Bool) (row : List α) : (flagged keep row).Sublist row := by
  have hsub : (flagged keep row).Sublist (row.zipIdx.map Prod.fst) := filter_sublist.map Prod.fst
  rw [zipIdx_map_fst] at hsub
  exact hsub

theorem head_flagged (h : Kept keep 0) : (flagged keep row).head? = row.head? := by
  cases row with
  | nil => rfl
  | cons first rest =>
    have hflag : keep.getD 0 false = true := by
      rw [getD_eq_getElem?_getD, h, Option.getD_some]
    unfold flagged
    rw [zipIdx_cons, filter_cons, if_pos hflag]
    rfl

theorem getLast_flagged (h : Kept keep (row.length - 1)) :
    (flagged keep row).getLast? = row.getLast? := by
  cases row using List.reverseRecOn with
  | nil => rfl
  | append_singleton front last =>
    rw [length_append, length_singleton, Nat.add_sub_cancel] at h
    have hflag : keep.getD front.length false = true := by
      rw [getD_eq_getElem?_getD, h, Option.getD_some]
    have hlast : [(last, front.length)].filter (fun entry => keep.getD entry.2 false) =
        [(last, front.length)] := by
      rw [filter_cons, if_pos hflag, filter_nil]
    unfold flagged
    rw [zipIdx_append, zipIdx_singleton, Nat.zero_add, filter_append, hlast,
      map_append, map_singleton, getLast?_concat, getLast?_concat]

end

end Chords
