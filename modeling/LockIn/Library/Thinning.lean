import LockIn.Library.Chords
import Mathlib.Algebra.Order.Floor.Semiring

/-!
# Thinning a row to a number of places

A row is thinned by its chords, under a measure of how far an element is from the chord of two others
and how far it may be.  For a number of places that must not be exceeded the tolerance grows until it
is enough; where it never is, places are picked at even distances.
-/

namespace Chords

open List

structure Measure (σ K : Type) where
  deviation : σ → σ → σ → K → K
  bound : K → K

/-- Some of the elements in their order, with both ends. -/
structure Thinned {σ : Type} (row thinned : List σ) : Prop where
  sublist : thinned.Sublist row
  head : thinned.head? = row.head?
  last : thinned.getLast? = row.getLast?

section
variable {σ K : Type} [Inhabited σ] [Field K] [LinearOrder K] [IsStrictOrderedRing K]
  [FloorSemiring K]

abbrev Tolerance (K : Type) [Field K] [LinearOrder K] : Type := { tolerance : K // 0 < tolerance }

/-- The tolerance grows by half. -/
def Tolerance.next (tolerance : Tolerance K) : Tolerance K :=
  ⟨tolerance.1 * (15 / 10), mul_pos tolerance.2 (by norm_num)⟩

def Tolerance.rounds (tolerance : Tolerance K) : Nat := ⌊3000 / tolerance.1⌋₊

theorem Tolerance.rounds_next {tolerance : Tolerance K} (h : tolerance.1 < 1000) :
    tolerance.next.rounds < tolerance.rounds := by
  have hpos := tolerance.2
  have hstep : 3000 / tolerance.next.1 + 1 ≤ 3000 / tolerance.1 := by
    have hnext : 3000 / tolerance.next.1 = 2000 / tolerance.1 := by
      rw [Tolerance.next]
      field_simp
      norm_num
    have hone : 1 ≤ 1000 / tolerance.1 := (one_le_div hpos).2 h.le
    have hsum : 3000 / tolerance.1 = 2000 / tolerance.1 + 1000 / tolerance.1 := by
      rw [← add_div]
      norm_num
    rw [hnext, hsum]
    linarith
  have hnonneg : 0 ≤ 3000 / tolerance.next.1 := (div_pos (by norm_num) tolerance.next.2).le
  unfold Tolerance.rounds
  rw [Nat.lt_iff_add_one_le, ← Nat.floor_add_one hnonneg]
  exact Nat.floor_le_floor hstep

variable (measure : Measure σ K)

def Measure.along (row : List σ) (tolerance : K) (place first last : Nat) : K :=
  measure.deviation row[place]! row[first]! row[last]! tolerance

def thin (row : List σ) (tolerance : K) : List σ :=
  if row.length < 3 ∨ ¬0 < tolerance then row
  else flagged (kept (measure.along row tolerance) (measure.bound tolerance) row.length) row

def thinTo (row : List σ) (limit : Nat) (tolerance : Tolerance K) : List σ :=
  let thinned := thin measure row tolerance.1
  if _h : limit < thinned.length ∧ tolerance.1 < 1000 then thinTo row limit tolerance.next
  else thinned
termination_by tolerance.rounds
decreasing_by exact Tolerance.rounds_next _h.2

/-- The nearest place to the `index`-th of `limit` that stand at even distances. -/
def evenPlace (length limit index : Nat) : Nat :=
  ⌊(index * (length - 1) / (limit - 1) + 1 / 2 : ℚ)⌋₊

def evenPick (row : List σ) (limit : Nat) : List σ :=
  (List.range limit).map fun index => row[evenPlace row.length limit index]!

def reduce (row : List σ) (maxCount : Nat) (start : Tolerance K) : List σ :=
  let limit := max 2 maxCount
  if row.length ≤ limit then row
  else
    let reduced := thinTo measure row limit start
    if reduced.length ≤ limit then reduced else evenPick reduced limit

/-- No element that was dropped deviates by more than the bound from the chord of the kept ones around
it. -/
def Close (row thinned : List σ) (tolerance : K) : Prop :=
  ∃ keep : List Bool, keep.length = row.length ∧ thinned = flagged keep row ∧
    ∀ place < row.length, ¬Kept keep place → ∃ first last, Gap keep first last ∧ first < place ∧
      place < last ∧
        measure.deviation row[place]! row[first]! row[last]! tolerance ≤ measure.bound tolerance

variable {measure} {row thinned : List σ} {tolerance : K} {limit : Nat}

omit [Inhabited σ] in
theorem Thinned.refl (row : List σ) : Thinned row row := ⟨.refl _, rfl, rfl⟩

omit [Inhabited σ] in
theorem Thinned.trans {further : List σ} (h : Thinned row thinned) (h' : Thinned thinned further) :
    Thinned row further :=
  ⟨h'.sublist.trans h.sublist, h'.head.trans h.head, h'.last.trans h.last⟩

omit [Field K] [IsStrictOrderedRing K] [FloorSemiring K] in
theorem close_refl (row : List σ) (tolerance : K) : Close measure row row tolerance := by
  refine ⟨List.replicate row.length true, length_replicate, ?_, fun place hplace hnot => ?_⟩
  · have hall : row.zipIdx.filter (fun entry =>
        (List.replicate row.length true).getD entry.2 false) = row.zipIdx := by
      refine filter_eq_self.2 fun entry hentry => ?_
      have hlt : entry.2 < row.length := snd_lt_of_mem_zipIdx hentry
      rw [getD_eq_getElem?_getD, getElem?_replicate_of_lt hlt, Option.getD_some]
    rw [flagged, hall, zipIdx_map_fst]
  · exact absurd (getElem?_replicate_of_lt hplace) hnot

omit [IsStrictOrderedRing K] [FloorSemiring K] in
theorem thin_spec (row : List σ) (tolerance : K) :
    Thinned row (thin measure row tolerance) ∧
      Close measure row (thin measure row tolerance) tolerance := by
  unfold thin
  split_ifs with hsmall
  · exact ⟨.refl _, close_refl _ _⟩
  · rw [not_or, not_lt, not_not] at hsmall
    have hlong : 2 ≤ row.length := by omega
    obtain ⟨hlength, hfirst, hlast, hclose⟩ :=
      kept_spec (measure.along row tolerance) (measure.bound tolerance) hlong
    refine ⟨⟨flagged_sublist _ _, head_flagged hfirst, getLast_flagged hlast⟩,
      _, hlength, rfl, fun place hplace hnot => ?_⟩
    have hafter : 0 < place := Nat.pos_of_ne_zero fun hzero => hnot (hzero ▸ hfirst)
    have hbefore : place < row.length - 1 :=
      lt_of_le_of_ne (by omega) fun hend => hnot (hend ▸ hlast)
    obtain ⟨first, last, hgap, hleft, hright⟩ := exists_gap hfirst hlast hafter hbefore hnot
    exact ⟨first, last, hgap, hleft, hright, hclose first last hgap place hleft hright⟩

theorem thinTo_thinned (limit : Nat) (tolerance : Tolerance K) :
    Thinned row (thinTo measure row limit tolerance) := by
  induction tolerance using thinTo.induct measure row limit with
  | case1 tolerance thinned h ih =>
    rw [thinTo, dif_pos h]
    exact ih
  | case2 tolerance thinned h =>
    rw [thinTo, dif_neg h]
    exact (thin_spec row tolerance.1).1

theorem evenPlace_zero (length limit : Nat) : evenPlace length limit 0 = 0 := by
  unfold evenPlace
  rw [Nat.floor_eq_zero, Nat.cast_zero, zero_mul, zero_div]
  norm_num

theorem evenPlace_last {length : Nat} (hlimit : 2 ≤ limit) (hlength : 1 ≤ length) :
    evenPlace length limit (limit - 1) = length - 1 := by
  have hone : (1 : ℚ) < limit := by exact_mod_cast hlimit
  have hpos : (limit : ℚ) - 1 ≠ 0 := by linarith
  unfold evenPlace
  rw [Nat.cast_sub (by omega), Nat.cast_one, mul_div_assoc, mul_div_cancel₀ _ hpos,
    Nat.floor_eq_iff (by linarith [(Nat.one_le_cast (α := ℚ)).2 hlength]), Nat.cast_sub hlength]
  constructor <;> push_cast <;> linarith

theorem evenPlace_lt {length first second : Nat} (hlimit : 2 ≤ limit) (hlong : limit ≤ length)
    (h : first < second) : evenPlace length limit first < evenPlace length limit second := by
  have hone : (1 : ℚ) < limit := by exact_mod_cast hlimit
  have hpos : (0 : ℚ) < limit - 1 := by linarith
  have hle : (limit : ℚ) ≤ length := by exact_mod_cast hlong
  have hnext : (first : ℚ) + 1 ≤ second := by exact_mod_cast h
  have hrate : 1 ≤ ((length : ℚ) - 1) / (limit - 1) := (one_le_div hpos).2 (by linarith)
  have hstep : (first * (length - 1) / (limit - 1) + 1 / 2 : ℚ) + 1 ≤
      second * (length - 1) / (limit - 1) + 1 / 2 := by
    rw [mul_div_assoc, mul_div_assoc]
    nlinarith
  have hnonneg : 0 ≤ (first * (length - 1) / (limit - 1) + 1 / 2 : ℚ) := by
    have hlength : (0 : ℚ) ≤ length - 1 := by linarith
    positivity
  unfold evenPlace
  rw [Nat.lt_iff_add_one_le, ← Nat.floor_add_one hnonneg]
  exact Nat.floor_le_floor hstep

theorem evenPick_spec (hlimit : 2 ≤ limit) (hlong : limit ≤ row.length) :
    Thinned row (evenPick row limit) ∧ (evenPick row limit).length = limit := by
  have hlast := evenPlace_last hlimit (by omega : 1 ≤ row.length)
  have hlt (index : Fin limit) : evenPlace row.length limit index < row.length := by
    rcases Nat.lt_or_ge index.1 (limit - 1) with hbefore | hend
    · have hplace := evenPlace_lt hlimit hlong hbefore
      omega
    · have hindex : index.1 = limit - 1 := by omega
      rw [hindex, hlast]
      omega
  have hmap : evenPick row limit = ((List.finRange limit).map fun index : Fin limit =>
      (⟨evenPlace row.length limit index, hlt index⟩ : Fin row.length)).map
        fun place => row[place] := by
    unfold evenPick
    rw [← map_coe_finRange_eq_range, map_map, map_map]
    refine map_congr_left fun index _ => ?_
    exact getElem!_pos row _ (hlt index)
  have hsublist : (evenPick row limit).Sublist row := by
    rw [hmap]
    refine map_getElem_sublist (pairwise_map.2 ?_)
    exact (pairwise_lt_finRange limit).imp fun h => evenPlace_lt hlimit hlong h
  have hlength : (evenPick row limit).length = limit := by
    rw [evenPick, length_map, length_range]
  refine ⟨⟨hsublist, ?_, ?_⟩, hlength⟩
  · rw [head?_eq_getElem?, head?_eq_getElem?, evenPick, getElem?_map,
      getElem?_range (by omega), Option.map_some, evenPlace_zero,
      getElem!_pos row 0 (by omega), getElem?_eq_getElem (by omega)]
  · rw [getLast?_eq_getElem?, getLast?_eq_getElem?, hlength, evenPick, getElem?_map,
      getElem?_range (by omega), Option.map_some, hlast,
      getElem!_pos row _ (by omega), getElem?_eq_getElem (by omega)]

theorem reduce_spec (row : List σ) (maxCount : Nat) (start : Tolerance K) :
    Thinned row (reduce measure row maxCount start) ∧
      (reduce measure row maxCount start).length ≤ max 2 maxCount := by
  have hreduced := @thinTo_thinned _ _ _ _ _ _ _ measure row (max 2 maxCount) start
  unfold reduce
  simp only
  split_ifs with hshort hfew
  · exact ⟨.refl _, hshort⟩
  · exact ⟨hreduced, hfew⟩
  · rw [not_le] at hfew
    obtain ⟨hpicked, hlength⟩ := evenPick_spec (le_max_left _ _) hfew.le
    exact ⟨hreduced.trans hpicked, hlength.le⟩

theorem reduce_of_le {maxCount : Nat} (h : row.length ≤ max 2 maxCount) (start : Tolerance K) :
    reduce measure row maxCount start = row :=
  if_pos h

end

end Chords
