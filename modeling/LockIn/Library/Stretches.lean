import Mathlib.Data.List.GetD
import Mathlib.Tactic

/-!
# Stretches of consecutive numbers

A stretch of a list is a number of consecutive integers that are all in it.  `scan` goes over an
increasing list once and finds the length of the longest stretch, `countBack` goes back from its end
and finds the length of the last one.  Which stretches a list has depends on its members only.
-/

namespace Stretches

open List

/-- The `length` integers from `first` on are in the list. -/
def Stretch (days : List ℤ) (first : ℤ) (length : Nat) : Prop := ∀ k < length, first + k ∈ days

def IsLongest (days : List ℤ) (length : Nat) : Prop :=
  IsGreatest {n | ∃ first, Stretch days first n} length

/-- The `length` integers up to `last` are in the list. -/
def Ends (days : List ℤ) (last : ℤ) (length : Nat) : Prop := ∀ k < length, last - k ∈ days

def IsLongestEnding (days : List ℤ) (last : ℤ) (length : Nat) : Prop :=
  IsGreatest {n | Ends days last n} length

variable {days other : List ℤ} {first last day : ℤ} {length run longest n : Nat}

theorem IsLongest.congr (h : IsLongest days length) (hmem : ∀ day, day ∈ days ↔ day ∈ other) :
    IsLongest other length := by
  simpa only [IsLongest, Stretch, hmem] using h

theorem IsLongestEnding.congr (h : IsLongestEnding days last length)
    (hmem : ∀ day, day ∈ days ↔ day ∈ other) : IsLongestEnding other last length := by
  simpa only [IsLongestEnding, Ends, hmem] using h

theorem ends_iff_stretch : Ends days last n ↔ Stretch days (last - n + 1) n := by
  constructor
  · intro h k hk
    have hback := h (n - 1 - k) (by omega)
    have hcast : ((n - 1 - k : Nat) : ℤ) = n - 1 - k := by omega
    rwa [hcast, show last - (n - 1 - k : ℤ) = last - n + 1 + k by ring] at hback
  · intro h k hk
    have hforth := h (n - 1 - k) (by omega)
    have hcast : ((n - 1 - k : Nat) : ℤ) = n - 1 - k := by omega
    rwa [hcast, show last - n + 1 + (n - 1 - k : ℤ) = last - k by ring] at hforth

/-- The loop: the stretch that ends here and the longest one so far. -/
def scan (previous : ℤ) (run longest : Nat) : List ℤ → Nat × Nat
  | [] => (run, longest)
  | day :: rest =>
    let run := if day = previous + 1 then run + 1 else 1
    scan day run (max longest run) rest

theorem ends_append_next :
    Ends (days ++ [last + 1]) (last + 1) n ↔ n = 0 ∨ ∃ m, n = m + 1 ∧ Ends days last m := by
  constructor
  · intro h
    cases n with
    | zero => exact .inl rfl
    | succ m =>
      refine .inr ⟨m, rfl, fun k hk => ?_⟩
      have hmem := h (k + 1) (by omega)
      rw [show last + 1 - ((k + 1 : Nat) : ℤ) = last - k by push_cast; ring] at hmem
      rcases mem_append.1 hmem with hin | hself
      · exact hin
      · have hsame := mem_singleton.1 hself
        omega
  · rintro (rfl | ⟨m, rfl, h⟩) k hk
    · omega
    · cases k with
      | zero => simp
      | succ k =>
        rw [show last + 1 - ((k + 1 : Nat) : ℤ) = last - k by push_cast; ring]
        exact mem_append_left _ (h k (by omega))

theorem IsLongestEnding.next (h : IsLongestEnding days last run) :
    IsLongestEnding (days ++ [last + 1]) (last + 1) (run + 1) := by
  constructor
  · exact ends_append_next.2 (.inr ⟨run, rfl, h.1⟩)
  · intro n hn
    rcases ends_append_next.1 hn with rfl | ⟨m, rfl, hm⟩
    · omega
    · exact Nat.succ_le_succ (h.2 hm)

theorem isLongestEnding_gap (hlast : ∀ d ∈ days, d ≤ last) (hday : last + 1 < day) :
    IsLongestEnding (days ++ [day]) day 1 := by
  constructor
  · intro k hk
    obtain rfl : k = 0 := by omega
    simp
  · intro n hn
    by_contra hlong
    have hmem := hn 1 (by omega)
    rcases mem_append.1 hmem with hin | hself
    · have hle := hlast _ hin
      push_cast at hle
      omega
    · have hsame := mem_singleton.1 hself
      push_cast at hsame
      omega

theorem IsLongest.add (h : IsLongest days longest) (hlast : ∀ d ∈ days, d < day)
    (hrun : IsLongestEnding (days ++ [day]) day run) :
    IsLongest (days ++ [day]) (max longest run) := by
  constructor
  · rcases le_total run longest with hle | hle
    · rw [max_eq_left hle]
      obtain ⟨first, hstretch⟩ := h.1
      exact ⟨first, fun k hk => mem_append_left _ (hstretch k hk)⟩
    · rw [max_eq_right hle]
      exact ⟨_, ends_iff_stretch.1 hrun.1⟩
  · rintro n ⟨first, hstretch⟩
    by_cases hin : ∃ k < n, first + k = day
    · obtain ⟨k, hk, hkday⟩ := hin
      obtain rfl : k = n - 1 := by
        by_contra hne
        rcases mem_append.1 (hstretch (k + 1) (by omega)) with hold | hself
        · have hlt := hlast _ hold
          push_cast at hlt
          omega
        · have hsame := mem_singleton.1 hself
          push_cast at hsame
          omega
      refine le_max_of_le_right (hrun.2 (ends_iff_stretch.2 ?_))
      rwa [show day - (n : ℤ) + 1 = first by omega]
    · push Not at hin
      refine le_max_of_le_left (h.2 ⟨first, fun k hk => ?_⟩)
      rcases mem_append.1 (hstretch k hk) with hold | hself
      · exact hold
      · exact absurd (mem_singleton.1 hself) (hin k hk)

theorem scan_spec {seen rest : List ℤ} {previous : ℤ} (hsorted : (seen ++ rest).Pairwise (· < ·))
    (hlast : seen.getLast? = some previous) (hrun : IsLongestEnding seen previous run)
    (hlongest : IsLongest seen longest) :
    IsLongest (seen ++ rest) (scan previous run longest rest).2 := by
  induction rest generalizing seen previous run longest with
  | nil => rwa [append_nil]
  | cons day rest ih =>
    have hsplit : seen ++ day :: rest = (seen ++ [day]) ++ rest := by simp
    have hbelow : ∀ d ∈ seen, d < day := fun d hd =>
      (pairwise_append.1 hsorted).2.2 d hd day mem_cons_self
    have hprevious : ∀ d ∈ seen, d ≤ previous := by
      obtain ⟨init, rfl⟩ := getLast?_eq_some_iff.1 hlast
      intro d hd
      rcases mem_append.1 hd with hinit | hself
      · exact ((pairwise_append.1 (pairwise_append.1 hsorted).1).2.2 d hinit previous
          (by simp)).le
      · exact (mem_singleton.1 hself).le
    have hin : previous ∈ seen := mem_of_getLast? hlast
    have hstep : IsLongestEnding (seen ++ [day]) day (if day = previous + 1 then run + 1 else 1) := by
      split_ifs with hnext
      · rw [hnext]
        exact hrun.next
      · have hlt := hbelow previous hin
        exact isLongestEnding_gap hprevious (by omega)
    rw [hsplit] at hsorted ⊢
    exact ih hsorted (by simp) hstep (hlongest.add hbelow hstep)

/-- The loop from the end on: how many numbers follow each other. -/
def countBack (days : List ℤ) : Nat → Nat → Nat
  | 0, run => run
  | index + 1, run =>
    if days.getD (index + 1) 0 ≠ days.getD index 0 + 1 then run else countBack days index (run + 1)

/-- Only numbers at or after a place are as great as the one there. -/
theorem getElem_le_of_sorted (hsorted : days.Pairwise (· < ·)) {i j : Nat} (hj : j < days.length)
    (hij : i ≤ j) : days[i] ≤ days[j] := by
  rcases hij.eq_or_lt with rfl | hlt
  · exact le_rfl
  · exact (pairwise_iff_getElem.1 hsorted i j (by omega) hj hlt).le

theorem isLongestEnding_of_gap (hends : Ends days last run) (hgap : last - run ∉ days) :
    IsLongestEnding days last run := by
  refine ⟨hends, fun n hn => ?_⟩
  by_contra hlong
  exact hgap (hn run (by omega))

theorem countBack_spec (hsorted : days.Pairwise (· < ·)) {index : Nat}
    (hlength : index + run = days.length)
    (hrun : ∀ k < run, ∃ hk : days.length - 1 - k < days.length,
      days[days.length - 1 - k] = last - k) :
    0 < run → IsLongestEnding days last (countBack days index run) := by
  induction index generalizing run with
  | zero =>
    intro hpos
    show IsLongestEnding days last run
    refine isLongestEnding_of_gap (fun k hk => ?_) fun hmem => ?_
    · obtain ⟨hlt, heq⟩ := hrun k hk
      rw [← heq]
      exact getElem_mem hlt
    · obtain ⟨j, hj, heq⟩ := mem_iff_getElem.1 hmem
      obtain ⟨hlt, hfirst⟩ := hrun (run - 1) (by omega)
      have hplace : days.length - 1 - (run - 1) = 0 := by omega
      simp only [hplace] at hfirst
      have hle := getElem_le_of_sorted hsorted hj (i := 0) (by omega)
      omega
  | succ index ih =>
    intro hpos
    have hhere : index + 1 < days.length := by omega
    have hbefore : index < days.length := by omega
    obtain ⟨hlt, hlastrun⟩ := hrun (run - 1) (by omega)
    have hplace : days.length - 1 - (run - 1) = index + 1 := by omega
    simp only [hplace] at hlastrun
    unfold countBack
    rw [getD_eq_getElem _ _ hhere, getD_eq_getElem _ _ hbefore]
    split_ifs with hgap
    · refine isLongestEnding_of_gap (fun k hk => ?_) fun hmem => ?_
      · obtain ⟨hk', heq⟩ := hrun k hk
        rw [← heq]
        exact getElem_mem hk'
      · obtain ⟨j, hj, heq⟩ := mem_iff_getElem.1 hmem
        have hless := pairwise_iff_getElem.1 hsorted index (index + 1) hbefore hhere (by omega)
        rcases Nat.lt_or_ge index j with hafter | hupto
        · have hle := getElem_le_of_sorted hsorted hj (i := index + 1) hafter
          omega
        · have hle := getElem_le_of_sorted hsorted hbefore hupto
          omega
    · rw [not_not] at hgap
      refine ih (by omega) (fun k hk => ?_) (by omega)
      rcases Nat.lt_or_ge k run with hold | hnew
      · exact hrun k hold
      · obtain rfl : k = run := by omega
        have hat : days.length - 1 - k = index := by omega
        refine ⟨by omega, ?_⟩
        simp only [hat]
        omega

end Stretches
