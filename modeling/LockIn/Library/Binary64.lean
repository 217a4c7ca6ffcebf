import Mathlib.Data.Int.Log
import Mathlib.Tactic

/-!
# Rounding to binary64

A real number is rounded to the nearest one with 53 significant bits, to the even one of two.
The exponent is not bounded: overflow and the subnormal range are left out.
-/

namespace Binary64

def nearest (x : ℚ) : ℤ :=
  if x - ⌊x⌋ < 1 / 2 then ⌊x⌋
  else if 1 / 2 < x - ⌊x⌋ then ⌊x⌋ + 1
  else if ⌊x⌋ % 2 = 0 then ⌊x⌋ else ⌊x⌋ + 1

/-- The distance of two neighbours of `x`. -/
def quantum (x : ℚ) : ℚ := 2 ^ (Int.log 2 |x| - 52)

def round (x : ℚ) : ℚ := nearest (x / quantum x) * quantum x

/-- What is at most `n` after rounding is less than half above `n`, or just half above an even one. -/
theorem nearest_le_iff (x : ℚ) (n : ℤ) :
    nearest x ≤ n ↔ x < n + 1 / 2 ∨ x = n + 1 / 2 ∧ n % 2 = 0 := by
  have hle := Int.floor_le x
  have hlt := Int.lt_floor_add_one x
  rcases lt_trichotomy ⌊x⌋ n with hbelow | hsame | habove
  · have hstep : (⌊x⌋ : ℚ) + 1 ≤ n := by exact_mod_cast hbelow
    have hnearest : nearest x ≤ ⌊x⌋ + 1 := by
      unfold nearest
      split_ifs <;> omega
    constructor
    · intro _
      left
      linarith
    · intro _
      omega
  · subst hsame
    unfold nearest
    split_ifs with hdown hup heven
    · exact iff_of_true le_rfl (.inl (by linarith))
    · refine iff_of_false (by omega) ?_
      rintro (h | ⟨h, _⟩) <;> linarith
    · exact iff_of_true le_rfl (.inr ⟨by linarith, heven⟩)
    · refine iff_of_false (by omega) ?_
      rintro (h | ⟨_, h⟩)
      · linarith
      · exact heven h
  · have hstep : (n : ℚ) + 1 ≤ ⌊x⌋ := by exact_mod_cast habove
    have hnearest : ⌊x⌋ ≤ nearest x := by
      unfold nearest
      split_ifs <;> omega
    refine iff_of_false (by omega) ?_
    rintro (h | ⟨h, _⟩) <;> linarith

theorem le_nearest {x : ℚ} {n : ℤ} (h : (n : ℚ) ≤ x) : n ≤ nearest x := by
  have hfloor : n ≤ ⌊x⌋ := Int.le_floor.2 h
  unfold nearest
  split_ifs <;> omega

end Binary64
