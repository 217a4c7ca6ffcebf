import Mathlib.Tactic

/-!
# Rounding to a number of places

`roundTo places` rounds to the nearest multiple of `10 ^ -places`, halves upwards.  Such
multiples are its fixed points, and as it is monotone it stays between two of them.
-/

namespace Decimal

/-- Multiples of `10 ^ -places`. -/
def HasPlaces (places : Nat) (value : ℚ) : Prop :=
  ∃ k : ℤ, value = k / 10 ^ places

def roundTo (places : Nat) (value : ℚ) : ℚ :=
  round (value * 10 ^ places) / 10 ^ places

/-- `Math.max(minimum, Math.min(maximum, value))`. -/
def clamp (value minimum maximum : ℚ) : ℚ :=
  max minimum (min maximum value)

variable {places : Nat} {value other low high : ℚ}

theorem roundTo_hasPlaces (places : Nat) (value : ℚ) : HasPlaces places (roundTo places value) :=
  ⟨_, rfl⟩

theorem HasPlaces.roundTo (h : HasPlaces places value) : roundTo places value = value := by
  obtain ⟨k, rfl⟩ := h
  have hpow : (10 : ℚ) ^ places ≠ 0 := by positivity
  unfold Decimal.roundTo
  rw [div_mul_cancel₀ _ hpow, round_intCast]

theorem hasPlaces_intCast (places : Nat) (k : ℤ) : HasPlaces places k := by
  refine ⟨k * 10 ^ places, ?_⟩
  have hpow : (10 : ℚ) ^ places ≠ 0 := by positivity
  push_cast
  rw [mul_div_cancel_right₀ _ hpow]

theorem hasPlaces_zero (places : Nat) : HasPlaces places 0 := by
  simpa using hasPlaces_intCast places 0

theorem hasPlaces_one (places : Nat) : HasPlaces places 1 := by
  simpa using hasPlaces_intCast places 1

theorem HasPlaces.sub (h : HasPlaces places value) (h' : HasPlaces places other) :
    HasPlaces places (value - other) := by
  obtain ⟨k, rfl⟩ := h
  obtain ⟨l, rfl⟩ := h'
  refine ⟨k - l, ?_⟩
  push_cast
  rw [sub_div]

theorem HasPlaces.max (h : HasPlaces places value) (h' : HasPlaces places other) :
    HasPlaces places (max value other) := by
  rcases max_choice value other with hmax | hmax
  · rw [hmax]
    exact h
  · rw [hmax]
    exact h'

theorem roundTo_mono (h : value ≤ other) : roundTo places value ≤ roundTo places other := by
  have hpow : (0 : ℚ) < 10 ^ places := by positivity
  unfold roundTo
  have hle : round (value * 10 ^ places) ≤ round (other * 10 ^ places) := by
    rw [round_eq, round_eq]
    apply Int.floor_mono
    gcongr
  have hcast : (round (value * 10 ^ places) : ℚ) ≤ round (other * 10 ^ places) := by
    exact_mod_cast hle
  gcongr

theorem roundTo_clamp_mem (hlow : HasPlaces places low) (hhigh : HasPlaces places high)
    (hle : low ≤ high) (value : ℚ) :
    low ≤ roundTo places (clamp value low high) ∧ roundTo places (clamp value low high) ≤ high := by
  have hmin : low ≤ clamp value low high := le_max_left _ _
  have hmax : clamp value low high ≤ high := max_le hle (min_le_left _ _)
  constructor
  · calc low = roundTo places low := hlow.roundTo.symm
      _ ≤ _ := roundTo_mono hmin
  · calc roundTo places (clamp value low high) ≤ roundTo places high := roundTo_mono hmax
      _ = high := hhigh.roundTo

theorem clamp_of_mem (hlow : low ≤ value) (hhigh : value ≤ high) : clamp value low high = value := by
  unfold clamp
  rw [min_eq_right hhigh, max_eq_right hlow]

/-- A decimal between two bounds. -/
structure Within (places : Nat) (low high value : ℚ) : Prop where
  hasPlaces : HasPlaces places value
  le : low ≤ value
  ge : value ≤ high

theorem Within.clamp (h : Within places low high value) : clamp value low high = value :=
  clamp_of_mem h.le h.ge

theorem Within.roundTo_clamp (h : Within places low high value) :
    Decimal.roundTo places (Decimal.clamp value low high) = value := by
  rw [h.clamp, h.hasPlaces.roundTo]

theorem within_roundTo_clamp (hlow : HasPlaces places low) (hhigh : HasPlaces places high)
    (hle : low ≤ high) (value : ℚ) : Within places low high (roundTo places (clamp value low high)) where
  hasPlaces := roundTo_hasPlaces places _
  le := (roundTo_clamp_mem hlow hhigh hle value).1
  ge := (roundTo_clamp_mem hlow hhigh hle value).2

end Decimal
