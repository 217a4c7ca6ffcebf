import LockIn.Library.Utf16

/-!
# The size of a JSON text

How long the texts of JSON values are when they are written without blanks, by JavaScript
and by Python.  The numbers are decimals of at most six places.  The two write them alike,
except that Python writes a fraction below `0.0001` with an exponent.
-/

namespace JsonSize

open List

def array (sizes : List Nat) : Nat := 2 + sizes.sum + (sizes.length - 1)

/-- The characters of `"name":value`. -/
def member (name size : Nat) : Nat := name + 3 + size

def quoted (size : Nat) : Nat := size + 2

theorem array_le {sizes : List Nat} {most : Nat} (h : ∀ size ∈ sizes, size ≤ most) :
    array sizes ≤ 2 + sizes.length * (most + 1) := by
  have hsum : sizes.sum ≤ sizes.length * most := by
    simpa using sum_le_card_nsmul sizes most h
  have hmul : sizes.length * (most + 1) = sizes.length * most + sizes.length := Nat.mul_succ _ _
  unfold array
  omega

theorem array_map_le {α : Type} {items : List α} {size size' : α → Nat}
    (h : ∀ item ∈ items, size item ≤ size' item) :
    array (items.map size) ≤ array (items.map size') := by
  have hsum : (items.map size).sum ≤ (items.map size').sum := sum_le_sum h
  simp only [array, length_map]
  omega

def digitCount (n : Nat) : Nat := Nat.log 10 n + 1

def trailingZeros (n : Nat) : Nat :=
  if h : n ≠ 0 ∧ n % 10 = 0 then trailingZeros (n / 10) + 1 else 0
termination_by n
decreasing_by omega

def significant (n : Nat) : Nat := digitCount n - trailingZeros n

/-- The size of `d.ddde±x`, where the exponent takes `width` digits. -/
def exponentSize (digits width : Nat) : Nat :=
  significant digits + (if 1 < significant digits then 1 else 0) + 2 + width

def plainSize (millionths : Nat) : Nat :=
  digitCount (millionths / 1000000) +
    if millionths % 1000000 = 0 then 0 else 1 + (6 - trailingZeros (millionths % 1000000))

def millionths (value : ℚ) : Nat := ⌊|value| * 1000000⌋.toNat

def signSize (value : ℚ) : Nat := if value < 0 then 1 else 0

/-- `JSON.stringify(value).length`, which takes to an exponent from `1e21` on. -/
def javascript (value : ℚ) : Nat :=
  let whole := millionths value / 1000000
  signSize value +
    if 10 ^ 21 ≤ whole then exponentSize whole (digitCount (digitCount whole - 1))
    else plainSize (millionths value)

/-- `len(json.dumps(value))`, where an integer is written as it was read. -/
def python (value : ℚ) : Nat :=
  if millionths value % 1000000 ≠ 0 ∧ millionths value < 100 then
    signSize value + exponentSize (millionths value) 2
  else javascript value

theorem digitCount_le {n digits : Nat} (hpos : 0 < digits) (h : n < 10 ^ digits) :
    digitCount n ≤ digits := by
  have hlog : Nat.log 10 n < digits := Nat.log_lt_of_lt_pow' (by omega) h
  unfold digitCount
  omega

theorem trailingZeros_lt_digitCount (n : Nat) : trailingZeros n < digitCount n := by
  fun_induction trailingZeros n with
  | case1 n h ih =>
    have hlog : Nat.log 10 (n / 10) = Nat.log 10 n - 1 := Nat.log_div_base 10 n
    have hpos : 0 < Nat.log 10 n := Nat.log_pos (by decide) (by omega)
    unfold digitCount at ih ⊢
    omega
  | case2 n h =>
    unfold digitCount
    omega

theorem exponentSize_le (digits width : Nat) :
    exponentSize digits width ≤ significant digits + 3 + width := by
  unfold exponentSize
  by_cases h : 1 < significant digits
  · rw [if_pos h]
  · rw [if_neg h]
    omega

theorem python_le_javascript (value : ℚ) : python value ≤ javascript value := by
  unfold python
  split
  · rename_i h
    have hdigits : digitCount (millionths value) ≤ 2 := digitCount_le (by decide) h.2
    have hzeros := trailingZeros_lt_digitCount (millionths value)
    have hwhole : millionths value / 1000000 = 0 := by omega
    have hpart : millionths value % 1000000 = millionths value := by omega
    have hne : millionths value ≠ 0 := by omega
    have hone : digitCount 0 = 1 := by simp [digitCount]
    have hsmall : ¬ 10 ^ 21 ≤ 0 := by norm_num
    have hexponent := exponentSize_le (millionths value) 2
    simp only [javascript, hwhole, plainSize, hpart, hne, hone, hsmall, if_false]
    unfold significant at hexponent
    omega
  · exact le_rfl

theorem plainSize_le {n digits : Nat} (hpos : 0 < digits) (h : n < 10 ^ digits * 1000000) :
    plainSize n ≤ digits + 7 := by
  have hdigits : digitCount (n / 1000000) ≤ digits := by
    apply digitCount_le hpos
    exact Nat.div_lt_of_lt_mul (by omega)
  unfold plainSize
  split <;> omega

theorem javascript_le {value : ℚ} {digits : Nat} (hpos : 0 < digits) (hle : digits ≤ 21)
    (h : |value| < 10 ^ digits) : javascript value ≤ digits + 8 := by
  have hpow : 0 < 10 ^ digits := by positivity
  have hmillion : millionths value < 10 ^ digits * 1000000 := by
    have hlt : |value| * 1000000 < ((10 ^ digits * 1000000 : ℕ) : ℤ) := by
      push_cast
      nlinarith
    have hfloor : ⌊|value| * 1000000⌋ < ((10 ^ digits * 1000000 : ℕ) : ℤ) := Int.floor_lt.2 hlt
    unfold millionths
    omega
  have hwhole : millionths value / 1000000 < 10 ^ digits :=
    Nat.div_lt_of_lt_mul (by omega)
  have hmost : 10 ^ digits ≤ 10 ^ 21 := Nat.pow_le_pow_right (by decide) hle
  have hplain := plainSize_le hpos hmillion
  have hsign : signSize value ≤ 1 := by
    unfold signSize
    split <;> omega
  have hsmall : ¬ 10 ^ 21 ≤ millionths value / 1000000 := by omega
  simp only [javascript, hsmall, if_false]
  omega

/-- The bytes `json.dumps` with `ensure_ascii=False` takes for a code point, if it can be
encoded. -/
def pointBytes (point : Nat) : Option Nat :=
  if Utf16.isSurrogate point then none
  else if point ∈ [0x08, 0x09, 0x0A, 0x0C, 0x0D, 0x22, 0x5C] then some 2
  else if point < 0x20 then some 6
  else if point < 0x80 then some 1
  else if point < 0x800 then some 2
  else if point < 0x10000 then some 3
  else some 4

def pointsBytes : List Nat → Option Nat
  | [] => some 0
  | point :: rest =>
    match pointBytes point, pointsBytes rest with
    | some bytes, some more => some (bytes + more)
    | _, _ => none

def textBytes (text : Utf16.Text) : Option Nat :=
  (pointsBytes (Utf16.codePoints text)).map quoted

theorem pointBytes_of_surrogate {point : Nat} (h : Utf16.isSurrogate point = true) :
    pointBytes point = none := by
  simp [pointBytes, h]

theorem pointBytes_eq {point : Nat} (h : Utf16.isSurrogate point = false) :
    ∃ bytes, pointBytes point = some bytes ∧ bytes ≤ 6 := by
  unfold pointBytes
  rw [h]
  simp only [Bool.false_eq_true, if_false]
  split
  · exact ⟨2, rfl, by decide⟩
  split
  · exact ⟨6, rfl, by decide⟩
  split
  · exact ⟨1, rfl, by decide⟩
  split
  · exact ⟨2, rfl, by decide⟩
  split
  · exact ⟨3, rfl, by decide⟩
  · exact ⟨4, rfl, by decide⟩

theorem pointsBytes_eq {points : List Nat} (h : ∀ point ∈ points, Utf16.isSurrogate point = false) :
    ∃ bytes, pointsBytes points = some bytes ∧ bytes ≤ 6 * points.length := by
  induction points with
  | nil => exact ⟨0, rfl, Nat.le_refl 0⟩
  | cons point rest ih =>
    obtain ⟨bytes, hbytes, hle⟩ := pointBytes_eq (h point mem_cons_self)
    obtain ⟨more, hmore, hmoreLe⟩ := ih fun p hp => h p (mem_cons_of_mem _ hp)
    refine ⟨bytes + more, by simp [pointsBytes, hbytes, hmore], ?_⟩
    rw [length_cons]
    omega

theorem pointsBytes_none {points : List Nat} {point : Nat} (hmem : point ∈ points)
    (h : Utf16.isSurrogate point = true) : pointsBytes points = none := by
  induction points with
  | nil => exact absurd hmem not_mem_nil
  | cons head rest ih =>
    rcases mem_cons.1 hmem with rfl | hrest
    · simp [pointsBytes, pointBytes_of_surrogate h]
    · rw [pointsBytes, ih hrest]
      cases pointBytes head <;> rfl

theorem textBytes_eq {text : Utf16.Text} (h : Utf16.IsWellFormed text) :
    ∃ bytes, textBytes text = some bytes ∧ bytes ≤ 6 * text.length + 2 := by
  obtain ⟨bytes, hbytes, hle⟩ := pointsBytes_eq h
  have hpoints := Utf16.codePoints_length_le text
  refine ⟨bytes + 2, by simp [textBytes, hbytes, quoted], ?_⟩
  omega

theorem isWellFormed_of_textBytes {text : Utf16.Text} {bytes : Nat} (h : textBytes text = some bytes) :
    Utf16.IsWellFormed text := by
  intro point hpoint
  by_contra hsurrogate
  rw [Bool.not_eq_false] at hsurrogate
  rw [textBytes, pointsBytes_none hpoint hsurrogate] at h
  simp at h

end JsonSize
