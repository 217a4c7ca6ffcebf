import Mathlib.Tactic

/-!
# Fields of byte strings

A field is a slice of a byte string, cut off where the string ends, read as a number with the most
significant byte first.  Slices of a string that was put together are slices of its parts.
-/

namespace ByteFields

open List

abbrev Bytes := List UInt8

/-- `data[start:stop]` -/
def slice (data : Bytes) (start stop : Nat) : Bytes := (data.drop start).take (stop - start)

/-- `int.from_bytes(data, "big")` -/
def bigEndian (data : Bytes) : Nat := data.foldl (fun value byte => value * 256 + byte.toNat) 0

/-- `value.to_bytes(width, "big")`, of a value that fits. -/
def encode : Nat → Nat → Bytes
  | 0, _ => []
  | width + 1, value => encode width (value / 256) ++ [UInt8.ofNat value]

variable {before middle after data : Bytes} {start stop : Nat}

@[simp]
theorem length_encode (width value : Nat) : (encode width value).length = width := by
  induction width generalizing value with
  | zero => rfl
  | succ width ih => rw [encode, length_append, ih, length_singleton]

theorem bigEndian_append (data : Bytes) (byte : UInt8) :
    bigEndian (data ++ [byte]) = bigEndian data * 256 + byte.toNat := by
  rw [bigEndian, foldl_append]
  rfl

theorem bigEndian_encode {width value : Nat} (h : value < 256 ^ width) :
    bigEndian (encode width value) = value := by
  induction width generalizing value with
  | zero =>
    obtain rfl : value = 0 := by simpa using h
    rfl
  | succ width ih =>
    have hlt : value / 256 < 256 ^ width := by
      rw [Nat.div_lt_iff_lt_mul (by norm_num), ← pow_succ]
      exact h
    rw [encode, bigEndian_append, ih hlt, UInt8.toNat_ofNat']
    have hbase : 2 ^ 8 = 256 := rfl
    rw [hbase]
    omega

theorem length_slice (data : Bytes) (start stop : Nat) :
    (slice data start stop).length = min (stop - start) (data.length - start) := by
  rw [slice, length_take, length_drop]

theorem length_slice_eq (hstop : stop ≤ data.length) :
    (slice data start stop).length = stop - start := by
  rw [length_slice]
  omega

theorem slice_append_right (before data : Bytes) (start stop : Nat) :
    slice (before ++ data) (before.length + start) (before.length + stop) =
      slice data start stop := by
  rw [slice, slice, Nat.add_sub_add_left, ← drop_drop, drop_left]

theorem slice_append_left (data after : Bytes) (hstop : stop ≤ data.length) :
    slice (data ++ after) start stop = slice data start stop := by
  rw [slice, slice]
  rcases Nat.lt_or_ge start stop with hlt | hge
  · rw [drop_append_of_le_length (by omega), take_append_of_le_length]
    rw [length_drop]
    omega
  · rw [Nat.sub_eq_zero_of_le hge, take_zero, take_zero]

theorem slice_part (before middle after : Bytes) :
    slice (before ++ (middle ++ after)) before.length (before.length + middle.length) = middle := by
  have h := slice_append_right before (middle ++ after) 0 middle.length
  rw [Nat.add_zero, slice_append_left middle after le_rfl] at h
  rw [h, slice, drop_zero, Nat.sub_zero, take_length]

theorem slice_slice {first last : Nat} (h : start + last ≤ stop) :
    slice (slice data start stop) first last = slice data (start + first) (start + last) := by
  rw [slice, slice, slice, drop_take, drop_drop, take_take]
  congr 1
  omega

theorem take_slice {count : Nat} (h : start + count ≤ stop) :
    (slice data start stop).take count = slice data start (start + count) := by
  have hslice : slice (slice data start stop) 0 count = slice data start (start + count) :=
    slice_slice h
  rw [← hslice]
  rfl

theorem drop_slice (data : Bytes) (start stop count : Nat) :
    (slice data start stop).drop count = slice data (start + count) stop := by
  rw [slice, slice, drop_take, drop_drop, Nat.sub_sub]

end ByteFields
