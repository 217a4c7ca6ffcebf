import LockIn.Files.MediaProbe

/-!
# The loops of a probe

Every round of a loop moves forward, so that as many rounds as there are bytes left are enough, and
more change nothing.  What the loops yield lies inside the part they read.
-/

namespace LockIn.Files.MediaProbe

open ByteFields (Bytes slice bigEndian)
open List
open Outcome

section
variable {data : Bytes} {start stop offset rounds size : Nat} {stream : Stream}

variable {kind : Bytes} {width behind : Nat}

theorem boxHeader_width {head large : Bytes} {left : Nat}
    (h : boxHeader head large left = .ok (kind, width, size)) : 8 ≤ width := by
  unfold boxHeader at h
  simp only at h
  split_ifs at h
  · obtain ⟨wide, -, hwide⟩ := map_eq_ok.1 h
    cases hwide
    omega
  · cases h
    omega
  · cases h
    omega

theorem boxesFrom_done (h : ¬offset + 8 ≤ stop) : boxesFrom data stop rounds offset = ⟨[], none⟩ := by
  cases rounds with
  | zero => rfl
  | succ rounds => rw [boxesFrom, if_neg h]

/-- Each box has a header of eight bytes at least, and the walk goes on behind it. -/
theorem boxesFrom_suffices (h : stop - offset ≤ rounds) :
    boxesFrom data stop rounds offset = boxes data offset stop := by
  induction rounds using Nat.strong_induction_on generalizing offset with
  | _ rounds ih =>
    rw [boxes]
    by_cases hroom : offset + 8 ≤ stop
    · obtain ⟨more, rfl⟩ := Nat.exists_eq_succ_of_ne_zero (by omega : rounds ≠ 0)
      obtain ⟨least, hleast⟩ := Nat.exists_eq_succ_of_ne_zero (by omega : stop - offset ≠ 0)
      rw [hleast, boxesFrom, boxesFrom, if_pos hroom, if_pos hroom]
      cases hheader : boxHeader (slice data offset (offset + 8))
          (slice data (offset + 8) (offset + 16)) (stop - offset) with
      | error reason => rfl
      | ok header =>
        obtain ⟨kind, width, size⟩ := header
        have hwidth := boxHeader_width hheader
        simp only
        by_cases hbad : size < width ∨ stop < offset + size
        · rw [if_pos hbad, if_pos hbad]
        · rw [if_neg hbad, if_neg hbad]
          have hmore : boxesFrom data stop more (offset + size) = boxes data (offset + size) stop :=
            ih more (by omega) (by omega)
          have hless : boxesFrom data stop least (offset + size) = boxes data (offset + size) stop :=
            ih least (by omega) (by omega)
          rw [hmore, hless]
    · rw [boxesFrom_done hroom, boxesFrom_done hroom]

theorem boxes_done (h : ¬start + 8 ≤ stop) : boxes data start stop = ⟨[], none⟩ := boxesFrom_done h

theorem boxes_next (hroom : start + 8 ≤ stop)
    (hheader : boxHeader (slice data start (start + 8)) (slice data (start + 8) (start + 16))
      (stop - start) = .ok (kind, width, size)) (hsize : width ≤ size)
    (hstop : start + size ≤ stop) :
    boxes data start stop =
      ⟨⟨kind, start + width, start + size⟩ :: (boxes data (start + size) stop).items,
        (boxes data (start + size) stop).failure⟩ := by
  have hwidth := boxHeader_width hheader
  obtain ⟨least, hleast⟩ := Nat.exists_eq_succ_of_ne_zero (by omega : stop - start ≠ 0)
  rw [boxes, hleast, boxesFrom, if_pos hroom, hheader]
  simp only
  rw [if_neg (by omega), boxesFrom_suffices (by omega)]

theorem topLevelFrom_done (h : ¬offset + 8 ≤ size) :
    topLevelFrom size rounds offset stream = (stream, .error (.probe noIndexMessage)) := by
  cases rounds with
  | zero => rfl
  | succ rounds => rw [topLevelFrom, if_neg h]

theorem topLevelFrom_suffices (h : size - offset ≤ rounds) :
    topLevelFrom size rounds offset stream = topLevelFrom size (size - offset) offset stream := by
  induction rounds using Nat.strong_induction_on generalizing offset stream with
  | _ rounds ih =>
    by_cases hroom : offset + 8 ≤ size
    · obtain ⟨more, rfl⟩ := Nat.exists_eq_succ_of_ne_zero (by omega : rounds ≠ 0)
      obtain ⟨least, hleast⟩ := Nat.exists_eq_succ_of_ne_zero (by omega : size - offset ≠ 0)
      rw [hleast, topLevelFrom, topLevelFrom, if_pos hroom, if_pos hroom]
      simp only
      cases hheader : boxHeader (((stream.seek offset).read 16).2.take 8)
          (slice ((stream.seek offset).read 16).2 8 16) (size - offset) with
      | error reason => rfl
      | ok header =>
        obtain ⟨kind, width, boxSize⟩ := header
        have hwidth := boxHeader_width hheader
        simp only
        by_cases hbad : boxSize < width ∨ size < offset + boxSize
        · rw [if_pos hbad, if_pos hbad]
        · rw [if_neg hbad, if_neg hbad]
          by_cases hmoov : kind = moov
          · rw [if_pos hmoov, if_pos hmoov]
          · rw [if_neg hmoov, if_neg hmoov, ih more (by omega) (by omega),
              ih least (by omega) (by omega)]
    · rw [topLevelFrom_done hroom, topLevelFrom_done hroom]

theorem vintLength_suffices (first more : Nat) :
    vintLength first (8 + more) 1 0x80 = vintLength first 8 1 0x80 := by
  have hlong (more mask : Nat) : vintLength first more 9 mask = (9, mask) := by
    cases more with
    | zero => rfl
    | succ more => rw [vintLength, if_neg (by omega)]
  have hround (rounds length mask : Nat) (hlength : length + rounds = 9) :
      vintLength first (rounds + more) length mask = vintLength first rounds length mask := by
    induction rounds generalizing length mask with
    | zero =>
      obtain rfl : length = 9 := by omega
      rw [hlong, hlong]
    | succ rounds ih =>
      rw [Nat.succ_add, vintLength, vintLength, ih (length + 1) (mask >>> 1) (by omega)]
  exact hround 8 1 0x80 rfl

theorem one_le_vintLength (first rounds length mask : Nat) :
    length ≤ (vintLength first rounds length mask).1 := by
  induction rounds generalizing length mask with
  | zero => exact le_rfl
  | succ rounds ih =>
    rw [vintLength]
    split_ifs
    · exact (Nat.le_succ length).trans (ih _ _)
    · exact le_rfl

/-- A number takes one byte at least. -/
theorem vint_forward {keepMarker : Bool} {value : Option Nat}
    (h : vint data offset keepMarker = .ok (value, behind)) : offset < behind := by
  obtain ⟨first, -, h⟩ := bind_eq_ok.1 h
  simp only at h
  have hlength := one_le_vintLength first 8 1 0x80
  obtain ⟨hlong, h⟩ := unless_ok.1 h
  obtain ⟨read, -, h⟩ := bind_eq_ok.1 h
  cases h
  omega

theorem elementHeader_forward {id : Nat} {size : Option Nat}
    (h : elementHeader data offset = .ok (id, size, behind)) : offset < behind := by
  obtain ⟨first, hfirst, h⟩ := bind_eq_ok.1 h
  obtain ⟨second, hsecond, h⟩ := bind_eq_ok.1 h
  have hidForward := vint_forward hfirst
  have hsizeForward := vint_forward hsecond
  cases h
  exact hidForward.trans hsizeForward

theorem elementsFrom_done (h : ¬offset < stop) :
    elementsFrom data stop rounds offset = ⟨[], none⟩ := by
  cases rounds with
  | zero => rfl
  | succ rounds => rw [elementsFrom, if_neg h]

theorem elementsFrom_suffices (h : stop - offset ≤ rounds) :
    elementsFrom data stop rounds offset = elements data offset stop := by
  induction rounds using Nat.strong_induction_on generalizing offset with
  | _ rounds ih =>
    rw [elements]
    by_cases hroom : offset < stop
    · obtain ⟨more, rfl⟩ := Nat.exists_eq_succ_of_ne_zero (by omega : rounds ≠ 0)
      obtain ⟨least, hleast⟩ := Nat.exists_eq_succ_of_ne_zero (by omega : stop - offset ≠ 0)
      rw [hleast, elementsFrom, elementsFrom, if_pos hroom, if_pos hroom]
      cases hheader : elementHeader data offset with
      | error reason => rfl
      | ok header =>
        obtain ⟨id, size, behind⟩ := header
        have hforward := elementHeader_forward hheader
        cases size with
        | none => rfl
        | some size =>
          simp only
          have hmore : elementsFrom data stop more (behind + size) =
              elements data (behind + size) stop := ih more (by omega) (by omega)
          have hless : elementsFrom data stop least (behind + size) =
              elements data (behind + size) stop := ih least (by omega) (by omega)
          rw [hmore, hless]
    · rw [elementsFrom_done hroom, elementsFrom_done hroom]

theorem elementsFrom_stop {element : Element}
    (h : element ∈ (elementsFrom data stop rounds offset).items) : element.stop ≤ stop := by
  induction rounds generalizing offset with
  | zero => exact absurd h not_mem_nil
  | succ rounds ih =>
    rw [elementsFrom] at h
    split_ifs at h
    · cases hheader : elementHeader data offset with
      | error reason =>
        rw [hheader] at h
        exact absurd h not_mem_nil
      | ok header =>
        obtain ⟨id, size, behind⟩ := header
        rw [hheader] at h
        cases size with
        | none =>
          obtain rfl := mem_singleton.1 h
          exact le_rfl
        | some size =>
          rcases mem_cons.1 h with rfl | hlater
          · exact min_le_right _ _
          · exact ih hlater
    · exact absurd h not_mem_nil

theorem childrenOf_stop {parent child : Element} (h : child ∈ (childrenOf data parent).items) :
    child.stop ≤ parent.stop := elementsFrom_stop h

structure LoopsEnd (data : Bytes) : Prop where
  boxes (start stop rounds : Nat) (h : stop - start ≤ rounds) :
    boxesFrom data stop rounds start = boxesFrom data stop (stop - start) start
  topLevel (rounds position : Nat) (h : data.length ≤ rounds) :
    topLevelFrom data.length rounds 0 ⟨data, position⟩ =
      topLevelFrom data.length data.length 0 ⟨data, position⟩
  elements (start stop rounds : Nat) (h : stop - start ≤ rounds) :
    elementsFrom data stop rounds start = elementsFrom data stop (stop - start) start
  numbers (first more : Nat) : vintLength first (8 + more) 1 0x80 = vintLength first 8 1 0x80

theorem loopsEnd (data : Bytes) : LoopsEnd data where
  boxes _ _ _ h := boxesFrom_suffices h
  topLevel _ _ h := topLevelFrom_suffices h
  elements _ _ _ h := elementsFrom_suffices h
  numbers := vintLength_suffices

end

end LockIn.Files.MediaProbe
