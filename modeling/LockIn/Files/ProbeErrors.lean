import LockIn.Files.MediaProbe

/-!
# What a probe raises

Everything a probe raises is the error of the module or is translated into it, but for two things in
a WebM: a file that has no first element, and a length that is not a number.
-/

namespace LockIn.Files.MediaProbe

open ByteFields (Bytes slice bigEndian)

def Raised.Known (reason : Raised) : Prop := reason ≠ .stopIteration ∧ reason ≠ .valueError

section
variable {data : Bytes} {start stop offset rounds : Nat} {stream : Stream} {size : Nat}

theorem known_probe (message : String) : Raised.Known (.probe message) :=
  ⟨Raised.noConfusion, Raised.noConfusion⟩

theorem known_struct : Raised.Known .structError := by
  constructor <;> decide

theorem known_index : Raised.Known .indexError := by
  constructor <;> decide

theorem known_overflow : Raised.Known .overflowError := by
  constructor <;> decide

theorem byteAt_known : RaisesOnly Raised.Known (byteAt data offset) := by
  unfold byteAt
  cases data[offset]? with
  | some byte => exact .ok _
  | none => exact .error known_index

variable {field : Bytes} {reason : Raised} {box : Box} {state : WebM} {child : Element}
  {value : Value} {scale : Nat}

theorem unpack_known {width : Nat} : RaisesOnly Raised.Known (unpack width field) := by
  unfold unpack
  split_ifs
  · exact .ok _
  · exact .error known_struct

theorem unpackPair_known {first second : Nat} :
    RaisesOnly Raised.Known (unpackPair first second field) := by
  unfold unpackPair
  split_ifs
  · exact .ok _
  · exact .error known_struct

theorem boxHeader_known {head large : Bytes} {left : Nat} :
    RaisesOnly Raised.Known (boxHeader head large left) := by
  unfold boxHeader
  simp only
  split_ifs
  · exact .error known_struct
  · exact unpack_known.map
  · exact .ok _
  · exact .ok _

theorem boxesFrom_known (h : (boxesFrom data stop rounds offset).failure = some reason) :
    reason.Known := by
  induction rounds generalizing offset with
  | zero => cases h
  | succ rounds ih =>
    rw [boxesFrom] at h
    split_ifs at h with hroom
    cases hheader : boxHeader (slice data offset (offset + 8)) (slice data (offset + 8) (offset + 16))
        (stop - offset) with
    | error other =>
      rw [hheader] at h
      cases h
      exact boxHeader_known _ hheader
    | ok header =>
      rw [hheader] at h
      simp only at h
      split_ifs at h
      · cases h
        exact known_probe _
      · exact ih h

theorem boxes_known (reason : Raised) (h : (boxes data start stop).failure = some reason) :
    reason.Known := boxesFrom_known h

theorem movieHeader_known : RaisesOnly Raised.Known (movieHeader data start) := by
  refine byteAt_known.bind fun version _ => ?_
  split_ifs
  · exact unpackPair_known
  · exact unpackPair_known

theorem fragmentHeader_known : RaisesOnly Raised.Known (fragmentHeader data start) :=
  byteAt_known.bind fun _ _ => unpack_known

theorem trakIsVideo_known : RaisesOnly Raised.Known (trakIsVideo data box) := by
  refine .any boxes_known fun media _ => ?_
  split_ifs
  · exact .any boxes_known fun _ _ => .ok _
  · exact .ok _

theorem stepMp4_known {state : Mp4} : RaisesOnly Raised.Known (stepMp4 data state box) := by
  unfold stepMp4
  split_ifs
  · exact movieHeader_known.map
  · refine .forEach boxes_known fun before sub _ => ?_
    split_ifs
    · exact fragmentHeader_known.map
    · exact .ok _
  · exact .ok _
  · exact trakIsVideo_known.map
  · exact .ok _

theorem mp4_result_known {state : Mp4} : RaisesOnly Raised.Known state.result := by
  unfold Mp4.result
  split_ifs
  · exact .error (known_probe _)
  · exact .error (known_probe _)
  · exact .ok _

theorem probeMoov_known : RaisesOnly Raised.Known (probeMoov data) :=
  (RaisesOnly.forEach boxes_known fun _ _ _ => stepMp4_known).bind fun _ _ => mp4_result_known

theorem topLevelFrom_known : RaisesOnly Raised.Known (topLevelFrom size rounds offset stream).2 := by
  induction rounds generalizing offset stream with
  | zero => exact .error (known_probe _)
  | succ rounds ih =>
    rw [topLevelFrom]
    split_ifs
    · simp only
      cases hheader : boxHeader (((stream.seek offset).read 16).2.take 8)
          (slice ((stream.seek offset).read 16).2 8 16) (size - offset) with
      | error reason => exact .error (boxHeader_known reason hheader)
      | ok header =>
        simp only
        split_ifs
        · exact .error (known_probe _)
        · exact .error (known_probe _)
        · exact .ok _
        · exact ih
    · exact .error (known_probe _)

theorem probeMp4_known : RaisesOnly Raised.Known (probeMp4 stream size).2 :=
  topLevelFrom_known.bind fun _ _ => probeMoov_known

theorem vintBytes_known {indices : List Nat} {value : Nat} {allOnes : Bool} :
    RaisesOnly Raised.Known (vintBytes data offset indices value allOnes) := by
  induction indices generalizing value allOnes with
  | nil => exact .ok _
  | cons index rest ih => exact byteAt_known.bind fun _ _ => ih

theorem vint_known {keepMarker : Bool} : RaisesOnly Raised.Known (vint data offset keepMarker) := by
  refine byteAt_known.bind fun first _ => ?_
  simp only
  by_cases hlong : 8 < (vintLength first 8 1 0x80).1
  · rw [if_pos hlong]
    exact .error (known_probe _)
  · rw [if_neg hlong]
    exact vintBytes_known.bind fun _ _ => .ok _

theorem elementHeader_known : RaisesOnly Raised.Known (elementHeader data offset) :=
  vint_known.bind fun _ _ => vint_known.bind fun _ _ => .ok _

theorem elementsFrom_known (h : (elementsFrom data stop rounds offset).failure = some reason) :
    reason.Known := by
  induction rounds generalizing offset with
  | zero => cases h
  | succ rounds ih =>
    rw [elementsFrom] at h
    split_ifs at h
    cases hheader : elementHeader data offset with
    | error other =>
      rw [hheader] at h
      cases h
      exact elementHeader_known _ hheader
    | ok header =>
      obtain ⟨id, size, start⟩ := header
      rw [hheader] at h
      cases size with
      | none => cases h
      | some size => exact ih h

theorem elements_known (reason : Raised) (h : (elements data start stop).failure = some reason) :
    reason.Known := elementsFrom_known h

/-- A walk that yields nothing and does not fail is over nothing. -/
theorem nil_of_no_elements (hitems : (elements data 0 data.length).items = [])
    (hfailure : (elements data 0 data.length).failure = none) : data = [] := by
  by_contra hne
  obtain ⟨count, hcount⟩ := Nat.exists_eq_succ_of_ne_zero
    (fun hzero => hne (List.length_eq_zero_iff.1 hzero))
  rw [elements, Nat.sub_zero, hcount, elementsFrom, if_pos (Nat.succ_pos count)] at hitems hfailure
  cases hheader : elementHeader data 0 with
  | error reason =>
    rw [hheader] at hfailure
    cases hfailure
  | ok header =>
    obtain ⟨id, size, start⟩ := header
    rw [hheader] at hitems
    cases size with
    | none => cases hitems
    | some size => cases hitems

theorem findSegment_raises (h : findSegment data = .error reason) :
    reason.Known ∨ reason = .stopIteration ∧ data = [] := by
  unfold findSegment at h
  simp only at h
  cases hhead : (elements data 0 data.length).items.head? with
  | none =>
    rw [hhead] at h
    cases hfailure : (elements data 0 data.length).failure with
    | none =>
      rw [Walk.finish_eq_ok.2 ⟨hfailure, rfl⟩] at h
      cases h
      exact .inr ⟨rfl, nil_of_no_elements (List.head?_eq_none_iff.1 hhead) hfailure⟩
    | some other =>
      unfold Walk.finish at h
      rw [hfailure] at h
      cases h
      exact .inl (elements_known _ hfailure)
  | some header =>
    rw [hhead] at h
    refine .inl ((?_ : RaisesOnly Raised.Known _) reason h)
    simp only
    split_ifs
    · exact .error (known_probe _)
    · refine (RaisesOnly.first elements_known).bind fun docType _ => ?_
      by_cases hdoc : stripZeros (docType.getD []) ∉ docTypes
      · rw [if_pos hdoc]
        exact .error (known_probe _)
      · rw [if_neg hdoc]
        have hrest (reason : Raised)
            (h : (elements data 0 data.length).rest.failure = some reason) : reason.Known :=
          elements_known reason h
        refine (RaisesOnly.first hrest).bind fun segment _ => ?_
        cases segment with
        | none => exact .error (known_probe _)
        | some segment => exact .ok _

theorem durationField_known : RaisesOnly Raised.Known (durationField data child state) := by
  unfold durationField
  simp only
  split_ifs
  · exact unpack_known.map
  · exact unpack_known.map
  · exact .ok _

theorem stepInfo_known : RaisesOnly Raised.Known (stepInfo data state child) := by
  unfold stepInfo
  split_ifs
  · exact .ok _
  · exact .ok _
  · exact durationField_known
  · exact .ok _

theorem stepTracks_known {entry : Element} :
    RaisesOnly Raised.Known (stepTracks data state entry) := by
  unfold stepTracks
  split_ifs
  · exact .ok _
  · exact .forEach elements_known fun _ _ _ => .ok _

theorem stepSegment_known {element : Element} :
    RaisesOnly Raised.Known (stepSegment data state element) := by
  unfold stepSegment
  split_ifs
  · exact .forEach elements_known fun _ _ _ => stepInfo_known
  · exact .forEach elements_known fun _ _ _ => stepTracks_known
  · exact .ok _

theorem segmentParts_known {segment : Element} (reason : Raised)
    (h : (segmentParts data segment).failure = some reason) : reason.Known := by
  unfold segmentParts Walk.upTo at h
  split_ifs at h
  exact elements_known reason h

theorem floatOf_known {value : Nat} : RaisesOnly Raised.Known (floatOf value) := by
  unfold floatOf
  split
  · exact .ok _
  · exact .error known_overflow

theorem toDouble_ne_nan (value : ℚ) : toDouble value ≠ .nan := by
  unfold toDouble
  simp only
  split_ifs
  · exact Value.noConfusion
  · exact Value.noConfusion

theorem times_ne_nan (h : value ≠ .nan) (factor : ℚ) : value.times factor ≠ .nan := by
  cases value with
  | nan => exact absurd rfl h
  | infinite negative => exact Value.noConfusion
  | finite rational => exact toDouble_ne_nan _

theorem overMillion_ne_nan (h : value ≠ .nan) : value.overMillion ≠ .nan := by
  cases value with
  | nan => exact absurd rfl h
  | infinite negative => exact Value.noConfusion
  | finite rational => exact toDouble_ne_nan _

theorem round_known (h : value ≠ .nan) : RaisesOnly Raised.Known value.round := by
  cases value with
  | nan => exact absurd rfl h
  | infinite negative => exact .error known_overflow
  | finite rational => exact .ok _

/-- A length that is a number is rounded, or is too large. -/
theorem scaled_known {duration : Value} (h : duration ≠ .nan) :
    RaisesOnly Raised.Known (scaled duration scale) :=
  floatOf_known.bind fun factor _ =>
    (round_known (overMillion_ne_nan (times_ne_nan h factor))).bind fun _ _ => .ok _

/-- What is not a number cannot be rounded. -/
theorem scaled_nan {factor : ℚ} (h : floatOf scale = .ok factor) :
    scaled .nan scale = .error .valueError := by
  rw [scaled, h]
  rfl

end

end LockIn.Files.MediaProbe
