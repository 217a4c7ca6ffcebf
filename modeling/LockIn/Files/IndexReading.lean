import LockIn.Files.ProbeLoops

/-!
# What is read from an index

The fields of an index are read at fixed places of the boxes they stand in.  The last movie header and
the last fragment duration count, and the first track that is a video.
-/

namespace LockIn.Files.MediaProbe

open ByteFields (Bytes slice bigEndian)

structure Field where
  start : Nat
  stop : Nat
deriving DecidableEq

def Field.value (data : Bytes) (field : Field) : Nat :=
  bigEndian (slice data field.start field.stop)

def Field.Inside (field : Field) (box : Box) : Prop :=
  box.start ≤ field.start ∧ field.stop ≤ box.stop

instance (field : Field) (box : Box) : Decidable (field.Inside box) :=
  inferInstanceAs (Decidable (_ ∧ _))

def Box.length (box : Box) : Nat := box.stop - box.start

/-- Whether the box at `start` is of version 1. -/
def isLong (data : Bytes) (start : Nat) : Bool := data[start]? = some 1

def timescaleField (data : Bytes) (start : Nat) : Field :=
  if isLong data start then ⟨start + 20, start + 24⟩ else ⟨start + 12, start + 16⟩

def movieDurationField (data : Bytes) (start : Nat) : Field :=
  if isLong data start then ⟨start + 24, start + 32⟩ else ⟨start + 16, start + 20⟩

def fragmentDurationField (data : Bytes) (start : Nat) : Field :=
  if isLong data start then ⟨start + 4, start + 12⟩ else ⟨start + 4, start + 8⟩

def handlerField (start : Nat) : Field := ⟨start + 8, start + 12⟩

inductive Finding where
  | header (box : Box)
  | fragments (box : Box)
  | video (track : Box)

def Finding.header? : Finding → Option Box
  | .header box => some box
  | _ => none

def Finding.fragments? : Finding → Option Box
  | .fragments box => some box
  | _ => none

def Finding.video? : Finding → Option Box
  | .video track => some track
  | _ => none

def fragmentFindings (sub : Box) : List Finding := if sub.kind = mehd then [.fragments sub] else []

def findings (data : Bytes) (box : Box) : List Finding :=
  if box.kind = mvhd then [.header box]
  else if box.kind = mvex then (boxes data box.start box.stop).items.flatMap fragmentFindings
  else if box.kind = trak then if trakIsVideo data box = .ok true then [.video box] else []
  else []

def allFindings (data : Bytes) : List Finding :=
  (boxes data 0 data.length).items.flatMap (findings data)

/-- What a finding states. -/
inductive Stated where
  | header (timescale duration : Nat)
  | fragments (duration : Nat)
  | video
deriving DecidableEq

def Stated.header? : Stated → Option (Nat × Nat)
  | .header timescale duration => some (timescale, duration)
  | _ => none

def Stated.fragments? : Stated → Option Nat
  | .fragments duration => some duration
  | _ => none

def Finding.stated (data : Bytes) : Finding → Stated
  | .header box =>
    .header ((timescaleField data box.start).value data)
      ((movieDurationField data box.start).value data)
  | .fragments box => .fragments ((fragmentDurationField data box.start).value data)
  | .video _ => .video

def recalled (seen : List Stated) : Mp4 where
  timescale := ((seen.filterMap Stated.header?).getLast?.map Prod.fst).getD 0
  duration := ((seen.filterMap Stated.header?).getLast?.map Prod.snd).getD 0
  fragmentDuration := (seen.filterMap Stated.fragments?).getLast?.getD 0
  hasVideo := .video ∈ seen

def found (data : Bytes) (seen : List Finding) : Mp4 := recalled (seen.map (Finding.stated data))

/-- A movie header and the fragments have their fields before the end of the index, and a track that is
looked at can be followed. -/
structure Readable (data : Bytes) (seen : List Finding) (box : Box) : Prop where
  header : box.kind = mvhd → (movieDurationField data box.start).stop ≤ data.length
  fragments : box.kind = mvex → (boxes data box.start box.stop).failure = none ∧
    ∀ sub ∈ (boxes data box.start box.stop).items, sub.kind = mehd →
      (fragmentDurationField data sub.start).stop ≤ data.length
  track : box.kind = trak → (∀ track, .video track ∉ seen) →
    ∃ answer, trakIsVideo data box = .ok answer

def Followable (data : Bytes) : Prop :=
  (boxes data 0 data.length).failure = none ∧
    ∀ before box after, (boxes data 0 data.length).items = before ++ box :: after →
      Readable data (before.flatMap (findings data)) box

section
variable {data : Bytes} {start : Nat} {seen : List Finding} {box : Box} {next : Mp4}

theorem byteAt_eq (h : start < data.length) :
    byteAt data start = .ok data[start].toNat := by
  rw [byteAt, List.getElem?_eq_getElem h]

theorem byteAt_one_iff (h : start < data.length) :
    data[start].toNat = 1 ↔ isLong data start = true := by
  rw [isLong, List.getElem?_eq_getElem h, decide_eq_true_eq, Option.some.injEq,
    ← UInt8.toNat_inj]
  rfl

variable {numbers : Nat × Nat}

theorem unpackPair_eq_ok {first second stop : Nat} (hstop : stop = start + first + second)
    (hpos : 0 < first + second) :
    unpackPair first second (slice data start stop) = .ok numbers ↔
      stop ≤ data.length ∧ numbers = (bigEndian (slice data start (start + first)),
        bigEndian (slice data (start + first) stop)) := by
  unfold unpackPair
  have hlength : (slice data start stop).length = first + second ↔ stop ≤ data.length := by
    rw [ByteFields.length_slice]
    omega
  simp only [hlength, ByteFields.take_slice (by omega : start + first ≤ stop), ByteFields.drop_slice]
  split_ifs with hinside
  · simp only [hinside, true_and, Except.ok.injEq, eq_comm]
  · simp [hinside]

theorem unpack_eq_ok {width stop value : Nat} (hstop : stop = start + width) (hpos : 0 < width) :
    unpack width (slice data start stop) = .ok value ↔
      stop ≤ data.length ∧ value = bigEndian (slice data start stop) := by
  unfold unpack
  have hlength : (slice data start stop).length = width ↔ stop ≤ data.length := by
    rw [ByteFields.length_slice]
    omega
  simp only [hlength]
  split_ifs with hinside
  · simp only [hinside, true_and, Except.ok.injEq, eq_comm]
  · simp [hinside]

theorem movieHeader_eq_ok : movieHeader data start = .ok numbers ↔
    (movieDurationField data start).stop ≤ data.length ∧
      numbers = ((timescaleField data start).value data,
        (movieDurationField data start).value data) := by
  unfold movieHeader movieDurationField timescaleField
  by_cases hstart : start < data.length
  · rw [byteAt_eq hstart, Outcome.ok_bind]
    by_cases hlong : isLong data start = true
    · rw [if_pos ((byteAt_one_iff hstart).2 hlong), if_pos hlong, if_pos hlong,
        unpackPair_eq_ok rfl (by omega)]
      exact Iff.rfl
    · rw [if_neg (fun h => hlong ((byteAt_one_iff hstart).1 h)), if_neg hlong, if_neg hlong,
        unpackPair_eq_ok rfl (by omega)]
      exact Iff.rfl
  · have hnone : data[start]? = none := List.getElem?_eq_none (by omega)
    rw [byteAt, hnone]
    constructor
    · intro h
      cases h
    · rintro ⟨h, -⟩
      split_ifs at h <;> simp only at h <;> omega

theorem fragmentHeader_eq_ok {duration : Nat} : fragmentHeader data start = .ok duration ↔
    (fragmentDurationField data start).stop ≤ data.length ∧
      duration = (fragmentDurationField data start).value data := by
  unfold fragmentHeader fragmentDurationField
  by_cases hstart : start < data.length
  · rw [byteAt_eq hstart, Outcome.ok_bind]
    by_cases hlong : isLong data start = true
    · simp only [if_pos ((byteAt_one_iff hstart).2 hlong), if_pos hlong]
      rw [unpack_eq_ok rfl (by omega)]
      exact Iff.rfl
    · simp only [if_neg (fun h => hlong ((byteAt_one_iff hstart).1 h)), if_neg hlong]
      rw [unpack_eq_ok rfl (by omega)]
      exact Iff.rfl
  · have hnone : data[start]? = none := List.getElem?_eq_none (by omega)
    rw [byteAt, hnone]
    constructor
    · intro h
      cases h
    · rintro ⟨h, -⟩
      split_ifs at h <;> simp only at h <;> omega

theorem map_eq_ok {α β : Type} {x : Probing α} {f : α → β} {b : β} :
    x.map f = .ok b ↔ ∃ a, x = .ok a ∧ f a = b := Outcome.map_eq_ok

theorem found_header : found data (seen ++ [.header box]) =
    { found data seen with
      timescale := (timescaleField data box.start).value data
      duration := (movieDurationField data box.start).value data } := by
  simp [found, recalled, Finding.stated, Stated.header?, Stated.fragments?]

theorem found_fragments : found data (seen ++ [.fragments box]) =
    { found data seen with
      fragmentDuration := (fragmentDurationField data box.start).value data } := by
  simp [found, recalled, Finding.stated, Stated.header?, Stated.fragments?]

theorem found_video : found data (seen ++ [.video box]) =
    { found data seen with hasVideo := true } := by
  simp [found, recalled, Finding.stated, Stated.header?, Stated.fragments?]

theorem found_hasVideo : (found data seen).hasVideo = true ↔ ∃ track, .video track ∈ seen := by
  simp only [found, recalled, decide_eq_true_eq, List.mem_map]
  constructor
  · rintro ⟨finding, hin, hvideo⟩
    cases finding with
    | header box => cases hvideo
    | fragments box => cases hvideo
    | video track => exact ⟨track, hin⟩
  · rintro ⟨track, hin⟩
    exact ⟨.video track, hin, rfl⟩

theorem fragmentsOf_eq_ok : fragmentsOf data box (found data seen) = .ok next ↔
    ((boxes data box.start box.stop).failure = none ∧
      ∀ sub ∈ (boxes data box.start box.stop).items, sub.kind = mehd →
        (fragmentDurationField data sub.start).stop ≤ data.length) ∧
      next = found data (seen ++ (boxes data box.start box.stop).items.flatMap fragmentFindings) := by
  have hstep : ∀ sub ∈ (boxes data box.start box.stop).items, ∀ seen next,
      (if sub.kind = mehd then (fragmentHeader data sub.start).map fun duration =>
        { found data seen with fragmentDuration := duration }
      else .ok (found data seen)) = .ok next ↔
        (sub.kind = mehd → (fragmentDurationField data sub.start).stop ≤ data.length) ∧
          next = found data (seen ++ fragmentFindings sub) := by
    intro sub _ seen next
    unfold fragmentFindings
    by_cases hmehd : sub.kind = mehd
    · rw [if_pos hmehd, if_pos hmehd, found_fragments, map_eq_ok]
      simp only [fragmentHeader_eq_ok, hmehd, true_implies]
      constructor
      · rintro ⟨duration, ⟨hstop, rfl⟩, rfl⟩
        exact ⟨hstop, rfl⟩
      · rintro ⟨hstop, rfl⟩
        exact ⟨_, ⟨hstop, rfl⟩, rfl⟩
    · rw [if_neg hmehd, if_neg hmehd, List.append_nil, Except.ok.injEq]
      exact ⟨fun h => ⟨fun heq => absurd heq hmehd, h.symm⟩, fun h => h.2.symm⟩
  exact Walk.forEach_eq_ok_describe hstep seen

theorem stepTrak_eq_ok :
    (if (found data seen).hasVideo then .ok (found data seen)
      else (trakIsVideo data box).map fun answer => { found data seen with hasVideo := answer }) =
        .ok next ↔
      ((∀ track, .video track ∉ seen) → ∃ answer, trakIsVideo data box = .ok answer) ∧
        next = found data (seen ++ if trakIsVideo data box = .ok true then [.video box] else []) := by
  by_cases hvideo : (found data seen).hasVideo = true
  · rw [if_pos hvideo]
    obtain ⟨track, htrack⟩ := found_hasVideo.1 hvideo
    have hsame : found data (seen ++ if trakIsVideo data box = .ok true then [.video box] else []) =
        found data seen := by
      split_ifs
      · rw [found_video, ← hvideo]
      · rw [List.append_nil]
    rw [hsame, Except.ok.injEq]
    exact ⟨fun h => ⟨fun hnone => absurd htrack (hnone track), h.symm⟩, fun h => h.2.symm⟩
  · have hnone : ∀ track, .video track ∉ seen := fun track hin =>
      hvideo (found_hasVideo.2 ⟨track, hin⟩)
    rw [if_neg hvideo, map_eq_ok]
    constructor
    · rintro ⟨answer, hanswer, rfl⟩
      refine ⟨fun _ => ⟨answer, hanswer⟩, ?_⟩
      rw [hanswer]
      cases answer with
      | true => rw [if_pos rfl, found_video]
      | false =>
        rw [if_neg (by decide), List.append_nil]
        rw [Bool.not_eq_true] at hvideo
        rw [← hvideo]
    · rintro ⟨hreadable, rfl⟩
      obtain ⟨answer, hanswer⟩ := hreadable hnone
      refine ⟨answer, hanswer, ?_⟩
      rw [hanswer]
      cases answer with
      | true => rw [if_pos rfl, found_video]
      | false =>
        rw [if_neg (by decide), List.append_nil]
        rw [Bool.not_eq_true] at hvideo
        rw [← hvideo]

theorem stepMp4_eq_ok : stepMp4 data (found data seen) box = .ok next ↔
    Readable data seen box ∧ next = found data (seen ++ findings data box) := by
  have hmvex : mvhd ≠ mvex := by decide
  have htrak : mvhd ≠ trak := by decide
  have hextends : mvex ≠ trak := by decide
  unfold stepMp4 findings
  by_cases hheader : box.kind = mvhd
  · have hreadable : Readable data seen box ↔
        (movieDurationField data box.start).stop ≤ data.length :=
      ⟨fun h => h.header hheader, fun h => ⟨fun _ => h, fun heq => absurd (hheader.symm.trans heq) hmvex,
        fun heq => absurd (hheader.symm.trans heq) htrak⟩⟩
    rw [if_pos hheader, if_pos hheader, hreadable, found_header, map_eq_ok]
    constructor
    · rintro ⟨numbers, hnumbers, rfl⟩
      obtain ⟨hstop, rfl⟩ := movieHeader_eq_ok.1 hnumbers
      exact ⟨hstop, rfl⟩
    · rintro ⟨hstop, rfl⟩
      exact ⟨_, movieHeader_eq_ok.2 ⟨hstop, rfl⟩, rfl⟩
  · rw [if_neg hheader, if_neg hheader]
    by_cases hfragments : box.kind = mvex
    · have hreadable : Readable data seen box ↔ (boxes data box.start box.stop).failure = none ∧
          ∀ sub ∈ (boxes data box.start box.stop).items, sub.kind = mehd →
            (fragmentDurationField data sub.start).stop ≤ data.length :=
        ⟨fun h => h.fragments hfragments, fun h => ⟨fun heq => absurd heq hheader, fun _ => h,
          fun heq => absurd (hfragments.symm.trans heq) hextends⟩⟩
      rw [if_pos hfragments, if_pos hfragments, hreadable, fragmentsOf_eq_ok]
    · rw [if_neg hfragments, if_neg hfragments]
      by_cases htrack : box.kind = trak
      · have hreadable : Readable data seen box ↔
            ((∀ track, .video track ∉ seen) → ∃ answer, trakIsVideo data box = .ok answer) :=
          ⟨fun h => h.track htrack, fun h => ⟨fun heq => absurd heq hheader,
            fun heq => absurd heq hfragments, fun _ => h⟩⟩
        rw [if_pos htrack, if_pos htrack, hreadable, stepTrak_eq_ok]
      · have hreadable : Readable data seen box :=
          ⟨fun heq => absurd heq hheader, fun heq => absurd heq hfragments,
            fun heq => absurd heq htrack⟩
        rw [if_neg htrack, if_neg htrack, List.append_nil, Except.ok.injEq]
        exact ⟨fun h => ⟨hreadable, h.symm⟩, fun h => h.2.symm⟩

theorem index_eq_ok : (boxes data 0 data.length).forEach (stepMp4 data) ⟨0, 0, 0, false⟩ = .ok next ↔
    Followable data ∧ next = found data (allFindings data) := by
  have hstep : ∀ box ∈ (boxes data 0 data.length).items, ∀ seen next,
      stepMp4 data (found data seen) box = .ok next ↔
        Readable data seen box ∧ next = found data (seen ++ findings data box) :=
    fun _ _ _ _ => stepMp4_eq_ok
  have hnil : found data [] = ⟨0, 0, 0, false⟩ := rfl
  rw [← hnil, Walk.forEach_eq_ok_seen hstep []]
  simp only [List.nil_append]
  exact Iff.rfl

/-- An index is accepted where it can be followed and states a video track, a timescale and a length,
and then these give the result. -/
theorem probeMoov_eq_ok {probe : VideoProbe} : probeMoov data = .ok probe ↔
    Followable data ∧ (found data (allFindings data)).hasVideo = true ∧
      (found data (allFindings data)).timescale ≠ 0 ∧ (found data (allFindings data)).length ≠ 0 ∧
      probe = ⟨milliseconds (found data (allFindings data)).length
        (found data (allFindings data)).timescale⟩ := by
  rw [probeMoov, Outcome.bind_eq_ok]
  simp only [index_eq_ok]
  constructor
  · rintro ⟨state, ⟨hfollowable, rfl⟩, h⟩
    unfold Mp4.result at h
    split_ifs at h with hvideo hzero
    cases h
    rw [not_or] at hzero
    rw [Bool.not_eq_true', Bool.not_eq_false] at hvideo
    exact ⟨hfollowable, hvideo, hzero.1, hzero.2, rfl⟩
  · rintro ⟨hfollowable, hvideo, htimescale, hlength, rfl⟩
    refine ⟨_, ⟨hfollowable, rfl⟩, ?_⟩
    unfold Mp4.result
    rw [hvideo, if_neg (by decide), if_neg (not_or.2 ⟨htimescale, hlength⟩)]

end

end LockIn.Files.MediaProbe
