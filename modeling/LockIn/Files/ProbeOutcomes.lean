import LockIn.Files.ProbeErrors
import LockIn.Files.ProbeLoops

/-!
# How a probe ends

A probe leaves the file at its beginning, and reports what it cannot follow by the error of the
module.  It does not for an empty WebM, and for a WebM that states a length that is not a number.
-/

namespace LockIn.Files.MediaProbe

open ByteFields (Bytes slice bigEndian)
open List
open Outcome

inductive Fact where
  | scale (value : Nat)
  | duration (value : Value)
  | video
deriving DecidableEq

def Fact.scale? : Fact → Option Nat
  | .scale value => some value
  | _ => none

def Fact.duration? : Fact → Option Value
  | .duration value => some value
  | _ => none

def infoFacts (data : Bytes) (child : Element) : List Fact :=
  if child.id = timecodeScaleId then
    if uint data child ≠ 0 then [.scale (uint data child)] else []
  else if child.id = durationId then
    if child.stop - child.start = 4 then
      [.duration (decode 8 23 (bigEndian (slice data child.start child.stop)))]
    else if child.stop - child.start = 8 then
      [.duration (decode 11 52 (bigEndian (slice data child.start child.stop)))]
    else []
  else []

def fieldFacts (data : Bytes) (field : Element) : List Fact :=
  if field.id = trackTypeId ∧ uint data field = 1 then [.video] else []

def entryFacts (data : Bytes) (entry : Element) : List Fact :=
  if entry.id = trackEntryId then (childrenOf data entry).items.flatMap (fieldFacts data) else []

def partFacts (data : Bytes) (part : Element) : List Fact :=
  if part.id = infoId then (childrenOf data part).items.flatMap (infoFacts data)
  else if part.id = tracksId then (childrenOf data part).items.flatMap (entryFacts data)
  else []

/-- All that is stated before the first cluster. -/
def facts (data : Bytes) (segment : Element) : List Fact :=
  (segmentParts data segment).items.flatMap (partFacts data)

def described (seen : List Fact) : WebM where
  scale := (seen.filterMap Fact.scale?).getLast?.getD 1000000
  duration := (seen.filterMap Fact.duration?).getLast?
  hasVideo := .video ∈ seen

def EntryFollowed (data : Bytes) (entry : Element) : Prop :=
  entry.id = trackEntryId → (childrenOf data entry).failure = none

def PartFollowed (data : Bytes) (part : Element) : Prop :=
  (part.id = infoId ∨ part.id = tracksId → (childrenOf data part).failure = none) ∧
    (part.id = tracksId → ∀ entry ∈ (childrenOf data part).items, EntryFollowed data entry)

/-- Nothing that is read up to the first cluster is damaged. -/
def Followed (data : Bytes) (segment : Element) : Prop :=
  (segmentParts data segment).failure = none ∧
    ∀ part ∈ (segmentParts data segment).items, PartFollowed data part

def Opened (data : Bytes) (segment : Element) : Prop :=
  ∃ header docType,
    (elements data 0 data.length).items.head? = some header ∧ header.id = ebmlId ∧
      header.stop - header.start ≤ maxEbmlHeaderBytes ∧
      (childrenOf data header).items.find? (·.id = docTypeId) = some docType ∧
      stripZeros (slice data docType.start docType.stop) ∈ docTypes ∧
      (elements data 0 data.length).items.tail.find? (·.id = segmentId) = some segment

def StatesNan (data : Bytes) (segment : Element) : Prop :=
  Opened data segment ∧ Followed data segment ∧ .video ∈ facts data segment ∧
    (described (facts data segment)).duration = some .nan ∧
      ∃ factor, floatOf (described (facts data segment)).scale = .ok factor

section
variable {data : Bytes} {segment : Element} {seen : List Fact} {reason : Raised}

theorem described_scale (value : Nat) :
    described (seen ++ [.scale value]) = { described seen with scale := value } := by
  simp [described, Fact.scale?, Fact.duration?]

theorem described_duration (value : Value) :
    described (seen ++ [.duration value]) = { described seen with duration := some value } := by
  simp [described, Fact.scale?, Fact.duration?]

theorem described_video :
    described (seen ++ [.video]) = { described seen with hasVideo := true } := by
  simp [described, Fact.scale?, Fact.duration?]

variable {child : Element} {next state : WebM}

theorem durationField_eq (hstop : child.stop ≤ data.length) (hid : child.id = durationId) :
    durationField data child (described seen) = .ok (described (seen ++ infoFacts data child)) := by
  have hlength : (slice data child.start child.stop).length = child.stop - child.start :=
    ByteFields.length_slice_eq hstop
  have hscale : child.id ≠ timecodeScaleId := by
    rw [hid]
    decide
  rw [durationField, infoFacts, if_neg hscale, if_pos hid]
  by_cases hfour : child.stop - child.start = 4
  · simp only [if_pos hfour, unpack, hlength, Except.map, described_duration]
  · rw [if_neg hfour, if_neg hfour]
    by_cases height : child.stop - child.start = 8
    · simp only [if_pos height, unpack, hlength, Except.map, described_duration]
    · rw [if_neg height, if_neg height, append_nil]

theorem stepInfo_eq (hstop : child.stop ≤ data.length) :
    stepInfo data (described seen) child = .ok (described (seen ++ infoFacts data child)) := by
  unfold stepInfo
  by_cases hscale : child.id = timecodeScaleId
  · rw [if_pos hscale, infoFacts, if_pos hscale]
    by_cases hzero : uint data child ≠ 0
    · rw [if_pos hzero, if_pos hzero, described_scale]
    · rw [if_neg hzero, if_neg hzero, append_nil]
  · rw [if_neg hscale]
    by_cases hduration : child.id = durationId
    · rw [if_pos hduration]
      exact durationField_eq hstop hduration
    · rw [if_neg hduration, infoFacts, if_neg hscale, if_neg hduration, append_nil]

theorem stepField_eq {field : Element} :
    stepField data (described seen) field = .ok (described (seen ++ fieldFacts data field)) := by
  unfold stepField fieldFacts
  by_cases hvideo : field.id = trackTypeId ∧ uint data field = 1
  · rw [if_pos hvideo, if_pos hvideo, described_video]
  · rw [if_neg hvideo, if_neg hvideo, append_nil]

theorem stepTracks_eq_ok {entry : Element} :
    stepTracks data (described seen) entry = .ok next ↔
      EntryFollowed data entry ∧ next = described (seen ++ entryFacts data entry) := by
  have hstep : ∀ field ∈ (childrenOf data entry).items, ∀ seen next,
      stepField data (described seen) field = .ok next ↔
        True ∧ next = described (seen ++ fieldFacts data field) := by
    intro field _ seen next
    rw [stepField_eq, true_and, Except.ok.injEq, eq_comm]
  unfold stepTracks EntryFollowed entryFacts
  by_cases hentry : entry.id = trackEntryId
  · rw [if_neg (not_not.2 hentry), if_pos hentry, Walk.forEach_eq_ok_describe hstep]
    simp only [hentry, true_implies, implies_true, and_true]
  · rw [if_pos hentry, if_neg hentry, append_nil, Except.ok.injEq]
    exact ⟨fun h => ⟨fun heq => absurd heq hentry, h.symm⟩, fun h => h.2.symm⟩

theorem stepSegment_eq_ok {part : Element} (hstop : part.stop ≤ data.length) :
    stepSegment data (described seen) part = .ok next ↔
      PartFollowed data part ∧ next = described (seen ++ partFacts data part) := by
  have hinfo : ∀ child ∈ (childrenOf data part).items, ∀ seen next,
      stepInfo data (described seen) child = .ok next ↔
        True ∧ next = described (seen ++ infoFacts data child) := by
    intro child hchild seen next
    rw [stepInfo_eq ((childrenOf_stop hchild).trans hstop), true_and, Except.ok.injEq, eq_comm]
  have htracks : ∀ entry ∈ (childrenOf data part).items, ∀ seen next,
      stepTracks data (described seen) entry = .ok next ↔
        EntryFollowed data entry ∧ next = described (seen ++ entryFacts data entry) :=
    fun _ _ _ _ => stepTracks_eq_ok
  have hdistinct : infoId ≠ tracksId := by decide
  unfold stepSegment PartFollowed partFacts
  by_cases hpart : part.id = infoId
  · rw [if_pos hpart, if_pos hpart, Walk.forEach_eq_ok_describe hinfo, hpart]
    simp only [hdistinct, true_or, true_implies, implies_true, and_true, false_implies]
  · rw [if_neg hpart, if_neg hpart]
    by_cases htrack : part.id = tracksId
    · rw [if_pos htrack, if_pos htrack, Walk.forEach_eq_ok_describe htracks]
      simp only [htrack, or_true, true_implies]
    · rw [if_neg htrack, if_neg htrack, append_nil, Except.ok.injEq]
      simp only [hpart, htrack, or_self, false_implies, and_self, true_and, eq_comm]

theorem described_nil : described [] = ⟨1000000, none, false⟩ := rfl

theorem segment_eq_ok (hstop : segment.stop ≤ data.length) :
    (segmentParts data segment).forEach (stepSegment data) ⟨1000000, none, false⟩ = .ok state ↔
      Followed data segment ∧ state = described (facts data segment) := by
  have hparts : ∀ part ∈ (segmentParts data segment).items, ∀ seen next,
      stepSegment data (described seen) part = .ok next ↔
        PartFollowed data part ∧ next = described (seen ++ partFacts data part) := by
    intro part hpart seen next
    have hinside : part.stop ≤ segment.stop :=
      childrenOf_stop (takeWhile_subset _ hpart)
    exact stepSegment_eq_ok (hinside.trans hstop)
  rw [← described_nil, Walk.forEach_eq_ok_describe hparts, nil_append]
  exact Iff.rfl

/-- Rounding fails in another way only for a length that is not a number. -/
theorem result_unknown (h : state.result = .error reason) (hunknown : ¬reason.Known) :
    state.hasVideo = true ∧ state.duration = some .nan ∧ reason = .valueError ∧
      ∃ factor, floatOf state.scale = .ok factor := by
  unfold WebM.result at h
  cases hvideo : state.hasVideo with
  | false =>
    rw [hvideo] at h
    cases h
    exact absurd (known_probe _) hunknown
  | true =>
    rw [hvideo] at h
    cases hduration : state.duration with
    | none =>
      rw [hduration] at h
      cases h
      exact absurd (known_probe _) hunknown
    | some duration =>
      rw [hduration] at h
      simp only [Bool.not_true, Bool.false_eq_true, if_false] at h
      split_ifs at h
      · by_cases hnan : duration = .nan
        · subst hnan
          cases hscale : floatOf state.scale with
          | error other =>
            rw [scaled, hscale] at h
            cases h
            exact absurd (floatOf_known _ hscale) hunknown
          | ok factor =>
            rw [scaled_nan hscale] at h
            cases h
            exact ⟨rfl, rfl, rfl, factor, rfl⟩
        · exact absurd (scaled_known hnan _ h) hunknown
      · cases h
        exact absurd (known_probe _) hunknown

theorem result_nan {factor : ℚ} (hvideo : state.hasVideo = true)
    (hduration : state.duration = some .nan) (hscale : floatOf state.scale = .ok factor) :
    state.result = .error .valueError := by
  unfold WebM.result
  rw [hvideo, hduration]
  exact scaled_nan hscale

theorem loop_known :
    RaisesOnly Raised.Known ((segmentParts data segment).forEach (stepSegment data) state) :=
  .forEach segmentParts_known fun _ _ _ => stepSegment_known

theorem findSome?_if {α β : Type} (items : List α) (p : α → Prop) [DecidablePred p] (f : α → β) :
    items.findSome? (fun item => if p item then some (f item) else none) =
      (items.find? (p ·)).map f := by
  induction items with
  | nil => rfl
  | cons item rest ih =>
    rw [findSome?_cons, find?_cons]
    by_cases hitem : p item
    · simp [hitem]
    · simp [hitem, ih]

theorem first_if_eq_ok {β : Type} {walk : Walk Raised Element} {p : Element → Prop} [DecidablePred p]
    {f : Element → β} {value : β} :
    walk.first (fun element => if p element then some (f element) else none) = .ok (some value) ↔
      ∃ element, walk.items.find? (p ·) = some element ∧ f element = value := by
  rw [Walk.first_eq_ok_some, findSome?_if, Option.map_eq_some_iff]

theorem findSegment_eq_ok : findSegment data = .ok segment ↔ Opened data segment := by
  unfold findSegment Opened
  simp only
  cases hhead : (elements data 0 data.length).items.head? with
  | none =>
    constructor
    · intro h
      obtain ⟨-, -, h⟩ := bind_eq_ok.1 h
      cases h
    · rintro ⟨header, -, h, -⟩
      cases h
  | some header =>
    simp only [Option.some.injEq]
    by_cases hheader : header.id ≠ ebmlId ∨ maxEbmlHeaderBytes < header.stop - header.start
    · rw [if_pos hheader]
      constructor
      · intro h
        cases h
      · rintro ⟨other, -, rfl, hid, hsize, -⟩
        exact (hheader.elim (fun h => h hid) (Nat.not_lt.2 hsize)).elim
    · rw [if_neg hheader]
      rw [not_or, not_not, Nat.not_lt] at hheader
      constructor
      · intro h
        obtain ⟨docType, hdocType, h⟩ := bind_eq_ok.1 h
        split_ifs at h with hdoc
        obtain ⟨found, hfound, h⟩ := bind_eq_ok.1 h
        cases docType with
        | none => exact absurd hdoc (by decide)
        | some field =>
          obtain ⟨element, helement, rfl⟩ := first_if_eq_ok.1 hdocType
          cases found with
          | none => cases h
          | some other =>
            obtain ⟨last, hlast, rfl⟩ := first_if_eq_ok.1 hfound
            cases h
            exact ⟨header, element, rfl, hheader.1, hheader.2, helement, hdoc, hlast⟩
      · rintro ⟨other, element, rfl, -, -, helement, hdoc, hsegment⟩
        rw [first_if_eq_ok.2 ⟨element, helement, rfl⟩, ok_bind, Option.getD_some,
          if_neg (not_not.2 hdoc)]
        have hfirst : (elements data 0 data.length).rest.first (fun element =>
            if element.id = segmentId then some element else none) = .ok (some segment) :=
          first_if_eq_ok.2 ⟨segment, hsegment, rfl⟩
        rw [hfirst]
        rfl

theorem findSegment_stop (h : findSegment data = .ok segment) : segment.stop ≤ data.length := by
  obtain ⟨-, -, -, -, -, -, -, hsegment⟩ := findSegment_eq_ok.1 h
  exact elementsFrom_stop (mem_of_mem_tail (mem_of_find?_eq_some hsegment))

/-- A WebM is read in another way than the module says only where it is empty, or states a length that
is not a number. -/
theorem webm_unknown_iff :
    (∃ reason, (findSegment data >>= probeSegment data) = .error reason ∧ ¬reason.Known) ↔
      data = [] ∨ ∃ segment, StatesNan data segment := by
  constructor
  · rintro ⟨reason, h, hunknown⟩
    cases hsegment : findSegment data with
    | error other =>
      rw [hsegment] at h
      cases h
      rcases findSegment_raises hsegment with hknown | ⟨-, hempty⟩
      · exact absurd hknown hunknown
      · exact .inl hempty
    | ok segment =>
      rw [hsegment, ok_bind, probeSegment] at h
      refine .inr ⟨segment, findSegment_eq_ok.1 hsegment, ?_⟩
      cases hloop : (segmentParts data segment).forEach (stepSegment data)
          ⟨1000000, none, false⟩ with
      | error other =>
        rw [hloop] at h
        cases h
        exact absurd (loop_known _ hloop) hunknown
      | ok state =>
        rw [hloop, ok_bind] at h
        obtain ⟨hfollowed, rfl⟩ := (segment_eq_ok (findSegment_stop hsegment)).1 hloop
        obtain ⟨hvideo, hduration, -, hscale⟩ := result_unknown h hunknown
        exact ⟨hfollowed, of_decide_eq_true hvideo, hduration, hscale⟩
  · rintro (rfl | ⟨segment, hopened, hfollowed, hvideo, hduration, factor, hscale⟩)
    · exact ⟨.stopIteration, rfl, fun h => h.1 rfl⟩
    · have hsegment := findSegment_eq_ok.2 hopened
      have hloop := (segment_eq_ok (findSegment_stop hsegment)).2 ⟨hfollowed, rfl⟩
      refine ⟨.valueError, ?_, fun h => h.2 rfl⟩
      rw [hsegment, ok_bind, probeSegment, hloop, ok_bind]
      exact result_nan (decide_eq_true hvideo) hduration hscale

end

section
variable {stream : Stream} {contentType : String} {result : Probing VideoProbe}

theorem topLevelFrom_content (size rounds offset : Nat) (stream : Stream) :
    (topLevelFrom size rounds offset stream).1.content = stream.content := by
  induction rounds generalizing offset stream with
  | zero => rfl
  | succ rounds ih =>
    rw [topLevelFrom]
    split_ifs
    · simp only
      cases boxHeader (((stream.seek offset).read 16).2.take 8)
          (slice ((stream.seek offset).read 16).2 8 16) (size - offset) with
      | error reason => rfl
      | ok header =>
        simp only
        split_ifs
        · rfl
        · rfl
        · rfl
        · exact ih _ _
    · rfl

/-- Whatever happens, the file is put back to its beginning. -/
theorem probeVideo_rewinds (stream : Stream) (contentType : String) :
    (probeVideo stream contentType).1 = ⟨stream.content, 0⟩ := by
  unfold probeVideo
  simp only
  split_ifs
  · have hcontent := topLevelFrom_content stream.content.length stream.content.length 0
      (stream.seek 0)
    simp only [Stream.seek, probeMp4, readTopLevelMoov] at hcontent ⊢
    rw [hcontent]
  · rfl
  · rfl

theorem translate_probe_iff : (∀ reason, translate result = .error reason →
    ∃ message, reason = .probe message) ↔ ∀ reason, result = .error reason → reason.Known := by
  cases result with
  | ok value => simp [translate]
  | error reason =>
    cases reason <;> simp [translate, damaged, Raised.Known]

theorem webm_read (stream : Stream) :
    (probeWebm (stream.seek 0) stream.content.length).2 =
      findSegment (stream.content.take maxWebmScanBytes) >>=
        probeSegment (stream.content.take maxWebmScanBytes) := by
  have hread : ((stream.seek 0).read (min stream.content.length maxWebmScanBytes)).2 =
      stream.content.take maxWebmScanBytes := by
    simp only [Stream.read, Stream.seek, drop_zero]
    rw [min_comm, ← take_take, take_length]
  unfold probeWebm
  simp only [hread]

/-- A probe always ends and leaves the file at its beginning.  What it raises is the error of the
module, but for an empty WebM and for one whose length is not a number. -/
theorem raises_probe_error_iff (stream : Stream) (contentType : String) :
    (∀ data, LoopsEnd data) ∧ (probeVideo stream contentType).1 = ⟨stream.content, 0⟩ ∧
      ((∀ reason, (probeVideo stream contentType).2 = .error reason →
          ∃ message, reason = .probe message) ↔
        ¬(contentType = "video/webm" ∧ (stream.content = [] ∨
          ∃ segment, StatesNan (stream.content.take maxWebmScanBytes) segment))) := by
  refine ⟨loopsEnd, probeVideo_rewinds stream contentType, ?_⟩
  unfold probeVideo
  simp only
  by_cases hmp4 : contentType = "video/mp4"
  · have hother : contentType ≠ "video/webm" := by
      rw [hmp4]
      decide
    rw [if_pos hmp4, translate_probe_iff]
    exact ⟨fun _ h => hother h.1, fun _ => probeMp4_known⟩
  · rw [if_neg hmp4]
    by_cases hwebm : contentType = "video/webm"
    · have hempty : stream.content.take maxWebmScanBytes = [] ↔ stream.content = [] := by
        rw [take_eq_nil_iff]
        exact or_iff_right (by decide)
      rw [if_pos hwebm, translate_probe_iff, webm_read, ← hempty, ← webm_unknown_iff]
      simp only [hwebm, true_and, not_exists, not_and, not_not]
    · rw [if_neg hwebm]
      refine ⟨fun _ h => hwebm h.1, fun _ reason h => ?_⟩
      cases h
      exact ⟨_, rfl⟩

def nanWebm : Bytes :=
  [0x1A, 0x45, 0xDF, 0xA3, 0x87, 0x42, 0x82, 0x84, 0x77, 0x65, 0x62, 0x6D,
    0x18, 0x53, 0x80, 0x67, 0x96,
      0x15, 0x49, 0xA9, 0x66, 0x87, 0x44, 0x89, 0x84, 0x7F, 0xC0, 0x00, 0x00,
      0x16, 0x54, 0xAE, 0x6B, 0x85, 0xAE, 0x83, 0x83, 0x81, 0x01]

/-- Neither the length that is not a number nor the missing first element is reported as damage. -/
theorem other_errors_escape :
    (probeVideo ⟨nanWebm, 0⟩ "video/webm").2 = .error .valueError ∧
      (probeVideo ⟨[], 0⟩ "video/webm").2 = .error .stopIteration ∧
      ¬∀ stream contentType reason, (probeVideo stream contentType).2 = .error reason →
        ∃ message, reason = .probe message := by
  have hnan : (probeVideo ⟨nanWebm, 0⟩ "video/webm").2 = .error .valueError := by decide +kernel
  refine ⟨hnan, rfl, fun h => ?_⟩
  obtain ⟨message, hmessage⟩ := h _ _ _ hnan
  cases hmessage

end

end LockIn.Files.MediaProbe
