import LockIn.Files.BoxTrees
import LockIn.Files.UsedFields

/-!
# The length of a container

The length that is probed is the one the container states: of every file that is written as it should
be, but for one duration that is mistaken for none.  What is accepted is read from the boxes that state
it, but where these are too short for their fields.
-/

namespace LockIn.Files.MediaProbe

open ByteFields (Bytes slice bigEndian encode)
open List

/-- A file whose first index is not larger than is read. -/
structure MovieFile where
  before : List Chunk
  form : Form
  index : Laid MovieBox.chunk
  after : List Chunk
  kinds : ∀ chunk ∈ before, chunk.kind ≠ moov
  valid : ∀ chunk ∈ before ++ ⟨form, moov, index.bytes⟩ :: after, chunk.Valid
  closed : ∀ chunk ∈ (before ++ ⟨form, moov, index.bytes⟩ :: after).dropLast, chunk.form ≠ .toEnd
  limit : form.width + index.bytes.length ≤ maxMoovBytes

namespace MovieFile

variable (file : MovieFile)

def bytes : Bytes :=
  (file.before ++ ⟨file.form, moov, file.index.bytes⟩ :: file.after).flatMap Chunk.bytes

def header? : Option MovieHeader := (file.index.parts.filterMap MovieBox.header?).getLast?

def fragmentDuration : Nat := (file.index.parts.flatMap MovieBox.fragmentDurations).getLast?.getD 0

def hasVideo : Bool := file.index.parts.any MovieBox.isVideo

def timescale : Nat := (file.header?.map MovieHeader.timescale).getD 0

end MovieFile

/-- The header states zero, or all ones in as many bits as it has. -/
def MovieHeader.open (header : MovieHeader) : Prop :=
  header.duration = 0 ∨ header.duration = 256 ^ durationWidth header.long - 1

instance (header : MovieHeader) : Decidable header.open := inferInstanceAs (Decidable (_ ∨ _))

def MovieFile.length (file : MovieFile) : Nat :=
  match file.header? with
  | none => 0
  | some header => if header.open then file.fragmentDuration else header.duration

def MovieHeader.Mistaken (header : MovieHeader) : Prop :=
  header.long = true ∧ header.duration = 0xFFFFFFFF

section
variable {content : Bytes} {stream : Stream} {size rounds offset : Nat}

theorem topLevelFrom_next {kind : Bytes} {width boxSize : Nat} (hcontent : stream.content = content)
    (hroom : offset + 8 ≤ size)
    (hheader : boxHeader (slice content offset (offset + 8)) (slice content (offset + 8) (offset + 16))
      (size - offset) = .ok (kind, width, boxSize))
    (hsize : width ≤ boxSize) (hstop : offset + boxSize ≤ size) :
    (topLevelFrom size (rounds + 1) offset stream).2 =
      if kind = moov then
        if maxMoovBytes < boxSize then .error (.probe "The video's index is too large for a short loop.")
        else .ok (slice content (offset + width) (offset + boxSize))
      else (topLevelFrom size rounds (offset + boxSize) ((stream.seek offset).read 16).1).2 := by
  have hread : ((((stream.seek offset).read 16).1.seek (offset + width)).read (boxSize - width)).2 =
      slice content (offset + width) (offset + boxSize) := by
    simp only [Stream.read, Stream.seek, slice, hcontent]
    congr 1
    omega
  rw [topLevelFrom, if_pos hroom]
  simp only [read_head hcontent, read_large hcontent, hheader]
  rw [if_neg (by omega)]
  split_ifs
  · rfl
  · exact congrArg Except.ok hread
  · rfl

/-- The index is found behind other boxes. -/
theorem topLevelFrom_bytes {before after : List Chunk} {chunk : Chunk} {passed : Bytes}
    (hkinds : ∀ other ∈ before, other.kind ≠ moov) (hkind : chunk.kind = moov)
    (hlimit : chunk.size ≤ maxMoovBytes) (hvalid : ∀ other ∈ before ++ chunk :: after, other.Valid)
    (hclosed : ∀ other ∈ (before ++ chunk :: after).dropLast, other.form ≠ .toEnd)
    (hcontent : stream.content = content)
    (hdata : content = passed ++ (before ++ chunk :: after).flatMap Chunk.bytes)
    (hrounds : content.length - passed.length ≤ rounds) :
    (topLevelFrom content.length rounds passed.length stream).2 = .ok chunk.payload := by
  have hround (head : Chunk) (rest : List Chunk) (passed : Bytes) (hhead : head.Valid)
      (hend : ∀ other ∈ (head :: rest).dropLast, other.form ≠ .toEnd)
      (hdata : content = passed ++ (head :: rest).flatMap Chunk.bytes) :
      boxHeader (slice content passed.length (passed.length + 8))
          (slice content (passed.length + 8) (passed.length + 16)) (content.length - passed.length) =
          .ok (head.kind, head.form.width, head.size) ∧
        8 ≤ head.size ∧ passed.length + head.size ≤ content.length := by
    have hlength := Chunk.length_bytes hhead
    have hsplit : content = passed ++ (head.bytes ++ rest.flatMap Chunk.bytes) := by
      rw [hdata, flatMap_cons]
    have hcount : content.length = passed.length + (head.size + (rest.flatMap Chunk.bytes).length) := by
      rw [hsplit, length_append, length_append, hlength]
    have htoEnd : head.form = .toEnd → content.length = passed.length + head.size := by
      intro hform
      cases rest with
      | nil => rw [hcount, flatMap_nil, length_nil, Nat.add_zero]
      | cons next others =>
        refine absurd hform (hend head ?_)
        rw [dropLast_cons_cons]
        exact mem_cons_self
    have hheader : boxHeader (slice content passed.length (passed.length + 8))
        (slice content (passed.length + 8) (passed.length + 16)) (content.length - passed.length) =
          .ok (head.kind, head.form.width, head.size) := by
      have hbytes := @boxHeader_bytes head passed (rest.flatMap Chunk.bytes) content.length hhead htoEnd
      rw [← hsplit] at hbytes
      exact hbytes
    have hwidth : head.form.width ≤ head.size := Nat.le_add_right _ _
    exact ⟨hheader, (boxHeader_width hheader).trans hwidth, by omega⟩
  induction before generalizing passed rounds stream with
  | nil =>
    have hchunk := hvalid chunk mem_cons_self
    obtain ⟨hheader, height, hfits⟩ := hround chunk after passed hchunk hclosed hdata
    obtain ⟨more, rfl⟩ := Nat.exists_eq_succ_of_ne_zero (by omega : rounds ≠ 0)
    have hlocated : Located content
        ⟨chunk.kind, passed.length + chunk.form.width, passed.length + chunk.size⟩ chunk := by
      rw [hdata, nil_append, flatMap_cons]
      exact located_bytes hchunk
    obtain ⟨front, back, hpayload, hstart, hstop⟩ := hlocated.payload
    simp only at hstart hstop
    have hread : slice content (passed.length + chunk.form.width) (passed.length + chunk.size) =
        chunk.payload := by
      rw [hstart, hstop, hpayload]
      exact ByteFields.slice_part _ _ _
    rw [topLevelFrom_next hcontent (by omega) hheader (Nat.le_add_right _ _) hfits, if_pos hkind,
      if_neg (by omega), hread]
  | cons head rest ih =>
    have hhead := hvalid head mem_cons_self
    obtain ⟨hheader, height, hfits⟩ := hround head (rest ++ chunk :: after) passed hhead hclosed hdata
    obtain ⟨more, rfl⟩ := Nat.exists_eq_succ_of_ne_zero (by omega : rounds ≠ 0)
    have hbehind : (passed ++ head.bytes).length = passed.length + head.size := by
      rw [length_append, Chunk.length_bytes hhead]
    have hlater : ∀ other ∈ (rest ++ chunk :: after).dropLast, other.form ≠ .toEnd := by
      intro other hother
      refine hclosed other ?_
      rw [cons_append, dropLast_cons_of_ne_nil (by simp)]
      exact mem_cons_of_mem _ hother
    rw [topLevelFrom_next hcontent (by omega) hheader (Nat.le_add_right _ _) hfits,
      if_neg (hkinds head mem_cons_self), ← hbehind]
    refine ih (fun other hother => hkinds other (mem_cons_of_mem _ hother))
      (fun other hother => hvalid other (mem_cons_of_mem _ hother)) hlater hcontent ?_ ?_
    · rw [hdata, cons_append, flatMap_cons, append_assoc]
    · omega

theorem readTopLevelMoov_bytes (file : MovieFile) (position : Nat) :
    (readTopLevelMoov ⟨file.bytes, position⟩ file.bytes.length).2 = .ok file.index.bytes := by
  have hfound : (topLevelFrom file.bytes.length file.bytes.length ([] : Bytes).length
      ⟨file.bytes, position⟩).2 = .ok (Chunk.mk file.form moov file.index.bytes).payload :=
    topLevelFrom_bytes file.kinds rfl file.limit file.valid file.closed rfl rfl (Nat.sub_le _ _)
  exact hfound

theorem stated_headers (parts : List MovieBox) :
    (parts.flatMap MovieBox.stated).filterMap Stated.header? =
      (parts.filterMap MovieBox.header?).map fun header => (header.timescale, header.duration) := by
  rw [filterMap_flatMap, map_filterMap, filterMap_eq_flatMap_toList]
  congr 1
  funext part
  cases part with
  | header form written => rfl
  | fragments form laid =>
    rw [MovieBox.stated, filterMap_map]
    exact filterMap_eq_nil_iff.2 fun _ _ => rfl
  | track form laid =>
    rw [MovieBox.stated]
    split_ifs
    · rfl
    · rfl
  | other chunk hne => rfl

theorem stated_fragments (parts : List MovieBox) :
    (parts.flatMap MovieBox.stated).filterMap Stated.fragments? =
      parts.flatMap MovieBox.fragmentDurations := by
  rw [filterMap_flatMap]
  congr 1
  funext part
  cases part with
  | header form written => rfl
  | fragments form laid =>
    rw [MovieBox.stated, MovieBox.fragmentDurations, filterMap_map]
    exact filterMap_some
  | track form laid =>
    rw [MovieBox.stated]
    split_ifs
    · rfl
    · rfl
  | other chunk hne => rfl

theorem stated_video (parts : List MovieBox) :
    .video ∈ parts.flatMap MovieBox.stated ↔ parts.any MovieBox.isVideo = true := by
  rw [mem_flatMap, List.any_eq_true]
  refine exists_congr fun part => and_congr_right fun _ => ?_
  cases part with
  | header form written => simp [MovieBox.stated, MovieBox.isVideo]
  | fragments form laid => simp [MovieBox.stated, MovieBox.isVideo]
  | track form laid => simp [MovieBox.stated, MovieBox.isVideo]
  | other chunk hne => simp [MovieBox.stated, MovieBox.isVideo]

theorem found_bytes (file : MovieFile) :
    found file.index.bytes (allFindings file.index.bytes) =
      ⟨file.timescale, (file.header?.map MovieHeader.duration).getD 0, file.fragmentDuration,
        file.hasVideo⟩ := by
  have hvideo : decide (.video ∈ file.index.parts.flatMap MovieBox.stated) = file.hasVideo := by
    rw [Bool.eq_iff_iff, decide_eq_true_eq]
    exact stated_video _
  rw [(index_bytes file.index).2, recalled, hvideo, stated_headers, stated_fragments,
    getLast?_map, Option.map_map, Option.map_map]
  rfl

def MovieFile.taken (file : MovieFile) : Nat :=
  if unstated ((file.header?.map MovieHeader.duration).getD 0) then file.fragmentDuration
  else (file.header?.map MovieHeader.duration).getD 0

theorem probeMp4_bytes (file : MovieFile) (position : Nat) (probe : VideoProbe) :
    (probeMp4 ⟨file.bytes, position⟩ file.bytes.length).2 = .ok probe ↔
      file.hasVideo = true ∧ file.timescale ≠ 0 ∧ file.taken ≠ 0 ∧
        probe = ⟨milliseconds file.taken file.timescale⟩ := by
  have hprobe : (probeMp4 ⟨file.bytes, position⟩ file.bytes.length).2 = probeMoov file.index.bytes := by
    unfold probeMp4
    simp only [readTopLevelMoov_bytes]
    rfl
  rw [hprobe, probeMoov_eq_ok, found_bytes, and_iff_right (index_bytes file.index).1]
  exact Iff.rfl

theorem unstated_iff (header : MovieHeader) :
    unstated header.duration = true ↔ header.open ∨ header.Mistaken := by
  have hlt := header.duration_lt
  unfold unstated MovieHeader.open MovieHeader.Mistaken durationWidth at *
  simp only [mem_cons, not_mem_nil, or_false, decide_eq_true_eq]
  cases hlong : header.long with
  | true =>
    rw [hlong] at hlt
    simp only [if_true, true_and]
    norm_num
    tauto
  | false =>
    rw [hlong] at hlt
    simp only [Bool.false_eq_true, if_false, false_and, or_false] at hlt ⊢
    norm_num at hlt ⊢
    omega

end

/-- What is probed is the length the file states, and it is where there is a video track and neither
number is zero. -/
def MovieFile.Faithful (file : MovieFile) (position : Nat) : Prop :=
  ∀ probe, (probeMp4 ⟨file.bytes, position⟩ file.bytes.length).2 = .ok probe ↔
    file.hasVideo = true ∧ file.timescale ≠ 0 ∧ file.length ≠ 0 ∧
      probe = ⟨milliseconds file.length file.timescale⟩

/-- A playable file whose header is mistaken for an open one, and whose fragments do not state a length
that is rounded to the same. -/
def MovieFile.Misread (file : MovieFile) : Prop :=
  ∃ header, file.header? = some header ∧ header.Mistaken ∧ file.hasVideo = true ∧
    header.timescale ≠ 0 ∧ (file.fragmentDuration = 0 ∨
      milliseconds file.fragmentDuration header.timescale ≠ milliseconds header.duration header.timescale)

def ReadsInside (content : Bytes) (position : Nat) : Prop :=
  ∀ probe, (probeMp4 ⟨content, position⟩ content.length).2 = .ok probe →
    ∃ box index used, (boxes content 0 content.length).items.find? (·.kind = moov) = some box ∧
      index = slice content box.start box.stop ∧ usedBy index = some used ∧
      used.Gives index probe ∧ used.Inside index

def ReadsBeyond (content : Bytes) (position : Nat) : Prop :=
  ∃ index, (readTopLevelMoov ⟨content, position⟩ content.length).2 = .ok index ∧ Acceptable index ∧
    ∃ used, usedBy index = some used ∧ used.Short index

section
variable {file : MovieFile} {header : MovieHeader}

theorem taken_of_not_mistaken (hheader : file.header? = some header) (h : ¬header.Mistaken) :
    file.taken = file.length := by
  unfold MovieFile.taken MovieFile.length
  rw [hheader, Option.map_some, Option.getD_some]
  by_cases hopen : header.open
  · simp only [if_pos ((unstated_iff header).2 (.inl hopen)), if_pos hopen]
  · have hstated : ¬unstated header.duration = true := fun heq =>
      ((unstated_iff header).1 heq).elim hopen h
    simp only [if_neg hstated, if_neg hopen]

theorem taken_of_mistaken (hheader : file.header? = some header) (h : header.Mistaken) :
    file.taken = file.fragmentDuration ∧ file.length = header.duration ∧ header.duration ≠ 0 := by
  have hopen : ¬header.open := by
    unfold MovieHeader.open durationWidth
    rw [h.1, h.2]
    decide
  refine ⟨?_, ?_, ?_⟩
  · unfold MovieFile.taken
    rw [hheader, Option.map_some, Option.getD_some, if_pos ((unstated_iff header).2 (.inr h))]
  · unfold MovieFile.length
    rw [hheader]
    exact if_neg hopen
  · rw [h.2]
    decide

theorem faithful_iff (file : MovieFile) (position : Nat) : file.Faithful position ↔ ¬file.Misread := by
  unfold MovieFile.Faithful
  simp only [probeMp4_bytes]
  cases hheader : file.header? with
  | none =>
    have hzero : file.timescale = 0 := by
      rw [MovieFile.timescale, hheader]
      rfl
    refine ⟨fun _ h => ?_, fun _ probe => ?_⟩
    · obtain ⟨header, hsome, -⟩ := h
      rw [hheader] at hsome
      cases hsome
    · simp [hzero]
  | some header =>
    have htimescale : file.timescale = header.timescale := by
      rw [MovieFile.timescale, hheader]
      rfl
    by_cases hmistaken : header.Mistaken
    · obtain ⟨htaken, hlength, hpos⟩ := taken_of_mistaken hheader hmistaken
      rw [htaken, hlength, htimescale]
      constructor
      · rintro h ⟨other, hother, -, hvideo, hscale, hwrong⟩
        obtain rfl : header = other := Option.some.inj (hheader.symm.trans hother)
        obtain ⟨-, -, hfragments, hprobe⟩ := (h ⟨_⟩).2 ⟨hvideo, hscale, hpos, rfl⟩
        rcases hwrong with hzero | hne
        · exact hfragments hzero
        · exact hne (VideoProbe.mk.inj hprobe).symm
      · intro h probe
        by_cases hplayable : file.hasVideo = true ∧ header.timescale ≠ 0
        · have hright : ¬(file.fragmentDuration = 0 ∨ milliseconds file.fragmentDuration
              header.timescale ≠ milliseconds header.duration header.timescale) := fun hwrong =>
            h ⟨header, hheader, hmistaken, hplayable.1, hplayable.2, hwrong⟩
          rw [not_or, not_not] at hright
          rw [hright.2]
          simp only [hplayable, hright.1, hpos, true_and, ne_eq, not_false_eq_true]
        · exact ⟨fun hleft => absurd ⟨hleft.1, hleft.2.1⟩ hplayable,
            fun hright => absurd ⟨hright.1, hright.2.1⟩ hplayable⟩
    · rw [taken_of_not_mistaken hheader hmistaken]
      refine ⟨fun _ h => ?_, fun _ _ => Iff.rfl⟩
      obtain ⟨other, hother, hwrong, -⟩ := h
      obtain rfl : header = other := Option.some.inj (hheader.symm.trans hother)
      exact hmistaken hwrong

theorem readsInside_iff (content : Bytes) (position : Nat) :
    ReadsInside content position ↔ ¬ReadsBeyond content position := by
  unfold ReadsInside ReadsBeyond probeMp4
  cases hindex : (readTopLevelMoov ⟨content, position⟩ content.length).2 with
  | error reason =>
    simp only [hindex]
    refine ⟨fun _ h => ?_, fun _ probe h => ?_⟩
    · obtain ⟨index, h, -⟩ := h
      cases h
    · cases h
  | ok index =>
    obtain ⟨box, hbox, hslice⟩ := readTopLevelMoov_eq_ok hindex
    simp only [hindex, Outcome.ok_bind]
    have hinside : (∀ probe, probeMoov index = .ok probe →
        ∃ used, usedBy index = some used ∧ used.Gives index probe ∧ used.Inside index) ↔
          ¬(Acceptable index ∧ ∃ used, usedBy index = some used ∧ used.Short index) :=
      accepted_inside_iff
    constructor
    · rintro h ⟨other, hother, hbeyond⟩
      obtain rfl : index = other := Except.ok.inj hother
      refine hinside.1 (fun probe hprobe => ?_) hbeyond
      obtain ⟨place, payload, used, hplace, hpayload, hused⟩ := h probe hprobe
      obtain rfl : box = place := Option.some.inj (hbox.symm.trans hplace)
      rw [hslice, ← hpayload]
      exact ⟨used, hused⟩
    · intro h probe hprobe
      obtain ⟨used, hused⟩ := hinside.2 (fun hbeyond => h ⟨index, rfl, hbeyond⟩) probe hprobe
      exact ⟨box, index, used, hbox, hslice, hused⟩

/-- Every written file gives its own length, but for a long header of 2 ^ 32 - 1 units; and whatever is
accepted is read inside its boxes, but where these are too short. -/
theorem probed_length_iff (file : MovieFile) (content : Bytes) (position : Nat) :
    (file.Faithful position ↔ ¬file.Misread) ∧
      (ReadsInside content position ↔ ¬ReadsBeyond content position) :=
  ⟨faithful_iff file position, readsInside_iff content position⟩

end

def shortHeader : Bytes :=
  [0, 0, 0, 56, 0x6d, 0x6f, 0x6f, 0x76,
    0, 0, 0, 12, 0x6d, 0x76, 0x68, 0x64, 0, 0, 0, 0,
    0, 0, 0, 36, 0x74, 0x72, 0x61, 0x6b,
      0, 0, 0, 28, 0x6d, 0x64, 0x69, 0x61,
        0, 0, 0, 20, 0x68, 0x64, 0x6c, 0x72, 0, 0, 0, 0, 0, 0, 0, 0, 0x76, 0x69, 0x64, 0x65]

instance (chunk : Chunk) : Decidable chunk.Valid :=
  decidable_of_iff (chunk.kind.length = 4 ∧ (chunk.form = .small → chunk.size < 256 ^ 4) ∧
      (chunk.form = .large → chunk.size < 256 ^ 8))
    ⟨fun h => ⟨h.1, h.2.1, h.2.2⟩, fun h => ⟨h.kind, h.small, h.large⟩⟩

def videoTrack : Laid TrackBox.chunk where
  parts := [.media .small ⟨[.handler .small ⟨List.replicate 8 0, vide, [], rfl, rfl⟩],
    by decide +kernel, by decide +kernel⟩]
  valid := by decide +kernel
  closed := by decide +kernel

/-- A long header that states 2 ^ 32 - 1 milliseconds, without fragments. -/
def longFile : MovieFile where
  before := []
  form := .small
  index := ⟨[.header .small ⟨true, List.replicate 19 0, 1000, 0xFFFFFFFF, [], rfl, by decide +kernel,
    by decide +kernel⟩, .track .small videoTrack], by decide +kernel, by decide +kernel⟩
  after := []
  kinds := by decide
  valid := by decide +kernel
  closed := by decide
  limit := by decide +kernel

/-- The numbers of a short header are those of the boxes after it, and the length of the other file is
not found. -/
theorem read_beyond_and_misread :
    (probeMp4 ⟨shortHeader, 0⟩ shortHeader.length).2 = .ok ⟨65546325750⟩ ∧
      ¬ReadsInside shortHeader 0 ∧ ¬longFile.Faithful 0 := by
  have hprobe : (probeMp4 ⟨shortHeader, 0⟩ shortHeader.length).2 = .ok ⟨65546325750⟩ := by
    decide +kernel
  refine ⟨hprobe, fun h => ?_, fun h => ?_⟩
  · have hindex : (boxes shortHeader 0 shortHeader.length).items.find? (·.kind = moov) =
        some ⟨moov, 8, 56⟩ := by decide +kernel
    have hused : usedBy (slice shortHeader 8 56) =
        some ⟨⟨mvhd, 8, 12⟩, ⟨mvhd, 8, 12⟩, ⟨24, 28⟩, ⟨hdlr, 36, 48⟩⟩ := by decide +kernel
    obtain ⟨box, index, used, hbox, rfl, hother, -, hinside⟩ := h _ hprobe
    obtain rfl : _ = box := Option.some.inj (hindex.symm.trans hbox)
    obtain rfl : _ = used := Option.some.inj (hused.symm.trans hother)
    exact absurd hinside.2.1 (by decide)
  · exact (faithful_iff longFile 0).1 h ⟨_, rfl, ⟨rfl, rfl⟩, by decide +kernel, by decide, .inl rfl⟩

end LockIn.Files.MediaProbe
