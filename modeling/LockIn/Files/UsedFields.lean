import LockIn.Files.IndexReading

/-!
# The fields that are used

Where a file is accepted, its length comes from the last movie header and, where that leaves the
duration open, from the last fragment duration; the handler is the first one of a video.  They are read
at fixed offsets, and lie inside their boxes exactly where these are long enough.
-/

namespace LockIn.Files.MediaProbe

open ByteFields (Bytes slice bigEndian)
open List

def lastHeader (data : Bytes) : Option Box :=
  ((allFindings data).filterMap Finding.header?).getLast?

def lastFragments (data : Bytes) : Option Box :=
  ((allFindings data).filterMap Finding.fragments?).getLast?

def firstVideo (data : Bytes) : Option Box := ((allFindings data).filterMap Finding.video?).head?

def firstHandler (data : Bytes) (track : Box) : Option Box :=
  (((boxes data track.start track.stop).items.filter (·.kind = mdia)).flatMap fun media =>
    (boxes data media.start media.stop).items).find? (isVideoHandler data)

structure Used where
  header : Box
  source : Box
  duration : Field
  handler : Box
deriving DecidableEq

def usedBy (data : Bytes) : Option Used := do
  let header ← lastHeader data
  let track ← firstVideo data
  let handler ← firstHandler data track
  if unstated ((movieDurationField data header.start).value data) then
    let source ← lastFragments data
    some ⟨header, source, fragmentDurationField data source.start, handler⟩
  else some ⟨header, header, movieDurationField data header.start, handler⟩

def Used.Inside (data : Bytes) (used : Used) : Prop :=
  (timescaleField data used.header.start).Inside used.header ∧ used.duration.Inside used.source ∧
    (handlerField used.handler.start).Inside used.handler

/-- One of the payloads ends before what is read of it. -/
def Used.Short (data : Bytes) (used : Used) : Prop :=
  used.header.length < (if isLong data used.header.start then 24 else 16) ∨
    used.source.length < used.duration.stop - used.source.start ∨ used.handler.length < 12

structure Used.Gives (data : Bytes) (used : Used) (probe : VideoProbe) : Prop where
  header : used.header.kind = mvhd
  source : used.source.kind = mvhd ∨ used.source.kind = mehd
  handler : used.handler.kind = hdlr
  vide : slice data (handlerField used.handler.start).start (handlerField used.handler.start).stop = vide
  length : probe = ⟨milliseconds (used.duration.value data)
    ((timescaleField data used.header.start).value data)⟩

def Acceptable (data : Bytes) : Prop :=
  Followable data ∧ (found data (allFindings data)).hasVideo = true ∧
    (found data (allFindings data)).timescale ≠ 0 ∧ (found data (allFindings data)).length ≠ 0

section
variable {data : Bytes} {box track : Box} {used : Used} {probe : VideoProbe} {seen : List Finding}

theorem filterMap_header (seen : List Finding) :
    (seen.map (Finding.stated data)).filterMap Stated.header? =
      (seen.filterMap Finding.header?).map fun box =>
        ((timescaleField data box.start).value data,
          (movieDurationField data box.start).value data) := by
  rw [filterMap_map, map_filterMap]
  congr 1
  funext finding
  cases finding <;> rfl

theorem filterMap_fragments (seen : List Finding) :
    (seen.map (Finding.stated data)).filterMap Stated.fragments? =
      (seen.filterMap Finding.fragments?).map fun box =>
        (fragmentDurationField data box.start).value data := by
  rw [filterMap_map, map_filterMap]
  congr 1
  funext finding
  cases finding <;> rfl

theorem found_timescale : (found data (allFindings data)).timescale =
    ((lastHeader data).map fun box => (timescaleField data box.start).value data).getD 0 := by
  simp only [found, recalled, filterMap_header, getLast?_map, Option.map_map]
  rfl

theorem found_duration : (found data (allFindings data)).duration =
    ((lastHeader data).map fun box => (movieDurationField data box.start).value data).getD 0 := by
  simp only [found, recalled, filterMap_header, getLast?_map, Option.map_map]
  rfl

theorem found_fragmentDuration : (found data (allFindings data)).fragmentDuration =
    ((lastFragments data).map fun box => (fragmentDurationField data box.start).value data).getD 0 := by
  rw [found, recalled, filterMap_fragments, getLast?_map]
  rfl

theorem findings_kind {finding : Finding} (h : finding ∈ findings data box) :
    match finding with
    | .header header => header.kind = mvhd
    | .fragments sub => sub.kind = mehd
    | .video track => trakIsVideo data track = .ok true := by
  unfold findings at h
  split_ifs at h with hheader hfragments htrack hvideo
  · obtain rfl := mem_singleton.1 h
    exact hheader
  · obtain ⟨sub, -, hsub⟩ := mem_flatMap.1 h
    unfold fragmentFindings at hsub
    split_ifs at hsub with hmehd
    · obtain rfl := mem_singleton.1 hsub
      exact hmehd
    · exact absurd hsub not_mem_nil
  · obtain rfl := mem_singleton.1 h
    exact hvideo
  · exact absurd h not_mem_nil
  · exact absurd h not_mem_nil

theorem lastHeader_kind (h : lastHeader data = some box) : box.kind = mvhd := by
  obtain ⟨finding, hin, hheader⟩ := mem_filterMap.1 (mem_of_getLast? h)
  obtain ⟨place, -, hplace⟩ := mem_flatMap.1 hin
  have hkind := findings_kind hplace
  cases finding with
  | header other =>
    cases hheader
    exact hkind
  | fragments other => cases hheader
  | video other => cases hheader

theorem lastFragments_kind (h : lastFragments data = some box) : box.kind = mehd := by
  obtain ⟨finding, hin, hfragments⟩ := mem_filterMap.1 (mem_of_getLast? h)
  obtain ⟨place, -, hplace⟩ := mem_flatMap.1 hin
  have hkind := findings_kind hplace
  cases finding with
  | header other => cases hfragments
  | fragments other =>
    cases hfragments
    exact hkind
  | video other => cases hfragments

theorem firstVideo_isVideo (h : firstVideo data = some track) : trakIsVideo data track = .ok true := by
  obtain ⟨finding, hin, hvideo⟩ := mem_filterMap.1 (mem_of_head? h)
  obtain ⟨place, -, hplace⟩ := mem_flatMap.1 hin
  have hkind := findings_kind hplace
  cases finding with
  | header other => cases hvideo
  | fragments other => cases hvideo
  | video other =>
    cases hvideo
    exact hkind

theorem exists_firstVideo (h : (found data (allFindings data)).hasVideo = true) :
    ∃ track, firstVideo data = some track := by
  obtain ⟨track, htrack⟩ := found_hasVideo.1 h
  have hin : track ∈ (allFindings data).filterMap Finding.video? :=
    mem_filterMap.2 ⟨_, htrack, rfl⟩
  exact Option.isSome_iff_exists.1 (isSome_head?.2 (ne_nil_of_mem hin))

theorem exists_firstHandler (h : trakIsVideo data track = .ok true) :
    ∃ handler, firstHandler data track = some handler := by
  obtain ⟨before, media, after, hsplit, -, hmedia⟩ := Walk.any_eq_true.1 h
  split_ifs at hmedia with hmdia
  · obtain ⟨earlier, handler, later, hsubs, -, hhandler⟩ := Walk.any_eq_true.1 hmedia
    rw [Except.ok.injEq] at hhandler
    refine Option.isSome_iff_exists.1 (find?_isSome.2 ⟨handler, mem_flatMap.2 ⟨media,
      mem_filter.2 ⟨?_, decide_eq_true hmdia⟩, ?_⟩, hhandler⟩)
    · rw [hsplit]
      exact mem_append_right _ mem_cons_self
    · rw [hsubs]
      exact mem_append_right _ mem_cons_self
  · cases hmedia

theorem firstHandler_spec (h : firstHandler data track = some box) : box.kind = hdlr ∧
    slice data (handlerField box.start).start (handlerField box.start).stop = vide := by
  have hhandler := find?_some h
  unfold isVideoHandler at hhandler
  simp only [Bool.and_eq_true, decide_eq_true_eq] at hhandler
  exact hhandler

theorem exists_lastHeader (h : (found data (allFindings data)).timescale ≠ 0) :
    ∃ header, lastHeader data = some header := by
  rw [found_timescale] at h
  cases hheader : lastHeader data with
  | none => exact absurd (by rw [hheader]; rfl) h
  | some header => exact ⟨header, rfl⟩

theorem accepted_uses (h : probeMoov data = .ok probe) :
    ∃ used, usedBy data = some used ∧ used.Gives data probe := by
  obtain ⟨-, hvideo, htimescale, hlength, rfl⟩ := probeMoov_eq_ok.1 h
  obtain ⟨header, hheader⟩ := exists_lastHeader htimescale
  obtain ⟨track, htrack⟩ := exists_firstVideo hvideo
  obtain ⟨handler, hhandler⟩ := exists_firstHandler (firstVideo_isVideo htrack)
  have hvide := firstHandler_spec hhandler
  have hscale : (found data (allFindings data)).timescale =
      (timescaleField data header.start).value data := by
    rw [found_timescale, hheader]
    rfl
  have hduration : (found data (allFindings data)).duration =
      (movieDurationField data header.start).value data := by
    rw [found_duration, hheader]
    rfl
  rw [Mp4.length, hduration] at hlength
  rw [Mp4.length, hduration, hscale]
  by_cases hopen : unstated ((movieDurationField data header.start).value data) = true
  · rw [if_pos hopen, found_fragmentDuration] at hlength
    rw [if_pos hopen, found_fragmentDuration]
    cases hfragments : lastFragments data with
    | none => exact absurd (by rw [hfragments]; rfl) hlength
    | some source =>
      refine ⟨⟨header, source, fragmentDurationField data source.start, handler⟩, ?_,
        lastHeader_kind hheader, .inr (lastFragments_kind hfragments), hvide.1, hvide.2, rfl⟩
      simp [usedBy, hheader, htrack, hhandler, hopen, hfragments]
  · rw [if_neg hopen]
    refine ⟨⟨header, header, movieDurationField data header.start, handler⟩, ?_,
      lastHeader_kind hheader, .inl (lastHeader_kind hheader), hvide.1, hvide.2, rfl⟩
    simp [usedBy, hheader, htrack, hhandler, hopen]

theorem acceptable_iff : Acceptable data ↔ ∃ probe, probeMoov data = .ok probe := by
  simp only [probeMoov_eq_ok]
  constructor
  · rintro ⟨hfollowable, hvideo, htimescale, hlength⟩
    exact ⟨_, hfollowable, hvideo, htimescale, hlength, rfl⟩
  · rintro ⟨probe, hfollowable, hvideo, htimescale, hlength, -⟩
    exact ⟨hfollowable, hvideo, htimescale, hlength⟩

/-- The fields begin inside their boxes. -/
theorem usedBy_duration (h : usedBy data = some used) :
    used.source.start ≤ used.duration.start ∧ used.source.start < used.duration.stop := by
  obtain ⟨header, -, h⟩ := Option.bind_eq_some_iff.1 h
  obtain ⟨track, -, h⟩ := Option.bind_eq_some_iff.1 h
  obtain ⟨handler, -, h⟩ := Option.bind_eq_some_iff.1 h
  split_ifs at h
  · obtain ⟨source, -, h⟩ := Option.bind_eq_some_iff.1 h
    cases h
    unfold fragmentDurationField
    split_ifs <;> simp
  · cases h
    unfold movieDurationField
    split_ifs <;> simp

theorem inside_iff (h : usedBy data = some used) : used.Inside data ↔ ¬used.Short data := by
  have hduration := usedBy_duration h
  unfold Used.Inside Used.Short Field.Inside Box.length timescaleField handlerField
  by_cases hlong : isLong data used.header.start = true
  · simp only [if_pos hlong]
    omega
  · simp only [if_neg hlong]
    omega

theorem accepted_inside_iff : (∀ probe, probeMoov data = .ok probe →
    ∃ used, usedBy data = some used ∧ used.Gives data probe ∧ used.Inside data) ↔
      ¬(Acceptable data ∧ ∃ used, usedBy data = some used ∧ used.Short data) := by
  constructor
  · rintro h ⟨hacceptable, used, hused, hshort⟩
    obtain ⟨probe, hprobe⟩ := acceptable_iff.1 hacceptable
    obtain ⟨other, hother, -, hinside⟩ := h probe hprobe
    obtain rfl : other = used := Option.some.inj (hother.symm.trans hused)
    exact (inside_iff hused).1 hinside hshort
  · intro h probe hprobe
    obtain ⟨used, hused, hgives⟩ := accepted_uses hprobe
    refine ⟨used, hused, hgives, (inside_iff hused).2 fun hshort => h ⟨?_, used, hused, hshort⟩⟩
    exact acceptable_iff.2 ⟨probe, hprobe⟩

end

section
variable {content index : Bytes} {stream : Stream} {offset rounds position : Nat}

theorem read_head (hcontent : stream.content = content) :
    ((stream.seek offset).read 16).2.take 8 = slice content offset (offset + 8) := by
  subst hcontent
  simp only [Stream.read, Stream.seek, slice, take_take, Nat.add_sub_cancel_left]
  rfl

theorem read_large (hcontent : stream.content = content) :
    slice ((stream.seek offset).read 16).2 8 16 = slice content (offset + 8) (offset + 16) := by
  subst hcontent
  have hread : ((stream.seek offset).read 16).2 = slice stream.content offset (offset + 16) := by
    simp only [Stream.read, Stream.seek, slice, Nat.add_sub_cancel_left]
  rw [hread, ByteFields.slice_slice le_rfl]

theorem topLevelFrom_eq_ok (hcontent : stream.content = content)
    (h : (topLevelFrom content.length rounds offset stream).2 = .ok index) :
    ∃ box, (boxesFrom content content.length rounds offset).items.find? (·.kind = moov) = some box ∧
      index = slice content box.start box.stop := by
  induction rounds generalizing offset stream with
  | zero => cases h
  | succ rounds ih =>
    rw [topLevelFrom] at h
    rw [boxesFrom]
    split_ifs at h with hroom
    · rw [if_pos hroom]
      simp only [read_head hcontent, read_large hcontent] at h
      cases hheader : boxHeader (slice content offset (offset + 8))
          (slice content (offset + 8) (offset + 16)) (content.length - offset) with
      | error reason =>
        rw [hheader] at h
        cases h
      | ok header =>
        obtain ⟨kind, width, size⟩ := header
        rw [hheader] at h
        simp only at h ⊢
        split_ifs at h with hbad hmoov hlarge
        · cases h
          rw [if_neg hbad]
          refine ⟨_, find?_cons_of_pos (decide_eq_true hmoov), ?_⟩
          simp only [Stream.read, Stream.seek, slice, hcontent]
          congr 1
          omega
        · obtain ⟨box, hbox, hindex⟩ := ih (by exact hcontent) h
          rw [if_neg hbad]
          exact ⟨box, by rw [find?_cons_of_neg (by simpa using hmoov), hbox], hindex⟩

theorem readTopLevelMoov_eq_ok
    (h : (readTopLevelMoov ⟨content, position⟩ content.length).2 = .ok index) :
    ∃ box, (boxes content 0 content.length).items.find? (·.kind = moov) = some box ∧
      index = slice content box.start box.stop :=
  topLevelFrom_eq_ok rfl h

end

end LockIn.Files.MediaProbe
