import LockIn.Files.IndexReading
import LockIn.Library.Matched

/-!
# Box trees

An MP4 file as it is meant to be written: a sequence of boxes, one of them the index, in which there
are a movie header, tracks with their handlers, and the duration of the fragments.  The size of a box
has 32 bits or 64 bits, or is left out where the box goes to the end of its parent.  A tree that is
not well formed cannot be stated.
-/

namespace LockIn.Files.MediaProbe

open ByteFields (Bytes slice bigEndian encode)
open List

inductive Form where
  | small
  | large
  | toEnd
deriving DecidableEq

def Form.width : Form → Nat
  | .small => 8
  | .large => 16
  | .toEnd => 8

/-- A box of which only the kind is looked at. -/
structure Chunk where
  form : Form
  kind : Bytes
  payload : Bytes

namespace Chunk

def size (chunk : Chunk) : Nat := chunk.form.width + chunk.payload.length

def sizeField (chunk : Chunk) : Nat :=
  match chunk.form with
  | .small => chunk.size
  | .large => 1
  | .toEnd => 0

def largeField (chunk : Chunk) : Bytes :=
  match chunk.form with
  | .large => encode 8 chunk.size
  | _ => []

def bytes (chunk : Chunk) : Bytes :=
  (encode 4 chunk.sizeField ++ chunk.kind) ++ (chunk.largeField ++ chunk.payload)

/-- The kind has four bytes and the size fits where it is written. -/
structure Valid (chunk : Chunk) : Prop where
  kind : chunk.kind.length = 4
  small : chunk.form = .small → chunk.size < 256 ^ 4
  large : chunk.form = .large → chunk.size < 256 ^ 8

variable {chunk : Chunk}

theorem length_bytes (h : chunk.Valid) : chunk.bytes.length = chunk.size := by
  rw [bytes, size]
  simp only [length_append, ByteFields.length_encode, h.kind, largeField]
  cases hform : chunk.form with
  | small =>
    simp only [Form.width, length_nil]
    omega
  | large =>
    simp only [Form.width, ByteFields.length_encode]
    omega
  | toEnd =>
    simp only [Form.width, length_nil]
    omega

theorem sizeField_lt (h : chunk.Valid) : chunk.sizeField < 256 ^ 4 := by
  unfold sizeField
  cases hform : chunk.form with
  | small => exact h.small hform
  | large => norm_num
  | toEnd => norm_num

end Chunk

/-- A sequence of boxes.  Only the last one may go to the end. -/
structure Laid {α : Type} (chunkOf : α → Chunk) where
  parts : List α
  valid : ∀ part ∈ parts, (chunkOf part).Valid
  closed : ∀ part ∈ parts.dropLast, (chunkOf part).form ≠ .toEnd

def Laid.bytes {α : Type} {chunkOf : α → Chunk} (laid : Laid chunkOf) : Bytes :=
  laid.parts.flatMap fun part => (chunkOf part).bytes

structure Located (data : Bytes) (box : Box) (chunk : Chunk) : Prop where
  kind : box.kind = chunk.kind
  payload : ∃ before after, data = before ++ (chunk.payload ++ after) ∧ box.start = before.length ∧
    box.stop = before.length + chunk.payload.length

section
variable {α : Type} {chunkOf : α → Chunk} {chunk : Chunk} {data before after : Bytes} {stop : Nat}

theorem boxHeader_bytes (hvalid : chunk.Valid)
    (hend : chunk.form = .toEnd → stop = before.length + chunk.size) :
    boxHeader (slice (before ++ (chunk.bytes ++ after)) before.length (before.length + 8))
      (slice (before ++ (chunk.bytes ++ after)) (before.length + 8) (before.length + 16))
      (stop - before.length) = .ok (chunk.kind, chunk.form.width, chunk.size) := by
  have hopening : (encode 4 chunk.sizeField ++ chunk.kind).length = 8 := by
    rw [length_append, ByteFields.length_encode, hvalid.kind]
  have hhead : slice (before ++ (chunk.bytes ++ after)) before.length (before.length + 8) =
      encode 4 chunk.sizeField ++ chunk.kind := by
    rw [Chunk.bytes, append_assoc, ← hopening]
    exact ByteFields.slice_part before _ _
  have htake : (encode 4 chunk.sizeField ++ chunk.kind).take 4 = encode 4 chunk.sizeField := by
    rw [take_left' (ByteFields.length_encode _ _)]
  have hdrop : (encode 4 chunk.sizeField ++ chunk.kind).drop 4 = chunk.kind := by
    rw [drop_left' (ByteFields.length_encode _ _)]
  rw [hhead, boxHeader, if_neg (not_not.2 hopening)]
  simp only [htake, hdrop, ByteFields.bigEndian_encode (Chunk.sizeField_lt hvalid)]
  cases hform : chunk.form with
  | small =>
    have hsize : chunk.size = 8 + chunk.payload.length := by rw [Chunk.size, hform, Form.width]
    have hfield : chunk.sizeField = chunk.size := by rw [Chunk.sizeField, hform]
    rw [hfield, if_neg (by omega), if_neg (by omega)]
    rfl
  | large =>
    have hfield : chunk.sizeField = 1 := by rw [Chunk.sizeField, hform]
    have hlarge : chunk.largeField = encode 8 chunk.size := by rw [Chunk.largeField, hform]
    have hslice : slice (before ++ (chunk.bytes ++ after)) (before.length + 8)
        (before.length + 16) = encode 8 chunk.size := by
      have hpart := ByteFields.slice_part (before ++ (encode 4 chunk.sizeField ++ chunk.kind))
        chunk.largeField (chunk.payload ++ after)
      rw [length_append, hopening, hlarge, ByteFields.length_encode] at hpart
      rw [Chunk.bytes, hlarge]
      simp only [append_assoc] at hpart ⊢
      exact hpart
    rw [hfield, if_pos rfl, hslice, unpack, if_pos (ByteFields.length_encode _ _),
      ByteFields.bigEndian_encode (hvalid.large hform)]
    rfl
  | toEnd =>
    have hfield : chunk.sizeField = 0 := by rw [Chunk.sizeField, hform]
    rw [hfield, if_neg (by omega), if_pos rfl, hend hform, Nat.add_sub_cancel_left]
    rfl

theorem located_bytes (hvalid : chunk.Valid) :
    Located (before ++ (chunk.bytes ++ after))
      ⟨chunk.kind, before.length + chunk.form.width, before.length + chunk.size⟩ chunk := by
  have hwidth : ((encode 4 chunk.sizeField ++ chunk.kind) ++ chunk.largeField).length =
      chunk.form.width := by
    simp only [length_append, ByteFields.length_encode, hvalid.kind, Chunk.largeField]
    cases chunk.form with
    | small => rfl
    | large => rw [ByteFields.length_encode, Form.width]
    | toEnd => rfl
  refine ⟨rfl, before ++ ((encode 4 chunk.sizeField ++ chunk.kind) ++ chunk.largeField), after,
    ?_, ?_, ?_⟩
  · rw [Chunk.bytes]
    simp only [append_assoc]
  · rw [length_append, hwidth]
  · rw [length_append, hwidth, Chunk.size, Nat.add_assoc]

/-- Walking over a sequence of boxes yields them in order, and does not fail. -/
theorem boxes_bytes {parts : List α} (hvalid : ∀ part ∈ parts, (chunkOf part).Valid)
    (hclosed : ∀ part ∈ parts.dropLast, (chunkOf part).form ≠ .toEnd)
    (hdata : data = before ++ ((parts.flatMap fun part => (chunkOf part).bytes) ++ after))
    (hstop : stop = before.length + (parts.flatMap fun part => (chunkOf part).bytes).length) :
    (boxes data before.length stop).failure = none ∧
      List.Forall₂ (fun box part => Located data box (chunkOf part))
        (boxes data before.length stop).items parts := by
  induction parts generalizing before with
  | nil =>
    rw [flatMap_nil, length_nil, Nat.add_zero] at hstop
    rw [boxes_done (by omega)]
    exact ⟨rfl, .nil⟩
  | cons part rest ih =>
    have hpart := hvalid part mem_cons_self
    have hlength := Chunk.length_bytes hpart
    rw [flatMap_cons, append_assoc] at hdata
    rw [flatMap_cons, length_append, hlength] at hstop
    have hend : (chunkOf part).form = .toEnd → stop = before.length + (chunkOf part).size := by
      intro hform
      cases rest with
      | nil => rw [hstop, flatMap_nil, length_nil, Nat.add_zero]
      | cons next others =>
        exact absurd hform (hclosed part (by rw [dropLast_cons_cons]; exact mem_cons_self))
    have hheader : boxHeader (slice data before.length (before.length + 8))
        (slice data (before.length + 8) (before.length + 16)) (stop - before.length) =
          .ok ((chunkOf part).kind, (chunkOf part).form.width, (chunkOf part).size) := by
      rw [hdata]
      exact boxHeader_bytes hpart hend
    have hwidth : (chunkOf part).form.width ≤ (chunkOf part).size := Nat.le_add_right _ _
    have height : 8 ≤ (chunkOf part).size := (boxHeader_width hheader).trans hwidth
    have hbehind : before.length + (chunkOf part).size =
        (before ++ (chunkOf part).bytes).length := by rw [length_append, hlength]
    have hlater : ∀ other ∈ rest.dropLast, (chunkOf other).form ≠ .toEnd := by
      intro other hother
      cases rest with
      | nil => exact absurd hother not_mem_nil
      | cons next others =>
        refine hclosed other ?_
        rw [dropLast_cons_cons]
        exact mem_cons_of_mem _ hother
    have hrest : (boxes data (before ++ (chunkOf part).bytes).length stop).failure = none ∧
        List.Forall₂ (fun box part => Located data box (chunkOf part))
          (boxes data (before ++ (chunkOf part).bytes).length stop).items rest :=
      ih (fun other hother => hvalid other (mem_cons_of_mem _ hother)) hlater
        (by rw [hdata, append_assoc]) (by rw [← hbehind, hstop, Nat.add_assoc])
    rw [boxes_next (by omega) hheader hwidth (by omega), hbehind]
    refine ⟨hrest.1, .cons ?_ hrest.2⟩
    rw [← hbehind, hdata]
    exact located_bytes hpart

theorem boxes_inside_bytes {box : Box} {form : Form} {kind : Bytes} {laid : Laid chunkOf}
    (h : Located data box ⟨form, kind, laid.bytes⟩) :
    (boxes data box.start box.stop).failure = none ∧
      List.Forall₂ (fun box part => Located data box (chunkOf part))
        (boxes data box.start box.stop).items laid.parts := by
  obtain ⟨before, after, hdata, hstart, hstop⟩ := h.payload
  rw [hstart]
  exact boxes_bytes laid.valid laid.closed hdata hstop

variable {box : Box} {first field last : Bytes} {byte : UInt8}

theorem located_field (h : Located data box chunk) (hpayload : chunk.payload = first ++ (field ++ last)) :
    slice data (box.start + first.length) (box.start + first.length + field.length) = field ∧
      box.start + first.length + field.length ≤ data.length := by
  obtain ⟨before, after, hdata, hstart, -⟩ := h.payload
  have hsplit : data = (before ++ first) ++ (field ++ (last ++ after)) := by
    rw [hdata, hpayload]
    simp only [append_assoc]
  rw [hstart, ← length_append]
  constructor
  · rw [hsplit]
    exact ByteFields.slice_part _ _ _
  · rw [hsplit]
    simp only [length_append]
    omega

theorem located_version (h : Located data box chunk) (hpayload : chunk.payload = byte :: last) :
    data[box.start]? = some byte := by
  obtain ⟨before, after, hdata, hstart, -⟩ := h.payload
  rw [hdata, hstart, hpayload, getElem?_append_right le_rfl, Nat.sub_self]
  rfl

end

def versionByte (long : Bool) : UInt8 := if long then 1 else 0

def durationWidth (long : Bool) : Nat := if long then 8 else 4

/-- `mvhd`.  Before the timescale there are flags and times, and they are longer in version 1. -/
structure MovieHeader where
  long : Bool
  opening : Bytes
  timescale : Nat
  duration : Nat
  rest : Bytes
  opening_length : opening.length = if long then 19 else 11
  timescale_lt : timescale < 256 ^ 4
  duration_lt : duration < 256 ^ durationWidth long

def MovieHeader.payload (header : MovieHeader) : Bytes :=
  (versionByte header.long :: header.opening) ++ (encode 4 header.timescale ++
    (encode (durationWidth header.long) header.duration ++ header.rest))

/-- `mehd` -/
structure FragmentHeader where
  long : Bool
  flags : Bytes
  duration : Nat
  rest : Bytes
  flags_length : flags.length = 3
  duration_lt : duration < 256 ^ durationWidth long

def FragmentHeader.payload (header : FragmentHeader) : Bytes :=
  (versionByte header.long :: header.flags) ++
    (encode (durationWidth header.long) header.duration ++ header.rest)

/-- `hdlr` -/
structure Handler where
  opening : Bytes
  type : Bytes
  rest : Bytes
  opening_length : opening.length = 8
  type_length : type.length = 4

def Handler.payload (handler : Handler) : Bytes := handler.opening ++ (handler.type ++ handler.rest)

section
variable {data : Bytes} {box : Box} {form : Form} {kind : Bytes}

theorem isLong_of_version {long : Bool} (h : data[box.start]? = some (versionByte long)) :
    isLong data box.start = long := by
  rw [isLong, h]
  cases long <;> decide

theorem located_header {header : MovieHeader} (h : Located data box ⟨form, kind, header.payload⟩) :
    (timescaleField data box.start).value data = header.timescale ∧
      (movieDurationField data box.start).value data = header.duration ∧
      (movieDurationField data box.start).stop ≤ data.length := by
  have hlong : isLong data box.start = header.long :=
    isLong_of_version (located_version h (by rw [MovieHeader.payload, cons_append]))
  have htimescale := located_field h rfl
  have hduration := located_field h (by
    rw [MovieHeader.payload, ← append_assoc] :
      header.payload = ((versionByte header.long :: header.opening) ++ encode 4 header.timescale) ++
        (encode (durationWidth header.long) header.duration ++ header.rest))
  simp only [length_append, length_cons, header.opening_length,
    ByteFields.length_encode] at htimescale hduration
  unfold timescaleField movieDurationField Field.value
  have htime := ByteFields.bigEndian_encode header.timescale_lt
  have hlast := ByteFields.bigEndian_encode header.duration_lt
  rw [hlong]
  cases hversion : header.long with
  | true =>
    rw [hversion] at htimescale hduration hlast
    simp only [if_true, durationWidth, Nat.add_assoc, Nat.reduceAdd] at *
    rw [htimescale.1, hduration.1]
    exact ⟨htime, hlast, hduration.2⟩
  | false =>
    rw [hversion] at htimescale hduration hlast
    simp only [Bool.false_eq_true, if_false, durationWidth, Nat.add_assoc, Nat.reduceAdd] at *
    rw [htimescale.1, hduration.1]
    exact ⟨htime, hlast, hduration.2⟩

theorem located_fragments {header : FragmentHeader}
    (h : Located data box ⟨form, kind, header.payload⟩) :
    (fragmentDurationField data box.start).value data = header.duration ∧
      (fragmentDurationField data box.start).stop ≤ data.length := by
  have hlong : isLong data box.start = header.long :=
    isLong_of_version (located_version h (by rw [FragmentHeader.payload, cons_append]))
  have hduration := located_field h rfl
  simp only [length_cons, header.flags_length, ByteFields.length_encode] at hduration
  unfold fragmentDurationField Field.value
  have hlast := ByteFields.bigEndian_encode header.duration_lt
  rw [hlong]
  cases hversion : header.long with
  | true =>
    rw [hversion] at hduration hlast
    simp only [if_true, durationWidth, Nat.add_assoc, Nat.reduceAdd] at *
    rw [hduration.1]
    exact ⟨hlast, hduration.2⟩
  | false =>
    rw [hversion] at hduration hlast
    simp only [Bool.false_eq_true, if_false, durationWidth, Nat.add_assoc, Nat.reduceAdd] at *
    rw [hduration.1]
    exact ⟨hlast, hduration.2⟩

end

/-- A box inside `mdia`. -/
inductive MediaBox where
  | handler (form : Form) (handler : Handler)
  | other (chunk : Chunk) (kind_ne : chunk.kind ≠ hdlr)

def MediaBox.chunk : MediaBox → Chunk
  | .handler form written => ⟨form, hdlr, written.payload⟩
  | .other chunk _ => chunk

def MediaBox.isVideo : MediaBox → Bool
  | .handler _ written => written.type = vide
  | .other _ _ => false

/-- A box inside `trak`. -/
inductive TrackBox where
  | media (form : Form) (boxes : Laid MediaBox.chunk)
  | other (chunk : Chunk) (kind_ne : chunk.kind ≠ mdia)

def TrackBox.chunk : TrackBox → Chunk
  | .media form boxes => ⟨form, mdia, boxes.bytes⟩
  | .other chunk _ => chunk

def TrackBox.isVideo : TrackBox → Bool
  | .media _ boxes => boxes.parts.any MediaBox.isVideo
  | .other _ _ => false

/-- A box inside `mvex`. -/
inductive ExtendsBox where
  | header (form : Form) (header : FragmentHeader)
  | other (chunk : Chunk) (kind_ne : chunk.kind ≠ mehd)

def ExtendsBox.chunk : ExtendsBox → Chunk
  | .header form written => ⟨form, mehd, written.payload⟩
  | .other chunk _ => chunk

def ExtendsBox.duration? : ExtendsBox → Option Nat
  | .header _ written => some written.duration
  | .other _ _ => none

/-- A box inside `moov`. -/
inductive MovieBox where
  | header (form : Form) (header : MovieHeader)
  | fragments (form : Form) (boxes : Laid ExtendsBox.chunk)
  | track (form : Form) (boxes : Laid TrackBox.chunk)
  | other (chunk : Chunk) (kind_ne : chunk.kind ∉ [mvhd, mvex, trak])

def MovieBox.chunk : MovieBox → Chunk
  | .header form written => ⟨form, mvhd, written.payload⟩
  | .fragments form boxes => ⟨form, mvex, boxes.bytes⟩
  | .track form boxes => ⟨form, trak, boxes.bytes⟩
  | .other chunk _ => chunk

def MovieBox.header? : MovieBox → Option MovieHeader
  | .header _ written => some written
  | _ => none

def MovieBox.fragmentDurations : MovieBox → List Nat
  | .fragments _ boxes => boxes.parts.filterMap ExtendsBox.duration?
  | _ => []

def MovieBox.isVideo : MovieBox → Bool
  | .track _ boxes => boxes.parts.any TrackBox.isVideo
  | _ => false

def MovieBox.stated : MovieBox → List Stated
  | .header _ written => [.header written.timescale written.duration]
  | .fragments _ boxes => (boxes.parts.filterMap ExtendsBox.duration?).map .fragments
  | .track _ boxes => if boxes.parts.any TrackBox.isVideo then [.video] else []
  | .other _ _ => []

section
variable {data : Bytes} {box : Box}

theorem located_media {part : MediaBox} (h : Located data box part.chunk) :
    isVideoHandler data box = part.isVideo := by
  cases part with
  | handler form written =>
    have hkind : box.kind = hdlr := h.kind
    have hfield := (located_field h rfl).1
    rw [written.opening_length, written.type_length] at hfield
    rw [isVideoHandler, decide_eq_true hkind, Bool.true_and, hfield, MediaBox.isVideo]
  | other chunk hne =>
    have hkind : box.kind ≠ hdlr := fun heq => hne (h.kind.symm.trans heq)
    rw [isVideoHandler, decide_eq_false hkind, Bool.false_and, MediaBox.isVideo]

theorem located_trackBox {part : TrackBox} (h : Located data box part.chunk) :
    (if box.kind = mdia then
      (boxes data box.start box.stop).any fun sub => .ok (isVideoHandler data sub)
    else .ok false) = Except.ok (ε := Raised) part.isVideo := by
  cases part with
  | media form laid =>
    have hkind : box.kind = mdia := h.kind
    obtain ⟨hfailure, hparts⟩ := boxes_inside_bytes h
    rw [if_pos hkind]
    exact Walk.any_eq_ok hfailure hparts fun _ _ hpart => congrArg Except.ok (located_media hpart)
  | other chunk hne =>
    have hkind : box.kind ≠ mdia := fun heq => hne (h.kind.symm.trans heq)
    rw [if_neg hkind]
    rfl

theorem located_track {form : Form} {laid : Laid TrackBox.chunk}
    (h : Located data box ⟨form, trak, laid.bytes⟩) :
    trakIsVideo data box = .ok (laid.parts.any TrackBox.isVideo) := by
  obtain ⟨hfailure, hparts⟩ := boxes_inside_bytes h
  exact Walk.any_eq_ok hfailure hparts fun _ _ => located_trackBox

theorem located_extendsBox {part : ExtendsBox} (h : Located data box part.chunk) :
    (fragmentFindings box).map (Finding.stated data) = part.duration?.toList.map .fragments ∧
      (box.kind = mehd → (fragmentDurationField data box.start).stop ≤ data.length) := by
  cases part with
  | header form written =>
    have hkind : box.kind = mehd := h.kind
    have hfield := located_fragments h
    refine ⟨?_, fun _ => hfield.2⟩
    rw [fragmentFindings, if_pos hkind, map_singleton, Finding.stated, hfield.1]
    rfl
  | other chunk hne =>
    have hkind : box.kind ≠ mehd := fun heq => hne (h.kind.symm.trans heq)
    rw [fragmentFindings, if_neg hkind]
    exact ⟨rfl, fun heq => absurd heq hkind⟩

theorem located_movieBox {part : MovieBox} (h : Located data box part.chunk) :
    (findings data box).map (Finding.stated data) = part.stated ∧
      ∀ seen, Readable data seen box := by
  have hmvex : mvhd ≠ mvex := by decide
  have htrak : mvhd ≠ trak := by decide
  have hextends : mvex ≠ trak := by decide
  cases part with
  | header form written =>
    have hkind : box.kind = mvhd := h.kind
    have hfields := located_header h
    refine ⟨?_, fun _ => ⟨fun _ => hfields.2.2, fun heq => absurd (hkind.symm.trans heq) hmvex,
      fun heq => absurd (hkind.symm.trans heq) htrak⟩⟩
    rw [findings, if_pos hkind, map_singleton, Finding.stated, hfields.1, hfields.2.1]
    rfl
  | fragments form laid =>
    have hkind : box.kind = mvex := h.kind
    obtain ⟨hfailure, hparts⟩ := boxes_inside_bytes h
    refine ⟨?_, fun _ => ⟨fun heq => absurd (heq.symm.trans hkind) hmvex,
      fun _ => ⟨hfailure, fun sub hsub hmehd => ?_⟩,
      fun heq => absurd (hkind.symm.trans heq) hextends⟩⟩
    · rw [findings, if_neg (fun heq => hmvex (heq.symm.trans hkind)), if_pos hkind,
        map_flatMap, Matched.flatMap_eq hparts fun _ _ hpart => (located_extendsBox hpart).1,
        MovieBox.stated, filterMap_eq_flatMap_toList, map_flatMap]
    · obtain ⟨part, -, hpart⟩ := Matched.exists_right hparts hsub
      exact (located_extendsBox hpart).2 hmehd
  | track form laid =>
    have hkind : box.kind = trak := h.kind
    have hvideo := located_track h
    refine ⟨?_, fun _ => ⟨fun heq => absurd (heq.symm.trans hkind) htrak,
      fun heq => absurd (heq.symm.trans hkind) hextends, fun _ _ => ⟨_, hvideo⟩⟩⟩
    rw [findings, if_neg (fun heq => htrak (heq.symm.trans hkind)),
      if_neg (fun heq => hextends (heq.symm.trans hkind)), if_pos hkind, hvideo, MovieBox.stated]
    cases laid.parts.any TrackBox.isVideo with
    | true => rfl
    | false => rfl
  | other chunk hne =>
    have hkind : box.kind ∉ [mvhd, mvex, trak] := fun hin => hne (h.kind ▸ hin)
    simp only [mem_cons, not_mem_nil, or_false, not_or] at hkind
    rw [findings, if_neg hkind.1, if_neg hkind.2.1, if_neg hkind.2.2]
    exact ⟨rfl, fun _ => ⟨fun heq => absurd heq hkind.1, fun heq => absurd heq hkind.2.1,
      fun heq => absurd heq hkind.2.2⟩⟩

theorem index_bytes (index : Laid MovieBox.chunk) :
    Followable index.bytes ∧
      found index.bytes (allFindings index.bytes) = recalled (index.parts.flatMap MovieBox.stated) := by
  have hdata : index.bytes = [] ++ (index.bytes ++ []) := by rw [append_nil, nil_append]
  have hstop : index.bytes.length = ([] : Bytes).length + index.bytes.length := by
    rw [length_nil, Nat.zero_add]
  obtain ⟨hfailure, hparts⟩ := boxes_bytes index.valid index.closed hdata hstop
  rw [length_nil] at hfailure hparts
  constructor
  · refine ⟨hfailure, fun before box after hsplit => ?_⟩
    have hin : box ∈ (boxes index.bytes 0 index.bytes.length).items := by
      rw [hsplit]
      exact mem_append_right _ mem_cons_self
    obtain ⟨part, -, hpart⟩ := Matched.exists_right hparts hin
    exact (located_movieBox hpart).2 _
  · rw [found, allFindings, map_flatMap,
      Matched.flatMap_eq hparts fun _ _ hpart => (located_movieBox hpart).1]

end

end LockIn.Files.MediaProbe
