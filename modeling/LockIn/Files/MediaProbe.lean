import LockIn.Library.Binary64
import LockIn.Library.ByteFields
import LockIn.Library.Walks

/-!
# Probing a video

The length of a short clip is read from its container, an MP4 or a WebM, without a decoder.  Both are
trees of sized parts.  A part is read as far as its size says, whatever the size is, and what cannot
be followed is reported as damaged.
-/

namespace LockIn.Files.MediaProbe

open ByteFields (Bytes slice bigEndian)

/-- What is raised: the `MediaProbeError` of the module, or an exception of the language. -/
inductive Raised where
  | probe (message : String)
  | structError
  | indexError
  | overflowError
  | stopIteration
  | valueError
deriving DecidableEq

abbrev Probing := Except Raised

def damagedMessage : String := "The video file is damaged or incomplete."

def damaged : Raised := .probe damagedMessage

structure VideoProbe where
  durationMs : ℤ
deriving DecidableEq

/-- `data[offset]` -/
def byteAt (data : Bytes) (offset : Nat) : Probing Nat :=
  match data[offset]? with
  | some byte => .ok byte.toNat
  | none => .error .indexError

/-- `struct.unpack` of one number of `width` bytes. -/
def unpack (width : Nat) (field : Bytes) : Probing Nat :=
  if field.length = width then .ok (bigEndian field) else .error .structError

/-- `struct.unpack` of two numbers. -/
def unpackPair (first second : Nat) (field : Bytes) : Probing (Nat × Nat) :=
  if field.length = first + second then
    .ok (bigEndian (field.take first), bigEndian (field.drop first))
  else .error .structError

/-- A file and where it is read. -/
structure Stream where
  content : Bytes
  position : Nat

def Stream.seek (stream : Stream) (offset : Nat) : Stream := { stream with position := offset }

def Stream.read (stream : Stream) (size : Nat) : Stream × Bytes :=
  let data := (stream.content.drop stream.position).take size
  ({ stream with position := stream.position + data.length }, data)

def maxMoovBytes : Nat := 16 * 1024 * 1024

def moov : Bytes := [0x6d, 0x6f, 0x6f, 0x76]
def mvhd : Bytes := [0x6d, 0x76, 0x68, 0x64]
def mvex : Bytes := [0x6d, 0x76, 0x65, 0x78]
def mehd : Bytes := [0x6d, 0x65, 0x68, 0x64]
def trak : Bytes := [0x74, 0x72, 0x61, 0x6b]
def mdia : Bytes := [0x6d, 0x64, 0x69, 0x61]
def hdlr : Bytes := [0x68, 0x64, 0x6c, 0x72]
def vide : Bytes := [0x76, 0x69, 0x64, 0x65]

structure Box where
  kind : Bytes
  start : Nat
  stop : Nat
deriving DecidableEq

/-- The kind of a box, the length of its header and its size, of which `large` is the 64-bit form and
`left` what is left of its parent. -/
def boxHeader (head large : Bytes) (left : Nat) : Probing (Bytes × Nat × Nat) :=
  if head.length ≠ 8 then .error .structError
  else
    let size := bigEndian (head.take 4)
    if size = 1 then (unpack 8 large).map fun size => (head.drop 4, 16, size)
    else if size = 0 then .ok (head.drop 4, 8, left)
    else .ok (head.drop 4, 8, size)

/-- The loop of `_boxes`.  A box has at least eight bytes, so that as many rounds as there are bytes
are more than enough. -/
def boxesFrom (data : Bytes) (stop : Nat) : Nat → Nat → Walk Raised Box
  | 0, _ => ⟨[], none⟩
  | rounds + 1, offset =>
    if offset + 8 ≤ stop then
      match boxHeader (slice data offset (offset + 8)) (slice data (offset + 8) (offset + 16))
          (stop - offset) with
      | .error reason => ⟨[], some reason⟩
      | .ok (kind, header, size) =>
        if size < header ∨ stop < offset + size then ⟨[], some damaged⟩
        else
          let later := boxesFrom data stop rounds (offset + size)
          ⟨⟨kind, offset + header, offset + size⟩ :: later.items, later.failure⟩
    else ⟨[], none⟩

def boxes (data : Bytes) (start stop : Nat) : Walk Raised Box :=
  boxesFrom data stop (stop - start) start

def noIndexMessage : String :=
  "The video has no playable index (moov). Re-export it as a standard MP4 (H.264)."

/-- The loop of `_read_top_level_moov`. -/
def topLevelFrom (size : Nat) : Nat → Nat → Stream → Stream × Probing Bytes
  | 0, _, stream => (stream, .error (.probe noIndexMessage))
  | rounds + 1, offset, stream =>
    if offset + 8 ≤ size then
      let (stream, header) := (stream.seek offset).read 16
      match boxHeader (header.take 8) (slice header 8 16) (size - offset) with
      | .error reason => (stream, .error reason)
      | .ok (kind, headerSize, boxSize) =>
        if boxSize < headerSize ∨ size < offset + boxSize then (stream, .error damaged)
        else if kind = moov then
          if maxMoovBytes < boxSize then
            (stream, .error (.probe "The video's index is too large for a short loop."))
          else
            let (stream, data) := (stream.seek (offset + headerSize)).read (boxSize - headerSize)
            (stream, .ok data)
        else topLevelFrom size rounds (offset + boxSize) stream
    else (stream, .error (.probe noIndexMessage))

def readTopLevelMoov (stream : Stream) (size : Nat) : Stream × Probing Bytes :=
  topLevelFrom size size 0 stream

/-- Timescale and duration of the movie header at `start`. -/
def movieHeader (data : Bytes) (start : Nat) : Probing (Nat × Nat) := do
  let version ← byteAt data start
  if version = 1 then unpackPair 4 8 (slice data (start + 20) (start + 32))
  else unpackPair 4 4 (slice data (start + 12) (start + 20))

/-- The duration of the fragments at `start`. -/
def fragmentHeader (data : Bytes) (start : Nat) : Probing Nat := do
  let version ← byteAt data start
  let width := if version = 1 then 8 else 4
  unpack width (slice data (start + 4) (start + 4 + width))

def isVideoHandler (data : Bytes) (sub : Box) : Bool :=
  sub.kind = hdlr && slice data (sub.start + 8) (sub.start + 12) = vide

def trakIsVideo (data : Bytes) (box : Box) : Probing Bool :=
  (boxes data box.start box.stop).any fun media =>
    if media.kind = mdia then
      (boxes data media.start media.stop).any fun sub => .ok (isVideoHandler data sub)
    else .ok false

structure Mp4 where
  timescale : Nat
  duration : Nat
  fragmentDuration : Nat
  hasVideo : Bool

def fragmentsOf (data : Bytes) (box : Box) (state : Mp4) : Probing Mp4 :=
  (boxes data box.start box.stop).forEach (fun state sub =>
    if sub.kind = mehd then
      (fragmentHeader data sub.start).map fun duration => { state with fragmentDuration := duration }
    else .ok state) state

def stepMp4 (data : Bytes) (state : Mp4) (box : Box) : Probing Mp4 :=
  if box.kind = mvhd then
    (movieHeader data box.start).map fun header =>
      { state with timescale := header.1, duration := header.2 }
  else if box.kind = mvex then fragmentsOf data box state
  else if box.kind = trak then
    if state.hasVideo then .ok state
    else (trakIsVideo data box).map fun found => { state with hasVideo := found }
  else .ok state

def unstated (duration : Nat) : Bool := duration ∈ [0, 0xFFFFFFFF, 0xFFFFFFFFFFFFFFFF]

def Mp4.length (state : Mp4) : Nat :=
  if unstated state.duration then state.fragmentDuration else state.duration

/-- `round(duration * 1000 / timescale)`, where the quotient is a floating-point number. -/
def milliseconds (duration timescale : Nat) : ℤ :=
  Binary64.nearest (Binary64.round (duration * 1000 / timescale))

def Mp4.result (state : Mp4) : Probing VideoProbe :=
  if !state.hasVideo then .error (.probe "The file has no video track.")
  else if state.timescale = 0 ∨ state.length = 0 then
    .error (.probe "The video does not state its length. Re-export it as MP4 or WebM.")
  else .ok ⟨milliseconds state.length state.timescale⟩

def probeMoov (data : Bytes) : Probing VideoProbe := do
  let state ← (boxes data 0 data.length).forEach (stepMp4 data) ⟨0, 0, 0, false⟩
  state.result

def probeMp4 (stream : Stream) (size : Nat) : Stream × Probing VideoProbe :=
  let (stream, index) := readTopLevelMoov stream size
  (stream, index >>= probeMoov)

inductive Value where
  | nan
  | infinite (negative : Bool)
  | finite (value : ℚ)
deriving DecidableEq

def decode (exponentBits fractionBits bits : Nat) : Value :=
  let sign := bits / 2 ^ (exponentBits + fractionBits)
  let exponent := bits / 2 ^ fractionBits % 2 ^ exponentBits
  let fraction := bits % 2 ^ fractionBits
  let bias : ℤ := 2 ^ (exponentBits - 1) - 1
  if exponent = 2 ^ exponentBits - 1 then if fraction = 0 then .infinite (sign = 1) else .nan
  else if exponent = 0 then .finite ((-1) ^ sign * fraction * 2 ^ (1 - bias - fractionBits))
  else .finite ((-1) ^ sign * (2 ^ fractionBits + fraction) * 2 ^ (exponent - bias - fractionBits))

def toDouble (value : ℚ) : Value :=
  let quantum : ℚ := 2 ^ max (Int.log 2 |value| - 52) (-1074)
  let rounded := Binary64.nearest (value / quantum) * quantum
  if 2 ^ 1024 ≤ |rounded| then .infinite (value < 0) else .finite rounded

/-- `float(value)` of an integer; what would become infinite is an overflow. -/
def floatOf (value : Nat) : Probing ℚ :=
  match toDouble value with
  | .finite double => .ok double
  | _ => .error .overflowError

/-- `duration * scale`, where the scale is above zero. -/
def Value.times (value : Value) (factor : ℚ) : Value :=
  match value with
  | .nan => .nan
  | .infinite negative => .infinite negative
  | .finite rational => toDouble (rational * factor)

/-- `duration / 1_000_000` -/
def Value.overMillion (value : Value) : Value :=
  match value with
  | .nan => .nan
  | .infinite negative => .infinite negative
  | .finite rational => toDouble (rational / 1000000)

def Value.round (value : Value) : Probing ℤ :=
  match value with
  | .nan => .error .valueError
  | .infinite _ => .error .overflowError
  | .finite rational => .ok (Binary64.nearest rational)

/-- Neither `not duration` nor `duration <= 0`. -/
def Value.stated (value : Value) : Bool :=
  match value with
  | .nan => true
  | .infinite negative => !negative
  | .finite rational => 0 < rational

def maxEbmlHeaderBytes : Nat := 4096
def maxWebmScanBytes : Nat := 8 * 1024 * 1024

def ebmlId : Nat := 0x1A45DFA3
def docTypeId : Nat := 0x4282
def segmentId : Nat := 0x18538067
def infoId : Nat := 0x1549A966
def timecodeScaleId : Nat := 0x2AD7B1
def durationId : Nat := 0x4489
def tracksId : Nat := 0x1654AE6B
def trackEntryId : Nat := 0xAE
def trackTypeId : Nat := 0x83
def clusterId : Nat := 0x1F43B675

def vintLength (first : Nat) : Nat → Nat → Nat → Nat × Nat
  | 0, length, mask => (length, mask)
  | rounds + 1, length, mask =>
    if length ≤ 8 ∧ first &&& mask = 0 then vintLength first rounds (length + 1) (mask >>> 1)
    else (length, mask)

def vintBytes (data : Bytes) (offset : Nat) : List Nat → Nat → Bool → Probing (Nat × Bool)
  | [], value, allOnes => .ok (value, allOnes)
  | index :: rest, value, allOnes => do
    let byte ← byteAt data (offset + index)
    vintBytes data offset rest (value <<< 8 ||| byte) (allOnes && byte = 0xFF)

/-- `_vint`; no value stands for the unknown size. -/
def vint (data : Bytes) (offset : Nat) (keepMarker : Bool) : Probing (Option Nat × Nat) := do
  let first ← byteAt data offset
  let (length, mask) := vintLength first 8 1 0x80
  if 8 < length then .error damaged
  else
    let value := if keepMarker then first else first &&& (mask - 1)
    let allOnes := value = mask - 1 && !keepMarker
    let (value, allOnes) ← vintBytes data offset (List.range' 1 (length - 1)) value allOnes
    .ok (if allOnes then none else some value, offset + length)

structure Element where
  id : Nat
  start : Nat
  stop : Nat

/-- What the loop of `_elements` reads of one element: its id and size and where it starts. -/
def elementHeader (data : Bytes) (offset : Nat) : Probing (Nat × Option Nat × Nat) := do
  let (id, offset) ← vint data offset true
  let (size, offset) ← vint data offset false
  .ok (id.getD 0, size, offset)

/-- The loop of `_elements`.  An element has at least two bytes. -/
def elementsFrom (data : Bytes) (stop : Nat) : Nat → Nat → Walk Raised Element
  | 0, _ => ⟨[], none⟩
  | rounds + 1, offset =>
    if offset < stop then
      match elementHeader data offset with
      | .error reason => ⟨[], some reason⟩
      | .ok (id, none, start) => ⟨[⟨id, start, stop⟩], none⟩
      | .ok (id, some size, start) =>
        let later := elementsFrom data stop rounds (start + size)
        ⟨⟨id, start, min (start + size) stop⟩ :: later.items, later.failure⟩
    else ⟨[], none⟩

def elements (data : Bytes) (start stop : Nat) : Walk Raised Element :=
  elementsFrom data stop (stop - start) start

def uint (data : Bytes) (element : Element) : Nat :=
  if element.start < element.stop then bigEndian (slice data element.start element.stop) else 0

def childrenOf (data : Bytes) (element : Element) : Walk Raised Element :=
  elements data element.start element.stop

structure WebM where
  scale : Nat
  duration : Option Value
  hasVideo : Bool

def durationField (data : Bytes) (child : Element) (state : WebM) : Probing WebM :=
  let field := slice data child.start child.stop
  if child.stop - child.start = 4 then
    (unpack 4 field).map fun bits => { state with duration := some (decode 8 23 bits) }
  else if child.stop - child.start = 8 then
    (unpack 8 field).map fun bits => { state with duration := some (decode 11 52 bits) }
  else .ok state

def stepInfo (data : Bytes) (state : WebM) (child : Element) : Probing WebM :=
  if child.id = timecodeScaleId then
    .ok { state with scale := if uint data child ≠ 0 then uint data child else state.scale }
  else if child.id = durationId then durationField data child state
  else .ok state

def stepField (data : Bytes) (state : WebM) (field : Element) : Probing WebM :=
  .ok (if field.id = trackTypeId ∧ uint data field = 1 then { state with hasVideo := true } else state)

def stepTracks (data : Bytes) (state : WebM) (entry : Element) : Probing WebM :=
  if entry.id ≠ trackEntryId then .ok state
  else (childrenOf data entry).forEach (stepField data) state

def stepSegment (data : Bytes) (state : WebM) (element : Element) : Probing WebM :=
  if element.id = infoId then (childrenOf data element).forEach (stepInfo data) state
  else if element.id = tracksId then (childrenOf data element).forEach (stepTracks data) state
  else .ok state

def noLengthMessage : String :=
  "The WebM does not state its length (common for screen recordings). Re-export it, or upload an MP4."

/-- `round(duration * scale / 1_000_000)` -/
def scaled (duration : Value) (scale : Nat) : Probing VideoProbe := do
  let factor ← floatOf scale
  let durationMs ← (duration.times factor).overMillion.round
  .ok ⟨durationMs⟩

def WebM.result (state : WebM) : Probing VideoProbe :=
  if !state.hasVideo then .error (.probe "The file has no video track.")
  else
    match state.duration with
    | none => .error (.probe noLengthMessage)
    | some duration =>
      if duration.stated then scaled duration state.scale else .error (.probe noLengthMessage)

def segmentParts (data : Bytes) (segment : Element) : Walk Raised Element :=
  (childrenOf data segment).upTo fun element => element.id = clusterId

def probeSegment (data : Bytes) (segment : Element) : Probing VideoProbe := do
  let state ← (segmentParts data segment).forEach (stepSegment data) ⟨1000000, none, false⟩
  state.result

/-- `data.rstrip(b"\\x00")` -/
def stripZeros (data : Bytes) : Bytes := (data.reverse.dropWhile (· = 0)).reverse

def docTypes : List Bytes :=
  [[0x77, 0x65, 0x62, 0x6d], [0x6d, 0x61, 0x74, 0x72, 0x6f, 0x73, 0x6b, 0x61]]

def findSegment (data : Bytes) : Probing Element := do
  let top := elements data 0 data.length
  match top.items.head? with
  | none => top.finish () >>= fun _ => .error .stopIteration
  | some header =>
    if header.id ≠ ebmlId ∨ maxEbmlHeaderBytes < header.stop - header.start then
      .error (.probe "The file is not a WebM video.")
    else
      let docType ← (childrenOf data header).first fun element =>
        if element.id = docTypeId then some (slice data element.start element.stop) else none
      if stripZeros (docType.getD []) ∉ docTypes then .error (.probe "The file is not a WebM video.")
      else
        let segment ← top.rest.first fun element =>
          if element.id = segmentId then some element else none
        match segment with
        | none => .error damaged
        | some segment => .ok segment

def probeWebm (stream : Stream) (size : Nat) : Stream × Probing VideoProbe :=
  let (stream, data) := stream.read (min size maxWebmScanBytes)
  (stream, findSegment data >>= probeSegment data)

/-- `except (struct.error, IndexError, OverflowError)` -/
def translate (result : Probing VideoProbe) : Probing VideoProbe :=
  match result with
  | .error .structError => .error damaged
  | .error .indexError => .error damaged
  | .error .overflowError => .error damaged
  | other => other

/-- `probe_video`; whatever happens, the stream is put back to its beginning. -/
def probeVideo (stream : Stream) (contentType : String) : Stream × Probing VideoProbe :=
  let size := stream.content.length
  let stream := stream.seek 0
  if contentType = "video/mp4" then
    let (stream, result) := probeMp4 stream size
    (stream.seek 0, translate result)
  else if contentType = "video/webm" then
    let (stream, result) := probeWebm stream size
    (stream.seek 0, translate result)
  else (stream.seek 0, .error (.probe "Only MP4 and WebM videos can be checked."))

end LockIn.Files.MediaProbe
