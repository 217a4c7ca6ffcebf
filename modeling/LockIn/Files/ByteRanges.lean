import LockIn.Library.ByteFields
import LockIn.Library.Whitespace

/-!
# Serving a stored object

An object is read in chunks, whole or from one byte to another, from a local file or from the
provider.  A reader asks for bytes in a header, and the scanner takes the chunks apart into pieces of
its own sizes.
-/

namespace LockIn.Files.Serving

open ByteFields (Bytes slice)
open Whitespace (Text strip)

/-- The groups of `RANGE_PATTERN`.  A header is Latin-1, whose decimal digits are those of ASCII. -/
def rangeParts (value : Text) : Option (Text × Text) :=
  match value with
  | 'b' :: 'y' :: 't' :: 'e' :: 's' :: '=' :: rest =>
    match rest.dropWhile Char.isDigit with
    | '-' :: stop =>
      if stop.all Char.isDigit then some (rest.takeWhile Char.isDigit, stop) else none
    | _ => none
  | _ => none

def number (digits : Text) : Nat := Nat.ofDigitChars 10 digits 0

/-- `_byte_range` -/
def byteRange (value : Text) (size : Nat) : Option (Int × Int) :=
  match rangeParts (strip value) with
  | none => none
  | some (start, stop) =>
    if 20 < start.length ∨ 20 < stop.length then none
    else if start = [] ∧ (stop = [] ∨ number stop = 0) then none
    else
      let first : Int := if start = [] then max 0 (size - number stop) else number start
      let last : Int := if start = [] ∨ stop = [] then size - 1 else number stop
      if size ≤ first ∨ last < first then none else some (first, min last (size - 1))

/-- What the reads from a handle give in turn: chunks, and after them an error or no more bytes. -/
structure Reads where
  chunks : List Bytes
  broken : Bool
deriving DecidableEq

/-- A local file.  Its seeks and its reads fail at some places. -/
structure LocalFile where
  content : Bytes
  seekFails : Nat → Bool
  readFails : Nat → Bool

/-- `_stream_local`, at a place of the file. -/
def streamLocal (file : LocalFile) (chunkSize : Nat) (remaining : Option Nat) (place : Nat) : Reads :=
  if remaining = some 0 then ⟨[], false⟩
  else if file.readFails place then ⟨[], true⟩
  else
    let chunk := (file.content.drop place).take (remaining.elim chunkSize (min chunkSize))
    if _h : chunk = [] then ⟨[], false⟩
    else
      let rest := streamLocal file chunkSize (remaining.map (· - chunk.length)) (place + chunk.length)
      ⟨chunk :: rest.chunks, rest.broken⟩
termination_by file.content.length - place
decreasing_by
  rw [List.take_eq_nil_iff, not_or] at _h
  have hpos := List.length_pos_iff.2 (mt List.take_eq_nil_iff.1 (not_or.2 _h))
  have hleft := List.length_pos_iff.2 _h.2
  rw [List.length_drop] at hleft
  omega

/-- `_stream_remote` -/
def streamRemote (reads : Reads) : Reads :=
  ⟨reads.chunks.takeWhile (· ≠ []), reads.broken && reads.chunks.all (· ≠ [])⟩

/-- An open handle.  `get` asks the provider for the bytes from one place to another; none is an
error of `UNREADABLE_OBJECT_ERRORS`, and a body is read in chunks of a size. -/
inductive Handle where
  | remote (get : Nat → Option Nat → Option (Nat → Reads))
  | file (file : LocalFile)

structure ManagedObject where
  size : Nat
  handle : Handle

def streamChunkSize : Nat := 64 * 1024

/-- `stream`; none stands for `ManagedObjectUnavailable`. -/
def ManagedObject.stream (object : ManagedObject) (start : Nat) (length : Option Nat)
    (chunkSize : Nat) : Option Reads :=
  match object.handle with
  | .remote get => (get start (length.map (start + · - 1))).map fun body => streamRemote (body chunkSize)
  | .file file =>
    if start ≠ 0 ∧ file.seekFails start then none else some (streamLocal file chunkSize length start)

/-- Where the bytes of a file are looked for: `cached` is `object_cache.open_cached`, `stored` asks
the storage for the size and a handle, and none is an error of `OBJECT_METADATA_ERRORS`. -/
structure Storage where
  cached : Option (LocalFile × Nat)
  stored : Option ManagedObject

/-- What a delivery reads of the row of a file. -/
structure ManagedFile where
  id : Text
  name : Text
  isWorkspaceMedia : Bool

/-- `open_managed_object` with `cache`. -/
def openManagedObject (storage : Storage) (row : ManagedFile) : Option ManagedObject :=
  if row.name = [] then none
  else
    match storage.cached with
    | some (file, size) => some ⟨size, .file file⟩
    | none => storage.stored

structure Request where
  rangeHeader : Option Text
  ifNoneMatch : Option Text
  isDownload : Bool

structure Response where
  status : Nat
  contentRange : Option (Option (Int × Int) × Nat)
  contentLength : Option Nat
  eTag : Option Text
  body : Reads

def ManagedFile.eTag (row : ManagedFile) : Text := '"' :: row.id ++ ['"']

/-- The browser has the bytes of the file already. -/
def Request.notModified (request : Request) (row : ManagedFile) : Bool :=
  row.isWorkspaceMedia && decide (row.eTag <:+: request.ifNoneMatch.getD [])

/-- What `ManagedFileDeliveryView.get` answers once access is granted; none stands for `NotFound`. -/
def respond (storage : Storage) (row : ManagedFile) (request : Request) : Option Response :=
  let eTag := if row.isWorkspaceMedia then some row.eTag else none
  if request.notModified row then some ⟨304, none, none, some row.eTag, ⟨[], false⟩⟩
  else
    match openManagedObject storage row with
    | none => none
    | some object =>
      let value := request.rangeHeader.getD []
      if value ≠ [] ∧ !request.isDownload then
        match byteRange value object.size with
        | none => some ⟨416, some (none, object.size), none, none, ⟨[], false⟩⟩
        | some (start, stop) =>
          let length := (stop - start + 1).toNat
          (object.stream start.toNat (some length) streamChunkSize).map fun body =>
            ⟨206, some (some (start, stop), object.size), some length, eTag, body⟩
      else
        (object.stream 0 none streamChunkSize).map fun body =>
          ⟨200, none, some object.size, eTag, body⟩

variable {content : Bytes} {storage : Storage} {row : ManagedFile} {request : Request}
  {object : ManagedObject} {chunkSize size : Nat}

/-- The bytes of the content from one place to another. -/
def between (content : Bytes) (start : Nat) (last : Option Nat) : Bytes :=
  last.elim (content.drop start) (slice content start <| · + 1)

/-- What is read are the bytes, as far as it goes. -/
structure Reads.Of (reads : Reads) (bytes : Bytes) : Prop where
  front : reads.chunks.flatten <+: bytes
  whole : reads.broken = false → reads.chunks.flatten = bytes
  full : ∀ chunk ∈ reads.chunks, chunk ≠ []

/-- What the provider documents of the objects it keeps: the bytes of a range are got in their order,
and no range that begins where the object ends. -/
structure Documented (content : Bytes) (get : Nat → Option Nat → Option (Nat → Reads)) : Prop where
  inside : ∀ {start last body}, get start last = some body → start < content.length
  bytes : ∀ {start last body chunkSize}, 0 < chunkSize → get start last = some body →
    (body chunkSize).Of (between content start last)

def Handle.Holds (content : Bytes) : Handle → Prop
  | .remote get => Documented content get
  | .file copy => copy.content = content

/-- An open object has the bytes that were stored, and its size is theirs. -/
structure ManagedObject.Holds (object : ManagedObject) (content : Bytes) : Prop where
  size : object.size = content.length
  handle : object.handle.Holds content

structure Storage.Holds (storage : Storage) (content : Bytes) : Prop where
  cached : ∀ file size, storage.cached = some (file, size) →
    ManagedObject.Holds ⟨size, .file file⟩ content
  stored : ∀ object, storage.stored = some object → object.Holds content

theorem openManagedObject_holds (hstorage : storage.Holds content)
    (h : openManagedObject storage row = some object) : object.Holds content := by
  unfold openManagedObject at h
  rw [Option.ite_none_left_eq_some] at h
  obtain ⟨_, h⟩ := h
  cases hcached : storage.cached with
  | none =>
    rw [hcached] at h
    exact hstorage.stored object h
  | some copy =>
    rw [hcached] at h
    obtain rfl := Option.some.inj h
    exact hstorage.cached copy.1 copy.2 hcached

theorem byteRange_within {value : Text} {start stop : Int}
    (h : byteRange value size = some (start, stop)) : 0 ≤ start ∧ start ≤ stop ∧ stop < size := by
  unfold byteRange at h
  cases hparts : rangeParts (strip value) with
  | none =>
    rw [hparts] at h
    cases h
  | some parts =>
    rw [hparts] at h
    have hfirst : 0 ≤ (if parts.1 = [] then max 0 ((size : Int) - number parts.2)
        else (number parts.1 : Int)) := by
      split
      · exact le_max_left _ _
      · exact Int.natCast_nonneg _
    generalize (if parts.1 = [] then max 0 ((size : Int) - number parts.2)
      else (number parts.1 : Int)) = first at h hfirst
    generalize (if parts.1 = [] ∨ parts.2 = [] then (size : Int) - 1
      else (number parts.2 : Int)) = last at h
    rw [Option.ite_none_left_eq_some, Option.ite_none_left_eq_some,
      Option.ite_none_left_eq_some] at h
    obtain ⟨_, _, hin, heq⟩ := h
    obtain ⟨rfl, rfl⟩ := Prod.mk.inj (Option.some.inj heq)
    omega

theorem Reads.Of.cons {reads : Reads} {chunk bytes : Bytes} (h : reads.Of bytes)
    (hfull : chunk ≠ []) : Reads.Of ⟨chunk :: reads.chunks, reads.broken⟩ (chunk ++ bytes) where
  front := by
    rw [List.flatten_cons]
    exact List.prefix_append_right_inj chunk |>.2 h.front
  whole hwhole := by rw [List.flatten_cons, h.whole hwhole]
  full := List.forall_mem_cons.2 ⟨hfull, h.full⟩

theorem Reads.Of.nil (broken : Bool) {bytes : Bytes} (h : broken = false → bytes = []) :
    Reads.Of ⟨[], broken⟩ bytes :=
  ⟨List.nil_prefix, fun hwhole => (h hwhole).symm, nofun⟩

theorem streamLocal_of (hchunk : 0 < chunkSize) (file : LocalFile) (remaining : Option Nat)
    (place : Nat) : (streamLocal file chunkSize remaining place).Of
      (remaining.elim (file.content.drop place) (file.content.drop place).take) := by
  fun_induction streamLocal file chunkSize remaining place with
  | case1 place => exact .nil _ fun _ => rfl
  | case2 => exact .nil _ nofun
  | case3 remaining place hsome _ chunk hnone =>
    refine .nil _ fun _ => ?_
    rcases List.take_eq_nil_iff.1 hnone with hzero | hend
    · cases remaining with
      | none => exact absurd hzero hchunk.ne'
      | some left => exact absurd (congrArg some (by simp at hzero; omega)) hsome
    · cases remaining <;> simp [hend]
  | case4 remaining place _ _ chunk hfull rest ih =>
    have hbytes : remaining.elim (file.content.drop place) (file.content.drop place).take = chunk ++
        (remaining.map (· - chunk.length)).elim (file.content.drop (place + chunk.length))
          (file.content.drop (place + chunk.length)).take := by
      have hrest : file.content.drop place = chunk ++ file.content.drop (place + chunk.length) := by
        rw [← List.drop_drop]
        exact (List.prefix_iff_eq_append.1 (List.take_prefix _ _)).symm
      cases remaining with
      | none => exact hrest
      | some left =>
        have hfew : chunk.length ≤ left := by
          show ((file.content.drop place).take (min chunkSize left)).length ≤ left
          rw [List.length_take]
          omega
        show (file.content.drop place).take left = _
        rw [hrest, List.take_append, List.take_of_length_le hfew]
        rfl
    rw [hbytes]
    exact ih.cons hfull

theorem streamRemote_of {reads : Reads} {bytes : Bytes} (h : reads.Of bytes) :
    (streamRemote reads).Of bytes := by
  have hall : reads.chunks.all (· ≠ []) = true :=
    List.all_eq_true.2 fun chunk hchunk => decide_eq_true (h.full chunk hchunk)
  have htake : reads.chunks.takeWhile (· ≠ []) = reads.chunks :=
    List.takeWhile_eq_self_iff.2 fun chunk hchunk => decide_eq_true (h.full chunk hchunk)
  unfold streamRemote
  rw [htake, hall, Bool.and_true]
  exact h

variable {start : Nat} {length : Option Nat} {char : Char}

theorem stream_of {reads : Reads} (hobject : object.Holds content) (hchunk : 0 < chunkSize)
    (hlength : length ≠ some 0) (h : object.stream start length chunkSize = some reads) :
    reads.Of (length.elim (content.drop start) (content.drop start).take) := by
  have hhandle := hobject.handle
  unfold ManagedObject.stream at h
  cases hkind : object.handle with
  | remote get =>
    rw [hkind] at h hhandle
    obtain ⟨body, hbody, rfl⟩ := Option.map_eq_some_iff.1 h
    have hbytes : between content start (length.map (start + · - 1)) =
        length.elim (content.drop start) (content.drop start).take := by
      cases length with
      | none => rfl
      | some count =>
        have hpos : count ≠ 0 := fun hzero => hlength (congrArg some hzero)
        show (content.drop start).take (start + count - 1 + 1 - start) = _
        rw [show start + count - 1 + 1 - start = count by omega]
        rfl
    rw [← hbytes]
    exact streamRemote_of (hhandle.bytes hchunk hbody)
  | file copy =>
    rw [hkind] at h hhandle
    obtain ⟨_, hreads⟩ := Option.ite_none_left_eq_some.1 h
    obtain rfl : copy.content = content := hhandle
    obtain rfl := Option.some.inj hreads
    exact streamLocal_of hchunk copy length start

/-- Some range inside the object is not got, or the provider keeps no bytes. -/
def Handle.Fails (content : Bytes) : Handle → Prop
  | .remote get => content = [] ∨ ∃ start last, start < content.length ∧ get start last = none
  | .file copy => ∃ start, copy.seekFails start = true

theorem stream_eq_none (hstart : start < content.length ∨ start = 0)
    (h : object.stream start length chunkSize = none) : object.handle.Fails content := by
  unfold ManagedObject.stream at h
  cases hkind : object.handle with
  | remote get =>
    rw [hkind] at h
    rcases hstart with hinside | rfl
    · exact .inr ⟨start, _, hinside, Option.map_eq_none_iff.1 h⟩
    · by_cases hempty : content = []
      · exact .inl hempty
      · exact .inr ⟨0, _, List.length_pos_iff.2 hempty, Option.map_eq_none_iff.1 h⟩
  | file copy =>
    rw [hkind] at h
    by_cases hseek : start ≠ 0 ∧ copy.seekFails start = true
    · exact ⟨start, hseek.2⟩
    · simp only [if_neg hseek] at h
      cases h

/-- The response says which bytes of the object it brings. -/
def Response.Exact (content : Bytes) (response : Response) : Prop :=
  (response.status = 304 ∧ response.body = ⟨[], false⟩) ∨
    (response.status = 200 ∧ response.contentLength = some content.length ∧
      response.body.Of content) ∨
    (response.status = 416 ∧ response.contentRange = some (none, content.length) ∧
      response.body = ⟨[], false⟩) ∨
    (response.status = 206 ∧ ∃ start stop : Nat, start ≤ stop ∧ stop < content.length ∧
      response.contentRange = some (some ((start : Int), (stop : Int)), content.length) ∧
      response.contentLength = some (stop + 1 - start) ∧
      response.body.Of (slice content start (stop + 1)))

/-- Whatever is asked for, the answer is exact; nothing is sent again that the browser has, and the
object is only missed when it cannot be opened or a handle fails before the first byte. -/
theorem served_exactly (hstorage : storage.Holds content) (row : ManagedFile) (request : Request) :
    (∀ response, respond storage row request = some response → response.Exact content ∧
      (response.status = 304 ↔ request.notModified row = true)) ∧
    (respond storage row request = none → openManagedObject storage row = none ∨
      ∃ object, openManagedObject storage row = some object ∧ object.handle.Fails content) := by
  unfold respond
  by_cases hsame : request.notModified row = true
  · rw [if_pos hsame]
    refine ⟨?_, nofun⟩
    rintro _ ⟨⟩
    exact ⟨.inl ⟨rfl, rfl⟩, fun _ => hsame, fun _ => rfl⟩
  rw [if_neg hsame]
  have hpos : 0 < streamChunkSize := by decide
  have hother {response : Response} (hstatus : response.status ≠ 304) :
      response.status = 304 ↔ request.notModified row = true :=
    ⟨fun h => absurd h hstatus, fun h => absurd h hsame⟩
  cases hopen : openManagedObject storage row with
  | none => exact ⟨nofun, fun _ => .inl rfl⟩
  | some object =>
    have hobject := openManagedObject_holds hstorage hopen
    dsimp only
    rw [hobject.size]
    by_cases hranged : request.rangeHeader.getD [] ≠ [] ∧ (!request.isDownload) = true
    · rw [if_pos hranged]
      cases hrange : byteRange (request.rangeHeader.getD []) content.length with
      | none =>
        refine ⟨?_, nofun⟩
        rintro _ ⟨⟩
        exact ⟨.inr (.inr (.inl ⟨rfl, rfl, rfl⟩)), hother (show 416 ≠ 304 by decide)⟩
      | some range =>
        obtain ⟨hstart, hle, hstop⟩ := byteRange_within hrange
        obtain ⟨start, hstartNat⟩ := Int.eq_ofNat_of_zero_le hstart
        obtain ⟨stop, hstopNat⟩ := Int.eq_ofNat_of_zero_le (hstart.trans hle)
        have hlength : (range.2 - range.1 + 1).toNat = stop + 1 - start := by omega
        constructor
        · intro response hresponse
          obtain ⟨body, hbody, rfl⟩ := Option.map_eq_some_iff.1 hresponse
          have hof := stream_of hobject hpos (fun hzero => by
            have := Option.some.inj hzero
            omega) hbody
          rw [hlength, hstartNat] at hof
          refine ⟨.inr (.inr (.inr ⟨rfl, start, stop, by omega, by omega, ?_, congrArg some hlength,
            hof⟩)), hother (show 206 ≠ 304 by decide)⟩
          show some (some (range.1, range.2), _) = _
          rw [hstartNat, hstopNat]
        · intro hnone
          exact .inr ⟨object, rfl, stream_eq_none (.inl (by omega)) (Option.map_eq_none_iff.1 hnone)⟩
    · rw [if_neg hranged]
      constructor
      · intro response hresponse
        obtain ⟨body, hbody, rfl⟩ := Option.map_eq_some_iff.1 hresponse
        have hnone : (none : Option Nat) ≠ some 0 := nofun
        exact ⟨.inr (.inl ⟨rfl, rfl, stream_of hobject hpos hnone hbody⟩),
          hother (show 200 ≠ 304 by decide)⟩
      · intro hnone
        exact .inr ⟨object, rfl, stream_eq_none (.inr rfl) (Option.map_eq_none_iff.1 hnone)⟩

/-- The header that asks for the bytes from one place to another. -/
def rangeHeader (start stop : Nat) : Text :=
  'b' :: 'y' :: 't' :: 'e' :: 's' :: '=' :: (Nat.toDigits 10 start ++ '-' :: Nat.toDigits 10 stop)

/-- The provider sends a range in one chunk, or breaks off after its first byte. -/
def shelf (content : Bytes) (breaks : Nat → Bool) : Storage where
  cached := none
  stored := some ⟨content.length, .remote fun start last =>
    if content.length ≤ start then none
    else
      let bytes := between content start last
      some fun _ => ⟨[if breaks start then bytes.take 1 else bytes].filter (· ≠ []), breaks start⟩⟩

theorem shelf_holds (content : Bytes) (breaks : Nat → Bool) : (shelf content breaks).Holds content where
  cached := nofun
  stored := by
    have hflat (chunk : Bytes) : ([chunk].filter (· ≠ [])).flatten = chunk := by
      cases chunk <;> simp
    rintro _ ⟨⟩
    refine ⟨rfl, ?_, ?_⟩
    · intro start last body hbody
      exact Nat.not_le.1 (Option.ite_none_left_eq_some.1 hbody).1
    · intro start last body chunkSize _ hbody
      obtain rfl := Option.some.inj (Option.ite_none_left_eq_some.1 hbody).2
      refine ⟨?_, ?_, fun chunk hchunk => of_decide_eq_true (List.mem_filter.1 hchunk).2⟩
      · rw [hflat]
        split
        · exact List.take_prefix _ _
        · exact List.prefix_rfl
      · intro hwhole
        have hkeeps : ¬breaks start = true := fun h => Bool.false_ne_true (hwhole.symm.trans h)
        rw [hflat, if_neg hkeeps]

def video : ManagedFile := ⟨['7'], ['v', '7'], true⟩

/-- A transfer that breaks off. -/
theorem broken_video_served :
    (respond (shelf [1, 2, 3, 4] (· == 2)) video ⟨some (rangeHeader 2 3), none, false⟩).map
      (·.body) = some ⟨[[3]], true⟩ ∧
    ∀ response, respond (shelf [1, 2, 3, 4] (· == 2)) video
      ⟨some (rangeHeader 2 3), none, false⟩ = some response → response.Exact [1, 2, 3, 4] ∧
        (response.status = 304 ↔ false = true) :=
  ⟨by decide, (served_exactly (shelf_holds [1, 2, 3, 4] (· == 2)) video
    ⟨some (rangeHeader 2 3), none, false⟩).1⟩

theorem isDigit_of_mem {value : Nat} (h : char ∈ Nat.toDigits 10 value) :
    char.isDigit = true := Nat.isDigit_of_mem_toDigits (by decide) (by decide) h

theorem not_space_of_isDigit (h : char.isDigit = true) : Whitespace.isPythonSpace char = false := by
  have hcode : 48 ≤ char.toNat ∧ char.toNat ≤ 57 := by
    simpa [Char.isDigit, UInt32.le_iff_toNat_le] using h
  simp only [Whitespace.isPythonSpace, Bool.or_eq_false_iff, Bool.and_eq_false_iff,
    decide_eq_false_iff_not]
  omega

theorem strip_rangeHeader (start stop : Nat) :
    strip (rangeHeader start stop) = rangeHeader start stop := by
  have hne : Nat.toDigits 10 stop ≠ [] := Nat.toDigits_ne_nil
  have hfront : (rangeHeader start stop).dropWhile Whitespace.isPythonSpace =
      rangeHeader start stop := List.dropWhile_cons_of_neg (by decide)
  show ((rangeHeader start stop).dropWhile _).rdropWhile _ = _
  rw [hfront, List.rdropWhile_eq_self_iff]
  intro _
  have hlast : (rangeHeader start stop).getLast (by simp [rangeHeader]) =
      (Nat.toDigits 10 stop).getLast hne := by simp [rangeHeader, hne]
  rw [hlast, not_space_of_isDigit (isDigit_of_mem (List.getLast_mem hne))]
  decide

theorem rangeParts_rangeHeader (start stop : Nat) :
    rangeParts (rangeHeader start stop) = some (Nat.toDigits 10 start, Nat.toDigits 10 stop) := by
  have hdigits (value : Nat) : ∀ char ∈ Nat.toDigits 10 value, char.isDigit = true :=
    fun char hchar => isDigit_of_mem hchar
  have hdash : ¬ '-'.isDigit = true := by decide
  unfold rangeParts rangeHeader
  simp only [List.dropWhile_append_of_pos (hdigits start), List.dropWhile_cons_of_neg hdash,
    List.takeWhile_append_of_pos (hdigits start), List.takeWhile_cons_of_neg hdash,
    List.append_nil, if_pos (List.all_eq_true.2 (hdigits stop))]

theorem byteRange_rangeHeader {stop : Nat} (hle : start ≤ stop) (hstop : stop < 10 ^ 20) :
    byteRange (rangeHeader start stop) size =
      if size ≤ start then none else some ((start : Int), min (stop : Int) (size - 1)) := by
  have hdigits {value : Nat} (hvalue : value < 10 ^ 20) : (Nat.toDigits 10 value).length ≤ 20 :=
    (Nat.length_toDigits_le_iff (by decide) (by decide)).2 hvalue
  have hfew := hdigits (hle.trans_lt hstop)
  have hfew' := hdigits hstop
  have hnumber (value : Nat) : number (Nat.toDigits 10 value) = value :=
    Nat.ofDigitChars_ten_toDigits
  unfold byteRange
  rw [strip_rangeHeader, rangeParts_rangeHeader]
  dsimp only
  rw [if_neg (by omega)]
  simp only [Nat.toDigits_ne_nil, false_and, if_false, false_or, hnumber]
  by_cases hout : size ≤ start
  · rw [if_pos (by omega), if_pos hout]
  · rw [if_neg (by omega), if_neg hout]

/-- The bytes that the header brings, when all of them come. -/
def fetched (storage : Storage) (row : ManagedFile) (header : Text) : Option Bytes :=
  (respond storage row ⟨some header, none, false⟩).bind fun response =>
    if response.body.broken then none else some response.body.chunks.flatten

theorem fetched_rangeHeader {stop : Nat} {bytes : Bytes} (hle : start ≤ stop)
    (hstop : stop < 10 ^ 20) (hstorage : storage.Holds content)
    (h : fetched storage row (rangeHeader start stop) = some bytes) :
    bytes = (content.drop start).take (stop + 1 - start) := by
  have hrange : byteRange (rangeHeader start stop) content.length = _ :=
    byteRange_rangeHeader hle hstop
  have hsame : ¬Request.notModified ⟨some (rangeHeader start stop), none, false⟩ row = true := by
    simp [Request.notModified, ManagedFile.eTag]
  unfold fetched respond at h
  rw [if_neg hsame] at h
  cases hopen : openManagedObject storage row with
  | none =>
    rw [hopen] at h
    cases h
  | some object =>
    have hobject := openManagedObject_holds hstorage hopen
    rw [hopen] at h
    dsimp only [Option.getD_some] at h
    rw [if_pos ⟨List.cons_ne_nil _ _, rfl⟩, hobject.size, hrange] at h
    by_cases hout : content.length ≤ start
    · rw [if_pos hout] at h
      obtain rfl := Option.some.inj h
      rw [List.drop_eq_nil_of_le hout, List.take_nil]
      rfl
    · rw [if_neg hout] at h
      dsimp only at h
      have hlength : (min (stop : Int) (content.length - 1) - start + 1).toNat =
          min (stop + 1 - start) (content.length - start) := by omega
      rw [hlength] at h
      obtain ⟨response, hresponse, hbytes⟩ := Option.bind_eq_some_iff.1 h
      obtain ⟨body, hbody, rfl⟩ := Option.map_eq_some_iff.1 hresponse
      obtain ⟨hwhole, hbytes⟩ := Option.ite_none_left_eq_some.1 hbytes
      have hsome : some (min (stop + 1 - start) (content.length - start)) ≠ some 0 := fun hzero => by
        have := Option.some.inj hzero
        omega
      have hof := stream_of hobject (show 0 < streamChunkSize by decide) hsome hbody
      rw [← Option.some.inj hbytes, hof.whole (Bool.not_eq_true _ ▸ hwhole)]
      show (content.drop start).take _ = _
      rw [← List.length_drop, ← List.take_take, List.take_length]

/-- An object is put together from the bytes of one range after the other, wherever each is got from,
as long as their places have twenty digits. -/
theorem ranges_reassemble {count : Nat} {parts : Nat → Bytes} (hchunk : 0 < chunkSize)
    (hwhole : content.length ≤ count * chunkSize) (hplaces : count * chunkSize ≤ 10 ^ 20)
    (hparts : ∀ index < count, ∃ storage : Storage, storage.Holds content ∧ fetched storage row
      (rangeHeader (index * chunkSize) (index * chunkSize + chunkSize - 1)) = some (parts index)) :
    (List.range count).flatMap parts = content := by
  have hfirst (made : Nat) (hmade : made ≤ count) :
      (List.range made).flatMap parts = content.take (made * chunkSize) := by
    induction made with
    | zero => simp
    | succ made ih =>
      have hlast : made * chunkSize + chunkSize ≤ count * chunkSize := by
        rw [← Nat.succ_mul]
        exact Nat.mul_le_mul_right _ hmade
      obtain ⟨storage, hstorage, hfetched⟩ := hparts made hmade
      have hpart := fetched_rangeHeader (by omega) (by omega) hstorage hfetched
      rw [List.range_succ, List.flatMap_append, ih (by omega), List.flatMap_singleton, hpart,
        Nat.succ_mul, List.take_add]
      congr 2
      omega
  rw [hfirst count le_rfl, List.take_of_length_le hwhole]

theorem nine_bytes_reassembled :
    ((List.range 3).flatMap fun index => (fetched (shelf (List.replicate 7 1 ++ [2, 3]) fun _ => false)
      video (rangeHeader (index * 4) (index * 4 + 4 - 1))).getD []) = List.replicate 7 1 ++ [2, 3] :=
  have hparts : ∀ index < 3, ∃ storage : Storage,
      storage.Holds (List.replicate 7 1 ++ [2, 3]) ∧ fetched storage video
        (rangeHeader (index * 4) (index * 4 + 4 - 1)) = some ((fetched
          (shelf (List.replicate 7 1 ++ [2, 3]) fun _ => false) video
            (rangeHeader (index * 4) (index * 4 + 4 - 1))).getD []) := by
    intro index hindex
    refine ⟨_, shelf_holds (List.replicate 7 1 ++ [2, 3]) fun _ => false, ?_⟩
    interval_cases index <;> decide
  ranges_reassemble (by decide) (by decide) (by decide) hparts

/-- `SequentialReader` -/
structure Reader where
  chunks : List Bytes
  buffer : Bytes
  exhausted : Bool

def Reader.fill (size : Nat) : List Bytes → Bytes → Reader
  | [], buffer => ⟨[], buffer, buffer.length < size⟩
  | chunk :: rest, buffer =>
    if buffer.length < size then
      if chunk = [] then ⟨rest, buffer, true⟩ else fill size rest (buffer ++ chunk)
    else ⟨chunk :: rest, buffer, false⟩

def Reader.read (reader : Reader) (size : Int) : Bytes × Reader :=
  if size < 0 then (reader.buffer ++ reader.chunks.flatten, ⟨[], [], true⟩)
  else
    let filled :=
      if reader.exhausted then reader else Reader.fill size.toNat reader.chunks reader.buffer
    (filled.buffer.take size.toNat, { filled with buffer := filled.buffer.drop size.toNat })

def Reader.reads : Reader → List Int → List Bytes
  | _, [] => []
  | reader, size :: rest => (reader.read size).1 :: (reader.read size).2.reads rest

/-- What is read from bytes that are all there. -/
def cuts : Bytes → List Int → List Bytes
  | _, [] => []
  | left, size :: rest =>
    if size < 0 then left :: cuts [] rest
    else left.take size.toNat :: cuts (left.drop size.toNat) rest

structure Reader.Kept (reader : Reader) (left : Bytes) : Prop where
  left : reader.buffer ++ reader.chunks.flatten = left
  full : ∀ chunk ∈ reader.chunks, chunk ≠ []
  spent : reader.exhausted = true → reader.chunks = []

theorem fill_kept {chunks : List Bytes} {buffer : Bytes} (hfull : ∀ chunk ∈ chunks, chunk ≠ []) :
    (Reader.fill size chunks buffer).Kept (buffer ++ chunks.flatten) ∧
      (size ≤ (Reader.fill size chunks buffer).buffer.length ∨
        (Reader.fill size chunks buffer).chunks = []) := by
  induction chunks generalizing buffer with
  | nil => exact ⟨⟨rfl, hfull, fun _ => rfl⟩, .inr rfl⟩
  | cons chunk rest ih =>
    unfold Reader.fill
    by_cases hshort : buffer.length < size
    · rw [if_pos hshort, if_neg (hfull chunk List.mem_cons_self), List.flatten_cons,
        ← List.append_assoc]
      exact ih fun other hother => hfull other (List.mem_cons_of_mem _ hother)
    · rw [if_neg hshort]
      exact ⟨⟨rfl, hfull, nofun⟩, .inl (Nat.not_lt.1 hshort)⟩

theorem Reader.Kept.read {reader : Reader} {left : Bytes} (h : reader.Kept left) {size : Int}
    (hsize : 0 ≤ size) : (reader.read size).1 = left.take size.toNat ∧
      (reader.read size).2.Kept (left.drop size.toNat) := by
  have hfilled : ∃ filled : Reader, filled.Kept left ∧
      (size.toNat ≤ filled.buffer.length ∨ filled.chunks = []) ∧
      reader.read size = (filled.buffer.take size.toNat,
        { filled with buffer := filled.buffer.drop size.toNat }) := by
    unfold Reader.read
    rw [if_neg (Int.not_lt.2 hsize)]
    by_cases hspent : reader.exhausted = true
    · exact ⟨reader, h, .inr (h.spent hspent), by rw [if_pos hspent]⟩
    · have hkept : (Reader.fill size.toNat reader.chunks reader.buffer).Kept _ ∧ _ :=
        fill_kept h.full
      rw [h.left] at hkept
      exact ⟨_, hkept.1, hkept.2, by rw [if_neg hspent]⟩
  obtain ⟨filled, hkept, henough, heq⟩ := hfilled
  rw [heq]
  have hcut : filled.buffer.take size.toNat = left.take size.toNat ∧
      filled.buffer.drop size.toNat ++ filled.chunks.flatten = left.drop size.toNat := by
    rw [← hkept.left]
    rcases henough with hmany | hnone
    · exact ⟨(List.take_append_of_le_length hmany).symm, (List.drop_append_of_le_length hmany).symm⟩
    · rw [hnone]
      simp
  exact ⟨hcut.1, hcut.2, hkept.full, hkept.spent⟩

/-- The sizes of the chunks do not show in what is read: a scanner that reads in pieces of any sizes
is given the bytes one after the other. -/
theorem reads_chunks {chunks : List Bytes} (hfull : ∀ chunk ∈ chunks, chunk ≠ []) (sizes : List Int) :
    Reader.reads ⟨chunks, [], false⟩ sizes = cuts chunks.flatten sizes := by
  have hkept : (⟨chunks, [], false⟩ : Reader).Kept chunks.flatten := ⟨rfl, hfull, nofun⟩
  generalize (⟨chunks, [], false⟩ : Reader) = reader at hkept
  generalize chunks.flatten = left at hkept
  induction sizes generalizing reader left with
  | nil => rfl
  | cons size rest ih =>
    rw [Reader.reads, cuts]
    by_cases hall : size < 0
    · have hread : reader.read size = (left, ⟨[], [], true⟩) := by
        rw [Reader.read, if_pos hall, hkept.left]
      rw [if_pos hall, hread, ih _ [] ⟨rfl, by simp, fun _ => rfl⟩]
    · obtain ⟨hread, hnext⟩ := hkept.read (Int.not_lt.1 hall)
      rw [if_neg hall, hread, ih _ _ hnext]

theorem reads_eq_cuts {body : Reads} (hobject : object.Holds content) (hchunk : 0 < chunkSize)
    (hstream : object.stream 0 none chunkSize = some body) (hwhole : body.broken = false)
    (sizes : List Int) : Reader.reads ⟨body.chunks, [], false⟩ sizes = cuts content sizes := by
  have hof : body.Of content := stream_of hobject hchunk (by decide) hstream
  rw [← hof.whole hwhole]
  exact reads_chunks hof.full sizes

theorem reads_of_unequal_chunks :
    Reader.reads ⟨[[1], [2, 3, 4], [5]], [], false⟩ [3, -1, 2] = cuts [1, 2, 3, 4, 5] [3, -1, 2] :=
  let body : Reads := ⟨[[1], [2, 3, 4], [5]], false⟩
  let object : ManagedObject :=
    ⟨5, .remote fun start last => if start = 0 ∧ last = none then some fun _ => body else none⟩
  have hobject : object.Holds [1, 2, 3, 4, 5] := by
    refine ⟨rfl, ?_, ?_⟩
    · intro start last body hbody
      obtain ⟨⟨rfl, _⟩, _⟩ := Option.ite_none_right_eq_some.1 hbody
      decide
    · intro start last other chunkSize _ hbody
      obtain ⟨⟨rfl, rfl⟩, hother⟩ := Option.ite_none_right_eq_some.1 hbody
      obtain rfl := Option.some.inj hother
      have hfull : ∀ chunk ∈ body.chunks, chunk ≠ [] := by decide
      exact ⟨List.prefix_rfl, fun _ => rfl, hfull⟩
  have hchunk : 0 < 3 := by decide
  have hstream : object.stream 0 none 3 = some body := rfl
  reads_eq_cuts hobject hchunk hstream rfl [3, -1, 2]

end LockIn.Files.Serving
