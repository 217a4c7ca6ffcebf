import LockIn.Library.JsonReading
import LockIn.Workspace.SharedSnapshot
import LockIn.Workspace.SnapshotSpec

/-!
# The reader's snapshot and its marks

The reader shares what it shows: the marks in the form they are stored in, the notes and the pages
that were added, as the sanitisers of the device leave them.  The person sees how many marks each
page carries and may leave pages out.

Whatever a workspace holds, the snapshot of the reader has marks, notes and pages of a known form:
each can be written as JSON and has what a share looks at.
-/

namespace LockIn.Workspace.Reader

open JsonText (Plain)
open List
open Script (Value Engine Time Writable)
open Share (PageKind)
open Snapshot
open Utf16 (Text)

/-- `===` of values that are no objects. -/
def strictEqual : Value → Value → Bool
  | .undefined, .undefined => true
  | .null, .null => true
  | .bool a, .bool b => a = b
  | .number (.finite a), .number (.finite b) => a = b
  | .number (.infinite a), .number (.infinite b) => a = b
  | .string a, .string b => a = b
  | _, _ => false

def isNull : Value → Bool
  | .null => true
  | _ => false

def fieldIf (test : Bool) (value : Value) : Value := if test then value else .undefined

def compactPoint (shared point : Value) : Value :=
  .record ([
    ("x", point.get "x"),
    ("y", point.get "y"),
    ("t", point.get "t"),
    ("p", fieldIf (point.get "p").truthy (point.get "p"))] ++
    strokePointFields.map (fun field =>
      (field, fieldIf (!strictEqual (point.get field) (shared.get field)) (point.get field))) ++
    ["contactWidth", "contactHeight", "tiltX", "tiltY"].map (fun field =>
      (field, fieldIf (point.get field).truthy (point.get field))) ++
    ["altitudeAngle", "azimuthAngle", "twist", "tangentialPressure"].map (fun field =>
      (field, fieldIf (!isNull (point.get field)) (point.get field))))

def sharedFields (first : Value) : Value :=
  .record (strokePointFields.map fun field => (field, first.get field))

section
variable (engine : Engine) (now : Time)

def compactCatalogAnnotation (mark : Value) : Option Value :=
  (Snapshot.sanitizeCatalogAnnotation engine now mark).map fun safe =>
    match (safe.get "points").items with
    | [] => safe
    | first :: rest =>
      .spread safe (.record [
        ("pointShared", sharedFields first),
        ("points", .array ((first :: rest).map (compactPoint (sharedFields first))))])

def snapshotVersion : ℚ := 1

def maxAnnotations : Nat := 5000

def maxNotes : Nat := 500

/-- The latest marks in their stored form.  A date that cannot be written, which no sanitised mark has,
drops the mark here. -/
def storedAnnotations (snapshot : Value) : List Value :=
  (latest maxAnnotations (snapshot.get "annotations").items).filterMap
    ( compactCatalogAnnotation engine now)

def storedNotes (snapshot : Value) : List Value :=
  (latest maxNotes (snapshot.get "notes").items).filterMap (Snapshot.sanitizeCatalogNote engine now)

def storedPages (snapshot : Value) : List Value :=
  sanitizeVirtualPages engine (snapshot.get "virtualPages")

def storedWorkspace (snapshot : Value) : Value :=
  .record [
    ("version", number snapshotVersion),
    ("savedAt", .string (engine.isoDate now)),
    ("page", number (max 1 (Script.round (finite engine (snapshot.get "page") 1)))),
    ("zoom", bounded engine (1 / 2) 5 1 (snapshot.get "zoom")),
    ("zoomFitBasis", bounded engine 0 5 0 (snapshot.get "zoomFitBasis")),
    ("scrollLeft", atLeast engine 0 0 (snapshot.get "scrollLeft")),
    ("scrollTop", atLeast engine 0 0 (snapshot.get "scrollTop")),
    ("pageOffset", bounded engine 0 1 0 (snapshot.get "pageOffset")),
    ("annotations", .array (storedAnnotations engine now snapshot)),
    ("notes", .array (storedNotes engine now snapshot)),
    ("virtualPages", .array (storedPages engine snapshot))]

def serializeCatalogWorkspace (snapshot : Value) : Text :=
  JsonText.write engine (storedWorkspace engine now snapshot)

def snapshotFromReader (reader : Value) : Value :=
  let parsed := (JsonText.parse engine (serializeCatalogWorkspace engine now (.record [
    ("annotations", reader.get "annotations"),
    ("notes", reader.get "notes"),
    ("virtualPages", reader.get "virtualPages")]))).getD .undefined
  .record [
    ("annotations", parsed.get "annotations"),
    ("notes", parsed.get "notes"),
    ("virtualPages", parsed.get "virtualPages")]

end

def numberOf : Value → ℚ
  | .number (.finite value) => value
  | _ => 0

def pageKey (item : Value) : ℚ := numberOf (item.get "page")

structure ListedPage where
  key : ℚ
  kind : PageKind
  page : ℚ
  background : Option Text
  marks : Nat

/-- `(first.page - second.page) || Number(first.kind === "added") - Number(second.kind === "added")`
is not positive. -/
def ListedPage.before (first second : ListedPage) : Bool :=
  first.page < second.page ∨
    (first.page = second.page ∧ (first.kind = .added → second.kind = .added))

def pdfPage (entry : ℚ × Nat) : ListedPage := ⟨entry.1, .pdf, entry.1, none, entry.2⟩

def addedPage (counts : List (ℚ × Nat)) (item : Value) : ListedPage :=
  ⟨numberOf (item.get "id"), .added, numberOf (item.get "afterPage"), (item.get "background").text?,
    (Dictionary.get counts (numberOf (item.get "id"))).getD 0⟩

def summarizeSnapshot (engine : Engine) (snapshot : Value) : Nat × List ListedPage :=
  let counts := Dictionary.tally
    (((snapshot.get "annotations").items ++ (snapshot.get "notes").items).map pageKey)
  let pages := (counts.filter fun entry => !isVirtualPageKey entry.1).map pdfPage ++
    (sanitizeVirtualPages engine (snapshot.get "virtualPages")).map (addedPage counts)
  ((counts.map Prod.snd).sum, pages.mergeSort ListedPage.before)

def withoutPages (snapshot : Value) (excluded : List ℚ) : Value :=
  if excluded = [] then snapshot
  else
    let virtualPages := (snapshot.get "virtualPages").items.filter fun item =>
      numberOf (item.get "id") ∉ excluded
    let keep (item : Value) : Bool :=
      if isVirtualPageKey (pageKey item) then
        pageKey item ∈ virtualPages.map fun item => numberOf (item.get "id")
      else pageKey item ∉ excluded
    .record [
      ("annotations", .array ((snapshot.get "annotations").items.filter keep)),
      ("notes", .array ((snapshot.get "notes").items.filter keep)),
      ("virtualPages", .array virtualPages)]

open Script.Value (record)

section
variable {engine : Engine} {now : Time} {value mark note safe : Value} {name : String}
  {fields : List (String × Value)}

theorem writable_get (h : Plain value) (name : String) : Writable (value.get name) := by
  cases value with
  | object members =>
    cases hget : Dictionary.get members (Utf16.ofString name) with
    | none => exact .inl (by simp [Value.get, hget])
    | some member =>
      have hmember := Script.plainMembers_iff.1 h.2 _ (Dictionary.mem_of_get hget)
      exact .inr (by simpa [Value.get, hget] using hmember)
  | _ => exact .inl rfl

theorem writable_fieldIf {test : Bool} (h : Writable value) : Writable (fieldIf test value) := by
  unfold fieldIf
  split_ifs
  · exact h
  · exact .inl rfl

theorem plain_compactPoint {shared point : Value} (h : Plain point) :
    Plain (compactPoint shared point) := by
  refine Script.plain_record (by simp [strokePointFields]) fun field hfield => ?_
  have hget (name : String) := writable_get h name
  simp only [strokePointFields, map_cons, map_nil, cons_append, nil_append,
    mem_cons, not_mem_nil, or_false] at hfield
  rcases hfield with rfl | rfl | rfl | rfl | rfl | rfl | rfl | rfl | rfl | rfl | rfl | rfl | rfl |
    rfl | rfl | rfl
  all_goals first | exact hget _ | exact writable_fieldIf (hget _)

variable {first : Value} {members : List (Text × Value)}

theorem plain_sharedFields (h : Plain first) : Plain (sharedFields first) := by
  refine Script.plain_record (by simp [strokePointFields]) fun field hfield => ?_
  obtain ⟨name, -, rfl⟩ := mem_map.1 hfield
  exact writable_get h name

def IsPage (page : ℚ) : Prop := isVirtualPageKey page = true ∨ ∃ whole : ℤ, 1 ≤ whole ∧ page = whole

theorem page_isPage (engine : Engine) (value : Value) :
    ∃ page, pageOf engine value = number page ∧ IsPage page := by
  rcases pageOf_cases engine value with ⟨page, hpage, hkey⟩ | ⟨-, hpage⟩
  · exact ⟨page, hpage, .inl hkey⟩
  · refine ⟨_, hpage, .inr ⟨max 1 ⌊finite engine value 1 + 1 / 2⌋, le_max_left _ _, ?_⟩⟩
    rw [Int.cast_max, Int.cast_one]
    rfl

/-- A note or a mark of the reader: it can be written, and it has an id and a page. -/
structure Shown (value : Value) : Prop where
  plain : Plain value
  id : ∃ text, value.get "id" = .string text
  page : ∃ page, value.get "page" = number page ∧ IsPage page

structure ShownMark (value : Value) : Prop extends Shown value where
  type : ∃ type : MarkType, value.get "type" = .text type.name ∧
    (type = .image → ∃ source, value.get "src" = .string source ∧ isImageSource source = true)

def baseNames : List String :=
  ["id", "page", "type", "color", "width", "opacity", "profile", "pressureSensitivity",
    "smoothing", "pressureSource", "createdAt", "groupId", "locked", "zOrder"]

theorem names_base (type : MarkType) (mark width : Value) (createdAt : Text) :
    (base engine type mark width createdAt).map Prod.fst = baseNames := rfl

structure GoodExtra (type : MarkType) (fields : List (String × Value)) : Prop where
  names : (baseNames ++ fields.map Prod.fst).Nodup
  writable : ∀ field ∈ fields, Writable field.2
  image : type = .image → ∃ source, ("src", .string source) ∈ fields ∧ isImageSource source = true

theorem plain_strokes (mark : Value) : Plain (.array (strokePoints engine now mark)) := by
  refine plain_array fun point hpoint => ?_
  obtain ⟨source, -, rfl⟩ := mem_map.1 hpoint
  exact plain_safePoint _

theorem plain_erasures (mark : Value) : Plain (.array (strokeErasures engine mark)) := by
  refine plain_array fun erasure herasure => ?_
  obtain ⟨source, -, rfl⟩ := mem_map.1 herasure
  exact plain_safeErasure source

theorem strokes_good {type : MarkType} {points : List Value} (htype : type ≠ .image)
    (hpoints : strokePoints engine now mark = points) :
    GoodExtra type [
      ("points", .array points),
      ("erasures", if strokeErasures engine mark = [] then .undefined
        else .array (strokeErasures engine mark))] where
  names := by simp [baseNames]
  writable field hfield := by
    rcases mem_cons.1 hfield with rfl | hfield
    · exact .inr (hpoints ▸ plain_strokes mark)
    · rw [mem_singleton.1 hfield]
      split_ifs
      · exact .inl rfl
      · exact .inr (plain_erasures mark)
  image h := absurd h htype

theorem extra_good {type : MarkType} (h : extra engine now type mark = some fields) :
    GoodExtra type fields := by
  unfold extra at h
  cases type with
  | pen | pencil | highlighter =>
    dsimp only at h
    split at h
    · cases h
    · cases h
      exact strokes_good (by decide) rfl
  | shape =>
    cases h
    exact ⟨by simp [baseNames], by simp [writable_cut], fun h => nomatch h⟩
  | text =>
    dsimp only at h
    split at h
    · cases h
    · cases h
      exact ⟨by simp [baseNames], by simp, fun h => nomatch h⟩
  | image =>
    dsimp only at h
    split at h
    · rename_i source _
      split_ifs at h with hsource
      cases h
      exact ⟨by simp [baseNames], by simp, fun _ => ⟨source, by simp, hsource.1⟩⟩
    · cases h
  | card =>
    cases h
    exact ⟨by simp [baseNames], by simp, fun h => nomatch h⟩
  | cover =>
    cases h
    exact ⟨by simp [baseNames], by simp, fun h => nomatch h⟩

theorem writable_base {type : MarkType} {width : Value} {createdAt : Text}
    (hid : Writable (mark.get "id")) (hwidth : Writable width) :
    ∀ field ∈ base engine type mark width createdAt, Writable field.2 := by
  have hsource : Writable (pressureSourceOf (mark.get "pressureSource")) := writable_pressureSourceOf
  unfold pressureSourceOf at hsource
  simp [base, hid, hwidth, hsource, writable_cut]

theorem sanitized_shown (h : Snapshot.sanitizeCatalogAnnotation engine now mark = some safe) :
    ShownMark safe := by
  unfold Snapshot.sanitizeCatalogAnnotation at h
  split at h
  · rename_i id type hid htype
    obtain ⟨createdAt, -, h⟩ := Option.bind_eq_some_iff.1 h
    obtain ⟨fields, hfields, h⟩ := Option.bind_eq_some_iff.1 h
    cases h
    have hgood := extra_good hfields
    have hwidth : Writable (markWidth engine type (mark.get "width")) := by
      unfold markWidth
      split <;> exact writable_bounded _ _ _
    have hnames : ((base engine type mark (markWidth engine type (mark.get "width")) createdAt ++
        fields).map Prod.fst).Nodup := by
      rw [map_append, names_base]
      exact hgood.names
    obtain ⟨page, hpage, hisPage⟩ := page_isPage engine (mark.get "page")
    refine ⟨⟨?_, ⟨id, ?_⟩, ⟨page, ?_, hisPage⟩⟩, ⟨type, ?_, fun himage => ?_⟩⟩
    · refine Script.plain_record hnames fun field hfield => ?_
      rcases mem_append.1 hfield with hbase | hextra
      · exact writable_base (hid ▸ writable_string id) hwidth field hbase
      · exact hgood.writable field hextra
    · exact Script.get_record_of_mem hnames (by simp [base, hid])
    · exact Script.get_record_of_mem hnames (by simp [base, hpage])
    · exact Script.get_record_of_mem hnames (by simp [base])
    · obtain ⟨source, hsource, hisImage⟩ := hgood.image himage
      exact ⟨source, Script.get_record_of_mem hnames (mem_append_right _ hsource), hisImage⟩
  · cases h

theorem get_spread {second : Value} (hname : name ≠ "pointShared") (hpoints : name ≠ "points")
    (hfirst : first.isDefined = true) (hsecond : second.isDefined = true) :
    (Value.spread (.object members) (record [("pointShared", first), ("points", second)])).get name =
      (Value.object members).get name := by
  have hkey (other : String) (h : name ≠ other) : Utf16.ofString name ≠ Utf16.ofString other :=
    fun heq => h (Utf16.ofString_injective heq)
  simp [Value.spread, record, hfirst, hsecond, Value.get, Dictionary.get_set, hkey _ hname,
    hkey _ hpoints]

theorem plain_spread {second : Value} (h : Plain (.object members)) (hfirst : Plain first)
    (hsecond : Plain second) :
    Plain (Value.spread (.object members) (record [("pointShared", first), ("points", second)])) := by
  have hdefined := JsonText.plain_isDefined hfirst
  have hdefined' := JsonText.plain_isDefined hsecond
  simp only [Value.spread, record, filter_cons, hdefined, hdefined', if_true, filter_nil,
    map_cons, map_nil, foldl_cons, foldl_nil]
  refine ⟨Dictionary.nodup_set (Dictionary.nodup_set h.1), Script.plainMembers_iff.2 ?_⟩
  intro member hmember
  rcases Dictionary.mem_of_mem_set hmember with rfl | hmember
  · exact hsecond
  · rcases Dictionary.mem_of_mem_set hmember with rfl | hmember
    · exact hfirst
    · exact Script.plainMembers_iff.1 h.2 member hmember

theorem plain_items (h : Writable value) : ∀ item ∈ value.items, Plain item := by
  rcases h with rfl | hplain
  · exact fun item hitem => absurd hitem not_mem_nil
  · cases value with
    | array items => exact Script.plainItems_iff.1 hplain
    | _ => exact fun item hitem => absurd hitem not_mem_nil

theorem compact_shown {compact : Value}
    (h : compactCatalogAnnotation engine now mark = some compact) : ShownMark compact := by
  obtain ⟨safe, hsafe, h⟩ := Option.map_eq_some_iff.1 h
  have hshown := sanitized_shown hsafe
  split at h
  · cases h
    exact hshown
  · rename_i first rest hpoints
    cases safe with
    | object members =>
      have hplain : ∀ point ∈ first :: rest, Plain point := by
        rw [← hpoints]
        exact plain_items (writable_get hshown.plain "points")
      have hshared := plain_sharedFields (hplain first mem_cons_self)
      have hcompact : Plain (.array ((first :: rest).map (compactPoint (sharedFields first)))) := by
        refine plain_array fun point hpoint => ?_
        obtain ⟨source, hsource, rfl⟩ := mem_map.1 hpoint
        exact plain_compactPoint (hplain source hsource)
      have hget (name : String) (hname : name ≠ "pointShared") (hother : name ≠ "points") :
          (Value.spread (.object members) (record [("pointShared", sharedFields first),
            ("points", .array ((first :: rest).map (compactPoint (sharedFields first))))])).get name =
            (Value.object members).get name :=
        get_spread hname hother (JsonText.plain_isDefined hshared)
          (JsonText.plain_isDefined hcompact)
      cases h
      obtain ⟨⟨hplainMembers, hid, hpage⟩, htype⟩ := hshown
      refine ⟨⟨plain_spread hplainMembers hshared hcompact, ?_, ?_⟩, ?_⟩
      · rw [hget "id" (by decide) (by decide)]
        exact hid
      · rw [hget "page" (by decide) (by decide)]
        exact hpage
      · rw [hget "type" (by decide) (by decide), hget "src" (by decide) (by decide)]
        exact htype
    | _ => cases hpoints

theorem note_shown (h : Snapshot.sanitizeCatalogNote engine now note = some safe) : Shown safe := by
  unfold Snapshot.sanitizeCatalogNote at h
  split at h
  · rename_i id unit body hid hbody
    obtain ⟨createdAt, -, h⟩ := Option.bind_eq_some_iff.1 h
    obtain ⟨updatedAt, -, h⟩ := Option.bind_eq_some_iff.1 h
    cases h
    obtain ⟨page, hpage, hisPage⟩ := page_isPage engine (note.get "page")
    rw [hpage]
    refine ⟨?_, ⟨id.take 80, ?_⟩, ⟨page, ?_, hisPage⟩⟩
    · exact Script.plain_record (by simp) (by simp)
    · exact Script.get_record_of_mem (by simp) (by simp)
    · exact Script.get_record_of_mem (by simp) (by simp)
  · cases h

end

end LockIn.Workspace.Reader
