import LockIn.Workspace.SyncSafety
import LockIn.Workspace.WireFormat

/-!
# The annotations of a sheet in the sync

What the sync asks of annotations holds of those of the workspace whose ids are in lower case and
whose texts are more than what the device or the server strips.
-/

namespace LockIn.Workspace

open Utf16 (Text)
open List

variable {φ : Type} {wire : FocusMutation} {body : AnnotationBody}

/-- Neither side strips all of the text. -/
def survives : AnnotationBody → Bool
  | .text note => note.text.any fun unit => !isTrimmed unit && !isSpace unit
  | _ => true

def carried (item : CatalogAnnotation) : Bool :=
  decide (Utf16.lower item.id = item.id) && survives item.body

/-- What is read back of a mutation; one that is refused never is. -/
def readBack (wire : FocusMutation) : FocusMutation :=
  match storeMutation wire with
  | .ok stored => stored
  | .error _ => wire

theorem mem_trimBy {space : UInt16 → Bool} {text : Text} {unit : UInt16} (hmem : unit ∈ text)
    (hkept : space unit = false) : unit ∈ Utf16.trimBy space text := by
  have hdrop (units : Text) (hunit : unit ∈ units) : unit ∈ units.dropWhile space := by
    have hsplit := takeWhile_append_dropWhile (p := space) (l := units)
    rw [← hsplit] at hunit
    rcases mem_append.1 hunit with hfront | hrest
    · exact absurd (mem_takeWhile_imp hfront) (by simp [hkept])
    · exact hrest
  unfold Utf16.trimBy List.rdropWhile
  exact mem_reverse.2 (hdrop _ (mem_reverse.2 (hdrop _ hmem)))

theorem survives_trimmed {value : Text} {note : TextNote}
    (h : value.any (fun unit => !isTrimmed unit && !isSpace unit) = true)
    (hvalue : note.text = trim value ∨ note.text = strip (trim value)) :
    survives (.text note) = true ∧ trim note.text ≠ [] := by
  obtain ⟨unit, hmem, hunit⟩ := List.any_eq_true.1 h
  rw [Bool.and_eq_true, Bool.not_eq_true', Bool.not_eq_true'] at hunit
  have htrim : unit ∈ trim value := mem_trimBy hmem hunit.1
  have hnote : unit ∈ note.text := by
    rcases hvalue with heq | heq <;> rw [heq]
    · exact htrim
    · exact mem_trimBy htrim hunit.2
  have hagain : unit ∈ trim note.text := mem_trimBy hnote hunit.1
  exact ⟨List.any_eq_true.2 ⟨unit, hnote, by simp [hunit]⟩, ne_nil_of_mem hagain⟩

theorem validatePayload_note {value : Text} {align : Align} {bold : Bool} {stored : Payload}
    (h : validatePayload .text (.text value align bold) = .ok stored) :
    stored = .text (strip value) align bold := by
  unfold validatePayload at h
  cases hbytes : payloadBytes (.text value align bold) with
  | none =>
    rw [hbytes] at h
    cases h
  | some bytes =>
    rw [hbytes] at h
    dsimp only at h
    split at h
    · cases h
    · change validateText value align bold = .ok stored at h
      unfold validateText at h
      split at h
      · cases h
      · exact (Except.ok.inj h).symm

variable {tool : FocusTool} {payload : Payload}

/-- A body that is sent is read back as one that can be sent. -/
theorem catalogBody_read_back {kept : Payload} (hsent : payloadOf body = some (tool, payload))
    (hsurvives : survives body = true)
    (hkept : validatePayload tool payload = .ok kept ∨ kept = payload) :
    ∃ back, catalogBody tool kept (focusBounds body) = some back ∧ payloadOf back ≠ none ∧
      survives back = true := by
  cases body with
  | stroke item =>
    obtain ⟨hmany, heq⟩ := payloadOf_stroke hsent
    obtain ⟨rfl, rfl⟩ := Prod.mk.inj heq
    obtain rfl : kept = .stroke (encode item (keptPoints item)) :=
      hkept.elim (fun hstored => ((validatePayload_stroke hmany).1 hstored).2) id
    refine ⟨.stroke (catalogStroke item.type (encode item (keptPoints item))), ?_, ?_, rfl⟩
    · simp only [catalogBody, strokeTool_focusTool, Option.map_some]
    · rw [payloadOf_stroke_read_back hmany]
      exact Option.some_ne_none _
  | shape item =>
    obtain ⟨shape, hshape, heq⟩ := Option.map_eq_some_iff.1 hsent
    obtain ⟨rfl, rfl⟩ := Prod.mk.inj heq
    obtain ⟨hfamily, name, hname, hagain⟩ := shapeName_of_focusTool hshape
    have hstored := validatePayload_shape hfamily (toFocusPoint_onWire item.start)
      (toFocusPoint_onWire item.finish)
    obtain rfl : kept = .shape (toFocusPoint item.start) (toFocusPoint item.finish) :=
      hkept.elim (fun hkept => Except.ok.inj (hkept.symm.trans hstored)) id
    refine ⟨.shape ⟨name, _, _⟩, by simp only [catalogBody, hname, Option.map_some]; rfl, ?_, rfl⟩
    simp only [payloadOf, hagain, Option.map_some]
    exact Option.some_ne_none _
  | text item =>
    have hne : trim item.text ≠ [] := fun hempty => by
      rw [show payloadOf (.text item) = none from if_pos hempty] at hsent
      cases hsent
    cases (payloadOf_text hne).symm.trans hsent
    have hvalue : ∃ value, kept = .text value item.align item.bold ∧
        (value = trim item.text ∨ value = strip (trim item.text)) := by
      rcases hkept with hstored | rfl
      · exact ⟨_, validatePayload_note hstored, .inr rfl⟩
      · exact ⟨_, rfl, .inl rfl⟩
    obtain ⟨value, rfl, hvalue⟩ := hvalue
    obtain ⟨hagain, htrim⟩ := @survives_trimmed item.text
      (catalogText (focusBounds (.text item)) value item.align item.bold) hsurvives hvalue
    refine ⟨.text (catalogText (focusBounds (.text item)) value item.align item.bold),
      by simp only [catalogBody, if_true], ?_, hagain⟩
    rw [payloadOf_text htrim]
    exact Option.some_ne_none _
  | deviceOnly => cases hsent

theorem readBack_sent {item : CatalogAnnotation}
    (hsent : payloadOf item.body = some (tool, payload)) (hlower : Utf16.lower item.id = item.id) :
    ∃ kept, (validatePayload tool payload = .ok kept ∨ kept = payload) ∧
      ∃ color thickness opacity, readBack (mutationOf item tool payload) =
        ⟨item.id, item.page, focusBounds item.body, color, thickness, opacity, tool, kept⟩ := by
  unfold readBack
  cases hstored : storeMutation (mutationOf item tool payload) with
  | ok stored =>
    obtain ⟨kept, hkept, rfl⟩ := (storeMutation_eq_ok hsent).1 hstored
    refine ⟨kept, .inl hkept, Utf16.lower (wireColor item.color), wireThickness item.width,
      wireOpacity item.opacity, ?_⟩
    show spelled (mutationOf item tool payload) kept = _
    unfold spelled mutationOf
    rw [hlower]
  | error _ =>
    exact ⟨payload, .inr rfl, wireColor item.color, wireThickness item.width,
      wireOpacity item.opacity, rfl⟩

def catalogAdapter (print : CatalogAnnotation → φ) :
    Adapter Text {item : CatalogAnnotation // carried item = true} FocusMutation φ where
  id item := item.val.id
  print item := print item.val
  toFocus item :=
    if isServerSyncableAnnotation item.val then catalogAnnotationToFocus item.val else none
  toCatalog wire := (focusAnnotationToCatalog (readBack wire)).bind fun back =>
    if h : carried back = true then some ⟨back, h⟩ else none
  mutationId := FocusMutation.id
  pageNumber wire := ⌊wire.pageNumber⌋₊
  valid wire := (storeMutation wire).isOk
  mutationId_toFocus item wire h := by
    obtain ⟨_, hwire⟩ := Option.ite_none_right_eq_some.1 h
    obtain ⟨_, _, _, _, rfl⟩ := catalogAnnotationToFocus_eq_some.1 hwire
    rfl
  pageNumber_toFocus item wire h := by
    obtain ⟨hsyncable, hwire⟩ := Option.ite_none_right_eq_some.1 h
    obtain ⟨_, _, _, _, rfl⟩ := catalogAnnotationToFocus_eq_some.1 hwire
    simp only [ isServerSyncableAnnotation, Bool.and_eq_true, decide_eq_true_eq] at hsyncable
    exact Nat.le_floor (by exact_mod_cast hsyncable.1.1.2)
  reads_back item wire h := by
    obtain ⟨hsyncable, hwire⟩ := Option.ite_none_right_eq_some.1 h
    obtain ⟨hid, tool, payload, hsent, rfl⟩ := catalogAnnotationToFocus_eq_some.1 hwire
    obtain ⟨hlower, hsurvives⟩ := (Bool.and_eq_true _ _).mp item.property
    obtain ⟨kept, hkept, color, thickness, opacity, hread⟩ :=
      readBack_sent hsent (of_decide_eq_true hlower)
    obtain ⟨body, hbody, hagain, hbodySurvives⟩ := catalogBody_read_back hsent hsurvives hkept
    let back : CatalogAnnotation := ⟨item.val.id, item.val.page, color, thickness, opacity, body⟩
    have hback : carried back = true := (Bool.and_eq_true _ _).mpr ⟨hlower, hbodySurvives⟩
    have hcatalog : focusAnnotationToCatalog (readBack (mutationOf item.val tool payload)) =
        some back := by
      rw [hread]
      exact Option.map_eq_some_iff.2 ⟨body, hbody, rfl⟩
    refine ⟨⟨back, hback⟩, by rw [hcatalog, Option.bind_some, dif_pos hback], rfl, ?_⟩
    obtain ⟨⟨tool', payload'⟩, hsent'⟩ := Option.ne_none_iff_exists'.1 hagain
    have hwire' : catalogAnnotationToFocus back = some (mutationOf back tool' payload') :=
      catalogAnnotationToFocus_eq_some.2 ⟨hid, tool', payload', hsent', rfl⟩
    have hsyncable' : isServerSyncableAnnotation back = true := by
      simp only [ isServerSyncableAnnotation, Bool.and_eq_true] at hsyncable ⊢
      exact ⟨hsyncable.1, by rw [hwire']; rfl⟩
    rw [if_pos hsyncable', hwire']
    rfl

/-- The annotations of sheets keep what the sync keeps of any. -/
theorem sheets_keep {δ : Type} [DecidableEq δ] [DecidableEq φ] {print : CatalogAnnotation → φ}
    {pageCount now : Nat} {w : World δ Text {item // carried item = true} FocusMutation φ}
    (h : (catalogSync (catalogAdapter print) pageCount).Reaches Careful w now) :
    Keeps (catalogAdapter print) pageCount w := run_keeps h

end LockIn.Workspace
