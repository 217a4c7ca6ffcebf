import LockIn.Library.Rules
import LockIn.Workspace.WorkspaceSnapshot

/-!
# What the sanitisers of a workspace give

Every member that a sanitiser gives can be written as JSON, or is left out.
-/

namespace LockIn.Workspace.Snapshot

open Decimal (clamp)
open JsonText (Plain)
open Script (Value Engine Time Rules Writable make)
open Script.Value (record)
open Utf16 (Text)

section
variable {engine : Engine} {value other : Value}

theorem plain_number (value : ℚ) : Plain (number value) := ⟨value, rfl⟩

theorem round_intCast (value : ℤ) : Script.round value = value := by
  unfold Script.round
  have hfloor : ⌊(value : ℚ) + 1 / 2⌋ = value := by
    rw [Int.floor_eq_iff]
    constructor <;> norm_num
  rw [hfloor]

theorem optionalNumber_cases (engine : Engine) (value : Value) :
    optionalNumber engine value = .null ∨ ∃ exact, optionalNumber engine value = number exact := by
  unfold optionalNumber
  split
  · exact .inl rfl
  · exact .inl rfl
  · exact .inl rfl
  · split
    · exact .inr ⟨_, rfl⟩
    · exact .inl rfl

theorem chosen_cases (choices : List String) (fallback : String) (value : Value) :
    (∃ text, chosen choices fallback value = .string text ∧ text ∈ choices.map Utf16.ofString) ∨
      chosen choices fallback value = .text fallback := by
  unfold chosen
  split
  · split_ifs with hin
    · exact .inl ⟨_, rfl, hin⟩
    · exact .inr rfl
  · exact .inr rfl

@[simp]
theorem chosen_again (choices : List String) (fallback : String) :
    chosen choices fallback (chosen choices fallback value) = chosen choices fallback value := by
  rcases chosen_cases choices fallback value with ⟨text, htext, hin⟩ | hfallback
  · rw [htext]
    exact if_pos hin
  · rw [hfallback]
    unfold chosen Value.text
    simp only [ite_self]

theorem cut_cases (limit : Nat) (fallback value : Value) :
    (∃ text, cut limit fallback value = .string text ∧ text.length ≤ limit) ∨
      cut limit fallback value = fallback := by
  unfold cut
  split
  · exact .inl ⟨_, rfl, List.length_take_le _ _⟩
  · exact .inr rfl

theorem pageOf_cases (engine : Engine) (value : Value) :
    (∃ page, pageOf engine value = number page ∧ isVirtualPageKey page = true) ∨
      ¬isVirtualPage value = true ∧
        pageOf engine value = number (max 1 (Script.round (finite engine value 1))) := by
  by_cases hvirtual : isVirtualPage value = true
  · have hsame : pageOf engine value = value := if_pos hvirtual
    rw [hsame]
    unfold isVirtualPage at hvirtual
    split at hvirtual
    · exact .inl ⟨_, rfl, hvirtual⟩
    · cases hvirtual
  · exact .inr ⟨hvirtual, if_neg hvirtual⟩

def pressureSourceOf (value : Value) : Value :=
  if value.text? = some (Utf16.ofString "speed") then .text "speed" else .undefined

theorem pressureSourceOf_cases (value : Value) :
    pressureSourceOf value = .text "speed" ∨ pressureSourceOf value = .undefined := by
  unfold pressureSourceOf
  split_ifs with h
  · exact .inl rfl
  · exact .inr rfl

def IsDate (engine : Engine) (text : Text) : Prop := ∃ time, text = engine.isoDate time

theorem dateOf_again {text : Text} (h : IsDate engine text) (fallback : Text) :
    dateOf engine fallback (.string text) = some text := by
  obtain ⟨time, rfl⟩ := h
  have hread : Script.timeOf engine (.string (engine.isoDate time)) = some time :=
    engine.parseDate_isoDate time
  have hparsed : engine.parseDate (Script.toText engine (.string (engine.isoDate time))) =
      some time := engine.parseDate_isoDate time
  unfold dateOf
  rw [hread, hparsed]
  rfl

/-! What the members are written as. -/

@[simp]
theorem writable_string (text : Text) : Writable (.string text) := .inr trivial

@[simp]
theorem writable_text (text : String) : Writable (.text text) := .inr trivial

@[simp]
theorem writable_number (value : ℚ) : Writable (number value) := .inr (plain_number value)

@[simp]
theorem writable_bounded (low high fallback : ℚ) :
    Writable (bounded engine low high fallback value) := writable_number _

@[simp]
theorem writable_atLeast (low fallback : ℚ) : Writable (atLeast engine low fallback value) :=
  writable_number _

@[simp]
theorem writable_count : Writable (count engine value) := writable_number _

@[simp]
theorem writable_flag : Writable (flag value) := .inr trivial

@[simp]
theorem writable_optionalNumber : Writable (optionalNumber engine value) := by
  rcases optionalNumber_cases engine value with hnull | ⟨exact, hnumber⟩
  · rw [hnull]
    exact .inr trivial
  · rw [hnumber]
    exact writable_number exact

@[simp]
theorem writable_chosen (choices : List String) (fallback : String) :
    Writable (chosen choices fallback value) := by
  rcases chosen_cases choices fallback value with ⟨text, htext, _⟩ | hfallback
  · rw [htext]
    exact writable_string text
  · rw [hfallback]
    exact writable_text fallback

theorem writable_cut (limit : Nat) (h : Writable other) : Writable (cut limit other value) := by
  rcases cut_cases limit other value with ⟨text, htext, _⟩ | hfallback
  · rw [htext]
    exact writable_string text
  · rw [hfallback]
    exact h

@[simp]
theorem writable_pageOf : Writable (pageOf engine value) := by
  rcases pageOf_cases engine value with ⟨page, hpage, _⟩ | ⟨_, hpage⟩
  · rw [hpage]
    exact writable_number page
  · rw [hpage]
    exact writable_number _

@[simp]
theorem writable_pressureSourceOf : Writable (pressureSourceOf value) := by
  rcases pressureSourceOf_cases value with hspeed | hnone
  · rw [hspeed]
    exact writable_text _
  · exact .inl hnone

variable {now later : Time}

def pointRules (engine : Engine) (now : Time) : Rules := [
  ("x", bounded engine 0 1000 0),
  ("y", bounded engine 0 1000 0),
  ("p", bounded engine 0 1 0),
  ("t", atLeast engine 0 now.val),
  ("pointer", chosen ["pen", "touch", "mouse", "unknown"] "unknown"),
  ("pointerId", count engine),
  ("buttons", count engine),
  ("pressureAvailable", flag),
  ("contactWidth", atLeast engine 0 0),
  ("contactHeight", atLeast engine 0 0),
  ("tiltX", bounded engine (-90) 90 0),
  ("tiltY", bounded engine (-90) 90 0),
  ("altitudeAngle", optionalNumber engine),
  ("azimuthAngle", optionalNumber engine),
  ("twist", optionalNumber engine),
  ("tangentialPressure", optionalNumber engine)]

def positionRules (engine : Engine) : Rules := [
  ("x", bounded engine 0 1000 0),
  ("y", bounded engine 0 1000 0)]

theorem pointRules_names : ((pointRules engine now).map Prod.fst).Nodup := by
  simp [pointRules]

theorem positionRules_names : ((positionRules engine).map Prod.fst).Nodup := by
  simp [positionRules]

theorem plain_safePoint (point : Value) : Plain (safePoint engine now point) :=
  Script.plain_record_make pointRules_names (by simp [pointRules]) point

@[simp]
theorem writable_safePoint (point : Value) : Writable (safePoint engine now point) :=
  .inr (plain_safePoint point)

theorem plain_safePosition (point : Value) : Plain (safePosition engine point) :=
  Script.plain_record_make positionRules_names (by simp [positionRules]) point

def erasurePoints (engine : Engine) (value : Value) : Value :=
  .array ((value.items.take 96).map (safePosition engine))

theorem plain_array {items : List Value} (h : ∀ item ∈ items, Plain item) :
    Plain (.array items) := Script.plainItems_iff.mpr h

@[simp]
theorem writable_erasurePoints : Writable (erasurePoints engine value) := by
  refine .inr (plain_array fun item hitem => ?_)
  obtain ⟨point, _, rfl⟩ := List.mem_map.mp hitem
  exact plain_safePosition point

def erasureRules (engine : Engine) : Rules := [
  ("radius", bounded engine (1 / 2) 80 4),
  ("points", erasurePoints engine)]

theorem erasureRules_names : ((erasureRules engine).map Prod.fst).Nodup := by
  simp [erasureRules]

theorem plain_safeErasure (erasure : Value) : Plain (safeErasure engine erasure) :=
  Script.plain_record_make erasureRules_names (by simp [erasureRules]) erasure

end

end LockIn.Workspace.Snapshot
