import LockIn.Library.JsonText

/-!
# Records made by rules

A program that takes records from outside makes each of its own from them, one member at a time: a
rule turns whatever stands under a name into a value that it trusts.  Where the later rules keep
what the first ones made, a record that was made once is made again as it is.
-/

namespace Script

open JsonText (Plain PlainItems PlainMembers)
open List
open Value (record)
open Utf16 (Text)

abbrev Rules : Type := List (String × (Value → Value))

def make (rules : Rules) (value : Value) : List (String × Value) :=
  rules.map fun rule => (rule.1, rule.2 (value.get rule.1))

variable {rules first later : Rules} {fields : List (String × Value)} {name : String}
  {value other : Value}

theorem names_make (rules : Rules) (value : Value) :
    (make rules value).map Prod.fst = rules.map Prod.fst := by
  unfold make
  rw [map_map]
  rfl

theorem get_record_of_not_mem (h : name ∉ fields.map Prod.fst) :
    (record fields).get name = .undefined := by
  induction fields with
  | nil => rfl
  | cons field rest ih =>
    obtain ⟨label, held⟩ := field
    rw [map_cons, mem_cons, not_or] at h
    rw [Value.get_record_cons, if_neg fun hfound => h.1 hfound.1.symm, ih h.2]

theorem get_record_of_mem (hnames : (fields.map Prod.fst).Nodup) (h : (name, value) ∈ fields) :
    (record fields).get name = value := by
  induction fields with
  | nil => cases h
  | cons field rest ih =>
    obtain ⟨label, held⟩ := field
    rw [map_cons, nodup_cons] at hnames
    rw [Value.get_record_cons]
    rcases mem_cons.mp h with hhere | hthere
    · obtain ⟨rfl, rfl⟩ := Prod.mk.inj hhere
      rw [get_record_of_not_mem hnames.1]
      cases value with
      | undefined => exact ite_self _
      | _ => exact if_pos ⟨rfl, rfl⟩
    · have hname : label ≠ name := by
        intro hlabel
        rw [hlabel] at hnames
        exact hnames.1 (mem_map.mpr ⟨_, hthere, rfl⟩)
      rw [if_neg fun hfound => hname hfound.1, ih hnames.2 hthere]

/-- What a member can be in a file: left out of it, or of a form there. -/
def Writable (value : Value) : Prop := value = .undefined ∨ Plain value

theorem plainItems_iff {items : List Value} : PlainItems items ↔ ∀ item ∈ items, Plain item := by
  induction items with
  | nil => simp [PlainItems]
  | cons item rest ih => simp [PlainItems, ih]

theorem plainMembers_iff {members : List (Text × Value)} :
    PlainMembers members ↔ ∀ member ∈ members, Plain member.2 := by
  induction members with
  | nil => simp [PlainMembers]
  | cons member rest ih =>
    obtain ⟨name, value⟩ := member
    simp [PlainMembers, ih]

theorem plain_record (hnames : (fields.map Prod.fst).Nodup)
    (h : ∀ field ∈ fields, Writable field.2) : Plain (record fields) := by
  constructor
  · have hkeys : Dictionary.keys ((fields.filter fun field => field.2.isDefined).map fun field =>
        (Utf16.ofString field.1, field.2)) =
        ((fields.filter fun field => field.2.isDefined).map Prod.fst).map Utf16.ofString := by
      unfold Dictionary.keys
      rw [map_map, map_map]
      rfl
    rw [hkeys]
    exact (hnames.sublist (filter_sublist.map _)).map Utf16.ofString_injective
  · rw [plainMembers_iff]
    intro member hmember
    obtain ⟨field, hfield, rfl⟩ := mem_map.mp hmember
    obtain ⟨hin, hdefined⟩ := mem_filter.mp hfield
    rcases h field hin with hnone | hplain
    · rw [hnone] at hdefined
      cases hdefined
    · exact hplain

theorem plain_record_make (hnames : (rules.map Prod.fst).Nodup)
    (h : ∀ rule ∈ rules, ∀ value, Writable (rule.2 value)) (value : Value) :
    Plain (record (make rules value)) := by
  refine plain_record (by rw [names_make]; exact hnames) fun field hfield => ?_
  obtain ⟨rule, hrule, rfl⟩ := mem_map.mp hfield
  exact h rule hrule _

end Script
