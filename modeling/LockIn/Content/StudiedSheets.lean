import LockIn.Content.ImportOutcomes
import LockIn.Content.Planning
import LockIn.Study.RunInvariant

/-!
# Sheets as students study them

The services of Active Study read a sheet through its plan and its banks.  What they find of a
bank was validated for the plan, so the pages of a page bank are the pages of the ranges that it
was imported for.
-/

namespace LockIn.Content

open Outcome (bind_eq_ok mapError_eq_ok)
open List
open Study (Difficulty Edition PageRange PageCounts Plan MirroredParts Partitions Consecutive)
open Whitespace (Text)

section
variable (casefold : Text → Text)

def bankComplete (sheet : Sheet) (difficulty : Difficulty) (edition : Edition) : Bool :=
  match Study.planForSheet sheet.outline edition, sheet.content difficulty with
  | .ok plans, some content =>
    let plan := plans difficulty
    (validateActiveStudyQuestions casefold (requirements sheet difficulty plan
      (Study.importedRanges sheet.outline edition difficulty plan)) content.payload.toJson).isOk
  | _, _ => false

def Sheet.study (sheet : Sheet) : Study.Sheet := sheet.planned (bankComplete casefold sheet)

end

variable {casefold : Text → Text} {sheet : Sheet} {edition : Edition} {difficulty : Difficulty}

variable {plan : Plan} {page : Int}

def pagesBetween (start stop : Int) : List Int :=
  (List.range (stop - start + 1).toNat).map fun index : Nat => start + index

theorem mem_pagesBetween {start stop : Int} :
    page ∈ pagesBetween start stop ↔ start ≤ page ∧ page ≤ stop := by
  unfold pagesBetween
  rw [mem_map]
  constructor
  · rintro ⟨index, hindex, rfl⟩
    have hindex := mem_range.mp hindex
    omega
  · rintro ⟨hstart, hstop⟩
    exact ⟨(page - start).toNat, mem_range.mpr (by omega), by omega⟩

theorem nodup_pagesBetween (start stop : Int) : (pagesBetween start stop).Nodup := by
  apply nodup_range.map
  intro first second hsame
  have hsame : start + (first : Int) = start + second := hsame
  omega

theorem length_pagesBetween (start stop : Int) :
    (pagesBetween start stop).length = (stop - start + 1).toNat := by
  rw [pagesBetween, length_map, length_range]

/-- A page bank with every page from `first` to `last` once, and with questions for each. -/
structure Covers (rows : List Row) (first last : Int) : Prop where
  nodup : (rows.map Row.number).Nodup
  pages : ∀ page, page ∈ rows.map Row.number ↔ first ≤ page ∧ page ≤ last
  questions : ∀ row ∈ rows, row.questions ≠ []

def rowsBetween (rows : List Row) (start stop : Int) : List Row :=
  rows.filter fun row => start ≤ row.number ∧ row.number ≤ stop

section
variable {rows : List Row} {first last start stop : Int}

theorem Covers.nodup_rows (h : Covers rows first last) :
    ((rowsBetween rows start stop).map Row.number).Nodup :=
  h.nodup.sublist (filter_sublist.map _)

theorem Covers.numbers (h : Covers rows first last) (hstart : first ≤ start) (hstop : stop ≤ last) :
    ((rowsBetween rows start stop).map Row.number).Perm (pagesBetween start stop) := by
  refine (perm_ext_iff_of_nodup h.nodup_rows (nodup_pagesBetween start stop)).mpr ?_
  intro page
  rw [mem_pagesBetween]
  constructor
  · intro hpage
    obtain ⟨row, hrow, rfl⟩ := mem_map.mp hpage
    simpa using (mem_filter.mp hrow).2
  · rintro ⟨hlow, hhigh⟩
    obtain ⟨row, hrow, rfl⟩ := mem_map.mp ((h.pages page).mpr ⟨by omega, by omega⟩)
    exact mem_map_of_mem (mem_filter.mpr ⟨hrow, by simpa using ⟨hlow, hhigh⟩⟩)

theorem Covers.length (h : Covers rows first last) (hstart : first ≤ start) (hstop : stop ≤ last) :
    (rowsBetween rows start stop).length = (stop - start + 1).toNat := by
  have hlength := (h.numbers hstart hstop).length_eq
  rwa [length_map, length_pagesBetween] at hlength

end

end LockIn.Content
