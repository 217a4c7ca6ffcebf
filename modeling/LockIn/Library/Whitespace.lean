import Mathlib.Data.List.DropRight
import Mathlib.Tactic

/-!
# White space in Python and in JavaScript

`str.strip` and `String.prototype.trim` drop white space from both ends of a text, but not the
same characters.  A text that one of them leaves something of can be empty for the other.
-/

namespace Whitespace

open List

abbrev Text : Type := List Char

instance lawful : LawfulBEq Text := inferInstance

variable {p : Char → Bool}

/-- `str.isspace` of a character. -/
def isPythonSpace (char : Char) : Bool :=
  let code := char.toNat
  (0x09 ≤ code && code ≤ 0x0D) || (0x1C ≤ code && code ≤ 0x20) || code = 0x85 || code = 0xA0 ||
    code = 0x1680 || (0x2000 ≤ code && code ≤ 0x200A) || code = 0x2028 || code = 0x2029 ||
    code = 0x202F || code = 0x205F || code = 0x3000

/-- `WhiteSpace` and `LineTerminator` of ECMAScript. -/
def isScriptSpace (char : Char) : Bool :=
  let code := char.toNat
  (0x09 ≤ code && code ≤ 0x0D) || code = 0x20 || code = 0xA0 || code = 0xFEFF || code = 0x1680 ||
    (0x2000 ≤ code && code ≤ 0x200A) || code = 0x2028 || code = 0x2029 || code = 0x202F ||
    code = 0x205F || code = 0x3000

def trimmed (p : Char → Bool) (text : Text) : Text := (text.dropWhile p).rdropWhile p

def strip (text : Text) : Text := trimmed isPythonSpace text

def trim (text : Text) : Text := trimmed isScriptSpace text

/-- `" ".join(text.split())`. -/
def singleSpaced (text : Text) : Text :=
  [' '].intercalate ((text.splitOnP isPythonSpace).filter (· ≠ []))

theorem trimmed_eq_nil {text : Text} : trimmed p text = [] ↔ ∀ char ∈ text, p char = true := by
  show (text.dropWhile p).rdropWhile p = [] ↔ _
  rw [rdropWhile_eq_nil_iff]
  constructor
  · intro h char hchar
    rw [← takeWhile_append_dropWhile (p := p) (l := text)] at hchar
    rcases mem_append.1 hchar with hfront | hback
    · exact mem_takeWhile_imp hfront
    · exact h char hback
  · intro h char hchar
    exact h char ((dropWhile_suffix p).subset hchar)

/-- What is left of a text neither begins nor ends with a dropped character. -/
theorem trimmed_trimmed (text : Text) : trimmed p (trimmed p text) = trimmed p text := by
  have hfront : (trimmed p text).dropWhile p = trimmed p text := by
    cases hleft : trimmed p text with
    | nil => rfl
    | cons char rest =>
      obtain ⟨back, hback⟩ : char :: rest <+: text.dropWhile p := by
        rw [← hleft]
        exact rdropWhile_prefix p _
      have hne : text.dropWhile p ≠ [] := by
        rw [← hback]
        exact cons_ne_nil _ _
      have hhead : (text.dropWhile p).head hne = char := by
        simp only [← hback, cons_append, head_cons]
      have hkeep : ¬p char := by
        rw [← hhead]
        exact Bool.eq_false_iff.1 (head_dropWhile_not p hne)
      rw [dropWhile_cons_of_neg hkeep]
  show ((trimmed p text).dropWhile p).rdropWhile p = trimmed p text
  rw [hfront]
  exact rdropWhile_idempotent p _

theorem strip_strip (text : Text) : strip (strip text) = strip text :=
  trimmed_trimmed text

theorem exists_piece {text : Text} {char : Char} (hchar : char ∈ text) (hkeep : p char = false) :
    ∃ piece ∈ text.splitOnP p, char ∈ piece := by
  induction text with
  | nil => exact absurd hchar not_mem_nil
  | cons first rest ih =>
    rw [splitOnP_cons_eq_if_modifyHead]
    have htail (hrest : char ∈ rest) : ∃ piece ∈ rest.splitOnP p, char ∈ piece := ih hrest
    by_cases hfirst : p first = true
    · rw [if_pos hfirst]
      rcases mem_cons.1 hchar with rfl | hrest
      · rw [hkeep] at hfirst
        cases hfirst
      · obtain ⟨piece, hpiece, hmem⟩ := htail hrest
        exact ⟨piece, mem_cons_of_mem _ hpiece, hmem⟩
    · rw [if_neg hfirst]
      cases hsplit : rest.splitOnP p with
      | nil => exact absurd hsplit (splitOnP_ne_nil p rest)
      | cons head others =>
        show ∃ piece ∈ (first :: head) :: others, char ∈ piece
        rcases mem_cons.1 hchar with rfl | hrest
        · exact ⟨_, mem_cons_self, mem_cons_self⟩
        · obtain ⟨piece, hpiece, hmem⟩ := htail hrest
          rw [hsplit] at hpiece
          rcases mem_cons.1 hpiece with rfl | hother
          · exact ⟨_, mem_cons_self, mem_cons_of_mem _ hmem⟩
          · exact ⟨piece, mem_cons_of_mem _ hother, hmem⟩

/-- A text of which `strip` leaves something has a word. -/
theorem singleSpaced_ne_nil {text : Text} (h : strip text ≠ []) : singleSpaced text ≠ [] := by
  have hsome : ¬∀ char ∈ text, isPythonSpace char = true := fun hall => h (trimmed_eq_nil.2 hall)
  push Not at hsome
  obtain ⟨char, hchar, hvisible⟩ := hsome
  obtain ⟨piece, hpiece, hmem⟩ := exists_piece hchar (Bool.eq_false_iff.2 hvisible)
  have hword : piece ≠ [] := ne_nil_of_mem hmem
  unfold singleSpaced
  cases hwords : (text.splitOnP isPythonSpace).filter (· ≠ []) with
  | nil =>
    have hnone := filter_eq_nil_iff.1 hwords piece hpiece
    simp [hword] at hnone
  | cons first rest =>
    have hfirst : first ≠ [] := by
      have hmem : first ∈ (text.splitOnP isPythonSpace).filter (· ≠ []) := by
        rw [hwords]
        exact mem_cons_self
      simpa using (mem_filter.1 hmem).2
    cases rest with
    | nil => simpa using hfirst
    | cons second others => simp [intercalate_cons_cons, hfirst]

end Whitespace
