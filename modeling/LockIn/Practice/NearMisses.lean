import LockIn.Library.EditScript
import LockIn.Practice.Sets
import Mathlib.Data.List.GetD

/-!
# Near misses

An answer is compared in its normal form.  A wrong one is a near miss when a few edits turn it into
the name of the slide.  `_within_edits` counts them with a table of which it keeps three rows.
-/

namespace LockIn.Practice

open EditScript (Script grid distance)
open List

/-- The rows that the loop keeps: the one being read, the one above it and the one above that. -/
structure Rows where
  before : List Nat
  previous : List Nat
  row : List Nat

/-- `row[j]`, where the cells before it are filled. -/
def editCell (left right : Text) (before previous row : List Nat) (i j : Nat) (a b : Char) : Nat :=
  let cost := if a = b then 0 else 1
  let best := min (min (previous.getD j 0 + 1) (row.getD (j - 1) 0 + 1))
    (previous.getD (j - 1) 0 + cost)
  if (1 < i ∧ 1 < j) ∧ right[j - 2]? = some a ∧ left[i - 2]? = some b then
    min best (before.getD (j - 2) 0 + 1)
  else best

/-- The inner loop: `row` from `[i] + [0] * len(right)` on. -/
def editRow (left right : Text) (before previous : List Nat) (i : Nat) (a : Char) : List Nat :=
  (right.zipIdx 1).foldl
    (fun row entry => row.set entry.2 (editCell left right before previous row i entry.2 a entry.1))
    (i :: List.replicate right.length 0)

def editRows (left right : Text) : Rows :=
  (left.zipIdx 1).foldl
    (fun rows entry =>
      ⟨rows.previous, rows.row, editRow left right rows.previous rows.row entry.2 entry.1⟩)
    ⟨[], [], List.range (right.length + 1)⟩

def withinEdits (left right : Text) (limit : Nat) : Bool :=
  if limit < (left.length - right.length) + (right.length - left.length) then false
  else (editRows left right).row.getD right.length 0 ≤ limit

/-- What holds at the start of a loop over numbered items, and is kept by each of them, holds at the
end. -/
theorem foldl_zipIdx {α σ : Type} (items : List α) (step : σ → α × Nat → σ) (start : σ)
    {I : Nat → σ → Prop} (hstart : I 0 start)
    (hstep : ∀ n (hn : n < items.length) state, I n state → I (n + 1) (step state (items[n], n + 1))) :
    I items.length ((items.zipIdx 1).foldl step start) := by
  have hprefix : ∀ n ≤ items.length, I n (((items.zipIdx 1).take n).foldl step start) := by
    intro n
    induction n with
    | zero => exact fun _ => hstart
    | succ n ih =>
      intro hn
      have hlt : n < (items.zipIdx 1).length := by
        rw [length_zipIdx]
        omega
      rw [take_succ_eq_append_getElem hlt, foldl_append, foldl_cons, foldl_nil,
        getElem_zipIdx, Nat.add_comm 1 n]
      exact hstep n hn _ (ih (by omega))
  have hall := hprefix items.length le_rfl
  rwa [take_of_length_le (by rw [length_zipIdx])] at hall

section
variable {left right : Text} {i j : Nat} {row before previous : List Nat}

def gridRow (left right : Text) (i : Nat) : List Nat :=
  (List.range (right.length + 1)).map (grid left right i)

theorem getD_gridRow (hj : j ≤ right.length) : (gridRow left right i).getD j 0 = grid left right i j := by
  have hlt : j < (gridRow left right i).length := by
    simp only [gridRow, length_map, length_range]
    omega
  rw [getD_eq_getElem _ _ hlt]
  simp [gridRow]

theorem eq_gridRow (hlength : row.length = right.length + 1)
    (h : ∀ k ≤ right.length, row.getD k 0 = grid left right i k) : row = gridRow left right i := by
  apply ext_getElem
  · simp [gridRow, hlength]
  · intro k hk hk'
    have hcell := h k (by omega)
    rw [getD_eq_getElem _ _ hk] at hcell
    simpa [gridRow] using hcell

theorem editCell_eq (hi : i < left.length) (hj : j < right.length)
    (hbefore : 0 < i → before = gridRow left right (i - 1))
    (hrow : row.getD j 0 = grid left right (i + 1) j) :
    editCell left right before (gridRow left right i) row (i + 1) (j + 1) left[i] right[j] =
      grid left right (i + 1) (j + 1) := by
  have hswap : ((1 < i + 1 ∧ 1 < j + 1) ∧ right[j + 1 - 2]? = some left[i] ∧
      left[i + 1 - 2]? = some right[j]) ↔
      (0 < i ∧ left[i - 1]? = some right[j]) ∧ 0 < j ∧ right[j - 1]? = some left[i] := by
    rw [show i + 1 - 2 = i - 1 from rfl, show j + 1 - 2 = j - 1 from rfl]
    constructor
    · rintro ⟨⟨_, _⟩, hright, hleft⟩
      exact ⟨⟨by omega, hleft⟩, by omega, hright⟩
    · rintro ⟨⟨_, hleft⟩, _, hright⟩
      exact ⟨⟨by omega, by omega⟩, hright, hleft⟩
  rw [EditScript.grid_succ hi hj]
  unfold editCell
  simp only [Nat.add_sub_cancel, getD_gridRow hj, getD_gridRow hj.le, hrow, hswap]
  by_cases h : (0 < i ∧ left[i - 1]? = some right[j]) ∧ 0 < j ∧ right[j - 1]? = some left[i]
  · rw [if_pos h, if_pos h, hbefore h.1.1, show j + 1 - 2 = j - 1 from rfl,
      getD_gridRow (by omega)]
    rfl
  · rw [if_neg h, if_neg h]
    rfl

theorem editRow_eq (hi : i < left.length)
    (hbefore : 0 < i → before = gridRow left right (i - 1)) :
    editRow left right before (gridRow left right i) (i + 1) left[i] =
      gridRow left right (i + 1) := by
  have hinv := foldl_zipIdx right
    (fun row entry =>
      row.set entry.2 (editCell left right before (gridRow left right i) row (i + 1) entry.2 left[i]
        entry.1))
    ((i + 1) :: List.replicate right.length 0)
    (I := fun n row => row.length = right.length + 1 ∧
      ∀ k ≤ n, row.getD k 0 = grid left right (i + 1) k)
    ⟨by simp, fun k hk => ?_⟩ ?_
  · exact eq_gridRow hinv.1 hinv.2
  · obtain rfl : k = 0 := by omega
    exact (EditScript.grid_zero_right hi).symm
  · rintro n hn row ⟨hlength, hcells⟩
    refine ⟨by simpa using hlength, fun k hk => ?_⟩
    rcases Nat.lt_or_ge k (n + 1) with hlt | hge
    · have hne : n + 1 ≠ k := by omega
      rw [getD_eq_getElem?_getD, getElem?_set_ne hne, ← getD_eq_getElem?_getD]
      exact hcells k (by omega)
    · obtain rfl : k = n + 1 := by omega
      have hin : n + 1 < row.length := by omega
      rw [getD_eq_getElem?_getD, getElem?_set_self hin]
      exact editCell_eq hi hn hbefore (hcells n le_rfl)

theorem editRows_row (left right : Text) :
    (editRows left right).row = gridRow left right left.length := by
  have hinv := foldl_zipIdx left
    (fun rows entry =>
      (⟨rows.previous, rows.row, editRow left right rows.previous rows.row entry.2 entry.1⟩ : Rows))
    ⟨[], [], List.range (right.length + 1)⟩
    (I := fun n rows => rows.row = gridRow left right n ∧
      (0 < n → rows.previous = gridRow left right (n - 1)))
    ⟨?_, fun h => absurd h (lt_irrefl 0)⟩ ?_
  · exact hinv.1
  · refine eq_gridRow (by simp) fun k hk => ?_
    rw [EditScript.grid_zero_left hk, getD_eq_getElem _ _ (by simp; omega)]
    simp
  · rintro n hn rows ⟨hrow, hprevious⟩
    refine ⟨?_, fun _ => hrow⟩
    show editRow left right rows.previous rows.row (n + 1) left[n] = _
    rw [hrow]
    exact editRow_eq hn hprevious

theorem withinEdits_iff_distance (left right : Text) (limit : Nat) :
    withinEdits left right limit = true ↔ distance left right ≤ limit := by
  have hcell : (editRows left right).row.getD right.length 0 = distance left right := by
    rw [editRows_row, getD_gridRow le_rfl, EditScript.grid_length]
  have hlength := (EditScript.script_distance left right).length_le
  unfold withinEdits
  split_ifs with hfar
  · simp only [false_iff]
    omega
  · rw [hcell, decide_eq_true_eq]

theorem withinEdits_iff (left right : Text) (limit : Nat) :
    withinEdits left right limit = true ↔ ∃ cost ≤ limit, Script left right cost := by
  rw [withinEdits_iff_distance, EditScript.distance_le_iff]

theorem withinEdits_comm (left right : Text) (limit : Nat) :
    withinEdits left right limit = withinEdits right left limit := by
  rw [Bool.eq_iff_iff, withinEdits_iff_distance, withinEdits_iff_distance,
    EditScript.distance_comm]

end

section
variable (rules : Rules)

def isCorrect (typed expected : Text) : Bool :=
  normalizeAnswer rules expected ≠ [] && normalizeAnswer rules typed = normalizeAnswer rules expected

def isNearMiss (typed expected : Text) : Bool :=
  let target := normalizeAnswer rules expected
  let attempt := normalizeAnswer rules typed
  if target.length < 4 ∨ attempt = [] ∨ attempt = target then false
  else withinEdits attempt target (if target.length < 12 then 1 else 2)

def folded (text : Text) : Text :=
  rules.casefold (text.filter fun char => !rules.isSpace char && !rules.isFormat char)

/-- The texts differ in letter case, spaces and invisible format characters only. -/
def Alike (text other : Text) : Prop := folded rules text = folded rules other

def ComposedAlike (text : Text) : Prop :=
  normalizeAnswer rules (folded rules text) = normalizeAnswer rules text

def FoldsOnce : Prop := ∀ text, folded rules (folded rules text) = folded rules text

variable {rules} {text other typed expected : Text}

theorem isCorrect_iff : isCorrect rules typed expected = true ↔
    normalizeAnswer rules expected ≠ [] ∧
      normalizeAnswer rules typed = normalizeAnswer rules expected := by
  simp [isCorrect]

theorem isNearMiss_of_isCorrect (h : isCorrect rules typed expected = true) :
    isNearMiss rules typed expected = false := by
  obtain ⟨_, hsame⟩ := isCorrect_iff.1 h
  exact if_pos (.inr (.inr hsame))

theorem ComposedAlike.normal (h : ComposedAlike rules text) (hother : ComposedAlike rules other)
    (halike : Alike rules text other) :
    normalizeAnswer rules text = normalizeAnswer rules other := by
  rw [← h, ← hother, halike]

theorem normal_eq_of_isCorrect
    (h : ∀ expected, isCorrect rules text expected = isCorrect rules other expected) :
    normalizeAnswer rules text = normalizeAnswer rules other := by
  by_cases hempty : normalizeAnswer rules text = []
  · by_contra hne
    have hfull : normalizeAnswer rules other ≠ [] := fun hnil => hne (hempty.trans hnil.symm)
    have hother : isCorrect rules other other = true := isCorrect_iff.2 ⟨hfull, rfl⟩
    rw [← h other] at hother
    exact hne (isCorrect_iff.1 hother).2
  · have hself : isCorrect rules text text = true := isCorrect_iff.2 ⟨hempty, rfl⟩
    rw [h text] at hself
    exact (isCorrect_iff.1 hself).2.symm

/-- Near misses are the answers a few edits away, and no correct answer is one.  Letter case, spaces
and format characters make no difference to the judgement exactly where NFC composes the same
characters before and after they are folded. -/
theorem near_misses (hfold : FoldsOnce rules) :
    (∀ left right limit, withinEdits left right limit = true ↔
      ∃ cost ≤ limit, Script left right cost) ∧
    (∀ left right limit, withinEdits left right limit = withinEdits right left limit) ∧
    (∀ typed expected, isCorrect rules typed expected = true →
      isNearMiss rules typed expected = false) ∧
    (∀ typed typed' expected expected', Alike rules typed typed' → Alike rules expected expected' →
      ComposedAlike rules typed → ComposedAlike rules typed' →
      ComposedAlike rules expected → ComposedAlike rules expected' →
        isNearMiss rules typed expected = isNearMiss rules typed' expected') ∧
    ∀ text, ComposedAlike rules text ↔
      ∀ other, Alike rules text other → ComposedAlike rules other → ∀ expected,
        isCorrect rules text expected = isCorrect rules other expected ∧
          isNearMiss rules text expected = isNearMiss rules other expected := by
  refine ⟨withinEdits_iff, withinEdits_comm, fun _ _ => isNearMiss_of_isCorrect, ?_, fun text => ?_⟩
  · intro typed typed' expected expected' htyped hexpected h h' hother hother'
    unfold isNearMiss
    rw [h.normal h' htyped, hother.normal hother' hexpected]
  · constructor
    · intro h other halike hother expected
      unfold isCorrect isNearMiss
      rw [h.normal hother halike]
      exact ⟨rfl, rfl⟩
    · intro h
      have hcomposed : ComposedAlike rules (folded rules text) := by
        unfold ComposedAlike
        rw [hfold text]
      have hverdicts := h (folded rules text) (hfold text).symm hcomposed
      exact (normal_eq_of_isCorrect fun expected => (hverdicts expected).1).symm

end

def acute : Char := Char.ofNat 0x301

def zeroWidthSpace : Char := Char.ofNat 0x200B

/-- An `e` and an acute accent after it become one letter. -/
def composeAcute : Text → Text
  | 'e' :: mark :: text =>
    if mark = acute then 'é' :: composeAcute text else 'e' :: composeAcute (mark :: text)
  | char :: text => char :: composeAcute text
  | [] => []

def lowerM (char : Char) : Char := if char = 'M' then 'm' else char

/-- What Python knows of the characters of one answer. -/
def acuteRules : Rules where
  nfc := composeAcute
  isSpace := fun char => char = ' '
  isFormat := fun char => char = zeroWidthSpace
  casefold := fun text => text.map lowerM
  sameTitle := fun first second => first = second
  digits := latinDigits
  uploadName := id
  maxSlidesPerSet := 200
  imageMaxBytes := 10000000

theorem lowerM_lowerM (char : Char) : lowerM (lowerM char) = lowerM char := by
  unfold lowerM
  split_ifs with h hagain
  · exact absurd hagain (by decide)
  · rfl
  · rfl

theorem acuteRules_foldsOnce : FoldsOnce acuteRules := by
  intro text
  have hkept (char : Char) : (!acuteRules.isSpace (lowerM char) && !acuteRules.isFormat (lowerM char)) =
      (!acuteRules.isSpace char && !acuteRules.isFormat char) := by
    unfold lowerM
    split_ifs with h
    · subst h
      decide
    · rfl
  show ((List.map lowerM _).filter _).map lowerM = List.map lowerM _
  rw [filter_map, map_map]
  have hfilter : ((fun char => !acuteRules.isSpace char && !acuteRules.isFormat char) ∘ lowerM) =
      fun char => !acuteRules.isSpace char && !acuteRules.isFormat char := funext hkept
  rw [hfilter, filter_filter]
  simp only [Bool.and_self]
  exact map_congr_left fun char _ => lowerM_lowerM char

/-- Two letters that changed places are one edit. -/
theorem femur_swapped : ∃ cost ≤ 1, Script "fmeur".toList "femur".toList cost :=
  ((near_misses acuteRules_foldsOnce).1 "fmeur".toList "femur".toList 1).1 (by decide)

def decomposedName : Text := 'M' :: 'e' :: acute :: "nière disease".toList

def spacedName : Text := 'M' :: 'e' :: zeroWidthSpace :: acute :: "nière disease".toList

/-- An invisible space keeps an accent from its letter, so that a correct answer becomes a near
miss. -/
theorem invisible_space_makes_near_miss :
    Alike acuteRules decomposedName spacedName ∧
      isNearMiss acuteRules decomposedName "Ménière disease".toList = false ∧
      isNearMiss acuteRules spacedName "Ménière disease".toList = true := by
  exact ⟨rfl, by decide +kernel, by decide +kernel⟩

end LockIn.Practice
