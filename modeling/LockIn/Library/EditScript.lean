import Mathlib.Tactic

/-!
# Edit scripts

A script turns one list into another by keeping, deleting, inserting and changing items and by
swapping two adjacent ones.  It goes over both lists once, so that no item is edited twice.
`distance` is the least cost of a script: the optimal string alignment distance.

`grid` reads the distance of two prefixes.  Its equations are those of the dynamic programme that
fills a table row by row.
-/

namespace EditScript

open List

variable {α : Type}

/-- `Script left right cost`: a script with so many edits turns `left` into `right`. -/
inductive Script : List α → List α → Nat → Prop
  | nil : Script [] [] 0
  | keep (item : α) {left right : List α} {cost : Nat} :
      Script left right cost → Script (item :: left) (item :: right) cost
  | delete (item : α) {left right : List α} {cost : Nat} :
      Script left right cost → Script (item :: left) right (cost + 1)
  | insert (item : α) {left right : List α} {cost : Nat} :
      Script left right cost → Script left (item :: right) (cost + 1)
  | change (old new : α) {left right : List α} {cost : Nat} :
      Script left right cost → Script (old :: left) (new :: right) (cost + 1)
  | swap (first second : α) {left right : List α} {cost : Nat} :
      Script left right cost →
        Script (first :: second :: left) (second :: first :: right) (cost + 1)

variable {left right left' right' : List α} {cost cost' : Nat}

namespace Script

theorem symm (h : Script left right cost) : Script right left cost := by
  induction h with
  | nil => exact .nil
  | keep item _ ih => exact .keep item ih
  | delete item _ ih => exact .insert item ih
  | insert item _ ih => exact .delete item ih
  | change old new _ ih => exact .change new old ih
  | swap first second _ ih => exact .swap second first ih

theorem append (h : Script left right cost) (h' : Script left' right' cost') :
    Script (left ++ left') (right ++ right') (cost + cost') := by
  induction h with
  | nil => rwa [nil_append, nil_append, Nat.zero_add]
  | keep item _ ih => exact .keep item ih
  | delete item _ ih =>
    rw [Nat.add_right_comm]
    exact .delete item ih
  | insert item _ ih =>
    rw [Nat.add_right_comm]
    exact .insert item ih
  | change old new _ ih =>
    rw [Nat.add_right_comm]
    exact .change old new ih
  | swap first second _ ih =>
    rw [Nat.add_right_comm]
    exact .swap first second ih

theorem reverse (h : Script left right cost) : Script left.reverse right.reverse cost := by
  induction h with
  | nil => exact .nil
  | keep item _ ih =>
    rw [reverse_cons, reverse_cons]
    exact ih.append (.keep item .nil)
  | delete item _ ih =>
    rw [reverse_cons]
    simpa using ih.append (.delete item .nil)
  | insert item _ ih =>
    rw [reverse_cons]
    simpa using ih.append (.insert item .nil)
  | change old new _ ih =>
    rw [reverse_cons, reverse_cons]
    exact ih.append (.change old new .nil)
  | swap first second _ ih =>
    have htail := ih.append (.swap second first .nil)
    simpa using htail

theorem reverse_iff : Script left.reverse right.reverse cost ↔ Script left right cost := by
  constructor
  · intro h
    simpa using h.reverse
  · exact reverse

theorem insertAll (right : List α) : Script [] right right.length := by
  induction right with
  | nil => exact .nil
  | cons item right ih => exact .insert item ih

theorem deleteAll (left : List α) : Script left [] left.length := (insertAll left).symm

theorem length_le (h : Script left right cost) :
    left.length ≤ right.length + cost ∧ right.length ≤ left.length + cost := by
  induction h with
  | nil => simp
  | keep item _ ih =>
    simp only [length_cons]
    omega
  | delete item _ ih =>
    simp only [length_cons]
    omega
  | insert item _ ih =>
    simp only [length_cons]
    omega
  | change old new _ ih =>
    simp only [length_cons]
    omega
  | swap first second _ ih =>
    simp only [length_cons]
    omega

end Script

variable [DecidableEq α]

def itemCost (old new : α) : Nat := if old = new then 0 else 1

def least (deleted inserted changed : Nat) (swapped : Option Nat) : Nat :=
  match swapped with
  | none => min (min deleted inserted) changed
  | some swapped => min (min (min deleted inserted) changed) swapped

/-- The least cost, found from the first items: they are set side by side or one of them is left
out, or they are swapped with the next ones. -/
def distance : List α → List α → Nat
  | [], right => right.length
  | old :: left, [] => (old :: left).length
  | old :: left, new :: right =>
    least (distance left (new :: right) + 1) (distance (old :: left) right + 1)
      (distance left right + itemCost old new)
      (if left.head? = some new ∧ right.head? = some old then
        some (distance left.tail right.tail + 1)
      else none)
termination_by left right => left.length + right.length
decreasing_by
  all_goals simp only [length_cons, length_tail]
  all_goals omega

section
variable {deleted inserted changed : Nat} {swapped : Option Nat}

theorem least_le_deleted : least deleted inserted changed swapped ≤ deleted := by
  cases swapped <;> simp [least]

theorem least_le_inserted : least deleted inserted changed swapped ≤ inserted := by
  cases swapped <;> simp [least]

theorem least_le_changed : least deleted inserted changed swapped ≤ changed := by
  cases swapped <;> simp [least]

theorem least_le_swapped : least deleted inserted changed (some cost) ≤ cost :=
  min_le_right _ _

theorem least_cases (deleted inserted changed : Nat) (swapped : Option Nat) :
    least deleted inserted changed swapped = deleted ∨
      least deleted inserted changed swapped = inserted ∨
      least deleted inserted changed swapped = changed ∨
      swapped = some (least deleted inserted changed swapped) := by
  cases swapped with
  | none =>
    simp only [least]
    omega
  | some swapped =>
    simp only [least, Option.some.injEq]
    omega

end

@[simp]
theorem distance_nil_left (right : List α) : distance [] right = right.length := by
  rw [distance]

@[simp]
theorem distance_nil_right (left : List α) : distance left [] = left.length := by
  cases left <;> rw [distance]

theorem distance_cons_cons (old new : α) (left right : List α) :
    distance (old :: left) (new :: right) =
      least (distance left (new :: right) + 1) (distance (old :: left) right + 1)
        (distance left right + itemCost old new)
        (if left.head? = some new ∧ right.head? = some old then
          some (distance left.tail right.tail + 1)
        else none) := by
  rw [distance]

theorem distance_le (h : Script left right cost) : distance left right ≤ cost := by
  induction h with
  | nil => simp
  | keep item _ ih =>
    rw [distance_cons_cons]
    refine least_le_changed.trans ?_
    simpa [itemCost] using ih
  | @delete item left right cost _ ih =>
    cases right with
    | nil =>
      rw [distance_nil_right] at ih ⊢
      simpa using ih
    | cons new right =>
      rw [distance_cons_cons]
      exact least_le_deleted.trans (Nat.succ_le_succ ih)
  | @insert item left right cost _ ih =>
    cases left with
    | nil =>
      rw [distance_nil_left] at ih ⊢
      simpa using ih
    | cons old left =>
      rw [distance_cons_cons]
      exact least_le_inserted.trans (Nat.succ_le_succ ih)
  | change old new _ ih =>
    rw [distance_cons_cons]
    refine least_le_changed.trans (Nat.add_le_add ih ?_)
    unfold itemCost
    split <;> omega
  | swap first second _ ih =>
    rw [distance_cons_cons, if_pos ⟨rfl, rfl⟩]
    exact least_le_swapped.trans (Nat.succ_le_succ ih)

theorem script_itemCost (old new : α) (h : Script left right cost) :
    Script (old :: left) (new :: right) (cost + itemCost old new) := by
  unfold itemCost
  split_ifs with heq
  · rw [heq]
    exact .keep new h
  · exact .change old new h

theorem script_distance (left right : List α) : Script left right (distance left right) := by
  fun_induction distance left right with
  | case1 right => exact .insertAll right
  | case2 old left => exact .deleteAll (old :: left)
  | case3 old left new right ihdelete ihinsert ihchange ihswap =>
    rcases least_cases (distance left (new :: right) + 1) (distance (old :: left) right + 1)
      (distance left right + itemCost old new)
      (if left.head? = some new ∧ right.head? = some old then
        some (distance left.tail right.tail + 1)
      else none) with heq | heq | heq | heq
    · rw [heq]
      exact .delete old ihdelete
    · rw [heq]
      exact .insert new ihinsert
    · rw [heq]
      exact script_itemCost old new ihchange
    · split_ifs at heq with hheads
      obtain ⟨left', rfl⟩ := head?_eq_some_iff.1 hheads.1
      obtain ⟨right', rfl⟩ := head?_eq_some_iff.1 hheads.2
      rw [if_pos hheads, ← Option.some.inj heq]
      exact .swap old new ihswap

theorem distance_le_iff {limit : Nat} :
    distance left right ≤ limit ↔ ∃ cost ≤ limit, Script left right cost := by
  constructor
  · exact fun h => ⟨_, h, script_distance left right⟩
  · rintro ⟨cost, hcost, hscript⟩
    exact (distance_le hscript).trans hcost

theorem distance_comm (left right : List α) : distance left right = distance right left :=
  le_antisymm (distance_le (script_distance right left).symm)
    (distance_le (script_distance left right).symm)

theorem distance_reverse (left right : List α) :
    distance left.reverse right.reverse = distance left right :=
  le_antisymm (distance_le (script_distance left right).reverse)
    (distance_le (Script.reverse_iff.1 (script_distance left.reverse right.reverse)))

/-- The distance of the first `i` items of one list and the first `j` of the other. -/
def grid (left right : List α) (i j : Nat) : Nat := distance (left.take i) (right.take j)

theorem grid_length (left right : List α) :
    grid left right left.length right.length = distance left right := by
  rw [grid, take_length, take_length]

@[simp]
theorem grid_zero_left {j : Nat} (hj : j ≤ right.length) : grid left right 0 j = j := by
  rw [grid, take_zero, distance_nil_left, length_take_of_le hj]

@[simp]
theorem grid_zero_right {i : Nat} (hi : i ≤ left.length) : grid left right i 0 = i := by
  rw [grid, take_zero, distance_nil_right, length_take_of_le hi]

omit [DecidableEq α] in
theorem head?_reverse_take {items : List α} {n : Nat} (hn : n < items.length) (item : α) :
    (items.take n).reverse.head? = some item ↔ 0 < n ∧ items[n - 1]? = some item := by
  rw [head?_reverse, getLast?_take]
  by_cases hzero : n = 0
  · simp [hzero]
  · have hbefore : n - 1 < items.length := by omega
    rw [if_neg hzero, getElem?_eq_getElem hbefore, Option.some_or]
    exact ⟨fun h => ⟨Nat.pos_of_ne_zero hzero, h⟩, fun h => h.2⟩

omit [DecidableEq α] in
theorem tail_reverse_take {items : List α} {n : Nat} (hn : n < items.length) :
    (items.take n).reverse.tail = (items.take (n - 1)).reverse := by
  rw [tail_reverse, dropLast_take hn]

omit [DecidableEq α] in
theorem reverse_take_succ {items : List α} {n : Nat} (hn : n < items.length) :
    (items.take (n + 1)).reverse = items[n] :: (items.take n).reverse := by
  rw [take_succ_eq_append_getElem hn, reverse_append]
  rfl

theorem grid_reverse (left right : List α) (i j : Nat) :
    distance (left.take i).reverse (right.take j).reverse = grid left right i j :=
  distance_reverse _ _

/-- A cell is found from the one above it, the one before it, the one between these, and the one two
rows up and two columns back where the last two items are swapped. -/
theorem grid_succ {i j : Nat} (hi : i < left.length) (hj : j < right.length) :
    grid left right (i + 1) (j + 1) =
      least (grid left right i (j + 1) + 1) (grid left right (i + 1) j + 1)
        (grid left right i j + itemCost left[i] right[j])
        (if (0 < i ∧ left[i - 1]? = some right[j]) ∧ 0 < j ∧ right[j - 1]? = some left[i] then
          some (grid left right (i - 1) (j - 1) + 1)
        else none) := by
  rw [← grid_reverse left right (i + 1) (j + 1), reverse_take_succ hi, reverse_take_succ hj,
    distance_cons_cons, ← reverse_take_succ hi, ← reverse_take_succ hj, tail_reverse_take hi,
    tail_reverse_take hj]
  simp only [head?_reverse_take hi, head?_reverse_take hj, grid_reverse]

end EditScript
