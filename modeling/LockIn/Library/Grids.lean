import LockIn.Library.Dictionary

/-!
# Uniform grids

The plane is cut into square cells.  What is put into all cells that its rectangle touches is found
from every rectangle that has a point in common with it, since the cell of that point is one of both.
-/

namespace Grids

open List

-- The numerals of the definitions below and of those that draw on them.
scoped instance atLeastTwo2 : Nat.AtLeastTwo 2 := ⟨by decide⟩
scoped instance atLeastTwo4 : Nat.AtLeastTwo 4 := ⟨by decide⟩
scoped instance atLeastTwo5 : Nat.AtLeastTwo 5 := ⟨by decide⟩
scoped instance atLeastTwo10 : Nat.AtLeastTwo 10 := ⟨by decide⟩
scoped instance atLeastTwo15 : Nat.AtLeastTwo 15 := ⟨by decide⟩
scoped instance atLeastTwo56 : Nat.AtLeastTwo 56 := ⟨by decide⟩
scoped instance atLeastTwo100 : Nat.AtLeastTwo 100 := ⟨by decide⟩

structure Rect (K : Type) where
  x : K
  y : K
  width : K
  height : K

section
variable {K : Type} [Field K] [LinearOrder K]

def Rect.Holds (rect : Rect K) (x y : K) : Prop :=
  (rect.x ≤ x ∧ x ≤ rect.x + rect.width) ∧ rect.y ≤ y ∧ y ≤ rect.y + rect.height

/-- The two have a point in common. -/
def Rect.Meets (first second : Rect K) : Prop := ∃ x y, first.Holds x y ∧ second.Holds x y

/-- The rectangle with some room on every side. -/
def Rect.grow (rect : Rect K) (padding : K) : Rect K :=
  ⟨rect.x - padding, rect.y - padding, rect.width + 2 * padding, rect.height + 2 * padding⟩

end

abbrev Cell : Type := ℤ × ℤ

/-- `for (let z = first; z <= last; z += 1)` -/
def through (first last : ℤ) : List ℤ :=
  (List.range (last + 1 - first).toNat).map fun (step : ℕ) => first + step

theorem mem_through {first last z : ℤ} : z ∈ through first last ↔ first ≤ z ∧ z ≤ last := by
  unfold through
  rw [mem_map]
  constructor
  · rintro ⟨step, hstep, rfl⟩
    rw [mem_range] at hstep
    omega
  · rintro ⟨hfirst, hlast⟩
    refine ⟨(z - first).toNat, mem_range.2 ?_, ?_⟩
    · omega
    · omega

section
variable {K : Type} [Field K] [LinearOrder K] [FloorRing K]

def cellOf (size x : K) : ℤ := ⌊x / size⌋

def cells (size left right top bottom : K) : List Cell :=
  (through (cellOf size left) (cellOf size right)).flatMap fun x =>
    (through (cellOf size top) (cellOf size bottom)).map fun y => (x, y)

variable {size left right top bottom x y : K} {cell : Cell}

theorem mem_cells : cell ∈ cells size left right top bottom ↔
    (cellOf size left ≤ cell.1 ∧ cell.1 ≤ cellOf size right) ∧
      cellOf size top ≤ cell.2 ∧ cell.2 ≤ cellOf size bottom := by
  unfold cells
  rw [mem_flatMap]
  constructor
  · rintro ⟨column, hcolumn, hcell⟩
    obtain ⟨row, hrow, rfl⟩ := mem_map.1 hcell
    exact ⟨mem_through.1 hcolumn, mem_through.1 hrow⟩
  · rintro ⟨hcolumn, hrow⟩
    exact ⟨cell.1, mem_through.2 hcolumn, mem_map.2 ⟨cell.2, mem_through.2 hrow, rfl⟩⟩

variable [IsStrictOrderedRing K]

theorem cellOf_le (hsize : 0 < size) (h : x ≤ y) : cellOf size x ≤ cellOf size y :=
  Int.floor_le_floor (div_le_div_of_nonneg_right h hsize.le)

theorem cell_mem_cells (hsize : 0 < size) (hx : left ≤ x ∧ x ≤ right) (hy : top ≤ y ∧ y ≤ bottom) :
    (cellOf size x, cellOf size y) ∈ cells size left right top bottom :=
  mem_cells.2 ⟨⟨cellOf_le hsize hx.1, cellOf_le hsize hx.2⟩, cellOf_le hsize hy.1,
    cellOf_le hsize hy.2⟩

end

section
variable {α : Type}

abbrev Buckets (α : Type) : Type := List (Cell × List α)

def bucket (buckets : Buckets α) (cell : Cell) : List α := (Dictionary.get buckets cell).getD []

def push (item : α) (buckets : Buckets α) (cell : Cell) : Buckets α :=
  Dictionary.set buckets cell (bucket buckets cell ++ [item])

def insert (buckets : Buckets α) (places : List Cell) (item : α) : Buckets α :=
  places.foldl (push item) buckets

variable {buckets : Buckets α} {cell : Cell} {places : List Cell} {item other : α}

@[simp]
theorem bucket_nil : bucket ([] : Buckets α) cell = [] := rfl

theorem mem_bucket_push {key : Cell} : other ∈ bucket (push item buckets key) cell ↔
    other ∈ bucket buckets cell ∨ (cell = key ∧ other = item) := by
  unfold push
  conv_lhs => rw [bucket, Dictionary.get_set]
  by_cases hcell : cell = key
  · rw [if_pos hcell, Option.getD_some, mem_append, mem_singleton, hcell]
    simp
  · rw [if_neg hcell]
    simp [hcell, bucket]

theorem mem_bucket_insert : other ∈ bucket (insert buckets places item) cell ↔
    other ∈ bucket buckets cell ∨ (cell ∈ places ∧ other = item) := by
  unfold insert
  induction places generalizing buckets with
  | nil => simp
  | cons key rest ih =>
    rw [foldl_cons, ih, mem_bucket_push, mem_cons]
    tauto

end

end Grids
