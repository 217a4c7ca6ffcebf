import Mathlib.Tactic

/-!
# Deliveries that repeat

Items are delivered one after another and an item may be delivered again at any
time.  What should have been applied is each item once, so the amounts are added up
over the set of the items delivered.

`RepeatsFit` is about a bound that is checked on every delivery, repeated or not: a
repeat passes the check only when its amount still fits on top of what is applied.
-/

namespace Delivery

open List

variable {ι : Type} [DecidableEq ι] (amount : ι → Nat)

def total (items : List ι) : Nat := ∑ item ∈ items.toFinset, amount item

variable {amount}

theorem total_cons_of_mem {item : ι} {items : List ι} (h : item ∈ items) :
    total amount (item :: items) = total amount items := by
  unfold total
  rw [toFinset_cons, Finset.insert_eq_of_mem (mem_toFinset.mpr h)]

theorem total_cons_of_notMem {item : ι} {items : List ι} (h : item ∉ items) :
    total amount (item :: items) = total amount items + amount item := by
  unfold total
  rw [toFinset_cons, Finset.sum_insert fun hm => h (mem_toFinset.mp hm), Nat.add_comm]

theorem total_mono {items more : List ι} (h : ∀ item ∈ items, item ∈ more) :
    total amount items ≤ total amount more :=
  Finset.sum_le_sum_of_subset fun item hi =>
    mem_toFinset.mpr (h item (mem_toFinset.mp hi))

/-- The order of the deliveries does not matter. -/
theorem total_reverse (items : List ι) : total amount items.reverse = total amount items := by
  unfold total
  rw [toFinset_reverse]

variable (amount)

/-- `seen` has been delivered and `rest` is to come.  Every repeat in `rest` still fits
under `limit` on top of what has been applied when it arrives. -/
def RepeatsFit (limit : Nat) : List ι → List ι → Prop
  | _, [] => True
  | seen, item :: rest =>
    (item ∈ seen → total amount seen + amount item ≤ limit) ∧
      RepeatsFit limit (item :: seen) rest

variable {amount} {limit : Nat}

theorem repeatsFit_append {seen first rest : List ι} :
    RepeatsFit amount limit seen (first ++ rest) ↔
      RepeatsFit amount limit seen first ∧
        RepeatsFit amount limit (first.reverse ++ seen) rest := by
  induction first generalizing seen with
  | nil => simp [RepeatsFit]
  | cons item first ih =>
    simp only [cons_append, RepeatsFit, ih, reverse_cons, append_assoc,
      nil_append]
    exact and_assoc.symm

end Delivery
