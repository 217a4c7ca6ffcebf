import Mathlib.Data.List.Forall2

/-!
# Lists whose items correspond

Two lists match where their items, one by one, are related.  Maps and filters that agree on related
items agree on the lists.
-/

namespace Matched

open List (Forall₂)

variable {α β γ : Type} {R : α → β → Prop} {as : List α} {bs : List β}

theorem exists_matching (h : ∀ a ∈ as, ∃ b, R a b) : ∃ bs, Forall₂ R as bs := by
  induction as with
  | nil => exact ⟨[], .nil⟩
  | cons a rest ih =>
    obtain ⟨b, hb⟩ := h a List.mem_cons_self
    obtain ⟨others, hothers⟩ := ih fun a' ha' => h a' (List.mem_cons_of_mem _ ha')
    exact ⟨b :: others, .cons hb hothers⟩

theorem exists_left (h : Forall₂ R as bs) {b : β} (hb : b ∈ bs) : ∃ a ∈ as, R a b := by
  induction h with
  | nil => exact absurd hb List.not_mem_nil
  | cons hfirst _ ih =>
    rcases List.mem_cons.1 hb with rfl | hin
    · exact ⟨_, List.mem_cons_self, hfirst⟩
    · obtain ⟨a, ha, hab⟩ := ih hin
      exact ⟨a, List.mem_cons_of_mem _ ha, hab⟩

theorem exists_right (h : Forall₂ R as bs) {a : α} (ha : a ∈ as) : ∃ b ∈ bs, R a b := by
  induction h with
  | nil => exact absurd ha List.not_mem_nil
  | cons hfirst _ ih =>
    rcases List.mem_cons.1 ha with rfl | hin
    · exact ⟨_, List.mem_cons_self, hfirst⟩
    · obtain ⟨b, hb, hab⟩ := ih hin
      exact ⟨b, List.mem_cons_of_mem _ hb, hab⟩

theorem map_eq {f : α → γ} {g : β → γ} (h : Forall₂ R as bs) (hsame : ∀ a b, R a b → f a = g b) :
    as.map f = bs.map g := by
  induction h with
  | nil => rfl
  | cons hfirst _ ih => rw [List.map_cons, List.map_cons, hsame _ _ hfirst, ih]

theorem flatMap_eq {f : α → List γ} {g : β → List γ} (h : Forall₂ R as bs)
    (hsame : ∀ a b, R a b → f a = g b) : as.flatMap f = bs.flatMap g := by
  induction h with
  | nil => rfl
  | cons hfirst _ ih => rw [List.flatMap_cons, List.flatMap_cons, hsame _ _ hfirst, ih]

/-- What is kept of two matching lists matches, where related items are kept together. -/
theorem filter {p : α → Bool} {q : β → Bool} (h : Forall₂ R as bs)
    (hsame : ∀ a b, R a b → b ∈ bs → p a = q b) : Forall₂ R (as.filter p) (bs.filter q) := by
  induction h with
  | nil => exact .nil
  | @cons a b as bs hfirst _ ih =>
    have hrest := ih fun a' b' hab hb' => hsame a' b' hab (List.mem_cons_of_mem _ hb')
    rw [List.filter_cons, List.filter_cons, hsame a b hfirst List.mem_cons_self]
    split_ifs
    · exact .cons hfirst hrest
    · exact hrest

end Matched
