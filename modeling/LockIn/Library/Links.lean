import Mathlib.Tactic

/-!
# Chains of links

Every item links to at most one other.  `Leads link a b` says that following the links from `a`
comes to `b`, and `Ends link a` that it comes to an end.  Giving an item that has no link one
keeps every chain ending exactly when the new link does not lead back to the item.

`trail` follows the links for a number of steps, so that `Leads` can be computed where only
finitely many items have a link.
-/

namespace Links

open List

variable {α : Type} {link : α → Option α} {a b c : α}

inductive Leads (link : α → Option α) : α → α → Prop
  | refl (a : α) : Leads link a a
  | step {a b c : α} : link a = some b → Leads link b c → Leads link a c

inductive Ends (link : α → Option α) : α → Prop
  | stop {a : α} : link a = none → Ends link a
  | next {a b : α} : link a = some b → Ends link b → Ends link a

theorem Leads.trans (h : Leads link a b) (h' : Leads link b c) : Leads link a c := by
  induction h with
  | refl => exact h'
  | step hlink _ ih => exact .step hlink (ih h')

theorem Leads.of_none (h : Leads link a b) (hnone : link a = none) : b = a := by
  cases h with
  | refl => rfl
  | step hlink _ => rw [hnone] at hlink; simp at hlink

theorem Ends.reaches (h : Ends link a) : ∃ b, Leads link a b ∧ link b = none := by
  induction h with
  | @stop a hnone => exact ⟨a, .refl a, hnone⟩
  | next hlink _ ih =>
    obtain ⟨b, hleads, hnone⟩ := ih
    exact ⟨b, .step hlink hleads, hnone⟩

theorem Ends.no_cycle (h : Ends link a) (hlink : link a = some b) : ¬ Leads link b a := by
  induction h generalizing b with
  | stop hnone => rw [hnone] at hlink; simp at hlink
  | @next a c hnext _ ih =>
    obtain rfl : c = b := Option.some.inj (hnext.symm.trans hlink)
    intro hleads
    cases hleads with
    | refl => exact ih hlink (.refl _)
    | step hfirst hrest => exact ih hfirst (hrest.trans (.step hlink (.refl _)))

section
variable [DecidableEq α]

/-- Chains that do not come by `a` do not change when `a` gets a link. -/
theorem Ends.update_of_not_leads (h : Ends link c) (haway : ¬ Leads link c a) (b : α) :
    Ends (Function.update link a (some b)) c := by
  induction h with
  | @stop c hnone =>
    have hne : c ≠ a := fun heq => haway (heq ▸ .refl c)
    exact .stop (by rw [Function.update_of_ne hne]; exact hnone)
  | @next c d hlink _ ih =>
    have hne : c ≠ a := fun heq => haway (heq ▸ .refl c)
    have hd : ¬ Leads link d a := fun hleads => haway (.step hlink hleads)
    exact .next (by rw [Function.update_of_ne hne]; exact hlink) (ih hd)

theorem Ends.update (h : Ends link c) (hb : Ends link b) (haway : ¬ Leads link b a) :
    Ends (Function.update link a (some b)) c := by
  have hnew : Ends (Function.update link a (some b)) a :=
    .next (Function.update_self _ _ _) (hb.update_of_not_leads haway b)
  induction h with
  | @stop c hnone =>
    by_cases heq : c = a
    · exact heq ▸ hnew
    · exact .stop (by rw [Function.update_of_ne heq]; exact hnone)
  | @next c d hlink _ ih =>
    by_cases heq : c = a
    · exact heq ▸ hnew
    · exact .next (by rw [Function.update_of_ne heq]; exact hlink) ih

theorem Leads.update (h : Leads link c a) (b : α) :
    Leads (Function.update link a (some b)) c a := by
  induction h with
  | refl => exact .refl _
  | @step c d a hlink _ ih =>
    by_cases heq : c = a
    · exact heq ▸ .refl c
    · exact .step (by rw [Function.update_of_ne heq]; exact hlink) ih

theorem ends_update_iff (h : ∀ c, Ends link c) :
    (∀ c, Ends (Function.update link a (some b)) c) ↔ ¬ Leads link b a := by
  constructor
  · intro hends hleads
    exact (hends a).no_cycle (Function.update_self _ _ _) (hleads.update b)
  · intro haway c
    exact (h c).update (h b) haway

end

/-- The items that at most `n` steps come by. -/
def trail (link : α → Option α) : Nat → α → List α
  | 0, a => [a]
  | n + 1, a => a :: (match link a with | none => [] | some b => trail link n b)

theorem mem_trail_self (n : Nat) (a : α) : a ∈ trail link n a := by
  cases n with
  | zero => exact mem_singleton_self a
  | succ n => exact mem_cons_self

theorem mem_trail_succ_iff {n : Nat} (hlink : link a = some b) :
    c ∈ trail link (n + 1) a ↔ c = a ∨ c ∈ trail link n b := by
  simp only [trail, hlink, mem_cons]

theorem leads_of_mem_trail {n : Nat} (h : b ∈ trail link n a) : Leads link a b := by
  induction n generalizing a with
  | zero =>
    obtain rfl := mem_singleton.1 h
    exact .refl b
  | succ n ih =>
    cases hlink : link a with
    | none =>
      obtain rfl : b = a := by simpa [trail, hlink] using h
      exact .refl b
    | some c =>
      rcases (mem_trail_succ_iff hlink).1 h with rfl | hrest
      · exact .refl b
      · exact .step hlink (ih hrest)

/-- Where the items with a link are among `items`, as many steps as there are items come by all
that a chain leads to. -/
theorem mem_trail_of_leads [DecidableEq α] {items : List α} (hends : Ends link a)
    (hitems : ∀ c, Leads link a c → (link c).isSome = true → c ∈ items) (h : Leads link a b) :
    b ∈ trail link items.length a := by
  induction hends generalizing items b with
  | @stop a hnone =>
    obtain rfl := h.of_none hnone
    exact mem_trail_self _ b
  | @next a d hlink hd ih =>
    have ha : a ∈ items := hitems a (.refl a) (by rw [hlink]; rfl)
    have hlength : items.length = (items.erase a).length + 1 := by
      rw [length_erase_of_mem ha]
      have hpos := length_pos_of_mem ha
      omega
    cases h with
    | refl => exact mem_trail_self _ a
    | step hfirst hrest =>
      obtain rfl := Option.some.inj (hlink.symm.trans hfirst)
      have hleft : b ∈ trail link (items.erase a).length d := by
        refine ih ?_ hrest
        intro c hleads hsome
        have hne : c ≠ a := by
          rintro rfl
          exact (Ends.next hlink hd).no_cycle hlink hleads
        exact (mem_erase_of_ne hne).2 (hitems c (.step hlink hleads) hsome)
      rw [hlength]
      exact (mem_trail_succ_iff hlink).2 (.inr hleft)

end Links
