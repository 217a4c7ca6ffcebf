import Mathlib.Tactic

/-!
# Paths as texts

A path is a separator and then names, each closed by a separator.  Where no name holds the
separator, one path begins another as a text exactly when its names begin the other's.
-/

namespace Paths

open List

variable {α : Type} {sep : α}

def closed (sep : α) (names : List (List α)) : List α := names.flatMap (· ++ [sep])

def render (sep : α) (names : List (List α)) : List α := sep :: closed sep names

def Plain (sep : α) (names : List (List α)) : Prop := ∀ name ∈ names, sep ∉ name

@[simp]
theorem closed_nil : closed sep [] = [] := rfl

@[simp]
theorem closed_cons (name : List α) (names : List (List α)) :
    closed sep (name :: names) = name ++ sep :: closed sep names := by
  simp [closed]

theorem closed_append (names more : List (List α)) :
    closed sep (names ++ more) = closed sep names ++ closed sep more :=
  flatMap_append

theorem render_append (names more : List (List α)) :
    render sep (names ++ more) = render sep names ++ closed sep more := by
  unfold render
  rw [closed_append, cons_append]

theorem render_concat (names : List (List α)) (name : List α) :
    render sep (names ++ [name]) = render sep names ++ name ++ [sep] := by
  rw [render_append, closed_cons, closed_nil, append_assoc]

theorem first_begins {first second rest more : List α} (hf : sep ∉ first) (hs : sep ∉ second) :
    first ++ sep :: rest <+: second ++ sep :: more ↔ first = second ∧ rest <+: more := by
  induction first generalizing second with
  | nil =>
    cases second with
    | nil => simp
    | cons letter second =>
      have hne : sep ≠ letter := fun h => hs (h ▸ mem_cons_self)
      simp [hne]
  | cons letter first ih =>
    cases second with
    | nil =>
      have hne : letter ≠ sep := fun h => hf (h ▸ mem_cons_self)
      simp [hne]
    | cons other second =>
      have hf' : sep ∉ first := fun h => hf (mem_cons_of_mem _ h)
      have hs' : sep ∉ second := fun h => hs (mem_cons_of_mem _ h)
      simp only [cons_append, cons_prefix_cons, ih hf' hs', List.cons.injEq, and_assoc]

theorem closed_begins {names more : List (List α)} (hn : Plain sep names) (hm : Plain sep more) :
    closed sep names <+: closed sep more ↔ names <+: more := by
  induction names generalizing more with
  | nil => simp
  | cons name names ih =>
    cases more with
    | nil => simp
    | cons other more =>
      rw [closed_cons, closed_cons, first_begins (hn name mem_cons_self) (hm other mem_cons_self),
        ih (fun n h => hn n (mem_cons_of_mem _ h)) (fun n h => hm n (mem_cons_of_mem _ h)),
        cons_prefix_cons]

theorem render_begins {names more : List (List α)} (hn : Plain sep names) (hm : Plain sep more) :
    render sep names <+: render sep more ↔ names <+: more := by
  unfold render
  rw [prefix_cons_inj]
  exact closed_begins hn hm

theorem render_injective {names more : List (List α)} (hn : Plain sep names) (hm : Plain sep more)
    (h : render sep names = render sep more) : names = more := by
  have hforth : names <+: more := (render_begins hn hm).mp (h ▸ prefix_rfl)
  have hback : more <+: names := (render_begins hm hn).mp (h ▸ prefix_rfl)
  exact hforth.eq_of_length (Nat.le_antisymm hforth.length_le hback.length_le)

end Paths
