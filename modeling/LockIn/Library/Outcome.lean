import Mathlib.Tactic

/-!
# Calls that answer or refuse

A call returns `Except ε α`: the value it answers with, or the reason it refused.
The lemmas take a successful call apart into the successful calls it is made of,
so that a proof about a call never unfolds the monad.

`refuse` is the common opening of a call, a list of conditions each with the
reason to give when it holds.  The first one that holds decides.
-/

namespace Outcome

open List

variable {ε α β : Type}

theorem bind_eq_ok {x : Except ε α} {f : α → Except ε β} {b : β} :
    (x >>= f) = .ok b ↔ ∃ a, x = .ok a ∧ f a = .ok b := by
  cases x with
  | error e =>
    constructor
    · intro h; exact absurd h (by simp [bind, Except.bind])
    · rintro ⟨a, h, _⟩; simp at h
  | ok a =>
    constructor
    · intro h; exact ⟨a, rfl, h⟩
    · rintro ⟨_, h, hf⟩
      cases h
      exact hf

theorem map_eq_ok {x : Except ε α} {f : α → β} {b : β} :
    f <$> x = .ok b ↔ ∃ a, x = .ok a ∧ f a = b := by
  cases x with
  | error e =>
    constructor
    · intro h; exact absurd h (by simp [Functor.map, Except.map])
    · rintro ⟨a, h, _⟩; simp at h
  | ok a =>
    constructor
    · intro h; exact ⟨a, rfl, Except.ok.inj h⟩
    · rintro ⟨_, h, rfl⟩
      cases h
      rfl

theorem toOption_eq_some {x : Except ε α} {a : α} : x.toOption = some a ↔ x = .ok a := by
  cases x with
  | error e => simp [Except.toOption]
  | ok b => simp [Except.toOption]

theorem mapError_eq_ok {ε' : Type} {x : Except ε α} {change : ε → ε'} {a : α} :
    x.mapError change = .ok a ↔ x = .ok a := by
  cases x <;> simp [Except.mapError]

theorem isOk_iff {x : Except ε α} : x.isOk = true ↔ ∃ a, x = .ok a := by
  cases x <;> simp [Except.isOk, Except.toBool]

theorem unless_ok {c : Prop} [Decidable c] {x : Except ε α} {reason : ε} {a : α} :
    (if c then .error reason else x) = .ok a ↔ ¬c ∧ x = .ok a := by
  by_cases hc : c <;> simp [hc]

theorem when_ok {c : Prop} [Decidable c] {x : Except ε α} {reason : ε} {a : α} :
    (if c then x else .error reason) = .ok a ↔ c ∧ x = .ok a := by
  by_cases hc : c <;> simp [hc]

@[simp]
theorem ok_bind (a : α) (f : α → Except ε β) : ((.ok a : Except ε α) >>= f) = f a := rfl

@[simp]
theorem error_bind (e : ε) (f : α → Except ε β) :
    ((.error e : Except ε α) >>= f) = .error e := rfl

def refuse : List (Bool × ε) → Except ε Unit
  | [] => .ok ()
  | (condition, reason) :: rest => if condition then .error reason else refuse rest

@[simp]
theorem refuse_nil : refuse ([] : List (Bool × ε)) = .ok () := rfl

@[simp]
theorem refuse_cons_ok {condition : Bool} {reason : ε} {rest : List (Bool × ε)} :
    refuse ((condition, reason) :: rest) = .ok () ↔ condition = false ∧ refuse rest = .ok () := by
  cases condition <;> simp [refuse]

theorem mapM_ok_iff {items : List α} {f : α → Except ε β} {results : List β} :
    items.mapM f = .ok results ↔ items.map f = results.map .ok := by
  induction items generalizing results with
  | nil => cases results <;> simp [pure, Except.pure]
  | cons item rest ih =>
    rw [mapM_cons, bind_eq_ok]
    simp only [bind_eq_ok, map_cons]
    constructor
    · rintro ⟨result, hresult, others, hothers, hpure⟩
      cases hpure
      rw [map_cons, hresult, ih.1 hothers]
    · intro h
      cases results with
      | nil => cases h
      | cons result others =>
        obtain ⟨hresult, hothers⟩ := List.cons.inj h
        exact ⟨result, hresult, others, ih.2 hothers, rfl⟩

theorem mapM_eq_ok {items : List α} {f : α → Except ε β} {g : α → β}
    (h : ∀ item ∈ items, f item = .ok (g item)) : items.mapM f = .ok (items.map g) := by
  rw [mapM_ok_iff, map_map]
  exact map_congr_left h

theorem mem_of_mapM {items : List α} {f : α → Except ε β} {results : List β}
    (h : items.mapM f = .ok results) {result : β} :
    result ∈ results ↔ ∃ item ∈ items, f item = .ok result := by
  rw [← mem_map, mapM_ok_iff.1 h]
  simp

theorem ok_of_mapM {items : List α} {f : α → Except ε β} {results : List β}
    (h : items.mapM f = .ok results) : ∀ item ∈ items, ∃ result, f item = .ok result := by
  intro item hitem
  have hmem : f item ∈ results.map Except.ok := by
    rw [← mapM_ok_iff.1 h]
    exact mem_map_of_mem hitem
  obtain ⟨result, _, hresult⟩ := mem_map.1 hmem
  exact ⟨result, hresult.symm⟩

theorem mapM_isOk_iff {items : List α} {f : α → Except ε β} :
    (∃ results, items.mapM f = .ok results) ↔ ∀ item ∈ items, ∃ result, f item = .ok result := by
  constructor
  · rintro ⟨results, h⟩
    exact ok_of_mapM h
  · intro h
    induction items with
    | nil => exact ⟨[], rfl⟩
    | cons item rest ih =>
      obtain ⟨result, hresult⟩ := h item mem_cons_self
      obtain ⟨results, hresults⟩ := ih fun other hother => h other (mem_cons_of_mem _ hother)
      refine ⟨result :: results, ?_⟩
      rw [mapM_cons, hresult, hresults]
      rfl

end Outcome
