import Mathlib.Tactic

/-!
# Journals

A journal is a list of entries in the order they were written, to which entries are only added.
-/

namespace Journal

open List

variable {ε : Type} {log more rest : List ε} {entry : ε} {P Q : List ε → ε → Prop}

def Each (P : List ε → ε → Prop) (log : List ε) : Prop :=
  ∀ earlier entry later, log = earlier ++ entry :: later → P earlier entry

/-- `rest` is what was written after some entry like this one. -/
def Since (log : List ε) (entry : ε) (rest : List ε) : Prop :=
  ∃ earlier, log = earlier ++ entry :: rest

theorem each_nil : Each P [] := by
  intro earlier entry later h
  exact absurd h.symm (by simp)

theorem each_append : Each P (log ++ [entry]) ↔ Each P log ∧ P log entry := by
  constructor
  · intro h
    refine ⟨fun earlier old later hlog => ?_, h log entry [] rfl⟩
    exact h earlier old (later ++ [entry]) (by rw [hlog, append_assoc, cons_append])
  · rintro ⟨hold, hnew⟩ earlier old later hlog
    rcases eq_nil_or_concat later with rfl | ⟨before, last, rfl⟩
    · obtain ⟨rfl, hlast⟩ := append_inj' hlog rfl
      rw [← (List.cons.inj hlast).1]
      exact hnew
    · rw [concat_eq_append, ← cons_append, ← append_assoc] at hlog
      exact hold earlier old before (append_inj' hlog rfl).1

theorem Since.append (h : Since log entry rest) (more : List ε) :
    Since (log ++ more) entry (rest ++ more) := by
  obtain ⟨earlier, rfl⟩ := h
  exact ⟨earlier, by rw [append_assoc, cons_append]⟩

theorem since_last (log : List ε) (entry : ε) : Since (log ++ [entry]) entry [] :=
  ⟨log, rfl⟩

end Journal
