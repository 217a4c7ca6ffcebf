import LockIn.Library.Outcome

/-!
# Machines with a clock

A machine executes actions one at a time.  An action answers with the next state
or refuses, and a refused action leaves the state as it was, so the states a
machine reaches are those that successful actions lead to.  Every action happens
at an instant and instants never go back.

A run is taken under a condition on each step, the state before it and the
action.  `Machine.Always` is the condition that admits every step.  An invariant
that every admitted step keeps holds in every state reached.
-/

/-- What executes: the first state, what an action does and when it happens. -/
structure Machine (σ α ε : Type) where
  init : σ
  exec : α → σ → Except ε σ
  time : α → Nat

namespace Machine

variable {σ α ε : Type}

/-- The condition that admits every step. -/
def Always : σ → α → Prop := fun _ _ => True

/-- `m.Reaches admits s now`: some run whose steps are all admitted ends in `s`, its
last action at `now`. -/
inductive Reaches (m : Machine σ α ε) (admits : σ → α → Prop) : σ → Nat → Prop
  | init : Reaches m admits m.init 0
  | step {s s' : σ} {now : Nat} {action : α} :
      Reaches m admits s now → now ≤ m.time action → admits s action →
      m.exec action s = .ok s' → Reaches m admits s' (m.time action)

variable {m : Machine σ α ε} {admits : σ → α → Prop}

/-- What holds at the start and is kept by every admitted step holds in every
state reached. -/
theorem Reaches.invariant {I : σ → Nat → Prop} (hinit : I m.init 0)
    (hstep : ∀ s now action s', I s now → now ≤ m.time action → admits s action →
      m.exec action s = .ok s' → I s' (m.time action))
    {s : σ} {now : Nat} (h : m.Reaches admits s now) : I s now := by
  induction h with
  | init => exact hinit
  | step _ hle hadmits hexec ih => exact hstep _ _ _ _ ih hle hadmits hexec

theorem Reaches.mono {weaker : σ → α → Prop} (hw : ∀ s action, admits s action → weaker s action)
    {s : σ} {now : Nat} (h : m.Reaches admits s now) : m.Reaches weaker s now := by
  induction h with
  | init => exact .init
  | step _ hle hadmits hexec ih => exact .step ih hle (hw _ _ hadmits) hexec

/-- Execute a list of actions in order, as long as none is refused. -/
def run (m : Machine σ α ε) : List α → σ → Except ε σ
  | [], s => .ok s
  | action :: rest, s =>
    match m.exec action s with
    | .error e => .error e
    | .ok s' => m.run rest s'

/-- Instants that never go back, the first of them not before `now`. -/
def Ordered (m : Machine σ α ε) : Nat → List α → Prop
  | _, [] => True
  | now, action :: rest => now ≤ m.time action ∧ m.Ordered (m.time action) rest

instance (m : Machine σ α ε) (now : Nat) (actions : List α) :
    Decidable (m.Ordered now actions) := by
  induction actions generalizing now with
  | nil => exact inferInstanceAs (Decidable True)
  | cons action rest ih => exact @instDecidableAnd _ _ _ (ih _)

/-- The instant of the last action of a list, or `now` when there is none. -/
def lastTime (m : Machine σ α ε) : Nat → List α → Nat
  | now, [] => now
  | _, action :: rest => m.lastTime (m.time action) rest

def Admitted (m : Machine σ α ε) (admits : σ → α → Prop) : List α → σ → Prop
  | [], _ => True
  | action :: rest, s =>
    admits s action ∧ ∀ s', m.exec action s = .ok s' → m.Admitted admits rest s'

instance [∀ s action, Decidable (admits s action)] (actions : List α) (s : σ) :
    Decidable (m.Admitted admits actions s) := by
  induction actions generalizing s with
  | nil => exact inferInstanceAs (Decidable True)
  | cons action rest ih =>
    have : Decidable (∀ s', m.exec action s = .ok s' → m.Admitted admits rest s') :=
      match hexec : m.exec action s with
      | .error _ => isTrue (by simp)
      | .ok s' => decidable_of_iff (m.Admitted admits rest s') (by simp)
    exact @instDecidableAnd _ _ _ this

theorem admitted_always (actions : List α) (s : σ) : m.Admitted Always actions s := by
  induction actions generalizing s with
  | nil => exact trivial
  | cons action rest ih => exact ⟨trivial, fun next _ => ih next⟩

theorem Reaches.run {actions : List α} {s s' : σ} {now : Nat} (h : m.Reaches admits s now)
    (ho : m.Ordered now actions) (ha : m.Admitted admits actions s)
    (hr : m.run actions s = .ok s') : m.Reaches admits s' (m.lastTime now actions) := by
  induction actions generalizing s now with
  | nil =>
    cases hr
    exact h
  | cons action rest ih =>
    rw [Machine.run] at hr
    cases hexec : m.exec action s with
    | error e => rw [hexec] at hr; simp at hr
    | ok next =>
      rw [hexec] at hr
      exact ih (.step h ho.1 ha.1 hexec) ho.2 (ha.2 next hexec) hr

def accepts (m : Machine σ α ε) (actions : List α) : Bool :=
  match m.run actions m.init with
  | .ok _ => true
  | .error _ => false

def outcome (m : Machine σ α ε) (actions : List α) : σ :=
  match m.run actions m.init with
  | .ok s => s
  | .error _ => m.init

theorem Reaches.of_accepts {actions : List α} (hr : m.accepts actions = true)
    (ho : m.Ordered 0 actions) (ha : m.Admitted admits actions m.init) :
    m.Reaches admits (m.outcome actions) (m.lastTime 0 actions) := by
  unfold accepts at hr
  unfold outcome
  cases hrun : m.run actions m.init with
  | error e => rw [hrun] at hr; simp at hr
  | ok s => exact Reaches.init.run ho ha hrun

variable {β : Type} {changes : σ → σ → List β}

def recording (m : Machine σ α ε) (changes : σ → σ → List β) : Machine (σ × List β) α ε where
  init := (m.init, [])
  exec action s := (fun s' => (s', s.2 ++ changes s.1 s')) <$> m.exec action s.1
  time := m.time

/-- What every admitted step keeps, and what holds of every change it makes, hold of a
whole run. -/
theorem Reaches.recording_invariant {I : σ → Prop} {P : β → Prop} (hinit : I m.init)
    (hstep : ∀ s action s', I s → admits s action → m.exec action s = .ok s' →
      I s' ∧ ∀ change ∈ changes s s', P change)
    {s : σ × List β} {now : Nat}
    (h : (m.recording changes).Reaches (fun s action => admits s.1 action) s now) :
    I s.1 ∧ ∀ change ∈ s.2, P change := by
  induction h with
  | init => exact ⟨hinit, by simp [recording]⟩
  | step _ _ hadmits hexec ih =>
    obtain ⟨s', hs', rfl⟩ := Outcome.map_eq_ok.mp hexec
    obtain ⟨hkeeps, hchanges⟩ := hstep _ _ _ ih.1 hadmits hs'
    refine ⟨hkeeps, fun change hmem => ?_⟩
    rcases List.mem_append.mp hmem with hold | hnew
    · exact ih.2 change hold
    · exact hchanges change hnew

/-- The machine that keeps, beside its state, the states it went through and their instants,
the last one first. -/
def traced (m : Machine σ α ε) : Machine (σ × List (Nat × σ)) α ε where
  init := (m.init, [])
  exec action s := (fun s' => (s', (m.time action, s') :: s.2)) <$> m.exec action s.1
  time := m.time

theorem Reaches.traced_invariant {I : σ → List (Nat × σ) → Nat → Prop} (hinit : I m.init [] 0)
    (hstep : ∀ s trace now action s', I s trace now → now ≤ m.time action → admits s action →
      m.exec action s = .ok s' → I s' ((m.time action, s') :: trace) (m.time action))
    {s : σ × List (Nat × σ)} {now : Nat}
    (h : m.traced.Reaches (fun s action => admits s.1 action) s now) : I s.1 s.2 now := by
  induction h with
  | init => exact hinit
  | step _ hle hadmits hexec ih =>
    obtain ⟨s', hs', rfl⟩ := Outcome.map_eq_ok.mp hexec
    exact hstep _ _ _ _ _ ih hle hadmits hs'

end Machine
