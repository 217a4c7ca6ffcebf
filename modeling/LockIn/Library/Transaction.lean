import LockIn.Library.Outcome

/-!
# Calls inside a transaction

A call reads and writes a state and may be refused half way, with some of its writes made.  An
atomic call takes them back.  `Ends` says of a call from a state what holds when it answers and
what holds when it is refused; the rules take it through the steps of a call.
-/

namespace Transaction

open List

variable {σ ε α β : Type}

/-- A call on a state, which keeps the writes it made when it is refused. -/
abbrev Call (σ ε α : Type) : Type := σ → Except ε α × σ

def answer (value : α) : Call σ ε α := fun state => (.ok value, state)

def refuse (reason : ε) : Call σ ε α := fun state => (.error reason, state)

def decided (read : σ → Except ε α) : Call σ ε α := fun state => (read state, state)

def write (change : σ → σ) : Call σ ε Unit := fun state => (.ok (), change state)

def andThen (first : Call σ ε α) (next : α → Call σ ε β) : Call σ ε β := fun state =>
  match first state with
  | (.ok value, after) => next value after
  | (.error reason, after) => (.error reason, after)

def forEach {ι : Type} (call : ι → Call σ ε Unit) : List ι → Call σ ε Unit
  | [] => answer ()
  | item :: rest => andThen (call item) fun _ => forEach call rest

def atomic (call : Call σ ε α) : Call σ ε α := fun state =>
  match call state with
  | (.ok value, after) => (.ok value, after)
  | (.error reason, _) => (.error reason, state)

def after (call : Call σ ε Unit) (state : σ) : Except ε σ :=
  match call state with
  | (.ok _, next) => .ok next
  | (.error reason, _) => .error reason

structure Ends (call : Call σ ε α) (state : σ) (answered : α → σ → Prop) (refused : ε → σ → Prop) :
    Prop where
  ok : ∀ value, (call state).1 = .ok value → answered value (call state).2
  error : ∀ reason, (call state).1 = .error reason → refused reason (call state).2

variable {state : σ} {answered : α → σ → Prop} {refused : ε → σ → Prop}

theorem Ends.after {answered : Unit → σ → Prop} {call : Call σ ε Unit}
    (h : Ends call state answered refused) {next : σ}
    (hafter : Transaction.after call state = .ok next) : answered () next := by
  unfold Transaction.after at hafter
  rcases hcall : call state with ⟨_ | value, found⟩
  · rw [hcall] at hafter
    cases hafter
  · rw [hcall] at hafter
    cases hafter
    have hends := h.ok value (by rw [hcall])
    rw [hcall] at hends
    exact hends

theorem ends_answer {value : α} (h : answered value state) :
    Ends (answer value : Call σ ε α) state answered refused := by
  constructor
  · rintro _ ⟨⟩
    exact h
  · rintro _ ⟨⟩

theorem ends_refuse {reason : ε} (h : refused reason state) :
    Ends (refuse reason : Call σ ε α) state answered refused := by
  constructor
  · rintro _ ⟨⟩
  · rintro _ ⟨⟩
    exact h

theorem ends_write {answered : Unit → σ → Prop} {change : σ → σ} (h : answered () (change state)) :
    Ends (write change : Call σ ε Unit) state answered refused := by
  constructor
  · rintro _ ⟨⟩
    exact h
  · rintro _ ⟨⟩

theorem ends_decided {read : σ → Except ε α} (hok : ∀ value, read state = .ok value →
    answered value state) (herror : ∀ reason, read state = .error reason → refused reason state) :
    Ends (decided read) state answered refused :=
  ⟨hok, herror⟩

theorem ends_andThen {first : Call σ ε α} {next : α → Call σ ε β} {answered : β → σ → Prop}
    (h : Ends first state (fun value after => Ends (next value) after answered refused) refused) :
    Ends (andThen first next) state answered refused := by
  cases hfirst : (first state).1 with
  | ok value =>
    have hnext : andThen first next state = next value (first state).2 := by
      unfold andThen
      rw [← Prod.mk.eta (p := first state), hfirst]
    have hends := h.ok value hfirst
    constructor
    · rw [hnext]
      exact hends.ok
    · rw [hnext]
      exact hends.error
  | error reason =>
    have hnext : andThen first next state = (.error reason, (first state).2) := by
      unfold andThen
      rw [← Prod.mk.eta (p := first state), hfirst]
    constructor
    · rw [hnext]
      rintro _ ⟨⟩
    · rw [hnext]
      rintro _ ⟨⟩
      exact h.error reason hfirst

theorem Ends.imp {call : Call σ ε α} {answered' : α → σ → Prop} {refused' : ε → σ → Prop}
    (h : Ends call state answered refused)
    (hanswered : ∀ value after, answered value after → answered' value after)
    (hrefused : ∀ reason after, refused reason after → refused' reason after) :
    Ends call state answered' refused' :=
  ⟨fun value hvalue => hanswered value _ (h.ok value hvalue),
    fun reason hreason => hrefused reason _ (h.error reason hreason)⟩

theorem ends_atomic {call : Call σ ε α}
    (h : Ends call state answered fun reason _ => refused reason state) :
    Ends (atomic call) state answered refused := by
  cases hcall : (call state).1 with
  | ok value =>
    have hatomic : atomic call state = call state := by
      unfold atomic
      rw [← Prod.mk.eta (p := call state), hcall]
    constructor
    · rw [hatomic]
      exact h.ok
    · rw [hatomic, hcall]
      rintro _ ⟨⟩
  | error reason =>
    have hatomic : atomic call state = (.error reason, state) := by
      unfold atomic
      rw [← Prod.mk.eta (p := call state), hcall]
    constructor
    · rw [hatomic]
      rintro _ ⟨⟩
    · rw [hatomic]
      rintro _ ⟨⟩
      exact h.error reason hcall

theorem ends_forEach {ι : Type} {call : ι → Call σ ε Unit} {items : List ι}
    {done : List ι → σ → Prop} {refused : ε → σ → Prop}
    (hstep : ∀ before item state, item ∈ items → done before state →
      Ends (call item) state (fun _ => done (before ++ [item])) refused)
    {before : List ι} (h : done before state) :
    Ends (forEach call items) state (fun _ => done (before ++ items)) refused := by
  induction items generalizing before state with
  | nil =>
    rw [append_nil]
    exact ends_answer h
  | cons item rest ih =>
    refine ends_andThen ((hstep before item state mem_cons_self h).imp (fun _ after hdone => ?_)
      fun _ _ hrefused => hrefused)
    have hrest := ih (fun before other state hother =>
      hstep before other state (mem_cons_of_mem _ hother)) hdone
    rwa [append_assoc] at hrest

theorem ends_forEach_invariant {ι : Type} {call : ι → Call σ ε Unit} {items : List ι} {I : σ → Prop}
    {refused : ε → σ → Prop}
    (hstep : ∀ item state, item ∈ items → I state → Ends (call item) state (fun _ => I) refused)
    (h : I state) : Ends (forEach call items) state (fun _ => I) refused := by
  induction items generalizing state with
  | nil => exact ends_answer h
  | cons item rest ih =>
    refine ends_andThen ((hstep item state mem_cons_self h).imp (fun _ _ hkept => ?_)
      fun _ _ hrefused => hrefused)
    exact ih (fun other next hother => hstep other next (mem_cons_of_mem _ hother)) hkept

def outcome (call : Call σ ε α) (state : σ) : Except ε (σ × α) :=
  match call state with
  | (.ok value, after) => .ok (after, value)
  | (.error reason, _) => .error reason

theorem atomic_of_ok {call : Call σ ε α} {after : σ} {value : α}
    (h : outcome call state = .ok (after, value)) : atomic call state = (.ok value, after) := by
  unfold outcome at h
  unfold atomic
  rcases hcall : call state with ⟨_ | found, left⟩
  · rw [hcall] at h
    cases h
  · rw [hcall] at h
    cases h
    rfl

theorem atomic_of_error {call : Call σ ε α} {reason : ε} (h : outcome call state = .error reason) :
    atomic call state = (.error reason, state) := by
  unfold outcome at h
  unfold atomic
  rcases hcall : call state with ⟨_ | found, left⟩
  · rw [hcall] at h
    cases h
    rfl
  · rw [hcall] at h
    cases h

@[simp]
theorem outcome_answer (value : α) :
    outcome (answer value : Call σ ε α) state = .ok (state, value) := rfl

theorem outcome_andThen (first : Call σ ε α) (next : α → Call σ ε β) :
    outcome (andThen first next) state =
      outcome first state >>= fun found => outcome (next found.2) found.1 := by
  unfold outcome andThen
  rcases first state with ⟨_ | value, after⟩
  · rfl
  · rfl

@[simp]
theorem outcome_decided (read : σ → Except ε α) (next : α → Call σ ε β) :
    outcome (andThen (decided read) next) state =
      read state >>= fun value => outcome (next value) state := by
  unfold outcome andThen decided
  cases read state with
  | error reason => rfl
  | ok value => rfl

@[simp]
theorem outcome_write (change : σ → σ) (next : Unit → Call σ ε β) :
    outcome (andThen (write change) next) state = outcome (next ()) (change state) := rfl

theorem outcome_forEach {ι : Type} (read : ι → Except ε α) (change : α → σ → σ) (items : List ι) :
    outcome (forEach (fun item => andThen (decided fun _ => read item) fun value =>
        write (change value)) items) state =
      (fun values => (values.foldl (fun state value => change value state) state, ())) <$>
        items.mapM read := by
  induction items generalizing state with
  | nil => rfl
  | cons item rest ih =>
    unfold forEach
    rw [outcome_andThen, outcome_decided, mapM_cons]
    cases read item with
    | error reason => rfl
    | ok value =>
      have hrest := @ih (change value state)
      simp only [Outcome.ok_bind]
      show outcome (forEach _ rest) (change value state) = _
      rw [hrest]
      cases rest.mapM read with
      | error reason => rfl
      | ok values => rfl

/-- Whatever a decision is refused for satisfies `p`. -/
def RefusedFor (p : ε → Prop) (decision : Except ε α) : Prop :=
  ∀ reason, decision = .error reason → p reason

variable {p : ε → Prop}

theorem refusedFor_ok {value : α} : RefusedFor p (.ok value : Except ε α) := by
  intro reason h
  cases h

theorem refusedFor_error {reason : ε} (h : p reason) :
    RefusedFor p (.error reason : Except ε α) := by
  rintro other ⟨⟩
  exact h

theorem refusedFor_bind {first : Except ε α} {next : α → Except ε β} (hfirst : RefusedFor p first)
    (hnext : ∀ value, first = .ok value → RefusedFor p (next value)) :
    RefusedFor p (first >>= next) := by
  cases first with
  | error reason =>
    rintro other ⟨⟩
    exact hfirst reason rfl
  | ok value => exact hnext value rfl

theorem refusedFor_mapError {ε' : Type} {decision : Except ε' α} {change : ε' → ε}
    (h : ∀ reason, decision = .error reason → p (change reason)) :
    RefusedFor p (decision.mapError change) := by
  cases decision with
  | error reason =>
    rintro other ⟨⟩
    exact h reason rfl
  | ok value => exact refusedFor_ok

theorem refusedFor_refuse {conditions : List (Bool × ε)} (h : ∀ entry ∈ conditions, p entry.2) :
    RefusedFor p (Outcome.refuse conditions) := by
  induction conditions with
  | nil => exact refusedFor_ok
  | cons entry rest ih =>
    intro reason hrefused
    unfold Outcome.refuse at hrefused
    split at hrefused
    · cases hrefused
      exact h _ mem_cons_self
    · exact ih (fun other hother => h other (mem_cons_of_mem _ hother)) reason hrefused

end Transaction
