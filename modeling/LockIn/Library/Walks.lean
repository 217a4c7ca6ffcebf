import LockIn.Library.Outcome

/-!
# Walks that may fail

What a generator yields: the items in order, and what it raises when it is asked for one more, if it
does.  A loop over it sees the items one by one and may leave before the end, and then what comes
later is never looked at.
-/

structure Walk (ε β : Type) where
  items : List β
  failure : Option ε

namespace Walk

open List

variable {ε β σ γ : Type}

/-- What a loop does when it has seen all items. -/
def finish (walk : Walk ε β) (state : σ) : Except ε σ :=
  match walk.failure with
  | none => .ok state
  | some reason => .error reason

def forEach (walk : Walk ε β) (step : σ → β → Except ε σ) (state : σ) : Except ε σ :=
  walk.items.foldlM step state >>= walk.finish

def any (walk : Walk ε β) (found : β → Except ε Bool) : Except ε Bool :=
  go walk.items
where
  go : List β → Except ε Bool
    | [] => walk.finish false
    | item :: rest => do
      let hit ← found item
      if hit then .ok true else go rest

/-- `next((...), None)` -/
def first (walk : Walk ε β) (pick : β → Option γ) : Except ε (Option γ) :=
  match walk.items.findSome? pick with
  | some value => .ok (some value)
  | none => walk.finish none

def rest (walk : Walk ε β) : Walk ε β := ⟨walk.items.tail, walk.failure⟩

def upTo (walk : Walk ε β) (stop : β → Bool) : Walk ε β where
  items := walk.items.takeWhile fun item => !stop item
  failure := if walk.items.any stop then none else walk.failure

variable {walk : Walk ε β} {step : σ → β → Except ε σ} {found : β → Except ε Bool} {state last : σ}
  {reason : ε}

theorem finish_eq_ok : walk.finish state = .ok last ↔ walk.failure = none ∧ state = last := by
  unfold finish
  cases walk.failure with
  | none => simp
  | some reason => simp

theorem finish_eq_error (h : walk.finish state = .error reason) : walk.failure = some reason := by
  unfold finish at h
  cases hfailure : walk.failure with
  | none => simp [hfailure] at h
  | some other =>
    rw [hfailure] at h
    cases h
    rfl

theorem forEach_eq_ok : walk.forEach step state = .ok last ↔
    walk.failure = none ∧ walk.items.foldlM step state = .ok last := by
  rw [forEach, Outcome.bind_eq_ok]
  constructor
  · rintro ⟨middle, hitems, hfinish⟩
    obtain ⟨hfailure, rfl⟩ := finish_eq_ok.1 hfinish
    exact ⟨hfailure, hitems⟩
  · rintro ⟨hfailure, hitems⟩
    exact ⟨last, hitems, finish_eq_ok.2 ⟨hfailure, rfl⟩⟩

/-- A loop whose state is described by what it has seen.  It ends where the walk does not fail and
every item is good after what was seen before it, and then it has seen the parts of all items. -/
theorem forEach_eq_ok_seen {good : List γ → β → Prop} {part : β → List γ} {describe : List γ → σ}
    (hstep : ∀ item ∈ walk.items, ∀ seen next,
      step (describe seen) item = .ok next ↔ good seen item ∧ next = describe (seen ++ part item))
    (seen : List γ) : walk.forEach step (describe seen) = .ok last ↔
      (walk.failure = none ∧ ∀ before item after, walk.items = before ++ item :: after →
        good (seen ++ before.flatMap part) item) ∧
        last = describe (seen ++ walk.items.flatMap part) := by
  have hitems (items : List β) (hsub : ∀ item ∈ items, item ∈ walk.items) (seen : List γ) :
      items.foldlM step (describe seen) = .ok last ↔
        (∀ before item after, items = before ++ item :: after →
          good (seen ++ before.flatMap part) item) ∧ last = describe (seen ++ items.flatMap part) := by
    induction items generalizing seen with
    | nil =>
      rw [flatMap_nil, append_nil]
      constructor
      · intro h
        cases h
        exact ⟨fun before item after h => absurd h.symm (by simp), rfl⟩
      · rintro ⟨-, rfl⟩
        rfl
    | cons item rest ih =>
      have hitem := hstep item (hsub item mem_cons_self) seen
      have hrest := ih fun other hother => hsub other (mem_cons_of_mem _ hother)
      rw [foldlM_cons, Outcome.bind_eq_ok, flatMap_cons, ← append_assoc]
      constructor
      · rintro ⟨middle, hmiddle, hlast⟩
        obtain ⟨hgood, rfl⟩ := (hitem middle).1 hmiddle
        obtain ⟨hlater, rfl⟩ := (hrest _).1 hlast
        refine ⟨fun before other after hsplit => ?_, rfl⟩
        cases before with
        | nil =>
          obtain ⟨rfl, -⟩ := List.cons.inj hsplit
          rw [flatMap_nil, append_nil]
          exact hgood
        | cons head tail =>
          obtain ⟨rfl, rfl⟩ := List.cons.inj hsplit
          rw [flatMap_cons, ← append_assoc]
          exact hlater tail other after rfl
      · rintro ⟨hgood, hlast⟩
        have hfirst := hgood [] item rest rfl
        rw [flatMap_nil, append_nil] at hfirst
        refine ⟨_, (hitem _).2 ⟨hfirst, rfl⟩, (hrest _).2 ⟨fun before other after hsplit => ?_, hlast⟩⟩
        have hother := hgood (item :: before) other after (by rw [hsplit, cons_append])
        rw [flatMap_cons, ← append_assoc] at hother
        exact hother
  rw [forEach_eq_ok, hitems walk.items (fun _ h => h) seen, and_assoc]

theorem forEach_eq_ok_describe {good : β → Prop} {part : β → List γ} {describe : List γ → σ}
    (hstep : ∀ item ∈ walk.items, ∀ seen next,
      step (describe seen) item = .ok next ↔ good item ∧ next = describe (seen ++ part item))
    (seen : List γ) : walk.forEach step (describe seen) = .ok last ↔
      (walk.failure = none ∧ ∀ item ∈ walk.items, good item) ∧
        last = describe (seen ++ walk.items.flatMap part) := by
  have hseen : ∀ item ∈ walk.items, ∀ seen next,
      step (describe seen) item = .ok next ↔
        (fun _ => good) seen item ∧ next = describe (seen ++ part item) := hstep
  rw [forEach_eq_ok_seen hseen]
  have hall : (∀ before item after, walk.items = before ++ item :: after → good item) ↔
      ∀ item ∈ walk.items, good item := by
    constructor
    · intro h item hitem
      obtain ⟨before, after, hsplit⟩ := append_of_mem hitem
      exact h before item after hsplit
    · intro h before item after hsplit
      exact h item (by simp [hsplit])
  rw [hall]

theorem first_eq_ok_some {pick : β → Option γ} {value : γ} :
    walk.first pick = .ok (some value) ↔ walk.items.findSome? pick = some value := by
  unfold first
  cases hfound : walk.items.findSome? pick with
  | some other => simp
  | none => simp [finish_eq_ok]

theorem foldlM_eq_error {items : List β} (h : items.foldlM step state = .error reason) :
    ∃ item ∈ items, ∃ before, step before item = .error reason := by
  induction items generalizing state with
  | nil => cases h
  | cons item rest ih =>
    rw [foldlM_cons] at h
    cases hstep : step state item with
    | error other =>
      rw [hstep] at h
      cases h
      exact ⟨item, mem_cons_self, state, hstep⟩
    | ok next =>
      rw [hstep] at h
      obtain ⟨later, hlater, hreason⟩ := ih h
      exact ⟨later, mem_cons_of_mem _ hlater, hreason⟩

theorem forEach_eq_error (h : walk.forEach step state = .error reason) :
    walk.failure = some reason ∨ ∃ item ∈ walk.items, ∃ before, step before item = .error reason := by
  rw [forEach] at h
  cases hloop : walk.items.foldlM step state with
  | error other =>
    rw [hloop] at h
    cases h
    exact .inr (foldlM_eq_error hloop)
  | ok final =>
    rw [hloop] at h
    exact .inl (finish_eq_error h)

theorem any_eq_error (h : walk.any found = .error reason) :
    walk.failure = some reason ∨ ∃ item ∈ walk.items, found item = .error reason := by
  have hgo (items : List β) (h : any.go walk found items = .error reason) :
      walk.failure = some reason ∨ ∃ item ∈ items, found item = .error reason := by
    induction items with
    | nil => exact .inl (finish_eq_error h)
    | cons item rest ih =>
      rw [any.go] at h
      cases hitem : found item with
      | error other =>
        rw [hitem] at h
        cases h
        exact .inr ⟨item, mem_cons_self, hitem⟩
      | ok hit =>
        rw [hitem] at h
        cases hit with
        | true => cases h
        | false =>
          rcases ih h with hfailure | ⟨later, hlater, hreason⟩
          · exact .inl hfailure
          · exact .inr ⟨later, mem_cons_of_mem _ hlater, hreason⟩
  exact hgo walk.items h

theorem any_eq_true : walk.any found = .ok true ↔ ∃ before item after,
    walk.items = before ++ item :: after ∧ (∀ other ∈ before, found other = .ok false) ∧
      found item = .ok true := by
  have hgo (items : List β) : any.go walk found items = .ok true ↔ ∃ before item after,
      items = before ++ item :: after ∧ (∀ other ∈ before, found other = .ok false) ∧
        found item = .ok true := by
    induction items with
    | nil =>
      constructor
      · intro h
        have hfalse := (finish_eq_ok.1 h).2
        cases hfalse
      · rintro ⟨before, item, after, h, -⟩
        simp at h
    | cons item rest ih =>
      rw [any.go]
      cases hitem : found item with
      | error reason =>
        constructor
        · intro h
          cases h
        · rintro ⟨before, other, after, hsplit, hbefore, hother⟩
          cases before with
          | nil =>
            obtain ⟨rfl, -⟩ := List.cons.inj hsplit
            rw [hitem] at hother
            cases hother
          | cons head tail =>
            obtain ⟨rfl, -⟩ := List.cons.inj hsplit
            have hhead := hbefore item mem_cons_self
            rw [hitem] at hhead
            cases hhead
      | ok hit =>
        cases hit with
        | true =>
          refine ⟨fun _ => ⟨[], item, rest, rfl, forall_mem_nil _, hitem⟩,
            fun _ => rfl⟩
        | false =>
          rw [Outcome.ok_bind, if_neg Bool.false_ne_true, ih]
          constructor
          · rintro ⟨before, other, after, rfl, hbefore, hother⟩
            refine ⟨item :: before, other, after, rfl, fun x hx => ?_, hother⟩
            rcases mem_cons.1 hx with rfl | hin
            · exact hitem
            · exact hbefore x hin
          · rintro ⟨before, other, after, hsplit, hbefore, hother⟩
            cases before with
            | nil =>
              obtain ⟨rfl, -⟩ := List.cons.inj hsplit
              rw [hitem] at hother
              cases hother
            | cons head tail =>
              obtain ⟨rfl, rfl⟩ := List.cons.inj hsplit
              exact ⟨tail, other, after, rfl,
                fun x hx => hbefore x (mem_cons_of_mem _ hx), hother⟩
  exact hgo walk.items

theorem any_eq_ok {δ : Type} {related : β → δ → Prop} {parts : List δ} {p : δ → Bool}
    (hfailure : walk.failure = none) (hparts : List.Forall₂ related walk.items parts)
    (h : ∀ item part, related item part → found item = .ok (p part)) :
    walk.any found = .ok (parts.any p) := by
  have hgo (items : List β) (parts : List δ) (hparts : List.Forall₂ related items parts) :
      any.go walk found items = .ok (parts.any p) := by
    induction hparts with
    | nil => exact finish_eq_ok.2 ⟨hfailure, rfl⟩
    | @cons item part _ _ hhead _ ih =>
      rw [any.go, h item part hhead, Outcome.ok_bind, any_cons]
      cases p part with
      | true => rfl
      | false =>
        rw [if_neg Bool.false_ne_true, Bool.false_or]
        exact ih
  exact hgo walk.items parts hparts

theorem first_eq_error {pick : β → Option γ} (h : walk.first pick = .error reason) :
    walk.failure = some reason := by
  unfold first at h
  cases hfound : walk.items.findSome? pick with
  | some value =>
    rw [hfound] at h
    cases h
  | none =>
    rw [hfound] at h
    exact finish_eq_error h

end Walk

def RaisesOnly {ε α : Type} (allowed : ε → Prop) (x : Except ε α) : Prop :=
  ∀ reason, x = .error reason → allowed reason

namespace RaisesOnly

variable {ε α β σ γ : Type} {allowed : ε → Prop} {x : Except ε α} {walk : Walk ε β}

theorem ok (value : α) : RaisesOnly allowed (.ok value : Except ε α) := fun _ h => by cases h

theorem error {reason : ε} (h : allowed reason) : RaisesOnly allowed (.error reason : Except ε α) :=
  fun _ heq => by
    cases heq
    exact h

theorem bind {f : α → Except ε β} (hx : RaisesOnly allowed x)
    (hf : ∀ value, x = .ok value → RaisesOnly allowed (f value)) : RaisesOnly allowed (x >>= f) := by
  cases x with
  | error reason => exact fun other heq => hx other (by cases heq; rfl)
  | ok value => exact hf value rfl

theorem map {f : α → β} (hx : RaisesOnly allowed x) : RaisesOnly allowed (x.map f) := by
  cases x with
  | error reason => exact fun other heq => hx other (by cases heq; rfl)
  | ok value => exact fun _ heq => by cases heq

theorem forEach {step : σ → β → Except ε σ} {state : σ}
    (hwalk : ∀ reason, walk.failure = some reason → allowed reason)
    (hstep : ∀ before, ∀ item ∈ walk.items, RaisesOnly allowed (step before item)) :
    RaisesOnly allowed (walk.forEach step state) := by
  intro reason h
  rcases Walk.forEach_eq_error h with hfailure | ⟨item, hitem, before, hraise⟩
  · exact hwalk reason hfailure
  · exact hstep before item hitem reason hraise

theorem any {found : β → Except ε Bool}
    (hwalk : ∀ reason, walk.failure = some reason → allowed reason)
    (hfound : ∀ item ∈ walk.items, RaisesOnly allowed (found item)) :
    RaisesOnly allowed (walk.any found) := by
  intro reason h
  rcases Walk.any_eq_error h with hfailure | ⟨item, hitem, hraise⟩
  · exact hwalk reason hfailure
  · exact hfound item hitem reason hraise

theorem first {pick : β → Option γ}
    (hwalk : ∀ reason, walk.failure = some reason → allowed reason) :
    RaisesOnly allowed (walk.first pick) := fun reason h => hwalk reason (Walk.first_eq_error h)

end RaisesOnly
