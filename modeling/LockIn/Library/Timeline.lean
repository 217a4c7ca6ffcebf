import Mathlib.Tactic

/-!
# Histories of commands and of contents

An editor that keeps the commands it ran takes the last one back by running its inverse.
An editor that keeps the contents themselves restores the one before.  The first is what
programs store, the second what undo means.  Where every command takes itself back from
the content it was run on, the two show the same content after any steps, also when both
forget all but the latest entries.
-/

/-- Commands that run both ways.  `Ready c s` says that `c` may be run on `s` for the first
time, and `Sound` is what the commands keep. -/
structure Undoable (σ γ : Type) where
  redo : γ → σ → σ
  undo : γ → σ → σ
  Sound : σ → Prop
  Ready : γ → σ → Prop
  redo_sound : ∀ {c s}, Sound s → Ready c s → Sound (redo c s)
  undo_redo : ∀ {c s}, Sound s → Ready c s → undo c (redo c s) = s

/-- A content with the commands that undo and redo would run next, the latest first. -/
structure History (σ γ : Type) where
  content : σ
  undos : List γ
  redos : List γ

/-- A content between the contents before it and the ones after it, the nearest first. -/
structure Timeline (σ : Type) where
  past : List σ
  present : σ
  future : List σ

namespace History

variable {σ γ : Type}

/-- A content to which nothing was done. -/
def opened (s : σ) : History σ γ := ⟨s, [], []⟩

/-- Run a command and forget all but the last `kept` before it. -/
def record (u : Undoable σ γ) (kept : Nat) (c : γ) (h : History σ γ) : History σ γ :=
  { content := u.redo c h.content, undos := c :: h.undos.take kept, redos := [] }

def undo (u : Undoable σ γ) (kept : Nat) (h : History σ γ) : History σ γ :=
  match h.undos with
  | [] => h
  | c :: rest =>
    { content := u.undo c h.content, undos := rest, redos := c :: h.redos.take kept }

def redo (u : Undoable σ γ) (kept : Nat) (h : History σ γ) : History σ γ :=
  match h.redos with
  | [] => h
  | c :: rest =>
    { content := u.redo c h.content, undos := c :: h.undos.take kept, redos := rest }

end History

namespace Timeline

variable {σ : Type}

def opened (s : σ) : Timeline σ := ⟨[], s, []⟩

/-- Go on to a content, with nothing after it any more. -/
def record (kept : Nat) (s : σ) (t : Timeline σ) : Timeline σ :=
  { past := t.present :: t.past.take kept, present := s, future := [] }

def undo (kept : Nat) (t : Timeline σ) : Timeline σ :=
  match t.past with
  | [] => t
  | s :: rest => { past := rest, present := s, future := t.present :: t.future.take kept }

def redo (kept : Nat) (t : Timeline σ) : Timeline σ :=
  match t.future with
  | [] => t
  | s :: rest => { past := t.present :: t.past.take kept, present := s, future := rest }

end Timeline

namespace Undoable

variable {σ γ : Type} (u : Undoable σ γ)

/-- The commands to undo, each between the content it was run on and the one it gave. -/
inductive Behind : σ → List γ → List σ → Prop
  | nil {s : σ} : Behind s [] []
  | cons {c : γ} {s : σ} {undos : List γ} {past : List σ} :
      u.Sound s → u.Ready c s → Behind s undos past →
      Behind (u.redo c s) (c :: undos) (s :: past)

/-- The commands to redo, each ready where it will be run again. -/
inductive Ahead : σ → List γ → List σ → Prop
  | nil {s : σ} : Ahead s [] []
  | cons {c : γ} {s : σ} {redos : List γ} {future : List σ} :
      u.Sound s → u.Ready c s → Ahead (u.redo c s) redos future →
      Ahead s (c :: redos) (u.redo c s :: future)

structure Follows (h : History σ γ) (t : Timeline σ) : Prop where
  same : h.content = t.present
  sound : u.Sound h.content
  behind : u.Behind h.content h.undos t.past
  ahead : u.Ahead h.content h.redos t.future

variable {u} {s : σ} {c : γ} {kept : Nat} {h : History σ γ} {t : Timeline σ}

theorem Behind.take {undos : List γ} {past : List σ} (hb : u.Behind s undos past) (n : Nat) :
    u.Behind s (undos.take n) (past.take n) := by
  induction hb generalizing n with
  | nil => simpa using Behind.nil
  | cons hs hr _ ih =>
    cases n with
    | zero => exact .nil
    | succ n => exact .cons hs hr (ih n)

theorem Ahead.take {redos : List γ} {future : List σ} (ha : u.Ahead s redos future) (n : Nat) :
    u.Ahead s (redos.take n) (future.take n) := by
  induction ha generalizing n with
  | nil => simpa using Ahead.nil
  | cons hs hr _ ih =>
    cases n with
    | zero => exact .nil
    | succ n => exact .cons hs hr (ih n)

theorem follows_opened (hs : u.Sound s) : u.Follows (.opened s) (.opened s) :=
  ⟨rfl, hs, .nil, .nil⟩

theorem Follows.record (hf : u.Follows h t) (hr : u.Ready c h.content) :
    u.Follows (h.record u kept c) (t.record kept (u.redo c h.content)) where
  same := rfl
  sound := u.redo_sound hf.sound hr
  behind := by
    show u.Behind _ _ (t.present :: _)
    rw [← hf.same]
    exact .cons hf.sound hr (hf.behind.take kept)
  ahead := .nil

/-- Undoing a command restores the content it was run on. -/
theorem Follows.undo (hf : u.Follows h t) : u.Follows (h.undo u kept) (t.undo kept) := by
  obtain ⟨s, undos, redos⟩ := h
  obtain ⟨past, present, future⟩ := t
  obtain ⟨hsame, hsound, hbehind, hahead⟩ := hf
  cases hbehind with
  | nil => exact ⟨hsame, hsound, .nil, hahead⟩
  | @cons c before _ _ hb hr hrest =>
    have hsame : u.redo c before = present := hsame
    have hback : u.undo c (u.redo c before) = before := u.undo_redo hb hr
    simp only [History.undo, Timeline.undo, hback, ← hsame]
    exact ⟨rfl, hb, hrest, .cons hb hr (hahead.take kept)⟩

/-- Redoing it gives again the content it gave. -/
theorem Follows.redo (hf : u.Follows h t) : u.Follows (h.redo u kept) (t.redo kept) := by
  obtain ⟨s, undos, redos⟩ := h
  obtain ⟨past, present, future⟩ := t
  obtain ⟨hsame, hsound, hbehind, hahead⟩ := hf
  cases hahead with
  | nil => exact ⟨hsame, hsound, hbehind, .nil⟩
  | @cons c _ _ _ hs hr hrest =>
    have hsame : s = present := hsame
    simp only [History.redo, Timeline.redo, ← hsame]
    exact ⟨rfl, u.redo_sound hs hr, .cons hs hr (hbehind.take kept), hrest⟩

end Undoable
