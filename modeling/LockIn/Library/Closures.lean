import LockIn.Library.Walks

/-!
# Closures by depth-first search

An entry is visited after everything it needs.  The search keeps the keys that it is in the middle of,
and gives up where one of them is needed again or an entry is not found.  It succeeds exactly where
nothing that is needed is missing and nothing needs itself, and then it has everything that is needed
in an order in which what is needed comes first.
-/

namespace Closures

open List

inductive Failure where
  | missing
  | cyclic
  | exhausted

structure Graph (ε ι : Type) where
  key : ε → ι
  needs : ε → List ι
  find : ι → Option ε
  key_find (id : ι) (entry : ε) (h : find id = some entry) : key entry = id

variable {ε ι : Type} [DecidableEq ι]

/-- The search: what is ordered is done. -/
def visit (graph : Graph ε ι) : Nat → List ι → List ε → ε → Except Failure (List ε)
  | 0, _, _, _ => .error .exhausted
  | rounds + 1, visiting, ordered, entry =>
    if graph.key entry ∈ ordered.map graph.key then .ok ordered
    else if graph.key entry ∈ visiting then .error .cyclic
    else do
      let ordered ← (graph.needs entry).foldlM (fun ordered id =>
        match graph.find id with
        | none => .error .missing
        | some other => visit graph rounds (graph.key entry :: visiting) ordered other) ordered
      .ok (ordered ++ [entry])

def Needs (graph : Graph ε ι) (entry other : ε) : Prop :=
  ∃ id ∈ graph.needs entry, graph.find id = some other

def Reaches (graph : Graph ε ι) : ε → ε → Prop := Relation.ReflTransGen (Needs graph)

/-- Something that is needed is not found. -/
def Missing (graph : Graph ε ι) (entry : ε) : Prop :=
  ∃ other, Reaches graph entry other ∧ ∃ id ∈ graph.needs other, graph.find id = none

def Cyclic (graph : Graph ε ι) (entry : ε) : Prop :=
  ∃ other again, Reaches graph entry other ∧ Relation.TransGen (Needs graph) other again ∧
    graph.key again = graph.key other

def Ordered (graph : Graph ε ι) (entries : List ε) : Prop :=
  ∀ before entry after, entries = before ++ entry :: after →
    ∀ id ∈ graph.needs entry, ∃ other ∈ before, graph.find id = some other

structure Sound (graph : Graph ε ι) (entries : List ε) : Prop where
  nodup : (entries.map graph.key).Nodup
  found : ∀ entry ∈ entries, graph.find (graph.key entry) = some entry
  ordered : Ordered graph entries

section Orders

variable {ε ι : Type} {graph : Graph ε ι} {ordered before after : List ε} {entry other again : ε}

theorem ordered_append (h : Ordered graph ordered)
    (hentry : ∀ id ∈ graph.needs entry, ∃ other ∈ ordered, graph.find id = some other) :
    Ordered graph (ordered ++ [entry]) := by
  intro before item after hsplit id hid
  rcases eq_nil_or_concat after with rfl | ⟨front, last, rfl⟩
  · have hlast : ordered = before ∧ entry = item := by
      simpa using append_inj' hsplit rfl
    obtain ⟨rfl, rfl⟩ := hlast
    exact hentry id hid
  · have hfront : ordered = before ++ item :: front := by
      have hjoin : before ++ item :: (front ++ [last]) = (before ++ item :: front) ++ [last] := by simp
      rw [concat_eq_append, hjoin] at hsplit
      exact (append_inj' hsplit rfl).1
    exact h before item front hfront id hid

/-- Whatever is needed, however far away, comes before. -/
theorem mem_before (h : Ordered graph ordered) (hsplit : ordered = before ++ entry :: after)
    (hpath : Relation.TransGen (Needs graph) entry other) : other ∈ before := by
  have hneeded (one two : ε) (hneeds : Needs graph one two) (before after : List ε)
      (hsplit : ordered = before ++ one :: after) : two ∈ before := by
    obtain ⟨id, hid, hfind⟩ := hneeds
    obtain ⟨found, hfound, hsame⟩ := h before one after hsplit id hid
    obtain rfl : found = two := Option.some.inj (hsame.symm.trans hfind)
    exact hfound
  induction hpath with
  | single hneeds => exact hneeded _ _ hneeds before after hsplit
  | @tail middle _ _ hneeds ih =>
    obtain ⟨front, back, hfront⟩ := append_of_mem ih
    have hwhole : ordered = front ++ middle :: (back ++ entry :: after) := by
      rw [hsplit, hfront, append_assoc, cons_append]
    rw [hfront]
    exact mem_append_left _ (hneeded _ _ hneeds front _ hwhole)

theorem mem_of_reaches (h : Ordered graph ordered) (hentry : entry ∈ ordered)
    (hreach : Reaches graph entry other) : other ∈ ordered := by
  obtain ⟨before, after, hsplit⟩ := append_of_mem hentry
  rcases Relation.reflTransGen_iff_eq_or_transGen.1 hreach with rfl | hpath
  · exact hentry
  · rw [hsplit]
    exact mem_append_left _ (mem_before h hsplit hpath)

theorem not_missing (h : Ordered graph ordered) (hentry : entry ∈ ordered) :
    ¬ Missing graph entry := by
  rintro ⟨other, hreach, id, hid, hnone⟩
  obtain ⟨before, after, hsplit⟩ := append_of_mem (mem_of_reaches h hentry hreach)
  obtain ⟨found, -, hfind⟩ := h before other after hsplit id hid
  rw [hnone] at hfind
  cases hfind

theorem not_cyclic (h : Ordered graph ordered) (hnodup : (ordered.map graph.key).Nodup)
    (hentry : entry ∈ ordered) : ¬ Cyclic graph entry := by
  rintro ⟨other, again, hreach, hpath, hkey⟩
  obtain ⟨before, after, hsplit⟩ := append_of_mem (mem_of_reaches h hentry hreach)
  have hagain := mem_before h hsplit hpath
  rw [hsplit, map_append, map_cons] at hnodup
  have hdisjoint := disjoint_of_nodup_append hnodup
  exact hdisjoint (mem_map_of_mem hagain) (hkey ▸ mem_cons_self)

theorem Missing.head (hneeds : Needs graph entry other) (h : Missing graph other) :
    Missing graph entry := by
  obtain ⟨last, hreach, hmissing⟩ := h
  exact ⟨last, .head hneeds hreach, hmissing⟩

theorem Cyclic.head (hneeds : Needs graph entry other) (h : Cyclic graph other) :
    Cyclic graph entry := by
  obtain ⟨last, again, hreach, hcycle⟩ := h
  exact ⟨last, again, .head hneeds hreach, hcycle⟩

end Orders

variable {graph : Graph ε ι} {rounds : Nat} {visiting : List ι} {ordered result : List ε}
  {entry other : ε} {ids : List ι}

def step (graph : Graph ε ι) (rounds : Nat) (visiting : List ι) (ordered : List ε) (id : ι) :
    Except Failure (List ε) :=
  match graph.find id with
  | none => .error .missing
  | some other => visit graph rounds visiting ordered other

theorem visit_succ : visit graph (rounds + 1) visiting ordered entry =
    if graph.key entry ∈ ordered.map graph.key then .ok ordered
    else if graph.key entry ∈ visiting then .error .cyclic
    else (graph.needs entry).foldlM (step graph rounds (graph.key entry :: visiting)) ordered >>=
      fun ordered => .ok (ordered ++ [entry]) := rfl

/-- What a visit has done afterwards: more than before, nothing of what it is in the middle of, and
only what can be reached. -/
structure Grown (graph : Graph ε ι) (visiting : List ι) (origins : ε → Prop) (ordered result : List ε) :
    Prop where
  sound : Sound graph result
  grows : ordered <+: result
  fresh : ∀ entry ∈ result, entry ∈ ordered ∨
    (graph.key entry ∉ visiting ∧ ∃ origin, origins origin ∧ Reaches graph origin entry)

theorem needs_grown (hvisit : ∀ ordered result other, Sound graph ordered →
      graph.find (graph.key other) = some other →
      visit graph rounds visiting ordered other = .ok result →
        Grown graph visiting (· = other) ordered result ∧ other ∈ result)
    (hsound : Sound graph ordered)
    (h : ids.foldlM (step graph rounds visiting) ordered = .ok result) :
    Grown graph visiting (fun origin => ∃ id ∈ ids, graph.find id = some origin) ordered result ∧
      ∀ id ∈ ids, ∃ other ∈ result, graph.find id = some other := by
  induction ids generalizing ordered with
  | nil =>
    cases h
    exact ⟨⟨hsound, prefix_refl _, fun entry hentry => .inl hentry⟩,
      fun id hid => absurd hid not_mem_nil⟩
  | cons id rest ih =>
    rw [foldlM_cons] at h
    obtain ⟨middle, hmiddle, h⟩ := Outcome.bind_eq_ok.1 h
    unfold step at hmiddle
    cases hfind : graph.find id with
    | none =>
      rw [hfind] at hmiddle
      cases hmiddle
    | some other =>
      rw [hfind] at hmiddle
      have hkey := graph.key_find id other hfind
      obtain ⟨hfirst, hother⟩ := hvisit ordered middle other hsound (by rw [hkey, hfind]) hmiddle
      obtain ⟨hlater, hall⟩ := ih hfirst.sound h
      refine ⟨⟨hlater.sound, hfirst.grows.trans hlater.grows, fun entry hentry => ?_⟩, ?_⟩
      · rcases hlater.fresh entry hentry with hin | ⟨hfresh, origin, ⟨next, hnext, hnextFind⟩, hreach⟩
        · rcases hfirst.fresh entry hin with hold | ⟨hfresh, origin, rfl, hreach⟩
          · exact .inl hold
          · exact .inr ⟨hfresh, origin, ⟨id, mem_cons_self, hfind⟩, hreach⟩
        · exact .inr ⟨hfresh, origin, ⟨next, mem_cons_of_mem _ hnext, hnextFind⟩, hreach⟩
      · intro need hneed
        rcases mem_cons.1 hneed with rfl | hin
        · exact ⟨other, hlater.grows.subset hother, hfind⟩
        · exact hall need hin

theorem visit_grown (rounds : Nat) (visiting : List ι) (ordered result : List ε) (entry : ε)
    (hsound : Sound graph ordered) (hfound : graph.find (graph.key entry) = some entry)
    (h : visit graph rounds visiting ordered entry = .ok result) :
    Grown graph visiting (· = entry) ordered result ∧ entry ∈ result := by
  induction rounds generalizing visiting ordered result entry with
  | zero => cases h
  | succ rounds ih =>
    rw [visit_succ] at h
    split_ifs at h with hdone hvisiting
    · cases h
      obtain ⟨same, hsame, hkey⟩ := mem_map.1 hdone
      have heq : some same = some entry := by rw [← hsound.found same hsame, hkey, hfound]
      obtain rfl : same = entry := Option.some.inj heq
      exact ⟨⟨hsound, prefix_refl _, fun other hother => .inl hother⟩, hsame⟩
    · obtain ⟨middle, hmiddle, h⟩ := Outcome.bind_eq_ok.1 h
      cases h
      obtain ⟨hgrown, hall⟩ := needs_grown
        (fun ordered result other hsound hfound hok => ih _ ordered result other hsound hfound hok)
        hsound hmiddle
      have hnew : graph.key entry ∉ middle.map graph.key := by
        intro hin
        obtain ⟨same, hsame, hkey⟩ := mem_map.1 hin
        rcases hgrown.fresh same hsame with hold | ⟨hfresh, -⟩
        · exact hdone (mem_map.2 ⟨same, hold, hkey⟩)
        · exact hfresh (hkey ▸ mem_cons_self)
      refine ⟨⟨⟨?_, ?_, ordered_append hgrown.sound.ordered hall⟩,
        hgrown.grows.trans (prefix_append _ _), ?_⟩,
        mem_append_right _ (mem_singleton.2 rfl)⟩
      · rw [map_append, map_singleton]
        exact hgrown.sound.nodup.append (nodup_singleton _) (by simpa using hnew)
      · intro other hother
        rcases mem_append.1 hother with hin | hlast
        · exact hgrown.sound.found other hin
        · rw [mem_singleton.1 hlast]
          exact hfound
      · intro other hother
        rcases mem_append.1 hother with hin | hlast
        · rcases hgrown.fresh other hin with hold | ⟨hfresh, origin, ⟨id, hid, hfind⟩, hreach⟩
          · exact .inl hold
          · exact .inr ⟨fun hvis => hfresh (mem_cons_of_mem _ hvis), entry, rfl,
              .head ⟨id, hid, hfind⟩ hreach⟩
        · rw [mem_singleton.1 hlast]
          exact .inr ⟨hvisiting, entry, rfl, .refl⟩

/-- What the search answers with. -/
theorem closure_ok (h : visit graph (rounds + 1) [] [] entry = .ok result) :
    (result.map graph.key).Nodup ∧ (∀ other, other ∈ result ↔ Reaches graph entry other) ∧
      Ordered graph result ∧ ∃ before, result = before ++ [entry] := by
  rw [visit_succ, map_nil, if_neg not_mem_nil, if_neg not_mem_nil] at h
  obtain ⟨middle, hmiddle, h⟩ := Outcome.bind_eq_ok.1 h
  cases h
  have hsound : Sound graph ([] : List ε) :=
    ⟨nodup_nil, by simp, fun before item after h => absurd h (by simp)⟩
  obtain ⟨hgrown, hall⟩ := needs_grown (visit_grown rounds [graph.key entry]) hsound hmiddle
  have hmem (other : ε) (hother : other ∈ middle) :
      graph.key other ≠ graph.key entry ∧ Reaches graph entry other := by
    rcases hgrown.fresh other hother with hold | ⟨hfresh, origin, ⟨id, hid, hfind⟩, hreach⟩
    · cases hold
    · exact ⟨fun hkey => hfresh (hkey ▸ mem_cons_self), .head ⟨id, hid, hfind⟩ hreach⟩
  have hordered := ordered_append hgrown.sound.ordered hall
  refine ⟨?_, fun other => ⟨fun hother => ?_, fun hreach => ?_⟩, hordered, middle, rfl⟩
  · rw [map_append, map_singleton]
    refine hgrown.sound.nodup.append (nodup_singleton _) fun key hkey hlast => ?_
    obtain ⟨other, hother, rfl⟩ := mem_map.1 hkey
    exact (hmem other hother).1 (mem_singleton.1 hlast)
  · rcases mem_append.1 hother with hin | hlast
    · exact (hmem other hin).2
    · rw [mem_singleton.1 hlast]
      exact .refl
  · exact mem_of_reaches hordered (mem_append_right _ (mem_singleton.2 rfl)) hreach

theorem visit_error (rounds : Nat) (visiting : List ι) (ordered : List ε) (entry : ε)
    (reason : Failure) (h : visit graph rounds visiting ordered entry = .error reason) :
    reason = .exhausted ∨ Missing graph entry ∨ Cyclic graph entry ∨
      ∃ other, Reaches graph entry other ∧ graph.key other ∈ visiting := by
  induction rounds generalizing visiting ordered entry with
  | zero =>
    cases h
    exact .inl rfl
  | succ rounds ih =>
    rw [visit_succ] at h
    split_ifs at h with hdone hvisiting
    · exact .inr (.inr (.inr ⟨entry, .refl, hvisiting⟩))
    · cases hloop : (graph.needs entry).foldlM (step graph rounds (graph.key entry :: visiting))
          ordered with
      | ok middle =>
        rw [hloop] at h
        cases h
      | error other =>
        rw [hloop] at h
        cases h
        obtain ⟨id, hid, before, hstep⟩ := Walk.foldlM_eq_error hloop
        unfold step at hstep
        cases hfind : graph.find id with
        | none => exact .inr (.inl ⟨entry, .refl, id, hid, hfind⟩)
        | some next =>
          rw [hfind] at hstep
          have hneeds : Needs graph entry next := ⟨id, hid, hfind⟩
          rcases ih _ _ _ hstep with hout | hmissing | hcyclic | ⟨last, hreach, hkey⟩
          · exact .inl hout
          · exact .inr (.inl (hmissing.head hneeds))
          · exact .inr (.inr (.inl (hcyclic.head hneeds)))
          · rcases mem_cons.1 hkey with hself | hin
            · exact .inr (.inr (.inl ⟨entry, last, .refl, .head' hneeds hreach, hself⟩))
            · exact .inr (.inr (.inr ⟨last, .head hneeds hreach, hin⟩))

theorem visit_rounds {keys : List ι} (hkeys : ∀ id entry, graph.find id = some entry → id ∈ keys)
    (rounds : Nat) (visiting : List ι) (ordered : List ε) (entry : ε)
    (hentry : graph.key entry ∈ keys) (hnodup : visiting.Nodup) (hsub : visiting ⊆ keys)
    (hrounds : keys.length < rounds + visiting.length) :
    visit graph rounds visiting ordered entry ≠ .error .exhausted := by
  induction rounds generalizing visiting ordered entry with
  | zero =>
    have hlength := (hnodup.subperm hsub).length_le
    omega
  | succ rounds ih =>
    intro h
    rw [visit_succ] at h
    split_ifs at h with hdone hvisiting
    · cases h
    · cases hloop : (graph.needs entry).foldlM (step graph rounds (graph.key entry :: visiting))
          ordered with
      | ok middle =>
        rw [hloop] at h
        cases h
      | error other =>
        rw [hloop] at h
        cases h
        obtain ⟨id, hid, before, hstep⟩ := Walk.foldlM_eq_error hloop
        unfold step at hstep
        cases hfind : graph.find id with
        | none =>
          rw [hfind] at hstep
          cases hstep
        | some next =>
          rw [hfind] at hstep
          have hnext : graph.key next ∈ keys := by
            rw [graph.key_find id next hfind]
            exact hkeys id next hfind
          refine ih (graph.key entry :: visiting) before next hnext
            (nodup_cons.2 ⟨hvisiting, hnodup⟩) (cons_subset.2 ⟨hentry, hsub⟩) ?_ hstep
          rw [length_cons]
          omega

/-- The search succeeds exactly where nothing is missing and nothing needs itself. -/
theorem closure_iff {keys : List ι} (hkeys : ∀ id entry, graph.find id = some entry → id ∈ keys)
    (hentry : graph.key entry ∈ keys) (hrounds : keys.length ≤ rounds) :
    (∃ result, visit graph (rounds + 1) [] [] entry = .ok result) ↔
      ¬ Missing graph entry ∧ ¬ Cyclic graph entry := by
  constructor
  · rintro ⟨result, h⟩
    obtain ⟨hnodup, -, hordered, before, rfl⟩ := closure_ok h
    have hlast : entry ∈ before ++ [entry] := mem_append_right _ (mem_singleton.2 rfl)
    exact ⟨not_missing hordered hlast, not_cyclic hordered hnodup hlast⟩
  · rintro ⟨hmissing, hcyclic⟩
    cases hvisit : visit graph (rounds + 1) [] [] entry with
    | ok result => exact ⟨result, rfl⟩
    | error reason =>
      have hreason : reason ≠ .exhausted := by
        rintro rfl
        exact visit_rounds hkeys (rounds + 1) [] [] entry hentry nodup_nil
          (nil_subset _) (by rw [length_nil]; omega) hvisit
      rcases visit_error _ _ _ _ _ hvisit with h | h | h | ⟨other, -, h⟩
      · exact absurd h hreason
      · exact absurd h hmissing
      · exact absurd h hcyclic
      · cases h

end Closures
