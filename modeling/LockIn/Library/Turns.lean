import Mathlib.Tactic

/-!
# Taking turns

Sources give their items in rounds, one item a round and in the order of the sources.  A source
gives in the rounds below its size, so the rounds get shorter as sources run out.  Who wants a
number of items stops as soon as they are collected; who wants fewer than there are sources asks
that many of them, spread over all.
-/

namespace Turns

open List

variable {ρ σ κ : Type} (pick : Nat → ρ → Option σ)

def rounds (count : Nat) (sources : List ρ) : List σ :=
  (List.range count).flatMap fun round => sources.filterMap (pick round)

structure Keyed (name : ρ → κ) (size : ρ → Nat) (key : σ → κ × Nat) : Prop where
  gives : ∀ round source, (pick round source).isSome ↔ round < size source
  keys : ∀ {round source item}, pick round source = some item → key item = (name source, round)

variable {pick} {name : ρ → κ} {size : ρ → Nat} {key : σ → κ × Nat} {count : Nat}
  {sources : List ρ}

theorem rounds_succ (count : Nat) (sources : List ρ) :
    rounds pick (count + 1) sources =
      rounds pick count sources ++ sources.filterMap (pick count) := by
  unfold rounds
  rw [range_succ, flatMap_append]
  simp

theorem mem_rounds {item : σ} : item ∈ rounds pick count sources ↔
    ∃ source ∈ sources, ∃ round < count, pick round source = some item := by
  unfold rounds
  simp only [mem_flatMap, mem_range, mem_filterMap]
  constructor
  · rintro ⟨round, hround, source, hsource, hitem⟩
    exact ⟨source, hsource, round, hround, hitem⟩
  · rintro ⟨source, hsource, round, hround, hitem⟩
    exact ⟨round, hround, source, hsource, hitem⟩

theorem Keyed.keys_round (h : Keyed pick name size key) (round : Nat) (sources : List ρ) :
    (sources.filterMap (pick round)).map key =
      (sources.filter (round < size ·)).map fun source => (name source, round) := by
  induction sources with
  | nil => rfl
  | cons source rest ih =>
    by_cases hgives : round < size source
    · obtain ⟨item, hitem⟩ := Option.isSome_iff_exists.mp ((h.gives round source).mpr hgives)
      rw [filterMap_cons_some hitem, filter_cons_of_pos (by simpa using hgives),
        map_cons, map_cons, ih, h.keys hitem]
    · have hnone : pick round source = none := by
        rw [← Option.not_isSome_iff_eq_none, h.gives]
        exact hgives
      rw [filterMap_cons_none hnone, filter_cons_of_neg (by simpa using hgives), ih]

theorem sum_min_succ (size : ρ → Nat) (round : Nat) (sources : List ρ) :
    (sources.map fun source => min (round + 1) (size source)).sum =
      (sources.map fun source => min round (size source)).sum +
        (sources.filter (round < size ·)).length := by
  induction sources with
  | nil => rfl
  | cons source rest ih =>
    rw [map_cons, sum_cons, map_cons, sum_cons, ih]
    by_cases hgives : round < size source
    · rw [filter_cons_of_pos (by simpa using hgives), length_cons]
      omega
    · rw [filter_cons_of_neg (by simpa using hgives)]
      omega

theorem Keyed.length_rounds (h : Keyed pick name size key) (count : Nat) (sources : List ρ) :
    (rounds pick count sources).length =
      (sources.map fun source => min count (size source)).sum := by
  induction count with
  | zero => simp [rounds]
  | succ count ih =>
    have hround := congrArg List.length (h.keys_round count sources)
    rw [length_map, length_map] at hround
    rw [rounds_succ, length_append, ih, sum_min_succ, hround]

theorem Keyed.nodup_rounds (h : Keyed pick name size key) (hnames : (sources.map name).Nodup)
    (count : Nat) : ((rounds pick count sources).map key).Nodup := by
  induction count with
  | zero => exact nodup_nil
  | succ count ih =>
    rw [rounds_succ, map_append, nodup_append]
    refine ⟨ih, ?_, ?_⟩
    · rw [h.keys_round]
      have hsources : (sources.map fun source => (name source, count)).Nodup := by
        have hpairs : sources.map (fun source => (name source, count)) =
            (sources.map name).map fun name => (name, count) := by
          rw [map_map]
          rfl
        rw [hpairs]
        exact hnames.map fun _ _ heq => (Prod.mk.inj heq).1
      exact hsources.sublist (filter_sublist.map _)
    · -- The rounds before are numbered lower.
      intro first hfirst second hsecond
      obtain ⟨item, hitem, rfl⟩ := mem_map.mp hfirst
      obtain ⟨source, _, round, hround, hpick⟩ := mem_rounds.mp hitem
      rw [h.keys_round] at hsecond
      obtain ⟨other, _, rfl⟩ := mem_map.mp hsecond
      rw [h.keys hpick]
      intro heq
      have hsame := (Prod.mk.inj heq).2
      omega

theorem Keyed.pairwise_rounds (h : Keyed pick name size key) (count : Nat) (sources : List ρ) :
    (rounds pick count sources).Pairwise fun first second => (key first).2 ≤ (key second).2 := by
  induction count with
  | zero => exact List.Pairwise.nil
  | succ count ih =>
    have hlast : ∀ item ∈ sources.filterMap (pick count), (key item).2 = count := by
      intro item hitem
      obtain ⟨source, _, hpick⟩ := mem_filterMap.mp hitem
      rw [h.keys hpick]
    rw [rounds_succ, pairwise_append]
    refine ⟨ih, pairwise_of_forall_mem_list ?_, ?_⟩
    · intro first hfirst second hsecond
      rw [hlast first hfirst, hlast second hsecond]
    · intro first hfirst second hsecond
      obtain ⟨source, _, round, hround, hpick⟩ := mem_rounds.mp hfirst
      rw [h.keys hpick, hlast second hsecond]
      exact Nat.le_of_lt hround

theorem Keyed.earlier (h : Keyed pick name size key) {index round : Nat} {item : σ} {source : ρ}
    (hitem : (rounds pick count sources)[index]? = some item) (hround : (key item).2 = round + 1)
    (hsource : source ∈ sources) (hgives : round < size source) :
    ∃ earlier < index, ∃ other, (rounds pick count sources)[earlier]? = some other ∧
      key other = (name source, round) := by
  obtain ⟨other, hother⟩ := Option.isSome_iff_exists.mp ((h.gives round source).mpr hgives)
  obtain ⟨_, _, place, hplace, hpick⟩ := mem_rounds.mp (mem_of_getElem? hitem)
  have hlater : place = round + 1 := by
    rw [← hround, h.keys hpick]
  have hmem : other ∈ rounds pick count sources :=
    mem_rounds.mpr ⟨source, hsource, round, by omega, hother⟩
  obtain ⟨earlier, hearlier⟩ := mem_iff_getElem?.mp hmem
  have hkey := h.keys hother
  refine ⟨earlier, ?_, other, hearlier, hkey⟩
  by_contra hafter
  rcases Nat.lt_or_ge index earlier with hlt | hge
  · obtain ⟨hindexLt, hindex⟩ := List.getElem?_eq_some_iff.mp hitem
    obtain ⟨hearlierLt, hfound⟩ := List.getElem?_eq_some_iff.mp hearlier
    have hle := pairwise_iff_getElem.mp (h.pairwise_rounds count sources) index earlier
      hindexLt hearlierLt hlt
    rw [hindex, hfound, hround, hkey] at hle
    exact absurd hle (Nat.not_succ_le_self round)
  · have hsame : earlier = index := by omega
    rw [hsame, hitem] at hearlier
    cases hearlier
    rw [hkey] at hround
    exact absurd hround (Nat.succ_ne_self round).symm

theorem first_round (hcount : 0 < count) (sources : List ρ) :
    sources.filterMap (pick 0) <+: rounds pick count sources := by
  obtain ⟨more, rfl⟩ := Nat.exists_eq_succ_of_ne_zero (Nat.ne_of_gt hcount)
  unfold rounds
  rw [range_succ_eq_map, flatMap_cons]
  exact prefix_append _ _

/-! ## Until there are enough

The two loops of a program that collects the items: `.error` carries what was collected when it
returned from within. -/

variable (pick)

def passOver (enough round : Nat) : List ρ → List σ → Except (List σ) (List σ)
  | [], collected => .ok collected
  | source :: rest, collected =>
    match pick round source with
    | none => passOver enough round rest collected
    | some item =>
      if (collected ++ [item]).length = enough then .error (collected ++ [item])
      else passOver enough round rest (collected ++ [item])

def collect (enough count : Nat) (sources : List ρ) : List σ :=
  match (List.range count).foldlM
      (fun collected round => passOver pick enough round sources collected) [] with
  | .ok collected => collected
  | .error collected => collected

variable {pick}

theorem passOver_eq {enough round : Nat} {collected : List σ} (h : collected.length < enough) :
    passOver pick enough round sources collected =
      if enough ≤ (collected ++ sources.filterMap (pick round)).length then
        .error ((collected ++ sources.filterMap (pick round)).take enough)
      else .ok (collected ++ sources.filterMap (pick round)) := by
  induction sources generalizing collected with
  | nil =>
    unfold passOver
    rw [filterMap_nil, append_nil, if_neg (by omega)]
  | cons source rest ih =>
    unfold passOver
    cases hpick : pick round source with
    | none =>
      rw [filterMap_cons_none hpick]
      exact ih h
    | some item =>
      rw [filterMap_cons_some hpick, append_cons]
      simp only
      by_cases hfull : (collected ++ [item]).length = enough
      · rw [if_pos hfull, length_append, if_pos (by omega), take_left' hfull]
      · rw [if_neg hfull]
        refine ih ?_
        rw [length_append, length_singleton] at hfull ⊢
        omega

theorem collect_eq {enough : Nat} (h : 0 < enough) (count : Nat) (sources : List ρ) :
    collect pick enough count sources = (rounds pick count sources).take enough := by
  have hloop : (List.range count).foldlM
      (fun collected round => passOver pick enough round sources collected) [] =
        if enough ≤ (rounds pick count sources).length then
          .error ((rounds pick count sources).take enough)
        else .ok (rounds pick count sources) := by
    induction count with
    | zero =>
      show Except.ok [] = _
      have hnone : ¬enough ≤ (rounds pick 0 sources).length := Nat.not_le.mpr h
      rw [if_neg hnone]
      rfl
    | succ count ih =>
      rw [range_succ, foldlM_append, ih, rounds_succ]
      by_cases hfull : enough ≤ (rounds pick count sources).length
      · have hlength := @length_append _ (rounds pick count sources)
          (sources.filterMap (pick count))
        rw [if_pos hfull, if_pos (by omega), take_append_of_le_length hfull]
        rfl
      · rw [if_neg hfull]
        show passOver pick enough count sources (rounds pick count sources) >>= pure = _
        rw [bind_pure]
        exact passOver_eq (Nat.lt_of_not_le hfull)
  unfold collect
  rw [hloop]
  split
  · next collected hcollected =>
    split at hcollected
    · cases hcollected
    · next hfew =>
      cases hcollected
      rw [take_of_length_le (Nat.le_of_lt (Nat.lt_of_not_le hfew))]
  · next collected hcollected =>
    split at hcollected
    · cases hcollected
      rfl
    · cases hcollected

def spread (sources : List ρ) (count : Nat) : List ρ :=
  (List.range count).filterMap fun index => sources[index * sources.length / count]?

theorem map_some_filterMap {α β : Type} {f : α → Option β} {items : List α}
    (h : ∀ item ∈ items, (f item).isSome) : (items.filterMap f).map some = items.map f := by
  induction items with
  | nil => rfl
  | cons item rest ih =>
    obtain ⟨value, hvalue⟩ := Option.isSome_iff_exists.mp (h item mem_cons_self)
    rw [filterMap_cons_some hvalue, map_cons, map_cons, hvalue,
      ih fun other hother => h other (mem_cons_of_mem _ hother)]

theorem place_strictMono {length count : Nat} (hcount : 0 < count) (hle : count ≤ length) :
    StrictMono fun index : Nat => index * length / count := by
  apply strictMono_nat_of_lt_succ
  intro index
  have hstep : index * length + count ≤ (index + 1) * length := by
    rw [Nat.succ_mul]
    omega
  calc index * length / count < index * length / count + 1 := Nat.lt_succ_self _
    _ = (index * length + count) / count := (Nat.add_div_right _ hcount).symm
    _ ≤ (index + 1) * length / count := Nat.div_le_div_right hstep

theorem place_lt {length count index : Nat} (hle : count ≤ length) (hindex : index < count) :
    index * length / count < length := by
  rw [Nat.div_lt_iff_lt_mul (by omega), Nat.mul_comm length]
  exact Nat.mul_lt_mul_of_pos_right hindex (by omega)

theorem map_some_spread (hle : count ≤ sources.length) :
    (spread sources count).map some =
      (List.range count).map fun index => sources[index * sources.length / count]? := by
  apply map_some_filterMap
  intro index hindex
  rw [getElem?_eq_getElem (place_lt hle (mem_range.mp hindex))]
  rfl

theorem length_spread (hle : count ≤ sources.length) : (spread sources count).length = count := by
  have hlength := congrArg List.length (map_some_spread hle)
  rwa [length_map, length_map, length_range] at hlength

theorem spread_sublist (hcount : 0 < count) (hle : count ≤ sources.length) :
    (spread sources count).Sublist sources := by
  rw [sublist_iff_exists_orderEmbedding_getElem?_eq]
  refine ⟨OrderEmbedding.ofStrictMono _ (place_strictMono hcount hle), ?_⟩
  intro index
  show _ = sources[index * sources.length / count]?
  rcases Nat.lt_or_ge index count with hin | hout
  · have hsome := congrArg (·[index]?) (map_some_spread hle)
    simp only [getElem?_map, getElem?_range hin, Option.map_some] at hsome
    cases hfound : (spread sources count)[index]? with
    | none =>
      rw [hfound] at hsome
      cases hsome
    | some source =>
      rw [hfound] at hsome
      exact Option.some.inj hsome
  · have hbeyond : sources.length ≤ index * sources.length / count := by
      rw [Nat.le_div_iff_mul_le hcount, Nat.mul_comm]
      exact Nat.mul_le_mul_right _ hout
    rw [getElem?_eq_none (by rw [length_spread hle]; exact hout),
      getElem?_eq_none hbeyond]

end Turns
