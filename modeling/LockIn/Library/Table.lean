import Mathlib.Tactic

/-!
# Tables of keyed rows

A table is a list of rows in the order they were inserted, and `key` reads the
key of a row.  `find` reads the row with a key and `put` writes a row over the
one with its key.  Keys are compared rather than assumed distinct, so the facts
about reading and writing hold of every table; the ones about rows that are only
known to be members need `Distinct`.
-/

namespace Table

open List

variable {ρ κ : Type} (key : ρ → κ)

def Distinct (rows : List ρ) : Prop := (rows.map key).Nodup

section
variable {key} {rows : List ρ} {row old : ρ}

theorem forall_mem_append {p : ρ → Prop} (hold : ∀ r ∈ rows, p r) (hnew : p row) :
    ∀ r ∈ rows ++ [row], p r :=
  List.forall_mem_append.2 ⟨hold, forall_mem_singleton.2 hnew⟩

theorem Distinct.append (h : Distinct key rows) (hnew : ∀ r ∈ rows, key r ≠ key row) :
    Distinct key (rows ++ [row]) := by
  unfold Distinct
  rw [map_append, nodup_append]
  refine ⟨h, nodup_singleton _, ?_⟩
  intro a ha b hb
  obtain ⟨r, hr, rfl⟩ := mem_map.mp ha
  obtain rfl : b = key row := by simpa using hb
  exact hnew r hr

theorem Distinct.eq (h : Distinct key rows) (hr : row ∈ rows) (ho : old ∈ rows)
    (hk : key row = key old) : row = old :=
  inj_on_of_nodup_map h hr ho hk

theorem Distinct.length_filter_le_one (h : Distinct key rows) {p : ρ → Bool}
    (hp : ∀ first ∈ rows, ∀ second ∈ rows, p first = true → p second = true → first = second) :
    (rows.filter p).length ≤ 1 := by
  have hnodup : (rows.filter p).Nodup := (List.Nodup.of_map _ h).filter _
  match hrows : rows.filter p with
  | [] => exact Nat.zero_le 1
  | [_] => exact Nat.le_refl 1
  | first :: second :: rest =>
    have hfirst : first ∈ rows ∧ p first = true := mem_filter.mp (by simp [hrows])
    have hsecond : second ∈ rows ∧ p second = true := mem_filter.mp (by simp [hrows])
    have hsame := hp first hfirst.1 second hsecond.1 hfirst.2 hsecond.2
    rw [hrows, hsame] at hnodup
    exact absurd mem_cons_self (nodup_cons.mp hnodup).1

end

variable [DecidableEq κ]

instance (rows : List ρ) : Decidable (Distinct key rows) :=
  inferInstanceAs (Decidable (rows.map key).Nodup)

def find (rows : List ρ) (k : κ) : Option ρ :=
  rows.find? fun row => key row == k

def put (rows : List ρ) (row : ρ) : List ρ :=
  rows.map fun old => if key old = key row then row else old

variable {key} {rows : List ρ} {row old : ρ} {k : κ}

theorem find_mem (h : find key rows k = some row) : row ∈ rows :=
  mem_of_find?_eq_some h

theorem find_key (h : find key rows k = some row) : key row = k := by
  simpa using find?_some h

theorem find_eq_none : find key rows k = none ↔ ∀ r ∈ rows, key r ≠ k := by
  simp [find]

theorem mem_put : row ∈ put key rows old ↔
    (row = old ∧ ∃ r ∈ rows, key r = key old) ∨ (row ∈ rows ∧ key row ≠ key old) := by
  unfold put
  rw [mem_map]
  constructor
  · rintro ⟨r, hr, rfl⟩
    by_cases h : key r = key old
    · rw [if_pos h]
      exact .inl ⟨rfl, r, hr, h⟩
    · rw [if_neg h]
      exact .inr ⟨hr, h⟩
  · rintro (⟨rfl, r, hr, h⟩ | ⟨hr, h⟩)
    · exact ⟨r, hr, if_pos h⟩
    · exact ⟨row, hr, if_neg h⟩

theorem mem_of_mem_put (h : row ∈ put key rows old) : row = old ∨ row ∈ rows := by
  rcases mem_put.mp h with ⟨h, _⟩ | ⟨h, _⟩
  · exact .inl h
  · exact .inr h

theorem forall_mem_put {p : ρ → Prop} (hold : ∀ r ∈ rows, p r) (hnew : p row) :
    ∀ r ∈ put key rows row, p r := by
  intro r hr
  rcases mem_of_mem_put hr with rfl | hr
  · exact hnew
  · exact hold r hr

theorem mem_put_self (h : find key rows (key row) = some old) : row ∈ put key rows row :=
  mem_put.mpr (.inl ⟨rfl, old, find_mem h, find_key h⟩)

@[simp]
theorem map_key_put (rows : List ρ) (row : ρ) : (put key rows row).map key = rows.map key := by
  unfold put
  rw [map_map]
  refine map_congr_left fun r _ => ?_
  by_cases h : key r = key row
  · simp [h]
  · simp [h]

theorem map_put_eq {σ : Type} (f : ρ → σ) (h : ∀ r ∈ rows, key r = key row → f r = f row) :
    (put key rows row).map f = rows.map f := by
  unfold put
  rw [map_map]
  refine map_congr_left fun r hr => ?_
  by_cases hk : key r = key row
  · simp [hk, h r hr hk]
  · simp [hk]

theorem Distinct.put (h : Distinct key rows) (row : ρ) : Distinct key (put key rows row) := by
  unfold Distinct
  rwa [map_key_put]

theorem Distinct.find (h : Distinct key rows) (hr : row ∈ rows) :
    find key rows (key row) = some row := by
  cases hf : Table.find key rows (key row) with
  | none => exact absurd rfl (find_eq_none.mp hf row hr)
  | some r => rw [h.eq (find_mem hf) hr (find_key hf)]

theorem find_put_self (h : find key rows (key row) = some old) :
    find key (put key rows row) (key row) = some row := by
  induction rows with
  | nil => exact absurd h (by simp [find])
  | cons r rest ih =>
    by_cases hr : key r = key row
    · simp [find, put, hr]
    · have hrest : find key rest (key row) = some old := by simpa [find, hr] using h
      have hstep := ih hrest
      simpa [find, put, hr] using hstep

theorem find_put_of_ne (h : k ≠ key row) : find key (put key rows row) k = find key rows k := by
  induction rows with
  | nil => rfl
  | cons r rest ih =>
    by_cases hr : key r = key row
    · have hk : (key row == k) = false := beq_false_of_ne h.symm
      simpa [find, put, hr, hk] using ih
    · by_cases hk : key r = k
      · subst hk
        simp [find, put, hr]
      · simpa [find, put, hr, hk] using ih

theorem find_append (rows new : List ρ) (k : κ) :
    find key (rows ++ new) k = (find key rows k).or (find key new k) := by
  simp [find, find?_append]

theorem find_map {f : ρ → ρ} (hf : ∀ r ∈ rows, key (f r) = key r) (k : κ) :
    find key (rows.map f) k = (find key rows k).map f := by
  induction rows with
  | nil => rfl
  | cons r rest ih =>
    have hr := hf r mem_cons_self
    have hrest := ih fun r' hr' => hf r' (mem_cons_of_mem _ hr')
    by_cases hk : key r = k
    · simp [find, hr, hk]
    · have hne : (key r == k) = false := beq_false_of_ne hk
      simpa [find, hr, hne] using hrest

theorem put_of_not_mem (h : ∀ r ∈ rows, key r ≠ key row) : put key rows row = rows := by
  induction rows with
  | nil => rfl
  | cons r rest ih =>
    have hr : key r ≠ key row := h r (by simp)
    have hrest : put key rest row = rest := ih fun r' hr' => h r' (by simp [hr'])
    have hstep : put key (r :: rest) row = r :: put key rest row := by simp [put, hr]
    rw [hstep, hrest]

theorem put_append_new (h : ∀ r ∈ rows, key r ≠ key row) (hk : key old = key row) :
    put key (rows ++ [old]) row = rows ++ [row] := by
  have hsplit : put key (rows ++ [old]) row = put key rows row ++ put key [old] row :=
    map_append
  have hnew : put key [old] row = [row] := by simp [put, hk]
  rw [hsplit, put_of_not_mem h, hnew]

theorem put_put (h : key old = key row) : put key (put key rows old) row = put key rows row := by
  unfold put
  rw [map_map]
  refine map_congr_left fun r _ => ?_
  by_cases hr : key r = key row
  · simp [h, hr]
  · simp [h, hr]

theorem filter_put {p : ρ → Bool} (h : ∀ r ∈ rows, key r = key row → p r = p row) :
    (put key rows row).filter p = put key (rows.filter p) row := by
  induction rows with
  | nil => rfl
  | cons r rest ih =>
    have hrest := ih fun r' hr' => h r' (mem_cons_of_mem _ hr')
    have hr := h r mem_cons_self
    unfold put at hrest ⊢
    by_cases hk : key r = key row
    · have hp := hr hk
      cases hrow : p row with
      | false => simp [hk, hp, hrow, hrest]
      | true => simp [hk, hp, hrow, hrest]
    · cases hp : p r with
      | false => simp [hk, hp, hrest]
      | true => simp [hk, hp, hrest]

theorem length_filter_put {p : ρ → Bool} (hd : Distinct key rows) (ho : old ∈ rows)
    (hk : key old = key row) (hold : p old = false) (hnew : p row = true) :
    ((put key rows row).filter p).length = (rows.filter p).length + 1 := by
  induction rows with
  | nil => exact absurd ho not_mem_nil
  | cons r rest ih =>
    obtain ⟨hfirst, hrest⟩ := nodup_cons.mp hd
    rcases mem_cons.mp ho with rfl | ho
    · have hout : ∀ r' ∈ rest, key r' ≠ key row := by
        intro r' hr' heq
        exact hfirst (hk ▸ heq ▸ mem_map_of_mem hr')
      have hsame : put key (old :: rest) row = row :: put key rest row := by simp [put, hk]
      rw [hsame, put_of_not_mem hout, filter_cons_of_pos hnew, length_cons,
        filter_cons_of_neg (by simp [hold])]
    · have hne : key r ≠ key row := by
        intro heq
        exact hfirst (heq ▸ hk ▸ mem_map_of_mem ho)
      have hsame : put key (r :: rest) row = r :: put key rest row := by simp [put, hne]
      have hstep := ih hrest ho
      rw [hsame]
      cases hp : p r with
      | false =>
        rw [filter_cons_of_neg (by simp [hp]), filter_cons_of_neg (by simp [hp])]
        exact hstep
      | true =>
        rw [filter_cons_of_pos hp, filter_cons_of_pos hp, length_cons,
          length_cons, hstep]

/-- The first row that satisfies `p` is still the first one after it is written, if it
still satisfies `p`. -/
theorem Distinct.find?_put (h : Distinct key rows) {p : ρ → Bool} (hf : rows.find? p = some old)
    (hk : key row = key old) (hrow : p row = true) : (Table.put key rows row).find? p = some row := by
  induction rows with
  | nil => simp at hf
  | cons r rest ih =>
    have hnodup := nodup_cons.mp h
    by_cases hr : p r = true
    · obtain rfl : r = old := by simpa [hr] using hf
      simp [Table.put, hk, hrow]
    · have hrest : rest.find? p = some old := by simpa [hr] using hf
      have hne : key r ≠ key row := by
        intro e
        exact hnodup.1 (mem_map.mpr
          ⟨old, mem_of_find?_eq_some hrest, (e.trans hk).symm⟩)
      have hstep := ih hnodup.2 hrest
      simpa [Table.put, hne, hr] using hstep

theorem Distinct.count_filter (h : Distinct key rows) (p : ρ → Bool) (hr : row ∈ rows) :
    ((rows.filter p).map key).count (key row) = if p row then 1 else 0 := by
  have hnodup : ((rows.filter p).map key).Nodup := h.sublist (filter_sublist.map key)
  by_cases hp : p row = true
  · rw [if_pos hp]
    exact count_eq_one_of_mem hnodup (mem_map_of_mem (mem_filter.mpr ⟨hr, hp⟩))
  · rw [if_neg hp]
    apply count_eq_zero_of_not_mem
    intro hmem
    obtain ⟨other, hother, hkey⟩ := mem_map.mp hmem
    obtain ⟨hin, hpother⟩ := mem_filter.mp hother
    rw [h.eq hin hr hkey] at hpother
    exact hp hpother

theorem Distinct.sum_put (h : Distinct key rows) (f : ρ → Nat)
    (hf : Table.find key rows (key row) = some old) :
    ((Table.put key rows row).map f).sum + f old = (rows.map f).sum + f row := by
  induction rows with
  | nil => exact absurd hf (by simp [Table.find])
  | cons r rest ih =>
    have hnodup := nodup_cons.mp h
    by_cases hr : key r = key row
    · obtain rfl : r = old := by simpa [Table.find, hr] using hf
      have habsent : ∀ r' ∈ rest, key r' ≠ key row := by
        intro r' hr' e
        exact hnodup.1 (mem_map.mpr ⟨r', hr', e.trans hr.symm⟩)
      have hput : Table.put key (r :: rest) row = row :: Table.put key rest row := by
        simp [Table.put, hr]
      rw [hput, put_of_not_mem habsent]
      simp only [map_cons, sum_cons]
      omega
    · have hput : Table.put key (r :: rest) row = r :: Table.put key rest row := by
        simp [Table.put, hr]
      have hstep := ih hnodup.2 (by simpa [Table.find, hr] using hf)
      rw [hput]
      simp only [map_cons, sum_cons]
      omega

end Table
