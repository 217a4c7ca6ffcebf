import LockIn.Library.Table

/-!
# Dictionaries

A dictionary is a list of entries in the order their keys were first set, with one entry for
each key.  Setting a key that is there changes its value in place.
-/

namespace Dictionary

open List Table

variable {κ ν : Type}

def keys (entries : List (κ × ν)) : List κ := entries.map Prod.fst

variable [DecidableEq κ]

def get (entries : List (κ × ν)) (key : κ) : Option ν :=
  (Table.find Prod.fst entries key).map Prod.snd

def set (entries : List (κ × ν)) (key : κ) (value : ν) : List (κ × ν) :=
  if key ∈ keys entries then Table.put Prod.fst entries (key, value)
  else entries ++ [(key, value)]

def delete (entries : List (κ × ν)) (key : κ) : List (κ × ν) :=
  entries.filter (·.1 ≠ key)

def ofList (pairs : List (κ × ν)) : List (κ × ν) :=
  pairs.foldl (fun entries pair => set entries pair.1 pair.2) []

variable {entries : List (κ × ν)} {key k : κ} {value : ν}

theorem mem_of_get (h : get entries key = some value) : (key, value) ∈ entries := by
  obtain ⟨⟨found, held⟩, hfind, rfl⟩ := Option.map_eq_some_iff.mp h
  have hkey : found = key := find_key hfind
  rw [← hkey]
  exact find_mem hfind

theorem get_of_mem (h : (keys entries).Nodup) (hmem : (key, value) ∈ entries) :
    get entries key = some value := by
  have hfind : Table.find Prod.fst entries key = some (key, value) := Table.Distinct.find h hmem
  rw [get, hfind]
  rfl

theorem get_eq_none : get entries key = none ↔ key ∉ keys entries := by
  unfold get keys
  rw [Option.map_eq_none_iff, find_eq_none, mem_map, not_exists]
  exact forall_congr' fun entry => not_and.symm

theorem mem_keys_of_get (h : get entries key = some value) : key ∈ keys entries :=
  mem_map_of_mem (f := Prod.fst) (mem_of_get h)

@[simp]
theorem mem_keys_set : k ∈ keys (set entries key value) ↔ k = key ∨ k ∈ keys entries := by
  unfold set
  by_cases hin : key ∈ keys entries
  · rw [if_pos hin]
    have hsame : keys (Table.put Prod.fst entries (key, value)) = keys entries :=
      map_key_put entries (key, value)
    rw [hsame]
    exact ⟨.inr, fun h => h.elim (fun heq => heq ▸ hin) id⟩
  · rw [if_neg hin]
    unfold keys
    rw [map_append, mem_append, map_singleton, mem_singleton, or_comm]

@[simp]
theorem mem_keys_delete : k ∈ keys (delete entries key) ↔ k ∈ keys entries ∧ k ≠ key := by
  unfold keys delete
  simp only [mem_map, mem_filter, decide_eq_true_eq]
  constructor
  · rintro ⟨entry, ⟨hmem, hne⟩, rfl⟩
    exact ⟨⟨entry, hmem, rfl⟩, hne⟩
  · rintro ⟨⟨entry, hmem, rfl⟩, hne⟩
    exact ⟨entry, ⟨hmem, hne⟩, rfl⟩

theorem get_set (entries : List (κ × ν)) (key k : κ) (value : ν) :
    get (set entries key value) k = if k = key then some value else get entries k := by
  unfold get set
  by_cases hin : key ∈ keys entries
  · rw [if_pos hin]
    by_cases hk : k = key
    · subst hk
      obtain ⟨entry, hentry, hkey⟩ := mem_map.mp hin
      cases hfind : Table.find Prod.fst entries k with
      | none => exact absurd hkey (find_eq_none.mp hfind entry hentry)
      | some old =>
        have hself : Table.find Prod.fst (Table.put Prod.fst entries (k, value)) k = some (k, value) :=
          find_put_self hfind
        rw [hself, if_pos rfl]
        rfl
    · rw [if_neg hk, find_put_of_ne hk]
  · have hnone : Table.find Prod.fst entries key = none :=
      find_eq_none.mpr fun entry hentry heq => hin (mem_map.mpr ⟨entry, hentry, heq⟩)
    rw [if_neg hin, find_append]
    by_cases hk : k = key
    · subst hk
      rw [hnone, if_pos rfl]
      simp [Table.find]
    · have hother : Table.find Prod.fst [(key, value)] k = none :=
        find_eq_none.mpr (by simp [Ne.symm hk])
      rw [hother, if_neg hk, Option.or_none]

theorem get_map {ρ : Type} (change : ν → ρ) (entries : List (κ × ν)) (key : κ) :
    get (entries.map fun entry => (entry.1, change entry.2)) key = (get entries key).map change := by
  unfold get Table.find
  rw [find?_map, Option.map_map, Option.map_map]
  rfl

theorem get_delete (entries : List (κ × ν)) (key k : κ) :
    get (delete entries key) k = if k = key then none else get entries k := by
  by_cases hk : k = key
  · rw [if_pos hk, get_eq_none, mem_keys_delete]
    exact fun h => h.2 hk
  · rw [if_neg hk]
    unfold get delete Table.find
    rw [find?_filter]
    congr 2
    funext entry
    by_cases hentry : entry.1 = k
    · simp [hentry, hk]
    · simp [hentry]

theorem nodup_set (h : (keys entries).Nodup) : (keys (set entries key value)).Nodup := by
  unfold set
  by_cases hin : key ∈ keys entries
  · rw [if_pos hin]
    exact Table.Distinct.put h (key, value)
  · rw [if_neg hin]
    refine Table.Distinct.append h fun entry hentry heq => hin ?_
    exact mem_map.mpr ⟨entry, hentry, heq⟩

theorem nodup_delete (h : (keys entries).Nodup) : (keys (delete entries key)).Nodup :=
  h.sublist (filter_sublist.map Prod.fst)

theorem mem_of_mem_set {entry : κ × ν} (h : entry ∈ set entries key value) :
    entry = (key, value) ∨ entry ∈ entries := by
  unfold set at h
  split at h
  · exact mem_of_mem_put h
  · rcases mem_append.mp h with hold | hone
    · exact .inr hold
    · exact .inl (mem_singleton.mp hone)

private theorem mem_keys_foldl (pairs : List (κ × ν)) (entries : List (κ × ν)) :
    k ∈ keys (pairs.foldl (fun entries pair => set entries pair.1 pair.2) entries) ↔
      k ∈ keys pairs ∨ k ∈ keys entries := by
  induction pairs generalizing entries with
  | nil => simp [keys]
  | cons pair rest ih =>
    rw [foldl_cons, ih, mem_keys_set]
    have hcons : k ∈ keys (pair :: rest) ↔ k = pair.1 ∨ k ∈ keys rest := by simp [keys]
    rw [hcons]
    tauto

@[simp]
theorem mem_keys_ofList {pairs : List (κ × ν)} : k ∈ keys (ofList pairs) ↔ k ∈ keys pairs := by
  unfold ofList
  rw [mem_keys_foldl]
  simp [keys]

theorem nodup_ofList (pairs : List (κ × ν)) : (keys (ofList pairs)).Nodup := by
  have hfold : ∀ (pairs entries : List (κ × ν)), (keys entries).Nodup →
      (keys (pairs.foldl (fun entries pair => set entries pair.1 pair.2) entries)).Nodup := by
    intro pairs
    induction pairs with
    | nil => exact fun _ h => h
    | cons pair rest ih => exact fun _ h => ih _ (nodup_set h)
  exact hfold pairs [] nodup_nil

theorem mem_of_mem_ofList {pairs : List (κ × ν)} {entry : κ × ν} (h : entry ∈ ofList pairs) :
    entry ∈ pairs := by
  have hfold : ∀ (pairs entries : List (κ × ν)),
      entry ∈ pairs.foldl (fun entries pair => set entries pair.1 pair.2) entries →
        entry ∈ pairs ∨ entry ∈ entries := by
    intro pairs
    induction pairs with
    | nil => exact fun _ h => .inr h
    | cons pair rest ih =>
      intro entries h
      rcases ih _ h with hrest | hset
      · exact .inl (mem_cons_of_mem _ hrest)
      · rcases mem_of_mem_set hset with rfl | hold
        · exact .inl mem_cons_self
        · exact .inr hold
  exact (hfold pairs [] h).resolve_right not_mem_nil

theorem set_of_not_mem (h : key ∉ keys entries) :
    set entries key value = entries ++ [(key, value)] :=
  if_neg h

theorem ofList_of_nodup {pairs : List (κ × ν)} (h : (keys pairs).Nodup) : ofList pairs = pairs := by
  have hfold : ∀ (pairs entries : List (κ × ν)), (keys (entries ++ pairs)).Nodup →
      pairs.foldl (fun entries pair => set entries pair.1 pair.2) entries = entries ++ pairs := by
    intro pairs
    induction pairs with
    | nil => exact fun entries _ => (append_nil entries).symm
    | cons pair rest ih =>
      intro entries hnodup
      have hnew : pair.1 ∉ keys entries := by
        unfold keys at hnodup ⊢
        rw [map_append, nodup_append] at hnodup
        exact fun hin => hnodup.2.2 pair.1 hin pair.1 (by simp) rfl
      have hsplit : entries ++ pair :: rest = entries ++ [(pair.1, pair.2)] ++ rest := by simp
      rw [foldl_cons, set_of_not_mem hnew, hsplit]
      rw [hsplit] at hnodup
      exact ih _ hnodup
  exact hfold pairs [] h

theorem get_ofList_map {ρ : Type} {key : ρ → κ} {rows : List ρ} (h : Table.Distinct key rows)
    (value : ρ → ν) (k : κ) :
    get (ofList (rows.map fun row => (key row, value row))) k =
      (Table.find key rows k).map value := by
  have hkeys : (keys (rows.map fun row => (key row, value row))).Nodup := by
    unfold keys
    rw [map_map]
    exact h
  rw [ofList_of_nodup hkeys]
  unfold get Table.find
  rw [find?_map, Option.map_map]
  rfl

/-- How often each key occurs, in the order of the first occurrences. -/
def tally (keys : List κ) : List (κ × Nat) :=
  keys.foldl (fun counts key => set counts key ((get counts key).getD 0 + 1)) []

theorem mem_keys_tally {list : List κ} : key ∈ keys (tally list) ↔ key ∈ list := by
  have hfold (counts : List (κ × Nat)) :
      key ∈ keys (list.foldl (fun counts key =>
          set counts key ((get counts key).getD 0 + 1)) counts) ↔
        key ∈ keys counts ∨ key ∈ list := by
    induction list generalizing counts with
    | nil => simp
    | cons first rest ih =>
      rw [foldl_cons, ih, mem_keys_set, mem_cons]
      tauto
  rw [tally, hfold]
  exact or_iff_right (not_mem_nil)

section
variable {ρ : Type} [DecidableEq ρ] {rename : κ → ρ}

def renamed (rename : κ → ρ) (entries : List (κ × ν)) : List (ρ × ν) :=
  entries.map fun entry => (rename entry.1, entry.2)

theorem get_renamed (hinj : Function.Injective rename) (entries : List (κ × ν)) (key : κ) :
    get (renamed rename entries) (rename key) = get entries key := by
  unfold get renamed Table.find
  rw [find?_map, Option.map_map]
  have hkey : ((fun entry : ρ × ν => entry.1 == rename key) ∘
      fun entry : κ × ν => (rename entry.1, entry.2)) = fun entry => entry.1 == key := by
    funext entry
    simp [hinj.eq_iff]
  rw [hkey]
  rfl

theorem set_renamed (hinj : Function.Injective rename) (entries : List (κ × ν)) (key : κ)
    (value : ν) :
    set (renamed rename entries) (rename key) value = renamed rename (set entries key value) := by
  have hkeys : rename key ∈ keys (renamed rename entries) ↔ key ∈ keys entries := by
    have hmap : keys (renamed rename entries) = (keys entries).map rename := by
      unfold keys renamed
      rw [map_map, map_map]
      rfl
    rw [hmap, mem_map_of_injective hinj]
  unfold set
  rw [if_congr hkeys rfl rfl]
  split_ifs with hin
  · unfold renamed Table.put
    rw [map_map, map_map]
    refine map_congr_left fun entry _ => ?_
    by_cases hkey : entry.1 = key
    · simp [hkey]
    · simp [hkey, hinj.eq_iff]
  · simp [renamed]

theorem tally_map (hinj : Function.Injective rename) (keys : List κ) :
    tally (keys.map rename) = renamed rename (tally keys) := by
  unfold tally
  rw [foldl_map]
  have hfold (counts : List (κ × Nat)) :
      keys.foldl (fun counts key =>
          set counts (rename key) ((get counts (rename key)).getD 0 + 1)) (renamed rename counts) =
        renamed rename (keys.foldl (fun counts key =>
          set counts key ((get counts key).getD 0 + 1)) counts) := by
    induction keys generalizing counts with
    | nil => rfl
    | cons key rest ih =>
      rw [foldl_cons, foldl_cons, get_renamed hinj, set_renamed hinj, ih]
  exact hfold []

end

end Dictionary
