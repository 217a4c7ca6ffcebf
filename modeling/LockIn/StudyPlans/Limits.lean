import LockIn.StudyPlans.Plans

/-!
# Limits of a study plan

Every call keeps each day within 480 minutes and 48 sessions.  Minutes and sessions are counted
alike, as the total of a weight over the items of a day.  A generated week is the previewed one,
and the sessions that a preview gives a day in the normal mode use up the minutes of the profile.
-/

namespace LockIn.StudyPlans

open List Table

variable {token : Canonical → Nat} {planner next : Planner} {items rows : List Item} {item old new : Item}
  {day minutes id start : Nat} {moment : Moment} {profile : Profile} {preview : Preview}

section
variable {total session : Nat}

theorem durations_mem (total : Nat) (h : 5 ≤ session) : ∀ minutes ∈ durations total session,
    5 ≤ minutes ∧ minutes < session + 5 := by
  intro minutes hmem
  unfold durations at hmem
  simp only at hmem
  have hrest := Nat.mod_lt total (by omega : 0 < session)
  split at hmem
  · rename_i hlong
    rcases mem_append.1 hmem with hfull | hlast
    · have heq := eq_of_mem_replicate hfull
      omega
    · have heq := mem_singleton.1 hlast
      omega
  · rename_i hshort
    split at hmem
    · rcases mem_append.1 hmem with hfull | hlast
      · have heq := eq_of_mem_replicate (mem_of_mem_dropLast hfull)
        omega
      · have heq := mem_singleton.1 hlast
        omega
    · have heq := eq_of_mem_replicate hmem
      omega

theorem durations_of_short (h : 5 ≤ session) (hshort : total < 5) : durations total session = [] := by
  have hquotient : total / session = 0 := Nat.div_eq_of_lt (by omega)
  have hrest : total % session = total := Nat.mod_eq_of_lt (by omega)
  unfold durations
  rw [hquotient, hrest]
  simp [hshort]

theorem durations_sum (h : 5 ≤ session) (hlong : 5 ≤ total) : (durations total session).sum = total := by
  have hsplit := Nat.div_add_mod total session
  have hrest := Nat.mod_lt total (by omega : 0 < session)
  unfold durations
  simp only
  split
  · rw [sum_append, sum_replicate, sum_singleton, smul_eq_mul, Nat.mul_comm]
    exact hsplit
  · split
    · rename_i hfull
      have hpos : 0 < total / session := by
        by_contra hnone
        rw [Nat.eq_zero_of_not_pos hnone] at hfull
        exact hfull.2 rfl
      obtain ⟨before, hbefore⟩ := Nat.exists_eq_succ_of_ne_zero hpos.ne'
      rw [hbefore, dropLast_replicate, sum_append, sum_replicate, sum_singleton,
        smul_eq_mul, Nat.succ_sub_one]
      rw [hbefore, Nat.mul_succ, Nat.mul_comm] at hsplit
      omega
    · rename_i hlast
      rw [sum_replicate, smul_eq_mul, Nat.mul_comm]
      by_cases hnone : total % session = 0
      · omega
      · have hempty : List.replicate (total / session) session = [] := by
          by_contra hfull
          exact hlast ⟨hnone, hfull⟩
        have hzero : total / session = 0 := replicate_eq_nil_iff _ |>.1 hempty
        rw [hzero] at hsplit
        omega

theorem durations_length (total : Nat) (h : 5 ≤ session) : 5 * (durations total session).length ≤ total := by
  by_cases hshort : total < 5
  · rw [durations_of_short h hshort]
    simp
  · have hsum := durations_sum h (by omega : 5 ≤ total)
    have hbound : (durations total session).length * 5 ≤ (durations total session).sum := by
      have hcard := card_nsmul_le_sum (durations total session) 5
        fun minutes hmem => (durations_mem total h minutes hmem).1
      simpa using hcard
    omega

end

def dayTotal (weight : Item → Nat) (items : List Item) (day : Nat) : Nat :=
  ((onDay items day).map weight).sum

def share (weight : Item → Nat) (day : Nat) (item : Item) : Nat :=
  if item.scheduledDate = day then weight item else 0

section
variable (weight : Item → Nat)

theorem dayTotal_eq (items : List Item) (day : Nat) :
    dayTotal weight items day = (items.map (share weight day)).sum := by
  induction items with
  | nil => rfl
  | cons item rest ih =>
    unfold dayTotal onDay at ih ⊢
    by_cases hday : item.scheduledDate = day
    · rw [filter_cons_of_pos (by simpa using hday), map_cons, sum_cons, ih]
      simp [share, hday]
    · rw [filter_cons_of_neg (by simpa using hday), ih]
      simp [share, hday]

theorem dayTotal_append (items rows : List Item) (day : Nat) :
    dayTotal weight (items ++ rows) day = dayTotal weight items day + dayTotal weight rows day := by
  unfold dayTotal onDay
  rw [filter_append, map_append, sum_append]

theorem dayTotal_without (h : Table.Distinct Item.id items)
    (hfind : Table.find Item.id items id = some old) (day : Nat) :
    dayTotal weight (items.filter (·.id ≠ id)) day + share weight day old = dayTotal weight items day := by
  rw [dayTotal_eq, dayTotal_eq]
  induction items with
  | nil => exact absurd hfind (by simp [Table.find])
  | cons head rest ih =>
    obtain ⟨hfirst, hrest⟩ := nodup_cons.1 h
    by_cases hid : head.id = id
    · obtain rfl : head = old := by simpa [Table.find, hid] using hfind
      have hothers : rest.filter (·.id ≠ id) = rest := by
        rw [filter_eq_self]
        intro other hother
        have hne : other.id ≠ id := by
          intro heq
          exact hfirst (mem_map.2 ⟨other, hother, heq.trans hid.symm⟩)
        simpa using hne
      rw [filter_cons_of_neg (by simpa using hid), hothers, map_cons, sum_cons]
      omega
    · have hfound : Table.find Item.id rest id = some old := by simpa [Table.find, hid] using hfind
      have hsum := ih hrest hfound
      rw [filter_cons_of_pos (by simpa using hid), map_cons, sum_cons, map_cons,
        sum_cons]
      omega

theorem dayTotal_put (h : Table.Distinct Item.id items)
    (hfind : Table.find Item.id items new.id = some old) (day : Nat) :
    dayTotal weight (Table.put Item.id items new) day =
      dayTotal weight (items.filter (·.id ≠ new.id)) day + share weight day new := by
  have hput := h.sum_put (share weight day) hfind
  have hwithout := dayTotal_without weight h hfind day
  rw [← dayTotal_eq, ← dayTotal_eq] at hput
  omega

end

theorem previewItems_minutes {build : Nat → Nat → PreviewItem}
    (h : ∀ slot minutes, (build slot minutes).durationMinutes = minutes) (lengths : List Nat) :
    (lengths.mapIdx build).map (·.durationMinutes) = lengths := by
  induction lengths generalizing build with
  | nil => rfl
  | cons minutes rest ih =>
    rw [mapIdx_cons, map_cons, h, ih fun slot minutes => h (slot + 1) minutes]

theorem planDay_items {preferences : Preferences} {beginner today : Nat} :
    ∀ item ∈ (planDay preferences beginner today items day).items, item.scheduledDate = day ∧
      today ≤ day ∧ weekday day ∈ preferences.weekdays ∧
        ∀ other ∈ items, other.scheduledDate = day → other.generatedSlot = none := by
  intro item hmem
  unfold planDay at hmem
  split at hmem
  · exact absurd hmem (by simp [DayPlan.items])
  rename_i hinside
  simp only at hmem
  split at hmem
  · exact absurd hmem (by simp [DayPlan.items])
  rename_i hfree
  split at hmem
  · exact absurd hmem (by simp [DayPlan.items])
  obtain ⟨position, hposition, rfl⟩ := mem_mapIdx.1 hmem
  refine ⟨rfl, ?_, ?_, ?_⟩
  · exact Nat.le_of_not_lt (not_or.1 hinside).1
  · exact not_not.1 (not_or.1 hinside).2
  · intro other hother hday
    have hslot : ¬ other.generatedSlot.isSome = true := by
      intro hsome
      exact hfree (List.any_eq_true.2 ⟨other, mem_filter.2 ⟨hother, by simpa using hday⟩, hsome⟩)
    simpa using hslot

theorem planDay_minutes (preferences : Preferences) (beginner today : Nat) (items : List Item)
    (day : Nat) :
    (planDay preferences beginner today items day).items = [] ∨
      (((planDay preferences beginner today items day).items.map (·.durationMinutes)).sum ≤
          480 - minutesOf (onDay items day) ∧
        (onDay items day).length + (planDay preferences beginner today items day).items.length ≤ 48) := by
  unfold planDay
  split
  · exact .inl rfl
  simp only
  split
  · exact .inl rfl
  split
  · exact .inl rfl
  rename_i hfits
  right
  simp only [DayPlan.items, length_mapIdx]
  rw [previewItems_minutes fun _ _ => rfl]
  exact ⟨Nat.le_of_not_lt (not_or.1 hfits).1, Nat.le_of_not_lt (not_or.1 hfits).2⟩

theorem previewPlan_ok (h : previewPlan token planner moment start = .ok preview) :
    ∃ profile, planner.profile = some profile ∧ profile.mode ≠ .custom ∧
      preview.items = (List.range 7).flatMap fun offset =>
        (planDay profile.toPreferences
          (beginnerMinutes planner.items (planToday moment profile.toPreferences))
          (planToday moment profile.toPreferences) (existingItems planner start) (start + offset)).items := by
  unfold previewPlan at h
  cases hprofile : planner.profile with
  | none => rw [hprofile] at h; simp at h
  | some profile =>
    rw [hprofile] at h
    simp only at h
    split at h
    · simp at h
    rename_i hmode
    split at h
    · simp at h
    obtain rfl := Except.ok.inj h
    refine ⟨profile, rfl, hmode, ?_⟩
    simp only [flatMap_map]

theorem filter_flatMap_day {plan : Nat → List PreviewItem} {offsets : List Nat} (hnodup : offsets.Nodup)
    (hdates : ∀ offset, ∀ item ∈ plan offset, item.scheduledDate = start + offset) {offset : Nat}
    (hmem : offset ∈ offsets) :
    (offsets.flatMap plan).filter (·.scheduledDate = start + offset) = plan offset := by
  have hother : ∀ other, other ≠ offset →
      (plan other).filter (·.scheduledDate = start + offset) = [] := by
    intro other hne
    rw [filter_eq_nil_iff]
    intro item hitem
    have hdate := hdates other item hitem
    simp only [decide_eq_true_eq]
    omega
  have hself : (plan offset).filter (·.scheduledDate = start + offset) = plan offset := by
    rw [filter_eq_self]
    intro item hitem
    simpa using hdates offset item hitem
  induction offsets with
  | nil => exact absurd hmem not_mem_nil
  | cons head rest ih =>
    obtain ⟨hfirst, hrest⟩ := nodup_cons.1 hnodup
    rw [flatMap_cons, filter_append]
    by_cases heq : head = offset
    · subst heq
      have hempty : (rest.flatMap plan).filter (·.scheduledDate = start + head) = [] := by
        rw [filter_flatMap, flatMap_eq_nil_iff]
        intro other hotherMem
        exact hother other fun hsame => hfirst (hsame ▸ hotherMem)
      rw [hself, hempty, append_nil]
    · have hin : offset ∈ rest := (mem_cons.1 hmem).resolve_left fun hsame => heq hsame.symm
      rw [hother head heq, ih hrest hin, nil_append]

theorem existingItems_onDay (planner : Planner) (hfrom : start ≤ day) (hto : day < start + 7) :
    (onDay (existingItems planner start) day).Perm (onDay planner.items day) := by
  refine ((perm_insertionSort _ _).filter _).trans ?_
  rw [filter_filter]
  refine List.Perm.of_eq (filter_congr ?_)
  intro item _
  by_cases hday : item.scheduledDate = day
  · subst hday
    have hle : item.scheduledDate ≤ start + 6 := by omega
    simp [hfrom, hle]
  · simp [hday]

theorem existingItems_minutes (planner : Planner) (hfrom : start ≤ day) (hto : day < start + 7) :
    minutesOf (onDay (existingItems planner start) day) = minutesOf (onDay planner.items day) :=
  ((existingItems_onDay planner hfrom hto).map _).sum_eq

theorem preview_onDay (h : previewPlan token planner moment start = .ok preview)
    (hprofile : planner.profile = some profile) (hfrom : start ≤ day) (hto : day < start + 7) :
    preview.items.filter (·.scheduledDate = day) =
      (planDay profile.toPreferences
        (beginnerMinutes planner.items (planToday moment profile.toPreferences))
        (planToday moment profile.toPreferences) (existingItems planner start) day).items := by
  obtain ⟨found, hfound, _, hitems⟩ := previewPlan_ok h
  obtain rfl := Option.some.inj (hprofile.symm.trans hfound)
  obtain ⟨offset, rfl⟩ := Nat.exists_eq_add_of_le hfrom
  rw [hitems]
  refine filter_flatMap_day nodup_range ?_ (mem_range.2 (by omega))
  intro other item hitem
  exact (planDay_items item hitem).1

theorem preview_dates (h : previewPlan token planner moment start = .ok preview)
    (hprofile : planner.profile = some profile) : ∀ item ∈ preview.items,
      weekday item.scheduledDate ∈ profile.weekdays ∧
        planToday moment profile.toPreferences ≤ item.scheduledDate ∧
        start ≤ item.scheduledDate ∧ item.scheduledDate < start + 7 ∧
        ∀ other ∈ planner.items, other.scheduledDate = item.scheduledDate → other.generatedSlot = none := by
  obtain ⟨found, hfound, _, hitems⟩ := previewPlan_ok h
  obtain rfl := Option.some.inj (hprofile.symm.trans hfound)
  intro item hmem
  rw [hitems] at hmem
  obtain ⟨offset, hoffset, hitem⟩ := mem_flatMap.1 hmem
  have hlt := mem_range.1 hoffset
  obtain ⟨hdate, htoday, hweekday, hfree⟩ := planDay_items item hitem
  rw [hdate]
  refine ⟨hweekday, htoday, by omega, by omega, ?_⟩
  intro other hother hday
  have hfrom : start ≤ start + offset := Nat.le_add_right start offset
  have hexisting := (existingItems_onDay planner hfrom (by omega)).mem_iff.2
    (mem_filter.2 ⟨hother, by simpa using hday⟩)
  exact hfree other (mem_filter.1 hexisting).1 hday

structure Kept (planner : Planner) : Prop where
  distinct : Table.Distinct Item.id planner.items
  below : ∀ item ∈ planner.items, item.id < planner.nextItem
  lengths : ∀ item ∈ planner.items, 5 ≤ item.durationMinutes
  minutes : ∀ day, dayTotal (·.durationMinutes) planner.items day ≤ 480
  sessions : ∀ day, dayTotal (fun _ => 1) planner.items day ≤ 48

theorem kept_empty : Kept (plans token).init where
  distinct := nodup_nil
  below := by simp [plans]
  lengths := by simp [plans]
  minutes := by simp [plans, dayTotal, onDay]
  sessions := by simp [plans, dayTotal, onDay]

theorem dayTotal_one (items : List Item) (day : Nat) :
    dayTotal (fun _ => 1) items day = (onDay items day).length := by
  unfold dayTotal
  simp

theorem validateDay_ok {exclude : Option Nat} (h : validateDay items day minutes exclude = .ok ()) :
    dayTotal (·.durationMinutes) (items.filter fun item => exclude ≠ some item.id) day + minutes ≤ 480 ∧
      dayTotal (fun _ => 1) (items.filter fun item => exclude ≠ some item.id) day + 1 ≤ 48 := by
  unfold validateDay at h
  simp only at h
  split at h
  · simp at h
  rename_i hroom
  have hswap : onDay (items.filter fun item => exclude ≠ some item.id) day =
      (onDay items day).filter fun item => exclude ≠ some item.id := filter_comm _ _ _
  rw [dayTotal_one]
  unfold dayTotal
  rw [hswap]
  unfold minutesOf at hroom
  omega

theorem Kept.added (h : Kept planner) {profile : Option Profile} {nextItem : Nat}
    (hids : rows.map Item.id = List.range' planner.nextItem rows.length)
    (hnext : nextItem = planner.nextItem + rows.length)
    (hlengths : ∀ row ∈ rows, 5 ≤ row.durationMinutes)
    (hminutes : ∀ day, dayTotal (·.durationMinutes) planner.items day +
      dayTotal (·.durationMinutes) rows day ≤ 480)
    (hsessions : ∀ day, dayTotal (fun _ => 1) planner.items day + dayTotal (fun _ => 1) rows day ≤ 48) :
    Kept ⟨profile, planner.items ++ rows, nextItem⟩ := by
  have hrow : ∀ row ∈ rows, planner.nextItem ≤ row.id ∧ row.id < nextItem := by
    intro row hmem
    have hid : row.id ∈ List.range' planner.nextItem rows.length := by
      rw [← hids]
      exact mem_map_of_mem hmem
    have hbounds := List.mem_range'_1.1 hid
    omega
  constructor
  · show ((planner.items ++ rows).map Item.id).Nodup
    rw [map_append, nodup_append]
    refine ⟨h.distinct, by rw [hids]; exact nodup_range', ?_⟩
    intro first hfirst second hsecond
    obtain ⟨item, hitem, rfl⟩ := mem_map.1 hfirst
    obtain ⟨row, hmem, rfl⟩ := mem_map.1 hsecond
    have hold := h.below item hitem
    have hnew := (hrow row hmem).1
    omega
  · intro item hitem
    show item.id < nextItem
    rcases mem_append.1 hitem with hold | hnew
    · have hlt := h.below item hold
      omega
    · exact (hrow item hnew).2
  · intro item hitem
    rcases mem_append.1 hitem with hold | hnew
    · exact h.lengths item hold
    · exact hlengths item hnew
  · intro day
    show dayTotal _ (planner.items ++ rows) day ≤ 480
    rw [dayTotal_append]
    exact hminutes day
  · intro day
    show dayTotal _ (planner.items ++ rows) day ≤ 48
    rw [dayTotal_append]
    exact hsessions day

theorem Kept.createItem {data : ItemData} (h : Kept planner)
    (hcreate : createItem planner data = .ok next) : Kept next := by
  unfold StudyPlans.createItem at hcreate
  split at hcreate
  · split at hcreate
    · obtain rfl := Except.ok.inj hcreate
      exact h
    · simp at hcreate
  · cases hvalid : validateDay planner.items data.scheduledDate data.durationMinutes none with
    | error error => rw [hvalid] at hcreate; simp at hcreate
    | ok _ =>
      rw [hvalid] at hcreate
      obtain rfl := Except.ok.inj hcreate
      obtain ⟨hminutes, hsessions⟩ := validateDay_ok hvalid
      have hall : (planner.items.filter fun item => (none : Option Nat) ≠ some item.id) = planner.items := by
        simp
      rw [hall] at hminutes hsessions
      refine h.added rfl rfl ?_ ?_ ?_
      · intro row hmem
        obtain rfl := mem_singleton.1 hmem
        exact data.durationValid.1
      · intro day
        have hday := h.minutes day
        rw [dayTotal_eq _ [_]]
        by_cases heq : data.scheduledDate = day
        · subst heq
          simpa [share] using hminutes
        · simpa [share, heq] using hday
      · intro day
        have hday := h.sessions day
        rw [dayTotal_eq _ [_]]
        by_cases heq : data.scheduledDate = day
        · subst heq
          simpa [share] using hsessions
        · simpa [share, heq] using hday

theorem Kept.deleteItem {revision : Option String} (h : Kept planner)
    (hdelete : deleteItem planner id revision = .ok next) : Kept next := by
  unfold StudyPlans.deleteItem at hdelete
  cases hfind : Table.find Item.id planner.items id with
  | none => rw [hfind] at hdelete; simp at hdelete
  | some item =>
    rw [hfind] at hdelete
    simp only at hdelete
    split at hdelete
    · simp at hdelete
    obtain rfl := Except.ok.inj hdelete
    constructor
    · exact h.distinct.sublist (filter_sublist.map Item.id)
    · intro item hitem
      exact h.below item (mem_filter.1 hitem).1
    · intro item hitem
      exact h.lengths item (mem_filter.1 hitem).1
    · intro day
      have hday := h.minutes day
      have hwithout := dayTotal_without (·.durationMinutes) h.distinct hfind day
      show dayTotal _ (planner.items.filter (·.id ≠ id)) day ≤ 480
      omega
    · intro day
      have hday := h.sessions day
      have hwithout := dayTotal_without (fun _ => 1) h.distinct hfind day
      show dayTotal _ (planner.items.filter (·.id ≠ id)) day ≤ 48
      omega

/-- The total of a day stays within a limit when an item moves to a day with room for it, or stays
and does not grow. -/
theorem dayTotal_put_le (weight : Item → Nat) {limit : Nat} (h : Table.Distinct Item.id items)
    (hfind : Table.find Item.id items new.id = some old) (hlimit : ∀ day, dayTotal weight items day ≤ limit)
    (hroom : (new.scheduledDate = old.scheduledDate ∧ weight new ≤ weight old) ∨
      dayTotal weight (items.filter (·.id ≠ new.id)) new.scheduledDate + weight new ≤ limit) (day : Nat) :
    dayTotal weight (Table.put Item.id items new) day ≤ limit := by
  have hput := dayTotal_put weight h hfind day
  have hwithout := dayTotal_without weight h hfind day
  have hday := hlimit day
  by_cases heq : new.scheduledDate = day
  · subst heq
    have hshare : share weight new.scheduledDate new = weight new := by simp [share]
    rcases hroom with ⟨hsame, hle⟩ | hroom
    · have hold : share weight new.scheduledDate old = weight old := by simp [share, hsame]
      omega
    · omega
  · have hshare : share weight day new = 0 := by simp [share, heq]
    omega

variable {changes : ItemChanges} {previewToken : Nat}

theorem updateItem_ok (h : updateItem planner moment id changes = .ok next) :
    ∃ old new, Table.find Item.id planner.items new.id = some old ∧
      next = { planner with items := Table.put Item.id planner.items new } ∧
      (new.durationMinutes = old.durationMinutes ∨ 5 ≤ new.durationMinutes) ∧
      ((new.scheduledDate = old.scheduledDate ∧ new.durationMinutes ≤ old.durationMinutes) ∨
        validateDay planner.items new.scheduledDate new.durationMinutes (some new.id) = .ok ()) := by
  unfold updateItem at h
  cases hfind : Table.find Item.id planner.items id with
  | none => rw [hfind] at h; simp at h
  | some item =>
    have hid : item.id = id := find_key hfind
    rw [hfind] at h
    simp only at h
    split at h
    · simp at h
    split at h
    · simp at h
    split at h
    · simp at h
    split at h
    · simp at h
    split at h
    · simp at h
    rename_i hmove
    obtain rfl := Except.ok.inj h
    refine ⟨item, _, ?_, rfl, ?_, ?_⟩
    · show Table.find Item.id planner.items item.id = some item
      rw [hid]
      exact hfind
    · show changes.durationMinutes.getD item.durationMinutes = item.durationMinutes ∨
        5 ≤ changes.durationMinutes.getD item.durationMinutes
      cases hminutes : changes.durationMinutes with
      | none => exact .inl rfl
      | some minutes => exact .inr (changes.durationValid minutes hminutes).1
    · unfold checkMove at hmove
      split at hmove
      · exact .inr hmove
      · rename_i hstays
        exact .inl ⟨not_not.1 (not_or.1 hstays).1, Nat.le_of_not_lt (not_or.1 hstays).2⟩

theorem Kept.updateItem (h : Kept planner)
    (hupdate : updateItem planner moment id changes = .ok next) : Kept next := by
  obtain ⟨old, new, hfind, rfl, hlength, hroom⟩ := updateItem_ok hupdate
  have hexclude : (planner.items.filter fun item => (some new.id : Option Nat) ≠ some item.id) =
      planner.items.filter (·.id ≠ new.id) := by
    refine filter_congr ?_
    intro item _
    by_cases heq : item.id = new.id
    · simp [heq]
    · simp [heq, Ne.symm heq]
  constructor
  · exact h.distinct.put new
  · intro item hitem
    rcases mem_put.1 hitem with ⟨rfl, row, hrow, hid⟩ | ⟨hold, _⟩
    · rw [← hid]
      exact h.below row hrow
    · exact h.below item hold
  · intro item hitem
    rcases mem_put.1 hitem with ⟨rfl, _⟩ | ⟨hold, _⟩
    · have hbefore := h.lengths old (find_mem hfind)
      omega
    · exact h.lengths item hold
  · refine dayTotal_put_le _ h.distinct hfind h.minutes ?_
    refine hroom.imp_right ?_
    intro hvalid
    rw [← hexclude]
    exact (validateDay_ok hvalid).1
  · refine dayTotal_put_le _ h.distinct hfind h.sessions ?_
    refine hroom.imp (fun hstays => ⟨hstays.1, Nat.le_refl 1⟩) ?_
    intro hvalid
    rw [← hexclude]
    exact (validateDay_ok hvalid).2

def Generates (rows : List Item) (items : List PreviewItem) : Prop :=
  List.Forall₂ (fun row item => row = generatedItem item row.id) rows items

section
variable {previewItems : List PreviewItem} {build : Nat → PreviewItem → Item}

theorem generates_mapIdx (h : ∀ position item, ∃ id, build position item = generatedItem item id)
    (previewItems : List PreviewItem) : Generates (previewItems.mapIdx build) previewItems := by
  induction previewItems generalizing build with
  | nil => exact .nil
  | cons item rest ih =>
    rw [mapIdx_cons]
    refine .cons ?_ (ih fun position other => h (position + 1) other)
    obtain ⟨id, hid⟩ := h 0 item
    rw [hid]
    rfl

theorem generated_ids (first : Nat) (h : ∀ position item, (build position item).id = first + position)
    (previewItems : List PreviewItem) :
    (previewItems.mapIdx build).map Item.id = List.range' first (previewItems.mapIdx build).length := by
  induction previewItems generalizing build first with
  | nil => rfl
  | cons item rest ih =>
    have hrest : (rest.mapIdx fun position => build (position + 1)).map Item.id =
        List.range' (first + 1) (rest.mapIdx fun position => build (position + 1)).length := by
      refine ih (first + 1) ?_
      intro position other
      rw [h]
      omega
    rw [mapIdx_cons, map_cons, length_cons, range'_succ, h, hrest]
    rfl

theorem Generates.onDay (h : Generates rows previewItems) (day : Nat) :
    (onDay rows day).map (·.durationMinutes) =
      (previewItems.filter (·.scheduledDate = day)).map (·.durationMinutes) := by
  induction h with
  | nil => rfl
  | @cons row item rows items hrow _ ih =>
    unfold StudyPlans.onDay at ih ⊢
    have hdate : row.scheduledDate = item.scheduledDate := by rw [hrow]; rfl
    have hminutes : row.durationMinutes = item.durationMinutes := by rw [hrow]; rfl
    by_cases hday : item.scheduledDate = day
    · rw [filter_cons_of_pos (by simpa [hdate] using hday), filter_cons_of_pos (by simpa using hday),
        map_cons, map_cons, ih, hminutes]
    · rw [filter_cons_of_neg (by simpa [hdate] using hday), filter_cons_of_neg (by simpa using hday),
        ih]

end

theorem generatePlan_ok (h : generatePlan token planner moment start previewToken = .ok next) :
    ∃ preview rows, previewPlan token planner moment start = .ok preview ∧ Generates rows preview.items ∧
      rows.map Item.id = List.range' planner.nextItem rows.length ∧
      (∀ row ∈ rows, 5 ≤ row.durationMinutes) ∧
      next = ⟨planner.profile, planner.items ++ rows, planner.nextItem + rows.length⟩ := by
  unfold generatePlan at h
  cases hpreview : previewPlan token planner moment start with
  | error error => rw [hpreview] at h; simp at h
  | ok preview =>
    rw [hpreview] at h
    simp only at h
    split at h
    · simp at h
    split at h
    · simp at h
    rename_i hfit
    obtain rfl := Except.ok.inj h
    refine ⟨preview, _, rfl, generates_mapIdx (fun _ _ => ⟨_, rfl⟩) _,
      generated_ids planner.nextItem (fun _ _ => rfl) _, ?_, rfl⟩
    intro row hrow
    have hrows := all_eq_true.1 (by simpa using hfit : rowsFit planner.items _ = true) row hrow
    simp only [Bool.and_eq_true, decide_eq_true_eq] at hrows
    exact hrows.1.1

theorem Kept.room (h : Kept planner) (hpreview : previewPlan token planner moment start = .ok preview)
    (day : Nat) :
    dayTotal (·.durationMinutes) planner.items day +
        ((preview.items.filter (·.scheduledDate = day)).map (·.durationMinutes)).sum ≤ 480 ∧
      dayTotal (fun _ => 1) planner.items day + (preview.items.filter (·.scheduledDate = day)).length ≤ 48 := by
  have hminutes := h.minutes day
  have hsessions := h.sessions day
  obtain ⟨profile, hprofile, _, _⟩ := previewPlan_ok hpreview
  by_cases hweek : start ≤ day ∧ day < start + 7
  · rw [preview_onDay hpreview hprofile hweek.1 hweek.2]
    rcases planDay_minutes profile.toPreferences
      (beginnerMinutes planner.items (planToday moment profile.toPreferences))
      (planToday moment profile.toPreferences) (existingItems planner start) day with hnone | ⟨hsum, hcount⟩
    · rw [hnone]
      exact ⟨hminutes, hsessions⟩
    · rw [existingItems_minutes planner hweek.1 hweek.2] at hsum
      rw [(existingItems_onDay planner hweek.1 hweek.2).length_eq] at hcount
      rw [dayTotal_one]
      have hheld : dayTotal (·.durationMinutes) planner.items day = minutesOf (onDay planner.items day) := rfl
      omega
  · have hnone : preview.items.filter (·.scheduledDate = day) = [] := by
      rw [filter_eq_nil_iff]
      intro item hitem hday
      obtain ⟨_, _, hfrom, hto, _⟩ := preview_dates hpreview hprofile item hitem
      rw [of_decide_eq_true hday] at hfrom hto
      exact hweek ⟨hfrom, hto⟩
    rw [hnone]
    exact ⟨hminutes, hsessions⟩

theorem Kept.generatePlan (h : Kept planner)
    (hgenerate : generatePlan token planner moment start previewToken = .ok next) : Kept next := by
  obtain ⟨preview, rows, hpreview, hrows, hids, hlengths, rfl⟩ := generatePlan_ok hgenerate
  refine h.added hids rfl hlengths ?_ ?_
  · intro day
    have hroom := (h.room hpreview day).1
    rw [← hrows.onDay day] at hroom
    exact hroom
  · intro day
    have hroom := (h.room hpreview day).2
    have hcount : (onDay rows day).length = (preview.items.filter (·.scheduledDate = day)).length := by
      have hlength := congrArg List.length (hrows.onDay day)
      rwa [length_map, length_map] at hlength
    rw [dayTotal_one rows, hcount]
    exact hroom

theorem Kept.exec {call : Call} (h : Kept planner) (hexec : call.exec token planner = .ok next) :
    Kept next := by
  obtain ⟨request, moment⟩ := call
  cases request with
  | createItem data => exact h.createItem hexec
  | updateItem id changes => exact h.updateItem hexec
  | deleteItem id revision => exact h.deleteItem hexec
  | saveProfile expectedRevision preferences =>
    unfold Call.exec saveProfile at hexec
    simp only at hexec
    split at hexec
    · simp at hexec
    · obtain rfl := Except.ok.inj hexec
      exact ⟨h.distinct, h.below, h.lengths, h.minutes, h.sessions⟩
  | generatePlan start previewToken => exact h.generatePlan hexec

theorem reached_kept {now : Nat} (h : (plans token).Reaches Machine.Always planner now) :
    Kept planner := by
  refine h.invariant (I := fun planner _ => Kept planner) kept_empty ?_
  intro planner now call next hkept _ _ hexec
  exact hkept.exec hexec

theorem Kept.normal_day (h : Kept planner) (hpreview : previewPlan token planner moment start = .ok preview)
    (hprofile : planner.profile = some profile) (hmode : profile.mode = .normal)
    (hfrom : start ≤ day) (hto : day < start + 7) (htoday : planToday moment profile.toPreferences ≤ day)
    (hweekday : weekday day ∈ profile.weekdays)
    (hfree : ∀ item ∈ planner.items, item.scheduledDate = day → item.generatedSlot = none) :
    (preview.items.filter (·.scheduledDate = day)).map (·.durationMinutes) =
      durations (profile.dailyMinutes - dayTotal (·.durationMinutes) planner.items day)
        profile.sessionMinutes := by
  have hperm := existingItems_onDay planner hfrom hto
  have hheld : minutesOf (onDay (existingItems planner start) day) =
      dayTotal (·.durationMinutes) planner.items day := existingItems_minutes planner hfrom hto
  have hcount : (onDay (existingItems planner start) day).length =
      dayTotal (fun _ => 1) planner.items day := by
    rw [dayTotal_one]
    exact hperm.length_eq
  have hsession : 5 ≤ profile.sessionMinutes := by
    have hvalid := profile.sessionValid
    omega
  have hdaily := profile.dailyValid
  have hfives : 5 * dayTotal (fun _ => 1) planner.items day ≤
      dayTotal (·.durationMinutes) planner.items day := by
    have hcard := card_nsmul_le_sum ((onDay planner.items day).map (·.durationMinutes)) 5 ?_
    · rw [dayTotal_one]
      rw [length_map, smul_eq_mul, Nat.mul_comm] at hcard
      exact hcard
    · intro minutes hmem
      obtain ⟨item, hitem, rfl⟩ := mem_map.1 hmem
      exact h.lengths item (mem_filter.1 hitem).1
  have hlength := durations_length (profile.dailyMinutes -
    dayTotal (·.durationMinutes) planner.items day) hsession
  have hsum : (durations (profile.dailyMinutes - dayTotal (·.durationMinutes) planner.items day)
      profile.sessionMinutes).sum ≤ 480 - dayTotal (·.durationMinutes) planner.items day := by
    by_cases hshort : profile.dailyMinutes - dayTotal (·.durationMinutes) planner.items day < 5
    · rw [durations_of_short hsession hshort]
      exact Nat.zero_le _
    · rw [durations_sum hsession (by omega)]
      omega
  have hsessions := h.sessions day
  rw [preview_onDay hpreview hprofile hfrom hto]
  unfold planDay
  rw [if_neg (by
    rintro (hpast | hother)
    · omega
    · exact hother hweekday)]
  have hslots : ((onDay (existingItems planner start) day).any (·.generatedSlot.isSome)) = false := by
    rw [any_eq_false]
    intro item hitem
    obtain ⟨hmem, hday⟩ := mem_filter.1 (hperm.mem_iff.1 hitem)
    rw [hfree item hmem (of_decide_eq_true hday)]
    simp
  simp only [hslots, Bool.false_eq_true, if_false, dayDurations, hmode, hheld, hcount]
  rw [if_neg (by omega)]
  exact previewItems_minutes (fun _ _ => rfl) _

structure Sound (token : Canonical → Nat) (planner : Planner) : Prop where
  minutes : ∀ day, minutesOf (onDay planner.items day) ≤ 480
  sessions : ∀ day, (onDay planner.items day).length ≤ 48
  /-- What is generated is the preview of the moment. -/
  generated : ∀ moment start previewToken next,
    generatePlan token planner moment start previewToken = .ok next →
      ∃ preview rows, previewPlan token planner moment start = .ok preview ∧ Generates rows preview.items ∧
        next.items = planner.items ++ rows ∧ next.profile = planner.profile
  previewed : ∀ moment start preview profile, planner.profile = some profile →
    previewPlan token planner moment start = .ok preview → ∀ item ∈ preview.items,
      weekday item.scheduledDate ∈ profile.weekdays ∧
        planToday moment profile.toPreferences ≤ item.scheduledDate ∧
        start ≤ item.scheduledDate ∧ item.scheduledDate < start + 7 ∧
        ∀ other ∈ planner.items, other.scheduledDate = item.scheduledDate → other.generatedSlot = none
  /-- In the normal mode a day that may get sessions gets the minutes left, in sessions that are not
  short and not much longer than those of the profile. -/
  normal : ∀ moment start preview profile day, planner.profile = some profile → profile.mode = .normal →
    previewPlan token planner moment start = .ok preview → start ≤ day → day < start + 7 →
      planToday moment profile.toPreferences ≤ day → weekday day ∈ profile.weekdays →
      (∀ item ∈ planner.items, item.scheduledDate = day → item.generatedSlot = none) →
      (∀ item ∈ preview.items, item.scheduledDate = day →
          5 ≤ item.durationMinutes ∧ item.durationMinutes < profile.sessionMinutes + 5) ∧
        if profile.dailyMinutes < minutesOf (onDay planner.items day) + 5 then
          preview.items.filter (·.scheduledDate = day) = []
        else
          ((preview.items.filter (·.scheduledDate = day)).map (·.durationMinutes)).sum +
            minutesOf (onDay planner.items day) = profile.dailyMinutes

/-- In every run the days of a plan are within their limits, and what is previewed and generated
keeps to the profile. -/
theorem plan_limits_hold {now : Nat} (h : (plans token).Reaches Machine.Always planner now) :
    Sound token planner := by
  have hkept := reached_kept h
  constructor
  · exact hkept.minutes
  · intro day
    rw [← dayTotal_one]
    exact hkept.sessions day
  · intro moment start previewToken next hgenerate
    obtain ⟨preview, rows, hpreview, hrows, _, _, rfl⟩ := generatePlan_ok hgenerate
    exact ⟨preview, rows, hpreview, hrows, rfl, rfl⟩
  · intro moment start preview profile hprofile hpreview
    exact preview_dates hpreview hprofile
  · intro moment start preview profile day hprofile hmode hpreview hfrom hto htoday hweekday hfree
    have hday := hkept.normal_day hpreview hprofile hmode hfrom hto htoday hweekday hfree
    have hheld : dayTotal (·.durationMinutes) planner.items day = minutesOf (onDay planner.items day) := rfl
    have hsession : 5 ≤ profile.sessionMinutes := by
      have hvalid := profile.sessionValid
      omega
    constructor
    · intro item hitem hdate
      have hmem : item.durationMinutes ∈
          (preview.items.filter (·.scheduledDate = day)).map (·.durationMinutes) :=
        mem_map_of_mem (mem_filter.2 ⟨hitem, by simpa using hdate⟩)
      rw [hday] at hmem
      exact durations_mem _ hsession item.durationMinutes hmem
    · split
      · rename_i hshort
        rw [durations_of_short hsession (by omega)] at hday
        exact map_eq_nil_iff.1 hday
      · rename_i hlong
        rw [hday, durations_sum hsession (by omega)]
        omega

def everyDay : Preferences :=
  ⟨.normal, 120, 50, [0, 1, 2, 3, 4, 5, 6], ["Bones".toList], "UTC".toList, by decide, by decide⟩

def thursday : Moment := ⟨10, fun _ => 738000⟩

def generatedWeek : List Call :=
  [⟨.saveProfile 0 everyDay, thursday⟩,
    ⟨.createItem ⟨none, "Ulna".toList, [], 738001, 30, by decide⟩, thursday⟩,
    ⟨.generatePlan 737997 11, thursday⟩,
    ⟨.updateItem 2 ⟨some 1, none, none, some 738001, none, none, by simp⟩, thursday⟩]

def plainToken (canonical : Canonical) : Nat := canonical.items.length

theorem generated_week_sound : Sound plainToken ((plans plainToken).outcome generatedWeek) :=
  plan_limits_hold (.of_accepts (by decide +kernel) (by decide +kernel) (Machine.admitted_always _ _))

end LockIn.StudyPlans
