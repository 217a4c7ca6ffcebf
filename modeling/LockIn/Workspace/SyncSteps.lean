import LockIn.Workspace.SyncInvariant

/-!
# What each step of a device keeps

An edit, a read, a merge and every turn of a push keep what the invariant says of the device.
What a push sends is fit to be sent.
-/

namespace LockIn.Workspace

open List Outcome

variable {δ ι α ω φ : Type} {adapter : Adapter ι α ω φ} {pageCount : Nat} {w w' : World δ ι α ω φ}

theorem Keeps.step [DecidableEq δ] (h : Keeps adapter pageCount w)
    (hserver : ServerKeeps adapter pageCount w') (hg : w.Grows w') {d : δ}
    {device : Device ι α ω φ} (hdevices : w'.devices = Function.update w.devices d device)
    (hd : DeviceKeeps adapter pageCount w' device) : Keeps adapter pageCount w' where
  server := hserver
  devices := by
    intro other
    rw [hdevices]
    by_cases hother : other = d
    · subst hother
      rw [Function.update_self]
      exact hd
    · rw [Function.update_of_ne hother]
      exact (h.devices other).grows hg

variable {d : δ}

theorem Keeps.withDevice [DecidableEq δ] (h : Keeps adapter pageCount w) {device : Device ι α ω φ}
    (hd : DeviceKeeps adapter pageCount w device) :
    Keeps adapter pageCount (w.withDevice d device) := by
  have hg : w.Grows (w.withDevice d device) :=
    ⟨Nat.le_refl _, fun _ _ => rfl, fun _ hx => hx, fun _ hr => hr⟩
  refine h.step ?_ hg rfl (hd.grows hg)
  exact h.server.of_grows hg rfl rfl rfl rfl rfl
    (fun request hrequest => (h.server.sent request hrequest).grows hg) h.server.keys
    h.server.one_batch

section
variable {device : Device ι α ω φ} (h : DeviceKeeps adapter pageCount w device)
include h

theorem DeviceKeeps.edit {content : List α}
    (haccounts : w.Accounts (adapter.syncableIds device.content) (adapter.syncableIds content)) :
    DeviceKeeps adapter pageCount w { device with content := content } :=
  { h with
    baseline_kept := h.baseline_kept.trans haccounts
    synced_kept := fun hremote => (h.synced_kept hremote).trans haccounts
    latest := fun snapshot hlatest =>
      ⟨(h.latest snapshot hlatest).1, fun htaken hremote =>
        have hfresh := (h.latest snapshot hlatest).2 htaken hremote
        ⟨hfresh.1, hfresh.2.trans haccounts⟩⟩
    drain := fun drain hdrain =>
      have hkeeps := h.drain drain hdrain
      { reading := hkeeps.reading
        remote := hkeeps.remote
        mirrored := hkeeps.mirrored
        taken := hkeeps.taken
        fresh := ⟨hkeeps.fresh.1, hkeeps.fresh.2.trans haccounts⟩
        queued := hkeeps.queued
        stage := hkeeps.stage }
    reading := fun reading hreading =>
      have hkeeps := h.reading reading hreading
      ⟨hkeeps.drain, hkeeps.content, hkeeps.stage⟩ }

theorem DeviceKeeps.withReading (hdrain : device.drain = none) {reading : Option (Reading α ω)}
    (hreading : ∀ r, reading = some r →
      (∀ content, r.content? = some content →
        w.Accounts (Dictionary.keys device.baseline) (adapter.syncableIds content)) ∧
      ReadStageKeeps adapter pageCount w device.collectionRevision device.baseline r.stage) :
    DeviceKeeps adapter pageCount w { device with reading := reading } :=
  { h with
    drain := fun drain hsome => absurd (hdrain.symm.trans hsome) (by simp)
    reading := fun r hr => ⟨hdrain, (hreading r hr).1, (hreading r hr).2⟩ }

theorem DeviceKeeps.stopReading (hdrain : device.drain = none) {refreshed : Option Nat}
    (hrefreshed : ∀ revision, refreshed = some revision → revision ≤ device.collectionRevision) :
    DeviceKeeps adapter pageCount w { device with reading := none, refreshed := refreshed } :=
  { h with
    refreshed_le := hrefreshed
    drain := fun drain hsome => absurd (hdrain.symm.trans hsome) (by simp)
    reading := fun r hr => absurd hr (by simp) }

end

theorem readStageKeeps_start (own : Nat) (baseline : List (ι × φ)) :
    ReadStageKeeps adapter pageCount w own baseline (.pages 1 1 0 [] none) :=
  ⟨Nat.le_refl _, fun _ => ⟨rfl, rfl⟩, fun hmore => absurd ⟨rfl, rfl⟩ hmore,
    fun given hgiven => absurd hgiven (by simp)⟩

theorem mem_ids_filterMap_toCatalog {wires : List ω}
    (hwires : ∀ wire ∈ wires, ∃ item, adapter.toFocus item = some wire) (x : ι) :
    x ∈ adapter.ids (wires.filterMap adapter.toCatalog) ↔ x ∈ adapter.mutationIds wires := by
  rw [Adapter.mem_ids, mem_mutationIds]
  constructor
  · rintro ⟨back, hback, rfl⟩
    obtain ⟨wire, hwire, hread⟩ := mem_filterMap.mp hback
    obtain ⟨item, hfocus⟩ := hwires wire hwire
    obtain ⟨other, hother, hid, -⟩ := adapter.reads_back item wire hfocus
    obtain rfl := Option.some.inj (hother.symm.trans hread)
    exact ⟨wire, hwire, (adapter.mutationId_toFocus item wire hfocus).trans hid.symm⟩
  · rintro ⟨wire, hwire, rfl⟩
    obtain ⟨item, hfocus⟩ := hwires wire hwire
    obtain ⟨back, hback, hid, -⟩ := adapter.reads_back item wire hfocus
    refine ⟨back, mem_filterMap.mpr ⟨wire, hwire, hback⟩, ?_⟩
    exact hid.trans (adapter.mutationId_toFocus item wire hfocus).symm

theorem syncable_filterMap_toCatalog {wires : List ω}
    (hwires : ∀ wire ∈ wires, ∃ item, adapter.toFocus item = some wire) :
    ∀ back ∈ wires.filterMap adapter.toCatalog, adapter.isServerSyncable back = true := by
  intro back hback
  obtain ⟨wire, hwire, hread⟩ := mem_filterMap.mp hback
  obtain ⟨item, hfocus⟩ := hwires wire hwire
  obtain ⟨other, hother, -, hsync⟩ := adapter.reads_back item wire hfocus
  obtain rfl := Option.some.inj (hother.symm.trans hread)
  exact hsync

section
variable [DecidableEq ι] {device : Device ι α ω φ} {revision : Nat} {wires : List ω}

theorem DeviceKeeps.finishLoad (h : DeviceKeeps adapter pageCount w device)
    (hserver : ServerKeeps adapter pageCount w) (hdrain : device.drain = none)
    (hknown : Known adapter w device.collectionRevision device.baseline revision)
    (hwires : ∀ wire, wire ∈ wires ↔ wire ∈ w.editions revision) :
    DeviceKeeps adapter pageCount w (finishLoad adapter device revision wires) := by
  have hfrom : ∀ wire ∈ wires, ∃ item, adapter.toFocus item = some wire := fun wire hwire =>
    (hserver.stored revision hknown.le wire ((hwires wire).mp hwire)).2
  have hkeys : ∀ x, x ∈ Dictionary.keys
        (Workspace.finishLoad adapter device revision wires).syncedAnnotations ↔
      x ∈ adapter.ids (wires.filterMap adapter.toCatalog) := by
    intro x
    unfold Workspace.finishLoad
    rw [Dictionary.mem_keys_ofList]
    unfold Dictionary.keys Adapter.ids
    rw [map_map]
    exact Iff.rfl
  have hids : ∀ x, x ∈ adapter.mutationIds wires ↔
      x ∈ adapter.mutationIds (w.editions revision) := by
    intro x
    rw [mem_mutationIds, mem_mutationIds]
    exact exists_congr fun wire => and_congr_left fun _ => hwires wire
  exact
    { synced_ids := fun x =>
        ((hkeys x).trans (mem_ids_filterMap_toCatalog hfrom x)).trans (hids x)
      synced_once := Dictionary.nodup_ofList _
      revision_le := hknown.le
      baseline_ever := h.baseline_ever
      baseline_kept := h.baseline_kept
      synced_kept := fun hnone => absurd hnone (by simp [Workspace.finishLoad])
      remote := by
        intro remote hremote
        obtain rfl := Option.some.inj hremote
        exact ⟨fun x => (hkeys x).symm, syncable_filterMap_toCatalog hfrom, hknown.baseline⟩
      latest := fun snapshot hlatest =>
        ⟨(h.latest snapshot hlatest).1, fun _ hnone => absurd hnone (by simp [Workspace.finishLoad])⟩
      mirrored := fun snapshot hmirrored =>
        ⟨(h.mirrored snapshot hmirrored).1, fun _ hnone =>
          absurd hnone (by simp [Workspace.finishLoad])⟩
      refreshed_le := fun r hr => (h.refreshed_le r hr).trans hknown.ge
      key_sent := h.key_sent
      drain := fun drain hsome => absurd (hdrain.symm.trans hsome) (by simp)
      reading := fun r hr => absurd hr (by simp [Workspace.finishLoad]) }

variable [DecidableEq φ] {content remote : List α}

theorem syncableIds_reconcile (hremote : device.remote = some remote)
    (hsync : ∀ item ∈ remote, adapter.isServerSyncable item = true) :
    adapter.syncableIds (reconcile adapter device content) =
      adapter.ids (mergeById adapter (content.filter adapter.isServerSyncable) remote
        device.baseline) := by
  have hmerged : ∀ item ∈ mergeById adapter (content.filter adapter.isServerSyncable) remote
      device.baseline, adapter.isServerSyncable item = true := by
    intro item hitem
    rcases mem_mergeById hitem with hlocal | hin
    · exact (mem_filter.mp hlocal).2
    · exact hsync item hin
  have hkept : ∀ item ∈ content.filter (!adapter.isServerSyncable ·),
      adapter.isServerSyncable item = false := by
    intro item hitem
    simpa using (mem_filter.mp hitem).2
  unfold reconcile
  rw [hremote]
  show adapter.syncableIds (_ ++ _) = _
  rw [Adapter.syncableIds_append, Adapter.syncableIds_of_all hmerged,
    Adapter.syncableIds_of_none hkept, append_nil]

theorem DeviceKeeps.reconcile (h : DeviceKeeps adapter pageCount w device)
    (hserver : ServerKeeps adapter pageCount w) (hremote : device.remote = some remote)
    (hcontent : w.Accounts (Dictionary.keys device.baseline) (adapter.syncableIds content)) :
    w.Accounts (Dictionary.keys device.baseline)
        (adapter.syncableIds (Workspace.reconcile adapter device content)) ∧
      w.Accounts (Dictionary.keys device.syncedAnnotations)
        (adapter.syncableIds (Workspace.reconcile adapter device content)) := by
  have hkeeps := h.remote remote hremote
  rw [syncableIds_reconcile hremote hkeeps.syncable]
  constructor
  · intro x hx
    rcases hcontent x hx with hin | hremoved
    · refine (mem_ids_mergeById_of_content hin).imp_right fun hgone => ?_
      refine hserver.gone _ h.revision_le x (hkeeps.baseline x hx) ?_
      rw [← h.synced_ids x, ← hkeeps.ids x]
      exact hgone.1
    · exact .inr hremoved
  · intro x hx
    refine (mem_ids_mergeById_of_remote ((hkeeps.ids x).mpr hx)).imp_right fun hgone => ?_
    exact (hcontent x hgone.2).resolve_left hgone.1

theorem DeviceKeeps.adopt (h : DeviceKeeps adapter pageCount w device)
    (hserver : ServerKeeps adapter pageCount w) (hremote : device.remote = some remote)
    (hcontent : w.Accounts (Dictionary.keys device.baseline) (adapter.syncableIds content)) :
    DeviceKeeps adapter pageCount w (adopt adapter device content) :=
  { h with
    baseline_kept := (h.reconcile hserver hremote hcontent).1
    synced_kept := fun _ => (h.reconcile hserver hremote hcontent).2
    remote := fun other hother => absurd hother (by simp [Workspace.adopt])
    latest := fun snapshot hlatest => by
      have hle := (h.latest snapshot hlatest).1
      refine ⟨Nat.le_succ_of_le hle, fun htaken _ => ?_⟩
      have hnext : snapshot.taken = device.adopted + 1 := htaken
      omega
    mirrored := fun snapshot hmirrored => by
      have hle := (h.mirrored snapshot hmirrored).1
      refine ⟨Nat.le_succ_of_le hle, fun htaken _ => ?_⟩
      have hnext : snapshot.taken = device.adopted + 1 := htaken
      omega
    drain := fun drain hdrain =>
      absurd (hremote.symm.trans (h.drain drain hdrain).remote) (by simp)
    reading := fun reading hreading =>
      have hkeeps := h.reading reading hreading
      ⟨hkeeps.drain, hkeeps.content, hkeeps.stage⟩ }

/-- The end of a load, or of a refresh that loaded. -/
theorem DeviceKeeps.finishReading (h : DeviceKeeps adapter pageCount w device)
    (hserver : ServerKeeps adapter pageCount w) (hdrain : device.drain = none)
    (hknown : Known adapter w device.collectionRevision device.baseline revision)
    (hwires : ∀ wire, wire ∈ wires ↔ wire ∈ w.editions revision) {content? : Option (List α)}
    (hcontent : ∀ content, content? = some content →
      w.Accounts (Dictionary.keys device.baseline) (adapter.syncableIds content)) :
    DeviceKeeps adapter pageCount w (finishReading adapter device content? revision wires) := by
  have hloaded := h.finishLoad hserver hdrain hknown hwires
  cases content? with
  | none => exact hloaded
  | some content =>
    have hadopted := hloaded.adopt hserver rfl (hcontent content rfl)
    refine hadopted.stopReading hdrain fun r hr => ?_
    obtain rfl := Option.some.inj hr
    exact Nat.le_refl _

variable {reading : Reading α ω}

theorem DeviceKeeps.receive (h : DeviceKeeps adapter pageCount w device)
    (hserver : ServerKeeps adapter pageCount w) {next : Device ι α ω φ}
    (hreading : device.reading = some reading) (hone : oneRevision (some reading) = true)
    (hr : receive adapter pageCount device reading = .ok next) :
    DeviceKeeps adapter pageCount w next := by
  have hkeeps := h.reading reading hreading
  obtain ⟨content?, stage⟩ := reading
  cases stage with
  | probe answer =>
    cases answer with
    | none => exact absurd hr (by simp [Workspace.receive])
    | some answer =>
      obtain ⟨revision, moved⟩ := answer
      simp only [Workspace.receive] at hr
      split at hr
      · next hsame =>
        obtain rfl := Except.ok.inj hr
        refine h.stopReading hkeeps.drain fun r hr => ?_
        obtain rfl := Option.some.inj hr
        exact Nat.le_of_eq hsame.1
      · obtain rfl := Except.ok.inj hr
        refine h.withReading hkeeps.drain fun r hr => ?_
        obtain rfl := Option.some.inj hr
        exact ⟨hkeeps.content, readStageKeeps_start _ _⟩
  | pages first page revision read answer =>
    cases answer with
    | none => exact absurd hr (by simp [Workspace.receive])
    | some given =>
      obtain ⟨hpage, hstart, hlater, hanswer⟩ := hkeeps.stage
      obtain ⟨hknown, hanswers⟩ := hanswer given rfl
      have hfits : ∀ wire ∈ w.editions given.revision, adapter.pageNumber wire ≤ pageCount :=
        fun wire hwire => (hserver.stored _ hknown.le wire hwire).1
      have hfirst : ∀ wire ∈ w.editions given.revision, 1 ≤ adapter.pageNumber wire := by
        intro wire hwire
        obtain ⟨item, hfocus⟩ := (hserver.stored _ hknown.le wire hwire).2
        exact adapter.pageNumber_toFocus item wire hfocus
      -- The first answer sets the revision and the others are of the same one.
      have hread : max revision given.revision = given.revision ∧
          ReadUpTo adapter pageCount (w.editions given.revision) first page read := by
        by_cases hbegin : first = 1 ∧ page = 1
        · obtain ⟨rfl, rfl⟩ := hstart hbegin
          obtain ⟨rfl, rfl⟩ := hbegin
          exact ⟨Nat.max_eq_right (Nat.zero_le _), ReadUpTo.start hfirst⟩
        · have hsame : given.revision = revision := by
            simp only [oneRevision, decide_eq_true_eq] at hone
            exact hone.resolve_left hbegin
          rw [hsame]
          exact ⟨Nat.max_self _, (hlater hbegin).2⟩
      simp only [Workspace.receive, hread.1] at hr
      split at hr
      · obtain rfl := Except.ok.inj hr
        refine h.withReading hkeeps.drain fun r hr => ?_
        obtain rfl := Option.some.inj hr
        refine ⟨hkeeps.content, by omega, fun hbegin => ?_, fun _ => ?_,
          fun given hgiven => absurd hgiven (by simp)⟩
        · omega
        · exact ⟨hknown, hread.2.read_page hpage hanswers⟩
      · next hlast =>
        rw [Bool.not_eq_true] at hlast
        have hten := hread.2.read_ten hpage hanswers hlast hfits
        split at hr
        · obtain rfl := Except.ok.inj hr
          refine h.withReading hkeeps.drain fun r hr => ?_
          obtain rfl := Option.some.inj hr
          refine ⟨hkeeps.content, Nat.le_refl _, fun hbegin => ?_, fun _ => ⟨hknown, hten⟩,
            fun given hgiven => absurd hgiven (by simp)⟩
          have hten : pagesPerRead = 10 := rfl
          omega
        · next hpast =>
          obtain rfl := Except.ok.inj hr
          exact h.finishReading hserver hkeeps.drain hknown
            (hten.complete (by omega) hfits) hkeeps.content

omit [DecidableEq ι] [DecidableEq φ] in
theorem DeviceKeeps.serve (h : DeviceKeeps adapter pageCount w device)
    (hserver : ServerKeeps adapter pageCount w) {answered : Reading α ω} {moved : Bool}
    (hreading : device.reading = some reading)
    (hs : serve adapter pageCount w reading moved = .ok answered) :
    DeviceKeeps adapter pageCount w { device with reading := some answered } := by
  have hkeeps := h.reading reading hreading
  refine h.withReading hkeeps.drain fun r hr => ?_
  obtain rfl := Option.some.inj hr
  obtain ⟨content?, stage⟩ := reading
  cases stage with
  | probe answer =>
    cases answer with
    | none =>
      obtain rfl := Except.ok.inj hs
      exact ⟨hkeeps.content, trivial⟩
    | some answer => exact absurd hs (by simp [Workspace.serve])
  | pages first page revision read answer =>
    cases answer with
    | some answer => exact absurd hs (by simp [Workspace.serve])
    | none =>
      simp only [Workspace.serve] at hs
      split at hs
      · next answer hget =>
        obtain rfl := Except.ok.inj hs
        obtain ⟨hpage, hstart, hlater, -⟩ := hkeeps.stage
        refine ⟨hkeeps.content, hpage, hstart, hlater, fun given hgiven => ?_⟩
        obtain rfl := Option.some.inj hgiven
        obtain ⟨hrevision, hanswers⟩ := getAnnotations_eq_some hget
        rw [hrevision, hserver.current]
        exact ⟨⟨Nat.le_refl _, h.revision_le, h.baseline_ever⟩, hanswers⟩
      · simp at hs

end

structure Sends (adapter : Adapter ι α ω φ) (pageCount : Nat) (w : World δ ι α ω φ)
    (step : Device ι α ω φ × List (Request ι ω)) : Prop where
  device : ∀ w', w.Grows w' → (∀ request ∈ step.2, request ∈ w'.sent) →
    DeviceKeeps adapter pageCount w' step.1
  requests : ∀ request ∈ step.2, Sendable adapter w request ∧
    (request ∈ w.sent ∨ request.key = w.nextKey)
  single : ∀ request ∈ step.2, ∀ other ∈ step.2, request = other

theorem Sends.none {device : Device ι α ω φ} (h : DeviceKeeps adapter pageCount w device) :
    Sends adapter pageCount w (device, []) where
  device := fun _ hg _ => h.grows hg
  requests := forall_mem_nil _
  single := forall_mem_nil _

theorem Keeps.sends [DecidableEq δ] (h : Keeps adapter pageCount w)
    {step : Device ι α ω φ × List (Request ι ω)} (hs : Sends adapter pageCount w step) :
    Keeps adapter pageCount (w.sends d step) := by
  have hg : w.Grows (w.sends d step) :=
    ⟨Nat.le_refl _, fun _ _ => rfl, fun _ hx => hx, fun _ hr => mem_append_left _ hr⟩
  have hkey : ∀ request ∈ step.2, request ∉ w.sent → request.key = w.nextKey :=
    fun request hrequest hnew => (hs.requests request hrequest).2.resolve_left hnew
  have hdevice := hs.device (w.sends d step) hg fun request hrequest =>
    mem_append_right _ hrequest
  refine h.step ?_ hg rfl hdevice
  refine h.server.of_grows hg rfl rfl rfl rfl rfl ?_ ?_ ?_
  · intro request hrequest
    rcases mem_append.mp hrequest with hold | hnew
    · exact (h.server.sent request hold).grows hg
    · exact (hs.requests request hnew).1.grows hg
  · intro request hrequest
    show request.key < w.nextKey + 1
    rcases mem_append.mp hrequest with hold | hnew
    · exact Nat.lt_succ_of_lt (h.server.keys request hold)
    · rcases (hs.requests request hnew).2 with hold | hfresh
      · exact Nat.lt_succ_of_lt (h.server.keys request hold)
      · omega
  · intro request hrequest other hother hsame
    by_cases hold : request ∈ w.sent
    · by_cases hold' : other ∈ w.sent
      · exact h.server.one_batch request hold other hold' hsame
      · have hfresh := hkey other ((mem_append.mp hother).resolve_left hold') hold'
        have hlt := h.server.keys request hold
        omega
    · have hfresh := hkey request ((mem_append.mp hrequest).resolve_left hold) hold
      by_cases hold' : other ∈ w.sent
      · have hlt := h.server.keys other hold'
        omega
      · rw [hs.single request ((mem_append.mp hrequest).resolve_left hold) other
          ((mem_append.mp hother).resolve_left hold')]

section
variable {device : Device ι α ω φ} (h : DeviceKeeps adapter pageCount w device)
include h

theorem DeviceKeeps.queue {snapshot : Snapshot α} (htaken : snapshot.taken ≤ device.adopted)
    (hfresh : snapshot.taken = device.adopted → device.remote = none →
      Fresh adapter w device.syncedAnnotations device.content snapshot)
    (hqueued : ∀ drain, device.drain = some drain → snapshot.taken = device.adopted ∧
      w.Accounts (adapter.syncableIds drain.snapshot.annotations)
        (adapter.syncableIds snapshot.annotations)) :
    DeviceKeeps adapter pageCount w { device with latest := some snapshot, pending := true } :=
  { h with
    latest := by
      intro other hother
      obtain rfl := Option.some.inj hother
      exact ⟨htaken, hfresh⟩
    drain := fun drain hdrain =>
      have hkeeps := h.drain drain hdrain
      { reading := hkeeps.reading
        remote := hkeeps.remote
        mirrored := hkeeps.mirrored
        taken := hkeeps.taken
        fresh := hkeeps.fresh
        queued := by
          intro other hother
          obtain rfl := Option.some.inj hother
          exact hqueued drain hdrain
        stage := hkeeps.stage }
    reading := fun reading hreading =>
      have hkeeps := h.reading reading hreading
      ⟨hkeeps.drain, hkeeps.content, hkeeps.stage⟩ }

theorem DeviceKeeps.abandon {drain : Drain ι α ω φ} (hdrain : device.drain = some drain)
    (accessError : Bool) :
    DeviceKeeps adapter pageCount w (abandon device drain accessError) :=
  have hkeeps := h.drain drain hdrain
  { h with
    latest := by
      intro snapshot hlatest
      rcases Option.or_eq_some_iff.mp hlatest with hqueued | ⟨-, hsent⟩
      · exact h.latest snapshot hqueued
      · obtain rfl := Option.some.inj hsent
        exact ⟨Nat.le_of_eq hkeeps.taken, fun _ _ => hkeeps.fresh⟩
    drain := fun other hother => absurd hother (by simp [Workspace.abandon])
    reading := fun reading hreading =>
      absurd (hkeeps.reading.symm.trans hreading) (by simp) }

theorem DeviceKeeps.mirrors {snapshot : Snapshot α}
    (hdrain : device.drain = some ⟨snapshot, .readerState⟩) :
    DeviceKeeps adapter pageCount w { device with mirrored := some snapshot, drain := none } :=
  have hkeeps := h.drain _ hdrain
  { h with
    mirrored := by
      intro other hother
      obtain rfl := Option.some.inj hother
      exact ⟨Nat.le_of_eq hkeeps.taken, fun _ _ => hkeeps.stage⟩
    drain := fun other hother => absurd hother (by simp)
    reading := fun reading hreading =>
      absurd (hkeeps.reading.symm.trans hreading) (by simp) }

theorem DeviceKeeps.saveBaseline (hdrain : device.drain = none) (hreading : device.reading = none)
    (hremote : device.remote = none) :
    DeviceKeeps adapter pageCount w (saveBaseline device) :=
  { h with
    baseline_ever := fun x hx => ⟨_, h.revision_le, (h.synced_ids x).mp hx⟩
    baseline_kept := h.synced_kept hremote
    remote := fun remote hsome => absurd (hremote.symm.trans hsome) (by simp)
    drain := fun drain hsome => absurd (hdrain.symm.trans hsome) (by simp)
    reading := fun reading hsome => absurd (hreading.symm.trans hsome) (by simp) }

end

section
variable {device : Device ι α ω φ} {snapshot : Snapshot α} {left : List (Mutation ι ω φ)}

theorem removed_of_outstanding
    (hfresh : w.Accounts (Dictionary.keys device.syncedAnnotations)
      (adapter.syncableIds snapshot.annotations))
    (hleft : Outstanding adapter device.syncedAnnotations
      (adapter.syncableIds snapshot.annotations) left) :
    ∀ x ∈ deletedIds left, x ∈ w.removed := by
  intro x hx
  refine (hfresh x (hleft.deleted x hx)).resolve_left fun htarget => ?_
  rcases (hleft.reaches x).mp htarget with hwritten | ⟨-, hkept⟩
  · obtain ⟨print, wire, hwrite⟩ := mem_writtenIds.mp hwritten
    have hsame := inj_on_of_nodup_map hleft.once hwrite (mem_deletedIds.mp hx) rfl
    simp at hsame
  · exact hkept hx

variable {request : Request ι ω}

theorem sendable_batchOf (h : DeviceKeeps adapter pageCount w device)
    {batch rest : List (Mutation ι ω φ)} (hbatch : batch ≠ [])
    (hfresh : w.Accounts (Dictionary.keys device.syncedAnnotations)
      (adapter.syncableIds snapshot.annotations))
    (hleft : Outstanding adapter device.syncedAnnotations
      (adapter.syncableIds snapshot.annotations) (batch ++ rest))
    (hrequest : request.batch = batchOf device.collectionRevision batch) :
    Sendable adapter w request := by
  have hdeleted : ∀ x ∈ request.batch.deletedIds, x ∈ deletedIds (batch ++ rest) := by
    rw [hrequest, deletedIds_append]
    exact fun x hx => mem_append_left _ hx
  refine
    { expected_le := ?_
      written := ?_
      held := fun x hx => ?_
      removed := fun x hx => removed_of_outstanding hfresh hleft x (hdeleted x hx)
      changes := ?_ }
  · rw [hrequest]
    exact h.revision_le
  · rw [hrequest]
    intro wire hwire
    obtain ⟨mutation, hmem, hget⟩ := mem_filterMap.mp hwire
    cases mutation with
    | write id print sent =>
      obtain rfl := Option.some.inj hget
      obtain ⟨item, hfocus, -⟩ := hleft.written id print sent (mem_append_left _ hmem)
      exact ⟨item, hfocus⟩
    | delete id => exact absurd hget (by simp [Mutation.wire?])
  · have hexpected : request.batch.expected = device.collectionRevision := by
      rw [hrequest]
      rfl
    rw [hexpected, ← h.synced_ids x]
    exact hleft.deleted x (hdeleted x hx)
  · rw [hrequest]
    obtain ⟨mutation, hmem⟩ := exists_mem_of_ne_nil _ hbatch
    cases mutation with
    | write id print wire =>
      exact .inl (ne_nil_of_mem (mem_filterMap.mpr ⟨_, hmem, rfl⟩ : wire ∈ _))
    | delete id =>
      exact .inr (ne_nil_of_mem (mem_filterMap.mpr ⟨_, hmem, rfl⟩ : id ∈ _))

variable [DecidableEq ι] [DecidableEq ω]

theorem keyFor_spec (h : DeviceKeeps adapter pageCount w device) (freshKey : Nat)
    (batch : Batch ι ω) :
    (keyFor device freshKey batch).batch = batch ∧
      (keyFor device freshKey batch ∈ w.sent ∨ (keyFor device freshKey batch).key = freshKey) := by
  unfold keyFor
  split
  · next request hkey =>
    split
    · next hsame => exact ⟨hsame, .inl (h.key_sent request hkey)⟩
    · exact ⟨rfl, .inr rfl⟩
  · exact ⟨rfl, .inr rfl⟩

theorem DeviceKeeps.sendAnnotations (h : DeviceKeeps adapter pageCount w device)
    (hdrain : device.drain = none) (hreading : device.reading = none)
    (hremote : device.remote = none) (hmirrored : device.mirrored = none)
    (htaken : snapshot.taken = device.adopted)
    (hfresh : Fresh adapter w device.syncedAnnotations device.content snapshot)
    (hqueued : ∀ other, device.latest = some other → other.taken = device.adopted ∧
      w.Accounts (adapter.syncableIds snapshot.annotations)
        (adapter.syncableIds other.annotations))
    (hleft : Outstanding adapter device.syncedAnnotations
      (adapter.syncableIds snapshot.annotations) left) :
    Sends adapter pageCount w (sendAnnotations w.nextKey device snapshot left) := by
  cases left with
  | nil =>
    refine Sends.none ?_
    have hsaved := h.saveBaseline hdrain hreading hremote
    exact
      { hsaved with
        drain := by
          intro drain hsome
          obtain rfl := Option.some.inj hsome
          exact ⟨hreading, hremote, hmirrored, htaken, hfresh, hqueued, hleft.done⟩
        reading := fun reading hsome => absurd (hreading.symm.trans hsome) (by simp) }
  | cons first others =>
    obtain ⟨hbatch, hkey⟩ := keyFor_spec h w.nextKey
      (batchOf device.collectionRevision ((first :: others).take maxSyncMutations))
    have hsplit := take_append_drop maxSyncMutations (first :: others)
    have hleft' := hleft
    rw [← hsplit] at hleft'
    have hsome : (first :: others).take maxSyncMutations ≠ [] := by
      simp [maxSyncMutations]
    have hsendable := sendable_batchOf h hsome hfresh.1 hleft' hbatch
    refine
      { device := fun w' hg hsent => ?_
        requests := fun request hrequest => ?_
        single := fun request hrequest other hother => ?_ }
    · have hnow := h.grows hg
      have hin := hsent _ (mem_singleton_self _)
      exact
        { hnow with
          key_sent := by
            intro request hrequest
            obtain rfl := Option.some.inj hrequest
            exact hin
          drain := by
            intro drain hsome
            obtain rfl := Option.some.inj hsome
            exact ⟨hreading, hremote, hmirrored, htaken, hfresh.grows hg,
              fun other hother => ⟨(hqueued other hother).1, (hqueued other hother).2.mono hg.removed⟩,
              hin, hbatch, hleft'⟩
          reading := fun reading hsome => absurd (hreading.symm.trans hsome) (by simp) }
    · obtain rfl := mem_singleton.mp hrequest
      exact ⟨hsendable, hkey⟩
    · rw [mem_singleton.mp hrequest, mem_singleton.mp hother]

theorem sendAnnotations_drain (freshKey : Nat) (device : Device ι α ω φ)
    (drain : Option (Drain ι α ω φ)) (snapshot : Snapshot α) (left : List (Mutation ι ω φ)) :
    sendAnnotations freshKey { device with drain := drain } snapshot left =
      sendAnnotations freshKey device snapshot left := by
  cases left with
  | nil => rfl
  | cons first others => rfl

theorem DeviceKeeps.acknowledge (h : DeviceKeeps adapter pageCount w device)
    {batch rest : List (Mutation ι ω φ)} {revision : Nat}
    (hdrain : device.drain = some ⟨snapshot, .sending request batch rest⟩)
    (happlied : Applied adapter w request revision) :
    Sends adapter pageCount w
      (Workspace.sendAnnotations w.nextKey (Workspace.acknowledge device revision batch) snapshot
        rest) := by
  have hkeeps := h.drain _ hdrain
  obtain ⟨hin, hbatch, hleft⟩ := hkeeps.stage
  have hexpected : request.batch.expected = device.collectionRevision := by
    rw [hbatch]
    rfl
  have hnext : revision = device.collectionRevision + 1 := hexpected ▸ happlied.next
  have hsynced : ∀ x, x ∈ Dictionary.keys
        (batch.foldl Mutation.applyTo device.syncedAnnotations) ↔
      x ∈ adapter.mutationIds (w.editions revision) := by
    intro x
    rw [happlied.ids x, hexpected, hbatch]
    exact (leaves_batchOf hleft (fun y => (h.synced_ids y).symm) x).symm
  have hdone := hleft.after_batch
  -- What the batch wrote is in the snapshot.
  have hkept : w.Accounts (Dictionary.keys (batch.foldl Mutation.applyTo device.syncedAnnotations))
      (adapter.syncableIds snapshot.annotations) := by
    intro x hx
    have honce := hleft.once
    rw [map_append] at honce
    rcases (mem_keys_foldl_applyTo (nodup_append.mp honce).1).mp hx with hwritten | ⟨hold, -⟩
    · refine .inl ((hleft.reaches x).mpr (.inl ?_))
      rw [writtenIds_append]
      exact mem_append_left _ hwritten
    · exact hkeeps.fresh.1 x hold
  have hcontent := hkept.trans hkeeps.fresh.2
  rw [← sendAnnotations_drain w.nextKey _ none]
  refine DeviceKeeps.sendAnnotations ?_ rfl hkeeps.reading hkeeps.remote hkeeps.mirrored
    hkeeps.taken ⟨hkept, hkeeps.fresh.2⟩ hkeeps.queued hdone
  exact
    { h with
      synced_ids := hsynced
      synced_once := nodup_foldl_applyTo h.synced_once
      revision_le := happlied.revision_le
      baseline_ever := fun x hx => ⟨revision, happlied.revision_le, (hsynced x).mp hx⟩
      baseline_kept := hcontent
      synced_kept := fun _ => hcontent
      remote := fun remote hsome => absurd (hkeeps.remote.symm.trans hsome) (by simp)
      latest := by
        intro other hother
        obtain ⟨htaken, hqueued⟩ := hkeeps.queued other hother
        obtain ⟨hle, hfresh⟩ := h.latest other hother
        exact ⟨hle, fun _ hremote => ⟨hkept.trans hqueued, (hfresh htaken hremote).2⟩⟩
      mirrored := fun other hother => absurd (hkeeps.mirrored.symm.trans hother) (by simp)
      refreshed_le := fun r hr => by
        have hle := h.refreshed_le r hr
        show r ≤ revision
        omega
      key_sent := fun other hother => absurd hother
        (by simp [Workspace.acknowledge, Workspace.saveBaseline])
      drain := fun drain hsome => absurd hsome (by simp)
      reading := fun reading hsome => absurd (hkeeps.reading.symm.trans hsome) (by simp) }

variable [DecidableEq φ]

/-- The loop ends, or goes on with a snapshot that was taken after the last merge. -/
theorem DeviceKeeps.drainNext (h : DeviceKeeps adapter pageCount w device)
    (hdrain : device.drain = none) (hreading : device.reading = none)
    (hremote : device.remote = none)
    (hlatest : ∀ other, device.latest = some other → other.taken = device.adopted) :
    Sends adapter pageCount w (drainNext adapter w.nextKey device) := by
  unfold Workspace.drainNext
  split
  · refine Sends.none ?_
    exact
      { h with
        drain := fun drain hsome => absurd hsome (by simp)
        reading := fun reading hsome => absurd (hreading.symm.trans hsome) (by simp) }
  · next other hother =>
    have hnow : DeviceKeeps adapter pageCount w { device with latest := none, mirrored := none } :=
      { h with
        latest := fun _ hsome => absurd hsome (by simp)
        mirrored := fun _ hsome => absurd hsome (by simp)
        drain := fun drain hsome => absurd (hdrain.symm.trans hsome) (by simp)
        reading := fun reading hsome => absurd (hreading.symm.trans hsome) (by simp) }
    have htaken := hlatest other hother
    exact hnow.sendAnnotations hdrain hreading hremote rfl htaken
      ((h.latest other hother).2 htaken hremote) (fun _ hsome => absurd hsome (by simp))
      (mutations_outstanding h.synced_once)

theorem drainNext_drain (freshKey : Nat) (device : Device ι α ω φ)
    (drain : Option (Drain ι α ω φ)) :
    Workspace.drainNext adapter freshKey { device with drain := drain } =
      Workspace.drainNext adapter freshKey device := by
  cases hlatest : device.latest with
  | none => simp only [Workspace.drainNext, hlatest]
  | some other =>
    simp only [Workspace.drainNext, hlatest]
    exact sendAnnotations_drain freshKey { device with latest := none, mirrored := none } drain
      other _

theorem DeviceKeeps.push (h : DeviceKeeps adapter pageCount w device)
    {step : Device ι α ω φ × List (Request ι ω)}
    (hp : push adapter w.nextKey device snapshot = .ok step)
    (htaken : snapshot.taken = device.adopted)
    (hfresh : device.remote = none →
      Fresh adapter w device.syncedAnnotations device.content snapshot)
    (hidle : device.drain = none → device.reading = none ∧ device.remote = none)
    (hqueued : ∀ drain, device.drain = some drain →
      w.Accounts (adapter.syncableIds drain.snapshot.annotations)
        (adapter.syncableIds snapshot.annotations)) :
    Sends adapter pageCount w step := by
  have hnow := h.queue (Nat.le_of_eq htaken) (fun _ => hfresh)
    fun drain hdrain => ⟨htaken, hqueued drain hdrain⟩
  unfold Workspace.push at hp
  dsimp only at hp
  split at hp
  · simp at hp
  · split at hp
    · obtain rfl := Except.ok.inj hp
      exact Sends.none hnow
    · next hdrain =>
      obtain rfl := Except.ok.inj hp
      rw [Bool.not_eq_true, Option.isSome_eq_false_iff, Option.isNone_iff_eq_none] at hdrain
      obtain ⟨hreading, hremote⟩ := hidle hdrain
      refine hnow.drainNext hdrain hreading hremote fun other hother => ?_
      obtain rfl := Option.some.inj hother
      exact htaken

end

end LockIn.Workspace
