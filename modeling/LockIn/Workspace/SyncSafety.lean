import LockIn.Workspace.SyncSteps

/-!
# No annotation is lost between devices

Along a run of careful steps the server deletes only what an edit removed from a device that
held it, applies no batch twice, and ends up with what the devices hold once they have settled.

A retry is not careful by itself: it sends a snapshot taken before a merge, and what the merge
brought is missing from it.
-/

namespace LockIn.Workspace

open List Outcome

variable {δ ι α ω φ : Type} {adapter : Adapter ι α ω φ} {pageCount : Nat} {w w' : World δ ι α ω φ}

theorem World.Grows.edits [DecidableEq δ] (w : World δ ι α ω φ) (d : δ)
    (device : Device ι α ω φ) (ids : List ι) :
    w.Grows { w.withDevice d device with removed := w.removed ++ ids } :=
  ⟨Nat.le_refl _, fun _ _ => rfl, fun _ hx => mem_append_left _ hx, fun _ hr => hr⟩

theorem DeviceKeeps.reopen {device : Device ι α ω φ} (h : DeviceKeeps adapter pageCount w device)
    (hserver : ServerKeeps adapter pageCount w) :
    DeviceKeeps adapter pageCount w
      (createCatalogServerSync device.content device.baseline device.adopted) where
  synced_ids := by
    intro x
    show x ∈ Dictionary.keys [] ↔ x ∈ adapter.mutationIds (w.editions 0)
    rw [hserver.empty]
    exact Iff.rfl
  synced_once := nodup_nil
  revision_le := Nat.zero_le _
  baseline_ever := h.baseline_ever
  baseline_kept := h.baseline_kept
  synced_kept := fun _ x hx => absurd hx not_mem_nil
  remote := fun _ hsome => absurd hsome (by simp [createCatalogServerSync])
  latest := fun _ hsome => absurd hsome (by simp [createCatalogServerSync])
  mirrored := fun _ hsome => absurd hsome (by simp [createCatalogServerSync])
  refreshed_le := fun _ hsome => absurd hsome (by simp [createCatalogServerSync])
  key_sent := fun _ hsome => absurd hsome (by simp [createCatalogServerSync])
  drain := fun _ hsome => absurd hsome (by simp [createCatalogServerSync])
  reading := fun _ hsome => absurd hsome (by simp [createCatalogServerSync])

theorem keeps_initial : Keeps adapter pageCount (World.initial : World δ ι α ω φ) where
  server :=
    { empty := rfl
      current := rfl
      gone := fun _ _ _ hever _ => absurd hever.choose_spec.2 not_mem_nil
      stored := fun _ _ _ hwire => absurd hwire not_mem_nil
      deleted := forall_mem_nil _
      sent := forall_mem_nil _
      keys := forall_mem_nil _
      one_batch := forall_mem_nil _
      results := forall_mem_nil _
      receipts := forall_mem_nil _
      applied := rfl
      keys_once := nodup_nil
      expected_once := nodup_nil }
  devices := fun _ =>
    { synced_ids := fun _ => Iff.rfl
      synced_once := nodup_nil
      revision_le := Nat.le_refl _
      baseline_ever := forall_mem_nil _
      baseline_kept := forall_mem_nil _
      synced_kept := fun _ _ hx => absurd hx not_mem_nil
      remote := fun _ hsome => absurd hsome (by simp [World.initial, createCatalogServerSync])
      latest := fun _ hsome => absurd hsome (by simp [World.initial, createCatalogServerSync])
      mirrored := fun _ hsome => absurd hsome (by simp [World.initial, createCatalogServerSync])
      refreshed_le := fun _ hsome =>
        absurd hsome (by simp [World.initial, createCatalogServerSync])
      key_sent := fun _ hsome => absurd hsome (by simp [World.initial, createCatalogServerSync])
      drain := fun _ hsome => absurd hsome (by simp [World.initial, createCatalogServerSync])
      reading := fun _ hsome => absurd hsome (by simp [World.initial, createCatalogServerSync]) }

theorem Keeps.settled (h : Keeps adapter pageCount w) {d : δ} (hd : w.Settled d) (x : ι) :
    x ∈ adapter.syncableIds (w.devices d).content ↔ x ∈ adapter.mutationIds w.collection.live := by
  obtain ⟨hremote, hrefreshed, snapshot, hmirrored, htaken, hcontent⟩ := hd
  have hdevice := h.devices d
  have hrevision : (w.devices d).collectionRevision = w.collection.revision :=
    Nat.le_antisymm hdevice.revision_le (hdevice.refreshed_le _ hrefreshed)
  calc x ∈ adapter.syncableIds (w.devices d).content
      ↔ x ∈ Dictionary.keys (w.devices d).syncedAnnotations := by
        rw [← hcontent]
        exact (hdevice.mirrored snapshot hmirrored).2 htaken hremote x
    _ ↔ x ∈ adapter.mutationIds (w.editions (w.devices d).collectionRevision) :=
        hdevice.synced_ids x
    _ ↔ x ∈ adapter.mutationIds w.collection.live := by
        rw [hrevision, h.server.current]

section
variable [DecidableEq δ] [DecidableEq ι] [DecidableEq ω] [DecidableEq φ]

omit [DecidableEq ω] [DecidableEq φ] in
theorem Keeps.edit (h : Keeps adapter pageCount w) (d : δ) (content : List α) :
    Keeps adapter pageCount
      { w.withDevice d { w.devices d with content := content } with
        removed := w.removed ++ removedBy adapter (w.devices d).content content } := by
  have hg := World.Grows.edits w d { w.devices d with content := content }
    (removedBy adapter (w.devices d).content content)
  refine h.step ?_ hg rfl (((h.devices d).grows hg).edit fun x hx => ?_)
  · exact h.server.of_grows hg rfl rfl rfl rfl rfl
      (fun request hrequest => (h.server.sent request hrequest).grows hg) h.server.keys
      h.server.one_batch
  · by_cases hin : x ∈ adapter.syncableIds content
    · exact .inl hin
    · exact .inr (mem_append_right _ (mem_filter.mpr ⟨hx, decide_eq_true hin⟩))

theorem Keeps.exec (h : Keeps adapter pageCount w) {event : SyncEvent δ ι α ω}
    (hcareful : Careful w event) (hexec : event.exec adapter pageCount w = .ok w') :
    Keeps adapter pageCount w' := by
  cases event with
  | edit d content =>
    obtain rfl := Except.ok.inj hexec
    exact h.edit d content
  | load d =>
    have hdrain : (w.devices d).drain = none := Option.isNone_iff_eq_none.mp hcareful
    simp only [SyncEvent.exec] at hexec
    obtain ⟨_, hexec⟩ := unless_ok.1 hexec
    obtain rfl := Except.ok.inj hexec
    refine h.withDevice ((h.devices d).withReading hdrain fun r hr => ?_)
    obtain rfl := Option.some.inj hr
    exact ⟨fun content hcontent => absurd hcontent (by simp), readStageKeeps_start _ _⟩
  | refresh d =>
    have hdrain : (w.devices d).drain = none := Option.isNone_iff_eq_none.mp hcareful
    simp only [SyncEvent.exec] at hexec
    obtain ⟨_, hexec⟩ := unless_ok.1 hexec
    obtain ⟨_, hexec⟩ := unless_ok.1 hexec
    obtain rfl := Except.ok.inj hexec
    refine h.withDevice ((h.devices d).withReading hdrain fun r hr => ?_)
    obtain rfl := Option.some.inj hr
    refine ⟨fun content hcontent => ?_, trivial⟩
    obtain rfl := Option.some.inj hcontent
    exact (h.devices d).baseline_kept
  | served d moved =>
    simp only [SyncEvent.exec] at hexec
    split at hexec
    · simp at hexec
    · next reading hreading =>
      obtain ⟨answered, hserve, hexec⟩ := bind_eq_ok.mp hexec
      obtain rfl := Except.ok.inj hexec
      exact h.withDevice ((h.devices d).serve h.server hreading hserve)
  | received d =>
    simp only [SyncEvent.exec] at hexec
    split at hexec
    · simp at hexec
    · next reading hreading =>
      obtain ⟨device, hreceive, hexec⟩ := bind_eq_ok.mp hexec
      obtain rfl := Except.ok.inj hexec
      have hone : oneRevision (some reading) = true := hreading ▸ hcareful
      exact h.withDevice ((h.devices d).receive h.server hreading hone hreceive)
  | readFailed d =>
    obtain rfl := Except.ok.inj hexec
    cases hreading : (w.devices d).reading with
    | none =>
      refine h.withDevice ?_
      rw [← hreading]
      exact h.devices d
    | some reading =>
      exact h.withDevice ((h.devices d).withReading ((h.devices d).reading _ hreading).drain
        fun r hr => absurd hr (by simp))
  | reconcile d =>
    simp only [SyncEvent.exec] at hexec
    obtain ⟨hsome, hexec⟩ := unless_ok.1 hexec
    obtain rfl := Except.ok.inj hexec
    obtain ⟨remote, hremote⟩ := Option.ne_none_iff_exists'.mp (Option.isNone_iff_eq_none.not.mp hsome)
    exact h.withDevice ((h.devices d).adopt h.server hremote (h.devices d).baseline_kept)
  | push d =>
    obtain ⟨step, hpush, hexec⟩ := bind_eq_ok.mp hexec
    obtain rfl := Except.ok.inj hexec
    refine h.sends ((h.devices d).push hpush rfl (fun hremote => ?_) (fun hdrain => ?_)
      fun drain hdrain => ((h.devices d).drain drain hdrain).fresh.2)
    · exact ⟨(h.devices d).synced_kept hremote, World.Accounts.refl _ _⟩
    · obtain ⟨hreading, hremote⟩ := hcareful (Option.isNone_iff_eq_none.mpr hdrain)
      exact ⟨Option.isNone_iff_eq_none.mp hreading, Option.isNone_iff_eq_none.mp hremote⟩
  | retry d =>
    obtain ⟨hreading, hremote, htaken⟩ := hcareful
    simp only [SyncEvent.exec] at hexec
    split at hexec
    · simp at hexec
    · next snapshot hlatest =>
      obtain ⟨hidle, hexec⟩ := unless_ok.1 hexec
      obtain ⟨step, hpush, hexec⟩ := bind_eq_ok.mp hexec
      obtain rfl := Except.ok.inj hexec
      rw [hlatest, Option.all_some, decide_eq_true_eq] at htaken
      refine h.sends ((h.devices d).push hpush htaken ((h.devices d).latest _ hlatest |>.2 htaken)
        (fun _ => ⟨Option.isNone_iff_eq_none.mp hreading, Option.isNone_iff_eq_none.mp hremote⟩)
        fun drain hdrain => absurd (Option.isSome_of_eq_some hdrain) hidle)
  | delivered request =>
    simp only [SyncEvent.exec] at hexec
    obtain ⟨hin, hexec⟩ := when_ok.1 hexec
    exact h.handle hin hexec
  | acknowledged d revision =>
    simp only [SyncEvent.exec] at hexec
    split at hexec
    · next snapshot request batch rest hdrain =>
      obtain ⟨hresult, hexec⟩ := when_ok.1 hexec
      obtain rfl := Except.ok.inj hexec
      exact h.sends ((h.devices d).acknowledge hdrain (h.server.results _ hresult))
    · simp at hexec
  | sendFailed d accessError =>
    simp only [SyncEvent.exec] at hexec
    split at hexec
    · next snapshot request batch rest hdrain =>
      obtain rfl := Except.ok.inj hexec
      exact h.withDevice ((h.devices d).abandon hdrain accessError)
    · simp at hexec
  | readerState d outcome =>
    simp only [SyncEvent.exec] at hexec
    split at hexec
    · next snapshot hdrain =>
      have hkeeps := (h.devices d).drain _ hdrain
      have hmirrors := (h.devices d).mirrors hdrain
      have hlatest : ∀ other, (w.devices d).latest = some other →
          other.taken = (w.devices d).adopted := fun other hother => (hkeeps.queued other hother).1
      cases outcome with
      | unchanged =>
        obtain rfl := Except.ok.inj hexec
        have hnext := hmirrors.drainNext rfl hkeeps.reading hkeeps.remote hlatest
        rw [drainNext_drain w.nextKey { w.devices d with mirrored := some snapshot }] at hnext
        exact h.sends hnext
      | saved =>
        obtain rfl := Except.ok.inj hexec
        have hsaved := hmirrors.saveBaseline rfl hkeeps.reading hkeeps.remote
        have hnext := hsaved.drainNext rfl hkeeps.reading hkeeps.remote hlatest
        have hsame : drainNext adapter w.nextKey
              (saveBaseline { w.devices d with mirrored := some snapshot, drain := none }) =
            drainNext adapter w.nextKey
              (saveBaseline { w.devices d with mirrored := some snapshot }) :=
          drainNext_drain w.nextKey (saveBaseline { w.devices d with mirrored := some snapshot }) none
        rw [hsame] at hnext
        exact h.sends hnext
      | failed accessError =>
        obtain rfl := Except.ok.inj hexec
        exact h.withDevice ((h.devices d).abandon hdrain accessError)
    · simp at hexec
  | reopen d =>
    obtain rfl := Except.ok.inj hexec
    exact h.withDevice ((h.devices d).reopen h.server)

theorem run_keeps {now : Nat} (h : (catalogSync adapter pageCount).Reaches Careful w now) :
    Keeps adapter pageCount w :=
  h.invariant (I := fun w _ => Keeps adapter pageCount w) keeps_initial
    fun _ _ _ _ hkeeps _ hcareful hexec => hkeeps.exec hcareful hexec

end

end LockIn.Workspace
