import LockIn.Pwa.UpdateManager

/-!
# When a window reloads

A window reloads once at most, and its reader has asked for it.  Its status says so while an
update is being applied, and from the moment another window has activated one, as long as no
check comes to its end in between.
-/

namespace LockIn.Pwa

variable {window after next : Window} {careful : Prop}

structure ReaderDecides (window : Window) : Prop where
  once : window.reloads ≤ 1
  asked : 0 < window.reloads → 0 < window.presses
  announced : window.announced = true → window.reloads = 0 → window.status = .reloadRequired
  updating : window.applying = .running → window.status = .updating

def Settleable (window : Window) : Prop :=
  window.applying ≠ .running ∧ (window.status = .reloadRequired → window.reloading = true)

instance (window : Window) : Decidable (Settleable window) :=
  inferInstanceAs (Decidable (_ ∧ _))

/-- A check that writes a status when it ends finds a window that it may write one to. -/
def SettlesInTime (window : Window) (event : Event × Environment) : Prop :=
  match event.1 with
  | .updateFailed => Settleable window
  | .installWaitOver => window.stillInstalling = true ∨ Settleable window
  | _ => True

instance (window : Window) (event : Event × Environment) :
    Decidable (SettlesInTime window event) := by
  obtain ⟨event, env⟩ := event
  cases event <;> unfold SettlesInTime <;> infer_instance

/-! ## Changes that leave the reloads alone -/

/-- The status may be written. -/
def Free (window : Window) : Prop := window.isTaken = false ∨ Settleable window

/-- Nothing is applied, reloaded or announced, and a careful run changes the status only if it may. -/
structure Minor (careful : Prop) (window after : Window) : Prop where
  applying : after.applying = window.applying
  reloading : after.reloading = window.reloading
  reloads : after.reloads = window.reloads
  presses : window.presses ≤ after.presses
  announced : after.announced = window.announced
  registration : after.registration.isNone = window.registration.isNone
  status : careful → after.status = window.status ∨ Free window

theorem isTaken_eq_false : window.isTaken = false ↔
    window.status ≠ .updating ∧ window.status ≠ .reloadRequired := by
  simp [Window.isTaken]

theorem Minor.refl (window : Window) : Minor careful window window :=
  ⟨rfl, rfl, rfl, Nat.le_refl _, rfl, rfl, fun _ => Or.inl rfl⟩

theorem Minor.free (h : Minor careful window after) (hcareful : careful) (hfree : Free after) :
    Free window := by
  rcases h.status hcareful with hsame | hfree'
  · rcases hfree with hnot | ⟨happlying, hreload⟩
    · left
      rw [isTaken_eq_false, ← hsame]
      exact isTaken_eq_false.1 hnot
    · right
      rw [h.applying] at happlying
      rw [hsame, h.reloading] at hreload
      exact ⟨happlying, hreload⟩
  · exact hfree'

theorem Minor.trans (h : Minor careful window after) (h' : Minor careful after next) :
    Minor careful window next := by
  refine ⟨h'.applying.trans h.applying, h'.reloading.trans h.reloading, h'.reloads.trans h.reloads,
    h.presses.trans h'.presses, h'.announced.trans h.announced,
    h'.registration.trans h.registration, fun hcareful => ?_⟩
  rcases h'.status hcareful with hsame | hfree
  · rcases h.status hcareful with hsame' | hfree
    · exact Or.inl (hsame.trans hsame')
    · exact Or.inr hfree
  · exact Or.inr (h.free hcareful hfree)

theorem minor_setStatus (h : careful → Free window) (status : UpdateStatus) :
    Minor careful window (window.setStatus status) :=
  ⟨rfl, rfl, rfl, Nat.le_refl _, rfl, rfl, fun hcareful => Or.inr (h hcareful)⟩

theorem minor_setError (window : Window) (error : String) :
    Minor careful window (window.setError error) :=
  ⟨rfl, rfl, rfl, Nat.le_refl _, rfl, rfl, fun _ => Or.inl rfl⟩

theorem minor_setDismissed (window : Window) (dismissed : Bool) :
    Minor careful window (window.setDismissed dismissed) :=
  ⟨rfl, rfl, rfl, Nat.le_refl _, rfl, rfl, fun _ => Or.inl rfl⟩

theorem minor_setLastCheckedAt (window : Window) (now : Nat) :
    Minor careful window (window.setLastCheckedAt now) :=
  ⟨rfl, rfl, rfl, Nat.le_refl _, rfl, rfl, fun _ => Or.inl rfl⟩

theorem minor_settled (window : Window) : Minor careful window (settled window) :=
  ⟨rfl, rfl, rfl, Nat.le_refl _, rfl, rfl, fun _ => Or.inl rfl⟩

theorem minor_shown (h : careful → Free window) (status : UpdateStatus) (error : String) :
    Minor careful window ((window.setStatus status).setError error) :=
  (minor_setStatus h status).trans (minor_setError _ error)

theorem minor_refreshDismissal (window : Window) (env : Environment) :
    Minor careful window (refreshDismissal window env) := by
  unfold refreshDismissal
  by_cases hover : (window.snapshot.dismissed && window.dismissedUntil ≤ env.now) = true
  · rw [if_pos hover]
    exact minor_setDismissed window false
  · rw [if_neg hover]
    exact Minor.refl window

theorem minor_syncFromRegistration (window : Window) :
    Minor careful window (syncFromRegistration window) := by
  unfold syncFromRegistration
  by_cases hnone : window.registration.isNone = true
  · rw [if_pos hnone]
    exact Minor.refl window
  rw [if_neg hnone]
  by_cases htaken : window.isTaken = true
  · rw [if_pos htaken]
    exact Minor.refl window
  rw [if_neg htaken]
  by_cases hupdate : window.hasUpdate = true
  · rw [if_pos hupdate]
    exact minor_shown (fun _ => Or.inl (Bool.not_eq_true _ ▸ htaken)) _ _
  · rw [if_neg hupdate]
    exact Minor.refl window

theorem minor_workerRedundant (window : Window) : Minor careful window (workerRedundant window) := by
  unfold workerRedundant
  by_cases hchecking : (window.status = .checking && window.inFlight.isNone) = true
  · rw [if_pos hchecking]
    have hstatus : window.status = .checking := by
      simp only [Bool.and_eq_true, decide_eq_true_eq] at hchecking
      exact hchecking.1
    have hfree : careful → Free window := by
      intro _
      left
      rw [isTaken_eq_false, hstatus]
      exact ⟨by decide, by decide⟩
    by_cases hupdate : window.hasUpdate = true
    · rw [if_pos hupdate]
      exact minor_shown hfree _ _
    · rw [if_neg hupdate]
      exact minor_shown hfree _ _
  · rw [if_neg hchecking]
    exact Minor.refl window

theorem minor_startCheck (h : careful → Free window) (env : Environment) (manual : Bool) :
    Minor careful window (startCheck window env manual) :=
  ⟨rfl, rfl, rfl, Nat.le_refl _, rfl, rfl, fun hcareful => Or.inr (h hcareful)⟩

theorem minor_freshCheck (window : Window) (env : Environment) (manual force : Bool) :
    Minor careful window (freshCheck window env manual force) := by
  by_cases htaken : window.isTaken = true
  · rw [freshCheck, if_pos htaken]
    exact Minor.refl window
  have hfree : careful → Free window := fun _ => Or.inl (Bool.not_eq_true _ ▸ htaken)
  have hshown : ∀ shown, (shown = window ∨
      shown = { window.setDismissed false with dismissedUntil := 0 }) →
      Minor careful window shown ∧ (careful → Free shown) := by
    rintro shown (rfl | rfl)
    · exact ⟨Minor.refl _, hfree⟩
    · exact ⟨⟨rfl, rfl, rfl, Nat.le_refl _, rfl, rfl, fun _ => Or.inl rfl⟩, hfree⟩
  obtain ⟨hminor, hfreeShown⟩ := hshown
    (if manual then { window.setDismissed false with dismissedUntil := 0 } else window)
    (by cases manual with
      | true => exact Or.inr rfl
      | false => exact Or.inl rfl)
  rw [freshCheck, if_neg htaken]
  by_cases hnone : window.registration.isNone = true
  · rw [if_pos hnone]
    by_cases hmanual : (manual && window.status ≠ .unsupported) = true
    · rw [if_pos hmanual]
      exact hminor.trans (minor_shown hfreeShown _ _)
    · rw [if_neg hmanual]
      exact hminor
  rw [if_neg hnone]
  by_cases hupdate : window.hasUpdate = true
  · rw [if_pos hupdate]
    exact hminor.trans (minor_shown hfreeShown _ _)
  rw [if_neg hupdate]
  by_cases hoffline : env.isOffline = true
  · rw [if_pos hoffline]
    exact hminor.trans (minor_shown hfreeShown _ _)
  rw [if_neg hoffline]
  by_cases hsoon : (!manual && !force && !shouldCheckForUpdate window.lastAttemptAt env.now) = true
  · rw [if_pos hsoon]
    exact hminor
  · rw [if_neg hsoon]
    exact hminor.trans (minor_startCheck hfreeShown env manual)

theorem minor_check (window : Window) (env : Environment) (manual force : Bool) :
    Minor careful window (check window env manual force) := by
  unfold check
  cases window.inFlight with
  | none => exact minor_freshCheck window env manual force
  | some running =>
    simp only
    by_cases hshared : (!manual || running.manual) = true
    · rw [if_pos hshared]
      exact Minor.refl window
    rw [if_neg hshared]
    by_cases hqueued : window.queuedManual.isNone = true
    · rw [if_pos hqueued]
      exact ⟨rfl, rfl, rfl, Nat.le_refl _, rfl, rfl, fun _ => Or.inl rfl⟩
    · rw [if_neg hqueued]
      exact Minor.refl window

theorem minor_checkFails (h : careful → Free window) (env : Environment) (running : Check) :
    Minor careful window (checkFails window env running) := by
  unfold checkFails
  by_cases hoffline : env.isOffline = true
  · rw [if_pos hoffline]
    exact (minor_setStatus h _).trans (minor_settled _)
  rw [if_neg hoffline]
  by_cases hmanual : running.manual = true
  · rw [if_pos hmanual]
    exact (minor_shown h _ _).trans (minor_settled _)
  rw [if_neg hmanual]
  by_cases hstable : running.previous ∈ stableAfterFailedAutomaticCheck
  · rw [if_pos hstable]
    exact (minor_setStatus h _).trans (minor_settled _)
  · rw [if_neg hstable]
    exact (minor_setStatus h _).trans (minor_settled _)

theorem minor_checkSucceeds (h : careful → window.stillInstalling = true ∨ Settleable window)
    (env : Environment) : Minor careful window (checkSucceeds window env) := by
  unfold checkSucceeds
  by_cases hinstalling : window.stillInstalling = true
  · have hupdate : ¬ window.hasUpdate = true := by
      intro hupdate
      simp [Window.stillInstalling, hupdate] at hinstalling
    rw [if_neg hupdate, if_pos hinstalling]
    exact (minor_setLastCheckedAt window env.now).trans (minor_settled _)
  · have hfree : careful → Free window := fun hcareful =>
      Or.inr ((h hcareful).resolve_left hinstalling)
    by_cases hupdate : window.hasUpdate = true
    · rw [if_pos hupdate]
      exact ((minor_setStatus hfree _).trans (minor_setLastCheckedAt _ env.now)).trans (minor_settled _)
    · rw [if_neg hupdate, if_neg hinstalling]
      exact ((minor_setStatus hfree _).trans (minor_setLastCheckedAt _ env.now)).trans (minor_settled _)

theorem minor_onOnline (window : Window) (env : Environment) :
    Minor careful window (onOnline window env) := by
  have hback : Minor careful window
      (if window.status = .offline then window.setStatus .idle else window) := by
    by_cases hoffline : window.status = .offline
    · rw [if_pos hoffline]
      refine minor_setStatus (fun _ => Or.inl ?_) _
      rw [isTaken_eq_false, hoffline]
      exact ⟨by decide, by decide⟩
    · rw [if_neg hoffline]
      exact Minor.refl window
  exact (hback.trans (minor_refreshDismissal _ env)).trans (minor_check _ env false true)

theorem minor_onOffline (window : Window) : Minor careful window (onOffline window) := by
  unfold onOffline
  by_cases hquiet : (window.status = .idle || window.status = .upToDate ||
      window.status = .error) = true
  · rw [if_pos hquiet]
    refine minor_shown (fun _ => Or.inl ?_) _ _
    rw [isTaken_eq_false]
    simp only [Bool.or_eq_true, decide_eq_true_eq] at hquiet
    rcases hquiet with (hstatus | hstatus) | hstatus
    all_goals rw [hstatus]; exact ⟨by decide, by decide⟩
  · rw [if_neg hquiet]
    exact Minor.refl window

/-! ## What holds of a window -/

structure Kept (careful : Prop) (window : Window) : Prop where
  reloads : window.reloads = if window.reloading then 1 else 0
  pressed : window.reloading = true → 0 < window.presses
  announced : careful →
    window.announced = true → window.reloading = false → window.status = .reloadRequired
  updating : careful → window.applying = .running → window.status = .updating
  started : window.applying = .running → 0 < window.presses
  detached : window.registration.isNone = true → window.applying = .no ∧ window.announced = false

theorem kept_newWindow : Kept careful newWindow := by
  refine ⟨rfl, ?_, fun _ => ?_, fun _ => ?_, ?_, fun _ => ⟨rfl, rfl⟩⟩
  all_goals intro h; exact absurd h (by decide)

theorem Kept.once (h : Kept careful window) :
    window.reloads ≤ 1 ∧ (0 < window.reloads → 0 < window.presses) := by
  have hreloads := h.reloads
  cases hreloading : window.reloading with
  | true =>
    rw [hreloading] at hreloads
    exact ⟨hreloads.le, fun _ => h.pressed hreloading⟩
  | false =>
    rw [hreloading] at hreloads
    have hnone : window.reloads = 0 := hreloads
    exact ⟨hnone.le.trans (Nat.zero_le 1), fun hpositive => absurd hnone hpositive.ne'⟩

theorem Kept.readerDecides (h : Kept True window) : ReaderDecides window := by
  refine ⟨h.once.1, h.once.2, fun hannounced hnone => ?_, h.updating trivial⟩
  have hreloads := h.reloads
  cases hreloading : window.reloading with
  | false => exact h.announced trivial hannounced hreloading
  | true =>
    rw [hreloading, hnone] at hreloads
    cases hreloads

theorem Kept.minor (h : Kept careful window) (hminor : Minor careful window after) : Kept careful after := by
  refine ⟨?_, ?_, ?_, ?_, ?_, ?_⟩
  · rw [hminor.reloads, hminor.reloading]
    exact h.reloads
  · intro hreloading
    have hpressed := h.pressed (hminor.reloading ▸ hreloading)
    have hpresses := hminor.presses
    omega
  · intro hcareful hannounced hreloading
    have hstatus :=
      h.announced hcareful (hminor.announced ▸ hannounced) (hminor.reloading ▸ hreloading)
    rcases hminor.status hcareful with hsame | hnot | ⟨_, hreload⟩
    · exact hsame.trans hstatus
    · exact absurd hstatus (isTaken_eq_false.1 hnot).2
    · have hno := hminor.reloading.trans (hreload hstatus)
      rw [hreloading] at hno
      exact absurd hno (by decide)
  · intro hcareful hrunning
    have happlying := hminor.applying.symm.trans hrunning
    have hstatus := h.updating hcareful happlying
    rcases hminor.status hcareful with hsame | hnot | ⟨hno, _⟩
    · exact hsame.trans hstatus
    · exact absurd hstatus (isTaken_eq_false.1 hnot).1
    · exact absurd happlying hno
  · intro hrunning
    have hpositive := h.started (hminor.applying.symm.trans hrunning)
    have hpresses := hminor.presses
    omega
  · intro hnone
    rw [hminor.applying, hminor.announced]
    exact h.detached (hminor.registration ▸ hnone)

theorem reloading_reloadOnce (window : Window) : (reloadOnce window).reloading = true := by
  unfold Pwa.reloadOnce
  by_cases hreloading : window.reloading = true
  · rw [if_pos hreloading]
    exact hreloading
  · rw [if_neg hreloading]

theorem Kept.reloadOnce (h : Kept careful window) (hpressed : 0 < window.presses) :
    Kept careful (reloadOnce window) := by
  unfold Pwa.reloadOnce
  by_cases hreloading : window.reloading = true
  · rw [if_pos hreloading]
    exact h
  · rw [if_neg hreloading]
    have hreloads := h.reloads
    rw [if_neg hreloading] at hreloads
    refine ⟨?_, fun _ => hpressed, fun _ _ (hno : true = false) => absurd hno (by decide), h.updating,
      fun _ => hpressed, h.detached⟩
    show window.reloads + 1 = 1
    omega

theorem Kept.applyUpdate (h : Kept careful window) (env : Environment) : Kept careful (applyUpdate window env) := by
  have hpressed : Kept careful { window with presses := window.presses + 1 } :=
    h.minor ⟨rfl, rfl, rfl, Nat.le_succ _, rfl, rfl, fun _ => Or.inl rfl⟩
  unfold Pwa.applyUpdate
  by_cases hrunning : window.applying ≠ .no
  · rw [if_pos hrunning]
    exact hpressed
  rw [if_neg hrunning]
  by_cases hreload : window.status = .reloadRequired
  · rw [if_pos hreload]
    exact hpressed.reloadOnce (Nat.succ_pos _)
  rw [if_neg hreload]
  by_cases hwaiting : window.registration.any (·.waiting) = true
  · rw [if_pos hwaiting]
    refine ⟨hpressed.reloads, hpressed.pressed, ?_, fun _ _ => rfl, fun _ => Nat.succ_pos _, ?_⟩
    · intro hcareful hannounced hreloading
      exact absurd (h.announced hcareful hannounced hreloading) hreload
    · intro hnone
      have hnone' : window.registration = none := Option.isNone_iff_eq_none.1 hnone
      rw [hnone'] at hwaiting
      exact absurd hwaiting (by decide)
  rw [if_neg hwaiting]
  by_cases hchanged : window.controllerChanged = true
  · rw [if_pos hchanged]
    exact hpressed.reloadOnce (Nat.succ_pos _)
  · rw [if_neg hchanged]
    exact hpressed.minor (minor_check _ env true false)

theorem Kept.finish (h : Kept careful window) (hrunning : window.applying = .running) (reload : Bool) :
    Kept careful (finish window reload) := by
  have hpressed := h.started hrunning
  have hregistered : ¬ window.registration.isNone = true := by
    intro hnone
    rw [(h.detached hnone).1] at hrunning
    exact absurd hrunning (by decide)
  unfold Pwa.finish
  cases reload with
  | true =>
    simp only [if_true]
    have hreloaded := h.reloadOnce hpressed
    have hreloaded_presses := hreloaded.pressed (reloading_reloadOnce window)
    refine ⟨hreloaded.reloads, hreloaded.pressed, hreloaded.announced,
      fun _ (hno : Applying.reloaded = .running) => absurd hno (by decide),
      fun _ => hreloaded_presses, ?_⟩
    intro hnone
    have hsame : (Pwa.reloadOnce window).registration = window.registration := by
      unfold Pwa.reloadOnce
      by_cases hreloading : window.reloading = true
      · rw [if_pos hreloading]
      · rw [if_neg hreloading]
    exact absurd (hsame ▸ hnone) hregistered
  | false =>
    simp only [Bool.false_eq_true, if_false]
    refine ⟨h.reloads, h.pressed, ?_,
      fun _ (hno : Applying.no = .running) => absurd hno (by decide),
      fun _ => hpressed, fun hnone => absurd hnone hregistered⟩
    intro hcareful hannounced hreloading
    have hstatus := h.announced hcareful hannounced hreloading
    rw [h.updating hcareful hrunning] at hstatus
    exact absurd hstatus (by decide)

theorem Kept.onControllerChange (h : Kept careful window) (hregistered : ¬ window.registration.isNone = true) :
    Kept careful (onControllerChange window) := by
  have hchanged : Kept careful { window with
      hadController := true
      controllerChanged := window.hadController || window.controllerChanged } :=
    h.minor ⟨rfl, rfl, rfl, Nat.le_refl _, rfl, rfl, fun _ => Or.inl rfl⟩
  unfold Pwa.onControllerChange
  by_cases happlying : window.applying ≠ .no
  · rw [if_pos happlying]
    exact hchanged
  rw [if_neg happlying]
  by_cases hbefore : window.hadController = true
  · rw [if_pos hbefore]
    have hno : window.applying = .no := not_not.1 happlying
    have hidle : window.applying ≠ .running := by
      rw [hno]
      decide
    exact ⟨h.reloads, h.pressed, fun _ _ _ => rfl, fun _ hrunning => absurd hrunning hidle,
      fun hrunning => absurd hrunning hidle, fun hnone => absurd hnone hregistered⟩
  · rw [if_neg hbefore]
    exact hchanged

theorem Kept.controllerChange (h : Kept careful window) : Kept careful (controllerChange window) := by
  unfold Pwa.controllerChange
  by_cases hnone : window.registration.isNone = true
  · rw [if_pos hnone]
    exact h
  rw [if_neg hnone]
  have hchanged := h.onControllerChange hnone
  by_cases hrunning : window.applying = .running
  · rw [if_pos hrunning]
    have happlying : (Pwa.onControllerChange window).applying = .running := by
      have hno : window.applying ≠ .no := by
        rw [hrunning]
        decide
      rw [Pwa.onControllerChange, if_pos hno]
      exact hrunning
    exact hchanged.finish happlying true
  · rw [if_neg hrunning]
    exact hchanged

theorem Kept.attach (h : Kept careful window) (controlled : Bool) (registration : Registration) :
    Kept careful (attach window controlled registration) := by
  unfold Pwa.attach
  by_cases hsome : window.registration.isSome = true
  · rw [if_pos hsome]
    exact h
  · rw [if_neg hsome]
    have hattached : Kept careful { window with
        registration := some registration
        hadController := controlled } :=
      ⟨h.reloads, h.pressed, h.announced, h.updating, h.started, fun hno => absurd hno (by simp)⟩
    exact hattached.minor (minor_syncFromRegistration _)

theorem Kept.exec (h : Kept careful window) {event : Event} {env : Environment}
    (hsettles : careful → SettlesInTime window (event, env)) (hexec : event.exec window env = .ok after) :
    Kept careful after := by
  cases event with
  | attach controlled registration =>
    cases hexec
    exact h.attach controlled registration
  | unsupported =>
    by_cases hsome : window.registration.isSome = true
    · rw [Event.exec, if_pos hsome] at hexec
      simp at hexec
    · rw [Event.exec, if_neg hsome] at hexec
      cases hexec
      obtain ⟨hno, hsilent⟩ := h.detached (by simpa using hsome)
      have hidle : window.applying ≠ .running := by
        rw [hno]
        decide
      refine ⟨h.reloads, h.pressed, ?_, fun _ hrunning => absurd hrunning hidle, h.started, h.detached⟩
      intro _ hannounced
      exact absurd (hsilent.symm.trans hannounced) (by decide)
  | workers registration =>
    by_cases hsome : window.registration.isSome = true
    · rw [Event.exec, if_pos hsome] at hexec
      cases hexec
      exact ⟨h.reloads, h.pressed, h.announced, h.updating, h.started, fun hno => absurd hno (by simp)⟩
    · rw [Event.exec, if_neg hsome] at hexec
      simp at hexec
  | workerInstalled =>
    cases hexec
    exact h.minor (minor_syncFromRegistration window)
  | workerRedundant =>
    cases hexec
    exact h.minor (minor_workerRedundant window)
  | check manual force =>
    cases hexec
    exact h.minor (minor_check window env manual force)
  | automatic =>
    cases hexec
    exact h.minor ((minor_refreshDismissal window env).trans (minor_check _ env false false))
  | updateAnswered =>
    rcases hflight : window.inFlight with _ | ⟨manual, previous, _ | _⟩
    all_goals simp only [Event.exec, hflight] at hexec
    · simp at hexec
    · cases hexec
      exact h.minor ⟨rfl, rfl, rfl, Nat.le_refl _, rfl, rfl, fun _ => Or.inl rfl⟩
    · simp at hexec
  | updateFailed =>
    have hsettleable : careful → Settleable window := hsettles
    rcases hflight : window.inFlight with _ | ⟨manual, previous, _ | _⟩
    all_goals simp only [Event.exec, hflight] at hexec
    · simp at hexec
    · cases hexec
      exact h.minor (minor_checkFails (fun hcareful => Or.inr (hsettleable hcareful)) env _)
    · simp at hexec
  | installWaitOver =>
    rcases hflight : window.inFlight with _ | ⟨manual, previous, _ | _⟩
    all_goals simp only [Event.exec, hflight] at hexec
    · simp at hexec
    · simp at hexec
    · cases hexec
      exact h.minor (minor_checkSucceeds hsettles env)
  | queuedCheck =>
    by_cases hqueued : window.queuedManual = some true
    · rw [Event.exec, if_pos hqueued] at hexec
      cases hexec
      have hcleared : Kept careful { window with queuedManual := none } :=
        h.minor ⟨rfl, rfl, rfl, Nat.le_refl _, rfl, rfl, fun _ => Or.inl rfl⟩
      exact hcleared.minor (minor_check _ env true false)
    · rw [Event.exec, if_neg hqueued] at hexec
      simp at hexec
  | applyUpdate =>
    cases hexec
    exact h.applyUpdate env
  | activationTimeout activated =>
    by_cases hrunning : window.applying = .running
    · rw [Event.exec, if_pos hrunning] at hexec
      cases hexec
      exact h.finish hrunning activated
    · rw [Event.exec, if_neg hrunning] at hexec
      simp at hexec
  | activationFailed =>
    by_cases hrunning : window.applying = .running
    · rw [Event.exec, if_pos hrunning] at hexec
      cases hexec
      exact h.finish hrunning false
    · rw [Event.exec, if_neg hrunning] at hexec
      simp at hexec
  | controllerChange =>
    cases hexec
    exact h.controllerChange
  | online =>
    by_cases hsome : window.registration.isSome = true
    · rw [Event.exec, if_pos hsome] at hexec
      cases hexec
      exact h.minor (minor_onOnline window env)
    · rw [Event.exec, if_neg hsome] at hexec
      simp at hexec
  | offline =>
    by_cases hsome : window.registration.isSome = true
    · rw [Event.exec, if_pos hsome] at hexec
      cases hexec
      exact h.minor (minor_onOffline window)
    · rw [Event.exec, if_neg hsome] at hexec
      simp at hexec
  | dismiss =>
    cases hexec
    exact h.minor ⟨rfl, rfl, rfl, Nat.le_refl _, rfl, rfl, fun _ => Or.inl rfl⟩

/-- In every run the page reloads once at most, and only after a press. -/
theorem reloads_once {now : Nat} (h : updates.Reaches Machine.Always window now) :
    window.reloads ≤ 1 ∧ (0 < window.reloads → 0 < window.presses) := by
  have hkept : Kept False window := h.invariant (I := fun window _ => Kept False window)
    kept_newWindow fun _ _ _ _ hkept _ _ hexec => hkept.exec False.elim hexec
  exact hkept.once

/-- In every run whose checks end while no apply runs and no reload is due, the reader decides
and is told. -/
theorem reader_decides (window : Window) (now : Nat)
    (h : updates.Reaches SettlesInTime window now) : ReaderDecides window :=
  (h.invariant (I := fun window _ => Kept True window) kept_newWindow
    fun _ _ _ _ hkept _ hsettles hexec => hkept.exec (fun _ => hsettles) hexec).readerDecides

def oldBuild : Registration := ⟨false, false, true⟩

def newBuildWaits : Registration := ⟨true, false, true⟩

def foundAndApplied : List (Event × Environment) :=
  [(.attach true oldBuild, ⟨1, false⟩), (.check false true, ⟨2, false⟩),
    (.updateAnswered, ⟨3, false⟩), (.workers newBuildWaits, ⟨4, false⟩),
    (.installWaitOver, ⟨5, false⟩), (.applyUpdate, ⟨6, false⟩), (.controllerChange, ⟨7, false⟩)]

theorem foundAndApplied_decided : ReaderDecides (updates.outcome foundAndApplied) :=
  reader_decides _ _ (.of_accepts (by decide +kernel) (by decide +kernel) (by decide +kernel))

def takenOverMeanwhile : List (Event × Environment) :=
  [(.attach true oldBuild, ⟨1, false⟩), (.check false true, ⟨2, false⟩),
    (.controllerChange, ⟨3, false⟩), (.updateAnswered, ⟨4, false⟩), (.installWaitOver, ⟨5, false⟩)]

theorem check_forgets_the_reload :
    ¬ ∀ (window : Window) (now : Nat),
      updates.Reaches Machine.Always window now → ReaderDecides window := by
  intro h
  have hdecides := h _ _ (@Machine.Reaches.of_accepts _ _ _ updates Machine.Always takenOverMeanwhile
    (by decide +kernel) (by decide +kernel) (Machine.admitted_always _ _))
  have hforgotten : (updates.outcome takenOverMeanwhile).announced = true ∧
      (updates.outcome takenOverMeanwhile).reloads = 0 ∧
      (updates.outcome takenOverMeanwhile).status = .upToDate := by
    decide +kernel
  have hstatus := hdecides.announced hforgotten.1 hforgotten.2.1
  rw [hforgotten.2.2] at hstatus
  exact absurd hstatus (by decide)

end LockIn.Pwa
