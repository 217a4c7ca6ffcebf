import LockIn.Offline.Lease

/-!
# When offline access ends

The stored floor never falls below the wall clock of the save, and an anchor is at most the
tolerance below the floor, so a page tells the true time since its anchor and cannot be wound
back.  What a page does not tell is how long the device was away before it: a clock that is set
back meanwhile gives the lease its hours again, as long as it is not set back behind the floor.
-/

namespace LockIn.OfflineLease

open List

variable {build : Build} {user : Nat} {lease : Lease} {before device : Device} {start : Int}
  {readings : List Reading} {reading first : Reading} {record : Record} {claims : Claims}
  {anchor : Option Anchor} {wall tick : Int} {stillCurrent : Bool} {page now : Nat}

theorem verifyLease_ok {token : Token} {key : Option Nat}
    (h : verifyLease build token user key = some claims) :
    claims = token.claims ∧ claims.exp - claims.iat ≤ leaseSeconds := by
  unfold verifyLease at h
  split at h
  · simp at h
  split at h
  · simp at h
  split at h
  · simp at h
  split at h
  · simp at h
  rename_i hclaims
  obtain rfl := Option.some.inj h
  refine ⟨rfl, ?_⟩
  simp only [Bool.or_eq_true, decide_eq_true_eq, not_or] at hclaims
  exact Int.not_lt.1 hclaims.1.2

/-- A device with the server's key accepts what the server issues, and not beyond the access. -/
theorem issued_verifies {key : Nat} {decision : AccessDecision} {verifiedAt : Int}
    (hcrypto : build.crypto = true)
    (hissue : issueOfflineLease key user decision verifiedAt = .ok lease)
    (hiat : isSafeInteger lease.token.claims.iat = true)
    (hexp : isSafeInteger lease.token.claims.exp = true) :
    verifyLease build lease.token user (some key) = some lease.token.claims ∧
      ∀ ending ∈ decision.expiresAt, lease.token.claims.exp * second ≤ ending := by
  unfold issueOfflineLease at hissue
  split_ifs at hissue
  obtain rfl := Except.ok.inj hissue
  set day := verifiedAt + leaseSeconds * second with hday
  have hlasts : min day (decision.expiresAt.getD day) / second - verifiedAt / second ≤ leaseSeconds := by
    unfold leaseSeconds second at *
    omega
  have hends : ∀ ending ∈ decision.expiresAt, min day (decision.expiresAt.getD day) ≤ ending := by
    intro ending hending
    rw [Option.mem_def.1 hending]
    exact Int.min_le_right _ _
  constructor
  · have hany : (decision.expiresAt.any fun ending => decide (ending / second <
        min day (decision.expiresAt.getD day) / second)) = false := by
      rw [Option.any_eq_false]
      exact fun ending hending => by
        simpa using Int.ediv_le_ediv (by decide : 0 < second) (hends ending hending)
    simp [verifyLease, hcrypto, hiat, hexp, Int.not_lt.2 hlasts, Option.any_map, hany]
  · exact fun ending hending => (Int.ediv_mul_le _ (by decide)).trans (hends ending hending)

def savedRecord (lease : Lease) (start : Int) (key : Nat) : Record :=
  ⟨lease.token, key, start, some (max 0 (lease.token.claims.iat * second - start))⟩

theorem saveVerifiedLease_ok (h : saveVerifiedLease build before user lease start = some device) :
    ∃ key opened, device = ⟨some (savedRecord lease start key),
      some ⟨lease.token, start, -opened⟩, opened, 0, [], []⟩ := by
  unfold saveVerifiedLease at h
  split at h
  · simp at h
  rename_i key _
  split at h
  · simp at h
  split at h
  · simp at h
  rename_i claims hverify
  obtain ⟨rfl, _⟩ := verifyLease_ok hverify
  obtain rfl := Option.some.inj h
  refine ⟨key, before.opened, ?_⟩
  simp only [savedRecord, performanceNow, Int.zero_sub]

def duration (lease : Lease) : Int := (lease.token.claims.exp - lease.token.claims.iat) * second

structure FirstOf (readings : List Reading) (page : Nat) (first : Reading) : Prop where
  mem : first ∈ readings
  inPage : first.page = page
  anchored : first.anchored = true
  earliest : ∀ other ∈ readings, other.page = page → other.anchored = true → first.now ≤ other.now

/-- Compared with the true time since the save, the wall clock was not set back by more than the
tolerance. -/
def KeptPace (start : Int) (reading : Reading) : Prop :=
  start + reading.now ≤ reading.wall + clockRollbackTolerance

/-- An answer that content is available came in time: in the page that saved the lease before the
lease ran out, in any page before it ran out since the first reading of the page, and since the
save unless the clock was set back both then and now. -/
def InTime (lease : Lease) (start : Int) (readings : List Reading) (reading : Reading) : Prop :=
  (reading.page = 0 → (reading.now : Int) < duration lease) ∧
    ∃ first, FirstOf readings reading.page first ∧
      (reading.now : Int) < first.now + duration lease + clockRollbackTolerance ∧
      (KeptPace start first ∨ KeptPace start reading →
        (reading.now : Int) < duration lease + clockRollbackTolerance)

def Sound (lease : Lease) (start : Int) (readings : List Reading) : Prop :=
  ∀ reading ∈ readings, reading.available = true → InTime lease start readings reading

variable {other : Reading}

theorem FirstOf.append (h : FirstOf readings page first) (hlater : first.now ≤ other.now) :
    FirstOf (readings ++ [other]) page first where
  mem := mem_append_left _ h.mem
  inPage := h.inPage
  anchored := h.anchored
  earliest := by
    intro reading hmem hpage hanchored
    rcases mem_append.1 hmem with hold | hnew
    · exact h.earliest reading hold hpage hanchored
    · rw [mem_singleton.1 hnew]
      exact hlater

theorem InTime.append (h : InTime lease start readings reading)
    (hlater : ∀ earlier ∈ readings, earlier.now ≤ other.now) :
    InTime lease start (readings ++ [other]) reading := by
  obtain ⟨hsaving, first, hfirst, hpage, hpace⟩ := h
  exact ⟨hsaving, first, hfirst.append (hlater first hfirst.mem), hpage, hpace⟩

structure OfLease (lease : Lease) (start : Int) (record : Record) : Prop where
  token : record.token = lease.token
  serverOffset : record.serverOffset = some (max 0 (lease.token.claims.iat * second - start))
  trustedWall : start ≤ record.trustedWall

structure AnchoredAt (lease : Lease) (start : Int) (page : Nat) (opened : Int) (readings : List Reading)
    (anchor : Anchor) (first : Reading) : Prop where
  token : anchor.token = lease.token
  firstOf : FirstOf readings page first
  wall : anchor.wall = first.wall
  tick : anchor.tick = first.now - opened
  floor : start ≤ anchor.wall + clockRollbackTolerance
  saving : page = 0 → first.now = 0 ∧ first.wall = start

structure Kept (lease : Lease) (start : Int) (run : Device × List Reading) (now : Nat) : Prop where
  stored : ∀ record, run.1.stored = some record → OfLease lease start record
  reads : ∀ record, some record ∈ run.1.reads → OfLease lease start record
  writes : ∀ record ∈ run.1.writes, OfLease lease start record
  past : ∀ reading ∈ run.2, reading.page ≤ run.1.page ∧ reading.now ≤ now
  free : run.1.anchor = none →
    run.1.page ≠ 0 ∧ ∀ reading ∈ run.2, reading.page = run.1.page → reading.anchored = false
  anchored : ∀ anchor, run.1.anchor = some anchor → ∃ first,
    AnchoredAt lease start run.1.page run.1.opened run.2 anchor first
  sound : Sound lease start run.2

theorem kept_saved (h : saveVerifiedLease build before user lease start = some device) :
    Kept lease start (offline build user device start).init 0 := by
  obtain ⟨key, opened, rfl⟩ := saveVerifiedLease_ok h
  constructor
  · intro record hstored
    obtain rfl := Option.some.inj hstored
    exact ⟨rfl, rfl, Int.le_refl start⟩
  · intro record hread
    exact absurd hread not_mem_nil
  · intro record hwrite
    exact absurd hwrite not_mem_nil
  · intro reading hmem
    rw [mem_singleton.1 hmem]
    exact ⟨Nat.le_refl 0, Nat.le_refl 0⟩
  · intro hnone
    exact absurd hnone (by simp [offline])
  · intro anchor hanchor
    obtain rfl := Option.some.inj hanchor
    refine ⟨⟨0, start, 0, true, false⟩, rfl, ⟨mem_singleton_self _, rfl, rfl, ?_⟩, rfl, ?_, ?_,
      fun _ => ⟨rfl, rfl⟩⟩
    · intro other hother _ _
      exact Nat.zero_le _
    · simp [offline]
    · show start ≤ start + clockRollbackTolerance
      unfold clockRollbackTolerance second
      omega
  · intro reading hmem havailable
    rw [mem_singleton.1 hmem] at havailable
    simp at havailable

structure Passed (build : Build) (user : Nat) (anchor : Option Anchor) (wall tick : Int)
    (record : Record) (answer : Status × Option Anchor × Option Record) : Prop where
  anchored : answer.1.isAnchored = true
  floor : record.serverOffset.isSome = true → record.trustedWall ≤ wall + clockRollbackTolerance
  taken : answer.2.1 = some (anchorFor anchor record.token wall tick)
  written : ∀ written, answer.2.2 = some written →
    written = { record with trustedWall := wall } ∧ record.trustedWall ≤ wall
  available : answer.1 = .available →
    max wall ((anchorFor anchor record.token wall tick).wall +
      max 0 (tick - (anchorFor anchor record.token wall tick).tick)) + record.serverOffset.getD 0 <
        record.token.claims.exp * second

theorem offlineAccessStatus_ok (build : Build) (user : Nat) (stored : Option Record)
    (anchor : Option Anchor) (wall tick : Int) (stillCurrent : Bool) :
    ((offlineAccessStatus build user stored anchor wall tick stillCurrent).1.isAnchored = false ∧
      (offlineAccessStatus build user stored anchor wall tick stillCurrent).2 = (anchor, none)) ∨
      ∃ record, stored = some record ∧ Passed build user anchor wall tick record
        (offlineAccessStatus build user stored anchor wall tick stillCurrent) := by
  cases stored with
  | none => exact .inl ⟨rfl, rfl⟩
  | some record =>
    cases hverify : verifyLease build record.token user (pinned build record.publicKey) with
    | none =>
      left
      simp only [offlineAccessStatus, hverify]
      exact ⟨rfl, trivial⟩
    | some claims =>
      obtain ⟨rfl, _⟩ := verifyLease_ok hverify
      simp only [offlineAccessStatus, hverify]
      split
      · exact .inl ⟨rfl, rfl⟩
      rename_i hfloor
      right
      have htrusted : record.serverOffset.isSome = true →
          record.trustedWall ≤ wall + clockRollbackTolerance := by
        intro hsome
        obtain ⟨offset, hoffset⟩ := Option.isSome_iff_exists.1 hsome
        have hle := Int.not_lt.1 hfloor
        simpa [floorOf, hoffset] using hle
      refine ⟨record, rfl, ?_⟩
      split
      · exact ⟨rfl, htrusted, rfl, by simp, by simp⟩
      rename_i hexpired
      split
      · exact ⟨rfl, htrusted, rfl, by simp, by simp⟩
      refine ⟨rfl, htrusted, rfl, ?_, fun _ => Int.not_le.1 hexpired⟩
      intro written hwritten
      split at hwritten
      · rename_i hminute
        refine ⟨(Option.some.inj hwritten).symm, ?_⟩
        unfold second at hminute
        omega
      · simp at hwritten

/-- The lease runs from its own issuing, however late the device believes it to be. -/
theorem OfLease.le_offset (h : OfLease lease start record) :
    lease.token.claims.iat * second ≤ start + record.serverOffset.getD 0 := by
  rw [h.serverOffset, Option.getD_some]
  omega

theorem OfLease.isSome (h : OfLease lease start record) : record.serverOffset.isSome = true := by
  rw [h.serverOffset]
  rfl

theorem anchorFor_some {taken : Anchor} {token : Token} (h : taken.token = token) (wall tick : Int) :
    anchorFor (some taken) token wall tick = taken := by
  subst h
  simp [anchorFor]

theorem inTime_of_available {taken : Anchor} {opened : Int} (hlease : OfLease lease start record)
    (htaken : AnchoredAt lease start reading.page opened readings taken first)
    (havailable : max reading.wall (taken.wall + max 0 (reading.now - opened - taken.tick)) +
      record.serverOffset.getD 0 < lease.token.claims.exp * second) :
    InTime lease start readings reading := by
  have hoffset := hlease.le_offset
  have hwall := htaken.wall
  have hfloor := htaken.floor
  have helapsed : (reading.now : Int) - opened - taken.tick = reading.now - first.now := by
    rw [htaken.tick]
    omega
  rw [helapsed] at havailable
  have hlast := Int.le_max_left reading.wall (taken.wall + max 0 ((reading.now : Int) - first.now))
  have hanchor := Int.le_max_right reading.wall (taken.wall + max 0 ((reading.now : Int) - first.now))
  have hpassed := Int.le_max_right 0 ((reading.now : Int) - first.now)
  have hduration : duration lease = lease.token.claims.exp * second - lease.token.claims.iat * second :=
    Int.sub_mul ..
  rw [InTime, hduration]
  refine ⟨?_, first, htaken.firstOf, ?_, ?_⟩
  · intro hsaving
    obtain ⟨hnow, hstart⟩ := htaken.saving hsaving
    omega
  · omega
  · rintro (hpace | hpace)
    · unfold KeptPace at hpace
      omega
    · unfold KeptPace at hpace
      omega

section
variable {opened : Int} {answered : Reading}

theorem AnchoredAt.append {taken : Anchor} (h : AnchoredAt lease start page opened readings taken first)
    (hlater : first.now ≤ answered.now) :
    AnchoredAt lease start page opened (readings ++ [answered]) taken first :=
  ⟨h.token, h.firstOf.append hlater, h.wall, h.tick, h.floor, h.saving⟩

theorem Kept.anchorFor (answered : Reading) (h : Kept lease start (device, readings) now)
    (hle : now ≤ answered.now) (hlease : OfLease lease start record) (hpage : answered.page = device.page)
    (hanchored : answered.anchored = true)
    (hfloor : record.trustedWall ≤ answered.wall + clockRollbackTolerance) :
    ∃ first, AnchoredAt lease start answered.page device.opened (readings ++ [answered])
      (anchorFor device.anchor record.token answered.wall (performanceNow device answered.now)) first := by
  rw [hlease.token, hpage]
  cases hanchor : device.anchor with
  | some taken =>
    obtain ⟨first, htaken⟩ := h.anchored taken hanchor
    rw [anchorFor_some htaken.token]
    exact ⟨first, htaken.append ((h.past first htaken.firstOf.mem).2.trans hle)⟩
  | none =>
    obtain ⟨hopened, hfree⟩ := h.free hanchor
    refine ⟨answered, rfl, ⟨mem_append_right _ (mem_singleton_self _), hpage, hanchored, ?_⟩, rfl,
      rfl, ?_, fun hsaving => absurd hsaving hopened⟩
    · intro other hother hotherPage hotherAnchored
      rcases mem_append.1 hother with hold | hnew
      · rw [hfree other hold hotherPage] at hotherAnchored
        simp at hotherAnchored
      · rw [mem_singleton.1 hnew]
    · exact hlease.trustedWall.trans hfloor

theorem Kept.past_append (h : Kept lease start (device, readings) now) (hle : now ≤ answered.now)
    (hpage : answered.page = device.page) :
    ∀ reading ∈ readings ++ [answered], reading.page ≤ device.page ∧ reading.now ≤ answered.now := by
  intro reading hmem
  rcases mem_append.1 hmem with hold | hnew
  · exact ⟨(h.past reading hold).1, (h.past reading hold).2.trans hle⟩
  · rw [mem_singleton.1 hnew]
    exact ⟨Nat.le_of_eq hpage, Nat.le_refl _⟩

theorem Kept.sound_append (h : Kept lease start (device, readings) now) (hle : now ≤ answered.now)
    (hnew : answered.available = true → InTime lease start (readings ++ [answered]) answered) :
    Sound lease start (readings ++ [answered]) := by
  intro reading hmem havailable
  rcases mem_append.1 hmem with hold | hlast
  · exact (h.sound reading hold havailable).append fun earlier hearlier =>
      (h.past earlier hearlier).2.trans hle
  · rw [mem_singleton.1 hlast] at havailable ⊢
    exact hnew havailable

end

theorem Kept.answer {position later : Nat} {stored : Option Record} {answer : Status × Option Anchor × Option Record}
    (h : Kept lease start (device, readings) now) (hle : now ≤ later)
    (hstored : device.reads[position]? = some stored)
    (hanswer : offlineAccessStatus build user stored device.anchor wall (performanceNow device later)
      stillCurrent = answer) :
    Kept lease start ({ device with
        anchor := answer.2.1
        reads := device.reads.eraseIdx position
        writes := device.writes ++ answer.2.2.toList },
      readings ++ [⟨later, wall, device.page, answer.1.isAnchored, answer.1 = .available⟩]) later := by
  have hmem : stored ∈ device.reads := mem_of_getElem? hstored
  have hreads : ∀ record, some record ∈ device.reads.eraseIdx position → OfLease lease start record :=
    fun record hread => h.reads record (mem_of_mem_eraseIdx hread)
  have hcases := offlineAccessStatus_ok build user stored device.anchor wall (performanceNow device later)
    stillCurrent
  rw [hanswer] at hcases
  rcases hcases with ⟨hrefused, hsame⟩ | ⟨record, rfl, hpassed⟩
  · have hunavailable : decide (answer.1 = .available) = false := by
      rw [decide_eq_false_iff_not]
      intro havailable
      rw [havailable] at hrefused
      exact absurd hrefused (by simp [Status.isAnchored])
    rw [hsame, hrefused, hunavailable]
    constructor
    · exact h.stored
    · exact hreads
    · simpa using h.writes
    · exact h.past_append hle rfl
    · intro hnone
      obtain ⟨hopened, hfree⟩ := h.free hnone
      refine ⟨hopened, ?_⟩
      intro reading hreading hpage
      rcases mem_append.1 hreading with hold | hnew
      · exact hfree reading hold hpage
      · rw [mem_singleton.1 hnew]
    · intro taken hanchor
      obtain ⟨first, htaken⟩ := h.anchored taken hanchor
      exact ⟨first, htaken.append ((h.past first htaken.firstOf.mem).2.trans hle)⟩
    · exact h.sound_append hle (fun havailable => absurd havailable (by simp))
  · have hlease := h.reads record hmem
    have hfloor := hpassed.floor hlease.isSome
    rw [hpassed.taken, hpassed.anchored]
    have hanchor := Kept.anchorFor ⟨later, wall, device.page, true, answer.1 = .available⟩ h hle hlease
      rfl rfl hfloor
    constructor
    · exact h.stored
    · exact hreads
    · intro written hwritten
      rcases mem_append.1 hwritten with hold | hnew
      · exact h.writes written hold
      · obtain ⟨rfl, htrusted⟩ := hpassed.written written (Option.mem_toList.1 hnew)
        exact ⟨hlease.token, hlease.serverOffset, hlease.trustedWall.trans htrusted⟩
    · exact h.past_append hle rfl
    · intro hnone
      simp at hnone
    · intro taken htaken
      obtain rfl := Option.some.inj htaken
      exact hanchor
    · refine h.sound_append hle ?_
      intro havailable
      obtain ⟨first, htaken⟩ := hanchor
      have hlast := hpassed.available (of_decide_eq_true havailable)
      rw [hlease.token] at hlast htaken
      exact inTime_of_available hlease htaken hlast

theorem Kept.exec {event : Event} {run next : Device × List Reading} (h : Kept lease start run now)
    (hle : now ≤ event.now) (hexec : event.exec build user run = .ok next) :
    Kept lease start next event.now := by
  obtain ⟨device, readings⟩ := run
  obtain ⟨action, later⟩ := event
  have hpast : ∀ reading ∈ readings, reading.page ≤ device.page ∧ reading.now ≤ later :=
    fun reading hmem => ⟨(h.past reading hmem).1, (h.past reading hmem).2.trans hle⟩
  cases action with
  | begin current =>
    unfold Event.exec at hexec
    simp only at hexec
    split at hexec
    · obtain rfl := Except.ok.inj hexec
      refine ⟨h.stored, ?_, h.writes, hpast, h.free, h.anchored, h.sound⟩
      intro record hread
      rcases mem_append.1 hread with hold | hnew
      · exact h.reads record hold
      · exact h.stored record (mem_singleton.1 hnew).symm
    · obtain rfl := Except.ok.inj hexec
      exact ⟨h.stored, h.reads, h.writes, hpast, h.free, h.anchored, h.sound⟩
  | answer position wall stillCurrent =>
    unfold Event.exec at hexec
    simp only at hexec
    split at hexec
    · simp at hexec
    · rename_i stored hstored
      obtain rfl := Except.ok.inj hexec
      exact h.answer hle hstored rfl
  | store position =>
    unfold Event.exec at hexec
    simp only at hexec
    split at hexec
    · simp at hexec
    · rename_i written hwritten
      obtain rfl := Except.ok.inj hexec
      refine ⟨?_, h.reads, ?_, hpast, h.free, h.anchored, h.sound⟩
      · intro record hstored
        obtain rfl := Option.some.inj hstored
        exact h.writes written (mem_of_getElem? hwritten)
      · intro record hwrite
        exact h.writes record (mem_of_mem_eraseIdx hwrite)
  | reopen =>
    obtain rfl := Except.ok.inj hexec
    refine ⟨h.stored, ?_, h.writes, ?_, ?_, ?_, h.sound⟩
    · intro record hread
      exact absurd hread not_mem_nil
    · intro reading hmem
      exact ⟨(hpast reading hmem).1.trans (Nat.le_succ _), (hpast reading hmem).2⟩
    · intro _
      refine ⟨Nat.succ_ne_zero _, ?_⟩
      intro reading hmem hpage
      have hold := (hpast reading hmem).1
      have hnew : reading.page = device.page + 1 := hpage
      omega
    · intro taken htaken
      simp at htaken

/-- Access that a lease gives ends in time wherever the clock was not set back while the page was
closed. -/
theorem lease_ends_in_time {run : Device × List Reading} {now : Nat}
    (hsave : saveVerifiedLease build before user lease start = some device)
    (h : (offline build user device start).Reaches Machine.Always run now) : Sound lease start run.2 := by
  have hkept : Kept lease start run now := by
    refine h.invariant (I := Kept lease start) (kept_saved hsave) ?_
    intro run now event next hkept hle _ hexec
    exact hkept.exec hle hexec
  exact hkept.sound

/-- The key of the deployment is 7. -/
def production : Build := ⟨some 7, true, true⟩

def freshDevice : Device := ⟨none, none, 0, 0, [], []⟩

def dayLease : Lease := ⟨⟨7, true, ⟨1, 1, 0, 86400, 86400, none⟩⟩, 7⟩

def leasedDevice : Device := (saveVerifiedLease production freshDevice 1 dayLease 0).getD freshDevice

def hour : Nat := 3600000000

def twoPages : List Event :=
  [⟨.begin true, hour⟩, ⟨.begin true, hour⟩, ⟨.answer 1 hour true, hour⟩, ⟨.answer 0 hour true, hour⟩,
    ⟨.store 0, hour⟩, ⟨.reopen, 2 * hour⟩, ⟨.begin true, 2 * hour⟩, ⟨.answer 0 (2 * hour) true, 2 * hour⟩]

def clockSetBack : List Event :=
  [⟨.reopen, 30 * hour⟩, ⟨.begin true, 30 * hour⟩, ⟨.answer 0 hour true, 30 * hour⟩]

theorem two_pages_in_time :
    Sound dayLease 0 ((offline production 1 leasedDevice 0).outcome twoPages).2 :=
  lease_ends_in_time (by decide +kernel : saveVerifiedLease production freshDevice 1 dayLease 0 =
    some leasedDevice)
    (.of_accepts (by decide +kernel) (by decide +kernel) (Machine.admitted_always _ _))

/-- The subscription ends after six hours and half a second, the lease after six hours. -/
def subscribedLease : Lease := ⟨⟨7, true, ⟨1, 1, 0, 21600, 21600, some 21600⟩⟩, 7⟩

theorem subscribed_lease_verifies :
    verifyLease production subscribedLease.token 1 (some 7) = some subscribedLease.token.claims ∧
      ∀ ending ∈ some (21600500000 : Int), subscribedLease.token.claims.exp * second ≤ ending :=
  have hissue : issueOfflineLease 7 1 ⟨true, some 21600500000⟩ 0 = .ok subscribedLease := rfl
  issued_verifies rfl hissue (by decide) (by decide)

/-- A clock that is set back while the page is closed gives an expired lease its hours again. -/
theorem closed_page_gains_hours :
    ¬ ∀ (build : Build) (key user : Nat) (decision : AccessDecision) (verifiedAt : Int) (lease : Lease)
      (before device : Device) (start : Int) (run : Device × List Reading) (now : Nat),
      issueOfflineLease key user decision verifiedAt = .ok lease →
      saveVerifiedLease build before user lease start = some device →
      (offline build user device start).Reaches Machine.Always run now →
      ∀ reading ∈ run.2, reading.available = true →
        (reading.now : Int) ≤ duration lease + clockRollbackTolerance := by
  intro h
  have hreached : (offline production 1 leasedDevice 0).Reaches Machine.Always
      ((offline production 1 leasedDevice 0).outcome clockSetBack)
      ((offline production 1 leasedDevice 0).lastTime 0 clockSetBack) :=
    .of_accepts (by decide +kernel) (by decide +kernel) (Machine.admitted_always _ _)
  have hmem : (⟨30 * hour, hour, 1, true, true⟩ : Reading) ∈
      ((offline production 1 leasedDevice 0).outcome clockSetBack).2 := by
    decide +kernel
  have hle := h production 7 1 ⟨true, none⟩ 0 dayLease freshDevice leasedDevice 0 _ _ rfl
    (by decide +kernel) hreached _ hmem rfl
  exact absurd hle (by decide +kernel)

end LockIn.OfflineLease
