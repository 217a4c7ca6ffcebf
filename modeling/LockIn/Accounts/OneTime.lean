import LockIn.Accounts.TokenSteps
import LockIn.Library.Journal

/-!
# A code or link works once

Any calls are made, one after the other and refused ones included, and what is told of them is
kept with its instant.  A code or link is accepted at most once, before it expires, as long as no
newer one of its kind was issued and its account was not revoked, and a code only before the fifth
wrong guess.
-/

namespace LockIn.Accounts

open List Table

structure Stamped where
  instant : Nat
  event : Event

def issuedDigest : Event → Option Nat
  | .issued _ _ digest _ => some digest
  | _ => none

def issuedDigests (log : List Stamped) : List Nat := log.filterMap fun entry => issuedDigest entry.event

/-- How often a code of an account was refused. -/
def guesses (user : Nat) (log : List Stamped) : Nat :=
  log.countP fun entry => entry.event = .guessed user

def SinceIssue (log : List Stamped) (user : Nat) (kind : Kind) (digest expiresAt : Nat)
    (rest : List Stamped) : Prop :=
  ∃ instant, Journal.Since log ⟨instant, .issued user kind digest expiresAt⟩ rest

structure Quiet (user : Nat) (kind : Kind) (log : List Stamped) : Prop where
  noNewer : ∀ entry ∈ log, ∀ digest expiresAt, entry.event ≠ .issued user kind digest expiresAt
  notRevoked : ∀ entry ∈ log, entry.event ≠ .revoked user

/-- A token that may be accepted at an instant, by what was told before. -/
structure Rightful (log : List Stamped) (now : Nat) (kind : Kind) (digest : Nat) : Prop where
  first : ∀ entry ∈ log, ∀ kind, entry.event ≠ .succeeded kind digest
  issued : ∃ user expiresAt rest, SinceIssue log user kind digest expiresAt rest ∧ now < expiresAt ∧
    Quiet user kind rest ∧ (kind = .emailVerification → guesses user rest < attemptLimit)

def AcceptsRightly (earlier : List Stamped) (entry : Stamped) : Prop :=
  ∀ kind digest, entry.event = .succeeded kind digest → Rightful earlier entry.instant kind digest

def isOpen (request : DeletionRequest) : Bool :=
  request.status = .pendingConfirmation || request.status = .confirmed || request.status = .processing

structure Sound (run : World × List Stamped) (now : Nat) : Prop where
  oneUnused : ∀ user kind, (run.1.tokens.filter fun token =>
    token.user = user && token.kind = kind && token.usedAt.isNone).length ≤ 1
  issuedOnce : (issuedDigests run.2).Nodup
  accepted : Journal.Each AcceptsRightly run.2
  /-- Every wrong guess at a code that can still be given was counted. -/
  counted : ∀ token ∈ run.1.tokens, token.kind = .emailVerification → isUsable token now = true →
    ∃ rest, SinceIssue run.2 token.user token.kind token.digest token.expiresAt rest ∧
      token.attempts = guesses token.user rest
  oneDeletion : ∀ user, (run.1.deletionRequests.filter fun request =>
    request.user = user && isOpen request).length ≤ 1

def opened (users : List User) (accountSessions : List AccountSession) (sessions : List Session) : World where
  users := users
  tokens := []
  deletionRequests := []
  accountSessions := accountSessions
  sessions := sessions
  nextToken := 1
  nextDeletion := 1

def accounts (site : Site) (start : World) : Machine (World × List Stamped) Call Empty where
  init := (start, [])
  exec call run :=
    .ok ((call.exec site run.1).1,
      run.2 ++ (call.events site (call.exec site run.1).2).map fun event => ⟨call.now, event⟩)
  time := Call.now

def Traced (log : List Stamped) (now : Nat) (token : Token) : Prop :=
  ∃ rest, SinceIssue log token.user token.kind token.digest token.expiresAt rest ∧
    (token.usedAt = none → Quiet token.user token.kind rest ∧
      (token.kind = .emailVerification → token.attempts < attemptLimit ∧
        (now < token.expiresAt → token.attempts = guesses token.user rest)))

structure Kept (tokens : List Token) (log : List Stamped) (now : Nat) : Prop where
  alone : Alone tokens
  digests : issuedDigests log = tokens.map Token.digest
  distinct : Table.Distinct Token.digest tokens
  traced : ∀ token ∈ tokens, Traced log now token
  spent : ∀ entry ∈ log, ∀ kind digest, entry.event = .succeeded kind digest →
    ∃ token ∈ tokens, token.digest = digest ∧ token.usedAt ≠ none
  accepted : Journal.Each AcceptsRightly log

variable {user : Nat}

section
variable {tokens : List Token} {token : Token} {log : List Stamped} {now instant : Nat} {event : Event}

theorem Traced.later (h : Traced log now token) (hle : now ≤ instant) : Traced log instant token := by
  obtain ⟨rest, hissued, hunused⟩ := h
  refine ⟨rest, hissued, fun hnone => (hunused hnone).imp_right fun hkind hverification => ?_⟩
  obtain ⟨hlimit, hcount⟩ := hkind hverification
  exact ⟨hlimit, fun hlt => hcount (by omega)⟩

variable {kind : Kind} {selected : Token → Bool}

theorem Quiet.append {entry : Stamped} (h : Quiet user kind log)
    (hissued : ∀ digest expiresAt, entry.event ≠ .issued user kind digest expiresAt)
    (hrevoked : entry.event ≠ .revoked user) : Quiet user kind (log ++ [entry]) := by
  constructor
  · exact Table.forall_mem_append h.noNewer hissued
  · exact Table.forall_mem_append h.notRevoked hrevoked

theorem guesses_append (user : Nat) (log : List Stamped) (entry : Stamped) :
    guesses user (log ++ [entry]) = guesses user log + if entry.event = .guessed user then 1 else 0 := by
  unfold guesses
  rw [countP_append, countP_singleton]
  simp

theorem issuedDigests_append (log : List Stamped) (entry : Stamped) :
    issuedDigests (log ++ [entry]) = issuedDigests log ++ (issuedDigest entry.event).toList := by
  unfold issuedDigests
  rw [filterMap_append]
  cases hdigest : issuedDigest entry.event <;> simp [hdigest]

theorem SinceIssue.append {digest expiresAt : Nat} {rest : List Stamped}
    (h : SinceIssue log user kind digest expiresAt rest) (entry : Stamped) :
    SinceIssue (log ++ [entry]) user kind digest expiresAt (rest ++ [entry]) := by
  obtain ⟨instant, hsince⟩ := h
  exact ⟨instant, hsince.append [entry]⟩

theorem Kept.rightful (h : Kept tokens log now) (hmem : token ∈ tokens) (hle : now ≤ instant)
    (husable : isUsable token instant = true) : Rightful log instant token.kind token.digest := by
  obtain ⟨hunused, hlt⟩ := isUsable_iff.1 husable
  constructor
  · intro entry hentry kind hevent
    obtain ⟨other, hother, hdigest, hused⟩ := h.spent entry hentry kind token.digest hevent
    rw [h.distinct.eq hother hmem hdigest] at hused
    exact hused hunused
  · obtain ⟨rest, hissued, hrest⟩ := h.traced token hmem
    obtain ⟨hquiet, hcount⟩ := hrest hunused
    refine ⟨token.user, token.expiresAt, rest, hissued, hlt, hquiet, fun hkind => ?_⟩
    obtain ⟨hlimit, heq⟩ := hcount hkind
    rw [← heq (by omega)]
    exact hlimit

theorem mem_useTokens_unused (h : token ∈ useTokens tokens selected instant)
    (hunused : token.usedAt = none) : token ∈ tokens ∧ selected token = false := by
  obtain ⟨old, hold, hsame, hcase⟩ := mem_useTokens h
  rcases hcase with ⟨husedAt, hselected⟩ | hmarked
  · obtain rfl : token = old := by rw [hsame, husedAt]
    exact ⟨hold, hselected.resolve_right fun hused => hused hunused⟩
  · rw [hunused] at hmarked
    simp at hmarked

theorem exists_useTokens_used (instant : Nat) (hmem : token ∈ tokens)
    (h : token.usedAt ≠ none ∨ selected token = true) :
    ∃ next ∈ useTokens tokens selected instant, next.digest = token.digest ∧ next.usedAt ≠ none := by
  refine ⟨_, mem_map_of_mem hmem, ?_⟩
  by_cases hcase : selected token && token.usedAt.isNone
  · rw [if_pos hcase]
    exact ⟨rfl, by simp⟩
  · rw [if_neg hcase]
    refine ⟨rfl, fun hnone => ?_⟩
    rcases h with hused | hselected
    · exact hused hnone
    · exact hcase (by rw [hselected, hnone]; rfl)

theorem distinct_useTokens {α : Type} {key : Token → α}
    (hkey : ∀ token usedAt, key { token with usedAt } = key token) (selected : Token → Bool)
    (h : Table.Distinct key tokens) : Table.Distinct key (useTokens tokens selected instant) := by
  unfold Table.Distinct at h ⊢
  rwa [map_useTokens hkey]

theorem Alone.useTokens (h : Alone tokens) (selected : Token → Bool) :
    Alone (useTokens tokens selected instant) := by
  intro first hfirst second hsecond huser hkind hunused hunused'
  exact h first (mem_useTokens_unused hfirst hunused).1 second (mem_useTokens_unused hsecond hunused').1
    huser hkind hunused hunused'

theorem Kept.use (h : Kept tokens log now) (hle : now ≤ instant) (selected : Token → Bool) :
    Kept (useTokens tokens selected instant) log instant where
  alone := h.alone.useTokens selected
  digests := by rw [h.digests, map_useTokens fun _ _ => rfl]
  distinct := distinct_useTokens (fun _ _ => rfl) selected h.distinct
  traced := by
    intro token hmem
    by_cases hnone : token.usedAt = none
    · exact (h.traced token (mem_useTokens_unused hmem hnone).1).later hle
    · obtain ⟨old, hold, hsame, _⟩ := mem_useTokens hmem
      obtain ⟨rest, hissued, _⟩ := h.traced old hold
      exact ⟨rest, by rw [hsame]; exact hissued, fun hc => absurd hc hnone⟩
  spent := by
    intro entry hentry kind digest hevent
    obtain ⟨old, hold, hdigest, hused⟩ := h.spent entry hentry kind digest hevent
    obtain ⟨next, hnext, hsame, hnextUsed⟩ := exists_useTokens_used instant hold (.inl hused)
    exact ⟨next, hnext, hsame.trans hdigest, hnextUsed⟩
  accepted := h.accepted

theorem Kept.tell (h : Kept tokens log now) (hissued : issuedDigest event = none)
    (hguessed : ∀ user, event ≠ .guessed user)
    (hrevoked : ∀ token ∈ tokens, event = .revoked token.user → token.usedAt ≠ none)
    (hsucceeded : ∀ kind digest, event = .succeeded kind digest →
      Rightful log now kind digest ∧ ∃ token ∈ tokens, token.digest = digest ∧ token.usedAt ≠ none) :
    Kept tokens (log ++ [⟨now, event⟩]) now where
  alone := h.alone
  digests := by rw [issuedDigests_append, hissued, h.digests]; simp
  distinct := h.distinct
  traced := by
    intro token hmem
    obtain ⟨rest, hsince, hunused⟩ := h.traced token hmem
    refine ⟨rest ++ [⟨now, event⟩], hsince.append _, fun hnone => ?_⟩
    obtain ⟨hquiet, hcount⟩ := hunused hnone
    refine ⟨hquiet.append ?_ fun hevent => hrevoked token hmem hevent hnone, fun hkind => ?_⟩
    · intro digest expiresAt hevent
      have hdigest : issuedDigest event = some digest := congrArg issuedDigest hevent
      rw [hissued] at hdigest
      simp at hdigest
    · rw [guesses_append, if_neg (hguessed token.user), Nat.add_zero]
      exact hcount hkind
  spent := by
    intro entry hentry kind digest hevent
    rcases mem_append.1 hentry with hold | hnew
    · exact h.spent entry hold kind digest hevent
    · rw [mem_singleton.1 hnew] at hevent
      exact (hsucceeded kind digest hevent).2
  accepted := Journal.each_append.2
    ⟨h.accepted, fun kind digest hevent => (hsucceeded kind digest hevent).1⟩

theorem Kept.issue (h : Kept tokens log now) (hle : now ≤ instant) (hfresh : token.digest ∉ tokens.map Token.digest)
    (hattempts : token.attempts = 0) :
    Kept (useTokens tokens (fun old => old.user = token.user && old.kind = token.kind) instant ++ [token])
      (log ++ [⟨instant, .issued token.user token.kind token.digest token.expiresAt⟩]) instant := by
  have hused := h.use hle fun old => old.user = token.user && old.kind = token.kind
  have hother : ∀ old ∈ useTokens tokens (fun old => old.user = token.user && old.kind = token.kind) instant,
      old.usedAt = none → ¬ (old.user = token.user ∧ old.kind = token.kind) := by
    intro old hold hnone hsame
    have hcase := (mem_useTokens_unused hold hnone).2
    simp [hsame.1, hsame.2] at hcase
  refine ⟨?_, ?_, ?_, ?_, ?_, ?_⟩
  · intro first hfirst second hsecond huser hkind hunused hunused'
    rcases mem_append.1 hfirst with hfirst | hfirst <;>
      rcases mem_append.1 hsecond with hsecond | hsecond
    · exact hused.alone first hfirst second hsecond huser hkind hunused hunused'
    · rw [mem_singleton.1 hsecond] at huser hkind
      exact absurd ⟨huser, hkind⟩ (hother first hfirst hunused)
    · rw [mem_singleton.1 hfirst] at huser hkind
      exact absurd ⟨huser.symm, hkind.symm⟩ (hother second hsecond hunused')
    · rw [mem_singleton.1 hfirst, mem_singleton.1 hsecond]
  · rw [issuedDigests_append, hused.digests, map_append]
    rfl
  · refine hused.distinct.append fun old hold hsame => hfresh ?_
    rw [← hsame, ← map_useTokens (fun _ _ => rfl)]
    exact mem_map_of_mem hold
  · intro other hmem
    rcases mem_append.1 hmem with hold | hnew
    · obtain ⟨rest, hsince, hunused⟩ := hused.traced other hold
      refine ⟨_, hsince.append _, fun hnone => ?_⟩
      obtain ⟨hquiet, hcount⟩ := hunused hnone
      refine ⟨hquiet.append ?_ (by simp), fun hkind => ?_⟩
      · intro digest expiresAt hevent
        injection hevent with huser hkind
        exact hother other hold hnone ⟨huser.symm, hkind.symm⟩
      · rw [guesses_append, if_neg (by simp), Nat.add_zero]
        exact hcount hkind
    · rw [mem_singleton.1 hnew]
      refine ⟨[], ⟨instant, Journal.since_last _ _⟩, fun _ => ⟨⟨by simp, by simp⟩, fun _ => ?_⟩⟩
      rw [hattempts]
      exact ⟨by decide, fun _ => rfl⟩
  · intro entry hentry kind digest hevent
    rcases mem_append.1 hentry with hold | hnew
    · obtain ⟨other, hother, hcase⟩ := hused.spent entry hold kind digest hevent
      exact ⟨other, mem_append_left _ hother, hcase⟩
    · rw [mem_singleton.1 hnew] at hevent
      simp at hevent
  · exact Journal.each_append.2 ⟨h.accepted, fun _ _ hevent => absurd hevent (by simp)⟩

/-- A code of an account is refused, which counts at the one that could have been given. -/
def guessed (user : Nat) (instant : Nat) (token : Token) : Token :=
  if token.user = user ∧ token.kind = .emailVerification ∧ isUsable token instant = true
  then missed token instant else token

/-- Counting a wrong guess changes nothing else, and burns the code at the last one. -/
theorem guessed_eq (user instant : Nat) (token : Token) :
    ∃ attempts usedAt, guessed user instant token = { token with attempts, usedAt } ∧
      (usedAt = none → token.usedAt = none) := by
  unfold guessed
  split
  · refine ⟨_, _, rfl, fun hnone => ?_⟩
    split at hnone
    · simp at hnone
    · exact hnone
  · exact ⟨_, _, rfl, id⟩

theorem Kept.guess (h : Kept tokens log now) (hle : now ≤ instant) (user : Nat) :
    Kept (tokens.map (guessed user instant)) (log ++ [⟨instant, .guessed user⟩]) instant := by
  have hdigests : (tokens.map (guessed user instant)).map Token.digest = tokens.map Token.digest := by
    rw [map_map]
    refine map_congr_left fun token _ => ?_
    obtain ⟨_, _, hsame, _⟩ := guessed_eq user instant token
    rw [Function.comp_apply, hsame]
  refine ⟨?_, ?_, ?_, ?_, ?_, ?_⟩
  · intro first hfirst second hsecond huser hkind hunused hunused'
    obtain ⟨old, hold, rfl⟩ := mem_map.1 hfirst
    obtain ⟨old', hold', rfl⟩ := mem_map.1 hsecond
    obtain ⟨_, _, hsame, hnone⟩ := guessed_eq user instant old
    obtain ⟨_, _, hsame', hnone'⟩ := guessed_eq user instant old'
    rw [hsame] at huser hkind hunused
    rw [hsame'] at huser hkind hunused'
    rw [h.alone old hold old' hold' huser hkind (hnone hunused) (hnone' hunused')]
  · rw [issuedDigests_append, h.digests, hdigests]
    exact append_nil _
  · unfold Table.Distinct
    rw [hdigests]
    exact h.distinct
  · intro token hmem
    obtain ⟨old, hold, rfl⟩ := mem_map.1 hmem
    obtain ⟨rest, hsince, hunused⟩ := (h.traced old hold).later hle
    have hquietly : Quiet old.user old.kind rest →
        Quiet old.user old.kind (rest ++ [⟨instant, .guessed user⟩]) :=
      fun hquiet => hquiet.append (by simp) (by simp)
    by_cases hlive : old.user = user ∧ old.kind = .emailVerification ∧ isUsable old instant = true
    · obtain ⟨hnone, hlt⟩ := isUsable_iff.1 hlive.2.2
      obtain ⟨hquiet, hcount⟩ := hunused hnone
      obtain ⟨_, hattempts⟩ := hcount hlive.2.1
      rw [guessed, if_pos hlive]
      refine ⟨_, hsince.append _, fun hmissed => ⟨hquietly hquiet, fun _ => ?_⟩⟩
      have hgrown : guesses old.user (rest ++ [⟨instant, .guessed user⟩]) = guesses old.user rest + 1 := by
        rw [guesses_append, if_pos (congrArg Event.guessed hlive.1.symm)]
      refine ⟨?_, fun _ => (congrArg (· + 1) (hattempts hlt)).trans hgrown.symm⟩
      by_contra hburned
      rw [missed, if_pos (by simpa [missed] using hburned)] at hmissed
      simp at hmissed
    · rw [guessed, if_neg hlive]
      refine ⟨_, hsince.append _, fun hnone => ?_⟩
      obtain ⟨hquiet, hcount⟩ := hunused hnone
      refine ⟨hquietly hquiet, fun hkind => (hcount hkind).imp_right fun hattempts hlt => ?_⟩
      rw [guesses_append, if_neg, Nat.add_zero]
      · exact hattempts hlt
      · intro hevent
        injection hevent with huser
        exact hlive ⟨huser.symm, hkind, isUsable_iff.2 ⟨hnone, hlt⟩⟩
  · intro entry hentry kind digest hevent
    rcases mem_append.1 hentry with hold | hnew
    · obtain ⟨other, hother, hdigest, hused⟩ := h.spent entry hold kind digest hevent
      obtain ⟨attempts, usedAt, hsame, hnone⟩ := guessed_eq user instant other
      refine ⟨_, mem_map_of_mem hother, ?_⟩
      rw [hsame]
      exact ⟨hdigest, fun hc => hused (hnone hc)⟩
    · rw [mem_singleton.1 hnew] at hevent
      simp at hevent
  · exact Journal.each_append.2 ⟨h.accepted, fun _ _ hevent => absurd hevent (by simp)⟩

end

structure Deletions (world : World) : Prop where
  distinct : Table.Distinct DeletionRequest.id world.deletionRequests
  fresh : ∀ request ∈ world.deletionRequests, request.id < world.nextDeletion
  alone : ∀ first ∈ world.deletionRequests, ∀ second ∈ world.deletionRequests,
    first.user = second.user → isOpen first = true → isOpen second = true → first = second
  early : ∀ request ∈ world.deletionRequests, request.status = .pendingConfirmation ∨
    request.status = .confirmed ∨ request.status = .cancelled

section
variable {world next : World}

variable {request : DeletionRequest}

theorem Deletions.status (h : Deletions world) (hmem : request ∈ world.deletionRequests)
    (hopen : isOpen request = true) : accountDeletionStatus world request.user = some request := by
  have hlisted : request ∈ world.deletionRequests.filter fun other =>
      other.user = request.user && other.status ≠ .cancelled := by
    refine mem_filter.2 ⟨hmem, ?_⟩
    rcases h.early request hmem with hstatus | hstatus | hstatus
    · simp [hstatus]
    · simp [hstatus]
    · simp [isOpen, hstatus] at hopen
  cases hlast : accountDeletionStatus world request.user with
  | none => exact absurd (getLast?_eq_none_iff.1 hlast ▸ hlisted) not_mem_nil
  | some newest =>
    obtain ⟨hnewest, hrow⟩ := mem_filter.1 (mem_of_getLast? hlast)
    simp only [ne_eq, decide_not, Bool.and_eq_true, decide_eq_true_eq, Bool.not_eq_true',
      decide_eq_false_iff_not] at hrow
    have hnewestOpen : isOpen newest = true := by
      rcases h.early newest hnewest with hstatus | hstatus | hstatus
      · simp [isOpen, hstatus]
      · simp [isOpen, hstatus]
      · exact absurd hstatus hrow.2
    rw [h.alone newest hnewest request hmem hrow.1 hnewestOpen hopen]

theorem withdrawn_open {now : Nat}
    (hopen : isOpen (if isPending user request then cancelled request now else request) = true) :
    isPending user request = false ∧ isOpen request = true := by
  cases hpending : isPending user request with
  | true =>
    rw [if_pos hpending] at hopen
    exact absurd hopen (by simp [isOpen, cancelled])
  | false =>
    rw [hpending, if_neg Bool.false_ne_true] at hopen
    exact ⟨rfl, hopen⟩

theorem Deletions.step (h : Deletions world) (heffect : DeletionEffect world next) : Deletions next := by
  cases heffect with
  | same hsame =>
    obtain ⟨hrequests, hnext⟩ := hsame
    refine ⟨?_, ?_, ?_, ?_⟩ <;> rw [hrequests]
    · exact h.distinct
    · rw [hnext]
      exact h.fresh
    · exact h.alone
    · exact h.early
  | request new now hrequests hid hnext hstatus hfree =>
    have hids : (world.deletionRequests.map fun request =>
        if isPending new.user request then cancelled request now else request).map DeletionRequest.id =
          world.deletionRequests.map DeletionRequest.id := by
      rw [map_map]
      refine map_congr_left fun request _ => ?_
      by_cases hpending : isPending new.user request <;> simp [hpending, cancelled]
    have hold : ∀ request ∈ world.deletionRequests, isPending new.user request = false →
        isOpen request = true → request.user ≠ new.user := by
      intro request hmem hpending hopen huser
      obtain ⟨hconfirmed, hprocessing⟩ := hfree request (by rw [← huser]; exact h.status hmem hopen)
      simp [isPending, huser] at hpending
      simp [isOpen, hconfirmed, hprocessing, hpending] at hopen
    refine ⟨?_, ?_, ?_, ?_⟩
    · rw [hrequests]
      refine Table.Distinct.append (by unfold Table.Distinct; rw [hids]; exact h.distinct)
        fun request hmem hsame => ?_
      have hkey : request.id ∈ world.deletionRequests.map DeletionRequest.id :=
        hids ▸ mem_map_of_mem hmem
      obtain ⟨old, hold, hoid⟩ := mem_map.1 hkey
      have hlt := h.fresh old hold
      omega
    · intro request hmem
      rw [hnext]
      rw [hrequests] at hmem
      rcases mem_append.1 hmem with hmem | hmem
      · have hkey : request.id ∈ world.deletionRequests.map DeletionRequest.id :=
          hids ▸ mem_map_of_mem hmem
        obtain ⟨old, hold, hoid⟩ := mem_map.1 hkey
        have hlt := h.fresh old hold
        omega
      · rw [mem_singleton.1 hmem]
        omega
    · rw [hrequests]
      intro first hfirst second hsecond huser hopen hopen'
      rcases mem_append.1 hfirst with hfirst | hfirst <;>
        rcases mem_append.1 hsecond with hsecond | hsecond
      · obtain ⟨old, hmem, rfl⟩ := mem_map.1 hfirst
        obtain ⟨old', hmem', rfl⟩ := mem_map.1 hsecond
        obtain ⟨hpending, hopened⟩ := withdrawn_open hopen
        obtain ⟨hpending', hopened'⟩ := withdrawn_open hopen'
        simp only [hpending, hpending', Bool.false_eq_true, if_false] at huser ⊢
        exact h.alone old hmem old' hmem' huser hopened hopened'
      · obtain ⟨old, hmem, rfl⟩ := mem_map.1 hfirst
        obtain ⟨hpending, hopened⟩ := withdrawn_open hopen
        simp only [hpending, Bool.false_eq_true, if_false, mem_singleton.1 hsecond] at huser
        exact absurd huser (hold old hmem hpending hopened)
      · obtain ⟨old, hmem, rfl⟩ := mem_map.1 hsecond
        obtain ⟨hpending, hopened⟩ := withdrawn_open hopen'
        simp only [hpending, Bool.false_eq_true, if_false, mem_singleton.1 hfirst] at huser
        exact absurd huser.symm (hold old hmem hpending hopened)
      · rw [mem_singleton.1 hfirst, mem_singleton.1 hsecond]
    · rw [hrequests]
      intro request hmem
      rcases mem_append.1 hmem with hmem | hmem
      · obtain ⟨old, hin, rfl⟩ := mem_map.1 hmem
        by_cases hpending : isPending new.user old
        · rw [if_pos hpending]
          exact .inr (.inr rfl)
        · rw [if_neg hpending]
          exact h.early old hin
      · rw [mem_singleton.1 hmem]
        exact .inl hstatus
  | change request changed hrequests hnext hmem hlive hid huser hstatus =>
    have hopen : isOpen request = true := by rcases hlive with hlive | hlive <;> simp [isOpen, hlive]
    refine ⟨?_, ?_, ?_, ?_⟩
    · rw [hrequests]
      exact h.distinct.put changed
    · intro row hrow
      rw [hnext]
      rw [hrequests] at hrow
      rcases mem_of_mem_put hrow with rfl | hrow
      · rw [hid]
        exact h.fresh request hmem
      · exact h.fresh row hrow
    · rw [hrequests]
      intro first hfirst second hsecond husers hfirstOpen hsecondOpen
      rcases mem_put.1 hfirst with ⟨rfl, _⟩ | ⟨hin, hne⟩ <;>
        rcases mem_put.1 hsecond with ⟨rfl, _⟩ | ⟨hin', hne'⟩
      · rfl
      · rw [huser] at husers
        have hsame := h.alone request hmem second hin' husers hopen hsecondOpen
        exact absurd (hid.trans (congrArg DeletionRequest.id hsame)).symm hne'
      · rw [huser] at husers
        have hsame := h.alone first hin request hmem husers hfirstOpen hopen
        exact absurd ((congrArg DeletionRequest.id hsame).trans hid.symm) hne
      · exact h.alone first hin second hin' husers hfirstOpen hsecondOpen
    · rw [hrequests]
      refine forall_mem_put h.early ?_
      exact hstatus.elim (fun hc => .inr (.inl hc)) fun hc => .inr (.inr hc)

end

structure Whole (run : World × List Stamped) (now : Nat) : Prop where
  kept : Kept run.1.tokens run.2 now
  ids : Table.Distinct Token.id run.1.tokens
  fresh : ∀ token ∈ run.1.tokens, token.id < run.1.nextToken
  owned : ∀ token ∈ run.1.tokens, token.user ∈ run.1.users.map User.id
  deletions : Deletions run.1

section
variable {site : Site} {world next : World} {log : List Stamped} {now instant : Nat} {events : List Event}

theorem Kept.step (h : Kept world.tokens log now) (hle : now ≤ instant)
    (heffect : Effect instant world next events) :
    Kept next.tokens (log ++ events.map fun event => ⟨instant, event⟩) instant := by
  cases heffect with
  | use selected accepted revoked htokens hnext husers haccepted hrevoked =>
    rw [htokens]
    have hmarked : ∀ user ∈ revoked, ∀ token ∈ useTokens world.tokens selected instant,
        token.user = user → token.usedAt ≠ none := by
      intro user huser token hmem hown hnone
      obtain ⟨hold, hnot⟩ := mem_useTokens_unused hmem hnone
      rw [hrevoked user huser token hold hown] at hnot
      simp at hnot
    have hspent : Kept (useTokens world.tokens selected instant)
        (log ++ (accepted.toList.map fun token => ⟨instant, .succeeded token.kind token.digest⟩)) instant := by
      cases accepted with
      | none =>
        rw [Option.toList_none, map_nil, append_nil]
        exact h.use hle selected
      | some token =>
        obtain ⟨hmem, hselected, husable⟩ := haccepted token rfl
        refine (h.use hle selected).tell rfl (by simp) (by simp) fun kind digest hevent => ?_
        injection hevent with hkind hdigest
        obtain ⟨marked, hmarkedMem, hsame, hused⟩ :=
          exists_useTokens_used instant hmem (.inr hselected)
        rw [← hkind, ← hdigest]
        exact ⟨h.rightful hmem hle husable, marked, hmarkedMem, hsame, hused⟩
    rw [map_append, ← append_assoc, map_map, map_map]
    cases revoked with
    | none =>
      rw [Option.toList_none, map_nil, append_nil]
      exact hspent
    | some user =>
      refine hspent.tell rfl (by simp) (fun token hmem hevent => ?_) (by simp)
      injection hevent with huser
      exact hmarked user rfl token hmem huser.symm
  | issue token htokens hid hnext husers howned hfresh hattempts hunused =>
    rw [htokens]
    exact h.issue hle hfresh hattempts
  | guess user htokens hnext husers =>
    rw [htokens]
    exact h.guess hle user

/-- The identifiers of the tokens and of the users a call leaves. -/
theorem Whole.step (h : Whole (world, log) now) (hle : now ≤ instant)
    (heffect : Effect instant world next events) (hdeletions : DeletionEffect world next) :
    Whole (next, log ++ events.map fun event => ⟨instant, event⟩) instant := by
  have hkept := h.kept.step hle heffect
  have hdeleted := h.deletions.step hdeletions
  have hmapped : ∀ f : Token → Token, (∀ token, (f token).id = token.id ∧ (f token).user = token.user) →
      next.tokens = world.tokens.map f → next.nextToken = world.nextToken →
      next.users.map User.id = world.users.map User.id →
      Whole (next, log ++ events.map fun event => ⟨instant, event⟩) instant := by
    intro f hf htokens hnext husers
    refine ⟨hkept, ?_, ?_, ?_, hdeleted⟩
    · have hids : world.tokens.map (Token.id ∘ f) = world.tokens.map Token.id :=
        map_congr_left fun token _ => (hf token).1
      show (next.tokens.map Token.id).Nodup
      rw [htokens, map_map, hids]
      exact h.ids
    · intro token hmem
      obtain ⟨old, hold, rfl⟩ := mem_map.1 (htokens ▸ hmem)
      rw [(hf old).1]
      exact hnext ▸ h.fresh old hold
    · intro token hmem
      obtain ⟨old, hold, rfl⟩ := mem_map.1 (htokens ▸ hmem)
      rw [(hf old).2]
      exact husers ▸ h.owned old hold
  cases heffect with
  | use selected accepted revoked htokens hnext husers haccepted hrevoked =>
    exact hmapped _ (fun token => by split <;> exact ⟨rfl, rfl⟩) htokens hnext husers
  | issue token htokens hid hnext husers howned hfresh hattempts hunused =>
    have hold : ∀ old ∈ useTokens world.tokens
        (fun old => old.user = token.user && old.kind = token.kind) instant,
        old.id < world.nextToken ∧ old.user ∈ world.users.map User.id := by
      intro old hmem
      obtain ⟨was, hwas, hsame, _⟩ := mem_useTokens hmem
      rw [hsame]
      exact ⟨h.fresh was hwas, h.owned was hwas⟩
    refine ⟨hkept, ?_, ?_, ?_, hdeleted⟩
    · show Table.Distinct Token.id next.tokens
      rw [htokens]
      refine (distinct_useTokens (fun _ _ => rfl) _ h.ids).append fun old hmem hsame => ?_
      have hlt := (hold old hmem).1
      omega
    · intro other hmem
      show other.id < next.nextToken
      rcases mem_append.1 (htokens ▸ hmem) with hin | hnew
      · have hlt := (hold other hin).1
        omega
      · rw [mem_singleton.1 hnew]
        omega
    · intro other hmem
      show other.user ∈ next.users.map User.id
      rw [husers]
      rcases mem_append.1 (htokens ▸ hmem) with hin | hnew
      · exact (hold other hin).2
      · rw [mem_singleton.1 hnew]
        exact howned
  | guess user htokens hnext husers =>
    refine hmapped _ (fun token => ?_) htokens hnext husers
    obtain ⟨_, _, hsame, _⟩ := guessed_eq user instant token
    show (guessed user instant token).id = token.id ∧ (guessed user instant token).user = token.user
    rw [hsame]
    exact ⟨rfl, rfl⟩

theorem Whole.sound {run : World × List Stamped} (h : Whole run now) : Sound run now where
  oneUnused := by
    intro user kind
    refine h.ids.length_filter_le_one fun first hfirst second hsecond hrow hrow' => ?_
    simp only [Bool.and_eq_true, decide_eq_true_eq, Option.isNone_iff_eq_none] at hrow hrow'
    exact h.kept.alone first hfirst second hsecond (hrow.1.1.trans hrow'.1.1.symm)
      (hrow.1.2.trans hrow'.1.2.symm) hrow.2 hrow'.2
  issuedOnce := h.kept.digests ▸ h.kept.distinct
  accepted := h.kept.accepted
  counted := by
    intro token hmem hkind husable
    obtain ⟨hnone, hlt⟩ := isUsable_iff.1 husable
    obtain ⟨rest, hsince, hunused⟩ := h.kept.traced token hmem
    exact ⟨rest, hsince, ((hunused hnone).2 hkind).2 hlt⟩
  oneDeletion := by
    intro user
    refine h.deletions.distinct.length_filter_le_one fun first hfirst second hsecond hrow hrow' => ?_
    simp only [Bool.and_eq_true, decide_eq_true_eq] at hrow hrow'
    exact h.deletions.alone first hfirst second hsecond (hrow.1.trans hrow'.1.symm) hrow.2 hrow'.2

end

/-- After any calls at instants that never go back, whoever makes them and whatever is guessed, no
account has two unused tokens of a kind or two open deletion requests, and what was accepted was
accepted rightly. -/
theorem codes_and_links_work_once {site : Site} {users : List User}
    {accountSessions : List AccountSession} {sessions : List Session} {run : World × List Stamped} {now : Nat}
    (h : (accounts site (opened users accountSessions sessions)).Reaches Machine.Always run now) :
    Sound run now := by
  refine (h.invariant (I := Whole) ?_ ?_).sound
  · exact ⟨⟨by simp [Alone, accounts, opened], rfl, nodup_nil, by simp [accounts, opened],
      by simp [accounts], Journal.each_nil⟩, nodup_nil, by simp [accounts, opened],
      by simp [accounts, opened], ⟨nodup_nil, by simp [accounts, opened], by simp [accounts, opened],
      by simp [accounts, opened]⟩⟩
  · intro run now call next hwhole hle _ hexec
    obtain rfl := Except.ok.inj hexec
    obtain ⟨hdeletions, heffect⟩ := exec_effect site call hwhole.ids hwhole.owned hwhole.kept.alone
    exact hwhole.step hle heffect hdeletions

def plainSite : Site where
  digest := fun scope text => text.foldl (fun total letter => total * 128 + letter.toNat) (scope.getD 0)
  strip := id
  normalizeEmail := id
  validEmail := fun _ => true
  validFields := fun _ => true
  verificationSeconds := 600
  resetSeconds := 3600
  emailChangeSeconds := 3600
  deletionSeconds := 86400
  cooldownSeconds := 60
  deletionPolicyVersion := "1".toList

def reader : User := ⟨1, "old".toList, .active, true, none, 10⟩

def signedIn (email : String) (password : Nat) : Snapshot := ⟨1, email.toList, password⟩

def at' (seconds : Nat) (request : Request) : Call := ⟨request, seconds * second⟩

/-- The first code is burned, the second one verifies the email, and a link each resets the
password, changes the email and asks for a deletion that is then cancelled. -/
def manyFlows : List Call :=
  [at' 0 (.issueVerificationCode 1 "1".toList), at' 1 (.verifyEmailCode 1 "2".toList),
    at' 2 (.verifyEmailCode 1 "2".toList), at' 3 (.verifyEmailCode 1 "2".toList),
    at' 4 (.verifyEmailCode 1 "2".toList), at' 5 (.verifyEmailCode 1 "2".toList),
    at' 6 (.verifyEmailCode 1 "1".toList), at' 60 (.resendVerification 1 "3".toList),
    at' 61 (.verifyEmailCode 1 "3".toList), at' 62 (.verifyEmailCode 1 "3".toList),
    at' 70 (.requestPasswordReset "old".toList "a".toList), at' 71 (.confirmPasswordReset "a".toList 20),
    at' 72 (.confirmPasswordReset "a".toList 30),
    at' 80 (.requestEmailChange (signedIn "old" 20) "new".toList "b".toList),
    at' 81 (.confirmEmailChange "b".toList),
    at' 90 (.requestAccountDeletion (signedIn "new" 20) "c".toList), at' 91 (.confirmAccountDeletion "c".toList),
    at' 92 (.cancelAccountDeletion (signedIn "new" 20)), at' 93 (.changePassword (signedIn "new" 20) 40 none)]

theorem many_flows_sound : Sound ((accounts plainSite (opened [reader] [] [])).outcome manyFlows)
    ((accounts plainSite (opened [reader] [] [])).lastTime 0 manyFlows) :=
  codes_and_links_work_once
    (.of_accepts (by decide +kernel) (by decide +kernel) (Machine.admitted_always _ _))

example : ((accounts plainSite (opened [reader] [] [])).outcome manyFlows).2.map Stamped.event =
    [.issued 1 .emailVerification 177 600000000, .guessed 1, .guessed 1, .guessed 1, .guessed 1, .guessed 1,
      .guessed 1, .issued 1 .emailVerification 179 660000000, .succeeded .emailVerification 179, .guessed 1,
      .issued 1 .passwordReset 97 3670000000, .succeeded .passwordReset 97, .revoked 1,
      .issued 1 .emailChange 98 3680000000, .succeeded .emailChange 98, .revoked 1,
      .issued 1 .accountDeletion 99 86490000000, .succeeded .accountDeletion 99, .revoked 1] := by
  decide +kernel

end LockIn.Accounts
