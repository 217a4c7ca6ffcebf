import LockIn.Accounts.Tokens

/-!
# What a call does to the tokens

What is told of a call is read from what was asked and what was answered: a token that was
issued, a code or link that was accepted, a code that was refused, and an account whose tokens were
all revoked.  Every call marks some tokens as used, or issues one, or counts a wrong guess, and
tells of it.
-/

namespace LockIn.Accounts

open List Outcome Table

inductive Event where
  | issued (user : Nat) (kind : Kind) (digest expiresAt : Nat)
  | succeeded (kind : Kind) (digest : Nat)
  | guessed (user : Nat)
  | revoked (user : Nat)
deriving DecidableEq

def issuedEvent (site : Site) (user : Nat) (kind : Kind) (scope : Option Nat) (token : IssuedToken) :
    Event :=
  .issued user kind (site.digest scope token.rawToken) token.expiresAt

def Call.events (site : Site) (call : Call) (result : Except AccountError Answer) : List Event :=
  match call.request, result with
  | .issueVerificationCode _ _, .ok (.issued user token) =>
    [issuedEvent site user .emailVerification (some user) token]
  | .resendVerification _ _, .ok (.issued user token) =>
    [issuedEvent site user .emailVerification (some user) token]
  | .requestPasswordReset _ _, .ok (.issued user token) => [issuedEvent site user .passwordReset none token]
  | .requestEmailChange _ _ _, .ok (.issued user token) => [issuedEvent site user .emailChange none token]
  | .requestAccountDeletion _ _, .ok (.issued user token) =>
    [issuedEvent site user .accountDeletion none token]
  | .verifyEmailCode user _, .error _ => [.guessed user]
  | .verifyEmailCode user code, .ok _ =>
    [.succeeded .emailVerification (site.digest (some user) (site.strip code))]
  | .confirmPasswordReset rawToken _, .ok (.account user) =>
    [.succeeded .passwordReset (site.digest none rawToken), .revoked user]
  | .confirmEmailChange rawToken, .ok (.account user) =>
    [.succeeded .emailChange (site.digest none rawToken), .revoked user]
  | .confirmAccountDeletion rawToken, .ok _ => [.succeeded .accountDeletion (site.digest none rawToken)]
  | .changePassword user _ _, .ok _ => [.revoked user.id]
  | _, _ => []

section
variable {tokens : List Token} {token : Token} {now : Nat}

theorem mem_useTokens {selected : Token → Bool} (h : token ∈ useTokens tokens selected now) :
    ∃ old ∈ tokens, token = { old with usedAt := token.usedAt } ∧
      ((token.usedAt = old.usedAt ∧ (selected old = false ∨ old.usedAt ≠ none)) ∨
        token.usedAt = some now) := by
  obtain ⟨old, hold, rfl⟩ := mem_map.1 h
  refine ⟨old, hold, ?_⟩
  by_cases hcase : selected old && old.usedAt.isNone
  · rw [if_pos hcase]
    exact ⟨rfl, .inr rfl⟩
  · rw [if_neg hcase]
    refine ⟨rfl, .inl ⟨rfl, ?_⟩⟩
    cases hselected : selected old with
    | false => exact .inl rfl
    | true =>
      rw [hselected, Bool.true_and] at hcase
      exact .inr fun hnone => hcase (by rw [hnone]; rfl)

theorem map_useTokens {α : Type} {f : Token → α} (hf : ∀ token usedAt, f { token with usedAt } = f token)
    (selected : Token → Bool) : (useTokens tokens selected now).map f = tokens.map f := by
  unfold useTokens
  rw [map_map]
  refine map_congr_left fun old _ => ?_
  by_cases hcase : selected old && old.usedAt.isNone
  · simp only [Function.comp_apply, if_pos hcase]
    exact hf _ _
  · simp only [Function.comp_apply, if_neg hcase]

theorem useTokens_useTokens {first second : Token → Bool}
    (h : ∀ token usedAt, second { token with usedAt } = second token) :
    useTokens (useTokens tokens first now) second now =
      useTokens tokens (fun token => first token || second token) now := by
  unfold useTokens
  rw [map_map]
  refine map_congr_left fun token _ => ?_
  have hsame := h token (some now)
  cases hused : token.usedAt <;> cases hfirst : first token <;> cases hsecond : second token <;>
    simp_all

theorem useTokens_none : useTokens tokens (fun _ => false) now = tokens := by
  unfold useTokens
  simp

theorem put_used (hids : Table.Distinct Token.id tokens) (hmem : token ∈ tokens)
    (hunused : token.usedAt = none) :
    Table.put Token.id tokens { token with usedAt := some now } =
      useTokens tokens (fun other => other.id = token.id) now := by
  refine map_congr_left fun other hother => ?_
  by_cases hid : other.id = token.id
  · have hsame : other = token := hids.eq hother hmem hid
    subst hsame
    simp [hunused]
  · simp [hid]

end

/-- What one call does to the tokens, which users and identifiers of tokens there are, and what it
tells. -/
inductive Effect (now : Nat) (world next : World) : List Event → Prop
  /-- Some tokens are marked as used, the accepted one among them, and all those of a revoked
  account. -/
  | use (selected : Token → Bool) (accepted : Option Token) (revoked : Option Nat)
      (htokens : next.tokens = useTokens world.tokens selected now)
      (hnext : next.nextToken = world.nextToken)
      (husers : next.users.map User.id = world.users.map User.id)
      (haccepted : ∀ token ∈ accepted,
        token ∈ world.tokens ∧ selected token = true ∧ isUsable token now = true)
      (hrevoked : ∀ user ∈ revoked, ∀ token ∈ world.tokens, token.user = user →
        selected token = true) :
      Effect now world next
        (accepted.toList.map (fun token => .succeeded token.kind token.digest) ++
          revoked.toList.map .revoked)
  | issue (token : Token)
      (htokens : next.tokens =
        useTokens world.tokens (fun old => old.user = token.user && old.kind = token.kind) now ++ [token])
      (hid : token.id = world.nextToken) (hnext : next.nextToken = world.nextToken + 1)
      (husers : next.users.map User.id = world.users.map User.id)
      (howned : token.user ∈ world.users.map User.id)
      (hfresh : token.digest ∉ world.tokens.map Token.digest)
      (hattempts : token.attempts = 0) (hunused : token.usedAt = none) :
      Effect now world next [.issued token.user token.kind token.digest token.expiresAt]
  /-- A code is refused, which counts at the code that could have been given. -/
  | guess (user : Nat)
      (htokens : next.tokens = world.tokens.map fun token =>
        if token.user = user ∧ token.kind = .emailVerification ∧ isUsable token now = true
        then missed token now else token)
      (hnext : next.nextToken = world.nextToken)
      (husers : next.users.map User.id = world.users.map User.id) :
      Effect now world next [.guessed user]

def SameDeletions (world next : World) : Prop :=
  next.deletionRequests = world.deletionRequests ∧ next.nextDeletion = world.nextDeletion

/-- What one call does to the deletion requests. -/
inductive DeletionEffect (world next : World) : Prop
  | same (hsame : SameDeletions world next)
  /-- The pending requests of an account are cancelled and a new one is pending. -/
  | request (new : DeletionRequest) (now : Nat)
      (hrequests : next.deletionRequests = (world.deletionRequests.map fun request =>
        if isPending new.user request then cancelled request now else request) ++ [new])
      (hid : new.id = world.nextDeletion) (hnext : next.nextDeletion = world.nextDeletion + 1)
      (hstatus : new.status = .pendingConfirmation)
      (hfree : ∀ existing ∈ accountDeletionStatus world new.user,
        existing.status ≠ .confirmed ∧ existing.status ≠ .processing)
  /-- A request that is pending or confirmed is confirmed or cancelled. -/
  | change (request changed : DeletionRequest)
      (hrequests : next.deletionRequests = Table.put DeletionRequest.id world.deletionRequests changed)
      (hnext : next.nextDeletion = world.nextDeletion)
      (hmem : request ∈ world.deletionRequests)
      (hlive : request.status = .pendingConfirmation ∨ request.status = .confirmed)
      (hid : changed.id = request.id) (huser : changed.user = request.user)
      (hstatus : changed.status = .confirmed ∨ changed.status = .cancelled)

section
variable {site : Site} {world next : World} {now : Nat}

theorem Effect.of_tokens {world' next' : World} {events : List Event} (h : Effect now world next events)
    (hworld : world'.tokens = world.tokens ∧ world'.users = world.users ∧
      world'.nextToken = world.nextToken)
    (hnext' : next'.tokens = next.tokens ∧ next'.users = next.users ∧ next'.nextToken = next.nextToken) :
    Effect now world' next' events := by
  obtain ⟨hwtokens, hwusers, hwnext⟩ := hworld
  obtain ⟨hntokens, hnusers, hnnext⟩ := hnext'
  cases h with
  | use selected accepted revoked htokens hnext husers haccepted hrevoked =>
    rw [← hntokens, ← hwtokens] at htokens
    rw [← hnnext, ← hwnext] at hnext
    rw [← hnusers, ← hwusers] at husers
    rw [← hwtokens] at haccepted hrevoked
    exact .use selected accepted revoked htokens hnext husers haccepted hrevoked
  | issue token htokens hid hnext husers howned hfresh hattempts hunused =>
    rw [← hntokens, ← hwtokens] at htokens
    rw [← hwnext] at hid
    rw [← hnnext, ← hwnext] at hnext
    rw [← hnusers, ← hwusers] at husers
    rw [← hwusers] at howned
    rw [← hwtokens] at hfresh
    exact .issue token htokens hid hnext husers howned hfresh hattempts hunused
  | guess user htokens hnext husers =>
    rw [← hntokens, ← hwtokens] at htokens
    rw [← hnnext, ← hwnext] at hnext
    rw [← hnusers, ← hwusers] at husers
    exact .guess user htokens hnext husers

theorem Effect.refl (now : Nat) (world : World) : Effect now world world [] :=
  .use (fun _ => false) none none useTokens_none.symm rfl rfl (by simp) (by simp)

variable {user newPassword : Nat} {account : User} {kind : Kind} {value rawToken : Text}
  {issued : IssuedToken}

theorem mem_ids_of_find (h : Table.find User.id world.users user = some account) :
    user ∈ world.users.map User.id :=
  find_key h ▸ mem_map_of_mem (find_mem h)

theorem findUser_ok (h : findUser world user = .ok account) :
    Table.find User.id world.users user = some account := by
  unfold findUser at h
  split at h
  · simp at h
  · next hfind =>
    rw [hfind, Except.ok.inj h]

theorem lockCurrentIdentity_ok {user : Snapshot} {current : User}
    (h : lockCurrentIdentity world user = .ok current) : current.id = user.id := by
  obtain ⟨found, hfound, h⟩ := bind_eq_ok.1 h
  obtain ⟨_, h⟩ := unless_ok.1 h
  obtain rfl := Except.ok.inj h
  exact find_key (findUser_ok hfound)

theorem issueToken_ok {lifetime : Nat} {newEmail : Option Text} {scope : Option Nat}
    (h : issueToken site world user kind lifetime newEmail value scope now = .ok (next, issued)) :
    SameDeletions world next ∧
      Effect now world next [issuedEvent site user kind scope issued] := by
  obtain ⟨account, haccount, h⟩ := bind_eq_ok.1 h
  obtain ⟨hany, h⟩ := unless_ok.1 h
  obtain ⟨rfl, rfl⟩ := Prod.mk.inj (Except.ok.inj h)
  have hfresh : site.digest scope value ∉ world.tokens.map Token.digest := by
    rw [← map_useTokens (fun _ _ => rfl) (fun token => token.user = user && token.kind = kind)]
    simpa using hany
  exact ⟨⟨rfl, rfl⟩, .issue ⟨world.nextToken, user, kind, site.digest scope value, 0, newEmail,
    now + lifetime * second, none, now⟩ rfl rfl rfl rfl (mem_ids_of_find (findUser_ok haccount))
    hfresh rfl rfl⟩

theorem getUsableToken_ok {token : Token} {user : User}
    (h : getUsableToken site world rawToken kind now = .ok (token, user)) :
    token ∈ world.tokens ∧ token.kind = kind ∧ token.digest = site.digest none rawToken ∧
      isUsable token now = true ∧ token.user = user.id := by
  unfold getUsableToken at h
  split at h
  · simp at h
  · next found hfind =>
    split at h
    · simp at h
    · next owner howner =>
      obtain ⟨husable, h⟩ := unless_ok.1 h
      obtain ⟨rfl, rfl⟩ := Prod.mk.inj (Except.ok.inj h)
      have hrow := find?_some hfind
      simp only [Bool.and_eq_true, decide_eq_true_eq] at hrow
      exact ⟨mem_of_find?_eq_some hfind, hrow.2, hrow.1, by simpa using husable,
        (find_key howner).symm⟩

@[simp]
theorem isUsable_iff {token : Token} : isUsable token now = true ↔ token.usedAt = none ∧ now < token.expiresAt := by
  simp [isUsable]

theorem mem_verificationToken {token : Token} (h : verificationToken world user = some token) :
    token ∈ world.tokens ∧ token.user = user ∧ token.kind = .emailVerification ∧ token.usedAt = none := by
  obtain ⟨hmem, hrow⟩ := mem_filter.1 (mem_of_getLast? h)
  simpa [and_assoc] using And.intro hmem hrow

def Alone (tokens : List Token) : Prop :=
  ∀ first ∈ tokens, ∀ second ∈ tokens, first.user = second.user → first.kind = second.kind →
    first.usedAt = none → second.usedAt = none → first = second

theorem Alone.verificationToken (h : Alone world.tokens) {token : Token} (hmem : token ∈ world.tokens)
    (hkind : token.kind = .emailVerification) (hunused : token.usedAt = none) :
    verificationToken world token.user = some token := by
  cases hlast : Accounts.verificationToken world token.user with
  | none =>
    have hempty := getLast?_eq_none_iff.1 hlast
    exact absurd (hempty ▸ mem_filter.2 ⟨hmem, by simp [hkind, hunused]⟩) not_mem_nil
  | some newest =>
    obtain ⟨hnewest, huser, hnkind, hnunused⟩ := mem_verificationToken hlast
    rw [h newest hnewest token hmem huser (hnkind.trans hkind.symm) hnunused hunused]

theorem verifyEmailCode_effect {code : Text} {result : Except AccountError Nat}
    (hids : Table.Distinct Token.id world.tokens)
    (howned : ∀ token ∈ world.tokens, token.user ∈ world.users.map User.id)
    (halone : Alone world.tokens) (h : verifyEmailCode site world user code now = (next, result)) :
    SameDeletions world next ∧ Effect now world next
      (match result with
        | .error _ => [.guessed user]
        | .ok _ => [.succeeded .emailVerification (site.digest (some user) (site.strip code))]) := by
  have hguess : (∀ token ∈ world.tokens, token.user = user → token.kind = .emailVerification →
      ¬ isUsable token now = true) → Effect now world world [.guessed user] := by
    intro hnone
    refine .guess user ?_ rfl rfl
    rw [map_congr_left fun token hmem => if_neg fun hc => hnone token hmem hc.1 hc.2.1 hc.2.2]
    simp
  unfold verifyEmailCode at h
  split at h
  · next hfind =>
    obtain ⟨rfl, rfl⟩ := Prod.mk.inj h
    refine ⟨⟨rfl, rfl⟩, hguess fun token hmem huser _ _ => ?_⟩
    obtain ⟨account, haccount, hid⟩ := mem_map.1 (howned token hmem)
    exact find_eq_none.1 hfind account haccount (hid.trans huser)
  · next account hfind =>
    split at h
    · next hlast =>
      obtain ⟨rfl, rfl⟩ := Prod.mk.inj h
      refine ⟨⟨rfl, rfl⟩, hguess fun token hmem huser hkind husable => ?_⟩
      have hnewest := halone.verificationToken hmem hkind (isUsable_iff.1 husable).1
      rw [huser, hlast] at hnewest
      simp at hnewest
    · next newest hlast =>
      obtain ⟨hnewest, huser, hkind, hunused⟩ := mem_verificationToken hlast
      split at h
      · next hexpired =>
        obtain ⟨rfl, rfl⟩ := Prod.mk.inj h
        refine ⟨⟨rfl, rfl⟩, hguess fun token hmem htuser htkind husable => ?_⟩
        have hsame := halone token hmem newest hnewest (htuser.trans huser.symm)
          (htkind.trans hkind.symm) (isUsable_iff.1 husable).1 hunused
        rw [hsame] at husable
        rw [husable] at hexpired
        simp at hexpired
      · next husable =>
        simp only [Bool.not_eq_true', Bool.not_eq_false] at husable
        split at h
        · obtain ⟨rfl, rfl⟩ := Prod.mk.inj h
          refine ⟨⟨rfl, rfl⟩, .guess user ?_ rfl rfl⟩
          refine map_congr_left fun other hother => ?_
          by_cases hid : other.id = (missed newest now).id
          · obtain rfl : other = newest := hids.eq hother hnewest hid
            rw [if_pos hid, if_pos ⟨huser, hkind, husable⟩]
          · rw [if_neg hid, if_neg]
            rintro ⟨houser, hokind, housable⟩
            exact hid (by rw [halone other hother newest hnewest (houser.trans huser.symm)
              (hokind.trans hkind.symm) (isUsable_iff.1 housable).1 hunused]; rfl)
        · next hdigest =>
          obtain ⟨rfl, rfl⟩ := Prod.mk.inj h
          refine ⟨⟨rfl, rfl⟩, ?_⟩
          rw [← not_not.1 hdigest, ← hkind]
          exact .use (fun other => other.id = newest.id) (some newest) none
            (put_used hids hnewest hunused) rfl (map_key_put _ _)
            (by simpa using ⟨hnewest, isUsable_iff.1 husable⟩) (by simp)

theorem spent_effect {token : Token} (hids : Table.Distinct Token.id world.tokens)
    (hmem : token ∈ world.tokens) (husable : isUsable token now = true)
    (htokens : next.tokens = useTokens (Table.put Token.id world.tokens { token with usedAt := some now })
      (fun other => other.user = user) now) (hnext : next.nextToken = world.nextToken)
    (husers : next.users.map User.id = world.users.map User.id) :
    Effect now world next [.succeeded token.kind token.digest, .revoked user] := by
  refine .use (fun other => other.id = token.id || other.user = user) (some token) (some user) ?_ hnext
    husers ?_ ?_
  · rw [htokens, put_used hids hmem (isUsable_iff.1 husable).1, useTokens_useTokens fun _ _ => rfl]
  · intro other hother
    obtain rfl := Option.some.inj hother
    exact ⟨hmem, by simp, husable⟩
  · intro other hother token _ huser
    obtain rfl := Option.some.inj hother
    simp [huser]

theorem confirmPasswordReset_ok (hids : Table.Distinct Token.id world.tokens)
    (h : confirmPasswordReset site world rawToken newPassword now = .ok (next, user)) :
    SameDeletions world next ∧
      Effect now world next [.succeeded .passwordReset (site.digest none rawToken), .revoked user] := by
  obtain ⟨⟨token, account⟩, htoken, h⟩ := bind_eq_ok.1 h
  obtain ⟨hmem, hkind, hdigest, husable, _⟩ := getUsableToken_ok htoken
  obtain ⟨rfl, rfl⟩ := Prod.mk.inj (Except.ok.inj h)
  rw [← hkind, ← hdigest]
  exact ⟨⟨rfl, rfl⟩, spent_effect hids hmem husable rfl rfl (map_key_put _ _)⟩

theorem confirmEmailChange_ok (hids : Table.Distinct Token.id world.tokens)
    (h : confirmEmailChange site world rawToken now = .ok (next, user)) :
    SameDeletions world next ∧
      Effect now world next [.succeeded .emailChange (site.digest none rawToken), .revoked user] := by
  obtain ⟨⟨token, account⟩, htoken, h⟩ := bind_eq_ok.1 h
  obtain ⟨hmem, hkind, hdigest, husable, _⟩ := getUsableToken_ok htoken
  dsimp only at h
  split at h
  · simp at h
  · simp at h
  · obtain ⟨changed, _, h⟩ := bind_eq_ok.1 h
    obtain ⟨rfl, rfl⟩ := Prod.mk.inj (Except.ok.inj h)
    rw [← hkind, ← hdigest]
    exact ⟨⟨rfl, rfl⟩, spent_effect hids hmem husable rfl rfl (map_key_put _ _)⟩

theorem changePassword_ok {user : Snapshot} {keepSessionKey : Option Nat}
    (h : changePassword world user newPassword keepSessionKey now = .ok next) :
    SameDeletions world next ∧ Effect now world next [.revoked user.id] := by
  obtain ⟨current, hcurrent, h⟩ := bind_eq_ok.1 h
  obtain ⟨_, h⟩ := unless_ok.1 h
  obtain rfl := Except.ok.inj h
  rw [← lockCurrentIdentity_ok hcurrent]
  refine ⟨⟨rfl, rfl⟩, .use (fun token => token.user = current.id) none (some current.id) rfl rfl
    (map_key_put _ _) (by simp) ?_⟩
  intro other hother token _ huser
  obtain rfl := Option.some.inj hother
  simpa using huser

theorem requestEmailChange_ok {user : Snapshot} {newEmail : Text}
    (h : requestEmailChange site world user newEmail value now = .ok (next, issued)) :
    SameDeletions world next ∧
      Effect now world next [issuedEvent site user.id .emailChange none issued] := by
  obtain ⟨current, hcurrent, h⟩ := bind_eq_ok.1 h
  obtain ⟨_, h⟩ := unless_ok.1 h
  rw [← lockCurrentIdentity_ok hcurrent]
  exact issueToken_ok h

theorem resendVerification_ok {issued : Option IssuedToken}
    (h : resendVerification site world user value now = .ok (next, issued)) :
    SameDeletions world next ∧
      Effect now world next
        (issued.toList.map (issuedEvent site user .emailVerification (some user))) := by
  obtain ⟨account, _, h⟩ := bind_eq_ok.1 h
  split at h
  · obtain ⟨rfl, rfl⟩ := Prod.mk.inj (Except.ok.inj h)
    exact ⟨⟨rfl, rfl⟩, .refl now _⟩
  · split at h
    · obtain ⟨rfl, rfl⟩ := Prod.mk.inj (Except.ok.inj h)
      exact ⟨⟨rfl, rfl⟩, .refl now _⟩
    · obtain ⟨⟨made, token⟩, hissue, h⟩ := bind_eq_ok.1 h
      obtain ⟨rfl, rfl⟩ := Prod.mk.inj (Except.ok.inj h)
      exact issueToken_ok hissue

theorem requestPasswordReset_ok {email : Text} {issued : Option (Nat × IssuedToken)}
    (h : requestPasswordReset site world email value now = .ok (next, issued)) :
    SameDeletions world next ∧
      Effect now world next
        (issued.toList.map fun found => issuedEvent site found.1 .passwordReset none found.2) := by
  unfold requestPasswordReset at h
  split at h
  · obtain ⟨rfl, rfl⟩ := Prod.mk.inj (Except.ok.inj h)
    exact ⟨⟨rfl, rfl⟩, .refl now _⟩
  · obtain ⟨⟨made, token⟩, hissue, h⟩ := bind_eq_ok.1 h
    obtain ⟨rfl, rfl⟩ := Prod.mk.inj (Except.ok.inj h)
    exact issueToken_ok hissue

theorem requestAccountDeletion_ok {user : Snapshot} {answer : Nat × IssuedToken}
    (h : requestAccountDeletion site world user value now = .ok (next, answer)) :
    DeletionEffect world next ∧
      Effect now world next [issuedEvent site user.id .accountDeletion none answer.2] := by
  obtain ⟨current, hcurrent, h⟩ := bind_eq_ok.1 h
  obtain ⟨hfree, h⟩ := unless_ok.1 h
  obtain ⟨⟨made, token⟩, hissue, h⟩ := bind_eq_ok.1 h
  obtain ⟨rfl, rfl⟩ := Prod.mk.inj (Except.ok.inj h)
  rw [← lockCurrentIdentity_ok hcurrent]
  obtain ⟨⟨hrequests, hdeletion⟩, heffect⟩ := issueToken_ok hissue
  constructor
  · refine .request ⟨made.nextDeletion, current.id, world.nextToken, .pendingConfirmation, [], now,
      none, none⟩ now ?_ hdeletion (by rw [← hdeletion]) rfl ?_
    · rw [hrequests]
    · intro existing hexisting
      have hnot : ¬ (existing.status = .confirmed || existing.status = .processing) = true :=
        fun hc => hfree ((Option.any_eq_true _ _).2 ⟨existing, hexisting, hc⟩)
      simpa [not_or] using hnot
  · exact heffect.of_tokens ⟨rfl, rfl, rfl⟩ ⟨rfl, rfl, rfl⟩

theorem confirmAccountDeletion_ok {id : Nat} (hids : Table.Distinct Token.id world.tokens)
    (h : confirmAccountDeletion site world rawToken now = .ok (next, id)) :
    DeletionEffect world next ∧
      Effect now world next [.succeeded .accountDeletion (site.digest none rawToken)] := by
  obtain ⟨⟨token, account⟩, htoken, h⟩ := bind_eq_ok.1 h
  obtain ⟨hmem, hkind, hdigest, husable, _⟩ := getUsableToken_ok htoken
  dsimp only at h
  split at h
  · simp at h
  · next request hfind =>
    obtain ⟨rfl, rfl⟩ := Prod.mk.inj (Except.ok.inj h)
    have hrow := find?_some hfind
    simp only [Bool.and_eq_true, decide_eq_true_eq] at hrow
    constructor
    · exact .change request _ rfl rfl (mem_of_find?_eq_some hfind) (.inl hrow.2) rfl rfl (.inl rfl)
    · rw [← hkind, ← hdigest]
      exact .use (fun other => other.id = token.id) (some token) none
        (put_used hids hmem (isUsable_iff.1 husable).1) rfl rfl
        (by simpa using ⟨hmem, isUsable_iff.1 husable⟩) (by simp)

theorem cancelAccountDeletion_ok {user : Snapshot} {id : Nat}
    (h : cancelAccountDeletion world user now = .ok (next, id)) :
    DeletionEffect world next ∧ Effect now world next [] := by
  obtain ⟨_, _, h⟩ := bind_eq_ok.1 h
  split at h
  · simp at h
  · next request hlast =>
    obtain ⟨rfl, rfl⟩ := Prod.mk.inj (Except.ok.inj h)
    obtain ⟨hmem, hrow⟩ := mem_filter.1 (mem_of_getLast? hlast)
    simp only [Bool.and_eq_true, Bool.or_eq_true, decide_eq_true_eq] at hrow
    exact ⟨.change request _ rfl rfl hmem hrow.2 rfl rfl (.inr rfl),
      .use (fun token => token.id = request.confirmationToken) none none rfl rfl rfl (by simp) (by simp)⟩

/-- What an operation does when it succeeds is what its call does, when a refusal tells nothing. -/
theorem atomically_effect {result : Except AccountError (World × Answer)}
    {events : Except AccountError Answer → List Event}
    (hrefused : ∀ error, events (.error error) = [])
    (hok : ∀ next answer, result = .ok (next, answer) →
      DeletionEffect world next ∧ Effect now world next (events (.ok answer))) :
    DeletionEffect world (atomically world result).1 ∧
      Effect now world (atomically world result).1 (events (atomically world result).2) := by
  cases result with
  | error error =>
    refine ⟨.same ⟨rfl, rfl⟩, ?_⟩
    unfold atomically
    rw [hrefused]
    exact .refl now world
  | ok pair => exact hok pair.1 pair.2 rfl

theorem exec_effect (site : Site) (call : Call) (hids : Table.Distinct Token.id world.tokens)
    (howned : ∀ token ∈ world.tokens, token.user ∈ world.users.map User.id) (halone : Alone world.tokens) :
    DeletionEffect world (call.exec site world).1 ∧
      Effect call.now world (call.exec site world).1 (call.events site (call.exec site world).2) := by
  obtain ⟨request, now⟩ := call
  cases request with
  | issueVerificationCode user value =>
    refine atomically_effect (fun _ => rfl) fun next answer h => ?_
    obtain ⟨⟨made, token⟩, hissue, h⟩ := map_eq_ok.1 h
    obtain ⟨rfl, rfl⟩ := Prod.mk.inj h
    exact (issueToken_ok hissue).imp_left .same
  | resendVerification user value =>
    refine atomically_effect (fun _ => rfl) fun next answer h => ?_
    obtain ⟨⟨made, token⟩, hissue, h⟩ := map_eq_ok.1 h
    obtain ⟨rfl, rfl⟩ := Prod.mk.inj h
    cases token with
    | none => exact (resendVerification_ok hissue).imp_left .same
    | some token => exact (resendVerification_ok hissue).imp_left .same
  | verifyEmailCode user code =>
    cases hverify : verifyEmailCode site world user code now with
    | mk made result =>
      have heffect := (verifyEmailCode_effect hids howned halone hverify).imp_left DeletionEffect.same
      have hexec : Call.exec site ⟨.verifyEmailCode user code, now⟩ world = (made, .account <$> result) := by
        unfold Call.exec
        dsimp only
        rw [hverify]
      rw [hexec]
      cases result with
      | error error => exact heffect
      | ok user => exact heffect
  | requestPasswordReset email value =>
    refine atomically_effect (fun _ => rfl) fun next answer h => ?_
    obtain ⟨⟨made, token⟩, hissue, h⟩ := map_eq_ok.1 h
    obtain ⟨rfl, rfl⟩ := Prod.mk.inj h
    cases token with
    | none => exact (requestPasswordReset_ok hissue).imp_left .same
    | some token => exact (requestPasswordReset_ok hissue).imp_left .same
  | confirmPasswordReset rawToken newPassword =>
    refine atomically_effect (fun _ => rfl) fun next answer h => ?_
    obtain ⟨⟨made, user⟩, hconfirm, h⟩ := map_eq_ok.1 h
    obtain ⟨rfl, rfl⟩ := Prod.mk.inj h
    exact (confirmPasswordReset_ok hids hconfirm).imp_left .same
  | requestEmailChange user newEmail value =>
    refine atomically_effect (fun _ => rfl) fun next answer h => ?_
    obtain ⟨⟨made, token⟩, hissue, h⟩ := map_eq_ok.1 h
    obtain ⟨rfl, rfl⟩ := Prod.mk.inj h
    exact (requestEmailChange_ok hissue).imp_left .same
  | confirmEmailChange rawToken =>
    refine atomically_effect (fun _ => rfl) fun next answer h => ?_
    obtain ⟨⟨made, user⟩, hconfirm, h⟩ := map_eq_ok.1 h
    obtain ⟨rfl, rfl⟩ := Prod.mk.inj h
    exact (confirmEmailChange_ok hids hconfirm).imp_left .same
  | requestAccountDeletion user value =>
    refine atomically_effect (fun _ => rfl) fun next answer h => ?_
    obtain ⟨⟨made, id, token⟩, hissue, h⟩ := map_eq_ok.1 h
    obtain ⟨rfl, rfl⟩ := Prod.mk.inj h
    exact requestAccountDeletion_ok hissue
  | confirmAccountDeletion rawToken =>
    refine atomically_effect (fun _ => rfl) fun next answer h => ?_
    obtain ⟨⟨made, id⟩, hconfirm, h⟩ := map_eq_ok.1 h
    obtain ⟨rfl, rfl⟩ := Prod.mk.inj h
    exact confirmAccountDeletion_ok hids hconfirm
  | cancelAccountDeletion user =>
    refine atomically_effect (fun _ => rfl) fun next answer h => ?_
    obtain ⟨⟨made, id⟩, hcancel, h⟩ := map_eq_ok.1 h
    obtain ⟨rfl, rfl⟩ := Prod.mk.inj h
    exact cancelAccountDeletion_ok hcancel
  | changePassword user newPassword keepSessionKey =>
    refine atomically_effect (fun _ => rfl) fun next answer h => ?_
    obtain ⟨made, hchange, h⟩ := map_eq_ok.1 h
    obtain ⟨rfl, rfl⟩ := Prod.mk.inj h
    exact (changePassword_ok hchange).imp_left .same

end

end LockIn.Accounts
