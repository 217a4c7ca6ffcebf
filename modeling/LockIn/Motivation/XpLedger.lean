import LockIn.Library.Dictionary
import LockIn.Library.Outcome

/-!
# The XP ledger and its balances

An award is a row of the ledger, one for each user, source and rule.  The balance of a user is kept
beside the ledger and is never its authority: it can be summed up again from the rows at any time,
and the sums are the ones that were kept.
-/

namespace LockIn.Motivation

open List

structure XpTransaction where
  user : Nat
  sourceKey : String
  sourceEventId : Option Nat
  sourceEventName : String
  sourceObjectId : Option Nat
  ruleCode : String
  points : ℤ
  category : String
  reason : String
  rankingEligible : Bool
  occurredAt : ℤ

/-- What the uniqueness constraint of the ledger is about. -/
def XpTransaction.key (award : XpTransaction) : Nat × String × String :=
  (award.user, award.sourceKey, award.ruleCode)

structure XpBalance where
  totalPoints : ℤ
  rankingPoints : ℤ
  transactionCount : Nat
  lastAwardedAt : Option ℤ
  revision : Nat
deriving DecidableEq

structure XpBooks where
  transactions : List XpTransaction
  balances : List (Nat × XpBalance)

inductive XpError where
  | rule (message : String)
  | userDoesNotExist

def emptyBalance : XpBalance := ⟨0, 0, 0, none, 0⟩

def XpBooks.balance (books : XpBooks) (user : Nat) : XpBalance :=
  (Dictionary.get books.balances user).getD emptyBalance

/-- `max(filter(None, (earlier, occurred_at)))` -/
def latest (earlier : Option ℤ) (occurredAt : ℤ) : ℤ :=
  match earlier with
  | none => occurredAt
  | some instant => max instant occurredAt

def XpBalance.add (balance : XpBalance) (award : XpTransaction) : XpBalance where
  totalPoints := balance.totalPoints + award.points
  rankingPoints :=
    if award.rankingEligible then balance.rankingPoints + award.points else balance.rankingPoints
  transactionCount := balance.transactionCount + 1
  lastAwardedAt := some (latest balance.lastAwardedAt award.occurredAt)
  revision := balance.revision + 1

def awardXp (books : XpBooks) (active : Bool) (award : XpTransaction) :
    Except XpError (XpBooks × XpTransaction × Bool) :=
  if award.points ≤ 0 ∨ award.points > 2000 then
    .error (.rule "A normal XP award must be between 1 and 2,000 points.")
  else if !active then .error .userDoesNotExist
  else
    match books.transactions.find? (·.key = award.key) with
    | some earlier => .ok (books, earlier, false)
    | none =>
      let balances := Dictionary.set books.balances award.user ((books.balance award.user).add award)
      .ok (⟨books.transactions ++ [award], balances⟩, award, true)

/-- `XpTransaction.objects.filter(user=user)` -/
def XpBooks.awards (books : XpBooks) (user : Nat) : List XpTransaction :=
  books.transactions.filter (·.user = user)

def totalOf (awards : List XpTransaction) : ℤ := (awards.map (·.points)).sum

def rankingOf (awards : List XpTransaction) : ℤ := totalOf (awards.filter (·.rankingEligible))

def lastOf (awards : List XpTransaction) : Option ℤ := (awards.map (·.occurredAt)).max?

def XpBalance.rebuilt (balance : XpBalance) (awards : List XpTransaction) : XpBalance where
  totalPoints := max (totalOf awards) 0
  rankingPoints := max (rankingOf awards) 0
  transactionCount := awards.length
  lastAwardedAt := lastOf awards
  revision := balance.revision + 1

def rebuildBalance (books : XpBooks) (user : Nat) : XpBooks :=
  { books with
    balances := Dictionary.set books.balances user
      ((books.balance user).rebuilt (books.awards user)) }

/-- What is done to the ledger and the balances. -/
inductive XpCall where
  | award (active : Bool) (award : XpTransaction)
  | rebuild (user : Nat)

def XpBooks.exec (books : XpBooks) : XpCall → XpBooks
  | .award active award =>
    match awardXp books active award with
    | .ok (later, _) => later
    | .error _ => books
  | .rebuild user => rebuildBalance books user

def XpBooks.run (books : XpBooks) (calls : List XpCall) : XpBooks := calls.foldl XpBooks.exec books

def XpBooks.empty : XpBooks := ⟨[], []⟩

structure XpBalance.Sums (balance : XpBalance) (awards : List XpTransaction) : Prop where
  total : balance.totalPoints = totalOf awards
  ranking : balance.rankingPoints = rankingOf awards
  count : balance.transactionCount = awards.length
  last : balance.lastAwardedAt = lastOf awards

/-- No source is paid twice under a rule, awards are of 1 to 2000 points, and the balance of every
user is the sum of the awards. -/
structure XpBooks.Kept (books : XpBooks) : Prop where
  once : (books.transactions.map XpTransaction.key).Nodup
  points : ∀ award ∈ books.transactions, 1 ≤ award.points ∧ award.points ≤ 2000
  sums : ∀ user, (books.balance user).Sums (books.awards user)

section
variable {books : XpBooks} {balance : XpBalance} {award : XpTransaction} {user : Nat}
  {awards : List XpTransaction}

theorem totalOf_append (awards : List XpTransaction) (award : XpTransaction) :
    totalOf (awards ++ [award]) = totalOf awards + award.points := by
  simp [totalOf]

theorem rankingOf_append (awards : List XpTransaction) (award : XpTransaction) :
    rankingOf (awards ++ [award]) =
      if award.rankingEligible then rankingOf awards + award.points else rankingOf awards := by
  rw [rankingOf, filter_append]
  cases h : award.rankingEligible with
  | true => rw [if_pos rfl, filter_singleton, h, cond_true, totalOf_append, rankingOf]
  | false => rw [if_neg (by simp), filter_singleton, h, cond_false, append_nil, rankingOf]

theorem lastOf_append (awards : List XpTransaction) (award : XpTransaction) :
    lastOf (awards ++ [award]) = some (latest (lastOf awards) award.occurredAt) := by
  cases awards with
  | nil => rfl
  | cons first rest =>
    simp only [lastOf, map_append, map_cons, map_nil, cons_append,
      max?_cons', foldl_append, foldl_cons, foldl_nil, latest]

theorem totalOf_nonneg (h : ∀ award ∈ awards, 1 ≤ award.points) : 0 ≤ totalOf awards := by
  refine sum_nonneg fun points hpoints => ?_
  obtain ⟨award, haward, rfl⟩ := mem_map.1 hpoints
  have hone := h award haward
  omega

theorem rankingOf_nonneg (h : ∀ award ∈ awards, 1 ≤ award.points) : 0 ≤ rankingOf awards :=
  totalOf_nonneg fun award haward => h award (mem_filter.1 haward).1

theorem XpBalance.Sums.add (h : balance.Sums awards) (award : XpTransaction) :
    (balance.add award).Sums (awards ++ [award]) where
  total := by rw [totalOf_append, ← h.total]; rfl
  ranking := by rw [rankingOf_append, ← h.ranking]; rfl
  count := by rw [length_append, ← h.count]; rfl
  last := by rw [lastOf_append, ← h.last]; rfl

theorem XpBalance.rebuilt_sums (balance : XpBalance) (h : ∀ award ∈ awards, 1 ≤ award.points) :
    (balance.rebuilt awards).Sums awards where
  total := max_eq_left (totalOf_nonneg h)
  ranking := max_eq_left (rankingOf_nonneg h)
  count := rfl
  last := rfl

theorem XpBalance.Sums.rebuilt_eq (h : balance.Sums awards)
    (hpoints : ∀ award ∈ awards, 1 ≤ award.points) :
    balance.rebuilt awards = { balance with revision := balance.revision + 1 } := by
  rw [XpBalance.rebuilt, max_eq_left (totalOf_nonneg hpoints),
    max_eq_left (rankingOf_nonneg hpoints), ← h.total, ← h.ranking, ← h.count, ← h.last]

theorem awards_append (books : XpBooks) (award : XpTransaction) (balances : List (Nat × XpBalance))
    (user : Nat) :
    XpBooks.awards ⟨books.transactions ++ [award], balances⟩ user =
      if award.user = user then books.awards user ++ [award] else books.awards user := by
  rw [XpBooks.awards, filter_append]
  by_cases h : award.user = user
  · rw [if_pos h, filter_singleton, decide_eq_true h, cond_true, XpBooks.awards]
  · rw [if_neg h, filter_singleton, decide_eq_false h, cond_false, append_nil,
      XpBooks.awards]

theorem balance_set (transactions : List XpTransaction) (books : XpBooks) (who : Nat)
    (value : XpBalance) (user : Nat) :
    XpBooks.balance ⟨transactions, Dictionary.set books.balances who value⟩ user =
      if user = who then value else books.balance user := by
  rw [XpBooks.balance, Dictionary.get_set]
  split_ifs
  · rfl
  · rfl

theorem XpBooks.Kept.empty : XpBooks.empty.Kept where
  once := nodup_nil
  points := forall_mem_nil _
  sums := fun _ => ⟨rfl, rfl, rfl, rfl⟩

variable {later : XpBooks} {row : XpTransaction}

theorem awardXp_ok {active isNew : Bool}
    (h : awardXp books active award = .ok (later, row, isNew)) :
    active = true ∧ 1 ≤ award.points ∧ award.points ≤ 2000 ∧ row.key = award.key ∧
      ((isNew = false ∧ row ∈ books.transactions ∧ later = books) ∨
      (isNew = true ∧ row = award ∧ award.key ∉ books.transactions.map XpTransaction.key ∧
        later = ⟨books.transactions ++ [award],
          Dictionary.set books.balances award.user ((books.balance award.user).add award)⟩)) := by
  obtain ⟨hpoints, h⟩ := Outcome.unless_ok.1 h
  cases active with
  | false => cases h
  | true =>
    refine ⟨rfl, by omega, by omega, ?_⟩
    simp only [Bool.not_true, Bool.false_eq_true, if_false] at h
    cases hfind : books.transactions.find? (·.key = award.key) with
    | some earlier =>
      rw [hfind] at h
      cases h
      exact ⟨by simpa using find?_some hfind, .inl ⟨rfl, mem_of_find?_eq_some hfind, rfl⟩⟩
    | none =>
      rw [hfind] at h
      cases h
      refine ⟨rfl, .inr ⟨rfl, rfl, fun hmem => ?_, rfl⟩⟩
      obtain ⟨earlier, hearlier, hkey⟩ := mem_map.1 hmem
      have hnone := find?_eq_none.1 hfind earlier hearlier
      simp [hkey] at hnone

theorem XpBooks.Kept.awardXp {active isNew : Bool} (hkept : books.Kept)
    (h : awardXp books active award = .ok (later, row, isNew)) : later.Kept := by
  obtain ⟨-, hlow, hhigh, -, ⟨-, -, rfl⟩ | ⟨-, -, hnew, rfl⟩⟩ := awardXp_ok h
  · exact hkept
  · constructor
    · exact Table.Distinct.append hkept.once
        fun row hrow hkey => hnew (mem_map.2 ⟨row, hrow, hkey⟩)
    · exact Table.forall_mem_append hkept.points ⟨hlow, hhigh⟩
    · intro user
      rw [awards_append, balance_set]
      by_cases huser : award.user = user
      · subst huser
        rw [if_pos rfl, if_pos rfl]
        exact (hkept.sums award.user).add award
      · rw [if_neg huser, if_neg (Ne.symm huser)]
        exact hkept.sums user

theorem XpBooks.Kept.points_pos (hkept : books.Kept) : ∀ award ∈ books.awards user, 1 ≤ award.points :=
  fun award haward => (hkept.points award (mem_filter.1 haward).1).1

theorem XpBooks.Kept.rebuildBalance_eq (hkept : books.Kept) (user : Nat) :
    (rebuildBalance books user).transactions = books.transactions ∧
      ∀ other, (rebuildBalance books user).balance other =
        if other = user then
          { books.balance user with revision := (books.balance user).revision + 1 }
        else books.balance other := by
  refine ⟨rfl, fun other => ?_⟩
  rw [rebuildBalance, balance_set, (hkept.sums user).rebuilt_eq hkept.points_pos]

theorem XpBooks.Kept.rebuildBalance (hkept : books.Kept) (user : Nat) : (rebuildBalance books user).Kept where
  once := hkept.once
  points := hkept.points
  sums := by
    intro other
    have hawards : (Motivation.rebuildBalance books user).awards other = books.awards other := rfl
    rw [hawards, Motivation.rebuildBalance, balance_set]
    split_ifs with hother
    · subst hother
      exact XpBalance.rebuilt_sums _ hkept.points_pos
    · exact hkept.sums other

theorem XpBooks.Kept.exec (hkept : books.Kept) (call : XpCall) : (books.exec call).Kept := by
  cases call with
  | award active award =>
    rw [XpBooks.exec]
    cases h : Motivation.awardXp books active award with
    | ok result => exact hkept.awardXp h
    | error _ => exact hkept
  | rebuild user => exact hkept.rebuildBalance user

theorem XpBooks.Kept.run (calls : List XpCall) : (XpBooks.empty.run calls).Kept :=
  List.foldlRecOn calls XpBooks.exec XpBooks.Kept.empty fun _ hkept call _ => hkept.exec call

end

end LockIn.Motivation
