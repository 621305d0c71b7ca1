import Mathlib.Algebra.BigOperators.Group.Finset.Piecewise
import Mathlib.Algebra.Order.Group.Defs
import Mathlib.Data.Fintype.Basic
import Mathlib.Tactic.Abel

/-!
# Double-entry journals

A posting moves a signed amount on one account: credits count positively and
debits negatively.  A journal is a list of postings.  The balance of an account
is additive in the journal, and the balances of all accounts add up to the
journal's total; a journal built from balanced groups therefore keeps the sum
of its balances at zero.
-/

namespace Tchuno.Library

universe u v

/-- A signed amount on one account. -/
structure Posting (Account : Type u) (Amount : Type v) where
  account : Account
  amount : Amount

namespace Journal

variable {Account : Type u} {Amount : Type v} [AddCommGroup Amount]

/-- Sum of all postings. -/
def total (journal : List (Posting Account Amount)) : Amount :=
  (journal.map Posting.amount).sum

theorem total_append (first second : List (Posting Account Amount)) :
    total (first ++ second) = total first + total second := by
  simp [total]

variable [DecidableEq Account]

/-- Sum of the postings of one account. -/
def balance (journal : List (Posting Account Amount)) (account : Account) : Amount :=
  total (journal.filter fun posting => posting.account = account)

@[simp]
theorem balance_nil (account : Account) :
    balance ([] : List (Posting Account Amount)) account = 0 := rfl

theorem balance_append (first second : List (Posting Account Amount))
    (account : Account) :
    balance (first ++ second) account =
      balance first account + balance second account := by
  rw [balance, List.filter_append, total_append, ← balance, ← balance]

theorem balance_cons (posting : Posting Account Amount)
    (journal : List (Posting Account Amount)) (account : Account) :
    balance (posting :: journal) account =
      (if posting.account = account then posting.amount else 0) +
        balance journal account := by
  by_cases same : posting.account = account
  · simp [balance, total, same]
  · simp [balance, total, same]

/-- The balances of all accounts add up to the total. -/
theorem sum_balance [Fintype Account] (journal : List (Posting Account Amount)) :
    ∑ account, balance journal account = total journal := by
  induction journal with
  | nil =>
      simp [total]
  | cons posting rest inductionHypothesis =>
      simp only [balance_cons, Finset.sum_add_distrib, inductionHypothesis]
      simp [total]

end Journal

end Tchuno.Library
