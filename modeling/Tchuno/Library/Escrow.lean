import Mathlib.Algebra.Order.Group.Defs
import Mathlib.Tactic.Abel

/-!
# Escrow accounts

Money paid by a customer is first divided between a reserve and the balance held
for a provider; held money is released, released money is paid out, and what has
not been paid out can be given back.  An account carries the proofs that no part
is negative and that nothing is lost, so each movement asks for exactly the
bounds it needs.
-/

namespace Tchuno.Library

universe u

variable {Amount : Type u} [AddCommGroup Amount] [LinearOrder Amount]
  [IsOrderedAddMonoid Amount]

/-- Where the money of one payment is. -/
structure Escrow (Amount : Type u) [AddCommGroup Amount] [LinearOrder Amount] where
  paid : Amount
  reserved : Amount
  held : Amount
  available : Amount
  paidOut : Amount
  reserved_nonneg : 0 ≤ reserved
  held_nonneg : 0 ≤ held
  available_nonneg : 0 ≤ available
  paidOut_nonneg : 0 ≤ paidOut
  conserved : paid = reserved + held + available + paidOut

namespace Escrow

/-- Before the first payment. -/
def empty : Escrow Amount where
  paid := 0
  reserved := 0
  held := 0
  available := 0
  paidOut := 0
  reserved_nonneg := le_refl 0
  held_nonneg := le_refl 0
  available_nonneg := le_refl 0
  paidOut_nonneg := le_refl 0
  conserved := by simp

/-- The customer pays a fee and a net amount. -/
def charge (account : Escrow Amount) (fee net : Amount) (fee_nonneg : 0 ≤ fee)
    (net_nonneg : 0 ≤ net) : Escrow Amount where
  paid := account.paid + (fee + net)
  reserved := account.reserved + fee
  held := account.held + net
  available := account.available
  paidOut := account.paidOut
  reserved_nonneg := add_nonneg account.reserved_nonneg fee_nonneg
  held_nonneg := add_nonneg account.held_nonneg net_nonneg
  available_nonneg := account.available_nonneg
  paidOut_nonneg := account.paidOut_nonneg
  conserved := by
    rw [account.conserved]
    abel

/-- The whole held balance becomes available. -/
def release (account : Escrow Amount) : Escrow Amount where
  paid := account.paid
  reserved := account.reserved
  held := 0
  available := account.available + account.held
  paidOut := account.paidOut
  reserved_nonneg := account.reserved_nonneg
  held_nonneg := le_refl 0
  available_nonneg := add_nonneg account.available_nonneg account.held_nonneg
  paidOut_nonneg := account.paidOut_nonneg
  conserved := by
    rw [account.conserved]
    abel

/-- Part of the available balance is paid out. -/
def payOut (account : Escrow Amount) (amount : Amount) (nonneg : 0 ≤ amount)
    (covered : amount ≤ account.available) : Escrow Amount where
  paid := account.paid
  reserved := account.reserved
  held := account.held
  available := account.available - amount
  paidOut := account.paidOut + amount
  reserved_nonneg := account.reserved_nonneg
  held_nonneg := account.held_nonneg
  available_nonneg := sub_nonneg.mpr covered
  paidOut_nonneg := add_nonneg account.paidOut_nonneg nonneg
  conserved := by
    rw [account.conserved]
    abel

/-- A refund takes a share from the reserve; the provider's share comes from the
held balance as far as it goes and from the available balance beyond. -/
def refund (account : Escrow Amount) (platformPart providerPart : Amount)
    (reserved_covers : platformPart ≤ account.reserved)
    (provider_covers : providerPart ≤ account.held + account.available) :
    Escrow Amount where
  paid := account.paid - (platformPart + providerPart)
  reserved := account.reserved - platformPart
  held := account.held - min account.held providerPart
  available := account.available - (providerPart - min account.held providerPart)
  paidOut := account.paidOut
  reserved_nonneg := sub_nonneg.mpr reserved_covers
  held_nonneg := sub_nonneg.mpr (min_le_left _ _)
  available_nonneg := by
    rcases le_total account.held providerPart with short | enough
    · rw [min_eq_left short, sub_nonneg]
      exact sub_le_iff_le_add'.mpr provider_covers
    · rw [min_eq_right enough, sub_self, sub_zero]
      exact account.available_nonneg
  paidOut_nonneg := account.paidOut_nonneg
  conserved := by
    rw [account.conserved]
    abel

end Escrow

end Tchuno.Library
