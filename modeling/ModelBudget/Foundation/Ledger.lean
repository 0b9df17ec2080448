/-
Accounts from which amounts are held and partly given back.

A holding is charged to a ticket when it is made and may be reduced later, never
below zero.  What an account has available and what its tickets are charged add
up to its capacity for ever, so giving back never overfills an account.
-/

import Mathlib.Data.Finsupp.Weight
import Mathlib.Tactic.Abel
import ModelBudget.Foundation.Transition

set_option autoImplicit false

namespace Foundation

structure Ledger (Account Ticket Amount : Type) [Zero Amount] where
  capacity : Account → Amount
  available : Account → Amount
  charge : Account → Ticket →₀ Amount

namespace Ledger

variable {Account Ticket Amount : Type} [AddCommGroup Amount] [LinearOrder Amount]
  [IsOrderedAddMonoid Amount]

structure Balanced (ledger : Ledger Account Ticket Amount) : Prop where
  conserved : ∀ account,
    ledger.available account + (ledger.charge account).degree = ledger.capacity account
  solvent : ∀ account, 0 ≤ ledger.available account
  charged : ∀ account ticket, 0 ≤ ledger.charge account ticket

theorem charge_le_degree {charge : Ticket →₀ Amount} (positive : ∀ ticket, 0 ≤ charge ticket)
    (ticket : Ticket) : charge ticket ≤ charge.degree := by
  by_cases absent : charge ticket = 0
  · rw [absent, Finsupp.degree_apply]
    exact Finset.sum_nonneg fun other _ => positive other
  · rw [Finsupp.degree_apply]
    exact Finset.single_le_sum (fun other _ => positive other)
      (Finsupp.mem_support_iff.mpr absent)

namespace Balanced

/-- What a ticket is charged can always be given back to its account. -/
theorem giveBack_fits {ledger : Ledger Account Ticket Amount} (balanced : ledger.Balanced)
    {account : Account} {ticket : Ticket} {amount : Amount}
    (charged : amount ≤ ledger.charge account ticket) :
    ledger.available account + amount ≤ ledger.capacity account := by
  rw [← balanced.conserved account]
  apply add_le_add_right
  exact charged.trans (charge_le_degree (balanced.charged account) ticket)

end Balanced

noncomputable section

variable [DecidableEq Account]

def hold (ledger : Ledger Account Ticket Amount) (account : Account) (ticket : Ticket)
    (amount : Amount) : Ledger Account Ticket Amount where
  capacity := ledger.capacity
  available := Function.update ledger.available account (ledger.available account - amount)
  charge := Function.update ledger.charge account
    (ledger.charge account + Finsupp.single ticket amount)

/-- Giving back is holding a negative amount. -/
def giveBack (ledger : Ledger Account Ticket Amount) (account : Account) (ticket : Ticket)
    (amount : Amount) : Ledger Account Ticket Amount :=
  ledger.hold account ticket (-amount)

/-- A new account is empty of charges and has its whole capacity available. -/
def openAccount (ledger : Ledger Account Ticket Amount) (account : Account)
    (capacity : Amount) : Ledger Account Ticket Amount where
  capacity := Function.update ledger.capacity account capacity
  available := Function.update ledger.available account capacity
  charge := Function.update ledger.charge account 0

inductive Movement (Account Ticket Amount : Type)
  | idle
  | hold (account : Account) (ticket : Ticket) (amount : Amount)
  | giveBack (account : Account) (ticket : Ticket) (amount : Amount)
  | openAccount (account : Account) (capacity : Amount)

inductive Step : Transition (Ledger Account Ticket Amount) (Movement Account Ticket Amount)
  | idle (ledger : Ledger Account Ticket Amount) : Step ledger .idle ledger
  | hold (ledger : Ledger Account Ticket Amount) (account : Account) (ticket : Ticket)
      (amount : Amount) (positive : 0 ≤ amount) (covered : amount ≤ ledger.available account) :
      Step ledger (.hold account ticket amount) (ledger.hold account ticket amount)
  | giveBack (ledger : Ledger Account Ticket Amount) (account : Account) (ticket : Ticket)
      (amount : Amount) (positive : 0 ≤ amount)
      (charged : amount ≤ ledger.charge account ticket) :
      Step ledger (.giveBack account ticket amount) (ledger.giveBack account ticket amount)
  | openAccount (ledger : Ledger Account Ticket Amount) (account : Account)
      (capacity : Amount) (positive : 0 ≤ capacity) :
      Step ledger (.openAccount account capacity) (ledger.openAccount account capacity)

namespace Balanced

private theorem hold_kept {ledger : Ledger Account Ticket Amount}
    (balanced : ledger.Balanced) {account : Account} {ticket : Ticket} {amount : Amount}
    (covered : amount ≤ ledger.available account)
    (remains : 0 ≤ ledger.charge account ticket + amount) :
    (ledger.hold account ticket amount).Balanced := by
  constructor
  · intro other
    by_cases same : other = account
    · subst same
      have conserved := balanced.conserved other
      simp only [hold, Function.update_self, map_add, Finsupp.degree_single]
      rw [← conserved]
      abel
    · simp only [hold, Function.update_of_ne same]
      exact balanced.conserved other
  · intro other
    by_cases same : other = account
    · subst same
      simp only [hold, Function.update_self]
      exact sub_nonneg.mpr covered
    · simp only [hold, Function.update_of_ne same]
      exact balanced.solvent other
  · intro other queried
    by_cases same : other = account
    · subst same
      simp only [hold, Function.update_self, Finsupp.add_apply]
      by_cases ticketSame : ticket = queried
      · subst ticketSame
        rw [Finsupp.single_eq_same]
        exact remains
      · rw [Finsupp.single_eq_of_ne (Ne.symm ticketSame), add_zero]
        exact balanced.charged other queried
    · simp only [hold, Function.update_of_ne same]
      exact balanced.charged other queried

theorem step {before after : Ledger Account Ticket Amount}
    {movement : Movement Account Ticket Amount} (balanced : before.Balanced)
    (taken : Step before movement after) : after.Balanced := by
  cases taken with
  | idle => exact balanced
  | hold _ account ticket amount positive covered =>
      apply balanced.hold_kept covered
      exact add_nonneg (balanced.charged account ticket) positive
  | giveBack _ account ticket amount positive charged =>
      apply balanced.hold_kept
      · exact (neg_nonpos.mpr positive).trans (balanced.solvent account)
      · rw [← sub_eq_add_neg]
        exact sub_nonneg.mpr charged
  | openAccount _ account capacity positive =>
      constructor
      · intro other
        by_cases same : other = account
        · subst same
          simp only [openAccount, Function.update_self, map_zero, add_zero]
        · simp only [openAccount, Function.update_of_ne same]
          exact balanced.conserved other
      · intro other
        by_cases same : other = account
        · subst same
          simp only [openAccount, Function.update_self]
          exact positive
        · simp only [openAccount, Function.update_of_ne same]
          exact balanced.solvent other
      · intro other ticket
        by_cases same : other = account
        · subst same
          simp only [openAccount, Function.update_self, Finsupp.zero_apply, le_refl]
        · simp only [openAccount, Function.update_of_ne same]
          exact balanced.charged other ticket

end Balanced

end

end Ledger

end Foundation
