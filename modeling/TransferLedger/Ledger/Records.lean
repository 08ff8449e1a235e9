import TransferLedger.Money.Currency
import TransferLedger.Transfer.Params

/-! The rows of the ledger: accounts, entries that each move one account's balance, and transfers
that tie a debit entry to a credit entry. -/

namespace TransferLedger

/-- An account and its current balance. -/
structure Account where
  id : AccountId
  owner : String
  balance : Decimal
  currency : Currency
  deriving DecidableEq, Repr

structure Entry where
  id : Nat
  accountId : AccountId
  amount : Decimal
  deriving DecidableEq, Repr

/-- A movement of a positive amount from one account to another. -/
structure TransferRecord where
  id : Nat
  fromAccountId : AccountId
  toAccountId : AccountId
  amount : Decimal
  deriving DecidableEq, Repr

/-- What a completed transfer leaves behind: its record, both accounts as the transaction saw
them after the balance update, and its two entries. -/
structure TransferReceipt where
  transfer : TransferRecord
  fromAccount : Account
  toAccount : Account
  fromEntry : Entry
  toEntry : Entry
  deriving DecidableEq, Repr

def TransferReceipt.amount (r : TransferReceipt) : Decimal := r.transfer.amount

def TransferRecord.touches (t : TransferRecord) (id : AccountId) : Bool :=
  t.fromAccountId == id || t.toAccountId == id

end TransferLedger
