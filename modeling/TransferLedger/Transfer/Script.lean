import TransferLedger.Failure.Transfer
import TransferLedger.Json.Value
import TransferLedger.Ledger.Records
import TransferLedger.Transfer.Log
import TransferLedger.Transfer.LockOrder

/-! Units of work as scripts of requests to one transaction, answered by an interpreter.
`lockAccounts` locks a transfer's accounts in lock order and gives their rows back in transfer
direction. -/

namespace TransferLedger

/-- A unit of work run in one transaction, ending in a value of type `α`. -/
inductive TxScript (α : Type) where
  | pure (value : α)
  | fail (error : TransferError)
  | lockForUpdate (id : AccountId) (next : Except InfraError (Option Account) → TxScript α)
  | view (id : AccountId) (next : Except InfraError (Option Account) → TxScript α)
  | recordTransfer (fromId toId : AccountId) (amount : Decimal)
      (next : Except InfraError TransferRecord → TxScript α)
  | recordEntry (accountId : AccountId) (amount : Decimal)
      (next : Except InfraError Entry → TxScript α)
  | moveBalances (fromId toId : AccountId) (amount : Decimal)
      (next : Except InfraError Nat → TxScript α)
  | log (event : LogEvent) (next : TxScript α)
  | note (item : Json) (next : TxScript α)

namespace TxScript

def bind : TxScript α → (α → TxScript β) → TxScript β
  | .pure a, f => f a
  | .fail e, _ => .fail e
  | .lockForUpdate id next, f => .lockForUpdate id fun r => bind (next r) f
  | .view id next, f => .view id fun r => bind (next r) f
  | .recordTransfer fromId toId amount next, f =>
    .recordTransfer fromId toId amount fun r => bind (next r) f
  | .recordEntry accountId amount next, f => .recordEntry accountId amount fun r => bind (next r) f
  | .moveBalances fromId toId amount next, f =>
    .moveBalances fromId toId amount fun r => bind (next r) f
  | .log event next, f => .log event (bind next f)
  | .note item next, f => .note item (bind next f)

instance : Monad TxScript where
  pure := .pure
  bind := bind

def orFail : Except InfraError α → TxScript α
  | .ok a => .pure a
  | .error e => .fail (.infrastructure e)

def lock (id : AccountId) : TxScript (Option Account) := .lockForUpdate id orFail

def read (id : AccountId) : TxScript (Option Account) := .view id orFail

def newTransfer (fromId toId : AccountId) (amount : Decimal) : TxScript TransferRecord :=
  .recordTransfer fromId toId amount orFail

def newEntry (accountId : AccountId) (amount : Decimal) : TxScript Entry :=
  .recordEntry accountId amount orFail

def move (fromId toId : AccountId) (amount : Decimal) : TxScript Nat :=
  .moveBalances fromId toId amount orFail

def emit (event : LogEvent) : TxScript Unit := .log event (.pure ())

def keep (item : Json) : TxScript Unit := .note item (.pure ())

def throw (e : TransferError) : TxScript α := .fail e

end TxScript

structure LockedAccounts where
  fromAccount : Option Account
  toAccount : Option Account
  deriving DecidableEq, Repr

/-- Locks both ends of a transfer in lock order, once for a self-transfer, and answers the rows in
transfer direction. -/
def lockAccounts (fromId toId : AccountId) : TxScript LockedAccounts :=
  if fromId = toId then do
    let row ← TxScript.lock fromId
    return ⟨row, row⟩
  else do
    let (first, second) := canonicalOrder fromId toId
    let firstRow ← TxScript.lock first
    let secondRow ← TxScript.lock second
    return if first = fromId then ⟨firstRow, secondRow⟩ else ⟨secondRow, firstRow⟩

end TransferLedger
