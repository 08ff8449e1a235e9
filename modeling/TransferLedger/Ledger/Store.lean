import TransferLedger.Decimal.Arith
import TransferLedger.Decimal.Render
import TransferLedger.Failure.Transfer
import TransferLedger.Ledger.Records

/-! The in-memory ledger store: committed rows and open transactions. A transaction takes a row's
lock with a private copy that it publishes at commit; a lock another transaction holds makes the
step wait, and a balance update that would make a balance negative is refused as a whole. -/

namespace TransferLedger

abbrev TxId := Nat

/-- The private state of an open transaction. -/
structure OpenTx where
  id : TxId
  /-- The rows it holds locked, as it will publish them, in the order it locked them. -/
  held : List Account := []
  transfers : List TransferRecord := []
  entries : List Entry := []
  deriving Repr

/-- The committed ledger and its open transactions. -/
structure Store where
  accounts : List Account := []
  entries : List Entry := []
  transfers : List TransferRecord := []
  nextAccount : Nat := 1
  nextEntry : Nat := 1
  nextTransfer : Nat := 1
  openTxs : List OpenTx := []
  nextTx : TxId := 0
  deriving Repr

/-- What a store step did: finished with a result, waits on a row lock another transaction
holds, or stopped the program on an arithmetic overflow. -/
inductive StoreStep (α : Type) where
  | done (store : Store) (result : Except InfraError α)
  | waiting (store : Store)
  | panicked (message : String)

inductive LockGrant where
  | absent
  | granted (store : Store) (row : Account)
  | waiting

namespace Store

def account? (s : Store) (id : AccountId) : Option Account :=
  s.accounts.find? (·.id == id)

def hasAccount (s : Store) (id : AccountId) : Bool :=
  s.accounts.any (·.id == id)

def tx? (s : Store) (t : TxId) : Option OpenTx :=
  s.openTxs.find? (·.id == t)

def isOpen (s : Store) (t : TxId) : Bool :=
  s.openTxs.any (·.id == t)

def modifyTx (s : Store) (t : TxId) (f : OpenTx → OpenTx) : Store :=
  { s with openTxs := s.openTxs.map fun tx => if tx.id == t then f tx else tx }

def heldRow? (s : Store) (t : TxId) (id : AccountId) : Option Account :=
  (s.tx? t).bind fun tx => tx.held.find? (·.id == id)

def otherHolder? (s : Store) (t : TxId) (id : AccountId) : Option TxId :=
  (s.openTxs.find? fun tx => tx.id != t && tx.held.any (·.id == id)).map (·.id)

def begin (s : Store) : Store × TxId :=
  ({ s with openTxs := s.openTxs ++ [{ id := s.nextTx }], nextTx := s.nextTx + 1 }, s.nextTx)

/-- Creates an account with the next id; a negative opening balance is refused and uses no id. -/
def createAccount (s : Store) (owner : String) (balance : Decimal) (currency : Currency) :
    Except InfraError (Store × Account) :=
  if balance.lt Decimal.zero then
    .error (.constraint ("initial balance " ++ balance.render ++ " is negative"))
  else
    let account : Account := { id := s.nextAccount, owner, balance, currency }
    .ok ({ s with accounts := s.accounts ++ [account], nextAccount := s.nextAccount + 1 }, account)

/-- Takes an account's row lock for a transaction. A lock the transaction holds already gives its
own copy of the row; a missing account is not waited for. -/
def lockRow (s : Store) (t : TxId) (id : AccountId) : LockGrant :=
  match s.heldRow? t id with
  | some row => .granted s row
  | none =>
    match s.account? id with
    | none => .absent
    | some row =>
      match s.otherHolder? t id with
      | some _ => .waiting
      | none => .granted (s.modifyTx t fun tx => { tx with held := tx.held ++ [row] }) row

/-- A transaction's view of an account: its own copy when it holds the lock, else the committed
row. -/
def viewRow (s : Store) (t : TxId) (id : AccountId) : Option Account :=
  match s.heldRow? t id with
  | some row => some row
  | none => s.account? id

def ensureExists (s : Store) (id : AccountId) (what : String) : Except InfraError Unit :=
  if s.hasAccount id then .ok ()
  else .error (.constraint (what ++ " references missing account " ++ toString id))

/-- Makes a transfer record in a transaction. Both accounts must exist and the amount must be
positive; the id is drawn at once. -/
def recordTransfer (s : Store) (t : TxId) (fromId toId : AccountId) (amount : Decimal) :
    Except InfraError (Store × TransferRecord) := do
  s.ensureExists fromId "transfer"
  s.ensureExists toId "transfer"
  if amount.le Decimal.zero then
    throw (.constraint ("transfer amount " ++ amount.render ++ " must be positive"))
  let record : TransferRecord :=
    { id := s.nextTransfer, fromAccountId := fromId, toAccountId := toId, amount }
  let s := { s with nextTransfer := s.nextTransfer + 1 }
  return (s.modifyTx t fun tx => { tx with transfers := tx.transfers ++ [record] }, record)

def recordEntry (s : Store) (t : TxId) (accountId : AccountId) (amount : Decimal) :
    Except InfraError (Store × Entry) := do
  s.ensureExists accountId "entry"
  let entry : Entry := { id := s.nextEntry, accountId, amount }
  let s := { s with nextEntry := s.nextEntry + 1 }
  return (s.modifyTx t fun tx => { tx with entries := tx.entries ++ [entry] }, entry)

def updateOrder (fromId toId : AccountId) : List AccountId :=
  if fromId = toId then [fromId] else if fromId < toId then [fromId, toId] else [toId, fromId]

/-- The change a balance update makes to one account: the amount is taken from the debited
account and given to the credited one, so an account on both sides nets to zero. -/
def balanceDelta (fromId toId id : AccountId) (amount : Decimal) : Option Decimal := do
  let debited ← if id = fromId then Decimal.sub? Decimal.zero amount else some Decimal.zero
  if id = toId then Decimal.add? debited amount else some debited

def stageBalances (s : Store) (t : TxId) (updates : List (AccountId × Decimal)) : Store :=
  s.modifyTx t fun tx =>
    { tx with held := tx.held.map fun row =>
        match updates.find? (·.1 == row.id) with
        | some (_, balance) => { row with balance }
        | none => row }

/-- The balance update over the accounts still to visit: each is locked and its new balance
checked in turn; only when all pass are the balances staged. -/
def moveAlong (t : TxId) (fromId toId : AccountId) (amount : Decimal) :
    Store → List AccountId → List (AccountId × Decimal) → StoreStep Nat
  | s, [], updates => .done (s.stageBalances t updates) (.ok updates.length)
  | s, id :: rest, updates =>
    match s.lockRow t id with
    | .absent => moveAlong t fromId toId amount s rest updates
    | .waiting => .waiting s
    | .granted s row =>
      match balanceDelta fromId toId id amount with
      | none => .panicked "Addition overflowed"
      | some delta =>
        match Decimal.add? row.balance delta with
        | none => .panicked "Addition overflowed"
        | some balance =>
          if balance.lt Decimal.zero then
            .done s (.error (.constraint ("balance of account " ++ toString id ++
              " would become " ++ balance.render)))
          else moveAlong t fromId toId amount s rest (updates ++ [(id, balance)])

/-- Moves `amount` from one account to another inside a transaction, like one statement over
both rows: it locks the existing ones in ascending id order, refuses the whole update if any
balance would become negative, and otherwise stages every new balance and counts the rows it
changed. -/
def moveBalances (s : Store) (t : TxId) (fromId toId : AccountId) (amount : Decimal) :
    StoreStep Nat :=
  moveAlong t fromId toId amount s (updateOrder fromId toId) []

def heldIds (s : Store) (t : TxId) : List AccountId :=
  match s.tx? t with
  | some tx => (tx.held.map (·.id)).mergeSort (· ≤ ·)
  | none => []

def discard (s : Store) (t : TxId) : Store :=
  { s with openTxs := s.openTxs.filter (·.id != t) }

/-- Publishes a transaction: its held rows replace the committed ones, its entries and transfers
join the committed ones, and its locks are released. -/
def commit (s : Store) (t : TxId) : Store :=
  match s.tx? t with
  | none => s
  | some tx =>
    let published := s.accounts.map fun row => (tx.held.find? (·.id == row.id)).getD row
    { s with accounts := published, entries := s.entries ++ tx.entries,
             transfers := s.transfers ++ tx.transfers, openTxs := s.openTxs.filter (·.id != t) }

/-- The committed entries of an account, in the order they were published. -/
def entriesOf (s : Store) (id : AccountId) : List Entry :=
  s.entries.filter (·.accountId == id)

def transfersOf (s : Store) (id : AccountId) : List TransferRecord :=
  s.transfers.filter (·.touches id)

end Store

end TransferLedger
