import TransferLedger.Transfer.Coordinator

/-! The transfer service: a transfer locks both accounts, checks the sender, its funds and the
recipient, writes its records and moves both balances in one update. Each attempt is one unit of
work, tried again after a lock conflict up to the service's limit. -/

namespace TransferLedger

open TxScript in
/-- One transfer as a unit of work. -/
def runTransfer (p : TransferParams) : TxScript TransferReceipt := do
  emit (.stageReached p .started)
  let locked ← lockAccounts p.fromAccountId p.toAccountId
  emit (.stageReached p .accountsLocked)
  let some fromAccount := locked.fromAccount | throw (.accountNotFound p.fromAccountId)
  if !p.amount.coveredBy fromAccount.balance then
    throw (.insufficientFunds p.fromAccountId p.amount.value fromAccount.balance)
  if locked.toAccount.isNone then throw (.accountNotFound p.toAccountId)
  emit (.stageReached p .fundsVerified)
  let transfer ← newTransfer p.fromAccountId p.toAccountId p.amount.value
  let fromEntry ← newEntry p.fromAccountId p.amount.debit
  let toEntry ← newEntry p.toAccountId p.amount.credit
  emit (.stageReached p .recordsWritten)
  let expected := if p.isSelfTransfer then 1 else 2
  let affected ← move p.fromAccountId p.toAccountId p.amount.value
  if affected ≠ expected then throw (.consistencyViolation expected affected)
  emit (.stageReached p .balancesUpdated)
  let some fromAccount ← read p.fromAccountId | throw (.accountNotFound p.fromAccountId)
  let some toAccount ← read p.toAccountId | throw (.accountNotFound p.toAccountId)
  return { transfer, fromAccount, toAccount, fromEntry, toEntry }

/-- A transfer service: the deadline of each attempt and how often a lock conflict is retried. -/
structure TransferService where
  timeout : Duration := Duration.ofMillis 5000
  maxRetries : Nat := 3
  deriving Repr

namespace TransferService

def outcomeFields (p : TransferParams) : List (String × FieldValue) :=
  [("from_account_id", .int p.fromAccountId), ("to_account_id", .int p.toAccountId),
    ("amount", .text p.amount.render)]

def outcomeEvent (p : TransferParams) : Except TransferError TransferReceipt → LogEvent
  | .ok r =>
    { level := .info, message := "Transfer committed",
      fields := [("transfer_id", .int r.transfer.id)] ++ outcomeFields p ++
        [("stage", .text Stage.committed.name)] }
  | .error e =>
    let (level, message) := match e with
      | .consistencyViolation .. => (Level.error, "Transfer aborted on inconsistent balance update")
      | _ => if e.isClientError then (Level.warn, "Transfer rejected") else (Level.warn, "Transfer failed")
    { level, message,
      fields := outcomeFields p ++ [("stage", .text Stage.rolledBack.name), ("error", .text e.message)] }

def retryEvent (p : TransferParams) (e : TransferError) (attempt maxRetries : Nat) : LogEvent :=
  { level := .warn,
    message := "Lock conflict, retrying (attempt " ++ toString attempt ++ "/" ++ toString maxRetries ++ ")",
    fields := [("from_account_id", .int p.fromAccountId), ("to_account_id", .int p.toAccountId),
      ("error", .text e.message)] }

/-- One attempt: the transfer in a unit of work under the deadline, with its outcome logged. -/
def attempt (svc : TransferService) (b : Backend) (p : TransferParams) :
    Backend × Ending TransferReceipt :=
  match b.execTx (some svc.timeout) (runTransfer p) with
  | (b, .finished outcome) => (b.emit (outcomeEvent p outcome), .finished outcome)
  | other => other

def backoff (k : Nat) : Duration := Duration.ofMillis (50 * k)

/-- Attempts with `left` retries still allowed. -/
def executeWithin (svc : TransferService) (p : TransferParams) :
    Nat → Backend → Backend × Ending TransferReceipt
  | left, b =>
    match svc.attempt b p, left with
    | (b, .finished (.error e)), left' + 1 =>
      if e.isLockConflict then
        let k := svc.maxRetries - left'
        let b := b.emit (retryEvent p e k svc.maxRetries)
        match b.waitFor (backoff k) with
        | some b => executeWithin svc p left' b
        | none => (b, .stalled)
      else (b, .finished (.error e))
    | result, _ => result

/-- Executes a transfer, retrying after lock conflicts. -/
def execute (svc : TransferService) (b : Backend) (p : TransferParams) :
    Backend × Ending TransferReceipt :=
  svc.executeWithin p svc.maxRetries b

end TransferService

end TransferLedger
