import TransferLedger.Transfer.Service
import TransferLedger.Wire.Errors
import TransferLedger.Wire.Records
import TransferLedger.Wire.Values

/-! Ledger scenarios: steps run in order against a fresh backend, each answered in place with the
events it reported. A step that stops the program or can never finish ends the scenario. -/

namespace TransferLedger.Wire

/-- A scenario between steps. -/
structure Scenario where
  backend : Backend := {}
  faultStore : Bool := true
  handles : List (Nat × TxId) := []
  nextHandle : Nat := 0

/-- How a step ended: answered, or ending the scenario with its answer. -/
inductive StepEnd where
  | answer (reply : Json)
  | halt (reply : Json)

def hung : Json := failure "hung" "step never finished"

def panicked (message : String) : Json := failure "panic" message

def storeAnswer (f : α → Json) : Except InfraError α → Json
  | .ok a => f a
  | .error e => transferFailure (.infrastructure e)

def txScript (op : String) (req : Json) : Reading (TxScript Json) :=
  match op with
  | "lock" => do
    let id ← field req "id" asI64
    return accountOrNull <$> TxScript.lock id
  | "read" => do
    let id ← field req "id" asI64
    return accountOrNull <$> TxScript.read id
  | "lock_pair" => do
    let fromId ← field req "from" asI64
    let toId ← field req "to" asI64
    return (fun (l : LockedAccounts) =>
      Json.object [("from", accountOrNull l.fromAccount), ("to", accountOrNull l.toAccount)]) <$>
        lockAccounts fromId toId
  | "create_transfer" => do
    let fromId ← field req "from" asI64
    let toId ← field req "to" asI64
    let amount ← field req "amount" asDecimal
    return transferJson <$> TxScript.newTransfer fromId toId amount
  | "create_entry" => do
    let accountId ← field req "account_id" asI64
    let amount ← field req "amount" asDecimal
    return entryJson <$> TxScript.newEntry accountId amount
  | "update" => do
    let fromId ← field req "from" asI64
    let toId ← field req "to" asI64
    let amount ← field req "amount" asDecimal
    return (fun n => Json.object [("affected", .ofNat n)]) <$> TxScript.move fromId toId amount
  | other => .error ("unknown tx op " ++ other)

def txOpName (req : Json) : String :=
  match req.get? "op" with
  | some (.string name) => name
  | _ => ""

def readTxOp (req : Json) : Reading (TxScript Json) :=
  txScript (txOpName req) req

/-- The unit of work of an `atomic` step: each operation's answer is kept; a malformed operation
is kept as a refusal and fails the work; after all operations the given failure, if any, fails
it. -/
def atomicWork (failWith : Option TransferError) : List Json → TxScript Unit
  | [] =>
    match failWith with
    | some e => .fail e
    | none => .pure ()
  | op :: rest =>
    match readTxOp op with
    | .error message => do
      TxScript.keep (badInput message)
      TxScript.throw (.infrastructure (.decode ("bad input: " ++ message)))
    | .ok script => do
      let reply ← script
      TxScript.keep reply
      atomicWork failWith rest

def stepList (req : Json) : Reading (List Json) :=
  match req.get? "steps" with
  | some (.array steps) => .ok steps
  | some _ => .error "steps must be an array"
  | none => .error "missing field steps"

namespace Scenario

def handle? (sc : Scenario) (n : Nat) : Option TxId :=
  (sc.handles.find? (·.1 == n)).map (·.2)

def close (sc : Scenario) (n : Nat) : Scenario :=
  { sc with handles := sc.handles.filter (·.1 != n) }

def withStore (sc : Scenario) (s : Store) : Scenario := { sc with backend := sc.backend.withStore s }

def begin (sc : Scenario) : Scenario × StepEnd :=
  let (s, t) := sc.backend.store.begin
  let sc := { sc.withStore s with handles := sc.handles ++ [(sc.nextHandle, t)],
                                  nextHandle := sc.nextHandle + 1 }
  (sc, .answer (.object [("tx", .ofNat (sc.nextHandle - 1))]))

/-- An operation on a transaction opened by hand. -/
def manual (sc : Scenario) (op : String) (req : Json) : Reading (Scenario × StepEnd) := do
  let n ← field req "tx" asU64
  let some t := sc.handle? n | throw ("no open transaction " ++ toString n)
  let store := sc.backend.store
  match op with
  | "locked" => return (sc, .answer (.array ((store.heldIds t).map Json.ofInt)))
  | "commit" => return ((sc.withStore (store.commit t)).close n, .answer (.object [("ok", .bool true)]))
  | "rollback" | "drop" =>
    return ((sc.withStore (store.discard t)).close n, .answer (.object [("ok", .bool true)]))
  | _ =>
    let script ← txScript op req
    match sc.backend.run t true script with
    | (b, .finished (.ok reply)) => return ({ sc with backend := b }, .answer reply)
    | (b, .finished (.error e)) => return ({ sc with backend := b }, .answer (transferFailure e))
    | (b, .stalled) => return ({ sc with backend := b }, .answer (.object [("blocked", .bool true)]))
    | (b, .panicked message) => return ({ sc with backend := b }, .halt (panicked message))

def atomic (sc : Scenario) (req : Json) : Reading (Scenario × StepEnd) := do
  let ops ← stepList req
  let failWith ← match req.get? "fail" with
    | none | some .null => pure none
    | some spec => some <$> readTransferError spec
  let timeout ← optional req "timeout_ms" asU64
  let b := { sc.backend with notes := [] }
  let (b, ending) := b.execTx (timeout.map Duration.ofMillis) (atomicWork failWith ops)
  let results := Json.array b.notes
  let sc := { sc with backend := { b with notes := [] } }
  match ending with
  | .finished (.ok ()) => return (sc, .answer (.object [("results", results), ("outcome", .string "ok")]))
  | .finished (.error e) =>
    return (sc, .answer (.object [("results", results), ("outcome", transferFailure e)]))
  | .stalled => return (sc, .halt hung)
  | .panicked message => return (sc, .halt (panicked message))

def retryLimit : Nat := Nat.pow 2 32 - 1

def readService (req : Json) : Reading TransferService := do
  let timeout ← optional req "timeout_ms" asU64
  let retries ← optional req "max_retries" asU64
  if retryLimit < retries.getD 0 then throw "field max_retries must fit in u32"
  return { timeout := Duration.ofMillis (timeout.getD 5000), maxRetries := retries.getD 3 }

/-- A transfer through the service. -/
def transfer (sc : Scenario) (req : Json) : Reading (Scenario × StepEnd) := do
  let text ← field req "amount" asString
  match Amount.read text with
  | .error e => return (sc, .answer (amountFailure e))
  | .ok amount =>
    let fromId ← field req "from" asI64
    let toId ← field req "to" asI64
    let svc ← readService req
    let (b, ending) := svc.execute sc.backend { fromAccountId := fromId, toAccountId := toId, amount }
    let sc := { sc with backend := b }
    match ending with
    | .finished (.ok r) => return (sc, .answer (receiptJson r))
    | .finished (.error e) => return (sc, .answer (transferFailure e))
    | .stalled => return (sc, .halt hung)
    | .panicked message => return (sc, .halt (panicked message))

def settingAnswer : Option String → StepEnd
  | none => .answer (.object [("ok", .bool true)])
  | some message => .answer (badInput message)

def setFaults (sc : Scenario) (req : Json) : Reading (Scenario × StepEnd) := do
  unless sc.faultStore do throw "fault needs the fault store"
  let (faults, refusal) := updateInOrder sc.backend.faults
    [update (optional req "under_report" asBool) fun f v => { f with underReport := v },
     update (optional req "fail_commit" asBool) fun f v => { f with failCommit := v },
     update (optional req "fail_rollback" asBool) fun f v => { f with failRollback := v },
     update (optional req "commit_delay_ms" asU64) fun f v => { f with commitDelay := v }]
  return ({ sc with backend := { sc.backend with faults } }, settingAnswer refusal)

/-- Sets the injected database failures, field by field in order; given fields replace the
current settings, and a null code is the absence of a code. -/
def setInjection (sc : Scenario) (req : Json) : Reading (Scenario × StepEnd) := do
  let (injection, refusal) := updateInOrder sc.backend.injection
    [update (optional req "conflicts" asU64) fun i v => { i with conflicts := v },
     update (optionalOrNull req "conflict_code" asStringOrNull) fun i v => { i with conflictCode := v },
     update (optional req "conflict_message" asString) fun i v => { i with conflictMessage := v },
     update (optional req "begin_failures" asU64) fun i v => { i with beginFailures := v },
     update (optionalOrNull req "begin_code" asStringOrNull) fun i v => { i with beginCode := v },
     update (optional req "begin_message" asString) fun i v => { i with beginMessage := v },
     update (optional req "begin_delay_ms" asU64) fun i v => { i with beginDelay := v }]
  return ({ sc with backend := { sc.backend with injection } }, settingAnswer refusal)

def createAccount (sc : Scenario) (req : Json) : Reading (Scenario × StepEnd) := do
  let code ← field req "currency" asString
  match Currency.read code with
  | .error e => return (sc, .answer (currencyFailure e))
  | .ok currency =>
    let owner ← field req "owner" asString
    let balance ← field req "balance" asDecimal
    match sc.backend.store.createAccount owner balance currency with
    | .ok (s, account) => return (sc.withStore s, .answer (accountJson account))
    | .error e => return (sc, .answer (transferFailure (.infrastructure e)))

def manualOps : List String :=
  ["lock", "read", "lock_pair", "create_transfer", "create_entry", "update", "locked", "commit",
    "rollback", "drop"]

def stepNamed (sc : Scenario) (op : String) (req : Json) : Reading (Scenario × StepEnd) :=
  let store := sc.backend.store
  let reply (j : Json) : Reading (Scenario × StepEnd) := .ok (sc, .answer j)
  match op with
  | "create_account" => sc.createAccount req
  | "get_account" => do reply (accountOrNull (store.account? (← field req "id" asI64)))
  | "list_entries" => do
    reply (.array ((store.entriesOf (← field req "account_id" asI64)).map entryJson))
  | "list_transfers" => do
    reply (.array ((store.transfersOf (← field req "account_id" asI64)).map transferJson))
  | "counts" =>
    reply (.object [("transfers", .ofNat store.transfers.length), ("entries", .ofNat store.entries.length)])
  | "fault" => sc.setFaults req
  | "inject" => sc.setInjection req
  | "injected" =>
    reply (.object [("conflicts_left", .ofNat sc.backend.injection.conflicts),
      ("begin_failures_left", .ofNat sc.backend.injection.beginFailures)])
  | "service_info" => do
    let svc ← readService req
    reply (.object [("timeout_ms", .ofNat svc.timeout.toMillis),
      ("store", .string ("MemoryLedgerStore \x7b accounts: " ++ toString store.accounts.length ++ " \x7d"))])
  | "transfer" => sc.transfer req
  | "begin" => .ok sc.begin
  | "atomic" => sc.atomic req
  | other =>
    if manualOps.contains other then sc.manual other req
    else .error ("unknown step op " ++ other)

/-- Runs one step; a malformed step is answered with its refusal. -/
def step (sc : Scenario) (req : Json) : Scenario × StepEnd :=
  let attempt : Reading (Scenario × StepEnd) := do sc.stepNamed (← field req "op" asString) req
  match attempt with
  | .ok result => result
  | .error message => (sc, .answer (badInput message))

/-- Runs steps until they run out or one ends the scenario; each answer comes with the events its
step reported. -/
def runSteps : Scenario → List Json → List (Json × List LogEvent)
  | _, [] => []
  | sc, req :: rest =>
    let sc := { sc with backend := { sc.backend with events := [] } }
    match sc.step req with
    | (sc, .answer reply) => (reply, sc.backend.events) :: runSteps sc rest
    | (sc, .halt reply) => [(reply, sc.backend.events)]

end Scenario

/-- Runs a scenario against a fresh backend. -/
def ledger (req : Json) : Json := answer do
  let steps ← stepList req
  let logs ← optional req "logs" asBool
  let faultStore ← match req.get? "store" with
    | some (.string "faulty") => pure true
    | some (.string "memory") => pure false
    | some (.string other) => throw ("unknown store " ++ other)
    | _ => pure true
  let outcome := Scenario.runSteps { faultStore } steps
  let results := ("results", Json.array (outcome.map (·.1)))
  if logs.getD false then
    return .object [results, ("logs", .array (outcome.map fun (_, events) => .array (events.map eventJson)))]
  else return .object [results]

end TransferLedger.Wire
