import TransferLedger.Ledger.Store
import TransferLedger.Transfer.Script

/-! Running units of work on a backend: the store under a layer of faults (under-reported row
counts, failing commits and rollbacks) and a layer of injected database failures (lock conflicts,
failed or slow begins). Waits take virtual time up to the scenario's horizon. -/

namespace TransferLedger

/-- Faults of the store layer. -/
structure Faults where
  underReport : Bool := false
  failCommit : Bool := false
  failRollback : Bool := false
  commitDelay : Nat := 0
  deriving DecidableEq, Repr

/-- The database failures the backend stands in for. -/
structure Injection where
  conflicts : Nat := 0
  conflictCode : Option String := some "40001"
  conflictMessage : String := "could not serialize access due to concurrent update"
  beginFailures : Nat := 0
  beginCode : Option String := none
  beginMessage : String := "connection reset"
  beginDelay : Nat := 0
  deriving DecidableEq, Repr

def Injection.conflictError (i : Injection) : InfraError :=
  .database (.database i.conflictMessage i.conflictCode)

def Injection.beginError (i : Injection) : InfraError :=
  .database (.database i.beginMessage i.beginCode)

/-- The store with its two layers, and what scripts have reported. -/
structure Backend where
  store : Store := {}
  faults : Faults := {}
  injection : Injection := {}
  events : List LogEvent := []
  notes : List Json := []
  clock : Duration := ⟨0⟩
  horizon : Duration := ⟨3600 * 1000000000⟩

/-- How a run of a unit of work ended. -/
inductive Ending (α : Type) where
  | finished (outcome : Except TransferError α)
  | stalled
  | panicked (message : String)

namespace Backend

def emit (b : Backend) (event : LogEvent) : Backend := { b with events := b.events ++ [event] }

def withStore (b : Backend) (s : Store) : Backend := { b with store := s }

/-- Waits until time `t`, or gives none when `t` is after the horizon. -/
def waitUntil (b : Backend) (t : Duration) : Option Backend :=
  if t.nanos ≤ b.horizon.nanos then some { b with clock := t } else none

def waitFor (b : Backend) (d : Duration) : Option Backend := b.waitUntil ⟨b.clock.nanos + d.nanos⟩

/-- Runs a script in transaction `t`. With `direct` the requests go straight to the store;
otherwise lock-for-update reads may meet injected conflicts and the balance update's count may
be under-reported. -/
def run (b : Backend) (t : TxId) (direct : Bool) : TxScript α → Backend × Ending α
  | .pure a => (b, .finished (.ok a))
  | .fail e => (b, .finished (.error e))
  | .lockForUpdate id next =>
    if !direct && 0 < b.injection.conflicts then
      let b' := { b with injection := { b.injection with conflicts := b.injection.conflicts - 1 } }
      run b' t direct (next (.error b.injection.conflictError))
    else
      match b.store.lockRow t id with
      | .absent => run b t direct (next (.ok none))
      | .granted s row => run (b.withStore s) t direct (next (.ok (some row)))
      | .waiting => (b, .stalled)
  | .view id next => run b t direct (next (.ok (b.store.viewRow t id)))
  | .recordTransfer fromId toId amount next =>
    match b.store.recordTransfer t fromId toId amount with
    | .ok (s, record) => run (b.withStore s) t direct (next (.ok record))
    | .error e => run b t direct (next (.error e))
  | .recordEntry accountId amount next =>
    match b.store.recordEntry t accountId amount with
    | .ok (s, entry) => run (b.withStore s) t direct (next (.ok entry))
    | .error e => run b t direct (next (.error e))
  | .moveBalances fromId toId amount next =>
    match b.store.moveBalances t fromId toId amount with
    | .done s result =>
      let result := if !direct && b.faults.underReport then result.map (· - 1) else result
      run (b.withStore s) t direct (next result)
    | .waiting s => (b.withStore s, .stalled)
    | .panicked message => (b, .panicked message)
  | .log event next => run (b.emit event) t direct next
  | .note item next => run { b with notes := b.notes ++ [item] } t direct next

end Backend

end TransferLedger
