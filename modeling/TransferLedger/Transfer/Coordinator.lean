import TransferLedger.Transfer.Backend

/-! All-or-nothing units of work: begin, run the script, then commit after a success or roll back
after a failure. A deadline covers the begin and the script; a failed commit is reported as of
unknown outcome. -/

namespace TransferLedger

namespace Backend

/-- Begins a transaction through the injected waits and failures. The begin first waits its
delay; a delay longer than the deadline times out when the deadline passes, and then no injected
failure is used. -/
def openTx (b : Backend) (deadline : Option Duration) : Backend × Ending TxId :=
  let delay := Duration.ofMillis b.injection.beginDelay
  let late := match deadline with
    | some limit => if limit.nanos < delay.nanos then some limit else none
    | none => none
  match late with
  | some limit =>
    match b.waitFor limit with
    | some b => (b, .finished (.error (.infrastructure (.timeout limit))))
    | none => (b, .stalled)
  | none =>
    match b.waitFor delay with
    | none => (b, .stalled)
    | some b =>
      if 0 < b.injection.beginFailures then
        let injection := { b.injection with beginFailures := b.injection.beginFailures - 1 }
        ({ b with injection }, .finished (.error (.infrastructure b.injection.beginError)))
      else
        let (s, t) := b.store.begin
        (b.withStore s, .finished (.ok t))

def lostCommit : InfraError := .constraint "injected lost commit confirmation"

def failedRollback : InfraError := .constraint "injected rollback failure"

/-- Commits the transaction after a success, rolls it back after a failure. A commit first waits
the fault layer's commit delay. -/
def finish (b : Backend) (t : TxId) (outcome : Except TransferError α) : Backend × Ending α :=
  match outcome with
  | .ok value =>
    match b.waitFor (Duration.ofMillis b.faults.commitDelay) with
    | none => (b, .stalled)
    | some b =>
      let b := b.withStore (b.store.commit t)
      if b.faults.failCommit then
        let event : LogEvent := { level := .error, message := "Commit failed, outcome unknown",
                                  fields := [("error", .text lostCommit.message)] }
        (b.emit event, .finished (.error (.infrastructure (.commitFailed lostCommit))))
      else (b, .finished (.ok value))
  | .error err =>
    let b := b.withStore (b.store.discard t)
    if b.faults.failRollback then
      let event : LogEvent := { level := .error, message := "Rollback failed after transaction error",
                                fields := [("error", .text err.message),
                                  ("rollback_error", .text failedRollback.message)] }
      (b.emit event, .finished (.error (.infrastructure (.rollbackFailed err failedRollback))))
    else (b, .finished (.error err))

/-- Runs a unit of work in a transaction of its own, with an optional deadline counted from the
start of the begin. A script that waits on a lock times out when the deadline passes. -/
def execTx (b : Backend) (deadline : Option Duration) (work : TxScript α) : Backend × Ending α :=
  let start := b.clock
  match b.openTx deadline with
  | (b, .finished (.error e)) => (b, .finished (.error e))
  | (b, .finished (.ok t)) =>
    match b.run t false work with
    | (b, .finished outcome) => b.finish t outcome
    | (b, .stalled) =>
      match deadline with
      | some limit =>
        match b.waitUntil ⟨start.nanos + limit.nanos⟩ with
        | some b =>
          (b.withStore (b.store.discard t), .finished (.error (.infrastructure (.timeout limit))))
        | none => (b, .stalled)
      | none => (b, .stalled)
    | (b, .panicked message) => (b, .panicked message)
  | (b, .stalled) => (b, .stalled)
  | (b, .panicked message) => (b, .panicked message)

end Backend

end TransferLedger
