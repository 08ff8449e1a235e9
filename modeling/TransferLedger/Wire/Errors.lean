import TransferLedger.Failure.Transfer
import TransferLedger.Wire.Fields

/-! Failures described in requests by a `kind` and its data, and reports of a failure's code, text,
classifications and causes. -/

namespace TransferLedger.Wire

def readDbError (spec : Json) : Reading DbError := do
  let kind ← field spec "kind" asString
  match kind with
  | "pool_timed_out" => return .poolTimedOut
  | "pool_closed" => return .poolClosed
  | "worker_crashed" => return .workerCrashed
  | "row_not_found" => return .rowNotFound
  | "protocol" => return .protocol (← field spec "message" asString)
  | "column_not_found" => return .columnNotFound (← field spec "name" asString)
  | "type_not_found" => return .typeNotFound (← field spec "name" asString)
  | "column_index_out_of_bounds" =>
    let index ← field spec "index" asU64
    let len ← field spec "len" asU64
    return .columnIndexOutOfBounds index len
  | "io" => return .io (← field spec "message" asString)
  | "database" =>
    let code ← optionalOrNull spec "code" asStringOrNull
    let message ← field spec "message" asString
    return .database message code.join
  | other => .error ("unknown sqlx error kind " ++ other)

def readLimit (spec : Json) : Reading Duration :=
  match spec.get? "ns" with
  | some v => return ⟨← asU64 "ns" v⟩
  | none => return Duration.ofMillis (← field spec "ms" asU64)

mutual

/-- Reads a transfer failure; a kind that is not one of the transfer's own is read as a storage
failure. Nesting is bounded by `depth`. -/
def readTransferErrorWithin : Nat → Json → Reading TransferError
  | 0, _ => .error "error description nests too deeply"
  | depth + 1, spec => do
    let kind ← field spec "kind" asString
    match kind with
    | "account_not_found" => return .accountNotFound (← field spec "account_id" asI64)
    | "insufficient_funds" =>
      let id ← field spec "account_id" asI64
      let requested ← field spec "requested" asDecimal
      let available ← field spec "available" asDecimal
      return .insufficientFunds id requested available
    | "consistency_violation" =>
      let expected ← field spec "expected" asU64
      let affected ← field spec "affected" asU64
      return .consistencyViolation expected affected
    | _ => return .infrastructure (← readInfraErrorWithin depth spec)

def readInfraErrorWithin : Nat → Json → Reading InfraError
  | 0, _ => .error "error description nests too deeply"
  | depth + 1, spec => do
    let kind ← field spec "kind" asString
    match kind with
    | "timeout" => return .timeout (← readLimit spec)
    | "constraint" => return .constraint (← field spec "message" asString)
    | "decode" => return .decode (← field spec "message" asString)
    | "commit_failed" => return .commitFailed (← readInfraErrorWithin depth (← need spec "inner"))
    | "rollback_failed" =>
      let cause ← readTransferErrorWithin depth (← need spec "cause")
      let rollback ← readInfraErrorWithin depth (← need spec "rollback")
      return .rollbackFailed cause rollback
    | "database" => return .database (← readDbError (← need spec "db"))
    | other => .error ("unknown infrastructure error kind " ++ other)

end

def readTransferError (spec : Json) : Reading TransferError :=
  readTransferErrorWithin (2 * spec.depth + 2) spec

def transferFailure (e : TransferError) : Json := failure e.code e.message

def causeLimit : Nat := 16

/-- A failure's code, text, classification and causes. -/
def errorReport (req : Json) : Json := answer do
  let e ← readTransferError (← need req "err")
  return .object [("code", .string e.code), ("message", .string e.message),
    ("is_client_error", .bool e.isClientError), ("is_retryable", .bool e.isRetryable),
    ("is_lock_conflict", .bool e.isLockConflict),
    ("sources", .array ((e.causes.take causeLimit).map Json.string))]

end TransferLedger.Wire
