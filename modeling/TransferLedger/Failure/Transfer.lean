import TransferLedger.Decimal.Render
import TransferLedger.Failure.Database
import TransferLedger.Time.Duration
import TransferLedger.Transfer.Params

/-! Why a transfer fails: a reason of the request, an unexpected row count, or the storage
underneath. Each failure has a wording, a stable code and a chain of causes. -/

namespace TransferLedger

mutual

/-- Why a transfer did not happen. -/
inductive TransferError where
  | accountNotFound (accountId : AccountId)
  | insufficientFunds (accountId : AccountId) (requested available : Decimal)
  | consistencyViolation (expected affected : Nat)
  | infrastructure (failure : InfraError)

/-- A failure of the storage underneath a transfer. -/
inductive InfraError where
  | database (failure : DbError)
  | timeout (limit : Duration)
  | constraint (message : String)
  | decode (message : String)
  | commitFailed (failure : InfraError)
  | rollbackFailed (cause : TransferError) (rollback : InfraError)

end

mutual

def TransferError.message : TransferError → String
  | .accountNotFound id => "Account not found: " ++ toString id
  | .insufficientFunds id requested available =>
    "Insufficient funds in account " ++ toString id ++ ": requested " ++ requested.render ++
      ", available " ++ available.render
  | .consistencyViolation expected affected =>
    "Consistency violation: balance update affected " ++ toString affected ++ " rows, expected " ++
      toString expected
  | .infrastructure failure => failure.message

def InfraError.message : InfraError → String
  | .database failure => "Database error: " ++ failure.message
  | .timeout limit => "Transfer timed out after " ++ limit.text
  | .constraint message => "Constraint violation: " ++ message
  | .decode message => "Invalid stored data: " ++ message
  | .commitFailed failure => "Commit outcome unknown: " ++ failure.message
  | .rollbackFailed cause rollback =>
    "Transaction failed: " ++ cause.message ++ "; rollback failed: " ++ rollback.message

end

mutual

def TransferError.causes : TransferError → List String
  | .infrastructure failure => failure.causes
  | _ => []

def InfraError.causes : InfraError → List String
  | .database failure => failure.message :: failure.causes
  | .commitFailed failure => failure.message :: failure.causes
  | .rollbackFailed cause _ => cause.message :: cause.causes
  | _ => []

end

namespace TransferError

abbrev ofInfra (failure : InfraError) : TransferError := .infrastructure failure

def code : TransferError → String
  | .accountNotFound _ => "account_not_found"
  | .insufficientFunds .. => "insufficient_funds"
  | .consistencyViolation .. => "consistency_violation"
  | .infrastructure (.timeout _) => "timeout"
  | .infrastructure (.rollbackFailed ..) => "rollback_failed"
  | .infrastructure (.commitFailed _) => "commit_failed"
  | .infrastructure _ => "infrastructure_error"

def isClientError : TransferError → Bool
  | .accountNotFound _ | .insufficientFunds .. => true
  | _ => false

/-- Failures after which the whole attempt may be tried again. A commit with unknown outcome is
not one: trying again could apply the transfer twice. -/
def isRetryable : TransferError → Bool
  | .infrastructure (.database _) | .infrastructure (.timeout _)
  | .infrastructure (.rollbackFailed ..) => true
  | _ => false

def lockConflictCodes : List String := ["40001", "40P01"]

/-- A lock conflict reported by the server, which goes away on retry: a server error whose code
is exactly one of the two conflict codes. -/
def isLockConflict : TransferError → Bool
  | .infrastructure (.database (.database _ (some code))) => lockConflictCodes.contains code
  | _ => false

end TransferError

end TransferLedger
