import TransferLedger.Setup.CommandLine
import TransferLedger.Wire.Errors
import TransferLedger.Wire.Ledger
import TransferLedger.Wire.Setup

/-! Requests on the command line and on a database client over a Unix socket. -/

namespace TransferLedger.Wire

def commandNames : List String := configNames ++ ["RUST_LOG"]

def argumentRefusal : String := "args must be strings without NUL"

def readArguments (req : Json) : Reading (List String) :=
  match req.get? "args" with
  | none => .ok []
  | some (.array items) =>
    items.mapM fun
      | .string s => if s.contains (Char.ofNat 0) then .error argumentRefusal else .ok s
      | _ => .error argumentRefusal
  | some _ => .error "args must be an array"

def lineJson (format : LogFormat) (r : Logging.LogRecord) : Json :=
  match format with
  | .pretty => .string r.text
  | .json => r.json

/-- Runs the command line. -/
def commandReport (req : Json) : Json := answer do
  let args ← readArguments req
  let env ← readEnvironment commandNames req
  let outcome := CommandLine.run env args
  return .object [("status", .ofNat outcome.status),
    ("stdout", .array (outcome.lines.map (lineJson outcome.format))),
    ("stderr", .string outcome.errorText)]

def dbFailure (e : DbError) : Json := failure "database" e.message

def storeFailure (e : DbError) : Json := transferFailure (.infrastructure (.database e))

def clientStep (failure : DbError) (req : Json) : Json := answer do
  match ← field req "op" asString with
  | "pool" => return .object [("size", .ofNat 0), ("closed", .bool false)]
  | "verify_connection" | "check_schema" | "apply_schema" | "connect" => return dbFailure failure
  | "begin" => return storeFailure failure
  | "create_account" =>
    let code ← field req "currency" asString
    match Currency.read code with
    | .error e => return currencyFailure e
    | .ok _ =>
      let _ ← field req "owner" asString
      let _ ← field req "balance" asDecimal
      return storeFailure failure
  | "get_account" => do let _ ← field req "id" asI64; return storeFailure failure
  | "list_entries" | "list_transfers" => do
    let _ ← field req "account_id" asI64
    return storeFailure failure
  | "transfer" =>
    let text ← field req "amount" asString
    match Amount.read text with
    | .error e => return amountFailure e
    | .ok _ =>
      let _ ← field req "from" asI64
      let _ ← field req "to" asI64
      return storeFailure failure
  | other => throw ("unknown pg step " ++ other)

/-- Builds a client for a URL and runs steps against it. -/
def clientReport (req : Json) : Json := answer do
  let url ← field req "url" asString
  match (Database.parse url).2 with
  | .error e => return .object [("pool", dbFailure e)]
  | .ok options =>
    match options.socketPath with
    | none => throw "url must name a Unix socket directory (host=/...)"
    | some path =>
      let steps ← stepList req
      let failure := Database.socketFailure path
      return .object [("results", .array (steps.map (clientStep failure)))]

end TransferLedger.Wire
