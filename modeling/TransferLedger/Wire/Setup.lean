import TransferLedger.Json.Form
import TransferLedger.Setup.Config
import TransferLedger.Wire.Fields

/-! Requests on configuration: the environment variables the program reads, with text values without
NUL. -/

namespace TransferLedger.Wire

def configNames : List String :=
  ["DATABASE_URL", "DATABASE_MAX_CONNECTIONS", "TRANSFER_TIMEOUT_MS", "TRANSFER_MAX_RETRIES",
    "ENVIRONMENT", "LOG_FORMAT"]

def variableRefusal (name : String) : String :=
  "env " ++ name ++ " must be a string without NUL, or null"

def bindVariable (allowed : List String) (env : Environment) (member : String × Json) :
    Reading Environment := do
  let (name, value) := member
  unless allowed.contains name do throw ("unknown env name " ++ name)
  match value with
  | .string text =>
    if text.contains (Char.ofNat 0) then throw (variableRefusal name)
    else return ⟨env.bindings ++ [(name, text)]⟩
  | .null => return env
  | _ => throw (variableRefusal name)

/-- The environment a request sets, in ascending name order; only the allowed names may
appear. -/
def readEnvironment (allowed : List String) (req : Json) : Reading Environment :=
  match req.get? "env" with
  | none => .ok ⟨[]⟩
  | some (.object fields) => (Json.sortedMembers fields).foldlM (bindVariable allowed) ⟨[]⟩
  | some _ => .error "env must be an object"

def configReport (req : Json) : Json := answer do
  let env ← readEnvironment configNames req
  return match Config.load env with
    | .ok c =>
      .object [("database_url", .string c.databaseUrl),
        ("database_max_connections", .ofNat c.maxConnections),
        ("transfer_timeout_ms", .ofNat c.transferTimeout.toMillis),
        ("transfer_max_retries", .ofNat c.maxRetries),
        ("log_format", .string c.logFormat.name)]
    | .error e => failure e.code e.message

end TransferLedger.Wire
