import TransferLedger.Text.Numeral
import TransferLedger.Time.Duration

/-! Configuration from environment variables, checked in order with the first refusal reported: the
required database URL, the pool size, the transfer deadline, the retry count and the log format. -/

namespace TransferLedger

/-- The environment: variable bindings, of which a later one hides an earlier one of the same
name. -/
structure Environment where
  bindings : List (String × String)
  deriving Inhabited

def Environment.get? (env : Environment) (name : String) : Option String :=
  (env.bindings.reverse.find? (fun b => b.1 == name)).map Prod.snd

inductive LogFormat where
  | pretty
  | json
  deriving DecidableEq, Repr

def LogFormat.name : LogFormat → String
  | .pretty => "pretty"
  | .json => "json"

inductive ConfigError where
  | missingEnv (name : String)
  | invalidValue (name : String)
  deriving DecidableEq, Repr

namespace ConfigError

def message : ConfigError → String
  | .missingEnv name => "Missing environment variable: " ++ name
  | .invalidValue name => "Invalid value for environment variable: " ++ name

def code : ConfigError → String
  | .missingEnv _ => "missing_env"
  | .invalidValue _ => "invalid_value"

end ConfigError

/-- The program's settings. -/
structure Config where
  databaseUrl : String
  maxConnections : Nat
  transferTimeout : Duration
  maxRetries : Nat
  logFormat : LogFormat
  deriving Repr

namespace Config

/-- The explicit log format wins; without one, production logs JSON and everything else logs
pretty lines. -/
def resolveLogFormat (value : Option String) (environment : String) :
    Except ConfigError LogFormat :=
  match value with
  | some "json" => .ok .json
  | some "pretty" => .ok .pretty
  | some _ => .error (.invalidValue "LOG_FORMAT")
  | none => .ok (if environment = "production" then .json else .pretty)

def unsignedVar (env : Environment) (name fallback : String) (bits : Nat) :
    Except ConfigError Nat :=
  match Text.readUnsigned bits ((env.get? name).getD fallback) with
  | .ok n => .ok n
  | .error _ => .error (.invalidValue name)

/-- Reads the settings from the environment. -/
def load (env : Environment) : Except ConfigError Config := do
  let databaseUrl ← match env.get? "DATABASE_URL" with
    | some url => pure url
    | none => throw (.missingEnv "DATABASE_URL")
  let maxConnections ← unsignedVar env "DATABASE_MAX_CONNECTIONS" "10" 32
  let timeoutMs ← unsignedVar env "TRANSFER_TIMEOUT_MS" "5000" 64
  if timeoutMs = 0 then throw (.invalidValue "TRANSFER_TIMEOUT_MS")
  let maxRetries ← unsignedVar env "TRANSFER_MAX_RETRIES" "3" 32
  let environment := (env.get? "ENVIRONMENT").getD "development"
  let logFormat ← resolveLogFormat (env.get? "LOG_FORMAT") environment
  return { databaseUrl, maxConnections, transferTimeout := Duration.ofMillis timeoutMs,
           maxRetries, logFormat }

end Config

end TransferLedger
