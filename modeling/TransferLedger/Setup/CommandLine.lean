import TransferLedger.Database.Options
import TransferLedger.Logging.Record
import TransferLedger.Money.Amount
import TransferLedger.Setup.Config

/-! The command line: settings from the environment, logging, three arguments and the database
connection, each of which can end the run with an error report and status 1. Without a server no run
gets past connecting. -/

namespace TransferLedger.CommandLine

/-- An error as the command line reports it: its text and the texts of its causes. -/
structure Report where
  message : String
  causes : List String := []
  deriving DecidableEq, Repr

def indentCause (numbered : Bool) (text : String) : String :=
  "\n".intercalate (match text.splitOn "\n" with
    | [] => []
    | first :: rest => first :: rest.map fun line => (if numbered then "       " else "    ") ++ line)

def causeLine (numbered : Bool) (index : Nat) (text : String) : String :=
  let label := if numbered then
      let n := toString index
      String.ofList (List.replicate (5 - n.length) ' ') ++ n ++ ": "
    else "    "
  "\n" ++ label ++ indentCause numbered text

def Report.render (r : Report) : String :=
  let numbered := 1 < r.causes.length
  let causes := if r.causes.isEmpty then ""
    else "\n\nCaused by:" ++ String.join ((List.range r.causes.length).zip r.causes |>.map
      fun (i, c) => causeLine numbered i c)
  "Error: " ++ r.message ++ causes ++ "\n"

structure Outcome where
  status : Nat
  format : LogFormat
  lines : List Logging.LogRecord
  errorText : String
  deriving Repr

def usage : String := "usage: cedar_ledger <from_account_id> <to_account_id> <amount>"

/-- Reads the three arguments into a transfer. -/
def readArguments (args : List String) : Except Report TransferParams :=
  match args with
  | [fromText, toText, amountText] => do
    let fromId ← match Text.readSigned 64 fromText with
      | .ok n => pure n
      | .error e => throw { message := "invalid from_account_id", causes := [e.message] }
    let toId ← match Text.readSigned 64 toText with
      | .ok n => pure n
      | .error e => throw { message := "invalid to_account_id", causes := [e.message] }
    let amount ← match Amount.read amountText with
      | .ok a => pure a
      | .error e => throw { message := "invalid amount", causes := [e.message] }
    return { fromAccountId := fromId, toAccountId := toId, amount }
  | _ => .error { message := usage }

def dbReport (e : DbError) : Report := { message := e.message, causes := e.causes }

def connecting : Logging.LogRecord :=
  { level := .info, target := "cedar_ledger", message := "Connecting to database..." }

def ignoredParameter (parameter : String × String) : Logging.LogRecord :=
  { level := .warn, target := "sqlx_postgres::options::parse",
    message := "ignoring unrecognized connect parameter",
    fields := [("key", parameter.1), ("value", parameter.2)] }

/-- How connecting fails, with the warnings given on the way. -/
def connect (url : String) : List Logging.LogRecord × DbError :=
  let (warnings, options) := Database.parse url
  let failure := match options with
    | .error e => e
    | .ok o =>
      match o.socketPath with
      | some path => Database.socketFailure path
      | none => .poolTimedOut
  (warnings.map ignoredParameter, failure)

/-- Runs the command line with an environment and arguments. -/
def run (env : Environment) (args : List String) : Outcome :=
  match Config.load env with
  | .error e => { status := 1, format := .pretty, lines := [], errorText := Report.render { message := e.message } }
  | .ok config =>
    let filter := Logging.effectiveFilter (env.get? "RUST_LOG")
    let shown := fun (r : Logging.LogRecord) => Logging.shows filter r.target r.level r.fieldNames
    match readArguments args with
    | .error report => { status := 1, format := config.logFormat, lines := [], errorText := report.render }
    | .ok _ =>
      let (warnings, failure) := connect config.databaseUrl
      { status := 1, format := config.logFormat, lines := (connecting :: warnings).filter shown,
        errorText := (dbReport failure).render }

end TransferLedger.CommandLine
