import TransferLedger.Json.Value
import TransferLedger.Logging.Filter

/-! Log lines of the command line, written as text (`INFO cedar_ledger: Connecting to database...`)
or as JSON. -/

namespace TransferLedger.Logging

/-- One log line. -/
structure LogRecord where
  level : Level
  target : String
  message : String
  fields : List (String × String) := []
  deriving DecidableEq, Repr

def LogRecord.fieldNames (r : LogRecord) : List String := "message" :: r.fields.map (·.1)

/-- The line as text. -/
def LogRecord.text (r : LogRecord) : String :=
  r.level.name ++ " " ++ r.target ++ ": " ++ r.message ++
    String.join (r.fields.map fun (name, value) => " " ++ name ++ "=" ++ value)

def LogRecord.json (r : LogRecord) : Json :=
  .object [("fields", .object (("message", .string r.message) :: r.fields.map fun (name, value) =>
      (name, .string value))), ("level", .string r.level.name),
    ("target", .string r.target)]

end TransferLedger.Logging
