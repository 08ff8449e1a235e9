import TransferLedger.Transfer.Params

/-! Log events of the transfer engine: a level, a fixed message and named fields. -/

namespace TransferLedger

inductive Level where
  | debug
  | info
  | warn
  | error
  deriving DecidableEq, Repr

def Level.name : Level → String
  | .debug => "DEBUG"
  | .info => "INFO"
  | .warn => "WARN"
  | .error => "ERROR"

inductive FieldValue where
  | int (value : Int)
  | text (value : String)
  deriving DecidableEq, Repr

/-- One reported event. -/
structure LogEvent where
  level : Level
  message : String
  fields : List (String × FieldValue)
  deriving DecidableEq, Repr

def LogEvent.stageReached (p : TransferParams) (stage : Stage) : LogEvent :=
  { level := .debug, message := "Transfer stage reached",
    fields := [("from_account_id", .int p.fromAccountId), ("to_account_id", .int p.toAccountId),
      ("stage", .text stage.name)] }

end TransferLedger
