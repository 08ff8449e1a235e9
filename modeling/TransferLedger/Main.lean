import TransferLedger.Setup.CommandLine
import TransferLedger.Wire.Command

/-! The command line program: reads its environment, runs on the arguments, prints its log lines and
error report, and exits with the run's status. -/

namespace TransferLedger.CommandLine

def variableNames : List String := Wire.commandNames

/-- The process environment, restricted to the variables the program reads. -/
def readEnvironment : IO Environment := do
  let mut bindings : List (String × String) := []
  for name in variableNames do
    if let some value ← IO.getEnv name then
      bindings := bindings ++ [(name, value)]
  return ⟨bindings⟩

def lineText (format : LogFormat) (r : Logging.LogRecord) : String :=
  match format with
  | .pretty => r.text
  | .json => r.json.render

end TransferLedger.CommandLine

open TransferLedger.CommandLine in
def main (args : List String) : IO UInt32 := do
  let outcome := run (← readEnvironment) args
  let stdout ← IO.getStdout
  for line in outcome.lines do
    stdout.putStrLn (lineText outcome.format line)
  stdout.flush
  let stderr ← IO.getStderr
  stderr.putStr outcome.errorText
  stderr.flush
  return outcome.status.toUInt32
