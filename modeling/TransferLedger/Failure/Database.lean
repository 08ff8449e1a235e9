/-! Failures the database client reports, with their fixed wordings and the chains of causes behind
them. -/

namespace TransferLedger

/-- A failure reported by the database client. -/
inductive DbError where
  | configuration (causes : List String)
  | database (message : String) (code : Option String)
  | io (message : String)
  | protocol (message : String)
  | rowNotFound
  | typeNotFound (name : String)
  | columnIndexOutOfBounds (index len : Nat)
  | columnNotFound (name : String)
  | poolTimedOut
  | poolClosed
  | workerCrashed
  deriving DecidableEq, Repr

namespace DbError

/-- The wording of each failure. -/
def message : DbError → String
  | .configuration causes => "error with configuration: " ++ causes.headD ""
  | .database message _ => "error returned from database: " ++ message
  | .io message => "error communicating with database: " ++ message
  | .protocol message => "encountered unexpected or invalid data: " ++ message
  | .rowNotFound => "no rows returned by a query that expected to return at least one row"
  | .typeNotFound name => "type named " ++ name ++ " not found"
  | .columnIndexOutOfBounds index len =>
    "column index out of bounds: the len is " ++ toString len ++ ", but the index is " ++
      toString index
  | .columnNotFound name => "no column found for name: " ++ name
  | .poolTimedOut => "pool timed out while waiting for an open connection"
  | .poolClosed => "attempted to acquire a connection on a closed pool"
  | .workerCrashed => "attempted to communicate with a crashed background worker"

def causes : DbError → List String
  | .configuration causes => causes
  | .database message _ => [message]
  | .io message => [message]
  | _ => []

def code? : DbError → Option String
  | .database _ code => code
  | _ => none

def missingSocket : DbError := .io "No such file or directory (os error 2)"

end DbError

end TransferLedger
