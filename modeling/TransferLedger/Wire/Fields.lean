import TransferLedger.Decimal.Read
import TransferLedger.Json.Value

/-! Reading typed fields of a request object; a missing or mistyped field refuses the request with a
sentence naming it. -/

namespace TransferLedger.Wire

/-- Reading a request: a refusal says which part of the request is wrong. -/
abbrev Reading := Except String

def failure (kind message : String) : Json :=
  .object [("error", .string kind), ("message", .string message)]

def badInput (message : String) : Json := failure "bad_input" message

def need (req : Json) (name : String) : Reading Json :=
  match req.get? name with
  | some v => .ok v
  | none => .error ("missing field " ++ name)

def asI64 (name : String) : Json → Reading Int
  | .number (.natural n) =>
    if n < Nat.pow 2 63 then .ok n else .error ("field " ++ name ++ " must be an i64 integer")
  | .number (.negative n) => .ok n
  | _ => .error ("field " ++ name ++ " must be an i64 integer")

def asU64 (name : String) : Json → Reading Nat
  | .number (.natural n) => .ok n
  | _ => .error ("field " ++ name ++ " must be a u64 integer")

def asString (name : String) : Json → Reading String
  | .string s => .ok s
  | _ => .error ("field " ++ name ++ " must be a string")

def asBool (name : String) : Json → Reading Bool
  | .bool b => .ok b
  | _ => .error ("field " ++ name ++ " must be a boolean")

def asStringOrNull (name : String) : Json → Reading (Option String)
  | .string s => .ok (some s)
  | .null => .ok none
  | _ => .error ("field " ++ name ++ " must be a string or null")

def asDecimal (name : String) (v : Json) : Reading Decimal := do
  let s ← asString name v
  match Decimal.read s with
  | .ok d => .ok d
  | .error e => .error ("field " ++ name ++ " is not a decimal: " ++ e.message)

/-- A required field, read at a type. -/
def field (req : Json) (name : String) (read : String → Json → Reading α) : Reading α := do
  read name (← need req name)

def optional (req : Json) (name : String) (read : String → Json → Reading α) : Reading (Option α) :=
  match req.get? name with
  | none | some .null => .ok none
  | some v => (read name v).map some

def optionalOrNull (req : Json) (name : String) (read : String → Json → Reading α) :
    Reading (Option α) :=
  match req.get? name with
  | some v => (read name v).map some
  | none => .ok none

/-- Applies updates in order until one is refused: the value after the last accepted update, and
the refusal, if any. -/
def updateInOrder (x : σ) : List (σ → Reading σ) → σ × Option String
  | [] => (x, none)
  | u :: us =>
    match u x with
    | .ok y => updateInOrder y us
    | .error e => (x, some e)

def update (given : Reading (Option α)) (set : σ → α → σ) (x : σ) : Reading σ := do
  match ← given with
  | some v => pure (set x v)
  | none => pure x

/-- The answer of a reading: its value, or the refusal as a bad request. -/
def answer : Reading Json → Json
  | .ok v => v
  | .error message => badInput message

end TransferLedger.Wire
