import TransferLedger.Json.Value
import TransferLedger.Text.Quote

/-! Decoding JSON values into typed values. A refusal names the kind of value found (`integer 5`,
`map`) and what was expected. -/

namespace TransferLedger.Json

/-- Why a JSON value does not have the expected form. -/
inductive FormError where
  | invalidType (found : Json) (expected : String)
  | invalidValue (found : Json) (expected : String)
  | invalidLength (length : Nat) (expected : String)
  | missingField (name : String)
  | custom (message : String)

def describe : Json → String
  | .null => "null"
  | .bool b => "boolean `" ++ toString b ++ "`"
  | .number (.natural n) => "integer `" ++ toString n ++ "`"
  | .number (.negative n) => "integer `" ++ toString n ++ "`"
  | .number (.float bits) => "floating point `" ++ Binary64.renderGeneral bits ++ "`"
  | .string s => "string " ++ Text.quoted s
  | .array _ => "sequence"
  | .object _ => "map"

def FormError.message : FormError → String
  | .invalidType found expected => "invalid type: " ++ describe found ++ ", expected " ++ expected
  | .invalidValue found expected => "invalid value: " ++ describe found ++ ", expected " ++ expected
  | .invalidLength length expected => "invalid length " ++ toString length ++ ", expected " ++ expected
  | .missingField name => "missing field `" ++ name ++ "`"
  | .custom message => message

/-- A signed 64-bit integer: a natural above the signed range is an invalid value, any other
kind of value an invalid type. -/
def decodeI64 (v : Json) : Except FormError Int :=
  match v with
  | .number (.natural n) => if n < Nat.pow 2 63 then .ok n else .error (.invalidValue v "i64")
  | .number (.negative n) => .ok n
  | _ => .error (.invalidType v "i64")

def decodeString (v : Json) : Except FormError String :=
  match v with
  | .string s => .ok s
  | _ => .error (.invalidType v "a string")

/-- The members of an object as a map keeps them: one per key, the last written winning, in
ascending key order. -/
def sortedMembers (fields : List (String × Json)) : List (String × Json) :=
  let distinct := fields.foldl (fun acc field => (acc.filter fun kept => kept.1 != field.1) ++ [field]) []
  distinct.mergeSort fun a b => a.1 ≤ b.1

end TransferLedger.Json
