import TransferLedger.Binary64.Shortest

/-! JSON values as the wire forms see them: objects keep their members in order, a lookup takes the
last of repeated keys, and numbers keep the class their text gives them. -/

namespace TransferLedger

/-- A JSON number, classified by its text. -/
inductive JsonNumber where
  | natural (n : Nat)
  | negative (n : Int)
  | float (bits : UInt64)
  deriving DecidableEq, Repr

def JsonNumber.render : JsonNumber → String
  | .natural n => toString n
  | .negative n => toString n
  | .float bits => Binary64.renderWithPoint bits

/-- A JSON value. -/
inductive Json where
  | null
  | bool (b : Bool)
  | number (n : JsonNumber)
  | string (s : String)
  | array (items : List Json)
  | object (fields : List (String × Json))
  deriving Inhabited

namespace Json

def ofInt (i : Int) : Json :=
  if i < 0 then .number (.negative i) else .number (.natural i.toNat)

def ofNat (n : Nat) : Json := .number (.natural n)

def get? (j : Json) (key : String) : Option Json :=
  match j with
  | .object fields => (fields.reverse.find? (fun field => field.1 == key)).map (fun field => field.2)
  | _ => none

def hexDigit (n : Nat) : Char :=
  if n < 10 then Char.ofNat ('0'.toNat + n) else Char.ofNat ('a'.toNat + n - 10)

def escapeChar (c : Char) : List Char :=
  if c = '"' then ['\\', '"']
  else if c = '\\' then ['\\', '\\']
  else if c = '\n' then ['\\', 'n']
  else if c = '\r' then ['\\', 'r']
  else if c = '\t' then ['\\', 't']
  else if c.toNat < 0x20 then ['\\', 'u', '0', '0', hexDigit (c.toNat / 16), hexDigit (c.toNat % 16)]
  else [c]

def quote (s : String) : String :=
  String.ofList ('"' :: (s.toList.flatMap escapeChar ++ ['"']))

mutual

/-- Compact text of a value, without blanks. -/
def render : Json → String
  | .null => "null"
  | .bool b => if b then "true" else "false"
  | .number n => n.render
  | .string s => quote s
  | .array items => "[" ++ renderItems items ++ "]"
  | .object fields => "\x7b" ++ renderFields fields ++ "\x7d"

def renderItems : List Json → String
  | [] => ""
  | [item] => render item
  | item :: rest => render item ++ "," ++ renderItems rest

def renderFields : List (String × Json) → String
  | [] => ""
  | [(key, value)] => quote key ++ ":" ++ render value
  | (key, value) :: rest => quote key ++ ":" ++ render value ++ "," ++ renderFields rest

end

mutual

/-- How deeply a value nests: scalars have depth zero, a container one more than its deepest
member. -/
def depth : Json → Nat
  | .array items => depthItems items + 1
  | .object fields => depthFields fields + 1
  | _ => 0

def depthItems : List Json → Nat
  | [] => 0
  | item :: rest => max (depth item) (depthItems rest)

def depthFields : List (String × Json) → Nat
  | [] => 0
  | (_, value) :: rest => max (depth value) (depthFields rest)

end

end Json

end TransferLedger
