import TransferLedger.Money.Form
import TransferLedger.Transfer.LockOrder
import TransferLedger.Wire.Fields

/-! Requests on amounts, currencies and transfer parameters. -/

namespace TransferLedger.Wire

def amountFailure (e : AmountError) : Json := failure e.code e.message

def formFailure (e : Json.FormError) : Json := failure "serde" e.message

/-- An amount with its scale and its two signed sides. -/
def amountReport (a : Amount) : Json :=
  .object [("value", .string a.render), ("scale", .ofNat a.value.scale),
    ("debit", .string a.debit.render), ("credit", .string a.credit.render)]

def reportAmount : Except AmountError Amount → Json
  | .ok a => amountReport a
  | .error e => amountFailure e

def amountField (req : Json) (name : String) : Reading Amount := do
  let s ← field req name asString
  match Amount.read s with
  | .ok a => .ok a
  | .error e => .error (name ++ ": " ++ e.message)

def orderingName : Ordering → String
  | .lt => "less"
  | .eq => "equal"
  | .gt => "greater"

/-- Reads an amount from text. -/
def amountParse (req : Json) : Json := answer do
  return reportAmount (Amount.read (← field req "s" asString))

def amountNew (req : Json) : Json := answer do
  return reportAmount (Amount.ofDecimal (← field req "value" asDecimal))

def amountFromInteger (req : Json) : Json := answer do
  return reportAmount (Amount.ofInt (Int64.ofInt (← field req "value" asI64)))

/-- Whether a balance covers an amount. -/
def amountCovered (req : Json) : Json := answer do
  let a ← amountField req "amount"
  let balance ← field req "balance" asDecimal
  return .object [("covered", .bool (a.coveredBy balance))]

def amountCompare (req : Json) : Json := answer do
  let a ← amountField req "a"
  let b ← amountField req "b"
  let order := a.value.compareValue b.value
  return .object [("cmp", .string (orderingName order)), ("eq", .bool (order == .eq))]

def amountJson (req : Json) : Json := answer do
  let v ← need req "json"
  return match Amount.fromJson v with
    | .ok a => .object [("value", .string a.render), ("serialized", a.toJson)]
    | .error e => formFailure e

def amountTryFromDecimal (req : Json) : Json := answer do
  return match Amount.ofDecimal (← field req "value" asDecimal) with
    | .ok a => .object [("value", .string a.value.render), ("string", .string a.render)]
    | .error e => amountFailure e

def currencyFailure (e : Currency.Unsupported) : Json := failure "unsupported_currency" e.message

def currencyParse (req : Json) : Json := answer do
  return match Currency.read (← field req "s" asString) with
    | .ok c => .object [("currency", .string c.code), ("display", .string c.code)]
    | .error e => currencyFailure e

def currencyJson (req : Json) : Json := answer do
  let v ← need req "json"
  return match Currency.fromJson v with
    | .ok c => .object [("currency", .string c.code), ("serialized", c.toJson)]
    | .error e => formFailure e

def currencySupported : Json := .array (Currency.all.map Currency.toJson)

def paramsJson (req : Json) : Json := answer do
  let v ← need req "json"
  return match TransferParams.fromJson v with
    | .ok p =>
      .object [("from_account_id", .ofInt p.fromAccountId), ("to_account_id", .ofInt p.toAccountId),
        ("amount", p.amount.toJson), ("is_self_transfer", .bool p.isSelfTransfer),
        ("reversed", p.reversed.toJson),
        ("reversed_twice_equal", .bool (p.reversed.reversed == p)),
        ("serialized", p.toJson)]
    | .error e => formFailure e

def stages : Json :=
  .array (Stage.all.map fun s => .object [("as_str", .string s.name), ("display", .string s.name)])

/-- Two account ids in lock order. -/
def lockOrder (req : Json) : Json := answer do
  let a ← field req "a" asI64
  let b ← field req "b" asI64
  let (low, high) := canonicalOrder a b
  return .array [.ofInt low, .ofInt high]

end TransferLedger.Wire
