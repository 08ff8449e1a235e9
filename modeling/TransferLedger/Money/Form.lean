import TransferLedger.Json.Form
import TransferLedger.Money.Amount
import TransferLedger.Money.Currency

/-! JSON forms: an amount is the string of its value, read back through `Amount.read`; a currency is
its code. -/

namespace TransferLedger

def Amount.toJson (a : Amount) : Json := .string a.render

/-- Reads an amount from JSON: only a string is accepted, and its refusal is the amount's. -/
def Amount.fromJson (v : Json) : Except Json.FormError Amount := do
  let s ← Json.decodeString v
  match Amount.read s with
  | .ok a => .ok a
  | .error e => .error (.custom e.message)

def Currency.toJson (c : Currency) : Json := .string c.code

def Currency.fromJson (v : Json) : Except Json.FormError Currency := do
  let s ← Json.decodeString v
  match Currency.read s with
  | .ok c => .ok c
  | .error e => .error (.custom e.message)

end TransferLedger
