import TransferLedger.Ledger.Records
import TransferLedger.Money.Form
import TransferLedger.Transfer.Log

/-! JSON forms of ledger records and log events. -/

namespace TransferLedger.Wire

def accountJson (a : Account) : Json :=
  .object [("id", .ofInt a.id), ("owner", .string a.owner), ("balance", .string a.balance.render),
    ("currency", a.currency.toJson)]

def accountOrNull : Option Account → Json
  | some a => accountJson a
  | none => .null

def entryJson (e : Entry) : Json :=
  .object [("id", .ofNat e.id), ("account_id", .ofInt e.accountId),
    ("amount", .string e.amount.render)]

def transferJson (t : TransferRecord) : Json :=
  .object [("id", .ofNat t.id), ("from_account_id", .ofInt t.fromAccountId),
    ("to_account_id", .ofInt t.toAccountId), ("amount", .string t.amount.render)]

def receiptJson (r : TransferReceipt) : Json :=
  .object [("transfer", transferJson r.transfer), ("from_account", accountJson r.fromAccount),
    ("to_account", accountJson r.toAccount), ("from_entry", entryJson r.fromEntry),
    ("to_entry", entryJson r.toEntry), ("amount", .string r.amount.render)]

def fieldJson : FieldValue → Json
  | .int value => .ofInt value
  | .text value => .string value

/-- An event. -/
def eventJson (e : LogEvent) : Json :=
  .object [("level", .string e.level.name), ("message", .string e.message),
    ("fields", .object (e.fields.map fun (name, value) => (name, fieldJson value)))]

end TransferLedger.Wire
