import TransferLedger.Money.Form

/-! Transfer requests, with their JSON object and array forms, and the stages of a transfer attempt.
-/

namespace TransferLedger

abbrev AccountId := Int

/-- A request to move `amount` from one account to another. -/
structure TransferParams where
  fromAccountId : AccountId
  toAccountId : AccountId
  amount : Amount
  deriving DecidableEq, Repr

namespace TransferParams

def reversed (p : TransferParams) : TransferParams :=
  { p with fromAccountId := p.toAccountId, toAccountId := p.fromAccountId }

def isSelfTransfer (p : TransferParams) : Bool := p.fromAccountId == p.toAccountId

theorem reversed_reversed (p : TransferParams) : p.reversed.reversed = p := rfl

def toJson (p : TransferParams) : Json :=
  .object [("from_account_id", .ofInt p.fromAccountId), ("to_account_id", .ofInt p.toAccountId),
    ("amount", p.amount.toJson)]

/-- Fields read so far from an object form. -/
structure Partial where
  fromAccountId : Option AccountId := none
  toAccountId : Option AccountId := none
  amount : Option Amount := none

def readMember (acc : Partial) (member : String × Json) : Except Json.FormError Partial :=
  match member.1 with
  | "from_account_id" => do return { acc with fromAccountId := some (← Json.decodeI64 member.2) }
  | "to_account_id" => do return { acc with toAccountId := some (← Json.decodeI64 member.2) }
  | "amount" => do return { acc with amount := some (← Amount.fromJson member.2) }
  | _ => .ok acc

def formName : String := "struct TransferParams"

/-- Reads a transfer request from its object or array form. -/
def fromJson (v : Json) : Except Json.FormError TransferParams :=
  match v with
  | .object fields => do
    let acc ← (Json.sortedMembers fields).foldlM readMember {}
    let some src := acc.fromAccountId | .error (.missingField "from_account_id")
    let some dst := acc.toAccountId | .error (.missingField "to_account_id")
    let some amount := acc.amount | .error (.missingField "amount")
    return ⟨src, dst, amount⟩
  | .array items =>
    let short (n : Nat) : Json.FormError := .invalidLength n (formName ++ " with 3 elements")
    match items with
    | [] => .error (short 0)
    | [a] => do let _ ← Json.decodeI64 a; .error (short 1)
    | [a, b] => do let _ ← Json.decodeI64 a; let _ ← Json.decodeI64 b; .error (short 2)
    | a :: b :: c :: rest => do
      let src ← Json.decodeI64 a
      let dst ← Json.decodeI64 b
      let amount ← Amount.fromJson c
      if rest.isEmpty then return ⟨src, dst, amount⟩
      else .error (.invalidLength items.length "fewer elements in array")
  | _ => .error (.invalidType v formName)

end TransferParams

/-- The stages of a transfer attempt. -/
inductive Stage where
  | started
  | accountsLocked
  | fundsVerified
  | recordsWritten
  | balancesUpdated
  | committed
  | rolledBack
  deriving DecidableEq, Repr

namespace Stage

def all : List Stage :=
  [.started, .accountsLocked, .fundsVerified, .recordsWritten, .balancesUpdated, .committed,
    .rolledBack]

def name : Stage → String
  | .started => "started"
  | .accountsLocked => "accounts_locked"
  | .fundsVerified => "funds_verified"
  | .recordsWritten => "records_written"
  | .balancesUpdated => "balances_updated"
  | .committed => "committed"
  | .rolledBack => "rolled_back"

end Stage

end TransferLedger
