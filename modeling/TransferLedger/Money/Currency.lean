/-!
# Currencies

The three currencies the ledger keeps, known by their exact upper-case codes.
-/

namespace TransferLedger

/-- A supported currency. -/
inductive Currency where
  | usd
  | eur
  | cad
  deriving DecidableEq, Repr

namespace Currency

def all : List Currency := [.usd, .eur, .cad]

def code : Currency → String
  | .usd => "USD"
  | .eur => "EUR"
  | .cad => "CAD"

structure Unsupported where
  text : String
  deriving DecidableEq, Repr

def Unsupported.message (u : Unsupported) : String :=
  "Unsupported currency: " ++ u.text ++ ". Supported currencies are: USD, EUR, CAD"

/-- Reads a code; only the exact upper-case codes are accepted. -/
def read (s : String) : Except Unsupported Currency :=
  match all.find? (fun c => c.code == s) with
  | some c => .ok c
  | none => .error ⟨s⟩

theorem read_code (c : Currency) : read c.code = .ok c := by
  cases c <;> rfl

end Currency

end TransferLedger
