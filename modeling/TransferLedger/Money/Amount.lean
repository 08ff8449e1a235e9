import TransferLedger.Decimal.Read
import TransferLedger.Decimal.Render
import TransferLedger.Text.Blank

/-! Amounts: the value of one transfer, strictly positive, with at most four places once trailing
zeros are dropped, and at most `999999999999999`. The checks run in that order, and an accepted
amount is kept in its shortest form. -/

namespace TransferLedger

inductive AmountError where
  | notPositive (value : Decimal)
  | tooManyDecimals (scale : Nat)
  | overflow
  | unreadable (reason : String)
  deriving DecidableEq, Repr

namespace AmountError

def message : AmountError → String
  | .notPositive value => "Amount must be positive (got " ++ value.render ++ ")"
  | .tooManyDecimals scale => s!"Amount has too many decimal places (max 4, got {scale})"
  | .overflow => "Amount exceeds maximum allowed value (999999999999999)"
  | .unreadable reason => "Invalid amount format: " ++ reason

def code : AmountError → String
  | .notPositive _ => "not_positive"
  | .tooManyDecimals _ => "too_many_decimals"
  | .overflow => "overflow"
  | .unreadable _ => "parse_error"

end AmountError

namespace Amount

def maxValue : Int64 := 999999999999999

def maxScale : Nat := 4

/-- What the value of every amount satisfies: above zero, at most the largest amount, at most four
places, and in its shortest form. -/
structure Valid (v : Decimal) : Prop where
  positive : Decimal.zero.lt v = true
  bounded : v.le (Decimal.ofInt64 maxValue) = true
  places : v.scale ≤ maxScale
  shortest : v.normalize = v

instance (v : Decimal) : Decidable (Valid v) :=
  decidable_of_iff (Decimal.zero.lt v = true ∧ v.le (Decimal.ofInt64 maxValue) = true ∧
      v.scale ≤ maxScale ∧ v.normalize = v)
    ⟨fun ⟨positive, bounded, places, shortest⟩ => ⟨positive, bounded, places, shortest⟩,
      fun valid => ⟨valid.positive, valid.bounded, valid.places, valid.shortest⟩⟩

theorem valid_normalize {v : Decimal} (positive : ¬ v.le Decimal.zero = true)
    (places : ¬ maxScale < v.normalize.scale)
    (bounded : ¬ (Decimal.ofInt64 maxValue).lt v.normalize = true) : Valid v.normalize where
  positive := Decimal.zero_lt_normalize ((Decimal.not_le_zero_iff v).mp positive)
  bounded := by
    rw [Decimal.le_eq_not_lt]
    simpa using bounded
  places := Nat.not_lt.mp places
  shortest := v.normalize_normalize

end Amount

/-- A validated transfer amount. -/
@[ext] structure Amount where
  value : Decimal
  valid : Amount.Valid value
  deriving DecidableEq, Repr

namespace Amount

theorem le_zero_eq_false (a : Amount) : a.value.le Decimal.zero = false := by
  rw [Decimal.le_eq_not_lt, a.valid.positive]
  rfl

/-- Validates a decimal: positive, then at most four places after normalising, then at most
the maximum. The amount keeps the normalised value. -/
def ofDecimal (v : Decimal) : Except AmountError Amount :=
  if positive : v.le Decimal.zero then .error (.notPositive v)
  else
    let n := v.normalize
    if places : maxScale < n.scale then .error (.tooManyDecimals n.scale)
    else if bounded : (Decimal.ofInt64 maxValue).lt n then .error .overflow
    else .ok ⟨n, valid_normalize positive places bounded⟩

def ofInt (i : Int64) : Except AmountError Amount := ofDecimal (Decimal.ofInt64 i)

/-- Reads an amount from text: blanks at both ends are dropped, the rest must be a decimal. -/
def read (s : String) : Except AmountError Amount :=
  match Decimal.read (Text.trimBlank s) with
  | .error e => .error (.unreadable e.message)
  | .ok d => ofDecimal d

def debit (a : Amount) : Decimal := a.value.neg

def credit (a : Amount) : Decimal := a.value

def coveredBy (a : Amount) (balance : Decimal) : Bool := a.value.le balance

def render (a : Amount) : String := a.value.render

end Amount

end TransferLedger
