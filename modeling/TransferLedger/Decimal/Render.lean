import TransferLedger.Decimal.Basic

/-! Printing decimals: the mantissa's digits with a point `scale` places from the right and at least
one digit before it. The scale is kept, no exponent is used, and a negative zero prints its sign. -/

namespace TransferLedger.Decimal

def mantissaDigits (m : Nat) : List Char :=
  if m = 0 then [] else Nat.toDigits 10 m

def padDigits (width : Nat) (ds : List Char) : List Char :=
  List.replicate (width - ds.length) '0' ++ ds

/-- The unsigned text: whole part (or `0`), then a point and exactly `scale` fraction digits. -/
def magnitudeText (d : Decimal) : String :=
  let ds := padDigits d.scale (mantissaDigits d.mantissa)
  let wholeLen := ds.length - d.scale
  let whole := ds.take wholeLen
  let fraction := ds.drop wholeLen
  let wholeText := if whole.isEmpty then "0" else String.ofList whole
  if d.scale = 0 then wholeText else wholeText ++ "." ++ String.ofList fraction

def render (d : Decimal) : String :=
  (if d.negative then "-" else "") ++ magnitudeText d

instance : ToString Decimal := ⟨render⟩

end TransferLedger.Decimal
