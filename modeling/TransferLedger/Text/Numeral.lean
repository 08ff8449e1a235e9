/-! Reading a machine integer from text: an optional sign and decimal digits, checked against the
width while they are read, so the first fault decides the error. -/

namespace TransferLedger.Text

inductive NumeralError where
  | empty
  | invalidDigit
  | tooLarge
  | tooSmall
  deriving DecidableEq, Repr

def NumeralError.message : NumeralError → String
  | .empty => "cannot parse integer from empty string"
  | .invalidDigit => "invalid digit found in string"
  | .tooLarge => "number too large to fit in target type"
  | .tooSmall => "number too small to fit in target type"

def digitValue? (c : Char) : Option Nat :=
  if '0' ≤ c && c ≤ '9' then some (c.toNat - '0'.toNat) else none

/-- Reads digits into a magnitude that may not exceed `limit`; `excess` names the fault of
going past it. -/
def accumulate (limit : Nat) (excess : NumeralError) : Nat → List Char → Except NumeralError Nat
  | acc, [] => .ok acc
  | acc, c :: rest =>
    match digitValue? c with
    | none => .error .invalidDigit
    | some d =>
      let next := acc * 10 + d
      if next > limit then .error excess else accumulate limit excess next rest

/-- Splits an optional sign off a numeral: a lone sign is an invalid digit, and `-` is a sign
only for signed targets. -/
def splitSign (signed : Bool) : List Char → Except NumeralError (Bool × List Char)
  | [] => .error .empty
  | ['+'] => .error .invalidDigit
  | ['-'] => .error .invalidDigit
  | '+' :: rest => .ok (false, rest)
  | '-' :: rest => if signed then .ok (true, rest) else .ok (false, '-' :: rest)
  | cs => .ok (false, cs)

def readUnsigned (bits : Nat) (s : String) : Except NumeralError Nat := do
  let (_, digits) ← splitSign false s.toList
  accumulate (Nat.pow 2 bits - 1) .tooLarge 0 digits

def readSigned (bits : Nat) (s : String) : Except NumeralError Int := do
  let (negative, digits) ← splitSign true s.toList
  if negative then
    let magnitude ← accumulate (Nat.pow 2 (bits - 1)) .tooSmall 0 digits
    return -(magnitude : Int)
  else
    let magnitude ← accumulate (Nat.pow 2 (bits - 1) - 1) .tooLarge 0 digits
    return (magnitude : Int)

end TransferLedger.Text
