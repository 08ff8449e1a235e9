import TransferLedger.Decimal.Arith
import TransferLedger.Text.Numeral

/-! Reading decimals: an optional sign, digits with at most one point, `_` separators after the
first digit, and an optional exponent. A text of eighteen bytes or more is read into 96 bits,
rounding a fraction at the first digit that no longer fits or at the twenty-eighth place. -/

namespace TransferLedger.Decimal

inductive ReadError where
  | empty
  | unknownCharacter
  | twoPoints
  | separatorFirst
  | noDigits
  | tooManyDigits
  | roundingOverflow
  | badExponent
  | scaleTooLarge (scale : Nat)
  | tooLarge
  deriving DecidableEq, Repr

def ReadError.message : ReadError → String
  | .empty => "Invalid decimal: empty"
  | .unknownCharacter => "Invalid decimal: unknown character"
  | .twoPoints => "Invalid decimal: two decimal points"
  | .separatorFirst => "Invalid decimal: must start lead with a number"
  | .noDigits => "Invalid decimal: no digits found"
  | .tooManyDigits => "Invalid decimal: overflow from too many digits"
  | .roundingOverflow => "Invalid decimal: overflow from mantissa after rounding"
  | .badExponent => "Failed to parse"
  | .scaleTooLarge scale => s!"Scale exceeds the maximum precision allowed: {scale} > 28"
  | .tooLarge => "Number exceeds maximum value that can be represented."

/-- What has been read of a decimal so far. -/
structure Scan where
  digits : Nat := 0
  places : Nat := 0
  afterPoint : Bool := false
  negative : Bool := false
  sawDigit : Bool := false

def misplaced (c : Char) : ReadError :=
  if c = '.' then .twoPoints else if c = '_' then .separatorFirst else .unknownCharacter

def Scan.finish (st : Scan) : Except ReadError Decimal :=
  if st.sawDigit then .ok (ofParts st.digits st.places st.negative)
  else .error .noDigits

def Scan.push (st : Scan) (d : Nat) : Scan :=
  { st with digits := st.digits * 10 + d, sawDigit := true,
            places := if st.afterPoint then st.places + 1 else st.places }

def longText : Nat := 18

/-- Once the mantissa reaches this value, the 64-bit reading hands over to the 96-bit one. -/
def narrowLimit : Nat := (Nat.pow 2 64 - 1) / 10 - 255

/-- Rounds at the last place that fits, half up by the first digit that does not. If rounding
reaches the mantissa bound, one more place is given up, rounding up from four. -/
def roundBy (st : Scan) (d : Nat) : Except ReadError Decimal :=
  if d < 5 then st.finish
  else
    let up := st.digits + 1
    if up < mantissaBound then Scan.finish { st with digits := up }
    else if st.places = 0 then .error .roundingOverflow
    else Scan.finish { st with digits := (up + 4) / 10, places := st.places - 1 }

def checkTail : List Char → Except ReadError Unit
  | [] => .ok ()
  | c :: rest =>
    if (Text.digitValue? c).isSome || c = '_' then checkTail rest else .error (misplaced c)

/-- Rounds a fraction whose next character no longer fits: separators are passed over, the first
digit rounds, and the rest of the text is checked. A point here is a second point. -/
def roundAt (st : Scan) : List Char → Except ReadError Decimal
  | [] => st.finish
  | c :: rest =>
    if c = '_' then roundAt st rest
    else
      match Text.digitValue? c with
      | none => .error (misplaced c)
      | some d => do
        let rounded ← roundBy st d
        checkTail rest
        pure rounded

/-- Reading into a 96-bit mantissa, at character `c` with `rest` still to come. A separator may
stand anywhere here. -/
def scanWide (st : Scan) (c : Char) : List Char → Except ReadError Decimal
  | [] =>
    match Text.digitValue? c with
    | some d =>
      if mantissaBound ≤ st.digits * 10 + d then
        if st.afterPoint then roundAt st [c] else .error .tooManyDigits
      else (st.push d).finish
    | none =>
      if (c = '.' && !st.afterPoint) || c = '_' then st.finish else .error (misplaced c)
  | b :: more =>
    match Text.digitValue? c with
    | some d =>
      if mantissaBound ≤ st.digits * 10 + d then
        if st.afterPoint then roundAt st (c :: b :: more) else .error .tooManyDigits
      else
        let st := st.push d
        if st.afterPoint && maxScale ≤ st.places then roundAt st (b :: more)
        else scanWide st b more
    | none =>
      if c = '.' && !st.afterPoint then scanWide { st with afterPoint := true } b more
      else if c = '_' then scanWide st b more
      else .error (misplaced c)

/-- Reading into a 64-bit mantissa, at character `c` with `rest` still to come. A long text
moves to the 96-bit reading when the mantissa grows large, and rounds once twenty-eight places
are read. -/
def scanNarrow (long : Bool) (st : Scan) (c : Char) : List Char → Except ReadError Decimal
  | [] =>
    match Text.digitValue? c with
    | some d => (st.push d).finish
    | none =>
      if c = '.' && !st.afterPoint then st.finish
      else if c = '_' && st.sawDigit then st.finish
      else .error (misplaced c)
  | b :: more =>
    match Text.digitValue? c with
    | some d =>
      let st := st.push d
      if st.afterPoint && long && maxScale ≤ st.places then roundAt st (b :: more)
      else if long && narrowLimit ≤ st.digits then scanWide st b more
      else scanNarrow long st b more
    | none =>
      if c = '.' && !st.afterPoint then scanNarrow long { st with afterPoint := true } b more
      else if c = '_' && st.sawDigit then scanNarrow long st b more
      else .error (misplaced c)

def scanFrom (long : Bool) (st : Scan) : List Char → Except ReadError Decimal
  | [] => st.finish
  | c :: rest => scanNarrow long st c rest

def readPlain (s : String) : Except ReadError Decimal :=
  let long := longText ≤ s.utf8ByteSize
  match s.toList with
  | [] => .error .empty
  | '-' :: rest => scanFrom long { negative := true } rest
  | '+' :: rest => scanFrom long {} rest
  | c :: rest => scanNarrow long {} c rest

def splitExponent : List Char → Option (List Char × List Char)
  | [] => none
  | c :: rest =>
    if c = 'e' || c = 'E' then some ([], rest)
    else (splitExponent rest).map fun (base, exponent) => (c :: base, exponent)

/-- Multiplies by `10 ^ k` in steps of at most ten places, each step brought into range. -/
def scaleUp (d : Decimal) (k : Nat) : Except ReadError Decimal :=
  let steps := List.replicate (k / 10) 10 ++ (if k % 10 = 0 then [] else [k % 10])
  steps.foldlM (fun acc places =>
    match shiftLeft? acc places with
    | some next => .ok next
    | none => .error .tooLarge) d

def dropPlaces (m drop : Nat) : Nat :=
  if (Nat.toDigits 10 m).length < drop then 0
  else
    let unit := Nat.pow 10 drop
    if unit ≤ 2 * (m % unit) then m / unit + 1 else m / unit

theorem dropPlaces_lt {m drop : Nat} (fits : m < mantissaBound) (dropped : 0 < drop) :
    dropPlaces m drop < mantissaBound := by
  have tens : 10 ≤ Nat.pow 10 drop := by
    obtain ⟨k, rfl⟩ := Nat.exists_eq_add_of_lt dropped
    exact Nat.le_mul_of_pos_left 10 (Nat.pow_pos (by decide))
  have quotient : m / Nat.pow 10 drop ≤ m / 10 := Nat.div_le_div_left tens (by decide)
  have bound : mantissaBound = 79228162514264337593543950336 := rfl
  unfold dropPlaces
  simp only
  split
  · rw [bound]
    decide
  · split <;> omega

/-- `d` with at most twenty-eight places: the places beyond are dropped, rounding half away from
zero, and a zero keeps no sign. -/
def limitScale (d : Decimal) : Decimal :=
  if within : d.scale ≤ maxScale then d
  else
    let kept := dropPlaces d.mantissa (d.scale - maxScale)
    ⟨kept, maxScale, d.negative && kept != 0, dropPlaces_lt d.fits (by omega)⟩

def applyExponent (d : Decimal) (exponent : List Char) : Except ReadError Decimal :=
  match exponent with
  | '-' :: digits =>
    match Text.readUnsigned 32 (String.ofList digits) with
    | .error _ => .error .badExponent
    | .ok k => .ok (limitScale { d with scale := d.scale + k })
  | _ =>
    match Text.readUnsigned 32 (String.ofList exponent) with
    | .error _ => .error .badExponent
    | .ok k =>
      if k ≤ d.scale then .ok { d with scale := d.scale - k }
      else if maxScale < k then .error (.scaleTooLarge k)
      else (scaleUp d k).map normalize

/-- Reads a decimal, with an optional exponent after the first `e` or `E`. -/
def read (s : String) : Except ReadError Decimal :=
  match splitExponent s.toList with
  | none => readPlain s
  | some (base, exponent) => do
    let d ← readPlain (String.ofList base)
    applyExponent d exponent

end TransferLedger.Decimal
