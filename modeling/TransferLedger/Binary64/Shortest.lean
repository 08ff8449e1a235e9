/-! The shortest decimal text of a binary64 value: the fewest significant digits of any decimal that
rounds to it, and of two such the nearer. `render` is positional; `renderGeneral` uses an exponent
outside `1e-5` to `1e16`. -/

namespace TransferLedger.Binary64

/-- A finite binary64 value taken apart: sign, integer significand and binary exponent. -/
structure Parts where
  negative : Bool
  significand : Nat
  exponent : Int
  narrowBelow : Bool

/-- Splits the bits of a finite value; subnormals keep their implicit zero. -/
def decode (bits : UInt64) : Parts :=
  let n : Nat := bits.toNat
  let fraction : Nat := n % Nat.pow 2 52
  let biased : Nat := (n / Nat.pow 2 52) % Nat.pow 2 11
  let negative : Bool := n / Nat.pow 2 63 == 1
  if biased = 0 then ⟨negative, fraction, -1074, false⟩
  else ⟨negative, fraction + Nat.pow 2 52, (biased : Int) - 1075, fraction = 0 && biased > 1⟩

def compareScaled (a : Nat) (k : Int) (b : Nat) (e : Int) : Ordering :=
  let left := a * Nat.pow 10 k.toNat * Nat.pow 2 (-e).toNat
  let right := b * Nat.pow 2 e.toNat * Nat.pow 10 (-k).toNat
  compare left right

def digitCount (n : Nat) : Nat := (Nat.toDigits 10 n).length

def decimalExponent (m : Nat) (q : Int) : Int :=
  let num := m * Nat.pow 2 q.toNat
  let den := Nat.pow 2 (-q).toNat
  if den ≤ num then (digitCount (num / den) : Int) - 1
  else
    -- the fewest places `j` with `num * 10 ^ j ≥ den`
    let j := (List.range (digitCount den + 1)).find? (fun j => den ≤ num * Nat.pow 10 j)
    Int.neg (j.getD 0 : Nat)

def floorOnGrid (m : Nat) (q k : Int) : Nat :=
  let num := m * Nat.pow 2 q.toNat * Nat.pow 10 (-k).toNat
  let den := Nat.pow 2 (-q).toNat * Nat.pow 10 k.toNat
  num / den

def roundsTo (p : Parts) (c : Nat) (k : Int) : Bool :=
  let m := p.significand
  let q := p.exponent
  -- the interval ends, in units of 2 ^ (q - 2)
  let low := if p.narrowBelow then 4 * m - 1 else 4 * m - 2
  let high := 4 * m + 2
  let inclusive := m % 2 == 0
  let above := compareScaled c k low (q - 2)
  let below := compareScaled c k high (q - 2)
  let lowOk := above == .gt || (inclusive && above == .eq)
  let highOk := below == .lt || (inclusive && below == .eq)
  lowOk && highOk

def nearer (p : Parts) (a b : Nat) (k : Int) : Ordering :=
  -- compare (v - a·10^k) with (b·10^k - v), i.e. 2v with (a + b)·10^k
  compareScaled (a + b) k (2 * p.significand) p.exponent |>.swap

/-- The shortest digits and their decimal exponent: `c * 10 ^ k`. -/
def shortest (p : Parts) : Nat × Int :=
  let m := p.significand
  let q := p.exponent
  let e := decimalExponent m q
  let pick (n : Nat) : Option (Nat × Int) :=
    let k := e - n + 1
    let lo := floorOnGrid m q k
    let hi := lo + 1
    match roundsTo p lo k, roundsTo p hi k with
    | true, true =>
      match nearer p lo hi k with
      | .lt => some (lo, k)
      | .gt => some (hi, k)
      | .eq => some (if lo % 2 == 0 then lo else hi, k)
    | true, false => some (lo, k)
    | false, true => some (hi, k)
    | false, false => none
  match (List.range 17).findSome? (fun i => pick (i + 1)) with
  | some r => r
  | none => (floorOnGrid m q (e - 16), e - 16)

def trimZeros : Nat → Nat → Int → Nat × Int
  | 0, c, k => (c, k)
  | fuel + 1, c, k => if c % 10 = 0 && c ≠ 0 then trimZeros fuel (c / 10) (k + 1) else (c, k)

def positional (c : Nat) (k : Int) : String :=
  let ds := Nat.toDigits 10 c
  let point : Int := k + ds.length
  if point ≤ 0 then "0." ++ String.ofList (List.replicate (-point).toNat '0' ++ ds)
  else if point < ds.length then
    String.ofList (ds.take point.toNat) ++ "." ++ String.ofList (ds.drop point.toNat)
  else String.ofList (ds ++ List.replicate (point.toNat - ds.length) '0')

/-- The shortest positional text of a finite value; a negative zero keeps its sign. -/
def render (bits : UInt64) : String :=
  let p := decode bits
  let sign := if p.negative then "-" else ""
  if p.significand = 0 then sign ++ "0"
  else
    let (c, k) := shortest p
    let (c, k) := trimZeros 20 c k
    sign ++ positional c k

def renderWithPoint (bits : UInt64) : String :=
  let text := render bits
  if text.toList.contains '.' then text else text ++ ".0"

def exponentText (e : Int) : String :=
  (if e < 0 then "-" else "+") ++ toString e.natAbs

/-- The shortest text of a finite value in general layout. With `n` significant digits and the
point `kk` places after the first of them: whole values below `1e16` are positional with `.0`,
fractions with `-5 < kk ≤ 16` are positional, and all others are scientific, as in `1e+20`,
`-4.5e-10` or `1.8446744073709552e+19`. A zero is `0.0`, keeping its sign. -/
def renderGeneral (bits : UInt64) : String :=
  let p := decode bits
  let sign := if p.negative then "-" else ""
  if p.significand = 0 then sign ++ "0.0"
  else
    let (c, k) := shortest p
    let (c, k) := trimZeros 20 c k
    let ds := Nat.toDigits 10 c
    let kk : Int := ds.length + k
    if 0 ≤ k && kk ≤ 16 then sign ++ String.ofList (ds ++ List.replicate k.toNat '0') ++ ".0"
    else if 0 < kk && kk ≤ 16 then
      sign ++ String.ofList (ds.take kk.toNat) ++ "." ++ String.ofList (ds.drop kk.toNat)
    else if -5 < kk && kk ≤ 0 then
      sign ++ "0." ++ String.ofList (List.replicate (-kk).toNat '0' ++ ds)
    else
      match ds with
      | d :: rest@(_ :: _) =>
        sign ++ String.ofList [d] ++ "." ++ String.ofList rest ++ "e" ++ exponentText (kk - 1)
      | _ => sign ++ String.ofList ds ++ "e" ++ exponentText (kk - 1)

end TransferLedger.Binary64
