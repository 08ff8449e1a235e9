/-! Punycode (RFC 3492): the ASCII code points of a label as they are, then each other code point as
a base-36 number saying where to insert it, with a bias that adapts. Decoding fails on a bad digit,
an unfinished number, a value beyond 32 bits or a result that is not a code point. -/

namespace TransferLedger.Net.Punycode

def valueLimit : Nat := 0xFFFFFFFF

def digitValue (c : Char) : Option Nat :=
  if 'a' ≤ c && c ≤ 'z' then some (c.toNat - 'a'.toNat)
  else if 'A' ≤ c && c ≤ 'Z' then some (c.toNat - 'A'.toNat)
  else if '0' ≤ c && c ≤ '9' then some (c.toNat - '0'.toNat + 26)
  else none

def digitChar (d : Nat) : Char :=
  if d < 26 then Char.ofNat ('a'.toNat + d) else Char.ofNat ('0'.toNat + d - 26)

def threshold (k bias : Nat) : Nat :=
  if k ≤ bias then 1 else if bias + 26 ≤ k then 26 else k - bias

def scaleDown (delta k : Nat) : Nat × Nat :=
  if 455 < delta then scaleDown (delta / 35) (k + 36) else (delta, k)
termination_by delta
decreasing_by omega

/-- The bias after a number: the delta is damped (by 700 the first time, else by 2), grows by its
share of the points so far, and is scaled down. -/
def adapt (delta points : Nat) (first : Bool) : Nat :=
  let delta := if first then delta / 700 else delta / 2
  let (delta, k) := scaleDown (delta + delta / points) 0
  k + 36 * delta / (delta + 38)

/-- Where decoding is: the next code point to insert from, the insertion index, the bias, the
output so far, and the number being read: the index where it started, its weight and its
position. -/
structure Decoding where
  next : Nat := 128
  index : Nat := 0
  bias : Nat := 72
  out : List Char
  start : Nat := 0
  weight : Nat := 1
  position : Nat := 36
  reading : Bool := false

def isCodePoint (n : Nat) : Bool := n < 0xD800 || (0xDFFF < n && n < 0x110000)

def decodeDigits : Decoding → List Char → Option (List Char)
  | st, [] => if st.reading then none else some st.out
  | st, c :: rest => do
    let d ← digitValue c
    let index := st.index + d * st.weight
    if valueLimit < index then none
    let t := threshold st.position st.bias
    if d < t then
      let points := st.out.length + 1
      let bias := adapt (index - st.start) points (st.start == 0)
      let next := st.next + index / points
      if valueLimit < next || !isCodePoint next then none
      let slot := index % points
      decodeDigits { next, index := slot + 1, bias, out := st.out.insertIdx slot (Char.ofNat next),
                     start := slot + 1 } rest
    else
      let weight := st.weight * (36 - t)
      if valueLimit < weight then none
      decodeDigits { st with index, weight, position := st.position + 36, reading := true } rest

/-- Decodes a label: the ASCII code points before the last hyphen, then the inserted ones. -/
def decode (input : List Char) : Option (List Char) :=
  let (basic, encoded) := match input.reverse.span (· != '-') with
    | (tail, []) => ([], tail.reverse)
    | (tail, _ :: head) => (head.reverse, tail.reverse)
  if basic.any (0x80 ≤ ·.toNat) then none
  else decodeDigits { out := basic } encoded

def encodeNumber (bias k q : Nat) : List Char :=
  if h : q < threshold k bias then [digitChar q]
  else
    let t := threshold k bias
    digitChar (t + (q - t) % (36 - t)) :: encodeNumber bias (k + 36) ((q - t) / (36 - t))
termination_by q
decreasing_by
  have h1 : 1 ≤ threshold k bias := by unfold threshold; split <;> (try split) <;> omega
  have h2 : (q - threshold k bias) / (36 - threshold k bias) ≤ q - threshold k bias :=
    Nat.div_le_self _ _
  omega

structure Encoding where
  out : List Char
  delta : Nat
  bias : Nat
  placed : Nat

def encodePass (basic m : Nat) (st : Encoding) (c : Char) : Encoding :=
  if c.toNat < m then { st with delta := st.delta + 1 }
  else if c.toNat = m then
    { out := st.out ++ encodeNumber st.bias 36 st.delta, delta := 0,
      bias := adapt st.delta (st.placed + 1) (st.placed == basic), placed := st.placed + 1 }
  else st

def encodeAll (input : List Char) (basic : Nat) : List Nat → Nat → Encoding → Encoding
  | [], _, st => st
  | m :: todo, n, st =>
    let st := { st with delta := st.delta + (m - n) * (st.placed + 1) }
    let st := input.foldl (encodePass basic m) st
    encodeAll input basic todo (m + 1) { st with delta := st.delta + 1 }

def insertAscending (n : Nat) : List Nat → List Nat
  | [] => [n]
  | m :: ms => if n < m then n :: m :: ms else if n = m then m :: ms else m :: insertAscending n ms

/-- Encodes a label: its ASCII code points, a hyphen if there were any, then the others. -/
def encode (input : List Char) : List Char :=
  let basic := input.filter (·.toNat < 0x80)
  let todo := ((input.filter (0x80 ≤ ·.toNat)).map Char.toNat).foldr insertAscending []
  let st := encodeAll input basic.length todo 128 { out := [], delta := 0, bias := 72, placed := basic.length }
  basic ++ (if basic.isEmpty then [] else ['-']) ++ st.out

end TransferLedger.Net.Punycode
