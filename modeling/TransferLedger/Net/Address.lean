/-! IP address texts: the strict grammar of network settings, and the host grammar of the URL
standard, whose IPv4 parts may be decimal, octal or hexadecimal. -/

namespace TransferLedger.Net

def digitIn (radix : Nat) (c : Char) : Option Nat :=
  if '0' ≤ c && c ≤ '9' then some (c.toNat - '0'.toNat)
  else if radix == 16 && 'a' ≤ c && c ≤ 'f' then some (c.toNat - 'a'.toNat + 10)
  else if radix == 16 && 'A' ≤ c && c ≤ 'F' then some (c.toNat - 'A'.toNat + 10)
  else none

def digitRun (radix : Nat) : List Char → Nat × Nat × List Char
  | [] => (0, 0, [])
  | c :: rest =>
    match digitIn radix c with
    | none => (0, 0, c :: rest)
    | some d =>
      let (count, value, after) := digitRun radix rest
      (count + 1, d * Nat.pow radix count + value, after)

/-- A number of at most `maxDigits` digits and at most `limit`, with all digits at the front
read; a leading zero before more digits is refused unless allowed. -/
def readNumber (radix maxDigits limit : Nat) (allowZeroPrefix : Bool) (cs : List Char) :
    Option (Nat × List Char) :=
  let (count, value, after) := digitRun radix cs
  if count = 0 || maxDigits < count || limit < value then none
  else if !allowZeroPrefix && cs.head? == some '0' && 1 < count then none
  else some (value, after)

def expect (c : Char) : List Char → Option (List Char)
  | d :: rest => if c = d then some rest else none
  | [] => none

def readIpv4 (cs : List Char) : Option (List Nat × List Char) := do
  let (a, cs) ← readNumber 10 3 255 false cs
  let (b, cs) ← readNumber 10 3 255 false (← expect '.' cs)
  let (c, cs) ← readNumber 10 3 255 false (← expect '.' cs)
  let (d, cs) ← readNumber 10 3 255 false (← expect '.' cs)
  return ([a, b, c, d], cs)

def afterSeparator (index : Nat) (cs : List Char) : Option (List Char) :=
  if index = 0 then some cs else expect ':' cs

/-- Reads IPv6 groups at positions `index` onward, at most `left` of them, out of `limit`. A group
may be an IPv4 address when at least two positions remain; it counts as two groups and ends the
run. Answers the groups, whether an IPv4 address ended them, and what follows. -/
def readGroups (limit : Nat) : Nat → Nat → List Char → List Nat × Bool × List Char
  | _, 0, cs => ([], false, cs)
  | index, left + 1, cs =>
    let ipv4 := if index + 1 < limit then (afterSeparator index cs).bind readIpv4 else none
    match ipv4 with
    | some ([a, b, c, d], rest) => ([a * 256 + b, c * 256 + d], true, rest)
    | _ =>
      match (afterSeparator index cs).bind (readNumber 16 4 0xFFFF true) with
      | some (g, rest) =>
        let (gs, v4, after) := readGroups limit (index + 1) left rest
        (g :: gs, v4, after)
      | none => ([], false, cs)

def readIpv6 (cs : List Char) : Option (List Nat × List Char) :=
  let (head, headIpv4, rest) := readGroups 8 0 8 cs
  if head.length = 8 then some (head, rest)
  else if headIpv4 then none
  else
    match rest with
    | ':' :: ':' :: more =>
      let limit := 8 - (head.length + 1)
      let (tail, _, after) := readGroups limit 0 limit more
      some (head ++ List.replicate (8 - head.length - tail.length) 0 ++ tail, after)
    | _ => none

/-- Whether a text is an IPv4 or IPv6 address in the strict grammar. -/
def isIpAddress (s : String) : Bool :=
  match readIpv4 s.toList with
  | some (_, rest) => rest.isEmpty
  | none =>
    match readIpv6 s.toList with
    | some (_, rest) => rest.isEmpty
    | none => false

def isEmbeddedIpv4 (cs : List Char) : Bool :=
  let parts := (String.ofList cs).splitOn "."
  parts.length == 4 && parts.all fun p =>
    !p.isEmpty && p.toList.all Char.isDigit && (p.length == 1 || !p.startsWith "0") &&
      p.toNat! ≤ 255

def hexRun (cs : List Char) : Nat × List Char :=
  let digits := (cs.take 4).takeWhile fun c => (digitIn 16 c).isSome
  (digits.length, cs.drop digits.length)

/-- The URL standard's IPv6 reading after its start: `piece` pieces read, `compressed` whether
`::` was seen. `fuel` bounds the steps. -/
def urlIpv6Pieces : Nat → Nat → Bool → List Char → Bool
  | 0, _, _, _ => false
  | _ + 1, piece, compressed, [] => compressed || piece = 8
  | fuel + 1, piece, compressed, c :: rest =>
    if piece = 8 then false
    else if c = ':' then
      if compressed then false else urlIpv6Pieces fuel (piece + 1) true rest
    else
      let (length, after) := hexRun (c :: rest)
      match after with
      | '.' :: _ =>
        if length = 0 || 6 < piece then false
        else isEmbeddedIpv4 (c :: rest) && (compressed || piece + 2 = 8)
      | ':' :: more => !more.isEmpty && urlIpv6Pieces fuel (piece + 1) compressed more
      | [] => length ≠ 0 && (compressed || piece + 1 = 8)
      | _ => false

def isUrlIpv6 (cs : List Char) : Bool :=
  match cs with
  | ':' :: ':' :: rest => urlIpv6Pieces (rest.length + 1) 1 true rest
  | ':' :: _ => false
  | _ => urlIpv6Pieces (cs.length + 1) 0 false cs

def urlIpv4Number (part : String) : Option (Option Nat) :=
  if part.isEmpty then none
  else
    let cs := part.toList
    let (radix, digits) :=
      match cs with
      | '0' :: 'x' :: rest => (16, rest)
      | '0' :: 'X' :: rest => (16, rest)
      | '0' :: rest@(_ :: _) => (8, rest)
      | _ => (10, cs)
    if digits.isEmpty then some (some 0)
    else if digits.all (fun c => (digitIn radix c).isSome && (radix != 8 || c ≤ '7')) then
      let value := digits.foldl (fun acc c => acc * radix + (digitIn radix c).getD 0) 0
      some (if value < Nat.pow 2 32 then some value else none)
    else none

def endsInNumber (host : String) : Bool :=
  let parts := (host.splitOn ".").reverse
  let last := match parts with
    | "" :: previous :: _ => some previous
    | "" :: [] => none
    | last :: _ => some last
    | [] => none
  match last with
  | none => false
  | some last =>
    (!last.isEmpty && last.toList.all Char.isDigit) || (urlIpv4Number last).isSome

/-- Whether a URL host that ends in a number is a valid IPv4 address. -/
def isUrlIpv4 (host : String) : Bool :=
  let parts := host.splitOn "."
  let parts := if parts.getLast? == some "" then parts.dropLast else parts
  if parts.isEmpty || 4 < parts.length then false
  else
    match parts.mapM urlIpv4Number with
    | none => false
    | some numbers =>
      match numbers.mapM id with
      | none => false
      | some values =>
        let front := values.dropLast
        let last := values.getLast?.getD 0
        front.all (· ≤ 255) && last < Nat.pow 256 (5 - values.length)

end TransferLedger.Net
