import TransferLedger.Json.Value

/-! A strict JSON reader. Whole numbers keep a 64-bit class when they fit and others become
binary64; arrays and objects nest at most 127 deep, and a refusal points at a line and a byte
column. -/

namespace TransferLedger.Json

/-- Why a text is not JSON, and where: `rest` is the text after the point of failure, and a
`peeked` failure points at the first character of `rest` rather than at the last one read. -/
structure SyntaxError where
  message : String
  rest : List Char
  peeked : Bool

def failAfter (message : String) (rest : List Char) : SyntaxError := ⟨message, rest, false⟩

def failAt (message : String) (rest : List Char) : SyntaxError := ⟨message, rest, true⟩

def wordMax : Nat := Nat.pow 2 64 - 1

def passes (acc d limit : Nat) : Bool :=
  acc ≥ limit / 10 && (acc > limit / 10 || d > limit % 10)

def tenTo (k : Nat) : Float := Float.ofScientific 1 false k

/-- Divides by `10 ^ 308` until the exponent is in range, then applies the power of ten once.
`none` when the value passes the largest finite value. -/
def scaleFloat : Nat → Float → Int → Option Float
  | 0, f, _ => some f
  | fuel + 1, f, e =>
    if e.natAbs ≤ 308 then
      if 0 ≤ e then
        let r := f * tenTo e.toNat
        if r.isInf then none else some r
      else some (f / tenTo e.natAbs)
    else if f == 0 then some f
    else if 0 ≤ e then none
    else scaleFloat fuel (f / tenTo 308) (e + 308)

def floatOfParts (negative : Bool) (significand : Nat) (exponent : Int) : Option Float :=
  let f := (UInt64.ofNat significand).toFloat
  (scaleFloat (exponent.natAbs / 308 + 2) f exponent).map fun r => if negative then -r else r

def isDigitChar (c : Char) : Bool := '0' ≤ c && c ≤ '9'

def digitOf (c : Char) : Nat := c.toNat - '0'.toNat

def exponentDigits : Nat → List Char → Option Nat × List Char
  | acc, c :: rest =>
    if isDigitChar c then
      if passes acc (digitOf c) (Nat.pow 2 31 - 1) then (none, rest)
      else exponentDigits (acc * 10 + digitOf c) rest
    else (some acc, c :: rest)
  | acc, [] => (some acc, [])

def readExponent (negative : Bool) (significand : Nat) (start : Int) (cs : List Char) :
    Except SyntaxError (JsonNumber × List Char) :=
  let (down, cs) := match cs with
    | '+' :: rest => (false, rest)
    | '-' :: rest => (true, rest)
    | _ => (false, cs)
  match cs with
  | c :: rest =>
    if !isDigitChar c then .error (failAfter "invalid number" rest)
    else
      match exponentDigits (digitOf c) rest with
      | (none, rest) =>
        if significand != 0 && !down then .error (failAfter "number out of range" rest)
        else .ok (.float (if negative then (-0.0 : Float) else 0.0).toBits, rest.dropWhile isDigitChar)
      | (some k, rest) =>
        let e := if down then start - k else start + k
        match floatOfParts negative significand e with
        | some f => .ok (.float f.toBits, rest)
        | none => .error (failAfter "number out of range" rest)
  | [] => .error (failAfter "EOF while parsing a value" [])

def plainFloat (negative : Bool) (significand : Nat) (exponent : Int) (rest : List Char) :
    Except SyntaxError (JsonNumber × List Char) :=
  match floatOfParts negative significand exponent with
  | some f => .ok (.float f.toBits, rest)
  | none => .error (failAfter "number out of range" rest)

def finishFloat (negative : Bool) (significand : Nat) (exponent : Int) :
    List Char → Except SyntaxError (JsonNumber × List Char)
  | c :: rest =>
    if c = 'e' || c = 'E' then readExponent negative significand exponent rest
    else plainFloat negative significand exponent (c :: rest)
  | [] => plainFloat negative significand exponent []

def fractionDigits (negative : Bool) : Nat → Int → List Char →
    Except SyntaxError (JsonNumber × List Char)
  | acc, e, c :: rest =>
    if isDigitChar c then
      if passes acc (digitOf c) wordMax then
        finishFloat negative acc e (rest.dropWhile isDigitChar)
      else fractionDigits negative (acc * 10 + digitOf c) (e - 1) rest
    else finishFloat negative acc e (c :: rest)
  | acc, e, [] => finishFloat negative acc e []

def readFraction (negative : Bool) (significand : Nat) (exponent : Int) :
    List Char → Except SyntaxError (JsonNumber × List Char)
  | c :: rest =>
    if isDigitChar c then fractionDigits negative significand exponent (c :: rest)
    else .error (failAt "invalid number" (c :: rest))
  | [] => .error (failAt "EOF while parsing a value" [])

def afterWhole (negative : Bool) (significand : Nat) (exponent : Int) (long : Bool) :
    List Char → Except SyntaxError (JsonNumber × List Char)
  | '.' :: rest => readFraction negative significand exponent rest
  | c :: rest =>
    if c = 'e' || c = 'E' then readExponent negative significand exponent rest
    else wholeNumber negative significand exponent long (c :: rest)
  | [] => wholeNumber negative significand exponent long []
where
  wholeNumber (negative : Bool) (significand : Nat) (exponent : Int) (long : Bool)
      (rest : List Char) : Except SyntaxError (JsonNumber × List Char) :=
    if long then plainFloat negative significand exponent rest
    else if !negative then .ok (.natural significand, rest)
    else if 0 < significand && significand ≤ Nat.pow 2 63 then .ok (.negative (-(significand : Int)), rest)
    else .ok (.float (-(UInt64.ofNat significand).toFloat).toBits, rest)

def wholeDigits (negative : Bool) : Nat → Int → Bool → List Char →
    Except SyntaxError (JsonNumber × List Char)
  | acc, e, long, c :: rest =>
    if isDigitChar c then
      if long then wholeDigits negative acc (e + 1) true rest
      else if passes acc (digitOf c) wordMax then wholeDigits negative acc (e + 1) true rest
      else wholeDigits negative (acc * 10 + digitOf c) e false rest
    else afterWhole negative acc e long (c :: rest)
  | acc, e, long, [] => afterWhole negative acc e long []

/-- Reads a number starting at its first character. -/
def readNumber (cs : List Char) : Except SyntaxError (JsonNumber × List Char) :=
  let (negative, cs) := match cs with
    | '-' :: rest => (true, rest)
    | _ => (false, cs)
  match cs with
  | '0' :: rest =>
    match rest with
    | c :: more =>
      if isDigitChar c then .error (failAt "invalid number" (c :: more))
      else afterWhole negative 0 0 false rest
    | [] => afterWhole negative 0 0 false []
  | c :: rest =>
    if isDigitChar c then wholeDigits negative (digitOf c) 0 false rest
    else .error (failAfter "invalid number" rest)
  | [] => .error (failAfter "EOF while parsing a value" [])

def skipBlank (cs : List Char) : List Char :=
  cs.dropWhile fun c => c = ' ' || c = '\t' || c = '\n' || c = '\r'

def hexValue? (c : Char) : Option Nat :=
  if isDigitChar c then some (digitOf c)
  else if 'a' ≤ c && c ≤ 'f' then some (c.toNat - 'a'.toNat + 10)
  else if 'A' ≤ c && c ≤ 'F' then some (c.toNat - 'A'.toNat + 10)
  else none

def hex4? (a b c d : Char) : Option Nat := do
  let a ← hexValue? a
  let b ← hexValue? b
  let c ← hexValue? c
  let d ← hexValue? d
  return ((a * 16 + b) * 16 + c) * 16 + d

/-- Reads the body of a string after its opening quote; `acc` holds the characters read so
far, last first. -/
def readString (acc : List Char) : List Char → Except SyntaxError (String × List Char)
  | [] => .error (failAfter "EOF while parsing a string" [])
  | '"' :: rest => .ok (String.ofList acc.reverse, rest)
  | '\\' :: rest =>
    match rest with
    | '"' :: more => readString ('"' :: acc) more
    | '\\' :: more => readString ('\\' :: acc) more
    | '/' :: more => readString ('/' :: acc) more
    | 'b' :: more => readString ('\x08' :: acc) more
    | 'f' :: more => readString ('\x0c' :: acc) more
    | 'n' :: more => readString ('\n' :: acc) more
    | 'r' :: more => readString ('\r' :: acc) more
    | 't' :: more => readString ('\t' :: acc) more
    | 'u' :: a :: b :: c :: d :: more =>
      match hex4? a b c d with
      | none => .error (failAfter "invalid escape" more)
      | some code =>
        if 0xDC00 ≤ code && code ≤ 0xDFFF then
          .error (failAfter "lone leading surrogate in hex escape" more)
        else if 0xD800 ≤ code && code ≤ 0xDBFF then
          match more with
          | '\\' :: 'u' :: a2 :: b2 :: c2 :: d2 :: after =>
            match hex4? a2 b2 c2 d2 with
            | some low =>
              if 0xDC00 ≤ low && low ≤ 0xDFFF then
                readString (Char.ofNat (0x10000 + (code - 0xD800) * 0x400 + (low - 0xDC00)) :: acc)
                  after
              else .error (failAfter "lone leading surrogate in hex escape" after)
            | none => .error (failAfter "invalid escape" after)
          | '\\' :: 'u' :: _ => .error (failAfter "EOF while parsing a string" [])
          | '\\' :: _ :: after => .error (failAfter "unexpected end of hex escape" after)
          | ['\\'] => .error (failAfter "EOF while parsing a string" [])
          | _ :: after => .error (failAfter "unexpected end of hex escape" after)
          | [] => .error (failAfter "EOF while parsing a string" [])
        else readString (Char.ofNat code :: acc) more
    | 'u' :: _ => .error (failAfter "EOF while parsing a string" [])
    | _ :: more => .error (failAfter "invalid escape" more)
    | [] => .error (failAfter "EOF while parsing a string" [])
  | c :: rest =>
    if c.toNat < 0x20 then
      .error (failAfter "control character (\\u0000-\\u001F) found while parsing a string" rest)
    else readString (c :: acc) rest

def readWord : List Char → List Char → Except SyntaxError (List Char)
  | [], cs => .ok cs
  | _ :: _, [] => .error (failAfter "EOF while parsing a value" [])
  | e :: es, c :: rest => if c = e then readWord es rest else .error (failAfter "expected ident" rest)

/-- How deep arrays and objects may nest, counting the outermost: an opening bracket that would
make the depth reach this bound is refused. -/
def depthBound : Nat := 128

mutual

/-- Reads one value after optional blanks, with `room` levels of nesting left. Each call spends
one unit of `fuel`. -/
def readValue : Nat → Nat → List Char → Except SyntaxError (Json × List Char)
  | 0, _, cs => .error (failAt "recursion limit exceeded" cs)
  | fuel + 1, room, cs =>
    match skipBlank cs with
    | 'n' :: rest => (readWord ['u', 'l', 'l'] rest).map fun r => (.null, r)
    | 't' :: rest => (readWord ['r', 'u', 'e'] rest).map fun r => (.bool true, r)
    | 'f' :: rest => (readWord ['a', 'l', 's', 'e'] rest).map fun r => (.bool false, r)
    | '"' :: rest => (readString [] rest).map fun (s, r) => (.string s, r)
    | '[' :: rest =>
      if room ≤ 1 then .error (failAt "recursion limit exceeded" ('[' :: rest))
      else readItems fuel (room - 1) true [] rest
    | '\x7b' :: rest =>
      if room ≤ 1 then .error (failAt "recursion limit exceeded" ('\x7b' :: rest))
      else readFields fuel (room - 1) true [] rest
    | c :: rest =>
      if c = '-' || isDigitChar c then
        (readNumber (c :: rest)).map fun (n, r) => (.number n, r)
      else .error (failAt "expected value" (c :: rest))
    | [] => .error (failAt "EOF while parsing a value" [])

def readItems : Nat → Nat → Bool → List Json → List Char → Except SyntaxError (Json × List Char)
  | 0, _, _, _, cs => .error (failAt "recursion limit exceeded" cs)
  | fuel + 1, room, first, acc, cs =>
    match skipBlank cs with
    | [] => .error (failAt "EOF while parsing a list" [])
    | ']' :: rest => .ok (.array acc.reverse, rest)
    | c :: rest =>
      if first then
        match readValue fuel room (c :: rest) with
        | .error e => .error e
        | .ok (item, rest) => readItems fuel room false (item :: acc) rest
      else if c = ',' then
        match skipBlank rest with
        | ']' :: more => .error (failAt "trailing comma" (']' :: more))
        | [] => .error (failAt "EOF while parsing a value" [])
        | more =>
          match readValue fuel room more with
          | .error e => .error e
          | .ok (item, rest) => readItems fuel room false (item :: acc) rest
      else .error (failAt "expected `,` or `]`" (c :: rest))

def readFields : Nat → Nat → Bool → List (String × Json) → List Char →
    Except SyntaxError (Json × List Char)
  | 0, _, _, _, cs => .error (failAt "recursion limit exceeded" cs)
  | fuel + 1, room, first, acc, cs =>
    match skipBlank cs with
    | [] => .error (failAt "EOF while parsing an object" [])
    | '\x7d' :: rest => .ok (.object acc.reverse, rest)
    | c :: rest =>
      let key : Except SyntaxError (List Char) :=
        if first then .ok (c :: rest)
        else if c = ',' then .ok (skipBlank rest)
        else .error (failAt "expected `,` or `\x7d`" (c :: rest))
      match key with
      | .error e => .error e
      | .ok ('"' :: more) =>
        match readString [] more with
        | .error e => .error e
        | .ok (name, rest) =>
          match skipBlank rest with
          | ':' :: rest =>
            match readValue fuel room rest with
            | .error e => .error e
            | .ok (value, rest) => readFields fuel room false ((name, value) :: acc) rest
          | [] => .error (failAt "EOF while parsing an object" [])
          | other => .error (failAt "expected `:`" other)
      | .ok ('\x7d' :: more) => .error (failAt "trailing comma" ('\x7d' :: more))
      | .ok [] => .error (failAt "EOF while parsing a value" [])
      | .ok other => .error (failAt "key must be a string" other)

end

def byteCount (cs : List Char) : Nat := cs.foldl (fun n c => n + c.utf8Size) 0

def SyntaxError.describe (e : SyntaxError) (text : List Char) : String :=
  let read := text.take (text.length - e.rest.length)
  let line := 1 + (read.filter (· = '\n')).length
  let column := byteCount (read.reverse.takeWhile (· ≠ '\n'))
  let column := if e.peeked && !e.rest.isEmpty then column + 1 else column
  e.message ++ " at line " ++ toString line ++ " column " ++ toString column

/-- Reads a whole text as one JSON value; only blanks may follow it. -/
def parse (s : String) : Except String Json :=
  let cs := s.toList
  match readValue (2 * cs.length + 2) depthBound cs with
  | .error e => .error (e.describe cs)
  | .ok (value, rest) =>
    match skipBlank rest with
    | [] => .ok value
    | more => .error ((failAt "trailing characters" more).describe cs)

end TransferLedger.Json
