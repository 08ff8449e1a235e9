import TransferLedger.Transfer.Log

/-! Log filters: comma-separated directives of a target, an optional span part and a level. An event
is shown when the most specific directive that applies allows its level; one malformed directive
makes the whole filter malformed. -/

namespace TransferLedger.Logging

abbrev Verbosity := Nat

def levelVerbosity : Level → Verbosity
  | .error => 1
  | .warn => 2
  | .info => 3
  | .debug => 4

def readLevel (s : String) : Option Verbosity :=
  let digits := (s.toList.dropWhile (· == '+'))
  let numeric := s.toList.length - digits.length ≤ 1 && !digits.isEmpty && digits.all Char.isDigit
  if numeric && (String.ofList digits).toNat! ≤ 5 then some (String.ofList digits).toNat!
  else if numeric then none
  else
    match s.toLower with
    | "" => some 1
    | "error" => some 1
    | "warn" => some 2
    | "info" => some 3
    | "debug" => some 4
    | "trace" => some 5
    | "off" => some 0
    | _ => none

/-- One directive. -/
structure Directive where
  target : Option String := none
  spanName : Option String := none
  fields : List (String × Bool) := []
  level : Verbosity
  deriving DecidableEq, Repr

def Directive.isStatic (d : Directive) : Bool :=
  d.spanName.isNone && !d.fields.any (·.2)

inductive PatternMode where
  | plain
  | escaped
  | classOpen (negated : Bool)
  | classBody
  | classEscaped
  | countLow (seen : Bool)
  | countHigh

/-- Checks the shape of a value pattern: groups balance, classes close, an escape has a character
after it, and a repetition (`*`, `+`, `?` or a count in braces) follows something to repeat.
`depth` counts the open groups and `atom` says whether something repeatable precedes. -/
def patternShape : PatternMode → Nat → Bool → List Char → Bool
  | .plain, depth, _, [] => depth = 0
  | _, _, _, [] => false
  | .plain, depth, _, '(' :: '?' :: rest => patternShape .plain (depth + 1) false rest
  | .plain, depth, atom, c :: rest =>
    match c with
    | '(' => patternShape .plain (depth + 1) false rest
    | ')' => depth != 0 && patternShape .plain (depth - 1) true rest
    | '|' => patternShape .plain depth false rest
    | '*' | '+' | '?' => atom && patternShape .plain depth true rest
    | '\x7b' => atom && patternShape (.countLow false) depth true rest
    | '\\' => patternShape .escaped depth true rest
    | '[' => patternShape (.classOpen false) depth true rest
    | _ => patternShape .plain depth true rest
  | .escaped, depth, _, _ :: rest => patternShape .plain depth true rest
  | .classOpen negated, depth, _, c :: rest =>
    if c = '^' && !negated then patternShape (.classOpen true) depth true rest
    else if c = '\\' then patternShape .classEscaped depth true rest
    else patternShape .classBody depth true rest
  | .classBody, depth, _, c :: rest =>
    if c = ']' then patternShape .plain depth true rest
    else if c = '\\' then patternShape .classEscaped depth true rest
    else patternShape .classBody depth true rest
  | .classEscaped, depth, _, _ :: rest => patternShape .classBody depth true rest
  | .countLow seen, depth, _, c :: rest =>
    if c.isDigit then patternShape (.countLow true) depth true rest
    else if seen && c = ',' then patternShape .countHigh depth true rest
    else if seen && c = '\x7d' then patternShape .plain depth true rest
    else false
  | .countHigh, depth, _, c :: rest =>
    if c.isDigit then patternShape .countHigh depth true rest
    else if c = '\x7d' then patternShape .plain depth true rest
    else false

def isValueMatch (value : String) : Bool :=
  value = "true" || value = "false" || value.toInt?.isSome || patternShape .plain 0 false value.toList

/-- Reads the fields of a span part, separated by commas: each is a name, then optionally `=` and
a value to match. A field without a name, or with a value that cannot be matched, is malformed. -/
def readFields (text : String) : Option (List (String × Bool)) :=
  (text.splitOn ",").mapM fun item =>
    match item.splitOn "=" with
    | [] | [""] => none
    | [name] => some (name, false)
    | name :: value =>
      if name.isEmpty || !isValueMatch ("=".intercalate value) then none else some (name, true)

def readSpanPart (inner : List Char) : Option (Option String × List (String × Bool)) :=
  let (name, after) := inner.span (· != '\x7b')
  let spanName := if name.isEmpty then none else some (String.ofList name)
  match after with
  | [] => some (spanName, [])
  | _ :: body =>
    match body.reverse with
    | '\x7d' :: inside => (readFields (String.ofList inside.reverse)).map fun fields => (spanName, fields)
    | _ => none

def levelAfter : List Char → Option Verbosity
  | [] => some 5
  | '=' :: word => readLevel (String.ofList word)
  | _ => none

/-- Reads one directive: a level alone, which applies to every target, or a target, then
optionally a span part in brackets, then optionally `=` and a level. The target is taken as
written; an empty one applies to every target. -/
def readDirective (s : String) : Option Directive :=
  match readLevel s with
  | some level => some { level }
  | none =>
    let (head, rest) := s.toList.span (· != '[')
    let (targetText, tail) := match rest with
      | [] => head.span (· != '=')
      | _ => (head, rest)
    let target := if targetText.isEmpty then none else some (String.ofList targetText)
    match tail with
    | '[' :: more =>
      match more.span (· != ']') with
      | (inner, ']' :: after) => do
        let level ← levelAfter after
        let (spanName, fields) ← readSpanPart inner
        return { target, spanName, fields, level }
      | _ => none
    | _ => do
      let level ← levelAfter tail
      return { target, level }

def readFilter (s : String) : Option (List Directive) :=
  ((s.splitOn ",").filter (!·.isEmpty)).mapM readDirective

def Directive.appliesTo (d : Directive) (target : String) (fieldNames : List String) : Bool :=
  d.isStatic && (match d.target with
    | some t => t.isPrefixOf target
    | none => true) && d.fields.all fun f => fieldNames.contains f.1

def Directive.specificity (d : Directive) : Nat × Nat :=
  ((d.target.map String.length).getD 0, d.fields.length)

/-- Whether the filter shows an event of a level and target with the given field names. -/
def shows (directives : List Directive) (target : String) (level : Level) (fieldNames : List String) :
    Bool :=
  let pick := directives.foldl (fun best d =>
    if !d.appliesTo target fieldNames then best
    else match best with
      | none => some d
      | some b =>
        let (l1, f1) := d.specificity
        let (l2, f2) := b.specificity
        if l1 > l2 || (l1 == l2 && f1 ≥ f2) then some d else best) none
  match pick with
  | some d => levelVerbosity level ≤ d.level
  | none => false

def defaultFilter : String := "cedar_ledger=debug,sqlx=warn"

/-- The filter in force: the given text when it reads, else the default. -/
def effectiveFilter (given : Option String) : List Directive :=
  match given.bind readFilter with
  | some ds => ds
  | none => (readFilter defaultFilter).getD []

end TransferLedger.Logging
