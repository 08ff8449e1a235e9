/-! Tables of runs over code points: each entry names the first code point of a run and its value,
ascending from zero, written as text with code points in lowercase hexadecimal. -/

namespace TransferLedger.Text

/-- A value for every code point, given as runs. -/
structure CodeTable (α : Type) where
  starts : Array Nat
  values : Array α

namespace CodeTable

/-- The index of the last run in `[lo, hi)` whose first code point is at most `n`, given that the
run at `lo` starts at or below `n`. -/
def lastAtMost (starts : Array Nat) (n lo hi : Nat) : Nat :=
  if lo + 1 < hi then
    let mid := (lo + hi) / 2
    if starts.getD mid 0 ≤ n then lastAtMost starts n mid hi else lastAtMost starts n lo mid
  else lo
termination_by hi - lo

def get (t : CodeTable α) (fallback : α) (n : Nat) : α :=
  t.values.getD (lastAtMost t.starts n 0 t.starts.size) fallback

def isHexDigit (c : Char) : Bool := c.isDigit || ('a' ≤ c && c ≤ 'f')

def hexValue (cs : List Char) : Nat :=
  cs.foldl (fun acc c => acc * 16 + (if c.isDigit then c.toNat - '0'.toNat else c.toNat - 'a'.toNat + 10)) 0

def readEntry (entry : String) : Nat × String :=
  let (digits, rest) := entry.toList.span isHexDigit
  (hexValue digits, String.ofList rest)

def ofText (value : String → α) (text : String) : CodeTable α :=
  let entries := ((text.splitOn " ").filter (!·.isEmpty)).map readEntry
  { starts := (entries.map (·.1)).toArray, values := (entries.map fun e => value e.2).toArray }

/-- Reads a set of code points given as its boundaries: the text lists, in lowercase hexadecimal,
the code points where membership changes, starting with a member. -/
def ofBoundaries (text : String) : CodeTable Bool :=
  let bounds := ((text.splitOn " ").filter (!·.isEmpty)).map fun b => hexValue b.toList
  let starts := 0 :: bounds
  { starts := starts.toArray,
    values := ((List.range starts.length).map fun i => i % 2 == 1).toArray }

end CodeTable

end TransferLedger.Text
