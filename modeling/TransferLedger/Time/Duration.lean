/-! Durations in nanoseconds, printed in the largest unit that is at least one, with the remainder
as a fraction (`1.5s`, `250ms`, `0ns`). -/

namespace TransferLedger

/-- A span of time, in nanoseconds. -/
structure Duration where
  nanos : Nat
  deriving DecidableEq, Repr

namespace Duration

def ofMillis (ms : Nat) : Duration := ⟨1000000 * ms⟩

def toMillis (d : Duration) : Nat := d.nanos / 1000000

def fractionText (frac width : Nat) : String :=
  let ds := Nat.toDigits 10 frac
  let padded := List.replicate (width - ds.length) '0' ++ ds
  String.ofList (padded.reverse.dropWhile (· == '0')).reverse

def withFraction (whole frac width : Nat) : String :=
  if frac = 0 then toString whole else toString whole ++ "." ++ fractionText frac width

/-- The text of a duration in its largest unit that is at least one. -/
def text (d : Duration) : String :=
  let secs := d.nanos / 1000000000
  let sub := d.nanos % 1000000000
  if 0 < secs then withFraction secs sub 9 ++ "s"
  else if 1000000 ≤ sub then withFraction (sub / 1000000) (sub % 1000000) 6 ++ "ms"
  else if 1000 ≤ sub then withFraction (sub / 1000) (sub % 1000) 3 ++ "µs"
  else toString sub ++ "ns"

end Duration

end TransferLedger
