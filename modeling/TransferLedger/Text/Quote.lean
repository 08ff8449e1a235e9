import TransferLedger.Text.Printable

/-! Quoted text in messages: quotes, backslashes and the controls with short escapes are escaped,
and the code points of `escapedRanges` are written by their hex value. -/

namespace TransferLedger.Text

def hexText (n : Nat) : String := String.ofList (Nat.toDigits 16 n)

def escapeQuoted (c : Char) : String :=
  if c = '"' then "\\\""
  else if c = '\\' then "\\\\"
  else if c = '\t' then "\\t"
  else if c = '\n' then "\\n"
  else if c = '\r' then "\\r"
  else if c = '\x00' then "\\0"
  else if isEscapedCode c.toNat then "\\u\x7b" ++ hexText c.toNat ++ "\x7d"
  else c.toString

/-- A text in double quotes, escaped. -/
def quoted (s : String) : String :=
  "\"" ++ String.join (s.toList.map escapeQuoted) ++ "\""

end TransferLedger.Text
