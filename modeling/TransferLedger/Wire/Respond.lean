import TransferLedger.Json.Read
import TransferLedger.Wire.Command
import TransferLedger.Text.Blank
import TransferLedger.Wire.Errors
import TransferLedger.Wire.Ledger
import TransferLedger.Wire.Setup
import TransferLedger.Wire.Values

/-! Answering one request line: a JSON object whose `op` names the operation. -/

namespace TransferLedger.Wire

def answerRequest (req : Json) : Json :=
  match req.get? "op" with
  | none => badInput "missing field op"
  | some (.string op) =>
    match op with
    | "amount_parse" => amountParse req
    | "amount_new" => amountNew req
    | "amount_from_integer" => amountFromInteger req
    | "amount_covered" => amountCovered req
    | "amount_cmp" => amountCompare req
    | "amount_json" => amountJson req
    | "amount_try_from_decimal" => amountTryFromDecimal req
    | "currency_parse" => currencyParse req
    | "currency_json" => currencyJson req
    | "currency_supported" => currencySupported
    | "params_json" => paramsJson req
    | "stages" => stages
    | "canonical_order" => lockOrder req
    | "error" => errorReport req
    | "config" => configReport req
    | "ledger" => ledger req
    | "cli" => commandReport req
    | "pg" => clientReport req
    | other => badInput ("unknown op " ++ other)
  | some _ => badInput "field op must be a string"

/-- The answer line to one input line; a blank line has none. -/
def respond (line : String) : Option String :=
  if (Text.trimBlank line).isEmpty then none
  else
    match Json.parse line with
    | .ok req => some (answerRequest req).render
    | .error reason => some (badInput ("invalid JSON: " ++ reason)).render

end TransferLedger.Wire
