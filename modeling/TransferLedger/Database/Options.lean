import TransferLedger.Failure.Database
import TransferLedger.Net.Url
import TransferLedger.Text.Numeral
import TransferLedger.Text.Quote
import TransferLedger.Text.Utf8

/-! Connection options read from a database URL. A host starting with `/` names a Unix socket
directory; query parameters are read in order, unknown ones are ignored with a warning, and the
first setting that does not read refuses the URL. -/

namespace TransferLedger.Database

/-- The options of a connection, as far as they decide where it goes. -/
structure ConnectOptions where
  host : String := "localhost"
  socket : Option String := none
  port : Nat := 5432
  username : Option String := none
  database : Option String := none
  deriving DecidableEq, Repr

def configError (cause : String) : DbError := .configuration [cause]

def sslModes : List String := ["disable", "allow", "prefer", "require", "verify-ca", "verify-full"]

def checkSslMode (value : String) : Except DbError Unit :=
  if sslModes.contains value.toLower then .ok ()
  else
    let inner := "unknown value " ++ Text.quoted value ++ " for `ssl_mode`"
    .error (.configuration ["error with configuration: " ++ inner, inner])

def unsignedSetting (bits : Nat) (value : String) : Except DbError Nat :=
  match Text.readUnsigned bits value with
  | .ok n => .ok n
  | .error e => .error (configError e.message)

def decodePart (part : String) : Except DbError String :=
  match Text.decodeUtf8 (Text.percentDecode (Text.utf8Bytes part)) with
  | .ok s => .ok s
  | .error fault => .error (configError fault.message)

/-- Decodes one side of a query pair: `+` is a space, escapes are decoded, and invalid UTF-8 is
replaced. -/
def decodeFormPart (part : String) : String :=
  Text.decodeLossy (Text.percentDecode (Text.utf8Bytes (part.map fun c => if c = '+' then ' ' else c)))

def queryPairs (query : String) : List (String × String) :=
  ((query.splitOn "&").filter (!·.isEmpty)).map fun piece =>
    match piece.splitOn "=" with
    | [] => ("", "")
    | [name] => (decodeFormPart name, "")
    | name :: rest => (decodeFormPart name, decodeFormPart ("=".intercalate rest))

def applyParameter (acc : List (String × String) × ConnectOptions) (pair : String × String) :
    Except DbError (List (String × String) × ConnectOptions) := do
  let (warnings, options) := acc
  let (key, value) := pair
  match key with
  | "sslmode" | "ssl-mode" => do checkSslMode value; return acc
  | "sslrootcert" | "ssl-root-cert" | "ssl-ca" | "sslcert" | "ssl-cert" | "sslkey" | "ssl-key" =>
    return acc
  | "statement-cache-capacity" => do let _ ← unsignedSetting 64 value; return acc
  | "host" =>
    if value.startsWith "/" then return (warnings, { options with socket := some value })
    else return (warnings, { options with host := value })
  | "hostaddr" =>
    if Net.isIpAddress value then return (warnings, { options with host := value })
    else throw (configError "invalid IP address syntax")
  | "port" => return (warnings, { options with port := ← unsignedSetting 16 value })
  | "dbname" => return (warnings, { options with database := some value })
  | "user" => return (warnings, { options with username := some value })
  | "password" | "application_name" | "options" => return acc
  | _ =>
    if key.startsWith "options[" then return acc
    else return (warnings ++ [(key, value)], options)

/-- Reads the options of a URL. The warnings come with the outcome, since they are given as the
parameters are read, before any refusal. -/
def fromUrl (url : Net.Url) : List (String × String) × Except DbError ConnectOptions :=
  let start : Except DbError ConnectOptions := do
    let mut options : ConnectOptions := {}
    if let some host := url.host then
      if (Text.percentDecode (Text.utf8Bytes host)).head? == some 0x2F then
        options := { options with socket := some (← decodePart host) }
      else options := { options with host }
    if let some port := url.port then options := { options with port }
    if !url.username.isEmpty then options := { options with username := some (← decodePart url.username) }
    if !url.password.isEmpty then let _ ← decodePart url.password
    let name := String.ofList (url.path.toList.dropWhile (· == '/'))
    if !name.isEmpty then options := { options with database := some name }
    return options
  match start with
  | .error e => ([], .error e)
  | .ok options =>
    let pairs := queryPairs (url.query.getD "")
    let step (acc : List (String × String) × Except DbError ConnectOptions) (pair : String × String) :=
      match acc with
      | (warnings, .ok options) =>
        match applyParameter (warnings, options) pair with
        | .ok (warnings, options) => (warnings, .ok options)
        | .error e => (warnings, .error e)
      | stopped => stopped
    pairs.foldl step ([], .ok options)

def parse (text : String) : List (String × String) × Except DbError ConnectOptions :=
  match Net.parse text with
  | .error e => ([], .error (configError e.message))
  | .ok url => fromUrl url

def ConnectOptions.socketPath (o : ConnectOptions) : Option String :=
  o.socket.map fun dir => dir ++ "/.s.PGSQL." ++ toString o.port

def socketPathLimit : Nat := 108

def socketFailure (path : String) : DbError :=
  if path.toList.contains '\x00' then .io "paths must not contain interior null bytes"
  else if socketPathLimit ≤ path.utf8ByteSize then .io "path must be shorter than SUN_LEN"
  else .io "No such file or directory (os error 2)"

end TransferLedger.Database
