import TransferLedger.Net.Address
import TransferLedger.Net.Idna
import TransferLedger.Text.Utf8

/-! Reading a URL without a base, by the URL standard, far enough to name its scheme, credentials,
host, port, path and query. Special schemes read their host as a domain or IPv4 address through
IDNA; a text without a scheme is refused. -/

namespace TransferLedger.Net

inductive UrlError where
  | emptyHost
  | badDomain
  | invalidPort
  | invalidIpv4
  | invalidIpv6
  | invalidDomainCharacter
  | relativeWithoutBase
  deriving DecidableEq, Repr

def UrlError.message : UrlError → String
  | .emptyHost => "empty host"
  | .badDomain => "invalid international domain name"
  | .invalidPort => "invalid port number"
  | .invalidIpv4 => "invalid IPv4 address"
  | .invalidIpv6 => "invalid IPv6 address"
  | .invalidDomainCharacter => "invalid domain character"
  | .relativeWithoutBase => "relative URL without a base"

/-- The parts of a URL, as written. -/
structure Url where
  scheme : String
  username : String := ""
  password : String := ""
  host : Option String := none
  port : Option Nat := none
  path : String := ""
  query : Option String := none
  deriving DecidableEq, Repr

def isSpecial (scheme : String) : Bool :=
  ["http", "https", "ws", "wss", "ftp", "file"].contains scheme

def isForbiddenHostChar (c : Char) : Bool :=
  ['\x00', '\t', '\n', '\r', ' ', '#', '/', ':', '<', '>', '?', '@', '[', '\\', ']', '^', '|'].contains c

def readScheme : List Char → Option (String × List Char)
  | c :: rest =>
    if c.isAlpha then
      let (more, after) := rest.span fun d => d.isAlphanum || d = '+' || d = '-' || d = '.'
      match after with
      | ':' :: tail => some (String.ofList ((c :: more).map Char.toLower), tail)
      | _ => none
    else none
  | [] => none

def splitLastAt (cs : List Char) : Option (List Char) × List Char :=
  match cs.reverse.span (· != '@') with
  | (after, '@' :: before) => (some before.reverse, after.reverse)
  | _ => (none, cs)

def splitPort : Bool → List Char → List Char × Option (List Char)
  | _, [] => ([], none)
  | inBrackets, c :: rest =>
    if c = ':' && !inBrackets then ([], some rest)
    else
      let inBrackets := if c = '[' then true else if c = ']' then false else inBrackets
      let (host, port) := splitPort inBrackets rest
      (c :: host, port)

def readPort (cs : List Char) : Except UrlError (Option Nat) :=
  if cs.isEmpty then .ok none
  else if cs.all Char.isDigit then
    let value := cs.foldl (fun acc c => acc * 10 + (c.toNat - '0'.toNat)) 0
    if value ≤ 65535 then .ok (some value) else .error .invalidPort
  else .error .invalidPort

def readPathAndQuery (cs : List Char) : String × Option String :=
  let (path, rest) := cs.span fun c => c != '?' && c != '#'
  let query := match rest with
    | '?' :: q => some (String.ofList (q.takeWhile (· != '#')))
    | _ => none
  (String.ofList path, query)

def readOpaqueHost (host : List Char) : Except UrlError String :=
  match host with
  | '[' :: inner =>
    if inner.getLast? == some ']' && isUrlIpv6 inner.dropLast then .ok (String.ofList host)
    else .error .invalidIpv6
  | _ =>
    if host.any isForbiddenHostChar then .error .invalidDomainCharacter
    else .ok (String.ofList host)

/-- Reads the host of a special URL: an IPv6 address in brackets, or a domain in its ASCII form
that must not be empty and must be an IPv4 address when it ends in a number. -/
def readDomainHost (host : List Char) : Except UrlError String :=
  match host with
  | '[' :: inner =>
    if inner.getLast? == some ']' && isUrlIpv6 inner.dropLast then .ok (String.ofList host)
    else .error .invalidIpv6
  | _ =>
    let text := Text.decodeLossy (Text.percentDecode (Text.utf8Bytes (String.ofList host)))
    match Idna.toAscii text.toList with
    | none => .error .badDomain
    | some domain =>
      if domain.isEmpty then .error .emptyHost
      else if endsInNumber domain then
        if isUrlIpv4 domain then .ok domain else .error .invalidIpv4
      else .ok domain

def isDriveLetter : List Char → Bool
  | [c, d] => c.isAlpha && (d = ':' || d = '|')
  | _ => false

def readFileAuthority (cs : List Char) : Except UrlError Url := do
  let (hostText, rest) := cs.span fun c => c != '/' && c != '\\' && c != '?' && c != '#'
  if isDriveLetter hostText then
    let (path, query) := readPathAndQuery cs
    return { scheme := "file", path, query }
  let host ← if hostText.isEmpty then pure "" else readDomainHost hostText
  let (path, query) := readPathAndQuery rest
  return { scheme := "file", host := if host.isEmpty || host = "localhost" then none else some host,
           path, query }

def readAuthority (scheme : String) (cs : List Char) : Except UrlError Url := do
  let special := isSpecial scheme
  let ends (c : Char) : Bool := c = '/' || c = '?' || c = '#' || (special && c = '\\')
  let (authority, rest) := cs.span fun c => !ends c
  let (userinfo, hostPort) := splitLastAt authority
  let (username, password) := match userinfo with
    | some info =>
      let (user, pass) := info.span (· != ':')
      (String.ofList user, String.ofList (pass.drop 1))
    | none => ("", "")
  if userinfo == some [] && !hostPort.isEmpty then pure ()
  else if userinfo == some [] && !rest.isEmpty then throw .emptyHost
  let (hostText, portText) := splitPort false hostPort
  let host ← if special then
      if hostText.isEmpty then throw .emptyHost else readDomainHost hostText
    else readOpaqueHost hostText
  if host.isEmpty && portText.isSome then throw .emptyHost
  let port ← match portText with
    | some p => readPort p
    | none => pure none
  let port := match scheme, port with
    | "http", some 80 | "ws", some 80 | "https", some 443 | "wss", some 443 | "ftp", some 21 => none
    | _, p => p
  let hasCredentials := !username.isEmpty || !password.isEmpty
  if host.isEmpty && hasCredentials then throw .emptyHost
  let (path, query) := readPathAndQuery rest
  return { scheme, username, password, host := if host.isEmpty then none else some host, port,
           path, query }

/-- Reads a URL without a base. -/
def parse (input : String) : Except UrlError Url := do
  let isEdge (c : Char) : Bool := c.toNat ≤ 0x20
  let cs := ((input.toList.dropWhile isEdge).reverse.dropWhile isEdge).reverse
  let cs := cs.filter fun c => c != '\t' && c != '\n' && c != '\r'
  let some (scheme, rest) := readScheme cs | throw .relativeWithoutBase
  if isSpecial scheme && scheme != "file" then
    readAuthority scheme (rest.dropWhile fun c => c = '/' || c = '\\')
  else
    let isSlash (c : Char) : Bool := c = '/' || (scheme = "file" && c = '\\')
    match rest with
    | a :: b :: after =>
      if isSlash a && isSlash b then
        if scheme = "file" then readFileAuthority after else readAuthority scheme after
      else
        let (path, query) := readPathAndQuery rest
        return { scheme, path, query }
    | _ =>
      let (path, query) := readPathAndQuery rest
      return { scheme, path, query }

end TransferLedger.Net
