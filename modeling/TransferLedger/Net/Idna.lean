import TransferLedger.Net.Punycode
import TransferLedger.Text.BidiClass
import TransferLedger.Text.IdnaMapping
import TransferLedger.Text.Joining
import TransferLedger.Text.Mark

/-! Domain names brought to ASCII by the rules of IDNA (Unicode Technical Standard 46, not
transitional): mapping, Punycode labels, combining marks, joiners, the bidirectional rule and
forbidden host characters. -/

namespace TransferLedger.Net.Idna

open Text

/-- Maps the characters of a name by the IDNA mapping table; none if one is disallowed. -/
def mapName : List Char → Option (List Char)
  | [] => some []
  | c :: rest => do
    let tail ← mapName rest
    match idnaStatus c with
    | .valid => some (c :: tail)
    | .mapped replacement => some (replacement ++ tail)
    | .ignored => some tail
    | .disallowed => none

def splitLabels : List Char → List (List Char)
  | [] => [[]]
  | c :: rest =>
    match splitLabels rest with
    | [] => [[c]]
    | label :: labels => if c = '.' then [] :: label :: labels else (c :: label) :: labels

def hasPunycodePrefix (label : List Char) : Bool := label.take 4 == ['x', 'n', '-', '-']

/-- The Unicode form of a label: a Punycode label decoded, when it decodes to a label that is not
empty, not all ASCII, without the prefix itself and with only valid characters. -/
def unicodeLabel (label : List Char) : Option (List Char) :=
  if hasPunycodePrefix label then do
    if label.any (0x80 ≤ ·.toNat) then none
    let decoded ← Punycode.decode (label.drop 4)
    if decoded.isEmpty || decoded.all (·.toNat < 0x80) || hasPunycodePrefix decoded then none
    if !decoded.all (idnaStatus · == .valid) then none
    some decoded
  else some label

def joinsBefore : List Char → Bool
  | [] => false
  | c :: rest =>
    match joiningType c with
    | .transparent => joinsBefore rest
    | .left | .dual => true
    | _ => false

def joinsAfter : List Char → Bool
  | [] => false
  | c :: rest =>
    match joiningType c with
    | .transparent => joinsAfter rest
    | .right | .dual => true
    | _ => false

def joinersAllowed (before : List Char) : List Char → Bool
  | [] => true
  | c :: rest =>
    let afterVirama := (before.head?.map isVirama).getD false
    let allowed :=
      if c = Char.ofNat 0x200D then afterVirama
      else if c = Char.ofNat 0x200C then afterVirama || (joinsBefore before && joinsAfter rest)
      else true
    allowed && joinersAllowed (c :: before) rest

/-- Whether a label may stand in a name: it does not start with a combining mark and its joiners
stand where they may. -/
def labelAllowed (label : List Char) : Bool :=
  !(label.head?.map isMark).getD false && joinersAllowed [] label

def isRightToLeft (c : Char) : Bool :=
  match bidiClass c with
  | .rightToLeft | .arabicLetter | .arabicNumber => true
  | _ => false

def lastUnmarked (label : List Char) : Option BidiClass :=
  (label.reverse.dropWhile (bidiClass · == .nonspacingMark)).head?.map bidiClass

def leftToRightClasses : List BidiClass :=
  [.leftToRight, .europeanNumber, .europeanSeparator, .commonSeparator, .europeanTerminator,
    .otherNeutral, .boundaryNeutral, .nonspacingMark]

def rightToLeftClasses : List BidiClass :=
  [.rightToLeft, .arabicLetter, .arabicNumber, .europeanNumber, .europeanSeparator,
    .commonSeparator, .europeanTerminator, .otherNeutral, .boundaryNeutral, .nonspacingMark]

/-- Whether a label keeps the bidirectional rule. -/
def keepsBidiRule (label : List Char) : Bool :=
  match label with
  | [] => true
  | c :: _ =>
    let classes := label.map bidiClass
    match bidiClass c with
    | .leftToRight =>
      classes.all leftToRightClasses.contains &&
        match lastUnmarked label with
        | some .leftToRight | some .europeanNumber | none => true
        | _ => false
    | .rightToLeft | .arabicLetter =>
      classes.all rightToLeftClasses.contains &&
        (match lastUnmarked label with
          | some .rightToLeft | some .arabicLetter | some .europeanNumber | some .arabicNumber => true
          | _ => false) &&
        !(classes.contains .europeanNumber && classes.contains .arabicNumber)
    | _ => false

def isDenied (c : Char) : Bool :=
  c.toNat ≤ 0x20 || c.toNat = 0x7F || "%#/:<>?@[\\]^|".toList.contains c

def asciiLabel (label : List Char) : String :=
  if label.all (·.toNat < 0x80) then String.ofList label
  else "xn--" ++ String.ofList (Punycode.encode label)

/-- The ASCII form of a domain name, or none when the name is refused. -/
def toAscii (name : List Char) : Option String := do
  let mapped ← mapName name
  if mapped.any isDenied then none
  let labels ← (splitLabels mapped).mapM unicodeLabel
  if !labels.all labelAllowed then none
  if labels.any (·.any isRightToLeft) && !labels.all keepsBidiRule then none
  some (".".intercalate (labels.map asciiLabel))

end TransferLedger.Net.Idna
