/-! UTF-8 decoding of bytes, strict and lossy, and percent-decoding. A strict failure names the
length of the valid prefix and of the invalid sequence. -/

namespace TransferLedger.Text

def utf8Bytes (s : String) : List UInt8 := s.toList.flatMap String.utf8EncodeChar

structure Utf8Fault where
  validUpTo : Nat
  badLength : Option Nat
  deriving DecidableEq, Repr

def Utf8Fault.message : Utf8Fault → String
  | ⟨i, some n⟩ => "invalid utf-8 sequence of " ++ toString n ++ " bytes from index " ++ toString i
  | ⟨i, none⟩ => "incomplete utf-8 byte sequence from index " ++ toString i

inductive Utf8Step where
  | char (c : Char) (width : Nat)
  | invalid (length : Option Nat)

def isContinuation (b : UInt8) : Bool := 0x80 ≤ b && b ≤ 0xBF

def low6 (b : UInt8) : Nat := b.toNat % 64

/-- Reads the first character of a non-empty byte sequence. The second byte's range depends on
the first, which rules out overlong forms, surrogates and values past U+10FFFF. -/
def utf8Step (b : UInt8) (rest : List UInt8) : Utf8Step :=
  let n := b.toNat
  if n < 0x80 then .char (Char.ofNat n) 1
  else if 0xC2 ≤ n && n ≤ 0xDF then
    match rest with
    | [] => .invalid none
    | c :: _ => if isContinuation c then .char (Char.ofNat ((n % 32) * 64 + low6 c)) 2 else .invalid (some 1)
  else if 0xE0 ≤ n && n ≤ 0xEF then
    let lo : UInt8 := if n = 0xE0 then 0xA0 else 0x80
    let hi : UInt8 := if n = 0xED then 0x9F else 0xBF
    match rest with
    | [] => .invalid none
    | c :: more =>
      if !(lo ≤ c && c ≤ hi) then .invalid (some 1)
      else match more with
        | [] => .invalid none
        | d :: _ =>
          if isContinuation d then .char (Char.ofNat ((n % 16) * 4096 + low6 c * 64 + low6 d)) 3
          else .invalid (some 2)
  else if 0xF0 ≤ n && n ≤ 0xF4 then
    let lo : UInt8 := if n = 0xF0 then 0x90 else 0x80
    let hi : UInt8 := if n = 0xF4 then 0x8F else 0xBF
    match rest with
    | [] => .invalid none
    | c :: more =>
      if !(lo ≤ c && c ≤ hi) then .invalid (some 1)
      else match more with
        | [] => .invalid none
        | d :: more' =>
          if !isContinuation d then .invalid (some 2)
          else match more' with
            | [] => .invalid none
            | e :: _ =>
              if isContinuation e then
                .char (Char.ofNat ((n % 8) * 262144 + low6 c * 4096 + low6 d * 64 + low6 e)) 4
              else .invalid (some 3)
  else .invalid (some 1)

/-- Reads bytes as UTF-8, `offset` bytes into the whole sequence; `fuel` bounds the steps. -/
def decodeFrom : Nat → Nat → List UInt8 → Except Utf8Fault (List Char)
  | _, _, [] => .ok []
  | 0, offset, _ => .error ⟨offset, none⟩
  | fuel + 1, offset, b :: rest =>
    match utf8Step b rest with
    | .char c width => (decodeFrom fuel (offset + width) ((b :: rest).drop width)).map (c :: ·)
    | .invalid length => .error ⟨offset, length⟩

def decodeUtf8 (bytes : List UInt8) : Except Utf8Fault String :=
  (decodeFrom bytes.length 0 bytes).map String.ofList

/-- Reads bytes as UTF-8, with U+FFFD for each invalid sequence; `fuel` bounds the steps. -/
def decodeLossyWithin : Nat → List UInt8 → List Char
  | _, [] => []
  | 0, _ => []
  | fuel + 1, b :: rest =>
    match utf8Step b rest with
    | .char c width => c :: decodeLossyWithin fuel ((b :: rest).drop width)
    | .invalid (some length) => '�' :: decodeLossyWithin fuel ((b :: rest).drop length)
    | .invalid none => ['�']

def decodeLossy (bytes : List UInt8) : String :=
  String.ofList (decodeLossyWithin bytes.length bytes)

def hexByteValue? (b : UInt8) : Option Nat :=
  let n := b.toNat
  if 0x30 ≤ n && n ≤ 0x39 then some (n - 0x30)
  else if 0x41 ≤ n && n ≤ 0x46 then some (n - 0x41 + 10)
  else if 0x61 ≤ n && n ≤ 0x66 then some (n - 0x61 + 10)
  else none

def escapedByte? : List UInt8 → Option UInt8
  | h :: l :: _ =>
    match hexByteValue? h, hexByteValue? l with
    | some x, some y => some (UInt8.ofNat (x * 16 + y))
    | _, _ => none
  | _ => none

/-- Replaces each `%` followed by two hexadecimal digits with the byte they name; any other `%`
stays. -/
def percentDecode : List UInt8 → List UInt8
  | [] => []
  | b :: tail =>
    match (if b = 0x25 then escapedByte? tail else none) with
    | some x => x :: percentDecode (tail.drop 2)
    | none => b :: percentDecode tail
termination_by bytes => bytes.length
decreasing_by all_goals simp only [List.length_drop, List.length_cons]; omega

end TransferLedger.Text
