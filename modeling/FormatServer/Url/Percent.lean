import FormatServer.Json.Tree
import FormatServer.Text.Utf8

/-!
Percent-encoding: bytes written as a percent sign and two hexadecimal digits.
-/

namespace FormatServer.Percent

def hexDigit (value : Nat) : Char :=
  if value < 10 then Char.ofNat ('0'.toNat + value) else Char.ofNat ('A'.toNat + (value - 10))

def encodeByte (byte : UInt8) : List Char :=
  ['%', hexDigit (byte.toNat / 16), hexDigit (byte.toNat % 16)]

/-- Whether the character is encoded everywhere: controls and what is not ASCII. -/
def isControl (c : Char) : Bool :=
  c.toNat < 0x20 || 0x7F ≤ c.toNat

def isFragment (c : Char) : Bool :=
  isControl c || [' ', '"', '<', '>', '`'].contains c

def isQuery (c : Char) : Bool :=
  isControl c || [' ', '"', '#', '<', '>'].contains c

def isSpecialQuery (c : Char) : Bool :=
  isQuery c || c = '\''

def isPath (c : Char) : Bool :=
  isFragment c || ['#', '?', '{', '}'].contains c

def isUserInfo (c : Char) : Bool :=
  isPath c || ['/', ':', ';', '=', '@', '[', '\\', ']', '^', '|'].contains c

/-- The characters encoded in a segment that is made from a file name. -/
def isFileName (c : Char) : Bool :=
  isPath c || ['/', '%', '\\'].contains c

def encode (isEncoded : Char → Bool) (chars : List Char) : List Char :=
  chars.flatMap fun c =>
    if isEncoded c then (Utf8.encode (String.singleton c)).flatMap encodeByte else [c]

/-- The bytes that the characters stand for; a percent sign without two digits stands for itself. -/
def decode : List Char → List UInt8
  | [] => []
  | '%' :: high :: low :: rest =>
    match Json.hexNumber? [high, low] with
    | some value => UInt8.ofNat value :: decode rest
    | none => 0x25 :: decode (high :: low :: rest)
  | c :: rest => Utf8.encode (String.singleton c) ++ decode rest

end FormatServer.Percent
