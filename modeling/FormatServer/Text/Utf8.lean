/-!
Bytes read as UTF-8. Reading keeps everything: what is no character stays as the bytes it was, so
that a lossy text and a strict one are two views of one reading.
-/

namespace FormatServer

/-- A character, or a longest run of bytes that starts a character and does not finish it. -/
inductive Glyph where
  | char (value : Char)
  | broken (bytes : List UInt8)
  deriving DecidableEq

namespace Glyph

/-- The character that stands for the glyph in a text; broken bytes show as U+FFFD. -/
def shown : Glyph → Char
  | char value => value
  | broken _ => '\uFFFD'

def char? : Glyph → Option Char
  | char value => some value
  | broken _ => none

end Glyph

namespace Utf8

/-- What follows a first byte: the number of bytes, and the least and greatest value of the first
of them. -/
structure Tail where
  count : Nat
  low : UInt8
  high : UInt8

def Tail.ofLead? (lead : UInt8) : Option Tail :=
  if 0xC2 ≤ lead ∧ lead ≤ 0xDF then some ⟨1, 0x80, 0xBF⟩
  else if lead = 0xE0 then some ⟨2, 0xA0, 0xBF⟩
  else if lead = 0xED then some ⟨2, 0x80, 0x9F⟩
  else if 0xE1 ≤ lead ∧ lead ≤ 0xEF then some ⟨2, 0x80, 0xBF⟩
  else if lead = 0xF0 then some ⟨3, 0x90, 0xBF⟩
  else if 0xF1 ≤ lead ∧ lead ≤ 0xF3 then some ⟨3, 0x80, 0xBF⟩
  else if lead = 0xF4 then some ⟨3, 0x80, 0x8F⟩
  else none

/-- The longest start of the bytes that the tail admits. -/
def Tail.take : Nat → UInt8 → UInt8 → List UInt8 → List UInt8
  | count + 1, low, high, byte :: rest =>
    if low ≤ byte ∧ byte ≤ high then byte :: Tail.take count 0x80 0xBF rest else []
  | _, _, _, _ => []

/-- The code point of a first byte and the bytes after it. -/
def codePoint (lead : UInt8) (tail : List UInt8) : Nat :=
  tail.foldl (fun point byte => point * 64 + byte.toNat % 64)
    (lead.toNat % Nat.pow 2 (6 - tail.length))

def decode : List UInt8 → List Glyph
  | [] => []
  | lead :: rest =>
    if lead < 0x80 then .char (Char.ofNat lead.toNat) :: decode rest
    else match Tail.ofLead? lead with
      | none => .broken [lead] :: decode rest
      | some tail =>
        let found := Tail.take tail.count tail.low tail.high rest
        if found.length = tail.count then
          .char (Char.ofNat (codePoint lead found)) :: decode (rest.drop found.length)
        else .broken (lead :: found) :: decode (rest.drop found.length)
termination_by bytes => bytes.length
decreasing_by all_goals simp +arith [List.length_drop]

/-- The text of the bytes, if all of them are characters. -/
def text? (bytes : List UInt8) : Option String :=
  ((decode bytes).mapM Glyph.char?).map String.ofList

/-- The text of the bytes, with U+FFFD for what is no character. -/
def lossy (bytes : List UInt8) : String :=
  String.ofList ((decode bytes).map Glyph.shown)

def encode (text : String) : List UInt8 :=
  text.toUTF8.data.toList

end Utf8

end FormatServer
