import FormatServer.Text.Line

/-!
Lines by the offsets of their starts. A line is cut out of the bytes of the text, which takes two
offsets that are boundaries of characters; a cut anywhere else is a fault.
-/

namespace FormatServer

/-- What has no place in a text. -/
inductive IndexFault where
  | cut (start stop : Nat)
  | line (number : Nat)
  deriving DecidableEq

namespace Text

/-- Whether a character starts at the offset, or the text ends there. -/
def isBoundary (text : String) (offset : Nat) : Bool :=
  String.Pos.Raw.isValid text ⟨offset⟩

/-- The characters between two offsets in bytes. -/
def slice (text : String) (start stop : Nat) : Except IndexFault (List Char) :=
  if start ≤ stop && isBoundary text start && isBoundary text stop then
    match Utf8.text? (((Utf8.encode text).drop start).take (stop - start)) with
    | some part => .ok part.toList
    | none => .error (.cut start stop)
  else .error (.cut start stop)

/-- The characters before the line end that they end with, if there is one. -/
def withoutEnding (chars : List Char) : List Char :=
  match chars.reverse with
  | '\n' :: '\r' :: rest => rest.reverse
  | '\n' :: rest => rest.reverse
  | '\r' :: rest => rest.reverse
  | _ => chars

def lineStart (text : String) (number : Nat) : Except IndexFault Nat :=
  match (lineStarts text)[number]? with
  | some start => .ok start
  | none => .error (.line number)

/-- The content of a line, if the text has that many. -/
def lineText (text : String) (number : Nat) : Except IndexFault (Option (List Char)) :=
  match (lineStarts text)[number]? with
  | none => .ok none
  | some start =>
    (slice text start ((lineStarts text)[number + 1]?.getD text.utf8ByteSize)).map fun chars =>
      some (withoutEnding chars)

/-- The UTF-16 offset of a position, by the start of its line. -/
def indexedOffset (text : String) (position : Position) : Except IndexFault Nat := do
  match ← lineText text position.line.toNat with
  | none => return units16 text.toList
  | some content =>
    let start ← lineStart text position.line.toNat
    let before ← slice text 0 start
    return units16 before + min position.character.toNat (units16 content)

/-- The position after the last character, by the last of the lines. -/
def indexedEnd (text : String) : Except IndexFault Position := do
  let last := (lineStarts text).length - 1
  let content ← lineText text last
  return ⟨last.toUInt32, ((content.map units16).getD 0).toUInt32⟩

end Text

end FormatServer
