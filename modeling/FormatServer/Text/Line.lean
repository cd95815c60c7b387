import FormatServer.Text.Utf8

/-!
Lines of a document and positions in it. A line ends at a line feed, a carriage return, or the two
in that order; positions count UTF-16 units within a line.
-/

namespace FormatServer

namespace Text

/-- The number of UTF-16 units of the characters. -/
def units16 : List Char → Nat
  | [] => 0
  | c :: rest => (if c.toNat < 0x10000 then 1 else 2) + units16 rest

/-- A line's characters before its end, and the characters that end it. -/
structure Line where
  content : List Char
  ending : List Char
  deriving DecidableEq

namespace Line

def chars (line : Line) : List Char :=
  line.content ++ line.ending

def prepend (c : Char) : List Line → List Line
  | [] => [⟨[c], []⟩]
  | line :: rest => { line with content := c :: line.content } :: rest

end Line

/-- The lines of a text; the last one has no end, and may be empty. -/
def lines : List Char → List Line
  | [] => [⟨[], []⟩]
  | '\r' :: '\n' :: rest => ⟨[], ['\r', '\n']⟩ :: lines rest
  | c :: rest =>
    if c = '\n' ∨ c = '\r' then ⟨[], [c]⟩ :: lines rest
    else Line.prepend c (lines rest)

/-- The offsets of the line starts after `offset`, where the bytes begin. -/
def startsAfter (offset : Nat) : List UInt8 → List Nat
  | [] => []
  | 0x0D :: 0x0A :: rest => (offset + 2) :: startsAfter (offset + 2) rest
  | byte :: rest =>
    if byte = 0x0A ∨ byte = 0x0D then (offset + 1) :: startsAfter (offset + 1) rest
    else startsAfter (offset + 1) rest

/-- The offset in bytes of each line's start. -/
def lineStarts (text : String) : List Nat :=
  0 :: startsAfter 0 (Utf8.encode text)

end Text

/-- A place in a document: a line, and UTF-16 units from the line's start. -/
structure Position where
  line : UInt32
  character : UInt32
  deriving DecidableEq

structure Range where
  start : Position
  stop : Position
  deriving DecidableEq

/-- A stretch of a document in UTF-16 units from the document's start. -/
structure Span where
  start : Nat
  stop : Nat
  deriving DecidableEq

namespace Text

/-- The UTF-16 offset of a position. A character past a line's content means the content's end,
and a line past the last means the text's end. -/
def offsetAt (text : String) (position : Position) : Nat :=
  let all := lines text.toList
  match all[position.line.toNat]? with
  | none => units16 text.toList
  | some line =>
    units16 ((all.take position.line.toNat).flatMap Line.chars) +
      min position.character.toNat (units16 line.content)

/-- The position after the last character. -/
def endPosition (text : String) : Position :=
  let all := lines text.toList
  { line := (all.length - 1).toUInt32
    character := (units16 ((all.getLast?.map Line.content).getD [])).toUInt32 }

/-- The stretch between the ends of a range, whichever comes first. -/
def span (text : String) (range : Range) : Span :=
  let first := offsetAt text range.start
  let second := offsetAt text range.stop
  ⟨min first second, max first second⟩

end Text

end FormatServer
