import FormatServer.Text.Line

/-!
The edit that turns one text into another by replacing all of it.
-/

namespace FormatServer

structure Edit where
  range : Range
  newText : String
  deriving DecidableEq

/-- Nothing for equal texts, else the replacement of the whole of `old`. -/
def Edit.replacing (old new : String) : Option Edit :=
  if old = new then none
  else some { range := ⟨⟨0, 0⟩, Text.endPosition old⟩, newText := new }

end FormatServer
