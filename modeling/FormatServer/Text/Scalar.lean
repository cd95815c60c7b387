/-!
Characters by their code points, and texts as lists of characters.
-/

namespace FormatServer

/-- The character of a code point; none for half of a surrogate pair. -/
def scalar? (code : Nat) : Option Char :=
  if code < 0xD800 ∨ (0xE000 ≤ code ∧ code < 0x110000) then some (Char.ofNat code) else none

namespace Text

/-- The parts of a text between the marks. -/
def split {α : Type} [DecidableEq α] (mark : α) : List α → List (List α)
  | [] => [[]]
  | c :: rest =>
    if c = mark then [] :: split mark rest
    else match split mark rest with
      | [] => [[c]]
      | first :: more => (c :: first) :: more

def isAscii (chars : List Char) : Bool :=
  chars.all (·.toNat < 0x80)

end Text

end FormatServer
