/-!
Integers that have a place in a number of bits.
-/

namespace FormatServer.Word

/-- The number of values that so many bits can have. -/
def count (bits : Nat) : Nat :=
  Nat.pow 2 bits

/-- Whether the integer has a place in the bits without a sign. -/
def fits (bits : Nat) (value : Int) : Bool :=
  0 ≤ value && value < count bits

/-- Whether the integer has a place in the bits with a sign. -/
def fitsSigned (bits : Nat) (value : Int) : Bool :=
  -(count (bits - 1) : Int) ≤ value && value < count (bits - 1)

end FormatServer.Word
