import FormatServer.Data.Basic
import FormatServer.Data.Word

/-!
Numbers as JSON writes them, and which of them are read as integers or fit a binary floating-point
number of 64 bits.
-/

namespace FormatServer.Json

structure Numeral where
  isNegative : Bool
  whole : List Char
  fraction : List Char
  /-- Whether the exponent is negative, and its digits. -/
  exponent : Option (Bool × List Char)
  deriving DecidableEq

def digitValue (c : Char) : Nat :=
  c.toNat - '0'.toNat

def natOfDigits (digits : List Char) : Nat :=
  digits.foldl (fun value c => value * 10 + digitValue c) 0

namespace Numeral

def digits (chars : List Char) : List Char × List Char :=
  (chars.takeWhile Char.isDigit, chars.dropWhile Char.isDigit)

def readExponent : List Char → Option (Option (Bool × List Char) × List Char)
  | c :: rest =>
    if c = 'e' ∨ c = 'E' then
      let (isNegative, unsigned) := match rest with
        | '-' :: more => (true, more)
        | '+' :: more => (false, more)
        | more => (false, more)
      match digits unsigned with
      | ([], _) => none
      | (power, more) => some (some (isNegative, power), more)
    else some (none, c :: rest)
  | [] => some (none, [])

def readFraction : List Char → Option (List Char × List Char)
  | '.' :: rest =>
    match digits rest with
    | ([], _) => none
    | (fraction, more) => some (fraction, more)
  | rest => some ([], rest)

/-- Reads the number that the characters start with; a leading zero stands alone. -/
def read (chars : List Char) : Option (Numeral × List Char) := do
  let (isNegative, unsigned) := match chars with
    | '-' :: rest => (true, rest)
    | rest => (false, rest)
  let (whole, rest) ← match digits unsigned with
    | ([], _) => none
    | ('0' :: _ :: _, _) => none
    | found => some found
  let (fraction, rest) ← readFraction rest
  let (exponent, rest) ← readExponent rest
  some (⟨isNegative, whole, fraction, exponent⟩, rest)

def text (numeral : Numeral) : String :=
  String.ofList <|
    (if numeral.isNegative then ['-'] else []) ++ numeral.whole ++
      (if numeral.fraction = [] then [] else '.' :: numeral.fraction) ++
      (match numeral.exponent with
        | none => []
        | some (true, power) => 'e' :: '-' :: power
        | some (false, power) => 'e' :: power)

/-- Takes digits while the number fits 64 bits, and gives the number and the digits left. -/
def takeWord : Nat → List Char → Nat × List Char
  | value, [] => (value, [])
  | value, c :: rest =>
    let next := value * 10 + digitValue c
    if next < Word.count 64 then takeWord next rest else (value, c :: rest)

/-- The nearest number of 53 significant bits, ties going to the even one. -/
def roundTo53 (value : Nat) : Nat :=
  let excess := value.log2 + 1 - 53
  let unit := Word.count excess
  let quotient := value / unit
  let rest := value % unit
  if 2 * rest > unit ∨ (2 * rest = unit ∧ quotient % 2 = 1) then (quotient + 1) * unit
  else quotient * unit

/-- The significant digits that are kept, as a number, and the power of ten they are multiplied
with. -/
def scaled (numeral : Numeral) : Nat × Int :=
  let (head, dropped) := takeWord 0 numeral.whole
  let (significand, unused) :=
    if dropped = [] then takeWord head numeral.fraction else (head, numeral.fraction)
  let power : Int := match numeral.exponent with
    | none => 0
    | some (true, digits) => -(natOfDigits digits : Int)
    | some (false, digits) => natOfDigits digits
  (significand, power + dropped.length - (numeral.fraction.length - unused.length : Nat))

/-- The least number that no longer rounds to a finite one. -/
def overflowBound : Nat := Word.count 1024 - Word.count 970

/-- Whether the number, computed from its kept digits, is finite. -/
def isFinite (numeral : Numeral) : Bool :=
  match numeral.scaled with
  | (significand, .ofNat power) =>
    if significand = 0 then true
    else if power ≤ 308 then roundTo53 significand * roundTo53 (Nat.pow 10 power) < overflowBound
    else false
  | _ => true

/-- The number as an integer, if it is written as one and fits 64 bits with or without a sign. A
negative zero is no integer. -/
def integer? (numeral : Numeral) : Option Int :=
  if numeral.fraction ≠ [] ∨ numeral.exponent ≠ none then none
  else
    let size := natOfDigits numeral.whole
    if numeral.isNegative then
      if size = 0 ∨ Word.count 63 < size then none else some (-(size : Int))
    else if size < Word.count 64 then some size else none

/-- The value of the number; none if it is too large. -/
def value? (numeral : Numeral) : Option Data :=
  match numeral.integer? with
  | some value => some (.integer value)
  | none => if numeral.isFinite then some (.decimal numeral.text) else none

end Numeral

end FormatServer.Json
