import FormatServer.Text.Scalar

/-!
Labels of any characters written with letters, digits and hyphens. The ASCII characters of a label
come first; the others follow in the order of their code points, each as the number of places that
were passed over since the one before it.
-/

namespace FormatServer.Punycode

/-! ### Digits -/

def digit (value : Nat) : Char :=
  if value < 26 then Char.ofNat ('a'.toNat + value) else Char.ofNat ('0'.toNat + (value - 26))

/-- The value of a small letter or a digit. -/
def digitValue? (c : Char) : Option Nat :=
  if 'a' ≤ c ∧ c ≤ 'z' then some (c.toNat - 'a'.toNat)
  else if c.isDigit then some (c.toNat - '0'.toNat + 26)
  else none

def shrink : Nat → Nat → Nat → Nat
  | 0, delta, steps => steps + 36 * delta / (delta + 38)
  | fuel + 1, delta, steps =>
    if delta > 455 then shrink fuel (delta / 35) (steps + 36)
    else steps + 36 * delta / (delta + 38)

/-- The bias after a number. -/
def adapt (delta count : Nat) (isFirst : Bool) : Nat :=
  let start := if isFirst then delta / 700 else delta / 2
  shrink 64 (start + start / count) 0

/-- The least value of a digit after which a number goes on. -/
def threshold (position bias : Nat) : Nat :=
  if position ≤ bias then 1 else if bias + 26 ≤ position then 26 else position - bias

/-! ### Writing -/

/-- The digits of a number whose bases vary with the bias. -/
def number : Nat → Nat → Nat → Nat → List Char
  | 0, _, _, _ => []
  | fuel + 1, value, position, bias =>
    let limit := threshold position bias
    if value < limit then [digit value]
    else
      digit (limit + (value - limit) % (36 - limit)) ::
        number fuel ((value - limit) / (36 - limit)) (position + 36) bias

structure Writing where
  delta : Nat
  bias : Nat
  handled : Nat
  isFirst : Bool
  output : List Char

/-- Takes up one code point of the label in a round for `code`. -/
def visit (code : Nat) (state : Writing) (c : Char) : Writing :=
  if c.toNat < code then { state with delta := state.delta + 1 }
  else if c.toNat = code then
    { delta := 0
      bias := adapt state.delta (state.handled + 1) state.isFirst
      handled := state.handled + 1
      isFirst := false
      output := state.output ++ number 64 state.delta 36 state.bias }
  else state

def rounds (label : List Char) : List Nat → Nat → Writing → Writing
  | [], _, state => state
  | code :: rest, previous, state =>
    let start := { state with delta := state.delta + (code - previous) * (state.handled + 1) }
    let state := label.foldl (visit code) start
    rounds label rest (code + 1) { state with delta := state.delta + 1 }

/-- The label in letters, digits and hyphens. -/
def encode (label : List Char) : List Char :=
  let basic := label.filter (·.toNat < 0x80)
  let codes := ((label.map Char.toNat).filter (0x80 ≤ ·)).mergeSort.eraseDups
  let start := if basic = [] then [] else basic ++ ['-']
  (rounds label codes 0x80 ⟨0, 72, basic.length, true, start⟩).output

/-! ### Reading -/

structure Reading where
  /-- The label without the characters that are still to be read. -/
  output : List Char
  code : Nat
  /-- The place of the character before, and of the one after it. -/
  start : Nat
  place : Nat
  bias : Nat
  weight : Nat
  position : Nat

/-- Reads the digits of the characters that are not ASCII. -/
def readFrom : List Char → Reading → Option (List Char)
  | [], state => if state.position = 36 then some state.output else none
  | c :: rest, state => do
    let value ← digitValue? c
    let place := state.place + value * state.weight
    let limit := threshold state.position state.bias
    if value < limit then
      let count := state.output.length + 1
      let code := state.code + place / count
      let next ← scalar? code
      let after := place % count + 1
      readFrom rest {
        output := state.output.take (place % count) ++ next :: state.output.drop (place % count)
        code
        start := after
        place := after
        bias := adapt (place - state.start) count (state.start = 0)
        weight := 1
        position := 36 }
    else
      readFrom rest { state with
        place
        weight := state.weight * (36 - limit)
        position := state.position + 36 }

/-- The ASCII characters before the last hyphen and the digits after it. A hyphen that comes first
is no such mark. -/
def splitLast (chars : List Char) : List Char × List Char :=
  let digits := (chars.reverse.takeWhile (· ≠ '-')).reverse
  let basic := (chars.take (chars.length - digits.length)).dropLast
  if basic = [] then ([], chars) else (basic, digits)

/-- The label that the letters, digits and hyphens write. -/
def decode? (chars : List Char) : Option (List Char) :=
  let (basic, digits) := splitLast chars
  readFrom digits ⟨basic, 0x80, 0, 0, 72, 1, 36⟩

end FormatServer.Punycode
