import FormatServer.Json.Numeral
import FormatServer.Json.Tree

/-!
Numbers, truth values, dates and times of a TOML document.
-/

namespace FormatServer.Toml

inductive Scalar where
  | bool (value : Bool)
  | integer (value : Int)
  | decimal (literal : String)
  | moment (literal : String)
  deriving DecidableEq

namespace Scalar

/-- The digits of a number in which an underscore may stand between two of them. -/
def digits? (isDigit : Char → Bool) : List Char → Option (List Char)
  | [] => none
  | [c] => if isDigit c then some [c] else none
  | c :: '_' :: rest => if isDigit c then (digits? isDigit rest).map (c :: ·) else none
  | c :: rest => if isDigit c then (digits? isDigit rest).map (c :: ·) else none

/-- The digits of a whole number, which starts with a zero only if it is zero. -/
def whole? (chars : List Char) : Option (List Char) :=
  match digits? Char.isDigit chars with
  | some ('0' :: _ :: _) => none
  | found => found

def unsigned : List Char → List Char
  | '+' :: rest => rest
  | '-' :: rest => rest
  | chars => chars

/-- The number written in a base of its own. -/
def based? (base : Nat) (chars : List Char) : Option Int := do
  let digits ← digits? (fun c => (Json.hexValue? c).any (· < base)) chars
  let values ← digits.mapM Json.hexValue?
  some (Int.ofNat (values.foldl (fun total value => total * base + value) 0))

def integer? : List Char → Option Int
  | '0' :: 'x' :: rest => based? 16 rest
  | '0' :: 'o' :: rest => based? 8 rest
  | '0' :: 'b' :: rest => based? 2 rest
  | chars => do
    let digits ← whole? (unsigned chars)
    let size : Int := Json.natOfDigits digits
    some (if chars.head? = some '-' then -size else size)

/-- What stands from the letter of an exponent on, if it is one. -/
def exponent? : List Char → Option (Option (Bool × List Char))
  | [] => some none
  | _ :: power =>
    (digits? Char.isDigit (unsigned power)).map fun digits =>
      some (decide (power.head? = some '-'), digits)

/-- A number with a fraction, an exponent or both, of which it has at least one. -/
def numeral? (chars : List Char) : Option Json.Numeral := do
  let isNegative := chars.head? = some '-'
  let body := unsigned chars
  let isPower := fun c : Char => c = 'e' || c = 'E'
  let mantissa := body.takeWhile fun c => !isPower c
  let power := body.dropWhile fun c => !isPower c
  let exponent ← exponent? power
  let whole ← whole? (mantissa.takeWhile (· ≠ '.'))
  match mantissa.dropWhile (· ≠ '.') with
  | [] => if exponent.isNone then none else some ⟨isNegative, whole, [], exponent⟩
  | _ :: fraction => do
    let fraction ← digits? Char.isDigit fraction
    some ⟨isNegative, whole, fraction, exponent⟩

/-- Whether the number rounds to a finite one. -/
def isFinite (numeral : Json.Numeral) : Bool :=
  let significand := Json.natOfDigits (numeral.whole ++ numeral.fraction)
  let power : Int := match numeral.exponent with
    | none => 0
    | some (true, digits) => -(Json.natOfDigits digits : Int)
    | some (false, digits) => Json.natOfDigits digits
  let scale := power - numeral.fraction.length
  if significand = 0 then true
  else if scale > 400 then false
  else if scale ≥ 0 then significand * Nat.pow 10 scale.toNat < Json.Numeral.overflowBound
  else if scale < -5000 then true
  else significand < Json.Numeral.overflowBound * Nat.pow 10 (-scale).toNat

def number? (chars : List Char) : Option Nat :=
  if chars ≠ [] ∧ chars.all Char.isDigit then some (Json.natOfDigits chars) else none

def isLeap (year : Nat) : Bool :=
  (year % 4 = 0 && year % 100 ≠ 0) || year % 400 = 0

def daysIn (year month : Nat) : Nat :=
  if month = 2 then (if isLeap year then 29 else 28)
  else if month = 4 ∨ month = 6 ∨ month = 9 ∨ month = 11 then 30 else 31

/-- Whether the characters are a date: year, month and day. -/
def isDate : List Char → Bool
  | [y1, y2, y3, y4, '-', m1, m2, '-', d1, d2] =>
    match number? [y1, y2, y3, y4], number? [m1, m2], number? [d1, d2] with
    | some year, some month, some day =>
      1 ≤ month && month ≤ 12 && 1 ≤ day && day ≤ daysIn year month
    | _, _, _ => false
  | _ => false

/-- Whether the characters are hours and minutes. -/
def isHourMinute : List Char → Bool
  | [h1, h2, ':', m1, m2] =>
    match number? [h1, h2], number? [m1, m2] with
    | some hour, some minute => hour ≤ 23 && minute ≤ 59
    | _, _ => false
  | _ => false

/-- Whether the characters are seconds, with or without a fraction of one. -/
def isSeconds : List Char → Bool
  | s1 :: s2 :: fraction =>
    (number? [s1, s2]).any (· ≤ 60) &&
      match fraction with
      | [] => true
      | '.' :: digits => (number? digits).isSome
      | _ => false
  | _ => false

/-- Whether the characters are a time of day; its seconds may be left out. -/
def isTime (chars : List Char) : Bool :=
  isHourMinute (chars.take 5) &&
    match chars.drop 5 with
    | [] => true
    | ':' :: seconds => isSeconds seconds
    | _ => false

/-- Whether the characters are a distance from universal time. -/
def isOffset : List Char → Bool
  | ['Z'] => true
  | ['z'] => true
  | '+' :: rest => isHourMinute rest
  | '-' :: rest => isHourMinute rest
  | _ => false

def isMoment (chars : List Char) : Bool :=
  if isTime chars || isDate chars then true
  else
    isDate (chars.take 10) &&
      match chars.drop 10 with
      | mark :: rest =>
        let isMark := fun c : Char => c = 'Z' || c = 'z' || c = '+' || c = '-'
        let time := rest.takeWhile fun c => !isMark c
        let offset := rest.dropWhile fun c => !isMark c
        (mark = 'T' || mark = 't' || mark = ' ') && isTime time && (offset = [] || isOffset offset)
      | [] => false

/-- Whether the integer can be read at all. -/
def isReadable (value : Int) : Bool :=
  Word.fitsSigned 128 value || Word.fits 128 value

/-- The value of a bare word. -/
def read? (chars : List Char) : Option Scalar :=
  if chars = "true".toList then some (.bool true)
  else if chars = "false".toList then some (.bool false)
  else if unsigned chars = "inf".toList ∨ unsigned chars = "nan".toList then
    some (.decimal (String.ofList chars))
  else match integer? chars with
    | some value => if isReadable value then some (.integer value) else none
    | none =>
      match numeral? chars with
      | some numeral => if isFinite numeral then some (.decimal numeral.text) else none
      | none => if isMoment chars then some (.moment (String.ofList chars)) else none

end Scalar

end FormatServer.Toml
