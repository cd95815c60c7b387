import FormatServer.Unicode.CombiningClass
import FormatServer.Unicode.Composition

/-!
Texts in Unicode's normal form C: characters are composed as far as they can be, and marks of
different classes stand in the order of their classes.
-/

namespace FormatServer.Unicode

/-! ### The syllables of Hangul -/

namespace Hangul

def base : Nat := 0xAC00
def leadBase : Nat := 0x1100
def vowelBase : Nat := 0x1161
def tailBase : Nat := 0x11A7
def leadCount : Nat := 19
def vowelCount : Nat := 21
/-- One more than there are consonants at the end, as a syllable may have none. -/
def tailCount : Nat := 28

/-- The number of a syllable among all of them. -/
def index? (c : Char) : Option Nat :=
  if base ≤ c.toNat ∧ c.toNat < base + leadCount * vowelCount * tailCount then
    some (c.toNat - base)
  else none

/-- The letters of a syllable. -/
def letters (index : Nat) : List Char :=
  let tail := index % tailCount
  [Char.ofNat (leadBase + index / (vowelCount * tailCount)),
    Char.ofNat (vowelBase + index / tailCount % vowelCount)] ++
    if tail = 0 then [] else [Char.ofNat (tailBase + tail)]

/-- A lead and a vowel, or a syllable without an end and its end, as one syllable. -/
def join? (first second : Char) : Option Char :=
  let lead := first.toNat - leadBase
  let vowel := second.toNat - vowelBase
  let tail := second.toNat - tailBase
  if leadBase ≤ first.toNat ∧ lead < leadCount ∧ vowelBase ≤ second.toNat ∧
      vowel < vowelCount then
    some (Char.ofNat (base + (lead * vowelCount + vowel) * tailCount))
  else
    match index? first with
    | some index =>
      if index % tailCount = 0 ∧ tailBase < second.toNat ∧ tail < tailCount then
        some (Char.ofNat (first.toNat + tail))
      else none
    | none => none

end Hangul

/-! ### Decomposition -/

/-- The most compositions that lie inside each other. -/
def maxCompositions : Nat := 3

/-- The characters that a character is composed of, with at most so many compositions inside each
other. -/
def parts : Nat → Char → List Char
  | 0, c => [c]
  | depth + 1, c =>
    match Hangul.index? c with
    | some index => Hangul.letters index
    | none =>
      match compositions.find? fun composition => composition.whole = c with
      | some composition => parts depth composition.first ++ [composition.second]
      | none => [c]

/-- Puts a character before a text whose marks are in order, behind the marks of lower classes. -/
def place (c : Char) : List Char → List Char
  | [] => [c]
  | next :: rest =>
    if 0 < combiningClass next ∧ combiningClass next < combiningClass c then next :: place c rest
    else c :: next :: rest

/-- The text with all characters taken apart and the marks in the order of their classes. -/
def decomposed (chars : List Char) : List Char :=
  (chars.flatMap (parts maxCompositions)).foldr place []

/-! ### Composition -/

def compose? (first second : Char) : Option Char :=
  match Hangul.join? first second with
  | some syllable => some syllable
  | none =>
    (compositions.find? fun composition =>
      composition.first = first ∧ composition.second = second).map Composition.whole

/-- Composes a character with those after it that no other one bars. The marks kept since are listed
from the last. -/
def composeFrom (start : Char) (marks : List Char) : List Char → List Char
  | [] => start :: marks.reverse
  | c :: rest =>
    let isBarred := match marks with
      | [] => false
      | mark :: _ => combiningClass c ≤ combiningClass mark
    match if isBarred then none else compose? start c with
    | some whole => composeFrom whole marks rest
    | none =>
      if combiningClass c = 0 then start :: marks.reverse ++ composeFrom c [] rest
      else composeFrom start (c :: marks) rest

def composed : List Char → List Char
  | [] => []
  | first :: rest => composeFrom first [] rest

/-- The text in normal form. -/
def normal (chars : List Char) : List Char :=
  if Text.isAscii chars then chars else composed (decomposed chars)

end FormatServer.Unicode
