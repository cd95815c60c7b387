import FormatServer.Unicode.Direction
import FormatServer.Unicode.Joining
import FormatServer.Unicode.Normal
import FormatServer.Url.DomainMapping
import FormatServer.Url.Punycode

/-!
Domains in ASCII. A domain is first written with what its characters stand for, in normal form.
Then each of its labels must be one that can be told from all others, and is written in ASCII.
-/

namespace FormatServer.Domain

/-- Whether no domain may have the character. -/
def isForbidden (c : Char) : Bool :=
  c.toNat ≤ 0x20 || c.toNat = 0x7F ||
    ['#', '%', '/', ':', '<', '>', '?', '@', '[', '\\', ']', '^', '|'].contains c

/-- The characters of a domain replaced by what they stand for. -/
def mapped? (chars : List Char) : Option (List Char) :=
  (chars.mapM Host.meaning?).map fun meanings => Unicode.normal meanings.flatten

/-! ### Labels -/

/-- What a label in ASCII starts with that stands for one of other characters. -/
def encodedMark : List Char := "xn--".toList

/-- The most characters of a label that is to be encoded. -/
def maxLabel : Nat := 1000

/-- The most characters of the encoded part of a label. -/
def maxEncoded : Nat := 2000

/-- The label that an encoded one stands for, which must be one that would be encoded so. -/
def decode? (encoded : List Char) : Option (List Char) :=
  if encoded.getLast? = some '-' ∨ maxEncoded < encoded.length then none
  else do
    let label ← Punycode.decode? encoded
    if Text.isAscii label ∨ !label.all Host.isPlainChar ∨ Unicode.normal label ≠ label then none
    else some label

/-- The label that the characters of a domain's part stand for. -/
def label? (part : List Char) : Option (List Char) :=
  if encodedMark.isPrefixOf part then decode? (part.drop encodedMark.length) else some part

def asciiLabel (label : List Char) : List Char :=
  if Text.isAscii label then label else encodedMark ++ Punycode.encode label

/-! ### Joiners -/

/-- Whether a joiner stands in its place: behind the sign of a silenced vowel or, for one that keeps
apart, between letters that would join. What stands before it is listed from the last. -/
def isJoinerInPlace (joiner : Char) (before after : List Char) : Bool :=
  let joins := fun (side : Unicode.Joining → Bool) (chars : List Char) =>
    match chars.dropWhile fun c => Unicode.joining c = .transparent with
    | [] => false
    | c :: _ => side (Unicode.joining c)
  match before with
  | [] => false
  | previous :: _ =>
    Unicode.isVirama previous ||
      (joiner = '\u200C' && joins Unicode.Joining.joinsLeft before &&
        joins Unicode.Joining.joinsRight after)

/-- Whether all joiners of a label stand in their place. -/
def areJoinersInPlace (before : List Char) : List Char → Bool
  | [] => true
  | c :: rest =>
    ((c ≠ '\u200C' && c ≠ '\u200D') || isJoinerInPlace c before rest) &&
      areJoinersInPlace (c :: before) rest

/-- Whether a label can be part of a domain. -/
def isLabel (label : List Char) : Bool :=
  !(label.head?.any Unicode.isMark) && areJoinersInPlace [] label &&
    (Text.isAscii label || label.length ≤ maxLabel)

/-! ### Directions -/

/-- The directions of a label after its first character, up to the last that is no mark. -/
def inner (rest : List Char) : List Unicode.Direction :=
  ((rest.map Unicode.direction).reverse.dropWhile (· = .mark)).reverse

/-- Whether the characters of a label keep their order beside labels of the other direction. -/
def keepsOrder : List Char → Bool
  | [] => true
  | first :: rest =>
    let directions := inner rest
    let among := fun options : List Unicode.Direction =>
      directions.all options.contains
    let ends := fun options : List Unicode.Direction =>
      directions.getLast?.all options.contains
    match Unicode.direction first with
    | .left => ends [.left, .europeanNumber] && among [.left, .europeanNumber, .mark, .neutral]
    | .right =>
      ends [.right, .arabicNumber, .europeanNumber] &&
        among [.right, .arabicNumber, .europeanNumber, .mark, .neutral] &&
        !(directions.contains .europeanNumber && directions.contains .arabicNumber)
    | _ => false

/-- Whether any character of the label is written from right to left. -/
def runsLeft (label : List Char) : Bool :=
  label.any fun c => Unicode.direction c = .right || Unicode.direction c = .arabicNumber

/-! ### Domains -/

/-- The domain in ASCII. -/
def ascii? (domain : List Char) : Option (List Char) := do
  let chars ← mapped? domain
  if chars.any isForbidden then none
  else do
    let labels ← (Text.split '.' chars).mapM label?
    if labels.all isLabel ∧ (labels.any runsLeft → labels.all keepsOrder) then
      some (List.intercalate ['.'] (labels.map asciiLabel))
    else none

end FormatServer.Domain
