import FormatServer.Json.Tree
import FormatServer.Text.Scalar

/-!
Properties of Unicode's characters as tables. A table is written as lines of words: the code points
that a row is about in hexadecimal, from the first to the last, and after a colon what the row says
of them.
-/

namespace FormatServer.Unicode

structure Row where
  first : Nat
  last : Nat
  /-- The distance of one code point of the row from the next. -/
  step : Nat
  note : List Char
  deriving DecidableEq

namespace Row

/-- The number that hexadecimal digits write. -/
def number (digits : List Char) : Nat :=
  (Json.hexNumber? digits).getD 0

/-- The numbers that dots part. -/
def sequence (text : List Char) : List Nat :=
  (Text.split '.' text).map number

/-- Reads a word such as `41-5A:61` or, for every second code point, `100-12E/2:101`. -/
def ofWord (word : List Char) : Row :=
  let codes := word.takeWhile (· ≠ ':')
  let span := codes.takeWhile (· ≠ '/')
  let first := span.takeWhile (· ≠ '-')
  let last := (span.drop first.length).drop 1
  { first := number first
    last := if last = [] then number first else number last
    step := if span.length < codes.length then 2 else 1
    note := (word.drop codes.length).drop 1 }

def contains (row : Row) (code : Nat) : Bool :=
  row.first ≤ code && code ≤ row.last && (code - row.first) % row.step = 0

end Row

abbrev Table := List Row

namespace Table

def ofLines (lines : List String) : Table :=
  lines.flatMap fun line => (Text.split ' ' line.toList).map Row.ofWord

/-- The row about the character. -/
def find? (table : Table) (c : Char) : Option Row :=
  List.find? (fun row => row.contains c.toNat) table

def contains (table : Table) (c : Char) : Bool :=
  (table.find? c).isSome

end Table

end FormatServer.Unicode
