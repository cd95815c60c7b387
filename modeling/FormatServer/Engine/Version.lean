import FormatServer.Data.Word
import FormatServer.Text.Blank

/-!
Versions of the engine.
-/

namespace FormatServer

structure Version where
  major : Nat
  minor : Nat
  patch : Nat
  deriving DecidableEq

namespace Version

/-- The oldest version whose arguments and options are known. -/
def oldest : Version :=
  ⟨1, 13, 0⟩

def isBefore (first second : Version) : Bool :=
  first.major < second.major ||
    (first.major = second.major &&
      (first.minor < second.minor ||
        (first.minor = second.minor && first.patch < second.patch)))

def isOutdated (version : Version) : Bool :=
  version.isBefore oldest

def text (version : Version) : String :=
  toString version.major ++ "." ++ toString version.minor ++ "." ++ toString version.patch

/-- The number that the characters write, if they are digits and it fits 64 bits. -/
def number? (chars : List Char) : Option Nat :=
  if chars.isEmpty || !chars.all Char.isDigit then none
  else
    let value := chars.foldl (fun value c => value * 10 + (c.toNat - '0'.toNat)) 0
    if value < Word.count 64 then some value else none

def splitDots : List Char → List (List Char)
  | [] => [[]]
  | c :: rest =>
    if c = '.' then [] :: splitDots rest
    else match splitDots rest with
      | [] => [[c]]
      | first :: more => (c :: first) :: more

def withoutMark : List Char → List Char
  | 'v' :: rest => rest
  | chars => chars

/-- The version in front of a release or build mark. A missing or unreadable part after the first
counts as zero. -/
def parse? (raw : String) : Option Version :=
  let core := (withoutMark (Text.trim raw).toList).takeWhile fun c => c ≠ '-' && c ≠ '+'
  match (splitDots core).map number? with
  | some major :: rest =>
    let part := fun index : Nat => (rest[index]?.join).getD 0
    some ⟨major, part 0, part 1⟩
  | _ => none

end Version

end FormatServer
