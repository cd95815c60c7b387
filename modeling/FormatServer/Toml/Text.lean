import FormatServer.Json.Tree
import FormatServer.Text.Scalar

/-!
The strings, keys, comments and blank space of a TOML document. Every reader takes the characters
that are left and gives what it read with the characters after it.
-/

namespace FormatServer.Toml

abbrev Reader (α : Type) := List Char → Option (α × List Char)

def isSpace (c : Char) : Bool :=
  c = ' ' || c = '\t'

def skipSpace (chars : List Char) : List Char :=
  chars.dropWhile isSpace

/-- Whether the character may not stand in a comment or string as it is. -/
def isControl (c : Char) : Bool :=
  (c.toNat < 0x20 && c ≠ '\t') || c.toNat = 0x7F

/-- What follows a newline that the characters start with. -/
def afterNewline? : List Char → Option (List Char)
  | '\n' :: rest => some rest
  | '\r' :: '\n' :: rest => some rest
  | _ => none

/-- Skips a comment, if there is one, up to the newline; none if it holds a control character. -/
def skipComment? : List Char → Option (List Char)
  | '#' :: rest =>
    let after := rest.dropWhile fun c => !isControl c
    if after = [] ∨ (afterNewline? after).isSome then some after else none
  | chars => some chars

/-- Skips blank space, comments and newlines. -/
def skipLines? : Nat → List Char → Option (List Char)
  | 0, chars => some chars
  | fuel + 1, chars => do
    let rest ← skipComment? (skipSpace chars)
    match afterNewline? rest with
    | some rest => skipLines? fuel rest
    | none => some rest

/-- Reads an escape's character after the backslash and the mark that announces digits. -/
def readCode (count : Nat) : Reader Char := fun chars => do
  let digits := chars.take count
  if digits.length < count then none
  else do
    let code ← Json.hexNumber? digits
    let c ← scalar? code
    some (c, chars.drop count)

/-- Reads an escape after its backslash. -/
def readEscape : Reader Char
  | 'b' :: rest => some ('\x08', rest)
  | 't' :: rest => some ('\t', rest)
  | 'n' :: rest => some ('\n', rest)
  | 'f' :: rest => some ('\x0c', rest)
  | 'r' :: rest => some ('\r', rest)
  | 'e' :: rest => some ('\x1b', rest)
  | '"' :: rest => some ('"', rest)
  | '\\' :: rest => some ('\\', rest)
  | 'x' :: rest => readCode 2 rest
  | 'u' :: rest => readCode 4 rest
  | 'U' :: rest => readCode 8 rest
  | _ => none

/-- Reads a string in double quotes after the first of them. -/
def readBasic : Nat → Reader (List Char)
  | 0, _ => none
  | _, [] => none
  | _ + 1, '"' :: rest => some ([], rest)
  | fuel + 1, '\\' :: rest => do
    let (c, rest) ← readEscape rest
    let (text, rest) ← readBasic fuel rest
    some (c :: text, rest)
  | fuel + 1, c :: rest =>
    if isControl c then none
    else do
      let (text, rest) ← readBasic fuel rest
      some (c :: text, rest)

/-- Reads a string in single quotes after the first of them. -/
def readLiteral (chars : List Char) : Option (List Char × List Char) :=
  let text := chars.takeWhile fun c => !isControl c && c ≠ '\''
  match chars.drop text.length with
  | '\'' :: rest => some (text, rest)
  | _ => none

/-- The quotes that end a string of several lines: three, after at most two that belong to it. -/
def closing? (quote : Char) (chars : List Char) : Option (List Char × List Char) :=
  let run := (chars.takeWhile (· = quote)).length
  if run < 3 then none
  else
    let inner := min (run - 3) 2
    some (List.replicate inner quote, chars.drop (inner + 3))

/-- Skips blank space and newlines after a backslash at a line's end. -/
def skipBreak : Nat → List Char → List Char
  | 0, chars => chars
  | fuel + 1, chars =>
    let rest := skipSpace chars
    match afterNewline? rest with
    | some rest => skipBreak fuel rest
    | none => rest

/-- Reads a string of several lines after its opening quotes; escapes count only in double
quotes. -/
def readLong (quote : Char) : Nat → Reader (List Char)
  | 0, _ => none
  | _, [] => none
  | fuel + 1, c :: rest =>
    if c = quote then
      match closing? quote (c :: rest) with
      | some found => some found
      | none => do
        let (text, rest) ← readLong quote fuel rest
        some (c :: text, rest)
    else if c = '\\' ∧ quote = '"' then
      match afterNewline? (skipSpace rest) with
      | some rest => readLong quote fuel (skipBreak fuel rest)
      | none => do
        let (escaped, rest) ← readEscape rest
        let (text, rest) ← readLong quote fuel rest
        some (escaped :: text, rest)
    else if isControl c then
      match afterNewline? (c :: rest) with
      | some after => do
        let (text, rest) ← readLong quote fuel after
        some ((if c = '\r' then ['\r', '\n'] else ['\n']) ++ text, rest)
      | none => none
    else do
      let (text, rest) ← readLong quote fuel rest
      some (c :: text, rest)

/-- A newline right after the opening quotes does not count. -/
def skipFirstNewline (chars : List Char) : List Char :=
  (afterNewline? chars).getD chars

/-- Reads a string that the characters start with. -/
def readString (fuel : Nat) : Reader String
  | '"' :: '"' :: '"' :: rest =>
    (readLong '"' fuel (skipFirstNewline rest)).map fun (text, rest) => (String.ofList text, rest)
  | '\'' :: '\'' :: '\'' :: rest =>
    (readLong '\'' fuel (skipFirstNewline rest)).map fun (text, rest) => (String.ofList text, rest)
  | '"' :: rest => (readBasic fuel rest).map fun (text, rest) => (String.ofList text, rest)
  | '\'' :: rest => (readLiteral rest).map fun (text, rest) => (String.ofList text, rest)
  | _ => none

def isBare (c : Char) : Bool :=
  c.isAlphanum || c = '_' || c = '-'

/-- Reads one part of a key; a quoted part stands on one line. -/
def readKeyPart (fuel : Nat) : Reader String
  | '"' :: rest => (readBasic fuel rest).map fun (text, rest) => (String.ofList text, rest)
  | '\'' :: rest => (readLiteral rest).map fun (text, rest) => (String.ofList text, rest)
  | chars =>
    match chars.takeWhile isBare with
    | [] => none
    | text => some (String.ofList text, chars.drop text.length)

/-- Reads the parts of a key, which dots part, and the blank space after it. -/
def readKeyParts : Nat → Reader (List String)
  | 0, _ => none
  | fuel + 1, chars => do
    let (part, rest) ← readKeyPart (fuel + 1) (skipSpace chars)
    match skipSpace rest with
    | '.' :: rest => do
      let (parts, rest) ← readKeyParts fuel rest
      some (part :: parts, rest)
    | rest => some ([part], rest)

/-- The most parts that a key may have. -/
def maxKeyParts : Nat := 80

/-- Reads a key and the blank space after it. -/
def readKey (fuel : Nat) : Reader (List String) := fun chars => do
  let (parts, rest) ← readKeyParts fuel chars
  if parts.length ≤ maxKeyParts then some (parts, rest) else none

end FormatServer.Toml
