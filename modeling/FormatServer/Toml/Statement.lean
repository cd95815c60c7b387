import FormatServer.Toml.Scalar
import FormatServer.Toml.Text

/-!
The statements of a TOML document, in order: pairs of a key and a value, and the headers that say
which table the pairs after them belong to.
-/

namespace FormatServer.Toml

inductive Value where
  | text (value : String)
  | scalar (value : Scalar)
  | list (items : List Value)
  | table (pairs : List (List String × Value))
  deriving Inhabited

inductive Statement where
  | pair (key : List String) (value : Value)
  /-- The header of a table. -/
  | table (key : List String)
  /-- The header of one more table of a list of tables. -/
  | element (key : List String)

namespace Value

/-- The characters that end a bare word. -/
def endsWord (c : Char) : Bool :=
  isSpace c || c = '\n' || c = '\r' || c = ',' || c = ']' || c = '[' || c = '{' || c = '}' ||
    c = '#' || c = '='

/-- Reads a bare word; a date takes a time after one space with it. -/
def readWord (chars : List Char) : List Char × List Char :=
  let word := chars.takeWhile fun c => !endsWord c
  match chars.drop word.length with
  | ' ' :: c :: rest =>
    if Scalar.isDate word && c.isDigit then
      let time := (c :: rest).takeWhile fun c => !endsWord c
      (word ++ ' ' :: time, (c :: rest).drop time.length)
    else (word, ' ' :: c :: rest)
  | rest => (word, rest)

/-- The most lists and tables that may stand inside each other in one value. -/
def maxDepth : Nat := 80

mutual

/-- Reads a value in which at most `depth` lists and tables stand inside each other. -/
def read (depth : Nat) : Nat → Reader Value
  | 0, _ => none
  | fuel + 1, chars =>
    match chars with
    | '[' :: rest =>
      match depth with
      | 0 => none
      | depth + 1 => (readItems depth fuel rest).map fun (items, rest) => (.list items, rest)
    | '{' :: rest =>
      match depth with
      | 0 => none
      | depth + 1 => (readPairs depth fuel rest).map fun (pairs, rest) => (.table pairs, rest)
    | c :: rest =>
      if c = '"' ∨ c = '\'' then
        (readString (fuel + 1) (c :: rest)).map fun (content, rest) => (.text content, rest)
      else do
        let (word, rest) := readWord (c :: rest)
        let found ← Scalar.read? word
        some (.scalar found, rest)
    | [] => none

/-- Reads the values of a list to its closing bracket. -/
def readItems (depth : Nat) : Nat → Reader (List Value)
  | 0, _ => none
  | fuel + 1, chars => do
    match ← skipLines? fuel chars with
    | ']' :: rest => some ([], rest)
    | rest => do
      let (item, rest) ← read depth fuel rest
      match ← skipLines? fuel rest with
      | ',' :: rest => do
        let (items, rest) ← readItems depth fuel rest
        some (item :: items, rest)
      | ']' :: rest => some ([item], rest)
      | _ => none

/-- Reads the pairs of a table to its closing brace. Newlines and comments may stand wherever blank
space may, except within a key. -/
def readPairs (depth : Nat) : Nat → Reader (List (List String × Value))
  | 0, _ => none
  | fuel + 1, chars => do
    match ← skipLines? fuel chars with
    | '}' :: rest => some ([], rest)
    | rest => do
      let (key, rest) ← readKey fuel rest
      match ← skipLines? fuel rest with
      | '=' :: rest => do
        let (value, rest) ← read depth fuel (← skipLines? fuel rest)
        match ← skipLines? fuel rest with
        | ',' :: rest => do
          let (pairs, rest) ← readPairs depth fuel rest
          some ((key, value) :: pairs, rest)
        | '}' :: rest => some ([(key, value)], rest)
        | _ => none
      | _ => none

end

end Value

namespace Statement

/-- Reads one statement that the characters start with. -/
def read (fuel : Nat) : Reader Statement
  | '[' :: '[' :: rest => do
    let (key, rest) ← readKey fuel rest
    match rest with
    | ']' :: ']' :: rest => some (.element key, rest)
    | _ => none
  | '[' :: rest => do
    let (key, rest) ← readKey fuel rest
    match rest with
    | ']' :: rest => some (.table key, rest)
    | _ => none
  | chars => do
    let (key, rest) ← readKey fuel chars
    match rest with
    | '=' :: rest => do
      let (value, rest) ← Value.read Value.maxDepth fuel (skipSpace rest)
      some (.pair key value, rest)
    | _ => none

/-- Reads statements, one a line, to the end. -/
def readAll : Nat → List Char → Option (List Statement)
  | 0, _ => none
  | fuel + 1, chars => do
    match ← skipLines? (fuel + 1) chars with
    | [] => some []
    | rest => do
      let (statement, rest) ← read (fuel + 1) rest
      let rest ← skipComment? (skipSpace rest)
      let others ← match rest with
        | [] => some []
        | rest =>
          match afterNewline? rest with
          | some rest => readAll fuel rest
          | none => none
      some (statement :: others)

/-- The statements of a text; a byte order mark at its start does not count. -/
def ofText? (text : String) : Option (List Statement) :=
  let chars := match text.toList with
    | '\uFEFF' :: rest => rest
    | chars => chars
  readAll (2 * chars.length + 2) chars

end Statement

end FormatServer.Toml
