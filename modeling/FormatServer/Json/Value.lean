import FormatServer.Json.Tree

/-!
The value of a JSON text: its tree with every string and number taken at its value.
-/

namespace FormatServer.Json

inductive Error where
  | malformed
  | tooDeep
  | numberTooLarge
  | halfPair
  deriving DecidableEq

namespace Error

def message : Error → String
  | malformed => "not a JSON value"
  | tooDeep => "recursion limit exceeded"
  | numberTooLarge => "number out of range"
  | halfPair => "lone surrogate in a string"

end Error

/-- The most lists and records that may stand inside each other. -/
def maxDepth : Nat := 127

/-- Sets a field; a key that is already there keeps its place and gets the new value. -/
def setField (key : String) (value : Data) : List (String × Data) → List (String × Data)
  | [] => [(key, value)]
  | (other, old) :: rest =>
    if other = key then (key, value) :: rest else (other, old) :: setField key value rest

namespace Tree

mutual

/-- The value of a tree in which at most `depth` lists and records stand inside each other. -/
def value (depth : Nat) : Tree → Except Error Data
  | null => .ok .null
  | bool value => .ok (.bool value)
  | number numeral =>
    match numeral.value? with
    | some value => .ok value
    | none => .error .numberTooLarge
  | text (some value) => .ok (.text value)
  | text none => .error .halfPair
  | list items =>
    match depth with
    | 0 => .error .tooDeep
    | depth + 1 => (values depth items).map .list
  | record fields =>
    match depth with
    | 0 => .error .tooDeep
    | depth + 1 => (fieldValues depth fields []).map .record

def values (depth : Nat) : List Tree → Except Error (List Data)
  | [] => .ok []
  | item :: rest => do
    let first ← value depth item
    let others ← values depth rest
    .ok (first :: others)

def fieldValues (depth : Nat) :
    List (Option String × Tree) → List (String × Data) → Except Error (List (String × Data))
  | [], known => .ok known
  | (none, _) :: _, _ => .error .halfPair
  | (some key, tree) :: rest, known => do
    let found ← value depth tree
    fieldValues depth rest (setField key found known)

end

end Tree

/-- The value of a text. -/
def read (text : String) : Except Error Data :=
  match Tree.read? text with
  | none => .error .malformed
  | some tree => tree.value maxDepth

end FormatServer.Json
