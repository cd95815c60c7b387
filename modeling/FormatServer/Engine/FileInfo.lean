import FormatServer.Json.Tree

/-!
What the engine says about a file: whether it is ignored and which parser fits it.
-/

namespace FormatServer

structure FileInfo where
  ignored : Bool := false
  inferredParser : Option String := none
  deriving DecidableEq, Inhabited

namespace FileInfo

open Json (Tree)

def fieldNames : List String :=
  ["ignored", "inferredParser"]

/-- The fields of a record or of a list in their order; none if a field is there twice or a key has
no value. -/
def fields? : Tree → Option (List (String × Tree))
  | .record fields => do
    let fields ← fields.mapM fun (key, value) => key.map fun key => (key, value)
    if fieldNames.all fun name => (fields.filter (·.1 = name)).length ≤ 1 then some fields else none
  | .list items =>
    if items.length ≤ fieldNames.length then some (fieldNames.zip items) else none
  | _ => none

def ignored? : Option Tree → Option Bool
  | none => some false
  | some (.bool value) => some value
  | some _ => none

def parser? : Option Tree → Option (Option String)
  | none => some none
  | some .null => some none
  | some (.text (some name)) => some (some name)
  | some _ => none

/-- Reads the engine's answer. Fields that are not known may hold anything grammatical. -/
def read? (text : String) : Option FileInfo := do
  let tree ← Tree.read? text
  let fields ← fields? tree
  let ignored ← ignored? (fields.lookup "ignored")
  let inferredParser ← parser? (fields.lookup "inferredParser")
  some { ignored, inferredParser }

end FileInfo

end FormatServer
