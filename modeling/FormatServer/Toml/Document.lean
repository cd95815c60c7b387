import FormatServer.Data.Basic
import FormatServer.Toml.Statement

/-!
The tables that the statements of a TOML document define. A table is defined by its header, or by
the dotted keys that go through it, and by only one of the two; a table in braces is complete where
it stands.
-/

namespace FormatServer.Toml

inductive Error where
  | malformed
  /-- The key is defined a second time, or goes through something that takes no keys. -/
  | keyTaken (key : String)
  | tooLarge (value : Int)
  | notAMoment
  deriving DecidableEq

namespace Error

def message : Error → String
  | malformed => "not a TOML document"
  | keyTaken key => "duplicate key: " ++ key
  | tooLarge value => "integer out of range: " ++ toString value
  | notAMoment => "not a date or time"

end Error

/-- How a table came to be. -/
inductive Origin where
  /-- The header of a table inside it stands before its own. -/
  | implied
  | header
  | dottedKey
  deriving DecidableEq

inductive Node where
  /-- A value that takes no keys. -/
  | value (data : Data)
  | table (origin : Origin) (fields : List (String × Node))
  /-- The tables of a list of tables, the last one first. -/
  | elements (tables : List (List (String × Node)))
  deriving Inhabited

abbrev Fields := List (String × Node)

namespace Fields

/-- Replaces what the key has, or puts it at the end. -/
def set (key : String) (node : Node) : Fields → Fields
  | [] => [(key, node)]
  | (other, old) :: rest =>
    if other = key then (key, node) :: rest else (other, old) :: set key node rest

/-- Changes the table that the keys of a header lead to. -/
def inHeader (change : Fields → Except Error Fields) : List String → Fields → Except Error Fields
  | [], fields => change fields
  | key :: rest, fields =>
    match fields.lookup key with
    | none => (inHeader change rest []).map fun inner => set key (.table .implied inner) fields
    | some (.table origin inner) =>
      (inHeader change rest inner).map fun inner => set key (.table origin inner) fields
    | some (.elements (last :: others)) =>
      (inHeader change rest last).map fun last => set key (.elements (last :: others)) fields
    | some _ => .error (.keyTaken key)

/-- Adds a pair whose key has these parts before the last one. -/
def addPair (key : String) (node : Node) : List String → Bool → Fields → Except Error Fields
  | [], isOpen, fields =>
    if isOpen && (fields.lookup key).isNone then .ok (fields ++ [(key, node)])
    else .error (.keyTaken key)
  | part :: rest, _, fields =>
    match fields.lookup part with
    | none => (addPair key node rest true []).map fun inner =>
        set part (.table .dottedKey inner) fields
    | some (.table .header _) => .error (.keyTaken part)
    | some (.table origin inner) =>
      (addPair key node rest (origin = .dottedKey) inner).map fun inner =>
        set part (.table origin inner) fields
    | some (.elements (last :: others)) =>
      (addPair key node rest false last).map fun last =>
        set part (.elements (last :: others)) fields
    | some _ => .error (.keyTaken part)

/-- Starts the table of a header. -/
def openTable (key : String) (fields : Fields) : Except Error Fields :=
  match fields.lookup key with
  | none => .ok (fields ++ [(key, .table .header [])])
  | some (.table .implied inner) => .ok (set key (.table .header inner) fields)
  | some _ => .error (.keyTaken key)

/-- Starts one more table of a list of tables. -/
def openElement (key : String) (fields : Fields) : Except Error Fields :=
  match fields.lookup key with
  | none => .ok (fields ++ [(key, .elements [[]])])
  | some (.elements tables) => .ok (set key (.elements ([] :: tables)) fields)
  | some _ => .error (.keyTaken key)

end Fields

/-- The key of the text of a date or time, which is a record with no other key. -/
def momentKey : String := "$__toml_private_datetime"

def Scalar.data : Scalar → Data
  | bool value => .bool value
  | integer value => .integer value
  | decimal literal => .decimal literal
  | moment literal => .record [(momentKey, .text literal)]

mutual

def Node.data : Node → Data
  | .value data => data
  | .table _ fields => .record (fieldsData fields)
  | .elements tables => .list (tablesData tables).reverse

def fieldsData : List (String × Node) → List (String × Data)
  | [] => []
  | (key, node) :: rest => (key, node.data) :: fieldsData rest

def tablesData : List (List (String × Node)) → List Data
  | [] => []
  | fields :: rest => .record (fieldsData fields) :: tablesData rest

end

/-- A key's parts before the last, and the last. -/
def splitKey (key : List String) : List String × String :=
  (key.dropLast, key.getLast?.getD "")

mutual

def Value.data : Value → Except Error Data
  | .text value => .ok (.text value)
  | .scalar value => .ok value.data
  | .list items => (itemsData items).map .list
  | .table pairs => (pairsFields pairs []).map fun fields => .record (fieldsData fields)

def itemsData : List Value → Except Error (List Data)
  | [] => .ok []
  | item :: rest => do
    let first ← item.data
    let others ← itemsData rest
    .ok (first :: others)

def pairsFields : List (List String × Value) → Fields → Except Error Fields
  | [], fields => .ok fields
  | (key, value) :: rest, fields => do
    let data ← value.data
    let (path, last) := splitKey key
    let fields ← Fields.addPair last (.value data) path true fields
    pairsFields rest fields

end

namespace Statement

/-- Carries out a statement on the fields of the document, under the header in force. -/
def apply (header : List String) (fields : Fields) : Statement → Except Error (List String × Fields)
  | pair key value => do
    let data ← value.data
    let (path, last) := splitKey key
    let fields ← Fields.inHeader (Fields.addPair last (.value data) path true) header fields
    .ok (header, fields)
  | table key => do
    let (path, last) := splitKey key
    let fields ← Fields.inHeader (Fields.openTable last) path fields
    .ok (key, fields)
  | element key => do
    let (path, last) := splitKey key
    let fields ← Fields.inHeader (Fields.openElement last) path fields
    .ok (key, fields)

def applyAll : List Statement → List String → Fields → Except Error Fields
  | [], _, fields => .ok fields
  | statement :: rest, header, fields => do
    let (header, fields) ← statement.apply header fields
    applyAll rest header fields

end Statement

/-- The record that a document defines. -/
def read (text : String) : Except Error Data :=
  match Statement.ofText? text with
  | none => .error .malformed
  | some statements => (Statement.applyAll statements [] []).map fun fields =>
      .record (fieldsData fields)

/-- Whether the fields are taken for a date or time: its key is there, and no key stands before it
in order. -/
def isMomentRecord (fields : List (String × Data)) : Bool :=
  (fields.lookup momentKey).isSome && fields.all fun field => !(field.1 < momentKey)

/-- What is wrong with the text of a date or time. -/
def momentFault? : Option Data → Option Error
  | some (.text literal) => if Scalar.isMoment literal.toList then none else some .notAMoment
  | _ => some .notAMoment

mutual

/-- What keeps a value from being one: an integer in it that has no place in 64 bits with a sign,
or a record that is taken for a date or time and is none. -/
def fault? : Data → Option Error
  | .integer value => if Word.fitsSigned 64 value then none else some (.tooLarge value)
  | .list items => itemFault? items
  | .record fields =>
    if isMomentRecord fields then momentFault? (fields.lookup momentKey) else fieldFault? fields
  | _ => none

def itemFault? : List Data → Option Error
  | [] => none
  | item :: rest => (fault? item).or (itemFault? rest)

def fieldFault? : List (String × Data) → Option Error
  | [] => none
  | (_, value) :: rest => (fault? value).or (fieldFault? rest)

end

/-- The fields that a document defines, if each of their values is one. -/
def readTable (text : String) : Except Error (List (String × Data)) := do
  match ← read text with
  | .record fields =>
    match fieldFault? fields with
    | some error => .error error
    | none => .ok fields
  | _ => .error .malformed

end FormatServer.Toml
