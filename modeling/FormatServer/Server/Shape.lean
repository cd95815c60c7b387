import FormatServer.Data.Decoding
import FormatServer.Uri

/-!
The shapes that the parameters of messages have. Reading data as a shape checks all of it and gives
it in one form: every record with the names of its fields, and nothing in it that is unset or
unknown.
-/

namespace FormatServer

/-- Whether a record can do without a field. -/
inductive Presence where
  | required
  /-- The field may be missing or null. -/
  | optional
  /-- The field may also be missing at the end of a list of fields. -/
  | defaulted
  deriving DecidableEq

inductive Shape where
  | anything
  | flag
  | text
  /-- An integer that has a place in 32 bits without a sign. -/
  | word
  /-- An integer that has a place in 32 bits with a sign. -/
  | signed
  | identifier
  /-- One of these words, or a record of nothing but a null that has the word as its name. -/
  | choice (words : List String)
  | list (item : Shape)
  | either (first second : Shape)
  /-- A record, which may also be given as the list of all its fields. -/
  | record (fields : List (String × Presence × Shape))
  /-- A record given by the names of its fields. Any further value has a shape of its own. -/
  | named (fields : List (String × Presence × Shape)) (others : Shape)
  deriving Inhabited

namespace Shape

abbrev Field := String × Presence × Shape

def required (name : String) (shape : Shape) : Field :=
  (name, .required, shape)

def optional (name : String) (shape : Shape) : Field :=
  (name, .optional, shape)

def defaulted (name : String) (shape : Shape) : Field :=
  (name, .defaulted, shape)

/-- Flags that may each be unset. -/
def flags (names : List String) : List Field :=
  names.map fun name => optional name .flag

/-- A list of texts. -/
def texts : Shape :=
  list text

def readWord? (words : List String) : Data → Option Data
  | .text name => if words.contains name then some (.text name) else none
  | .record [(name, .null)] => if words.contains name then some (.text name) else none
  | _ => none

mutual

/-- The data in the form of the shape; none for data of another shape. -/
def read? : Shape → Data → Option Data
  | anything, data => some data
  | flag, .bool value => some (.bool value)
  | text, .text value => some (.text value)
  | word, .integer value => if Word.fits 32 value then some (.integer value) else none
  | signed, .integer value => if Word.fitsSigned 32 value then some (.integer value) else none
  | identifier, .text value => (Uri.read? value).map fun uri => .text uri.text
  | choice words, data => readWord? words data
  | list item, .list items => (items.mapM fun data => read? item data).map .list
  | either first second, data =>
    match read? first data with
    | some found => some found
    | none => read? second data
  | record fields, .record values => (readNamed? fields values).map .record
  | record fields, .list items => (readListed? fields items).map .record
  | named fields others, .record values =>
    let further := values.filter fun value => !fields.any fun field => field.1 = value.1
    if further.all fun value => (read? others value.2).isSome then
      (readNamed? fields values).map .record
    else none
  | _, _ => none

/-- The fields in the values that names lead to. -/
def readNamed? : List (String × Presence × Shape) → List (String × Data) →
    Option (List (String × Data))
  | [], _ => some []
  | (name, presence, shape) :: rest, values => do
    let others ← readNamed? rest values
    match values.lookup name with
    | none => if presence = .required then none else some others
    | some value =>
      if presence ≠ .required ∧ value.isNull then some others
      else (read? shape value).map fun value => (name, value) :: others

/-- The fields in values that stand in their order. -/
def readListed? : List (String × Presence × Shape) → List Data → Option (List (String × Data))
  | [], values => if values.isEmpty then some [] else none
  | (_, presence, _) :: rest, [] => if presence = .defaulted then readListed? rest [] else none
  | (name, presence, shape) :: rest, value :: values => do
    let others ← readListed? rest values
    if presence ≠ .required ∧ value.isNull then some others
    else (read? shape value).map fun value => (name, value) :: others

end

end Shape

end FormatServer
