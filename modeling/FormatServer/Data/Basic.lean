/-!
Values as configuration files and messages hold them, whatever notation they were written in.
-/

namespace FormatServer

inductive Data where
  | null
  | bool (value : Bool)
  | integer (value : Int)
  /-- A number that is not an integer, as it was written. -/
  | decimal (literal : String)
  | text (value : String)
  | list (items : List Data)
  | record (fields : List (String × Data))
  deriving Inhabited

namespace Data

/-- The value that a record has under the key. -/
def field? (key : String) : Data → Option Data
  | record fields => fields.lookup key
  | _ => none

def isNull : Data → Bool
  | null => true
  | _ => false

def text? : Data → Option String
  | text value => some value
  | _ => none

def bool? : Data → Option Bool
  | bool value => some value
  | _ => none

def integer? : Data → Option Int
  | integer value => some value
  | _ => none

def items? : Data → Option (List Data)
  | list items => some items
  | _ => none

/-- A record with the fields that have a value. -/
def ofFields (fields : List (String × Option Data)) : Data :=
  record (fields.filterMap fun (key, value) => value.map fun value => (key, value))

def ofNat (value : Nat) : Data :=
  integer value

def texts (values : List String) : Data :=
  list (values.map text)

end Data

end FormatServer
