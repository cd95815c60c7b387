import FormatServer.Data.Basic
import FormatServer.Data.Word

/-!
Reading typed values out of data. A record may also be given as a list of its fields in order, from
which the last ones may be missing; a null field is an unset one.
-/

namespace FormatServer

inductive DecodeError where
  | expected (kind : String)
  | outOfRange (value : Int)
  | tooMany (limit : Nat)
  deriving DecidableEq

namespace DecodeError

def message : DecodeError → String
  | expected kind => "expected " ++ kind
  | outOfRange value => "integer out of range: " ++ toString value
  | tooMany limit => "expected at most " ++ toString limit ++ " fields"

end DecodeError

namespace Data

abbrev Decoder (α : Type) := Data → Except DecodeError α

def decodeBool : Decoder Bool
  | bool value => .ok value
  | _ => .error (.expected "a boolean")

def decodeText : Decoder String
  | text value => .ok value
  | _ => .error (.expected "a string")

def decodeWord : Decoder UInt32
  | integer value =>
    if Word.fits 32 value then .ok (UInt32.ofNat value.toNat)
    else .error (.outOfRange value)
  | _ => .error (.expected "an integer")

def decodeList {α : Type} (item : Decoder α) : Decoder (List α)
  | list items => items.mapM item
  | _ => .error (.expected "a list")

/-- The value of every key of a record. -/
def decodeMap {α : Type} (value : Decoder α) : Decoder (List (String × α))
  | record fields => fields.mapM fun (key, data) => (value data).map fun value => (key, value)
  | _ => .error (.expected "a table")

/-- What becomes of the items that a list has beyond the fields of the record that it gives. -/
inductive Surplus where
  | refused
  | ignored
  deriving DecidableEq

/-- The fields of a record that has these names, in this order where it is given as a list. -/
def decodeFields (surplus : Surplus) (names : List String) : Decoder (List (String × Data))
  | record fields => .ok fields
  | list items =>
    if items.length ≤ names.length ∨ surplus = .ignored then .ok (names.zip items)
    else .error (.tooMany names.length)
  | _ => .error (.expected "a table")

/-- The value of a field that may be unset. -/
def decodeOptional {α : Type} (value : Decoder α) (fields : List (String × Data)) (name : String) :
    Except DecodeError (Option α) :=
  match fields.lookup name with
  | none | some null => .ok none
  | some data => (value data).map some

end Data

end FormatServer
