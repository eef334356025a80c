import CodeIndex.Number.Binary64

namespace CodeIndex

/-- A JSON value. The fields of an object keep their order, and no name occurs twice in an object
that was read. -/
inductive JsonValue where
  | null
  | bool (b : Bool)
  | integer (n : Int)
  | real (x : Binary64)
  | text (s : String)
  | list (items : List JsonValue)
  | object (fields : List (String × JsonValue))
  deriving Repr, Inhabited

namespace JsonValue

/-- The value of a field, if the object has the field. -/
def field? (name : String) : List (String × JsonValue) → Option JsonValue
  | [] => none
  | (other, value) :: rest => if other = name then some value else field? name rest

/-- Sets a field: a field that is there keeps its place, a new one goes to the end. -/
def setField (name : String) (value : JsonValue) :
    List (String × JsonValue) → List (String × JsonValue)
  | [] => [(name, value)]
  | (other, old) :: rest =>
    if other = name then (other, value) :: rest else (other, old) :: setField name value rest

/-- Whether the value counts as present: `null`, `false`, zero and all that is empty do not. -/
def isFilled : JsonValue → Bool
  | .null => false
  | .bool b => b
  | .integer n => n != 0
  | .real x => !x.isZero
  | .text s => !s.isEmpty
  | .list items => !items.isEmpty
  | .object fields => !fields.isEmpty

end JsonValue

end CodeIndex
