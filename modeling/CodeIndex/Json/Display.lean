import CodeIndex.Json.Value
import CodeIndex.Number.Shortest
import CodeIndex.Text.Quoted

namespace CodeIndex.JsonValue

mutual

/-- The display form of a value inside a list or an object, where texts are quoted. -/
def quoted : JsonValue → String
  | .null => "None"
  | .bool true => "True"
  | .bool false => "False"
  | .integer n => toString n
  | .real x => FloatFormat.display.write x
  | .text s => Quoted.text s
  | .list items => "[" ++ quotedItems items ++ "]"
  | .object fields => "\x7b" ++ quotedFields fields ++ "\x7d"

/-- The display forms of list items, divided by commas. -/
def quotedItems : List JsonValue → String
  | [] => ""
  | [item] => item.quoted
  | item :: items => item.quoted ++ ", " ++ quotedItems items

/-- The display forms of fields, divided by commas. -/
def quotedFields : List (String × JsonValue) → String
  | [] => ""
  | [(name, value)] => Quoted.text name ++ ": " ++ value.quoted
  | (name, value) :: fields =>
    Quoted.text name ++ ": " ++ value.quoted ++ ", " ++ quotedFields fields

end

/-- The display form of a value. A text stands for itself. -/
def display : JsonValue → String
  | .text s => s
  | value => value.quoted

end CodeIndex.JsonValue
