import BuildRecorder.Number.Shortest
import BuildRecorder.Text.Quoted

/-!
# JSON values

A JSON document as a value. The fields of an object stand in the order in which their names first
appeared, each name once. `Json.show` is how a value is shown inside messages.
-/

namespace BuildRecorder

inductive Json where
  | null
  | bool (value : Bool)
  | int (value : Int)
  | float (value : Binary64)
  | text (value : Text)
  | array (items : List Json)
  | object (fields : List (Text × Json))

namespace Json

abbrev Fields := List (Text × Json)

def Fields.get? (fields : Fields) (name : Text) : Option Json := fields.lookup name

/-- Sets a field: in its place if the name is there, else at the end. -/
def Fields.put (fields : Fields) (name : Text) (value : Json) : Fields :=
  if fields.any (·.1 = name) then
    fields.map fun field => if field.1 = name then (name, value) else field
  else fields ++ [(name, value)]

def kindName : Json → Text
  | .null => "NoneType"
  | .bool _ => "bool"
  | .int _ => "int"
  | .float _ => "float"
  | .text _ => "str"
  | .array _ => "list"
  | .object _ => "dict"

mutual

def «show» : Json → Text
  | .null => "None"
  | .bool true => "True"
  | .bool false => "False"
  | .int value => Text.ofInt value
  | .float value => value.text
  | .text value => value.quoted
  | .array items => "[" ++ showItems items ++ "]"
  | .object fields => "\x7b" ++ showFields fields ++ "\x7d"

def showItems : List Json → Text
  | [] => []
  | [item] => item.show
  | item :: items => item.show ++ ", " ++ showItems items

def showFields : List (Text × Json) → Text
  | [] => []
  | [(name, value)] => name.quoted ++ ": " ++ value.show
  | (name, value) :: fields => name.quoted ++ ": " ++ value.show ++ ", " ++ showFields fields

end

/-- How a value reads when it is put into a message by itself: a text stands without quotes. -/
def plain : Json → Text
  | .text value => value
  | value => value.show

end Json

end BuildRecorder
