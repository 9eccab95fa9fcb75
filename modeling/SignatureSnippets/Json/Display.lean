import SignatureSnippets.Decimal.Shortest
import SignatureSnippets.Json.Basic
import SignatureSnippets.Text.Quoted

/-!
# Displaying JSON values

The text that stands for a value where a name is wanted and something else was given.
A string stands for itself; inside an array or an object it is quoted. The words for
null and for truth values are those of messages, not of JSON.
-/

namespace SignatureSnippets.Json

/-- The display of a floating-point number. -/
def floatDisplay (x : Float) : String :=
  if x.isNaN then "nan"
  else if x.isInf then (if x < 0.0 then "-inf" else "inf")
  else finiteFloatText x

mutual

/-- The display of a value inside another one. -/
def nestedDisplay : Json → String
  | .null => "None"
  | .bool value => if value then "True" else "False"
  | .int value => toString value
  | .float value => floatDisplay value
  | .str value => Text.quoted value
  | .arr items => "[" ++ ", ".intercalate (itemDisplays items) ++ "]"
  | .obj fields => "\x7b" ++ ", ".intercalate (fieldDisplays fields) ++ "\x7d"

/-- The displays of the items of an array. -/
def itemDisplays : List Json → List String
  | [] => []
  | item :: items => nestedDisplay item :: itemDisplays items

/-- The displays of the fields of an object. -/
def fieldDisplays : List (String × Json) → List String
  | [] => []
  | (name, value) :: fields =>
    (Text.quoted name ++ ": " ++ nestedDisplay value) :: fieldDisplays fields

end

/-- The display of a value. -/
def display : Json → String
  | .str value => value
  | value => nestedDisplay value

/-- The word for the kind of a value. -/
def kindName : Json → String
  | .null => "NoneType"
  | .bool _ => "bool"
  | .int _ => "int"
  | .float _ => "float"
  | .str _ => "str"
  | .arr _ => "list"
  | .obj _ => "dict"

end SignatureSnippets.Json
