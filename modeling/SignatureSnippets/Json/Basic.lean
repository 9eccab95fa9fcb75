/-!
# JSON values

The values that documents, requests and settings arrive as. An object keeps its
fields in the order in which they were written, and numbers keep apart what is
written as an integer from what is written with a fraction or an exponent.
-/

namespace SignatureSnippets

/-- A JSON value. -/
inductive Json where
  | null
  | bool (value : Bool)
  | int (value : Int)
  | float (value : Float)
  | str (value : String)
  | arr (items : List Json)
  | obj (fields : List (String × Json))
  deriving Inhabited

namespace Json

/-- The value of a field of an object. -/
def get? (name : String) : Json → Option Json
  | .obj fields => fields.lookup name
  | _ => none

/-- The text of a string. -/
def str? : Json → Option String
  | .str value => some value
  | _ => none

/-- The items of an array. -/
def arr? : Json → Option (List Json)
  | .arr items => some items
  | _ => none

/-- The fields of an object. -/
def obj? : Json → Option (List (String × Json))
  | .obj fields => some fields
  | _ => none

/-- A value that may be missing; what is missing is `null`. -/
def ofOption {α : Type} (f : α → Json) : Option α → Json
  | none => .null
  | some value => f value

/-- Sets a field: a field of the same name keeps its place and gets the value, a new
field goes behind the others. -/
def putField (name : String) (value : Json) : List (String × Json) → List (String × Json)
  | [] => [(name, value)]
  | (other, old) :: fields =>
    if other = name then (name, value) :: fields else (other, old) :: putField name value fields

mutual

/-- Whether all numbers in a value are finite. -/
def isFinite : Json → Bool
  | .float x => x.isFinite
  | .arr items => areFinite items
  | .obj fields => fieldsAreFinite fields
  | _ => true

/-- Whether all numbers in the items of an array are finite. -/
def areFinite : List Json → Bool
  | [] => true
  | item :: items => item.isFinite && areFinite items

/-- Whether all numbers in the fields of an object are finite. -/
def fieldsAreFinite : List (String × Json) → Bool
  | [] => true
  | (_, value) :: fields => value.isFinite && fieldsAreFinite fields

end

end Json

end SignatureSnippets
