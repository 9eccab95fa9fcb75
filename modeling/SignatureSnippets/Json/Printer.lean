import SignatureSnippets.Decimal.Shortest
import SignatureSnippets.Json.Basic
import SignatureSnippets.Text.Quoted

/-!
# Printing JSON

Two layouts: a compact one on a single line, and one with every item and field on
a line of its own, indented by two spaces a level. In both, text beyond ASCII is
written as it is, and only what JSON demands is escaped.
-/

namespace SignatureSnippets.Json

/-- A character inside a JSON string. -/
def stringChar (c : Char) : List Char :=
  if c = '"' || c = '\\' then ['\\', c]
  else if c = '\n' then ['\\', 'n']
  else if c = '\r' then ['\\', 'r']
  else if c = '\t' then ['\\', 't']
  else if c = '\x0c' then ['\\', 'f']
  else if c = '\x08' then ['\\', 'b']
  else if c < ' ' then '\\' :: 'u' :: Text.hexDigits 4 c.toNat
  else [c]

/-- A JSON string with its quotes. -/
def stringText (s : String) : String :=
  String.ofList ('"' :: s.toList.flatMap stringChar ++ ['"'])

/-- A floating-point number in JSON, the literals for the numbers that are not finite
included. -/
def floatText (x : Float) : String :=
  if x.isNaN then "NaN"
  else if x.isInf then (if x < 0.0 then "-Infinity" else "Infinity")
  else finiteFloatText x

/-- How the parts of a container are set apart. -/
structure Layout where
  /-- Stands behind the opening bracket of a container at a depth that is not empty. -/
  opened : Nat → String
  /-- Stands between two parts at a depth. -/
  between : Nat → String
  /-- Stands before the closing bracket of a container at a depth. -/
  closed : Nat → String
  /-- Stands between a field's name and its value. -/
  colon : String

/-- Everything on one line, without blanks. -/
def Layout.compact : Layout :=
  ⟨fun _ => "", fun _ => ",", fun _ => "", ":"⟩

/-- A new line, indented by two spaces a level. -/
def newLine (depth : Nat) : String :=
  "\n" ++ String.ofList (List.replicate (2 * depth) ' ')

/-- A line for every part. -/
def Layout.indented : Layout :=
  ⟨fun depth => newLine (depth + 1), fun depth => "," ++ newLine (depth + 1), newLine, ": "⟩

mutual

/-- The text of a value at a depth. -/
def print (layout : Layout) (depth : Nat) : Json → String
  | .null => "null"
  | .bool value => if value then "true" else "false"
  | .int value => toString value
  | .float value => floatText value
  | .str value => stringText value
  | .arr [] => "[]"
  | .arr items =>
    "[" ++ layout.opened depth ++
      (layout.between depth).intercalate (printItems layout (depth + 1) items) ++
      layout.closed depth ++ "]"
  | .obj [] => "\x7b\x7d"
  | .obj fields =>
    "\x7b" ++ layout.opened depth ++
      (layout.between depth).intercalate (printFields layout (depth + 1) fields) ++
      layout.closed depth ++ "\x7d"

/-- The texts of the items of an array. -/
def printItems (layout : Layout) (depth : Nat) : List Json → List String
  | [] => []
  | item :: items => print layout depth item :: printItems layout depth items

/-- The texts of the fields of an object. -/
def printFields (layout : Layout) (depth : Nat) : List (String × Json) → List String
  | [] => []
  | (name, value) :: fields =>
    (stringText name ++ layout.colon ++ print layout depth value) ::
      printFields layout depth fields

end

/-- A value on one line. -/
def compactText (value : Json) : String :=
  value.print .compact 0

/-- A value with a line for every part. -/
def indentedText (value : Json) : String :=
  value.print .indented 0

end SignatureSnippets.Json
