import SignatureSnippets.Json.Basic
import SignatureSnippets.Settings.Basic
import SignatureSnippets.Text.Blank
import SignatureSnippets.Text.Numeral
import SignatureSnippets.Violation

/-!
# Checking settings

Each setting is checked on its own. A setting given in the environment is a text, one
given by a caller may be any JSON value; truth values and integers are read from texts
and numbers as well, as long as nothing is lost.
-/

namespace SignatureSnippets.Check

/-- The styles as a message lists them. -/
def styleNames : String := "'textmate', 'chocolat' or 'plain'"

/-- Reads a style from its name. -/
def style : Json → Except Rule MarkerStyle
  | .str name =>
    match MarkerStyle.ofName? name with
    | some style => .ok style
    | none => .error (.oneOf styleNames)
  | _ => .error (.oneOf styleNames)

/-- Takes a text as it is. -/
def text : Json → Except Rule String
  | .str text => .ok text
  | _ => .error .text

/-- Reads a log level from its name. -/
def logLevel : Json → Except Rule LogLevel
  | .str name =>
    match LogLevel.ofName? name with
    | some level => .ok level
    | none => .error (.pattern LogLevel.namePattern)
  | _ => .error .text

/-- The integer that a number without a fraction is, if it fits into 64 bits. -/
def smallInteger? (x : Float) : Option Int :=
  if x.floor == x && -9223372036854775808.0 < x && x < 9223372036854775808.0 then
    some x.toInt64.toInt
  else none

/-- The words that stand for true. -/
def trueWords : List String := ["1", "on", "t", "true", "y", "yes"]

/-- The words that stand for false. -/
def falseWords : List String := ["0", "off", "f", "false", "n", "no"]

/-- The truth value of an integer: only zero and one have one. -/
def truthOfInt (n : Int) : Except Rule Bool :=
  if n = 0 then .ok false else if n = 1 then .ok true else .error .truthWord

/-- Reads a truth value. Words may be written in either case. A number is taken for an
integer when it has no fraction and fits into 64 bits, and for no truth value
otherwise. -/
def truth : Json → Except Rule Bool
  | .bool b => .ok b
  | .str word =>
    if word.toLower ∈ trueWords then .ok true
    else if word.toLower ∈ falseWords then .ok false
    else .error .truthWord
  | .int n =>
    if -9223372036854775808 ≤ n ∧ n ≤ 9223372036854775807 then truthOfInt n
    else .error .truth
  | .float x =>
    match smallInteger? x with
    | some n => truthOfInt n
    | none => .error .truth
  | _ => .error .truth

/-- Reads an integer from a text. Blanks around it are dropped. -/
def integerText (text : String) : Except Rule Int :=
  if Text.startsTooLong text.toList then .error .integerSize
  else
    match Text.integer? (Text.trim Text.isWhiteSpace text.toList) with
    | some n => .ok n
    | none => .error .integerText

/-- Reads an integer. -/
def integer : Json → Except Rule Int
  | .int n => .ok n
  | .bool b => .ok (if b then 1 else 0)
  | .str text => integerText text
  | .float x =>
    if x.isNaN || x.isInf then .error .finite
    else if x.floor != x then .error .integral
    else
      match smallInteger? x with
      | some n => .ok n
      | none => .error .integerSize
  | _ => .error .integer

/-- Reads a port number. -/
def port (value : Json) : Except Rule Nat := do
  let n ← integer value
  if n < 1 then throw (.atLeast 1)
  else if 65535 < n then throw (.atMost 65535)
  else return n.toNat

end SignatureSnippets.Check
