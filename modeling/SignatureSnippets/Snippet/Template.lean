import SignatureSnippets.Signature.FnType
import SignatureSnippets.Snippet.Names

/-!
# Snippet templates

A template is the text of a snippet before its tab stops are numbered and written
in the notation of an editor. The places where a tab stop goes are marked by three
control characters. A signature may hold these characters too, and then they mark
tab stops like any other.

A function type gives one tab stop for each argument. An argument that is itself a
function type is expanded one level deep, into a placeholder with a tab stop of its
own for the body; what is nested deeper is not shown.
-/

namespace SignatureSnippets

/-- A mark in a template. -/
inductive Marker where
  /-- Starts a tab stop that has a default text. -/
  | primaryOpen
  /-- Ends the default text. -/
  | primaryClose
  /-- A tab stop without a default text. -/
  | secondary
  deriving DecidableEq, Repr

namespace Marker

/-- The character that stands for a mark. -/
def char : Marker → Char
  | .primaryOpen => '\x02'
  | .primaryClose => '\x03'
  | .secondary => '\x1a'

/-- The mark that a character stands for. -/
def ofChar? (c : Char) : Option Marker :=
  if c = '\x02' then some .primaryOpen
  else if c = '\x03' then some .primaryClose
  else if c = '\x1a' then some .secondary
  else none

theorem ofChar?_eq_some_iff {c : Char} {mark : Marker} :
    ofChar? c = some mark ↔ c = mark.char := by
  cases mark <;> grind [ofChar?, Marker.char]

end Marker

namespace FnType

/-- The placeholder of a callback: its own plain arguments, and a tab stop between the
braces. -/
def callbackText (t : FnType) : String :=
  Names.callbackOpening ++ ", ".intercalate (Names.clean t.leaves) ++
    String.ofList [')', ' ', '\x7b', Marker.secondary.char, '\x7d']

/-- The text for an argument before names are cleaned. -/
def argText : SigType → String
  | .name text => text
  | .fn args ret => callbackText ⟨args, ret⟩

/-- Drops the last element if it is the given one. The empty text stands for no
element. -/
def dropNoise (noise : Option String) (names : List String) : List String :=
  if noise ≠ some "" ∧ noise ≠ none ∧ names.getLast? = noise then names.dropLast else names

/-- The texts shown for the arguments, without a last one that is noise. -/
def argTexts (t : FnType) (noise : Option String) : List String :=
  dropNoise noise (Names.clean (t.args.map argText))

/-- A text as the default text of a tab stop. -/
def tabStop (text : String) : String :=
  String.ofList [Marker.primaryOpen.char] ++ text ++ String.ofList [Marker.primaryClose.char]

/-- The template of a function type: its arguments in parentheses, each a tab stop. -/
def template (t : FnType) (noise : Option String) : String :=
  "(" ++ ", ".intercalate ((t.argTexts noise).map tabStop) ++ ")"

end FnType

end SignatureSnippets
