import SignatureSnippets.Snippet.Template

/-!
# Marker styles

The notations in which editors expect tab stops. A template is rendered by one pass
from left to right: each mark that starts a tab stop takes the next number, counted
from one, and all other text goes through the style's escapes.
-/

namespace SignatureSnippets

/-- A notation for tab stops. -/
inductive MarkerStyle where
  | textmate
  | chocolat
  | plain
  deriving DecidableEq, Repr, Inhabited

/-- A text with places for the number of a tab stop. -/
inductive PatternPiece where
  | text (text : String)
  | number
  deriving DecidableEq, Repr

/-- The notation of one kind of mark. -/
abbrev MarkPattern := List PatternPiece

namespace MarkPattern

/-- The pattern with a number filled in. -/
def fill (pattern : MarkPattern) (number : Nat) : String :=
  String.join (pattern.map fun
    | .text text => text
    | .number => toString number)

/-- The pattern written as one text: the number's place is named in braces, and braces
of the text itself are doubled. -/
def source (pattern : MarkPattern) : String :=
  String.join (pattern.map fun
    | .text text => String.ofList (text.toList.flatMap fun c =>
        if c = '\x7b' || c = '\x7d' then [c, c] else [c])
    | .number => "\x7bindex\x7d")

end MarkPattern

namespace MarkerStyle

/-- All styles, in the order in which messages list them. -/
def all : List MarkerStyle := [.textmate, .chocolat, .plain]

/-- The name of a style. -/
def name : MarkerStyle → String
  | .textmate => "textmate"
  | .chocolat => "chocolat"
  | .plain => "plain"

/-- The style of a name, which has to be written exactly. -/
def ofName? (name : String) : Option MarkerStyle :=
  all.find? fun style => style.name = name

theorem ofName?_eq_some_iff {name : String} {style : MarkerStyle} :
    ofName? name = some style ↔ name = style.name := by
  constructor
  · intro h
    have hname := List.find?_some h
    exact (of_decide_eq_true hname).symm
  · rintro rfl
    cases style <;> rfl

/-- What is said of something that is no style, given as it is displayed in messages. -/
def unknownMessage (shown : String) : String :=
  shown ++ " is not a valid MarkerStyle"

/-- The notation for the start of a tab stop with a default text. -/
def opening : MarkerStyle → MarkPattern
  | .textmate => [.text "$\x7b", .number, .text ":"]
  | .chocolat => [.text "%\x7b", .number, .text "=\""]
  | .plain => []

/-- The notation for the end of a default text. -/
def closing : MarkerStyle → String
  | .textmate => "\x7d"
  | .chocolat => "\"\x7d"
  | .plain => ""

/-- The notation for a tab stop without a default text. -/
def empty : MarkerStyle → MarkPattern
  | .textmate => [.text "$\x7b", .number, .text "\x7d"]
  | .chocolat => [.text "%\x7b", .number, .text "\x7d"]
  | .plain => []

/-- A character of ordinary text. Only one style has escapes. -/
def escape (style : MarkerStyle) (c : Char) : List Char :=
  match style with
  | .textmate => if c = '$' || c = '\x7d' || c = '\\' then ['\\', c] else [c]
  | .chocolat => [c]
  | .plain => [c]

/-- Ordinary text in a style. -/
def escapeText (style : MarkerStyle) (text : String) : String :=
  String.ofList (text.toList.flatMap style.escape)

/-- Renders template text in which `used` numbers are already given away. -/
def renderFrom (style : MarkerStyle) : (used : Nat) → List Char → List Char
  | _, [] => []
  | used, c :: cs =>
    match Marker.ofChar? c with
    | some .primaryOpen => (style.opening.fill (used + 1)).toList ++ style.renderFrom (used + 1) cs
    | some .secondary => (style.empty.fill (used + 1)).toList ++ style.renderFrom (used + 1) cs
    | some .primaryClose => style.closing.toList ++ style.renderFrom used cs
    | none => style.escape c ++ style.renderFrom used cs

end MarkerStyle

/-- Whether a character of a template starts a tab stop. -/
def startsTabStop (c : Char) : Bool :=
  Marker.ofChar? c = some .primaryOpen || Marker.ofChar? c = some .secondary

/-- A snippet, ready for an editor. -/
structure Snippet where
  text : String
  tabStops : Nat
  deriving DecidableEq, Repr

/-- Renders a template in a style. -/
def Snippet.render (template : String) (style : MarkerStyle) : Snippet where
  text := String.ofList (style.renderFrom 0 template.toList)
  tabStops := template.toList.countP startsTabStop

/-- The snippet of a function type. -/
def FnType.snippet (t : FnType) (style : MarkerStyle) (noise : Option String) : Snippet :=
  Snippet.render (t.template noise) style

/-- The snippet of what was read from a signature; only a function type has one. -/
def SigType.snippet? (type : Option SigType) (style : MarkerStyle) (noise : Option String) :
    Option Snippet :=
  (type.bind SigType.fnType?).map fun t => t.snippet style noise

end SignatureSnippets
