import SignatureSnippets.Json.Basic
import SignatureSnippets.Log.Notice
import SignatureSnippets.Settings.Basic

/-!
# Expansions

Turning a signature into a completion: the completion's name followed by the snippet of
its arguments. Where the signature is malformed, a strict expander stops with the
error, while a lenient one logs it and gives the name alone, so that one bad signature
does not spoil a whole list of completions.
-/

namespace SignatureSnippets

/-- What became of a signature. -/
inductive Outcome where
  /-- It is a function type and has a snippet. -/
  | snippet (snippet : Snippet)
  /-- It is no function type. -/
  | notAFunction
  /-- Its structure is wrong. -/
  | malformed (error : StructureError)
  deriving DecidableEq, Repr

/-- An expanded signature. -/
structure Expansion where
  signature : String
  name : String
  outcome : Outcome
  deriving DecidableEq, Repr

namespace Expansion

/-- The text of the snippet, if there is one. -/
def snippet? (e : Expansion) : Option String :=
  match e.outcome with
  | .snippet s => some s.text
  | _ => none

/-- The text of the error, if there is one. -/
def error? (e : Expansion) : Option String :=
  match e.outcome with
  | .malformed error => some error.message
  | _ => none

/-- The number of tab stops in the snippet. -/
def tabStops (e : Expansion) : Nat :=
  match e.outcome with
  | .snippet s => s.tabStops
  | _ => 0

/-- The text to insert: the name and the snippet. -/
def completion (e : Expansion) : String :=
  e.name ++ e.snippet?.getD ""

/-- Whether there is a snippet. -/
def success (e : Expansion) : Bool :=
  e.snippet?.isSome

/-- An expansion as data. -/
def toJson (e : Expansion) : Json :=
  .obj
    [ ("signature", .str e.signature), ("name", .str e.name),
      ("snippet", Json.ofOption .str e.snippet?), ("completion", .str e.completion),
      ("tabstops", .int e.tabStops), ("error", Json.ofOption .str e.error?) ]

end Expansion

/-- Expands signatures in one style, under one error policy. -/
structure Expander where
  style : MarkerStyle
  noise : Option String
  strict : Bool
  deriving DecidableEq, Repr

namespace Expander

/-- The expander that settings ask for, where a style or a policy given by the caller
counts more. -/
def ofSettings (settings : Settings) (style : Option MarkerStyle := none)
    (strict : Option Bool := none) : Expander where
  style := style.getD settings.style
  noise := settings.noise?
  strict := strict.getD settings.strict

/-- Expands a signature. -/
def expand (e : Expander) (signature : String) (name : String := "") : Logged Expansion :=
  match Signature.parse signature with
  | .error error =>
    if e.strict then ⟨.error error, []⟩
    else ⟨.ok ⟨signature, name, .malformed error⟩, [.malformed signature error]⟩
  | .ok s =>
    match SigType.snippet? s.type? e.style e.noise with
    | some snippet => ⟨.ok ⟨signature, name, .snippet snippet⟩, s.notices⟩
    | none =>
      ⟨.ok ⟨signature, name, .notAFunction⟩, s.notices ++ [.notAFunction signature]⟩

/-- Expands pairs of a name and a signature, in order. -/
def expandAll (e : Expander) (items : List (String × String)) : Logged (List Expansion) :=
  Logged.forEach (fun item => e.expand item.2 item.1) items

end Expander

end SignatureSnippets
