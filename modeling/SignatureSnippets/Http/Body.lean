import SignatureSnippets.Json.Reader
import SignatureSnippets.Settings.Check
import SignatureSnippets.Violation

/-!
# Request bodies

What the HTTP service reads from the body of a request. All fields are checked, in the
order in which they are declared, and each violation carries the value that broke the
rule. Fields that are not declared are passed over.
-/

namespace SignatureSnippets.Http

/-- A violation together with the value that breaks the rule. -/
structure BodyViolation extends Violation where
  input : Json

/-- The violation as seen from a value that has this value as a part. -/
def BodyViolation.within (part : Part) (v : BodyViolation) : BodyViolation :=
  { v with place := part :: v.place }

/-- A violation of the value itself. -/
def BodyViolation.here {α : Type} (rule : Rule) (input : Json) : Checked BodyViolation α :=
  .error [{ rule, place := [], input }]

/-- The body of a request to expand one signature. -/
structure ExpandBody where
  signature : String
  name : String
  style : Option MarkerStyle
  deriving DecidableEq, Repr

/-- The body of a request to expand several signatures, by name and signature. -/
structure BatchBody where
  items : List (String × String)
  style : Option MarkerStyle
  deriving DecidableEq, Repr

/-- The body of a request to read a signature. -/
structure ParseBody where
  signature : String
  deriving DecidableEq, Repr

namespace Body

/-- Takes a text as it is. -/
def text (value : Json) : Checked BodyViolation String :=
  match value with
  | .str text => .ok text
  | _ => BodyViolation.here .text value

/-- Reads a style; null leaves the choice to the settings. -/
def style (value : Json) : Checked BodyViolation (Option MarkerStyle) :=
  match value with
  | .null => .ok none
  | _ =>
    match Check.style value with
    | .ok style => .ok (some style)
    | .error rule => BodyViolation.here rule value

/-- Reads a field of an object that has to be there. -/
def required {α : Type} (name : String) (check : Json → Checked BodyViolation α) (body : Json) :
    Checked BodyViolation α :=
  Checked.mapErrors (BodyViolation.within (.field name)) <|
    match body.get? name with
    | some value => check value
    | none => BodyViolation.here .required body

/-- Reads a field of an object that may be missing. -/
def optional {α : Type} (name : String) (check : Json → Checked BodyViolation α) (default : α)
    (body : Json) : Checked BodyViolation α :=
  match body.get? name with
  | some value => Checked.mapErrors (BodyViolation.within (.field name)) (check value)
  | none => .ok default

/-- Reads an object by its fields. -/
def object {α : Type} (fields : Json → Checked BodyViolation α) (value : Json) :
    Checked BodyViolation α :=
  match value with
  | .obj _ => fields value
  | _ => BodyViolation.here .object value

/-- Reads the items of a list, the first of which has the given place. -/
def items {α : Type} (check : Json → Checked BodyViolation α) (place : Nat) :
    List Json → Checked BodyViolation (List α)
  | [] => .ok []
  | value :: values =>
    ((Checked.mapErrors (BodyViolation.within (.item place)) (check value)).both
      (items check (place + 1) values)).map fun (a, rest) => a :: rest

/-- Reads a list. -/
def list {α : Type} (check : Json → Checked BodyViolation α) (value : Json) :
    Checked BodyViolation (List α) :=
  match value with
  | .arr values => items check 0 values
  | _ => BodyViolation.here .list value

/-- Reads one element of a batch. -/
def item : Json → Checked BodyViolation (String × String) :=
  object fun body => (optional "name" text "" body).both (required "type" text body)

/-- Reads the body of a request to expand one signature. -/
def expand : Json → Checked BodyViolation ExpandBody :=
  object fun body =>
    ((required "signature" text body).both
      ((optional "name" text "" body).both (optional "style" style none body))).map
      fun (signature, name, style) => { signature, name, style }

/-- Reads the body of a request to expand several signatures. -/
def batch : Json → Checked BodyViolation BatchBody :=
  object fun body =>
    ((optional "items" (list item) [] body).both (optional "style" style none body)).map
      fun (items, style) => { items, style }

/-- Reads the body of a request to read a signature. -/
def parse : Json → Checked BodyViolation ParseBody :=
  object fun body => (required "signature" text body).map fun signature => { signature }

end Body

end SignatureSnippets.Http
