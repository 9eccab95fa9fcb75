/-!
# Violations

What can be wrong with a value that came from outside: a setting, a field of a
request, a type given as data. A check that looks at several parts reports all
that is wrong with them, in the order of the parts, so a check answers either
with what it read or with the list of its violations.
-/

namespace SignatureSnippets

/-- A rule that a value breaks. -/
inductive Rule where
  /-- The field has to be there. -/
  | required
  /-- A text is wanted. -/
  | text
  /-- A text of a given form is wanted. -/
  | pattern (form : String)
  /-- A list is wanted. -/
  | list
  /-- A function type given as data is wanted. -/
  | functionType
  /-- An object is wanted. -/
  | object
  /-- A truth value is wanted. -/
  | truth
  /-- A truth value is wanted, and the text or number given stands for none. -/
  | truthWord
  /-- An integer is wanted. -/
  | integer
  /-- An integer is wanted, and the text given writes none. -/
  | integerText
  /-- An integer is wanted, and the one given is too large to be read. -/
  | integerSize
  /-- An integer is wanted, and the number given has a fraction. -/
  | integral
  /-- A finite number is wanted. -/
  | finite
  /-- A number of at least this size is wanted. -/
  | atLeast (bound : Int)
  /-- A number of at most this size is wanted. -/
  | atMost (bound : Int)
  /-- One of some words is wanted; the words as they are listed in the message. -/
  | oneOf (words : String)
  /-- A JSON text is wanted, and the one given cannot be read. -/
  | json (reason : String)
  deriving DecidableEq, Repr

namespace Rule

/-- The code by which a rule is known to callers. -/
def code : Rule → String
  | .required => "missing"
  | .text => "string_type"
  | .pattern _ => "string_pattern_mismatch"
  | .list => "list_type"
  | .functionType => "model_type"
  | .object => "model_attributes_type"
  | .truth => "bool_type"
  | .truthWord => "bool_parsing"
  | .integer => "int_type"
  | .integerText => "int_parsing"
  | .integerSize => "int_parsing_size"
  | .integral => "int_from_float"
  | .finite => "finite_number"
  | .atLeast _ => "greater_than_equal"
  | .atMost _ => "less_than_equal"
  | .oneOf _ => "enum"
  | .json _ => "json_invalid"

/-- What the rule asks for. -/
def message : Rule → String
  | .required => "Field required"
  | .text => "Input should be a valid string"
  | .pattern form => "String should match pattern '" ++ form ++ "'"
  | .list => "Input should be a valid list"
  | .functionType => "Input should be a valid dictionary or instance of FnNode"
  | .object => "Input should be a valid dictionary or object to extract fields from"
  | .truth => "Input should be a valid boolean"
  | .truthWord => "Input should be a valid boolean, unable to interpret input"
  | .integer => "Input should be a valid integer"
  | .integerText => "Input should be a valid integer, unable to parse string as an integer"
  | .integerSize => "Unable to parse input string as an integer, exceeded maximum size"
  | .integral => "Input should be a valid integer, got a number with a fractional part"
  | .finite => "Input should be a finite number"
  | .atLeast bound => "Input should be greater than or equal to " ++ toString bound
  | .atMost bound => "Input should be less than or equal to " ++ toString bound
  | .oneOf words => "Input should be " ++ words
  | .json _ => "JSON decode error"

end Rule

/-- One step on the way to a part of a value. -/
inductive Part where
  | field (name : String)
  | item (place : Nat)
  deriving DecidableEq, Repr

/-- A broken rule and the part of the value that breaks it, outermost step first. -/
structure Violation where
  rule : Rule
  place : List Part
  deriving DecidableEq, Repr

/-- The violation as seen from a value that has this value as a part. -/
def Violation.within (part : Part) (v : Violation) : Violation :=
  { v with place := part :: v.place }

/-- What was read, or everything that is wrong. -/
abbrev Checked (ε α : Type) := Except (List ε) α

namespace Checked

variable {ε ε' α β : Type}

/-- Two checks side by side: the violations of both are reported. -/
def both : Checked ε α → Checked ε β → Checked ε (α × β)
  | .ok a, .ok b => .ok (a, b)
  | .ok _, .error es => .error es
  | .error es, .ok _ => .error es
  | .error es, .error es' => .error (es ++ es')

/-- Changes every violation of a check. -/
def mapErrors (f : ε → ε') : Checked ε α → Checked ε' α
  | .ok a => .ok a
  | .error es => .error (es.map f)

theorem both_eq_ok {a : Checked ε α} {b : Checked ε β} {p : α × β} :
    both a b = .ok p ↔ a = .ok p.1 ∧ b = .ok p.2 := by
  rcases a with es | x <;> rcases b with es' | y <;> simp [both, Prod.ext_iff]

theorem mapErrors_eq_ok {f : ε → ε'} {a : Checked ε α} {x : α} :
    mapErrors f a = .ok x ↔ a = .ok x := by
  rcases a with es | y <;> simp [mapErrors]

theorem map_eq_ok {f : α → β} {a : Checked ε α} {y : β} :
    a.map f = .ok y ↔ ∃ x, a = .ok x ∧ f x = y := by
  rcases a with es | x <;> simp [Except.map]

end Checked

end SignatureSnippets
