import SignatureSnippets.Json.Basic
import SignatureSnippets.Signature.FnType
import SignatureSnippets.Violation

/-!
# Types as data

The form in which types are exchanged: a bare name is a JSON string, a function
type an object with the fields `args` and `ret`. Writing gives both fields; reading
takes a missing `args` for the empty list and a missing `ret` for none, and passes
over other fields.

An argument may be a string or a function type. Where it is neither, reading
reports the two readings it tried one after the other: as a string, then as a
function type.
-/

namespace SignatureSnippets

mutual

/-- A type as data. -/
def SigType.toJson : SigType → Json
  | .name text => .str text
  | .fn args ret => .obj [("args", .arr (SigType.argsToJson args)), ("ret", SigType.retToJson ret)]

/-- The arguments as data. -/
def SigType.argsToJson : List SigType → List Json
  | [] => []
  | arg :: args => arg.toJson :: SigType.argsToJson args

/-- A return type as data; a missing one is null. -/
def SigType.retToJson : Option SigType → Json
  | none => .null
  | some type => type.toJson

end

/-- A function type as data. -/
def FnType.toJson (t : FnType) : Json :=
  t.toSigType.toJson

namespace Record

/-- The violations of a value that is neither a string nor a function type, given those
of its reading as a function type. -/
def neither (asFunction : List Violation) : List Violation :=
  ⟨.text, [.field "str"]⟩ :: asFunction.map (Violation.within (.field "FnNode"))

mutual

/-- Reads a type from data. -/
def type : Json → Checked Violation SigType
  | .str text => .ok (.name text)
  | .obj fields =>
    match (argsField fields).both (retField fields) with
    | .ok (args, ret) => .ok (.fn args ret)
    | .error found => .error (neither found)
  | _ => .error (neither [⟨.functionType, []⟩])

/-- Reads the arguments from the fields of a function type. -/
def argsField : List (String × Json) → Checked Violation (List SigType)
  | [] => .ok []
  | (name, value) :: fields =>
    if name = "args" then
      match value with
      | .arr items => (args 0 items).mapErrors (Violation.within (.field "args"))
      | _ => .error [⟨.list, [.field "args"]⟩]
    else argsField fields

/-- Reads the arguments from the items of a list, the first of which has the given
place. -/
def args (place : Nat) : List Json → Checked Violation (List SigType)
  | [] => .ok []
  | item :: items =>
    (((type item).mapErrors (Violation.within (.item place))).both
      (args (place + 1) items)).map fun (arg, rest) => arg :: rest

/-- Reads the return type from the fields of a function type. -/
def retField : List (String × Json) → Checked Violation (Option SigType)
  | [] => .ok none
  | (name, value) :: fields =>
    if name = "ret" then
      match value with
      | .null => .ok none
      | value => ((type value).mapErrors (Violation.within (.field "ret"))).map some
    else retField fields

end

end Record

/-- Reads a function type from data. -/
def FnType.ofJson : Json → Checked Violation FnType
  | .obj fields =>
    ((Record.argsField fields).both (Record.retField fields)).map fun (args, ret) => ⟨args, ret⟩
  | _ => .error [⟨.functionType, []⟩]

end SignatureSnippets
