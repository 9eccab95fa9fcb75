import SignatureSnippets.Signature.FnType

/-!
# Printing types

A type is printed in the notation that signatures are written in, with one space
behind each comma and around each arrow. Names are printed as they are.
-/

namespace SignatureSnippets.SigType

mutual

/-- The text of a type. -/
def render : SigType → String
  | .name text => text
  | .fn args ret => "fn(" ++ ", ".intercalate (renderAll args) ++ ")" ++ renderRet ret

/-- The texts of the arguments, in order. -/
def renderAll : List SigType → List String
  | [] => []
  | arg :: args => render arg :: renderAll args

/-- The arrow and the return type, if there is one. -/
def renderRet : Option SigType → String
  | none => ""
  | some type => " -> " ++ render type

end

theorem renderAll_eq_map (args : List SigType) : renderAll args = args.map render := by
  induction args with
  | nil => rfl
  | cons arg args ih => rw [renderAll, ih, List.map_cons]

end SignatureSnippets.SigType
