import SignatureSnippets.Signature.FnType

/-!
# Addresses in a function type

A function type inside another one is named by the way that leads to it: at each
step either the place of an argument or the return type. The last step comes
first, so that the address of a part is the address of its owner with one step
added in front.
-/

namespace SignatureSnippets

/-- One step from a function type to a part of it. -/
inductive Step where
  /-- To the argument at a place, counted from zero. -/
  | arg (place : Nat)
  /-- To the return type. -/
  | ret
  deriving DecidableEq, Repr

/-- The way from the outermost function type to one inside it, last step first. -/
abbrev Address := List Step

namespace FnType

/-- The function type one step below, if there is one. -/
def child? (step : Step) (t : FnType) : Option FnType :=
  match step with
  | .arg place => t.args[place]?.bind SigType.fnType?
  | .ret => t.ret.bind SigType.fnType?

/-- Changes the function type one step below. -/
def modifyChild (step : Step) (f : FnType → FnType) (t : FnType) : FnType :=
  match step with
  | .arg place => { t with args := t.args.modify place (SigType.mapFn f) }
  | .ret => { t with ret := t.ret.map (SigType.mapFn f) }

/-- The function type at an address, if there is one. -/
def at? : Address → FnType → Option FnType
  | [], t => some t
  | step :: owner, t => (t.at? owner).bind (child? step)

/-- Changes the function type at an address; nothing changes where there is none. -/
def modifyAt : Address → (FnType → FnType) → FnType → FnType
  | [], f => f
  | step :: owner, f => modifyAt owner (modifyChild step f)

end FnType

end SignatureSnippets
