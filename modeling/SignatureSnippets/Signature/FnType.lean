/-!
# Function types

The tree behind a signature. A type is a bare name or a function type; a function
type lists its arguments and may have a return type, and either may again be a
function type. Labels and inline types are not taken apart here: `compare:` and
`i:number` are names like any other.
-/

namespace SignatureSnippets

/-- A type of a signature. -/
inductive SigType where
  /-- A type that is not a function, by its text. -/
  | name (text : String)
  /-- A function type, by its arguments and its return type, if it has one. -/
  | fn (args : List SigType) (ret : Option SigType)
  deriving Repr, Inhabited

/-- A function type on its own: the part of `SigType` that has arguments. -/
structure FnType where
  args : List SigType := []
  ret : Option SigType := none
  deriving Repr, Inhabited

/-! ## Equality of types is decidable -/

mutual

/-- Decides whether two types are the same tree. -/
def SigType.decEq : (a b : SigType) → Decidable (a = b)
  | .name s, .name t =>
    if h : s = t then isTrue (by rw [h]) else isFalse (by simpa using h)
  | .fn as r, .fn bs q =>
    match SigType.decEqList as bs, SigType.decEqOption r q with
    | isTrue ha, isTrue hr => isTrue (by rw [ha, hr])
    | isFalse ha, _ => isFalse (by simp [ha])
    | _, isFalse hr => isFalse (by simp [hr])
  | .name _, .fn .. => isFalse (by simp)
  | .fn .., .name _ => isFalse (by simp)

/-- Decides whether two argument lists agree in length and in every place. -/
def SigType.decEqList : (as bs : List SigType) → Decidable (as = bs)
  | [], [] => isTrue rfl
  | a :: as, b :: bs =>
    match SigType.decEq a b, SigType.decEqList as bs with
    | isTrue ha, isTrue hs => isTrue (by rw [ha, hs])
    | isFalse ha, _ => isFalse (by simp [ha])
    | _, isFalse hs => isFalse (by simp [hs])
  | [], _ :: _ => isFalse (by simp)
  | _ :: _, [] => isFalse (by simp)

/-- Decides whether two return types agree, the missing one included. -/
def SigType.decEqOption : (r q : Option SigType) → Decidable (r = q)
  | none, none => isTrue rfl
  | some a, some b =>
    match SigType.decEq a b with
    | isTrue h => isTrue (by rw [h])
    | isFalse h => isFalse (by simpa using h)
  | none, some _ => isFalse (by simp)
  | some _, none => isFalse (by simp)

end

instance : DecidableEq SigType := SigType.decEq

deriving instance DecidableEq for FnType

namespace SigType

/-- The function type that a type is, if it is one. -/
def fnType? : SigType → Option FnType
  | .name _ => none
  | .fn args ret => some ⟨args, ret⟩

/-- The text of a type that is a bare name. -/
def nameText? : SigType → Option String
  | .name text => some text
  | .fn .. => none

/-- Changes a type that is a function type and leaves a bare name alone. -/
def mapFn (f : FnType → FnType) : SigType → SigType
  | .name text => .name text
  | .fn args ret => .fn (f ⟨args, ret⟩).args (f ⟨args, ret⟩).ret

end SigType

namespace FnType

/-- A function type as a type. -/
def toSigType (t : FnType) : SigType :=
  .fn t.args t.ret

/-- The arguments that are bare names, in order. -/
def leaves (t : FnType) : List String :=
  t.args.filterMap SigType.nameText?

/-- The arguments that are function types, in order. -/
def nested (t : FnType) : List FnType :=
  t.args.filterMap SigType.fnType?

/-- Adds an argument behind the others. -/
def addArg (item : SigType) (t : FnType) : FnType :=
  { t with args := t.args ++ [item] }

/-- Sets the return type. -/
def setRet (item : SigType) (t : FnType) : FnType :=
  { t with ret := some item }

end FnType

end SignatureSnippets
