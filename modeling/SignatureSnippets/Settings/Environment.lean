import SignatureSnippets.Settings.Variables

/-!
# The environment

Variables that hold texts. Not every name and not every text can be those of a variable:
neither may hold a null character, and a name has at least one character, none of them an
equals sign. Several variables are set one after the other, up to the first one that
cannot be.
-/

namespace SignatureSnippets

/-- The variables of an environment, by name. -/
abbrev Environment := List (String × String)

/-- What keeps a variable from being set. -/
inductive VariableFault where
  /-- The name or the text holds a null character. -/
  | nullCharacter
  /-- The name holds an equals sign. -/
  | equalsSign
  /-- The name is empty. -/
  | noName
  deriving DecidableEq, Repr

/-- The wording of a fault. -/
def VariableFault.message : VariableFault → String
  | .nullCharacter => "embedded null byte"
  | .equalsSign => "illegal environment variable name"
  | .noName => "[Errno 22] Invalid argument"

namespace Environment

/-- What keeps a variable from getting a text, if anything does. -/
def fault? (name text : String) : Option VariableFault :=
  if name.toList.contains '\x00' || text.toList.contains '\x00' then some .nullCharacter
  else if name.toList.contains '=' then some .equalsSign
  else if name = "" then some .noName
  else none

/-- Sets variables, and says what went wrong if not all of them could be set. -/
def setAll (environment : Environment) :
    List (String × String) → Environment × Option VariableFault
  | [] => (environment, none)
  | (name, text) :: entries =>
    match fault? name text with
    | some fault => (environment, some fault)
    | none => setAll (Variables.put name text environment) entries

/-- The environment that holds some variables. -/
def ofEntries (entries : List (String × String)) : Except VariableFault Environment :=
  match setAll [] entries with
  | (environment, none) => .ok environment
  | (_, some fault) => .error fault

/-- The environment without some variables. -/
def remove (names : List String) (environment : Environment) : Environment :=
  environment.filter fun entry => entry.1 ∉ names

end Environment

end SignatureSnippets
