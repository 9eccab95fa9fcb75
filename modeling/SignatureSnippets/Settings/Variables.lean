/-!
# Named values

Lists of values by name, in the order in which the names first appeared. Settings, the
environment and dotenv files are kept in this form. A name that is asked for without
regard to case can stand in such a list in several spellings; sources differ in whether
the first or the last of them counts.
-/

namespace SignatureSnippets.Variables

variable {α : Type}

/-- Gives a name a value. A name that is there keeps its place. -/
def put (name : String) (value : α) : List (String × α) → List (String × α)
  | [] => [(name, value)]
  | entry :: entries =>
    if entry.1 = name then (name, value) :: entries else entry :: put name value entries

/-- The value of the first entry whose name is the given one up to case. The name is
given in lower case. -/
def first? (name : String) (entries : List (String × α)) : Option α :=
  (entries.find? fun entry => entry.1.toLower = name).map fun entry => entry.2

/-- The value of the last entry whose name is the given one up to case. The name is
given in lower case. -/
def last? (name : String) (entries : List (String × α)) : Option α :=
  first? name entries.reverse

end SignatureSnippets.Variables
