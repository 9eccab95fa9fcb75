/-!
# Command-line arguments

Options have a long name behind two dashes and some of them a short one, a letter
behind one dash. A value may be joined to a long name by an equals sign or to a short
name directly, or it is the next argument, whatever that looks like. Short names can be
run together as long as only the last one takes a value. Two dashes on their own end
the options, and a single dash is an ordinary argument.

An argument list that does not follow these rules has no reading.
-/

namespace SignatureSnippets.Command

/-- An option as it is declared. -/
structure OptionSpec where
  /-- The long name with its dashes. -/
  long : String
  /-- The letter of the short name. -/
  short : Option Char := none
  takesValue : Bool
  deriving DecidableEq, Repr

/-- An option as it is given: by its long name, with its value if it takes one. -/
structure Given where
  long : String
  value : Option String
  deriving DecidableEq, Repr

/-- What an argument list says: the options in order, and the other arguments. -/
structure Arguments where
  given : List Given := []
  others : List String := []
  deriving DecidableEq, Repr

namespace Arguments

/-- Whether an argument is read as an option. -/
def isOption (arg : String) : Bool :=
  match arg.toList with
  | '-' :: _ :: _ => true
  | _ => false

/-- Reads an argument as a long name, with the argument behind it at hand. The result
says whether that one is taken as the value. -/
def long? (specs : List OptionSpec) (arg : String) (next : Option String) :
    Option (List Given × Bool) := do
  let name := String.ofList (arg.toList.takeWhile (· ≠ '='))
  let joined := (arg.toList.dropWhile (· ≠ '=')).tail?.map String.ofList
  let spec ← specs.find? fun spec => spec.long = name
  match spec.takesValue, joined, next with
  | true, some value, _ => some ([⟨spec.long, some value⟩], false)
  | true, none, some value => some ([⟨spec.long, some value⟩], true)
  | true, none, none => none
  | false, some _, _ => none
  | false, none, _ => some ([⟨spec.long, none⟩], false)

/-- Reads the letters behind a single dash. -/
def shorts? (specs : List OptionSpec) (next : Option String) :
    List Char → Option (List Given × Bool)
  | [] => some ([], false)
  | c :: cs => do
    let spec ← specs.find? fun spec => spec.short = some c
    if spec.takesValue then
      match cs, next with
      | [], some value => some ([⟨spec.long, some value⟩], true)
      | [], none => none
      | cs, _ => some ([⟨spec.long, some (String.ofList cs)⟩], false)
    else
      let (given, taken) ← shorts? specs next cs
      some (⟨spec.long, none⟩ :: given, taken)

/-- Reads an argument that is an option. -/
def option? (specs : List OptionSpec) (arg : String) (next : Option String) :
    Option (List Given × Bool) :=
  match arg.toList with
  | '-' :: '-' :: _ => long? specs arg next
  | _ :: letters => shorts? specs next letters
  | [] => none

/-- Reads an argument list. If `mixed`, options may stand behind other arguments;
otherwise everything from the first other argument on is left as it is. -/
def read? (specs : List OptionSpec) (mixed : Bool) (args : List String) : Option Arguments :=
  match args with
  | [] => some {}
  | arg :: rest =>
    if arg = "--" then some { others := rest }
    else if isOption arg then do
      let (given, taken) ← option? specs arg rest.head?
      let read ← read? specs mixed (if taken then rest.drop 1 else rest)
      return { read with given := given ++ read.given }
    else if mixed then do
      let read ← read? specs mixed rest
      return { read with others := arg :: read.others }
    else some { others := arg :: rest }
termination_by args.length
decreasing_by
  · split <;> simp only [List.length_drop, List.length_cons] <;> omega
  · simp

/-- Whether an option is given. -/
def has (a : Arguments) (long : String) : Bool :=
  a.given.any fun given => given.long = long

/-- The value of an option; of several the last one counts. -/
def value? (a : Arguments) (long : String) : Option String :=
  ((a.given.filter fun given => given.long = long).getLast?).bind Given.value

end Arguments

end SignatureSnippets.Command
