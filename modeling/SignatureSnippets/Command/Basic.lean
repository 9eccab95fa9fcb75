import SignatureSnippets.Command.Arguments
import SignatureSnippets.Settings.Check

/-!
# Commands

What the program can be told to do, and how it is told. A command line names one
command; options that concern all commands stand in front of its name, and its own
options may stand before or behind its argument.
-/

namespace SignatureSnippets

/-- A command. -/
inductive Command where
  /-- Expand one signature. -/
  | expand (signature name : String) (style : Option MarkerStyle) (json : Bool)
  /-- Show the tree of a signature. -/
  | parse (signature : String) (json : Bool)
  /-- Expand the completions of a file. -/
  | batch (file : List UInt8) (style : Option MarkerStyle) (json : Bool)
  /-- Expand the completions of a file whose path holds a null character, as no path can. -/
  | batchNowhere
  /-- Start the HTTP service. -/
  | serve (host : Option String) (port : Option Int) (reload : Bool)
  deriving DecidableEq, Repr

namespace Command

/-- The kinds of commands. -/
inductive Kind where
  | expand
  | parse
  | batch
  | serve
  deriving DecidableEq, Repr

/-- The kind of command that a name stands for. -/
def Kind.ofName? : String → Option Kind
  | "expand" => some .expand
  | "parse" => some .parse
  | "batch" => some .batch
  | "serve" => some .serve
  | _ => none

/-- The files that a command can read, by name. -/
abbrev Files := List (String × List UInt8)

/-- Adds a part to those of a path. A pair of dots takes the part before it away; in front
of a path that does not start at the root it stays. -/
def addPart (rooted : Bool) (parts : List String) (part : String) : List String :=
  if part = "" || part = "." then parts
  else if part = ".." then
    if parts.getLast?.any (· ≠ "..") then parts.dropLast
    else if rooted then parts
    else parts ++ [".."]
  else parts ++ [part]

/-- A path in its plain form: without empty parts and dots, each pair of dots taken
together with the part before it. The first part tells whether the path starts at the
root. -/
def plainPath (path : String) : Bool × List String :=
  let rooted := path.toList.head? = some '/'
  (rooted, ((path.toList.splitOn '/').map String.ofList).foldl (addPart rooted) [])

/-- The content of the file at a path. Of several files there the last one counts. -/
def Files.at? (files : Files) (path : String) : Option (List UInt8) :=
  (files.reverse.find? fun file => plainPath file.1 = plainPath path).map fun file => file.2

/-- The options that stand in front of a command's name. -/
def commonOptions : List OptionSpec :=
  [⟨"--verbose", some 'v', false⟩]

/-- The options of a kind of command. -/
def Kind.options : Kind → List OptionSpec
  | .expand => [⟨"--name", some 'n', true⟩, ⟨"--style", some 's', true⟩, ⟨"--json", none, false⟩]
  | .parse => [⟨"--json", none, false⟩]
  | .batch => [⟨"--style", some 's', true⟩, ⟨"--json", none, false⟩]
  | .serve => [⟨"--host", none, true⟩, ⟨"--port", none, true⟩, ⟨"--reload", none, false⟩]

/-- Reads a command line up to the name of the command: whether it asks for verbose
output, the kind of the command, and the rest. -/
def line? (args : List String) : Option (Bool × Kind × List String) := do
  let read ← Arguments.read? commonOptions false args
  match read.others with
  | [] => none
  | name :: rest => return (read.has "--verbose", ← Kind.ofName? name, rest)

/-- The style that is asked for, if any; a name that no style has is refused. -/
def styleOption? (a : Arguments) : Option (Option MarkerStyle) :=
  match a.value? "--style" with
  | none => some none
  | some name => (MarkerStyle.ofName? name).map some

/-- The port that is asked for, if any; a text that is no integer is refused. -/
def portOption? (a : Arguments) : Option (Option Int) :=
  match a.value? "--port" with
  | none => some none
  | some text => (Check.integerText text).toOption.map some

/-- Reads the part of a command line behind the command's name. -/
def ofArguments? (kind : Kind) (files : Files) (args : List String) : Option Command := do
  let a ← Arguments.read? kind.options true args
  match kind, a.others with
  | .expand, [signature] =>
    return .expand signature ((a.value? "--name").getD "") (← styleOption? a) (a.has "--json")
  | .parse, [signature] => return .parse signature (a.has "--json")
  | .batch, [path] =>
    let style ← styleOption? a
    if path.toList.contains '\x00' then return .batchNowhere
    else return .batch (← files.at? path) style (a.has "--json")
  | .serve, [] => return .serve (a.value? "--host") (← portOption? a) (a.has "--reload")
  | _, _ => none

end Command

end SignatureSnippets
