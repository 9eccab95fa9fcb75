import SignatureSnippets.Command.Basic
import SignatureSnippets.Completions
import SignatureSnippets.Json.Printer
import SignatureSnippets.Settings.Sources
import SignatureSnippets.Signature.Record
import SignatureSnippets.Table.Reports
import SignatureSnippets.Text.Terminal

/-!
# Running commands

What a command line leads to: the text it puts out, what it shows beside that, and how
it ends. The outer program hands over what it finds around it and does what the report
says.

A fault that a command foresees is shown behind the word `Error:` and ends it with code
one. One that it does not foresee ends it at once, with nothing shown.
-/

namespace SignatureSnippets.Command

/-- What a command finds around it. -/
structure Surroundings where
  environment : Environment := []
  /-- The files that can be read; the one named `.env` holds settings. -/
  files : Files := []
  /-- Whether there is a server that the HTTP service can run on. -/
  hasServer : Bool := true
  /-- The number of columns of the terminal. Where nothing is known of it, there is room for
  any ordinary line. -/
  terminalWidth : Nat := 5000

/-- A fault that ends a command at once. -/
inductive Abort where
  /-- The settings break rules. -/
  | settings (found : List Violation)
  /-- A signature is malformed. -/
  | malformed (error : StructureError)
  /-- A file is not made of characters. -/
  | undecodable (error : Text.Utf8Error)
  /-- What should be a list is a value of another kind. -/
  | notAList (kind : String)
  /-- An integer in a file has too many digits. -/
  | tooManyDigits (count : Nat)
  /-- A path holds a null character. -/
  | nullInPath
  /-- The output holds a lone surrogate. Where a table is put out, advice is added. -/
  | unencodable (error : Text.UnencodableError) (inTable : Bool)
  deriving DecidableEq, Repr

/-- The wording of a fault. -/
def Abort.message : Abort → String
  | .settings found =>
    "; ".intercalate (found.map fun v => v.rule.message)
  | .malformed error => error.message
  | .undecodable error => error.message
  | .notAList kind => "'" ++ kind ++ "' object is not iterable"
  | .tooManyDigits count => (Json.Fault.tooManyDigits count).message
  | .nullInPath => "embedded null byte"
  | .unencodable error inTable =>
    error.message ++
      (if inTable then
        "\n*** You may need to add PYTHONIOENCODING=utf-8 to your environment ***"
      else "")

/-- How a command line ends. -/
inductive Ending where
  /-- It cannot be read. -/
  | usage
  /-- The command came to its end, with an exit code. -/
  | exit (code : Nat)
  /-- The command was ended by a fault. -/
  | abort (fault : Abort)
  deriving DecidableEq, Repr

/-- How the HTTP service is to be started. -/
structure Launch where
  host : String
  port : Int
  reload : Bool
  deriving DecidableEq, Repr

/-- The name that the HTTP service is started by. -/
def Launch.service : String := "ternexpand.api.app:create_app"

/-- What a command line leads to. -/
structure Report where
  ending : Ending
  output : String := ""
  /-- What is shown beside the output. -/
  remarks : String := ""
  launch : Option Launch := none
  deriving DecidableEq, Repr

/-- The exit code of a command line. -/
def Report.code (r : Report) : Nat :=
  match r.ending with
  | .usage => 2
  | .exit code => code
  | .abort _ => 1

/-- What a command knows while it runs. -/
structure Context where
  verbose : Bool
  /-- The least serious notices that are shown. -/
  level : LogLevel
  /-- The settings; commands that never look at them run even if they break rules. -/
  settings : Except Abort Settings
  terminalWidth : Nat

namespace Context

/-- The lines of the notices that are shown. -/
def log (c : Context) (notices : List Notice) : String :=
  String.join <|
    (notices.filter fun n => n.level.shownFrom c.level).map fun n => n.line ++ "\n"

/-- Stands where the steps that led to a fault would be shown. -/
def trace (c : Context) : String :=
  if c.verbose then "\n--- Traceback (verbose mode) ---" else ""

/-- A line of markup text as the terminal shows it. -/
def markupLine (terminalWidth : Nat) (markup : String) : String :=
  Text.laidOut terminalWidth (Markup.render markup) ++ "\n"

/-- A foreseen fault, shown without the steps that led to it. -/
def errorLine (terminalWidth : Nat) (text : String) : String :=
  markupLine terminalWidth ("[red]Error:[/red] " ++ Markup.escape text)

end Context

/-- A text as a line of output, without terminal sequences. -/
def echo (text : String) : String :=
  String.ofList (Text.dropSequences text.toList) ++ "\n"

/-- Ends a command by a fault. -/
def aborted (fault : Abort) (remarks : String := "") : Report :=
  { ending := .abort fault, remarks }

/-- Shows a structure error and ends a command. -/
def refused (c : Context) (error : StructureError) (notices : List Notice) : Report :=
  { ending := .exit 1,
    remarks := c.log notices ++ Context.errorLine c.terminalWidth error.message ++ c.trace }

/-- Shows an expansion. -/
def expansionReport (c : Context) (json : Bool) (remarks : String) (e : Expansion) : Report :=
  if json then
    { ending := .exit (if e.error?.isSome then 1 else 0),
      output := echo e.toJson.indentedText, remarks }
  else
    match e.outcome with
    | .malformed error =>
      { ending := .exit 1, remarks := remarks ++ Context.errorLine c.terminalWidth error.message }
    | .notAFunction =>
      { ending := .exit 0, output := "No snippet: not a function type\n", remarks }
    | .snippet _ => { ending := .exit 0, output := echo e.completion, remarks }

/-- Expands one signature. -/
def runExpand (c : Context) (settings : Settings) (signature name : String)
    (style : Option MarkerStyle) (json : Bool) : Report :=
  let expanded := (Expander.ofSettings settings style).expand signature name
  match expanded.result with
  | .error error => refused c error expanded.notices
  | .ok e => expansionReport c json (c.log expanded.notices) e

/-- Shows a type: its text, and for a function type its arguments and its return
type. -/
def typeText (terminalWidth : Nat) (type : SigType) : String :=
  match type with
  | .name _ => echo type.render
  | .fn args ret =>
    echo type.render ++ (argumentTable ⟨args, ret⟩).draw terminalWidth ++
      match ret with
      | none => ""
      | some ret => Context.markupLine terminalWidth ("Returns: " ++ Markup.escape ret.render)

/-- Shows the tree of a signature. -/
def runParse (c : Context) (signature : String) (json : Bool) : Report :=
  let read := Signature.readType signature
  match read.result with
  | .error error => refused c error read.notices
  | .ok type =>
    { ending := .exit 0,
      output :=
        if json then echo (Json.ofOption SigType.toJson type).indentedText
        else
          match type with
          | none => "Empty signature\n"
          | some type => typeText c.terminalWidth type,
      remarks := c.log read.notices }

/-- Shows what is wrong with a file of completions. Only a text that is no JSON and a
completion that is no object are foreseen. -/
def completionsFault (c : Context) (e : CompletionsError) : Report :=
  let shown (text : String) : Report :=
    { ending := .exit 1,
      remarks :=
        Context.errorLine c.terminalWidth ("Invalid completions file: " ++ text) ++ c.trace }
  match e with
  | .undecodable error => aborted (.undecodable error)
  | .unreadable ⟨.tooManyDigits count, _⟩ _ => aborted (.tooManyDigits count)
  | .unreadable _ description => shown description
  | .notAList kind => aborted (.notAList kind)
  | .notAnObject kind => shown ("'" ++ kind ++ "' object has no attribute 'get'")

/-- Shows expanded completions, with the number of those that have a snippet. -/
def completionsText (terminalWidth : Nat) (expansions : List Expansion) (json : Bool) : String :=
  if json then echo (Json.arr (expansions.map Expansion.toJson)).indentedText
  else
    (completionTable (expansions.map CompletionRow.ofExpansion)).draw terminalWidth ++ "✓ " ++
      toString (expansions.countP Expansion.success) ++ " of " ++ toString expansions.length ++
      " completions expanded\n"

/-- Expands completions. -/
def runCompletions (c : Context) (settings : Settings) (items : List (String × String))
    (style : Option MarkerStyle) (json : Bool) : Report :=
  let expanded := (Expander.ofSettings settings style).expandAll items
  match expanded.result with
  | .error error => aborted (.malformed error) (c.log expanded.notices)
  | .ok expansions =>
    let output := completionsText c.terminalWidth expansions json
    match Text.unencodable? output.toList with
    | some error => aborted (.unencodable error !json) (c.log expanded.notices)
    | none => { ending := .exit 0, output, remarks := c.log expanded.notices }

/-- Starts the HTTP service. An empty host and the port zero leave the choice to the
settings. -/
def runServe (settings : Settings) (host : Option String) (port : Option Int)
    (reload : Bool) : Report :=
  { ending := .exit 0,
    launch := some
      { host := if host.getD "" = "" then settings.host else host.getD "",
        port := if port.getD 0 = 0 then settings.port else port.getD 0,
        reload } }

/-- What is shown where the HTTP service cannot run. -/
def noServerText : String :=
  "Error: HTTP API dependencies are not installed.\n" ++
    "Hint: Install with: pip install 'ternexpand'\n"

/-- Goes on with the settings, if they can be had. -/
def withSettings (c : Context) (run : Settings → Report) : Report :=
  match c.settings with
  | .ok settings => run settings
  | .error fault => aborted fault

/-- Runs a command. A file of completions is read, and a missing server noticed, before
the settings are looked at. -/
def run (c : Context) (hasServer : Bool) : Command → Report
  | .expand signature name style json =>
    withSettings c fun settings => runExpand c settings signature name style json
  | .parse signature json => withSettings c fun _ => runParse c signature json
  | .batch file style json =>
    match Completions.ofBytes file with
    | .error e => completionsFault c e
    | .ok items => withSettings c fun settings => runCompletions c settings items style json
  | .batchNowhere => aborted .nullInPath
  | .serve host port reload =>
    if hasServer then withSettings c fun settings => runServe settings host port reload
    else { ending := .exit 1, remarks := noServerText ++ c.trace }

/-- The settings that hold in some surroundings. -/
def Surroundings.settings (s : Surroundings) : Except Abort Settings := do
  let dotEnv ←
    match s.files.at? ".env" with
    | none => pure ""
    | some bytes => (Text.decodeUtf8 bytes).mapError .undecodable
  (Sources.settings { environment := s.environment, dotEnv }).mapError .settings

/-- What a command line leads to, with the line ends as they come. Unless verbose output
is asked for, the settings have to hold before the command itself is read, because they
say what is logged. -/
def rawReport (s : Surroundings) (args : List String) : Report :=
  match line? args with
  | none => { ending := .usage }
  | some (verbose, kind, rest) =>
    let settings := s.settings
    let go (level : LogLevel) : Report :=
      match ofArguments? kind s.files rest with
      | none => { ending := .usage }
      | some command =>
        run { verbose, level, settings, terminalWidth := s.terminalWidth } s.hasServer command
    if verbose then go .debug
    else
      match settings with
      | .error fault => aborted fault
      | .ok settings => go settings.logLevel

/-- What a command line leads to. -/
def report (s : Surroundings) (args : List String) : Report :=
  let raw := rawReport s args
  { raw with output := String.ofList (Text.plainLineEnds raw.output.toList) }

end SignatureSnippets.Command
