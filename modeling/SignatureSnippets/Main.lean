import SignatureSnippets.Command.Run

/-!
# The command-line program

Collects what the program finds around it, and does what the report of the command
line says. No HTTP server comes with the program.
-/

namespace SignatureSnippets.Command

/-- The content of a file, if there is one that can be read. -/
def readFile? (name : String) : IO (Option (String × List UInt8)) := do
  try
    let bytes ← IO.FS.readBinFile name
    return some (name, bytes.toList)
  catch _ => return none

/-- The variables of the environment that hold settings. -/
def settingVariables : IO (List (String × String)) := do
  let names := Setting.all.map fun setting => (Sources.environmentMark ++ setting.name).toUpper
  names.filterMapM fun name => do
    return (← IO.getEnv name).map (name, ·)

/-- The number of columns of the terminal, if the environment has it. -/
def terminalWidth? : IO (Option Nat) :=
  return (← IO.getEnv "COLUMNS").bind String.toNat?

end SignatureSnippets.Command

open SignatureSnippets in
/-- Runs a command line. -/
def main (args : List String) : IO UInt32 := do
  let usual : Command.Surroundings := {}
  let surroundings : Command.Surroundings :=
    { environment := ← Command.settingVariables,
      files := ← (".env" :: args).filterMapM Command.readFile?,
      hasServer := false,
      terminalWidth := (← Command.terminalWidth?).getD usual.terminalWidth }
  let report := Command.report surroundings args
  IO.print report.output
  IO.eprint report.remarks
  if let .abort fault := report.ending then
    IO.eprintln fault.message
  return report.code.toUInt32
