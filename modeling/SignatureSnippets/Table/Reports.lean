import SignatureSnippets.Expansion
import SignatureSnippets.Signature.Printer
import SignatureSnippets.Table.Grid

/-!
# Reports

The two tables that the command line shows: one of expanded completions, one of the
arguments of a function type.
-/

namespace SignatureSnippets

/-- What a table shows of a completion. -/
structure CompletionRow where
  name : String
  signature : String
  snippet : Option String
  error : Option String
  deriving DecidableEq, Repr

namespace CompletionRow

/-- The row of an expansion. -/
def ofExpansion (e : Expansion) : CompletionRow :=
  ⟨e.name, e.signature, e.snippet?, e.error?⟩

/-- The cell for what became of the signature: its error, or else its snippet. A dash
stands for a snippet that is not there. -/
def outcomeCell (row : CompletionRow) : String :=
  match row.error, row.snippet with
  | some "", none | none, none => "[dim]-[/dim]"
  | some "", some snippet | none, some snippet => Markup.escape snippet
  | some error, _ => "[red]" ++ Markup.escape error ++ "[/red]"

end CompletionRow

/-- The table of expanded completions. -/
def completionTable (rows : List CompletionRow) : Table :=
  [ { header := "Name", style := "cyan", cells := rows.map fun row => Markup.escape row.name },
    { header := "Type", cells := rows.map fun row => Markup.escape row.signature },
    { header := "Snippet", cells := rows.map CompletionRow.outcomeCell } ]

/-- The word for the kind of an argument. -/
def SigType.kindName : SigType → String
  | .name _ => "leaf"
  | .fn .. => "function"

/-- The table of the arguments of a function type. -/
def argumentTable (t : FnType) : Table :=
  [ { header := "#", cells := (List.range t.args.length).map fun i => toString (i + 1) },
    { header := "Argument", cells := t.args.map fun arg => Markup.escape arg.render },
    { header := "Kind", cells := t.args.map SigType.kindName } ]

end SignatureSnippets
