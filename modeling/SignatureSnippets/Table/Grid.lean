import SignatureSnippets.Table.Markup
import SignatureSnippets.Text.Wrap

/-!
# Tables

A table is a list of columns whose headers and cells are markup text. It is drawn with
a heavy frame around the headers and a light one around the rows. Every column is as wide
as its widest line, with one blank on either side; if the table does not fit on the
terminal, its widest columns are made narrower and their cells are wrapped. Tabs count for
nothing when a column is measured.
-/

namespace SignatureSnippets

/-- A column of a table. -/
structure Column where
  header : String
  /-- The style of the column, by name; empty for none. -/
  style : String := ""
  cells : List String
  deriving DecidableEq, Repr

/-- A table. All columns have the same number of cells. -/
abbrev Table := List Column

namespace Table

/-- What a cell shows. -/
def cellText (markup : String) : List Char :=
  (Markup.render markup).toList

/-- The blanks that a column has beside its text. -/
def padding : Nat := 2

/-- The width that a column asks for, with its blanks. -/
def wantedWidth (column : Column) : Nat :=
  ((column.header :: column.cells).map fun cell =>
    Text.widestFrom 0 (cellText cell)).foldl max 0 + padding

/-- The integer nearest to a quotient; a half goes to the even one. -/
def nearestQuotient (n d : Nat) : Nat :=
  let rest := 2 * (n % d)
  if rest < d || (rest = d && n / d % 2 = 0) then n / d else n / d + 1

/-- Takes an excess away from the columns of a width, in even shares, the first of them
for the first column. `sharing` columns are left, and no share is larger than `most`. -/
def takeShares (widest most excess sharing : Nat) : List Nat → List Nat
  | [] => []
  | width :: widths =>
    if width = widest then
      let share := min most (nearestQuotient excess sharing)
      (width - share) :: takeShares widest most (excess - share) (sharing - 1) widths
    else width :: takeShares widest most excess sharing widths

/-- Makes the widest columns narrower by an excess, but not narrower than the next
widest. -/
def narrowWidest (excess : Nat) (widths : List Nat) : List Nat :=
  let widest := widths.foldl max 0
  let next := (widths.filter (· ≠ widest)).foldl max 0
  takeShares widest (min excess (widest - next)) excess (widths.count widest) widths

/-- The columns that widths take together. -/
def totalWidth (widths : List Nat) : Nat :=
  widths.foldr (· + ·) 0

/-- Makes columns narrower until they fit into a width together. Every round takes at least
one column away, so the excess bounds their number. -/
def narrowed (rounds limit : Nat) (widths : List Nat) : List Nat :=
  match rounds with
  | 0 => widths
  | rounds + 1 =>
    if totalWidth widths ≤ limit then widths
    else narrowed rounds limit (narrowWidest (totalWidth widths - limit) widths)

/-- The widths of the columns with their blanks. Bars stand between and beside them on the
terminal. -/
def columnWidths (table : Table) (terminalWidth : Nat) : List Nat :=
  let limit := terminalWidth - (table.length + 1)
  let wanted := table.map fun column => min limit (wantedWidth column)
  let given := narrowed (totalWidth wanted - limit) limit wanted
  (wanted.zip given).map fun (wanted, given) => min wanted given

/-- The lines that a cell shows in a column. -/
def cellLines (width : Nat) (markup : String) : List (List Char) :=
  Text.wrap .ellipsis (width - padding) (cellText markup)

/-- A line of a cell, filled up to the width of its column, with a blank on either side. -/
def padded (width : Nat) (line : List Char) : List Char :=
  ' ' :: Text.padTo (width - padding) line ++ [' ']

/-- One line of the drawing: a text for each column, between bars. -/
def barLine (bar : Char) (texts : List (List Char)) : List Char :=
  bar :: (texts.flatMap fun text => text ++ [bar])

/-- The lines of a row, given the width and the cell of each column. -/
def rowLines (bar : Char) (cells : List (Nat × String)) : List (List Char) :=
  let columns := cells.map fun cell => (cell.1, cellLines cell.1 cell.2)
  let height := (columns.map fun column => column.2.length).foldl max 0
  (List.range height).map fun i =>
    barLine bar (columns.map fun column => padded column.1 (column.2[i]?.getD []))

/-- A line of the frame. -/
def frameLine (left fill joint right : Char) (widths : List Nat) : List Char :=
  left :: [joint].intercalate (widths.map fun width => List.replicate width fill) ++ [right]

/-- The drawing of a table on a terminal of a width, line by line. -/
def lines (table : Table) (terminalWidth : Nat) : List (List Char) :=
  let widths := table.columnWidths terminalWidth
  let rows := (table.map fun column => column.cells.length).foldl max 0
  [frameLine '┏' '━' '┳' '┓' widths] ++
    rowLines '┃' (widths.zip (table.map fun column => column.header)) ++
    [frameLine '┡' '━' '╇' '┩' widths] ++
    (List.range rows).flatMap (fun i =>
      rowLines '│' (widths.zip (table.map fun column => column.cells[i]?.getD ""))) ++
    [frameLine '└' '─' '┴' '┘' widths]

/-- The drawing of a table, with a line feed behind every line. -/
def draw (table : Table) (terminalWidth : Nat) : String :=
  String.ofList ((table.lines terminalWidth).flatMap fun line => line ++ ['\n'])

end Table

end SignatureSnippets
