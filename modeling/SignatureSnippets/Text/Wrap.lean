import SignatureSnippets.Text.Blank
import SignatureSnippets.Text.CellWidth

/-!
# Fitting text into columns

Text for the terminal is laid out in lines of a given width. Line feeds end lines, tabs
lead to the next column that is a multiple of eight, and a line that is too long is broken
between words. A word keeps the blanks behind it; those that stick out of a line are
dropped.
-/

namespace SignatureSnippets.Text

/-- What is done with a word that is wider than a line. -/
inductive Overflow where
  /-- It is broken wherever a line is full. -/
  | fold
  /-- It is cut short and an ellipsis takes its last column. -/
  | ellipsis
  deriving DecidableEq, Repr

/-- The distance between two tab stops. -/
def tabStop : Nat := 8

/-- Puts blanks in the place of tabs. The text starts in the given column. -/
def expandTabs (column : Nat) : List Char → List Char
  | [] => []
  | c :: cs =>
    if c = '\t' then
      let size := tabStop - column % tabStop
      List.replicate size ' ' ++ expandTabs (column + size) cs
    else c :: expandTabs (column + charWidth c) cs

/-- Whether a character belongs to a word. -/
def inWord (c : Char) : Bool :=
  !isSpace c

/-- Cuts a line into words, each with the blanks behind it; the first one also has the
blanks in front of it. A line of blanks has no words. -/
def words (cs : List Char) : List (List Char) :=
  match _h : cs.dropWhile isSpace with
  | [] => []
  | c :: rest =>
    let behind := rest.dropWhile inWord
    (cs.takeWhile isSpace ++ c :: rest.takeWhile inWord ++ behind.takeWhile isSpace) ::
      words (behind.dropWhile isSpace)
termination_by cs.length
decreasing_by
  have hfront := (List.dropWhile_sublist isSpace (l := cs)).length_le
  have hword := (List.dropWhile_sublist inWord (l := rest)).length_le
  have hblank := (List.dropWhile_sublist isSpace (l := rest.dropWhile inWord)).length_le
  rw [_h] at hfront
  simp only [List.length_cons] at hfront
  omega

/-- Breaks a word into parts that fit into a width. The first arguments are the part so
far, last character first, and its width. -/
def chopFrom (width : Nat) (part : List Char) (column : Nat) : List Char → List (List Char)
  | [] => [part.reverse]
  | c :: cs =>
    if width < column + charWidth c then part.reverse :: chopFrom width [c] (charWidth c) cs
    else chopFrom width (c :: part) (column + charWidth c) cs

/-- Sets words one behind the other, in lines of a width. `line` is the line so far, and
`column` its width. -/
def breakFrom (overflow : Overflow) (width : Nat) (line : List Char) (column : Nat) :
    List (List Char) → List (List Char)
  | [] => [line]
  | word :: words =>
    let size := Text.width (trimEnd isSpace word)
    if column + size ≤ width then
      breakFrom overflow width (line ++ word) (column + Text.width word) words
    else
      let parts :=
        if width < size && overflow = .fold then chopFrom width [] 0 word else [word]
      let last := parts.getLast?.getD []
      (if line.isEmpty then [] else [line]) ++ parts.dropLast ++
        breakFrom overflow width last (Text.width last) words

/-- Breaks a line into lines of a width. -/
def breakLine (overflow : Overflow) (width : Nat) (line : List Char) : List (List Char) :=
  match words line with
  | [] => [line]
  | words => breakFrom overflow width [] 0 words

/-- Drops the blanks at the end of a line, as far as it has more characters than a width
has columns. -/
def dropExcess (width : Nat) (line : List Char) : List Char :=
  let blanks := (line.reverse.takeWhile isSpace).length
  line.take (line.length - min blanks (line.length - width))

/-- The longest front of a line that fits into a width. -/
def takeWidth (width : Nat) : List Char → List Char
  | [] => []
  | c :: cs => if charWidth c ≤ width then c :: takeWidth (width - charWidth c) cs else []

/-- A line with blanks behind it up to a width. -/
def padTo (width : Nat) (line : List Char) : List Char :=
  line ++ List.replicate (width - Text.width line) ' '

/-- Cuts a line that is wider than a width. -/
def cutLine (overflow : Overflow) (width : Nat) (line : List Char) : List Char :=
  if Text.width line ≤ width then line
  else
    match overflow with
    | .fold => padTo width (takeWidth width line)
    | .ellipsis => padTo (width - 1) (takeWidth (width - 1) line) ++ ['…']

/-- Lays a text out in lines of a width. -/
def wrap (overflow : Overflow) (width : Nat) (cs : List Char) : List (List Char) :=
  (cs.splitOn '\n').flatMap fun line =>
    (breakLine overflow width (expandTabs 0 line)).map fun line =>
      cutLine overflow width (dropExcess width line)

/-- A text as it is laid out on a terminal of a width. -/
def laidOut (width : Nat) (text : String) : String :=
  String.ofList (['\n'].intercalate (wrap .fold width text.toList))

/-- Whether a text is measured as having a new line behind a character. -/
def isLineBreak (c : Char) : Bool :=
  let n := c.toNat
  (0x0a ≤ n && n ≤ 0x0d) || (0x1c ≤ n && n ≤ 0x1e) || n = 0x85 || n = 0x2028 || n = 0x2029

/-- The width of the widest line of a text. The first argument is the width of the line
so far. -/
def widestFrom (column : Nat) : List Char → Nat
  | [] => column
  | c :: cs =>
    if isLineBreak c then max column (widestFrom 0 cs) else widestFrom (column + charWidth c) cs

end SignatureSnippets.Text
