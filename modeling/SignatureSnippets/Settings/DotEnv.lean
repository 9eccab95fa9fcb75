import SignatureSnippets.Settings.Environment
import SignatureSnippets.Settings.Reference
import SignatureSnippets.Text.Blank
import SignatureSnippets.Text.Utf8

/-!
# Dotenv files

A file of settings, an entry `NAME=value` to a line. A byte order mark in front of the
file, blank lines and lines that start with a number sign are passed over, `export` may
stand in front of a name, and a name may be put in single quotes. A value may be put in
single or double quotes and then go on over several lines; a backslash makes a quote or a
backslash part of it, and between double quotes it introduces the escapes of control
characters as well. A value without quotes ends before a number sign with a blank in front
of it, or at the end of the line. An entry without an equals sign takes its name away from
earlier ones.

A line with an entry that does not follow these rules is skipped from the fault on. A
quote that is never closed is such a fault, and then reading goes on in the next line.

Values can refer to variables. A reference is looked up among the entries in front of it
and then in the environment.
-/

namespace SignatureSnippets.DotEnv

/-! ## Reading the front of a text -/

/-- The outcome of reading the front of a text: what was read, and the text behind it;
after a fault nothing, and the text from the fault on. -/
structure Reading (α : Type) where
  value : Option α
  rest : List Char

namespace Reading

variable {α β : Type}

/-- Goes on behind what was read, unless that is faulty. -/
def bind (x : Reading α) (f : α → List Char → Reading β) : Reading β :=
  match x.value with
  | some a => f a x.rest
  | none => ⟨none, x.rest⟩

theorem bind_suffix {x : Reading α} {f : α → List Char → Reading β} {cs : List Char}
    (hx : x.rest <:+ cs) (hf : ∀ a, (f a x.rest).rest <:+ x.rest) : (x.bind f).rest <:+ cs := by
  unfold bind
  split
  · exact (hf _).trans hx
  · exact hx

end Reading

/-- The blanks inside a line. -/
def isInlineBlank (c : Char) : Bool :=
  Text.isSpace c && c ≠ '\n'

/-- Whether a character belongs to the same line as the one in front of it. -/
def inLine (c : Char) : Bool :=
  c ≠ '\n'

/-! ## Names -/

/-- The text behind a name's `export`, if there is one. -/
def dropExport (cs : List Char) : List Char :=
  match cs with
  | 'e' :: 'x' :: 'p' :: 'o' :: 'r' :: 't' :: c :: rest =>
    if isInlineBlank c then rest.dropWhile isInlineBlank else cs
  | _ => cs

theorem dropExport_suffix (cs : List Char) : dropExport cs <:+ cs := by
  unfold dropExport
  split
  · split
    · refine (List.dropWhile_suffix _).trans ?_
      rename_i c rest _
      exact List.suffix_append ['e', 'x', 'p', 'o', 'r', 't', c] rest
    · exact List.suffix_refl _
  · exact List.suffix_refl _

/-- Whether a character can stand in a name without quotes. -/
def inName (c : Char) : Bool :=
  !(c = '=' || c = '#' || Text.isSpace c)

/-- Whether a character can stand in a name between quotes. -/
def inQuotedName (c : Char) : Bool :=
  c ≠ '\''

/-- Reads the name of an entry; a comment has none. -/
def name (cs : List Char) : Reading (Option (List Char)) :=
  match cs with
  | '#' :: _ => ⟨some none, cs⟩
  | '\'' :: quoted =>
    match quoted.takeWhile inQuotedName, quoted.dropWhile inQuotedName with
    | c :: text, _ :: rest => ⟨some (some (c :: text)), rest⟩
    | _, _ => ⟨none, cs⟩
  | _ =>
    match cs.takeWhile inName with
    | [] => ⟨none, cs⟩
    | text => ⟨some (some text), cs.dropWhile inName⟩

theorem name_suffix (cs : List Char) : (name cs).rest <:+ cs := by
  unfold name
  split
  · exact List.suffix_refl _
  · rename_i quoted
    split
    · rename_i closing rest _ heq
      have := List.dropWhile_suffix inQuotedName (l := quoted)
      rw [heq] at this
      exact ((List.suffix_cons closing rest).trans this).trans (List.suffix_cons _ _)
    · exact List.suffix_refl _
  · split
    · exact List.suffix_refl _
    · exact List.dropWhile_suffix _

/-! ## Values -/

/-- The character that a backslash and a letter stand for between double quotes. -/
def escapedLetter? (c : Char) : Option Char :=
  match c with
  | '\\' => some '\\'
  | '\'' => some '\''
  | '"' => some '"'
  | 'a' => some '\x07'
  | 'b' => some '\x08'
  | 'f' => some '\x0c'
  | 'n' => some '\n'
  | 'r' => some '\r'
  | 't' => some '\t'
  | 'v' => some '\x0b'
  | _ => none

/-- The character that an escape stands for between the given quotes. -/
def escaped? (quote c : Char) : Option Char :=
  if quote = '"' then escapedLetter? c
  else if c = '\\' || c = '\'' then some c
  else none

/-- What a backslash and the character behind it stand for between the given quotes. If
they are no escape, they stand for themselves. -/
def escaped (quote c : Char) : List Char :=
  match escaped? quote c with
  | some letter => [letter]
  | none => ['\\', c]

/-- Reads a quoted value behind its opening quote, and gives the text behind the closing
one. -/
def quoted? (quote : Char) : List Char → Option (List Char × List Char)
  | [] => none
  | '\\' :: c :: cs =>
    (quoted? quote cs).map fun (text, rest) => (escaped quote c ++ text, rest)
  | c :: cs =>
    if c = quote then some ([], cs)
    else (quoted? quote cs).map fun (text, rest) => (c :: text, rest)

theorem quoted?_suffix {quote : Char} {cs text rest : List Char}
    (h : quoted? quote cs = some (text, rest)) : rest <:+ cs := by
  fun_induction quoted? quote cs generalizing text with
  | case1 => cases h
  | case2 c cs ih =>
      obtain ⟨⟨text', rest'⟩, hread, heq⟩ := Option.map_eq_some_iff.mp h
      cases heq
      exact (ih hread).trans (List.suffix_append ['\\', c] cs)
  | case3 c cs =>
      cases h
      exact List.suffix_cons _ _
  | case4 c cs _ _ ih =>
      obtain ⟨⟨text', rest'⟩, hread, heq⟩ := Option.map_eq_some_iff.mp h
      cases heq
      exact (ih hread).trans (List.suffix_cons _ _)

/-- Drops a comment with the blanks in front of it. -/
def dropComment : List Char → List Char
  | [] => []
  | c :: cs =>
    if Text.isSpace c && (cs.dropWhile Text.isSpace).head? = some '#' then []
    else c :: dropComment cs

/-- The value that a line without quotes writes. -/
def plainValue (line : List Char) : List Char :=
  Text.trim Text.isSpace (dropComment line)

/-- Reads the value behind an equals sign. -/
def value (cs : List Char) : Reading (List Char) :=
  match cs.dropWhile isInlineBlank with
  | c :: behind =>
    if c = '\'' || c = '"' then
      match quoted? c behind with
      | some (text, rest) => ⟨some text, rest⟩
      | none => ⟨none, c :: behind⟩
    else ⟨some (plainValue (cs.takeWhile inLine)), cs.dropWhile inLine⟩
  | [] => ⟨some [], []⟩

theorem value_suffix (cs : List Char) : (value cs).rest <:+ cs := by
  have hblank := List.dropWhile_suffix isInlineBlank (l := cs)
  unfold value
  split
  · rename_i c behind heq
    rw [heq] at hblank
    split
    · split
      · rename_i hread
        exact ((quoted?_suffix hread).trans (List.suffix_cons _ _)).trans hblank
      · exact hblank
    · exact List.dropWhile_suffix _
  · exact List.nil_suffix

/-- Reads the equals sign and the value of an entry, if it has them. -/
def assigned (cs : List Char) : Reading (Option (List Char)) :=
  match cs with
  | '=' :: behind => (value behind).bind fun text rest => ⟨some (some text), rest⟩
  | _ => ⟨some none, cs⟩

theorem assigned_suffix (cs : List Char) : (assigned cs).rest <:+ cs := by
  unfold assigned
  split
  · exact (Reading.bind_suffix (value_suffix _) fun _ => List.suffix_refl _).trans
      (List.suffix_cons _ _)
  · exact List.suffix_refl _

/-! ## Entries -/

/-- Reads up to the end of a line, where only blanks and a comment may stand. -/
def lineEnd (cs : List Char) : Reading Unit :=
  match cs.dropWhile isInlineBlank with
  | '#' :: _ => ⟨some (), cs.dropWhile inLine⟩
  | '\n' :: rest => ⟨some (), '\n' :: rest⟩
  | [] => ⟨some (), []⟩
  | rest => ⟨none, rest⟩

theorem lineEnd_suffix (cs : List Char) : (lineEnd cs).rest <:+ cs := by
  have hblank := List.dropWhile_suffix isInlineBlank (l := cs)
  unfold lineEnd
  split
  · exact List.dropWhile_suffix _
  · rename_i heq
    rw [heq] at hblank
    exact hblank
  · exact List.nil_suffix
  · exact hblank

/-- A name, and the value that a file gives it; none where the name stands alone. -/
structure Entry where
  name : String
  value : Option (List Char)
  deriving DecidableEq, Repr

/-- Reads the entry that a text starts with, up to the end of its last line. A comment
is read as no entry. -/
def entry (cs : List Char) : Reading (Option Entry) :=
  (name (dropExport cs)).bind fun name rest =>
    (assigned (rest.dropWhile isInlineBlank)).bind fun value rest =>
      (lineEnd rest).bind fun _ rest =>
        ⟨some (name.map fun name => ⟨String.ofList name, value⟩), rest⟩

theorem entry_suffix (cs : List Char) : (entry cs).rest <:+ cs :=
  Reading.bind_suffix ((name_suffix _).trans (dropExport_suffix cs)) fun _ =>
    Reading.bind_suffix ((assigned_suffix _).trans (List.dropWhile_suffix _)) fun _ =>
      Reading.bind_suffix (lineEnd_suffix _) fun _ => List.suffix_refl _

/-- The text from the end of the line on in which reading an entry stopped. -/
def nextLine (cs : List Char) : List Char :=
  (entry cs).rest.dropWhile inLine

theorem length_nextLine {c : Char} {cs : List Char} (hc : c ≠ '\n') :
    (nextLine (c :: cs)).length < (c :: cs).length := by
  have hsuffix : nextLine (c :: cs) <:+ c :: cs :=
    (List.dropWhile_suffix _).trans (entry_suffix _)
  refine Nat.lt_of_le_of_ne hsuffix.length_le fun hlength => ?_
  have hhead := List.head?_dropWhile_not inLine (entry (c :: cs)).rest
  have heq : (entry (c :: cs)).rest.dropWhile inLine = c :: cs := hsuffix.eq_of_length hlength
  rw [heq] at hhead
  simp [inLine, hc] at hhead

/-- The entries of a file whose lines end with line feeds. -/
def entries (cs : List Char) : List Entry :=
  match _h : cs.dropWhile Text.isSpace with
  | [] => []
  | c :: rest => (entry (c :: rest)).value.join.toList ++ entries (nextLine (c :: rest))
termination_by cs.length
decreasing_by
  have hc : c ≠ '\n' := by
    have hhead := List.head?_dropWhile_not Text.isSpace cs
    rw [_h] at hhead
    rintro rfl
    have : Text.isSpace '\n' = true := by decide
    simp [this] at hhead
  have : (nextLine (c :: rest)).length < (c :: rest).length := length_nextLine hc
  have := (List.dropWhile_sublist Text.isSpace (l := cs)).length_le
  rw [_h] at this
  omega

/-! ## Assignments -/

/-- The value that a reference finds: that of an entry in front of it, empty if the name
stood alone there, or else that of the environment. -/
def lookup? (environment : Environment) (known : List (String × Option String))
    (name : String) : Option String :=
  match known.lookup name with
  | some value => some (value.getD "")
  | none => environment.lookup name

/-- Takes up an entry behind those that are known. -/
def define (environment : Environment) (known : List (String × Option String))
    (e : Entry) : List (String × Option String) :=
  Variables.put e.name
    (e.value.map fun text => String.ofList (Reference.resolve (lookup? environment known) text))
    known

/-- The assignments of a file, with the references in their values resolved. A name that
last stood alone has no value. -/
def assignments (environment : Environment) (content : String) :
    List (String × Option String) :=
  let cs := Text.unifyLineEnds (Text.dropByteOrderMark content.toList)
  (entries cs).foldl (define environment) []

end SignatureSnippets.DotEnv
