import SignatureSnippets.Text.Printable
import SignatureSnippets.Text.Surrogate

/-!
# Quoted text

The form in which a text is shown inside a message: between quotes, with
everything that would not survive a terminal written as an escape. Messages quote
a token or a signature so that a reader can tell blanks and control characters
apart from the message around them.
-/

namespace SignatureSnippets.Text

/-- The last `width` hexadecimal digits of `n`, in lower case. -/
def hexDigits : (width : Nat) → (n : Nat) → List Char
  | 0, _ => []
  | width + 1, n => hexDigits width (n / 16) ++ [Nat.digitChar (n % 16)]

/-- A text that holds a single quote and no double quote is put between double
quotes, every other text between single quotes. -/
def quoteMark (cs : List Char) : Char :=
  if cs.contains '\'' && !cs.contains '"' then '"' else '\''

/-- One character of a quoted text. The shortest escape that can hold the code
point is used: two, four or eight hexadecimal digits. A lone surrogate has four. -/
def quotedChar (mark c : Char) : List Char :=
  if let some unit := surrogate? c then '\\' :: 'u' :: hexDigits 4 unit
  else if c = mark || c = '\\' then ['\\', c]
  else if c = '\n' then ['\\', 'n']
  else if c = '\r' then ['\\', 'r']
  else if c = '\t' then ['\\', 't']
  else if isPrintable c then [c]
  else if c.toNat < 0x100 then '\\' :: 'x' :: hexDigits 2 c.toNat
  else if c.toNat < 0x10000 then '\\' :: 'u' :: hexDigits 4 c.toNat
  else '\\' :: 'U' :: hexDigits 8 c.toNat

/-- A text between quotes, fit to stand in a message. -/
def quoted (s : String) : String :=
  let cs := s.toList
  let mark := quoteMark cs
  String.ofList (mark :: cs.flatMap (quotedChar mark) ++ [mark])

/-- The message of a place that cannot be put out. One surrogate is shown by its value,
several by their place. -/
def UnencodableError.message (e : UnencodableError) : String :=
  "'utf-8' codec can't encode " ++
    (if e.length = 1 then
      "character '\\u" ++ String.ofList (hexDigits 4 e.unit) ++ "' in position " ++
        toString e.position
    else
      "characters in position " ++ toString e.position ++ "-" ++
        toString (e.position + e.length - 1)) ++
    ": surrogates not allowed"

end SignatureSnippets.Text
