/-!
# Numerals in text

Integers as people write them in settings and on command lines: decimal digits that
single underscores may group, behind an optional sign, with zeros in front of them and
with a fraction of zeros behind them. The zeros in front are dropped before the digits
are looked at, together with all underscores among them.

Numbers of more than 4300 digits are not read. This is noticed already at the front of a
text, whatever follows the digits there.
-/

namespace SignatureSnippets.Text

/-- The most digits that are read. -/
def maxDigits : Nat := 4300

/-- Whether a text starts with more digits than are read, behind an optional minus sign
and without a zero in front of them. -/
def startsTooLong (cs : List Char) : Bool :=
  let digits := (if cs.head? = some '-' then cs.tail else cs).takeWhile Char.isDigit
  digits.head? ≠ some '0' && maxDigits < digits.length

/-- Reads decimal digits, between any two of which one underscore may stand. `digits` is
the number read so far, and `due` says that a digit has to come next. -/
def groupedDigits? (digits : Nat) (due : Bool) : List Char → Option Nat
  | [] => if due then none else some digits
  | c :: cs =>
    if c = '_' then
      if due then none else groupedDigits? digits true cs
    else if c.isDigit then
      groupedDigits? (10 * digits + (c.toNat - '0'.toNat)) false cs
    else none

/-- Whether a character can be dropped in front of a number that starts with zero. -/
def isPadding (c : Char) : Bool :=
  c = '0' || c = '_'

/-- Drops the zeros in front of a number, and the underscores among them. One zero is
left if they are the whole number, which then has to end with it. -/
def dropPadding? (cs : List Char) : Option (List Char) :=
  if cs.head? = some '0' then
    match cs.dropWhile isPadding with
    | [] => if cs.getLast? = some '0' then some ['0'] else none
    | c :: rest =>
      if c = '.' then
        if (cs.takeWhile isPadding).getLast? = some '0' then some ('0' :: c :: rest) else none
      else some (c :: rest)
  else some cs

/-- Drops a fraction of zeros. -/
def dropFraction (cs : List Char) : List Char :=
  match cs.dropWhile (· ≠ '.') with
  | '.' :: zero :: zeros =>
    if (zero :: zeros).all (· = '0') then cs.takeWhile (· ≠ '.') else cs
  | _ => cs

/-- Reads an integer without its sign. -/
def natural? (cs : List Char) : Option Nat := do
  let digits := dropFraction (← dropPadding? cs)
  if maxDigits < digits.countP Char.isDigit then none else groupedDigits? 0 true digits

/-- Reads an integer: at most one sign, and the digits. -/
def integer? : List Char → Option Int
  | '-' :: cs => (natural? cs).map fun n => -Int.ofNat n
  | '+' :: cs => (natural? cs).map Int.ofNat
  | cs => (natural? cs).map Int.ofNat

end SignatureSnippets.Text
