/-!
# Blank characters

The characters that count as blank where text from outside is trimmed. The wider
of the two sets also holds the four information separators of ASCII.
-/

namespace SignatureSnippets.Text

/-- The characters with the property White_Space. -/
def isWhiteSpace (c : Char) : Bool :=
  let n := c.toNat
  (0x09 ≤ n && n ≤ 0x0d) || n = 0x20 || n = 0x85 || n = 0xa0 || n = 0x1680 ||
    (0x2000 ≤ n && n ≤ 0x200a) || n = 0x2028 || n = 0x2029 || n = 0x202f || n = 0x205f ||
    n = 0x3000

/-- White space and the information separators. -/
def isSpace (c : Char) : Bool :=
  isWhiteSpace c || (0x1c ≤ c.toNat && c.toNat ≤ 0x1f)

/-- A text without the characters of a set at its end. -/
def trimEnd (blank : Char → Bool) (cs : List Char) : List Char :=
  (cs.reverse.dropWhile blank).reverse

/-- A text without the characters of a set at either end. -/
def trim (blank : Char → Bool) (cs : List Char) : List Char :=
  trimEnd blank (cs.dropWhile blank)

end SignatureSnippets.Text
