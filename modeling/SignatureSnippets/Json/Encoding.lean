import SignatureSnippets.Text.Surrogate
import SignatureSnippets.Text.Utf8

/-!
# Encodings of JSON

A JSON text that arrives as bytes may be written in UTF-8, UTF-16 or UTF-32. It starts with
an ASCII character, so the zeros among its first bytes tell these apart. In UTF-8 a byte
order mark may stand in front of the text.
-/

namespace SignatureSnippets.Json

/-- An encoding; the wider ones come in two orders of bytes. -/
inductive Encoding where
  | utf8
  | utf16 (bigEndian : Bool)
  | utf32 (bigEndian : Bool)
  deriving DecidableEq, Repr

namespace Encoding

/-- The encoding that the first bytes of a text show. -/
def ofBytes (bytes : List UInt8) : Encoding :=
  match bytes with
  | a :: b :: c :: d :: _ =>
    if a = 0 then (if b = 0 then .utf32 true else .utf16 true)
    else if b = 0 then (if c = 0 && d = 0 then .utf32 false else .utf16 false)
    else .utf8
  | [a, b] => if a = 0 then .utf16 true else if b = 0 then .utf16 false else .utf8
  | _ => .utf8

/-- The number that two bytes write. -/
def pair (bigEndian : Bool) (a b : Nat) : Nat :=
  if bigEndian then 0x100 * a + b else 0x100 * b + a

/-- The units of UTF-16 that bytes write. -/
def units16? (bigEndian : Bool) : List UInt8 → Option (List Nat)
  | [] => some []
  | [_] => none
  | a :: b :: bytes => (units16? bigEndian bytes).map (pair bigEndian a.toNat b.toNat :: ·)

/-- The character of a code point. -/
def charOf (n : Nat) : Char :=
  if 0xd800 ≤ n && n < 0xe000 then Text.standIn n else Char.ofNat n

/-- The characters that units of UTF-16 write. -/
def ofUnits16 : List Nat → List Char
  | [] => []
  | [unit] => [charOf unit]
  | high :: low :: units =>
    if 0xd800 ≤ high && high < 0xdc00 && 0xdc00 ≤ low && low < 0xe000 then
      Char.ofNat (0x10000 + (high - 0xd800) * 0x400 + (low - 0xdc00)) :: ofUnits16 units
    else charOf high :: ofUnits16 (low :: units)

/-- The characters that units of UTF-32 write, given by their halves. -/
def ofHalves32? (bigEndian : Bool) : List Nat → Option (List Char)
  | [] => some []
  | [_] => none
  | a :: b :: halves =>
    let code := if bigEndian then 0x10000 * a + b else 0x10000 * b + a
    if code < 0x110000 then (ofHalves32? bigEndian halves).map (charOf code :: ·) else none

end Encoding

/-- The JSON text that the bytes of a text write. -/
def decode? (text : String) : Option (List Char) :=
  let bytes := text.toUTF8.toList
  match Encoding.ofBytes bytes with
  | .utf8 => some (Text.dropByteOrderMark text.toList)
  | .utf16 bigEndian => (Encoding.units16? bigEndian bytes).map Encoding.ofUnits16
  | .utf32 bigEndian =>
    (Encoding.units16? bigEndian bytes).bind (Encoding.ofHalves32? bigEndian)

end SignatureSnippets.Json
