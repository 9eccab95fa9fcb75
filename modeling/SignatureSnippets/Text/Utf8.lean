import SignatureSnippets.Text.Quoted

/-!
# Reading UTF-8

Bytes become text only if all of them form well-formed UTF-8. Otherwise the first
place where they do not is reported: a byte that starts no character, a character
that is broken off by a byte which cannot continue it, or one that the end of the
bytes cuts short. Surrogates and needlessly long forms are no characters, and already
the second byte tells them apart.
-/

namespace SignatureSnippets.Text

/-- What is wrong with a place in the bytes. -/
inductive Utf8Fault where
  | invalidStart
  | invalidContinuation
  | unexpectedEnd
  deriving DecidableEq, Repr

/-- A faulty place: the fault, the number of the first byte, that byte, and how many
bytes belong to the fault. -/
structure Utf8Error where
  fault : Utf8Fault
  position : Nat
  byte : UInt8
  length : Nat
  deriving DecidableEq, Repr

/-- The wording of a fault. -/
def Utf8Fault.message : Utf8Fault → String
  | .invalidStart => "invalid start byte"
  | .invalidContinuation => "invalid continuation byte"
  | .unexpectedEnd => "unexpected end of data"

/-- The message of an error. One byte is shown by its value, several by their place. -/
def Utf8Error.message (e : Utf8Error) : String :=
  "'utf-8' codec can't decode " ++
    (if e.length = 1 then
      "byte 0x" ++ String.ofList (hexDigits 2 e.byte.toNat) ++ " in position " ++
        toString e.position
    else
      "bytes in position " ++ toString e.position ++ "-" ++
        toString (e.position + e.length - 1)) ++
    ": " ++ e.fault.message

/-- What a first byte announces: how many bytes follow it, and the bits of the
character that it holds itself. -/
def leadByte? (b : Nat) : Option (Nat × Nat) :=
  if b < 0x80 then some (0, b)
  else if b < 0xc2 then none
  else if b < 0xe0 then some (1, b - 0xc0)
  else if b < 0xf0 then some (2, b - 0xe0)
  else if b < 0xf5 then some (3, b - 0xf0)
  else none

/-- Whether a byte can follow directly behind a first byte. -/
def canFollow (lead b : Nat) : Bool :=
  let least := if lead = 0xe0 then 0xa0 else if lead = 0xf0 then 0x90 else 0x80
  let most := if lead = 0xed then 0x9f else if lead = 0xf4 then 0x8f else 0xbf
  least ≤ b && b ≤ most

/-- Whether a byte can stand in any later place of a character. -/
def isContinuation (b : Nat) : Bool :=
  0x80 ≤ b && b ≤ 0xbf

/-- Reads the bytes behind the first one of a character. `value` is what the bytes
before them hold, `seen` the number of these, and `owed` how many are still to come. -/
def continuation (fits : Nat → Bool) (value seen : Nat) :
    (owed : Nat) → List UInt8 → Except (Utf8Fault × Nat) Nat
  | 0, _ => .ok value
  | _ + 1, [] => .error (.unexpectedEnd, seen)
  | owed + 1, b :: bytes =>
    if fits b.toNat then
      continuation isContinuation (64 * value + b.toNat % 64) (seen + 1) owed bytes
    else .error (.invalidContinuation, seen)

/-- Decodes bytes, the first of which has the given position. `skip` of them belong to a
character that is already read. -/
def decodeFrom (position skip : Nat) : List UInt8 → Except Utf8Error (List Char)
  | [] => .ok []
  | b :: bytes =>
    match skip with
    | skip + 1 => decodeFrom (position + 1) skip bytes
    | 0 =>
      match leadByte? b.toNat with
      | none => .error ⟨.invalidStart, position, b, 1⟩
      | some (owed, value) =>
        match continuation (canFollow b.toNat) value 1 owed bytes with
        | .error (fault, length) => .error ⟨fault, position, b, length⟩
        | .ok code => (decodeFrom (position + 1) owed bytes).map (Char.ofNat code :: ·)

/-- The text that bytes hold. -/
def decodeUtf8 (bytes : List UInt8) : Except Utf8Error String :=
  (decodeFrom 0 0 bytes).map String.ofList

/-- A text without the byte order mark that may stand in front of it. -/
def dropByteOrderMark : List Char → List Char
  | '\ufeff' :: cs => cs
  | cs => cs

/-- Writes every line end, be it a carriage return, a line feed or both, as a line
feed. -/
def unifyLineEnds : List Char → List Char
  | '\r' :: '\n' :: cs => '\n' :: unifyLineEnds cs
  | c :: cs => (if c = '\r' then '\n' else c) :: unifyLineEnds cs
  | [] => []

end SignatureSnippets.Text
