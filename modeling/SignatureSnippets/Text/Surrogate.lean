/-!
# Lone surrogates

JSON can escape half of a surrogate pair without the other half. Such a half is no
character, and a text that holds one can be read and worked on but not put out. Inside a
text it is kept as a stand-in, a code point that is assigned to no character.
-/

namespace SignatureSnippets.Text

/-- The first stand-in. -/
def firstStandIn : Nat := 0xef800

/-- The stand-in for half of a surrogate pair. -/
def standIn (unit : Nat) : Char :=
  Char.ofNat (firstStandIn + (unit - 0xd800))

/-- Whether a character is a stand-in. -/
def isStandIn (c : Char) : Bool :=
  firstStandIn ≤ c.toNat && c.toNat < firstStandIn + 0x800

/-- The half of a surrogate pair that a character stands for. -/
def surrogate? (c : Char) : Option Nat :=
  if isStandIn c then some (c.toNat - firstStandIn + 0xd800) else none

/-- A place in a text that cannot be put out: the first surrogate there, its position, and
how many stand in a row. -/
structure UnencodableError where
  unit : Nat
  position : Nat
  length : Nat
  deriving DecidableEq, Repr

/-- The first place in a text that cannot be put out. -/
def unencodable? (cs : List Char) : Option UnencodableError :=
  match cs.dropWhile fun c => !isStandIn c with
  | [] => none
  | c :: rest =>
    some
      { unit := (surrogate? c).getD 0,
        position := (cs.takeWhile fun c => !isStandIn c).length,
        length := (rest.takeWhile isStandIn).length + 1 }

end SignatureSnippets.Text
