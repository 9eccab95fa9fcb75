import SignatureSnippets.Signature.Address
import SignatureSnippets.Signature.Compact
import SignatureSnippets.Text.Quoted

/-!
# Reading signatures

The tree of a signature is built token by token and never taken back. Sloppy text
is tolerated as far as it has a reading: a function type may stay open, and commas
may be missing or repeated. Only two things are refused, a second return type for
one function type, and text behind the parenthesis that closes the outermost
level.

The tree under construction has an outermost function type that stands for the
place where the signature itself is written; what is read becomes its return
type. Three things decide where the next piece of content goes: the open function
types, the one that was closed last, and whether the last token was an arrow. A
return type belongs to the function type closed last, which need not lie inside
any open one; so the builder keeps the whole tree and names its parts by address.
-/

namespace SignatureSnippets

/-- What can be wrong with the structure of a signature. Positions count tokens
from zero. -/
inductive StructureError where
  /-- A return type for a function type that has one. -/
  | returnTwice (position : Nat)
  /-- A token that needs an open function type where none is left. -/
  | unbalanced (token : Token) (position : Nat)
  deriving DecidableEq, Repr

namespace StructureError

/-- The fault in a few words. -/
def summary : StructureError → String
  | .returnTwice _ => "Return type assigned twice"
  | .unbalanced .. => "Unbalanced parentheses"

/-- Where the fault is. -/
def details : StructureError → String
  | .returnTwice position =>
    "token at position " ++ toString position ++ " follows an existing return type"
  | .unbalanced token position =>
    "token " ++ Text.quoted token.text ++ " at position " ++ toString position ++
      " follows the outermost ')'"

/-- A summary, followed by the details in parentheses where there are any. -/
def describe (summary : String) (details : Option String) : String :=
  match details with
  | none | some "" => summary
  | some details => summary ++ " (" ++ details ++ ")"

/-- The whole text of the error. -/
def message (e : StructureError) : String :=
  describe e.summary (some e.details)

end StructureError

/-- A signature while it is being read. -/
structure Builder where
  /-- The tree so far. -/
  root : FnType := {}
  /-- The open function types, innermost first. -/
  openTypes : List Address := [[]]
  /-- The function type that a return type would belong to. -/
  lastClosed : Address := []
  /-- Whether content is an argument; it is a return type otherwise. -/
  inArguments : Bool := false
  /-- The number of tokens read. -/
  position : Nat := 0

namespace Builder

/-- The place that the next argument of the function type at `owner` gets. -/
def nextPlace (b : Builder) (owner : Address) : Nat :=
  ((b.root.at? owner).map fun t => t.args.length).getD 0

/-- Whether the function type at `owner` has a return type. -/
def hasRet (b : Builder) (owner : Address) : Bool :=
  (b.root.at? owner).any fun t => t.ret.isSome

/-- Puts content where it belongs. The result is the tree with the content in it
and the address of the content. -/
def place (b : Builder) (token : Token) (item : SigType) :
    Except StructureError (FnType × Address) :=
  if b.inArguments then
    match b.openTypes with
    | [] => .error (.unbalanced token b.position)
    | owner :: _ =>
      .ok (b.root.modifyAt owner (.addArg item), .arg (b.nextPlace owner) :: owner)
  else if b.hasRet b.lastClosed then
    .error (.returnTwice b.position)
  else
    .ok (b.root.modifyAt b.lastClosed (.setRet item), .ret :: b.lastClosed)

/-- What a token does to the tree and to the open function types. -/
def accept (b : Builder) : Token → Except StructureError Builder
  | .opening => do
    let (root, address) ← b.place .opening (.fn [] none)
    return { b with root, openTypes := address :: b.openTypes }
  | .closing =>
    match b.openTypes with
    | [] => .error (.unbalanced .closing b.position)
    | closed :: rest => .ok { b with openTypes := rest, lastClosed := closed }
  | .arrow => .ok b
  | .comma => .ok b
  | .name text => do
    let (root, _) ← b.place (.name text) (.name text)
    return { b with root }

/-- Reads one token. Content is an argument except directly behind an arrow. -/
def step (b : Builder) (token : Token) : Except StructureError Builder := do
  let b ← b.accept token
  return { b with inArguments := token ≠ .arrow, position := b.position + 1 }

/-- Reads tokens one after the other, up to the first one that is refused. -/
def run (b : Builder) (tokens : List Token) : Except StructureError Builder :=
  tokens.foldlM step b

/-- How many function types are still open, the outermost level not counted. -/
def unclosed (b : Builder) : Nat :=
  b.openTypes.length - 1

end Builder

/-- A signature as it was read. -/
structure Signature where
  /-- The outermost function type; the type that was read is its return type. -/
  root : FnType
  /-- How many function types the text left open. -/
  unclosed : Nat
  deriving Repr

namespace Signature

/-- Reads a signature from its tokens. -/
def ofTokens (tokens : List Token) : Except StructureError Signature := do
  let b ← Builder.run {} tokens
  return { root := b.root, unclosed := b.unclosed }

/-- Reads a signature from its text. -/
def parse (text : String) : Except StructureError Signature :=
  ofTokens (tokenize text)

/-- The type that was read; `none` when the text held no content. -/
def type? (s : Signature) : Option SigType :=
  s.root.ret

end Signature

end SignatureSnippets
