import SignatureSnippets.Text.Quoted

/-!
# Request targets

What a request is sent to: a path, or an address with a path. Only the path counts. Its
parts `.` and `..` are resolved, what follows a question mark or a number sign is dropped,
and characters may be written by the hexadecimal values of their bytes behind a per cent
sign, even twice over.
-/

namespace SignatureSnippets.Http

/-- What can be wrong with a target. -/
inductive TargetFault where
  /-- It is longer than targets may be. -/
  | tooLong
  /-- It holds a control character. -/
  | control (c : Char) (position : Nat)
  /-- Its path starts with two slashes. -/
  | doubleSlash
  /-- Its path starts with a colon. -/
  | colon
  deriving DecidableEq, Repr

/-- The wording of a fault. -/
def TargetFault.message : TargetFault → String
  | .tooLong => "URL too long"
  | .control c position =>
    "Invalid non-printable ASCII character in URL, " ++ Text.quoted (String.ofList [c]) ++
      " at position " ++ toString position ++ "."
  | .doubleSlash => "Relative URLs cannot have a path starting with '//'"
  | .colon => "Relative URLs cannot have a path starting with ':'"

namespace Target

/-- The longest target that is read, in characters. -/
def maxLength : Nat := 65536

/-- Whether a character is one of ASCII's control characters. -/
def isControl (c : Char) : Bool :=
  c.toNat < 0x20 || c.toNat = 0x7f

/-- The first control character of a target, with its position. -/
def control? (cs : List Char) : Option (Char × Nat) :=
  match cs.dropWhile fun c => !isControl c with
  | [] => none
  | c :: _ => some (c, (cs.takeWhile fun c => !isControl c).length)

/-- Whether a character can stand in a scheme. -/
def inScheme (c : Char) : Bool :=
  c.isAlphanum || c = '+' || c = '.' || c = '-'

/-- The scheme of a target, empty if it has none, and the text behind the scheme's
colon. -/
def splitScheme (cs : List Char) : List Char × List Char :=
  match cs.takeWhile inScheme, cs.dropWhile inScheme with
  | [], ':' :: rest => ([], rest)
  | c :: scheme, ':' :: rest => if c.isAlpha then (c :: scheme, rest) else ([], cs)
  | _, _ => ([], cs)

/-- Whether a character can stand in a path. -/
def inPath (c : Char) : Bool :=
  c ≠ '?' && c ≠ '#'

/-- Whether a character can stand in the authority of an address. -/
def inAuthority (c : Char) : Bool :=
  inPath c && c ≠ '/'

/-- The authority behind two slashes, empty if there is none, and the text behind it. -/
def splitAuthority : List Char → List Char × List Char
  | '/' :: '/' :: cs => (cs.takeWhile inAuthority, cs.dropWhile inAuthority)
  | cs => ([], cs)

/-- Adds a part to those of a path. Two dots take the part before them away, unless only
the slash at the start is left. -/
def addPart (parts : List (List Char)) (part : List Char) : List (List Char) :=
  if part = ['.'] then parts
  else if part = ['.', '.'] then (if parts = [[]] then parts else parts.dropLast)
  else parts ++ [part]

/-- A path without the parts `.` and `..`. -/
def resolved (path : List Char) : List Char :=
  ['/'].intercalate ((path.splitOn '/').foldl addPart [])

/-- The value of a hexadecimal digit in either case. -/
def hexDigit? (c : Char) : Option Nat :=
  if c.isDigit then some (c.toNat - '0'.toNat)
  else if 'a' ≤ c.toLower && c.toLower ≤ 'f' then some (c.toLower.toNat - 'a'.toNat + 10)
  else none

/-- Puts characters in the place of their bytes behind per cent signs. Only ASCII matters
for the paths of the service, so any other byte becomes the replacement character. -/
def decoded : List Char → List Char
  | '%' :: a :: b :: cs =>
    match hexDigit? a, hexDigit? b with
    | some high, some low =>
      (if high < 8 then Char.ofNat (16 * high + low) else '\ufffd') :: decoded cs
    | _, _ => '%' :: decoded (a :: b :: cs)
  | c :: cs => c :: decoded cs
  | [] => []

/-- The path that a target names. A target without a scheme or without a host is taken
from the root on. -/
def path (target : String) : Except TargetFault (List Char) :=
  let cs := target.toList
  if maxLength < cs.length then .error .tooLong
  else
    match control? cs with
    | some (c, position) => .error (.control c position)
    | none =>
      let (scheme, behind) := splitScheme cs
      let (authority, rest) := splitAuthority behind
      let path := rest.takeWhile inPath
      if scheme = [] && authority = [] && ['/', '/'].isPrefixOf path then .error .doubleSlash
      else if scheme = [] && authority = [] && path.head? = some ':' then .error .colon
      else
        let rooted :=
          if scheme = [] || authority = [] then '/' :: path.dropWhile (· = '/') else path
        .ok (decoded (decoded (resolved rooted)))

end Target

end SignatureSnippets.Http
