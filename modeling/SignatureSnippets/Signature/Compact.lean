import SignatureSnippets.Signature.Token

/-!
# The compact form of a signature

Before a signature is cut into tokens its text is made compact, in three passes
over the whole text: the keyword in front of an argument list is dropped
(`fn(` becomes `(`), the arrow is shortened to one character (`->` becomes `>`),
and every object type written out in braces collapses to the name `Object`. Each
pass replaces the leftmost occurrence first and goes on behind it, so what a
replacement leaves behind is not looked at again by the same pass.

An object type holds at least one character and ends at the first closing brace:
`{}` stays as it is, and so does an opening brace that is never closed.
-/

namespace SignatureSnippets.Compact

/-- Drops the keyword in front of every argument list. -/
def dropKeyword : List Char → List Char
  | 'f' :: 'n' :: '(' :: rest => '(' :: dropKeyword rest
  | c :: rest => c :: dropKeyword rest
  | [] => []

/-- Shortens every arrow to its head. -/
def shortenArrows : List Char → List Char
  | '-' :: '>' :: rest => '>' :: shortenArrows rest
  | c :: rest => c :: shortenArrows rest
  | [] => []

/-- What follows an object type, given what follows its opening brace; `none`
if no object type starts there. -/
def afterObject? : List Char → Option (List Char)
  | '}' :: _ => none
  | cs => (cs.dropWhile (· ≠ '}')).tail?

theorem length_afterObject? {cs rest : List Char} (h : afterObject? cs = some rest) :
    rest.length ≤ cs.length := by
  have hdrop := (List.dropWhile_sublist (· ≠ '}') (l := cs)).length_le
  unfold afterObject? at h
  split at h
  · cases h
  · cases hcs : cs.dropWhile (· ≠ '}') with
    | nil => rw [hcs] at h; cases h
    | cons c tail =>
        rw [hcs] at h hdrop
        cases h
        simp only [List.length_cons] at hdrop
        omega

/-- The name that stands for every object type. -/
def objectName : List Char :=
  ['O', 'b', 'j', 'e', 'c', 't']

/-- Collapses every object type to its name. -/
def collapseObjects : List Char → List Char
  | [] => []
  | c :: cs =>
    if c = '{' then
      match _h : afterObject? cs with
      | some rest => objectName ++ collapseObjects rest
      | none => c :: collapseObjects cs
    else c :: collapseObjects cs
termination_by cs => cs.length
decreasing_by
  · have := length_afterObject? _h
    simp only [List.length_cons]
    omega
  · simp
  · simp

/-- The compact form of a text. -/
def ofChars (cs : List Char) : List Char :=
  collapseObjects (shortenArrows (dropKeyword cs))

end SignatureSnippets.Compact

namespace SignatureSnippets

/-- The compact form of a signature's text. -/
def compact (text : String) : String :=
  String.ofList (Compact.ofChars text.toList)

/-- The tokens of a signature's text: its compact form without blanks, cut at the
structural marks. -/
def tokenize (text : String) : List Token :=
  Token.scan ((Compact.ofChars text.toList).filter fun c => !Token.isBlank c)

end SignatureSnippets
