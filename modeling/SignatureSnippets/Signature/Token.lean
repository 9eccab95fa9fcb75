/-!
# Tokens of a signature

A signature is written with four structural marks; whatever stands between two
of them is one name. Names are kept as they are: a parameter with an inline type
such as `i:number` is a single name here, and it is the snippet side that later
takes it apart.
-/

namespace SignatureSnippets

/-- A token of a signature in its compact form. -/
inductive Token where
  /-- Opens the argument list of a function type. -/
  | opening
  /-- Closes the function type that was opened last. -/
  | closing
  /-- Announces a return type. -/
  | arrow
  /-- Separates arguments. -/
  | comma
  /-- Any other text: a type, a parameter, a label. -/
  | name (text : String)
  deriving DecidableEq, Repr, Inhabited

namespace Token

/-- The structural mark that a character stands for. -/
def ofChar? : Char → Option Token
  | '(' => some .opening
  | ')' => some .closing
  | '>' => some .arrow
  | ',' => some .comma
  | _ => none

/-- A token as it stands in the compact text. -/
def text : Token → String
  | .opening => "("
  | .closing => ")"
  | .arrow => ">"
  | .comma => ","
  | .name text => text

/-- Reads one token back; a text that is no structural mark is a name, the empty
text included. -/
def ofText (text : String) : Token :=
  if text = "(" then .opening
  else if text = ")" then .closing
  else if text = ">" then .arrow
  else if text = "," then .comma
  else .name text

theorem text_ofText (text : String) : (ofText text).text = text := by
  grind [ofText, Token.text]

/-- Spaces and tabs separate nothing in a signature. Line breaks are ordinary
characters of a name. -/
def isBlank (c : Char) : Bool :=
  c = ' ' || c = '\t'

/-- A character that can stand in a name: neither a structural mark nor blank. -/
def isNameChar (c : Char) : Bool :=
  (ofChar? c).isNone

/-- Cuts a compact text without blanks into tokens: each structural mark is a
token, and so is each longest run of other characters. -/
def scan : List Char → List Token
  | [] => []
  | c :: rest =>
    match ofChar? c with
    | some mark => mark :: scan rest
    | none =>
      .name (String.ofList (c :: rest.takeWhile isNameChar)) ::
        scan (rest.dropWhile isNameChar)
termination_by cs => cs.length
decreasing_by
  · simp
  · exact Nat.lt_succ_of_le (List.dropWhile_sublist _).length_le

end Token

end SignatureSnippets
