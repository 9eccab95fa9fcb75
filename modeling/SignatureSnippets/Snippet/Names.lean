/-!
# Argument names

What is shown for an argument in a snippet. A signature lists a callback as a
label followed by the callback's type (`compare:` and then a function type), and
it gives a plain parameter its type inline (`i:number`). Here such texts are
reduced to the names a reader wants to see: first each label is joined with what
it labels, then inline types are cut off.

A text that starts like a callback's placeholder is a placeholder, and is left
alone. So is a text that starts with a colon.
-/

namespace SignatureSnippets.Names

/-- Joins neighbours from left to right. Each element is offered once together with its
right neighbour; a pair that joins is replaced and skipped, so what came out of a join
is not joined again. -/
def joinPairs {α : Type} (join : α → α → Option α) : List α → List α
  | [] => []
  | [last] => [last]
  | left :: right :: rest =>
    match join left right with
    | some joined => joined :: joinPairs join rest
    | none => left :: joinPairs join (right :: rest)

/-- The text that every callback placeholder starts with. -/
def callbackOpening : String := "function("

/-- Whether a text is the placeholder of a callback. -/
def isCallback (text : String) : Bool :=
  callbackOpening.toList.isPrefixOf text.toList

/-- Joins a label, a text that ends with a colon, with the text behind it. A callback's
placeholder takes the place of its label; any other text is dropped in favour of the
label's name. -/
def joinLabel (left right : String) : Option String :=
  if right = "" then none
  else if left.toList.getLast? = some ':' then
    if isCallback right then some right else some (String.ofList left.toList.dropLast)
  else none

/-- Cuts off an inline type together with its colon. -/
def stripType (text : String) : String :=
  if isCallback text || text.toList.head? = some ':' then text
  else String.ofList (text.toList.takeWhile (· ≠ ':'))

/-- The names for a list of arguments. Empty texts have none. -/
def clean (args : List String) : List String :=
  ((joinPairs joinLabel args).filter (· ≠ "")).map stripType

end SignatureSnippets.Names
