import SignatureSnippets.Json.Display
import SignatureSnippets.Json.Reader
import SignatureSnippets.Text.Utf8

/-!
# Completion files

A file lists completions as a JSON array of objects with the fields `name` and `type`,
or as an object that holds such an array in its field `completions`. A missing field
is the empty text, and a field that is no string is taken by its display.

Where an array is wanted, an object stands for the list of its names and a string for
the list of its characters; neither has any fields of its own, so only the empty ones
list completions, and they list none.
-/

namespace SignatureSnippets

/-- What can keep a file from listing completions. -/
inductive CompletionsError where
  /-- The bytes are no text. -/
  | undecodable (error : Text.Utf8Error)
  /-- The text is no JSON; the message of the fault and its place are kept. -/
  | unreadable (error : Json.ReadError) (description : String)
  /-- What should list completions lists nothing. -/
  | notAList (kind : String)
  /-- A completion is no object. -/
  | notAnObject (kind : String)
  deriving DecidableEq, Repr

namespace Completions

/-- The elements of what should list completions. -/
def elements (value : Json) : Except CompletionsError (List Json) :=
  match value with
  | .arr items => .ok items
  | .obj fields => .ok (fields.map fun field => .str field.1)
  | .str text => .ok (text.toList.map fun c => .str (String.ofList [c]))
  | _ => .error (.notAList value.kindName)

/-- The display of a field; a missing one is empty. -/
def fieldText (fields : List (String × Json)) (name : String) : String :=
  ((fields.lookup name).map Json.display).getD ""

/-- A completion's name and signature. -/
def ofElement (value : Json) : Except CompletionsError (String × String) :=
  match value with
  | .obj fields => .ok (fieldText fields "name", fieldText fields "type")
  | _ => .error (.notAnObject value.kindName)

/-- The part of a document that lists completions. -/
def listing : Json → Json
  | .obj fields => (fields.lookup "completions").getD (.arr [])
  | value => value

/-- The completions of a document, by name and signature. -/
def ofJson (value : Json) : Except CompletionsError (List (String × String)) := do
  (← elements (listing value)).mapM ofElement

/-- The completions of a text. -/
def ofText (text : String) : Except CompletionsError (List (String × String)) :=
  match Json.read text with
  | .ok value => ofJson value
  | .error e => .error (.unreadable e (e.describe text))

/-- The completions of a file. -/
def ofBytes (bytes : List UInt8) : Except CompletionsError (List (String × String)) :=
  match Text.decodeUtf8 bytes with
  | .ok text => ofText (String.ofList (Text.unifyLineEnds text.toList))
  | .error e => .error (.undecodable e)

end Completions

end SignatureSnippets
