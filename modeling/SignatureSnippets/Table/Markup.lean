import SignatureSnippets.Text.Emoji

/-!
# Markup

Text for the terminal can be marked up with tags in square brackets. A tag starts with
a lower-case letter or one of `#`, `/` and `@`, and ends at the first closing bracket;
an opening bracket cannot stand inside it. A backslash in front of a tag makes it
ordinary text, and two of them are one backslash. Between tags, emoji can be named by
their codes. Text that is not meant as markup is escaped before it is put into markup
text; its emoji codes are not.
-/

namespace SignatureSnippets.Markup

/-- Whether a tag can start with a character. -/
def startsTag (c : Char) : Bool :=
  ('a' ≤ c && c ≤ 'z') || c = '#' || c = '/' || c = '@'

/-- The tag at the start of a text, with its brackets, and the rest of the text. -/
def tag? : List Char → Option (List Char × List Char)
  | '[' :: c :: cs =>
    if startsTag c then
      match cs.dropWhile fun d => d ≠ '[' && d ≠ ']' with
      | ']' :: rest =>
        some ('[' :: c :: cs.takeWhile (fun d => d ≠ '[' && d ≠ ']') ++ [']'], rest)
      | _ => none
    else none
  | _ => none

theorem length_tag? {cs tag rest : List Char} (h : tag? cs = some (tag, rest)) :
    rest.length < cs.length := by
  unfold tag? at h
  split at h
  · rename_i c cs
    split at h
    · have hdrop := (List.dropWhile_sublist (fun d => d ≠ '[' && d ≠ ']') (l := cs)).length_le
      split at h
      · rename_i heq
        cases h
        rw [heq] at hdrop
        simp only [List.length_cons] at hdrop ⊢
        omega
      · cases h
    · cases h
  · cases h

/-- The backslashes that a text starts with, by their number, and the rest. -/
def backslashes (cs : List Char) : Nat × List Char :=
  ((cs.takeWhile (· = '\\')).length, cs.dropWhile (· = '\\'))

/-- Makes every tag of a text ordinary text: the backslashes in front of it are doubled
and one more is added. -/
def escapeTags (cs : List Char) : List Char :=
  match _h : cs with
  | [] => []
  | c :: tail =>
    match _ht : tag? (backslashes cs).2 with
    | some (tag, rest) =>
      List.replicate (2 * (backslashes cs).1 + 1) '\\' ++ tag ++ escapeTags rest
    | none => c :: escapeTags tail
termination_by cs.length
decreasing_by
  · have := length_tag? _ht
    have := (List.dropWhile_sublist (· = '\\') (l := cs)).length_le
    simp only [backslashes, _h] at *
    omega
  · simp

/-- Escapes text for use in markup text. A single backslash at the end is doubled, so
that it does not escape what is put behind it. -/
def escape (text : String) : String :=
  let cs := escapeTags text.toList
  match cs.reverse with
  | '\\' :: '\\' :: _ => String.ofList cs
  | '\\' :: _ => String.ofList (cs ++ ['\\'])
  | _ => String.ofList cs

/-- Cuts markup text into the pieces that are shown one behind the other. Tags are left
out; of the backslashes in front of a tag every second one is shown, and the tag itself
if their number is odd. The first argument is the piece so far, last character first. -/
def piecesFrom (piece cs : List Char) : List (List Char) :=
  match _h : cs with
  | [] => [piece.reverse]
  | c :: tail =>
    match _ht : tag? (backslashes cs).2 with
    | some (tag, rest) =>
      piece.reverse :: List.replicate ((backslashes cs).1 / 2) '\\' ::
        (if (backslashes cs).1 % 2 = 1 then tag else []) :: piecesFrom [] rest
    | none => piecesFrom (c :: piece) tail
termination_by cs.length
decreasing_by
  · have := length_tag? _ht
    have := (List.dropWhile_sublist (· = '\\') (l := cs)).length_le
    simp only [backslashes, _h] at *
    omega
  · simp

/-- Drops the backslash in front of an opening bracket that starts no tag. -/
def dropBackslashes : List Char → List Char
  | '\\' :: '[' :: cs => '[' :: dropBackslashes cs
  | c :: cs => c :: dropBackslashes cs
  | [] => []

/-- The control characters that a terminal would act on and that are not shown. -/
def isControl (c : Char) : Bool :=
  c = '\x07' || c = '\x08' || c = '\x0b' || c = '\x0c' || c = '\x0d'

/-- What a piece of markup text shows. -/
def shownPiece (piece : List Char) : List Char :=
  (Text.Emoji.replaceCodes (dropBackslashes piece)).filter fun c => !isControl c

/-- The text that markup text shows. -/
def render (markup : String) : String :=
  String.ofList ((piecesFrom [] markup.toList).flatMap shownPiece)

end SignatureSnippets.Markup
