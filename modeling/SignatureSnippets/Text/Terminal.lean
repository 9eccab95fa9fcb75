/-!
# Terminal sequences and line ends

Text that is put out plainly loses the sequences by which a terminal is told to change
its colours: an escape character, an opening bracket, a list of numbers and a letter. A
line ends with a line feed, without a carriage return in front of it.
-/

namespace SignatureSnippets.Text

/-- Whether a character can stand in the list of numbers of a sequence. -/
def isSequenceNumber (c : Char) : Bool :=
  c.isDigit || c = ';' || c = '?'

/-- The text behind the sequence whose opening bracket stands in front of it. -/
def afterSequence? (cs : List Char) : Option (List Char) :=
  match cs.dropWhile isSequenceNumber with
  | c :: rest => if c.isAlpha then some rest else none
  | [] => none

theorem length_afterSequence? {cs rest : List Char} (h : afterSequence? cs = some rest) :
    rest.length < cs.length := by
  have hdrop := (List.dropWhile_sublist isSequenceNumber (l := cs)).length_le
  unfold afterSequence? at h
  split at h
  · rename_i heq
    split at h <;> cases h
    rw [heq] at hdrop
    exact hdrop
  · cases h

/-- A text without its terminal sequences. -/
def dropSequences : List Char → List Char
  | [] => []
  | '\x1b' :: '[' :: cs =>
    match _h : afterSequence? cs with
    | some rest => dropSequences rest
    | none => '\x1b' :: dropSequences ('[' :: cs)
  | c :: cs => c :: dropSequences cs
termination_by cs => cs.length
decreasing_by
  · have := length_afterSequence? _h
    simp only [List.length_cons]
    omega
  · simp
  · simp

/-- A text with its line ends written as line feeds. A carriage return that no line feed
follows ends no line. -/
def plainLineEnds : List Char → List Char
  | '\r' :: '\n' :: cs => '\n' :: plainLineEnds cs
  | c :: cs => c :: plainLineEnds cs
  | [] => []

end SignatureSnippets.Text
