/-!
# References in values

A value can refer to a variable by its name in braces behind a dollar sign. A colon and
a dash behind the name introduce the text that is put in where there is no such
variable; without them nothing is put in. A reference cannot stand inside another one:
it ends at the first closing brace.
-/

namespace SignatureSnippets

/-- A reference to a variable. -/
structure Reference where
  name : List Char
  /-- What is put in where there is no such variable. -/
  fallback : List Char
  deriving DecidableEq, Repr

namespace Reference

/-- Whether a character can stand in the name of a variable that is referred to. -/
def inName (c : Char) : Bool :=
  c ≠ '\x7d' && c ≠ ':'

/-- Whether a character can stand in the text for a missing variable. -/
def inFallback (c : Char) : Bool :=
  c ≠ '\x7d'

/-- Reads a reference behind its opening brace, and gives the text behind it. -/
def read? (cs : List Char) : Option (Reference × List Char) :=
  match cs.dropWhile inName with
  | ':' :: '-' :: behind =>
    match behind.dropWhile inFallback with
    | _ :: rest => some (⟨cs.takeWhile inName, behind.takeWhile inFallback⟩, rest)
    | [] => none
  | '\x7d' :: rest => some (⟨cs.takeWhile inName, []⟩, rest)
  | _ => none

theorem length_read? {cs rest : List Char} {r : Reference} (h : read? cs = some (r, rest)) :
    rest.length < cs.length := by
  have hname := (List.dropWhile_sublist inName (l := cs)).length_le
  unfold read? at h
  split at h
  · rename_i behind heq
    have hfallback := (List.dropWhile_sublist inFallback (l := behind)).length_le
    rw [heq] at hname
    split at h
    · rename_i hrest
      cases h
      rw [hrest] at hfallback
      simp only [List.length_cons] at hname hfallback
      omega
    · cases h
  · rename_i heq
    cases h
    rw [heq] at hname
    exact hname
  · cases h

/-- Puts the values of variables in for the references of a text. A dollar sign that
starts no reference stands for itself. -/
def resolve (lookup : String → Option String) : List Char → List Char
  | [] => []
  | '$' :: '\x7b' :: cs =>
    match _h : read? cs with
    | some (r, rest) =>
      ((lookup (String.ofList r.name)).map String.toList).getD r.fallback ++ resolve lookup rest
    | none => '$' :: resolve lookup ('\x7b' :: cs)
  | c :: cs => c :: resolve lookup cs
termination_by cs => cs.length
decreasing_by
  · have := length_read? _h
    simp only [List.length_cons]
    omega
  · simp
  · simp

end Reference

end SignatureSnippets
