import SignatureSnippets.Proofs.Rendering

/-!
# A TextMate snippet can be read back

The editor that gets a snippet sees only text. `TextMate.read` is what it makes of
it, in one pass from left to right: a backslash makes the next character literal if
that is one of the three that need it, a dollar sign with digits in braces is a tab
stop, any other closing brace ends a default text, and everything else is literal.

Nothing of a template is lost on that way. The one thing to see is that no piece of
the rendered text is taken for another one, and for that each character of the
template is looked at with any text behind what it is rendered as
(`read_renderFrom_cons`): its escape, or its tab stop, is complete by itself, so
that what follows it is read from its own beginning.
-/

namespace SignatureSnippets

/-! ## Reading -/

namespace TextMate

/-- What is seen at a place of a snippet. -/
inductive Piece where
  | literal (c : Char)
  /-- The start of a tab stop that has a default text. -/
  | opening (number : Nat)
  /-- The end of a default text. -/
  | closing
  /-- A tab stop without a default text. -/
  | tabStop (number : Nat)
  deriving DecidableEq, Repr

def isSpecial (c : Char) : Bool :=
  c = '$' || c = '}' || c = '\\'

/-- The tab stop that starts with a dollar sign, given what follows the sign, and
what follows the tab stop. -/
def numbered? : List Char → Option (Piece × List Char)
  | '{' :: cs =>
    let digits := cs.takeWhile Char.isDigit
    if digits = [] then none
    else
      match cs.dropWhile Char.isDigit with
      | ':' :: rest => some (.opening (Nat.ofDigitChars 10 digits 0), rest)
      | '}' :: rest => some (.tabStop (Nat.ofDigitChars 10 digits 0), rest)
      | _ => none
  | _ => none

/-- The character that a backslash makes literal, given what follows the backslash,
and what follows the character. -/
def escaped? : List Char → Option (Piece × List Char)
  | c :: rest => if isSpecial c then some (.literal c, rest) else none
  | [] => none

/-- The piece that starts with a character, given what follows the character, and
what follows the piece. -/
def next (c : Char) (cs : List Char) : Piece × List Char :=
  if c = '\\' then (escaped? cs).getD (.literal c, cs)
  else if c = '$' then (numbered? cs).getD (.literal c, cs)
  else if c = '}' then (.closing, cs)
  else (.literal c, cs)

section
variable {cs rest : List Char} {piece : Piece}

theorem numbered?_eq_some (h : numbered? cs = some (piece, rest)) :
    ∃ digits, digits ≠ [] ∧ (∀ d ∈ digits, d.isDigit = true) ∧
      (cs = '{' :: (digits ++ ':' :: rest) ∨ cs = '{' :: (digits ++ '}' :: rest)) := by
  unfold numbered? at h
  split at h
  · next cs =>
      have hall : cs.takeWhile Char.isDigit ++ cs.dropWhile Char.isDigit = cs :=
        List.takeWhile_append_dropWhile
      simp only [] at h
      split at h
      · cases h
      · next hne =>
          refine ⟨_, hne, List.all_eq_true.mp List.all_takeWhile, ?_⟩
          split at h
          · next heq =>
              cases h
              rw [heq] at hall
              exact Or.inl (congrArg _ hall.symm)
          · next heq =>
              cases h
              rw [heq] at hall
              exact Or.inr (congrArg _ hall.symm)
          · cases h
  · cases h

theorem escaped?_eq_some (h : escaped? cs = some (piece, rest)) :
    ∃ c, isSpecial c = true ∧ cs = c :: rest := by
  unfold escaped? at h
  split at h
  · split at h
    · next hc =>
        cases h
        exact ⟨_, hc, rfl⟩
    · cases h
  · cases h

end

theorem next_suffix (c : Char) (cs : List Char) : (next c cs).2 <:+ cs := by
  rw [next]
  split
  · rcases h : escaped? cs with _ | ⟨piece, rest⟩
    · exact List.suffix_refl cs
    · obtain ⟨d, -, rfl⟩ := escaped?_eq_some h
      exact List.suffix_cons d rest
  · split
    · rcases h : numbered? cs with _ | ⟨piece, rest⟩
      · exact List.suffix_refl cs
      · obtain ⟨digits, -, -, rfl | rfl⟩ := numbered?_eq_some h
        · exact ⟨'{' :: (digits ++ [':']), by simp⟩
        · exact ⟨'{' :: (digits ++ ['}']), by simp⟩
    · split <;> exact List.suffix_refl cs

theorem length_next (c : Char) (cs : List Char) :
    (next c cs).2.length ≤ cs.length :=
  (next_suffix c cs).length_le

/-- Reads a snippet from left to right. -/
def read : List Char → List Piece
  | [] => []
  | c :: cs => (next c cs).1 :: read (next c cs).2
termination_by cs => cs.length
decreasing_by exact Nat.lt_succ_of_le (length_next c cs)

end TextMate

/-! ## Templates, character by character -/

/-- What a character of a template stands for. -/
inductive TemplateSymbol where
  | marker (m : Marker)
  | literal (c : Char)
  deriving DecidableEq, Repr

def TemplateSymbol.ofChar (c : Char) : TemplateSymbol :=
  match Marker.ofChar? c with
  | some m => .marker m
  | none => .literal c

theorem TemplateSymbol.ofChar_injective : Function.Injective ofChar := by
  intro c d h
  unfold ofChar at h
  cases hc : Marker.ofChar? c with
  | none =>
      cases hd : Marker.ofChar? d with
      | none =>
          rw [hc, hd] at h
          cases h
          rfl
      | some m =>
          rw [hc, hd] at h
          cases h
  | some m =>
      cases hd : Marker.ofChar? d with
      | none =>
          rw [hc, hd] at h
          cases h
      | some n =>
          rw [hc, hd] at h
          cases h
          rw [Marker.ofChar?_eq_some_iff] at hc hd
          rw [hc, hd]

namespace TextMate

/-- What a piece was in the template. -/
def Piece.symbol : Piece → TemplateSymbol
  | .literal c => .literal c
  | .opening _ => .marker .primaryOpen
  | .closing => .marker .primaryClose
  | .tabStop _ => .marker .secondary

/-- The number of a tab stop. -/
def Piece.number? : Piece → Option Nat
  | .literal _ => none
  | .opening number => some number
  | .closing => none
  | .tabStop number => some number

/-- The piece that a character of a template is rendered as, where the next number
is the given one. -/
def Piece.ofChar (number : Nat) (c : Char) : Piece :=
  match Marker.ofChar? c with
  | some .primaryOpen => .opening number
  | some .primaryClose => .closing
  | some .secondary => .tabStop number
  | none => .literal c

theorem Piece.symbol_ofChar (number : Nat) (c : Char) :
    (ofChar number c).symbol = .ofChar c := by
  unfold ofChar TemplateSymbol.ofChar
  cases Marker.ofChar? c with
  | none => rfl
  | some mark => cases mark <;> rfl

theorem Piece.number?_ofChar (number : Nat) (c : Char) :
    (ofChar number c).number? = if startsTabStop c then some number else none := by
  unfold ofChar startsTabStop
  cases Marker.ofChar? c with
  | none => rfl
  | some mark => cases mark <;> rfl

/-! ## Every rendered character is one piece -/

theorem read_nil : read [] = [] := by
  rw [read]

theorem read_cons (c : Char) (cs : List Char) :
    read (c :: cs) = (next c cs).1 :: read (next c cs).2 := by
  rw [read]

theorem read_escape (c : Char) (rest : List Char) :
    read (MarkerStyle.textmate.escape c ++ rest) = .literal c :: read rest := by
  rw [MarkerStyle.escape]
  split
  · next hspecial =>
      have hnext : next '\\' (c :: rest) = (.literal c, rest) := by
        rw [next, if_pos rfl, escaped?, isSpecial, if_pos hspecial]
        rfl
      rw [List.cons_append, List.singleton_append, read_cons, hnext]
  · next hspecial =>
      have hnext : next c rest = (.literal c, rest) := by
        simp only [Bool.or_eq_true, decide_eq_true_eq, not_or] at hspecial
        rw [next, if_neg hspecial.2, if_neg hspecial.1.1, if_neg hspecial.1.2]
      rw [List.singleton_append, read_cons, hnext]

section
variable {number : Nat} {digits rest : List Char}

theorem takeWhile_digits (hdigits : ∀ d ∈ digits, d.isDigit = true) {c : Char}
    (hc : c.isDigit = false) :
    (digits ++ c :: rest).takeWhile Char.isDigit = digits := by
  rw [List.takeWhile_append_of_pos hdigits, List.takeWhile_cons_of_neg (by simp [hc]),
    List.append_nil]

theorem dropWhile_digits (hdigits : ∀ d ∈ digits, d.isDigit = true) {c : Char}
    (hc : c.isDigit = false) :
    (digits ++ c :: rest).dropWhile Char.isDigit = c :: rest := by
  rw [List.dropWhile_append_of_pos hdigits, List.dropWhile_cons_of_neg (by simp [hc])]

theorem numbered?_of_colon (hne : digits ≠ []) (hdigits : ∀ d ∈ digits, d.isDigit = true) :
    numbered? ('{' :: (digits ++ ':' :: rest))
      = some (.opening (Nat.ofDigitChars 10 digits 0), rest) := by
  simp only [numbered?, takeWhile_digits hdigits (c := ':') rfl,
    dropWhile_digits hdigits (c := ':') rfl, hne, if_false]

theorem numbered?_of_brace (hne : digits ≠ []) (hdigits : ∀ d ∈ digits, d.isDigit = true) :
    numbered? ('{' :: (digits ++ '}' :: rest))
      = some (.tabStop (Nat.ofDigitChars 10 digits 0), rest) := by
  simp only [numbered?, takeWhile_digits hdigits (c := '}') rfl,
    dropWhile_digits hdigits (c := '}') rfl, hne, if_false]

theorem isDigit_toDigits : ∀ d ∈ Nat.toDigits 10 number, d.isDigit = true :=
  fun _ hd => Nat.isDigit_of_mem_toDigits (by decide) (by decide) hd

theorem numbered?_opening :
    numbered? ('{' :: (Nat.toDigits 10 number ++ ':' :: rest))
      = some (.opening number, rest) := by
  rw [numbered?_of_colon Nat.toDigits_ne_nil isDigit_toDigits,
    Nat.ofDigitChars_ten_toDigits]

theorem numbered?_tabStop :
    numbered? ('{' :: (Nat.toDigits 10 number ++ '}' :: rest))
      = some (.tabStop number, rest) := by
  rw [numbered?_of_brace Nat.toDigits_ne_nil isDigit_toDigits,
    Nat.ofDigitChars_ten_toDigits]

theorem read_numbered {cs : List Char} {piece : Piece}
    (h : numbered? cs = some (piece, rest)) :
    read ('$' :: cs) = piece :: read rest := by
  have hnext : next '$' cs = (piece, rest) := by
    rw [next, if_neg (by decide), if_pos rfl, h]
    rfl
  rw [read_cons, hnext]

theorem read_opening :
    read ((MarkerStyle.textmate.opening.fill number).toList ++ rest)
      = .opening number :: read rest := by
  rw [MarkerStyle.fill_opening_textmate]
  simpa using read_numbered (@numbered?_opening number rest)

theorem read_tabStop :
    read ((MarkerStyle.textmate.empty.fill number).toList ++ rest)
      = .tabStop number :: read rest := by
  rw [MarkerStyle.fill_empty_textmate]
  simpa using read_numbered (@numbered?_tabStop number rest)

theorem read_closing :
    read (MarkerStyle.textmate.closing.toList ++ rest) = .closing :: read rest :=
  read_cons '}' rest

end

/-- A character of a template is one piece of what is read, and what is read behind
it is what the rest of the template is rendered as. -/
theorem read_renderFrom_cons (used : Nat) (c : Char) (cs : List Char) :
    read (MarkerStyle.textmate.renderFrom used (c :: cs))
      = Piece.ofChar (used + 1) c :: read (MarkerStyle.textmate.renderFrom
          (used + if startsTabStop c then 1 else 0) cs) := by
  rw [MarkerStyle.renderFrom, Piece.ofChar, startsTabStop]
  cases Marker.ofChar? c with
  | none => exact read_escape c _
  | some mark =>
      cases mark with
      | primaryOpen => exact read_opening
      | primaryClose => exact read_closing
      | secondary => exact read_tabStop

theorem map_symbol_read_renderFrom (used : Nat) (cs : List Char) :
    (read (MarkerStyle.textmate.renderFrom used cs)).map Piece.symbol
      = cs.map TemplateSymbol.ofChar := by
  induction cs generalizing used with
  | nil => rw [MarkerStyle.renderFrom, read_nil, List.map_nil, List.map_nil]
  | cons c cs ih =>
      rw [read_renderFrom_cons, List.map_cons, Piece.symbol_ofChar, ih,
        List.map_cons]

theorem filterMap_number?_read_renderFrom (used : Nat) (cs : List Char) :
    (read (MarkerStyle.textmate.renderFrom used cs)).filterMap Piece.number?
      = List.range' (used + 1) (cs.countP startsTabStop) := by
  induction cs generalizing used with
  | nil => rw [MarkerStyle.renderFrom, read_nil]; rfl
  | cons c cs ih =>
      rw [read_renderFrom_cons, List.filterMap_cons, Piece.number?_ofChar, ih,
        List.countP_cons]
      cases startsTabStop c with
      | false => rfl
      | true => exact List.range'_succ.symm

/-! ## Whole snippets -/

/-- A rendered template is read back as the template, character by character, and
its tab stops are numbered from one on. So no two templates have the same snippet. -/
theorem read_render :
    (∀ template : String,
      (read (Snippet.render template .textmate).text.toList).map Piece.symbol
          = template.toList.map TemplateSymbol.ofChar ∧
        (read (Snippet.render template .textmate).text.toList).filterMap
            Piece.number?
          = List.range' 1 (Snippet.render template .textmate).tabStops) ∧
      Function.Injective fun template =>
        (Snippet.render template .textmate).text := by
  have hread : ∀ template : String,
      (read (Snippet.render template .textmate).text.toList).map Piece.symbol
        = template.toList.map TemplateSymbol.ofChar := by
    intro template
    rw [Snippet.render, String.toList_ofList]
    exact map_symbol_read_renderFrom 0 template.toList
  constructor
  · intro template
    refine ⟨hread template, ?_⟩
    rw [Snippet.render, String.toList_ofList]
    exact filterMap_number?_read_renderFrom 0 template.toList
  · intro template other h
    have htext : (Snippet.render template .textmate).text
        = (Snippet.render other .textmate).text := h
    have hsame := hread template
    rw [htext, hread other] at hsame
    rw [← String.toList_inj]
    exact ((List.map_inj_right fun _ _ heq =>
      TemplateSymbol.ofChar_injective heq).mp hsame).symm

example : read "$\x7b1:a\\\x7d$\x7b2\x7d\x7d $\x7bb\x7d".toList
    = [.opening 1, .literal 'a', .literal '}', .tabStop 2, .closing, .literal ' ',
      .literal '$', .literal '{', .literal 'b', .closing] := by cbv

end TextMate

end SignatureSnippets
