import SignatureSnippets.Proofs.Decoding
import SignatureSnippets.Proofs.Policies
import SignatureSnippets.Proofs.TabStops

/-!
# Completions as TextMate text

A completion is its name with the snippet behind it. The snippet is escaped and numbered,
the name is put there as it is, and an editor reads them as one text.

The two can be told apart all the same. A snippet starts with a parenthesis, and no piece
of TextMate text goes on with one, so the name is read as it would be read alone, and the
snippet behind it from its own beginning (`read_append`). What is left is to say which
names are read as themselves. One that is not has a place where more than one character
is read, or a closing brace, and `IsLiteral` lists what can stand there.
-/

namespace SignatureSnippets

namespace TextMate

variable {c : Char} {cs rest : List Char}

/-! ## A text and a parenthesis behind it -/

/-- The same piece, with more text behind it. -/
def withMore (more : List Char) (found : Piece × List Char) : Piece × List Char :=
  (found.1, found.2 ++ more)

theorem escaped?_append :
    escaped? (cs ++ '(' :: rest) = (escaped? cs).map (withMore ('(' :: rest)) := by
  cases cs with
  | nil => rfl
  | cons d cs =>
      rw [List.cons_append, escaped?, escaped?]
      split <;> rfl

theorem takeWhile_isDigit_append :
    (cs ++ '(' :: rest).takeWhile Char.isDigit = cs.takeWhile Char.isDigit := by
  rw [List.takeWhile_append]
  split
  · next hall =>
      rw [List.takeWhile_cons_of_neg (by decide), List.append_nil]
      exact ((List.takeWhile_prefix _).eq_of_length hall).symm
  · rfl

theorem dropWhile_isDigit_append :
    (cs ++ '(' :: rest).dropWhile Char.isDigit
      = cs.dropWhile Char.isDigit ++ '(' :: rest := by
  rw [List.dropWhile_append]
  split
  · next hall =>
      rw [List.dropWhile_cons_of_neg (by decide), List.isEmpty_iff.mp hall, List.nil_append]
  · rfl

theorem numbered?_append :
    numbered? (cs ++ '(' :: rest) = (numbered? cs).map (withMore ('(' :: rest)) := by
  cases cs with
  | nil => simp [numbered?]
  | cons d cs =>
      by_cases hd : d = '{'
      · subst hd
        rw [List.cons_append, numbered?, numbered?, takeWhile_isDigit_append,
          dropWhile_isDigit_append]
        split
        · rfl
        · cases cs.dropWhile Char.isDigit with
          | nil => simp
          | cons e after =>
              by_cases hcolon : e = ':'
              · subst hcolon
                rfl
              · by_cases hbrace : e = '}'
                · subst hbrace
                  rfl
                · simp [hcolon, hbrace]
      · simp [numbered?, hd]

theorem next_append :
    next c (cs ++ '(' :: rest) = withMore ('(' :: rest) (next c cs) := by
  rw [next, next, escaped?_append, numbered?_append]
  split
  · cases escaped? cs <;> rfl
  · split
    · cases numbered? cs <;> rfl
    · split <;> rfl

/-- Reading does not go across a parenthesis. -/
theorem read_append :
    read (cs ++ '(' :: rest) = read cs ++ read ('(' :: rest) := by
  induction cs using read.induct with
  | case1 => rw [read_nil]; rfl
  | case2 c cs ih =>
      rw [List.cons_append, read_cons, next_append, read_cons c cs, withMore, ih]
      rfl

/-! ## Literal text -/

/-- A text of which every character stands for itself. -/
structure IsLiteral (cs : List Char) : Prop where
  no_closing : '}' ∉ cs
  no_escape : ∀ c, isSpecial c = true → ¬ ['\\', c] <:+: cs
  no_opening : ∀ digits : List Char, digits ≠ [] → (∀ d ∈ digits, d.isDigit = true) →
    ¬ '$' :: '{' :: (digits ++ [':']) <:+: cs

theorem isLiteral_nil : IsLiteral [] := by
  constructor
  · exact List.not_mem_nil
  · intro c _ h
    cases List.eq_nil_of_infix_nil h
  · intro digits _ _ h
    cases List.eq_nil_of_infix_nil h

theorem IsLiteral.tail (h : IsLiteral (c :: cs)) : IsLiteral cs := by
  constructor
  · intro hmem
    exact h.no_closing (List.mem_cons_of_mem c hmem)
  · intro d hd hin
    exact h.no_escape d hd (List.infix_cons hin)
  · intro digits hne hdigits hin
    exact h.no_opening digits hne hdigits (List.infix_cons hin)

theorem IsLiteral.next_eq (h : IsLiteral (c :: cs)) : next c cs = (.literal c, cs) := by
  rw [next]
  split
  · next hc =>
      rcases hfound : escaped? cs with _ | ⟨piece, rest⟩
      · rfl
      · obtain ⟨d, hd, rfl⟩ := escaped?_eq_some hfound
        refine absurd ?_ (h.no_escape d hd)
        exact ⟨[], rest, by simp [hc]⟩
  · split
    · next hc =>
        rcases hfound : numbered? cs with _ | ⟨piece, rest⟩
        · rfl
        · obtain ⟨digits, hne, hdigits, rfl | rfl⟩ := numbered?_eq_some hfound
          · refine absurd ?_ (h.no_opening digits hne hdigits)
            exact ⟨[], rest, by simp [hc]⟩
          · exact absurd (by simp) h.tail.no_closing
    · split
      · next hc => exact absurd (hc ▸ List.mem_cons_self) h.no_closing
      · rfl

theorem IsLiteral.cons (hnext : next c cs = (.literal c, cs)) (h : IsLiteral cs) :
    IsLiteral (c :: cs) := by
  constructor
  · intro hmem
    rcases List.mem_cons.mp hmem with rfl | hmem
    · cases hnext
    · exact h.no_closing hmem
  · intro d hd hin
    rcases List.infix_cons_iff.mp hin with ⟨rest, hrest⟩ | hin
    · -- An escape is read as the escaped character.
      cases hrest
      simp [next, escaped?, hd] at hnext
    · exact h.no_escape d hd hin
  · intro digits hne hdigits hin
    rcases List.infix_cons_iff.mp hin with ⟨rest, hrest⟩ | hin
    · cases hrest
      simp [next, numbered?_of_colon hne hdigits] at hnext
    · exact h.no_opening digits hne hdigits hin

theorem length_read (cs : List Char) : (read cs).length ≤ cs.length := by
  induction cs using read.induct with
  | case1 => rw [read_nil]; rfl
  | case2 c cs ih =>
      have hnext := length_next c cs
      rw [read_cons, List.length_cons, List.length_cons]
      omega

theorem read_eq_map_literal_iff : read cs = cs.map .literal ↔ IsLiteral cs := by
  induction cs with
  | nil => simp [read_nil, isLiteral_nil]
  | cons c cs ih =>
      rw [read_cons, List.map_cons, List.cons_eq_cons]
      constructor
      · rintro ⟨hpiece, hrest⟩
        -- As many pieces as characters are left, so no character is skipped.
        have hskip : (next c cs).2 = cs := by
          have hlen := length_read (next c cs).2
          rw [hrest, List.length_map] at hlen
          exact (next_suffix c cs).eq_of_length (Nat.le_antisymm (length_next c cs) hlen)
        rw [hskip] at hrest
        exact IsLiteral.cons (Prod.ext hpiece hskip) (ih.mp hrest)
      · intro h
        rw [h.next_eq]
        exact ⟨rfl, ih.mpr h.tail⟩

end TextMate

open TextMate

/-- A completion is read as its name alone would be read, and then as its snippet, which
is what the template is rendered as. -/
structure Expansion.ReadInParts (x : Expansion) (snippet template : String) : Prop where
  content : (read snippet.toList).map Piece.symbol
    = template.toList.map TemplateSymbol.ofChar
  numbered : (read snippet.toList).filterMap Piece.number? = List.range' 1 x.tabStops
  parts : read x.completion.toList = read x.name.toList ++ read snippet.toList
  literal_iff :
    read x.completion.toList = x.name.toList.map .literal ++ read snippet.toList ↔
      IsLiteral x.name.toList
  numbered_iff :
    (read x.completion.toList).filterMap Piece.number? = List.range' 1 x.tabStops ↔
      (read x.name.toList).filterMap Piece.number? = []

/-- The snippet of a function type starts with a parenthesis. -/
theorem FnType.toList_snippet_textmate (t : FnType) (noise : Option String) :
    ∃ rest, (t.snippet .textmate noise).text.toList = '(' :: rest := by
  rw [toList_snippet, toList_template, MarkerStyle.renderFrom]
  exact ⟨_, rfl⟩

theorem FnType.readInParts (t : FnType) (noise : Option String) (signature name : String) :
    Expansion.ReadInParts ⟨signature, name, .snippet (t.snippet .textmate noise)⟩
      (t.snippet .textmate noise).text (t.template noise) := by
  have hparts : read (name ++ (t.snippet .textmate noise).text).toList
      = read name.toList ++ read (t.snippet .textmate noise).text.toList := by
    obtain ⟨rest, hrest⟩ := t.toList_snippet_textmate noise
    rw [String.toList_append, hrest, read_append]
  have hnumbered : (read (t.snippet .textmate noise).text.toList).filterMap Piece.number?
      = List.range' 1 (t.snippet .textmate noise).tabStops := by
    rw [toList_snippet]
    exact filterMap_number?_read_renderFrom 0 (t.template noise).toList
  constructor
  · rw [toList_snippet]
    exact map_symbol_read_renderFrom 0 (t.template noise).toList
  · exact hnumbered
  · exact hparts
  · change read (name ++ (t.snippet .textmate noise).text).toList = _ ↔ _
    rw [hparts, List.append_left_inj, read_eq_map_literal_iff]
  · change (read (name ++ (t.snippet .textmate noise).text).toList).filterMap _
      = List.range' 1 (t.snippet .textmate noise).tabStops ↔ _
    rw [hparts, List.filterMap_append, hnumbered, List.append_left_eq_self]

namespace Expander

variable {e : Expander} {signature : String} {s : Signature} {t : FnType}

/-- Whatever its name is, a completion is read in two parts. The first is the name itself
exactly if the name is literal, and the tab stops are those of the snippet exactly if the
name has none. -/
theorem completion_reads_in_parts (name : String) (hstyle : e.style = .textmate)
    (h : Signature.parse signature = .ok s)
    (ht : s.type?.bind SigType.fnType? = some t) :
    ∃ x snippet, (e.expand signature name).result = .ok x ∧ x.name = name ∧
      x.snippet? = some snippet ∧ x.ReadInParts snippet (t.template e.noise) := by
  have hresult := result_expand_of_function (e := e) h ht name
  rw [hstyle] at hresult
  exact ⟨_, _, hresult, rfl, rfl, t.readInParts e.noise signature name⟩

theorem parse_oneParam :
    Signature.parse "fn(a)" = .ok ⟨⟨[], some (.fn [.name "a"] none)⟩, 0⟩ := by
  have htokens : tokenize "fn(a)" = [.opening, .name "a", .closing] := by decide +kernel
  rw [Signature.parse, htokens]
  cbv

theorem snippet_oneParam :
    FnType.snippet ⟨[.name "a"], none⟩ .textmate none = ⟨"($\x7b1:a\x7d)", 1⟩ := by
  decide +kernel

theorem completion_reads_in_parts_dollar :
    let e : Expander := ⟨.textmate, none, true⟩
    let x : Expansion := ⟨"fn(a)", "$el", .snippet ⟨"($\x7b1:a\x7d)", 1⟩⟩
    Signature.parse "fn(a)" = .ok ⟨⟨[], some (.fn [.name "a"] none)⟩, 0⟩ ∧
      (e.expand "fn(a)" "$el").result = .ok x ∧
      x.ReadInParts "($\x7b1:a\x7d)" (FnType.template ⟨[.name "a"], none⟩ none) ∧
      read x.completion.toList
        = "$el".toList.map .literal ++ read "($\x7b1:a\x7d)".toList := by
  intro e x
  have hexpand : (e.expand "fn(a)" "$el").result = .ok x := by
    rw [result_expand_of_function parse_oneParam rfl, snippet_oneParam]
  have hliteral : IsLiteral "$el".toList :=
    IsLiteral.cons rfl (IsLiteral.cons rfl (IsLiteral.cons rfl isLiteral_nil))
  obtain ⟨y, snippet, hy, -, hsnippet, hreads⟩ :=
    completion_reads_in_parts (e := e) "$el" rfl parse_oneParam rfl
  rw [hexpand] at hy
  cases hy
  cases hsnippet
  exact ⟨parse_oneParam, hexpand, hreads, hreads.literal_iff.mpr hliteral⟩

/-- The name is not escaped, so one that is a tab stop is read as a tab stop. -/
theorem completion_rereads_name :
    let e : Expander := ⟨.textmate, none, true⟩
    let x : Expansion := ⟨"fn(a)", "$\x7b1\x7d", .snippet ⟨"($\x7b1:a\x7d)", 1⟩⟩
    (e.expand "fn(a)" "$\x7b1\x7d").result = .ok x ∧
      read x.completion.toList ≠ x.name.toList.map .literal ++ read "($\x7b1:a\x7d)".toList ∧
      (read x.completion.toList).filterMap Piece.number? = [1, 1] ∧
      List.range' 1 x.tabStops = [1] := by
  intro e x
  have hexpand : (e.expand "fn(a)" "$\x7b1\x7d").result = .ok x := by
    rw [result_expand_of_function parse_oneParam rfl, snippet_oneParam]
  have hreads := FnType.readInParts ⟨[.name "a"], none⟩ none "fn(a)" "$\x7b1\x7d"
  rw [snippet_oneParam] at hreads
  have hname : read "$\x7b1\x7d".toList = [.tabStop 1] := by
    have hread := read_numbered (@numbered?_of_brace ['1'] [] (by simp) (by simp))
    rw [read_nil] at hread
    exact hread
  refine ⟨hexpand, ?_, ?_, rfl⟩
  · intro h
    exact (hreads.literal_iff.mp h).no_closing (by decide)
  · rw [hreads.parts, List.filterMap_append, hname, hreads.numbered]
    rfl

end Expander

end SignatureSnippets
