import SignatureSnippets.Proofs.Compacting

/-!
# The compact form in one scan

The three passes come to the same as a single scan from left to right over the text as it
was written. At each place the scan replaces an object type, a keyword or an arrow that
starts there, or else copies one character; it never looks at what it has put out.

What the passes could do to each other is settled for one step of the scan
(`ofChars_cons`). The first two passes leave alone where an object type starts and ends, so
they may as well go through it and through what follows it apart (`afterObject?_respell`).
And where no keyword and no arrow starts they copy a character, even if dropping a keyword
behind it moves a parenthesis up to it (`respell_copy`).
-/

namespace SignatureSnippets.Compact

variable {cs rest : List Char} {c : Char}

/-! ## The scan -/

/-- What the scan puts out at the front of a text, and where it goes on. -/
def scanStep (c : Char) (cs : List Char) : List Char × List Char :=
  if c = '{' ∧ cs.head? ≠ some '}' ∧ '}' ∈ cs then
    (objectName, (cs.dropWhile (· ≠ '}')).tail)
  else if ['f', 'n', '('] <+: c :: cs then (['('], cs.drop 2)
  else if ['-', '>'] <+: c :: cs then (['>'], cs.drop 1)
  else ([c], cs)

theorem length_scanStep (c : Char) (cs : List Char) :
    (scanStep c cs).2.length ≤ cs.length := by
  unfold scanStep
  split_ifs
  · exact ((List.tail_sublist _).trans (List.dropWhile_sublist _)).length_le
  · exact (List.drop_sublist 2 cs).length_le
  · exact (List.drop_sublist 1 cs).length_le
  · exact Nat.le_refl _

/-- The output of the scan. -/
def scan : List Char → List Char
  | [] => []
  | c :: cs => (scanStep c cs).1 ++ scan (scanStep c cs).2
termination_by cs => cs.length
decreasing_by
  have := length_scanStep c cs
  simp only [List.length_cons]
  omega

/-! ## Object types through the first two passes -/

theorem afterObject?_append_brace {body : List Char} (hne : body ≠ []) (hbody : '}' ∉ body)
    (rest : List Char) : afterObject? (body ++ '}' :: rest) = some rest := by
  have hhead : (body ++ '}' :: rest).head? ≠ some '}' := by
    cases body with
    | nil => exact absurd rfl hne
    | cons c body =>
        intro heq
        exact hbody (by rw [← Option.some.inj heq]; exact List.mem_cons_self)
  rw [afterObject?_eq hhead, dropWhile_append_of_not_mem hbody,
    List.dropWhile_cons_of_neg (by simp)]
  rfl

theorem exists_body (hhead : cs.head? ≠ some '}') (hclosed : '}' ∈ cs) :
    ∃ body rest, body ≠ [] ∧ '}' ∉ body ∧ cs = body ++ '}' :: rest := by
  obtain ⟨body, rest, rfl, hbody⟩ := List.eq_append_cons_of_mem hclosed
  refine ⟨body, rest, ?_, hbody, rfl⟩
  rintro rfl
  exact hhead rfl

theorem respell_append_brace (body rest : List Char) :
    respell (body ++ '}' :: rest) = respell body ++ '}' :: respell rest := by
  rw [respell_append, respell_cons (by decide) (by decide)]
  · exact not_cutsThrough_of_head (by simp)
  · exact not_cutsThrough_of_head (by simp)

/-- The first two passes keep the object type at the front of a text. -/
theorem afterObject?_respell {body : List Char} (hne : body ≠ []) (hbody : '}' ∉ body)
    (rest : List Char) : afterObject? (respell (body ++ '}' :: rest)) = some (respell rest) := by
  rw [respell_append_brace]
  refine afterObject?_append_brace ?_ ?_ (respell rest)
  · rw [respell, ne_eq, (respelled_shortenArrows _).eq_nil_iff,
      (respelled_dropKeyword body).eq_nil_iff]
    exact hne
  · rw [respell, (respelled_shortenArrows _).mem_closing_iff,
      (respelled_dropKeyword body).mem_closing_iff]
    exact hbody

theorem afterObject?_respell_eq_none_iff :
    afterObject? (respell cs) = none ↔ afterObject? cs = none := by
  rw [afterObject?_eq_none_iff, afterObject?_eq_none_iff, respell,
    (respelled_shortenArrows _).head?_closing_iff, (respelled_dropKeyword cs).head?_closing_iff,
    (respelled_shortenArrows _).mem_closing_iff, (respelled_dropKeyword cs).mem_closing_iff]

/-! ## One step -/

theorem respell_copy (hkeyword : ¬ ['f', 'n', '('] <+: c :: cs)
    (harrow : ¬ ['-', '>'] <+: c :: cs) : respell (c :: cs) = c :: respell cs := by
  have hdrop : dropKeyword (c :: cs) = c :: dropKeyword cs := by
    rw [dropKeyword]
    rintro rest rfl rfl
    exact hkeyword (List.prefix_append ['f', 'n', '('] rest)
  rw [respell, hdrop, shortenArrows]
  · rfl
  · rintro rest rfl hrest
    have hhead : cs.head? = some '>' :=
      head?_dropKeyword (by decide) (by rw [hrest]; rfl)
    obtain ⟨more, rfl⟩ := List.head?_eq_some_iff.mp hhead
    exact harrow (List.prefix_append ['-', '>'] more)

theorem ofChars_cons (c : Char) (cs : List Char) :
    ofChars (c :: cs) = (scanStep c cs).1 ++ ofChars (scanStep c cs).2 := by
  show collapseObjects (respell (c :: cs)) = _ ++ collapseObjects (respell _)
  unfold scanStep
  split_ifs with hobject hkeyword harrow
  · obtain ⟨rfl, hhead, hclosed⟩ := hobject
    obtain ⟨body, rest, hne, hbody, rfl⟩ := exists_body hhead hclosed
    rw [respell_cons (by decide) (by decide),
      collapseObjects_object (afterObject?_respell hne hbody rest),
      dropWhile_append_of_not_mem hbody, List.dropWhile_cons_of_neg (by simp)]
    rfl
  · obtain ⟨rest, hrest⟩ := hkeyword
    cases hrest
    show collapseObjects (respell ('f' :: 'n' :: '(' :: rest))
      = '(' :: collapseObjects (respell rest)
    rw [respell_keyword, collapseObjects_cons (by decide)]
  · obtain ⟨rest, hrest⟩ := harrow
    cases hrest
    show collapseObjects (respell ('-' :: '>' :: rest)) = '>' :: collapseObjects (respell rest)
    rw [respell_arrow, collapseObjects_cons (by decide)]
  · rw [respell_copy hkeyword harrow]
    by_cases hc : c = '{'
    · subst hc
      have hnone : afterObject? cs = none := by
        rw [afterObject?_eq_none_iff]
        by_contra hopen
        rw [not_or, not_not] at hopen
        exact hobject ⟨rfl, hopen⟩
      rw [collapseObjects_brace (afterObject?_respell_eq_none_iff.mpr hnone)]
      rfl
    · rw [collapseObjects_cons hc]
      rfl

theorem ofChars_eq_scan (cs : List Char) : ofChars cs = scan cs := by
  fun_induction scan cs with
  | case1 => rw [ofChars, dropKeyword, shortenArrows, collapseObjects]
  | case2 c cs ih => rw [ofChars_cons, ih]

end SignatureSnippets.Compact

namespace SignatureSnippets

/-- The compact form of a text is what one scan over it puts out, and no object type is
written out in it. -/
theorem compact_scans_once (text : String) :
    (compact text).toList = Compact.scan text.toList
      ∧ Compact.ObjectFree (compact text).toList := by
  have hchars : (compact text).toList = Compact.ofChars text.toList := String.toList_ofList
  rw [hchars]
  exact ⟨Compact.ofChars_eq_scan text.toList, Compact.objectFree_collapseObjects _⟩

/-- What a replacement leaves is not looked at again, and an object type ends at the first
brace whatever it holds. -/
example : (compact "fnfn(->\x7bfn(\x7b->\x7d\x7b\x7d").toList
    = "fn(>Object\x7b\x7d".toList := by
  cbv

end SignatureSnippets
