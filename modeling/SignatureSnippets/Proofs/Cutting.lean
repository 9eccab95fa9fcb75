import Mathlib.Data.List.Chain
import SignatureSnippets.Proofs.Conservation
import SignatureSnippets.Proofs.Lexing

/-!
# The tokens of a text are its only cut

A text without blanks can be cut into marks and words in one way only, as long as no word
is cut in two: two words never stand side by side. `Cut` says so of the pieces alone, and
`scan` finds that cut (`cut_scan`), which leaves no other (`Cut.scan_eq`). Both are
inductions with the same idea: behind a word stands a mark or nothing, and a mark is no
character of a word, so a word ends where `scan` ends it.

Put down with a blank between any two of them, the tokens of a text are cut again into the
same tokens (`tokenize_spaced`). The blanks go away, so nothing has to be said of them but
that the passes over the text find nothing to do. No keyword and no arrow is left where
every mark stands on its own. An object type could be left only in the tokens themselves,
and there the third pass has collapsed the last one already; blanks do not come between
the braces of `{}`, since these are in one word.
-/

namespace SignatureSnippets

namespace Token

/-- The texts are marks and words, and no two words stand side by side. -/
structure Cut (texts : List String) : Prop where
  mark_or_word : ∀ t ∈ texts, t ∈ marks ∨ IsWord t
  apart : texts.IsChain fun left right => ¬ (IsWord left ∧ IsWord right)

variable {t : String} {texts : List String} {cs rest : List Char} {c : Char}

theorem isWord_iff :
    IsWord t ↔ t ≠ "" ∧ ∀ c ∈ t.toList, c ∉ [' ', '\t', '(', ')', '>', ','] := by
  refine ⟨fun h => ⟨h.1, fun c hc hmem => ?_⟩, fun h => isWord_of h.1 h.2⟩
  obtain ⟨hname, hblank⟩ := h.2 c hc
  simp only [List.mem_cons, List.not_mem_nil, or_false] at hmem
  rcases hmem with rfl | rfl | rfl | rfl | rfl | rfl
  · cases hblank
  · cases hblank
  · cases hname
  · cases hname
  · cases hname
  · cases hname

/-- A mark is one character, and is read as the mark that the character stands for. -/
theorem exists_mark (h : t ∈ marks) :
    ∃ c, t.toList = [c] ∧ ofChar? c = some (ofText t) ∧ isBlank c = false := by
  simp only [marks, List.mem_cons, List.not_mem_nil, or_false] at h
  rcases h with rfl | rfl | rfl | rfl
  · exact ⟨'(', by simp, rfl, rfl⟩
  · exact ⟨')', by simp, rfl, rfl⟩
  · exact ⟨'>', by simp, rfl, rfl⟩
  · exact ⟨',', by simp, rfl, rfl⟩

theorem isNameChar_of_ofChar? {mark : Token} (h : ofChar? c = some mark) :
    isNameChar c = false := by
  rw [isNameChar, h]
  rfl

theorem IsWord.not_mark (h : IsWord t) : t ∉ marks := by
  intro hmark
  have hchars := (isWord_iff.mp h).2
  simp only [marks, List.mem_cons, List.not_mem_nil, or_false] at hmark
  rcases hmark with rfl | rfl | rfl | rfl <;> simp at hchars

theorem IsWord.ofText_eq (h : IsWord t) : ofText t = .name t := by
  have hmark := h.not_mark
  simp only [marks, List.mem_cons, List.not_mem_nil, or_false, not_or] at hmark
  rw [ofText, if_neg hmark.1, if_neg hmark.2.1, if_neg hmark.2.2.1, if_neg hmark.2.2.2]

theorem text_mem_marks {mark : Token} (h : ofChar? c = some mark) :
    mark.text ∈ marks ∧ mark.text.toList = [c] := by
  unfold ofChar? at h
  split at h <;> cases h <;> simp [text, marks]

/-! ## No other cut -/

theorem Cut.tail (h : Cut (t :: texts)) : Cut texts :=
  ⟨fun u hu => h.mark_or_word u (List.mem_cons_of_mem t hu), h.apart.tail⟩

/-- What stands behind a word does not go on with it. -/
theorem Cut.delimits (h : Cut (t :: texts)) (ht : IsWord t) :
    ∀ c, (texts.flatMap String.toList).head? = some c → isNameChar c = false := by
  intro c hc
  cases texts with
  | nil => cases hc
  | cons u texts =>
      have hmark : u ∈ marks := (h.mark_or_word u (by simp)).resolve_right fun hu =>
        (List.isChain_cons_cons.mp h.apart).1 ⟨ht, hu⟩
      obtain ⟨d, hd, hread, _⟩ := exists_mark hmark
      rw [List.flatMap_cons, hd] at hc
      cases hc
      exact isNameChar_of_ofChar? hread

/-- Pieces that are a cut are what their text is cut into. -/
theorem Cut.scan_eq (h : Cut texts) :
    scan (texts.flatMap String.toList) = texts.map ofText := by
  induction texts with
  | nil => exact scan_nil
  | cons t texts ih =>
      have hrest := ih h.tail
      rw [List.flatMap_cons, List.map_cons]
      rcases h.mark_or_word t List.mem_cons_self with hmark | hword
      · obtain ⟨c, hc, hread, _⟩ := exists_mark hmark
        rw [hc, List.singleton_append, scan_mark hread, hrest]
      · rw [scan_word (by simpa using hword.1) (fun c hc => (hword.2 c hc).1)
          (h.delimits hword), hrest, hword.ofText_eq, String.ofList_toList]

/-! ## The cut that is found -/

theorem flatMap_scan (cs : List Char) :
    ((scan cs).map text).flatMap String.toList = cs := by
  fun_induction scan cs with
  | case1 => rfl
  | case2 c rest mark hmark ih =>
      rw [List.map_cons, List.flatMap_cons, (text_mem_marks hmark).2, ih]
      rfl
  | case3 c rest hnone ih =>
      rw [List.map_cons, List.flatMap_cons, ih, text, String.toList_ofList, List.cons_append,
        List.takeWhile_append_dropWhile]

/-- Where a word ends a mark stands, or the text ends. -/
theorem head?_scan_dropWhile (rest : List Char) :
    ∀ t ∈ ((scan (rest.dropWhile isNameChar)).map text).head?, t ∈ marks := by
  intro t ht
  have hhead := List.head?_dropWhile_not isNameChar rest
  cases hdrop : rest.dropWhile isNameChar with
  | nil =>
      rw [hdrop, scan_nil] at ht
      cases ht
  | cons c behind =>
      rw [hdrop] at ht hhead
      have hc : isNameChar c = false := by simpa using hhead
      rw [isNameChar, Option.isNone_eq_false_iff, Option.isSome_iff_exists] at hc
      obtain ⟨mark, hmark⟩ := hc
      rw [scan_mark hmark] at ht
      cases ht
      exact (text_mem_marks hmark).1

theorem scan_apart (cs : List Char) :
    ((scan cs).map text).IsChain fun left right => ¬ (IsWord left ∧ IsWord right) := by
  fun_induction scan cs with
  | case1 => exact .nil
  | case2 c rest mark hmark ih =>
      exact List.isChain_cons.mpr
        ⟨fun _ _ hwords => hwords.1.not_mark (text_mem_marks hmark).1, ih⟩
  | case3 c rest hnone ih =>
      exact List.isChain_cons.mpr
        ⟨fun t ht hwords => hwords.2.not_mark (head?_scan_dropWhile rest t ht), ih⟩

theorem cut_scan (h : ∀ c ∈ cs, isBlank c = false) : Cut ((scan cs).map text) := by
  refine ⟨fun t ht => ?_, scan_apart cs⟩
  obtain ⟨token, htoken, rfl⟩ := List.mem_map.mp ht
  cases token with
  | name t => exact .inr (isWord_of_mem_scan h htoken)
  | opening | closing | arrow | comma => exact .inl (by simp [text, marks])

end Token

open Token

theorem cut_tokenize (text : String) : Cut ((tokenize text).map Token.text) := by
  refine cut_scan fun c hc => ?_
  simpa using (List.mem_filter.mp hc).2

theorem flatMap_tokenize (text : String) :
    ((tokenize text).map Token.text).flatMap String.toList
      = (Compact.ofChars text.toList).filter fun c => !isBlank c :=
  flatMap_scan _

theorem map_ofText_tokenize (text : String) :
    ((tokenize text).map Token.text).map ofText = tokenize text := by
  rw [← (cut_tokenize text).scan_eq, flatMap_tokenize, tokenize]

/-- The tokens of a text are told by their texts, and these are the only marks and words,
no two words side by side, that make up the compact text without its blanks. -/
theorem tokenize_only_cut (text : String) :
    ((tokenize text).map Token.text).map ofText = tokenize text ∧
    ∀ texts : List String, (tokenize text).map Token.text = texts ↔
      Cut texts ∧
        String.join texts
          = String.ofList ((compact text).toList.filter fun c => c ≠ ' ' ∧ c ≠ '\t') := by
  refine ⟨map_ofText_tokenize text, fun texts => ?_⟩
  have hbare : (compact text).toList.filter (fun c => c ≠ ' ' ∧ c ≠ '\t')
      = (Compact.ofChars text.toList).filter fun c => !isBlank c := by
    rw [compact, String.toList_ofList]
    refine List.filter_congr fun c _ => ?_
    simp [isBlank]
  rw [hbare, String.ext_iff, String.toList_join, String.toList_ofList]
  constructor
  · rintro rfl
    exact ⟨cut_tokenize text, flatMap_tokenize text⟩
  · rintro ⟨htexts, heq⟩
    have hscan := htexts.scan_eq
    rw [heq] at hscan
    have hback : (texts.map ofText).map Token.text = texts := by
      rw [List.map_map]
      exact (List.map_congr_left fun t _ => text_ofText t).trans (List.map_id _)
    rw [tokenize, hscan, hback]

/-! ## Tokens with blanks between them -/

namespace Compact

variable {t : String} {texts : List String} {cs rest rest' : List Char}

theorem objectFree_filter (h : ObjectFree cs) :
    ObjectFree (cs.filter fun c => !isBlank c) := by
  induction cs with
  | nil => exact h
  | cons c cs ih =>
      obtain ⟨hhead, htail⟩ := objectFree_cons.mp h
      have hrest := ih htail
      rw [List.filter_cons]
      split
      · refine objectFree_cons.mpr ⟨fun hc => ?_, hrest⟩
        rcases hhead hc with hclosed | hopen
        · obtain ⟨tail, rfl⟩ := List.head?_eq_some_iff.mp hclosed
          rw [List.filter_cons_of_pos (by decide)]
          exact Or.inl rfl
        · exact Or.inr fun hmem => hopen (List.mem_filter.mp hmem).1
      · exact hrest

/-- An opening brace that is the last character of a text stays open if nothing behind it
closes one. -/
theorem ObjectFree.replace_rest (h : ObjectFree (cs ++ rest))
    (hhead : rest.head? ≠ some '}') (hfree : ObjectFree rest')
    (hmem : '}' ∈ rest' → '}' ∈ rest) : ObjectFree (cs ++ rest') := by
  induction cs with
  | nil => exact hfree
  | cons c cs ih =>
      obtain ⟨hopen, htail⟩ := objectFree_cons.mp h
      refine objectFree_cons.mpr ⟨fun hc => ?_, ih htail⟩
      have hkept : '}' ∉ cs ++ rest → '}' ∉ cs ++ rest' := by
        intro hno hyes
        rcases List.mem_append.mp hyes with hcs | hrest
        · exact hno (List.mem_append_left rest hcs)
        · exact hno (List.mem_append_right cs (hmem hrest))
      rcases hopen hc with hclosed | hno
      · cases cs with
        | nil => exact absurd hclosed hhead
        | cons d cs => exact Or.inl hclosed
      · exact Or.inr (hkept hno)

theorem ObjectFree.of_append (h : ObjectFree (cs ++ rest)) : ObjectFree rest := by
  induction cs with
  | nil => exact h
  | cons c cs ih => exact ih (objectFree_cons.mp h).2

theorem toList_spaced (t u : String) (texts : List String) :
    (" ".intercalate (t :: u :: texts)).toList
      = t.toList ++ ' ' :: (" ".intercalate (u :: texts)).toList := by
  rw [String.intercalate_cons_cons]
  simp

theorem respell_text (h : t ∈ marks ∨ IsWord t) (hrest : Separated rest) :
    respell (t.toList ++ rest) = t.toList ++ respell rest := by
  rcases h with hmark | hword
  · obtain ⟨c, hc, hread, _⟩ := exists_mark hmark
    rw [hc, List.singleton_append, respell_cons]
    · rfl
    · rintro rfl
      cases hread
    · rintro rfl
      cases hread
  · have hchars := (isWord_iff.mp hword).2
    exact respell_append_separated (fun hmem => hchars _ hmem (by simp))
      (fun hmem => hchars _ hmem (by simp)) hrest

/-- A keyword and an arrow have a mark at their end that does not stand on its own. -/
theorem respell_spaced (h : ∀ t ∈ texts, t ∈ marks ∨ IsWord t) :
    respell (" ".intercalate texts).toList = (" ".intercalate texts).toList := by
  induction texts with
  | nil => rfl
  | cons t texts ih =>
      have ht := h t List.mem_cons_self
      have hrest := ih fun u hu => h u (List.mem_cons_of_mem t hu)
      cases texts with
      | nil =>
          have hself : respell (t.toList ++ []) = t.toList ++ respell [] :=
            respell_text ht (by simp [Separated])
          rw [List.append_nil, respell_nil, List.append_nil] at hself
          rw [String.intercalate_singleton, hself]
      | cons u texts =>
          rw [toList_spaced, respell_text ht (by simp [Separated]),
            respell_cons (by decide) (by decide), hrest]

theorem filter_text (h : t ∈ marks ∨ IsWord t) :
    t.toList.filter (fun c => !isBlank c) = t.toList := by
  refine List.filter_eq_self.mpr fun c hc => ?_
  rcases h with hmark | hword
  · obtain ⟨d, hd, _, hblank⟩ := exists_mark hmark
    rw [hd, List.mem_singleton] at hc
    rw [hc, hblank]
    rfl
  · rw [(hword.2 c hc).2]
    rfl

theorem filter_spaced (h : ∀ t ∈ texts, t ∈ marks ∨ IsWord t) :
    (" ".intercalate texts).toList.filter (fun c => !isBlank c)
      = texts.flatMap String.toList := by
  induction texts with
  | nil => rfl
  | cons t texts ih =>
      have ht := filter_text (h t List.mem_cons_self)
      have hrest := ih fun u hu => h u (List.mem_cons_of_mem t hu)
      cases texts with
      | nil => rw [String.intercalate_singleton, ht, List.flatMap_singleton]
      | cons u texts =>
          rw [toList_spaced, List.filter_append, ht, List.filter_cons_of_neg (by decide),
            hrest]
          rfl

/-- Blanks stand behind words, not in them, so they part no braces that are closed at
once. -/
theorem objectFree_spaced (h : Cut texts) (hfree : ObjectFree (texts.flatMap String.toList)) :
    ObjectFree (" ".intercalate texts).toList := by
  induction texts with
  | nil => exact hfree
  | cons t texts ih =>
      rw [List.flatMap_cons] at hfree
      have hrest := ih h.tail hfree.of_append
      cases texts with
      | nil =>
          rw [String.intercalate_singleton]
          rwa [List.flatMap_nil, List.append_nil] at hfree
      | cons u texts =>
          have hblank := (objectFree_cons_of_ne (c := ' ') (by decide)).mpr hrest
          rw [toList_spaced]
          rcases h.mark_or_word t List.mem_cons_self with hmark | hword
          · obtain ⟨c, hc, hread, _⟩ := exists_mark hmark
            rw [hc]
            refine (objectFree_cons_of_ne ?_).mpr hblank
            rintro rfl
            cases hread
          · refine hfree.replace_rest ?_ hblank fun hmem => ?_
            · intro hhead
              cases h.delimits hword _ hhead
            · rw [← filter_spaced h.tail.mark_or_word, List.mem_filter]
              exact ⟨List.mem_of_ne_of_mem (by decide) hmem, by decide⟩

/-- A cut with blanks between its pieces is found again. -/
theorem lex_spaced (h : Cut texts) :
    lex (" ".intercalate texts).toList = texts.map ofText := by
  rw [lex, bare, respell_spaced h.mark_or_word, filter_spaced h.mark_or_word, h.scan_eq]

end Compact

/-- The tokens of a text, put down with a blank between any two of them, are cut into the
same tokens again. -/
theorem tokenize_spaced (text : String) :
    tokenize (" ".intercalate ((tokenize text).map Token.text)) = tokenize text := by
  have hcut := cut_tokenize text
  have hfree : Compact.ObjectFree (((tokenize text).map Token.text).flatMap String.toList) := by
    rw [flatMap_tokenize]
    exact Compact.objectFree_filter (Compact.objectFree_collapseObjects _)
  rw [Compact.tokenize_of_objectFree (Compact.objectFree_spaced hcut hfree),
    Compact.lex_spaced hcut, map_ofText_tokenize]

end SignatureSnippets
