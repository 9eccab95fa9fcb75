import SignatureSnippets.Proofs.Compacting

/-!
# Tokens of a text, piece by piece

`lex` is the way from a text to its tokens with the collapsing of object types left
out; on a text without object types it is `tokenize` (`tokenize_of_objectFree`).
What is left goes through a text from left to right, and the marks of a signature
are its equations. For the pieces that signatures are put together from, words,
return types, argument lists and labels, `Lexes` says what a piece is cut into. It
holds with any text behind the piece, as long as that text does not go on with the
piece's last word: it has to be `Delimited`.
-/

namespace SignatureSnippets

namespace Token

/-- A text that can stand as one name in a list of tokens: it is not empty, and it
holds neither marks nor blanks. -/
def IsWord (text : String) : Prop :=
  text ≠ "" ∧ ∀ c ∈ text.toList, isNameChar c = true ∧ isBlank c = false

variable {cs rest : List Char} {c : Char} {text : String}

theorem isWord_of {text : String} (hne : text ≠ "")
    (h : ∀ c ∈ text.toList, c ∉ [' ', '\t', '(', ')', '>', ',']) :
    IsWord text := by
  refine ⟨hne, fun c hc => ?_⟩
  have hc := h c hc
  simp only [List.mem_cons, List.not_mem_nil, or_false, not_or] at hc
  constructor
  · rw [isNameChar, ofChar?] <;> simp [hc]
  · simp [isBlank, hc]

theorem IsWord.append {first second : String} (hfirst : IsWord first)
    (hsecond : IsWord second) : IsWord (first ++ second) := by
  refine ⟨by simp [hfirst.1], fun c hc => ?_⟩
  rw [String.toList_append, List.mem_append] at hc
  exact hc.elim (hfirst.2 c) (hsecond.2 c)

theorem scan_nil : scan [] = [] := by
  rw [scan]

theorem scan_mark {mark : Token} (h : ofChar? c = some mark) :
    scan (c :: rest) = mark :: scan rest := by
  rw [scan, h]

/-- A word is one token if the text behind it does not go on with it. -/
theorem scan_word (hne : cs ≠ []) (hcs : ∀ c ∈ cs, isNameChar c = true)
    (hrest : ∀ c, rest.head? = some c → isNameChar c = false) :
    scan (cs ++ rest) = .name (String.ofList cs) :: scan rest := by
  cases cs with
  | nil => exact absurd rfl hne
  | cons c cs =>
      have hc : ofChar? c = none := by
        have := hcs c List.mem_cons_self
        rwa [isNameChar, Option.isNone_iff_eq_none] at this
      have htail : ∀ d ∈ cs, isNameChar d = true :=
        fun d hd => hcs d (List.mem_cons_of_mem c hd)
      have htake : rest.takeWhile isNameChar = [] := by
        cases rest with
        | nil => rfl
        | cons d rest => rw [List.takeWhile_cons, hrest d rfl]; rfl
      have hdrop : rest.dropWhile isNameChar = rest := by
        cases rest with
        | nil => rfl
        | cons d rest => rw [List.dropWhile_cons, hrest d rfl]; rfl
      rw [List.cons_append, scan, hc]
      simp only []
      rw [List.takeWhile_append_of_pos htail, List.dropWhile_append_of_pos htail,
        htake, hdrop, List.append_nil]

/-- The names in the tokens of a text without blanks are words. -/
theorem isWord_of_mem_scan (h : ∀ c ∈ cs, isBlank c = false)
    (hmem : .name text ∈ scan cs) : IsWord text := by
  fun_induction scan cs with
  | case1 => cases hmem
  | case2 c rest mark hmark ih =>
      rcases List.mem_cons.mp hmem with heq | hmem
      · rw [← heq] at hmark
        unfold ofChar? at hmark
        split at hmark <;> cases hmark
      · exact ih (fun d hd => h d (List.mem_cons_of_mem c hd)) hmem
  | case3 c rest hnone ih =>
      rcases List.mem_cons.mp hmem with heq | hmem
      · cases heq
        refine ⟨by simp, fun d hd => ?_⟩
        rw [String.toList_ofList] at hd
        rcases List.mem_cons.mp hd with rfl | hd
        · exact ⟨by rw [isNameChar, hnone]; rfl, h d List.mem_cons_self⟩
        · exact ⟨List.mem_takeWhile_imp hd,
            h d (List.mem_cons_of_mem c (List.takeWhile_sublist _ |>.subset hd))⟩
      · exact ih (fun d hd => h d (List.mem_cons_of_mem c
          ((List.dropWhile_sublist _).subset hd))) hmem

end Token

namespace Compact

open Token

variable {cs word tail rest : List Char} {c : Char} {text : String}

def bare (cs : List Char) : List Char :=
  (respell cs).filter fun c => !isBlank c

/-- The tokens of a text, its object types left as they are. -/
def lex (cs : List Char) : List Token :=
  scan (bare cs)

theorem tokenize_of_objectFree (h : ObjectFree text.toList) :
    tokenize text = lex text.toList := by
  have hcollapse : ofChars text.toList = respell text.toList :=
    collapseObjects_of_objectFree (objectFree_respell.mpr h)
  rw [tokenize, hcollapse, lex, bare]

/-! ## Marks -/

theorem bare_cons (hf : c ≠ 'f') (hdash : c ≠ '-') (hblank : isBlank c = false) :
    bare (c :: rest) = c :: bare rest := by
  rw [bare, respell_cons hf hdash, List.filter_cons_of_pos (by simp [hblank])]
  rfl

theorem bare_blank : bare (' ' :: rest) = bare rest := by
  rw [bare, respell_cons (by decide) (by decide),
    List.filter_cons_of_neg (by decide)]
  rfl

theorem bare_keyword : bare ('f' :: 'n' :: '(' :: rest) = '(' :: bare rest := by
  rw [bare, respell_keyword, List.filter_cons_of_pos (by decide)]
  rfl

theorem bare_arrow : bare ('-' :: '>' :: rest) = '>' :: bare rest := by
  rw [bare, respell_arrow, List.filter_cons_of_pos (by decide)]
  rfl

theorem lex_nil : lex [] = [] := by
  rw [lex, bare, respell_nil, List.filter_nil, scan_nil]

theorem lex_keyword : lex ('f' :: 'n' :: '(' :: rest) = .opening :: lex rest := by
  rw [lex, bare_keyword, scan_mark rfl, lex]

theorem lex_closing : lex (')' :: rest) = .closing :: lex rest := by
  rw [lex, bare_cons (by decide) (by decide) (by decide), scan_mark rfl, lex]

theorem lex_comma : lex (',' :: rest) = .comma :: lex rest := by
  rw [lex, bare_cons (by decide) (by decide) (by decide), scan_mark rfl, lex]

theorem lex_arrow : lex ('-' :: '>' :: rest) = .arrow :: lex rest := by
  rw [lex, bare_arrow, scan_mark rfl, lex]

theorem lex_blank : lex (' ' :: rest) = lex rest := by
  rw [lex, bare_blank, lex]

/-! ## Words -/

/-- The text does not go on with a word before it. -/
def Delimited (rest : List Char) : Prop :=
  Separated rest ∧ ∀ c, (bare rest).head? = some c → isNameChar c = false

theorem delimited_nil : Delimited [] := by
  refine ⟨by simp [Separated], fun c hc => ?_⟩
  rw [bare, respell_nil] at hc
  cases hc

theorem delimited_closing : Delimited (')' :: rest) := by
  refine ⟨by simp [Separated], fun c hc => ?_⟩
  rw [bare_cons (by decide) (by decide) (by decide)] at hc
  cases hc
  rfl

theorem delimited_comma : Delimited (',' :: rest) := by
  refine ⟨by simp [Separated], fun c hc => ?_⟩
  rw [bare_cons (by decide) (by decide) (by decide)] at hc
  cases hc
  rfl

theorem delimited_blank_keyword : Delimited (' ' :: 'f' :: 'n' :: '(' :: rest) := by
  refine ⟨by simp [Separated], fun c hc => ?_⟩
  rw [bare_blank, bare_keyword] at hc
  cases hc
  rfl

/-- The characters of a word go through unchanged. -/
theorem bare_word (h : ∀ c ∈ word, isNameChar c = true ∧ isBlank c = false)
    (hrest : Separated rest) : bare (word ++ rest) = word ++ bare rest := by
  have hopen : '(' ∉ word := fun hmem => absurd (h _ hmem).1 (by decide)
  have harrow : '>' ∉ word := fun hmem => absurd (h _ hmem).1 (by decide)
  have hfilter : word.filter (fun c => !isBlank c) = word :=
    List.filter_eq_self.mpr fun c hc => by simp [(h c hc).2]
  rw [bare, respell_append_separated hopen harrow hrest, List.filter_append, hfilter]
  rfl

/-! ## Pieces of a signature -/

/-- The text is cut into these tokens, whatever comes behind it. -/
def Lexes (text : String) (tokens : List Token) : Prop :=
  ∀ rest, Delimited rest → lex (text.toList ++ rest) = tokens ++ lex rest

theorem lexes_empty : Lexes "" [] :=
  fun _ _ => rfl

theorem lexes_word (h : IsWord text) : Lexes text [.name text] := by
  intro rest hrest
  rw [lex, bare_word h.2 hrest.1,
    scan_word (by simpa using h.1) (fun c hc => (h.2 c hc).1) hrest.2,
    String.ofList_toList]
  rfl

/-- Two words with a blank between them are one token. -/
theorem lexes_two_words {first second : String} (hfirst : IsWord first)
    (hsecond : IsWord second) :
    Lexes (first ++ " " ++ second) [.name (first ++ second)] := by
  intro rest hrest
  have hword := hfirst.append hsecond
  have htext : (first ++ " " ++ second).toList ++ rest
      = first.toList ++ ' ' :: (second.toList ++ rest) := by
    simp
  rw [htext, lex, bare_word hfirst.2 (by simp [Separated]), bare_blank,
    bare_word hsecond.2 hrest.1, ← List.append_assoc, ← String.toList_append,
    scan_word (by simpa using hword.1) (fun c hc => (hword.2 c hc).1) hrest.2,
    String.ofList_toList]
  rfl

theorem Lexes.behind_arrow {tokens : List Token} (h : Lexes text tokens) :
    Lexes (" -> " ++ text) (.arrow :: tokens) := by
  intro rest hrest
  have htext : (" -> " ++ text).toList ++ rest
      = ' ' :: '-' :: '>' :: ' ' :: (text.toList ++ rest) := by
    simp
  rw [htext, lex_blank, lex_arrow, lex_blank, h rest hrest, List.cons_append]

/-- A list of pieces with a comma and a blank between two of them, up to the
parenthesis that ends it. -/
theorem lex_list {α : Type} {piece : α → String} {tokens : α → List Token}
    {items : List α} (h : ∀ a ∈ items, Lexes (piece a) (tokens a)) :
    lex ((", ".intercalate (items.map piece)).toList ++ ')' :: rest)
      = [Token.comma].intercalate (items.map tokens) ++ lex (')' :: rest) := by
  induction items with
  | nil => rfl
  | cons a items ih =>
      have ha := h a List.mem_cons_self
      cases items with
      | nil =>
          rw [List.map_singleton, List.map_singleton,
            String.intercalate_singleton, List.intercalate_singleton]
          exact ha _ delimited_closing
      | cons b items =>
          have hmore := ih fun x hx => h x (List.mem_cons_of_mem a hx)
          have htext :
              (", ".intercalate ((a :: b :: items).map piece)).toList ++ ')' :: rest
                = (piece a).toList ++ ',' :: ' ' ::
                  ((", ".intercalate ((b :: items).map piece)).toList
                    ++ ')' :: rest) := by
            rw [List.map_cons, List.map_cons, String.intercalate_cons_cons]
            simp
          have htokens : [Token.comma].intercalate ((a :: b :: items).map tokens)
              = tokens a ++ [Token.comma]
                ++ [Token.comma].intercalate ((b :: items).map tokens) := by
            rw [List.map_cons, List.map_cons, List.intercalate_cons_cons,
              List.append_assoc]
          rw [htext, ha _ delimited_comma, lex_comma, lex_blank, hmore, htokens]
          simp

/-- A function type, by its arguments and what stands behind its closing
parenthesis. -/
theorem lexes_fn {α : Type} {piece : α → String} {tokens : α → List Token}
    {items : List α} {more : List Token}
    (h : ∀ a ∈ items, Lexes (piece a) (tokens a)) (hmore : Lexes text more) :
    Lexes ("fn(" ++ ", ".intercalate (items.map piece) ++ ")" ++ text)
      (.opening :: ([Token.comma].intercalate (items.map tokens)
        ++ .closing :: more)) := by
  intro rest hrest
  have htext :
      ("fn(" ++ ", ".intercalate (items.map piece) ++ ")" ++ text).toList ++ rest
        = 'f' :: 'n' :: '(' :: ((", ".intercalate (items.map piece)).toList
          ++ ')' :: (text.toList ++ rest)) := by
    simp
  rw [htext, lex_keyword, lex_list h, lex_closing, hmore rest hrest]
  simp

/-- A label stays apart from the keyword behind it. -/
theorem Lexes.behind_label {label : String} {tokens : List Token}
    (h : Lexes text tokens) (hlabel : IsWord label)
    (hkeyword : text.toList = 'f' :: 'n' :: '(' :: tail) :
    Lexes (label ++ " " ++ text) (.name label :: tokens) := by
  intro rest hrest
  have htext : (label ++ " " ++ text).toList ++ rest
      = label.toList ++ ' ' :: (text.toList ++ rest) := by
    simp
  have hdelimited : Delimited (' ' :: (text.toList ++ rest)) := by
    rw [hkeyword]
    exact delimited_blank_keyword
  rw [htext, lexes_word hlabel _ hdelimited, lex_blank, h rest hrest]
  rfl

end Compact

end SignatureSnippets
