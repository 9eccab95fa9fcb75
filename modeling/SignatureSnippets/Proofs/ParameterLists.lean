import SignatureSnippets.Expansion
import SignatureSnippets.Proofs.Cleaning
import SignatureSnippets.Proofs.Lexing
import SignatureSnippets.Proofs.Reading
import SignatureSnippets.Proofs.Rendering

/-!
# From a parameter list to its snippet

The signatures that the program is made for: a list of parameters, each plain,
typed, or a callback with plain and typed parameters of its own, with or without a
label. For these the way from the text to the snippet is followed from end to end.

A parameter is one thing in the list and one thing in the snippet, but it is not
one thing in between: a label and its callback are two tokens apart from the marks,
two arguments in the tree, and two texts when cleaning starts. So each stage is
told what it makes of one parameter, and the list lemmas of the stages put these
together: `lexes_fn` and `readsArgs_list`, which go from lists of parameters to
lists of anything, and `joinPairs_params`, which goes back to one text for each.
-/

namespace SignatureSnippets

open SignatureSnippets.Compact

/-! ## Parameter lists as they are written

A type stands behind its name with a colon and a blank between the two, and a
callback stands so behind its label. -/

/-- Characters that no name holds: the marks of signatures and of templates, the
blanks, and what introduces a type. -/
def ParamName.reserved : List Char :=
  [' ', '\t', '(', ')', '>', ',', ':', '{', '}', '\x02', '\x03', '\x1a']

/-- A name of a parameter or of a type. -/
structure ParamName where
  text : String
  ne_empty : text ≠ ""
  not_reserved : ∀ c ∈ text.toList, c ∉ ParamName.reserved

/-- A text as a name, once its characters have been looked at. -/
def ParamName.ofText (text : String) (hne : text ≠ "")
    (h : text.toList.all (fun c => c ∉ ParamName.reserved) = true) : ParamName where
  text := text
  ne_empty := hne
  not_reserved := fun c hc => of_decide_eq_true (List.all_eq_true.mp h c hc)

/-- A parameter that is no callback, with its type if it has one. -/
structure PlainParam where
  name : ParamName
  type : Option ParamName

inductive Param where
  | plain (param : PlainParam)
  | callback (label : Option ParamName) (params : List PlainParam)
      (ret : Option ParamName)

def retText : Option ParamName → String
  | none => ""
  | some ret => " -> " ++ ret.text

/-- The text of a function type, given those of its parameters. -/
def functionText (params : List String) (ret : Option ParamName) : String :=
  "fn(" ++ ", ".intercalate params ++ ")" ++ retText ret

namespace PlainParam

def text (p : PlainParam) : String :=
  match p.type with
  | none => p.name.text
  | some type => p.name.text ++ ": " ++ type.text

end PlainParam

namespace Param

def text : Param → String
  | .plain p => p.text
  | .callback none params ret => functionText (params.map PlainParam.text) ret
  | .callback (some label) params ret =>
    label.text ++ ": " ++ functionText (params.map PlainParam.text) ret

end Param

/-! ## Their snippets

A plain parameter is one tab stop. A callback is two, one around its placeholder
and one in the placeholder's body, so what follows it is numbered from the second
next number on. -/

namespace Param

def stops : Param → Nat
  | .plain _ => 1
  | .callback .. => 2

/-- The snippet of a parameter whose first tab stop has the given number. -/
def snippet (number : Nat) : Param → String
  | .plain p =>
    "$\x7b" ++ toString number ++ ":" ++
      MarkerStyle.textmate.escapeText p.name.text ++ "\x7d"
  | .callback _ params _ =>
    "$\x7b" ++ toString number ++ ":function(" ++
      ", ".intercalate (params.map fun p =>
        MarkerStyle.textmate.escapeText p.name.text) ++
      ") \x7b$\x7b" ++ toString (number + 1) ++ "\x7d\\\x7d\x7d"

/-- The snippets of parameters, numbered from left to right. -/
def snippets (number : Nat) : List Param → List String
  | [] => []
  | p :: params => p.snippet number :: snippets (number + p.stops) params

/-- Whether a parameter is plain or typed and has the given name. -/
def isNamed (name : String) : Param → Bool
  | .plain p => p.name.text = name
  | .callback .. => false

/-- The parameters that are shown: all but a last one that has the noise name. -/
def shown (noise : String) (params : List Param) : List Param :=
  if params.getLast?.any (isNamed noise) then params.dropLast else params

end Param

/-! ## Names -/

namespace ParamName

theorem not_mem (n : ParamName) {c : Char} (h : c ∈ reserved) :
    c ∉ n.text.toList :=
  fun hc => n.not_reserved c hc h

theorem isWord (n : ParamName) : Token.IsWord n.text := by
  refine Token.isWord_of n.ne_empty fun c hc hmem => n.not_reserved c hc ?_
  have hsub : [' ', '\t', '(', ')', '>', ','] ⊆ reserved := by decide
  exact hsub hmem

theorem isWord_label (n : ParamName) : Token.IsWord (n.text ++ ":") :=
  n.isWord.append (Token.isWord_of (by decide) (by simp))

theorem ordinary (n : ParamName) :
    ∀ c ∈ n.text.toList, Marker.ofChar? c = none := by
  intro c hc
  have hmark : ∀ mark, Marker.ofChar? c ≠ some mark := by
    intro mark hmark
    rw [Marker.ofChar?_eq_some_iff] at hmark
    refine n.not_reserved c hc ?_
    rw [hmark]
    cases mark <;> decide
  exact Option.eq_none_iff_forall_ne_some.mpr hmark

theorem getLast?_ne_colon (n : ParamName) :
    n.text.toList.getLast? ≠ some ':' :=
  fun h => n.not_mem (by decide) (List.mem_of_getLast? h)

end ParamName

/-! ## Lexing and reading -/

def retTokens : Option ParamName → List Token
  | none => []
  | some ret => [.arrow, .name ret.text]

def retType (ret : Option ParamName) : Option SigType :=
  ret.map fun ret => .name ret.text

theorem lexes_retText (ret : Option ParamName) :
    Lexes (retText ret) (retTokens ret) := by
  cases ret with
  | none => exact lexes_empty
  | some ret => exact (lexes_word ret.isWord).behind_arrow

theorem readsTail_retTokens (ret : Option ParamName) :
    ReadsTail (retTokens ret) (retType ret) := by
  cases ret with
  | none => exact readsTail_nil
  | some ret => exact (readsResult_name ret.text).arrow

theorem append_colon_blank (name type : String) :
    name ++ ": " ++ type = name ++ ":" ++ " " ++ type := by
  have hcolon : ": " = ":" ++ " " := rfl
  rw [hcolon, ← String.append_assoc]

theorem toList_functionText (params : List String) (ret : Option ParamName) :
    (functionText params ret).toList
      = 'f' :: 'n' :: '(' :: ((", ".intercalate params).toList
        ++ ')' :: (retText ret).toList) := by
  simp [functionText]

namespace PlainParam

/-- A plain or typed parameter as a token, without the blank. -/
def spelled (p : PlainParam) : String :=
  match p.type with
  | none => p.name.text
  | some type => p.name.text ++ ":" ++ type.text

theorem lexes_text (p : PlainParam) : Lexes p.text [.name p.spelled] := by
  rw [text, spelled]
  cases p.type with
  | none => exact lexes_word p.name.isWord
  | some type =>
      simp only [append_colon_blank]
      exact lexes_two_words p.name.isWord_label type.isWord

end PlainParam

namespace Param

def tokens : Param → List Token
  | .plain p => [.name p.spelled]
  | .callback label params ret =>
    (label.toList.map fun label => .name (label.text ++ ":")) ++
      .opening :: ([Token.comma].intercalate (params.map fun p => [.name p.spelled])
        ++ .closing :: retTokens ret)

def items : Param → List SigType
  | .plain p => [.name p.spelled]
  | .callback label params ret =>
    (label.toList.map fun label => .name (label.text ++ ":")) ++
      [.fn (params.map fun p => .name p.spelled) (retType ret)]

theorem lexes_text (p : Param) : Lexes p.text p.tokens := by
  cases p with
  | plain p => exact p.lexes_text
  | callback label params ret =>
      have hfn : Lexes (functionText (params.map PlainParam.text) ret)
          (.opening :: ([Token.comma].intercalate
            (params.map fun p => [.name p.spelled])
            ++ .closing :: retTokens ret)) :=
        lexes_fn (fun p _ => p.lexes_text) (lexes_retText ret)
      cases label with
      | none => exact hfn
      | some label =>
          rw [text, append_colon_blank]
          exact hfn.behind_label label.isWord_label (toList_functionText _ ret)

theorem readsArgs_tokens (p : Param) : ReadsArgs p.tokens p.items := by
  cases p with
  | plain p => exact readsArgs_name p.spelled
  | callback label params ret =>
      have hparams : ReadsArgs
          ([Token.comma].intercalate (params.map fun p => [.name p.spelled]))
          (params.map fun p => .name p.spelled) := by
        rw [List.map_eq_flatMap (f := fun p : PlainParam => SigType.name p.spelled)]
        exact readsArgs_list fun p _ => readsArgs_name p.spelled
      have hfn := readsArgs_fn hparams (readsTail_retTokens ret)
      cases label with
      | none => exact hfn
      | some label => exact (readsArgs_name (label.text ++ ":")).append hfn

end Param

/-! No name holds a brace, so there is no object type to collapse. -/

theorem not_mem_intercalate {texts : List String} {c : Char}
    (hsep : c ∉ [',', ' ']) (h : ∀ text ∈ texts, c ∉ text.toList) :
    c ∉ (", ".intercalate texts).toList := by
  induction texts with
  | nil => simp
  | cons text texts ih =>
      have htext := h text List.mem_cons_self
      have hmore := ih fun t ht => h t (List.mem_cons_of_mem text ht)
      cases texts with
      | nil =>
          rw [String.intercalate_singleton]
          exact htext
      | cons next texts =>
          rw [String.intercalate_cons_cons, String.toList_append,
            String.toList_append, List.mem_append, List.mem_append, not_or, not_or]
          exact ⟨⟨htext, hsep⟩, hmore⟩

theorem brace_not_mem_functionText {params : List String} (ret : Option ParamName)
    (h : ∀ text ∈ params, '{' ∉ text.toList) :
    '{' ∉ (functionText params ret).toList := by
  have hret : '{' ∉ (retText ret).toList := by
    cases ret with
    | none => simp [retText]
    | some ret => simp [retText, ret.not_mem (c := '{') (by decide)]
  have hparams := not_mem_intercalate (by decide) h
  rw [toList_functionText]
  simp [-String.toList_intercalate, hparams, hret]

theorem PlainParam.brace_not_mem_text (p : PlainParam) : '{' ∉ p.text.toList := by
  have hname := p.name.not_mem (c := '{') (by decide)
  rw [text]
  cases p.type with
  | none => exact hname
  | some type => simp [hname, type.not_mem (c := '{') (by decide)]

theorem Param.brace_not_mem_text (p : Param) : '{' ∉ p.text.toList := by
  cases p with
  | plain p => exact p.brace_not_mem_text
  | callback label params ret =>
      have hfn : '{' ∉ (functionText (params.map PlainParam.text) ret).toList := by
        refine brace_not_mem_functionText ret fun text htext => ?_
        obtain ⟨p, _, rfl⟩ := List.mem_map.mp htext
        exact p.brace_not_mem_text
      cases label with
      | none => exact hfn
      | some label =>
          simp [text, label.not_mem (c := '{') (by decide), hfn]

/-- What a signature is read as that has this parameter list. -/
theorem parse_functionText (params : List Param) (ret : Option ParamName) :
    Signature.parse (functionText (params.map Param.text) ret)
      = .ok ⟨⟨[], some (.fn (params.flatMap Param.items) (retType ret))⟩, 0⟩ := by
  have hfree : ObjectFree (functionText (params.map Param.text) ret).toList := by
    refine objectFree_of_not_mem_opening
      (brace_not_mem_functionText ret fun text htext => ?_)
    obtain ⟨p, _, rfl⟩ := List.mem_map.mp htext
    exact p.brace_not_mem_text
  have hlex : lex (functionText (params.map Param.text) ret).toList
      = .opening :: ([Token.comma].intercalate (params.map Param.tokens)
        ++ .closing :: retTokens ret) := by
    have hpieces := lexes_fn (fun p (_ : p ∈ params) => p.lexes_text)
      (lexes_retText ret) [] delimited_nil
    rw [List.append_nil, lex_nil, List.append_nil] at hpieces
    exact hpieces
  rw [Signature.parse, tokenize_of_objectFree hfree, hlex]
  exact (readsResult_fn (readsArgs_list fun p _ => p.readsArgs_tokens)
    (readsTail_retTokens ret)).ofTokens_eq

/-! ## Cleaning -/

theorem PlainParam.spelled_ne_empty (p : PlainParam) : p.spelled ≠ "" := by
  rw [spelled]
  cases p.type with
  | none => exact p.name.ne_empty
  | some type => simp

theorem PlainParam.getLast?_spelled (p : PlainParam) :
    p.spelled.toList.getLast? ≠ some ':' := by
  rw [spelled]
  cases p.type with
  | none => exact p.name.getLast?_ne_colon
  | some type =>
      have hne : type.text.toList ≠ [] := by simpa using type.ne_empty
      simp only [String.toList_append, List.getLast?_append_of_ne_nil _ hne]
      exact type.getLast?_ne_colon

theorem PlainParam.stripType_spelled (p : PlainParam) :
    Names.stripType p.spelled = p.name.text := by
  have hname := Names.not_isCallback (p.name.not_mem (c := '(') (by decide))
  have hcolon := p.name.not_mem (c := ':') (by decide)
  rw [spelled]
  cases p.type with
  | none => exact Names.stripType_name hcolon
  | some type => exact Names.stripType_typed p.name.ne_empty hname hcolon type.text

/-- The placeholder of a callback with these parameters. -/
def placeholder (params : List PlainParam) : String :=
  Names.callbackOpening ++ ", ".intercalate (params.map fun p => p.name.text) ++
    String.ofList [')', ' ', '\x7b', Marker.secondary.char, '\x7d']

theorem isCallback_placeholder (params : List PlainParam) :
    Names.isCallback (placeholder params) = true :=
  Names.isCallback_append _ _

theorem placeholder_ne_empty (params : List PlainParam) : placeholder params ≠ "" := by
  simp [placeholder, Names.callbackOpening]

theorem getLast?_placeholder (params : List PlainParam) :
    (placeholder params).toList.getLast? ≠ some ':' :=
  Names.getLast?_append_body _

namespace Param

/-- The texts that cleaning is given for a parameter. -/
def pieces : Param → List String
  | .plain p => [p.spelled]
  | .callback label params _ =>
    (label.toList.map fun label => label.text ++ ":") ++ [placeholder params]

/-- The one that is left when labels have been joined. -/
def joined : Param → String
  | .plain p => p.spelled
  | .callback _ params _ => placeholder params

def shownText : Param → String
  | .plain p => p.name.text
  | .callback _ params _ => placeholder params

theorem joinPairs_pieces (p : Param) (rest : List String) :
    Names.joinPairs Names.joinLabel (p.pieces ++ rest)
      = p.joined :: Names.joinPairs Names.joinLabel rest := by
  cases p with
  | plain p =>
      exact Names.joinPairs_keep
        (fun _ => Names.joinLabel_eq_none p.getLast?_spelled) rest
  | callback label params ret =>
      cases label with
      | none =>
          exact Names.joinPairs_keep
            (fun _ => Names.joinLabel_eq_none (getLast?_placeholder params)) rest
      | some label =>
          refine Names.joinPairs_join (Names.joinLabel_callback ?_
            (isCallback_placeholder params)) rest
          rw [String.toList_append, List.getLast?_append_of_ne_nil _ (by decide)]
          rfl

theorem joinPairs_params (params : List Param) :
    Names.joinPairs Names.joinLabel (params.flatMap pieces) = params.map joined := by
  induction params with
  | nil => rfl
  | cons p params ih =>
      rw [List.flatMap_cons, joinPairs_pieces, ih, List.map_cons]

theorem joined_ne_empty (p : Param) : p.joined ≠ "" := by
  cases p with
  | plain p => exact p.spelled_ne_empty
  | callback label params ret => exact placeholder_ne_empty params

theorem stripType_joined (p : Param) : Names.stripType p.joined = p.shownText := by
  cases p with
  | plain p => exact p.stripType_spelled
  | callback label params ret =>
      exact Names.stripType_callback (isCallback_placeholder params)

/-- Cleaning leaves one text for each parameter. -/
theorem clean_pieces (params : List Param) :
    Names.clean (params.flatMap pieces) = params.map shownText := by
  have hfilter : (params.map joined).filter (· ≠ "") = params.map joined := by
    refine List.filter_eq_self.mpr fun text htext => ?_
    obtain ⟨p, _, rfl⟩ := List.mem_map.mp htext
    exact decide_eq_true p.joined_ne_empty
  rw [Names.clean, joinPairs_params, hfilter, List.map_map]
  exact List.map_congr_left fun p _ => p.stripType_joined

theorem clean_spelled (params : List PlainParam) :
    Names.clean (params.map PlainParam.spelled) = params.map fun p => p.name.text := by
  have hclean := clean_pieces (params.map plain)
  rw [List.map_map, List.flatMap_map] at hclean
  rw [List.map_eq_flatMap]
  exact hclean

theorem callbackText_eq (params : List PlainParam) (ret : Option SigType) :
    FnType.callbackText ⟨params.map fun p => .name p.spelled, ret⟩
      = placeholder params := by
  have hleaves : FnType.leaves ⟨params.map fun p => .name p.spelled, ret⟩
      = params.map PlainParam.spelled := by
    rw [FnType.leaves, List.filterMap_map]
    exact congrFun List.filterMap_eq_map' params
  rw [FnType.callbackText, hleaves, clean_spelled, placeholder]

theorem argText_items (p : Param) : p.items.map FnType.argText = p.pieces := by
  cases p with
  | plain p => rfl
  | callback label params ret =>
      have hfn := callbackText_eq params (retType ret)
      cases label with
      | none =>
          rw [pieces, ← hfn]
          rfl
      | some label =>
          rw [pieces, ← hfn]
          rfl

/-! ## Noise -/

theorem shownText_eq_iff {noise : String} (hopen : '(' ∉ noise.toList) (p : Param) :
    p.shownText = noise ↔ p.isNamed noise = true := by
  cases p with
  | plain p => rw [shownText, isNamed, decide_eq_true_iff]
  | callback label params ret =>
      refine ⟨fun h => ?_, fun h => by cases h⟩
      have hcallback := isCallback_placeholder params
      rw [show placeholder params = noise from h, Names.not_isCallback hopen]
        at hcallback
      cases hcallback

/-- The last text is noise if and only if the last parameter is. -/
theorem dropNoise_shownText {settings : Settings} (hopen : '(' ∉ settings.noise.toList)
    (params : List Param) :
    FnType.dropNoise settings.noise? (params.map shownText)
      = (shown settings.noise params).map shownText := by
  have hlast : (params.map shownText).getLast? = some settings.noise ↔
      params.getLast?.any (isNamed settings.noise) = true := by
    rw [List.getLast?_map, Option.map_eq_some_iff, Option.any_eq_true]
    simp only [shownText_eq_iff hopen]
  rw [FnType.dropNoise, shown, Settings.noise?]
  by_cases hempty : settings.noise = ""
  · have hnone : params.getLast?.any (isNamed settings.noise) = false := by
      rw [Option.any_eq_false]
      intro p _
      cases p with
      | plain p =>
          rw [hempty]
          exact decide_eq_false p.name.ne_empty
      | callback label params ret => rfl
    rw [if_pos hempty, hnone]
    simp
  · rw [if_neg hempty]
    by_cases hnoise : params.getLast?.any (isNamed settings.noise) = true
    · rw [if_pos ⟨by simpa using hempty, by simp, hlast.mpr hnoise⟩, if_pos hnoise,
        List.map_dropLast]
    · rw [if_neg fun h => hnoise (hlast.mp h.2.2), if_neg hnoise]

/-! ## Numbering -/

/-- The names of a callback's parameters and the tab stop for its body. -/
theorem rendersAs_placeholder (params : List PlainParam) :
    MarkerStyle.textmate.RendersAs (placeholder params) 1 fun used =>
      "function(" ++ ", ".intercalate (params.map fun p =>
        MarkerStyle.textmate.escapeText p.name.text) ++
      ") \x7b$\x7b" ++ toString (used + 1) ++ "\x7d\\\x7d" := by
  have hfront : MarkerStyle.textmate.RendersAs "function(" 0 fun _ => "function(" :=
    MarkerStyle.rendersAs_literal (by decide) (by decide)
  have hnames := MarkerStyle.rendersAs_list fun p (_ : p ∈ params) =>
    @MarkerStyle.rendersAs_ordinary .textmate _ p.name.ordinary
  have hbody : MarkerStyle.textmate.RendersAs ") \x7b" 0 fun _ => ") \x7b" :=
    MarkerStyle.rendersAs_literal (by decide) (by decide)
  have hend : MarkerStyle.textmate.RendersAs "\x7d" 0 fun _ => "\\\x7d" :=
    MarkerStyle.rendersAs_literal (by decide) (by decide)
  refine ((hfront.append hnames).append
    ((hbody.append MarkerStyle.rendersAs_secondary).append hend)).congr ?_ ?_ ?_
  · rfl
  · simp
  · intro used
    simp only [MarkerStyle.renderEach_const, MarkerStyle.fill_empty_textmate]
    rw [← String.toList_inj]
    simp

/-- A parameter is rendered as its tab stops. -/
theorem rendersAs_tabStop (p : Param) :
    MarkerStyle.textmate.RendersAs (FnType.tabStop p.shownText) p.stops
      fun used => p.snippet (used + 1) := by
  cases p with
  | plain p =>
      have hname := @MarkerStyle.rendersAs_ordinary .textmate _ p.name.ordinary
      refine hname.tabStop.congr rfl rfl fun used => ?_
      rw [MarkerStyle.fill_opening_textmate, snippet]
      rfl
  | callback label params ret =>
      refine (rendersAs_placeholder params).tabStop.congr rfl rfl fun used => ?_
      rw [MarkerStyle.fill_opening_textmate, snippet, ← String.toList_inj]
      simp [MarkerStyle.closing]

theorem renderEach_snippet (used : Nat) (params : List Param) :
    MarkerStyle.renderEach stops (fun p used => p.snippet (used + 1)) used params
      = snippets (used + 1) params := by
  induction params generalizing used with
  | nil => rfl
  | cons p params ih =>
      rw [MarkerStyle.renderEach, ih, snippets, Nat.add_right_comm]

/-- The parameters of a signature are rendered between parentheses. -/
theorem snippet_parameters (params : List Param) :
    Snippet.render ("(" ++ ", ".intercalate
        ((params.map shownText).map FnType.tabStop) ++ ")") .textmate
      = ⟨"(" ++ ", ".intercalate (snippets 1 params) ++ ")",
          (params.map stops).sum⟩ := by
  have hopen : MarkerStyle.textmate.RendersAs "(" 0 fun _ => "(" :=
    MarkerStyle.rendersAs_literal (by decide) (by decide)
  have hclose : MarkerStyle.textmate.RendersAs ")" 0 fun _ => ")" :=
    MarkerStyle.rendersAs_literal (by decide) (by decide)
  have hlist := MarkerStyle.rendersAs_list fun p (_ : p ∈ params) =>
    rendersAs_tabStop p
  rw [List.map_map]
  refine ((hopen.append hlist).append hclose).snippet_eq.trans ?_
  rw [renderEach_snippet, Nat.zero_add, Nat.zero_add, Nat.add_zero]

end Param

/-! ## From end to end -/

/-- The expansion of a signature with a parameter list. Nothing is logged, each
parameter that is shown has its tab stops, and they are numbered without a gap. -/
theorem expand_functionText (settings : Settings) (style : Option MarkerStyle)
    (strict : Option Bool) (hstyle : style.getD settings.style = .textmate)
    (hnoise : ∀ c ∈ settings.noise.toList, c ∉ ParamName.reserved)
    (params : List Param) (ret : Option ParamName) (name : String) :
    (Expander.ofSettings settings style strict).expand
        (functionText (params.map Param.text) ret) name
      = { result := .ok
            { signature := functionText (params.map Param.text) ret
              name := name
              outcome := .snippet
                { text := "(" ++ ", ".intercalate
                    (Param.snippets 1 (Param.shown settings.noise params)) ++ ")"
                  tabStops := ((Param.shown settings.noise params).map
                    Param.stops).sum } }
          notices := [] } := by
  have hopen : '(' ∉ settings.noise.toList :=
    fun hmem => hnoise '(' hmem (by decide)
  have htexts : FnType.argTexts ⟨params.flatMap Param.items, retType ret⟩
      settings.noise? = (Param.shown settings.noise params).map Param.shownText := by
    rw [FnType.argTexts, List.map_flatMap]
    simp only [Param.argText_items]
    rw [Param.clean_pieces, Param.dropNoise_shownText hopen]
  have hsnippet : FnType.snippet ⟨params.flatMap Param.items, retType ret⟩
      .textmate settings.noise?
      = ⟨"(" ++ ", ".intercalate
            (Param.snippets 1 (Param.shown settings.noise params)) ++ ")",
          ((Param.shown settings.noise params).map Param.stops).sum⟩ := by
    rw [FnType.snippet, FnType.template, htexts, Param.snippet_parameters]
  rw [Expander.expand, parse_functionText, Expander.ofSettings, hstyle, ← hsnippet]
  rfl

theorem expand_functionText_labelled :
    (Expander.ofSettings {}).expand
        "fn(x: fn(a$, i: number) -> bool, fn(), context: t) -> r" "each"
      = { result := .ok
            { signature := "fn(x: fn(a$, i: number) -> bool, fn(), context: t) -> r"
              name := "each"
              outcome := .snippet
                { text := "($\x7b1:function(a\\$, i) \x7b$\x7b2\x7d\\\x7d\x7d, " ++
                    "$\x7b3:function() \x7b$\x7b4\x7d\\\x7d\x7d)"
                  tabStops := 4 } }
          notices := [] } := by
  have hnoise : ∀ c ∈ ({} : Settings).noise.toList, c ∉ ParamName.reserved := by
    simp [ParamName.reserved]
  have h := expand_functionText {} none none rfl hnoise
    [ .callback (some (.ofText "x" (by decide) (by decide)))
        [ ⟨.ofText "a$" (by decide) (by decide), none⟩,
          ⟨.ofText "i" (by decide) (by decide),
            some (.ofText "number" (by decide) (by decide))⟩ ]
        (some (.ofText "bool" (by decide) (by decide))),
      .callback none [] none,
      .plain ⟨.ofText "context" (by decide) (by decide),
        some (.ofText "t" (by decide) (by decide))⟩ ]
    (some (.ofText "r" (by decide) (by decide))) "each"
  exact h

end SignatureSnippets
