import SignatureSnippets.Proofs.Cleaning
import SignatureSnippets.Proofs.Content
import SignatureSnippets.Proofs.Marks
import SignatureSnippets.Proofs.Occurrences

/-!
# The tab stops of a template

If no name of a function type holds a mark, every mark in its template is there for
an argument. A template is then made of texts of two kinds: names, which hold no
mark, and placeholders of callbacks, which hold one, the tab stop for the body.

Cleaning treats the two kinds alike, and it has to be shown that it takes none for
the other. A placeholder starts like a callback and does not end like a label, so
it is neither joined away nor cut (`Names.SelectsCallbacks`), and it is not noise,
since it holds a mark. So the texts with a mark are the placeholders of the
callbacks, in order, and that settles all the counts. The plain rendering is
counted in the same way, by the word that placeholders start with in place of the
mark that they hold.
-/

namespace SignatureSnippets

/-! ## The word that placeholders start with -/

namespace Names

/-- How often the word is in a text. -/
def openings (cs : List Char) : Nat :=
  Text.occurrences callbackOpening.toList cs

theorem openings_intercalate (texts : List (List Char)) :
    openings ([',', ' '].intercalate texts) = (texts.map openings).sum :=
  Text.occurrences_intercalate (by decide) (by decide) (by decide) texts

end Names

/-! ## Noise -/

namespace FnType

variable {noise : Option String} {texts : List String}

theorem filter_dropNoise {p : String → Bool}
    (h : ∀ text ∈ noise, p text = false) :
    (dropNoise noise texts).filter p = texts.filter p := by
  rw [dropNoise]
  split
  · next hnoise =>
      obtain ⟨last, hlast⟩ := Option.ne_none_iff_exists'.mp hnoise.2.1
      have hsplit : texts.dropLast ++ [last] = texts := by
        refine List.dropLast_append_getLast? last ?_
        rw [hnoise.2.2, hlast]
        rfl
      conv_rhs => rw [← hsplit]
      rw [List.filter_append, List.filter_cons_of_neg (by simp [h last hlast]),
        List.filter_nil, List.append_nil]
  · rfl

theorem dropNoise_subset : dropNoise noise texts ⊆ texts := by
  rw [dropNoise]
  split
  · exact (List.dropLast_prefix texts).subset
  · exact List.Subset.refl texts

theorem length_dropNoise :
    (dropNoise noise texts).length
      + (if noise ≠ some "" ∧ noise ≠ none ∧ texts.getLast? = noise then 1 else 0)
      = texts.length := by
  rw [dropNoise]
  split
  · next hnoise =>
      have hne : texts ≠ [] := by
        rintro rfl
        exact hnoise.2.1 hnoise.2.2.symm
      have hpos := List.length_pos_iff.mpr hne
      rw [List.length_dropLast]
      omega
  · rfl

/-! ## Placeholders -/

variable {t u : FnType}

/-- What passes to fronts and holds of the names holds of a callback's parameters. -/
theorem forall_mem_clean_leaves {P : String → Prop}
    (hfront : ∀ text front : String, P text → front.toList <+: text.toList → P front)
    (h : ∀ name ∈ t.names, P name) : ∀ text ∈ Names.clean t.leaves, P text :=
  Names.forall_mem_clean (fun text front hP hpre _ => hfront text front hP hpre)
    fun text htext => h text (mem_names_of_mem_args (mem_leaves.mp htext))

/-- A word that is in no name is not in the list of a callback's parameters either. -/
theorem occurrences_params {word : List Char} (hword : word ≠ []) (hcomma : ',' ∉ word)
    (hblank : ' ' ∉ word) (h : ∀ name ∈ t.names, Text.occurrences word name.toList = 0) :
    Text.occurrences word (", ".intercalate (Names.clean t.leaves)).toList = 0 := by
  have hall : ∀ text ∈ Names.clean t.leaves, Text.occurrences word text.toList = 0 :=
    forall_mem_clean_leaves (fun _ _ => Text.occurrences_eq_zero_of_prefix) h
  rw [String.toList_intercalate]
  show Text.occurrences word ([',', ' '].intercalate _) = 0
  rw [Text.occurrences_intercalate hword hcomma hblank, List.sum_eq_zero_iff_forall_eq_nat,
    List.map_map, List.forall_mem_map]
  exact hall

theorem isCallback_callbackText (t : FnType) :
    Names.isCallback t.callbackText = true :=
  Names.isCallback_append _ _

theorem getLast?_callbackText (t : FnType) :
    t.callbackText.toList.getLast? ≠ some ':' :=
  Names.getLast?_append_body _

/-- No name in the function type holds a mark. -/
def Unmarked (t : FnType) : Prop :=
  ∀ name ∈ t.names, ∀ mark : Marker, mark.char ∉ name.toList

theorem Unmarked.nested (h : t.Unmarked) (hu : u ∈ t.nested) : u.Unmarked :=
  fun name hname => h name (names_subset_of_mem_nested hu hname)

theorem Unmarked.isIn_eq_false (h : t.Unmarked) {name : String}
    (hname : name ∈ t.names) : Marker.isIn name = false :=
  Marker.isIn_eq_false_iff_forall.mpr (h name hname)

theorem Unmarked.inText_params (h : t.Unmarked) :
    Marker.inText (", ".intercalate (Names.clean t.leaves)).toList = [] := by
  rw [Marker.inText_intercalate, List.flatMap_eq_nil_iff]
  intro text htext
  rw [← Marker.isIn_eq_false_iff]
  exact forall_mem_clean_leaves (fun _ _ => Marker.isIn_front)
    (fun name hname => h.isIn_eq_false hname) text htext

/-- A placeholder holds one mark. -/
theorem Unmarked.inText_callbackText (h : t.Unmarked) :
    Marker.inText t.callbackText.toList = [.secondary] := by
  have hopening : Marker.inText Names.callbackOpening.toList = [] := by decide
  rw [callbackText, String.toList_append, String.toList_append, Marker.inText_append,
    Marker.inText_append, h.inText_params, hopening, String.toList_ofList]
  decide

theorem Unmarked.isIn_callbackText (h : t.Unmarked) :
    Marker.isIn t.callbackText = true := by
  rw [Marker.isIn, h.inText_callbackText]
  rfl

/-! ## The texts of the arguments -/

/-- Before cleaning the texts with a mark are the placeholders. -/
theorem Unmarked.filter_argText (h : t.Unmarked) :
    (t.args.map argText).filter Marker.isIn = t.nested.map callbackText := by
  have hall : ∀ args : List SigType, args ⊆ t.args →
      (args.map argText).filter Marker.isIn
        = (args.filterMap SigType.fnType?).map callbackText := by
    intro args hsub
    induction args with
    | nil => rfl
    | cons arg args ih =>
        obtain ⟨harg, hrest⟩ := List.cons_subset.mp hsub
        cases arg with
        | name text =>
            have hname := h.isIn_eq_false (mem_names_of_mem_args harg)
            rw [List.map_cons, argText, List.filter_cons_of_neg (by simp [hname]),
              ih hrest]
            rfl
        | fn params ret =>
            have hu : ⟨params, ret⟩ ∈ t.nested := mem_nested.mpr harg
            rw [List.map_cons, argText, List.filter_cons_of_pos
              (h.nested hu).isIn_callbackText, ih hrest]
            rfl
  exact hall t.args (List.Subset.refl _)

theorem exists_callback {args : List String} {text : String}
    (h : args.filter Marker.isIn = t.nested.map callbackText) (htext : text ∈ args)
    (hp : Marker.isIn text = true) : ∃ u ∈ t.nested, callbackText u = text := by
  have hmem := List.mem_filter.mpr ⟨htext, hp⟩
  rw [h] at hmem
  exact List.mem_map.mp hmem

theorem Unmarked.selectsCallbacks (h : t.Unmarked) :
    Names.SelectsCallbacks Marker.isIn (t.args.map argText) := by
  constructor
  · intro text htext hp
    obtain ⟨u, _, rfl⟩ := exists_callback h.filter_argText htext hp
    exact u.isCallback_callbackText
  · intro text htext hp
    obtain ⟨u, _, rfl⟩ := exists_callback h.filter_argText htext hp
    exact u.getLast?_callbackText
  · exact fun _ _ => Marker.isIn_front

/-- And so they are in the template, once each and in order. -/
theorem Unmarked.filter_argTexts (h : t.Unmarked)
    (hnoise : ∀ text ∈ noise, Marker.isIn text = false) :
    (t.argTexts noise).filter Marker.isIn = t.nested.map callbackText := by
  rw [argTexts, filter_dropNoise hnoise, h.selectsCallbacks.filter_clean,
    h.filter_argText]

/-! ## The marks of a template -/

theorem toList_template (t : FnType) (noise : Option String) :
    (t.template noise).toList
      = '(' :: ((", ".intercalate ((t.argTexts noise).map tabStop)).toList
        ++ [')']) := by
  simp [template]

theorem inText_tabStop (text : String) :
    Marker.inText (tabStop text).toList
      = .primaryOpen :: (Marker.inText text.toList ++ [.primaryClose]) := by
  rw [tabStop, String.toList_append, String.toList_append, Marker.inText_append,
    Marker.inText_append]
  rfl

/-- How many tab stops without a default text there are in each text. -/
def innerStops (t : FnType) (noise : Option String) : List Nat :=
  (t.argTexts noise).map fun text => if Marker.isIn text then 1 else 0

theorem Unmarked.inText_template (h : t.Unmarked)
    (hnoise : ∀ text ∈ noise, Marker.isIn text = false) :
    Marker.inText (t.template noise).toList
      = (t.innerStops noise).flatMap Marker.group := by
  have htext : ∀ text ∈ t.argTexts noise, Marker.inText (tabStop text).toList
      = Marker.group (if Marker.isIn text then 1 else 0) := by
    intro text htext
    rw [inText_tabStop]
    cases hp : Marker.isIn text with
    | true =>
        obtain ⟨u, hu, rfl⟩ := exists_callback (h.filter_argTexts hnoise) htext hp
        rw [(h.nested hu).inText_callbackText]
        rfl
    | false =>
        rw [Marker.isIn_eq_false_iff.mp hp]
        rfl
  have hends : ∀ cs, Marker.inText ('(' :: (cs ++ [')'])) = Marker.inText cs := by
    intro cs
    rw [← List.singleton_append, Marker.inText_append, Marker.inText_append]
    exact List.append_nil _
  rw [toList_template, hends, Marker.inText_intercalate, innerStops,
    List.flatMap_map, List.flatMap_map]
  exact List.flatMap_congr htext

theorem length_innerStops : (t.innerStops noise).length = (t.argTexts noise).length :=
  List.length_map _

theorem Unmarked.sum_innerStops (h : t.Unmarked)
    (hnoise : ∀ text ∈ noise, Marker.isIn text = false) :
    (t.innerStops noise).sum = t.nested.length := by
  have hsum : ∀ texts : List String,
      (texts.map fun text => if Marker.isIn text then 1 else 0).sum
        = (texts.filter Marker.isIn).length := by
    intro texts
    induction texts with
    | nil => rfl
    | cons text texts ih =>
        rw [List.map_cons, List.sum_cons, ih, List.filter_cons]
        split <;> simp [Nat.add_comm]
  rw [innerStops, hsum, h.filter_argTexts hnoise, List.length_map]

/-! ## The plain rendering -/

theorem toList_snippet (t : FnType) (style : MarkerStyle) (noise : Option String) :
    (t.snippet style noise).text.toList
      = style.renderFrom 0 (t.template noise).toList := by
  rw [snippet, Snippet.render, String.toList_ofList]

theorem erase_tabStop (text : String) :
    Marker.erase (tabStop text).toList = Marker.erase text.toList := by
  rw [tabStop, String.toList_append, String.toList_append, Marker.erase_append,
    Marker.erase_append]
  exact List.append_nil _

theorem toList_snippet_plain (t : FnType) (noise : Option String) :
    (t.snippet .plain noise).text.toList
      = '(' :: ([',', ' '].intercalate
          ((t.argTexts noise).map fun text => Marker.erase text.toList) ++ [')']) := by
  have hends : ∀ cs, Marker.erase ('(' :: (cs ++ [')']))
      = '(' :: (Marker.erase cs ++ [')']) := by
    intro cs
    rw [← List.singleton_append, Marker.erase_append, Marker.erase_append]
    rfl
  rw [toList_snippet, MarkerStyle.renderFrom_plain, toList_template, hends,
    Marker.erase_intercalate, List.map_map]
  simp only [Function.comp_def, erase_tabStop]

theorem Unmarked.erase_callbackText (h : t.Unmarked) :
    Marker.erase t.callbackText.toList
      = "function".toList ++ '(' :: ((", ".intercalate (Names.clean t.leaves)).toList
        ++ [')', ' ', '\x7b', '\x7d']) := by
  rw [callbackText, String.toList_append, String.toList_append, Marker.erase_append,
    Marker.erase_append, Marker.erase_eq_self h.inText_params, String.toList_ofList,
    List.append_assoc]
  rfl

/-- A placeholder has the word at its start only, with its mark left out, too. -/
theorem Unmarked.openings_callbackText (h : t.Unmarked)
    (hnames : ∀ name ∈ t.names, Names.openings name.toList = 0) :
    Names.openings (Marker.erase t.callbackText.toList) = 1 := by
  have hparams : Names.openings (", ".intercalate (Names.clean t.leaves)).toList = 0 :=
    occurrences_params (by decide) (by decide) (by decide) hnames
  have hparen : '(' ∉ Names.callbackOpening.toList.dropLast := by decide
  have hopening : Names.openings ("function".toList ++ ['(']) = 1 := by decide
  have hclosing : Names.openings [' ', '\x7b', '\x7d'] = 0 := by decide
  rw [h.erase_callbackText, Names.openings, Text.occurrences_append_cons hparen,
    ← Names.openings, hopening, Text.occurrences_append_cons_of_not_mem (by decide)
      (by decide), ← Names.openings, ← Names.openings, hparams, hclosing]

/-- What is no placeholder does not have it. -/
theorem openings_argTexts (hnames : ∀ name ∈ t.names, Names.openings name.toList = 0)
    {text : String} (htext : text ∈ t.argTexts noise) :
    (∃ u ∈ t.nested, u.callbackText = text) ∨ Names.openings text.toList = 0 := by
  have hclean : text ∈ Names.clean (t.args.map argText) := dropNoise_subset htext
  refine @Names.forall_mem_clean
    (fun text => (∃ u ∈ t.nested, u.callbackText = text) ∨ Names.openings text.toList = 0)
    ?_ (t.args.map argText) ?_ text hclean
  · rintro text front (⟨u, _, rfl⟩ | hnone) hfront hcut
    · -- Placeholders are not cut.
      rcases hcut with hplain | hlabel
      · rw [u.isCallback_callbackText] at hplain
        cases hplain
      · exact absurd hlabel u.getLast?_callbackText
    · exact Or.inr (Text.occurrences_eq_zero_of_prefix hnone hfront)
  · intro text htext
    obtain ⟨arg, harg, rfl⟩ := List.mem_map.mp htext
    cases arg with
    | name name => exact Or.inr (hnames name (mem_names_of_mem_args harg))
    | fn params ret => exact Or.inl ⟨⟨params, ret⟩, mem_nested.mpr harg, rfl⟩

theorem Unmarked.openings_snippet (h : t.Unmarked)
    (hnames : ∀ name ∈ t.names, Names.openings name.toList = 0)
    (hnoise : ∀ text ∈ noise, Marker.isIn text = false) :
    Names.openings (t.snippet .plain noise).text.toList = t.nested.length := by
  have htexts : ∀ text ∈ t.argTexts noise,
      Names.openings (Marker.erase text.toList) = if Marker.isIn text then 1 else 0 := by
    intro text htext
    cases hp : Marker.isIn text with
    | true =>
        obtain ⟨u, hu, rfl⟩ := exists_callback (h.filter_argTexts hnoise) htext hp
        exact (h.nested hu).openings_callbackText fun name hname =>
          hnames name (names_subset_of_mem_nested hu hname)
    | false =>
        rw [Marker.erase_eq_self (Marker.isIn_eq_false_iff.mp hp)]
        rcases openings_argTexts hnames htext with ⟨u, hu, rfl⟩ | hnone
        · rw [(h.nested hu).isIn_callbackText] at hp
          cases hp
        · exact hnone
  have hparen : '(' ∉ Names.callbackOpening.toList.dropLast := by decide
  have hends : ∀ cs, Names.openings ('(' :: (cs ++ [')'])) = Names.openings cs := by
    intro cs
    have hopen := @Text.occurrences_append_cons _ [] (cs ++ [')']) '(' hparen
    have hnone : Names.openings ([] ++ ['(']) = 0 := by decide
    rw [← Names.openings, ← Names.openings, ← Names.openings, hnone, Nat.zero_add] at hopen
    refine hopen.trans ?_
    exact Text.occurrences_concat (by decide) (by decide)
  rw [toList_snippet_plain, hends, Names.openings_intercalate, List.map_map,
    ← h.sum_innerStops hnoise, innerStops]
  exact congrArg List.sum (List.map_congr_left htexts)

/-! ## Whole templates -/

/-- The marks of a template and of the snippets made of it are accounted for by the
arguments of the function type. -/
structure Accounted (t : FnType) (noise : Option String) : Prop where
  enclosed : ∃ stops, t.template noise = "(" ++ stops ++ ")"
  grouped : Marker.Grouped (Marker.inText (t.template noise).toList)
  /-- The callbacks come through cleaning, each once and in order. -/
  callbacks : (t.argTexts noise).filter Marker.isIn = t.nested.map callbackText
  secondaries :
    (t.template noise).toList.count Marker.secondary.char = t.nested.length
  primaries :
    (t.template noise).toList.count Marker.primaryOpen.char
      + (if noise ≠ some "" ∧ noise ≠ none
            ∧ (Names.clean (t.args.map argText)).getLast? = noise then 1 else 0)
      = (Names.clean (t.args.map argText)).length
  tabStops : ∀ style : MarkerStyle, (t.snippet style noise).tabStops
    = (t.template noise).toList.count Marker.primaryOpen.char
      + (t.template noise).toList.count Marker.secondary.char
  /-- The names have to be free of the word for this one. -/
  plain : (∀ name ∈ t.names, Names.openings name.toList = 0) →
    Names.openings (t.snippet .plain noise).text.toList = t.nested.length

theorem accounted_of_unmarked (t : FnType) (noise : Option String)
    (h : t.Unmarked) (hnoise : ∀ text ∈ noise, ∀ mark : Marker, mark.char ∉ text.toList) :
    t.Accounted noise := by
  have hplain : ∀ text ∈ noise, Marker.isIn text = false := fun text htext =>
    Marker.isIn_eq_false_iff_forall.mpr (hnoise text htext)
  have hmarks := h.inText_template hplain
  constructor
  · exact ⟨_, rfl⟩
  · exact ⟨_, hmarks⟩
  · exact h.filter_argTexts hplain
  · rw [← Marker.count_inText, hmarks, Marker.count_secondary_groups,
      h.sum_innerStops hplain]
  · rw [← Marker.count_inText, hmarks, Marker.count_primaryOpen_groups,
      length_innerStops]
    exact length_dropNoise
  · intro style
    exact Marker.countP_startsTabStop _
  · intro hnames
    exact h.openings_snippet hnames hplain

theorem accounted_of_unmarked_labelled :
    let t : FnType := ⟨[.name "compare:", .fn [.name "a:number", .name "b"] none,
      .name "label:", .name "i:number", .fn [] none, .name "context"], some (.name "r")⟩
    t.Unmarked ∧ (∀ name ∈ t.names, Names.openings name.toList = 0) ∧
      t.Accounted (some "context") ∧
      Names.openings (t.snippet .plain (some "context")).text.toList = 2 := by
  intro t
  have hlist : t.names = ↑["compare:", "a:number", "b", "label:", "i:number",
      "context", "r"] := by decide
  have hplain : ∀ name ∈ t.names, Marker.isIn name = false := by
    rw [hlist]
    decide
  have hunmarked : t.Unmarked := fun name hname =>
    Marker.isIn_eq_false_iff_forall.mp (hplain name hname)
  have hnoise : ∀ text ∈ some "context", ∀ mark : Marker, mark.char ∉ text.toList := by
    rintro text ⟨⟩
    exact Marker.isIn_eq_false_iff_forall.mp (by decide)
  have hnames : ∀ name ∈ t.names, Names.openings name.toList = 0 := by
    rw [hlist]
    decide
  have hall := accounted_of_unmarked t (some "context") hunmarked hnoise
  exact ⟨hunmarked, hnames, hall, hall.plain hnames⟩

end FnType

end SignatureSnippets
