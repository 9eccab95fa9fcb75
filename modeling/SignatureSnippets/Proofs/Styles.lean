import SignatureSnippets.Proofs.Decoding
import SignatureSnippets.Proofs.TabStops

/-!
# The styles side by side

A template is rendered in one pass, with the next number at hand, and the styles differ
in what they write for a mark and in nothing else. The plain style writes nothing, so its
text is the template without its marks. A TextMate text, read back, is the same text with
tab stops in between, and without them it is the plain one.

Chocolat text has no escapes, and it cannot be read back: a name may hold what looks like
a tab stop. But a tab stop starts with a percent sign and an opening brace, and if no name
holds these two in a row, nothing does that is not a tab stop. A cleaned name has them
not, since it is the front of a text that has not, and no two pieces make them up between
them, since what is written for a mark neither starts with the brace nor ends in the
percent sign. So the numbers behind them are those of the tab stops, one after the other.
-/

namespace SignatureSnippets

/-! ## One pass -/

namespace MarkerStyle

/-- Writes a character of a template, behind the text so far and where `written.2` numbers
are given away. -/
def emit (style : MarkerStyle) (written : List Char × Nat) (c : Char) : List Char × Nat :=
  match Marker.ofChar? c with
  | some .primaryOpen =>
    (written.1 ++ (style.opening.fill (written.2 + 1)).toList, written.2 + 1)
  | some .secondary => (written.1 ++ (style.empty.fill (written.2 + 1)).toList, written.2 + 1)
  | some .primaryClose => (written.1 ++ style.closing.toList, written.2)
  | none => (written.1 ++ style.escape c, written.2)

theorem foldl_emit (style : MarkerStyle) (cs text : List Char) (used : Nat) :
    cs.foldl style.emit (text, used)
      = (text ++ style.renderFrom used cs, used + cs.countP startsTabStop) := by
  induction cs generalizing text used with
  | nil => rw [renderFrom, List.append_nil]; rfl
  | cons c cs ih =>
      rw [List.foldl_cons, emit, renderFrom, List.countP_cons, startsTabStop]
      cases Marker.ofChar? c with
      | none => exact (ih _ _).trans (by simp)
      | some mark =>
          cases mark with
          | primaryOpen | secondary =>
              exact (ih _ _).trans (by simp [Nat.add_assoc, Nat.add_comm 1])
          | primaryClose => exact (ih _ _).trans (by simp)

end MarkerStyle

/-! ## TextMate text without its tab stops -/

namespace TextMate

def Piece.literal? : Piece → Option Char
  | .literal c => some c
  | .opening _ => none
  | .closing => none
  | .tabStop _ => none

/-- A TextMate text without its tab stops and with its escapes undone. -/
def literals (cs : List Char) : List Char :=
  (read cs).filterMap Piece.literal?

theorem literals_renderFrom (used : Nat) (cs : List Char) :
    literals (MarkerStyle.textmate.renderFrom used cs) = Marker.erase cs := by
  induction cs generalizing used with
  | nil => rw [MarkerStyle.renderFrom, literals, read_nil]; rfl
  | cons c cs ih =>
      have herase : Marker.erase (c :: cs)
          = if (Marker.ofChar? c).isNone then c :: Marker.erase cs else Marker.erase cs :=
        List.filter_cons
      rw [literals, read_renderFrom_cons, List.filterMap_cons, ← literals, ih, herase,
        Piece.ofChar]
      cases Marker.ofChar? c with
      | none => rfl
      | some mark => cases mark <;> rfl

end TextMate

theorem Marker.erase_eq_filter (cs : List Char) :
    erase cs = cs.filter fun c => c ∉ ['\x02', '\x03', '\x1a'] := by
  refine List.filter_congr fun c _ => ?_
  have hmark : (∀ mark, ofChar? c ≠ some mark) ↔ c ∉ ['\x02', '\x03', '\x1a'] := by
    simp only [ne_eq, ofChar?_eq_some_iff, List.mem_cons, List.not_mem_nil, or_false, not_or]
    constructor
    · intro h
      exact ⟨h .primaryOpen, h .primaryClose, h .secondary⟩
    · rintro ⟨hopen, hclose, hsecond⟩ mark
      cases mark with
      | primaryOpen => exact hopen
      | primaryClose => exact hclose
      | secondary => exact hsecond
  rw [Bool.eq_iff_iff, Option.isNone_iff_eq_none, Option.eq_none_iff_forall_ne_some, hmark,
    decide_eq_true_eq]

/-- One pass renders a template in any style and counts its tab stops, and these are its
marks but for those that end a default text. The plain text is the template without its
marks, and so is the TextMate text without its tab stops and escapes. -/
theorem Snippet.styles_differ_in_notation (template : String) :
    (∀ style : MarkerStyle,
      template.toList.foldl style.emit ([], 0)
          = ((render template style).text.toList, (render template style).tabStops) ∧
        (render template style).tabStops
          = template.toList.count '\x02' + template.toList.count '\x1a') ∧
      (render template .plain).text.toList
        = template.toList.filter (fun c => c ∉ ['\x02', '\x03', '\x1a']) ∧
      TextMate.literals (render template .textmate).text.toList
        = (render template .plain).text.toList := by
  have hplain : (render template .plain).text.toList = Marker.erase template.toList := by
    rw [render, String.toList_ofList, MarkerStyle.renderFrom_plain]
  refine ⟨fun style => ⟨?_, ?_⟩, ?_, ?_⟩
  · rw [MarkerStyle.foldl_emit, render, String.toList_ofList, List.nil_append, Nat.zero_add]
  · exact Marker.countP_startsTabStop template.toList
  · rw [hplain, Marker.erase_eq_filter]
  · rw [hplain, render, String.toList_ofList, TextMate.literals_renderFrom]

/-! ## The numbers in a Chocolat text -/

namespace Chocolat

/-- What a tab stop starts with. -/
def opener : List Char := ['%', '{']

/-- The digits behind each place at which a tab stop seems to start. -/
def numerals : List Char → List (List Char)
  | [] => []
  | c :: cs =>
    if opener <+: c :: cs then (cs.drop 1).takeWhile Char.isDigit :: numerals cs
    else numerals cs

variable {front rest cs : List Char} {c : Char} {used number : Nat}

theorem numerals_append (h : '%' ∉ front) : numerals (front ++ rest) = numerals rest := by
  induction front with
  | nil => rfl
  | cons c front ih =>
      rw [List.mem_cons, not_or] at h
      have hnone : ¬ opener <+: c :: (front ++ rest) := fun hpre =>
        h.1 (List.cons_prefix_cons.mp hpre).1
      rw [List.cons_append, numerals, if_neg hnone, ih h.2]

/-- Whatever stands behind a place with the two characters is looked at. -/
theorem mem_numerals (front rest : List Char) :
    rest.takeWhile Char.isDigit ∈ numerals (front ++ '%' :: '{' :: rest) := by
  induction front with
  | nil =>
      rw [List.nil_append, numerals, if_pos ⟨rest, rfl⟩]
      exact List.mem_cons_self
  | cons c front ih =>
      rw [List.cons_append, numerals]
      split
      · exact List.mem_cons_of_mem _ ih
      · exact ih

/-- A tab stop gives its number, whatever its notation ends with. -/
theorem numerals_numbered (hc : c.isDigit = false) (hbehind : '%' ∉ c :: cs) :
    numerals ('%' :: '{' :: (Nat.toDigits 10 number ++ c :: cs) ++ rest)
      = Nat.toDigits 10 number :: numerals rest := by
  have hpercent : '%' ∉ '{' :: (Nat.toDigits 10 number ++ c :: cs) := by
    rw [List.mem_cons, List.mem_append, not_or, not_or]
    refine ⟨by decide, fun hmem => ?_, hbehind⟩
    exact absurd (TextMate.isDigit_toDigits _ hmem) (by decide)
  have hskip := @numerals_append _ rest hpercent
  have hdigits : ((Nat.toDigits 10 number ++ c :: cs) ++ rest).takeWhile Char.isDigit
      = Nat.toDigits 10 number := by
    rw [List.append_assoc]
    exact TextMate.takeWhile_digits TextMate.isDigit_toDigits hc
  rw [List.cons_append] at hskip
  rw [List.cons_append, List.cons_append, numerals, if_pos ⟨_, rfl⟩, List.drop_one,
    List.tail_cons, hdigits, hskip]

theorem fill_opening (number : Nat) :
    (MarkerStyle.chocolat.opening.fill number).toList
      = '%' :: '{' :: (Nat.toDigits 10 number ++ ['=', '"']) := by
  simp [MarkerStyle.opening, MarkPattern.fill, String.join]

theorem fill_empty (number : Nat) :
    (MarkerStyle.chocolat.empty.fill number).toList
      = '%' :: '{' :: (Nat.toDigits 10 number ++ ['}']) := by
  simp [MarkerStyle.empty, MarkPattern.fill, String.join]

/-- A rendered text starts with a brace only if the template does. -/
theorem head?_renderFrom (h : (MarkerStyle.chocolat.renderFrom used cs).head? = some '{') :
    cs.head? = some '{' := by
  cases cs with
  | nil => exact h
  | cons c cs =>
      rw [MarkerStyle.renderFrom] at h
      cases hc : Marker.ofChar? c with
      | none =>
          rw [hc] at h
          exact h
      | some mark =>
          rw [hc] at h
          cases mark with
          | primaryOpen =>
              simp only [fill_opening] at h
              cases h
          | primaryClose => cases h
          | secondary =>
              simp only [fill_empty] at h
              cases h

/-- A mark gives its number, and a character that does not start the two gives none. -/
theorem numerals_renderFrom_cons (h : ¬ opener <+: c :: cs) :
    numerals (MarkerStyle.chocolat.renderFrom used (c :: cs))
      = (if startsTabStop c then [Nat.toDigits 10 (used + 1)] else [])
        ++ numerals (MarkerStyle.chocolat.renderFrom
            (used + if startsTabStop c then 1 else 0) cs) := by
  rw [MarkerStyle.renderFrom, startsTabStop]
  cases Marker.ofChar? c with
  | none =>
      have hnone : ¬ opener <+: c :: MarkerStyle.chocolat.renderFrom used cs := by
        intro hpre
        obtain ⟨rest, hrest⟩ := hpre
        obtain ⟨hc, hcs⟩ := List.cons.inj hrest
        have hhead : cs.head? = some '{' := by
          refine @head?_renderFrom cs used ?_
          rw [← hcs]
          rfl
        obtain ⟨more, rfl⟩ := List.head?_eq_some_iff.mp hhead
        exact h ⟨more, by rw [← hc]; rfl⟩
      show numerals (c :: MarkerStyle.chocolat.renderFrom used cs) = _
      rw [numerals, if_neg hnone]
      rfl
  | some mark =>
      cases mark with
      | primaryOpen =>
          show numerals ((MarkerStyle.chocolat.opening.fill (used + 1)).toList ++ _) = _
          rw [fill_opening]
          exact numerals_numbered rfl (by decide)
      | primaryClose => exact numerals_append (by decide)
      | secondary =>
          show numerals ((MarkerStyle.chocolat.empty.fill (used + 1)).toList ++ _) = _
          rw [fill_empty]
          exact numerals_numbered rfl (by decide)

theorem numerals_renderFrom (used : Nat) (h : ¬ opener <:+: cs) :
    numerals (MarkerStyle.chocolat.renderFrom used cs)
      = (List.range' (used + 1) (cs.countP startsTabStop)).map (Nat.toDigits 10) := by
  induction cs generalizing used with
  | nil => rfl
  | cons c cs ih =>
      rw [List.infix_cons_iff, not_or] at h
      rw [numerals_renderFrom_cons h.1, ih _ h.2, List.countP_cons]
      cases startsTabStop c with
      | false => rfl
      | true =>
          rw [if_pos rfl, if_pos rfl, List.range'_succ, List.map_cons]
          rfl

end Chocolat

namespace FnType

open Chocolat

variable {t : FnType} {noise : Option String}

/-- What the names are free of, their placeholder is free of. -/
theorem opener_callbackText (h : ∀ name ∈ t.names, Text.occurrences opener name.toList = 0) :
    Text.occurrences opener t.callbackText.toList = 0 := by
  have hparams := @occurrences_params t opener (by decide) (by decide) (by decide) h
  have hchars : t.callbackText.toList
      = "function".toList ++ '(' :: ((", ".intercalate (Names.clean t.leaves)).toList
        ++ ')' :: [' ', '{', Marker.secondary.char, '}']) := by
    rw [callbackText, String.toList_append, String.toList_append, String.toList_ofList,
      List.append_assoc]
    rfl
  rw [hchars, Text.occurrences_append_cons_of_not_mem (by decide) (by decide),
    Text.occurrences_append_cons_of_not_mem (by decide) (by decide), hparams]
  decide

theorem opener_argTexts (h : ∀ name ∈ t.names, Text.occurrences opener name.toList = 0) :
    ∀ text ∈ t.argTexts noise, Text.occurrences opener text.toList = 0 := by
  intro text htext
  refine @Names.forall_mem_clean (fun text => Text.occurrences opener text.toList = 0) ?_
    (t.args.map argText) ?_ text (dropNoise_subset htext)
  · intro text front hnone hfront _
    exact Text.occurrences_eq_zero_of_prefix hnone hfront
  · intro text htext
    obtain ⟨arg, harg, rfl⟩ := List.mem_map.mp htext
    cases arg with
    | name name => exact h name (mem_names_of_mem_args harg)
    | fn params ret =>
        have hu : ⟨params, ret⟩ ∈ t.nested := mem_nested.mpr harg
        exact opener_callbackText fun name hname => h name (names_subset_of_mem_nested hu hname)

theorem opener_template (h : ∀ name ∈ t.names, Text.occurrences opener name.toList = 0) :
    Text.occurrences opener (t.template noise).toList = 0 := by
  have htabStop : ∀ text : String,
      Text.occurrences opener (tabStop text).toList = Text.occurrences opener text.toList := by
    intro text
    have hchars : (tabStop text).toList
        = Marker.primaryOpen.char :: (text.toList ++ [Marker.primaryClose.char]) := by
      simp [tabStop]
    rw [hchars, Text.occurrences_between (by decide) (by decide) (by decide)]
  rw [toList_template, Text.occurrences_between (by decide) (by decide) (by decide),
    String.toList_intercalate]
  show Text.occurrences opener ([',', ' '].intercalate _) = 0
  rw [Text.occurrences_intercalate (by decide) (by decide) (by decide),
    List.sum_eq_zero_iff_forall_eq_nat, List.map_map, List.map_map, List.forall_mem_map]
  intro text htext
  exact (htabStop text).trans (opener_argTexts h text htext)

/-- If no name holds what a tab stop starts with, the numbers behind it in a Chocolat
snippet are those of its tab stops. Neither the noise nor the marks in names matter to
that. -/
theorem numerals_snippet_chocolat (t : FnType) (noise : Option String)
    (h : ∀ name ∈ t.names, ¬ opener <:+: name.toList) :
    numerals (t.snippet .chocolat noise).text.toList
        = (List.range' 1 (t.snippet .chocolat noise).tabStops).map (Nat.toDigits 10) ∧
      ∀ front rest, (t.snippet .chocolat noise).text.toList = front ++ '%' :: '{' :: rest →
        ∃ d more, rest = d :: more ∧ d.isDigit = true := by
  have hnames : ∀ name ∈ t.names, Text.occurrences opener name.toList = 0 := fun name hname =>
    (Text.occurrences_eq_zero_iff (by decide)).mpr (h name hname)
  have htemplate : ¬ opener <:+: (t.template noise).toList :=
    (Text.occurrences_eq_zero_iff (by decide)).mp (opener_template hnames)
  have hnumerals : numerals (t.snippet .chocolat noise).text.toList
      = (List.range' 1 (t.snippet .chocolat noise).tabStops).map (Nat.toDigits 10) := by
    rw [toList_snippet, numerals_renderFrom 0 htemplate]
    rfl
  refine ⟨hnumerals, fun front rest hsplit => ?_⟩
  have hmem := mem_numerals front rest
  rw [← hsplit, hnumerals] at hmem
  obtain ⟨number, _, hdigits⟩ := List.mem_map.mp hmem
  cases rest with
  | nil => exact absurd hdigits Nat.toDigits_ne_nil
  | cons d more =>
      refine ⟨d, more, rfl, ?_⟩
      by_contra hd
      rw [List.takeWhile_cons_of_neg hd] at hdigits
      exact Nat.toDigits_ne_nil hdigits

theorem numerals_snippet_percent :
    let t : FnType := ⟨[.name "a%", .name "\x7b1", .name "x%:\x7by",
      .fn [.name "5%", .name "\x7b"] none, .name "context"], some (.name "%")⟩
    (∀ name ∈ t.names, ¬ opener <:+: name.toList) ∧
      (t.snippet .chocolat (some "context")).text
        = "(%\x7b1=\"a%\"\x7d, %\x7b2=\"\x7b1\"\x7d, %\x7b3=\"x%\"\x7d, " ++
          "%\x7b4=\"function(5%, \x7b) \x7b%\x7b5\x7d\x7d\"\x7d)" ∧
      numerals (t.snippet .chocolat (some "context")).text.toList
        = [['1'], ['2'], ['3'], ['4'], ['5']] := by
  intro t
  have hlist : t.names = ↑["a%", "\x7b1", "x%:\x7by", "5%", "\x7b", "context", "%"] := by
    decide
  have hcount : ∀ name ∈ t.names, Text.occurrences opener name.toList = 0 := by
    rw [hlist]
    decide
  have hnames : ∀ name ∈ t.names, ¬ opener <:+: name.toList := fun name hname =>
    (Text.occurrences_eq_zero_iff (by decide)).mp (hcount name hname)
  obtain ⟨hnumerals, _⟩ := numerals_snippet_chocolat t (some "context") hnames
  refine ⟨hnames, by decide +kernel, ?_⟩
  rw [hnumerals]
  decide +kernel

end FnType

end SignatureSnippets
