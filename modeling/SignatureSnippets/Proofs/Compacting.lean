import Mathlib.Data.List.TakeWhile
import SignatureSnippets.Signature.Compact

/-!
# The three passes over a text

A text is made compact by three passes, each over the whole of it, and a pass can
see what the one before it has left behind. Two facts make them easy to follow.

The first two passes, together `respell`, replace what they find and copy the
rest, so they go through a text piece by piece as long as no replacement straddles
two pieces (`respell_append`). `CutsThrough` says what it is to straddle, and
`Separated` that nothing does in front of a text.

The third pass collapses an object type wherever an opening brace is neither
closed at once nor left open for good. A text where that happens nowhere is
`ObjectFree`. The first two passes do not touch braces, so they neither make nor
break that (`objectFree_respell`); on such a text the third pass does nothing,
and on every other text it takes an opening brace away, which is how the two are
told apart from outside (`count_collapseObjects_lt`).
-/

namespace SignatureSnippets.Compact

variable {cs rest : List Char} {c : Char}

/-! ## Keywords and arrows -/

/-- The first two passes. -/
def respell (cs : List Char) : List Char :=
  shortenArrows (dropKeyword cs)

theorem dropKeyword_cons (h : c ≠ 'f') :
    dropKeyword (c :: cs) = c :: dropKeyword cs := by
  rw [dropKeyword]
  intro _ heq
  exact absurd heq h

theorem shortenArrows_cons (h : c ≠ '-') :
    shortenArrows (c :: cs) = c :: shortenArrows cs := by
  rw [shortenArrows]
  intro _ heq
  exact absurd heq h

/-- The first pass puts no character but a parenthesis at the front of a text. -/
theorem head?_dropKeyword (h : c ≠ '(') (hhead : (dropKeyword cs).head? = some c) :
    cs.head? = some c := by
  unfold dropKeyword at hhead
  split at hhead
  · exact absurd (Option.some.inj hhead).symm h
  · exact hhead
  · exact hhead

theorem respell_nil : respell [] = [] := rfl

theorem respell_keyword :
    respell ('f' :: 'n' :: '(' :: rest) = '(' :: respell rest := by
  rw [respell, dropKeyword, shortenArrows_cons (by decide)]
  rfl

theorem respell_arrow : respell ('-' :: '>' :: rest) = '>' :: respell rest := by
  rw [respell, dropKeyword_cons (by decide), dropKeyword_cons (by decide),
    shortenArrows]
  rfl

theorem respell_cons (hf : c ≠ 'f') (hdash : c ≠ '-') :
    respell (c :: rest) = c :: respell rest := by
  rw [respell, dropKeyword_cons hf, shortenArrows_cons hdash]
  rfl

/-! ## Object types -/

/-- No object type is written out in the text: an opening brace is closed at once
or not at all. -/
def ObjectFree (cs : List Char) : Prop :=
  ∀ before after, cs = before ++ '{' :: after →
    after.head? = some '}' ∨ '}' ∉ after

theorem objectFree_nil : ObjectFree [] := by
  intro before after h
  simp at h

theorem objectFree_cons :
    ObjectFree (c :: cs) ↔
      (c = '{' → cs.head? = some '}' ∨ '}' ∉ cs) ∧ ObjectFree cs := by
  constructor
  · intro h
    refine ⟨fun hc => h [] cs (by rw [hc]; rfl), fun before after heq => ?_⟩
    exact h (c :: before) after (by rw [heq]; rfl)
  · rintro ⟨hhead, htail⟩ before after heq
    cases before with
    | nil =>
        obtain ⟨hc, hcs⟩ := List.cons.inj heq
        rw [← hcs]
        exact hhead hc
    | cons b before => exact htail before after (List.cons.inj heq).2

theorem objectFree_cons_of_ne (h : c ≠ '{') :
    ObjectFree (c :: cs) ↔ ObjectFree cs := by
  rw [objectFree_cons]
  exact ⟨And.right, fun htail => ⟨fun hc => absurd hc h, htail⟩⟩

theorem objectFree_of_not_mem_opening (h : '{' ∉ cs) : ObjectFree cs := by
  intro before after heq
  exact absurd (by rw [heq]; simp) h

theorem objectFree_of_not_mem_closing (h : '}' ∉ cs) : ObjectFree cs := by
  intro before after heq
  refine Or.inr fun hmem => h ?_
  rw [heq]
  exact List.mem_append_right before (List.mem_cons_of_mem '{' hmem)

theorem dropWhile_append_of_not_mem {ds : List Char} (h : '}' ∉ cs) :
    (cs ++ ds).dropWhile (· ≠ '}') = ds.dropWhile (· ≠ '}') := by
  refine List.dropWhile_append_of_pos fun c hc => ?_
  exact decide_eq_true fun heq => h (heq ▸ hc)

theorem afterObject?_eq (h : cs.head? ≠ some '}') :
    afterObject? cs = (cs.dropWhile (· ≠ '}')).tail? := by
  unfold afterObject?
  split
  · exact absurd rfl h
  · rfl

theorem afterObject?_eq_none_iff :
    afterObject? cs = none ↔ cs.head? = some '}' ∨ '}' ∉ cs := by
  unfold afterObject?
  split
  · simp
  · next hhead =>
      have hne : cs.head? ≠ some '}' := by
        intro heq
        cases cs with
        | nil => cases heq
        | cons c cs => exact hhead cs (by rw [Option.some.inj heq])
      have htail : ∀ l : List Char, l.tail? = none ↔ l = [] := by
        intro l
        cases l <;> simp
      rw [or_iff_right hne, htail, List.dropWhile_eq_nil_iff]
      constructor
      · intro h hmem
        simpa using h '}' hmem
      · intro h x hx
        exact decide_eq_true fun heq => h (by rw [← heq]; exact hx)

theorem collapseObjects_object (h : afterObject? cs = some rest) :
    collapseObjects ('{' :: cs) = objectName ++ collapseObjects rest := by
  rw [collapseObjects, if_pos rfl]
  split
  · next heq =>
      rw [h] at heq
      cases heq
      rfl
  · next heq =>
      rw [h] at heq
      cases heq

theorem collapseObjects_brace (h : afterObject? cs = none) :
    collapseObjects ('{' :: cs) = '{' :: collapseObjects cs := by
  rw [collapseObjects, if_pos rfl]
  split
  · next heq =>
      rw [h] at heq
      cases heq
  · rfl

theorem collapseObjects_cons (h : c ≠ '{') :
    collapseObjects (c :: cs) = c :: collapseObjects cs := by
  rw [collapseObjects, if_neg h]

theorem collapseObjects_of_objectFree (h : ObjectFree cs) :
    collapseObjects cs = cs := by
  induction cs with
  | nil => rw [collapseObjects]
  | cons c cs ih =>
      obtain ⟨hhead, htail⟩ := objectFree_cons.mp h
      by_cases hc : c = '{'
      · subst hc
        rw [collapseObjects_brace (afterObject?_eq_none_iff.mpr (hhead rfl)), ih htail]
      · rw [collapseObjects_cons hc, ih htail]

/-- What follows an object type is the end of the text. -/
theorem afterObject?_suffix {tail : List Char} (h : afterObject? cs = some tail) :
    tail <:+ cs := by
  unfold afterObject? at h
  split at h
  · cases h
  · refine List.IsSuffix.trans ?_ (List.dropWhile_suffix (· ≠ '}'))
    cases hdrop : cs.dropWhile (· ≠ '}') with
    | nil =>
        rw [hdrop] at h
        cases h
    | cons c rest =>
        rw [hdrop] at h
        cases h
        exact List.suffix_cons c _

theorem count_objectName : objectName.count '{' = 0 := by decide

/-- The third pass adds no opening brace, and takes one away if it does anything
at all. -/
theorem count_collapseObjects (cs : List Char) :
    (collapseObjects cs).count '{' ≤ cs.count '{' ∧
      (¬ ObjectFree cs → (collapseObjects cs).count '{' < cs.count '{') := by
  fun_induction collapseObjects cs with
  | case1 => exact ⟨Nat.le_refl _, fun h => absurd objectFree_nil h⟩
  | case2 cs rest hrest ih =>
      have hsub := (afterObject?_suffix hrest).sublist.count_le '{'
      rw [List.count_append, count_objectName, List.count_cons_self]
      exact ⟨by omega, fun _ => by omega⟩
  | case3 cs hnone ih =>
      rw [List.count_cons_self, List.count_cons_self]
      refine ⟨by omega, fun h => ?_⟩
      have htail : ¬ ObjectFree cs := fun hfree => h
        (objectFree_cons.mpr ⟨fun _ => afterObject?_eq_none_iff.mp hnone, hfree⟩)
      have := ih.2 htail
      omega
  | case4 c cs hc ih =>
      rw [List.count_cons_of_ne hc, List.count_cons_of_ne hc]
      exact ⟨ih.1, fun h => ih.2 fun hfree =>
        h ((objectFree_cons_of_ne hc).mpr hfree)⟩

theorem count_collapseObjects_lt (h : ¬ ObjectFree cs) :
    (collapseObjects cs).count '{' < cs.count '{' :=
  (count_collapseObjects cs).2 h

/-! ## What the third pass leaves

The third pass finds all object types at once: there are none in what it leaves. -/

theorem objectFree_append_of_not_mem {ds : List Char} (h : '{' ∉ cs) :
    ObjectFree (cs ++ ds) ↔ ObjectFree ds := by
  induction cs with
  | nil => exact Iff.rfl
  | cons c cs ih =>
      rw [List.mem_cons, not_or] at h
      rw [List.cons_append, objectFree_cons_of_ne (Ne.symm h.1), ih h.2]

/-- The third pass adds no closing brace. -/
theorem closing_mem_of_collapseObjects (h : '}' ∈ collapseObjects cs) : '}' ∈ cs := by
  fun_induction collapseObjects cs with
  | case1 => exact h
  | case2 cs rest hrest ih =>
      rcases List.mem_append.mp h with hname | hmore
      · exact absurd hname (by decide)
      · exact List.mem_cons_of_mem '{' ((afterObject?_suffix hrest).subset (ih hmore))
  | case3 cs hnone ih =>
      rcases List.mem_cons.mp h with heq | hmore
      · exact absurd heq (by decide)
      · exact List.mem_cons_of_mem '{' (ih hmore)
  | case4 c cs hc ih =>
      rcases List.mem_cons.mp h with rfl | hmore
      · exact List.mem_cons_self
      · exact List.mem_cons_of_mem c (ih hmore)

theorem objectFree_collapseObjects (cs : List Char) : ObjectFree (collapseObjects cs) := by
  fun_induction collapseObjects cs with
  | case1 => exact objectFree_nil
  | case2 cs rest hrest ih =>
      exact (objectFree_append_of_not_mem (by decide)).mpr ih
  | case3 cs hnone ih =>
      refine objectFree_cons.mpr ⟨fun _ => ?_, ih⟩
      rcases afterObject?_eq_none_iff.mp hnone with hhead | hopen
      · obtain ⟨tail, rfl⟩ := List.head?_eq_some_iff.mp hhead
        rw [collapseObjects_cons (by decide)]
        exact Or.inl rfl
      · exact Or.inr fun hmem => hopen (closing_mem_of_collapseObjects hmem)
  | case4 c cs hc ih => exact (objectFree_cons_of_ne hc).mpr ih

/-! ## Braces through the first two passes

What the first two passes replace holds no brace, and neither does what they put
in its place. That is all that is used of either pass here. -/

/-- The second text is the first one with keywords and arrows replaced. -/
inductive Respelled : List Char → List Char → Prop
  | nil : Respelled [] []
  | keep (c : Char) {cs ds : List Char} (h : Respelled cs ds) :
      Respelled (c :: cs) (c :: ds)
  | keyword {cs ds : List Char} (h : Respelled cs ds) :
      Respelled ('f' :: 'n' :: '(' :: cs) ('(' :: ds)
  | arrow {cs ds : List Char} (h : Respelled cs ds) :
      Respelled ('-' :: '>' :: cs) ('>' :: ds)

theorem respelled_dropKeyword (cs : List Char) : Respelled cs (dropKeyword cs) := by
  fun_induction dropKeyword cs with
  | case1 rest ih => exact .keyword ih
  | case2 c rest _ ih => exact .keep c ih
  | case3 => exact .nil

theorem respelled_shortenArrows (cs : List Char) :
    Respelled cs (shortenArrows cs) := by
  fun_induction shortenArrows cs with
  | case1 rest ih => exact .arrow ih
  | case2 c rest _ ih => exact .keep c ih
  | case3 => exact .nil

namespace Respelled

variable {ds : List Char}

theorem mem_closing_iff (h : Respelled cs ds) : '}' ∈ ds ↔ '}' ∈ cs := by
  induction h with
  | nil => exact Iff.rfl
  | keep c _ ih => rw [List.mem_cons, List.mem_cons, ih]
  | keyword _ ih => simp [ih]
  | arrow _ ih => simp [ih]

theorem head?_closing_iff (h : Respelled cs ds) :
    ds.head? = some '}' ↔ cs.head? = some '}' := by
  cases h with
  | nil => exact Iff.rfl
  | keep c _ => exact Iff.rfl
  | keyword _ => simp
  | arrow _ => simp

theorem objectFree_iff (h : Respelled cs ds) : ObjectFree ds ↔ ObjectFree cs := by
  induction h with
  | nil => exact Iff.rfl
  | keep c h ih =>
      rw [objectFree_cons, objectFree_cons, ih, h.mem_closing_iff,
        h.head?_closing_iff]
  | keyword _ ih =>
      rw [objectFree_cons_of_ne (by decide), objectFree_cons_of_ne (by decide),
        objectFree_cons_of_ne (by decide), objectFree_cons_of_ne (by decide), ih]
  | arrow _ ih =>
      rw [objectFree_cons_of_ne (by decide), objectFree_cons_of_ne (by decide),
        objectFree_cons_of_ne (by decide), ih]

theorem count_eq (h : Respelled cs ds) : ds.count '{' = cs.count '{' := by
  induction h with
  | nil => rfl
  | keep c _ ih => rw [List.count_cons, List.count_cons, ih]
  | keyword _ ih => simp [ih]
  | arrow _ ih => simp [ih]

theorem eq_nil_iff (h : Respelled cs ds) : ds = [] ↔ cs = [] := by
  cases h <;> simp

/-- What a respelled text ends with the text itself ended with, a keyword or an arrow
apart. -/
theorem suffix_of (h : Respelled cs ds) (hopen : c ≠ '(') (harrow : c ≠ '>')
    (hsuffix : [c] <:+ ds) : [c] <:+ cs := by
  induction h with
  | nil => exact hsuffix
  | keep d h ih =>
      rcases List.suffix_cons_iff.mp hsuffix with heq | hrest
      · obtain ⟨rfl, hnil⟩ := List.cons.inj heq
        exact ⟨[], by rw [h.eq_nil_iff.mp hnil.symm]; rfl⟩
      · exact (ih hrest).trans (List.suffix_cons d _)
  | keyword h ih =>
      rcases List.suffix_cons_iff.mp hsuffix with heq | hrest
      · exact absurd (List.cons.inj heq).1 hopen
      · exact (ih hrest).trans (List.suffix_append ['f', 'n', '('] _)
  | arrow h ih =>
      rcases List.suffix_cons_iff.mp hsuffix with heq | hrest
      · exact absurd (List.cons.inj heq).1 harrow
      · exact (ih hrest).trans (List.suffix_append ['-', '>'] _)

end Respelled

theorem objectFree_respell : ObjectFree (respell cs) ↔ ObjectFree cs :=
  (respelled_shortenArrows _).objectFree_iff.trans
    (respelled_dropKeyword cs).objectFree_iff

theorem count_respell (cs : List Char) :
    (respell cs).count '{' = cs.count '{' :=
  (respelled_shortenArrows _).count_eq.trans (respelled_dropKeyword cs).count_eq

/-! ## Pieces of a text

The first two passes go through two pieces of a text apart, unless an occurrence of what
one of them looks for lies across the cut. Dropping keywords makes no new arrow there. -/

section
variable {mark before after ds : List Char}

/-- The end of the first text and the front of the second make up the mark. -/
def CutsThrough (mark before after : List Char) : Prop :=
  ∃ n < mark.length, 0 < n ∧ mark.take n <:+ before ∧ mark.drop n <+: after

theorem cutsThrough_pair {a b : Char} :
    CutsThrough [a, b] before after ↔ [a] <:+ before ∧ [b] <+: after := by
  constructor
  · rintro ⟨n, hlt, hpos, hbefore, hafter⟩
    have hn : n = 1 := by
      simp only [List.length_cons, List.length_nil] at hlt
      omega
    subst hn
    exact ⟨hbefore, hafter⟩
  · rintro ⟨hbefore, hafter⟩
    exact ⟨1, by simp, by simp, hbefore, hafter⟩

theorem CutsThrough.of_suffix (h : CutsThrough mark cs after) (hsuffix : cs <:+ before) :
    CutsThrough mark before after := by
  obtain ⟨n, hlt, hpos, hbefore, hafter⟩ := h
  exact ⟨n, hlt, hpos, hbefore.trans hsuffix, hafter⟩

/-- No mark lies across a cut in front of a character that no mark goes on with. -/
theorem not_cutsThrough_of_head (h : ∀ c, after.head? = some c → c ∉ mark.tail) :
    ¬ CutsThrough mark before after := by
  rintro ⟨n, hlt, hpos, _, hpre⟩
  have hdrop : mark.drop n ≠ [] := by simpa using hlt
  obtain ⟨c, rest, hcons⟩ := List.exists_cons_of_ne_nil hdrop
  have htail : mark.drop n = mark.tail.drop (n - 1) := by
    rw [← List.drop_one, List.drop_drop, Nat.add_sub_cancel' hpos]
  refine h c ?_ (List.drop_subset (n - 1) mark.tail ?_)
  · obtain ⟨more, rfl⟩ := hpre
    rw [hcons]
    rfl
  · rw [← htail, hcons]
    exact List.mem_cons_self

theorem singleton_prefix_iff : [c] <+: cs ↔ cs.head? = some c := by
  cases cs <;> simp [eq_comm]

theorem dropKeyword_append (h : ¬ CutsThrough ['f', 'n', '('] before after) :
    dropKeyword (before ++ after) = dropKeyword before ++ dropKeyword after := by
  fun_induction dropKeyword before with
  | case1 rest ih =>
      have hrest := ih fun hcut => h (hcut.of_suffix (List.suffix_append ['f', 'n', '('] rest))
      exact congrArg ('(' :: ·) hrest
  | case2 c rest hno ih =>
      have hrest := ih fun hcut => h (hcut.of_suffix (List.suffix_cons c rest))
      rw [List.cons_append, List.cons_append, dropKeyword, hrest]
      rintro tail rfl heq
      rcases rest with _ | ⟨d, _ | ⟨e, rest⟩⟩
      · exact h ⟨1, by simp, by simp, List.suffix_refl _, tail, heq.symm⟩
      · obtain ⟨rfl, hafter⟩ := List.cons.inj heq
        exact h ⟨2, by simp, by simp, List.suffix_refl _, tail, hafter.symm⟩
      · obtain ⟨rfl, htail⟩ := List.cons.inj heq
        obtain ⟨rfl, _⟩ := List.cons.inj htail
        exact hno rest rfl rfl
  | case3 => rfl

theorem shortenArrows_append (h : ¬ CutsThrough ['-', '>'] before after) :
    shortenArrows (before ++ after) = shortenArrows before ++ shortenArrows after := by
  fun_induction shortenArrows before with
  | case1 rest ih =>
      have hrest := ih fun hcut => h (hcut.of_suffix (List.suffix_append ['-', '>'] rest))
      exact congrArg ('>' :: ·) hrest
  | case2 c rest hno ih =>
      have hrest := ih fun hcut => h (hcut.of_suffix (List.suffix_cons c rest))
      rw [List.cons_append, List.cons_append, shortenArrows, hrest]
      rintro tail rfl heq
      rcases rest with _ | ⟨d, rest⟩
      · exact h ⟨1, by simp, by simp, List.suffix_refl _, tail, heq.symm⟩
      · obtain ⟨rfl, _⟩ := List.cons.inj heq
        exact hno rest rfl rfl
  | case3 => rfl

theorem respell_append (hkeyword : ¬ CutsThrough ['f', 'n', '('] before after)
    (harrow : ¬ CutsThrough ['-', '>'] before after) :
    respell (before ++ after) = respell before ++ respell after := by
  rw [respell, dropKeyword_append hkeyword, shortenArrows_append]
  · rfl
  · rw [cutsThrough_pair]
    rintro ⟨hbefore, hafter⟩
    refine harrow (cutsThrough_pair.mpr ⟨?_, ?_⟩)
    · exact (respelled_dropKeyword before).suffix_of (by decide) (by decide) hbefore
    · rw [singleton_prefix_iff] at hafter ⊢
      exact head?_dropKeyword (by decide) hafter

theorem dropKeyword_eq_self (h : '(' ∉ cs) : dropKeyword cs = cs := by
  fun_induction dropKeyword cs with
  | case1 rest ih => exact absurd (by simp) h
  | case2 c rest hno ih =>
      rw [List.mem_cons, not_or] at h
      rw [ih h.2]
  | case3 => rfl

theorem shortenArrows_eq_self (h : '>' ∉ cs) : shortenArrows cs = cs := by
  fun_induction shortenArrows cs with
  | case1 rest ih => exact absurd (by simp) h
  | case2 c rest hno ih =>
      rw [List.mem_cons, not_or] at h
      rw [ih h.2]
  | case3 => rfl

/-- Nothing that starts before the text can be replaced together with its
front. -/
def Separated (rest : List Char) : Prop :=
  rest.head? ≠ some 'n' ∧ rest.head? ≠ some '(' ∧ rest.head? ≠ some '>'

theorem respell_append_separated (hopen : '(' ∉ cs) (harrow : '>' ∉ cs)
    (hrest : Separated rest) : respell (cs ++ rest) = cs ++ respell rest := by
  rw [respell_append, respell, dropKeyword_eq_self hopen, shortenArrows_eq_self harrow]
  · refine not_cutsThrough_of_head fun c hc hmem => ?_
    simp only [List.tail_cons, List.mem_cons, List.not_mem_nil, or_false] at hmem
    rcases hmem with rfl | rfl
    · exact hrest.1 hc
    · exact hrest.2.1 hc
  · refine not_cutsThrough_of_head fun c hc hmem => ?_
    simp only [List.tail_cons, List.mem_cons, List.not_mem_nil, or_false] at hmem
    subst hmem
    exact hrest.2.2 hc

end

end SignatureSnippets.Compact
