import Mathlib.Algebra.GroupWithZero.Nat
import SignatureSnippets.Proofs.Conservation
import SignatureSnippets.Proofs.Printing

/-!
# When a type survives being printed and read back

A type of words survives if its text holds no object type, by `parse_render`.
There are two ways to come by such a type, and they need different things said.

A type that someone built can have any names. It survives if the names are words
and one of the two braces is not used in them, since an object type needs both.

A type that was read from a text has words for its names, whatever the text was
(`isWord_of_parse`). But braces that the text had apart may come together in the
printed type, in an order in which they are an object type, and then the type does
not survive: the object type takes an opening brace with it that the type had in
one of its names, and nothing that is read brings it back. So for these types
`ObjectFree` is not only enough but exactly what it takes.
-/

namespace SignatureSnippets

open SignatureSnippets.Compact

/-! ## Braces in a printed type

All braces in a printed type are in its names. -/

namespace SigType

section
variable {M : Type} [AddCommMonoid M] (f : String → M)

mutual

theorem sum_eq_map_names (t : SigType) : t.sum f 0 = (t.names.map f).sum := by
  match t with
  | .name text =>
      rw [names, sum, sum, Multiset.map_singleton, Multiset.sum_singleton]
  | .fn args ret =>
      rw [names, sum, sum, zero_add, zero_add, Multiset.map_add,
        Multiset.sum_add, sumArgs_eq_map_names args, sumRet_eq_map_names ret]

theorem sumArgs_eq_map_names (args : List SigType) :
    sumArgs f 0 args
      = ((sumArgs (fun text => {text}) 0 args : Multiset String).map f).sum := by
  match args with
  | [] => rfl
  | arg :: args =>
      rw [sumArgs, sumArgs, Multiset.map_add, Multiset.sum_add,
        sum_eq_map_names arg, sumArgs_eq_map_names args]
      rfl

theorem sumRet_eq_map_names (ret : Option SigType) :
    sumRet f 0 ret
      = ((sumRet (fun text => {text}) 0 ret : Multiset String).map f).sum := by
  match ret with
  | none => rfl
  | some t =>
      rw [sumRet, sumRet, sum_eq_map_names t]
      rfl

end

end

variable {c : Char}

theorem count_intercalate (hc : c = '{' ∨ c = '}') (texts : List String) :
    (", ".intercalate texts).toList.count c
      = (texts.map fun text => text.toList.count c).sum := by
  induction texts with
  | nil => rfl
  | cons text texts ih =>
      cases texts with
      | nil => simp
      | cons next texts =>
          rw [String.intercalate_cons_cons, String.toList_append,
            String.toList_append, List.count_append, List.count_append, ih,
            List.map_cons, List.sum_cons]
          rcases hc with rfl | rfl <;> simp

mutual

theorem count_render (hc : c = '{' ∨ c = '}') (t : SigType) :
    t.render.toList.count c = t.sum (fun text => text.toList.count c) 0 := by
  match t with
  | .name text => rfl
  | .fn args ret =>
      rw [sum, zero_add, ← count_renderAll hc args, ← count_intercalate hc,
        ← count_renderRet hc ret, render]
      rcases hc with rfl | rfl <;> simp

theorem count_renderAll (hc : c = '{' ∨ c = '}') (args : List SigType) :
    ((renderAll args).map fun text => text.toList.count c).sum
      = sumArgs (fun text => text.toList.count c) 0 args := by
  match args with
  | [] => rfl
  | arg :: args =>
      rw [renderAll, List.map_cons, List.sum_cons, count_render hc arg,
        count_renderAll hc args, sumArgs]

theorem count_renderRet (hc : c = '{' ∨ c = '}') (ret : Option SigType) :
    (renderRet ret).toList.count c
      = sumRet (fun text => text.toList.count c) 0 ret := by
  match ret with
  | none => rfl
  | some t =>
      rw [renderRet, sumRet, ← count_render hc t]
      rcases hc with rfl | rfl <;> simp

end

theorem not_mem_render (hc : c = '{' ∨ c = '}') {t : SigType}
    (h : ∀ s ∈ t.names, c ∉ s.toList) : c ∉ t.render.toList := by
  rw [← List.count_eq_zero, count_render hc, sum_eq_map_names]
  refine Multiset.sum_eq_zero fun k hk => ?_
  obtain ⟨s, hs, rfl⟩ := Multiset.mem_map.mp hk
  exact List.count_eq_zero.mpr (h s hs)

end SigType

/-! ## Types that were built -/

/-- A type is read back as it was if its names are words and one of the braces is
in none of them. -/
theorem parse_render_of_names {t : SigType}
    (hnames : ∀ s ∈ t.names,
      s ≠ "" ∧ ∀ c ∈ s.toList, c ∉ [' ', '\t', '(', ')', '>', ','])
    (hbraces : (∀ s ∈ t.names, '{' ∉ s.toList) ∨ ∀ s ∈ t.names, '}' ∉ s.toList) :
    Signature.parse t.render
      = .ok { root := { args := [], ret := some t }, unclosed := 0 } := by
  refine parse_render (fun s hs => Token.isWord_of (hnames s hs).1 (hnames s hs).2) ?_
  rcases hbraces with hopening | hclosing
  · exact objectFree_of_not_mem_opening (t.not_mem_render (Or.inl rfl) hopening)
  · exact objectFree_of_not_mem_closing (t.not_mem_render (Or.inr rfl) hclosing)

theorem parse_render_nested_results :
    let t := SigType.fn
      [.name "cb:", .fn [.name "fn-\x7b"] (some (.fn [] (some (.name "a"))))]
      (some (.fn [.name "b:\x7bc"] (some (.name "d"))))
    Signature.parse t.render
      = .ok { root := { args := [], ret := some t }, unclosed := 0 } := by
  refine parse_render_of_names ?_ (Or.inr ?_)
  · simp [SigType.names, SigType.sum, SigType.sumArgs, SigType.sumRet]
  · simp [SigType.names, SigType.sum, SigType.sumArgs, SigType.sumRet]

/-! ## Types that were read -/

theorem Token.mem_of_mem_sum_share {tokens : List Token} {text : String}
    (h : text ∈ (tokens.map
      (Token.share (fun text => ({text} : Multiset String)) 0)).sum) :
    .name text ∈ tokens := by
  induction tokens with
  | nil => simp at h
  | cons token tokens ih =>
      rw [List.map_cons, List.sum_cons, Multiset.mem_add] at h
      rcases h with h | h
      · cases token with
        | name other =>
            rw [share, Multiset.mem_singleton] at h
            rw [h]
            exact List.mem_cons_self
        | opening | closing | arrow | comma => simp [share] at h
      · exact List.mem_cons_of_mem token (ih h)

/-- The names of a type that was read are words. -/
theorem isWord_of_parse {text : String} {s : Signature} {t : SigType}
    (h : Signature.parse text = .ok s) (ht : s.type? = some t) :
    ∀ name ∈ t.names, Token.IsWord name := by
  intro name hname
  have hroot : name ∈ s.root.sum (fun text => ({text} : Multiset String)) 0 := by
    rw [Signature.type?] at ht
    rw [FnType.sum, ht, Multiset.mem_add]
    exact Or.inr hname
  rw [Signature.sum_root_ofTokens h] at hroot
  refine Token.isWord_of_mem_scan (fun c hc => ?_)
    (Token.mem_of_mem_sum_share hroot)
  simpa using (List.mem_filter.mp hc).2

theorem Token.sum_share_scan (cs : List Char) :
    ((scan cs).map (share (fun text => text.toList.count '{') 0)).sum
      = cs.count '{' := by
  fun_induction scan cs with
  | case1 => rfl
  | case2 c rest mark hmark ih =>
      have hc : c ≠ '{' := by
        rintro rfl
        cases hmark
      have hshare : mark.share (fun text => text.toList.count '{') 0 = 0 := by
        unfold ofChar? at hmark
        split at hmark <;> cases hmark <;> rfl
      rw [List.map_cons, List.sum_cons, hshare, zero_add, ih,
        List.count_cons_of_ne hc]
  | case3 c rest hnone ih =>
      rw [List.map_cons, List.sum_cons, ih, share, String.toList_ofList,
        ← List.count_append, List.cons_append, List.takeWhile_append_dropWhile]

/-- A type that was read has no more opening braces in its names than its text
had when it was cut into tokens. -/
theorem count_names_of_parse {text : String} {s : Signature} {t : SigType}
    (h : Signature.parse text = .ok s) (ht : s.type? = some t) :
    t.sum (fun name => name.toList.count '{') 0
      ≤ (ofChars text.toList).count '{' := by
  have hroot : t.sum (fun name => name.toList.count '{') 0
      ≤ s.root.sum (fun name => name.toList.count '{') 0 := by
    rw [Signature.type?] at ht
    rw [FnType.sum, ht]
    exact Nat.le_add_left _ _
  rw [Signature.sum_root_ofTokens h, tokenize, Token.sum_share_scan] at hroot
  exact hroot.trans (List.filter_sublist.count_le '{')

/-- A type that was read is read back as it was if and only if no object type is
written out in its text. -/
theorem parse_render_iff_objectFree {text : String} {s : Signature} {t : SigType}
    (h : Signature.parse text = .ok s) (ht : s.type? = some t) :
    (∃ s', Signature.parse t.render = .ok s' ∧ s'.type? = some t) ↔
      ObjectFree t.render.toList := by
  constructor
  · rintro ⟨s', hs', ht'⟩
    by_contra hobject
    have hkept := count_names_of_parse hs' ht'
    rw [← t.count_render (Or.inl rfl)] at hkept
    have hlost : (ofChars t.render.toList).count '{'
        < (respell t.render.toList).count '{' :=
      count_collapseObjects_lt fun hfree => hobject (objectFree_respell.mp hfree)
    rw [count_respell] at hlost
    omega
  · intro hfree
    exact ⟨_, parse_render (isWord_of_parse h ht) hfree, rfl⟩

theorem parse_render_iff_objectFree_unclosed :
    let t := SigType.fn [.name "a", .fn [.name "\x7bb"] none] none
    Signature.parse "fn(a, fn(\x7bb" = .ok ⟨⟨[], some t⟩, 2⟩ ∧
      ((∃ s', Signature.parse t.render = .ok s' ∧ s'.type? = some t) ↔
        ObjectFree t.render.toList) := by
  intro t
  have htokens : tokenize "fn(a, fn(\x7bb"
      = [.opening, .name "a", .comma, .opening, .name "\x7bb"] := by decide +kernel
  have hread : Signature.parse "fn(a, fn(\x7bb" = .ok ⟨⟨[], some t⟩, 2⟩ := by
    rw [Signature.parse, htokens]
    cbv
  exact ⟨hread, parse_render_iff_objectFree hread rfl⟩

/-- A return type may stand behind a later argument than the function type it
belongs to. Printing puts it in its place, and two braces that were apart in one
order can be an object type in the other. -/
theorem parse_render_crossed_braces :
    let t := SigType.fn
      [.fn [.name "a"] (some (.name "\x7b")), .name "\x7d"] none
    Signature.parse "fn(fn(a), \x7d -> \x7b)" = .ok ⟨⟨[], some t⟩, 0⟩ ∧
      ¬ ∃ s', Signature.parse t.render = .ok s' ∧ s'.type? = some t := by
  intro t
  have htokens : tokenize "fn(fn(a), \x7d -> \x7b)"
      = [.opening, .opening, .name "a", .closing, .comma, .name "\x7d", .arrow, .name "\x7b",
        .closing] := by decide +kernel
  have hprinted : tokenize t.render
      = [.opening, .opening, .name "a", .closing, .arrow, .name "Object", .closing] := by
    decide +kernel
  have hread : Signature.parse t.render
      = .ok ⟨⟨[], some (.fn [.fn [.name "a"] (some (.name "Object"))] none)⟩, 0⟩ := by
    rw [Signature.parse, hprinted]
    cbv
  constructor
  · rw [Signature.parse, htokens]
    cbv
  · rintro ⟨s', hs', ht'⟩
    rw [hread] at hs'
    cases hs'
    exact absurd ht' (by decide)

end SignatureSnippets
