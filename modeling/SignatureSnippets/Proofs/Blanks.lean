import SignatureSnippets.Proofs.Compacting
import SignatureSnippets.Proofs.Policies

/-!
# Where blanks stand does not matter

Blanks are dropped from a text only once it is compact, so they could still keep a pass
from finding what it looks for, or make it find something else. They do neither as long
as they do not come between the characters of `fn(`, `->` or `{}`.

Blanks are no part of an occurrence of anything that the first two passes look for, so these
leave the blanks where they are (`respell_append`). For the third pass there are two cases
(`collapseObjects_insert`). The blanks may be in an object type, and then they go with it;
otherwise they come out where they went in.
-/

namespace SignatureSnippets

namespace Compact

variable {mark before after cs ds rest w : List Char} {c : Char}

/-- No mark of more than one character lies across the cut between the texts. -/
def CutsNoMark (before after : List Char) : Prop :=
  ∀ mark ∈ [['f', 'n', '('], ['-', '>'], ['{', '}']], ¬ CutsThrough mark before after

/-- Braces that the cut does not part are not parted by it in the respelled texts. -/
theorem not_cutsThrough_respell (h : ¬ CutsThrough ['{', '}'] before after) :
    ¬ CutsThrough ['{', '}'] (respell before) (respell after) := by
  rw [cutsThrough_pair] at h ⊢
  rintro ⟨hbefore, hafter⟩
  have hrespelled := respelled_shortenArrows (dropKeyword before)
  refine h ⟨?_, ?_⟩
  · exact (respelled_dropKeyword before).suffix_of (by decide) (by decide)
      (hrespelled.suffix_of (by decide) (by decide) hbefore)
  · rw [singleton_prefix_iff] at hafter ⊢
    exact (respelled_dropKeyword after).head?_closing_iff.mp
      ((respelled_shortenArrows _).head?_closing_iff.mp hafter)

/-! ## Object types -/

theorem collapseObjects_append_of_not_mem (h : '{' ∉ w) :
    collapseObjects (w ++ rest) = w ++ collapseObjects rest := by
  induction w with
  | nil => rfl
  | cons c w ih =>
      rw [List.mem_cons, not_or] at h
      rw [List.cons_append, collapseObjects_cons (Ne.symm h.1), ih h.2, List.cons_append]

theorem afterObject?_append_of_some (h : afterObject? cs = some rest) :
    afterObject? (cs ++ ds) = some (rest ++ ds) := by
  have hhead : cs.head? ≠ some '}' := by
    intro hhead
    rw [afterObject?_eq_none_iff.mpr (Or.inl hhead)] at h
    cases h
  rw [afterObject?_eq hhead] at h
  have hhead' : (cs ++ ds).head? ≠ some '}' := by
    cases cs with
    | nil => cases h
    | cons c cs => exact hhead
  rw [afterObject?_eq hhead', List.dropWhile_append]
  cases hdrop : cs.dropWhile (· ≠ '}') with
  | nil =>
      rw [hdrop] at h
      cases h
  | cons d tail =>
      rw [hdrop] at h
      cases h
      rfl

/-- A brace that is not closed in front of the cut is closed, or left open, by the same
brace behind it, whatever stands at the cut. -/
theorem afterObject?_insert (hcs : afterObject? cs = none) (hw : '}' ∉ w)
    (hcut : cs = [] → after.head? ≠ some '}') :
    afterObject? (cs ++ (w ++ after)) = afterObject? (cs ++ after) := by
  rcases afterObject?_eq_none_iff.mp hcs with hhead | hopen
  · have hboth : ∀ more, afterObject? (cs ++ more) = none := by
      intro more
      refine afterObject?_eq_none_iff.mpr (Or.inl ?_)
      rw [List.head?_append, hhead]
      rfl
    rw [hboth, hboth]
  · have hnot : ∀ more, (cs = [] → more.head? ≠ some '}') →
        (cs ++ more).head? ≠ some '}' := by
      intro more hmore
      cases cs with
      | nil => exact hmore rfl
      | cons c cs =>
          intro heq
          exact hopen (by rw [← Option.some.inj heq]; exact List.mem_cons_self)
    rw [afterObject?_eq (hnot after hcut), afterObject?_eq (hnot (w ++ after) ?_),
      dropWhile_append_of_not_mem hopen, dropWhile_append_of_not_mem hopen,
      dropWhile_append_of_not_mem hw]
    intro hnil
    cases w with
    | nil => exact hcut hnil
    | cons c w =>
        intro heq
        exact hw (by rw [← Option.some.inj heq]; exact List.mem_cons_self)

/-- The two texts are the same, but for a text put in front of an end of both. -/
def PutBefore (w tail cs ds : List Char) : Prop :=
  cs = ds ∨ ∃ front, cs = front ++ (w ++ tail) ∧ ds = front ++ tail

theorem PutBefore.behind {tail : List Char} (h : PutBefore w tail cs ds)
    (front : List Char) : PutBefore w tail (front ++ cs) (front ++ ds) := by
  rcases h with rfl | ⟨more, rfl, rfl⟩
  · exact Or.inl rfl
  · exact Or.inr ⟨front ++ more, by rw [List.append_assoc], by rw [List.append_assoc]⟩

/-- A text without braces that is put into another one is in an object type and goes with
it, or else it comes out in front of what it was put in front of. -/
theorem collapseObjects_insert (hopen : '{' ∉ w) (hclose : '}' ∉ w)
    (hcut : ¬ CutsThrough ['{', '}'] before after) :
    PutBefore w (collapseObjects after) (collapseObjects (before ++ (w ++ after)))
      (collapseObjects (before ++ after)) := by
  rw [cutsThrough_pair, singleton_prefix_iff] at hcut
  fun_induction collapseObjects before with
  | case1 => exact Or.inr ⟨[], collapseObjects_append_of_not_mem hopen, rfl⟩
  | case2 cs rest hrest ih =>
      have hsuffix := (afterObject?_suffix hrest).trans (List.suffix_cons '{' cs)
      have hmore := ih fun hboth => hcut ⟨hboth.1.trans hsuffix, hboth.2⟩
      rw [List.cons_append, List.cons_append,
        collapseObjects_object (afterObject?_append_of_some hrest),
        collapseObjects_object (afterObject?_append_of_some hrest)]
      exact hmore.behind objectName
  | case3 cs hnone ih =>
      have hmore := ih fun hboth =>
        hcut ⟨hboth.1.trans (List.suffix_cons '{' cs), hboth.2⟩
      have hsame : afterObject? (cs ++ (w ++ after)) = afterObject? (cs ++ after) := by
        refine afterObject?_insert hnone hclose ?_
        rintro rfl hhead
        exact hcut ⟨List.suffix_refl _, hhead⟩
      rw [List.cons_append, List.cons_append]
      cases hafter : afterObject? (cs ++ after) with
      | some rest =>
          rw [hafter] at hsame
          rw [collapseObjects_object hsame, collapseObjects_object hafter]
          exact Or.inl rfl
      | none =>
          rw [hafter] at hsame
          rw [collapseObjects_brace hsame, collapseObjects_brace hafter]
          exact hmore.behind ['{']
  | case4 c cs hc ih =>
      have hmore := ih fun hboth =>
        hcut ⟨hboth.1.trans (List.suffix_cons c cs), hboth.2⟩
      rw [List.cons_append, List.cons_append, collapseObjects_cons hc,
        collapseObjects_cons hc]
      exact hmore.behind [c]

/-! ## Blanks -/

theorem not_mem_of_blank (hw : ∀ d ∈ w, Token.isBlank d = true)
    (hc : Token.isBlank c = false) : c ∉ w := by
  intro hmem
  rw [hw c hmem] at hc
  cases hc

/-- No mark of more than one character goes on with a blank. -/
theorem not_cutsThrough_blank (hw : ∀ d ∈ w, Token.isBlank d = true)
    (hmark : ∀ d ∈ mark.tail, Token.isBlank d = false)
    (h : ¬ CutsThrough mark before after) :
    ¬ CutsThrough mark before (w ++ after) := by
  cases w with
  | nil => exact h
  | cons c w =>
      refine not_cutsThrough_of_head fun d hd hmem => ?_
      cases hd
      have hblank := hmark c hmem
      rw [hw c List.mem_cons_self] at hblank
      cases hblank

theorem respell_append_of_not_mem (hf : 'f' ∉ w) (hdash : '-' ∉ w) :
    respell (w ++ rest) = w ++ respell rest := by
  induction w with
  | nil => rfl
  | cons c w ih =>
      rw [List.mem_cons, not_or] at hf hdash
      rw [List.cons_append, respell_cons (Ne.symm hf.1) (Ne.symm hdash.1),
        ih hf.2 hdash.2, List.cons_append]

theorem ofChars_insert_blanks (hw : ∀ d ∈ w, Token.isBlank d = true)
    (h : CutsNoMark before after) :
    PutBefore w (ofChars after) (ofChars (before ++ (w ++ after)))
      (ofChars (before ++ after)) := by
  have hkeyword := h ['f', 'n', '('] (by simp)
  have harrow := h ['-', '>'] (by simp)
  have hbraces := h ['{', '}'] (by simp)
  have hwith : respell (before ++ (w ++ after)) = respell before ++ (w ++ respell after) := by
    rw [respell_append (not_cutsThrough_blank hw (by simp [Token.isBlank]) hkeyword)
        (not_cutsThrough_blank hw (by simp [Token.isBlank]) harrow),
      respell_append_of_not_mem (not_mem_of_blank hw rfl) (not_mem_of_blank hw rfl)]
  have hwithout := respell_append hkeyword harrow
  show PutBefore w (collapseObjects (respell after))
    (collapseObjects (respell (before ++ (w ++ after))))
    (collapseObjects (respell (before ++ after)))
  rw [hwith, hwithout]
  exact collapseObjects_insert (not_mem_of_blank hw rfl) (not_mem_of_blank hw rfl)
    (not_cutsThrough_respell hbraces)

theorem PutBefore.filter_eq {tail : List Char} (h : PutBefore w tail cs ds)
    {p : Char → Bool} (hw : w.filter p = []) : cs.filter p = ds.filter p := by
  rcases h with rfl | ⟨front, rfl, rfl⟩
  · rfl
  · rw [List.filter_append, List.filter_append, List.filter_append, hw, List.nil_append]

end Compact

open SignatureSnippets.Compact

theorem tokenize_insert {u w v : String} (hw : ∀ c ∈ w.toList, Token.isBlank c = true)
    (h : CutsNoMark u.toList v.toList) : tokenize (u ++ w ++ v) = tokenize (u ++ v) := by
  have hblanks : w.toList.filter (fun c => !Token.isBlank c) = [] := by
    rw [List.filter_eq_nil_iff]
    intro c hc
    simp [hw c hc]
  have hput := ofChars_insert_blanks hw h
  rw [tokenize, tokenize, String.toList_append, String.toList_append,
    String.toList_append, List.append_assoc, hput.filter_eq hblanks]

/-- Spaces and tabs can be put anywhere into a signature, except between the characters
of one of the marks `fn(`, `->` and `{}`. The tokens stay the same, and with them the tree
or the error; an expansion differs in nothing but the signature that it repeats. -/
theorem insert_blanks (u w v : String) (hw : ∀ c ∈ w.toList, Token.isBlank c = true)
    (h : CutsNoMark u.toList v.toList) :
    tokenize (u ++ w ++ v) = tokenize (u ++ v) ∧
      Signature.parse (u ++ w ++ v) = Signature.parse (u ++ v) ∧
      ∀ (e : Expander) (name : String),
        (e.expand (u ++ w ++ v) name).result
          = (e.expand (u ++ v) name).result.map
              fun x => { x with signature := u ++ w ++ v } := by
  have htokens := tokenize_insert hw h
  have hparse : Signature.parse (u ++ w ++ v) = Signature.parse (u ++ v) :=
    congrArg Signature.ofTokens htokens
  refine ⟨htokens, hparse, ?_⟩
  intro e name
  have hstop : e.stop? (u ++ w ++ v) = e.stop? (u ++ v) := by
    rw [Expander.stop?, Signature.fault?, hparse]
    rfl
  have houtcome : e.outcome (u ++ w ++ v) = e.outcome (u ++ v) := by
    rw [Expander.outcome, hparse]
    rfl
  rw [e.result_expand (name, u ++ w ++ v), e.result_expand (name, u ++ v), hstop,
    Expander.expansion, houtcome]
  cases e.stop? (u ++ v) <;> rfl

theorem insert_blanks_keyword :
    (∀ c ∈ " \t".toList, Token.isBlank c = true) ∧
      CutsNoMark "fn(\x7ba:\x7b\x7d, fn".toList "fn(b)--> c".toList ∧
      tokenize ("fn(\x7ba:\x7b\x7d, fn" ++ " \t" ++ "fn(b)--> c")
        = [.opening, .name "Object", .comma, .name "fn", .opening, .name "b", .closing,
          .name "-", .arrow, .name "c"] := by
  have hw : ∀ c ∈ " \t".toList, Token.isBlank c = true := by simp [Token.isBlank]
  have h : CutsNoMark "fn(\x7ba:\x7b\x7d, fn".toList "fn(b)--> c".toList := by
    intro mark hmark
    refine not_cutsThrough_of_head ?_
    simp only [List.mem_cons, List.not_mem_nil, or_false] at hmark
    rcases hmark with rfl | rfl | rfl <;> simp
  obtain ⟨htokens, _⟩ := insert_blanks "fn(\x7ba:\x7b\x7d, fn" " \t" "fn(b)--> c" hw h
  exact ⟨hw, h, htokens.trans (by decide +kernel)⟩

end SignatureSnippets
