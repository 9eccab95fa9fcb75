import Mathlib.Algebra.BigOperators.Group.Multiset.Basic
import SignatureSnippets.Proofs.Coherence

/-!
# Nothing is lost and nothing is read twice

Whatever is counted over a tree, the tokens that were read account for it: each
opening parenthesis is one function type, each name one name, and the other marks
leave no trace. The one thing that could go wrong is a part that is put where the
tree has no place for it, and a coherent builder has one for every address it
holds.
-/

namespace SignatureSnippets

variable {M : Type} [AddCommMonoid M] {ofName : String → M} {ofFn : M}

namespace Builder

/-- A token adds its share to the tree. -/
theorem Advance.sum_root {b b' : Builder} {token : Token} (hb : b.Coherent)
    (h : b.Advance token b') :
    b'.root.sum ofName ofFn
      = token.share ofName ofFn + b.root.sum ofName ofFn := by
  cases h with
  | @argument _ item owner outer hitem hmode hopen =>
      obtain ⟨n, hn⟩ := hb.open_at owner (mem_openTypes hopen)
      rw [← Token.sum_content hitem]
      exact FnType.sum_modifyAt hn (FnType.sum_addArg item n)
  | @result _ item hitem hmode hret =>
      obtain ⟨n, hn⟩ := hb.last_at
      rw [← Token.sum_content hitem]
      exact FnType.sum_modifyAt hn (FnType.sum_setRet (ret_eq_none hn hret) item)
  | close hopen => rw [Token.share, zero_add]
  | skip htoken => rcases htoken with rfl | rfl <;> rw [Token.share, zero_add]

theorem sum_root_run {b b' : Builder} {tokens : List Token} (hb : b.Coherent)
    (h : b.run tokens = .ok b') :
    b'.root.sum ofName ofFn
      = (tokens.map (Token.share ofName ofFn)).sum + b.root.sum ofName ofFn := by
  refine run_induction (motive := fun front c => c.root.sum ofName ofFn
    = (front.map (Token.share ofName ofFn)).sum + b.root.sum ofName ofFn) ?_ ?_ h
  · rw [List.map_nil, List.sum_nil, zero_add]
  · intro front token c c' hrun hadv hsum
    rw [hadv.sum_root (hb.run hrun), hsum, List.map_append, List.sum_append,
      List.map_singleton, List.sum_singleton, ← add_assoc,
      add_comm (token.share ofName ofFn)]

end Builder

namespace Signature

theorem ofTokens_eq_ok_iff {tokens : List Token} {s : Signature} :
    ofTokens tokens = .ok s ↔
      ∃ b, Builder.run {} tokens = .ok b ∧ s = ⟨b.root, b.unclosed⟩ := by
  rw [ofTokens]
  cases hrun : Builder.run {} tokens with
  | error e =>
      constructor
      · intro h
        cases h
      · rintro ⟨b, hb, _⟩
        cases hb
  | ok b =>
      constructor
      · intro h
        cases h
        exact ⟨b, rfl, rfl⟩
      · rintro ⟨_, hb, rfl⟩
        cases hb
        rfl

/-- The tokens of a signature account for all that is in its tree. -/
theorem sum_root_ofTokens {tokens : List Token} {s : Signature}
    (h : ofTokens tokens = .ok s) :
    s.root.sum ofName ofFn = (tokens.map (Token.share ofName ofFn)).sum := by
  obtain ⟨b, hrun, rfl⟩ := ofTokens_eq_ok_iff.mp h
  have hempty : (({} : Builder).root).sum ofName ofFn = 0 := add_zero 0
  rw [Builder.sum_root_run Builder.coherent_empty hrun, hempty, add_zero]

end Signature

/-! ## The content of a token list

A token list may be given by its texts, and then every text that is no structural
mark is a name, also one that no signature would be cut into. -/

namespace Token

def marks : List String := ["(", ")", ">", ","]

theorem sum_share_ofText (texts : List String) :
    ((texts.map ofText).map (share ofName ofFn)).sum
      = texts.count "(" • ofFn
        + ((texts.filter (· ∉ marks)).map ofName).sum := by
  induction texts with
  | nil => simp
  | cons text texts ih =>
      rw [List.map_cons, List.map_cons, List.sum_cons, ih, ofText]
      split_ifs with hopening hclosing harrow hcomma
      · subst hopening
        simp only [share, List.count_cons_self, succ_nsmul', marks]
        simp [add_assoc]
      · simp [share, marks, hclosing]
      · simp [share, marks, harrow]
      · simp [share, marks, hcomma]
      · simp only [share]
        simp [marks, hopening, hclosing, harrow, hcomma, add_left_comm]

end Token

namespace Signature

/-- Whatever order the tokens come in, as long as they are read: each opening
parenthesis is one function type in the tree, and the texts that are no marks are
its names. -/
theorem ofTokens_keeps_content (texts : List String) {s : Signature}
    (h : ofTokens (texts.map Token.ofText) = .ok s) :
    s.root.functionTypes = texts.count "(" ∧
      s.root.names = (texts.filter (· ∉ Token.marks) : List String) := by
  constructor
  · rw [FnType.functionTypes, sum_root_ofTokens h, Token.sum_share_ofText]
    simp
  · rw [FnType.names, sum_root_ofTokens h, Token.sum_share_ofText, nsmul_zero,
      zero_add, ← Multiset.sum_coe, ← Multiset.map_coe, Multiset.sum_map_singleton]

theorem ofTokens_keeps_content_overclosed :
    let texts := [")", ">", "(", "x", "(", ")", ">", "r", ""]
    let s : Signature := ⟨⟨[], some (.fn
      [.name "x", .fn [] (some (.name "r")), .name ""] none)⟩, 0⟩
    ofTokens (texts.map Token.ofText) = .ok s ∧
      s.root.functionTypes = 2 ∧ s.root.names = {"x", "r", ""} := by
  intro texts s
  have hread : ofTokens (texts.map Token.ofText) = .ok s := by cbv
  obtain ⟨hcount, hnames⟩ := ofTokens_keeps_content texts hread
  exact ⟨hread, hcount, hnames⟩

end Signature

end SignatureSnippets
