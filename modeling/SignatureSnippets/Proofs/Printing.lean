import SignatureSnippets.Proofs.Lexing
import SignatureSnippets.Proofs.Reading
import SignatureSnippets.Signature.Printer

/-!
# Printing and reading back

A printed type has its tokens written out one after the other (`SigType.tokens`),
and there are two things to show about them: that lexing the printed text gives
them, and that reading them gives the type. Both follow the printer, and both are
stated for a type in the middle of something longer, the one with any text behind
it and the other at any place of any builder.

Names are the only part of a type that is not the printer's own. They have to be
words, and the printed text must hold no object type: those are all the hypotheses
of `parse_render`. The second is about the text as a whole, because an object type
may begin in one name and end in another. What was read from a text is a tree of
words in any case, so for it the second hypothesis is all that is left, and it
cannot be dropped: an object type in the printed text costs an opening brace that
the tree does not get back.
-/

namespace SignatureSnippets

open SignatureSnippets.Compact

namespace SigType

/-! ## The tokens of a printed type -/

mutual

/-- The tokens of a type as it is printed. -/
def tokens : SigType → List Token
  | .name text => [.name text]
  | .fn args ret =>
    .opening :: ([Token.comma].intercalate (argTokens args)
      ++ .closing :: retTokens ret)

def argTokens : List SigType → List (List Token)
  | [] => []
  | arg :: args => tokens arg :: argTokens args

def retTokens : Option SigType → List Token
  | none => []
  | some type => .arrow :: tokens type

end

theorem argTokens_eq_map (args : List SigType) :
    argTokens args = args.map tokens := by
  induction args with
  | nil => rfl
  | cons arg args ih => rw [argTokens, ih, List.map_cons]

/-! ### Reading them -/

mutual

theorem readsArgs_tokens (t : SigType) : ReadsArgs t.tokens [t] := by
  match t with
  | .name text => exact readsArgs_name text
  | .fn args ret =>
      rw [tokens]
      exact readsArgs_fn (readsArgs_argTokens args) (readsTail_retTokens ret)

theorem readsResult_tokens (t : SigType) : ReadsResult t.tokens t := by
  match t with
  | .name text => exact readsResult_name text
  | .fn args ret =>
      rw [tokens]
      exact readsResult_fn (readsArgs_argTokens args) (readsTail_retTokens ret)

theorem readsArgs_argTokens (args : List SigType) :
    ReadsArgs ([Token.comma].intercalate (argTokens args)) args := by
  have hlist := readsArgs_list (readsArgs_tokens_of_mem args)
  rw [List.flatMap_singleton', ← argTokens_eq_map] at hlist
  exact hlist

theorem readsArgs_tokens_of_mem (args : List SigType) :
    ∀ arg ∈ args, ReadsArgs arg.tokens [arg] := by
  match args with
  | [] =>
      intro arg harg
      cases harg
  | first :: args =>
      intro arg harg
      rcases List.mem_cons.mp harg with heq | harg
      · rw [heq]
        exact readsArgs_tokens first
      · exact readsArgs_tokens_of_mem args arg harg

theorem readsTail_retTokens (ret : Option SigType) :
    ReadsTail (retTokens ret) ret := by
  match ret with
  | none => exact readsTail_nil
  | some t => exact (readsResult_tokens t).arrow

end

/-! ### Lexing them -/

mutual

theorem lexes_render (t : SigType) (h : ∀ s ∈ t.names, Token.IsWord s) :
    Lexes t.render t.tokens := by
  match t with
  | .name text => exact lexes_word (h text (Multiset.mem_singleton_self text))
  | .fn args ret =>
      have hargs : ∀ arg ∈ args, ∀ s ∈ arg.names, Token.IsWord s :=
        fun arg harg s hs => h s (mem_names_fn.mpr (Or.inl ⟨arg, harg, hs⟩))
      have hret : ∀ t, ret = some t → ∀ s ∈ t.names, Token.IsWord s :=
        fun t ht s hs => h s (mem_names_fn.mpr (Or.inr ⟨t, ht, hs⟩))
      rw [render, tokens, renderAll_eq_map, argTokens_eq_map]
      exact lexes_fn (lexes_render_of_mem args hargs) (lexes_renderRet ret hret)

theorem lexes_render_of_mem (args : List SigType)
    (h : ∀ arg ∈ args, ∀ s ∈ arg.names, Token.IsWord s) :
    ∀ arg ∈ args, Lexes arg.render arg.tokens := by
  match args with
  | [] =>
      intro arg harg
      cases harg
  | first :: args =>
      intro arg harg
      rcases List.mem_cons.mp harg with heq | harg
      · rw [heq]
        exact lexes_render first (h first List.mem_cons_self)
      · exact lexes_render_of_mem args
          (fun a ha => h a (List.mem_cons_of_mem first ha)) arg harg

theorem lexes_renderRet (ret : Option SigType)
    (h : ∀ t, ret = some t → ∀ s ∈ t.names, Token.IsWord s) :
    Lexes (renderRet ret) (retTokens ret) := by
  match ret with
  | none => exact lexes_empty
  | some t => exact (lexes_render t (h t rfl)).behind_arrow

end

end SigType

/-! ## Reading back -/

/-- A type of words whose text holds no object type is read back as it was. -/
theorem parse_render {t : SigType} (hwords : ∀ s ∈ t.names, Token.IsWord s)
    (hfree : ObjectFree t.render.toList) :
    Signature.parse t.render = .ok ⟨⟨[], some t⟩, 0⟩ := by
  have hlex := t.lexes_render hwords [] delimited_nil
  rw [List.append_nil, lex_nil, List.append_nil] at hlex
  rw [Signature.parse, tokenize_of_objectFree hfree, hlex]
  exact t.readsResult_tokens.ofTokens_eq

end SignatureSnippets
