import Mathlib.Data.List.Induction
import SignatureSnippets.Proofs.Content
import SignatureSnippets.Signature.Parser

/-!
# What reading a token can do

Every fact about the reader goes through this file. `Advance` and `Refuses` list
the ways a builder can take a token and the ways it can refuse one, and
`step_eq_ok_iff` and `step_eq_error_iff` say that the lists are complete; nothing
below them opens `step` again, here or in another module.

A run takes its tokens one after the other, so what holds at its start and is carried
on by every token holds at its end, of the builder and of the tokens that were read.
That is `run_induction`. A run that fails gets as far as the first token that is refused
(`run_eq_error_iff`), and up to there it is a run that does not fail. What is said of
all runs comes from these two, without another induction over the tokens.
-/

namespace SignatureSnippets

/-- The type that a token starts; marks that start none are no content. -/
def Token.content? : Token → Option SigType
  | .opening => some (.fn [] none)
  | .closing => none
  | .arrow => none
  | .comma => none
  | .name text => some (.name text)

theorem Token.sum_content {M : Type} [AddCommMonoid M] {ofName : String → M}
    {ofFn : M} {token : Token} {item : SigType}
    (h : token.content? = some item) :
    item.sum ofName ofFn = token.share ofName ofFn := by
  cases token with
  | opening =>
      cases h
      rw [SigType.sum, SigType.sumArgs, SigType.sumRet, add_zero, add_zero]
      rfl
  | name text =>
      cases h
      rfl
  | closing | arrow | comma => cases h

namespace Builder

/-! ## The ways to take a token -/

/-- The open function types once `token` has put content at `address`. -/
def openedBy (b : Builder) (token : Token) (address : Address) : List Address :=
  if token = .opening then address :: b.openTypes else b.openTypes

/-- The builder takes the token and goes on as the other one. -/
inductive Advance (b : Builder) : Token → Builder → Prop
  /-- Content becomes an argument of the innermost open function type. -/
  | argument {token : Token} {item : SigType} {owner : Address}
      {outer : List Address} (hitem : token.content? = some item)
      (hmode : b.inArguments = true) (hopen : b.openTypes = owner :: outer) :
      Advance b token
        { root := b.root.modifyAt owner (.addArg item)
          openTypes := b.openedBy token (.arg (b.nextPlace owner) :: owner)
          lastClosed := b.lastClosed
          inArguments := true
          position := b.position + 1 }
  /-- Content becomes the return type of the function type closed last. -/
  | result {token : Token} {item : SigType} (hitem : token.content? = some item)
      (hmode : b.inArguments = false) (hret : b.hasRet b.lastClosed = false) :
      Advance b token
        { root := b.root.modifyAt b.lastClosed (.setRet item)
          openTypes := b.openedBy token (.ret :: b.lastClosed)
          lastClosed := b.lastClosed
          inArguments := true
          position := b.position + 1 }
  /-- The innermost open function type is closed. -/
  | close {closed : Address} {outer : List Address}
      (hopen : b.openTypes = closed :: outer) :
      Advance b .closing
        { root := b.root
          openTypes := outer
          lastClosed := closed
          inArguments := true
          position := b.position + 1 }
  /-- Arrows and commas only set where content goes next. -/
  | skip {token : Token} (htoken : token = .arrow ∨ token = .comma) :
      Advance b token
        { b with inArguments := decide (token ≠ .arrow)
                 position := b.position + 1 }

/-- The builder refuses the token. -/
inductive Refuses (b : Builder) : Token → StructureError → Prop
  /-- An open function type is needed and none is left. -/
  | unbalanced {token : Token} (hopen : b.openTypes = [])
      (htoken : token = .closing ∨
        token.content?.isSome = true ∧ b.inArguments = true) :
      Refuses b token (.unbalanced token b.position)
  /-- The function type closed last has its return type already. -/
  | returnTwice {token : Token} (htoken : token.content?.isSome = true)
      (hmode : b.inArguments = false) (hret : b.hasRet b.lastClosed = true) :
      Refuses b token (.returnTwice b.position)

theorem place_eq (b : Builder) (token : Token) (item : SigType) :
    b.place token item =
      if b.inArguments then
        match b.openTypes with
        | [] => .error (.unbalanced token b.position)
        | owner :: _ => .ok (b.root.modifyAt owner (.addArg item),
            .arg (b.nextPlace owner) :: owner)
      else if b.hasRet b.lastClosed then .error (.returnTwice b.position)
      else .ok (b.root.modifyAt b.lastClosed (.setRet item),
        .ret :: b.lastClosed) := rfl

/-- A token with content is placed, and opens what it placed if it is an opening
parenthesis. -/
theorem step_content {b : Builder} {token : Token} {item : SigType}
    (h : token.content? = some item) :
    b.step token = (b.place token item).map fun placed =>
      { root := placed.1
        openTypes := b.openedBy token placed.2
        lastClosed := b.lastClosed
        inArguments := true
        position := b.position + 1 } := by
  cases token with
  | opening =>
      cases h
      rw [step, accept]
      cases b.place .opening (.fn [] none) <;> rfl
  | name text =>
      cases h
      rw [step, accept]
      cases b.place (.name text) (.name text) <;> rfl
  | closing | arrow | comma => cases h

theorem step_cases (b : Builder) (token : Token) :
    (∃ b', b.step token = .ok b' ∧ b.Advance token b') ∨
      (∃ e, b.step token = .error e ∧ b.Refuses token e) := by
  cases hitem : token.content? with
  | some item =>
      rw [step_content hitem, place_eq]
      cases hmode : b.inArguments with
      | true =>
          rw [if_pos rfl]
          cases hopen : b.openTypes with
          | nil =>
              refine Or.inr ⟨_, rfl, .unbalanced hopen (Or.inr ⟨?_, hmode⟩)⟩
              rw [hitem]
              rfl
          | cons owner outer =>
              exact Or.inl ⟨_, rfl, .argument hitem hmode hopen⟩
      | false =>
          rw [if_neg (by simp)]
          cases hret : b.hasRet b.lastClosed with
          | true =>
              refine Or.inr ⟨_, rfl, .returnTwice ?_ hmode hret⟩
              rw [hitem]
              rfl
          | false => exact Or.inl ⟨_, rfl, .result hitem hmode hret⟩
  | none =>
      cases token with
      | opening | name text => cases hitem
      | arrow => exact Or.inl ⟨_, rfl, .skip (Or.inl rfl)⟩
      | comma => exact Or.inl ⟨_, rfl, .skip (Or.inr rfl)⟩
      | closing =>
          rw [step, accept]
          cases hopen : b.openTypes with
          | nil => exact Or.inr ⟨_, rfl, .unbalanced hopen (Or.inl rfl)⟩
          | cons closed outer => exact Or.inl ⟨_, rfl, .close hopen⟩

theorem Advance.step_eq {b b' : Builder} {token : Token}
    (h : b.Advance token b') : b.step token = .ok b' := by
  cases h with
  | argument hitem hmode hopen =>
      rw [step_content hitem, place_eq, if_pos hmode, hopen]
      rfl
  | result hitem hmode hret =>
      rw [step_content hitem, place_eq, if_neg (by rw [hmode]; simp),
        if_neg (by rw [hret]; simp)]
      rfl
  | close hopen =>
      rw [step, accept, hopen]
      rfl
  | skip htoken => rcases htoken with rfl | rfl <;> rfl

theorem Refuses.step_eq {b : Builder} {token : Token} {e : StructureError}
    (h : b.Refuses token e) : b.step token = .error e := by
  cases h with
  | unbalanced hopen htoken =>
      rcases htoken with rfl | ⟨hsome, hmode⟩
      · rw [step, accept, hopen]
        rfl
      · obtain ⟨item, hitem⟩ := Option.isSome_iff_exists.mp hsome
        rw [step_content hitem, place_eq, if_pos hmode, hopen]
        rfl
  | returnTwice hsome hmode hret =>
      obtain ⟨item, hitem⟩ := Option.isSome_iff_exists.mp hsome
      rw [step_content hitem, place_eq, if_neg (by rw [hmode]; simp), if_pos hret]
      rfl

theorem step_eq_ok_iff {b b' : Builder} {token : Token} :
    b.step token = .ok b' ↔ b.Advance token b' := by
  refine ⟨fun h => ?_, Advance.step_eq⟩
  rcases b.step_cases token with ⟨c, hc, hadv⟩ | ⟨e, he, _⟩
  · rw [h] at hc
    cases hc
    exact hadv
  · rw [h] at he
    cases he

theorem step_eq_error_iff {b : Builder} {token : Token} {e : StructureError} :
    b.step token = .error e ↔ b.Refuses token e := by
  refine ⟨fun h => ?_, Refuses.step_eq⟩
  rcases b.step_cases token with ⟨c, hc, _⟩ | ⟨e', he, hr⟩
  · rw [h] at hc
    cases hc
  · rw [h] at he
    cases he
    exact hr

/-! ## Runs -/

theorem run_nil (b : Builder) : b.run [] = .ok b := rfl

theorem run_singleton (b : Builder) (token : Token) : b.run [token] = b.step token := by
  rw [run, List.foldlM_cons]
  cases b.step token <;> rfl

theorem run_cons_of_advance {b b' : Builder} {token : Token}
    (h : b.Advance token b') (tokens : List Token) :
    b.run (token :: tokens) = b'.run tokens := by
  rw [run, List.foldlM_cons, h.step_eq]
  rfl

theorem run_cons_of_refuses {b : Builder} {token : Token} {e : StructureError}
    (h : b.Refuses token e) (tokens : List Token) :
    b.run (token :: tokens) = .error e := by
  rw [run, List.foldlM_cons, h.step_eq]
  rfl

theorem run_append (b : Builder) (tokens more : List Token) :
    b.run (tokens ++ more) = b.run tokens >>= fun b' => b'.run more := by
  rw [run, List.foldlM_append]
  rfl

theorem run_concat_iff {b b' : Builder} {tokens : List Token} {token : Token} :
    b.run (tokens ++ [token]) = .ok b' ↔
      ∃ c, b.run tokens = .ok c ∧ c.Advance token b' := by
  rw [run_append]
  cases b.run tokens with
  | error e => exact ⟨nofun, fun ⟨_, hc, _⟩ => nomatch hc⟩
  | ok c =>
      show c.run [token] = .ok b' ↔ _
      rw [run_singleton, step_eq_ok_iff]
      constructor
      · exact fun hadv => ⟨c, rfl, hadv⟩
      · rintro ⟨_, hc, hadv⟩
        cases hc
        exact hadv

/-- What holds of no tokens, and is carried on by each token that is taken, holds of all
tokens of a run and of the builder that they lead to. -/
theorem run_induction {motive : List Token → Builder → Prop} {b : Builder}
    (hstart : motive [] b)
    (hstep : ∀ front token c c', b.run front = .ok c → c.Advance token c' →
      motive front c → motive (front ++ [token]) c')
    {tokens : List Token} {b' : Builder} (h : b.run tokens = .ok b') :
    motive tokens b' := by
  induction tokens using List.reverseRecOn generalizing b' with
  | nil =>
      cases h
      exact hstart
  | append_singleton front token ih =>
      obtain ⟨c, hrun, hadv⟩ := run_concat_iff.mp h
      exact hstep front token c b' hrun hadv (ih hrun)

/-- A run fails at the first token that is refused. -/
theorem run_eq_error_iff {b : Builder} {tokens : List Token} {e : StructureError} :
    b.run tokens = .error e ↔ ∃ front token rest c,
      tokens = front ++ token :: rest ∧ b.run front = .ok c ∧ c.Refuses token e := by
  constructor
  · intro h
    induction tokens using List.reverseRecOn with
    | nil => cases h
    | append_singleton tokens last ih =>
        cases hrun : b.run tokens with
        | error e' =>
            rw [run_append, hrun] at h
            cases h
            obtain ⟨front, token, rest, c, rfl, hfront, hr⟩ := ih hrun
            exact ⟨front, token, rest ++ [last], c, by simp, hfront, hr⟩
        | ok c =>
            rw [run_append, hrun] at h
            have hlast : c.run [last] = .error e := h
            rw [run_singleton, step_eq_error_iff] at hlast
            exact ⟨tokens, last, [], c, rfl, hrun, hlast⟩
  · rintro ⟨front, token, rest, c, rfl, hfront, hr⟩
    rw [run_append, hfront]
    exact run_cons_of_refuses hr rest

end Builder

end SignatureSnippets
