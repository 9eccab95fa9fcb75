import SignatureSnippets.Proofs.Faults

/-!
# Separators that change nothing

Commas and arrows put nothing into the tree. All they do is to say where content goes
next, to the arguments or to a return type, and one that finds this settled its way
already is redundant: a comma behind anything but an arrow, an arrow at the front or
behind another arrow. It leaves the builder as it was, one token further on.

So what has to be seen is that a builder goes by its tree and by what is open, and
never by how many tokens it has read. `later` is the builder that has read one token
more, and it goes through the rest of the tokens step by step with the other one
(`run_later`). Only an error shows the difference, by its position.
-/

namespace SignatureSnippets

namespace StructureError

/-- The position of the token that is refused. -/
def position : StructureError → Nat
  | .returnTwice position => position
  | .unbalanced _ position => position

/-- The same fault with its token at another position. -/
def mapPosition (f : Nat → Nat) : StructureError → StructureError
  | .returnTwice position => .returnTwice (f position)
  | .unbalanced token position => .unbalanced token (f position)

theorem mapPosition_eq_self {f : Nat → Nat} {e : StructureError}
    (h : f e.position = e.position) : e.mapPosition f = e := by
  cases e with
  | returnTwice position => exact congrArg returnTwice h
  | unbalanced token position => exact congrArg (unbalanced token) h

theorem mapPosition_mapPosition (f g : Nat → Nat) (e : StructureError) :
    (e.mapPosition f).mapPosition g = e.mapPosition (g ∘ f) := by
  cases e <;> rfl

end StructureError

namespace Builder

variable {ts : List Token} {token : Token} {b b' : Builder} {e : StructureError}

/-! ## Builders one token apart -/

def later (b : Builder) : Builder :=
  { b with position := b.position + 1 }

theorem Advance.later (h : b.Advance token b') :
    b.later.Advance token b'.later := by
  cases h with
  | argument hitem hmode hopen => exact .argument hitem hmode hopen
  | result hitem hmode hret => exact .result hitem hmode hret
  | close hopen => exact .close hopen
  | skip htoken => exact .skip htoken

theorem Refuses.later (h : b.Refuses token e) :
    b.later.Refuses token (e.mapPosition (· + 1)) := by
  cases h with
  | unbalanced hopen htoken => exact .unbalanced hopen htoken
  | returnTwice htoken hmode hret => exact .returnTwice htoken hmode hret

theorem later_run_of_run (h : b.run ts = .ok b') : b.later.run ts = .ok b'.later :=
  run_induction (motive := fun front c => b.later.run front = .ok c.later) rfl
    (fun _ _ c _ _ hadv hfront => run_concat_iff.mpr ⟨c.later, hfront, hadv.later⟩) h

theorem run_later (b : Builder) (tokens : List Token) :
    b.later.run tokens
      = ((b.run tokens).map later).mapError (.mapPosition (· + 1)) := by
  cases hrun : b.run tokens with
  | ok b' => exact later_run_of_run hrun
  | error e =>
      obtain ⟨front, token, rest, c, rfl, hfront, hr⟩ := run_eq_error_iff.mp hrun
      exact run_eq_error_iff.mpr
        ⟨front, token, rest, c.later, rfl, later_run_of_run hfront, hr.later⟩

/-! ## Where a run can fail -/

theorem Advance.position_eq (h : b.Advance token b') :
    b'.position = b.position + 1 := by
  cases h <;> rfl

theorem Refuses.position_eq (h : b.Refuses token e) : e.position = b.position := by
  cases h <;> rfl

theorem position_of_run (h : b.run ts = .ok b') : b'.position = b.position + ts.length := by
  refine run_induction (motive := fun front c => c.position = b.position + front.length)
    rfl ?_ h
  intro front token c c' _ hadv hposition
  rw [hadv.position_eq, hposition, List.length_append, List.length_singleton, Nat.add_assoc]

theorem position_of_run_error (h : b.run ts = .error e) :
    b.position ≤ e.position ∧ e.position < b.position + ts.length := by
  obtain ⟨front, token, rest, c, rfl, hfront, hr⟩ := run_eq_error_iff.mp h
  rw [hr.position_eq, position_of_run hfront, List.length_append, List.length_cons]
  omega

/-! ## Redundant separators -/

/-- The token finds the mode as it would set it. -/
theorem Tracks.advance_later (h : Tracks ts b)
    (hsep : token = .comma ∧ ¬ Faults.IsReturnPosition ts ts.length ∨
      token = .arrow ∧ Faults.IsReturnPosition ts ts.length) :
    b.Advance token b.later := by
  have hskip : b.Advance token
      { b with inArguments := decide (token ≠ .arrow), position := b.position + 1 } := by
    refine .skip ?_
    rcases hsep with ⟨rfl, _⟩ | ⟨rfl, _⟩ <;> simp
  have hmode : decide (token ≠ .arrow) = b.inArguments := by
    rcases hsep with ⟨rfl, hposition⟩ | ⟨rfl, hposition⟩
    · rw [h.mode.mpr hposition]
      rfl
    · by_contra hne
      have harguments : b.inArguments = true := by simpa using hne
      exact h.mode.mp harguments hposition
  rw [hmode] at hskip
  exact hskip

end Builder

namespace Signature

open Builder Faults

variable {ts : List Token} {i : Nat} {e : StructureError}

/-- The token at the position is a separator that does not change the mode. -/
def IsRedundant (ts : List Token) (i : Nat) : Prop :=
  ts[i]? = some .comma ∧ ¬ IsReturnPosition ts i ∨
    ts[i]? = some .arrow ∧ IsReturnPosition ts i

/-- Where a position is once the token at `i` is gone. -/
def closeGap (i p : Nat) : Nat :=
  if i < p then p - 1 else p

theorem ofTokens_eq_map_run (ts : List Token) :
    ofTokens ts = (Builder.run {} ts).map fun b => ⟨b.root, b.unclosed⟩ := by
  rw [ofTokens]
  cases Builder.run {} ts <;> rfl

theorem ofTokens_of_run_error {more : List Token} (h : Builder.run {} ts = .error e) :
    ofTokens (ts ++ more) = .error e := by
  rw [ofTokens, run_append, h]
  rfl

/-- With the redundant separator in front of the rest of the tokens, the rest is read
from one token later on. -/
theorem ofTokens_append_redundant {before after : List Token} {sep : Token}
    (h : sep = .comma ∧ ¬ IsReturnPosition before before.length ∨
      sep = .arrow ∧ IsReturnPosition before before.length) :
    ofTokens (before ++ after)
      = (ofTokens (before ++ sep :: after)).mapError
          (.mapPosition (closeGap before.length)) := by
  cases hbefore : Builder.run {} before with
  | error e =>
      rw [ofTokens_of_run_error hbefore, ofTokens_of_run_error hbefore]
      have hposition := (position_of_run_error hbefore).2
      have hkeep : closeGap before.length e.position = e.position := by
        rw [closeGap, if_neg]
        simp only [Nat.zero_add] at hposition
        omega
      exact congrArg Except.error (StructureError.mapPosition_eq_self hkeep).symm
  | ok b =>
      have htracks := tracks_run hbefore
      have hwith : Builder.run {} (before ++ sep :: after) = b.later.run after := by
        rw [run_append, hbefore]
        exact run_cons_of_advance (htracks.advance_later h) after
      have hwithout : Builder.run {} (before ++ after) = b.run after := by
        rw [run_append, hbefore]
        rfl
      rw [ofTokens_eq_map_run, ofTokens_eq_map_run, hwith, hwithout, run_later]
      cases hafter : b.run after with
      | ok b' => rfl
      | error e =>
          have hposition := (position_of_run_error hafter).1
          have hback : closeGap before.length (e.position + 1) = e.position := by
            have hlen := htracks.position
            rw [closeGap, if_pos (by omega)]
            rfl
          refine congrArg Except.error ?_
          rw [StructureError.mapPosition_mapPosition]
          exact (StructureError.mapPosition_eq_self hback).symm

/-- Only content and closing parentheses are refused. -/
theorem not_separator_of_error (h : ofTokens ts = .error e) :
    ts[e.position]? ≠ some .comma ∧ ts[e.position]? ≠ some .arrow := by
  obtain ⟨i, hf, _⟩ := ofTokens_eq_error_iff_faultAt.mp h
  have hcontent : ∀ token : Token, token.IsContent → token ≠ .comma ∧ token ≠ .arrow :=
    fun token hc => ⟨hc.2.2, hc.2.1⟩
  cases hf with
  | unbalanced htoken hun =>
      obtain ⟨_, token, htoken', hkind⟩ := hun
      show ts[i]? ≠ _ ∧ ts[i]? ≠ _
      rw [htoken']
      rcases hkind with rfl | ⟨hc, _⟩
      · simp
      · simpa using hcontent token hc
  | returnTwice htwice =>
      obtain ⟨⟨_, token, htoken, hc⟩, _⟩ := htwice
      show ts[i]? ≠ _ ∧ ts[i]? ≠ _
      rw [htoken]
      simpa using hcontent token hc

/-- A redundant separator can be left out: what was read stays the same, and an error
is the same one for the same token, whose position is one less if it stood behind the
separator. -/
theorem ofTokens_eraseIdx_redundant (ts : List Token) (i : Nat) (h : IsRedundant ts i) :
    ofTokens (ts.eraseIdx i)
        = (ofTokens ts).mapError (.mapPosition (closeGap i)) ∧
      ∀ e, ofTokens ts = .error e →
        e.position ≠ i ∧ (ts.eraseIdx i)[closeGap i e.position]? = ts[e.position]? := by
  constructor
  · obtain ⟨sep, hsep⟩ : ∃ sep, ts[i]? = some sep := by
      rcases h with ⟨hsep, _⟩ | ⟨hsep, _⟩ <;> exact ⟨_, hsep⟩
    obtain ⟨before, after, rfl, rfl⟩ :
        ∃ before after, ts = before ++ sep :: after ∧ before.length = i := by
      obtain ⟨hlt, hget⟩ := List.getElem?_eq_some_iff.mp hsep
      refine ⟨ts.take i, ts.drop (i + 1), ?_, List.length_take_of_le (Nat.le_of_lt hlt)⟩
      rw [← hget, List.getElem_cons_drop, List.take_append_drop]
    have herase : (before ++ sep :: after).eraseIdx before.length = before ++ after := by
      rw [List.eraseIdx_append_of_length_le (Nat.le_refl _)]
      simp
    rw [herase]
    refine ofTokens_append_redundant ?_
    simpa [IsRedundant, isReturnPosition_append] using h
  · intro e he
    obtain ⟨hcomma, harrow⟩ := not_separator_of_error he
    have hne : e.position ≠ i := by
      rintro rfl
      rcases h with ⟨hsep, _⟩ | ⟨hsep, _⟩
      · exact hcomma hsep
      · exact harrow hsep
    refine ⟨hne, ?_⟩
    rw [closeGap, List.getElem?_eraseIdx]
    split
    · rw [if_neg (by omega), Nat.sub_add_cancel (by omega)]
    · rw [if_pos (by omega)]

/-- A label is read the same with a comma between it and its callback. -/
theorem ofTokens_eraseIdx_label :
    tokenize "fn(f: fn(a) -> b -> c" = (tokenize "fn(f:, fn(a) -> b -> c").eraseIdx 2 ∧
      IsRedundant (tokenize "fn(f:, fn(a) -> b -> c") 2 ∧
      parse "fn(f:, fn(a) -> b -> c" = .error (.returnTwice 9) ∧
      parse "fn(f: fn(a) -> b -> c" = .error (.returnTwice 8) := by
  have htokens : tokenize "fn(f:, fn(a) -> b -> c"
      = [.opening, .name "f:", .comma, .opening, .name "a", .closing, .arrow, .name "b",
        .arrow, .name "c"] := by decide +kernel
  have hwithout : tokenize "fn(f: fn(a) -> b -> c"
      = (tokenize "fn(f:, fn(a) -> b -> c").eraseIdx 2 := by decide +kernel
  have h : IsRedundant (tokenize "fn(f:, fn(a) -> b -> c") 2 := by
    rw [htokens]
    exact Or.inl ⟨rfl, by simp [IsReturnPosition]⟩
  have hread : ofTokens (tokenize "fn(f:, fn(a) -> b -> c") = .error (.returnTwice 9) := by
    rw [htokens]
    cbv
  refine ⟨hwithout, h, hread, ?_⟩
  rw [parse, hwithout, (ofTokens_eraseIdx_redundant _ 2 h).1, hread]
  rfl

end Signature

end SignatureSnippets
