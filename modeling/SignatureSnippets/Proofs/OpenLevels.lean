import SignatureSnippets.Log.Notice
import SignatureSnippets.Proofs.Conservation
import SignatureSnippets.Proofs.Separators

/-!
# Levels that stay open

A signature has one level open from the start, the outermost one, and one more for each
opening parenthesis until it is closed. How many are open is a difference of counts at
any moment, whatever the order of the tokens (`Tracks.height`), and tokens without
content change nothing else. So what may stand behind a signature that was read is a
matter of counting its closing parentheses: as many as levels are open leave the tree
as it is, and the next one is refused.

What is reported of a signature that ends too early is the same number, less one for
the outermost level. That is not the number of opening parentheses without a closing
one. A closing parenthesis with nothing to close closes the outermost level, and a
function type that a later arrow opens is counted in its place. `Unmatched` pairs the
parentheses off without looking at the builder, and the two numbers differ by the
closing ones it has left over, of which there is at most one.
-/

namespace SignatureSnippets

namespace Builder

variable {ts us : List Token} {token : Token} {b b' : Builder}

/-! ## One token -/

theorem Advance.length_openTypes (h : b.Advance token b') :
    b'.openTypes.length + (if token = .closing then 1 else 0)
      = b.openTypes.length + if token = .opening then 1 else 0 := by
  cases h with
  | argument hitem | result hitem =>
      have hne : token ≠ .closing := by
        rintro rfl
        cases hitem
      show (b.openedBy token _).length + _ = _
      rw [length_openedBy, if_neg hne]
      omega
  | close hopen =>
      rw [hopen, if_pos rfl, if_neg (by simp)]
      rfl
  | skip htoken => rcases htoken with rfl | rfl <;> rfl

theorem Advance.of_no_content (h : b.Advance token b') (hcontent : ¬ token.IsContent) :
    b'.root = b.root ∧
      b'.openTypes.length + (if token = .closing then 1 else 0) = b.openTypes.length := by
  have hheight := h.length_openTypes
  have hopening : token ≠ .opening := by
    rintro rfl
    exact hcontent (by simp [Token.IsContent])
  rw [if_neg hopening, Nat.add_zero] at hheight
  refine ⟨?_, hheight⟩
  cases h with
  | argument hitem | result hitem =>
      refine absurd (Token.isContent_iff.mpr ?_) hcontent
      rw [hitem]
      rfl
  | close => rfl
  | skip => rfl

/-- Without content, only a closing parenthesis with no level open is refused. -/
theorem Refuses.eq_unbalanced {e : StructureError} (h : b.Refuses token e)
    (hcontent : ¬ token.IsContent) :
    token = .closing ∧ b.openTypes = [] ∧ e = .unbalanced .closing b.position := by
  rw [Token.isContent_iff] at hcontent
  cases h with
  | unbalanced hopen htoken =>
      have htoken := htoken.resolve_right fun hc => hcontent hc.1
      exact ⟨htoken, hopen, by rw [htoken]⟩
  | returnTwice hsome => exact absurd hsome hcontent

/-! ## Tokens without content -/

/-- Tokens without content leave the tree as it is, and their closing parentheses close
one level each. -/
theorem run_of_no_content (hus : ∀ token ∈ us, ¬ token.IsContent) (h : b.run us = .ok b') :
    b'.root = b.root ∧ b'.openTypes.length + us.count .closing = b.openTypes.length := by
  refine run_induction (motive := fun front c => (∀ token ∈ front, ¬ token.IsContent) →
    c.root = b.root ∧ c.openTypes.length + front.count .closing = b.openTypes.length)
    (fun _ => ⟨rfl, rfl⟩) ?_ h hus
  intro front token c c' _ hadv hfront hall
  rw [List.forall_mem_append, List.forall_mem_singleton] at hall
  obtain ⟨hroot, hopen⟩ := hfront hall.1
  obtain ⟨hstep, hheight⟩ := hadv.of_no_content hall.2
  refine ⟨hstep.trans hroot, ?_⟩
  rw [List.count_append, List.count_singleton]
  simp only [beq_iff_eq]
  omega

/-- Tokens without content are refused at the first closing parenthesis for which there is
no level open. -/
theorem run_error_of_no_content {e : StructureError}
    (hus : ∀ token ∈ us, ¬ token.IsContent) (h : b.run us = .error e) :
    ∃ front rest, us = front ++ .closing :: rest ∧
      front.count .closing = b.openTypes.length ∧
      e = .unbalanced .closing (b.position + front.length) := by
  obtain ⟨front, token, rest, c, rfl, hfront, hr⟩ := run_eq_error_iff.mp h
  rw [List.forall_mem_append, List.forall_mem_cons] at hus
  obtain ⟨rfl, hopen, rfl⟩ := hr.eq_unbalanced hus.2.1
  obtain ⟨_, hheight⟩ := run_of_no_content hus.1 hfront
  rw [hopen, List.length_nil, Nat.zero_add] at hheight
  exact ⟨front, rest, rfl, hheight, by rw [position_of_run hfront]⟩

theorem run_of_closings_le (hus : ∀ token ∈ us, ¬ token.IsContent)
    (hcount : us.count .closing ≤ b.openTypes.length) :
    ∃ b', b.run us = .ok b' ∧ b'.root = b.root ∧
      b'.openTypes.length = b.openTypes.length - us.count .closing := by
  cases hrun : b.run us with
  | ok b' =>
      obtain ⟨hroot, hheight⟩ := run_of_no_content hus hrun
      exact ⟨b', rfl, hroot, by omega⟩
  | error e =>
      obtain ⟨front, rest, rfl, hheight, _⟩ := run_error_of_no_content hus hrun
      rw [List.count_append, List.count_cons_self] at hcount
      omega

theorem run_of_lt_closings (hus : ∀ token ∈ us, ¬ token.IsContent)
    (hcount : b.openTypes.length < us.count .closing) :
    ∃ i, us[i]? = some .closing ∧ (us.take i).count .closing = b.openTypes.length ∧
      b.run us = .error (.unbalanced .closing (b.position + i)) := by
  cases hrun : b.run us with
  | ok b' =>
      obtain ⟨_, hheight⟩ := run_of_no_content hus hrun
      omega
  | error e =>
      obtain ⟨front, rest, rfl, hheight, rfl⟩ := run_error_of_no_content hus hrun
      refine ⟨front.length, by simp, ?_, rfl⟩
      rw [List.take_left, hheight]

end Builder

/-! ## Behind a signature -/

namespace Signature

/-- The levels that are open behind the tokens of a signature. -/
def openLevels (ts : List Token) : Nat :=
  1 + ts.count .opening - ts.count .closing

variable {ts us : List Token} {s : Signature} {b : Builder}

theorem length_openTypes (hrun : Builder.run {} ts = .ok b) :
    b.openTypes.length + ts.count .closing = 1 + ts.count .opening := by
  have hheight := (Builder.tracks_run hrun).height
  rw [Faults.closesBefore, Faults.opensBefore, List.take_length] at hheight
  omega

/-- Closing parentheses, arrows and commas behind a signature change nothing in what was
read, as long as there are no more closing parentheses than levels open. The first one too
many is refused. -/
theorem ofTokens_append_closing (ts us : List Token) (h : ofTokens ts = .ok s)
    (hus : ∀ token ∈ us, token = .closing ∨ token = .arrow ∨ token = .comma) :
    ts.count .closing ≤ 1 + ts.count .opening ∧
      (us.count .closing ≤ openLevels ts →
        ofTokens (ts ++ us) = .ok ⟨s.root, openLevels ts - us.count .closing - 1⟩) ∧
      (openLevels ts < us.count .closing →
        ∃ i, us[i]? = some .closing ∧ (us.take i).count .closing = openLevels ts ∧
          ∃ e, ofTokens (ts ++ us) = .error e ∧ e = .unbalanced .closing (ts.length + i) ∧
            e.summary = "Unbalanced parentheses") := by
  obtain ⟨b, hrun, rfl⟩ := ofTokens_eq_ok_iff.mp h
  have hposition := (Builder.tracks_run hrun).position
  have hheight := length_openTypes hrun
  have hlevels : b.openTypes.length = openLevels ts := by
    rw [openLevels]
    omega
  have hcontent : ∀ token ∈ us, ¬ token.IsContent := by
    intro token htoken hc
    rcases hus token htoken with rfl | rfl | rfl
    · exact hc.1 rfl
    · exact hc.2.1 rfl
    · exact hc.2.2 rfl
  have happend : Builder.run {} (ts ++ us) = b.run us := by
    rw [Builder.run_append, hrun]
    rfl
  rw [ofTokens_eq_map_run, happend, ← hlevels]
  refine ⟨by omega, fun hcount => ?_, fun hcount => ?_⟩
  · obtain ⟨b', hb', hroot, hopen⟩ := Builder.run_of_closings_le hcontent hcount
    rw [hb', ← hopen]
    show Except.ok (Signature.mk b'.root b'.unclosed) = _
    rw [hroot]
    rfl
  · obtain ⟨i, hi, htake, hb'⟩ := Builder.run_of_lt_closings hcontent hcount
    refine ⟨i, hi, htake, _, ?_, rfl, rfl⟩
    rw [hb', hposition]
    rfl

theorem ofTokens_append_closing_reopened :
    let ts : List Token := [.closing, .arrow, .opening, .name "a"]
    let s : Signature := ⟨⟨[], some (.fn [.name "a"] none)⟩, 0⟩
    ofTokens ts = .ok s ∧ openLevels ts = 1 ∧
      ofTokens (ts ++ [.arrow, .closing, .comma]) = .ok s ∧
      ofTokens (ts ++ [.arrow, .closing, .comma, .closing])
        = .error (.unbalanced .closing 7) := by
  intro ts s
  have hread : ofTokens ts = .ok s := by cbv
  have hlevels : openLevels ts = 1 := by decide
  refine ⟨hread, hlevels, ?_, ?_⟩
  · have hclosed := ofTokens_append_closing ts [.arrow, .closing, .comma] hread (by decide)
    exact hclosed.2.1 (by decide)
  · have hclosed := ofTokens_append_closing ts [.arrow, .closing, .comma, .closing] hread
      (by decide)
    obtain ⟨i, hi, htake, e, he, rfl, _⟩ := hclosed.2.2 (by decide)
    have hplace : i = 3 := by
      rcases i with _ | _ | _ | _ | i
      · cases hi
      · rw [hlevels] at htake
        cases htake
      · cases hi
      · rfl
      · cases hi
    rw [he, hplace]
    rfl

end Signature

/-! ## Pairs of parentheses -/

/-- The positions of the parentheses that are left over when each closing one is paired
with the nearest opening one before it that has no pair yet. -/
structure Unmatched where
  /-- Nearest first. -/
  openings : List Nat := []
  closings : List Nat := []
  deriving DecidableEq, Repr

namespace Unmatched

def read (u : Unmatched) (position : Nat) : Token → Unmatched
  | .opening => { u with openings := position :: u.openings }
  | .closing =>
    match u.openings with
    | [] => { u with closings := position :: u.closings }
    | _ :: rest => { u with openings := rest }
  | .arrow => u
  | .comma => u
  | .name _ => u

def readAll (u : Unmatched) : (position : Nat) → List Token → Unmatched
  | _, [] => u
  | position, token :: ts => (u.read position token).readAll (position + 1) ts

/-- What is left over of the parentheses of a token list. -/
def ofTokens (ts : List Token) : Unmatched :=
  readAll {} 0 ts

/-- The closing parenthesis that has no pair stands for the outermost level, and a
second one would have been refused. -/
structure Counts (u : Unmatched) (b : Builder) : Prop where
  height : b.openTypes.length + u.closings.length = u.openings.length + 1
  closings_le : u.closings.length ≤ 1

variable {u : Unmatched} {b b' : Builder} {token : Token}

theorem Counts.advance (h : u.Counts b) (hadv : b.Advance token b') (position : Nat) :
    (u.read position token).Counts b' := by
  obtain ⟨hheight, hle⟩ := h
  have hopen := hadv.length_openTypes
  cases token with
  | opening =>
      refine ⟨?_, hle⟩
      simp only [read, List.length_cons, reduceCtorEq, if_false, if_true] at hopen ⊢
      omega
  | closing =>
      simp only [reduceCtorEq, if_false, if_true] at hopen
      rw [read]
      split
      · next hnone =>
          rw [hnone, List.length_nil] at hheight
          refine ⟨?_, ?_⟩
          · show b'.openTypes.length + (u.closings.length + 1) = u.openings.length + 1
            rw [hnone, List.length_nil]
            omega
          · show u.closings.length + 1 ≤ 1
            omega
      · next rest hsome =>
          rw [hsome, List.length_cons] at hheight
          refine ⟨?_, hle⟩
          show b'.openTypes.length + u.closings.length = rest.length + 1
          omega
  | arrow | comma | name text =>
      refine ⟨?_, hle⟩
      simp only [reduceCtorEq, if_false] at hopen
      simp only [read]
      omega

theorem readAll_concat (u : Unmatched) (position : Nat) (ts : List Token) (token : Token) :
    u.readAll position (ts ++ [token])
      = (u.readAll position ts).read (position + ts.length) token := by
  induction ts generalizing u position with
  | nil => rfl
  | cons first ts ih =>
      rw [List.cons_append, readAll, readAll, ih, List.length_cons, Nat.add_assoc,
        Nat.add_comm 1]

theorem counts_run {ts : List Token} (hrun : Builder.run {} ts = .ok b) :
    (ofTokens ts).Counts b := by
  refine Builder.run_induction (motive := fun front c => (ofTokens front).Counts c)
    ⟨rfl, by decide⟩ ?_ hrun
  intro front token c c' _ hadv hcounts
  rw [ofTokens, readAll_concat]
  exact hcounts.advance hadv _

end Unmatched

/-! ## What is reported -/

/-- The notice of so many function types that are left open. -/
def Notice.ofUnclosed (count : Nat) : List Notice :=
  if count = 0 then [] else [.unclosed count]

namespace Signature

variable {ts : List Token} {s : Signature}

/-- What is reported is the number of opening parentheses without a pair, less that of the
closing ones without a pair. So it is the number of the opening ones exactly if there are
none, or no closing one is left over. -/
theorem notices_ofTokens (h : ofTokens ts = .ok s) :
    let u := Unmatched.ofTokens ts
    u.closings.length ≤ 1 ∧
      s.notices = Notice.ofUnclosed (u.openings.length - u.closings.length) ∧
      s.notices.map Notice.message
        = (if u.openings.length - u.closings.length = 0 then []
          else ["Signature ended with " ++ toString (u.openings.length - u.closings.length)
            ++ " unclosed function type(s)"]) ∧
      (s.notices = Notice.ofUnclosed u.openings.length ↔
        u.openings = [] ∨ u.closings = []) := by
  intro u
  obtain ⟨b, hrun, rfl⟩ := ofTokens_eq_ok_iff.mp h
  obtain ⟨hheight, hle⟩ : u.Counts b := Unmatched.counts_run hrun
  have hunclosed : b.unclosed = u.openings.length - u.closings.length := by
    rw [Builder.unclosed]
    omega
  have hnotices : Signature.notices ⟨b.root, b.unclosed⟩
      = Notice.ofUnclosed (u.openings.length - u.closings.length) := by
    rw [← hunclosed]
    rfl
  refine ⟨hle, hnotices, ?_, ?_⟩
  · rw [hnotices, Notice.ofUnclosed]
    split <;> rfl
  · rw [hnotices, ← List.length_eq_zero_iff, ← List.length_eq_zero_iff, Notice.ofUnclosed,
      Notice.ofUnclosed]
    constructor
    · intro hsame
      split at hsame <;> split at hsame
      · omega
      · cases hsame
      · cases hsame
      · have hcount : u.openings.length - u.closings.length = u.openings.length := by
          simpa using hsame
        omega
    · rintro (hnone | hnone)
      · rw [hnone, Nat.zero_sub]
      · rw [hnone, Nat.sub_zero]

theorem notices_ofTokens_reopened :
    let ts : List Token := [.closing, .arrow, .opening, .opening, .name "a"]
    let s : Signature := ⟨⟨[], some (.fn [.fn [.name "a"] none] none)⟩, 1⟩
    ofTokens ts = .ok s ∧ Unmatched.ofTokens ts = ⟨[3, 2], [0]⟩ ∧
      s.notices = [.unclosed 1] := by
  intro ts s
  have hread : ofTokens ts = .ok s := by cbv
  obtain ⟨_, hnotices, _⟩ := notices_ofTokens hread
  exact ⟨hread, by decide, hnotices⟩

/-- A function type that is opened behind the outermost level is left open, and nothing is
reported. -/
theorem notices_ne_unmatched :
    let ts := tokenize ") -> fn(a"
    let s : Signature := ⟨⟨[], some (.fn [.name "a"] none)⟩, 0⟩
    ofTokens ts = .ok s ∧ (Unmatched.ofTokens ts).openings.length = 1 ∧
      s.notices = [] ∧
      s.notices ≠ Notice.ofUnclosed (Unmatched.ofTokens ts).openings.length := by
  intro ts s
  have htokens : ts = [.closing, .arrow, .opening, .name "a"] := by decide +kernel
  have hcount : (Unmatched.ofTokens ts).openings.length = 1 := by
    rw [htokens]
    decide
  have hread : ofTokens ts = .ok s := by
    rw [htokens]
    cbv
  refine ⟨hread, hcount, rfl, ?_⟩
  rw [hcount]
  decide

end Signature

end SignatureSnippets
