import SignatureSnippets.Proofs.Coherence

/-!
# Where a signature is malformed

The builder finds a structural error by looking at its state: the open function
types, and the return type of the one closed last. This file says the same of the
tokens alone, by counting parentheses and comparing positions.

Two kinds of position are at fault. At an unbalanced one the closing parentheses
are one ahead of the opening ones, and the token there needs an open function
type. At the other kind a return type stands where an earlier one went to the same
function type. That happens in two ways. Either nothing was closed between the
two, or the earlier one went to the outermost level before anything was closed and
the later one follows the parenthesis that closes the outermost level, which is
the one case in which a function type becomes the last one closed a second time.

`Tracks` ties the two descriptions together. It relates a builder to the tokens it
has read, and each of its fields is an equivalence, so that it decides both errors
(`Tracks.refuses_iff`). Its one delicate field is `last_ret`, whether the function
type closed last has a return type. When a parenthesis closes an ordinary function
type the answer is no, because an open one never has a return type; when it closes
the outermost level the answer is what `root_ret` has kept until then.
-/

namespace SignatureSnippets

/-- Content is all that is neither a closing parenthesis nor an arrow nor a
comma. -/
def Token.IsContent (token : Token) : Prop :=
  token ≠ .closing ∧ token ≠ .arrow ∧ token ≠ .comma

theorem Token.isContent_iff {token : Token} :
    token.IsContent ↔ token.content?.isSome = true := by
  cases token <;> simp [IsContent, content?]

namespace Faults

variable {ts more : List Token} {token : Token} {i j p q : Nat}

def opensBefore (ts : List Token) (i : Nat) : Nat :=
  (ts.take i).count .opening

def closesBefore (ts : List Token) (i : Nat) : Nat :=
  (ts.take i).count .closing

/-- Content is a return type at the first position and behind an arrow. -/
def IsReturnPosition (ts : List Token) (i : Nat) : Prop :=
  i = 0 ∨ ts[i - 1]? = some .arrow

/-- A return type stands at the position. -/
def ReturnAt (ts : List Token) (i : Nat) : Prop :=
  IsReturnPosition ts i ∧ ∃ token, ts[i]? = some token ∧ token.IsContent

/-- No closing parenthesis stands from the first position up to the second. -/
def NoClosing (ts : List Token) (i j : Nat) : Prop :=
  ∀ k, i ≤ k → k < j → ts[k]? ≠ some .closing

/-- A closing parenthesis with which the closing ones get one ahead. -/
def Overcloses (ts : List Token) (p : Nat) : Prop :=
  ts[p]? = some .closing ∧ closesBefore ts (p + 1) = opensBefore ts (p + 1) + 1

/-- The first such parenthesis. It closes the outermost level. -/
def ClosesOutermost (ts : List Token) (p : Nat) : Prop :=
  Overcloses ts p ∧ ∀ q < p, ¬ Overcloses ts q

/-- The token at the position needs an open function type and there is none. -/
def Unbalanced (ts : List Token) (i : Nat) : Prop :=
  closesBefore ts i = opensBefore ts i + 1 ∧
    ∃ token, ts[i]? = some token ∧
      (token = .closing ∨ token.IsContent ∧ ¬ IsReturnPosition ts i)

/-- An earlier return type went to the function type that one at the position
would go to. -/
def Taken (ts : List Token) (i : Nat) : Prop :=
  ∃ j < i, ReturnAt ts j ∧
    (NoClosing ts j i ∨
      NoClosing ts 0 j ∧ ∃ p < i, ClosesOutermost ts p ∧ NoClosing ts (p + 1) i)

/-- The token at the position is a return type for a function type that has
one. -/
def ReturnTwice (ts : List Token) (i : Nat) : Prop :=
  ReturnAt ts i ∧ Taken ts i

/-! ## A position is judged by the tokens up to it -/

theorem opensBefore_append (h : i ≤ ts.length) :
    opensBefore (ts ++ more) i = opensBefore ts i := by
  rw [opensBefore, opensBefore, List.take_append_of_le_length h]

theorem closesBefore_append (h : i ≤ ts.length) :
    closesBefore (ts ++ more) i = closesBefore ts i := by
  rw [closesBefore, closesBefore, List.take_append_of_le_length h]

theorem isReturnPosition_append (h : i ≤ ts.length) :
    IsReturnPosition (ts ++ more) i ↔ IsReturnPosition ts i := by
  rcases Nat.eq_zero_or_pos i with rfl | hpos
  · exact ⟨fun _ => Or.inl rfl, fun _ => Or.inl rfl⟩
  · rw [IsReturnPosition, IsReturnPosition,
      List.getElem?_append_left (by omega : i - 1 < ts.length)]

theorem returnAt_append (h : i < ts.length) :
    ReturnAt (ts ++ more) i ↔ ReturnAt ts i := by
  rw [ReturnAt, ReturnAt, isReturnPosition_append (Nat.le_of_lt h),
    List.getElem?_append_left h]

theorem noClosing_append (h : j ≤ ts.length) :
    NoClosing (ts ++ more) i j ↔ NoClosing ts i j := by
  refine forall_congr' fun k => forall_congr' fun _ => forall_congr' fun hj => ?_
  rw [List.getElem?_append_left (by omega)]

theorem overcloses_append (h : p < ts.length) :
    Overcloses (ts ++ more) p ↔ Overcloses ts p := by
  rw [Overcloses, Overcloses, List.getElem?_append_left h, closesBefore_append h,
    opensBefore_append h]

theorem closesOutermost_append (h : p < ts.length) :
    ClosesOutermost (ts ++ more) p ↔ ClosesOutermost ts p := by
  rw [ClosesOutermost, ClosesOutermost, overcloses_append h]
  refine and_congr_right fun _ => forall₂_congr fun q hq => ?_
  rw [overcloses_append (by omega)]

theorem taken_append (h : i ≤ ts.length) :
    Taken (ts ++ more) i ↔ Taken ts i := by
  refine exists_congr fun j => and_congr_right fun hj => ?_
  rw [returnAt_append (by omega), noClosing_append h,
    noClosing_append (by omega : j ≤ ts.length)]
  refine and_congr_right fun _ => or_congr_right (and_congr_right fun _ => ?_)
  refine exists_congr fun p => and_congr_right fun hp => ?_
  rw [closesOutermost_append (by omega), noClosing_append h]

/-! ## One more token -/

theorem opensBefore_snoc :
    opensBefore (ts ++ [token]) (ts.length + 1)
      = opensBefore ts ts.length + if token = .opening then 1 else 0 := by
  rw [opensBefore, opensBefore, List.take_length, List.take_of_length_le (by simp),
    List.count_append, List.count_singleton]
  simp only [beq_iff_eq]

theorem closesBefore_snoc :
    closesBefore (ts ++ [token]) (ts.length + 1)
      = closesBefore ts ts.length + if token = .closing then 1 else 0 := by
  rw [closesBefore, closesBefore, List.take_length,
    List.take_of_length_le (by simp), List.count_append, List.count_singleton]
  simp only [beq_iff_eq]

theorem isReturnPosition_snoc :
    IsReturnPosition (ts ++ [token]) (ts.length + 1) ↔ token = .arrow := by
  rw [IsReturnPosition, Nat.add_sub_cancel, List.getElem?_concat_length]
  simp

theorem returnAt_snoc :
    ReturnAt (ts ++ [token]) ts.length ↔
      IsReturnPosition ts ts.length ∧ token.IsContent := by
  rw [ReturnAt, isReturnPosition_append (Nat.le_refl _), List.getElem?_concat_length]
  simp

theorem noClosing_snoc (h : i ≤ ts.length) :
    NoClosing (ts ++ [token]) i (ts.length + 1) ↔
      NoClosing ts i ts.length ∧ token ≠ .closing := by
  have hold : NoClosing (ts ++ [token]) i ts.length ↔ NoClosing ts i ts.length :=
    noClosing_append (Nat.le_refl _)
  rw [← hold]
  constructor
  · intro hno
    refine ⟨fun k hi hj => hno k hi (by omega), fun heq => ?_⟩
    exact hno ts.length h (by omega) (by rw [List.getElem?_concat_length, heq])
  · intro ⟨hno, hne⟩ k hi hj
    rcases Nat.lt_or_ge k ts.length with hlt | hge
    · exact hno k hi hlt
    · have hk : k = ts.length := by omega
      rw [hk, List.getElem?_concat_length]
      simpa using hne

theorem overcloses_snoc :
    Overcloses (ts ++ [token]) ts.length ↔
      token = .closing ∧
        closesBefore ts ts.length = opensBefore ts ts.length := by
  rw [Overcloses, List.getElem?_concat_length, closesBefore_snoc, opensBefore_snoc,
    Option.some.injEq]
  refine and_congr_right fun heq => ?_
  rw [heq, if_pos rfl, if_neg (by simp)]
  omega

/-- Only positions that hold a token overclose. -/
theorem Overcloses.lt_length (h : Overcloses ts p) : p < ts.length := by
  obtain ⟨hlt, _⟩ := List.getElem?_eq_some_iff.mp h.1
  exact hlt

theorem ReturnAt.lt_length (h : ReturnAt ts i) : i < ts.length := by
  obtain ⟨_, token, htoken, _⟩ := h
  obtain ⟨hlt, _⟩ := List.getElem?_eq_some_iff.mp htoken
  exact hlt

theorem forall_not_overcloses_snoc :
    (∀ q, ¬ Overcloses (ts ++ [token]) q) ↔
      (∀ q, ¬ Overcloses ts q) ∧ ¬ Overcloses (ts ++ [token]) ts.length := by
  constructor
  · intro h
    refine ⟨fun q hq => h q ?_, h ts.length⟩
    exact (overcloses_append hq.lt_length).mpr hq
  · intro ⟨hold, hnew⟩ q hq
    have hlt := hq.lt_length
    rw [List.length_append, List.length_singleton] at hlt
    rcases Nat.lt_or_ge q ts.length with hq' | hq'
    · exact hold q ((overcloses_append hq').mp hq)
    · have heq : q = ts.length := by omega
      rw [heq] at hq
      exact hnew hq

theorem closesOutermost_snoc :
    ClosesOutermost (ts ++ [token]) ts.length ↔
      Overcloses (ts ++ [token]) ts.length ∧ ∀ q, ¬ Overcloses ts q := by
  refine and_congr_right fun _ => ⟨fun h q hq => ?_, fun h q hq => ?_⟩
  · exact h q hq.lt_length ((overcloses_append hq.lt_length).mpr hq)
  · rw [overcloses_append hq]
    exact h q

/-- The early return types that the outermost level takes. -/
theorem exists_early_snoc :
    (∃ j, ReturnAt (ts ++ [token]) j ∧ NoClosing (ts ++ [token]) 0 j) ↔
      (∃ j, ReturnAt ts j ∧ NoClosing ts 0 j) ∨
        (IsReturnPosition ts ts.length ∧ token.IsContent) ∧
          NoClosing ts 0 ts.length := by
  constructor
  · rintro ⟨j, hret, hno⟩
    have hlt := hret.lt_length
    rw [List.length_append, List.length_singleton] at hlt
    rcases Nat.lt_or_ge j ts.length with hj | hj
    · rw [noClosing_append (Nat.le_of_lt hj)] at hno
      exact Or.inl ⟨j, (returnAt_append hj).mp hret, hno⟩
    · have heq : j = ts.length := by omega
      rw [heq, returnAt_snoc] at hret
      rw [heq, noClosing_append (Nat.le_refl _)] at hno
      exact Or.inr ⟨hret, hno⟩
  · rintro (⟨j, hret, hno⟩ | ⟨hret, hno⟩)
    · have hj := hret.lt_length
      exact ⟨j, (returnAt_append hj).mpr hret,
        (noClosing_append (Nat.le_of_lt hj)).mpr hno⟩
    · exact ⟨ts.length, returnAt_snoc.mpr hret,
        (noClosing_append (Nat.le_refl _)).mpr hno⟩

/-- A token that closes nothing takes a return type only if it is one. -/
theorem taken_snoc (h : token ≠ .closing) :
    Taken (ts ++ [token]) (ts.length + 1) ↔
      Taken ts ts.length ∨ IsReturnPosition ts ts.length ∧ token.IsContent := by
  constructor
  · rintro ⟨j, hj, hret, hreach⟩
    rcases Nat.lt_or_ge j ts.length with hlt | hge
    · refine Or.inl ⟨j, hlt, (returnAt_append hlt).mp hret, ?_⟩
      rcases hreach with hno | ⟨hfront, p, hp, hroot, hno⟩
      · exact Or.inl ((noClosing_snoc (Nat.le_of_lt_succ hj)).mp hno).1
      · have hp' : p < ts.length := by
          rcases Nat.lt_or_ge p ts.length with hlt | hge
          · exact hlt
          · have heq : p = ts.length := by omega
            rw [heq, closesOutermost_snoc, overcloses_snoc] at hroot
            exact absurd hroot.1.1 h
        refine Or.inr ⟨(noClosing_append (Nat.le_of_lt hlt)).mp hfront, p, hp',
          (closesOutermost_append hp').mp hroot, ?_⟩
        exact ((noClosing_snoc hp').mp hno).1
    · have heq : j = ts.length := by omega
      rw [heq, returnAt_snoc] at hret
      exact Or.inr hret
  · rintro (⟨j, hj, hret, hreach⟩ | hret)
    · refine ⟨j, by omega, (returnAt_append hj).mpr hret, ?_⟩
      rcases hreach with hno | ⟨hfront, p, hp, hroot, hno⟩
      · exact Or.inl ((noClosing_snoc (Nat.le_of_lt hj)).mpr ⟨hno, h⟩)
      · exact Or.inr ⟨(noClosing_append (Nat.le_of_lt hj)).mpr hfront, p, by omega,
          (closesOutermost_append hp).mpr hroot,
          (noClosing_snoc hp).mpr ⟨hno, h⟩⟩
    · refine ⟨ts.length, by omega, returnAt_snoc.mpr hret, Or.inl ?_⟩
      rw [noClosing_snoc (Nat.le_refl _)]
      exact ⟨fun k hi hj => absurd hj (by omega), h⟩

/-- Behind a closing parenthesis only the outermost level can have been taken. -/
theorem taken_snoc_closing :
    Taken (ts ++ [.closing]) (ts.length + 1) ↔
      ClosesOutermost (ts ++ [.closing]) ts.length ∧
        ∃ j, ReturnAt ts j ∧ NoClosing ts 0 j := by
  constructor
  · rintro ⟨j, hj, hret, hreach⟩
    have hlt : j < ts.length := by
      rcases Nat.lt_or_ge j ts.length with hlt | hge
      · exact hlt
      · have heq : j = ts.length := by omega
        rw [heq, returnAt_snoc] at hret
        exact absurd rfl hret.2.1
    rcases hreach with hno | ⟨hfront, p, hp, hroot, hno⟩
    · exact absurd rfl ((noClosing_snoc (Nat.le_of_lt_succ hj)).mp hno).2
    · have heq : p = ts.length := by
        rcases Nat.lt_or_ge p ts.length with hlt | hge
        · exact absurd rfl ((noClosing_snoc hlt).mp hno).2
        · omega
      rw [heq] at hroot
      exact ⟨hroot, j, (returnAt_append hlt).mp hret,
        (noClosing_append (Nat.le_of_lt hlt)).mp hfront⟩
  · rintro ⟨hroot, j, hret, hno⟩
    have hj := hret.lt_length
    exact ⟨j, by omega, (returnAt_append hj).mpr hret,
      Or.inr ⟨(noClosing_append (Nat.le_of_lt hj)).mpr hno, ts.length, by omega,
        hroot, fun k hi hk => absurd hk (by omega)⟩⟩

end Faults

namespace Builder

open Faults

/-! ## What a builder knows of the tokens it has read -/

structure Tracks (ts : List Token) (b : Builder) : Prop where
  coherent : b.Coherent
  position : b.position = ts.length
  mode : b.inArguments = true ↔ ¬ IsReturnPosition ts ts.length
  height : b.openTypes.length + closesBefore ts ts.length
    = opensBefore ts ts.length + 1
  /-- The outermost level is open as long as nothing has overclosed. -/
  root_open : [] ∈ b.openTypes ↔ ∀ q, ¬ Overcloses ts q
  /-- While it is open, return types go to it until the first closing. -/
  last_root : [] ∈ b.openTypes →
    (b.lastClosed = [] ↔ NoClosing ts 0 ts.length)
  root_ret : [] ∈ b.openTypes →
    (b.hasRet [] = true ↔ ∃ j, ReturnAt ts j ∧ NoClosing ts 0 j)
  last_ret : b.hasRet b.lastClosed = true ↔ Taken ts ts.length

theorem tracks_empty : Tracks [] {} where
  coherent := coherent_empty
  position := rfl
  mode := by simp [IsReturnPosition]
  height := rfl
  root_open := by
    refine ⟨fun _ q hq => ?_, fun _ => List.mem_singleton.mpr rfl⟩
    exact absurd hq.lt_length (by simp)
  last_root := fun _ => ⟨fun _ k _ hk => absurd hk (by simp), fun _ => rfl⟩
  root_ret := by
    refine fun _ => ⟨fun h => Bool.noConfusion h, fun ⟨j, hret, _⟩ => ?_⟩
    exact absurd hret.lt_length (by simp)
  last_ret := by
    refine ⟨fun h => Bool.noConfusion h, fun ⟨j, hj, _⟩ => ?_⟩
    exact absurd hj (by simp)

variable {ts rest : List Token} {token : Token} {b b' : Builder}

/-- The parenthesis that closes the outermost level is the one for which only the
outermost level is open. -/
theorem Tracks.closesOutermost_iff (h : Tracks ts b) {closed : Address}
    {outer : List Address} (hopen : b.openTypes = closed :: outer) :
    ClosesOutermost (ts ++ [.closing]) ts.length ↔ closed = [] := by
  have hheight := h.height
  rw [hopen, List.length_cons] at hheight
  rw [closesOutermost_snoc, overcloses_snoc, ← h.root_open, hopen]
  constructor
  · rintro ⟨⟨_, hcount⟩, hroot⟩
    have houter : outer = [] := List.eq_nil_of_length_eq_zero (by omega)
    rw [houter] at hroot
    exact (List.mem_singleton.mp hroot).symm
  · rintro rfl
    have hlast := h.coherent.root_below (mem_openTypes hopen)
    have hnodup := h.coherent.nodup
    rw [hopen] at hlast hnodup
    have houter : outer = [] := by
      cases outer with
      | nil => rfl
      | cons a outer =>
          rw [List.getLast?_cons_cons] at hlast
          exact absurd (List.mem_of_getLast? hlast) (List.nodup_cons.mp hnodup).1
    rw [houter, List.length_nil] at hheight
    exact ⟨⟨rfl, by omega⟩, List.mem_cons_self⟩

theorem nil_mem_openedBy {step : Step} {o : Address} :
    [] ∈ b.openedBy token (step :: o) ↔ [] ∈ b.openTypes := by
  rw [openedBy]
  split <;> simp

theorem length_openedBy (a : Address) :
    (b.openedBy token a).length
      = b.openTypes.length + if token = .opening then 1 else 0 := by
  rw [openedBy]
  split <;> rfl

/-- A token that closes nothing moves neither the function type closed last nor
the outermost level, so all it can change is which of the two has a return
type. -/
theorem Tracks.of_ne_closing (h : Tracks ts b) (hne : token ≠ .closing)
    (hcoherent : b'.Coherent) (hposition : b'.position = b.position + 1)
    (hmode : b'.inArguments = decide (token ≠ .arrow))
    (hheight : b'.openTypes.length
      = b.openTypes.length + if token = .opening then 1 else 0)
    (hroot : [] ∈ b'.openTypes ↔ [] ∈ b.openTypes)
    (hlast : b'.lastClosed = b.lastClosed)
    (hroot_ret : [] ∈ b.openTypes → (b'.hasRet [] = true ↔ b.hasRet [] = true ∨
      (IsReturnPosition ts ts.length ∧ token.IsContent) ∧
        NoClosing ts 0 ts.length))
    (hlast_ret : b'.hasRet b.lastClosed = true ↔
      b.hasRet b.lastClosed = true ∨
        IsReturnPosition ts ts.length ∧ token.IsContent) :
    Tracks (ts ++ [token]) b' := by
  have hlen : (ts ++ [token]).length = ts.length + 1 := by simp
  constructor
  · exact hcoherent
  · rw [hlen, hposition, h.position]
  · rw [hlen, isReturnPosition_snoc, hmode, decide_eq_true_eq]
  · have hcount := h.height
    rw [hlen, hheight, closesBefore_snoc, opensBefore_snoc, if_neg hne]
    omega
  · rw [hroot, h.root_open, forall_not_overcloses_snoc, overcloses_snoc]
    exact ⟨fun hq => ⟨hq, fun hc => hne hc.1⟩, And.left⟩
  · intro hmem
    rw [hlen, hlast, noClosing_snoc (Nat.zero_le _),
      h.last_root (hroot.mp hmem)]
    exact ⟨fun hno => ⟨hno, hne⟩, And.left⟩
  · intro hmem
    rw [hroot_ret (hroot.mp hmem), h.root_ret (hroot.mp hmem), exists_early_snoc]
  · rw [hlen, hlast, hlast_ret, h.last_ret, taken_snoc hne]

/-- A closing parenthesis moves the function type closed last to one that has no
return type, unless it is the outermost level. -/
theorem Tracks.close (h : Tracks ts b) {closed : Address} {outer : List Address}
    (hopen : b.openTypes = closed :: outer)
    (hcoherent : Coherent
      { root := b.root, openTypes := outer, lastClosed := closed
        inArguments := true, position := b.position + 1 }) :
    Tracks (ts ++ [.closing])
      { root := b.root, openTypes := outer, lastClosed := closed
        inArguments := true, position := b.position + 1 } := by
  have hlen : (ts ++ [Token.closing]).length = ts.length + 1 := by simp
  have hiff := h.closesOutermost_iff hopen
  have hroot : [] ∈ outer ↔ [] ∈ b.openTypes ∧ closed ≠ [] := by
    have hnodup := h.coherent.nodup
    rw [hopen] at hnodup ⊢
    constructor
    · intro hmem
      refine ⟨List.mem_cons_of_mem _ hmem, fun heq => ?_⟩
      rw [heq] at hnodup
      exact (List.nodup_cons.mp hnodup).1 hmem
    · intro ⟨hmem, hne⟩
      rcases List.mem_cons.mp hmem with heq | hmem
      · exact absurd heq.symm hne
      · exact hmem
  constructor
  · exact hcoherent
  · rw [hlen, h.position]
  · rw [hlen, isReturnPosition_snoc]
    exact ⟨fun _ => by simp, fun _ => rfl⟩
  · have hcount := h.height
    rw [hopen, List.length_cons] at hcount
    rw [hlen, closesBefore_snoc, opensBefore_snoc, if_pos rfl, if_neg (by simp)]
    show outer.length + _ = _
    omega
  · rw [hroot, h.root_open, forall_not_overcloses_snoc]
    refine and_congr_right fun hq => ?_
    rw [Ne, ← hiff, closesOutermost_snoc, not_and_or]
    exact ⟨fun hor => hor.resolve_right fun hn => hn hq, Or.inl⟩
  · intro hmem
    rw [hlen, noClosing_snoc (Nat.zero_le _)]
    exact ⟨fun heq => absurd heq (hroot.mp hmem).2, fun hno => absurd rfl hno.2⟩
  · intro hmem
    have hold := h.root_ret (hroot.mp hmem).1
    rw [hasRet_eq] at hold ⊢
    rw [hold, exists_early_snoc]
    exact ⟨Or.inl, fun hor => hor.resolve_right fun hnew => hnew.1.2.1 rfl⟩
  · rw [hlen, taken_snoc_closing, hiff, hasRet_eq]
    by_cases heq : closed = []
    · subst heq
      have hold := h.root_ret (mem_openTypes hopen)
      rw [hasRet_eq] at hold
      rw [hold]
      exact ⟨fun he => ⟨rfl, he⟩, And.right⟩
    · have hfree := h.coherent.open_free closed
        (mem_openTypes hopen) heq
      rw [hasRet_eq] at hfree
      rw [hfree]
      exact ⟨fun hf => Bool.noConfusion hf, fun he => absurd he.1 heq⟩

/-- A builder goes on tracking the tokens when it takes one more. -/
theorem Tracks.advance (h : Tracks ts b) (hadv : b.Advance token b') :
    Tracks (ts ++ [token]) b' := by
  have hcoherent := h.coherent.advance hadv
  cases hadv with
  | @argument _ item owner outer hitem hmode hopen =>
      have hcontent : token.IsContent :=
        Token.isContent_iff.mpr (by rw [hitem]; rfl)
      have hposition : ¬ IsReturnPosition ts ts.length := h.mode.mp hmode
      obtain ⟨m, hm⟩ :=
        h.coherent.open_at owner (mem_openTypes hopen)
      obtain ⟨l, hl⟩ := h.coherent.last_at
      refine h.of_ne_closing hcontent.1 hcoherent rfl ?_ (length_openedBy _)
        nil_mem_openedBy rfl (fun _ => ?_) ?_
      · rw [decide_eq_true hcontent.2.1]
      · rw [hasRet_eq, hasRet_eq, hasRetAt_argument hm rfl]
        exact ⟨Or.inl, fun hor => hor.resolve_right fun hret =>
          hposition hret.1.1⟩
      · rw [hasRet_eq, hasRet_eq, hasRetAt_argument hm hl]
        exact ⟨Or.inl, fun hor => hor.resolve_right fun hret =>
          hposition hret.1⟩
  | @result _ item hitem hmode hret =>
      have hcontent : token.IsContent :=
        Token.isContent_iff.mpr (by rw [hitem]; rfl)
      have hposition : IsReturnPosition ts ts.length := by
        by_contra hnot
        rw [h.mode.mpr hnot] at hmode
        cases hmode
      obtain ⟨l, hl⟩ := h.coherent.last_at
      have hset : (b.root.modifyAt b.lastClosed (.setRet item)).hasRetAt
          b.lastClosed = true := by
        rw [FnType.hasRetAt_modifyAt_self hl]
        rfl
      refine h.of_ne_closing hcontent.1 hcoherent rfl ?_ (length_openedBy _)
        nil_mem_openedBy rfl (fun hroot => ?_) ?_
      · rw [decide_eq_true hcontent.2.1]
      · rw [hasRet_eq, hasRet_eq]
        by_cases hlast : b.lastClosed = []
        · have hno := (h.last_root hroot).mp hlast
          rw [hlast] at hset
          rw [hlast, hset]
          exact ⟨fun _ => Or.inr ⟨⟨hposition, hcontent⟩, hno⟩, fun _ => rfl⟩
        · rw [hasRetAt_result hret rfl (fun heq => hlast heq.symm)]
          exact ⟨Or.inl, fun hor => hor.resolve_right fun hnew =>
            hlast ((h.last_root hroot).mpr hnew.2)⟩
      · rw [hasRet_eq, hset]
        exact ⟨fun _ => Or.inr ⟨hposition, hcontent⟩, fun _ => rfl⟩
  | close hopen => exact h.close hopen hcoherent
  | skip htoken =>
      have hnone : ¬ token.IsContent := by
        rintro hcontent
        rcases htoken with rfl | rfl
        · exact hcontent.2.1 rfl
        · exact hcontent.2.2 rfl
      refine h.of_ne_closing ?_ hcoherent rfl rfl ?_ Iff.rfl rfl (fun _ => ?_) ?_
      · rcases htoken with rfl | rfl <;> simp
      · rcases htoken with rfl | rfl <;> simp
      · exact ⟨Or.inl, fun hor => hor.resolve_right fun hret => hnone hret.1.2⟩
      · exact ⟨Or.inl, fun hor => hor.resolve_right fun hret => hnone hret.2⟩

theorem tracks_run (hrun : run {} ts = .ok b) : Tracks ts b :=
  run_induction (motive := Tracks) tracks_empty
    (fun _ _ _ _ _ hadv h => h.advance hadv) hrun

end Builder

/-! ## The first fault -/

namespace Faults

variable {ts rest : List Token} {token : Token} {b : Builder}
  {e e' : StructureError} {i : Nat}

/-- The error that a position at fault is reported with. -/
inductive FaultAt (ts : List Token) (i : Nat) : StructureError → Prop
  | unbalanced {token : Token} (htoken : ts[i]? = some token)
      (h : Unbalanced ts i) : FaultAt ts i (.unbalanced token i)
  | returnTwice (h : ReturnTwice ts i) : FaultAt ts i (.returnTwice i)

/-- One position has one fault: a return type behind an arrow is not unbalanced,
whatever the parentheses before it. -/
theorem FaultAt.unique (h : FaultAt ts i e) (h' : FaultAt ts i e') : e = e' := by
  have hexclusive : Unbalanced ts i → ¬ ReturnTwice ts i := by
    rintro ⟨_, token, htoken, hkind⟩ ⟨⟨hposition, other, hother, hcontent⟩, _⟩
    rw [htoken] at hother
    cases hother
    rcases hkind with rfl | ⟨_, hnot⟩
    · exact hcontent.1 rfl
    · exact hnot hposition
  cases h with
  | unbalanced htoken hun =>
      cases h' with
      | unbalanced htoken' _ =>
          rw [htoken] at htoken'
          cases htoken'
          rfl
      | returnTwice htwice => exact absurd htwice (hexclusive hun)
  | returnTwice htwice =>
      cases h' with
      | unbalanced _ hun => exact absurd htwice (hexclusive hun)
      | returnTwice _ => rfl

theorem FaultAt.lt_length (h : FaultAt ts i e) : i < ts.length := by
  cases h with
  | unbalanced htoken _ =>
      obtain ⟨hlt, _⟩ := List.getElem?_eq_some_iff.mp htoken
      exact hlt
  | returnTwice htwice => exact htwice.1.lt_length

theorem getElem?_here : (ts ++ token :: rest)[ts.length]? = some token := by
  simp

theorem unbalanced_here :
    Unbalanced (ts ++ token :: rest) ts.length ↔
      closesBefore ts ts.length = opensBefore ts ts.length + 1 ∧
        (token = .closing ∨
          token.IsContent ∧ ¬ IsReturnPosition ts ts.length) := by
  rw [Unbalanced, closesBefore_append (Nat.le_refl _),
    opensBefore_append (Nat.le_refl _), getElem?_here,
    isReturnPosition_append (Nat.le_refl _)]
  simp

theorem returnTwice_here :
    ReturnTwice (ts ++ token :: rest) ts.length ↔
      (IsReturnPosition ts ts.length ∧ token.IsContent) ∧ Taken ts ts.length := by
  rw [ReturnTwice, ReturnAt, taken_append (Nat.le_refl _), getElem?_here,
    isReturnPosition_append (Nat.le_refl _)]
  simp

end Faults

namespace Builder

open Faults

variable {ts : List Token} {token : Token} {b : Builder} {e : StructureError}

/-- A builder refuses the next token exactly if the token's position is at
fault. -/
theorem Tracks.refuses_iff (h : Tracks ts b) (rest : List Token) :
    b.Refuses token e ↔ FaultAt (ts ++ token :: rest) ts.length e := by
  have hnone : b.openTypes = [] ↔
      closesBefore ts ts.length = opensBefore ts ts.length + 1 := by
    have hcount := h.height
    rw [← List.length_eq_zero_iff]
    omega
  constructor
  · intro hr
    cases hr with
    | unbalanced hopen htoken =>
        rw [h.position]
        refine .unbalanced getElem?_here
          (unbalanced_here.mpr ⟨hnone.mp hopen, ?_⟩)
        rw [Token.isContent_iff, ← h.mode]
        exact htoken
    | returnTwice htoken hmode hret =>
        rw [h.position]
        refine .returnTwice
          (returnTwice_here.mpr ⟨⟨?_, ?_⟩, h.last_ret.mp hret⟩)
        · by_contra hnot
          rw [h.mode.mpr hnot] at hmode
          cases hmode
        · exact Token.isContent_iff.mpr htoken
  · intro hf
    cases hf with
    | unbalanced htoken hun =>
        rw [getElem?_here] at htoken
        cases htoken
        rw [unbalanced_here, Token.isContent_iff, ← h.mode] at hun
        rw [← h.position]
        exact .unbalanced (hnone.mpr hun.1) hun.2
    | returnTwice htwice =>
        obtain ⟨⟨hposition, hcontent⟩, htaken⟩ := returnTwice_here.mp htwice
        rw [← h.position]
        refine .returnTwice (Token.isContent_iff.mp hcontent) ?_
          (h.last_ret.mpr htaken)
        cases hmode : b.inArguments with
        | false => rfl
        | true => exact absurd hposition (h.mode.mp hmode)

/-- Tokens that are taken are not at fault, whatever comes behind them. -/
theorem not_faultAt_of_run (hrun : run {} ts = .ok b) :
    ∀ rest, ∀ j < ts.length, ∀ e, ¬ FaultAt (ts ++ rest) j e := by
  refine run_induction (motive := fun front _ =>
    ∀ rest, ∀ j < front.length, ∀ e, ¬ FaultAt (front ++ rest) j e) ?_ ?_ hrun
  · exact fun rest j hj => absurd hj (Nat.not_lt_zero j)
  · intro front token c c' hfront hadv hbefore rest j hj e hf
    rw [List.append_assoc, List.singleton_append] at hf
    rw [List.length_append, List.length_singleton] at hj
    rcases Nat.lt_succ_iff_lt_or_eq.mp hj with hlt | rfl
    · exact hbefore (token :: rest) j hlt e hf
    · have hrefused := (((tracks_run hfront).refuses_iff rest).mpr hf).step_eq
      rw [hadv.step_eq] at hrefused
      cases hrefused

/-- A run ends at the first position at fault, if there is one. -/
theorem run_ends (ts : List Token) :
    (∃ b, run {} ts = .ok b ∧ ∀ j e, ¬ FaultAt ts j e) ∨
      ∃ i e, run {} ts = .error e ∧ FaultAt ts i e ∧ ∀ j < i, ∀ e', ¬ FaultAt ts j e' := by
  cases hrun : run {} ts with
  | ok b =>
      refine Or.inl ⟨b, rfl, fun j e hf => ?_⟩
      have hnone := not_faultAt_of_run hrun [] j hf.lt_length e
      rw [List.append_nil] at hnone
      exact hnone hf
  | error e =>
      obtain ⟨front, token, rest, c, rfl, hfront, hr⟩ := run_eq_error_iff.mp hrun
      exact Or.inr ⟨front.length, e, rfl, ((tracks_run hfront).refuses_iff rest).mp hr,
        not_faultAt_of_run hfront (token :: rest)⟩

end Builder

namespace Faults

theorem exists_faultAt_iff {ts : List Token} {i : Nat} :
    (∃ e, FaultAt ts i e) ↔ Unbalanced ts i ∨ ReturnTwice ts i := by
  constructor
  · rintro ⟨e, hf⟩
    cases hf with
    | unbalanced _ h => exact Or.inl h
    | returnTwice h => exact Or.inr h
  · rintro (h | h)
    · have ⟨_, token, htoken, _⟩ := h
      exact ⟨_, .unbalanced htoken h⟩
    · exact ⟨_, .returnTwice h⟩

/-- Reading tokens fails with the error of the first position at fault. -/
theorem ofTokens_eq_error_iff_faultAt {ts : List Token} {e : StructureError} :
    Signature.ofTokens ts = .error e ↔
      ∃ i, FaultAt ts i e ∧ ∀ j < i, ∀ e', ¬ FaultAt ts j e' := by
  rw [Signature.ofTokens]
  rcases Builder.run_ends ts with ⟨b', hb', hnone⟩ | ⟨i, e', he', hf, hfirst⟩
  · rw [hb']
    constructor
    · intro h
      cases h
    · rintro ⟨i, hf, _⟩
      exact absurd hf (hnone i e)
  · rw [he']
    constructor
    · intro h
      cases h
      exact ⟨i, hf, hfirst⟩
    · rintro ⟨k, hk, hkfirst⟩
      have heq : k = i := by
        rcases Nat.lt_trichotomy k i with hlt | heq | hgt
        · exact absurd hk (hfirst k hlt e)
        · exact heq
        · exact absurd hf (hkfirst i hgt e')
      rw [heq] at hk
      rw [hk.unique hf]
      rfl

theorem exists_error_iff_faultAt {ts : List Token} :
    (∃ e, Signature.ofTokens ts = .error e) ↔ ∃ i e, FaultAt ts i e := by
  constructor
  · rintro ⟨e, he⟩
    obtain ⟨i, hf, _⟩ := ofTokens_eq_error_iff_faultAt.mp he
    exact ⟨i, e, hf⟩
  · rintro ⟨i, e, hf⟩
    rcases Builder.run_ends ts with ⟨_, _, hnone⟩ | ⟨_, e', he', _, _⟩
    · exact absurd hf (hnone i e)
    · refine ⟨e', ?_⟩
      rw [Signature.ofTokens, he']
      rfl

/-- The structural errors of a token list, by the tokens alone. Reading fails
exactly if some position is at fault, and the error names the first such position:
as unbalanced, together with its token, or as a second return type. -/
theorem ofTokens_error_iff_first_fault (ts : List Token) :
    ((∃ e, Signature.ofTokens ts = .error e) ↔
      ∃ i, Unbalanced ts i ∨ ReturnTwice ts i) ∧
    ∀ e, Signature.ofTokens ts = .error e ↔
      ∃ i, (∀ j < i, ¬ Unbalanced ts j ∧ ¬ ReturnTwice ts j) ∧
        ((Unbalanced ts i ∧ ∃ token, ts[i]? = some token ∧
            e = .unbalanced token i ∧ e.summary = "Unbalanced parentheses") ∨
          (ReturnTwice ts i ∧
            e = .returnTwice i ∧ e.summary = "Return type assigned twice")) := by
  constructor
  · rw [exists_error_iff_faultAt]
    exact exists_congr fun i => exists_faultAt_iff
  · intro e
    rw [ofTokens_eq_error_iff_faultAt]
    refine exists_congr fun i => ?_
    rw [and_comm]
    refine and_congr (forall₂_congr fun j _ => ?_) ?_
    · rw [← not_or, ← exists_faultAt_iff, not_exists]
    · constructor
      · intro hf
        cases hf with
        | unbalanced htoken h => exact Or.inl ⟨h, _, htoken, rfl, rfl⟩
        | returnTwice h => exact Or.inr ⟨h, rfl, rfl⟩
      · rintro (⟨h, token, htoken, rfl, _⟩ | ⟨h, rfl, _⟩)
        · exact .unbalanced htoken h
        · exact .returnTwice h

end Faults

end SignatureSnippets
