import SignatureSnippets.Proofs.Conservation

/-!
# The tree only grows

What has been read is never taken back: whatever follows, the function types in
the tree keep their arguments in their places and keep the return types they have.
`SigType.Below` is that relation between a type and one that it can become.

A token changes the tree at one address, in one of two ways that only add
something, and a change that adds to the part at an address adds to the whole
(`below_modifyAt`). So every step goes up in this order and every run does. The
errors need no order: a run that has failed has stopped.
-/

namespace SignatureSnippets

/-- A type is below one that has all of it in the same places, and maybe more
arguments behind and return types where it has none. -/
inductive SigType.Below : SigType → SigType → Prop
  | name (text : String) : Below (.name text) (.name text)
  | fn {args more : List SigType} {ret other : Option SigType}
      (hlength : args.length ≤ more.length)
      (hargs : ∀ (place : Nat) (a b : SigType),
        args[place]? = some a → more[place]? = some b → Below a b)
      (hsome : ret.isSome = true → other.isSome = true)
      (hret : ∀ a b : SigType, ret = some a → other = some b → Below a b) :
      Below (.fn args ret) (.fn more other)

/-- The same of two function types. -/
def FnType.Below (t u : FnType) : Prop :=
  t.toSigType.Below u.toSigType

/-! ## An order -/

namespace SigType

mutual

theorem below_refl (t : SigType) : t.Below t := by
  match t with
  | .name text => exact .name text
  | .fn args ret =>
      refine .fn (Nat.le_refl _) ?_ id ?_
      · intro place a b ha hb
        rw [ha] at hb
        cases hb
        exact below_refl_arg args place ha
      · intro a b ha hb
        rw [ha] at hb
        cases hb
        exact below_refl_ret ret ha

theorem below_refl_arg (args : List SigType) (place : Nat) {a : SigType}
    (h : args[place]? = some a) : a.Below a := by
  match args, place with
  | [], _ => cases h
  | arg :: _, 0 =>
      cases h
      exact below_refl a
  | _ :: args, place + 1 => exact below_refl_arg args place h

theorem below_refl_ret (ret : Option SigType) {a : SigType} (h : ret = some a) :
    a.Below a := by
  match ret with
  | none => cases h
  | some t =>
      cases h
      exact below_refl a

end

theorem Below.trans {t u v : SigType} (htu : t.Below u) (huv : u.Below v) :
    t.Below v := by
  induction htu generalizing v with
  | name text => exact huv
  | @fn args more ret other hlength hargs hsome hret ihargs ihret =>
      cases huv with
      | @fn _ most _ last hlength' hargs' hsome' hret' =>
          refine .fn (Nat.le_trans hlength hlength') ?_ (hsome' ∘ hsome) ?_
          · intro place a c ha hc
            obtain ⟨hlt, _⟩ := List.getElem?_eq_some_iff.mp ha
            have hb := List.getElem?_eq_getElem (Nat.lt_of_lt_of_le hlt hlength)
            exact ihargs place a _ ha hb (hargs' place _ c hb hc)
          · intro a c ha hc
            obtain ⟨b, hb⟩ := Option.isSome_iff_exists.mp (hsome (by rw [ha]; rfl))
            exact ihret a b ha hb (hret' b c hb hc)

/-- What is above a function type is a function type. -/
theorem Below.fnType? {a b : SigType} {t : FnType} (h : a.Below b)
    (ha : a.fnType? = some t) : ∃ u, b.fnType? = some u ∧ t.Below u := by
  cases h with
  | name text => cases ha
  | fn hlength hargs hsome hret =>
      cases ha
      exact ⟨_, rfl, .fn hlength hargs hsome hret⟩

theorem below_mapFn {f : FnType → FnType} {item : SigType}
    (h : ∀ t, item.fnType? = some t → t.Below (f t)) :
    item.Below (item.mapFn f) := by
  cases item with
  | name text => exact .name text
  | fn args ret => exact h ⟨args, ret⟩ rfl

end SigType

namespace FnType

theorem below_refl (t : FnType) : t.Below t :=
  t.toSigType.below_refl

theorem Below.trans {t u v : FnType} (htu : t.Below u) (huv : u.Below v) :
    t.Below v :=
  SigType.Below.trans htu huv

/-! ## What is there stays there -/

theorem Below.child? {t u c : FnType} {step : Step} (h : t.Below u)
    (hc : t.child? step = some c) : ∃ d, u.child? step = some d ∧ c.Below d := by
  cases h with
  | fn hlength hargs hsome hret =>
      cases step with
      | arg place =>
          obtain ⟨a, ha, hfn⟩ := Option.bind_eq_some_iff.mp hc
          obtain ⟨hlt, _⟩ := List.getElem?_eq_some_iff.mp ha
          have hb := List.getElem?_eq_getElem (Nat.lt_of_lt_of_le hlt hlength)
          obtain ⟨d, hd, hbelow⟩ := (hargs place a _ ha hb).fnType? hfn
          exact ⟨d, Option.bind_eq_some_iff.mpr ⟨_, hb, hd⟩, hbelow⟩
      | ret =>
          obtain ⟨a, ha, hfn⟩ := Option.bind_eq_some_iff.mp hc
          obtain ⟨b, hb⟩ := Option.isSome_iff_exists.mp (hsome (by rw [ha]; rfl))
          obtain ⟨d, hd, hbelow⟩ := (hret a b ha hb).fnType? hfn
          exact ⟨d, Option.bind_eq_some_iff.mpr ⟨b, hb, hd⟩, hbelow⟩

theorem Below.at? {t u n : FnType} {a : Address} (h : t.Below u)
    (hn : t.at? a = some n) : ∃ m, u.at? a = some m ∧ n.Below m := by
  induction a generalizing n with
  | nil =>
      cases hn
      exact ⟨u, rfl, h⟩
  | cons step owner ih =>
      obtain ⟨o, ho, hchild⟩ := Option.bind_eq_some_iff.mp hn
      obtain ⟨p, hp, hop⟩ := ih ho
      obtain ⟨m, hm, hbelow⟩ := hop.child? hchild
      exact ⟨m, Option.bind_eq_some_iff.mpr ⟨p, hp, hm⟩, hbelow⟩

/-! ## Changes that only add -/

theorem below_addArg (item : SigType) (t : FnType) : t.Below (t.addArg item) := by
  refine .fn ?_ ?_ id ?_
  · rw [addArg, List.length_append]
    exact Nat.le_add_right _ _
  · intro place a b ha hb
    obtain ⟨hlt, _⟩ := List.getElem?_eq_some_iff.mp ha
    rw [addArg, List.getElem?_append_left hlt, ha] at hb
    cases hb
    exact a.below_refl
  · intro a b ha hb
    rw [addArg, ha] at hb
    cases hb
    exact a.below_refl

theorem below_setRet {t : FnType} (h : t.ret = none) (item : SigType) :
    t.Below (t.setRet item) := by
  refine .fn (Nat.le_refl _) ?_ (fun _ => rfl) ?_
  · intro place a b ha hb
    rw [setRet, ha] at hb
    cases hb
    exact a.below_refl
  · intro a b ha hb
    rw [h] at ha
    cases ha

theorem below_modifyChild {step : Step} {f : FnType → FnType} {t : FnType}
    (h : ∀ c, t.child? step = some c → c.Below (f c)) :
    t.Below (t.modifyChild step f) := by
  cases step with
  | arg place =>
      refine .fn (Nat.le_of_eq (List.length_modify ..).symm) ?_ id ?_
      · intro here a b ha hb
        rw [modifyChild, List.getElem?_modify, ha] at hb
        cases hb
        show a.Below (if place = here then a.mapFn f else a)
        split
        · next hplace =>
            refine SigType.below_mapFn fun c hc => h c ?_
            rw [child?, hplace, ha]
            exact hc
        · exact a.below_refl
      · intro a b ha hb
        rw [modifyChild, ha] at hb
        cases hb
        exact a.below_refl
  | ret =>
      refine .fn (Nat.le_refl _) ?_ ?_ ?_
      · intro place a b ha hb
        rw [modifyChild, ha] at hb
        cases hb
        exact a.below_refl
      · intro hsome
        rw [modifyChild, Option.isSome_map]
        exact hsome
      · intro a b ha hb
        rw [modifyChild, ha] at hb
        cases hb
        refine SigType.below_mapFn fun c hc => h c ?_
        rw [child?, ha]
        exact hc

/-- A change that adds to the part at an address adds to the whole. -/
theorem below_modifyAt {a : Address} {f : FnType → FnType} {t : FnType}
    (h : ∀ n, t.at? a = some n → n.Below (f n)) : t.Below (t.modifyAt a f) := by
  induction a generalizing f with
  | nil => exact h t rfl
  | cons step owner ih =>
      refine ih fun n hn => below_modifyChild fun c hc => h c ?_
      rw [at?, hn]
      exact hc

end FnType

/-! ## Runs -/

namespace Builder

theorem Advance.root_below {b b' : Builder} {token : Token}
    (h : b.Advance token b') : b.root.Below b'.root := by
  cases h with
  | @argument _ item _ _ _ _ _ =>
      exact FnType.below_modifyAt fun n _ => n.below_addArg item
  | @result _ item _ _ hret =>
      exact FnType.below_modifyAt fun n hn =>
        FnType.below_setRet (ret_eq_none hn hret) item
  | close _ => exact b.root.below_refl
  | skip _ => exact b.root.below_refl

theorem root_below_run {b b' : Builder} {tokens : List Token}
    (h : b.run tokens = .ok b') : b.root.Below b'.root :=
  run_induction (motive := fun _ c => b.root.Below c.root) b.root.below_refl
    (fun _ _ _ _ _ hadv hbelow => hbelow.trans hadv.root_below) h

end Builder

namespace Signature

/-- More tokens only add to the tree that the first ones were read as. Where the
first ones are refused, they are refused in the same way with more behind them;
where all are read, the first ones alone are read too, and every function type in
their tree is there in the whole tree at its address, with its arguments in their
places and with its return type if it had one. -/
theorem ofTokens_append_grows (tokens more : List Token) :
    (∀ e, ofTokens tokens = .error e → ofTokens (tokens ++ more) = .error e) ∧
    ∀ s, ofTokens (tokens ++ more) = .ok s →
      ∃ s₀, ofTokens tokens = .ok s₀ ∧ s₀.root.Below s.root ∧
        ∀ a n, s₀.root.at? a = some n → ∃ m, s.root.at? a = some m ∧ n.Below m := by
  cases hrun : Builder.run {} tokens with
  | error e =>
      have hfail : Builder.run {} (tokens ++ more) = .error e := by
        rw [Builder.run_append, hrun]
        rfl
      constructor
      · intro e' he'
        rw [ofTokens, hrun] at he'
        cases he'
        rw [ofTokens, hfail]
        rfl
      · intro s hs
        rw [ofTokens, hfail] at hs
        cases hs
  | ok b =>
      have hread : ofTokens tokens = .ok ⟨b.root, b.unclosed⟩ :=
        ofTokens_eq_ok_iff.mpr ⟨b, hrun, rfl⟩
      constructor
      · intro e he
        rw [hread] at he
        cases he
      · intro s hs
        obtain ⟨b', hrun', rfl⟩ := ofTokens_eq_ok_iff.mp hs
        rw [Builder.run_append, hrun] at hrun'
        have hbelow := Builder.root_below_run hrun'
        exact ⟨_, hread, hbelow, fun _ _ hn => hbelow.at? hn⟩

theorem ofTokens_append_grows_nested :
    ofTokens ([.closing, .closing] ++ [.name "a"])
        = .error (.unbalanced .closing 1) ∧
      ∃ s₀, ofTokens [.opening, .opening, .name "a"] = .ok s₀ ∧
        s₀.root.Below ⟨[], some
          (.fn [.fn [.name "a"] (some (.name "r")), .name "b"] none)⟩ := by
  constructor
  · exact (ofTokens_append_grows [.closing, .closing] [.name "a"]).1 _ (by cbv)
  · obtain ⟨s₀, hread, hbelow, _⟩ := (ofTokens_append_grows
      [.opening, .opening, .name "a"]
      [.closing, .arrow, .name "r", .comma, .name "b"]).2
      ⟨⟨[], some (.fn [.fn [.name "a"] (some (.name "r")), .name "b"] none)⟩, 1⟩
      (by cbv)
    exact ⟨s₀, hread, hbelow⟩

end Signature

end SignatureSnippets
