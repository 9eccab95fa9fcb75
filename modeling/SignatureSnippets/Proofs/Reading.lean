import SignatureSnippets.Proofs.Conservation

/-!
# What pieces of a signature are read as

The builder keeps its place in the tree by a stack of open function types and by
the one closed last. A piece of a signature that closes what it opens leaves the
stack as it found it, so what it is read as can be said without the stack: in an
argument list it adds arguments (`ReadsArgs`), behind an arrow it sets a return
type (`ReadsResult`), and behind a function type it may do that or nothing
(`ReadsTail`). Each of the three speaks of every builder that stands at such a
place, whatever its tree and whatever is open further out.

These are closed under the ways signatures are put together, and that is all the
reading of printed types and of parameter lists needs.
-/

namespace SignatureSnippets

namespace FnType

/-- Adds arguments behind the others. -/
def addArgs (items : List SigType) (t : FnType) : FnType :=
  { t with args := t.args ++ items }

/-- Sets the return type, or takes it away. -/
def withRet (ret : Option SigType) (t : FnType) : FnType :=
  { t with ret }

theorem modifyAt_id (a : Address) (t : FnType) : t.modifyAt a id = t := by
  have hchild : ∀ step, modifyChild step id = id := by
    intro step
    funext u
    have hmap : SigType.mapFn id = id := by
      funext item
      cases item <;> rfl
    cases step with
    | arg place => simp [modifyChild, hmap]
    | ret => simp [modifyChild, hmap]
  induction a with
  | nil => rfl
  | cons step owner ih => rw [modifyAt, hchild, ih]

theorem modifyAt_eq_self {a : Address} {f : FnType → FnType} {t : FnType}
    (h : ∀ n, t.at? a = some n → f n = n) : t.modifyAt a f = t := by
  rw [modifyAt_congr h]
  exact modifyAt_id a t

theorem modify_concat (f : SigType → SigType) (item : SigType)
    (items : List SigType) :
    (items ++ [item]).modify items.length f = items ++ [f item] := by
  induction items with
  | nil => rfl
  | cons first items ih =>
      rw [List.cons_append, List.length_cons, List.modify_succ_cons, ih]
      rfl

/-- Filling in an argument that was just added is adding it filled in. -/
theorem modifyAt_new_arg {t n : FnType} {owner : Address}
    (ho : t.at? owner = some n) (g : FnType → FnType) (item : SigType) :
    (t.modifyAt owner (.addArg item)).modifyAt (.arg n.args.length :: owner) g
      = t.modifyAt owner (.addArg (item.mapFn g)) := by
  rw [modifyAt, modifyAt_modifyAt]
  refine modifyAt_congr fun m hm => ?_
  rw [ho] at hm
  cases hm
  simp only [Function.comp, modifyChild, addArg, modify_concat]

/-- And so with a return type. -/
theorem modifyAt_new_ret (t : FnType) (owner : Address) (g : FnType → FnType)
    (item : SigType) :
    (t.modifyAt owner (.setRet item)).modifyAt (.ret :: owner) g
      = t.modifyAt owner (.setRet (item.mapFn g)) := by
  rw [modifyAt, modifyAt_modifyAt]
  rfl

end FnType

namespace Builder

/-- The builder takes the tokens, and then it has the tree `root` and the open
function types `opens` and stands where an argument goes. -/
def Reaches (b : Builder) (tokens : List Token) (root : FnType)
    (opens : List Address) : Prop :=
  ∃ b', b.run tokens = .ok b' ∧
    b'.root = root ∧ b'.openTypes = opens ∧ b'.inArguments = true

theorem reaches_nil {b : Builder} (h : b.inArguments = true) :
    b.Reaches [] b.root b.openTypes :=
  ⟨b, b.run_nil, rfl, rfl, h⟩

theorem Reaches.cons {b b' : Builder} {token : Token} {tokens : List Token}
    {root : FnType} {opens : List Address} (hadv : b.Advance token b')
    (h : b'.Reaches tokens root opens) :
    b.Reaches (token :: tokens) root opens := by
  obtain ⟨c, hc, hrest⟩ := h
  refine ⟨c, ?_, hrest⟩
  rw [run_cons_of_advance hadv]
  exact hc

theorem Reaches.append {b : Builder} {tokens more : List Token}
    {root root' : FnType} {opens opens' : List Address}
    (h : b.Reaches tokens root opens)
    (hmore : ∀ c : Builder, c.root = root → c.openTypes = opens →
      c.inArguments = true → c.Reaches more root' opens') :
    b.Reaches (tokens ++ more) root' opens' := by
  obtain ⟨c, hc, hroot, hopens, hmode⟩ := h
  obtain ⟨d, hd, hrest⟩ := hmore c hroot hopens hmode
  refine ⟨d, ?_, hrest⟩
  rw [run_append, hc]
  exact hd

end Builder

/-! ## The three kinds of places -/

open Builder

/-- In any argument list the tokens are read as these further arguments. -/
def ReadsArgs (tokens : List Token) (items : List SigType) : Prop :=
  ∀ (b : Builder) (owner : Address) (outer : List Address) (n : FnType),
    b.inArguments = true → b.openTypes = owner :: outer →
    b.root.at? owner = some n →
    b.Reaches tokens (b.root.modifyAt owner (.addArgs items)) (owner :: outer)

/-- Behind any arrow the tokens are read as this return type. -/
def ReadsResult (tokens : List Token) (item : SigType) : Prop :=
  ∀ (b : Builder) (n : FnType), b.inArguments = false →
    b.root.at? b.lastClosed = some n → n.ret = none →
    b.Reaches tokens (b.root.modifyAt b.lastClosed (.setRet item)) b.openTypes

/-- Behind any function type that was just closed the tokens are read as its
return type, or as nothing if it has none. -/
def ReadsTail (tokens : List Token) (ret : Option SigType) : Prop :=
  ∀ (b : Builder) (n : FnType), b.inArguments = true →
    b.root.at? b.lastClosed = some n → n.ret = none →
    b.Reaches tokens (b.root.modifyAt b.lastClosed (.withRet ret)) b.openTypes

/-! ## Putting pieces together -/

theorem readsArgs_nil : ReadsArgs [] [] := by
  intro b owner outer n hmode hopen hn
  have hself : b.root.modifyAt owner (.addArgs []) = b.root :=
    FnType.modifyAt_eq_self fun m _ => by simp [FnType.addArgs]
  rw [hself, ← hopen]
  exact reaches_nil hmode

theorem ReadsArgs.append {ts us : List Token} {items more : List SigType}
    (hts : ReadsArgs ts items) (hus : ReadsArgs us more) :
    ReadsArgs (ts ++ us) (items ++ more) := by
  intro b owner outer n hmode hopen hn
  refine (hts b owner outer n hmode hopen hn).append ?_
  intro c hroot hopens hc
  have hat : c.root.at? owner = some (n.addArgs items) := by
    rw [hroot, FnType.at?_modifyAt_self, hn]
    rfl
  have hboth : c.root.modifyAt owner (.addArgs more)
      = b.root.modifyAt owner (.addArgs (items ++ more)) := by
    rw [hroot, FnType.modifyAt_modifyAt]
    refine FnType.modifyAt_congr fun m _ => ?_
    simp only [Function.comp, FnType.addArgs, List.append_assoc]
  rw [← hboth]
  exact hus c owner outer _ hc hopens hat

theorem readsArgs_comma : ReadsArgs [.comma] [] := by
  intro b owner outer n hmode hopen hn
  refine Reaches.cons (.skip (Or.inr rfl)) ?_
  exact readsArgs_nil _ owner outer n rfl hopen hn

/-- A list of pieces with a comma between two of them. -/
theorem readsArgs_list {α : Type} {tokens : α → List Token}
    {args : α → List SigType} {items : List α}
    (h : ∀ a ∈ items, ReadsArgs (tokens a) (args a)) :
    ReadsArgs ([Token.comma].intercalate (items.map tokens))
      (items.flatMap args) := by
  induction items with
  | nil => exact readsArgs_nil
  | cons a items ih =>
      have ha := h a List.mem_cons_self
      have hmore := ih fun x hx => h x (List.mem_cons_of_mem a hx)
      cases items with
      | nil =>
          rw [List.map_singleton, List.intercalate_singleton,
            List.flatMap_singleton]
          exact ha
      | cons b items =>
          rw [List.map_cons, List.map_cons, List.intercalate_cons_cons,
            List.flatMap_cons, List.append_assoc]
          exact ha.append (readsArgs_comma.append hmore)

theorem readsArgs_name (text : String) :
    ReadsArgs [.name text] [.name text] := by
  intro b owner outer n hmode hopen hn
  refine Reaches.cons (.argument rfl hmode hopen) ?_
  rw [openedBy, if_neg (by simp), hopen]
  exact reaches_nil rfl

theorem readsResult_name (text : String) :
    ReadsResult [.name text] (.name text) := by
  intro b n hmode hn hret
  have hfree : b.hasRet b.lastClosed = false := by
    rw [hasRet_eq, FnType.hasRetAt_of_at? hn, hret]
    rfl
  refine Reaches.cons (.result rfl hmode hfree) ?_
  rw [openedBy, if_neg (by simp)]
  exact reaches_nil rfl

theorem readsTail_nil : ReadsTail [] none := by
  intro b n hmode hn hret
  have hself : b.root.modifyAt b.lastClosed (.withRet none) = b.root := by
    refine FnType.modifyAt_eq_self fun m hm => ?_
    rw [hn] at hm
    cases hm
    rw [FnType.withRet, ← hret]
  rw [hself]
  exact reaches_nil hmode

theorem ReadsResult.arrow {ts : List Token} {item : SigType}
    (h : ReadsResult ts item) : ReadsTail (.arrow :: ts) (some item) := by
  intro b n hmode hn hret
  refine Reaches.cons (.skip (Or.inl rfl)) ?_
  exact h _ n rfl hn hret

/-! ## Function types

A function type is put into the tree empty and filled in where it stands, which
comes to putting it there filled in. Once it stands there it makes no difference
whether it stands as an argument or as a return type. -/

theorem reaches_body {ts us : List Token} {items : List SigType}
    {ret : Option SigType} (hts : ReadsArgs ts items) (hus : ReadsTail us ret)
    {b : Builder} {here : Address} {outer : List Address}
    (hmode : b.inArguments = true) (hopen : b.openTypes = here :: outer)
    (hat : b.root.at? here = some {}) :
    b.Reaches (ts ++ .closing :: us)
      (b.root.modifyAt here fun _ => ⟨items, ret⟩) outer := by
  refine (hts b here outer {} hmode hopen hat).append ?_
  intro c hroot hopens _
  refine Reaches.cons (.close hopens) ?_
  have hfilled : c.root.at? here = some ⟨items, none⟩ := by
    rw [hroot, FnType.at?_modifyAt_self, hat]
    rfl
  have hboth : c.root.modifyAt here (.withRet ret)
      = b.root.modifyAt here fun _ => ⟨items, ret⟩ := by
    rw [hroot, FnType.modifyAt_modifyAt]
    refine FnType.modifyAt_congr fun m hm => ?_
    rw [hat] at hm
    cases hm
    rfl
  rw [← hboth]
  exact hus _ _ rfl hfilled rfl

theorem readsArgs_fn {ts us : List Token} {items : List SigType}
    {ret : Option SigType} (hts : ReadsArgs ts items)
    (hus : ReadsTail us ret) :
    ReadsArgs (.opening :: (ts ++ .closing :: us)) [.fn items ret] := by
  intro b owner outer n hmode hopen hn
  refine Reaches.cons (.argument rfl hmode hopen) ?_
  rw [nextPlace_eq hn, openedBy, if_pos rfl, hopen]
  have hnew := FnType.modifyAt_new_arg hn (fun _ => ⟨items, ret⟩) (.fn [] none)
  have hbody := reaches_body hts hus (b :=
    { root := b.root.modifyAt owner (.addArg (.fn [] none))
      openTypes := (.arg n.args.length :: owner) :: owner :: outer
      lastClosed := b.lastClosed
      inArguments := true
      position := b.position + 1 })
    rfl rfl (FnType.at?_modifyAt_addArg hn)
  rw [hnew] at hbody
  exact hbody

theorem readsResult_fn {ts us : List Token} {items : List SigType}
    {ret : Option SigType} (hts : ReadsArgs ts items)
    (hus : ReadsTail us ret) :
    ReadsResult (.opening :: (ts ++ .closing :: us)) (.fn items ret) := by
  intro b n hmode hn hret
  have hfree : b.hasRet b.lastClosed = false := by
    rw [hasRet_eq, FnType.hasRetAt_of_at? hn, hret]
    rfl
  refine Reaches.cons (.result rfl hmode hfree) ?_
  rw [openedBy, if_pos rfl]
  have hnew := FnType.modifyAt_new_ret b.root b.lastClosed
    (fun _ => ⟨items, ret⟩) (.fn [] none)
  have hbody := reaches_body hts hus (b :=
    { root := b.root.modifyAt b.lastClosed (.setRet (.fn [] none))
      openTypes := (.ret :: b.lastClosed) :: b.openTypes
      lastClosed := b.lastClosed
      inArguments := true
      position := b.position + 1 })
    rfl rfl (FnType.at?_modifyAt_setRet hn)
  rw [hnew] at hbody
  exact hbody

/-! ## Whole signatures -/

/-- What is read as a return type is read as the type of a whole signature. -/
theorem ReadsResult.ofTokens_eq {ts : List Token} {t : SigType}
    (h : ReadsResult ts t) : Signature.ofTokens ts = .ok ⟨⟨[], some t⟩, 0⟩ := by
  obtain ⟨b, hrun, hroot, hopens, _⟩ := h {} {} rfl rfl rfl
  rw [Signature.ofTokens_eq_ok_iff]
  refine ⟨b, hrun, ?_⟩
  rw [hroot, unclosed, hopens]
  rfl

end SignatureSnippets
