import SignatureSnippets.Proofs.Addressing
import SignatureSnippets.Proofs.Building

/-!
# The builder's addresses stay good

The builder names parts of its tree by address, and an address is worth something
only as long as the part is there. The tree only ever grows, so an address that
was good stays good (`at?_modifyAt_of_keeps`), and the address of a new part was
free before, so the open function types stay apart from each other and from the
one closed last.

The two structural errors depend on which function types have a return type, and
that is the last part of `Coherent`: an open one has none yet, unless it is the
outermost level, which takes its return type before anything is closed.

The other modules use what one token keeps (`Coherent.advance`) and what a run keeps
(`Coherent.run`), and with them `hasRetAt_argument` and `hasRetAt_result`, which say what
new content does to the return types there are.
-/

namespace SignatureSnippets

/-! ## Where content lands

The two places content can go are the end of an argument list and an empty return
type. Neither touches a function type that is already there, and the address that
the content gets was free. -/

namespace FnType

/-- Whether the function type at an address has a return type. -/
def hasRetAt (t : FnType) (a : Address) : Bool :=
  (t.at? a).any fun n => n.ret.isSome

theorem hasRetAt_of_at? {t n : FnType} {a : Address} (h : t.at? a = some n) :
    t.hasRetAt a = n.ret.isSome := by
  rw [hasRetAt, h]
  rfl

theorem hasRetAt_modifyAt_self {t n : FnType} {o : Address}
    (ho : t.at? o = some n) (f : FnType → FnType) :
    (t.modifyAt o f).hasRetAt o = (f n).ret.isSome :=
  hasRetAt_of_at? (by rw [at?_modifyAt_self, ho]; rfl)

theorem hasRetAt_modifyAt_of_ne {t n : FnType} {o a : Address}
    {f : FnType → FnType} (hf : ∀ m, t.at? o = some m → KeepsChildren f m)
    (ha : t.at? a = some n) (hne : a ≠ o) :
    (t.modifyAt o f).hasRetAt a = t.hasRetAt a := by
  obtain ⟨n', hn', hret⟩ := at?_modifyAt_of_keeps hf ha
  rw [hasRetAt_of_at? hn', hasRetAt_of_at? ha]
  exact hret hne

theorem keepsChildren_addArg (item : SigType) (t : FnType) :
    KeepsChildren (addArg item) t := by
  intro step c hc
  cases step with
  | arg place =>
      obtain ⟨arg, harg, hfn⟩ := Option.bind_eq_some_iff.mp hc
      obtain ⟨hlt, _⟩ := List.getElem?_eq_some_iff.mp harg
      rw [child?, addArg, List.getElem?_append_left hlt, harg]
      exact hfn
  | ret => exact hc

theorem keepsChildren_setRet {t : FnType} (h : t.ret = none) (item : SigType) :
    KeepsChildren (setRet item) t := by
  intro step c hc
  cases step with
  | arg place => exact hc
  | ret =>
      rw [child?, h] at hc
      cases hc

theorem at?_arg_length {t n : FnType} {o : Address} (ho : t.at? o = some n) :
    t.at? (.arg n.args.length :: o) = none := by
  rw [at?, ho, Option.bind_some, child?, List.getElem?_eq_none (Nat.le_refl _)]
  rfl

theorem at?_ret_of_none {t n : FnType} {o : Address} (ho : t.at? o = some n)
    (h : n.ret = none) : t.at? (.ret :: o) = none := by
  rw [at?, ho, Option.bind_some, child?, h]
  rfl

theorem at?_modifyAt_addArg {t n : FnType} {o : Address} {item : SigType}
    (ho : t.at? o = some n) :
    (t.modifyAt o (.addArg item)).at? (.arg n.args.length :: o)
      = item.fnType? := by
  rw [at?, at?_modifyAt_self, ho]
  simp [child?, addArg]

theorem at?_modifyAt_setRet {t n : FnType} {o : Address} {item : SigType}
    (ho : t.at? o = some n) :
    (t.modifyAt o (.setRet item)).at? (.ret :: o) = item.fnType? := by
  rw [at?, at?_modifyAt_self, ho]
  simp [child?, setRet]

end FnType

namespace Builder

theorem hasRet_eq (b : Builder) (a : Address) :
    b.hasRet a = b.root.hasRetAt a := rfl

theorem nextPlace_eq {b : Builder} {o : Address} {n : FnType}
    (ho : b.root.at? o = some n) : b.nextPlace o = n.args.length := by
  rw [nextPlace, ho]
  rfl

theorem ret_eq_none {b : Builder} {o : Address} {n : FnType}
    (ho : b.root.at? o = some n) (h : b.hasRet o = false) : n.ret = none := by
  rw [hasRet_eq, FnType.hasRetAt_of_at? ho] at h
  simpa using h

theorem mem_openTypes {b : Builder} {a : Address} {outer : List Address}
    (hopen : b.openTypes = a :: outer) : a ∈ b.openTypes := by
  rw [hopen]
  exact List.mem_cons_self

/-! ## Coherence -/

/-- The addresses in a builder name parts of its tree, and they are apart where
the two structural errors depend on it. -/
structure Coherent (b : Builder) : Prop where
  /-- Every open function type is in the tree. -/
  open_at : ∀ a ∈ b.openTypes, ∃ n, b.root.at? a = some n
  /-- So is the one closed last. -/
  last_at : ∃ n, b.root.at? b.lastClosed = some n
  /-- No function type is open twice. -/
  nodup : b.openTypes.Nodup
  /-- The outermost level was opened first. -/
  root_below : [] ∈ b.openTypes → b.openTypes.getLast? = some []
  /-- No open function type has a return type, the outermost level apart. -/
  open_free : ∀ a ∈ b.openTypes, a ≠ [] → b.hasRet a = false
  /-- What was closed last is not open, the outermost level apart. -/
  last_closed : b.lastClosed ≠ [] → b.lastClosed ∉ b.openTypes

theorem coherent_empty : ({} : Builder).Coherent where
  open_at := by
    intro a ha
    rw [List.mem_singleton.mp ha]
    exact ⟨_, rfl⟩
  last_at := ⟨_, rfl⟩
  nodup := List.nodup_singleton _
  root_below := fun _ => rfl
  open_free := by
    intro a ha hne
    exact absurd (List.mem_singleton.mp ha) hne
  last_closed := fun h => absurd rfl h

/-- Content that leaves the tree's function types in place and takes a free
address keeps a builder coherent. -/
theorem Coherent.put {b : Builder} (hb : b.Coherent) {token : Token}
    {o : Address} {step : Step} {f : FnType → FnType} {mode : Bool}
    {position : Nat}
    (hkeep : ∀ n, b.root.at? o = some n → FnType.KeepsChildren f n)
    (hfree : b.root.at? (step :: o) = none)
    (hnew : token = .opening →
      (b.root.modifyAt o f).at? (step :: o) = some {})
    (hret : ∀ a ∈ b.openTypes, a ≠ [] →
      (b.root.modifyAt o f).hasRetAt a = b.root.hasRetAt a) :
    Coherent
      { root := b.root.modifyAt o f
        openTypes := b.openedBy token (step :: o)
        lastClosed := b.lastClosed
        inArguments := mode
        position := position } := by
  have hstay : ∀ a n, b.root.at? a = some n →
      ∃ n', (b.root.modifyAt o f).at? a = some n' := by
    intro a n ha
    obtain ⟨n', hn', _⟩ := FnType.at?_modifyAt_of_keeps hkeep ha
    exact ⟨n', hn'⟩
  have hnotOpen : (step :: o) ∉ b.openTypes := by
    intro hmem
    obtain ⟨n, hn⟩ := hb.open_at _ hmem
    rw [hfree] at hn
    cases hn
  have hopen_at : ∀ a ∈ b.openTypes,
      ∃ n, (b.root.modifyAt o f).at? a = some n := by
    intro a ha
    obtain ⟨n, hn⟩ := hb.open_at a ha
    exact hstay a n hn
  have hlast_at : ∃ n, (b.root.modifyAt o f).at? b.lastClosed = some n := by
    obtain ⟨n, hn⟩ := hb.last_at
    exact hstay _ n hn
  have hopen_free : ∀ a ∈ b.openTypes, a ≠ [] →
      (b.root.modifyAt o f).hasRetAt a = false := by
    intro a ha hne
    rw [hret a ha hne, ← hasRet_eq]
    exact hb.open_free a ha hne
  by_cases htoken : token = .opening
  · rw [openedBy, if_pos htoken]
    refine ⟨?_, hlast_at, List.nodup_cons.mpr ⟨hnotOpen, hb.nodup⟩, ?_, ?_, ?_⟩
    · intro a ha
      rcases List.mem_cons.mp ha with rfl | hmem
      · exact ⟨_, hnew htoken⟩
      · exact hopen_at a hmem
    · intro hmem
      have hroot : [] ∈ b.openTypes := by simpa using hmem
      have hlast := hb.root_below hroot
      show ((step :: o) :: b.openTypes).getLast? = some []
      rw [List.getLast?_cons, hlast]
      rfl
    · intro a ha hne
      rcases List.mem_cons.mp ha with rfl | hmem
      · exact FnType.hasRetAt_of_at? (hnew htoken)
      · exact hopen_free a hmem hne
    · intro hne hmem
      rcases List.mem_cons.mp hmem with heq | hmem
      · obtain ⟨n, hn⟩ := hb.last_at
        rw [heq, hfree] at hn
        cases hn
      · exact hb.last_closed hne hmem
  · rw [openedBy, if_neg htoken]
    exact ⟨hopen_at, hlast_at, hb.nodup, hb.root_below, hopen_free,
      hb.last_closed⟩

/-- An argument leaves every return type as it was. -/
theorem hasRetAt_argument {t n : FnType} {owner a : Address} {item : SigType}
    {m : FnType} (ho : t.at? owner = some m) (ha : t.at? a = some n) :
    (t.modifyAt owner (.addArg item)).hasRetAt a = t.hasRetAt a := by
  by_cases hne : a = owner
  · subst hne
    rw [FnType.hasRetAt_modifyAt_self ho, FnType.hasRetAt_of_at? ho]
    rfl
  · exact FnType.hasRetAt_modifyAt_of_ne
      (fun _ _ => FnType.keepsChildren_addArg item _) ha hne

/-- A return type leaves every other return type as it was. -/
theorem hasRetAt_result {b : Builder} {n : FnType} {a : Address}
    {item : SigType} (hret : b.hasRet b.lastClosed = false)
    (ha : b.root.at? a = some n) (hne : a ≠ b.lastClosed) :
    (b.root.modifyAt b.lastClosed (.setRet item)).hasRetAt a
      = b.root.hasRetAt a :=
  FnType.hasRetAt_modifyAt_of_ne
    (fun _ hm => FnType.keepsChildren_setRet (ret_eq_none hm hret) item) ha hne

theorem Coherent.advance {b b' : Builder} {token : Token} (hb : b.Coherent)
    (h : b.Advance token b') : b'.Coherent := by
  cases h with
  | @argument _ item owner outer hitem hmode hopen =>
      obtain ⟨n, hn⟩ := hb.open_at owner (mem_openTypes hopen)
      rw [nextPlace_eq hn]
      refine hb.put (fun _ _ => FnType.keepsChildren_addArg item _)
        (FnType.at?_arg_length hn) ?_ ?_
      · rintro rfl
        cases hitem
        exact FnType.at?_modifyAt_addArg hn
      · intro a ha _
        obtain ⟨m, hm⟩ := hb.open_at a ha
        exact hasRetAt_argument hn hm
  | @result _ item hitem hmode hret =>
      obtain ⟨n, hn⟩ := hb.last_at
      have hnone := ret_eq_none hn hret
      refine hb.put
        (fun _ hm => FnType.keepsChildren_setRet (ret_eq_none hm hret) item)
        (FnType.at?_ret_of_none hn hnone) ?_ ?_
      · rintro rfl
        cases hitem
        exact FnType.at?_modifyAt_setRet hn
      · intro a ha hne
        obtain ⟨m, hm⟩ := hb.open_at a ha
        refine hasRetAt_result hret hm fun heq => ?_
        exact hb.last_closed (by rw [← heq]; exact hne) (by rw [← heq]; exact ha)
  | @close closed outer hopen =>
      have hsub : ∀ a ∈ outer, a ∈ b.openTypes := by
        intro a ha
        rw [hopen]
        exact List.mem_cons_of_mem closed ha
      have hnodup := hb.nodup
      rw [hopen] at hnodup
      refine ⟨fun a ha => hb.open_at a (hsub a ha), ?_,
        (List.nodup_cons.mp hnodup).2, ?_,
        fun a ha hne => hb.open_free a (hsub a ha) hne,
        fun _ => (List.nodup_cons.mp hnodup).1⟩
      · exact hb.open_at closed (mem_openTypes hopen)
      · intro hmem
        have hlast := hb.root_below (hsub _ hmem)
        rw [hopen, List.getLast?_cons_of_ne_nil (List.ne_nil_of_mem hmem)] at hlast
        exact hlast
  | skip _ =>
      exact ⟨hb.open_at, hb.last_at, hb.nodup, hb.root_below, hb.open_free,
        hb.last_closed⟩

theorem Coherent.run {b b' : Builder} {tokens : List Token} (hb : b.Coherent)
    (h : b.run tokens = .ok b') : b'.Coherent :=
  run_induction (motive := fun _ c => c.Coherent) hb
    (fun _ _ _ _ _ hadv hc => hc.advance hadv) h

end Builder

end SignatureSnippets
