import Mathlib.Algebra.Order.Group.Multiset
import Mathlib.Data.Multiset.AddSub
import SignatureSnippets.Signature.Address
import SignatureSnippets.Signature.Token

/-!
# What a type holds

Several things said about types are sums over the tree: the names in it, how many
function types it has, how often a character occurs in its names. They are one
definition here, `SigType.sum`, with a share for each bare name and one for each
function type as its parameters, and there is one fact about them: a change at an
address that adds to the part there adds as much to the whole.

The names of a type are the sum that the other modules state their hypotheses
with.
-/

namespace SignatureSnippets

variable {M : Type} [AddCommMonoid M] {ofName : String → M} {ofFn : M}

mutual

/-- Adds up the shares of the bare names and of the function types in a type. -/
def SigType.sum (ofName : String → M) (ofFn : M) : SigType → M
  | .name text => ofName text
  | .fn args ret =>
    ofFn + (SigType.sumArgs ofName ofFn args + SigType.sumRet ofName ofFn ret)

def SigType.sumArgs (ofName : String → M) (ofFn : M) : List SigType → M
  | [] => 0
  | arg :: args => SigType.sum ofName ofFn arg + SigType.sumArgs ofName ofFn args

def SigType.sumRet (ofName : String → M) (ofFn : M) : Option SigType → M
  | none => 0
  | some type => SigType.sum ofName ofFn type

end

/-- The sum over what a function type holds, its own share left out. -/
def FnType.sum (ofName : String → M) (ofFn : M) (t : FnType) : M :=
  SigType.sumArgs ofName ofFn t.args + SigType.sumRet ofName ofFn t.ret

/-- What a token adds to a type that is being read. -/
def Token.share (ofName : String → M) (ofFn : M) : Token → M
  | .opening => ofFn
  | .name text => ofName text
  | .closing => 0
  | .arrow => 0
  | .comma => 0

/-- The bare names in a type, as often as they occur. -/
def SigType.names (type : SigType) : Multiset String :=
  type.sum (fun text => {text}) 0

def FnType.names (t : FnType) : Multiset String :=
  t.sum (fun text => {text}) 0

/-- How many function types there are inside a function type. -/
def FnType.functionTypes (t : FnType) : Nat :=
  t.sum (fun _ => 0) 1

/-! ## The names in a type -/

section
variable {args : List SigType} {ret : Option SigType} {s : String}

theorem SigType.mem_sumArgs_names :
    s ∈ sumArgs (fun text => ({text} : Multiset String)) 0 args ↔
      ∃ arg ∈ args, s ∈ arg.names := by
  induction args with
  | nil => simp [sumArgs]
  | cons arg args ih =>
      rw [sumArgs, Multiset.mem_add, ih, List.exists_mem_cons_iff]
      rfl

theorem FnType.mem_names {t : FnType} :
    s ∈ t.names ↔
      (∃ arg ∈ t.args, s ∈ arg.names) ∨ ∃ type, t.ret = some type ∧ s ∈ type.names := by
  rw [names, sum, Multiset.mem_add, SigType.mem_sumArgs_names]
  refine or_congr_right ?_
  cases t.ret with
  | none => simp [SigType.sumRet]
  | some type => simp [SigType.sumRet, SigType.names]

theorem SigType.names_fn : (SigType.fn args ret).names = FnType.names ⟨args, ret⟩ :=
  zero_add _

theorem SigType.mem_names_fn :
    s ∈ (SigType.fn args ret).names ↔
      (∃ arg ∈ args, s ∈ arg.names) ∨ ∃ t, ret = some t ∧ s ∈ t.names := by
  rw [names_fn, FnType.mem_names]

theorem FnType.mem_leaves {t : FnType} : s ∈ t.leaves ↔ .name s ∈ t.args := by
  rw [leaves, List.mem_filterMap]
  constructor
  · rintro ⟨arg, harg, hs⟩
    cases arg with
    | name text => cases hs; exact harg
    | fn args ret => cases hs
  · intro h
    exact ⟨_, h, rfl⟩

theorem FnType.mem_nested {t u : FnType} : u ∈ t.nested ↔ .fn u.args u.ret ∈ t.args := by
  rw [nested, List.mem_filterMap]
  constructor
  · rintro ⟨arg, harg, hu⟩
    cases arg with
    | name text => cases hu
    | fn args ret => cases hu; exact harg
  · intro h
    exact ⟨_, h, rfl⟩

theorem FnType.mem_names_of_mem_args {t : FnType} (h : .name s ∈ t.args) :
    s ∈ t.names :=
  mem_names.mpr (Or.inl ⟨_, h, Multiset.mem_singleton_self s⟩)

theorem FnType.names_subset_of_mem_nested {t u : FnType} (h : u ∈ t.nested) :
    u.names ⊆ t.names := by
  intro name hname
  rw [← SigType.names_fn] at hname
  exact mem_names.mpr (Or.inl ⟨_, mem_nested.mp h, hname⟩)

end

/-! ## A change adds what it adds to its part -/

theorem SigType.sum_eq_of_fnType? {item : SigType} {t : FnType}
    (h : item.fnType? = some t) :
    item.sum ofName ofFn = ofFn + t.sum ofName ofFn := by
  cases item with
  | name text => cases h
  | fn args ret =>
      cases h
      rfl

theorem SigType.sum_mapFn {extra : M} {f : FnType → FnType} {item : SigType}
    {t : FnType} (ht : item.fnType? = some t)
    (hf : (f t).sum ofName ofFn = extra + t.sum ofName ofFn) :
    (item.mapFn f).sum ofName ofFn = extra + item.sum ofName ofFn := by
  have hmap : (item.mapFn f).fnType? = some (f t) := by
    cases item with
    | name text => cases ht
    | fn args ret => cases ht; rfl
  rw [SigType.sum_eq_of_fnType? hmap, SigType.sum_eq_of_fnType? ht, hf]
  exact add_left_comm ofFn extra _

theorem SigType.sumArgs_append (args more : List SigType) :
    sumArgs ofName ofFn (args ++ more)
      = sumArgs ofName ofFn args + sumArgs ofName ofFn more := by
  induction args with
  | nil => rw [List.nil_append, sumArgs, zero_add]
  | cons arg args ih =>
      rw [List.cons_append, sumArgs, sumArgs, ih, add_assoc]

theorem SigType.sumArgs_modify {extra : M} {f : FnType → FnType}
    {args : List SigType} {place : Nat} {item : SigType} {t : FnType}
    (hitem : args[place]? = some item) (ht : item.fnType? = some t)
    (hf : (f t).sum ofName ofFn = extra + t.sum ofName ofFn) :
    sumArgs ofName ofFn (args.modify place (mapFn f))
      = extra + sumArgs ofName ofFn args := by
  induction args generalizing place with
  | nil => cases hitem
  | cons arg args ih =>
      cases place with
      | zero =>
          cases hitem
          rw [List.modify_zero_cons, sumArgs, sumArgs, sum_mapFn ht hf, add_assoc]
      | succ place =>
          rw [List.getElem?_cons_succ] at hitem
          rw [List.modify_succ_cons, sumArgs, sumArgs, ih hitem]
          exact add_left_comm _ extra _

namespace FnType

theorem sum_modifyChild {extra : M} {f : FnType → FnType} {step : Step}
    {t c : FnType} (hc : t.child? step = some c)
    (hf : (f c).sum ofName ofFn = extra + c.sum ofName ofFn) :
    (t.modifyChild step f).sum ofName ofFn = extra + t.sum ofName ofFn := by
  cases step with
  | arg place =>
      obtain ⟨item, hitem, hfn⟩ := Option.bind_eq_some_iff.mp hc
      rw [modifyChild, sum, sum, SigType.sumArgs_modify hitem hfn hf, add_assoc]
  | ret =>
      obtain ⟨item, hitem, hfn⟩ := Option.bind_eq_some_iff.mp hc
      rw [modifyChild, sum, sum, hitem, Option.map_some, SigType.sumRet,
        SigType.sumRet, SigType.sum_mapFn hfn hf]
      exact add_left_comm _ extra _

/-- A change at an address adds to the whole what it adds to the part there. -/
theorem sum_modifyAt {extra : M} {f : FnType → FnType} {a : Address}
    {t n : FnType} (hn : t.at? a = some n)
    (hf : (f n).sum ofName ofFn = extra + n.sum ofName ofFn) :
    (t.modifyAt a f).sum ofName ofFn = extra + t.sum ofName ofFn := by
  induction a generalizing f n with
  | nil =>
      cases hn
      exact hf
  | cons step owner ih =>
      obtain ⟨m, hm, hc⟩ := Option.bind_eq_some_iff.mp hn
      exact ih hm (sum_modifyChild hc hf)

theorem sum_addArg (item : SigType) (t : FnType) :
    (t.addArg item).sum ofName ofFn
      = item.sum ofName ofFn + t.sum ofName ofFn := by
  rw [addArg, sum, sum, SigType.sumArgs_append, SigType.sumArgs, SigType.sumArgs,
    add_zero, add_right_comm, add_comm]

theorem sum_setRet {t : FnType} (h : t.ret = none) (item : SigType) :
    (t.setRet item).sum ofName ofFn
      = item.sum ofName ofFn + t.sum ofName ofFn := by
  rw [setRet, sum, sum, h, SigType.sumRet, SigType.sumRet, add_zero, add_comm]

end FnType

end SignatureSnippets
