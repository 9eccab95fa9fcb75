import Mathlib.Data.List.Induction
import SignatureSnippets.Signature.Address

/-!
# Looking up and changing parts of a type

The builder never holds a part of the tree itself, only the address of one, and
it reaches every part through `at?` and `modifyAt`. What the proofs about it need
of these two is collected here: a change is seen at its own address, changes at
one address compose, a change is determined by what it does to the part that is
really there, and a change that leaves the children of its part in place leaves
every part in place, with the return type it had unless it is the one changed.

Addresses name the last step first, so an induction over an address takes the
steps from the inside out. That suits the first three facts. The last one
compares two addresses from the root on, and its induction runs the other way,
over the first step, which `at?_concat` and `modifyAt_concat` split off.
-/

namespace SignatureSnippets

/-! ## One type -/

namespace SigType

theorem fnType?_mapFn (f : FnType → FnType) (item : SigType) :
    (item.mapFn f).fnType? = item.fnType?.map f := by
  cases item <;> rfl

theorem mapFn_mapFn (g f : FnType → FnType) (item : SigType) :
    (item.mapFn f).mapFn g = item.mapFn (g ∘ f) := by
  cases item <;> rfl

theorem mapFn_congr {f g : FnType → FnType} {item : SigType}
    (h : ∀ t, item.fnType? = some t → f t = g t) :
    item.mapFn f = item.mapFn g := by
  cases item with
  | name text => rfl
  | fn args ret =>
      rw [mapFn, mapFn, h ⟨args, ret⟩ rfl]

end SigType

namespace FnType

/-! ## One step -/

theorem child?_modifyChild_self (step : Step) (f : FnType → FnType)
    (t : FnType) : (t.modifyChild step f).child? step = (t.child? step).map f := by
  cases step with
  | arg place =>
      simp only [child?, modifyChild, List.getElem?_modify_eq]
      cases t.args[place]? with
      | none => rfl
      | some item => exact SigType.fnType?_mapFn f item
  | ret =>
      simp only [child?, modifyChild]
      cases t.ret with
      | none => rfl
      | some item => exact SigType.fnType?_mapFn f item

theorem child?_modifyChild_of_ne {step other : Step} (h : step ≠ other)
    (f : FnType → FnType) (t : FnType) :
    (t.modifyChild step f).child? other = t.child? other := by
  cases step with
  | arg place =>
      cases other with
      | arg elsewhere =>
          have hne : place ≠ elsewhere := fun heq => h (by rw [heq])
          simp only [child?, modifyChild, List.getElem?_modify_ne _ _ hne]
      | ret => rfl
  | ret =>
      cases other with
      | arg place => rfl
      | ret => exact absurd rfl h

theorem modifyChild_modifyChild (step : Step) (g f : FnType → FnType)
    (t : FnType) :
    (t.modifyChild step f).modifyChild step g = t.modifyChild step (g ∘ f) := by
  have hmap : SigType.mapFn g ∘ SigType.mapFn f = SigType.mapFn (g ∘ f) :=
    funext (SigType.mapFn_mapFn g f)
  cases step with
  | arg place => simp only [modifyChild, List.modify_modify_eq, hmap]
  | ret => simp only [modifyChild, Option.map_map, hmap]

theorem modifyChild_congr {step : Step} {f g : FnType → FnType} {t : FnType}
    (h : ∀ c, t.child? step = some c → f c = g c) :
    t.modifyChild step f = t.modifyChild step g := by
  cases step with
  | arg place =>
      simp only [modifyChild, FnType.mk.injEq, and_true]
      refine List.ext_getElem? fun i => ?_
      rw [List.getElem?_modify, List.getElem?_modify]
      split
      · next hi =>
          subst hi
          cases hitem : t.args[place]? with
          | none => rfl
          | some item =>
              have heq : item.mapFn f = item.mapFn g :=
                SigType.mapFn_congr fun c hc =>
                  h c (by rw [child?, hitem]; exact hc)
              simp only [Option.map_eq_map, Option.map_some, heq]
      · rfl
  | ret =>
      simp only [modifyChild, FnType.mk.injEq, true_and]
      cases hitem : t.ret with
      | none => rfl
      | some item =>
          have heq : item.mapFn f = item.mapFn g :=
            SigType.mapFn_congr fun c hc => h c (by rw [child?, hitem]; exact hc)
          rw [Option.map_some, Option.map_some, heq]

/-! ## Whole addresses -/

theorem at?_append (a b : Address) (t : FnType) :
    t.at? (a ++ b) = (t.at? b).bind (at? a) := by
  induction a with
  | nil => cases hb : t.at? b <;> simp [at?, hb]
  | cons step owner ih =>
      rw [List.cons_append, at?, ih]
      cases t.at? b with
      | none => rfl
      | some n => rfl

theorem at?_concat (a : Address) (step : Step) (t : FnType) :
    t.at? (a ++ [step]) = (t.child? step).bind (at? a) := by
  rw [at?_append]
  rfl

theorem modifyAt_append (a b : Address) (f : FnType → FnType) :
    modifyAt (a ++ b) f = modifyAt b (modifyAt a f) := by
  induction a generalizing f with
  | nil => rfl
  | cons step owner ih => rw [List.cons_append, modifyAt, ih, modifyAt]

theorem modifyAt_concat (a : Address) (step : Step) (f : FnType → FnType)
    (t : FnType) :
    modifyAt (a ++ [step]) f t = t.modifyChild step (modifyAt a f) := by
  rw [modifyAt_append]
  rfl

/-- A change is seen at its own address. -/
theorem at?_modifyAt_self (a : Address) (f : FnType → FnType) (t : FnType) :
    (t.modifyAt a f).at? a = (t.at? a).map f := by
  induction a generalizing f with
  | nil => rfl
  | cons step owner ih =>
      rw [modifyAt, at?, ih, at?]
      cases t.at? owner with
      | none => rfl
      | some n => exact child?_modifyChild_self step f n

/-- Two changes at one address are one change. -/
theorem modifyAt_modifyAt (a : Address) (g f : FnType → FnType) (t : FnType) :
    (t.modifyAt a f).modifyAt a g = t.modifyAt a (g ∘ f) := by
  induction a generalizing f g with
  | nil => rfl
  | cons step owner ih =>
      have hstep : modifyChild step g ∘ modifyChild step f
          = modifyChild step (g ∘ f) :=
        funext (modifyChild_modifyChild step g f)
      rw [modifyAt, modifyAt, ih, hstep, modifyAt]

/-- A change is determined by what it makes of the part at its address. -/
theorem modifyAt_congr {a : Address} {f g : FnType → FnType} {t : FnType}
    (h : ∀ n, t.at? a = some n → f n = g n) :
    t.modifyAt a f = t.modifyAt a g := by
  induction a generalizing f g with
  | nil => exact h t rfl
  | cons step owner ih =>
      rw [modifyAt, modifyAt]
      refine ih fun n hn => modifyChild_congr fun c hc => h c ?_
      rw [at?, hn]
      exact hc

/-- What a change may do to a part without taking anything away: the function
types inside the part stay where they are and as they are. -/
def KeepsChildren (f : FnType → FnType) (t : FnType) : Prop :=
  ∀ step c, t.child? step = some c → (f t).child? step = some c

/-- A change that keeps the children of its part keeps every address, and every
part but the changed one still has a return type exactly if it had one. -/
theorem at?_modifyAt_of_keeps {o : Address} {f : FnType → FnType} {t : FnType}
    (hf : ∀ n, t.at? o = some n → KeepsChildren f n) {a : Address} {n : FnType}
    (ha : t.at? a = some n) :
    ∃ n', (t.modifyAt o f).at? a = some n' ∧
      (a ≠ o → n'.ret.isSome = n.ret.isSome) := by
  induction o using List.reverseRecOn generalizing t a n with
  | nil =>
      rcases List.eq_nil_or_concat a with rfl | ⟨a, step, rfl⟩
      · exact ⟨f t, rfl, fun hne => absurd rfl hne⟩
      · rw [List.concat_eq_append, at?_concat] at ha
        obtain ⟨c, hc, hac⟩ := Option.bind_eq_some_iff.mp ha
        refine ⟨n, ?_, fun _ => rfl⟩
        rw [List.concat_eq_append, at?_concat, modifyAt, hf t rfl step c hc]
        exact hac
  | append_singleton o here ih =>
      rcases List.eq_nil_or_concat a with rfl | ⟨a, step, rfl⟩
      · cases ha
        refine ⟨_, rfl, fun _ => ?_⟩
        rw [modifyAt_concat]
        cases here <;> simp [modifyChild]
      · rw [List.concat_eq_append, at?_concat] at ha
        obtain ⟨c, hc, hac⟩ := Option.bind_eq_some_iff.mp ha
        rw [List.concat_eq_append, modifyAt_concat, at?_concat]
        by_cases hstep : here = step
        · subst hstep
          have hin : ∀ m, c.at? o = some m → KeepsChildren f m := by
            intro m hm
            refine hf m ?_
            rw [at?_concat, hc]
            exact hm
          obtain ⟨n', hn', hret⟩ := ih hin hac
          refine ⟨n', ?_, fun hne => hret fun heq => hne (by rw [heq])⟩
          rw [child?_modifyChild_self, hc]
          exact hn'
        · refine ⟨n, ?_, fun _ => rfl⟩
          rw [child?_modifyChild_of_ne hstep, hc]
          exact hac

end FnType

end SignatureSnippets
