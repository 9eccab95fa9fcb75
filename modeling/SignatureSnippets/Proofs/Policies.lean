import Mathlib.Data.List.Forall2
import SignatureSnippets.Expansion

/-!
# Two policies, one outcome

The policy of an expander decides one thing only, what becomes of a malformed
signature: a strict expander stops with the error, a lenient one logs it and goes
on. What a signature is found to be does not depend on the policy
(`Expander.outcome`), nor does what is wrong with it (`Signature.fault?`); the policy
only says whether that stops the expander (`Expander.stop?`).

A run over a list is then known from its items: the first stop stops the run, and
without one every item has its outcome. `Logged.forEach` is opened here for that and
nowhere else.
-/

namespace SignatureSnippets

/-! ## Going through a list -/

namespace Logged

variable {α β : Type}

/-- A result that is given unless something stops it. -/
def unlessStopped (stop : Option StructureError) (a : α) : Except StructureError α :=
  match stop with
  | none => .ok a
  | some error => .error error

theorem unlessStopped_eq_ok_iff {stop : Option StructureError} {a b : α} :
    unlessStopped stop a = .ok b ↔ stop = none ∧ a = b := by
  cases stop <;> simp [unlessStopped]

theorem unlessStopped_eq_error_iff {stop : Option StructureError} {a : α}
    {error : StructureError} : unlessStopped stop a = .error error ↔ stop = some error := by
  cases stop <;> simp [unlessStopped]

variable {f : α → Logged β} {stop : α → Option StructureError} {g : α → β}

theorem forEach_cons_of_ok {x : α} {y : β} (h : (f x).result = .ok y) (xs : List α) :
    forEach f (x :: xs)
      = ⟨(forEach f xs).result.map (y :: ·), (f x).notices ++ (forEach f xs).notices⟩ := by
  rw [forEach, bind, h]
  rfl

theorem forEach_cons_of_error {x : α} {error : StructureError}
    (h : (f x).result = .error error) (xs : List α) :
    forEach f (x :: xs) = ⟨.error error, (f x).notices⟩ := by
  rw [forEach, bind, h]

/-- A run is stopped by the first of its elements that is, and gives the results of all
its elements otherwise. -/
theorem result_forEach (h : ∀ x, (f x).result = unlessStopped (stop x) (g x)) (xs : List α) :
    (forEach f xs).result = unlessStopped (xs.findSome? stop) (xs.map g) := by
  induction xs with
  | nil => rfl
  | cons x xs ih =>
      have hx := h x
      cases hstop : stop x with
      | some error =>
          rw [hstop] at hx
          rw [forEach_cons_of_error hx, List.findSome?_cons_of_isSome (by rw [hstop]; rfl), hstop]
          rfl
      | none =>
          rw [hstop] at hx
          rw [forEach_cons_of_ok hx, ih, List.findSome?_cons_of_isNone (by rw [hstop]; rfl)]
          cases xs.findSome? stop <;> rfl

theorem notices_forEach (h : ∀ x, ∃ y, (f x).result = .ok y) (xs : List α) :
    (forEach f xs).notices = xs.flatMap fun x => (f x).notices := by
  induction xs with
  | nil => rfl
  | cons x xs ih =>
      obtain ⟨y, hy⟩ := h x
      rw [forEach_cons_of_ok hy, ih, List.flatMap_cons]

/-- Whatever stops a run, it has logged a front of what its elements log. -/
theorem notices_forEach_prefix (f : α → Logged β) (xs : List α) :
    (forEach f xs).notices <+: xs.flatMap fun x => (f x).notices := by
  induction xs with
  | nil => exact List.prefix_refl _
  | cons x xs ih =>
      rw [List.flatMap_cons]
      cases hx : (f x).result with
      | error error =>
          rw [forEach_cons_of_error hx]
          exact List.prefix_append _ _
      | ok y =>
          rw [forEach_cons_of_ok hx]
          exact (List.prefix_append_right_inj _).mpr ih

end Logged

/-! ## What is said of a malformed signature -/

namespace Notice

/-- The notices that are warnings. -/
def warnings (notices : List Notice) : List Notice :=
  notices.filter fun n => n.level = .warning

theorem warnings_append (first second : List Notice) :
    warnings (first ++ second) = warnings first ++ warnings second :=
  List.filter_append _ _

theorem warnings_flatMap {α : Type} (f : α → List Notice) (xs : List α) :
    warnings (xs.flatMap f) = xs.flatMap fun x => warnings (f x) := by
  rw [warnings, List.filter_flatMap]
  rfl

end Notice

namespace StructureError

theorem details_ne_empty (error : StructureError) : error.details ≠ "" := by
  intro h
  cases error with
  | returnTwice position =>
      change _ ++ " follows an existing return type" = "" at h
      exact absurd (String.append_eq_empty_iff.mp h).2 (by decide)
  | unbalanced token position =>
      change _ ++ " follows the outermost ')'" = "" at h
      exact absurd (String.append_eq_empty_iff.mp h).2 (by decide)

theorem message_eq (error : StructureError) :
    error.message = error.summary ++ " (" ++ error.details ++ ")" := by
  rw [message, describe]
  exact error.details_ne_empty

theorem message_ne_empty (error : StructureError) : error.message ≠ "" := by
  rw [message_eq]
  intro h
  exact absurd (String.append_eq_empty_iff.mp h).2 (by decide)

end StructureError

/-! ## One signature -/

/-- What is wrong with the structure of a signature, if anything is. -/
def Signature.fault? (signature : String) : Option StructureError :=
  match Signature.parse signature with
  | .ok _ => none
  | .error error => some error

namespace Signature

variable {signature : String} {error : StructureError}

theorem fault?_eq_some_iff :
    fault? signature = some error ↔ parse signature = .error error := by
  rw [fault?]
  cases parse signature <;> simp

theorem fault?_eq_none_iff :
    fault? signature = none ↔ ∃ s, parse signature = .ok s := by
  rw [fault?]
  cases parse signature <;> simp

theorem warnings_notices (s : Signature) : Notice.warnings s.notices = [] := by
  rw [notices]
  split <;> rfl

end Signature

namespace Expander

/-- The expander with one of the two policies, wherever its own came from. -/
def under (e : Expander) (strict : Bool) : Expander :=
  { e with strict }

/-- What a signature is found to be. -/
def outcome (e : Expander) (signature : String) : Outcome :=
  match Signature.parse signature with
  | .error error => .malformed error
  | .ok s =>
    match SigType.snippet? s.type? e.style e.noise with
    | some snippet => .snippet snippet
    | none => .notAFunction

variable {signature : String} {s : Signature}

theorem outcome_of_error {error : StructureError}
    (h : Signature.parse signature = .error error) (e : Expander) :
    e.outcome signature = .malformed error := by
  rw [outcome, h]

theorem outcome_of_function {t : FnType} (h : Signature.parse signature = .ok s)
    (ht : s.type?.bind SigType.fnType? = some t) (e : Expander) :
    e.outcome signature = .snippet (t.snippet e.style e.noise) := by
  rw [outcome, h]
  dsimp only
  rw [SigType.snippet?, ht]
  rfl

theorem outcome_of_no_function (h : Signature.parse signature = .ok s)
    (ht : s.type?.bind SigType.fnType? = none) (e : Expander) :
    e.outcome signature = .notAFunction := by
  rw [outcome, h]
  dsimp only
  rw [SigType.snippet?, ht]
  rfl

/-- The expansion of an item that does not stop the expander. -/
def expansion (e : Expander) (item : String × String) : Expansion :=
  ⟨item.2, item.1, e.outcome item.2⟩

theorem error?_expansion (e : Expander) (item : String × String) :
    (e.expansion item).error? = (Signature.fault? item.2).map StructureError.message := by
  rw [expansion, outcome, Signature.fault?]
  cases Signature.parse item.2 with
  | error error => rfl
  | ok s =>
      dsimp only
      cases SigType.snippet? s.type? e.style e.noise <;> rfl

/-- What stops the expander at a signature. -/
def stop? (e : Expander) (signature : String) : Option StructureError :=
  if e.strict then Signature.fault? signature else none

theorem stop?_eq_some_iff {e : Expander} {error : StructureError} :
    e.stop? signature = some error
      ↔ e.strict = true ∧ Signature.parse signature = .error error := by
  rw [stop?, ← Signature.fault?_eq_some_iff]
  cases e.strict <;> simp

theorem result_expand (e : Expander) (item : String × String) :
    (e.expand item.2 item.1).result
      = Logged.unlessStopped (e.stop? item.2) (e.expansion item) := by
  rw [expand, stop?, Signature.fault?, expansion, outcome]
  cases Signature.parse item.2 with
  | error error => cases e.strict <;> rfl
  | ok s =>
      dsimp only
      cases SigType.snippet? s.type? e.style e.noise <;> cases e.strict <;> rfl

/-- A signature that is a function type stops no expander. -/
theorem result_expand_of_function {e : Expander} {t : FnType}
    (h : Signature.parse signature = .ok s)
    (ht : s.type?.bind SigType.fnType? = some t) (name : String) :
    (e.expand signature name).result
      = .ok ⟨signature, name, .snippet (t.snippet e.style e.noise)⟩ := by
  have hstop : e.stop? signature = none := by
    rw [stop?, Signature.fault?, h]
    exact ite_self _
  rw [e.result_expand (name, signature), hstop, expansion, outcome_of_function h ht]
  rfl

/-- An expansion warns of a malformed signature, unless that stops the expander. -/
theorem warnings_expand (e : Expander) (signature name : String) :
    Notice.warnings (e.expand signature name).notices
      = if e.strict then []
        else ((Signature.fault? signature).map (.malformed signature)).toList := by
  rw [expand, Signature.fault?]
  cases Signature.parse signature with
  | error error => cases e.strict <;> rfl
  | ok s =>
      have hs := s.warnings_notices
      dsimp only
      cases SigType.snippet? s.type? e.style e.noise with
      | some snippet => cases e.strict <;> exact hs
      | none =>
          have hall : Notice.warnings (s.notices ++ [.notAFunction signature]) = [] := by
            rw [Notice.warnings_append, hs]
            rfl
          cases e.strict <;> exact hall

/-! ## A batch -/

theorem result_expandAll (e : Expander) (items : List (String × String)) :
    (e.expandAll items).result
      = Logged.unlessStopped (items.findSome? fun item => e.stop? item.2)
          (items.map e.expansion) :=
  Logged.result_forEach e.result_expand items

end Expander

/-- An expansion tells what its item, a name and a signature, is found to be. -/
structure Expansion.Reports (item : String × String) (x : Expansion) : Prop where
  signature : x.signature = item.2
  name : x.name = item.1
  exclusive : x.snippet? = none ∨ x.error? = none
  completion : x.completion =
    match x.snippet? with
    | some snippet => item.1 ++ snippet
    | none => item.1
  tabStops : x.snippet? = none → x.tabStops = 0
  snippet_iff : x.snippet?.isSome ↔
    ∃ s t, Signature.parse item.2 = .ok s ∧ s.type?.bind SigType.fnType? = some t
  error_iff : ∀ text, x.error? = some text ↔
    ∃ error, Signature.parse item.2 = .error error ∧ text = error.message
  error_ne_empty : x.error? ≠ some ""

namespace Expander

theorem expansion_reports (e : Expander) (item : String × String) :
    (e.expansion item).Reports item := by
  rw [expansion]
  cases hparse : Signature.parse item.2 with
  | error error =>
      rw [outcome_of_error hparse]
      refine ⟨rfl, rfl, .inl rfl, String.append_empty, fun _ => rfl, ?_, ?_, ?_⟩
      · simp [Expansion.snippet?, hparse]
      · simp [Expansion.error?, hparse, eq_comm]
      · exact fun h => error.message_ne_empty (Option.some.inj h)
  | ok s =>
      cases ht : s.type?.bind SigType.fnType? with
      | none =>
          rw [outcome_of_no_function hparse ht]
          refine ⟨rfl, rfl, .inl rfl, String.append_empty, fun _ => rfl, ?_, ?_, ?_⟩
          · simp [Expansion.snippet?, hparse, ht]
          · simp [Expansion.error?, hparse]
          · nofun
      | some t =>
          rw [outcome_of_function hparse ht]
          refine ⟨rfl, rfl, .inr rfl, rfl, nofun, ?_, ?_, ?_⟩
          · simp [Expansion.snippet?, hparse, ht]
          · simp [Expansion.error?, hparse]
          · nofun

/-- How the runs of an expander under the two policies compare, over the same items. -/
structure PoliciesAgree (e : Expander) (items : List (String × String))
    (expansions : List Expansion) : Prop where
  lenient : ((e.under false).expandAll items).result = .ok expansions
  reports : List.Forall₂ Expansion.Reports items expansions
  stops_iff : (∃ error, ((e.under true).expandAll items).result = .error error) ↔
    ∃ item ∈ items, ∃ error, Signature.parse item.2 = .error error
  /-- What stops the strict run is the first malformed signature. -/
  stops_first : ∀ error, ((e.under true).expandAll items).result = .error error →
    ∃ before item after, items = before ++ item :: after
      ∧ (∀ other ∈ before, ∃ s, Signature.parse other.2 = .ok s)
      ∧ Signature.parse item.2 = .error error
  strict : (∀ item ∈ items, ∃ s, Signature.parse item.2 = .ok s) →
    ((e.under true).expandAll items).result = .ok expansions
  warns : Notice.warnings ((e.under false).expandAll items).notices
    = items.filterMap fun item =>
        (Signature.fault? item.2).map (.malformed item.2)
  silent : Notice.warnings ((e.under true).expandAll items).notices = []

theorem notices_expandAll_lenient (e : Expander) (items : List (String × String)) :
    Notice.warnings ((e.under false).expandAll items).notices
      = items.filterMap fun item =>
          (Signature.fault? item.2).map (.malformed item.2) := by
  have hok : ∀ item : String × String,
      ∃ x, ((e.under false).expand item.2 item.1).result = .ok x :=
    fun item => ⟨_, (e.under false).result_expand item⟩
  rw [expandAll, Logged.notices_forEach hok, Notice.warnings_flatMap,
    List.filterMap_eq_flatMap_toList]
  exact List.flatMap_congr fun item _ => (e.under false).warnings_expand item.2 item.1

theorem notices_expandAll_strict (e : Expander) (items : List (String × String)) :
    Notice.warnings ((e.under true).expandAll items).notices = [] := by
  have hfront := (Logged.notices_forEach_prefix
    (fun item : String × String => (e.under true).expand item.2 item.1) items).filter
      fun n => n.level = .warning
  have hall : Notice.warnings (items.flatMap fun item =>
      ((e.under true).expand item.2 item.1).notices) = [] := by
    rw [Notice.warnings_flatMap, List.flatMap_eq_nil_iff]
    exact fun item _ => (e.under true).warnings_expand item.2 item.1
  rw [Notice.warnings] at hall
  rw [hall, List.prefix_nil] at hfront
  exact hfront

theorem expandAll_policies (e : Expander) (items : List (String × String)) :
    ∃ expansions, e.PoliciesAgree items expansions := by
  have hlenient : (items.findSome? fun item => (e.under false).stop? item.2) = none :=
    List.findSome?_eq_none_iff.mpr fun _ _ => rfl
  have hstrict : ((e.under true).expandAll items).result
      = Logged.unlessStopped (items.findSome? fun item => Signature.fault? item.2)
          (items.map e.expansion) :=
    (e.under true).result_expandAll items
  refine ⟨items.map e.expansion, ?_, ?_, ?_, ?_, ?_, ?_, ?_⟩
  · rw [result_expandAll, hlenient]
    rfl
  · rw [List.forall₂_map_right_iff, List.forall₂_same]
    exact fun item _ => e.expansion_reports item
  · rw [hstrict]
    simp only [Logged.unlessStopped_eq_error_iff, ← Option.isSome_iff_exists,
      List.findSome?_isSome_iff, ← Signature.fault?_eq_some_iff]
  · intro error h
    rw [hstrict, Logged.unlessStopped_eq_error_iff, List.findSome?_eq_some_iff] at h
    simp only [Signature.fault?_eq_some_iff, Signature.fault?_eq_none_iff] at h
    obtain ⟨before, item, after, hsplit, hitem, hbefore⟩ := h
    exact ⟨before, item, after, hsplit, hbefore, hitem⟩
  · intro h
    rw [hstrict, Logged.unlessStopped_eq_ok_iff, List.findSome?_eq_none_iff]
    exact ⟨fun item hitem => Signature.fault?_eq_none_iff.mpr (h item hitem), rfl⟩
  · exact e.notices_expandAll_lenient items
  · exact e.notices_expandAll_strict items

end Expander

end SignatureSnippets
