import Mathlib.Data.List.Forall2
import Mathlib.Data.List.NodupEquivFin
import SignatureSnippets.Proofs.Cleaning

/-!
# What is left after cleaning

Cleaning turns texts into names. What counts as a name is said by `IsName`: a placeholder
and a text that starts with a colon are taken as they are, and any other text is one only
without a colon. Cutting off the type makes a name of any text and leaves a name alone, so
of the two passes the second takes care of the names by itself.

The first pass is what decides where a name comes from. It puts one of two neighbours in
the place of both, whole or without its last character, so the names are fronts of texts
that stand in the list in the same order (`fronts_clean`).

Cleaning names once more changes nothing unless one of them is a label, that is, ends with
a colon (`clean_eq_self`). The second pass cuts the last colon off every text but those that
it leaves alone, so a name can be a label only where a text starts with a colon, or starts
like a placeholder and ends with a colon.
-/

namespace SignatureSnippets.Names

variable {name text : String} {names args : List String}

/-! ## Names -/

/-- What the second pass leaves alone. -/
def IsName (text : String) : Prop :=
  isCallback text = true ∨ text.toList.head? = some ':' ∨ ':' ∉ text.toList

theorem stripType_cut (hcallback : isCallback text = false)
    (hhead : text.toList.head? ≠ some ':') :
    (stripType text).toList = text.toList.takeWhile (· ≠ ':') := by
  rw [stripType, hcallback, decide_eq_false hhead]
  exact String.toList_ofList

theorem isName_stripType (text : String) : IsName (stripType text) := by
  by_cases hcallback : isCallback text = true
  · rw [stripType_callback hcallback]
    exact Or.inl hcallback
  · by_cases hhead : text.toList.head? = some ':'
    · rw [stripType, decide_eq_true hhead, Bool.or_true, if_pos rfl]
      exact Or.inr (Or.inl hhead)
    · refine Or.inr (Or.inr fun hmem => ?_)
      rw [stripType_cut (by simpa using hcallback) hhead] at hmem
      simpa using List.mem_takeWhile_imp hmem

theorem IsName.stripType_eq (h : IsName text) : stripType text = text := by
  rcases h with hcallback | hhead | hcolon
  · exact stripType_callback hcallback
  · rw [stripType, decide_eq_true hhead, Bool.or_true, if_pos rfl]
  · exact stripType_name hcolon

theorem stripType_ne_empty (h : text ≠ "") : stripType text ≠ "" := by
  by_cases hcallback : isCallback text = true
  · rwa [stripType_callback hcallback]
  · by_cases hhead : text.toList.head? = some ':'
    · rwa [IsName.stripType_eq (Or.inr (Or.inl hhead))]
    · intro hempty
      have hcut := stripType_cut (by simpa using hcallback) hhead
      rw [hempty] at hcut
      cases hchars : text.toList with
      | nil => exact h (String.toList_eq_nil_iff.mp hchars)
      | cons c cs =>
          rw [hchars, List.head?_cons] at hhead
          have hc : c ≠ ':' := fun heq => hhead (by rw [heq])
          rw [hchars, List.takeWhile_cons_of_pos (by simpa using hc)] at hcut
          cases hcut

theorem isName_of_mem_clean (h : name ∈ clean args) : name ≠ "" ∧ IsName name := by
  obtain ⟨text, htext, rfl⟩ := List.mem_map.mp h
  have hne : text ≠ "" := by simpa using (List.mem_filter.mp htext).2
  exact ⟨stripType_ne_empty hne, isName_stripType text⟩

/-! ## Where names come from -/

/-- The first text is the front of the second. -/
def Front (front whole : String) : Prop :=
  front.toList <+: whole.toList

theorem front_refl (text : String) : Front text text :=
  List.prefix_rfl

theorem front_of_joinLabel {left right joined : String}
    (h : joinLabel left right = some joined) : Front joined left ∨ Front joined right := by
  obtain ⟨_, rfl | ⟨rfl, _⟩⟩ := joinLabel_cases h
  · exact Or.inr List.prefix_rfl
  · refine Or.inl ?_
    show (String.ofList left.toList.dropLast).toList <+: left.toList
    rw [String.toList_ofList]
    exact List.dropLast_prefix _

/-- Each join comes from one of its two elements, so the results come from elements in the
order of the list. -/
theorem sublistForall₂_joinPairs {α : Type} {join : α → α → Option α} {R : α → α → Prop}
    (hself : ∀ a, R a a) (hjoin : ∀ a b c, join a b = some c → R c a ∨ R c b)
    (items : List α) : (joinPairs join items).SublistForall₂ R items := by
  fun_induction joinPairs join items with
  | case1 => exact .nil
  | case2 last => exact .cons (hself last) .nil
  | case3 left right rest joined hjoined ih =>
      rcases hjoin left right joined hjoined with hleft | hright
      · exact .cons hleft (.cons_right ih)
      · exact .cons_right (.cons hright ih)
  | case4 left right rest hnone ih => exact .cons (hself left) ih

theorem sublistForall₂_map_filter {α : Type} {p : α → Bool} {f : α → α} {R : α → α → Prop}
    (hf : ∀ a b, R a b → R (f a) b) {items more : List α} (h : items.SublistForall₂ R more) :
    ((items.filter p).map f).SublistForall₂ R more := by
  induction h with
  | nil => exact .nil
  | @cons a b items more hab h ih =>
      rw [List.filter_cons]
      split
      · exact .cons (hf a b hab) ih
      · exact .cons_right ih
  | cons_right h ih => exact .cons_right ih

theorem fronts_clean (args : List String) : (clean args).SublistForall₂ Front args := by
  have hjoined : (joinPairs joinLabel args).SublistForall₂ Front args :=
    sublistForall₂_joinPairs front_refl (fun _ _ _ => front_of_joinLabel) args
  refine sublistForall₂_map_filter (fun front whole h => ?_) hjoined
  exact (stripType_front front).trans h

/-- Elements of a list in its order have places that go up. -/
theorem exists_places {α : Type} {R : α → α → Prop} {items more : List α}
    (h : items.SublistForall₂ R more) :
    ∃ place : Fin items.length → Fin more.length,
      StrictMono place ∧ ∀ i, R (items.get i) (more.get (place i)) := by
  obtain ⟨chosen, hpairs, hsub⟩ := List.sublistForall₂_iff.mp h
  obtain ⟨place, hplace⟩ := List.sublist_iff_exists_fin_orderEmbedding_get_eq.mp hsub
  have hlength := hpairs.length_eq
  refine ⟨fun i => place (i.cast hlength), fun i j hij => place.strictMono hij, fun i => ?_⟩
  rw [← hplace]
  exact hpairs.get i.isLt (hlength ▸ i.isLt)

/-! ## Cleaning twice -/

theorem clean_eq_self (h : ∀ name ∈ names,
    name ≠ "" ∧ IsName name ∧ name.toList.getLast? ≠ some ':') : clean names = names := by
  induction names with
  | nil => rfl
  | cons name names ih =>
      obtain ⟨hne, hname, hlast⟩ := h name List.mem_cons_self
      rw [clean_keep hne hlast, hname.stripType_eq,
        ih fun other hother => h other (List.mem_cons_of_mem name hother)]

/-- A text that leaves no label behind. -/
def LeavesNoLabel (text : String) : Prop :=
  text.toList.head? ≠ some ':' ∧ ¬ (isCallback text = true ∧ text.toList.getLast? = some ':')

theorem getLast?_of_mem_clean (h : ∀ text ∈ args, LeavesNoLabel text) (hname : name ∈ clean args) :
    name.toList.getLast? ≠ some ':' := by
  have hleaves : ∀ text ∈ clean args, LeavesNoLabel text := by
    refine forall_mem_clean (fun text front htext hfront hkind => ⟨?_, ?_⟩) h
    · intro hhead
      obtain ⟨more, hmore⟩ := hfront
      refine htext.1 ?_
      rw [← hmore, List.head?_append, hhead]
      rfl
    · rintro ⟨hcallback, _⟩
      have hwhole : isCallback text = true := by
        rw [isCallback, List.isPrefixOf_iff_prefix] at hcallback ⊢
        exact hcallback.trans hfront
      rcases hkind with hplain | hlast
      · rw [hwhole] at hplain
        cases hplain
      · exact htext.2 ⟨hwhole, hlast⟩
  obtain ⟨hhead, hlabel⟩ := hleaves name hname
  rcases (isName_of_mem_clean hname).2 with hcallback | hcolon | hcolon
  · exact fun hlast => hlabel ⟨hcallback, hlast⟩
  · exact absurd hcolon hhead
  · exact fun hlast => hcolon (List.mem_of_getLast? hlast)

/-- Cleaning leaves names, each the front of a text, in the order of the texts; and a
second cleaning changes nothing if no text starts with a colon and no text that starts like
a placeholder ends with one. -/
theorem clean_leaves_names (args : List String) :
    (∀ name ∈ clean args, name ≠ "" ∧
      (isCallback name = true ∨ name.toList.head? = some ':' ∨ ':' ∉ name.toList)) ∧
    (∃ place : Fin (clean args).length → Fin args.length, StrictMono place ∧
      ∀ i, ((clean args).get i).toList <+: (args.get (place i)).toList) ∧
    ((∀ text ∈ args, text.toList.head? ≠ some ':' ∧
        ¬ (isCallback text = true ∧ text.toList.getLast? = some ':')) →
      clean (clean args) = clean args) := by
  refine ⟨fun name hname => isName_of_mem_clean hname, exists_places (fronts_clean args), ?_⟩
  intro h
  refine clean_eq_self fun name hname => ?_
  obtain ⟨hne, hkind⟩ := isName_of_mem_clean hname
  exact ⟨hne, hkind, getLast?_of_mem_clean h hname⟩

/-- Labels, one of them with two colons, a typed name and a placeholder. -/
theorem clean_leaves_names_labels :
    let args := ["elt:number", "compare:", "function(a) \x7b\x7d", "from::", "", "to::", "x:y:"]
    (∀ text ∈ args, text.toList.head? ≠ some ':' ∧
        ¬ (isCallback text = true ∧ text.toList.getLast? = some ':')) ∧
      clean args = ["elt", "function(a) \x7b\x7d", "from", "to"] ∧
      clean (clean args) = clean args := by
  intro args
  have h : ∀ text ∈ args, text.toList.head? ≠ some ':' ∧
      ¬ (isCallback text = true ∧ text.toList.getLast? = some ':') := by
    decide
  exact ⟨h, by decide, (clean_leaves_names args).2.2 h⟩

/-- A text that starts with a colon can leave a label, which a second cleaning joins. -/
example : clean ["::", "x", "y"] = [":", "y"] ∧ clean [":", "y"] = [] := by
  decide

end SignatureSnippets.Names
