import Mathlib.Data.List.TakeWhile
import SignatureSnippets.Proofs.Occurrences
import SignatureSnippets.Snippet.Template

/-!
# How the texts of arguments are cleaned

Cleaning looks at neighbours, so what becomes of a text can depend on the texts
around it. It does not where a text does not end in a colon, and it does in one
way only where a label stands before a callback. Both are lemmas about the front of
a list here, and going through a list with them is left to whoever knows what the
list is made of.

What is not joined is then looked at on its own, and only what stands before the
first colon is kept, unless it is the placeholder of a callback.

Two things hold of any list. What is left of a text is the front of it, so whatever
passes from texts to their fronts passes to all that cleaning leaves
(`forall_mem_clean`). And a placeholder is neither cut nor lost, so a selection of
nothing but placeholders is the same before and after
(`SelectsCallbacks.filter_clean`).
-/

namespace SignatureSnippets

namespace Names

variable {left right text : String} {rest : List String}

/-! ## Joining -/

theorem joinPairs_keep {α : Type} {join : α → α → Option α} {a : α}
    (h : ∀ b, join a b = none) (items : List α) :
    joinPairs join (a :: items) = a :: joinPairs join items := by
  cases items with
  | nil => rfl
  | cons b items => rw [joinPairs, h b]

theorem joinPairs_join {α : Type} {join : α → α → Option α} {a b joined : α}
    (h : join a b = some joined) (items : List α) :
    joinPairs join (a :: b :: items) = joined :: joinPairs join items := by
  rw [joinPairs, h]

theorem joinLabel_eq_none (h : left.toList.getLast? ≠ some ':') :
    joinLabel left right = none := by
  rw [joinLabel, if_neg h, ite_self]

/-- A callback's placeholder takes the place of its label. -/
theorem joinLabel_callback (hleft : left.toList.getLast? = some ':')
    (hright : isCallback right = true) : joinLabel left right = some right := by
  have hne : right ≠ "" := by
    rintro rfl
    exact absurd hright (by decide)
  rw [joinLabel, if_neg hne, if_pos hleft, if_pos hright]

/-! ## Cutting off types -/

theorem isCallback_append (params body : String) :
    isCallback (callbackOpening ++ params ++ body) = true := by
  rw [isCallback, String.append_assoc, String.toList_append,
    List.isPrefixOf_iff_prefix]
  exact List.prefix_append _ _

/-- No placeholder is a label. -/
theorem getLast?_append_body (text : String) :
    (text ++ String.ofList [')', ' ', '\x7b', Marker.secondary.char, '\x7d']).toList.getLast?
      ≠ some ':' := by
  rw [String.toList_append, String.toList_ofList, List.getLast?_append]
  show some '\x7d' ≠ some ':'
  decide

theorem not_isCallback (h : '(' ∉ text.toList) : isCallback text = false := by
  rw [Bool.eq_false_iff]
  intro hcallback
  rw [isCallback, List.isPrefixOf_iff_prefix] at hcallback
  exact h (hcallback.subset (by decide))

theorem stripType_callback (h : isCallback text = true) :
    stripType text = text := by
  rw [stripType, h]
  rfl

theorem stripType_name (hcolon : ':' ∉ text.toList) : stripType text = text := by
  rw [stripType]
  split
  · rfl
  · rw [List.takeWhile_eq_self_iff.mpr, String.ofList_toList]
    intro c hc
    exact decide_eq_true fun heq => hcolon (heq ▸ hc)

/-- The word that placeholders start with has no colon, so it cannot reach past one. -/
theorem isCallback_typed {name : String} (hname : isCallback name = false) (type : String) :
    isCallback (name ++ ":" ++ type) = false := by
  have hcolon : ':' ∉ callbackOpening.toList.dropLast := by decide
  have hchars : (name ++ ":" ++ type).toList = name.toList ++ ':' :: type.toList := by simp
  rw [Bool.eq_false_iff] at hname ⊢
  intro hcallback
  rw [isCallback, List.isPrefixOf_iff_prefix, hchars, Text.prefix_append_cons_iff hcolon,
    List.prefix_concat_iff] at hcallback
  rcases hcallback with heq | hpre
  · have hlast := congrArg List.getLast? heq
    rw [List.getLast?_concat] at hlast
    exact absurd hlast (by decide)
  · exact hname (List.isPrefixOf_iff_prefix.mpr hpre)

/-- Of a name with a type the name is kept. -/
theorem stripType_typed {name : String} (hne : name ≠ "")
    (hname : isCallback name = false) (hcolon : ':' ∉ name.toList) (type : String) :
    stripType (name ++ ":" ++ type) = name := by
  have hhead : (name ++ ":" ++ type).toList.head? ≠ some ':' := by
    cases hchars : name.toList with
    | nil => exact absurd (String.toList_eq_nil_iff.mp hchars) hne
    | cons c cs =>
        rw [hchars, List.mem_cons, not_or] at hcolon
        rw [String.toList_append, String.toList_append, hchars]
        exact fun heq => hcolon.1 (Option.some.inj heq).symm
  have hchars : (name ++ ":" ++ type).toList = name.toList ++ ':' :: type.toList := by
    simp
  rw [stripType, isCallback_typed hname, decide_eq_false hhead]
  show String.ofList ((name ++ ":" ++ type).toList.takeWhile (· ≠ ':')) = name
  rw [hchars, List.takeWhile_append_of_pos, List.takeWhile_cons_of_neg (by simp),
    List.append_nil, String.ofList_toList]
  intro c hc
  exact decide_eq_true fun heq => hcolon (heq ▸ hc)

/-! ## The front of a list -/

theorem map_stripType_cons (hne : text ≠ "") (joined : List String) :
    ((text :: joined).filter (· ≠ "")).map stripType
      = stripType text :: (joined.filter (· ≠ "")).map stripType := by
  rw [List.filter_cons_of_pos (by simpa using hne), List.map_cons]

theorem clean_keep (hne : text ≠ "") (hlast : text.toList.getLast? ≠ some ':') :
    clean (text :: rest) = stripType text :: clean rest := by
  rw [clean, joinPairs_keep fun _ => joinLabel_eq_none hlast, map_stripType_cons hne]
  rfl

theorem clean_singleton (hne : text ≠ "") : clean [text] = [stripType text] := by
  rw [clean, joinPairs, map_stripType_cons hne]
  rfl

/-- A text that is no callback's placeholder is dropped in favour of the label before
it. -/
theorem clean_label {label : String} (hlabel : label ≠ "") (hne : text ≠ "")
    (hplain : isCallback text = false) :
    clean ((label ++ ":") :: text :: rest) = stripType label :: clean rest := by
  have hlast : (label ++ ":").toList.getLast? = some ':' := by simp
  have hjoin : joinLabel (label ++ ":") text = some label := by
    rw [joinLabel, if_neg hne, if_pos hlast, hplain, String.toList_append]
    simp
  rw [clean, joinPairs_join hjoin, map_stripType_cons hlabel]
  rfl

/-! ## Lists of any texts -/

theorem stripType_front (text : String) :
    (stripType text).toList <+: text.toList := by
  rw [stripType]
  split
  · exact List.prefix_rfl
  · rw [String.toList_ofList]
    exact List.takeWhile_prefix _

/-- A text takes the place of its label if it is a callback's placeholder, and else
the label's name takes the place of both. -/
theorem joinLabel_cases {joined : String} (h : joinLabel left right = some joined) :
    left.toList.getLast? = some ':' ∧
      (joined = right ∨ joined = String.ofList left.toList.dropLast
        ∧ isCallback right = false) := by
  rw [joinLabel] at h
  split at h
  · cases h
  · split at h
    · next hlast =>
        split at h
        · cases h
          exact ⟨hlast, Or.inl rfl⟩
        · next hplain =>
            cases h
            exact ⟨hlast, Or.inr ⟨rfl, by simpa using hplain⟩⟩
    · cases h

section
variable {α : Type} {join : α → α → Option α}

theorem forall_mem_joinPairs {P : α → Prop}
    (hjoin : ∀ a b c, join a b = some c → P a → P b → P c) {items : List α}
    (h : ∀ a ∈ items, P a) : ∀ a ∈ joinPairs join items, P a := by
  fun_induction joinPairs join items with
  | case1 => exact h
  | case2 last => exact h
  | case3 left right rest joined hjoined ih =>
      intro a ha
      rcases List.mem_cons.mp ha with rfl | ha
      · exact hjoin left right a hjoined (h left (by simp)) (h right (by simp))
      · exact ih (fun b hb => h b (by simp [hb])) a ha
  | case4 left right rest hnone ih =>
      intro a ha
      rcases List.mem_cons.mp ha with rfl | ha
      · exact h a List.mem_cons_self
      · exact ih (fun b hb => h b (List.mem_cons_of_mem left hb)) a ha

/-- Joins that keep what is selected of two elements keep what is selected of all. -/
theorem filter_joinPairs {p : α → Bool} {items : List α}
    (h : ∀ a ∈ items, ∀ b ∈ items, ∀ c, join a b = some c →
      [c].filter p = [a, b].filter p) :
    (joinPairs join items).filter p = items.filter p := by
  fun_induction joinPairs join items with
  | case1 => rfl
  | case2 last => rfl
  | case3 left right rest joined hjoined ih =>
      have hboth := h left (by simp) right (by simp) joined hjoined
      have hrest := ih fun a ha b hb => h a (by simp [ha]) b (by simp [hb])
      show ([joined] ++ joinPairs join rest).filter p
        = ([left, right] ++ rest).filter p
      rw [List.filter_append, List.filter_append, hboth, hrest]
  | case4 left right rest hnone ih =>
      have hrest := ih fun a ha b hb =>
        h a (List.mem_cons_of_mem left ha) b (List.mem_cons_of_mem left hb)
      rw [List.filter_cons, hrest, ← List.filter_cons]

end

/-- What passes from a text to every front that can be left of it holds of all texts
that are left, if it holds of all texts. -/
theorem forall_mem_clean {P : String → Prop}
    (hfront : ∀ text front : String, P text → front.toList <+: text.toList →
      isCallback text = false ∨ text.toList.getLast? = some ':' → P front)
    {args : List String} (h : ∀ text ∈ args, P text) :
    ∀ text ∈ clean args, P text := by
  have hjoined : ∀ text ∈ joinPairs joinLabel args, P text := by
    refine forall_mem_joinPairs (fun left right joined hjoin hleft hright => ?_) h
    obtain ⟨hlast, rfl | ⟨rfl, _⟩⟩ := joinLabel_cases hjoin
    · exact hright
    · refine hfront left _ hleft ?_ (Or.inr hlast)
      rw [String.toList_ofList]
      exact List.dropLast_prefix _
  intro text htext
  obtain ⟨whole, hwhole, rfl⟩ := List.mem_map.mp htext
  have hP := hjoined whole (List.mem_filter.mp hwhole).1
  cases hcallback : isCallback whole with
  | true =>
      rw [stripType_callback hcallback]
      exact hP
  | false => exact hfront whole _ hP (stripType_front whole) (Or.inl hcallback)

/-- Of these texts nothing is selected but placeholders, and no front of a text is
selected that is not. -/
structure SelectsCallbacks (p : String → Bool) (args : List String) : Prop where
  callback : ∀ text ∈ args, p text = true → isCallback text = true
  not_label : ∀ text ∈ args, p text = true → text.toList.getLast? ≠ some ':'
  front : ∀ text front : String, p text = false → front.toList <+: text.toList →
    p front = false

variable {p : String → Bool} {args : List String}

theorem SelectsCallbacks.filter_joinPairs (h : SelectsCallbacks p args) :
    (joinPairs joinLabel args).filter p = args.filter p := by
  refine Names.filter_joinPairs fun left hleft right hright joined hjoin => ?_
  obtain ⟨hlast, hcases⟩ := joinLabel_cases hjoin
  have hpleft : p left = false :=
    Bool.eq_false_iff.mpr fun hp => h.not_label left hleft hp hlast
  rcases hcases with rfl | ⟨rfl, hplain⟩
  · exact (List.filter_cons_of_neg (by simp [hpleft])).symm
  · have hpright : p right = false := by
      refine Bool.eq_false_iff.mpr fun hp => ?_
      rw [h.callback right hright hp] at hplain
      cases hplain
    have hpjoined : p (String.ofList left.toList.dropLast) = false := by
      refine h.front left _ hpleft ?_
      rw [String.toList_ofList]
      exact List.dropLast_prefix _
    simp [hpjoined, hpleft, hpright]

/-- What is selected of the texts is selected of what is left of them: no placeholder
is cut or lost, and none comes twice. -/
theorem SelectsCallbacks.filter_clean (h : SelectsCallbacks p args) :
    (clean args).filter p = args.filter p := by
  have hkept := h.filter_joinPairs
  have hcallback : ∀ text ∈ joinPairs joinLabel args, p text = true →
      isCallback text = true := by
    intro text htext hp
    have hmem : text ∈ args.filter p := by
      rw [← hkept]
      exact List.mem_filter.mpr ⟨htext, hp⟩
    exact h.callback text (List.mem_filter.mp hmem).1 hp
  have hstrip : ∀ text ∈ joinPairs joinLabel args,
      (p (stripType text) && decide (text ≠ "")) = p text := by
    intro text htext
    cases hp : p text with
    | true =>
        have hcall := hcallback text htext hp
        have hne : text ≠ "" := by
          rintro rfl
          exact absurd hcall (by decide)
        rw [stripType_callback hcall, hp, decide_eq_true hne]
        rfl
    | false => rw [h.front text _ hp (stripType_front text), Bool.false_and]
  have hsame : ∀ text ∈ (joinPairs joinLabel args).filter p, stripType text = text := by
    intro text htext
    obtain ⟨hmem, hp⟩ := List.mem_filter.mp htext
    exact stripType_callback (hcallback text hmem hp)
  calc (clean args).filter p
      = ((joinPairs joinLabel args).filter
          (fun text => p (stripType text) && decide (text ≠ ""))).map stripType := by
        rw [clean, List.filter_map, List.filter_filter]
        rfl
    _ = ((joinPairs joinLabel args).filter p).map stripType := by
        rw [List.filter_congr hstrip]
    _ = args.filter p := by
        rw [List.map_congr_left hsame, List.map_id', hkept]

end Names

end SignatureSnippets
