import Mathlib.Algebra.GroupWithZero.Nat
import SignatureSnippets.Snippet.Style

/-!
# Rendering piece by piece

Numbers are given away from left to right over the whole of a template, so what a
piece of it is rendered as depends on how many numbers were given away before, and
on nothing else. `RendersAs` says what that is, for every such number at once, and
pieces are put together without looking at numbers again: a piece behind another
one starts where the other one's tab stops end.

Nothing here is about one style, but for the two tab stops of TextMate snippets. A
style enters through its notation for the three marks and through its escapes, and
these the other modules write out where they need them.
-/

namespace SignatureSnippets.MarkerStyle

/-- A piece of a template with so many tab stops. Where `used` numbers have been
given away before it, it is rendered as `text used`. -/
structure RendersAs (style : MarkerStyle) (piece : String) (stops : Nat)
    (text : Nat → String) : Prop where
  render_eq : ∀ used rest, style.renderFrom used (piece.toList ++ rest)
    = (text used).toList ++ style.renderFrom (used + stops) rest
  count_eq : piece.toList.countP startsTabStop = stops

variable {style : MarkerStyle} {piece more : String} {stops extra : Nat}
  {text next : Nat → String}

/-! ## Single pieces -/

theorem renderFrom_ordinary {used : Nat} {cs rest : List Char}
    (h : ∀ c ∈ cs, Marker.ofChar? c = none) :
    style.renderFrom used (cs ++ rest)
      = cs.flatMap style.escape ++ style.renderFrom used rest := by
  induction cs with
  | nil => rfl
  | cons c cs ih =>
      have hmore := ih fun d hd => h d (List.mem_cons_of_mem c hd)
      rw [List.cons_append, renderFrom, h c List.mem_cons_self]
      show style.escape c ++ style.renderFrom used (cs ++ rest) = _
      rw [hmore, List.flatMap_cons, List.append_assoc]

/-- Text without marks is escaped. -/
theorem rendersAs_ordinary (h : ∀ c ∈ piece.toList, Marker.ofChar? c = none) :
    style.RendersAs piece 0 fun _ => style.escapeText piece where
  render_eq := by
    intro used rest
    rw [renderFrom_ordinary h, escapeText, String.toList_ofList]
    rfl
  count_eq := by
    rw [List.countP_eq_zero]
    intro c hc
    rw [startsTabStop, h c hc]
    decide

/-- Text that is known is looked at character by character. -/
theorem rendersAs_literal {escaped : String}
    (h : piece.toList.all (fun c => Marker.ofChar? c = none) = true)
    (hescaped : style.escapeText piece = escaped) :
    style.RendersAs piece 0 fun _ => escaped := by
  rw [← hescaped]
  exact rendersAs_ordinary fun c hc => of_decide_eq_true (List.all_eq_true.mp h c hc)

theorem rendersAs_empty : style.RendersAs "" 0 fun _ => "" where
  render_eq := fun _ _ => rfl
  count_eq := rfl

/-- A mark is rendered in the notation of the style. -/
theorem rendersAs_secondary :
    style.RendersAs (String.ofList [Marker.secondary.char]) 1 fun used =>
      style.empty.fill (used + 1) where
  render_eq := fun _ _ => rfl
  count_eq := rfl

theorem rendersAs_primaryOpen :
    style.RendersAs (String.ofList [Marker.primaryOpen.char]) 1 fun used =>
      style.opening.fill (used + 1) where
  render_eq := fun _ _ => rfl
  count_eq := rfl

theorem rendersAs_primaryClose :
    style.RendersAs (String.ofList [Marker.primaryClose.char]) 0 fun _ =>
      style.closing where
  render_eq := fun _ _ => rfl
  count_eq := rfl

theorem fill_opening_textmate (number : Nat) :
    MarkerStyle.textmate.opening.fill number = "$\x7b" ++ toString number ++ ":" := by
  simp [MarkerStyle.opening, MarkPattern.fill, String.join]

theorem fill_empty_textmate (number : Nat) :
    MarkerStyle.textmate.empty.fill number
      = "$\x7b" ++ toString number ++ "\x7d" := by
  simp [MarkerStyle.empty, MarkPattern.fill, String.join]

/-! ## Putting pieces together -/

theorem RendersAs.congr {other : String} {count : Nat} {words : Nat → String}
    (h : style.RendersAs piece stops text) (hpiece : other = piece)
    (hcount : count = stops) (hwords : ∀ used, words used = text used) :
    style.RendersAs other count words := by
  rw [hpiece, hcount, funext hwords]
  exact h

theorem RendersAs.append (h : style.RendersAs piece stops text)
    (hmore : style.RendersAs more extra next) :
    style.RendersAs (piece ++ more) (stops + extra) fun used =>
      text used ++ next (used + stops) where
  render_eq := by
    intro used rest
    rw [String.toList_append, List.append_assoc, h.render_eq, hmore.render_eq,
      String.toList_append, List.append_assoc, Nat.add_assoc]
  count_eq := by
    rw [String.toList_append, List.countP_append, h.count_eq, hmore.count_eq]

/-- A piece made the default text of a tab stop. -/
theorem RendersAs.tabStop (h : style.RendersAs piece stops text) :
    style.RendersAs (FnType.tabStop piece) (1 + stops) fun used =>
      style.opening.fill (used + 1) ++ text (used + 1) ++ style.closing :=
  (rendersAs_primaryOpen.append h).append rendersAs_primaryClose

/-- Renders items one after the other, each from the number where the tab stops of
those before it end. -/
def renderEach {α : Type} (stops : α → Nat) (text : α → Nat → String) :
    (used : Nat) → List α → List String
  | _, [] => []
  | used, a :: items =>
    text a used :: renderEach stops text (used + stops a) items

theorem renderEach_const {α : Type} (text : α → String) (used : Nat)
    (items : List α) :
    renderEach (fun _ => 0) (fun a _ => text a) used items = items.map text := by
  induction items with
  | nil => rfl
  | cons a items ih =>
      rw [renderEach, Nat.add_zero, ih, List.map_cons]

theorem escapeText_separator : style.escapeText ", " = ", " := by
  cases style <;> rfl

/-- A list of pieces with a comma and a blank between two of them. -/
theorem rendersAs_list {α : Type} {piece : α → String} {stops : α → Nat}
    {text : α → Nat → String} {items : List α}
    (h : ∀ a ∈ items, style.RendersAs (piece a) (stops a) (text a)) :
    style.RendersAs (", ".intercalate (items.map piece)) (items.map stops).sum
      fun used => ", ".intercalate (renderEach stops text used items) := by
  induction items with
  | nil => exact rendersAs_empty
  | cons a items ih =>
      have ha := h a List.mem_cons_self
      have hmore := ih fun x hx => h x (List.mem_cons_of_mem a hx)
      cases items with
      | nil =>
          simp only [List.map_cons, List.map_nil, String.intercalate_singleton,
            renderEach, List.sum_cons, List.sum_nil, Nat.add_zero]
          exact ha
      | cons b items =>
          have hcomma : style.RendersAs ", " 0 fun _ => ", " :=
            rendersAs_literal (by decide) escapeText_separator
          have hboth := (ha.append hcomma).append hmore
          simp only [List.map_cons, String.intercalate_cons_cons, renderEach,
            List.sum_cons, Nat.add_zero] at hboth ⊢
          exact hboth

/-! ## Whole templates -/

theorem RendersAs.snippet_eq (h : style.RendersAs piece stops text) :
    Snippet.render piece style = ⟨text 0, stops⟩ := by
  have hrender := h.render_eq 0 []
  rw [List.append_nil] at hrender
  rw [Snippet.render, hrender, renderFrom, List.append_nil, String.ofList_toList,
    h.count_eq]

end SignatureSnippets.MarkerStyle
