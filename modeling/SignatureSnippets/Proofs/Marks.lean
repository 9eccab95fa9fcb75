import Mathlib.Algebra.GroupWithZero.Nat
import SignatureSnippets.Snippet.Style

/-!
# The marks in a text

What a text with marks is rendered as depends on its marks and on the rest of it,
and most questions are about one of the two: how many tab stops there are and which
of them stand in which are questions about the marks, read off in order, and the
plain style shows the rest.
-/

namespace SignatureSnippets

namespace Marker

/-- The marks in a text, in order. -/
def inText (cs : List Char) : List Marker :=
  cs.filterMap ofChar?

variable {cs : List Char}

theorem inText_eq_nil_iff : inText cs = [] ↔ ∀ mark : Marker, mark.char ∉ cs := by
  rw [inText, List.filterMap_eq_nil_iff]
  constructor
  · intro h mark hmem
    have hnone := h mark.char hmem
    rw [ofChar?_eq_some_iff.mpr rfl] at hnone
    cases hnone
  · intro h c hc
    refine Option.eq_none_iff_forall_ne_some.mpr fun mark hmark => h mark ?_
    rw [← ofChar?_eq_some_iff.mp hmark]
    exact hc

theorem count_inText (mark : Marker) (cs : List Char) :
    (inText cs).count mark = cs.count mark.char := by
  rw [inText, List.count_filterMap]
  refine List.countP_congr fun c _ => ?_
  simp [ofChar?_eq_some_iff]

theorem inText_append (xs ys : List Char) :
    inText (xs ++ ys) = inText xs ++ inText ys :=
  List.filterMap_append

theorem inText_intercalate (texts : List String) :
    inText (", ".intercalate texts).toList
      = texts.flatMap fun text => inText text.toList := by
  induction texts with
  | nil => rfl
  | cons text texts ih =>
      cases texts with
      | nil => simp
      | cons next texts =>
          have hsep : inText ", ".toList = [] := by decide
          rw [String.intercalate_cons_cons, String.toList_append,
            String.toList_append, inText_append, inText_append, hsep,
            List.append_nil, ih]
          rfl

theorem startsTabStop_iff {c : Char} :
    startsTabStop c = true ↔ c = primaryOpen.char ∨ c = secondary.char := by
  simp [startsTabStop, ofChar?_eq_some_iff]

theorem countP_startsTabStop (cs : List Char) :
    cs.countP startsTabStop = cs.count primaryOpen.char + cs.count secondary.char := by
  induction cs with
  | nil => rfl
  | cons c cs ih =>
      have hne : primaryOpen.char ≠ secondary.char := by decide
      rw [List.countP_cons, List.count_cons, List.count_cons, ih]
      simp only [startsTabStop_iff, beq_iff_eq]
      grind

/-- Whether a text holds a mark. -/
def isIn (text : String) : Bool :=
  !(inText text.toList).isEmpty

theorem isIn_eq_false_iff {text : String} :
    isIn text = false ↔ inText text.toList = [] := by
  simp [isIn]

theorem isIn_eq_false_iff_forall {text : String} :
    isIn text = false ↔ ∀ mark : Marker, mark.char ∉ text.toList :=
  isIn_eq_false_iff.trans inText_eq_nil_iff

theorem isIn_front {text front : String} (h : isIn text = false)
    (hfront : front.toList <+: text.toList) : isIn front = false := by
  rw [isIn_eq_false_iff_forall] at h ⊢
  exact fun mark hmark => h mark (hfront.subset hmark)

/-! ## Groups -/

/-- The marks of a tab stop with a default text, where so many tab stops without one
are in that text. -/
def group (inner : Nat) : List Marker :=
  .primaryOpen :: List.replicate inner .secondary ++ [.primaryClose]

/-- Each opening has its closing before the next opening, and all other marks stand
between an opening and its closing. -/
def Grouped (marks : List Marker) : Prop :=
  ∃ inner : List Nat, marks = inner.flatMap group

theorem count_primaryOpen_groups (inner : List Nat) :
    (inner.flatMap group).count .primaryOpen = inner.length := by
  induction inner with
  | nil => rfl
  | cons n inner ih =>
      rw [List.flatMap_cons, List.count_append, ih, List.length_cons]
      simp [group, List.count_replicate, Nat.add_comm]

theorem count_secondary_groups (inner : List Nat) :
    (inner.flatMap group).count .secondary = inner.sum := by
  induction inner with
  | nil => rfl
  | cons n inner ih =>
      rw [List.flatMap_cons, List.count_append, ih, List.sum_cons]
      simp [group]

/-! ## The rest of a text -/

/-- A text without its marks. -/
def erase (cs : List Char) : List Char :=
  cs.filter fun c => (ofChar? c).isNone

theorem erase_eq_self (h : inText cs = []) : erase cs = cs := by
  rw [inText, List.filterMap_eq_nil_iff] at h
  rw [erase, List.filter_eq_self]
  intro c hc
  rw [h c hc]
  rfl

theorem erase_append (xs ys : List Char) :
    erase (xs ++ ys) = erase xs ++ erase ys :=
  List.filter_append ..

theorem erase_intercalate (texts : List String) :
    erase (", ".intercalate texts).toList
      = [',', ' '].intercalate (texts.map fun text => erase text.toList) := by
  induction texts with
  | nil => rfl
  | cons text texts ih =>
      cases texts with
      | nil => simp
      | cons next texts =>
          have hsep : erase ", ".toList = [',', ' '] := by decide
          rw [String.intercalate_cons_cons, String.toList_append,
            String.toList_append, erase_append, erase_append, hsep, ih]
          simp only [List.map_cons, List.intercalate_cons_cons]

end Marker

/-- The plain style leaves the marks out. -/
theorem MarkerStyle.renderFrom_plain (used : Nat) (cs : List Char) :
    MarkerStyle.plain.renderFrom used cs = Marker.erase cs := by
  induction cs generalizing used with
  | nil => rfl
  | cons c cs ih =>
      rw [MarkerStyle.renderFrom, Marker.erase, List.filter_cons, ← Marker.erase]
      cases Marker.ofChar? c with
      | none =>
          show [c] ++ _ = c :: _
          rw [ih]
          rfl
      | some mark => cases mark <;> exact ih _

end SignatureSnippets
