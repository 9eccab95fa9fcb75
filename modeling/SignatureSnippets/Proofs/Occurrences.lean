import Mathlib.Algebra.GroupWithZero.Nat
import Mathlib.Data.List.Basic

/-!
# How often a word occurs in a text

A text that is put together from pieces can hold a word that no piece holds, where
the end of one piece and the start of the next make it up. A character between the
two that is not in the word keeps that from happening, and so does one that the
word has at its end only, if it is counted to the first piece. These two facts are
all that is needed to count a word in a list of texts, piece by piece.
-/

namespace SignatureSnippets.Text

variable {word xs ys : List Char} {c : Char}

/-- The number of places at which a word occurs in a text. -/
def occurrences (word : List Char) : List Char → Nat
  | [] => 0
  | c :: cs => (if word <+: c :: cs then 1 else 0) + occurrences word cs

theorem prefix_append_cons_iff (hc : c ∉ word.dropLast) :
    word <+: xs ++ c :: ys ↔ word <+: xs ++ [c] := by
  have hsplit : xs ++ c :: ys = (xs ++ [c]) ++ ys := by simp
  constructor
  · intro h
    rcases Nat.lt_or_ge (xs ++ [c]).length word.length with hlt | hge
    · -- A longer word would have the character before its end.
      refine absurd ?_ hc
      have hpre : xs ++ [c] <+: word :=
        List.prefix_of_prefix_length_le (hsplit ▸ List.prefix_append _ _) h
          (Nat.le_of_lt hlt)
      obtain ⟨more, rfl⟩ := hpre
      have hne : more ≠ [] := by
        rintro rfl
        simp at hlt
      rw [List.dropLast_append_of_ne_nil hne]
      simp
    · exact List.prefix_of_prefix_length_le h (hsplit ▸ List.prefix_append _ _) hge
  · intro h
    rw [hsplit]
    exact h.trans (List.prefix_append _ _)

/-- A character that the word has at its end only parts the text behind it. -/
theorem occurrences_append_cons (hc : c ∉ word.dropLast) :
    occurrences word (xs ++ c :: ys)
      = occurrences word (xs ++ [c]) + occurrences word ys := by
  induction xs with
  | nil =>
      have hiff : word <+: c :: ys ↔ word <+: [c] :=
        @prefix_append_cons_iff word [] ys c hc
      simp only [List.nil_append, occurrences, hiff]
      omega
  | cons x xs ih =>
      have hiff : word <+: x :: (xs ++ c :: ys) ↔ word <+: x :: (xs ++ [c]) :=
        @prefix_append_cons_iff word (x :: xs) ys c hc
      simp only [List.cons_append, occurrences, hiff, ih]
      omega

theorem occurrences_concat (hword : word ≠ []) (hc : c ∉ word) :
    occurrences word (xs ++ [c]) = occurrences word xs := by
  have hiff : ∀ zs : List Char, word <+: zs ++ [c] ↔ word <+: zs := by
    intro zs
    rw [List.prefix_concat_iff]
    refine ⟨fun h => h.resolve_left ?_, Or.inr⟩
    rintro rfl
    simp at hc
  induction xs with
  | nil =>
      have hnone : ¬ word <+: [c] := by
        rw [← List.nil_append [c], hiff, List.prefix_nil]
        exact hword
      simp only [List.nil_append, occurrences, if_neg hnone]
  | cons x xs ih =>
      have hfirst := hiff (x :: xs)
      rw [List.cons_append] at hfirst
      simp only [List.cons_append, occurrences, hfirst, ih]

/-- A character that is not in the word parts the text. -/
theorem occurrences_append_cons_of_not_mem (hword : word ≠ []) (hc : c ∉ word) :
    occurrences word (xs ++ c :: ys) = occurrences word xs + occurrences word ys := by
  have hlast : c ∉ word.dropLast := fun h => hc ((List.dropLast_prefix word).subset h)
  rw [occurrences_append_cons hlast, occurrences_concat hword hc]

theorem occurrences_le_of_prefix (h : xs <+: ys) :
    occurrences word xs ≤ occurrences word ys := by
  induction xs generalizing ys with
  | nil => exact Nat.zero_le _
  | cons x xs ih =>
      obtain ⟨more, rfl⟩ := h
      have hrest := ih (List.prefix_append xs more)
      rw [List.cons_append, occurrences, occurrences]
      by_cases hword : word <+: x :: xs
      · have hlonger : word <+: x :: (xs ++ more) :=
          hword.trans (List.prefix_append (x :: xs) more)
        rw [if_pos hword, if_pos hlonger]
        omega
      · rw [if_neg hword]
        omega

/-- Characters that are not in the word, put around a text. -/
theorem occurrences_between (hword : word ≠ []) {first last : Char} (hfirst : first ∉ word)
    (hlast : last ∉ word) :
    occurrences word (first :: (xs ++ [last])) = occurrences word xs := by
  have hfront : occurrences word ([] ++ first :: (xs ++ [last])) = _ :=
    occurrences_append_cons_of_not_mem hword hfirst
  rw [List.nil_append] at hfront
  rw [hfront, occurrences_concat hword hlast, occurrences, Nat.zero_add]

theorem occurrences_eq_zero_of_prefix (h : occurrences word ys = 0) (hpre : xs <+: ys) :
    occurrences word xs = 0 :=
  Nat.le_zero.mp (h ▸ occurrences_le_of_prefix hpre)

theorem occurrences_eq_zero_iff (hword : word ≠ []) :
    occurrences word xs = 0 ↔ ¬ word <:+: xs := by
  induction xs with
  | nil =>
      refine ⟨fun _ h => hword (List.eq_nil_of_infix_nil h), fun _ => rfl⟩
  | cons x xs ih =>
      rw [occurrences, Nat.add_eq_zero_iff, ih, List.infix_cons_iff, not_or]
      refine and_congr_left fun _ => ?_
      split
      · next hpre => simp [hpre]
      · next hpre => simp [hpre]

/-- A word without commas and blanks, in texts with a comma and a blank between. -/
theorem occurrences_intercalate (hword : word ≠ []) (hcomma : ',' ∉ word)
    (hblank : ' ' ∉ word) (texts : List (List Char)) :
    occurrences word ([',', ' '].intercalate texts)
      = (texts.map (occurrences word)).sum := by
  induction texts with
  | nil => rfl
  | cons text texts ih =>
      cases texts with
      | nil => simp
      | cons next texts =>
          have hgap : occurrences word (' ' :: [',', ' '].intercalate (next :: texts))
              = occurrences word ([',', ' '].intercalate (next :: texts)) := by
            have hparted := @occurrences_append_cons_of_not_mem word []
              ([',', ' '].intercalate (next :: texts)) ' ' hword hblank
            rw [List.nil_append] at hparted
            rw [hparted, occurrences, Nat.zero_add]
          rw [List.intercalate_cons_cons, List.append_assoc]
          show occurrences word
            (text ++ ',' :: ' ' :: [',', ' '].intercalate (next :: texts)) = _
          rw [occurrences_append_cons_of_not_mem hword hcomma, hgap, ih]
          simp only [List.map_cons, List.sum_cons]

end SignatureSnippets.Text
