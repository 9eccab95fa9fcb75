import Mathlib.Logic.ExistsUnique
import SignatureSnippets.Snippet.Names

/-!
# Joining neighbours is a cut into blocks

Joining neighbours from left to right cuts a list into blocks of one or two elements: two
neighbours that join are a block, and an element that does not join with the next one is a
block of its own. Read as a condition on cuts (`GreedyCut`), this leaves no choice. Where two
cuts part for the first time, one has an element on its own that the other has in a pair, so
it would both join with its neighbour and not (`Fits.unique`).

So there is one such cut of every list, and joining gives what its blocks give. The pairs that
a join is asked about are those at the fronts of the blocks. What comes out of a join is not
among them, and neither is the second element of a pair.
-/

namespace SignatureSnippets.Names

variable {α : Type} {join other : α → α → Option α}

/-! ## Blocks -/

/-- One element, or two neighbours. -/
inductive Block (α : Type) where
  | alone (item : α)
  | pair (left right : α)

namespace Block

/-- The elements of a block. -/
def items : Block α → List α
  | .alone item => [item]
  | .pair left right => [left, right]

/-- What becomes of a block. -/
def joined? (join : α → α → Option α) : Block α → Option α
  | .alone item => some item
  | .pair left right => join left right

/-- The block is a pair that joins, or an element that does not join with the next one. -/
def FitsBefore (join : α → α → Option α) (next : Option α) : Block α → Prop
  | .alone item => ∀ right, next = some right → join item right = none
  | .pair left right => join left right ≠ none

end Block

variable {block : Block α} {blocks others : List (Block α)} {items : List α}
  {item left right : α}

theorem flatMap_alone :
    (Block.alone item :: blocks).flatMap Block.items = item :: blocks.flatMap Block.items := rfl

theorem flatMap_pair :
    (Block.pair left right :: blocks).flatMap Block.items
      = left :: right :: blocks.flatMap Block.items := rfl

/-- Every block fits in front of those behind it. -/
def Fits (join : α → α → Option α) (blocks : List (Block α)) : Prop :=
  ∀ block rest, block :: rest <:+ blocks →
    block.FitsBefore join (rest.flatMap Block.items).head?

/-- A cut of a list into blocks that fit. -/
structure GreedyCut (join : α → α → Option α) (items : List α) (blocks : List (Block α)) :
    Prop where
  items_eq : blocks.flatMap Block.items = items
  fits : Fits join blocks

theorem fits_nil : Fits join [] := by
  intro block rest h
  cases List.suffix_nil.mp h

theorem fits_cons :
    Fits join (block :: blocks) ↔
      block.FitsBefore join (blocks.flatMap Block.items).head? ∧ Fits join blocks := by
  constructor
  · intro h
    exact ⟨h block blocks List.suffix_rfl, fun first rest hsuffix =>
      h first rest (hsuffix.trans (List.suffix_cons block blocks))⟩
  · rintro ⟨hhead, htail⟩ first rest hsuffix
    rcases List.suffix_cons_iff.mp hsuffix with heq | hsuffix
    · cases heq
      exact hhead
    · exact htail first rest hsuffix

theorem GreedyCut.alone (hnext : ∀ right, items.head? = some right → join item right = none)
    (h : GreedyCut join items blocks) :
    GreedyCut join (item :: items) (.alone item :: blocks) := by
  refine ⟨by rw [flatMap_alone, h.items_eq], fits_cons.mpr ⟨?_, h.fits⟩⟩
  rw [h.items_eq]
  exact hnext

theorem GreedyCut.pair (hjoin : join left right ≠ none) (h : GreedyCut join items blocks) :
    GreedyCut join (left :: right :: items) (.pair left right :: blocks) :=
  ⟨by rw [flatMap_pair, h.items_eq], fits_cons.mpr ⟨hjoin, h.fits⟩⟩

/-! ## The one cut of a list -/

theorem exists_greedyCut (join : α → α → Option α) (items : List α) :
    ∃ blocks, GreedyCut join items blocks
      ∧ (joinPairs join items).map some = blocks.map (Block.joined? join) := by
  fun_induction joinPairs join items with
  | case1 => exact ⟨[], ⟨rfl, fits_nil⟩, rfl⟩
  | case2 last => exact ⟨[.alone last], .alone nofun ⟨rfl, fits_nil⟩, rfl⟩
  | case3 left right rest joined hjoined ih =>
      obtain ⟨blocks, hcut, hresults⟩ := ih
      refine ⟨.pair left right :: blocks, hcut.pair (by rw [hjoined]; nofun), ?_⟩
      rw [List.map_cons, List.map_cons, hresults, ← hjoined]
      rfl
  | case4 left right rest hnone ih =>
      obtain ⟨blocks, hcut, hresults⟩ := ih
      refine ⟨.alone left :: blocks, hcut.alone ?_, ?_⟩
      · intro next hnext
        cases hnext
        exact hnone
      · rw [List.map_cons, List.map_cons, hresults]
        rfl

theorem Block.items_append_ne_nil (block : Block α) (rest : List α) :
    block.items ++ rest ≠ [] := by
  cases block <;> nofun

theorem Fits.unique (h : Fits join blocks) (h' : Fits join others)
    (heq : blocks.flatMap Block.items = others.flatMap Block.items) : blocks = others := by
  induction blocks generalizing others with
  | nil =>
      cases others with
      | nil => rfl
      | cons block' others => exact absurd heq.symm (block'.items_append_ne_nil _)
  | cons block blocks ih =>
      cases others with
      | nil => exact absurd heq (block.items_append_ne_nil _)
      | cons block' others =>
          obtain ⟨hblock, hblocks⟩ := fits_cons.mp h
          obtain ⟨hblock', hothers⟩ := fits_cons.mp h'
          match block, block' with
          | .alone item, .alone item' =>
              obtain ⟨rfl, hrest⟩ := List.cons.inj heq
              rw [ih hblocks hothers hrest]
          | .pair left right, .pair left' right' =>
              obtain ⟨rfl, hmore⟩ := List.cons.inj heq
              obtain ⟨rfl, hrest⟩ := List.cons.inj hmore
              rw [ih hblocks hothers hrest]
          | .alone item, .pair left right =>
              obtain ⟨rfl, hmore⟩ := List.cons.inj heq
              exact absurd (hblock right (congrArg List.head? hmore)) hblock'
          | .pair left right, .alone item =>
              obtain ⟨rfl, hmore⟩ := List.cons.inj heq
              exact absurd (hblock' right (congrArg List.head? hmore.symm)) hblock

theorem GreedyCut.unique (h : GreedyCut join items blocks) (h' : GreedyCut join items others) :
    blocks = others :=
  h.fits.unique h'.fits (h.items_eq.trans h'.items_eq.symm)

/-! ## What a join is asked -/

/-- The first element of some block, and the element behind it. -/
def Offers (blocks : List (Block α)) (left right : α) : Prop :=
  ∃ rest, rest <:+ blocks ∧ [left, right] <+: rest.flatMap Block.items

theorem Fits.congr (hsame : ∀ left right, Offers blocks left right →
    other left right = join left right) (h : Fits join blocks) : Fits other blocks := by
  intro block rest hsuffix
  have hfits := h block rest hsuffix
  cases block with
  | alone item =>
      intro right hright
      obtain ⟨more, hmore⟩ := List.head?_eq_some_iff.mp hright
      rw [hsame item right ⟨_, hsuffix, more, by rw [List.flatMap_cons, hmore]; rfl⟩]
      exact hfits right hright
  | pair left right =>
      have hoffer : Offers blocks left right := ⟨_, hsuffix, _, rfl⟩
      show other left right ≠ none
      rw [hsame left right hoffer]
      exact hfits

theorem map_joined?_congr (hsame : ∀ left right, Offers blocks left right →
    other left right = join left right) :
    blocks.map (Block.joined? other) = blocks.map (Block.joined? join) := by
  refine List.map_congr_left fun block hblock => ?_
  obtain ⟨before, rest, rfl⟩ := List.append_of_mem hblock
  cases block with
  | alone item => rfl
  | pair left right => exact hsame left right ⟨_, List.suffix_append before _, _, rfl⟩

/-- A list has one cut into blocks that fit, and joining gives what becomes of them. It
depends on nothing but what the join says of the fronts of the blocks. -/
theorem joinPairs_greedy (join : α → α → Option α) (items : List α) :
    (∃! blocks, GreedyCut join items blocks) ∧
    ∃ blocks, GreedyCut join items blocks ∧
      (joinPairs join items).map some = blocks.map (Block.joined? join) ∧
      ∀ other : α → α → Option α,
        (∀ left right, Offers blocks left right → other left right = join left right) →
        joinPairs other items = joinPairs join items := by
  obtain ⟨blocks, hcut, hresults⟩ := exists_greedyCut join items
  refine ⟨⟨blocks, hcut, fun others hothers => hothers.unique hcut⟩, blocks, hcut, hresults, ?_⟩
  intro other hsame
  obtain ⟨others, hothers, hresults'⟩ := exists_greedyCut other items
  have hblocks : others = blocks := hothers.unique ⟨hcut.items_eq, hcut.fits.congr hsame⟩
  rw [hblocks, map_joined?_congr hsame, ← hresults] at hresults'
  exact (List.map_inj_right fun _ _ => Option.some.inj).mp hresults'

/-- A label with two colons joins with the text behind it and leaves a label, but that one is
not offered the next text. -/
theorem joinPairs_greedy_labels :
    let items := ["from::", "x", "y"]
    let other := fun left right => if left = "from:" then none else joinLabel left right
    (∀ left right, Offers [.pair "from::" "x", .alone "y"] left right →
        other left right = joinLabel left right) ∧
      joinLabel "from:" "y" = some "from" ∧ other "from:" "y" = none ∧
      joinPairs joinLabel items = ["from:", "y"] ∧ joinPairs other items = ["from:", "y"] := by
  intro items other
  have hcut : GreedyCut joinLabel items [.pair "from::" "x", .alone "y"] :=
    (GreedyCut.alone nofun ⟨rfl, fits_nil⟩).pair (by decide)
  have hsame : ∀ left right, Offers [.pair "from::" "x", .alone "y"] left right →
      other left right = joinLabel left right := by
    rintro left right ⟨rest, hsuffix, hoffer⟩
    simp only [List.suffix_cons_iff, List.suffix_nil] at hsuffix
    rcases hsuffix with rfl | rfl | rfl
    · obtain ⟨rfl, _⟩ := List.cons_prefix_cons.mp hoffer
      rfl
    · exact absurd hoffer.length_le (Nat.not_succ_le_self 1)
    · cases List.prefix_nil.mp hoffer
  obtain ⟨_, blocks, hblocks, _, hcongr⟩ := joinPairs_greedy joinLabel items
  have hresult : joinPairs other items = joinPairs joinLabel items :=
    hcongr other (hblocks.unique hcut ▸ hsame)
  exact ⟨hsame, by decide, rfl, by decide, hresult.trans (by decide)⟩

end SignatureSnippets.Names
