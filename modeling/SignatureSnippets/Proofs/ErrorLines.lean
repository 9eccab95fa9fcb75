import Mathlib.Data.List.TakeWhile
import SignatureSnippets.Command.Run

/-!
# Error lines

The text of a foreseen fault may hold anything, and on its way to the terminal it is
escaped, put behind a word that is marked up, rendered and laid out in lines. The word
comes through all of that, and so do ordinary words with which the text itself starts
(`Spaced`): what is shown starts with `Error: ` and with these words.

What keeps a word is the same in every stage. No stage looks for anything that an ordinary
word holds, and the blank behind it ends whatever a stage could find across its end. So
each stage has a lemma that takes it past the words, with any text behind them, and the
layout keeps them on the first line because they fit into it.
-/

namespace SignatureSnippets

namespace Text

/-- Words with a blank behind each. -/
def spaced (ws : List (List Char)) : List Char :=
  ws.flatMap fun word => word ++ [' ']

/-- A character that is shown as it is. -/
def isOrdinary (c : Char) : Bool :=
  !isSpace c && c ≠ '[' && c ≠ '\\' && !Markup.isControl c

/-- A word that is shown as it is: it could start an emoji code at its end only. -/
def IsOrdinaryWord (word : List Char) : Prop :=
  word ≠ [] ∧ word.all isOrdinary = true ∧ ':' ∉ word.dropLast

instance : DecidablePred IsOrdinaryWord :=
  fun _ => inferInstanceAs (Decidable (_ ∧ _))

variable {word : List Char} {ws : List (List Char)} {c : Char}

theorem spaced_cons (word : List Char) (ws : List (List Char)) (rest : List Char) :
    spaced (word :: ws) ++ rest = word ++ ' ' :: (spaced ws ++ rest) := by
  simp [spaced]

theorem IsOrdinaryWord.ordinary (h : IsOrdinaryWord word) (hc : c ∈ word) :
    isOrdinary c = true :=
  List.all_eq_true.mp h.2.1 c hc

theorem IsOrdinaryWord.not_space (h : IsOrdinaryWord word) : ∀ c ∈ word, isSpace c = false := by
  intro c hc
  have hord := h.ordinary hc
  simp only [isOrdinary, Bool.and_eq_true, Bool.not_eq_true'] at hord
  exact hord.1.1.1

/-- What holds of ordinary characters and of the blank holds of spaced words. -/
theorem forall_mem_spaced {P : Char → Prop} (h : ∀ word ∈ ws, IsOrdinaryWord word)
    (hord : ∀ c, isOrdinary c = true → P c) (hblank : P ' ') : ∀ c ∈ spaced ws, P c := by
  intro c hc
  obtain ⟨word, hword, hc⟩ := List.mem_flatMap.mp hc
  rcases List.mem_append.mp hc with hc | hc
  · exact hord c ((h word hword).ordinary hc)
  · rw [List.mem_singleton.mp hc]
    exact hblank

theorem not_mem_spaced (h : ∀ word ∈ ws, IsOrdinaryWord word) (hord : isOrdinary c = false)
    (hblank : c ≠ ' ') : c ∉ spaced ws := by
  intro hmem
  refine forall_mem_spaced (P := fun d => d ≠ c) h ?_ (Ne.symm hblank) c hmem rfl
  rintro d hd rfl
  rw [hd] at hord
  cases hord

end Text

namespace Markup

/-! ## Escaping and rendering -/

variable {piece tail front : List Char} {ws : List (List Char)} {c : Char}

theorem piecesFrom_cons_of_tag {tag rest : List Char}
    (h : tag? (backslashes (c :: tail)).2 = some (tag, rest)) :
    piecesFrom piece (c :: tail)
      = piece.reverse :: List.replicate ((backslashes (c :: tail)).1 / 2) '\\' ::
          (if (backslashes (c :: tail)).1 % 2 = 1 then tag else []) :: piecesFrom [] rest := by
  rw [piecesFrom]
  split
  · next heq =>
      rw [h] at heq
      cases heq
      rfl
  · next heq =>
      rw [h] at heq
      cases heq

theorem piecesFrom_cons (h : tag? (backslashes (c :: tail)).2 = none) :
    piecesFrom piece (c :: tail) = piecesFrom (c :: piece) tail := by
  rw [piecesFrom]
  split
  · next heq =>
      rw [h] at heq
      cases heq
  · rfl

/-- What a piece has so far stays at its front. -/
theorem piecesFrom_front (piece cs : List Char) :
    ∃ more pieces, piecesFrom piece cs = (piece.reverse ++ more) :: pieces := by
  induction piece, cs using piecesFrom.induct with
  | case1 piece => exact ⟨[], [], by rw [piecesFrom, List.append_nil]⟩
  | case2 piece c tail tag rest htag ih =>
      exact ⟨[], _, by rw [piecesFrom_cons_of_tag htag, List.append_nil]⟩
  | case3 piece c tail htag ih =>
      obtain ⟨more, pieces, heq⟩ := ih
      refine ⟨c :: more, pieces, ?_⟩
      rw [piecesFrom_cons htag, heq, List.reverse_cons, List.append_assoc]
      rfl

/-- A tag with no backslash in front of it ends a piece and is not shown. -/
theorem piecesFrom_tag {tag rest : List Char} (h : tag? ('[' :: tail) = some (tag, rest)) :
    piecesFrom piece ('[' :: tail) = piece.reverse :: [] :: [] :: piecesFrom [] rest := by
  have hfront : backslashes ('[' :: tail) = (0, '[' :: tail) := rfl
  rw [piecesFrom_cons_of_tag (by rw [hfront]; exact h), hfront]
  simp

/-- No tag starts at an ordinary character. -/
theorem tag?_ordinary (hopen : c ≠ '[') (hescape : c ≠ '\\') :
    tag? (backslashes (c :: tail)).2 = none := by
  have hback : backslashes (c :: tail) = (0, c :: tail) := by
    rw [backslashes, List.takeWhile_cons_of_neg (by simpa using hescape),
      List.dropWhile_cons_of_neg (by simpa using hescape)]
    rfl
  rw [hback, tag?]
  intro d cs heq
  exact absurd (List.cons.inj heq).1 hopen

theorem piecesFrom_append (hopen : '[' ∉ front) (hescape : '\\' ∉ front) (cs : List Char) :
    piecesFrom piece (front ++ cs) = piecesFrom (front.reverse ++ piece) cs := by
  induction front generalizing piece with
  | nil => rfl
  | cons c front ih =>
      rw [List.mem_cons, not_or] at hopen hescape
      rw [List.cons_append, piecesFrom_cons (tag?_ordinary (Ne.symm hopen.1) (Ne.symm hescape.1)),
        ih hopen.2 hescape.2, List.reverse_cons, List.append_assoc]
      rfl

theorem escapeTags_cons (hopen : c ≠ '[') (hescape : c ≠ '\\') :
    escapeTags (c :: tail) = c :: escapeTags tail := by
  rw [escapeTags]
  split
  · next heq =>
      rw [tag?_ordinary hopen hescape] at heq
      cases heq
  · rfl

theorem escapeTags_append (hopen : '[' ∉ front) (hescape : '\\' ∉ front) (cs : List Char) :
    escapeTags (front ++ cs) = front ++ escapeTags cs := by
  induction front with
  | nil => rfl
  | cons c front ih =>
      rw [List.mem_cons, not_or] at hopen hescape
      rw [List.cons_append, escapeTags_cons (Ne.symm hopen.1) (Ne.symm hescape.1),
        ih hopen.2 hescape.2]
      rfl

theorem escape_front (hopen : '[' ∉ front) (hescape : '\\' ∉ front) {text : String}
    (h : front <+: text.toList) : front <+: (escape text).toList := by
  obtain ⟨rest, hrest⟩ := h
  have htags : front <+: escapeTags text.toList := by
    rw [← hrest, escapeTags_append hopen hescape]
    exact List.prefix_append _ _
  rw [escape]
  split
  · rwa [String.toList_ofList]
  · rw [String.toList_ofList]
    exact htags.trans (List.prefix_append _ _)
  · rwa [String.toList_ofList]

theorem piecesFrom_error (cs : List Char) :
    piecesFrom [] ("[red]Error:[/red] ".toList ++ cs)
      = [] :: [] :: [] :: "Error:".toList :: [] :: [] :: piecesFrom [' '] cs := by
  have hopened : tag? ('[' :: ("red]Error:[/red] ".toList ++ cs))
      = some ("[red]".toList, "Error:".toList ++ '[' :: ("/red] ".toList ++ cs)) := rfl
  have hclosed : tag? ('[' :: ("/red] ".toList ++ cs)) = some ("[/red]".toList, ' ' :: cs) := rfl
  change piecesFrom [] ('[' :: ("red]Error:[/red] ".toList ++ cs)) = _
  rw [piecesFrom_tag hopened, piecesFrom_append (by decide) (by decide), piecesFrom_tag hclosed,
    piecesFrom_cons rfl]
  rfl

theorem dropBackslashes_append (h : '\\' ∉ front) (cs : List Char) :
    dropBackslashes (front ++ cs) = front ++ dropBackslashes cs := by
  induction front with
  | nil => rfl
  | cons c front ih =>
      rw [List.mem_cons, not_or] at h
      rw [List.cons_append, dropBackslashes, ih h.2, List.cons_append]
      intro tail heq
      exact absurd heq.symm h.1

/-- The blank behind a word keeps a colon at its end from starting a code. -/
theorem replaceCodes_word {word : List Char} (h : ':' ∉ word.dropLast) (rest : List Char) :
    Text.Emoji.replaceCodes (word ++ ' ' :: rest)
      = word ++ ' ' :: Text.Emoji.replaceCodes rest := by
  have hblank : Text.Emoji.replaceCodes (' ' :: rest) = ' ' :: Text.Emoji.replaceCodes rest := by
    rw [Text.Emoji.replaceCodes]
    exact fun heq => absurd heq (by decide)
  induction word with
  | nil => exact hblank
  | cons c word ih =>
      cases word with
      | nil =>
          by_cases hc : c = ':'
          · subst hc
            have hcode : Text.Emoji.code? (' ' :: rest) = none := rfl
            change Text.Emoji.replaceCodes (':' :: ' ' :: rest) = _
            rw [Text.Emoji.replaceCodes]
            split
            · next heq =>
                rw [hcode] at heq
                cases heq
            · rw [hblank]
              rfl
          · change Text.Emoji.replaceCodes (c :: ' ' :: rest) = _
            rw [Text.Emoji.replaceCodes, hblank]
            · rfl
            · exact hc
      | cons d word =>
          rw [List.dropLast_cons_cons, List.mem_cons, not_or] at h
          change Text.Emoji.replaceCodes (c :: (d :: word ++ ' ' :: rest)) = _
          rw [Text.Emoji.replaceCodes, ih h.2]
          · rfl
          · exact Ne.symm h.1

theorem replaceCodes_spaced (h : ∀ word ∈ ws, Text.IsOrdinaryWord word) (rest : List Char) :
    Text.Emoji.replaceCodes (Text.spaced ws ++ rest)
      = Text.spaced ws ++ Text.Emoji.replaceCodes rest := by
  induction ws with
  | nil => rfl
  | cons word ws ih =>
      rw [Text.spaced_cons, replaceCodes_word (h word List.mem_cons_self).2.2,
        ih fun other hother => h other (List.mem_cons_of_mem word hother), ← Text.spaced_cons]

theorem shownPiece_spaced (h : ∀ word ∈ ws, Text.IsOrdinaryWord word) (piece : List Char) :
    shownPiece (Text.spaced ws ++ piece) = Text.spaced ws ++ shownPiece piece := by
  have hshown : (Text.spaced ws).filter (fun c => !isControl c) = Text.spaced ws := by
    refine List.filter_eq_self.mpr (Text.forall_mem_spaced h (fun c hc => ?_) rfl)
    simp only [Text.isOrdinary, Bool.and_eq_true] at hc
    exact hc.2
  rw [shownPiece, dropBackslashes_append (Text.not_mem_spaced h rfl (by decide)),
    replaceCodes_spaced h, List.filter_append, hshown, shownPiece]

theorem shownPiece_blank (piece : List Char) :
    shownPiece (' ' :: piece) = ' ' :: shownPiece piece := by
  change (Text.Emoji.replaceCodes (' ' :: dropBackslashes piece)).filter _ = _
  rw [Text.Emoji.replaceCodes]
  · rfl
  · exact fun h => absurd h (by decide)

theorem shownPiece_nil : shownPiece [] = [] := by
  change (Text.Emoji.replaceCodes []).filter _ = _
  rw [Text.Emoji.replaceCodes]
  rfl

theorem shownPiece_word : shownPiece "Error:".toList = "Error:".toList := by
  have hcodes : Text.Emoji.replaceCodes "Error:".toList = "Error:".toList := by
    simp [Text.Emoji.replaceCodes, Text.Emoji.code?]
  change (Text.Emoji.replaceCodes "Error:".toList).filter _ = _
  rw [hcodes]
  rfl

/-- A marked-up word and ordinary words behind it come out as they are. -/
theorem render_error (h : ∀ word ∈ ws, Text.IsOrdinaryWord word) {text : String}
    (hfront : Text.spaced ws <+: text.toList) :
    Text.spaced ("Error:".toList :: ws) <+: (render ("[red]Error:[/red] " ++ text)).toList := by
  obtain ⟨rest, hrest⟩ := hfront
  have hopen : '[' ∉ Text.spaced ws := Text.not_mem_spaced h rfl (by decide)
  have hescape : '\\' ∉ Text.spaced ws := Text.not_mem_spaced h rfl (by decide)
  obtain ⟨more, pieces, hpieces⟩ := piecesFrom_front ((Text.spaced ws).reverse ++ [' ']) rest
  rw [List.reverse_append, List.reverse_reverse, List.reverse_singleton, List.singleton_append,
    List.cons_append] at hpieces
  have hrender : (render ("[red]Error:[/red] " ++ text)).toList
      = (piecesFrom [] ("[red]Error:[/red] ".toList ++ text.toList)).flatMap shownPiece := by
    rw [← String.toList_append]
    exact String.toList_ofList
  rw [hrender, ← hrest, piecesFrom_error, piecesFrom_append hopen hescape, hpieces]
  simp only [List.flatMap_cons, shownPiece_nil, shownPiece_word, shownPiece_blank,
    shownPiece_spaced h, List.nil_append]
  refine ⟨shownPiece more ++ pieces.flatMap shownPiece, ?_⟩
  rw [Text.spaced_cons, List.cons_append, List.append_assoc]

end Markup

namespace Text

/-! ## Layout -/

variable {word blanks : List Char} {ws : List (List Char)}

theorem width_append (cs ds : List Char) :
    Text.width (cs ++ ds) = Text.width cs + Text.width ds := by
  induction cs with
  | nil => exact (Nat.zero_add _).symm
  | cons c cs ih =>
      show charWidth c + Text.width (cs ++ ds) = charWidth c + Text.width cs + Text.width ds
      omega

theorem splitOn_front {front : List Char} (h : '\n' ∉ front) (cs : List Char) :
    ∃ line lines, (front ++ cs).splitOn '\n' = (front ++ line) :: lines := by
  induction front with
  | nil =>
      obtain ⟨line, lines, hlines⟩ := List.exists_cons_of_ne_nil (List.splitOn_ne_nil '\n' cs)
      exact ⟨line, lines, hlines⟩
  | cons c front ih =>
      rw [List.mem_cons, not_or] at h
      obtain ⟨line, lines, hlines⟩ := ih h.2
      refine ⟨line, lines, ?_⟩
      rw [List.splitOn] at hlines ⊢
      rw [List.cons_append, List.splitOnP_cons_eq_if_modifyHead, hlines,
        if_neg (by simpa using Ne.symm h.1)]
      rfl

theorem expandTabs_append {front : List Char} (h : '\t' ∉ front) (column : Nat)
    (cs : List Char) :
    expandTabs column (front ++ cs) = front ++ expandTabs (column + Text.width front) cs := by
  induction front generalizing column with
  | nil => rfl
  | cons c front ih =>
      rw [List.mem_cons, not_or] at h
      rw [List.cons_append, expandTabs, if_neg (Ne.symm h.1), ih h.2, List.cons_append,
        Nat.add_assoc]
      rfl

theorem words_word (hne : word ≠ []) (hword : ∀ c ∈ word, isSpace c = false)
    (rest : List Char) :
    words (word ++ ' ' :: rest)
      = (word ++ ' ' :: rest.takeWhile isSpace) :: words (rest.dropWhile isSpace) := by
  cases word with
  | nil => exact absurd rfl hne
  | cons c word =>
      have hc : ¬ isSpace c = true := by simp [hword c List.mem_cons_self]
      have hin : ∀ d ∈ word, inWord d = true := by
        intro d hd
        rw [inWord, hword d (List.mem_cons_of_mem c hd)]
        rfl
      have hblank : ¬ inWord ' ' = true := by decide
      have hspace : isSpace ' ' = true := by decide
      have hfront : (c :: word ++ ' ' :: rest).dropWhile isSpace = c :: (word ++ ' ' :: rest) :=
        List.dropWhile_cons_of_neg hc
      have htake : (c :: word ++ ' ' :: rest).takeWhile isSpace = [] :=
        List.takeWhile_cons_of_neg hc
      rw [words]
      split
      · next heq =>
          rw [hfront] at heq
          cases heq
      · next heq =>
          rw [hfront] at heq
          cases heq
          dsimp only
          rw [htake, List.takeWhile_append_of_pos hin, List.dropWhile_append_of_pos hin,
            List.takeWhile_cons_of_neg hblank, List.dropWhile_cons_of_neg hblank,
            List.takeWhile_cons_of_pos hspace, List.dropWhile_cons_of_pos hspace]
          simp

theorem trimEnd_word (hword : ∀ c ∈ word, isSpace c = false)
    (hblanks : ∀ c ∈ blanks, isSpace c = true) : trimEnd isSpace (word ++ blanks) = word := by
  rw [trimEnd, List.reverse_append, List.dropWhile_append_of_pos (by simpa using hblanks),
    List.dropWhile_eq_self_iff.mpr, List.reverse_reverse]
  intro hpos hspace
  have hlast := hword _ (List.mem_reverse.mp (List.getElem_mem hpos))
  rw [hlast] at hspace
  cases hspace

/-- What a line has so far stays at its front. -/
theorem breakFrom_front {overflow : Overflow} {width column : Nat} {line : List Char}
    (hne : line ≠ []) (rest : List (List Char)) :
    ∃ first lines, breakFrom overflow width line column rest = first :: lines
      ∧ line <+: first := by
  induction rest generalizing line column with
  | nil => exact ⟨line, [], by rw [breakFrom], List.prefix_refl line⟩
  | cons word rest ih =>
      rw [breakFrom]
      dsimp only
      split
      · have hline : line ++ word ≠ [] := by simp [hne]
        obtain ⟨first, lines, heq, hfirst⟩ := ih hline
        exact ⟨first, lines, heq, (List.prefix_append line word).trans hfirst⟩
      · have hempty : line.isEmpty = false := by simpa using hne
        rw [hempty]
        exact ⟨line, _, rfl, List.prefix_refl line⟩

theorem blanks_before_spaced (hws : ∀ word ∈ ws, IsOrdinaryWord word) (hne : ws ≠ [])
    (rest : List Char) :
    (spaced ws ++ rest).takeWhile isSpace = [] ∧
      (spaced ws ++ rest).dropWhile isSpace = spaced ws ++ rest := by
  obtain ⟨word, more, rfl⟩ := List.exists_cons_of_ne_nil hne
  have hword := hws word List.mem_cons_self
  obtain ⟨c, tail, rfl⟩ := List.exists_cons_of_ne_nil hword.1
  have hc : ¬ isSpace c = true := by simp [hword.not_space c List.mem_cons_self]
  rw [spaced_cons]
  exact ⟨List.takeWhile_cons_of_neg hc, List.dropWhile_cons_of_neg hc⟩

/-- Words that fit into a line stay on it. -/
theorem breakFrom_spaced (overflow : Overflow) {width column : Nat} {line : List Char}
    (hws : ∀ word ∈ ws, IsOrdinaryWord word) (hne : line ++ spaced ws ≠ [])
    (hwidth : column + Text.width (spaced ws) ≤ width) (rest : List Char) :
    ∃ first lines,
      breakFrom overflow width line column (words (spaced ws ++ rest)) = first :: lines
        ∧ line ++ spaced ws <+: first := by
  induction ws generalizing line column with
  | nil =>
      rw [spaced, List.flatMap_nil, List.append_nil] at hne ⊢
      exact breakFrom_front hne _
  | cons word ws ih =>
      have hword := hws word List.mem_cons_self
      have hrest : ∀ other ∈ ws, IsOrdinaryWord other :=
        fun other hother => hws other (List.mem_cons_of_mem word hother)
      have hsplit : spaced (word :: ws) = word ++ ' ' :: spaced ws := by
        simpa using spaced_cons word ws []
      have hblanks : ∀ c ∈ ' ' :: (spaced ws ++ rest).takeWhile isSpace, isSpace c = true := by
        refine List.forall_mem_cons.mpr ⟨by decide, fun c => List.mem_takeWhile_imp⟩
      have hsize : Text.width (spaced (word :: ws))
          = Text.width word + (1 + Text.width (spaced ws)) := by
        rw [hsplit, width_append]
        rfl
      rw [spaced_cons, words_word hword.1 hword.not_space, breakFrom]
      dsimp only
      rw [trimEnd_word hword.not_space hblanks, if_pos (by omega)]
      cases ws with
      | nil =>
          have hstart : line ++ (word ++ ' ' :: (spaced [] ++ rest).takeWhile isSpace) ≠ [] := by
            simp
          obtain ⟨first, lines, heq, hfirst⟩ := breakFrom_front hstart _
          refine ⟨first, lines, heq, List.IsPrefix.trans ?_ hfirst⟩
          rw [hsplit]
          exact ⟨rest.takeWhile isSpace, by simp [spaced]⟩
      | cons next more =>
          obtain ⟨htake, hdrop⟩ := blanks_before_spaced hrest (by simp) rest
          have hstart : line ++ (word ++ [' ']) ++ spaced (next :: more) ≠ [] := by simp
          have hfits : column + Text.width (word ++ [' ']) + Text.width (spaced (next :: more))
              ≤ width := by
            have hword : Text.width (word ++ [' ']) = Text.width word + 1 := width_append word [' ']
            omega
          have hmore := ih hrest hstart hfits
          rw [htake, hdrop, hsplit]
          simpa using hmore

theorem front_dropExcess {front line : List Char} {width : Nat} (h : front <+: line)
    (hwidth : front.length ≤ width) : front <+: dropExcess width line := by
  have hle := h.length_le
  rw [dropExcess, List.prefix_take_iff]
  exact ⟨h, by omega⟩

theorem front_takeWidth {front : List Char} {width : Nat} (h : Text.width front ≤ width)
    (rest : List Char) : front <+: takeWidth width (front ++ rest) := by
  induction front generalizing width with
  | nil => exact List.nil_prefix
  | cons c front ih =>
      have hsize : Text.width (c :: front) = charWidth c + Text.width front := rfl
      rw [List.cons_append, takeWidth, if_pos (by omega), List.cons_prefix_cons]
      exact ⟨rfl, ih (by omega)⟩

theorem front_cutLine {front line : List Char} {width : Nat} (h : front <+: line)
    (hwidth : Text.width front ≤ width) : front <+: cutLine .fold width line := by
  rw [cutLine]
  split
  · exact h
  · obtain ⟨rest, rfl⟩ := h
    rw [padTo]
    exact (front_takeWidth hwidth rest).trans (List.prefix_append _ _)

theorem front_intercalate (between first : List Char) (lines : List (List Char)) :
    first <+: between.intercalate (first :: lines) := by
  cases lines with
  | nil => simp
  | cons next lines =>
      rw [List.intercalate_cons_cons, List.append_assoc]
      exact List.prefix_append _ _

/-- Words that fit into a line keep their place at the front of a text that is laid out. -/
theorem laidOut_spaced {width : Nat} (hws : ∀ word ∈ ws, IsOrdinaryWord word) (hne : ws ≠ [])
    (hwidth : Text.width (spaced ws) ≤ width) (hlength : (spaced ws).length ≤ width)
    {text : String} (h : spaced ws <+: text.toList) :
    spaced ws <+: (laidOut width text).toList := by
  obtain ⟨rest, hrest⟩ := h
  have hempty : [] ++ spaced ws ≠ [] := by
    obtain ⟨word, more, rfl⟩ := List.exists_cons_of_ne_nil hne
    simp [spaced]
  obtain ⟨line, lines, hlines⟩ := splitOn_front (not_mem_spaced hws rfl (by decide)) rest
  have hfits : 0 + Text.width (spaced ws) ≤ width := by omega
  obtain ⟨first, more, hbreak, hfirst⟩ :=
    breakFrom_spaced .fold hws hempty hfits (expandTabs (0 + Text.width (spaced ws)) line)
  have hline : breakLine .fold width (expandTabs 0 (spaced ws ++ line))
      = first :: more := by
    rw [expandTabs_append (not_mem_spaced hws rfl (by decide)), breakLine]
    split
    · next hnil =>
        rw [hnil, breakFrom] at hbreak
        cases hbreak
        exact absurd (List.prefix_nil.mp hfirst) hempty
    · exact hbreak
  have hcut := front_cutLine (front_dropExcess hfirst hlength) hwidth
  have htext : (laidOut width text).toList = ['\n'].intercalate (wrap .fold width text.toList) :=
    String.toList_ofList
  rw [htext, wrap, ← hrest, hlines, List.flatMap_cons, hline, List.map_cons, List.cons_append]
  exact hcut.trans (front_intercalate _ _ _)

end Text

namespace Command.Context

/-- An error line starts with `Error: ` and with the ordinary words that its text starts
with. -/
theorem errorLine_spaced {terminalWidth : Nat} (ws : List (List Char))
    (hws : ∀ word ∈ ws, Text.IsOrdinaryWord word)
    (hwidth : Text.width (Text.spaced ("Error:".toList :: ws)) ≤ terminalWidth)
    (hlength : (Text.spaced ("Error:".toList :: ws)).length ≤ terminalWidth)
    {text : String} (h : Text.spaced ws <+: text.toList) :
    Text.spaced ("Error:".toList :: ws) <+: (errorLine terminalWidth text).toList := by
  have hescape := Markup.escape_front (Text.not_mem_spaced hws rfl (by decide))
    (Text.not_mem_spaced hws rfl (by decide)) h
  have hall : ∀ word ∈ "Error:".toList :: ws, Text.IsOrdinaryWord word :=
    List.forall_mem_cons.mpr ⟨by decide, hws⟩
  rw [errorLine, markupLine, String.toList_append]
  exact (Text.laidOut_spaced hall (by simp) hwidth hlength
    (Markup.render_error hws hescape)).trans (List.prefix_append _ _)

theorem errorLine_front {terminalWidth : Nat} (h : "Error: ".length ≤ terminalWidth)
    (text : String) : "Error: ".toList <+: (errorLine terminalWidth text).toList :=
  errorLine_spaced [] (by simp) h h List.nil_prefix

end Command.Context

end SignatureSnippets
