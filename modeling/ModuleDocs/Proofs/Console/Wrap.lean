import ModuleDocs.Console.Lines
import ModuleDocs.Proofs.Text.Encoding
import ModuleDocs.Proofs.Text.Pieces
import Mathlib.Data.List.DropRight

/-!
# Lines that fit

A text that takes one line stands as it is where there is room for it: it is not cut between words, and not cut short.
Whatever the room, the lines of a text have no surrogate that the text does not have.
-/

namespace ModuleDocs

namespace Text

theorem cells_cons (c : CodePoint) (t : Text) : cells (c :: t) = c.cells + cells t := rfl

theorem stripRight_isPrefix (t : Text) : t.stripRight <+: t := by
  have hsuffix := List.dropWhile_suffix (l := t.reverse) CodePoint.isBlank
  rw [← List.reverse_prefix, List.reverse_reverse] at hsuffix
  exact hsuffix

theorem cells_stripRight_le (t : Text) : t.stripRight.cells ≤ t.cells := by
  obtain ⟨tail, htail⟩ := stripRight_isPrefix t
  have hcells := cells_append t.stripRight tail
  rw [htail] at hcells
  omega

theorem HasEncoding.subset {s t : Text} (h : HasEncoding t) (hs : s ⊆ t) : HasEncoding s :=
  fun c hc => h c (hs hc)

theorem hasEncoding_blanks (n : Nat) : HasEncoding (blanks n) := by
  intro c hc
  rw [List.eq_of_mem_replicate hc]
  decide

end Text

namespace Console

open Text

/-! ### Words -/

theorem afterWord_suffix (t : Text) : afterWord t <:+ t :=
  (List.dropWhile_suffix _).trans ((List.dropWhile_suffix _).trans (List.dropWhile_suffix _))

/-- The words of a text make it up, unless it is blank. -/
theorem flatten_words {t : Text} (h : t.dropWhile CodePoint.isBlank ≠ []) : (words t).flatten = t := by
  induction hn : t.length using Nat.strongRecOn generalizing t with
  | _ n ih =>
    subst hn
    have hrest : (words (afterWord t)).flatten = afterWord t := by
      -- What follows a word is empty or starts with the next word.
      by_cases hblank : (afterWord t).dropWhile CodePoint.isBlank = []
      · rw [words, dif_pos hblank]
        unfold afterWord at hblank ⊢
        rw [List.dropWhile_idempotent] at hblank
        exact hblank.symm
      · exact ih _ (length_afterWord_lt h) hblank rfl
    obtain ⟨word, hword⟩ := afterWord_suffix t
    have hcount : t.length - (afterWord t).length = word.length := by
      have hlength := congrArg List.length hword
      rw [List.length_append] at hlength
      omega
    have htake : t.take word.length = word := by
      conv => lhs; rw [← hword]
      exact List.take_left
    rw [words, dif_neg h, List.flatten_cons, hrest, hcount, htake]
    exact hword

/-! ### Lines -/

theorem pieces_ne_nil (overflow : Overflow) (width : Nat) (word : Text) : overflow.pieces width word ≠ [] := by
  cases overflow with
  | fold => exact chopFrom_ne_nil width [] word
  | ellipsis => exact List.cons_ne_nil _ _

theorem flatten_pieces (overflow : Overflow) (width : Nat) (word : Text) :
    (overflow.pieces width word).flatten = word := by
  cases overflow with
  | fold => exact flatten_chop width word
  | ellipsis => exact List.append_nil word

/-- Lines hold what stood on the first one and all words. -/
theorem flatten_fill (overflow : Overflow) (width : Nat) (line : Text) (ws : List Text) :
    (fill overflow width line ws).flatten = line ++ ws.flatten := by
  induction ws generalizing line with
  | nil => simp [fill]
  | cons word rest ih =>
    have hne := pieces_ne_nil overflow width word
    have hpieces :
        (overflow.pieces width word).dropLast.flatten ++ (overflow.pieces width word).getLastD [] = word := by
      rw [List.getLastD_eq_getLast?, List.getLast?_eq_some_getLast hne]
      have hflatten := congrArg List.flatten (List.dropLast_append_getLast hne)
      rw [List.flatten_append, List.flatten_singleton, flatten_pieces] at hflatten
      exact hflatten
    rw [fill]
    dsimp only
    split
    · rw [ih, List.flatten_cons, List.append_assoc]
    · split
      · rw [List.flatten_append, List.flatten_append, ih, List.flatten_cons]
        conv => rhs; rw [← hpieces]
        cases line with
        | nil => simp
        | cons c cs => simp
      · rw [List.flatten_cons, ih, List.flatten_cons]

theorem fill_fits (overflow : Overflow) {width : Nat} {line : Text} {ws : List Text}
    (h : (line ++ ws.flatten).cells ≤ width) : fill overflow width line ws = [line ++ ws.flatten] := by
  induction ws generalizing line with
  | nil => simp [fill]
  | cons word rest ih =>
    rw [List.flatten_cons, ← List.append_assoc] at h ⊢
    have hword := cells_stripRight_le word
    have hfits : line.cells + word.stripRight.cells ≤ width := by
      rw [cells_append, cells_append] at h
      omega
    rw [fill]
    dsimp only
    rw [if_pos hfits]
    exact ih h

theorem flatten_words_of_ne_nil {line : Text} (h : words line ≠ []) : (words line).flatten = line := by
  refine flatten_words fun hblank => h ?_
  rw [words, dif_pos hblank]

theorem flatten_wrapLine (overflow : Overflow) (width : Nat) (line : Text) :
    (wrapLine overflow width line).flatten = line := by
  unfold wrapLine
  split
  · simp
  · rename_i hwords
    rw [flatten_fill, List.nil_append, flatten_words_of_ne_nil hwords]

theorem wrapLine_fits (overflow : Overflow) {width : Nat} {line : Text} (h : line.cells ≤ width) :
    wrapLine overflow width line = [line] := by
  unfold wrapLine
  split
  · rfl
  · rename_i hwords
    have hline := flatten_words_of_ne_nil hwords
    rw [fill_fits overflow (by rwa [List.nil_append, hline]), List.nil_append, hline]

/-! ### Tabs and ends -/

theorem expandTabs_of_not_mem {t : Text} (h : CodePoint.ofChar '\t' ∉ t) (column : Nat) : expandTabs column t = t := by
  induction t generalizing column with
  | nil => rfl
  | cons c cs ih =>
    obtain ⟨hc, hcs⟩ := not_or.mp (mt List.mem_cons.mpr h)
    rw [expandTabs, if_neg (Ne.symm hc), ih hcs]

theorem hasEncoding_expandTabs (column : Nat) {t : Text} (h : HasEncoding t) : HasEncoding (expandTabs column t) := by
  induction t generalizing column with
  | nil => exact hasEncoding_nil
  | cons c cs ih =>
    obtain ⟨hc, hcs⟩ := hasEncoding_cons.mp h
    rw [expandTabs]
    split
    · exact hasEncoding_append.mpr ⟨hasEncoding_blanks _, ih _ hcs⟩
    · exact hasEncoding_cons.mpr ⟨hc, ih _ hcs⟩

theorem trimEnd_eq_self {count : Nat} {line : Text} (h : line.length ≤ count ∨ line.stripRight = line) :
    trimEnd count line = line := by
  unfold trimEnd
  refine List.take_of_length_le ?_
  rcases h with h | h
  · omega
  · rw [h]
    omega

/-! ### Texts -/

theorem wrap_fits (overflow : Overflow) {width : Nat} {t : Text} (hbreak : CodePoint.ofChar '\n' ∉ t)
    (htab : CodePoint.ofChar '\t' ∉ t) (hend : t.length ≤ width ∨ t.stripRight = t) (h : t.cells ≤ width) :
    wrap overflow width t = [t] := by
  unfold wrap
  rw [splitOn_of_not_mem hbreak, List.flatMap_singleton, expandTabs_of_not_mem htab, wrapLine_fits overflow h,
    List.map_singleton, trimEnd_eq_self hend]

theorem hasEncoding_wrap (overflow : Overflow) {width : Nat} {t : Text} (h : HasEncoding t) :
    ∀ l ∈ wrap overflow width t, HasEncoding l := by
  intro l hl
  have hbreak : HasEncoding [CodePoint.ofChar '\n'] := by simp [CodePoint.isSurrogate_ofChar]
  rw [← join_splitOn (CodePoint.ofChar '\n') t, hasEncoding_join hbreak] at h
  obtain ⟨piece, hpiece, hl⟩ := List.mem_flatMap.mp hl
  obtain ⟨part, hpart, rfl⟩ := List.mem_map.mp hl
  have hencoded := hasEncoding_expandTabs 0 (h piece hpiece)
  rw [← flatten_wrapLine overflow width (expandTabs 0 piece), hasEncoding_flatten] at hencoded
  exact (hencoded part hpart).subset (List.take_subset _ _)

/-! ### Alignment -/

theorem headD_chopFrom (width : Nat) (line t : Text) :
    ∃ kept, kept <+: t ∧ (chopFrom width line t).headD [] = line ++ kept := by
  induction t generalizing line with
  | nil => exact ⟨[], List.prefix_refl _, by simp [chopFrom]⟩
  | cons c cs ih =>
    rw [chopFrom]
    split
    · obtain ⟨kept, hkept, hhead⟩ := ih (line ++ [c])
      exact ⟨c :: kept, (List.prefix_cons_inj c).mpr hkept, by rw [hhead]; simp⟩
    · exact ⟨[], List.nil_prefix, by simp⟩

theorem hasEncoding_cut (overflow : Overflow) (width : Nat) {l : Text} (h : HasEncoding l) :
    HasEncoding (cut overflow width l) := by
  have hcells : ∀ n, HasEncoding (inCells n l) := by
    intro n
    obtain ⟨kept, hkept, hcrop⟩ := headD_chopFrom n [] l
    refine hasEncoding_append.mpr ⟨?_, hasEncoding_blanks _⟩
    rw [crop, chop, hcrop]
    exact h.subset hkept.subset
  unfold cut
  split
  · exact h
  · cases overflow with
    | fold => exact hcells width
    | ellipsis => exact hasEncoding_append.mpr ⟨hcells _, hasEncoding_ofString _⟩

theorem place_left_fits (overflow : Overflow) {width : Nat} {l : Text} (h : l.cells ≤ width) :
    Align.left.place overflow width l = l ++ blanks (width - l.cells) := by
  unfold Align.place cut
  dsimp only
  rw [if_pos h]

theorem hasEncoding_place (overflow : Overflow) {width : Nat} {l : Text} (align : Align) (h : HasEncoding l) :
    HasEncoding (align.place overflow width l) := by
  have hstrip : HasEncoding l.stripRight := h.subset (stripRight_isPrefix l).subset
  cases align with
  | left => simp [Align.place, hasEncoding_cut, h, hasEncoding_blanks]
  | center => simp [Align.place, hasEncoding_cut, hstrip, hasEncoding_blanks]
  | right => simp [Align.place, hasEncoding_cut, hstrip, hasEncoding_blanks]

end Console

end ModuleDocs
