import ModuleDocs.Docstring
import ModuleDocs.Proofs.Text.Pieces
import Mathlib.Data.List.TakeWhile

/-!
# What a docstring says

What cleaning a literal means, without saying how it is done: tabs are filled up to the next stop, the lines after the
first lose their margin, which is the least indentation of those that are not blank, the first line loses all its
indentation, and empty lines at both ends go. There is one such comment for every literal, and it is the one found.
-/

namespace ModuleDocs.Docstring

open Source

/-! ### Tabs -/

/-- A text with its tabs filled by blanks, where the text starts at a column. After a tab the column is the next
multiple of eight, and lines start at column zero. -/
inductive TabsFilled : Nat → Text → Text → Prop where
  | nil {column : Nat} : TabsFilled column [] []
  | tab {column gap : Nat} {c : CodePoint} {t u : Text} : c.val = 0x09 → 0 < gap → gap ≤ 8 → 8 ∣ column + gap →
      TabsFilled (column + gap) t u → TabsFilled column (c :: t) (List.replicate gap (CodePoint.ofChar ' ') ++ u)
  | lineEnd {column : Nat} {c : CodePoint} {t u : Text} : c.val = 0x0A ∨ c.val = 0x0D → TabsFilled 0 t u →
      TabsFilled column (c :: t) (c :: u)
  | plain {column : Nat} {c : CodePoint} {t u : Text} : c.val ≠ 0x09 → ¬(c.val = 0x0A ∨ c.val = 0x0D) →
      TabsFilled (column + 1) t u → TabsFilled column (c :: t) (c :: u)

theorem tabsFilled_expandTabs (column : Nat) (t : Text) : TabsFilled column t (expandTabs column t) := by
  induction t generalizing column with
  | nil => exact .nil
  | cons c cs ih =>
    rw [expandTabs]
    by_cases htab : c.val = 0x09
    · rw [if_pos htab]
      dsimp only [tabWidth]
      exact .tab htab (by omega) (by omega) (by omega) (ih _)
    · rw [if_neg htab]
      by_cases hend : c.val = 0x0A ∨ c.val = 0x0D
      · rw [if_pos hend]
        exact .lineEnd hend (ih 0)
      · rw [if_neg hend]
        exact .plain htab hend (ih _)

theorem TabsFilled.eq {column : Nat} {t u : Text} (h : TabsFilled column t u) : u = expandTabs column t := by
  induction h with
  | nil => rfl
  | @tab column gap c t u htab hpos hle hstop _ ih =>
    have hgap : gap = tabWidth - column % tabWidth := by
      dsimp only [tabWidth]
      omega
    rw [expandTabs, if_pos htab, ih, hgap]
  | @lineEnd _ c _ _ hend _ ih =>
    have htab : c.val ≠ 0x09 := by omega
    rw [expandTabs, if_neg htab, if_pos hend, ih]
  | plain htab hend _ ih => rw [expandTabs, if_neg htab, if_neg hend, ih]

/-! ### Indentation -/

def AllBlank (t : Text) : Prop := ∀ c ∈ t, c.isBlank = true

/-- A line that starts with a number of blanks, and then has something else. -/
def IndentedBy (n : Nat) (line : Text) : Prop :=
  ∃ blanks c rest, line = blanks ++ c :: rest ∧ blanks.length = n ∧ AllBlank blanks ∧ c.isBlank = false

/-- The margin of some lines: the least indentation of those that are not blank. Blank lines have no margin. -/
inductive Margin (lines : List Text) : Nat → Prop where
  | blank : (∀ line ∈ lines, AllBlank line) → Margin lines 0
  | least {line : Text} {n : Nat} : line ∈ lines → IndentedBy n line →
      (∀ line' ∈ lines, ∀ m, IndentedBy m line' → n ≤ m) → Margin lines n

/-- What is left of a text when the blanks at its start are gone. -/
theorem stripLeft_eq_iff {t content : Text} : t.stripLeft = content ↔
    ∃ blanks, t = blanks ++ content ∧ AllBlank blanks ∧ ∀ c, content.head? = some c → c.isBlank = false := by
  constructor
  · rintro rfl
    refine ⟨t.takeWhile CodePoint.isBlank, List.takeWhile_append_dropWhile.symm, fun c hc => List.mem_takeWhile_imp hc,
      fun c hc => ?_⟩
    have hstart := List.head?_dropWhile_not CodePoint.isBlank t
    have hhead : (t.dropWhile CodePoint.isBlank).head? = some c := hc
    rw [hhead] at hstart
    simpa using hstart
  · rintro ⟨blanks, rfl, hblanks, hcontent⟩
    rw [Text.stripLeft, List.dropWhile_append_of_pos hblanks]
    cases content with
    | nil => rfl
    | cons c cs => rw [List.dropWhile_cons_of_neg (by simp [hcontent c rfl])]

theorem indentation?_eq_some {line : Text} {n : Nat} : indentation? line = some n ↔ IndentedBy n line := by
  unfold indentation?
  dsimp only
  constructor
  · intro h
    obtain ⟨blanks, hline, hblanks, hcontent⟩ := stripLeft_eq_iff.mp (rfl : line.stripLeft = line.stripLeft)
    cases hrest : line.stripLeft with
    | nil => simp [hrest] at h
    | cons c rest =>
      rw [hrest] at h hline hcontent
      refine ⟨blanks, c, rest, hline, ?_, hblanks, hcontent c rfl⟩
      have hlength := congrArg List.length hline
      simp only [List.length_append, List.isEmpty_cons, Bool.false_eq_true, if_false, Option.some.injEq] at hlength h
      omega
  · rintro ⟨blanks, c, rest, rfl, rfl, hblanks, hc⟩
    have hstrip : Text.stripLeft (blanks ++ c :: rest) = c :: rest :=
      stripLeft_eq_iff.mpr ⟨blanks, rfl, hblanks, fun d hd => by cases hd; exact hc⟩
    rw [hstrip]
    simp

theorem indentation?_eq_none {line : Text} : indentation? line = none ↔ AllBlank line := by
  unfold indentation? AllBlank
  simp [Text.stripLeft, List.dropWhile_eq_nil_iff]

theorem margin_unique {lines : List Text} {n : Nat} (h : Margin lines n) : n = (margin? lines).getD 0 := by
  unfold margin?
  cases h with
  | blank hblank =>
    have hnone : lines.filterMap indentation? = [] :=
      List.filterMap_eq_nil_iff.mpr fun line hline => indentation?_eq_none.mpr (hblank line hline)
    rw [hnone]
    rfl
  | least hline hindented hleast =>
    have hmin : (lines.filterMap indentation?).min? = some n := by
      refine List.min?_eq_some_iff.mpr ⟨List.mem_filterMap.mpr ⟨_, hline, indentation?_eq_some.mpr hindented⟩, ?_⟩
      intro m hm
      obtain ⟨line', hline', hm⟩ := List.mem_filterMap.mp hm
      exact hleast line' hline' m (indentation?_eq_some.mp hm)
    rw [hmin]
    rfl

theorem margin_margin? (lines : List Text) : Margin lines ((margin? lines).getD 0) := by
  cases hmin : margin? lines with
  | none =>
    rw [margin?, List.min?_eq_none_iff, List.filterMap_eq_nil_iff] at hmin
    exact .blank fun line hline => indentation?_eq_none.mp (hmin line hline)
  | some n =>
    obtain ⟨hmem, hleast⟩ := List.min?_eq_some_iff.mp hmin
    obtain ⟨line, hline, hn⟩ := List.mem_filterMap.mp hmem
    refine .least hline (indentation?_eq_some.mp hn) fun line' hline' m hm => hleast m ?_
    exact List.mem_filterMap.mpr ⟨line', hline', indentation?_eq_some.mpr hm⟩

/-! ### Empty lines at the ends -/

/-- Lines without the empty ones at both ends. -/
def Trimmed (lines kept : List Text) : Prop :=
  ∃ before after, lines = before ++ kept ++ after ∧ (∀ line ∈ before ++ after, line = []) ∧
    kept.head? ≠ some [] ∧ kept.getLast? ≠ some []

theorem dropWhile_isEmpty_append {before lines : List Text} (h : ∀ line ∈ before, line = []) :
    (before ++ lines).dropWhile List.isEmpty = lines.dropWhile List.isEmpty :=
  List.dropWhile_append_of_pos fun line hline => by rw [h line hline]; rfl

theorem dropWhile_isEmpty_of_head? {lines : List Text} (h : lines.head? ≠ some []) :
    lines.dropWhile List.isEmpty = lines := by
  cases lines with
  | nil => rfl
  | cons line lines =>
    have hline : line ≠ [] := fun he => h (by rw [he]; rfl)
    exact List.dropWhile_cons_of_neg (by simpa using hline)

theorem Trimmed.eq {lines kept : List Text} (h : Trimmed lines kept) : kept = trimLines lines := by
  obtain ⟨before, after, rfl, hempty, hhead, hlast⟩ := h
  have hbefore : ∀ line ∈ before, line = [] := fun line hline => hempty line (List.mem_append_left _ hline)
  have hafter : ∀ line ∈ after.reverse, line = [] :=
    fun line hline => hempty line (List.mem_append_right _ (List.mem_reverse.mp hline))
  unfold trimLines
  rw [List.reverse_append, dropWhile_isEmpty_append hafter, List.reverse_append]
  by_cases hkept : kept = []
  · -- All lines are empty.
    have hbefore' : ∀ line ∈ before.reverse, line = [] := fun line hline => hbefore line (List.mem_reverse.mp hline)
    have hgone : (before.reverse ++ []).dropWhile List.isEmpty = [] := dropWhile_isEmpty_append hbefore'
    rw [List.append_nil] at hgone
    rw [hkept, List.reverse_nil, List.nil_append, hgone]
    rfl
  · have hend : (kept.reverse ++ before.reverse).head? ≠ some [] := by
      rw [List.head?_append, List.head?_reverse, List.getLast?_eq_some_getLast hkept, Option.some_or,
        ← List.getLast?_eq_some_getLast hkept]
      exact hlast
    rw [dropWhile_isEmpty_of_head? hend, List.reverse_append, List.reverse_reverse, List.reverse_reverse,
      dropWhile_isEmpty_append hbefore, dropWhile_isEmpty_of_head? hhead]

theorem trimmed_trimLines (lines : List Text) : Trimmed lines (trimLines lines) := by
  let shorter := (lines.reverse.dropWhile List.isEmpty).reverse
  have hshorter : lines = shorter ++ (lines.reverse.takeWhile List.isEmpty).reverse := by
    rw [← List.reverse_append, List.takeWhile_append_dropWhile, List.reverse_reverse]
  have hsplit : shorter = shorter.takeWhile List.isEmpty ++ trimLines lines := List.takeWhile_append_dropWhile.symm
  refine ⟨shorter.takeWhile List.isEmpty, (lines.reverse.takeWhile List.isEmpty).reverse, ?_, ?_, ?_, ?_⟩
  · rw [← hsplit]
    exact hshorter
  · intro line hline
    rcases List.mem_append.mp hline with hline | hline
    · exact List.isEmpty_iff.mp (List.mem_takeWhile_imp hline)
    · exact List.isEmpty_iff.mp (List.mem_takeWhile_imp (List.mem_reverse.mp hline))
  · intro he
    have hstart := List.head?_dropWhile_not List.isEmpty shorter
    have hhead : (shorter.dropWhile List.isEmpty).head? = some [] := he
    rw [hhead] at hstart
    simp at hstart
  · intro he
    -- The last line that is left is the last of those that were left before.
    have hstart := List.head?_dropWhile_not List.isEmpty lines.reverse
    have hlast : shorter.getLast? = some [] := by
      rw [hsplit, List.getLast?_append, he]
      rfl
    have hhead : (lines.reverse.dropWhile List.isEmpty).head? = some [] := by
      rw [← hlast, List.getLast?_reverse]
    rw [hhead] at hstart
    simp at hstart

/-! ### The comment of a literal -/

/-- The comment that a literal gives. -/
inductive Cleaned (literal comment : Text) : Prop where
  | mk {filled first blanks content : Text} {rest kept : List Text} {margin : Nat} :
      TabsFilled 0 literal filled →
      filled = Text.join [CodePoint.ofChar '\n'] (first :: rest) →
      (∀ line ∈ first :: rest, CodePoint.ofChar '\n' ∉ line) →
      first = blanks ++ content → AllBlank blanks → (∀ c, content.head? = some c → c.isBlank = false) →
      Margin rest margin →
      Trimmed (content :: rest.map fun line => line.drop margin) kept →
      comment = Text.join [CodePoint.ofChar '\n'] kept → Cleaned literal comment

/-- Every literal has one comment. -/
theorem cleaned_iff {literal comment : Text} : Cleaned literal comment ↔ comment = clean literal := by
  constructor
  · rintro ⟨hfilled, hlines, hnewline, hfirst, hblanks, hcontent, hmargin, htrimmed, rfl⟩
    have hsplit := Text.splitOn_eq_iff.mpr ⟨List.cons_ne_nil _ _, hlines, hnewline⟩
    have hstrip := stripLeft_eq_iff.mpr ⟨_, hfirst, hblanks, hcontent⟩
    unfold clean
    dsimp only
    rw [← hfilled.eq, hsplit, dedent, hstrip, ← margin_unique hmargin, ← htrimmed.eq]
  · rintro rfl
    obtain ⟨first, rest, hsplit⟩ :=
      List.exists_cons_of_ne_nil (Text.splitOn_ne_nil (CodePoint.ofChar '\n') (expandTabs 0 literal))
    obtain ⟨-, hlines, hnewline⟩ := Text.splitOn_eq_iff.mp hsplit
    obtain ⟨blanks, hfirst, hblanks, hcontent⟩ := stripLeft_eq_iff.mp (rfl : first.stripLeft = first.stripLeft)
    refine ⟨tabsFilled_expandTabs 0 literal, hlines, hnewline, hfirst, hblanks, hcontent, margin_margin? rest,
      trimmed_trimLines _, ?_⟩
    unfold clean
    dsimp only
    rw [hsplit, dedent]

/-- The docstring of a body: the comment of its first statement, if that is a string literal. -/
def Opens (body : List Stmt) (comment : Text) : Prop :=
  ∃ literal marked rest, body = .expr (.constant (.str literal marked)) :: rest ∧ Cleaned literal comment

theorem literal?_eq_some {s : Stmt} {t : Text} :
    literal? s = some t ↔ ∃ marked, s = .expr (.constant (.str t marked)) := by
  constructor
  · intro h
    unfold literal? Expr.string? at h
    split at h
    · split at h
      · cases h
        exact ⟨_, rfl⟩
      · cases h
    · cases h
  · rintro ⟨marked, rfl⟩
    rfl

theorem ofBody_eq_some {body : List Stmt} {comment : Text} : ofBody body = some comment ↔ Opens body comment := by
  rw [ofBody, Option.map_eq_some_iff]
  constructor
  · rintro ⟨literal, hliteral, rfl⟩
    obtain ⟨s, hs, hliteral⟩ := Option.bind_eq_some_iff.mp hliteral
    obtain ⟨marked, rfl⟩ := literal?_eq_some.mp hliteral
    obtain ⟨rest, rfl⟩ := List.head?_eq_some_iff.mp hs
    exact ⟨literal, marked, rest, rfl, cleaned_iff.mpr rfl⟩
  · rintro ⟨literal, marked, rest, rfl, hcleaned⟩
    exact ⟨literal, rfl, (cleaned_iff.mp hcleaned).symm⟩

end ModuleDocs.Docstring
