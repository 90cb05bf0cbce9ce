import ModuleDocs.Text.Blank

/-!
# Pieces of a text

A text is what its pieces come to when they are joined by the separator, and there is one way to take it apart so.
-/

namespace ModuleDocs

namespace Text

theorem join_singleton (sep t : Text) : join sep [t] = t := by simp [join]

theorem join_cons (sep : Text) (t : Text) {ts : List Text} (h : ts ≠ []) :
    join sep (t :: ts) = t ++ sep ++ join sep ts := by
  cases ts with
  | nil => exact absurd rfl h
  | cons u us => simp [join]

theorem join_append (sep : Text) {before parts : List Text} (hb : before ≠ []) (hp : parts ≠ []) :
    join sep (before ++ parts) = join sep before ++ sep ++ join sep parts := by
  induction before with
  | nil => exact absurd rfl hb
  | cons t ts ih =>
    cases ts with
    | nil => rw [List.singleton_append, join_cons sep t hp, join_singleton]
    | cons u us =>
      have hne : u :: us ++ parts ≠ [] := by simp
      rw [List.cons_append, join_cons sep t hne, ih (List.cons_ne_nil u us), join_cons sep t (List.cons_ne_nil u us)]
      simp only [List.append_assoc]

theorem splitOn_ne_nil (sep : CodePoint) (t : Text) : splitOn sep t ≠ [] := by
  unfold splitOn
  split
  · exact List.cons_ne_nil _ _
  · split
    · exact List.cons_ne_nil _ _
    · split <;> exact List.cons_ne_nil _ _

theorem splitOn_cons_self (sep : CodePoint) (t : Text) : splitOn sep (sep :: t) = [] :: splitOn sep t := by
  rw [splitOn, if_pos rfl]

theorem splitOn_cons_of_ne {sep c : CodePoint} (hc : c ≠ sep) {t p : Text} {ps : List Text}
    (h : splitOn sep t = p :: ps) : splitOn sep (c :: t) = (c :: p) :: ps := by
  rw [splitOn, if_neg hc, h]

theorem not_mem_of_mem_splitOn {sep : CodePoint} {t piece : Text} (h : piece ∈ splitOn sep t) : sep ∉ piece := by
  induction t generalizing piece with
  | nil =>
    have he : piece = [] := by simpa [splitOn] using h
    rw [he]
    exact List.not_mem_nil
  | cons c cs ih =>
    by_cases hc : c = sep
    · subst hc
      rw [splitOn_cons_self] at h
      rcases List.mem_cons.mp h with rfl | h
      · exact List.not_mem_nil
      · exact ih h
    · obtain ⟨first, others, hsplit⟩ := List.exists_cons_of_ne_nil (splitOn_ne_nil sep cs)
      rw [splitOn_cons_of_ne hc hsplit] at h
      rw [hsplit] at ih
      rcases List.mem_cons.mp h with rfl | h
      · have hfirst := ih List.mem_cons_self
        simp [Ne.symm hc, hfirst]
      · exact ih (List.mem_cons_of_mem _ h)

theorem join_splitOn (sep : CodePoint) (t : Text) : join [sep] (splitOn sep t) = t := by
  induction t with
  | nil => rfl
  | cons c cs ih =>
    by_cases hc : c = sep
    · subst hc
      rw [splitOn_cons_self, join_cons _ _ (splitOn_ne_nil c cs), ih]
      rfl
    · obtain ⟨first, others, hsplit⟩ := List.exists_cons_of_ne_nil (splitOn_ne_nil sep cs)
      rw [hsplit] at ih
      rw [splitOn_cons_of_ne hc hsplit, ← ih]
      cases others with
      | nil => rw [join_singleton, join_singleton]
      | cons p ps =>
        rw [join_cons _ _ (List.cons_ne_nil p ps), join_cons _ _ (List.cons_ne_nil p ps)]
        rfl

theorem splitOn_of_not_mem {sep : CodePoint} {t : Text} (h : sep ∉ t) : splitOn sep t = [t] := by
  induction t with
  | nil => rfl
  | cons c cs ih =>
    obtain ⟨hc, hcs⟩ := not_or.mp (mt List.mem_cons.mpr h)
    exact splitOn_cons_of_ne (Ne.symm hc) (ih hcs)

theorem splitOn_append_sep {sep : CodePoint} {t : Text} (h : sep ∉ t) (u : Text) :
    splitOn sep (t ++ [sep] ++ u) = t :: splitOn sep u := by
  induction t with
  | nil => exact splitOn_cons_self sep u
  | cons c cs ih =>
    obtain ⟨hc, hcs⟩ := not_or.mp (mt List.mem_cons.mpr h)
    exact splitOn_cons_of_ne (Ne.symm hc) (ih hcs)

/-- The pieces of a text are the parts without separator that come to the text when they are joined. -/
theorem splitOn_eq_iff {sep : CodePoint} {t : Text} {parts : List Text} :
    splitOn sep t = parts ↔ parts ≠ [] ∧ t = join [sep] parts ∧ ∀ p ∈ parts, sep ∉ p := by
  constructor
  · rintro rfl
    exact ⟨splitOn_ne_nil sep t, (join_splitOn sep t).symm, fun p hp => not_mem_of_mem_splitOn hp⟩
  · rintro ⟨hne, rfl, hparts⟩
    induction parts with
    | nil => exact absurd rfl hne
    | cons p ps ih =>
      obtain ⟨hp, hps⟩ := List.forall_mem_cons.mp hparts
      cases ps with
      | nil => rw [join_singleton, splitOn_of_not_mem hp]
      | cons q qs =>
        rw [join_cons _ _ (List.cons_ne_nil q qs), splitOn_append_sep hp, ih (List.cons_ne_nil q qs) hps]

end Text

end ModuleDocs
