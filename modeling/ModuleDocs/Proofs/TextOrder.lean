import Mathlib.Data.List.Lex
import Mathlib.Order.Fin.Basic
import ModuleDocs.Text.Basic

/-!
# The order of texts

Texts are compared by their code points, as lists are. Names in this order, without repetitions, are strictly
increasing.
-/

namespace ModuleDocs

namespace Text

theorem lt_iff (a b : Text) : Text.lt a b = true ↔ a < b := by
  induction a generalizing b with
  | nil =>
    cases b with
    | nil => simp [Text.lt]
    | cons y ys => simp [Text.lt]
  | cons x xs ih =>
    cases b with
    | nil => simp [Text.lt]
    | cons y ys =>
      rw [List.cons_lt_cons_iff, ← ih ys]
      simp [Text.lt]

/-- The order in which the entries of a directory are listed. -/
theorem not_lt_iff (a b : Text) : (!Text.lt b a) = true ↔ a ≤ b := by
  rw [Bool.not_eq_true', ← Bool.not_eq_true, lt_iff, not_lt]

theorem sorted_pairwise {keys : List Text} (h : keys.Nodup) :
    (keys.mergeSort fun a b => !Text.lt b a).Pairwise (· < ·) := by
  have hle : (keys.mergeSort fun a b => !Text.lt b a).Pairwise fun a b => (!Text.lt b a) = true := by
    apply List.pairwise_mergeSort
    · intro a b c hab hbc
      rw [not_lt_iff] at hab hbc ⊢
      exact le_trans hab hbc
    · intro a b
      rw [Bool.or_eq_true, not_lt_iff, not_lt_iff]
      exact le_total a b
  have hne : (keys.mergeSort fun a b => !Text.lt b a).Nodup :=
    (List.mergeSort_perm keys _).nodup_iff.mpr h
  refine (hle.and hne).imp ?_
  intro a b hab
  exact lt_of_le_of_ne ((not_lt_iff a b).mp hab.1) hab.2

/-- Of two increasing lists, one inside the other, the smaller is a selection from the larger. -/
theorem eq_filter_of_subset {names more : List Text} (hn : names.Pairwise (· < ·)) (hm : more.Pairwise (· < ·))
    (hsub : ∀ x ∈ names, x ∈ more) : names = more.filter (fun x => decide (x ∈ names)) := by
  have hfilter : (more.filter fun x => decide (x ∈ names)).Pairwise (· < ·) := hm.filter _
  refine List.Perm.eq_of_pairwise (fun a b _ _ hab hba => absurd hba (lt_asymm hab)) hn hfilter ?_
  rw [List.perm_ext_iff_of_nodup (hn.imp ne_of_lt) (hfilter.imp ne_of_lt)]
  intro x
  rw [List.mem_filter, decide_eq_true_iff]
  exact ⟨fun hx => ⟨hsub x hx, hx⟩, fun hx => hx.2⟩

end Text

end ModuleDocs
