import ModuleDocs.Text.Compatibility

/-!
# Normal forms of names

A word of letters, digits and marks keeps clear of the operators when it is brought into its normal form: no table has a
code point below the digits, so none of them can appear. The tables are looked at character by character once, through
`Spelled`.
-/

namespace ModuleDocs.Compatibility

open CodeTable

/-! ### Tables -/

/-- Rows and their characters. -/
inductive Spelled : List String → List (List Char) → Prop where
  | nil : Spelled [] []
  | cons {cs : List Char} {rows : List String} {css : List (List Char)} (h : Spelled rows css) :
      Spelled (String.ofList cs :: rows) (cs :: css)

theorem Spelled.mappings {rows : List String} {css : List (List Char)} (h : Spelled rows css) (P : Mapping → Bool)
    (hP : (css.all fun cs => ((pieces ' ' cs).map mapping).all P) = true) : ∀ m ∈ mappings rows, P m = true := by
  unfold CodeTable.mappings
  induction h with
  | nil => simp
  | cons h ih =>
    rw [List.all_cons, Bool.and_eq_true] at hP
    intro m hm
    rw [List.mem_toArray, List.flatMap_cons, List.mem_append, String.toList_ofList] at hm
    rcases hm with hm | hm
    · exact List.all_eq_true.mp hP.1 m hm
    · exact ih hP.2 m (List.mem_toArray.mpr hm)

/-- Code points from the digits on. -/
abbrev High (n : Nat) : Prop := 47 < n

theorem decompositions_high :
    ∀ m ∈ decompositions, (!m.image.isEmpty && m.image.all fun n => decide (High n)) = true := by
  apply Spelled.mappings
  · unfold decompositionRows
    repeat apply Spelled.cons
    apply Spelled.nil
  · decide +kernel

theorem compositions_high : ∀ m ∈ compositions, decide (High m.source.first) = true := by
  apply Spelled.mappings (P := fun m => decide (High m.source.first))
  · unfold compositionRows
    repeat apply Spelled.cons
    apply Spelled.nil
  · decide +kernel

/-! ### Decomposition -/

theorem decompose_high {n : Nat} (hn : High n) : decompose n ≠ [] ∧ ∀ k ∈ decompose n, High k := by
  unfold decompose
  by_cases hascii : n < 0x80
  · rw [if_pos hascii]
    simpa using hn
  · rw [if_neg hascii]
    by_cases hhangul : 0xAC00 ≤ n ∧ n ≤ 0xD7A3
    · rw [if_pos hhangul]
      refine ⟨by simp, ?_⟩
      intro k hk
      dsimp only at hk
      split at hk
      · simp only [List.append_nil, List.mem_cons, List.not_mem_nil, or_false] at hk
        omega
      · simp only [List.cons_append, List.nil_append, List.mem_cons, List.not_mem_nil, or_false] at hk
        omega
    · rw [if_neg hhangul]
      unfold image?
      cases hfound : decompositions.find? fun m => m.source.holds n with
      | none => simpa using hn
      | some m =>
        have hm := decompositions_high m (Array.mem_of_find?_eq_some hfound)
        simp only [Bool.and_eq_true, Bool.not_eq_true', List.isEmpty_eq_false_iff, List.all_eq_true,
          decide_eq_true_eq] at hm
        obtain ⟨hne, hall⟩ := hm
        refine ⟨by simpa using hne, ?_⟩
        intro k hk
        obtain ⟨j, hj, rfl⟩ := List.mem_map.mp hk
        have hhigh := hall j hj
        omega

theorem decomposed_high {cs : List Char} (hcs : ∀ c ∈ cs, High c.toNat) :
    ∀ k ∈ cs.flatMap fun c => decompose c.toNat, High k := by
  intro k hk
  obtain ⟨c, hc, hk⟩ := List.mem_flatMap.mp hk
  exact (decompose_high (hcs c hc)).2 k hk

/-! ### Order of marks -/

theorem mem_insertMark {n k : Nat} {ns : List Nat} : k ∈ insertMark n ns ↔ k = n ∨ k ∈ ns := by
  induction ns with
  | nil => simp [insertMark]
  | cons m ns ih =>
    unfold insertMark
    split
    · simp only [List.mem_cons, ih]
      exact or_left_comm
    · simp

theorem mem_reorder {k : Nat} {ns : List Nat} : k ∈ reorder ns ↔ k ∈ ns := by
  have hfold : ∀ acc : List Nat,
      k ∈ ns.foldl (fun acc n => if combiningClass n = 0 then n :: acc else insertMark n acc) acc ↔
        k ∈ ns ∨ k ∈ acc := by
    induction ns with
    | nil => simp
    | cons n ns ih =>
      intro acc
      rw [List.foldl_cons, ih, List.mem_cons]
      split
      · rw [List.mem_cons, or_left_comm, or_assoc]
      · rw [mem_insertMark, or_left_comm, or_assoc]
  unfold reorder
  rw [List.mem_reverse, hfold]
  simp

/-! ### Composition -/

theorem compose?_high {a b c : Nat} (h : compose? a b = some c) : High c := by
  unfold compose? at h
  split at h
  · have hc := Option.some.inj h
    omega
  · split at h
    · have hc := Option.some.inj h
      omega
    · obtain ⟨m, hm, rfl⟩ := Option.map_eq_some_iff.mp h
      exact of_decide_eq_true (compositions_high m (Array.mem_of_find?_eq_some hm))

namespace Composing

theorem push_ne_nil (s : Composing) (n : Nat) : (s.push n).reversed ≠ [] := by
  unfold push reversed
  dsimp only
  split
  · simp
  · split <;> simp

theorem push_high {s : Composing} (hs : ∀ k ∈ s.reversed, High k) {n : Nat} (hn : High n) :
    ∀ k ∈ (s.push n).reversed, High k := by
  unfold push
  dsimp only
  split
  · rename_i c hjoined
    have hc : High c := by
      obtain ⟨_, hbound⟩ := Option.ite_none_left_eq_some.mp hjoined
      obtain ⟨a, _, hcomposed⟩ := Option.bind_eq_some_iff.mp hbound
      exact compose?_high hcomposed
    intro k hk
    unfold reversed at hk hs
    simp only [Option.toList_some, List.cons_append, List.nil_append, List.mem_append, List.mem_cons] at hk
    rcases hk with hk | rfl | hk
    · exact hs k (List.mem_append_left _ hk)
    · exact hc
    · exact hs k (List.mem_append_right _ (List.mem_append_right _ hk))
  · split
    · intro k hk
      simp only [reversed, Option.toList_some, List.cons_append, List.nil_append, List.mem_cons] at hk
      rcases hk with rfl | hk
      · exact hn
      · exact hs k hk
    · intro k hk
      simp only [reversed, List.cons_append, List.mem_cons] at hk
      rcases hk with rfl | hk
      · exact hn
      · exact hs k hk

end Composing

theorem compose_high {ns : List Nat} (hns : ∀ n ∈ ns, High n) : ∀ k ∈ compose ns, High k := by
  have hfold : ∀ s : Composing, (∀ k ∈ s.reversed, High k) → ∀ k ∈ (ns.foldl Composing.push s).reversed, High k := by
    induction ns with
    | nil => exact fun s hs => hs
    | cons n ns ih =>
      intro s hs
      have hn := hns n List.mem_cons_self
      exact ih (fun m hm => hns m (List.mem_cons_of_mem _ hm)) (s.push n) (Composing.push_high hs hn)
  intro k hk
  rw [compose, List.mem_reverse] at hk
  exact hfold ⟨[], none, []⟩ (by simp [Composing.reversed]) k hk

theorem compose_ne_nil {ns : List Nat} (hns : ns ≠ []) : compose ns ≠ [] := by
  obtain ⟨init, n, rfl⟩ : ∃ init n, ns = init ++ [n] := ⟨_, _, (List.dropLast_concat_getLast hns).symm⟩
  unfold compose
  rw [List.foldl_append, Ne, List.reverse_eq_nil_iff]
  exact Composing.push_ne_nil _ n

/-! ### Normal forms -/

/-- A text with no star and no slash in it. -/
structure Unmarked (s : String) : Prop where
  ne_nil : s.toList ≠ []
  unmarked : ∀ c ∈ s.toList, c ≠ '*' ∧ c ≠ '/'

theorem ofNat_unmarked {n : Nat} (hn : High n) : Char.ofNat n ≠ '*' ∧ Char.ofNat n ≠ '/' := by
  have htoNat : (Char.ofNat n).toNat = n ∨ (Char.ofNat n).toNat = 0 := by
    by_cases hvalid : n.isValidChar
    · exact Or.inl (congrArg Char.toNat (dif_pos hvalid))
    · exact Or.inr (congrArg Char.toNat (dif_neg hvalid))
  constructor
  · intro heq
    rw [heq] at htoNat
    have hstar : '*'.toNat = 42 := rfl
    omega
  · intro heq
    rw [heq] at htoNat
    have hslash : '/'.toNat = 47 := rfl
    omega

theorem normalize_unmarked {s : String} (hne : s.toList ≠ []) (hs : ∀ c ∈ s.toList, High c.toNat) :
    Unmarked (normalize s) := by
  unfold normalize
  by_cases hascii : (s.toList.all fun c => decide (c.toNat < 128)) = true
  · rw [if_pos hascii]
    refine ⟨hne, fun c hc => ?_⟩
    have hhigh := hs c hc
    constructor
    · rintro rfl
      exact absurd hhigh (by decide)
    · rintro rfl
      exact absurd hhigh (by decide)
  · rw [if_neg hascii]
    constructor
    · rw [String.toList_ofList, Ne, List.map_eq_nil_iff]
      apply compose_ne_nil
      obtain ⟨c, cs, hcs⟩ := List.exists_cons_of_ne_nil hne
      have hc : c ∈ s.toList := hcs ▸ List.mem_cons_self
      obtain ⟨hpieces, _⟩ := decompose_high (hs c hc)
      obtain ⟨k, hk⟩ := List.exists_mem_of_ne_nil _ hpieces
      exact List.ne_nil_of_mem (mem_reorder.mpr (List.mem_flatMap.mpr ⟨c, hc, hk⟩))
    · intro c hc
      rw [String.toList_ofList] at hc
      obtain ⟨n, hn, rfl⟩ := List.mem_map.mp hc
      refine ofNat_unmarked (compose_high (fun m hm => ?_) n hn)
      exact decomposed_high hs m (mem_reorder.mp hm)

end ModuleDocs.Compatibility
