import ModuleDocs.Text.Blank
import ModuleDocs.Text.Utf8

/-!
# Texts that can be encoded

A text has an encoding if no surrogate is in it, and then it is the text of some characters.
-/

namespace ModuleDocs

namespace CodePoint

theorem toChar?_isSome (c : CodePoint) : c.toChar?.isSome = !c.isSurrogate := by
  have hval := c.isLt
  rw [Bool.eq_iff_iff]
  simp only [isSurrogate, Bool.not_eq_true', Bool.and_eq_false_iff, decide_eq_false_iff_not]
  by_cases hvalid : c.val.isValidChar
  · rw [toChar?, dif_pos hvalid, Option.isSome_some]
    simp only [Nat.isValidChar] at hvalid
    simp only [true_iff]
    omega
  · rw [toChar?, dif_neg hvalid, Option.isSome_none]
    simp only [Nat.isValidChar] at hvalid
    simp only [Bool.false_eq_true, false_iff]
    omega

theorem isSurrogate_ofChar (c : Char) : (ofChar c).isSurrogate = false := by
  have h := toChar?_isSome (ofChar c)
  rw [toChar?_ofChar] at h
  simpa using h

theorem ofChar_toChar? {c : CodePoint} {ch : Char} (h : c.toChar? = some ch) : ofChar ch = c := by
  by_cases hvalid : c.val.isValidChar
  · rw [toChar?, dif_pos hvalid] at h
    cases h
    rfl
  · rw [toChar?, dif_neg hvalid] at h
    cases h

theorem not_isBlank_of_isSurrogate {c : CodePoint} (h : c.isSurrogate = true) : c.isBlank = false := by
  simp only [isSurrogate, Bool.and_eq_true, decide_eq_true_eq] at h
  simp only [isBlank, Bool.or_eq_false_iff, Bool.and_eq_false_iff, beq_eq_false_iff_ne, decide_eq_false_iff_not]
  omega

end CodePoint

namespace Text

def HasEncoding (t : Text) : Prop := ∀ c ∈ t, c.isSurrogate = false

instance (t : Text) : Decidable t.HasEncoding := inferInstanceAs (Decidable (∀ c ∈ t, c.isSurrogate = false))

@[simp] theorem hasEncoding_nil : HasEncoding [] := by simp [HasEncoding]

@[simp] theorem hasEncoding_cons {c : CodePoint} {t : Text} :
    HasEncoding (c :: t) ↔ c.isSurrogate = false ∧ HasEncoding t := List.forall_mem_cons

@[simp] theorem hasEncoding_append {t u : Text} : HasEncoding (t ++ u) ↔ HasEncoding t ∧ HasEncoding u :=
  List.forall_mem_append

@[simp] theorem hasEncoding_map_ofChar (cs : List Char) : HasEncoding (cs.map CodePoint.ofChar) := by
  simp [HasEncoding, CodePoint.isSurrogate_ofChar]

@[simp] theorem hasEncoding_ofString (s : String) : HasEncoding (ofString s) := hasEncoding_map_ofChar _

theorem hasEncoding_flatMap {α : Type} {xs : List α} {f : α → Text} :
    HasEncoding (xs.flatMap f) ↔ ∀ x ∈ xs, HasEncoding (f x) := by
  induction xs with
  | nil => simp
  | cons x xs ih => simp [ih]

theorem hasEncoding_flatten {ts : List Text} : HasEncoding ts.flatten ↔ ∀ t ∈ ts, HasEncoding t := by
  rw [← List.flatMap_id]
  exact hasEncoding_flatMap

theorem hasEncoding_join {sep : Text} (hsep : HasEncoding sep) {ts : List Text} :
    HasEncoding (join sep ts) ↔ ∀ t ∈ ts, HasEncoding t := by
  induction ts with
  | nil => simp [join]
  | cons t ts ih =>
    cases ts with
    | nil => simp [join]
    | cons u us =>
      have hjoin : join sep (t :: u :: us) = t ++ sep ++ join sep (u :: us) := by simp [join]
      rw [hjoin, hasEncoding_append, hasEncoding_append, ih, List.forall_mem_cons]
      simp [hsep]

theorem ofString_inj {s t : String} : ofString s = ofString t ↔ s = t := by
  constructor
  · intro h
    have hstrings := congrArg toString? h
    rw [toString?_ofString, toString?_ofString] at hstrings
    exact Option.some.inj hstrings
  · rintro rfl
    rfl

theorem encodeFrom_ok_iff (position : Nat) (t : Text) :
    (∃ bytes, Utf8.encodeFrom position t = .ok bytes) ↔ HasEncoding t := by
  induction t generalizing position with
  | nil => simp [Utf8.encodeFrom]
  | cons c cs ih =>
    cases hc : c.isSurrogate with
    | true => simp [Utf8.encodeFrom, hc]
    | false =>
      rw [hasEncoding_cons, ← ih (position + 1)]
      simp only [Utf8.encodeFrom, hc, Bool.false_eq_true, ↓reduceIte, true_and]
      cases Utf8.encodeFrom (position + 1) cs <;> simp [Except.map]

theorem toUtf8_ok_iff (t : Text) : (∃ bytes, t.toUtf8 = .ok bytes) ↔ HasEncoding t := encodeFrom_ok_iff 0 t

theorem toUtf8_error_iff (t : Text) : (∃ f, t.toUtf8 = .error f) ↔ ¬ HasEncoding t := by
  rw [← toUtf8_ok_iff]
  cases t.toUtf8 <;> simp

theorem map_ofChar_of_toChars? {t : Text} {cs : List Char} (h : t.toChars? = some cs) :
    t = cs.map CodePoint.ofChar := by
  induction t generalizing cs with
  | nil =>
    cases h
    rfl
  | cons c rest ih =>
    simp only [toChars?, List.mapM_cons, Option.bind_eq_bind, Option.bind_eq_some_iff, Option.pure_def,
      Option.some.injEq] at h
    obtain ⟨ch, hch, chs, hrest, rfl⟩ := h
    rw [List.map_cons, CodePoint.ofChar_toChar? hch, ← ih hrest]

theorem toChars?_isSome {t : Text} (h : HasEncoding t) : ∃ cs, t.toChars? = some cs := by
  induction t with
  | nil => exact ⟨[], rfl⟩
  | cons c rest ih =>
    rw [hasEncoding_cons] at h
    obtain ⟨chs, hrest⟩ := ih h.2
    have hc : c.toChar?.isSome = true := by rw [CodePoint.toChar?_isSome, h.1]; rfl
    obtain ⟨ch, hch⟩ := Option.isSome_iff_exists.mp hc
    refine ⟨ch :: chs, ?_⟩
    unfold toChars? at hrest ⊢
    rw [List.mapM_cons, hch, hrest]
    rfl

theorem hasEncoding_iff {t : Text} : HasEncoding t ↔ ∃ cs, t.toChars? = some cs := by
  refine ⟨toChars?_isSome, ?_⟩
  rintro ⟨cs, hcs⟩
  rw [map_ofChar_of_toChars? hcs]
  exact hasEncoding_map_ofChar cs

/-! ### Stripped texts -/

theorem mem_dropWhile_isBlank {t : Text} {c : CodePoint} (hc : c.isBlank = false) :
    c ∈ t.dropWhile CodePoint.isBlank ↔ c ∈ t := by
  induction t with
  | nil => rfl
  | cons d rest ih =>
    cases hd : d.isBlank with
    | true =>
      have hne : c ≠ d := by
        rintro rfl
        rw [hc] at hd
        cases hd
      rw [List.dropWhile_cons_of_pos hd, ih]
      simp [hne]
    | false => rw [List.dropWhile_cons_of_neg (by simp [hd])]

theorem mem_strip {t : Text} {c : CodePoint} (hc : c.isBlank = false) : c ∈ t.strip ↔ c ∈ t := by
  rw [strip, stripRight, List.mem_reverse, mem_dropWhile_isBlank hc, List.mem_reverse, stripLeft,
    mem_dropWhile_isBlank hc]

theorem length_strip_le (t : Text) : t.strip.length ≤ t.length := by
  have hleft := (List.dropWhile_suffix (l := t) CodePoint.isBlank).length_le
  have hright := (List.dropWhile_suffix (l := t.stripLeft.reverse) CodePoint.isBlank).length_le
  rw [List.length_reverse, stripLeft] at hright
  rw [strip, stripRight, List.length_reverse, stripLeft]
  omega

theorem hasEncoding_strip {t : Text} : HasEncoding t.strip ↔ HasEncoding t := by
  have hpoint : ∀ c : CodePoint, (c ∈ t.strip → c.isSurrogate = false) ↔ (c ∈ t → c.isSurrogate = false) := by
    intro c
    cases hc : c.isSurrogate with
    | true => rw [mem_strip (CodePoint.not_isBlank_of_isSurrogate hc)]
    | false => simp
  exact forall_congr' hpoint

end Text

end ModuleDocs
