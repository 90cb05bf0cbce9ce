import ModuleDocs.Proofs.Text.Encoding

/-!
# Texts and their bytes

The bytes that can be decoded are those of some characters, each in its one form, and what is decoded are these
characters. So decoding undoes encoding and encoding undoes decoding.
-/

namespace ModuleDocs

namespace Utf8

/-- The bytes are those of some characters. A character has one form, the shortest one, and no surrogate and nothing
past the code space is a character. -/
def WellFormed (bytes : List UInt8) : Prop := ∃ cs : List Char, bytes = cs.flatMap String.utf8EncodeChar

/-! ### One character -/

theorem toNat_byte {n : Nat} (h : n < 256) : (byte n).toNat = n := by
  simp only [byte, Nat.toUInt8, UInt8.toNat_ofNat']
  omega

theorem eq_byte {b : UInt8} {n : Nat} (h : b.toNat = n) : b = byte n := by
  have hlt := b.toNat_lt
  refine UInt8.toNat_inj.mp ?_
  rw [h, toNat_byte (by omega)]

theorem encodePoint_one {n : Nat} (h : n < 0x80) : encodePoint n = [byte n] := if_pos h

theorem encodePoint_two {n : Nat} (hlow : 0x80 ≤ n) (h : n < 0x800) :
    encodePoint n = [byte (0xC0 + n / 64), byte (0x80 + n % 64)] := by
  rw [encodePoint, if_neg (Nat.not_lt.mpr hlow), if_pos h]

theorem encodePoint_three {n : Nat} (hlow : 0x800 ≤ n) (h : n < 0x10000) :
    encodePoint n = [byte (0xE0 + n / 4096), byte (0x80 + n / 64 % 64), byte (0x80 + n % 64)] := by
  have h₁ : ¬ n < 0x80 := by omega
  rw [encodePoint, if_neg h₁, if_neg (Nat.not_lt.mpr hlow), if_pos h]

theorem encodePoint_four {n : Nat} (hlow : 0x10000 ≤ n) :
    encodePoint n = [byte (0xF0 + n / 262144), byte (0x80 + n / 4096 % 64), byte (0x80 + n / 64 % 64),
      byte (0x80 + n % 64)] := by
  have h₁ : ¬ n < 0x80 := by omega
  have h₂ : ¬ n < 0x800 := by omega
  rw [encodePoint, if_neg h₁, if_neg h₂, if_neg (Nat.not_lt.mpr hlow)]

theorem encodePoint_toNat (c : Char) : encodePoint c.toNat = String.utf8EncodeChar c := by
  have hvalid : c.toNat.isValidChar := c.valid
  have hval : c.val.toNat = c.toNat := rfl
  simp only [Nat.isValidChar] at hvalid
  unfold String.utf8EncodeChar
  rw [hval]
  by_cases h₁ : c.toNat ≤ 0x7F
  · rw [encodePoint_one (by omega), if_pos h₁]
    rfl
  · by_cases h₂ : c.toNat ≤ 0x7FF
    · have hhigh : c.toNat / 64 % 32 + 192 = 0xC0 + c.toNat / 64 := by omega
      rw [encodePoint_two (by omega) (by omega), if_neg h₁, if_pos h₂, hhigh, Nat.add_comm (c.toNat % 64)]
      rfl
    · by_cases h₃ : c.toNat ≤ 0xFFFF
      · have hhigh : c.toNat / 4096 % 16 + 224 = 0xE0 + c.toNat / 4096 := by omega
        rw [encodePoint_three (by omega) (by omega), if_neg h₁, if_neg h₂, if_pos h₃, hhigh,
          Nat.add_comm (c.toNat / 64 % 64), Nat.add_comm (c.toNat % 64)]
        rfl
      · have hhigh : c.toNat / 262144 % 8 + 240 = 0xF0 + c.toNat / 262144 := by omega
        rw [encodePoint_four (by omega), if_neg h₁, if_neg h₂, if_neg h₃, hhigh, Nat.add_comm (c.toNat / 4096 % 64),
          Nat.add_comm (c.toNat / 64 % 64), Nat.add_comm (c.toNat % 64)]
        rfl

theorem isContinuation_iff {b : UInt8} : isContinuation b = true ↔ 0x80 ≤ b.toNat ∧ b.toNat < 0xC0 := by
  simp [isContinuation]

theorem isSecond_iff {a b : UInt8} : isSecond a b = true ↔ 0x80 ≤ b.toNat ∧ b.toNat < 0xC0 ∧
    ¬ (a.toNat = 0xE0 ∧ b.toNat < 0xA0) ∧ ¬ (a.toNat = 0xED ∧ 0xA0 ≤ b.toNat) ∧
    ¬ (a.toNat = 0xF0 ∧ b.toNat < 0x90) ∧ ¬ (a.toNat = 0xF4 ∧ 0x90 ≤ b.toNat) := by
  simp only [isSecond, isContinuation, Bool.and_eq_true, Bool.not_eq_true', Bool.and_eq_false_iff, beq_eq_false_iff_ne,
    decide_eq_true_eq, decide_eq_false_iff_not]
  omega

theorem width?_eq_some {b : UInt8} {w : Nat} : width? b = some w ↔
    w = 1 ∧ b.toNat < 0x80 ∨ w = 2 ∧ 0xC2 ≤ b.toNat ∧ b.toNat < 0xE0 ∨ w = 3 ∧ 0xE0 ≤ b.toNat ∧ b.toNat < 0xF0 ∨
      w = 4 ∧ 0xF0 ≤ b.toNat ∧ b.toNat < 0xF5 := by
  unfold width?
  dsimp only
  repeat' split
  all_goals simp only [Option.some.injEq, reduceCtorEq, false_iff]
  all_goals omega

/-- The forms that are decoded, with the code point and the width of each. -/
inductive Form : UInt8 → List UInt8 → Nat → Nat → Prop where
  | one {b : UInt8} {rest : List UInt8} : b.toNat < 0x80 → Form b rest b.toNat 1
  | two {b c : UInt8} {rest : List UInt8} : width? b = some 2 → isSecond b c = true →
      Form b (c :: rest) ((b.toNat - 0xC0) * 64 + (c.toNat - 0x80)) 2
  | three {b c d : UInt8} {rest : List UInt8} : width? b = some 3 → isSecond b c = true → isContinuation d = true →
      Form b (c :: d :: rest) (((b.toNat - 0xE0) * 64 + (c.toNat - 0x80)) * 64 + (d.toNat - 0x80)) 3
  | four {b c d e : UInt8} {rest : List UInt8} : width? b = some 4 → isSecond b c = true → isContinuation d = true →
      isContinuation e = true → Form b (c :: d :: e :: rest)
        ((((b.toNat - 0xF0) * 64 + (c.toNat - 0x80)) * 64 + (d.toNat - 0x80)) * 64 + (e.toNat - 0x80)) 4

theorem decodePoint_eq_ok {b : UInt8} {rest : List UInt8} {n width : Nat} :
    decodePoint b rest = .ok (n, width) ↔ Form b rest n width := by
  constructor
  · intro h
    unfold decodePoint at h
    dsimp only at h
    split at h
    · cases h
    · rename_i hw
      have hb := width?_eq_some.mp hw
      cases h
      exact .one (by simpa using hb)
    · rename_i hw
      repeat' split at h
      all_goals simp only [reduceCtorEq, Except.ok.injEq, Prod.mk.injEq] at h
      obtain ⟨rfl, rfl⟩ := h
      exact .two hw (by assumption)
    · rename_i hw
      repeat' split at h
      all_goals simp only [reduceCtorEq, Except.ok.injEq, Prod.mk.injEq] at h
      obtain ⟨rfl, rfl⟩ := h
      exact .three hw (by assumption) (by assumption)
    · rename_i w h₁ h₂ h₃ hw
      have hfour : w = 4 := by
        rcases width?_eq_some.mp hw with ⟨hw, _⟩ | ⟨hw, _⟩ | ⟨hw, _⟩ | ⟨hw, _⟩
        · exact absurd hw h₁
        · exact absurd hw h₂
        · exact absurd hw h₃
        · exact hw
      subst hfour
      repeat' split at h
      all_goals simp only [reduceCtorEq, Except.ok.injEq, Prod.mk.injEq] at h
      obtain ⟨rfl, rfl⟩ := h
      exact .four hw (by assumption) (by assumption) (by assumption)
  · intro h
    unfold decodePoint
    cases h with
    | one hb =>
      rw [width?_eq_some.mpr (Or.inl ⟨rfl, hb⟩)]
      rfl
    | two hw hc => simp only [hw, hc, if_true]
    | three hw hc hd => simp only [hw, hc, hd, if_true]
    | four hw hc hd he => simp only [hw, hc, hd, he, if_true]

/-- A form that is decoded is the encoding of a character. -/
theorem Form.encoded {b : UInt8} {rest : List UInt8} {n width : Nat} (h : Form b rest n width) :
    n.isValidChar ∧ b :: rest = encodePoint n ++ rest.drop (width - 1) := by
  simp only [Nat.isValidChar]
  cases h with
  | one hb =>
    rw [encodePoint_one hb, ← eq_byte rfl]
    exact ⟨by omega, rfl⟩
  | @two c _ hw hc =>
    have hb := width?_eq_some.mp hw
    rw [isSecond_iff] at hc
    rw [encodePoint_two (by omega) (by omega), ← eq_byte (b := b) (by omega), ← eq_byte (b := c) (by omega)]
    exact ⟨by omega, rfl⟩
  | @three c d _ hw hc hd =>
    have hb := width?_eq_some.mp hw
    rw [isSecond_iff] at hc
    rw [isContinuation_iff] at hd
    rw [encodePoint_three (by omega) (by omega), ← eq_byte (b := b) (by omega), ← eq_byte (b := c) (by omega),
      ← eq_byte (b := d) (by omega)]
    exact ⟨by omega, rfl⟩
  | @four c d e _ hw hc hd he =>
    have hb := width?_eq_some.mp hw
    rw [isSecond_iff] at hc
    rw [isContinuation_iff] at hd he
    rw [encodePoint_four (by omega), ← eq_byte (b := b) (by omega), ← eq_byte (b := c) (by omega),
      ← eq_byte (b := d) (by omega), ← eq_byte (b := e) (by omega)]
    exact ⟨by omega, rfl⟩

/-- The encoding of a character is a form that is decoded. -/
theorem exists_form {n : Nat} (hn : n.isValidChar) (rest : List UInt8) :
    ∃ b tail, encodePoint n ++ rest = b :: (tail ++ rest) ∧ Form b (tail ++ rest) n (tail.length + 1) := by
  simp only [Nat.isValidChar] at hn
  by_cases h₁ : n < 0x80
  · refine ⟨byte n, [], by rw [encodePoint_one h₁]; rfl, ?_⟩
    have hb := toNat_byte (n := n) (by omega)
    have hform : Form (byte n) ([] ++ rest) (byte n).toNat 1 := .one (by omega)
    rwa [hb] at hform
  · by_cases h₂ : n < 0x800
    · have hb := toNat_byte (n := 0xC0 + n / 64) (by omega)
      have hc := toNat_byte (n := 0x80 + n % 64) (by omega)
      have hform : Form (byte (0xC0 + n / 64)) (byte (0x80 + n % 64) :: rest) _ 2 :=
        .two (width?_eq_some.mpr (by omega)) (isSecond_iff.mpr (by omega))
      rw [hb, hc] at hform
      have hn : (0xC0 + n / 64 - 0xC0) * 64 + (0x80 + n % 64 - 0x80) = n := by omega
      rw [hn] at hform
      exact ⟨_, [byte (0x80 + n % 64)], by rw [encodePoint_two (by omega) h₂]; rfl, hform⟩
    · by_cases h₃ : n < 0x10000
      · have hb := toNat_byte (n := 0xE0 + n / 4096) (by omega)
        have hc := toNat_byte (n := 0x80 + n / 64 % 64) (by omega)
        have hd := toNat_byte (n := 0x80 + n % 64) (by omega)
        have hform : Form (byte (0xE0 + n / 4096)) (byte (0x80 + n / 64 % 64) :: byte (0x80 + n % 64) :: rest) _ 3 :=
          .three (width?_eq_some.mpr (by omega)) (isSecond_iff.mpr (by omega)) (isContinuation_iff.mpr (by omega))
        rw [hb, hc, hd] at hform
        have hn : ((0xE0 + n / 4096 - 0xE0) * 64 + (0x80 + n / 64 % 64 - 0x80)) * 64 + (0x80 + n % 64 - 0x80) = n := by
          omega
        rw [hn] at hform
        exact ⟨_, [byte (0x80 + n / 64 % 64), byte (0x80 + n % 64)],
          by rw [encodePoint_three (by omega) h₃]; rfl, hform⟩
      · have hb := toNat_byte (n := 0xF0 + n / 262144) (by omega)
        have hc := toNat_byte (n := 0x80 + n / 4096 % 64) (by omega)
        have hd := toNat_byte (n := 0x80 + n / 64 % 64) (by omega)
        have he := toNat_byte (n := 0x80 + n % 64) (by omega)
        have hform : Form (byte (0xF0 + n / 262144))
            (byte (0x80 + n / 4096 % 64) :: byte (0x80 + n / 64 % 64) :: byte (0x80 + n % 64) :: rest) _ 4 :=
          .four (width?_eq_some.mpr (by omega)) (isSecond_iff.mpr (by omega)) (isContinuation_iff.mpr (by omega))
            (isContinuation_iff.mpr (by omega))
        rw [hb, hc, hd, he] at hform
        have hn : (((0xF0 + n / 262144 - 0xF0) * 64 + (0x80 + n / 4096 % 64 - 0x80)) * 64 +
            (0x80 + n / 64 % 64 - 0x80)) * 64 + (0x80 + n % 64 - 0x80) = n := by omega
        rw [hn] at hform
        exact ⟨_, [byte (0x80 + n / 4096 % 64), byte (0x80 + n / 64 % 64), byte (0x80 + n % 64)],
          by rw [encodePoint_four (by omega)]; rfl, hform⟩

theorem decodePoint_encoded (c : Char) (rest : List UInt8) :
    ∃ b tail, String.utf8EncodeChar c ++ rest = b :: (tail ++ rest) ∧
      decodePoint b (tail ++ rest) = .ok (c.toNat, tail.length + 1) := by
  obtain ⟨b, tail, hbytes, hform⟩ := exists_form (n := c.toNat) c.valid rest
  rw [encodePoint_toNat] at hbytes
  exact ⟨b, tail, hbytes, decodePoint_eq_ok.mpr hform⟩

theorem encoded_of_decodePoint {b : UInt8} {rest : List UInt8} {n width : Nat}
    (h : decodePoint b rest = .ok (n, width)) :
    ∃ c : Char, c.toNat = n ∧ b :: rest = String.utf8EncodeChar c ++ rest.drop (width - 1) := by
  obtain ⟨hvalid, hbytes⟩ := (decodePoint_eq_ok.mp h).encoded
  refine ⟨Char.ofNatAux n hvalid, rfl, ?_⟩
  rw [← encodePoint_toNat]
  exact hbytes

/-! ### Texts -/

theorem encodeFrom_map_ofChar (position : Nat) (cs : List Char) :
    encodeFrom position (cs.map CodePoint.ofChar) = .ok (cs.flatMap String.utf8EncodeChar) := by
  induction cs generalizing position with
  | nil => rfl
  | cons c cs ih =>
    have hpoint : encodePoint (CodePoint.ofChar c).val = String.utf8EncodeChar c := encodePoint_toNat c
    rw [List.map_cons, encodeFrom, CodePoint.isSurrogate_ofChar, ih, hpoint]
    rfl

theorem decodeFrom_flatMap (fuel position : Nat) (cs : List Char)
    (hfuel : (cs.flatMap String.utf8EncodeChar).length ≤ fuel) :
    decodeFrom fuel position (cs.flatMap String.utf8EncodeChar) = .ok (cs.map CodePoint.ofChar) := by
  induction cs generalizing fuel position with
  | nil => cases fuel <;> rfl
  | cons c cs ih =>
    obtain ⟨b, tail, hbytes, hpoint⟩ := decodePoint_encoded c (cs.flatMap String.utf8EncodeChar)
    rw [List.flatMap_cons, hbytes] at hfuel ⊢
    rw [List.length_cons, List.length_append] at hfuel
    cases fuel with
    | zero => omega
    | succ fuel =>
      have hofNat : CodePoint.ofNat c.toNat = CodePoint.ofChar c :=
        Fin.ext (Nat.mod_eq_of_lt (CodePoint.ofChar c).isLt)
      rw [decodeFrom, hpoint]
      dsimp only
      rw [Nat.add_sub_cancel, List.drop_left, ih fuel _ (by omega), hofNat]
      rfl

theorem flatMap_of_decodeFrom {fuel position : Nat} {bytes : List UInt8} {t : Text} (hfuel : bytes.length ≤ fuel)
    (h : decodeFrom fuel position bytes = .ok t) :
    ∃ cs : List Char, bytes = cs.flatMap String.utf8EncodeChar := by
  induction fuel generalizing position bytes t with
  | zero => exact ⟨[], List.length_eq_zero_iff.mp (Nat.le_zero.mp hfuel)⟩
  | succ fuel ih =>
    cases bytes with
    | nil => exact ⟨[], rfl⟩
    | cons b rest =>
      rw [decodeFrom] at h
      cases hpoint : decodePoint b rest with
      | error fault =>
        rw [hpoint] at h
        cases h
      | ok found =>
        obtain ⟨n, width⟩ := found
        obtain ⟨c, _, hbytes⟩ := encoded_of_decodePoint hpoint
        rw [hpoint] at h
        dsimp only at h
        cases htail : decodeFrom fuel (position + width) (rest.drop (width - 1)) with
        | error fault =>
          rw [htail] at h
          cases h
        | ok more =>
          rw [List.length_cons] at hfuel
          obtain ⟨cs, hcs⟩ := ih (by rw [List.length_drop]; omega) htail
          exact ⟨c :: cs, by rw [List.flatMap_cons, ← hcs, hbytes]⟩

end Utf8

namespace Text

theorem toUtf8_map_ofChar (cs : List Char) :
    toUtf8 (cs.map CodePoint.ofChar) = .ok (cs.flatMap String.utf8EncodeChar) := Utf8.encodeFrom_map_ofChar 0 cs

theorem ofUtf8_flatMap (cs : List Char) :
    ofUtf8 (cs.flatMap String.utf8EncodeChar) = .ok (cs.map CodePoint.ofChar) :=
  Utf8.decodeFrom_flatMap _ 0 cs (Nat.le_refl _)

/-- What can be decoded are the bytes of some characters. -/
theorem ofUtf8_ok_iff {bytes : List UInt8} : (∃ t, ofUtf8 bytes = .ok t) ↔ Utf8.WellFormed bytes := by
  constructor
  · rintro ⟨t, ht⟩
    exact Utf8.flatMap_of_decodeFrom (Nat.le_refl _) ht
  · rintro ⟨cs, rfl⟩
    exact ⟨_, ofUtf8_flatMap cs⟩

/-- Decoding undoes encoding. -/
theorem ofUtf8_of_toUtf8 {t : Text} {bytes : List UInt8} (h : t.toUtf8 = .ok bytes) : ofUtf8 bytes = .ok t := by
  obtain ⟨cs, hcs⟩ := toChars?_isSome ((toUtf8_ok_iff t).mp ⟨bytes, h⟩)
  rw [map_ofChar_of_toChars? hcs] at h ⊢
  rw [toUtf8_map_ofChar] at h
  cases h
  exact ofUtf8_flatMap cs

end Text

end ModuleDocs
