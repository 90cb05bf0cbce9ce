import ModuleDocs.Proofs.Settings.PageSuffix

/-!
# Values that settings accept

What a value makes of a setting that accepts it: a suffix gets its dot, a log level is one of five in upper case, and
a truth value may be spelled in words or numbers. Settings that are loaded hold what their own values make of them.
-/

namespace ModuleDocs

/-! ### The values of a setting -/

namespace Setting

def Held : Setting → Type
  | sourceSuffix => Text
  | outputSuffix => Text
  | skipPatterns => List Text
  | includePrivate => Bool
  | attributeDocstrings => Bool
  | logLevel => Text
  | jsonLogs => Option Bool

end Setting

namespace Settings

def get (s : Settings) : (n : Setting) → n.Held
  | .sourceSuffix => s.sourceSuffix
  | .outputSuffix => s.outputSuffix
  | .skipPatterns => s.skipPatterns
  | .includePrivate => s.includePrivate
  | .attributeDocstrings => s.attributeDocstrings
  | .logLevel => s.logLevel
  | .jsonLogs => s.jsonLogs

/-- Values that stand for a truth value: a word for it, or zero and one. -/
inductive StandsFor : Value → Bool → Prop where
  | bool (b : Bool) : StandsFor (.bool b) b
  | word {t : Text} {b : Bool} (h : wordTruth? t = some b) : StandsFor (.str t) b
  | int {n : Int} {b : Bool} (h : numberTruth? n = some b) : StandsFor (.int n) b
  | float {negative : Bool} {magnitude : Binary64} {n : Int} {b : Bool} (hn : wholeNumber? negative magnitude = some n)
      (h : numberTruth? n = some b) : StandsFor (.float negative magnitude) b

theorem elim_eq_ok {β : Type} {f : ValueFault} {b : β} {o : Option β} :
    o.elim (.error f) Except.ok = .ok b ↔ o = some b := by
  cases o <;> simp

theorem toBool_eq_ok {v : Value} {b : Bool} : toBool v = .ok b ↔ StandsFor v b := by
  constructor
  · intro h
    cases v with
    | bool c =>
      cases h
      exact .bool _
    | str t => exact .word (elim_eq_ok.mp h)
    | int n => exact .int (elim_eq_ok.mp h)
    | float negative magnitude =>
      cases hn : wholeNumber? negative magnitude with
      | none => simp only [toBool, hn, reduceCtorEq] at h
      | some n =>
        simp only [toBool, hn] at h
        exact .float hn (elim_eq_ok.mp h)
    | _ => cases h
  · intro h
    cases h with
    | bool => rfl
    | word h => exact elim_eq_ok.mpr h
    | int h => exact elim_eq_ok.mpr h
    | float hn h =>
      simp only [toBool, hn]
      exact elim_eq_ok.mpr h

theorem toChoice_eq_ok {v : Value} {c : Option Bool} :
    toChoice v = .ok c ↔ v = .null ∧ c = none ∨ ∃ b, StandsFor v b ∧ c = some b := by
  have hother : v ≠ .null → toChoice v = (toBool v).map some := by
    intro hv
    cases v <;> first | rfl | exact absurd rfl hv
  by_cases hv : v = .null
  · subst hv
    have hnot : ∀ b, ¬ StandsFor .null b := fun b hb => nomatch hb
    simp [toChoice, hnot, eq_comm]
  · rw [hother hv]
    simp only [← toBool_eq_ok]
    cases toBool v <;> simp [Except.map, hv, eq_comm]

theorem toLevel_eq_ok {v : Value} {level : Text} :
    toLevel v = .ok level ↔ ∃ t, v = .str t ∧ level = t.toUpper ∧ level ∈ levels := by
  cases v with
  | str t =>
    have hcases : toLevel (.str t) =
        if levels.contains t.toUpper then .ok t.toUpper else .error (.unknownLevel t.toUpper) := rfl
    rw [hcases]
    by_cases hlevel : t.toUpper ∈ levels
    · simp only [List.contains_eq_mem, hlevel, decide_true, if_true, Except.ok.injEq]
      grind
    · simp only [List.contains_eq_mem, hlevel, decide_false]
      grind
  | _ => simp [toLevel, toText, bind, Except.bind]

theorem toText_eq_ok {v : Value} {t : Text} : toText v = .ok t ↔ v = .str t := by
  cases v <;> simp [toText]

theorem exists_texts {items : List Value} (h : ∀ v ∈ items, ∃ t, v = .str t) :
    ∃ ts : List Text, items = ts.map .str := by
  induction items with
  | nil => exact ⟨[], rfl⟩
  | cons v items ih =>
    obtain ⟨t, rfl⟩ := h v List.mem_cons_self
    obtain ⟨ts, rfl⟩ := ih fun w hw => h w (List.mem_cons_of_mem _ hw)
    exact ⟨t :: ts, rfl⟩

theorem toTexts_map_str (ts : List Text) : toTexts (.list (ts.map .str)) = .ok ts := by
  have htexts : ((ts.map Value.str).filterMap fun v => (toText v).toOption) = ts := by
    rw [List.filterMap_map]
    exact List.filterMap_some
  refine (if_pos ?_).trans (congrArg Except.ok htexts)
  rw [List.isEmpty_iff, List.filterMap_eq_nil_iff]
  intro e he
  obtain ⟨t, _, ht⟩ := List.mem_map.mp (List.fst_mem_of_mem_zipIdx he)
  dsimp only
  rw [← ht]
  rfl

theorem toTexts_eq_ok {v : Value} {ts : List Text} : toTexts v = .ok ts ↔ v = .list (ts.map .str) := by
  constructor
  · intro h
    cases v with
    | list items =>
      have hall : ∀ w ∈ items, ∃ t, w = .str t := by
        intro w hw
        rw [← List.zipIdx_map_fst 0 items] at hw
        obtain ⟨⟨w, i⟩, he, rfl⟩ := List.mem_map.mp hw
        unfold toTexts at h
        dsimp only at h
        split at h
        · rename_i hempty
          have hnone := List.filterMap_eq_nil_iff.mp (List.isEmpty_iff.mp hempty) _ he
          dsimp only at hnone
          split at hnone
          · rename_i t ht
            exact ⟨t, toText_eq_ok.mp ht⟩
          · cases hnone
        · cases h
      obtain ⟨us, rfl⟩ := exists_texts hall
      rw [toTexts_map_str] at h
      cases h
      rfl
    | _ => cases h
  · rintro rfl
    exact toTexts_map_str ts

end Settings

namespace Setting

open Settings (StandsFor dotted levels standard)

def Accepts : (n : Setting) → Value → n.Held → Prop
  | sourceSuffix, v, s => ∃ t, v = .str t ∧ t ≠ [] ∧ s = dotted t
  | outputSuffix, v, s => ∃ t, v = .str t ∧ t ≠ [] ∧ s = dotted t
  | skipPatterns, v, ts => v = .list (List.map .str ts)
  | includePrivate, v, b => StandsFor v b
  | attributeDocstrings, v, b => StandsFor v b
  | logLevel, v, level => ∃ t : Text, v = .str t ∧ level = t.toUpper ∧ level ∈ levels
  | jsonLogs, v, choice => v = .null ∧ choice = none ∨ ∃ b, StandsFor v b ∧ choice = some b

/-- A setting holds what a value makes of it, or the standard one if there is none. -/
def Takes (n : Setting) (v : Option Value) (a : n.Held) : Prop :=
  v = none ∧ a = standard.get n ∨ ∃ w, v = some w ∧ n.Accepts w a

end Setting

namespace Settings

variable {value value' : SettingSources.Supply} {s s' : Settings}

theorem takes_of_check {α : Type} {n : Setting} {standard a : α} {accept : Value → Except ValueFault α}
    {v : Option Value} {P : Value → Prop} (hP : ∀ w, accept w = .ok a → P w)
    (h : check n standard accept v = (a, [])) : v = none ∧ a = standard ∨ ∃ w, v = some w ∧ P w := by
  rcases check_eq_ok.mp h with hnone | ⟨w, hv, hw⟩
  · exact Or.inl hnone
  · exact Or.inr ⟨w, hv, hP w hw⟩

theorem toTexts_error_ne_nil (v : Value) : toTexts v ≠ .error [] := by
  cases v with
  | list items =>
    intro h
    unfold toTexts at h
    dsimp only at h
    split at h
    · cases h
    · rename_i hne
      exact hne (List.isEmpty_iff.mpr (Except.error.inj h))
  | _ => exact fun h => by cases h

theorem checkPatterns_eq_ok {v : Option Value} {ts : List Text} (h : checkPatterns v = (ts, [])) :
    v = none ∧ ts = standard.skipPatterns ∨ ∃ w, v = some w ∧ toTexts w = .ok ts := by
  cases v with
  | none =>
    cases h
    exact Or.inl ⟨rfl, rfl⟩
  | some w =>
    refine Or.inr ⟨w, rfl, ?_⟩
    unfold checkPatterns at h
    rw [Option.map_some] at h
    cases hw : toTexts w with
    | ok us =>
      rw [hw] at h
      cases h
      rfl
    | error faults =>
      rw [hw] at h
      obtain ⟨_, hnil⟩ := Prod.mk.inj h
      exact absurd hw (List.map_eq_nil_iff.mp hnil ▸ toTexts_error_ne_nil w)

/-- Every setting is taken from its own value. -/
theorem Checked.takes (h : Checked value s) (n : Setting) : n.Takes (value n) (s.get n) := by
  cases n with
  | sourceSuffix => exact takes_of_check (fun _ => toSuffix_eq_ok.mp) h.sourceSuffix
  | outputSuffix => exact takes_of_check (fun _ => toSuffix_eq_ok.mp) h.outputSuffix
  | skipPatterns =>
    rcases checkPatterns_eq_ok h.skipPatterns with hnone | ⟨w, hv, hw⟩
    · exact Or.inl hnone
    · exact Or.inr ⟨w, hv, toTexts_eq_ok.mp hw⟩
  | includePrivate => exact takes_of_check (fun _ => toBool_eq_ok.mp) h.includePrivate
  | attributeDocstrings => exact takes_of_check (fun _ => toBool_eq_ok.mp) h.attributeDocstrings
  | logLevel => exact takes_of_check (fun _ => toLevel_eq_ok.mp) h.logLevel
  | jsonLogs => exact takes_of_check (fun _ => toChoice_eq_ok.mp) h.jsonLogs

theorem Checked.get_eq (h : Checked value s) (h' : Checked value' s') {n : Setting} (hn : value n = value' n) :
    s.get n = s'.get n := by
  cases n with
  | sourceSuffix => exact (Prod.mk.inj (h.sourceSuffix.symm.trans (hn ▸ h'.sourceSuffix))).1
  | outputSuffix => exact (Prod.mk.inj (h.outputSuffix.symm.trans (hn ▸ h'.outputSuffix))).1
  | skipPatterns => exact (Prod.mk.inj (h.skipPatterns.symm.trans (hn ▸ h'.skipPatterns))).1
  | includePrivate => exact (Prod.mk.inj (h.includePrivate.symm.trans (hn ▸ h'.includePrivate))).1
  | attributeDocstrings => exact (Prod.mk.inj (h.attributeDocstrings.symm.trans (hn ▸ h'.attributeDocstrings))).1
  | logLevel => exact (Prod.mk.inj (h.logLevel.symm.trans (hn ▸ h'.logLevel))).1
  | jsonLogs => exact (Prod.mk.inj (h.jsonLogs.symm.trans (hn ▸ h'.jsonLogs))).1

end Settings

end ModuleDocs
