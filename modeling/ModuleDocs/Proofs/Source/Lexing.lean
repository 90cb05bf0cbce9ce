import ModuleDocs.Source.Token.Lexer

/-!
# Steps of the lexer

A step of the lexer goes on in the text, and adds a token or none. The text of the token and the text that is left after
it are together no longer than the text that was left before, and a name has only characters of words. What these steps
keep holds of every stream of tokens.
-/

namespace ModuleDocs.Source

/-! ### What is left of a text -/

/-- What is left is not longer. -/
def Shrinks (skip : List Char → Option (List Char)) : Prop :=
  ∀ cs rest : List Char, skip cs = some rest → rest.length ≤ cs.length

theorem Shrinks.bind {f g : List Char → Option (List Char)} (hf : Shrinks f) (hg : Shrinks g) :
    Shrinks fun cs => (f cs).bind g := by
  intro cs rest h
  obtain ⟨mid, hmid, hrest⟩ := Option.bind_eq_some_iff.mp h
  exact Nat.le_trans (hg _ _ hrest) (hf _ _ hmid)

namespace Numeral

theorem skipDigits_shrinks (digit : Char → Bool) : Shrinks (skipDigits digit) := by
  intro cs rest h
  fun_induction skipDigits digit cs <;> simp_all <;> omega

theorem ending_shrinks : Shrinks ending := by
  intro cs rest h
  unfold ending at h
  split at h
  · cases h
    exact Nat.le_refl _
  · cases h

theorem skipUnit_shrinks : Shrinks skipUnit := by
  intro cs rest h
  unfold skipUnit at h
  split at h
  · exact Nat.le_succ_of_le (ending_shrinks _ _ h)
  · exact Nat.le_succ_of_le (ending_shrinks _ _ h)
  · exact ending_shrinks _ _ h

/-- The letter may be put back. -/
theorem skipExponent_length {letter : Char} {cs rest : List Char} (h : skipExponent letter cs = some rest) :
    rest.length ≤ cs.length + 1 := by
  have hdigits : Shrinks fun cs => (skipDigits Char.isDigit cs).bind skipUnit :=
    (skipDigits_shrinks _).bind skipUnit_shrinks
  unfold skipExponent at h
  split at h
  · split at h
    · have := hdigits _ _ h
      simp only [List.length_cons]
      omega
    · cases h
  · cases h
  · split at h
    · have := hdigits _ _ h
      simp only [List.length_cons]
      omega
    · cases h
  · cases h
  · split at h
    · have := hdigits _ _ h
      simp only [List.length_cons]
      omega
    · exact ending_shrinks _ _ h
  · exact ending_shrinks _ _ h

theorem skipTail_shrinks : Shrinks skipTail := by
  intro cs rest h
  unfold skipTail at h
  split at h
  · exact skipExponent_length h
  · exact skipExponent_length h
  · exact skipUnit_shrinks _ _ h

theorem skipFraction_shrinks : Shrinks skipFraction := by
  intro cs rest h
  unfold skipFraction at h
  split at h
  · split at h
    · exact Nat.le_succ_of_le ((skipDigits_shrinks _).bind skipTail_shrinks _ _ h)
    · exact skipTail_shrinks _ _ h
  · cases h
    exact Nat.le_refl _

theorem skipRadix_shrinks (digit : Char → Bool) : Shrinks (skipRadix digit) := by
  intro cs rest h
  have hbegin : (if cs.head? == some '_' then cs.drop 1 else cs).length ≤ cs.length := by
    split
    · simp
    · exact Nat.le_refl _
  unfold skipRadix at h
  dsimp only at h
  split at h
  · cases h
  · rename_i c digits hdigits
    rw [hdigits, List.length_cons] at hbegin
    split at h
    · obtain ⟨after, hafter, h⟩ := Option.bind_eq_some_iff.mp h
      have hle := skipDigits_shrinks _ _ _ hafter
      split at h
      · cases h
      · have := ending_shrinks _ _ h
        omega
    · cases h

theorem skipDecimal_shrinks : Shrinks skipDecimal := by
  intro cs rest h
  unfold skipDecimal at h
  obtain ⟨after, hafter, h⟩ := Option.bind_eq_some_iff.mp h
  refine Nat.le_trans ?_ (skipDigits_shrinks _ _ _ hafter)
  split at h
  · exact Nat.le_succ_of_le (skipFraction_shrinks _ _ h)
  · split at h
    · exact skipTail_shrinks _ _ h
    · split at h
      · cases h
      · exact ending_shrinks _ _ h
  · split at h
    · cases h
    · cases h
      exact Nat.le_refl _

theorem skip_shrinks : Shrinks skip := by
  intro cs rest h
  unfold skip at h
  split at h
  · exact Nat.le_succ_of_le (skipFraction_shrinks _ _ h)
  · split at h
    · exact Nat.le_succ_of_le (Nat.le_succ_of_le (skipRadix_shrinks _ _ _ h))
    · split at h
      · exact Nat.le_succ_of_le (Nat.le_succ_of_le (skipRadix_shrinks _ _ _ h))
      · split at h
        · exact Nat.le_succ_of_le (Nat.le_succ_of_le (skipRadix_shrinks _ _ _ h))
        · exact skipDecimal_shrinks _ _ h
  · exact skipDecimal_shrinks _ _ h

end Numeral

namespace Lexer

theorem stringStart?_shrinks (b r u f : Bool) : Shrinks (stringStart? b r u f) := by
  intro cs rest h
  fun_induction stringStart? b r u f cs <;> grind

theorem skipShortString_shrinks (quote : Char) : Shrinks (skipShortString quote) := by
  intro cs rest h
  fun_induction skipShortString quote cs <;> simp_all <;> omega

theorem skipLongString_shrinks (quote : Char) : Shrinks (skipLongString quote) := by
  intro cs rest h
  fun_induction skipLongString quote cs <;> simp_all <;> omega

theorem skipString_shrinks : Shrinks skipString := by
  intro cs rest h
  unfold skipString at h
  split at h
  · split at h
    · split at h
      · have := skipLongString_shrinks _ _ _ h
        simp only [List.length_cons]
        omega
      · cases h
        simp
    · exact Nat.le_succ_of_le (skipShortString_shrinks _ _ _ h)
  · split at h
    · cases h
      simp
    · cases h
  · cases h

theorem skipOperator?_shrinks : Shrinks skipOperator? := by
  intro cs rest h
  unfold skipOperator? at h
  split at h
  · cases h
    simp
  · split at h
    · cases h
      simp
    · cases h

theorem length_skipBlanks_le (cs : List Char) : (skipBlanks cs).length ≤ cs.length := by
  have hdrop : ∀ (p : Char → Bool) (l : List Char), (l.dropWhile p).length ≤ l.length :=
    fun p l => (List.dropWhile_sublist p).length_le
  unfold skipBlanks
  dsimp only
  split
  · exact Nat.le_trans (hdrop _ _) (hdrop _ _)
  · exact hdrop _ _

theorem length_lineStart_le {start begun : LineStart} {cs : List Char} (h : lineStart start cs = .ok begun) :
    begun.rest.length ≤ cs.length := by
  fun_induction lineStart start cs <;> grind

/-! ### Steps -/

/-- A token that a step can add. -/
structure Takes (s : State) (kind : TokenKind) (text rest : List Char) : Prop where
  size : text.length + rest.length ≤ s.rest.length
  word : kind = .name → text ≠ [] ∧ ∀ c ∈ text, Numeral.isWordChar c = true

/-- A property of states that steps keep. -/
structure Invariant (I : State → Prop) : Prop where
  moved : ∀ {s s' : State}, I s → s'.tokens = s.tokens → s'.rest.length ≤ s.rest.length → I s'
  pushed : ∀ {s : State} {kind : TokenKind} {text rest : List Char}, I s → Takes s kind text rest →
    I (s.push kind text rest)

variable {I : State → Prop} {s s' : State}

theorem Takes.other {kind : TokenKind} (hkind : kind ≠ .name) {text rest : List Char}
    (hsize : text.length + rest.length ≤ s.rest.length) : Takes s kind text rest :=
  ⟨hsize, fun h => absurd h hkind⟩

/-- A token between the position and the text that is left. -/
theorem Invariant.taken (hI : Invariant I) (h : I s) {kind : TokenKind} (hkind : kind ≠ .name) {rest : List Char}
    (hrest : rest.length ≤ s.rest.length) : I (s.take kind rest) := by
  have hsize : (s.rest.take (s.rest.length - rest.length)).length + rest.length ≤ s.rest.length := by
    rw [List.length_take]
    omega
  exact hI.moved (hI.pushed h (.other hkind hsize)) rfl (Nat.le_refl _)

theorem reindent_keeps (hI : Invariant I) (h : I s) {width : Indentation} (hs' : reindent s width = some s') :
    I s' := by
  have hclosed : ∀ (closed : List Nat) (s : State), I s →
      I (closed.foldl (fun s _ => s.push .dedent [] s.rest) s) := by
    intro closed
    induction closed with
    | nil => exact fun s hs => hs
    | cons _ closed ih => exact fun s hs => ih _ (hI.pushed hs (.other (by decide) (by simp)))
  unfold reindent at hs'
  split at hs'
  · cases hs'
    exact h
  · split at hs'
    · split at hs'
      · cases hs'
        exact h
      · cases hs'
    · split at hs'
      · split at hs'
        · cases hs'
        · cases hs'
          refine hI.pushed ?_ (.other (by decide) (by simp))
          exact hI.moved h rfl (Nat.le_refl _)
      · dsimp only at hs'
        split at hs'
        · cases hs'
          exact hclosed _ _ (hI.moved h rfl (Nat.le_refl _))
        · cases hs'

theorem operator_keeps (hI : Invariant I) (h : I s) {c : Char} {cs : List Char} (hrest : s.rest = c :: cs)
    (hs' : operator s c cs = .ok s') : I s' := by
  have hother : TokenKind.operator ≠ .name := by decide
  have hsize : [c].length + cs.length ≤ s.rest.length := by simp [hrest, Nat.add_comm]
  unfold operator at hs'
  split at hs'
  · rename_i rest hskip
    cases hs'
    exact hI.taken h hother (skipOperator?_shrinks _ _ hskip)
  · split at hs'
    · split at hs'
      · cases hs'
      · cases hs'
        refine hI.pushed ?_ (.other hother hsize)
        exact hI.moved h rfl (Nat.le_refl _)
    · split at hs'
      · split at hs'
        · cases hs'
        · split at hs'
          · cases hs'
            refine hI.pushed ?_ (.other hother hsize)
            exact hI.moved h rfl (Nat.le_refl _)
          · cases hs'
      · split at hs'
        · cases hs'
        · cases hs'
          exact hI.pushed h (.other hother hsize)

theorem word_keeps (hI : Invariant I) (h : I s) {c : Char} {cs : List Char} (hrest : s.rest = c :: cs)
    (hc : Numeral.isWordChar c = true) (hs' : word s = .ok s') : I s' := by
  have htext : s.rest.takeWhile Numeral.isWordChar ≠ [] := by
    rw [hrest, List.takeWhile_cons, if_pos hc]
    exact List.cons_ne_nil _ _
  have hsize : (s.rest.takeWhile Numeral.isWordChar).length + (s.rest.dropWhile Numeral.isWordChar).length ≤
      s.rest.length :=
    Nat.le_of_eq (by rw [← List.length_append, List.takeWhile_append_dropWhile])
  unfold word at hs'
  dsimp only at hs'
  split at hs'
  · cases hs'
    exact hI.pushed h ⟨hsize, fun _ => ⟨htext, List.all_eq_true.mp List.all_takeWhile⟩⟩
  · cases hs'

theorem token_keeps (hI : Invariant I) (h : I s) {c : Char} {cs : List Char} (hrest : s.rest = c :: cs)
    (hs' : token s c cs = .ok s') : I s' := by
  unfold token at hs'
  split at hs'
  · rename_i quoted hquoted
    unfold string at hs'
    split at hs'
    · rename_i rest hskip
      cases hs'
      refine hI.taken h (by decide) ?_
      exact Nat.le_trans (skipString_shrinks _ _ hskip) (stringStart?_shrinks _ _ _ _ _ _ hquoted)
    · cases hs'
  · split at hs'
    · rename_i hstart
      have hc : Numeral.isWordChar c = true := by
        simp only [Bool.or_eq_true, decide_eq_true_eq] at hstart
        simp only [Numeral.isWordChar, Char.isAlphanum, Bool.or_eq_true, decide_eq_true_eq]
        rcases hstart with (halpha | hunder) | hhigh
        · exact Or.inl (Or.inl (Or.inl halpha))
        · exact Or.inl (Or.inr hunder)
        · exact Or.inr hhigh
      exact word_keeps hI h hrest hc hs'
    · split at hs'
      · split at hs'
        · rename_i rest hskip
          cases hs'
          exact hI.taken h (by decide) (Numeral.skip_shrinks _ _ hskip)
        · cases hs'
      · exact operator_keeps hI h hrest hs'

/-! ### Streams -/

/-- The tokens of a stream are those of a state with the property. -/
def EndsIn (I : State → Prop) (stream : TokenStream) : Prop := ∃ s, I s ∧ stream.tokens = s.tokens

theorem endsIn_stop (h : I s) (e : Ending) : EndsIn I (s.stop e) := ⟨s, h, rfl⟩

theorem beginLine_keeps (hI : Invariant I) (lines : Nat) (h : I s) :
    (∀ s', beginLine lines s = .ok s' → I s') ∧ ∀ stream, beginLine lines s = .error stream → EndsIn I stream := by
  unfold beginLine
  split
  · exact ⟨fun s' hs' => (nomatch hs'), fun stream hs => by cases hs; exact endsIn_stop h _⟩
  · exact ⟨fun s' hs' => (nomatch hs'), fun stream hs => by cases hs; exact endsIn_stop h _⟩
  · rename_i start hstart
    have hle : start.rest.length ≤ s.rest.length := length_lineStart_le hstart
    dsimp only
    split
    · refine ⟨fun s' hs' => ?_, fun stream hs => (nomatch hs)⟩
      cases hs'
      exact hI.moved h rfl (Nat.le_trans (length_skipBlanks_le _) hle)
    · refine ⟨fun s' hs' => ?_, fun stream hs => (nomatch hs)⟩
      cases hs'
      exact hI.moved h rfl hle
    · split
      · split
        · rename_i t ht
          refine ⟨fun s' hs' => ?_, fun stream hs => (nomatch hs)⟩
          cases hs'
          refine reindent_keeps hI ?_ ht
          exact hI.moved h rfl hle
        · refine ⟨fun s' hs' => (nomatch hs'), fun stream hs => ?_⟩
          cases hs
          exact endsIn_stop h _
      · refine ⟨fun s' hs' => ?_, fun stream hs => (nomatch hs)⟩
        cases hs'
        exact hI.moved h rfl hle

theorem finish_endsIn (hI : Invariant I) (lines : Nat) (h : I s) : EndsIn I (finish lines s) := by
  unfold finish
  split
  · refine endsIn_stop (hI.pushed ?_ (.other (by decide) (Nat.zero_le _))) _
    exact hI.moved h rfl (Nat.le_refl _)
  · exact endsIn_stop h _

theorem run_endsIn (hI : Invariant I) (lines fuel : Nat) (h : I s) : EndsIn I (run lines fuel s) := by
  induction fuel generalizing s with
  | zero => exact endsIn_stop h _
  | succ fuel ih =>
    unfold run
    split
    · rename_i stream hstream
      split at hstream
      · exact (beginLine_keeps hI lines h).2 stream hstream
      · cases hstream
    · rename_i begun hbegun
      have hb : I begun := by
        split at hbegun
        · exact (beginLine_keeps hI lines h).1 begun hbegun
        · cases hbegun
          exact h
      have hblanks : I { begun with rest := skipBlanks begun.rest } := hI.moved hb rfl (length_skipBlanks_le _)
      dsimp only
      split
      · exact finish_endsIn hI lines hblanks
      · rename_i cs hrest
        have hcs : cs.length ≤ (skipBlanks begun.rest).length := by simp [hrest]
        apply ih
        split
        · exact hI.moved hblanks rfl hcs
        · refine hI.moved (hI.pushed hblanks (.other (by decide) ?_)) rfl (Nat.le_refl _)
          simpa using hcs
      · rename_i cs hrest
        split
        · exact endsIn_stop hblanks _
        · have hcs : cs.length ≤ (skipBlanks begun.rest).length := by
            simp only [hrest, List.length_cons]
            omega
          exact ih (hI.moved hblanks rfl hcs)
      · exact endsIn_stop hblanks _
      · rename_i c cs _ _ _ hrest
        split
        · exact endsIn_stop hblanks _
        · rename_i t ht
          exact ih (token_keeps hI hblanks hrest ht)

end Lexer

/-- What steps keep holds of the tokens of a text. -/
theorem TokenStream.ofText_endsIn {I : Lexer.State → Prop} (hI : Lexer.Invariant I) (kind : TextKind) (line : Nat)
    (source : List Char) (h : I ⟨Lexer.prepare kind source, line, true, [⟨0, 0⟩], [], #[]⟩) :
    Lexer.EndsIn I (TokenStream.ofText kind line source) :=
  Lexer.run_endsIn hI _ _ h

end ModuleDocs.Source
