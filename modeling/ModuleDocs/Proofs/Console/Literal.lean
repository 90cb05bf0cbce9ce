import Mathlib.Data.List.SplitBy
import ModuleDocs.Proofs.Console.Laws

/-!
# Markup on a console

A text without markup is shown as it is, a tag that starts a style shows nothing, and a tag that ends what was not
started is a fault, whatever names between colons stand for.
-/

namespace ModuleDocs.Console

open Text

/-! ### Styles -/

namespace Style

def parenthesis : CodePoint := CodePoint.ofChar '('

theorem parenthesis_not_mem_lower {t : Text} (h : parenthesis ∉ t) : parenthesis ∉ lower t := by
  intro hmem
  obtain ⟨c, hc, hlower⟩ := List.mem_map.mp hmem
  unfold CodePoint.asciiLower at hlower
  split at hlower
  · rename_i hupper
    have hval := congrArg Fin.val hlower
    have hsmall : (CodePoint.ofNat (c.val + 32)).val = c.val + 32 := Nat.mod_eq_of_lt (by omega)
    have hparenthesis : parenthesis.val = 0x28 := rfl
    omega
  · exact h (hlower ▸ hc)

theorem checkColor_complete {t : Text} (h : parenthesis ∉ t) : checkColor t ≠ .error .missingNumber := by
  unfold checkColor
  split
  · simp
  · cases hnumbers : inParentheses? "rgb(" t with
    | none => simp
    | some numbers =>
      unfold inParentheses? at hnumbers
      dsimp only at hnumbers
      split at hnumbers
      · rename_i hstart
        have hbegins := List.isPrefixOf_iff_prefix.mp (Bool.and_eq_true_iff.mp hstart).1
        exact absurd (hbegins.subset (by decide)) h
      · cases hnumbers

theorem checkColor_bind_complete {t : Text} (h : parenthesis ∉ t) {rest : Except StyleFault Style}
    (hrest : rest ≠ .error .missingNumber) : (checkColor t >>= fun _ => rest) ≠ .error .missingNumber := by
  have hcolor := checkColor_complete h
  cases hchecked : checkColor t with
  | ok _ => exact hrest
  | error f =>
    rw [hchecked] at hcolor
    exact fun heq => hcolor (congrArg Except.error (Except.error.inj heq))

theorem read_complete (s : Style) {ws : List Text} (h : ∀ w ∈ ws, parenthesis ∉ w) :
    read s ws ≠ .error .missingNumber := by
  fun_induction read s ws with
  | case1 | case2 | case4 | case6 | case7 => simp
  | case3 s word _ _ color rest ih =>
    obtain ⟨_, hcolor, hrest⟩ := List.forall_mem_cons.mp h |>.imp_right List.forall_mem_cons.mp
    exact checkColor_bind_complete (parenthesis_not_mem_lower hcolor) (ih hrest)
  | case5 s word _ _ _ name rest _ _ ih => exact ih fun w hw => h w (by simp [hw])
  | case8 s word _ _ _ _ target rest ih => exact ih fun w hw => h w (by simp [hw])
  | case9 s word rest _ _ _ _ _ _ ih => exact ih fun w hw => h w (by simp [hw])
  | case10 s word rest _ _ _ _ _ ih =>
    obtain ⟨hword, hrest⟩ := List.forall_mem_cons.mp h
    exact checkColor_bind_complete (parenthesis_not_mem_lower hword) (ih hrest)

theorem normal?_complete {t : Text} (h : parenthesis ∉ t) : ∃ style, normal? t = some style := by
  have hwords : ∀ w ∈ wordsOf t, parenthesis ∉ w := by
    intro w hw hmem
    have hpiece := (List.mem_filter.mp hw).1
    have hflatten := List.flatten_splitBy (fun a b : CodePoint => a.isBlank == b.isBlank) t
    rw [← hflatten] at h
    exact h (List.mem_flatten.mpr ⟨w, hpiece, hmem⟩)
  unfold normal?
  dsimp only
  split
  · exact ⟨_, rfl⟩
  · cases hread : read empty (wordsOf t) with
    | ok s => exact ⟨_, rfl⟩
    | error f =>
      cases f with
      | unknown => exact ⟨_, rfl⟩
      | missingNumber => exact absurd hread (read_complete empty hwords)

end Style

namespace Markup

/-! ### Tags -/

theorem startsTag_ne {c : CodePoint} (h : startsTag c = true) : c ≠ opening ∧ c ≠ closing := by
  constructor
  · rintro rfl
    exact absurd h (by decide)
  · rintro rfl
    exact absurd h (by decide)

theorem takeWhile_unbracketed {content : Text} (hopening : opening ∉ content) (hclosing : closing ∉ content)
    (rest : Text) :
    (content ++ closing :: rest).takeWhile (fun c => c != opening && c != closing) = content := by
  rw [List.takeWhile_append_of_pos, List.takeWhile_cons_of_neg (by decide), List.append_nil]
  intro c hc
  have hne : c ≠ opening ∧ c ≠ closing := ⟨fun h => hopening (h ▸ hc), fun h => hclosing (h ▸ hc)⟩
  simpa using hne

theorem tagContent?_of_tag {c : CodePoint} {cs : Text} (hstart : startsTag c = true) (hopening : opening ∉ c :: cs)
    (hclosing : closing ∉ c :: cs) (rest : Text) :
    tagContent? (opening :: (c :: cs ++ closing :: rest)) = some (c :: cs) := by
  have htake := takeWhile_unbracketed hopening hclosing rest
  unfold tagContent?
  simp only [List.cons_append, List.tail_cons] at htake ⊢
  rw [htake]
  simp [hstart]

theorem tagContent?_eq_some {t content : Text} (h : tagContent? t = some content) :
    (∃ rest, t = opening :: (content ++ closing :: rest)) ∧ (∃ c cs, content = c :: cs ∧ startsTag c = true) ∧
      opening ∉ content ∧ closing ∉ content := by
  cases t with
  | nil => cases h
  | cons bracket t =>
    cases t with
    | nil => cases h
    | cons c t =>
      unfold tagContent? at h
      dsimp only [List.tail_cons] at h
      obtain ⟨⟨rfl, hstart, hclosing⟩, hcontent⟩ := Option.ite_none_right_eq_some.mp h
      have hcut := Option.some.inj hcontent
      have hsplit := List.takeWhile_append_dropWhile (p := fun c => c != opening && c != closing) (l := c :: t)
      have hall : ∀ d ∈ content, d ≠ opening ∧ d ≠ closing := by
        intro d hd
        rw [← hcut] at hd
        simpa using List.all_eq_true.mp List.all_takeWhile d hd
      refine ⟨?_, ?_, fun hmem => (hall _ hmem).1 rfl, fun hmem => (hall _ hmem).2 rfl⟩
      · rw [hcut] at hclosing hsplit
        -- What follows the content starts with the bracket that closes the tag.
        rw [List.getElem?_cons_succ, ← hsplit, List.getElem?_append_right (Nat.le_refl _), Nat.sub_self] at hclosing
        cases hdrop : (c :: t).dropWhile (fun c => c != opening && c != closing) with
        | nil =>
          rw [hdrop] at hclosing
          cases hclosing
        | cons d rest =>
          rw [hdrop] at hclosing hsplit
          cases hclosing
          exact ⟨rest, by rw [hsplit]⟩
      · have hne := startsTag_ne hstart
        rw [List.takeWhile_cons_of_pos (by simpa using hne)] at hcut
        exact ⟨c, _, hcut.symm, hstart⟩

/-- No tag comes about where a tag follows. -/
theorem tagContent?_append {s rest : Text} (hs : s ≠ []) (h : tagContent? s = none)
    (hrest : rest = [] ∨ rest.head? = some opening) : tagContent? (s ++ rest) = none := by
  cases htag : tagContent? (s ++ rest) with
  | none => rfl
  | some content =>
    obtain ⟨⟨more, hmore⟩, ⟨c, cs, rfl, hstart⟩, hopening, hclosing⟩ := tagContent?_eq_some htag
    have hwhole : ∀ more, s ≠ opening :: (c :: cs ++ closing :: more) := by
      rintro more rfl
      rw [tagContent?_of_tag hstart hopening hclosing] at h
      cases h
    have hsplit : s ++ rest = (opening :: (c :: cs ++ [closing])) ++ more := by
      rw [hmore]
      simp
    rcases List.append_eq_append_iff.mp hsplit with ⟨tail, htag, htail⟩ | ⟨tail, hs', _⟩
    · cases tail with
      | nil => exact absurd htag.symm (by simpa using hwhole [])
      | cons d tail =>
        -- The tag would go on with the bracket that starts the next one.
        have hd : d = opening := by simpa [htail] using hrest
        obtain ⟨b, s, rfl⟩ := List.exists_cons_of_ne_nil hs
        have hmem : opening ∈ c :: cs ++ [closing] := by
          rw [List.cons_append] at htag
          rw [List.cons_append, (List.cons.inj htag).2, hd]
          simp
        rcases List.mem_append.mp hmem with hmem | hmem
        · exact absurd hmem hopening
        · exact absurd (List.mem_singleton.mp hmem) (by decide)
    · exact absurd hs' (by simpa using hwhole tail)

/-! ### Parts -/

theorem parts_skip (position skip : Nat) (run t : Text) :
    parts position skip run t = parts (position + skip) 0 run (t.drop skip) := by
  induction t generalizing position skip with
  | nil => simp [parts]
  | cons c cs ih =>
    cases skip with
    | zero => rfl
    | succ skip =>
      rw [parts, ih, List.drop_succ_cons]
      congr 1
      omega

/-- The end of a text, or a tag that no backslash escapes. -/
def Ended (before rest : Text) : Prop :=
  rest = [] ∨ rest.head? = some opening ∧ before.getLast? ≠ some backslash

theorem Ended.tail {c : CodePoint} {cs rest : Text} (h : Ended (c :: cs) rest) : Ended cs rest := by
  refine h.imp_right fun ⟨hopening, hlast⟩ => ⟨hopening, ?_⟩
  cases cs with
  | nil => simp
  | cons d ds => rwa [List.getLast?_cons_cons] at hlast

end Markup

open Markup

/-! ### Literal texts -/

namespace Literal

theorem tail {c : CodePoint} {cs : Text} (h : Literal (c :: cs)) : Literal cs where
  tagless rest hrest := h.tagless rest (hrest.trans (List.suffix_cons c cs))
  unescaped rest hrest := h.unescaped rest (hrest.trans (List.suffix_cons c cs))
  codeless code rest hrest := h.codeless code rest (hrest.trans (List.suffix_cons c cs))
  kept d hd := h.kept d (List.mem_cons_of_mem c hd)

/-- Behind its backslashes, a literal text has no tag, even if a tag follows it. -/
theorem tagContent?_drop {c : CodePoint} {cs rest : Text} (h : Literal (c :: cs)) (hend : Ended (c :: cs) rest) :
    tagContent? (((c :: cs) ++ rest).drop (((c :: cs) ++ rest).takeWhile fun d => d == backslash).length) = none := by
  generalize hslashes : (((c :: cs) ++ rest).takeWhile fun d => d == backslash).length = slashes
  rw [List.drop_append]
  by_cases hshort : slashes < (c :: cs).length
  · have hzero : slashes - (c :: cs).length = 0 := by omega
    rw [hzero, List.drop_zero]
    refine tagContent?_append ?_ (h.tagless _ (List.drop_suffix _ _)) (hend.imp_right And.left)
    rw [← List.length_pos_iff, List.length_drop]
    omega
  · -- The text is made of backslashes only, so it ends with one.
    have hall : ∀ d ∈ c :: cs, d = backslash := by
      intro d hd
      have hbegins : c :: cs <+: ((c :: cs) ++ rest).takeWhile fun d => d == backslash :=
        List.prefix_of_prefix_length_le (List.prefix_append _ _) (List.takeWhile_prefix _) (by omega)
      simpa using List.all_eq_true.mp List.all_takeWhile d (hbegins.subset hd)
    have hlast : (c :: cs).getLast? = some backslash := by
      rw [List.getLast?_eq_some_getLast (List.cons_ne_nil c cs), hall _ (List.getLast_mem _)]
    rcases hend with rfl | ⟨_, hne⟩
    · rw [List.drop_nil, List.append_nil, List.drop_of_length_le (by omega)]
      rfl
    · exact absurd hlast hne

theorem not_escape {c : CodePoint} {cs rest : Text} (h : Literal (c :: cs)) (hend : Ended (c :: cs) rest) :
    ¬ (c = backslash ∧ (cs ++ rest).head? = some opening) := by
  rintro ⟨rfl, hopening⟩
  cases cs with
  | nil =>
    rcases hend with rfl | ⟨_, hlast⟩
    · cases hopening
    · exact hlast rfl
  | cons d ds =>
    obtain rfl : d = opening := by simpa using hopening
    exact h.unescaped ds (List.suffix_refl _)

/-- A literal text is a run of plain text. -/
theorem parts {before : Text} (h : Literal before) (position : Nat) (run : Text) {rest : Text}
    (hend : Ended before rest) :
    Markup.parts position 0 run (before ++ rest) = Markup.parts (position + before.length) 0 (run ++ before) rest := by
  induction before generalizing position run with
  | nil => simp
  | cons c cs ih =>
    have hnone := h.tagContent?_drop hend
    rw [List.cons_append] at hnone ⊢
    rw [Markup.parts]
    dsimp only
    rw [hnone]
    dsimp only
    rw [if_neg (h.not_escape hend), ih h.tail _ _ hend.tail, List.length_cons, List.append_assoc]
    congr 1
    omega

theorem decoded {t : Text} (h : Literal t) (lexicon : Lexicon) : Markup.decoded lexicon 0 t = t := by
  induction t with
  | nil => rfl
  | cons c cs ih =>
    rw [Markup.decoded, if_neg, ih h.tail]
    rintro ⟨rfl, hcolon⟩
    -- A code would have no blank.
    generalize hcode : (cs.takeWhile fun d => d != colon && !d.isBlank) = code at hcolon
    have hbegins : code <+: cs := hcode ▸ List.takeWhile_prefix _
    obtain ⟨more, rfl⟩ := hbegins
    rw [List.getElem?_append_right (Nat.le_refl _), Nat.sub_self, ← List.head?_eq_getElem?] at hcolon
    obtain ⟨rest, rfl⟩ := List.head?_eq_some_iff.mp hcolon
    obtain ⟨d, hd, hblank⟩ := h.codeless code rest (List.suffix_refl _)
    rw [← hcode] at hd
    have hnone := List.all_eq_true.mp List.all_takeWhile d hd
    simp [hblank] at hnone

theorem shown {t : Text} (h : Literal t) {lexicon : Lexicon} {tags : List OpenTag} {rest : List Part} :
    Markup.shown lexicon tags (.plain t :: rest) = (Markup.shown lexicon tags rest).map (t ++ ·) := by
  have hkept : t.filter (fun c => !isDropped c) = t :=
    List.filter_eq_self.mpr fun c hc => by rw [h.kept c hc]; rfl
  rw [Markup.shown, h.decoded, hkept]
  cases Markup.shown lexicon tags rest with
  | error f => rfl
  | ok more => rfl

theorem nil : Literal [] where
  tagless rest h := by rw [List.suffix_nil.mp h]; rfl
  unescaped rest h := by cases List.suffix_nil.mp h
  codeless code rest h := by cases List.suffix_nil.mp h
  kept c h := by cases h

end Literal

/-! ### Texts with tags -/

theorem parts_tag {before : Text} (hbefore : Literal before) (hlast : before.getLast? ≠ some backslash) {c : CodePoint}
    {cs : Text} (hstart : startsTag c = true) (hopening : opening ∉ c :: cs) (hclosing : closing ∉ c :: cs)
    (position : Nat) (after : Text) :
    ∃ position', parts position 0 [] (before ++ opening :: (c :: cs ++ closing :: after)) =
      .plain before :: .plain [] :: .tag (c :: cs) (position + before.length) :: parts position' 0 [] after := by
  refine ⟨position + before.length + 1 + (cs.length + 2), ?_⟩
  rw [hbefore.parts position [] (Or.inr ⟨rfl, hlast⟩), List.nil_append, parts]
  have hslashes : ((opening :: (c :: cs ++ closing :: after)).takeWhile fun d => d == backslash) = [] :=
    List.takeWhile_cons_of_neg (by decide)
  dsimp only
  rw [hslashes, List.length_nil, List.drop_zero, tagContent?_of_tag hstart hopening hclosing]
  dsimp only
  rw [parts_skip]
  have hafter : (c :: cs ++ closing :: after).drop (0 + (c :: cs).length + 1) = after := by
    have hparts : c :: cs ++ closing :: after = (c :: cs ++ [closing]) ++ after := by simp
    rw [hparts, List.drop_left' (by simp)]
  rw [hafter]
  simp

theorem shown_of_shows {t u : Text} (h : Shows t u) (lexicon : Lexicon) (tags : List OpenTag) (position : Nat) :
    shown lexicon tags (parts position 0 [] t) = .ok u := by
  induction h generalizing tags position with
  | @literal t ht =>
    have hparts := ht.parts position [] (Or.inl rfl)
    rw [List.append_nil, List.nil_append] at hparts
    rw [hparts, parts, ht.shown]
    simp [shown, Except.map]
  | @tag before content after _ hbefore hlast hcontent _ ih =>
    obtain ⟨c, hhead, hlow, hhigh⟩ := hcontent.small
    obtain ⟨cs, rfl⟩ := List.head?_eq_some_iff.mp hhead
    have hstart : startsTag c = true := by simp [startsTag, hlow, hhigh]
    obtain ⟨position', hparts⟩ :=
      parts_tag hbefore hlast hstart hcontent.unbracketed.1 hcontent.unbracketed.2 position after
    have hopens : (c :: cs).head? ≠ some (CodePoint.ofChar '/') := by
      intro hslash
      have hval := congrArg Fin.val (Option.some.inj hslash)
      have hnumber : (CodePoint.ofChar '/').val = 0x2F := rfl
      omega
    obtain ⟨style, hstyle⟩ := Style.normal?_complete (t := tagName (c :: cs)) fun hmem =>
      hcontent.unnumbered ((List.takeWhile_sublist _).subset hmem)
    rw [hparts, hbefore.shown, Literal.nil.shown, shown, if_neg hopens, hstyle]
    dsimp only
    rw [ih]
    rfl

theorem Shows.unique {t u v : Text} (hu : Shows t u) (hv : Shows t v) : u = v := by
  have hshown := shown_of_shows hu .empty [] 0
  rw [shown_of_shows hv] at hshown
  exact (Except.ok.inj hshown).symm

theorem Shows.literal_or_length_lt {t u : Text} (h : Shows t u) : Literal t ∨ u.length < t.length := by
  induction h with
  | literal ht => exact Or.inl ht
  | tag _ _ _ hafter ih =>
    refine Or.inr ?_
    simp only [List.length_append, List.length_cons]
    rcases ih with hliteral | hlt
    · rw [hafter.unique (.literal hliteral)]
      omega
    · omega

/-- A tag is lost, and a text that has none is kept. -/
theorem Shows.eq_self_iff {t u : Text} (h : Shows t u) : u = t ↔ Literal t := by
  constructor
  · rintro rfl
    exact h.literal_or_length_lt.resolve_right (Nat.lt_irrefl _)
  · exact fun hliteral => h.unique (.literal hliteral)

/-- Where no tag is open, none can be ended. -/
theorem close_nil (lexicon : Lexicon) (content : Text) (position : Nat) :
    ∃ f, close lexicon [] content position = .error f := by
  unfold close
  dsimp only
  split
  · exact ⟨_, rfl⟩
  · cases Style.normal? (Text.strip (tagName content).tail) with
    | none => exact ⟨_, rfl⟩
    | some style => exact ⟨_, rfl⟩

theorem plainText_of_stray {t : Text} (h : Stray t) (lexicon : Lexicon) : ∃ f, plainText lexicon t = .error f := by
  cases h with
  | @mk before content after hbefore hlast hslash hopening hclosing =>
    obtain ⟨cs, rfl⟩ := List.head?_eq_some_iff.mp hslash
    obtain ⟨position', hparts⟩ := parts_tag hbefore hlast (by decide) hopening hclosing 0 after
    obtain ⟨f, hf⟩ := close_nil lexicon (CodePoint.ofChar '/' :: cs) (0 + before.length)
    refine ⟨f, ?_⟩
    rw [plainText, hparts, hbefore.shown, Literal.nil.shown, shown, if_pos hslash, hf]
    rfl

end ModuleDocs.Console
