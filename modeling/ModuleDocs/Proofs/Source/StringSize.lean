import ModuleDocs.Alias.Expansion
import ModuleDocs.Proofs.Faults
import ModuleDocs.Proofs.Source.Lexing

/-!
# The size of strings

Between their quotes, all string tokens of a text together have fewer characters than the text. What is between the
quotes is decoded to no more code points; in a formatted string this holds of its texts together, and the strings in its
expressions are shorter than the expressions.
-/

namespace ModuleDocs.Source

/-! ### Tokens -/

/-- The greatest number of characters between the quotes of a token. -/
def Token.inner (t : Token) : Nat := if t.kind = .string then t.text.length - 2 else 0

/-- The same for several tokens together. -/
def innerSize : List Token → Nat
  | [] => 0
  | t :: ts => t.inner + innerSize ts

theorem innerSize_append (ts us : List Token) : innerSize (ts ++ us) = innerSize ts + innerSize us := by
  induction ts with
  | nil => simp [innerSize]
  | cons t ts ih => simp [innerSize, ih, Nat.add_assoc]

namespace Lexer

/-- What is between quotes and the text that is left come from a text of `total` characters. Two more characters are
quotes as soon as there is anything between them. -/
structure Fits (total : Nat) (s : State) : Prop where
  rest : s.rest.length ≤ total
  tokens : innerSize s.tokens.toList = 0 ∨ innerSize s.tokens.toList + 2 + s.rest.length ≤ total

theorem innerSize_push (s : State) (kind : TokenKind) (text rest : List Char) :
    innerSize (s.push kind text rest).tokens.toList ≤ innerSize s.tokens.toList + (text.length - 2) := by
  have hinner : ∀ t : Token, t.inner ≤ t.text.length - 2 := by
    intro t
    unfold Token.inner
    split
    · exact Nat.le_refl _
    · exact Nat.zero_le _
  simp only [State.push, Array.toList_push, innerSize_append, innerSize, Nat.add_zero]
  refine Nat.add_le_add_left (Nat.le_trans (hinner _) ?_) _
  simp

theorem fits_invariant (total : Nat) : Invariant (Fits total) where
  moved h htokens hrest := by
    have htotal := h.rest
    refine ⟨Nat.le_trans hrest htotal, ?_⟩
    rw [htokens]
    rcases h.tokens with hs | hs
    · exact Or.inl hs
    · exact Or.inr (by omega)
  pushed {s kind text rest} h htakes := by
    have hsize := htakes.size
    have htotal := h.rest
    have hpush := innerSize_push s kind text rest
    have hleft : (s.push kind text rest).rest = rest := rfl
    constructor
    · rw [hleft]
      omega
    · rw [hleft]
      rcases h.tokens with hs | hs
      · omega
      · omega

theorem length_unifyLineEnds_le (cs : List Char) : (unifyLineEnds cs).length ≤ cs.length := by
  fun_induction unifyLineEnds cs with
  | case1 cs ih =>
    simp only [List.length_cons]
    omega
  | case2 cs _ ih => exact Nat.succ_le_succ ih
  | case3 c cs _ _ ih => exact Nat.succ_le_succ ih
  | case4 => exact Nat.le_refl _

theorem length_prepare_le (kind : TextKind) (source : List Char) :
    (prepare kind source).length ≤ source.length + 1 := by
  have hunified := length_unifyLineEnds_le source
  unfold prepare
  dsimp only
  split
  · omega
  · split
    · omega
    · rw [List.length_append, List.length_singleton]
      omega

end Lexer

/-- A line end may be added to a text, but there is a quote on each side of what is between quotes. -/
theorem TokenStream.innerSize_ofText (kind : TextKind) (line : Nat) (source : List Char) :
    innerSize (TokenStream.ofText kind line source).tokens.toList ≤ source.length - 1 := by
  obtain ⟨s, hs, htokens⟩ := TokenStream.ofText_endsIn
    (Lexer.fits_invariant (Lexer.prepare kind source).length) kind line source ⟨Nat.le_refl _, Or.inl rfl⟩
  have hprepare := Lexer.length_prepare_le kind source
  have hfits := hs.tokens
  rw [htokens]
  omega

/-! ### Expressions -/

namespace Expr

theorem longestOf_le {n : Nat} {es : List Expr} : longestOf es ≤ n ↔ ∀ e ∈ es, e.longest ≤ n := by
  induction es with
  | nil => simp [longestOf]
  | cons e es ih => rw [longestOf, Nat.max_le, ih, List.forall_mem_cons]

theorem longest_node_le {n : Nat} {shape : Shape} {es : List Expr} :
    (Expr.node shape es).longest ≤ n ↔ ∀ e ∈ es, e.longest ≤ n := by
  rw [longest, longestOf_le]

end Expr

/-! ### Literals -/

namespace Escape

/-- An escape stands for no more code points than it has characters, the backslash included. -/
theorem point?_length {cs : List Char} {points : Text} {n : Nat} (h : point? cs = some (points, n)) :
    points.length + (cs.drop n).length ≤ cs.length + 1 := by
  unfold point? at h
  split at h
  · cases h
    simp
  · rename_i c cs
    have hone : ∀ {x : CodePoint} {m : Nat}, points = [x] →
        points.length + ((c :: cs).drop m).length ≤ (c :: cs).length + 1 := by
      intro x m hpoints
      rw [hpoints, List.length_singleton, List.length_drop]
      omega
    split at h
    · cases h
      exact hone rfl
    · obtain ⟨k, hk, h⟩ := Option.bind_eq_some_iff.mp h
      split at h
      · cases h
        exact hone rfl
      · cases h
    · split at h
      · cases h
        simp only [List.length_nil, List.length_drop, List.length_cons]
        omega
      · split at h
        · obtain ⟨k, hk, h⟩ := Option.map_eq_some_iff.mp h
          cases h
          exact hone rfl
        · split at h
          · cases h
            exact hone rfl
          · cases h
            simp only [List.length_cons, List.length_nil, List.length_drop]
            omega

theorem decodeText_length {fuel : Nat} {cs : List Char} {t : Text} (h : decodeText fuel cs = some t) :
    t.length ≤ cs.length := by
  fun_induction decodeText fuel cs generalizing t with
  | case1 => cases h; simp
  | case2 => cases h; simp
  | case3 fuel cs ih =>
    obtain ⟨⟨points, n⟩, hpoint, h⟩ := Option.bind_eq_some_iff.mp h
    obtain ⟨rest, hrest, h⟩ := Option.bind_eq_some_iff.mp h
    cases h
    have := ih n hrest
    have := point?_length hpoint
    simp only [List.length_append, List.length_cons]
    omega
  | case4 fuel c cs _ ih =>
    obtain ⟨rest, hrest, rfl⟩ := Option.map_eq_some_iff.mp h
    have := ih hrest
    simp only [List.length_cons]
    omega

end Escape

namespace StringLiteral

theorem decode_length {raw : Bool} {body : List Char} {t : Text} (h : decode raw body = some t) :
    t.length ≤ body.length := by
  unfold decode at h
  split at h
  · cases h
    simp
  · exact Escape.decodeText_length h

theorem body_length (text : String) : (ofToken text).body.length ≤ text.length - 2 := by
  have hquoted : (text.toList.drop (text.toList.takeWhile fun c => c != '\'' && c != '"').length).length ≤
      text.length := by
    rw [List.length_drop, String.length_toList]
    omega
  unfold ofToken
  dsimp only
  rw [List.length_take]
  split
  · omega
  · omega

end StringLiteral

namespace Grammar

namespace StringPart

/-- The number of code points in all texts together. -/
def textSize : List StringPart → Nat
  | [] => 0
  | .text t :: ps => t.length + textSize ps
  | .expr _ :: ps => textSize ps

theorem textSize_append (ps qs : List StringPart) : textSize (ps ++ qs) = textSize ps + textSize qs := by
  induction ps with
  | nil => simp [textSize]
  | cons p ps ih =>
    cases p with
    | text t => simp only [List.cons_append, textSize, ih, Nat.add_assoc]
    | expr e => simp only [List.cons_append, textSize, ih]

theorem length_le_textSize {t : Text} {ps : List StringPart} (h : .text t ∈ ps) : t.length ≤ textSize ps := by
  obtain ⟨before, behind, rfl⟩ := List.append_of_mem h
  rw [textSize_append, textSize]
  omega

/-- Joining texts changes neither their size nor the expressions. -/
theorem merge_spec (ps : List StringPart) :
    textSize (merge ps) = textSize ps ∧ ∀ e, .expr e ∈ merge ps → .expr e ∈ ps := by
  fun_induction merge ps with
  | case1 => simp [textSize]
  | case2 e ps ih => grind [textSize]
  | case3 t ps u qs hmerge ih => grind [textSize]
  | case4 t ps hmerge ht ih => grind [textSize]
  | case5 t ps hmerge ht ih => grind [textSize]

end StringPart

namespace Format

theorem literal_length {raw : Bool} {level : Nat} {named : Bool} {seen cs : List Char} {lit : Literal}
    (h : literal raw level named seen cs = .ok lit) : lit.chars.length + lit.rest.length ≤ seen.length + cs.length := by
  have hbrace : ∀ {level : Nat} {seen : List Char} {brace : Char} {rest : List Char} {lit : Literal},
      atBrace level seen brace rest = .ok lit →
        lit.chars.length + lit.rest.length ≤ seen.length + (rest.length + 1) := by
    intro level seen brace rest lit h
    unfold atBrace at h
    grind
  fun_induction literal raw level named seen cs <;> grind

theorem expression_length {quote : Option OpenQuote} {brackets seen cs chars rest : List Char}
    (h : expression quote brackets seen cs = .ok (chars, rest)) :
    chars.length + rest.length ≤ seen.length + cs.length ∧ rest ≠ [] := by
  fun_induction expression quote brackets seen cs <;> grind

theorem repetition_length {p : Position} {rest after : List Char} {repeated : Option (List Char)}
    (h : repetition p rest = (repeated, after)) (hrest : rest.length ≤ p.rest.length) :
    after.length ≤ rest.length ∧ (repeated.getD []).length + after.length ≤ p.rest.length := by
  unfold repetition at h
  split at h
  · cases h
    have hdrop : (rest.tail.dropWhile isPadding).length ≤ rest.tail.length := (List.dropWhile_sublist _).length_le
    rw [List.length_tail] at hdrop
    rw [Option.getD_some, List.length_take]
    omega
  · cases h
    exact ⟨Nat.le_refl _, by simpa using hrest⟩

theorem conversion_length {rest after : List Char} {given : Option Char} (h : conversion rest = .ok (given, after)) :
    after.length ≤ rest.length := by
  unfold conversion at h
  grind

/-- What reads an expression from a text finds only strings that are shorter than the text. -/
def NestedFits (nested : List Char → Nat → Except Nat Expr) : Prop :=
  ∀ text line e, nested text line = .ok e → e.longest ≤ text.length - 1

/-- What reads a format from a position finds no strings that are longer than what is left. -/
def FormatFits (format : Position → Except FormatFault (Expr × Position)) : Prop :=
  ∀ p e after, format p = .ok (e, after) → e.longest ≤ p.rest.length ∧ after.rest.length ≤ p.rest.length

theorem specification_fits {format : Position → Except FormatFault (Expr × Position)} (hformat : FormatFits format)
    {p after : Position} {spec : Option Expr} (h : specification format p = .ok (spec, after)) :
    (∀ e ∈ spec, e.longest ≤ p.rest.length) ∧ after.rest.length ≤ p.rest.length := by
  unfold specification at h
  split at h
  · cases h
  · rename_i cs _ hrest
    obtain ⟨⟨e, after'⟩, hread, h⟩ := bind_eq_ok.mp h
    cases h
    obtain ⟨hlongest, hafter⟩ := hformat _ _ _ hread
    have hcs : (p.moveTo cs).rest.length ≤ p.rest.length := by
      rw [hrest]
      exact Nat.le_succ _
    exact ⟨fun e he => by cases he; omega, by omega⟩
  · cases h
    exact ⟨fun e he => (nomatch he), Nat.le_refl _⟩

theorem interpolation_fits {nested : List Char → Nat → Except Nat Expr} (hnested : NestedFits nested)
    {format : Position → Except FormatFault (Expr × Position)} (hformat : FormatFits format) {p after : Position}
    {repeated : Option (List Char)} {e : Expr} (h : interpolation nested format p = .ok (repeated, e, after)) :
    e.longest ≤ p.rest.length ∧ (repeated.getD []).length + after.rest.length ≤ p.rest.length := by
  unfold interpolation at h
  obtain ⟨⟨chars, rest⟩, hexpression, h⟩ := bind_eq_ok.mp h
  obtain ⟨hlength, hne⟩ := expression_length hexpression
  have hpos : 0 < rest.length := List.length_pos_iff.mpr hne
  rw [List.length_nil, Nat.zero_add] at hlength
  dsimp only at h
  split at h
  · cases h
  · obtain ⟨value, hvalue, h⟩ := bind_eq_ok.mp h
    have hlongest := hnested _ _ _ (mapError_eq_ok.mp hvalue)
    simp only [List.cons_append, List.length_cons, List.length_append, List.length_nil] at hlongest
    rcases hrepetition : repetition p rest with ⟨again, left⟩
    obtain ⟨hleft, hagain⟩ := repetition_length hrepetition (by omega)
    rw [hrepetition] at h
    obtain ⟨⟨given, behind⟩, hconversion, h⟩ := bind_eq_ok.mp h
    have hbehind : behind.length ≤ left.length := conversion_length hconversion
    obtain ⟨⟨spec, q⟩, hspec, h⟩ := bind_eq_ok.mp h
    obtain ⟨hspecs, hq⟩ := specification_fits hformat hspec
    have hmoved : (p.moveTo behind).rest = behind := rfl
    rw [hmoved] at hspecs hq
    dsimp only at h
    split at h
    · rename_i cs hcs
      cases h
      have hlast : (q.moveTo cs).rest.length + 1 = q.rest.length := by rw [hcs]; rfl
      refine ⟨Expr.longest_node_le.mpr ?_, by omega⟩
      rw [List.forall_mem_cons]
      refine ⟨by omega, fun e he => ?_⟩
      have := hspecs e (Option.mem_toList.mp he)
      omega
    · cases h

/-! ### Parts of formatted strings -/

/-- The texts of parts come from `size` characters of which some are left, and no string in their expressions has
more. -/
structure PartsFit (size left : Nat) (ps : List StringPart) : Prop where
  texts : StringPart.textSize ps + left ≤ size
  exprs : ∀ e, .expr e ∈ ps → e.longest ≤ size

variable {size left : Nat} {ps : List StringPart}

theorem PartsFit.longest_formatted (h : PartsFit size left ps) (marked : Bool) :
    (Expr.node .formatted ((StringPart.merge ps).map (StringPart.toExpr marked))).longest ≤ size := by
  obtain ⟨htexts, hexprs⟩ := h
  obtain ⟨hsize, hmem⟩ := StringPart.merge_spec ps
  rw [Expr.longest_node_le, List.forall_mem_map]
  intro part hpart
  cases part with
  | text t =>
    have := StringPart.length_le_textSize hpart
    change t.length ≤ size
    omega
  | expr e => exact hexprs e (hmem e hpart)

theorem PartsFit.mono {total : Nat} (h : PartsFit size left ps) (hle : size ≤ total) : PartsFit total left ps :=
  ⟨Nat.le_trans h.texts hle, fun e he => Nat.le_trans (h.exprs e he) hle⟩

theorem PartsFit.append {more : Nat} {qs : List StringPart} (hps : PartsFit size 0 ps) (hqs : PartsFit more 0 qs) :
    PartsFit (size + more) 0 (ps ++ qs) := by
  have hptexts := hps.texts
  have hqtexts := hqs.texts
  constructor
  · rw [StringPart.textSize_append]
    omega
  · intro e he
    rcases List.mem_append.mp he with he | he
    · exact Nat.le_add_right_of_le (hps.exprs e he)
    · exact Nat.le_add_left_of_le (hqs.exprs e he)

theorem PartsFit.text (h : PartsFit size left ps) {t : Text} {total : Nat} (ht : t.length + size ≤ total) :
    PartsFit total left (.text t :: ps) := by
  obtain ⟨htexts, hexprs⟩ := h
  constructor
  · rw [StringPart.textSize]
    omega
  · intro e he
    rcases List.mem_cons.mp he with he | he
    · cases he
    · have := hexprs e he
      omega

theorem formatOf_fits {inner : Except FormatFault (List StringPart × Position)}
    (hinner : ∀ ps mid, inner = .ok (ps, mid) → PartsFit size mid.rest.length ps) {e : Expr} {after : Position}
    (h : formatOf inner = .ok (e, after)) : e.longest ≤ size ∧ after.rest.length ≤ size := by
  unfold formatOf at h
  obtain ⟨⟨ps, mid⟩, hps, h⟩ := bind_eq_ok.mp h
  have hfits := hinner ps mid hps
  have htexts := hfits.texts
  dsimp only at h
  split at h
  · cases h
  · cases h
    exact ⟨hfits.longest_formatted false, by omega⟩

theorem textSize_front (text : Text) (repeated : Option (List Char)) :
    StringPart.textSize (.text text :: (repeated.map fun cs => .text (cs.map CodePoint.ofChar)).toList) =
      text.length + (repeated.getD []).length := by
  cases repeated <;> simp [StringPart.textSize]

theorem parts_fit {nested : List Char → Nat → Except Nat Expr} (hnested : NestedFits nested) {raw : Bool}
    {fuel level : Nat} {p after : Position} (h : parts nested raw fuel level p = .ok (ps, after)) :
    PartsFit p.rest.length after.rest.length ps := by
  induction fuel generalizing level p after ps with
  | zero => cases h
  | succ fuel ih =>
    unfold parts at h
    obtain ⟨lit, hliteral, h⟩ := bind_eq_ok.mp h
    have hlength := literal_length hliteral
    rw [List.length_nil, Nat.zero_add] at hlength
    split at h
    · rename_i text hdecode
      have htext := StringLiteral.decode_length hdecode
      dsimp only at h
      split at h
      · obtain ⟨⟨more, last⟩, hmore, h⟩ := bind_eq_ok.mp h
        cases h
        refine (ih hmore).text ?_
        change text.length + lit.rest.length ≤ p.rest.length
        omega
      · split at h
        · rename_i cs hcs
          split at h
          · cases h
          · obtain ⟨⟨repeated, e, behind⟩, hinterpolation, h⟩ := bind_eq_ok.mp h
            dsimp only at h
            obtain ⟨⟨more, last⟩, hmore, h⟩ := bind_eq_ok.mp h
            dsimp only at h
            cases h
            have hformat : FormatFits fun r => formatOf (parts nested raw fuel (level + 1) r) :=
              fun r d mid hread => formatOf_fits (fun qs last hqs => ih hqs) hread
            obtain ⟨hlongest, hsize⟩ := interpolation_fits hnested hformat hinterpolation
            have hopened : ((p.moveTo lit.rest).moveTo cs).rest.length + 1 = lit.rest.length := by
              rw [hcs]
              rfl
            obtain ⟨htexts, hexprs⟩ := ih hmore
            constructor
            · rw [StringPart.textSize_append, textSize_front, StringPart.textSize]
              omega
            · intro d hd
              rcases List.mem_append.mp hd with hd | hd
              · cases repeated <;> simp at hd
              · rcases List.mem_cons.mp hd with hd | hd
                · cases hd
                  omega
                · have := hexprs d hd
                  omega
        · cases h
          have hnone : PartsFit lit.rest.length (p.moveTo lit.rest).rest.length [] :=
            ⟨Nat.le_of_eq (Nat.zero_add _), fun e he => absurd he List.not_mem_nil⟩
          exact hnone.text (by omega)
    · cases h

end Format

end Grammar

end ModuleDocs.Source
