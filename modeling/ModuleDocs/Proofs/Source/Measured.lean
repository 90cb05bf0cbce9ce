import ModuleDocs.Proofs.Source.Rules
import ModuleDocs.Proofs.Source.StringSize
import ModuleDocs.Source.Grammar.Primary

/-!
# Strings in expressions that are read

No string in an expression that is read has more code points than all string tokens have between their quotes. What is
kept of earlier reading has the same property, so it can be used again.
-/

namespace ModuleDocs.Source.Grammar

open Rule
open Format (NestedFits PartsFit)

/-! ### Values of rules -/

/-- Types of values in which strings are measured. -/
class Measured (α : Type) where
  /-- No string in the value has more than a number of code points. -/
  AtMost : Nat → α → Prop

open Measured (AtMost)

section

variable {α β : Type}

instance : Measured Expr := ⟨fun n e => e.longest ≤ n⟩

instance : Measured Parsed := ⟨fun n p => AtMost n p.expr⟩

instance : Measured Keyword := ⟨fun n k => AtMost n k.value⟩

instance : Measured Param := ⟨fun n p => ∀ e ∈ p.default, AtMost n e⟩

instance : Measured ParsedParam := ⟨fun n p => AtMost n p.param⟩

instance [Measured α] : Measured (List α) := ⟨fun n as => ∀ a ∈ as, AtMost n a⟩

instance [Measured α] : Measured (Option α) := ⟨fun n o => ∀ a ∈ o, AtMost n a⟩

instance [Measured α] [Measured β] : Measured (α × β) := ⟨fun n p => AtMost n p.1 ∧ AtMost n p.2⟩

instance [Measured α] [Measured β] : Measured (α ⊕ β) :=
  ⟨fun n s => (∀ a, s = .inl a → AtMost n a) ∧ ∀ b, s = .inr b → AtMost n b⟩

instance : Measured Arguments := ⟨fun n a => AtMost n a.positional ∧ AtMost n a.keywords⟩

instance : Measured ParsedClause := ⟨fun n c => AtMost n c.exprs⟩

instance : Measured ParamTail := ⟨fun n t => AtMost n t.keywordOnly⟩

/-- Of the parameters of a lambda expression, those that can have defaults are measured. -/
instance : Measured (Params Param) :=
  ⟨fun n ps => AtMost n (ps.positionalOnly ++ ps.positional) ∧ AtMost n ps.keywordOnly⟩

section

variable [Measured α] [Measured β] {n : Nat} {p : Parsed} {es : List Expr} {ps : List Parsed} {line : Nat}

@[simp] theorem atMost_toExpr : AtMost n p.expr ↔ AtMost n p := Iff.rfl

@[simp] theorem atMost_name {id : String} : AtMost n (Expr.name id) := Nat.zero_le _

@[simp] theorem atMost_node {shape : Shape} : AtMost n (Expr.node shape es) ↔ AtMost n es := Expr.longest_node_le

@[simp] theorem atMost_value {e : Expr} : AtMost n (Parsed.value e line) ↔ AtMost n e := Iff.rfl

@[simp] theorem atMost_place {e : Expr} : AtMost n (Parsed.place e line) ↔ AtMost n e := Iff.rfl

@[simp] theorem atMost_member {v : Expr} {attr : String} : AtMost n (Expr.member v attr) ↔ AtMost n v := Iff.rfl

@[simp] theorem atMost_subscript {v s : Expr} : AtMost n (Expr.subscript v s) ↔ AtMost n v ∧ AtMost n s := Nat.max_le

@[simp] theorem atMost_nil : AtMost n ([] : List α) := fun _ h => absurd h List.not_mem_nil

@[simp] theorem atMost_cons {a : α} {as : List α} : AtMost n (a :: as) ↔ AtMost n a ∧ AtMost n as :=
  List.forall_mem_cons

@[simp] theorem atMost_append {as bs : List α} : AtMost n (as ++ bs) ↔ AtMost n as ∧ AtMost n bs :=
  List.forall_mem_append

@[simp] theorem atMost_map_expr : AtMost n (ps.map (·.expr)) ↔ AtMost n ps := List.forall_mem_map

@[simp] theorem atMost_none : AtMost n (none : Option α) := fun _ h => nomatch h

@[simp] theorem atMost_some {a : α} : AtMost n (some a) ↔ AtMost n a := by
  constructor
  · exact fun h => h a rfl
  · intro h b hb
    cases hb
    exact h

@[simp] theorem atMost_toList {o : Option α} : AtMost n o.toList ↔ AtMost n o := by
  cases o <;> simp

@[simp] theorem atMost_option_map_expr {o : Option Parsed} : AtMost n (o.map (·.expr)) ↔ AtMost n o := by
  cases o <;> simp

@[simp] theorem atMost_pair {a : α} {b : β} : AtMost n (a, b) ↔ AtMost n a ∧ AtMost n b := Iff.rfl

@[simp] theorem atMost_inl {a : α} : AtMost n (Sum.inl a : α ⊕ β) ↔ AtMost n a := by
  constructor
  · exact fun h => h.1 a rfl
  · exact fun h => ⟨fun b hb => by cases hb; exact h, fun b hb => nomatch hb⟩

@[simp] theorem atMost_inr {b : β} : AtMost n (Sum.inr b : α ⊕ β) ↔ AtMost n b := by
  constructor
  · exact fun h => h.2 b rfl
  · exact fun h => ⟨fun a ha => (nomatch ha), fun a ha => by cases ha; exact h⟩

@[simp] theorem atMost_group {shape : Shape} : AtMost n (Parsed.group shape ps line) ↔ AtMost n ps := by
  rw [← atMost_map_expr]
  exact atMost_node

@[simp] theorem atMost_starred : AtMost n (p.starred line) ↔ AtMost n p := by
  rw [← atMost_toExpr, Parsed.starred]
  simp

theorem atMost_getD {o : Option (List α)} (h : AtMost n o) : AtMost n (o.getD []) := by
  cases o with
  | none => exact atMost_nil
  | some as => exact atMost_some.mp h

end

end

/-! ### What is kept -/

/-- No string in what is kept of expressions and arguments has more than a number of code points. -/
structure Trace.AtMost (n : Nat) (trace : Trace) : Prop where
  expressions : ∀ (key : Nat) (p : Parsed) (after : Nat),
    trace.expressions[key]? = some (some (p, after)) → Measured.AtMost n p
  arguments : ∀ (key : Nat) (a : Arguments) (after : Nat),
    trace.arguments[key]? = some (some (a, after)) → Measured.AtMost n a

variable {n : Nat} {ctx : Context}

instance : IgnoresReach (Trace.AtMost n) := ⟨fun _ _ h => ⟨h.expressions, h.arguments⟩⟩

theorem Trace.start_atMost (n reach : Nat) : (Trace.start reach).AtMost n := by
  constructor <;> simp [Trace.start]

/-- The strings in the values of a rule have at most `n` code points, if those in what is kept have. -/
abbrev Bounded {α : Type} [Measured α] (n : Nat) (ctx : Context) (p : Rule α) : Prop :=
  Yields (Trace.AtMost n) ctx p (AtMost n)

namespace Bounded

variable {α : Type} [Measured α] {p : Rule α}

theorem orElse {q : Rule α} (hp : Bounded n ctx p) (hq : Bounded n ctx q) : Bounded n ctx (Rule.orElse p q) :=
  Yields.orElse hp hq

theorem optional (h : Bounded n ctx p) : Bounded n ctx (Rule.optional p) := Yields.optional h

theorem many (h : Bounded n ctx p) : Bounded n ctx (Rule.many p) := Yields.many h

theorem many1 (h : Bounded n ctx p) : Bounded n ctx (Rule.many1 p) := Yields.many1 h

theorem commaSeparated (h : Bounded n ctx p) : Bounded n ctx (Rule.commaSeparated p) := Yields.commaSeparated h

theorem commaList (h : Bounded n ctx p) : Bounded n ctx (Rule.commaList p) := Yields.commaList h

end Bounded

section

variable {α : Type} {I : Trace → Prop} {Q : α → Prop}

theorem remember_yields {found : Option (Option (α × Nat))} {keep : Option (α × Nat) → Trace → Trace} {p : Rule α}
    (hfound : ∀ a after, found = some (some (a, after)) → Q a)
    (hkeep : ∀ r trace, I trace → (∀ a after, r = some (a, after) → Q a) → I (keep r trace)) (hp : Yields I ctx p Q)
    (mark : Nat) {trace : Trace} (hI : I trace) :
    I (remember found keep p ctx mark trace).2 ∧
      ∀ a after, (remember found keep p ctx mark trace).1 = .ok (a, after) → Q a := by
  obtain ⟨hkeeps, hvalue⟩ := hp mark trace hI
  unfold remember
  split
  · rename_i a after
    refine ⟨hI, fun b after' hok => ?_⟩
    cases hok
    exact hfound a after rfl
  · exact ⟨hI, fun _ _ hok => nomatch hok⟩
  · split
    · rename_i a after trace₁ hrun
      rw [hrun] at hkeeps hvalue
      refine ⟨hkeep _ trace₁ hkeeps ?_, hvalue⟩
      intro b after' hr
      cases hr
      exact hvalue a after rfl
    · rename_i trace₁ hrun
      rw [hrun] at hkeeps
      exact ⟨hkeep _ trace₁ hkeeps fun _ _ hr => (nomatch hr), fun _ _ hok => nomatch hok⟩
    · rename_i e trace₁ _ hrun
      rw [hrun] at hkeeps
      exact ⟨hkeeps, fun _ _ hok => nomatch hok⟩

end

theorem Yields.kept (rule : Kept) {p : Rule Parsed} (h : Bounded n ctx p) : Bounded n ctx (Rule.kept rule p) := by
  intro mark trace hI
  refine remember_yields (hI.expressions _) ?_ h mark hI
  intro r trace₁ htrace hr
  refine ⟨fun key q after hq => ?_, htrace.arguments⟩
  rw [Std.TreeMap.getElem?_insert] at hq
  split at hq
  · exact hr q after (Option.some.inj hq)
  · exact htrace.expressions key q after hq

theorem Yields.keptArguments {p : Rule Arguments} (h : Bounded n ctx p) : Bounded n ctx (Rule.keptArguments p) := by
  intro mark trace hI
  refine remember_yields (hI.arguments _) ?_ h mark hI
  intro r trace₁ htrace hr
  refine ⟨htrace.expressions, fun key a after ha => ?_⟩
  rw [Std.TreeMap.getElem?_insert] at ha
  split at ha
  · exact hr a after (Option.some.inj ha)
  · exact htrace.arguments key a after ha

/-! ### String tokens -/

/-- A first round over tokens that have together at most `n` characters between quotes, with a reader of nested
expressions that finds only shorter strings. -/
structure Context.Fits (n : Nat) (ctx : Context) : Prop where
  round : ctx.diagnosing = false
  nested : NestedFits ctx.nested
  size : innerSize ctx.stream.tokens.toList ≤ n

section

variable {I : Trace → Prop}

theorem Yields.faultAtLast {α : Type} {Q : α → Prop} : Yields I ctx (Rule.faultAtLast : Rule α) Q := by
  have hlast : Yields I ctx lastLine fun _ => True := fun _ _ hI => ⟨hI, fun _ _ _ => trivial⟩
  exact hlast.after fun line => Yields.fault line

theorem stringParts_yields (hnested : NestedFits ctx.nested) (token : Token) (s : StringLiteral) :
    Yields I ctx (stringParts token s) (PartsFit s.body.length 0) := by
  unfold stringParts
  split
  · refine Yields.read.bind fun c hc => ?_
    subst hc
    split
    · rename_i ps after hparts
      have hfits := Format.parts_fit hnested hparts
      exact Yields.pure ⟨Nat.le_of_add_right_le hfits.texts, hfits.exprs⟩
    · exact Yields.faultAtLast
    · exact Yields.fault _
  · split
    · rename_i t ht
      have hlength := StringLiteral.decode_length ht
      exact Yields.pure ⟨by simpa [StringPart.textSize] using hlength, fun e he => by simp at he⟩
    · exact Yields.faultAtLast

theorem stringBytes_yields (token : Token) (s : StringLiteral) :
    Yields I ctx (stringBytes token s) fun _ => True := by
  unfold stringBytes
  dsimp only
  split
  · exact (Yields.fault _).bind fun _ (h : False) => h.elim
  · split
    · exact Yields.pure trivial
    · exact Yields.faultAtLast

theorem stringValue_yields (hnested : NestedFits ctx.nested) {token : Token} (hkind : token.kind = .string) :
    Yields I ctx (stringValue token) fun v => ∀ ps, v = .inr ps → PartsFit token.inner 0 ps := by
  have hinner : (StringLiteral.ofToken token.text).body.length ≤ token.inner := by
    rw [Token.inner, if_pos hkind]
    exact StringLiteral.body_length token.text
  unfold stringValue
  dsimp only
  split
  · exact (stringBytes_yields token _).after fun _ => Yields.pure fun _ h => nomatch h
  · refine (stringParts_yields hnested token _).bind fun ps hps => Yields.pure fun qs hqs => ?_
    cases hqs
    exact ⟨Nat.le_trans hps.texts hinner, fun e he => Nat.le_trans (hps.exprs e he) hinner⟩

theorem stringValues_yields (hnested : NestedFits ctx.nested) (isBytes : Bool) {ts : List Token}
    (hkind : ∀ t ∈ ts, t.kind = .string) :
    Yields I ctx (stringValues isBytes ts) fun v => PartsFit (innerSize ts) 0 v.2 := by
  induction ts with
  | nil => exact Yields.pure ⟨Nat.le_refl _, fun e he => absurd he List.not_mem_nil⟩
  | cons t ts ih =>
    obtain ⟨ht, hts⟩ := List.forall_mem_cons.mp hkind
    have hvalue : Yields I ctx (stringValue t) fun v => ∀ ps, v = .inr ps → PartsFit t.inner 0 ps :=
      stringValue_yields hnested ht
    unfold stringValues
    dsimp only
    split
    · split
      · exact hvalue.after fun _ => Yields.faultAtLast
      · exact Yields.faultAtLast
    · refine hvalue.bind fun v hv => ?_
      split
      · refine (ih hts).bind fun more hmore => Yields.pure (hmore.mono ?_)
        exact Nat.le_add_left _ _
      · rename_i ps
        exact (ih hts).bind fun more hmore => Yields.pure ((hv ps rfl).append hmore)

end

variable {I : Trace → Prop}

/-- Tokens from a mark on that have a property. -/
def TokensAt (ctx : Context) (p : Token → Bool) (mark : Nat) (ts : List Token) : Prop :=
  ts <+: ctx.stream.tokens.toList.drop mark ∧ ∀ t ∈ ts, p t = true

section

variable {α β : Type} {p : Token → Bool} {mark after : Nat} {trace : Trace}

theorem bind_matches {q : Rule α} {f : α → Rule β} {b : β} (h : ((q >>= f) ctx mark trace).1 = .ok (b, after)) :
    ∃ a mid trace', (q ctx mark trace).1 = .ok (a, mid) ∧ (f a ctx mid trace').1 = .ok (b, after) := by
  rw [run_bind] at h
  rcases hq : q ctx mark trace with ⟨_ | ⟨a, mid⟩, trace'⟩
  · rw [hq] at h
    cases h
  · rw [hq] at h
    exact ⟨a, mid, trace', rfl, h⟩

theorem optional_matches {q : Rule α} {a : α} (h : (Rule.optional q ctx mark trace).1 = .ok (some a, after)) :
    (q ctx mark trace).1 = .ok (a, after) := by
  unfold Rule.optional Rule.orElse at h
  split at h
  · cases h
  · obtain ⟨b, mid, trace', hq, hb⟩ := bind_matches h
    cases hb
    exact hq

theorem satisfy_matches {t : Token} (h : (satisfy p ctx mark trace).1 = .ok (t, after)) :
    ctx.stream.tokens[mark]? = some t ∧ p t = true ∧ after = mark + 1 := by
  obtain ⟨u, mid, trace', hpeek, h⟩ := bind_matches h
  unfold peek at hpeek
  split at hpeek
  · rename_i v hv
    cases hpeek
    split at h
    · rename_i hp
      cases h
      exact ⟨hv, hp, rfl⟩
    · cases h
  · split at hpeek <;> cases hpeek

theorem TokensAt.cons {t : Token} {ts : List Token} (ht : ctx.stream.tokens[mark]? = some t) (hp : p t = true)
    (h : TokensAt ctx p (mark + 1) ts) : TokensAt ctx p mark (t :: ts) := by
  have hdrop : ctx.stream.tokens.toList.drop mark = t :: ctx.stream.tokens.toList.drop (mark + 1) := by
    rw [← Array.getElem?_toList] at ht
    obtain ⟨hlt, rfl⟩ := List.getElem?_eq_some_iff.mp ht
    exact List.drop_eq_getElem_cons hlt
  exact ⟨hdrop ▸ (List.prefix_cons_inj t).mpr h.1, List.forall_mem_cons.mpr ⟨hp, h.2⟩⟩

theorem manyUpTo_tokensAt {fuel : Nat} {ts : List Token}
    (h : (manyUpTo (satisfy p) fuel ctx mark trace).1 = .ok (ts, after)) : TokensAt ctx p mark ts := by
  induction fuel generalizing mark trace ts after with
  | zero =>
    cases h
    exact ⟨List.nil_prefix, fun t ht => absurd ht List.not_mem_nil⟩
  | succ fuel ih =>
    obtain ⟨o, mid, trace', ho, h⟩ := bind_matches h
    cases o with
    | none =>
      cases h
      exact ⟨List.nil_prefix, fun t ht => absurd ht List.not_mem_nil⟩
    | some t =>
      obtain ⟨ht, hp, rfl⟩ := satisfy_matches (optional_matches ho)
      obtain ⟨us, _, _, hus, h⟩ := bind_matches h
      cases h
      exact .cons ht hp (ih hus)

/-- Several tokens that are read one after the other stand one after the other. -/
theorem many1_tokensAt {ts : List Token} (h : (many1 (satisfy p) ctx mark trace).1 = .ok (ts, after)) :
    TokensAt ctx p mark ts := by
  obtain ⟨t, mid, trace', hfirst, h⟩ := bind_matches h
  obtain ⟨us, _, _, hus, h⟩ := bind_matches h
  cases h
  obtain ⟨ht, hp, rfl⟩ := satisfy_matches hfirst
  obtain ⟨_, _, _, hread, hus⟩ := bind_matches hus
  cases hread
  exact .cons ht hp (manyUpTo_tokensAt hus)

theorem innerSize_le_of_sublist {ts us : List Token} (h : ts.Sublist us) : innerSize ts ≤ innerSize us := by
  induction h with
  | slnil => exact Nat.le_refl _
  | cons u _ ih => exact Nat.le_add_left_of_le ih
  | cons_cons t _ ih => exact Nat.add_le_add_left ih _

end

/-- String tokens in a row. -/
theorem stringTokens_yields [IgnoresReach I] : Yields I ctx (many1 (kind .string)) fun ts =>
    innerSize ts ≤ innerSize ctx.stream.tokens.toList ∧ ∀ t ∈ ts, t.kind = .string := by
  intro mark trace hI
  refine ⟨((Yields.kind .string).many1 mark trace hI).1, fun ts after hok => ?_⟩
  obtain ⟨hbegins, hkind⟩ := many1_tokensAt hok
  refine ⟨innerSize_le_of_sublist (hbegins.sublist.trans (List.drop_sublist _ _)), fun t ht => ?_⟩
  exact beq_iff_eq.mp (hkind t ht)

theorem strings_bounded (hctx : ctx.Fits n) : Bounded n ctx strings := by
  refine Yields.kept _ (stringTokens_yields.bind fun tokens htokens => ?_)
  obtain ⟨hsize, hkind⟩ := htokens
  split
  · exact Yields.mismatch
  · rename_i first more
    refine (stringValues_yields hctx.nested _ hkind).bind fun v hv => ?_
    have hfits : PartsFit n 0 v.2 := hv.mono (Nat.le_trans hsize hctx.size)
    obtain ⟨hmerged, _⟩ := StringPart.merge_spec v.2
    have htexts := hfits.texts
    refine Yields.pure ?_
    change Expr.longest _ ≤ n
    dsimp only [Parsed.value]
    split
    · exact Nat.zero_le _
    · split
      · exact hfits.longest_formatted _
      · split
        · rename_i t ts hmerge
          have hlength : t.length ≤ StringPart.textSize (StringPart.merge v.2) :=
            StringPart.length_le_textSize (hmerge ▸ List.mem_cons_self)
          change t.length ≤ n
          omega
        · exact Nat.zero_le _

end ModuleDocs.Source.Grammar
