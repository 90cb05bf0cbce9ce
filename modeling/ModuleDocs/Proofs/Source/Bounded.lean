import ModuleDocs.Proofs.Source.Measured
import ModuleDocs.Source.Grammar.Reading

/-!
# Strings in what is read

Rule by rule, the strings in an expression are no longer than what its text has between quotes. Formatted strings hold
texts of their own, which are read in the same way, so their depth is what the last induction is on. An expression has
therefore only strings that are shorter than its text.
-/

namespace ModuleDocs.Source.Grammar

open Rule
open Format (NestedFits)
open Measured (AtMost)

/-! ### Displays -/

section

variable {n : Nat} {ctx : Context} {r : Recur} (hr : ∀ s, Bounded n ctx (r s))

include hr

theorem yieldExpr_bounded : Bounded n ctx (yieldExpr r) := by
  refine (Yields.kw _).after fun t => Yields.orElse ?_ ?_
  · exact (Yields.kw _).after fun _ => (hr .expression).bind fun e he => Yields.pure (by simpa using he)
  · exact (hr .starExpressions).optional.bind fun e he => Yields.pure (by simpa using he)

theorem assignmentExpr_bounded : Bounded n ctx (assignmentExpr r) := by
  refine (Yields.kind _).after fun t => (Yields.op _).after fun _ => ?_
  exact (hr .expression).bind fun e he => Yields.pure (by simpa using he)

theorem starNamedExpr_bounded : Bounded n ctx (starNamedExpr r) := by
  refine Yields.orElse ((Yields.op _).after fun t => ?_) (hr .namedExpression)
  exact (hr .bitOr).bind fun e he => Yields.pure (by simpa using he)

theorem starNamedExprs_bounded : Bounded n ctx (starNamedExprs r) := (starNamedExpr_bounded hr).commaList

theorem starredExpr_bounded : Bounded n ctx (starredExpr r) :=
  (Yields.op _).after fun t => (hr .expression).bind fun e he => Yields.pure (by simpa using he)

theorem bindingOrExpr_bounded : Bounded n ctx (bindingOrExpr r) := by
  refine Yields.orElse (assignmentExpr_bounded hr) ((hr .expression).bind fun e he => ?_)
  exact (Yields.op _).notAhead.after fun _ => Yields.pure he

theorem clauseHead_bounded : Bounded n ctx (clauseHead r) :=
  (Yields.kw _).after fun _ => (hr .starTargets).bind fun _ ht => (Yields.kw _).after fun _ => Yields.pure ht

theorem clauseBody_bounded (isAsync : Bool) {target : Parsed} (htarget : AtMost n target) :
    Bounded n ctx (clauseBody r isAsync target) := by
  have hcondition : Bounded n ctx (do let _ ← kw "if"; r .disjunction) := (Yields.kw _).after fun _ => hr .disjunction
  refine (hr .disjunction).bind fun iter hiter => hcondition.many.bind fun conditions hconditions => Yields.pure ?_
  change AtMost n (target.expr :: iter.expr :: conditions.map (·.expr))
  simp [htarget, hiter, hconditions]

theorem listDisplay_bounded : Bounded n ctx (listDisplay r) := by
  refine (Yields.op _).after fun t => (starNamedExprs_bounded hr).optional.bind fun es hes => ?_
  exact (Yields.op _).after fun _ => Yields.pure (by simpa using atMost_getD hes)

theorem tupleItems_bounded : Bounded n ctx (tupleItems r) := by
  refine (starNamedExpr_bounded hr).bind fun e he => (Yields.op _).after fun _ => ?_
  exact (starNamedExprs_bounded hr).optional.bind fun more hmore => Yields.pure (by simp [he, atMost_getD hmore])

theorem tupleDisplay_bounded : Bounded n ctx (tupleDisplay r) := by
  refine (Yields.op _).after fun t => (tupleItems_bounded hr).optional.bind fun es hes => ?_
  exact (Yields.op _).after fun _ => Yields.pure (by simpa using atMost_getD hes)

theorem setDisplay_bounded : Bounded n ctx (setDisplay r) := by
  refine (Yields.op _).after fun t => (starNamedExprs_bounded hr).bind fun es hes => ?_
  exact (Yields.op _).after fun _ => Yields.pure (by simpa using hes)

theorem keyValue_bounded : Bounded n ctx (keyValue r) := by
  refine (hr .expression).bind fun k hk => (Yields.op _).after fun _ => (hr .expression).bind fun v hv => ?_
  exact Yields.pure (by simp [hk, hv])

theorem entry_bounded : Bounded n ctx (entry r) := by
  refine Yields.orElse ?_ ?_
  · exact (Yields.op _).after fun _ => (hr .bitOr).bind fun e he => Yields.pure (by simpa using he)
  · exact (keyValue_bounded hr).bind fun kv hkv => Yields.pure (by simpa using ⟨hkv.1, hkv.2⟩)

/-- A rule that finds something to report, which is a fault. -/
def Reports (n : Nat) (ctx : Context) (p : Rule (Rule Unit)) : Prop :=
  Yields (Trace.AtMost n) ctx p fun report => Yields (Trace.AtMost n) ctx report fun _ => True

theorem valueMistake_reports : ∀ p ∈ valueMistake r, Reports n ctx p := by
  refine List.forall_mem_cons.mpr ⟨?_, List.forall_mem_singleton.mpr ?_⟩
  · refine (hr .expression).after fun _ => (Yields.op _).after fun _ => (Yields.op _).after fun t => ?_
    exact (hr .bitOr).after fun _ => Yields.pure (Yields.fault _)
  · refine (hr .expression).after fun _ => (Yields.op _).after fun t => ?_
    exact (Yields.orElse (Yields.op _) (Yields.op _)).ahead.after fun _ => Yields.pure (Yields.fault _)

theorem entryMistake_reports : Reports n ctx (entryMistake r) := by
  refine Yields.choice (List.forall_mem_cons.mpr ⟨?_, valueMistake_reports hr⟩)
  exact (hr .expression).after fun e => (Yields.op _).notAhead.after fun _ => Yields.pure (Yields.fault _)

theorem entriesMistake_yields : Yields (Trace.AtMost n) ctx (entriesMistake r) fun _ => True := by
  refine Yields.bind (Yields.choice (List.forall_mem_cons.mpr ⟨?_, valueMistake_reports hr⟩)) fun _ hreport => hreport
  exact (entry_bounded hr).commaSeparated.after fun _ => (Yields.op _).after fun _ => entryMistake_reports hr

theorem dictDisplay_bounded : Bounded n ctx (dictDisplay r) := by
  refine Yields.orElse ?_ ?_
  · refine (Yields.op _).after fun t => (entry_bounded hr).commaList.optional.bind fun es hes => ?_
    refine (Yields.op _).after fun _ => Yields.pure ?_
    have hall : AtMost n (es.getD []) := atMost_getD hes
    rw [atMost_value, atMost_node, atMost_append]
    constructor
    · intro k hk
      obtain ⟨e, he, hek⟩ := List.mem_filterMap.mp hk
      exact (hall e he).1 k hek
    · intro v hv
      obtain ⟨e, he, rfl⟩ := List.mem_map.mp hv
      exact (hall e he).2
  · exact (Yields.op _).after fun _ => (entriesMistake_yields hr).after fun _ => Yields.mismatch

variable (hctx : ctx.Fits n)

include hctx

theorem clause_bounded : Bounded n ctx (clause r) := by
  refine Yields.commit ((Yields.kw _).after fun _ => clauseHead_bounded hr) ?_ ?_
  · exact fun t ht => clauseBody_bounded hr true ht
  · refine Yields.commit (clauseHead_bounded hr) ?_ (Yields.diagnosis hctx.round _)
    exact fun t ht => clauseBody_bounded hr false ht

theorem clauses_bounded : Bounded n ctx (clauses r) := (clause_bounded hr hctx).many1

omit hr hctx in
theorem comprehension_atMost {shape : List Clause → Shape} {first : List Expr} {cs : List ParsedClause} {line : Nat}
    (hfirst : AtMost n first) (hcs : AtMost n cs) : AtMost n (comprehension shape first cs line) := by
  rw [comprehension, atMost_value, atMost_node, atMost_append]
  refine ⟨hfirst, fun e he => ?_⟩
  obtain ⟨c, hc, he⟩ := List.mem_flatMap.mp he
  exact hcs c hc e he

theorem comprehensionIn_bounded (opening closing : String) {element : Rule Parsed} (helement : Bounded n ctx element)
    (shape : List Clause → Shape) : Bounded n ctx (comprehensionIn r opening closing element shape) := by
  refine Yields.orElse ?_ (Yields.diagnosis hctx.round _)
  refine (Yields.op _).after fun t => helement.bind fun e he => (clauses_bounded hr hctx).bind fun cs hcs => ?_
  exact (Yields.op _).after fun _ => Yields.pure (comprehension_atMost (by simpa using he) hcs)

theorem group_bounded : Bounded n ctx (group r) := by
  refine Yields.orElse ?_ (Yields.diagnosis hctx.round _)
  refine (Yields.op _).after fun _ => Yields.bind ((yieldExpr_bounded hr).orElse (hr .namedExpression)) fun e he => ?_
  exact (Yields.op _).after fun _ => Yields.pure he

theorem dictComprehension_bounded : Bounded n ctx (dictComprehension r) := by
  refine Yields.orElse ?_ (Yields.diagnosis hctx.round _)
  refine (Yields.op _).after fun t => (keyValue_bounded hr).bind fun kv hkv => ?_
  refine (clauses_bounded hr hctx).bind fun cs hcs => ?_
  exact (Yields.op _).after fun _ => Yields.pure (comprehension_atMost (by simpa using ⟨hkv.1, hkv.2⟩) hcs)

/-! ### Primaries -/

omit hr hctx in
theorem nameExpr_bounded : Bounded n ctx nameExpr := (Yields.kind _).after fun _ => Yields.pure (by simp)

omit hr hctx in
theorem numeral_atMost {text : String} {c : Constant} (h : Numeral.value? text = some c) :
    AtMost n (Expr.constant c) := by
  unfold Numeral.value? at h
  split at h
  iterate 6
    · cases h
      exact Nat.zero_le _
  · split at h
    · cases h
      exact Nat.zero_le _
    · split at h
      · split at h
        · cases h
        · cases h
          exact Nat.zero_le _
      · cases h
        exact Nat.zero_le _

omit hr hctx in
theorem number_bounded : Bounded n ctx number := by
  refine (Yields.kind _).after fun t => ?_
  split
  · rename_i c hc
    exact Yields.pure (numeral_atMost hc)
  · exact Yields.fault _

omit hr hctx in
theorem namedConstant_bounded : Bounded n ctx namedConstant := by
  have hreserved : ∀ {text : String} {c : Constant}, AtMost n (Expr.constant c) → Bounded n ctx (reserved text c) :=
    fun hc => (Yields.kw _).after fun _ => Yields.pure hc
  exact (hreserved (Nat.zero_le _)).orElse ((hreserved (Nat.zero_le _)).orElse (hreserved (Nat.zero_le _)))

theorem atom_bounded : Bounded n ctx (atom r) := by
  have hgenerator : Bounded n ctx (generatorExpr r) := comprehensionIn_bounded hr hctx _ _ (bindingOrExpr_bounded hr) _
  have hlist : Bounded n ctx (listComprehension r) := comprehensionIn_bounded hr hctx _ _ (hr .namedExpression) _
  have hset : Bounded n ctx (setComprehension r) := comprehensionIn_bounded hr hctx _ _ (hr .namedExpression) _
  apply Yields.choice
  simp only [List.forall_mem_cons, List.not_mem_nil, false_implies, implies_true, and_true]
  refine ⟨nameExpr_bounded, namedConstant_bounded, strings_bounded hctx, number_bounded, ?_, ?_, ?_, ?_⟩
  · refine (Yields.op _).ahead.after fun _ => ?_
    exact (tupleDisplay_bounded hr).orElse ((group_bounded hr hctx).orElse hgenerator)
  · exact (Yields.op _).ahead.after fun _ => (listDisplay_bounded hr).orElse hlist
  · refine (Yields.op _).ahead.after fun _ => (dictDisplay_bounded hr).orElse ((setDisplay_bounded hr).orElse ?_)
    exact (dictComprehension_bounded hr hctx).orElse hset
  · exact (Yields.op _).after fun _ => Yields.pure (Nat.zero_le _)

/-! ### Arguments -/

omit hctx in
theorem positionalArgument_bounded : Bounded n ctx (positionalArgument r) := by
  refine (starredExpr_bounded hr).orElse ((bindingOrExpr_bounded hr).bind fun e he => ?_)
  exact (Yields.op _).notAhead.after fun _ => Yields.pure he

omit hctx in
theorem namedArgument_bounded : Bounded n ctx (namedArgument r) := by
  refine (Yields.kind _).after fun t => (Yields.op _).after fun _ => ?_
  exact (hr .expression).bind fun _ he => Yields.pure he

theorem keywordOrStarred_bounded : Bounded n ctx (keywordOrStarred r) := by
  refine Yields.orElse (Yields.diagnosis hctx.round _) (Yields.orElse ?_ ?_)
  · exact (namedArgument_bounded hr).bind fun _ hk => Yields.pure (atMost_inr.mpr hk)
  · exact (starredExpr_bounded hr).bind fun _ he => Yields.pure (atMost_inl.mpr he)

theorem keywordOrSpread_bounded : Bounded n ctx (keywordOrSpread r) := by
  refine Yields.orElse (Yields.diagnosis hctx.round _) (Yields.orElse ?_ ?_)
  · exact (namedArgument_bounded hr).bind fun _ hk => Yields.pure (atMost_inr.mpr hk)
  · exact (Yields.op _).after fun _ => (hr .expression).bind fun _ he => Yields.pure (atMost_inr.mpr he)

theorem keywordArguments_bounded : Bounded n ctx (keywordArguments r) := by
  have hstarred := (keywordOrStarred_bounded hr hctx).commaSeparated
  have hspread := (keywordOrSpread_bounded hr hctx).commaSeparated
  refine Yields.orElse ?_ (Yields.orElse hstarred hspread)
  refine hstarred.bind fun a ha => (Yields.op _).after fun _ => hspread.bind fun b hb => ?_
  exact Yields.pure (atMost_append.mpr ⟨ha, hb⟩)

omit hr hctx in
theorem argumentsOf_atMost {positional : List Parsed} {more : List (Parsed ⊕ Keyword)} (line : Nat)
    (hpositional : AtMost n positional) (hmore : AtMost n more) : AtMost n (argumentsOf positional more line) := by
  refine ⟨atMost_append.mpr ⟨hpositional, fun p hp => ?_⟩, fun k hk => ?_⟩
  · obtain ⟨s, hs, hleft⟩ := List.mem_filterMap.mp hp
    exact (hmore s hs).1 p (Sum.getLeft?_eq_some_iff.mp hleft)
  · obtain ⟨s, hs, hright⟩ := List.mem_filterMap.mp hk
    exact (hmore s hs).2 k (Sum.getRight?_eq_some_iff.mp hright)

theorem argumentList_bounded : Bounded n ctx (argumentList r) := by
  have hkeywords := keywordArguments_bounded hr hctx
  have hmore : Bounded n ctx (do let _ ← op ","; keywordArguments r) := (Yields.op _).after fun _ => hkeywords
  refine Yields.line.after fun start => Yields.orElse ?_ ?_
  · refine (positionalArgument_bounded hr).commaSeparated.bind fun ps hps => hmore.optional.bind fun more hmore => ?_
    exact Yields.pure (argumentsOf_atMost start hps (atMost_getD hmore))
  · exact hkeywords.bind fun more hmore => Yields.pure (argumentsOf_atMost start atMost_nil hmore)

theorem arguments_bounded : Bounded n ctx (arguments r) := by
  refine Yields.keptArguments (Yields.orElse ?_ (Yields.diagnosis hctx.round _))
  refine (argumentList_bounded hr hctx).bind fun a ha => (Yields.op _).optional.after fun _ => ?_
  exact (Yields.op _).ahead.after fun _ => Yields.pure ha

/-! ### Subscripts, members and calls -/

omit hctx in
theorem slice_bounded : Bounded n ctx (slice r) := by
  have hbound := (hr .expression).optional
  have hstep : Bounded n ctx (do let _ ← op ":"; Rule.optional (r .expression)) := (Yields.op _).after fun _ => hbound
  refine Yields.line.after fun start => Yields.orElse ?_ (hr .namedExpression)
  refine hbound.bind fun a ha => (Yields.op _).after fun _ => hbound.bind fun b hb => ?_
  refine hstep.optional.bind fun c hc => Yields.pure ?_
  have hgiven : AtMost n [a, b, c.bind id] := by cases c <;> simp_all
  rw [atMost_value, atMost_node]
  intro e he
  obtain ⟨o, ho, he⟩ := List.mem_filterMap.mp he
  exact atMost_option_map_expr.mpr (hgiven o ho) e he

omit hctx in
theorem slices_bounded : Bounded n ctx (slices r) := by
  refine Yields.line.after fun start => Yields.orElse ?_ ?_
  · exact (slice_bounded hr).bind fun s hs => (Yields.op _).notAhead.after fun _ => Yields.pure hs
  · exact ((slice_bounded hr).orElse (starredExpr_bounded hr)).commaList.bind fun es hes =>
      Yields.pure (by simpa using hes)

omit hr hctx in
theorem callOf_atMost (start : Nat) {f : Parsed} {a : Arguments} (hf : AtMost n f) (ha : AtMost n a) :
    AtMost n (callOf start f a) := by
  have hvalues : AtMost n (a.keywords.map (·.value)) := List.forall_mem_map.mpr ha.2
  have hpositional : AtMost n a.positional := ha.1
  simp [callOf, hf, hpositional, hvalues]

theorem generatorCall_bounded (start : Nat) {f : Parsed} (hf : AtMost n f) :
    Bounded n ctx (generatorCall r start f) := by
  refine (comprehensionIn_bounded hr hctx _ _ (bindingOrExpr_bounded hr) _).bind fun g hg => Yields.pure ?_
  exact callOf_atMost start hf ⟨by simpa using hg, atMost_nil⟩

theorem call_bounded (start : Nat) {f : Parsed} (hf : AtMost n f) : Bounded n ctx (call r start f) := by
  refine (Yields.op _).after fun _ => (arguments_bounded hr hctx).optional.bind fun a ha => ?_
  refine (Yields.op _).after fun _ => Yields.pure (callOf_atMost start hf ?_)
  cases a with
  | none => exact ⟨atMost_nil, atMost_nil⟩
  | some a => exact atMost_some.mp ha

omit hr hctx in
theorem memberOf_bounded (start : Nat) {v : Parsed} (hv : AtMost n v) : Bounded n ctx (memberOf start v) :=
  (Yields.op _).after fun _ => (Yields.kind _).after fun _ => Yields.pure (by simpa using hv)

omit hctx in
theorem subscriptOf_bounded (start : Nat) {v : Parsed} (hv : AtMost n v) : Bounded n ctx (subscriptOf r start v) := by
  refine (Yields.op _).after fun _ => (slices_bounded hr).bind fun s hs => (Yields.op _).after fun _ => ?_
  exact Yields.pure (by simp [hv, hs])

theorem primary_bounded : Bounded n ctx (primary r) := by
  refine Yields.kept _ (Yields.line.after fun start => (atom_bounded hr hctx).bind fun a ha => ?_)
  refine Yields.extend ha fun p hp => (memberOf_bounded start hp).orElse ?_
  refine (generatorCall_bounded hr hctx start hp).orElse ?_
  exact (call_bounded hr hctx start hp).orElse (subscriptOf_bounded hr start hp)

omit hr hctx in
theorem continues_yields {I : Trace → Prop} [IgnoresReach I] : Yields I ctx continues fun _ => True :=
  (Yields.op _).orElse ((Yields.op _).orElse (Yields.op _))

omit hr hctx in
theorem continued_bounded {p : Rule Parsed} (hp : Bounded n ctx p) : Bounded n ctx (continued p) :=
  hp.bind fun _ he => continues_yields.ahead.after fun _ => Yields.pure he

omit hr hctx in
theorem final_bounded {p : Rule Parsed} (hp : Bounded n ctx p) : Bounded n ctx (final p) :=
  hp.bind fun _ he => continues_yields.notAhead.after fun _ => Yields.pure he

theorem targetPrimary_bounded : Bounded n ctx (targetPrimary r) := by
  refine Yields.kept _ (Yields.line.after fun start => (continued_bounded (atom_bounded hr hctx)).bind fun a ha => ?_)
  refine Yields.extend ha fun p hp => (continued_bounded (memberOf_bounded start hp)).orElse ?_
  refine (continued_bounded (subscriptOf_bounded hr start hp)).orElse ?_
  exact (continued_bounded (generatorCall_bounded hr hctx start hp)).orElse
    (continued_bounded (call_bounded hr hctx start hp))

/-! ### Targets -/

theorem memberOrSubscript_bounded : Bounded n ctx (memberOrSubscript r) := by
  refine Yields.line.after fun start => Yields.orElse ?_ ?_
  · exact (targetPrimary_bounded hr hctx).bind fun p hp => final_bounded (memberOf_bounded start hp)
  · exact (targetPrimary_bounded hr hctx).bind fun p hp => final_bounded (subscriptOf_bounded hr start hp)

omit hctx in
theorem tupleTargets_bounded : Bounded n ctx (tupleTargets r) := by
  have hmore : Bounded n ctx (do let _ ← op ","; r .starTarget) := (Yields.op _).after fun _ => hr .starTarget
  refine Yields.orElse ?_ ?_
  · refine (hr .starTarget).bind fun a ha => hmore.many1.bind fun more hmore => ?_
    exact (Yields.op _).optional.after fun _ => Yields.pure (by simp [ha, hmore])
  · exact (hr .starTarget).bind fun a ha => (Yields.op _).after fun _ => Yields.pure (by simpa using ha)

omit hctx in
theorem starAtom_bounded : Bounded n ctx (starAtom r) := by
  refine nameExpr_bounded.orElse (Yields.orElse ?_ (Yields.orElse ?_ ?_))
  · refine (Yields.op _).after fun _ => (hr .targetWithStarAtom).bind fun e he => ?_
    exact (Yields.op _).after fun _ => Yields.pure he
  · refine (Yields.op _).after fun t => (tupleTargets_bounded hr).optional.bind fun es hes => ?_
    exact (Yields.op _).after fun _ => Yields.pure (by simpa using atMost_getD hes)
  · refine (Yields.op _).after fun t => (hr .starTarget).commaList.optional.bind fun es hes => ?_
    exact (Yields.op _).after fun _ => Yields.pure (by simpa using atMost_getD hes)

theorem targetWithStarAtom_bounded : Bounded n ctx (targetWithStarAtom r) :=
  Yields.kept _ ((memberOrSubscript_bounded hr hctx).orElse (starAtom_bounded hr))

omit hctx in
theorem starTarget_bounded : Bounded n ctx (starTarget r) := by
  refine Yields.kept _ (Yields.orElse ?_ (hr .targetWithStarAtom))
  refine (Yields.op _).after fun t => (Yields.op _).notAhead.after fun _ => ?_
  exact (hr .starTarget).bind fun e he => Yields.pure (by simpa using he)

omit hctx in
theorem starTargets_bounded : Bounded n ctx (starTargets r) := by
  have hmore : Bounded n ctx (do let _ ← op ","; r .starTarget) := (Yields.op _).after fun _ => hr .starTarget
  refine Yields.line.after fun start => Yields.orElse ?_ ?_
  · exact (hr .starTarget).bind fun e he => (Yields.op _).notAhead.after fun _ => Yields.pure he
  · refine (hr .starTarget).bind fun a ha => hmore.many.bind fun more hmore => ?_
    exact (Yields.op _).optional.after fun _ => Yields.pure (by simp [ha, hmore])

theorem singleTarget_bounded : Bounded n ctx (singleTarget r) := by
  refine (memberOrSubscript_bounded hr hctx).orElse (nameExpr_bounded.orElse ?_)
  refine (Yields.op _).after fun _ => (hr .singleTarget).bind fun e he => ?_
  exact (Yields.op _).after fun _ => Yields.pure he

theorem deleteTarget_bounded : Bounded n ctx (deleteTarget r) := by
  have htargets : Bounded n ctx (Rule.optional (deleteTargets r)) := (hr .deleteTarget).commaList.optional
  refine Yields.kept _ ((memberOrSubscript_bounded hr hctx).orElse (nameExpr_bounded.orElse ?_))
  refine Yields.orElse ?_ (Yields.orElse ?_ ?_)
  · refine (Yields.op _).after fun _ => (hr .deleteTarget).bind fun e he => ?_
    exact (Yields.op _).after fun _ => Yields.pure he
  · refine (Yields.op _).after fun t => htargets.bind fun es hes => ?_
    exact (Yields.op _).after fun _ => Yields.pure (by simpa using atMost_getD hes)
  · refine (Yields.op _).after fun t => htargets.bind fun es hes => ?_
    exact (Yields.op _).after fun _ => Yields.pure (by simpa using atMost_getD hes)

/-! ### Lambda expressions -/

section

variable {style : ParamStyle}

omit hr hctx in
theorem paramEnd_yields {I : Trace → Prop} [IgnoresReach I] : Yields I ctx (paramEnd style) fun _ => True :=
  ((Yields.op _).after fun _ => Yields.pure trivial).orElse (Yields.op _).ahead

omit hctx in
theorem param_bounded : Bounded n ctx (param r style) := by
  have htype : Bounded n ctx (do let _ ← op ":"; r .expression) := (Yields.op _).after fun _ => hr .expression
  have hnone : Bounded n ctx (pure none : Rule (Option Parsed)) := Yields.pure atMost_none
  refine (Yields.kind _).after fun t => ?_
  dsimp only
  split
  · exact htype.optional.after fun type => Yields.pure atMost_none
  · exact hnone.after fun type => Yields.pure atMost_none

theorem paramDefault_bounded : Bounded n ctx (paramDefault r) := by
  refine Yields.orElse ?_ (Yields.diagnosis hctx.round _)
  exact (Yields.op _).after fun _ => (hr .expression).bind fun _ he => Yields.pure he

omit hctx in
theorem paramNoDefault_bounded : Bounded n ctx (paramNoDefault r style) :=
  (param_bounded hr).bind fun _ hp => paramEnd_yields.after fun _ => Yields.pure hp

theorem paramWithDefault_bounded : Bounded n ctx (paramWithDefault r style) := by
  refine (param_bounded hr).after fun p => (paramDefault_bounded hr hctx).bind fun d hd => ?_
  exact paramEnd_yields.after fun _ => Yields.pure (atMost_some.mpr hd)

theorem paramMaybeDefault_bounded : Bounded n ctx (paramMaybeDefault r style) := by
  refine (param_bounded hr).after fun p => (paramDefault_bounded hr hctx).optional.bind fun d hd => ?_
  exact paramEnd_yields.after fun _ => Yields.pure hd

omit hctx in
theorem paramStarType_bounded : Bounded n ctx (paramStarType r style) := by
  refine (Yields.kind _).after fun t => (Yields.op _).after fun _ => (hr .starExpression).after fun e => ?_
  exact paramEnd_yields.after fun _ => Yields.pure atMost_none

omit hr hctx in
theorem slash_yields {I : Trace → Prop} [IgnoresReach I] : Yields I ctx (slash style) fun _ => True :=
  (Yields.op _).after fun _ => paramEnd_yields

omit hctx in
theorem slashNoDefault_bounded : Bounded n ctx (slashNoDefault r style) :=
  (paramNoDefault_bounded hr).many1.bind fun _ hps => slash_yields.after fun _ => Yields.pure hps

theorem slashWithDefault_bounded : Bounded n ctx (slashWithDefault r style) := by
  refine (paramNoDefault_bounded hr).many.bind fun ps hps => ?_
  refine (paramWithDefault_bounded hr hctx).many1.bind fun qs hqs => ?_
  exact slash_yields.after fun _ => Yields.pure (atMost_append.mpr ⟨hps, hqs⟩)

theorem extraParam_bounded : Bounded n ctx (extraParam r style) :=
  Yields.orElse (Yields.diagnosis hctx.round _) ((Yields.op _).after fun _ => paramNoDefault_bounded hr)

theorem paramTail_bounded : Bounded n ctx (paramTail r style) := by
  have hmaybe : Bounded n ctx (paramMaybeDefault r style) := paramMaybeDefault_bounded hr hctx
  have hextra : Bounded n ctx (Rule.optional (extraParam r style)) := (extraParam_bounded hr hctx).optional
  apply Yields.choice
  simp only [List.forall_mem_cons, List.not_mem_nil, false_implies, implies_true, and_true]
  refine ⟨Yields.diagnosis hctx.round _, ?_, ?_, ?_, ?_⟩
  · refine (Yields.op _).after fun _ => (paramNoDefault_bounded hr).after fun p => hmaybe.many.bind fun ks hks => ?_
    exact hextra.after fun _ => Yields.pure hks
  · split
    · exact Yields.mismatch.bind fun _ (h : False) => h.elim
    · refine (Yields.op _).after fun _ => (paramStarType_bounded hr).after fun p => hmaybe.many.bind fun ks hks => ?_
      exact hextra.after fun _ => Yields.pure hks
  · refine (Yields.op _).after fun _ => (Yields.op _).after fun _ => hmaybe.many1.bind fun ks hks => ?_
    exact hextra.after fun _ => Yields.pure hks
  · exact (extraParam_bounded hr hctx).after fun _ => Yields.pure atMost_nil

omit hr hctx in
theorem paramsOf_atMost {only pos : List ParsedParam} {tail : Option ParamTail} (honly : AtMost n only)
    (hpos : AtMost n pos) (htail : AtMost n tail) : AtMost n (paramsOf only pos tail) := by
  have hmap : ∀ {ps : List ParsedParam}, AtMost n ps → AtMost n (ps.map (·.param)) :=
    fun h => List.forall_mem_map.mpr h
  refine ⟨atMost_append.mpr ⟨hmap honly, hmap hpos⟩, ?_⟩
  cases tail with
  | none => exact atMost_nil
  | some t =>
    have ht : AtMost n t := atMost_some.mp htail
    exact hmap ht

theorem params_bounded : Bounded n ctx (params r style) := by
  have hplain : Bounded n ctx (paramNoDefault r style) := paramNoDefault_bounded hr
  have hfilled : Bounded n ctx (paramWithDefault r style) := paramWithDefault_bounded hr hctx
  have htail : Bounded n ctx (paramTail r style) := paramTail_bounded hr hctx
  apply Yields.choice
  simp only [List.forall_mem_cons, List.not_mem_nil, false_implies, implies_true, and_true]
  refine ⟨Yields.diagnosis hctx.round _, ?_, ?_, ?_, ?_, ?_⟩
  · refine (slashNoDefault_bounded hr).bind fun only honly => hplain.many.bind fun ps hps => ?_
    refine hfilled.many.bind fun qs hqs => htail.optional.bind fun t ht => ?_
    exact Yields.pure (paramsOf_atMost honly (atMost_append.mpr ⟨hps, hqs⟩) ht)
  · refine (slashWithDefault_bounded hr hctx).bind fun only honly => hfilled.many.bind fun qs hqs => ?_
    exact htail.optional.bind fun t ht => Yields.pure (paramsOf_atMost honly hqs ht)
  · refine hplain.many1.bind fun ps hps => hfilled.many.bind fun qs hqs => htail.optional.bind fun t ht => ?_
    exact Yields.pure (paramsOf_atMost atMost_nil (atMost_append.mpr ⟨hps, hqs⟩) ht)
  · refine hfilled.many1.bind fun qs hqs => htail.optional.bind fun t ht => ?_
    exact Yields.pure (paramsOf_atMost atMost_nil hqs ht)
  · exact htail.bind fun t ht => Yields.pure (paramsOf_atMost atMost_nil atMost_nil (atMost_some.mpr ht))

end

theorem lambdaExpr_bounded : Bounded n ctx (lambdaExpr r) := by
  have hdefaults : ∀ {ps : List Param}, AtMost n ps → AtMost n (ps.filterMap (·.default)) := by
    intro ps hps e he
    obtain ⟨p, hp, he⟩ := List.mem_filterMap.mp he
    exact hps p hp e he
  refine (Yields.kw _).after fun t => (params_bounded hr hctx).optional.bind fun ps hps => ?_
  refine (Yields.op _).after fun _ => (hr .expression).bind fun body hbody => Yields.pure ?_
  have hall : AtMost n (ps.getD Params.empty) := by
    cases ps with
    | none => exact ⟨atMost_nil, atMost_nil⟩
    | some ps => exact atMost_some.mp hps
  rw [atMost_value, atMost_node, atMost_append, atMost_append]
  exact ⟨⟨hdefaults hall.2, hdefaults hall.1⟩, by simpa using hbody⟩

/-! ### Operators -/

theorem awaited_bounded : Bounded n ctx (awaited r) := by
  refine Yields.kept _ (Yields.orElse ?_ (primary_bounded hr hctx))
  exact (Yields.kw _).after fun t => (primary_bounded hr hctx).bind fun e he => Yields.pure (by simpa using he)

omit hr hctx in
theorem binaryOf_atMost {start : Nat} {o : BinaryOp} {a b : Parsed} (ha : AtMost n a) (hb : AtMost n b) :
    AtMost n (binaryOf start o a b) := by
  simp [binaryOf, ha, hb]

theorem power_bounded : Bounded n ctx (power r) := by
  have hexponent : Bounded n ctx (do let _ ← op "**"; r .factor) := (Yields.op _).after fun _ => hr .factor
  refine Yields.line.after fun start => (awaited_bounded hr hctx).bind fun a ha => ?_
  refine hexponent.optional.bind fun b hb => Yields.pure ?_
  cases b with
  | none => exact ha
  | some b => exact binaryOf_atMost ha (atMost_some.mp hb)

theorem factor_bounded : Bounded n ctx (factor r) := by
  have hsigned : ∀ text u, Bounded n ctx (signed r text u) := fun text u =>
    (Yields.op _).after fun t => (hr .factor).bind fun e he => Yields.pure (by simpa using he)
  exact Yields.kept _ ((hsigned _ _).orElse ((hsigned _ _).orElse ((hsigned _ _).orElse (power_bounded hr hctx))))

omit hr hctx in
theorem leftGrouped_bounded (rule : Kept) {operand : Rule Parsed} (hoperand : Bounded n ctx operand)
    (ops : List (String × BinaryOp)) : Bounded n ctx (leftGrouped rule operand ops) := by
  refine Yields.kept _ (Yields.line.after fun start => hoperand.bind fun a ha => ?_)
  refine Yields.extend ha fun p hp => Yields.choice (List.forall_mem_map.mpr fun o _ => ?_)
  exact (Yields.op _).after fun _ => hoperand.bind fun b hb => Yields.pure (binaryOf_atMost hp hb)

theorem bitOr_bounded : Bounded n ctx (bitOr r) :=
  leftGrouped_bounded _ (leftGrouped_bounded _ (leftGrouped_bounded _ (leftGrouped_bounded _ (leftGrouped_bounded _
    (leftGrouped_bounded _ (factor_bounded hr hctx) _) _) _) _) _) _

omit hr hctx in
theorem compareOp_yields {I : Trace → Prop} [IgnoresReach I] : Yields I ctx compareOp fun _ => True := by
  have hsymbol : ∀ text o, Yields I ctx (symbol text o) fun _ => True :=
    fun text o => (Yields.op _).after fun _ => Yields.pure trivial
  apply Yields.choice
  simp only [List.forall_mem_cons, List.not_mem_nil, false_implies, implies_true, and_true]
  refine ⟨hsymbol _ _, hsymbol _ _, hsymbol _ _, hsymbol _ _, hsymbol _ _, hsymbol _ _, ?_, ?_, ?_, ?_⟩
  · exact (Yields.kw _).after fun _ => (Yields.kw _).after fun _ => Yields.pure trivial
  · exact (Yields.kw _).after fun _ => Yields.pure trivial
  · exact (Yields.kw _).after fun _ => (Yields.kw _).after fun _ => Yields.pure trivial
  · exact (Yields.kw _).after fun _ => Yields.pure trivial

theorem comparison_bounded : Bounded n ctx (comparison r) := by
  have hmore : Yields (Trace.AtMost n) ctx
      (do
        let o ← compareOp
        let b ← bitOr r
        return (o, b)) fun p => AtMost n p.2 :=
    compareOp_yields.after fun _ => (bitOr_bounded hr hctx).bind fun _ hb => Yields.pure hb
  refine Yields.line.after fun start => (bitOr_bounded hr hctx).bind fun a ha => hmore.many.bind fun more hmore => ?_
  split
  · exact Yields.pure ha
  · refine Yields.pure (atMost_node.mpr (atMost_cons.mpr ⟨ha, ?_⟩))
    exact List.forall_mem_map.mpr hmore

theorem inversion_bounded : Bounded n ctx (inversion r) := by
  refine Yields.kept _ (Yields.orElse ?_ (comparison_bounded hr hctx))
  exact (Yields.kw _).after fun t => (hr .inversion).bind fun e he => Yields.pure (by simpa using he)

omit hr hctx in
theorem joined_bounded (rule : Kept) {operand : Rule Parsed} (hoperand : Bounded n ctx operand) (word : String)
    (shape : Shape) : Bounded n ctx (joined rule operand word shape) := by
  have hmore : Bounded n ctx (do let _ ← kw word; operand) := (Yields.kw _).after fun _ => hoperand
  refine Yields.kept _ (Yields.line.after fun start => hoperand.bind fun a ha => hmore.many.bind fun more hmore => ?_)
  refine Yields.pure ?_
  split
  · exact ha
  · simp [ha, hmore]

theorem disjunction_bounded : Bounded n ctx (disjunction r) :=
  joined_bounded _ (joined_bounded _ (inversion_bounded hr hctx) _ _) _ _

/-! ### Expressions -/

theorem conditional_bounded : Bounded n ctx (conditional r) := by
  refine Yields.line.after fun start => (disjunction_bounded hr hctx).bind fun a ha => (Yields.kw _).after fun _ => ?_
  refine (disjunction_bounded hr hctx).bind fun b hb => (Yields.kw _).after fun _ => ?_
  exact (hr .expression).bind fun c hc => Yields.pure (by simp [ha, hb, hc])

theorem expression_bounded : Bounded n ctx (expression r) := by
  refine Yields.kept _ (Yields.orElse (Yields.diagnosis hctx.round _) ?_)
  refine Yields.orElse (Yields.diagnosis hctx.round _) ((conditional_bounded hr hctx).orElse ?_)
  exact (disjunction_bounded hr hctx).orElse (lambdaExpr_bounded hr hctx)

theorem namedExpr_bounded : Bounded n ctx (namedExpr r) := by
  refine (assignmentExpr_bounded hr).orElse (Yields.orElse (Yields.kept _ (Yields.diagnosis hctx.round _)) ?_)
  exact (hr .expression).bind fun e he => (Yields.op _).notAhead.after fun _ => Yields.pure he

theorem starExpr_bounded : Bounded n ctx (starExpr r) := by
  refine Yields.kept _ (Yields.orElse ?_ (hr .expression))
  exact (Yields.op _).after fun t => (bitOr_bounded hr hctx).bind fun e he => Yields.pure (by simpa using he)

omit hr hctx in
theorem tupleOrOne_bounded {item : Rule Parsed} (hitem : Bounded n ctx item) : Bounded n ctx (tupleOrOne item) := by
  have hmore : Bounded n ctx (do let _ ← op ","; item) := (Yields.op _).after fun _ => hitem
  refine Yields.line.after fun start => hitem.bind fun a ha => hmore.many.bind fun more hmore => ?_
  refine (Yields.op _).optional.after fun comma => Yields.pure ?_
  split
  · exact ha
  · simp [ha, hmore]

theorem ruleOf_bounded (s : Nonterminal) : Bounded n ctx (ruleOf r s) := by
  cases s with
  | expression => exact expression_bounded hr hctx
  | disjunction => exact disjunction_bounded hr hctx
  | inversion => exact inversion_bounded hr hctx
  | bitOr => exact bitOr_bounded hr hctx
  | factor => exact factor_bounded hr hctx
  | namedExpression => exact namedExpr_bounded hr hctx
  | starExpression => exact starExpr_bounded hr hctx
  | starExpressions => exact tupleOrOne_bounded (starExpr_bounded hr hctx)
  | starTargets => exact starTargets_bounded hr
  | starTarget => exact starTarget_bounded hr
  | targetWithStarAtom => exact targetWithStarAtom_bounded hr hctx
  | deleteTarget => exact deleteTarget_bounded hr hctx
  | singleTarget => exact singleTarget_bounded hr hctx

omit hr in
/-- The rules of all nonterminals, by induction on the depth of nesting. -/
theorem expr_bounded (fuel : Nat) (s : Nonterminal) : Bounded n ctx (expr fuel s) := by
  induction fuel generalizing s with
  | zero => exact Yields.mismatch
  | succ fuel ih => exact ruleOf_bounded ih hctx s

end

/-! ### Texts -/

theorem wholeExpr_bounded {n : Nat} {ctx : Context} {r : Recur} (hr : ∀ s, Bounded n ctx (r s)) :
    Bounded n ctx (wholeExpr r) := by
  refine (tupleOrOne_bounded (hr .expression)).bind fun e he => (Yields.kind _).many.after fun _ => ?_
  exact (Yields.kind _).after fun _ => Yields.pure he

theorem fits_ofText {nested : List Char → Nat → Except Nat Expr} (hnested : NestedFits nested) (kind : TextKind)
    (line : Nat) (text : List Char) :
    Context.Fits (text.length - 1) ⟨TokenStream.ofText kind line text, false, nested⟩ :=
  ⟨rfl, hnested, TokenStream.innerSize_ofText kind line text⟩

theorem readNested_fits (depth : Nat) : NestedFits (readNested depth) := by
  induction depth with
  | zero => exact fun _ _ _ h => nomatch h
  | succ depth ih =>
    intro text line e h
    have hrule : ∀ fuel, Bounded (text.length - 1) ⟨TokenStream.ofText .file line text, false, readNested depth⟩
        (do return (← expr fuel .starExpressions).expr) :=
      fun fuel => (expr_bounded (fits_ofText ih .file line text) fuel _).bind fun _ hp => Yields.pure hp
    exact (hrule _).readStream (Trace.start_atMost _ _) h

end Grammar

open Grammar in
theorem Expr.longest_of_parse {text : List Char} {e : Expr} (h : Expr.parse text = .ok e) :
    e.longest ≤ text.length - 1 :=
  (wholeExpr_bounded (expr_bounded (fits_ofText (readNested_fits _) .expression 1 text) _)).readStream
    (Trace.start_atMost _ _) h

theorem Expr.parse_nil : (Expr.parse []).toOption = none := by decide +kernel

theorem Expr.longest_lt_of_parse {text : List Char} {e : Expr} (h : Expr.parse text = .ok e) :
    e.longest < text.length := by
  have hle := Expr.longest_of_parse h
  cases text with
  | nil =>
    have hnone := Expr.parse_nil
    rw [h] at hnone
    cases hnone
  | cons c cs =>
    simp only [List.length_cons] at hle ⊢
    omega

end ModuleDocs.Source
