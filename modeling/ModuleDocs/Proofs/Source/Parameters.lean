import ModuleDocs.Proofs.Faults
import ModuleDocs.Proofs.Source.Rules
import ModuleDocs.Source.Module

/-!
# Parameters that are read

In the parameters of a function every name is a word, no parameter without a default comes after one with a default
among the positional ones, and those that take the remaining arguments have none. This holds of every function that is
read in a text, and those of a module are read in its text.
-/

namespace ModuleDocs.Source

open Compatibility (Unmarked)

namespace Grammar

open Rule

/-! ### Single parameters -/

/-- A parameter under a word, without a default. -/
def Plain (p : ParsedParam) : Prop := Unmarked p.param.name ∧ p.param.default = none

/-- A parameter under a word, with a default. -/
def Filled (p : ParsedParam) : Prop := Unmarked p.param.name ∧ p.param.default.isSome = true

/-- Parameters without defaults, and after them those with defaults. -/
def Stepped (ps : List ParsedParam) : Prop :=
  ∃ bare filled, ps = bare ++ filled ∧ (∀ p ∈ bare, Plain p) ∧ ∀ p ∈ filled, Filled p

/-- What comes after the positional parameters is under words, and only keyword-only parameters have defaults. -/
structure TailLegal (t : ParamTail) : Prop where
  rest : ∀ p ∈ t.rest, Plain p
  keywordOnly : ∀ p ∈ t.keywordOnly, Unmarked p.param.name
  extra : ∀ p ∈ t.extra, Plain p

section

variable {ctx : Context} {r : Recur} {style : ParamStyle} (hwords : Worded ctx.stream.tokens)

include hwords

theorem param_yields : Yields Trace.Any ctx (param r style) Plain := by
  refine Yields.bind (Yields.name hwords) fun t ht => ?_
  dsimp only
  split
  · exact Yields.past fun type => Yields.pure ⟨ht, rfl⟩
  · exact Yields.past fun type => Yields.pure ⟨ht, rfl⟩

theorem paramNoDefault_yields : Yields Trace.Any ctx (paramNoDefault r style) Plain :=
  Yields.bind (param_yields hwords) fun _ hp => Yields.past fun _ => Yields.pure hp

theorem paramWithDefault_yields : Yields Trace.Any ctx (paramWithDefault r style) Filled :=
  Yields.bind (param_yields hwords) fun _ hp => Yields.past fun _ => Yields.past fun _ => Yields.pure ⟨hp.1, rfl⟩

theorem paramMaybeDefault_yields : Yields Trace.Any ctx (paramMaybeDefault r style) fun p => Unmarked p.param.name :=
  Yields.bind (param_yields hwords) fun _ hp => Yields.past fun _ => Yields.past fun _ => Yields.pure hp.1

theorem paramStarType_yields : Yields Trace.Any ctx (paramStarType r style) Plain :=
  Yields.bind (Yields.name hwords) fun _ ht =>
    Yields.past fun _ => Yields.past fun _ => Yields.past fun _ => Yields.pure ⟨ht, rfl⟩

/-! ### Lists of parameters -/

theorem slashNoDefault_yields : Yields Trace.Any ctx (slashNoDefault r style) fun ps => ∀ p ∈ ps, Plain p :=
  Yields.bind (Yields.many1 (paramNoDefault_yields hwords)) fun _ hps => Yields.past fun _ => Yields.pure hps

theorem slashWithDefault_yields : Yields Trace.Any ctx (slashWithDefault r style) Stepped :=
  Yields.bind (Yields.many (paramNoDefault_yields hwords)) fun ps hps =>
    Yields.bind (Yields.many1 (paramWithDefault_yields hwords)) fun qs hqs =>
      Yields.past fun _ => Yields.pure ⟨ps, qs, rfl, hps, hqs⟩

variable (hround : ctx.diagnosing = false)

include hround

theorem extraParam_yields : Yields Trace.Any ctx (extraParam r style) Plain :=
  Yields.orElse (Yields.diagnosis hround _) (Yields.past fun _ => paramNoDefault_yields hwords)

theorem paramTail_yields : Yields Trace.Any ctx (paramTail r style) TailLegal := by
  have hmaybe : Yields Trace.Any ctx (paramMaybeDefault r style) fun p => Unmarked p.param.name :=
    paramMaybeDefault_yields hwords
  have hextra : Yields Trace.Any ctx (Rule.optional (extraParam r style)) fun o => ∀ p ∈ o, Plain p :=
    (extraParam_yields hwords hround).optional
  -- Both ways to write the parameter for the remaining arguments go on in the same way.
  have hafter : ∀ p, Plain p → Yields Trace.Any ctx
      (do
        let ks ← Rule.many (paramMaybeDefault r style)
        let e ← Rule.optional (extraParam r style)
        return (⟨some p, ks, e⟩ : ParamTail)) TailLegal := by
    intro p hp
    refine hmaybe.many.bind fun ks hks => hextra.bind fun e he => Yields.pure ⟨?_, hks, he⟩
    intro q hq
    cases hq
    exact hp
  apply Yields.choice
  simp only [List.forall_mem_cons, List.not_mem_nil, false_implies, implies_true, and_true]
  refine ⟨Yields.diagnosis hround _, ?_, ?_, ?_, ?_⟩
  · exact Yields.past fun _ => (paramNoDefault_yields hwords).bind hafter
  · split
    · exact Yields.mismatch.bind fun _ (h : False) => h.elim
    · exact Yields.past fun _ => (paramStarType_yields hwords).bind hafter
  · refine Yields.past fun _ => Yields.past fun _ => hmaybe.many1.bind fun ks hks => hextra.bind fun e he => ?_
    exact Yields.pure ⟨fun p hp => (nomatch hp), hks, he⟩
  · refine (extraParam_yields hwords hround).bind fun e he => Yields.pure ⟨fun p hp => (nomatch hp), ?_, ?_⟩
    · exact fun p hp => absurd hp List.not_mem_nil
    · intro p hp
      cases hp
      exact he

end

end Grammar

/-! ### Functions -/

/-- A condition on every parameter. -/
structure Params.Each {α : Type} (P : α → Prop) (ps : Params α) : Prop where
  positionalOnly : ∀ p ∈ ps.positionalOnly, P p
  positional : ∀ p ∈ ps.positional, P p
  rest : ∀ p ∈ ps.rest, P p
  keywordOnly : ∀ p ∈ ps.keywordOnly, P p
  extra : ∀ p ∈ ps.extra, P p

/-- Parameters as a function can have them. -/
structure Params.Legal (ps : Params Param) : Prop where
  named : ps.Each fun p => Unmarked p.name
  stepped : ∃ bare filled, ps.positionalOnly ++ ps.positional = bare ++ filled ∧ (∀ p ∈ bare, p.default = none) ∧
    ∀ p ∈ filled, p.default.isSome = true
  rest : ∀ p ∈ ps.rest, p.default = none
  extra : ∀ p ∈ ps.extra, p.default = none

theorem Params.empty_legal : (Params.empty : Params Param).Legal :=
  ⟨⟨by simp [Params.empty], by simp [Params.empty], by simp [Params.empty], by simp [Params.empty],
    by simp [Params.empty]⟩, ⟨[], [], rfl, by simp, by simp⟩, by simp [Params.empty], by simp [Params.empty]⟩

namespace Grammar

open Rule

theorem Stepped.unmarked {ps : List ParsedParam} (h : Stepped ps) {p : ParsedParam} (hp : p ∈ ps) :
    Unmarked p.param.name := by
  obtain ⟨bare, filled, rfl, hbare, hfilled⟩ := h
  rcases List.mem_append.mp hp with hp | hp
  · exact (hbare p hp).1
  · exact (hfilled p hp).1

theorem paramsOf_legal {only pos : List ParsedParam} {tail : Option ParamTail} (hstepped : Stepped (only ++ pos))
    (htail : ∀ t ∈ tail, TailLegal t) : (paramsOf only pos tail).Legal := by
  have hrest : ∀ p ∈ (paramsOf only pos tail).rest, Unmarked p.name ∧ p.default = none := by
    intro p hp
    obtain ⟨q, hq, rfl⟩ := Option.map_eq_some_iff.mp hp
    obtain ⟨t, ht, hq⟩ := Option.bind_eq_some_iff.mp hq
    exact (htail t ht).rest q hq
  have hextra : ∀ p ∈ (paramsOf only pos tail).extra, Unmarked p.name ∧ p.default = none := by
    intro p hp
    obtain ⟨q, hq, rfl⟩ := Option.map_eq_some_iff.mp hp
    obtain ⟨t, ht, hq⟩ := Option.bind_eq_some_iff.mp hq
    exact (htail t ht).extra q hq
  have hkeywords : ∀ p ∈ (paramsOf only pos tail).keywordOnly, Unmarked p.name := by
    intro p hp
    obtain ⟨q, hq, rfl⟩ := List.mem_map.mp hp
    cases tail with
    | none => exact absurd hq List.not_mem_nil
    | some t => exact (htail t rfl).keywordOnly q hq
  refine ⟨⟨?_, ?_, fun p hp => (hrest p hp).1, hkeywords, fun p hp => (hextra p hp).1⟩, ?_,
    fun p hp => (hrest p hp).2, fun p hp => (hextra p hp).2⟩
  · intro p hp
    obtain ⟨q, hq, rfl⟩ := List.mem_map.mp hp
    exact hstepped.unmarked (List.mem_append_left _ hq)
  · intro p hp
    obtain ⟨q, hq, rfl⟩ := List.mem_map.mp hp
    exact hstepped.unmarked (List.mem_append_right _ hq)
  · obtain ⟨bare, filled, hsplit, hbare, hfilled⟩ := hstepped
    refine ⟨bare.map (·.param), filled.map (·.param), ?_, ?_, ?_⟩
    · rw [← List.map_append, ← hsplit, List.map_append]
      rfl
    · intro p hp
      obtain ⟨q, hq, rfl⟩ := List.mem_map.mp hp
      exact (hbare q hq).2
    · intro p hp
      obtain ⟨q, hq, rfl⟩ := List.mem_map.mp hp
      exact (hfilled q hq).2

section

variable {ctx : Context} {r : Recur} {style : ParamStyle} (hwords : Worded ctx.stream.tokens)
  (hround : ctx.diagnosing = false)

include hwords hround

theorem params_yields : Yields Trace.Any ctx (params r style) Params.Legal := by
  have hplain : Yields Trace.Any ctx (paramNoDefault r style) Plain := paramNoDefault_yields hwords
  have hfilled : Yields Trace.Any ctx (paramWithDefault r style) Filled := paramWithDefault_yields hwords
  have hclose : ∀ only pos, Stepped (only ++ pos) → Yields Trace.Any ctx
      (do return paramsOf only pos (← Rule.optional (paramTail r style))) Params.Legal := by
    intro only pos hstepped
    exact (paramTail_yields hwords hround).optional.bind fun tail htail => Yields.pure (paramsOf_legal hstepped htail)
  apply Yields.choice
  simp only [List.forall_mem_cons, List.not_mem_nil, false_implies, implies_true, and_true]
  refine ⟨Yields.diagnosis hround _, ?_, ?_, ?_, ?_, ?_⟩
  · refine (slashNoDefault_yields hwords).bind fun only honly => hplain.many.bind fun ps hps => ?_
    refine hfilled.many.bind fun qs hqs => hclose only (ps ++ qs) ⟨only ++ ps, qs, by simp, ?_, hqs⟩
    intro p hp
    rcases List.mem_append.mp hp with hp | hp
    · exact honly p hp
    · exact hps p hp
  · refine (slashWithDefault_yields hwords).bind fun only honly => hfilled.many.bind fun qs hqs => ?_
    obtain ⟨bare, filled, rfl, hbare, hf⟩ := honly
    refine hclose (bare ++ filled) qs ⟨bare, filled ++ qs, by simp, hbare, ?_⟩
    intro p hp
    rcases List.mem_append.mp hp with hp | hp
    · exact hf p hp
    · exact hqs p hp
  · refine hplain.many1.bind fun ps hps => hfilled.many.bind fun qs hqs => ?_
    exact hclose [] (ps ++ qs) ⟨ps, qs, rfl, hps, hqs⟩
  · refine hfilled.many1.bind fun qs hqs => hclose [] qs ⟨[], qs, rfl, ?_, hqs⟩
    exact fun p hp => absurd hp List.not_mem_nil
  · refine (paramTail_yields hwords hround).bind fun tail htail => Yields.pure (paramsOf_legal ?_ ?_)
    · exact ⟨[], [], rfl, fun p hp => absurd hp List.not_mem_nil, fun p hp => absurd hp List.not_mem_nil⟩
    · intro t ht
      cases ht
      exact htail

theorem functionRaw_yields {body : Rule (List Stmt)} :
    Yields Trace.Any ctx (functionRaw r body) fun s => ∃ f inner, s = .function f inner ∧ f.params.Legal := by
  have hparams : Yields Trace.Any ctx (Rule.optional (params r .function)) fun o => (o.getD Params.empty).Legal := by
    refine (params_yields hwords hround).optional.mono fun o ho => ?_
    cases o with
    | none => exact Params.empty_legal
    | some ps => exact ho ps rfl
  apply Yields.choice
  simp only [List.forall_mem_cons, List.not_mem_nil, false_implies, implies_true, and_true]
  refine ⟨Yields.diagnosis hround _, ?_, ?_⟩
  · refine Yields.past fun _ => Yields.past fun _ => Yields.past fun _ => hparams.bind fun ps hps => ?_
    refine Yields.past fun _ => Yields.past fun _ => Yields.past fun _ => Yields.past fun _ => Yields.pure ?_
    exact ⟨_, _, rfl, hps⟩
  · refine Yields.past fun _ => Yields.past fun _ => Yields.past fun _ => Yields.past fun _ => ?_
    refine hparams.bind fun ps hps => Yields.past fun _ => Yields.past fun _ => Yields.past fun _ => ?_
    exact Yields.past fun _ => Yields.pure ⟨_, _, rfl, hps⟩

end

/-! ### The functions of a text -/

def firstRound (source : List Char) (nested : List Char → Nat → Except Nat Expr) : Context :=
  ⟨TokenStream.ofText .file 1 source, false, nested⟩

/-- Functions read in a text, from any of its tokens on and after any other reading. -/
def Reads (source : List Char) (f : FunctionHead) : Prop :=
  ∃ (r : Recur) (body : Rule (List Stmt)) (nested : List Char → Nat → Except Nat Expr) (mark : Nat) (trace : Trace)
    (inner : List Stmt) (after : Nat) (trace' : Trace),
    functionRaw r body (firstRound source nested) mark trace = (.ok (.function f inner, after), trace')

theorem Reads.legal {source : List Char} {f : FunctionHead} (h : Reads source f) : f.params.Legal := by
  obtain ⟨r, body, nested, mark, trace, inner, after, trace', hok⟩ := h
  have hwords : Worded (firstRound source nested).stream.tokens := TokenStream.ofText_worded .file 1 source
  obtain ⟨g, inner', heq, hlegal⟩ :=
    (functionRaw_yields hwords rfl mark trace trivial).2 _ after (congrArg Prod.fst hok)
  cases heq
  exact hlegal

section

variable {source : List Char} {nested : List Char → Nat → Except Nat Expr}

/-- A statement that, if it is a function, is read in a text. -/
def FunctionRead (source : List Char) (s : Stmt) : Prop := ∀ f inner, s = .function f inner → Reads source f

theorem functionRaw_read (r : Recur) (body : Rule (List Stmt)) :
    Yields Trace.Any (firstRound source nested) (functionRaw r body) (FunctionRead source) := by
  refine (Yields.self _).mono fun s hs f inner heq => ?_
  obtain ⟨mark, trace, after, trace', hok⟩ := hs
  subst heq
  exact ⟨r, body, nested, mark, trace, inner, after, trace', hok⟩

theorem other_read (p : Rule Unit) :
    Yields Trace.Any (firstRound source nested) (do p; return Stmt.other) (FunctionRead source) :=
  Yields.past fun _ => Yields.pure fun _ _ heq => nomatch heq

theorem classRaw_read (r : Recur) (body : Rule (List Stmt)) :
    Yields Trace.Any (firstRound source nested) (classRaw r body) (FunctionRead source) := by
  apply Yields.choice
  simp only [List.forall_mem_cons, List.not_mem_nil, false_implies, implies_true, and_true]
  refine ⟨Yields.diagnosis rfl _, ?_⟩
  refine Yields.past fun _ => Yields.past fun _ => Yields.past fun _ => Yields.past fun _ => ?_
  exact Yields.past fun _ => Yields.pure fun _ _ heq => nomatch heq

theorem assignment_read (r : Recur) :
    Yields Trace.Any (firstRound source nested) (assignment r) (FunctionRead source) := by
  have htyped : ∀ target, Yields Trace.Any (firstRound source nested) (typed r target) (FunctionRead source) := by
    intro target
    refine Yields.past fun _ => Yields.past fun _ => Yields.past fun _ => Yields.pure ?_
    exact fun _ _ heq => nomatch heq
  apply Yields.choice
  simp only [List.forall_mem_cons, List.not_mem_nil, false_implies, implies_true, and_true]
  refine ⟨?_, ?_, ?_, ?_⟩
  · exact Yields.past htyped
  · exact Yields.past htyped
  · refine Yields.past fun _ => Yields.past fun _ => Yields.past fun _ => Yields.pure ?_
    exact fun _ _ heq => nomatch heq
  · refine Yields.commit (.any _) (fun t _ => Yields.past fun _ => Yields.pure ?_) ?_
    · exact fun _ _ heq => nomatch heq
    · exact Yields.past fun _ => Yields.diagnosis rfl _

theorem simpleStmt_read (r : Recur) :
    Yields Trace.Any (firstRound source nested) (simpleStmt r) (FunctionRead source) := by
  have hexpr : ∀ p : Rule Parsed,
      Yields Trace.Any (firstRound source nested) (do return Stmt.expr (← p).expr) (FunctionRead source) :=
    fun p => Yields.past fun _ => Yields.pure fun _ _ heq => nomatch heq
  apply Yields.choice
  simp only [List.forall_mem_cons, List.not_mem_nil, false_implies, implies_true, and_true]
  exact ⟨assignment_read r, hexpr _, other_read _, other_read _, other_read _, other_read _, other_read _,
    Yields.past fun _ => hexpr _, other_read _, other_read _, other_read _, other_read _, other_read _⟩

theorem compoundStmt_read (r : Recur) (body : Rule (List Stmt)) :
    Yields Trace.Any (firstRound source nested) (compoundStmt r body) (FunctionRead source) := by
  have hdecorated : ∀ raw, Yields Trace.Any (firstRound source nested) raw (FunctionRead source) →
      Yields Trace.Any (firstRound source nested) (decorated r raw) (FunctionRead source) :=
    fun raw hraw => Yields.orElse (Yields.past fun _ => hraw) hraw
  apply Yields.choice
  simp only [List.forall_mem_cons, List.not_mem_nil, false_implies, implies_true, and_true]
  refine ⟨?_, other_read _, ?_, other_read _, other_read _, other_read _, other_read _, other_read _⟩
  · exact Yields.past fun _ => hdecorated _ (functionRaw_read r body)
  · exact Yields.past fun _ => hdecorated _ (classRaw_read r body)

theorem statement_read (r : Recur) (body : Rule (List Stmt)) :
    Yields Trace.Any (firstRound source nested) (statement r body) fun ss => ∀ s ∈ ss, FunctionRead source s := by
  refine Yields.orElse ((compoundStmt_read r body).bind fun s hs => Yields.pure ?_) ?_
  · exact List.forall_mem_singleton.mpr hs
  · refine (simpleStmt_read r).bind fun s hs => Yields.bind (Yields.many (Yields.past fun _ => simpleStmt_read r)) ?_
    exact fun ss hss => Yields.past fun _ => Yields.past fun _ => Yields.pure (List.forall_mem_cons.mpr ⟨hs, hss⟩)

theorem wholeFile_read (r : Recur) (depth : Nat) :
    Yields Trace.Any (firstRound source nested) (wholeFile r depth) fun ss => ∀ s ∈ ss, FunctionRead source s := by
  have hstatements :
      Yields Trace.Any (firstRound source nested) (statements r depth) fun ss => ∀ s ∈ ss, FunctionRead source s := by
    cases depth with
    | zero => exact Yields.mismatch
    | succ fuel =>
      refine (statement_read r (statements r fuel)).many1.bind fun groups hgroups => Yields.pure fun s hs => ?_
      obtain ⟨group, hgroup, hs⟩ := List.mem_flatten.mp hs
      exact hgroups group hgroup s hs
  refine hstatements.optional.bind fun o ho => Yields.past fun _ => Yields.pure fun s hs => ?_
  cases o with
  | none => exact absurd hs List.not_mem_nil
  | some ss => exact ho ss rfl s hs

end

end Grammar

/-- The functions of a module are read in its text. -/
theorem parseModule_reads {source : List Char} {stmts : List Stmt} {f : FunctionHead} {inner : List Stmt}
    (hparse : parseModule source = .ok stmts) (hf : Stmt.function f inner ∈ stmts) : Grammar.Reads source f := by
  unfold parseModule at hparse
  split at hparse
  · cases hparse
  · have hread := mapError_eq_ok.mp hparse
    exact (Grammar.wholeFile_read _ _).readStream trivial hread _ hf f inner rfl

end ModuleDocs.Source
