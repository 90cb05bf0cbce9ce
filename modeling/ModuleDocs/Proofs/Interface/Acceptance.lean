import Mathlib.Logic.Basic
import ModuleDocs.Interface.Checker
import ModuleDocs.Proofs.Alias.References
import ModuleDocs.Proofs.Source.Flaw

/-!
# Which modules are accepted

The checker rejects the sources that cannot be parsed. Of the others it accepts those whose heads and annotations can be
written out, and breaks down on the rest: the faults of a statement say what can be in the way.
-/

namespace ModuleDocs

open Source

/-! ### What is written out -/

namespace Source

def Params.all {α : Type} (ps : Params α) : List α :=
  ps.positionalOnly ++ ps.positional ++ ps.rest.toList ++ ps.keywordOnly ++ ps.extra.toList

namespace Stmt

/-- The expressions of a declaration that are shown as written and with aliases expanded. -/
def annotations : Stmt → List Expr
  | .class head _ => head.bases ++ head.keywords.map Keyword.value
  | .function head _ => head.params.all.filterMap Param.type ++ head.returns.toList
  | .annotated (.name _) type value => if isAliasMark type then value.toList else [type]
  | _ => []

/-- The expressions of a declaration that are shown as written only. -/
def defaults : Stmt → List Expr
  | .function head _ =>
    head.params.arguments.defaults ++ head.params.arguments.keywordDefaults.filterMap id
  | _ => []

end Stmt

end Source

/-! ### Faults -/

/-- The faults of an expression shown as written. -/
inductive WrittenFault (e : Expr) : AnnotationFault → Prop where
  | flaw {f : Unprintable} : e.Flaw f → WrittenFault e (.unprintable f)

/-- The faults of an expression shown with aliases expanded. -/
inductive ResolvedFault (aliases : Aliases) (e : Expr) : AnnotationFault → Prop where
  | reference {t : Text} {f : ReferenceFault} : Alias.Meets readReference aliases [] e t → Unreadable t f →
      ResolvedFault aliases e (.reference f)
  | flaw {r : Expr} {f : Unprintable} : aliases.resolve e = .ok r → r.Flaw f → ResolvedFault aliases e (.unprintable f)

/-- What keeps the head or the annotation of a declaration from being written out. -/
inductive Source.Stmt.Fault (aliases : Aliases) (s : Stmt) (f : AnnotationFault) : Prop where
  | written {e : Expr} : e ∈ s.annotations ++ s.defaults → WrittenFault e f → Fault aliases s f
  | resolved {e : Expr} : e ∈ s.annotations → ResolvedFault aliases e f → Fault aliases s f

theorem asWritten_failsOn (e : Expr) : FailsOn (Signature.asWritten e) (WrittenFault e) := by
  refine e.text_failsOn.mapError.congr fun f => ⟨?_, ?_⟩
  · rintro ⟨g, hg, rfl⟩
    exact .flaw hg
  · rintro ⟨hg⟩
    exact ⟨_, hg, rfl⟩

theorem text_failsOn (aliases : Aliases) (e : Expr) : FailsOn (aliases.text e) (ResolvedFault aliases e) := by
  have hflaw : ∀ r, aliases.resolve e = .ok r → ∀ f : AnnotationFault, (∃ g, r.Flaw g ∧ f = .unprintable g) ↔
      ∃ r, aliases.resolve e = .ok r ∧ ∃ g, r.Flaw g ∧ f = .unprintable g := by
    intro r hr f
    simp [hr]
  refine ((Alias.expand_failsOn readReference aliases [] e).mapError.bind fun r hr =>
    r.text_failsOn.mapError.congr (hflaw r (mapError_eq_ok.mp hr))).congr fun f => ⟨?_, ?_⟩
  · rintro (⟨g, ⟨t, hmeets, hread⟩, rfl⟩ | ⟨r, hr, g, hg, rfl⟩)
    · exact .reference hmeets (readReference_error.mp hread)
    · exact .flaw hr hg
  · rintro (⟨hmeets, hread⟩ | ⟨hr, hg⟩)
    · exact .inl ⟨_, ⟨_, hmeets, readReference_error.mpr hread⟩, rfl⟩
    · exact .inr ⟨_, hr, _, hg, rfl⟩

namespace Signature

variable {write : Writer} {faults : Expr → AnnotationFault → Prop}

def ParamFault (faults : Expr → AnnotationFault → Prop) (p : Param) (f : AnnotationFault) : Prop :=
  (∃ e ∈ p.type, faults e f) ∨ ∃ e ∈ p.default, WrittenFault e f

theorem param_failsOn (hwrite : ∀ e, FailsOn (write e) (faults e)) (mark : String) (p : Param) :
    FailsOn (param write mark p) (ParamFault faults p) := by
  unfold param ParamFault
  cases p.type with
  | none =>
    cases p.default with
    | none => exact (FailsOn.ok _).congr fun f => by simp
    | some d => exact (asWritten_failsOn d).map.congr fun f => by simp
  | some a =>
    cases p.default with
    | none => exact (hwrite a).map.congr fun f => by simp
    | some d => exact ((hwrite a).bind fun t _ => (asWritten_failsOn d).map).congr fun f => by simp

theorem defaultAt_eq_some {defaults : List Expr} {count index : Nat} {e : Expr} :
    defaultAt defaults count index = some e ↔ ∃ j, defaults[j]? = some e ∧ index = count - defaults.length + j := by
  unfold defaultAt
  dsimp only
  constructor
  · intro hat
    split at hat
    · exact ⟨_, hat, by omega⟩
    · cases hat
  · rintro ⟨j, hj, rfl⟩
    rw [if_pos (Nat.le_add_right _ _), Nat.add_sub_cancel_left]
    exact hj

/-- Parameters in a row fail on their annotations and on the defaults that fall to them. -/
theorem row_fault_iff {row : List (Argument × Option Expr)} {f : AnnotationFault} :
    (∃ x ∈ row, ParamFault faults (x.1.withDefault x.2) f) ↔
      (∃ e ∈ row.filterMap fun x => x.1.type, faults e f) ∨ ∃ e ∈ row.filterMap Prod.snd, WrittenFault e f := by
  simp only [ParamFault, Argument.withDefault, List.mem_filterMap, and_or_left, exists_or]
  constructor
  · rintro (⟨x, hx, e, he, hf⟩ | ⟨x, hx, e, he, hf⟩)
    · exact .inl ⟨e, ⟨x, hx, he⟩, hf⟩
    · exact .inr ⟨e, ⟨x, hx, he⟩, hf⟩
  · rintro (⟨e, ⟨x, hx, he⟩, hf⟩ | ⟨e, ⟨x, hx, he⟩, hf⟩)
    · exact .inl ⟨x, hx, e, he, hf⟩
    · exact .inr ⟨x, hx, e, he, hf⟩

/-- The positional parameters, each with the default that falls to it. -/
def positionalRow (a : Arguments) : List (Argument × Option Expr) :=
  (a.positionalOnly ++ a.positional).zipIdx.map fun x =>
    (x.1, defaultAt a.defaults (a.positionalOnly ++ a.positional).length x.2)

theorem positionalRow_types (a : Arguments) :
    (positionalRow a).filterMap (fun x => x.1.type) = (a.positionalOnly ++ a.positional).filterMap Argument.type := by
  have hnames : (positionalRow a).map Prod.fst = a.positionalOnly ++ a.positional := by
    rw [positionalRow, List.map_map]
    exact List.zipIdx_map_fst 0 _
  rw [← hnames, List.filterMap_map]
  rfl

/-- Every default falls to a parameter. -/
theorem mem_positionalRow_defaults {a : Arguments} (h : a.defaults.length ≤ (a.positionalOnly ++ a.positional).length)
    (e : Expr) : e ∈ (positionalRow a).filterMap Prod.snd ↔ e ∈ a.defaults := by
  simp only [positionalRow, List.mem_filterMap, List.mem_map, exists_exists_and_eq_and, defaultAt_eq_some]
  constructor
  · rintro ⟨x, -, j, hj, -⟩
    exact List.mem_of_getElem? hj
  · intro he
    obtain ⟨j, hj, rfl⟩ := List.getElem_of_mem he
    let index := (a.positionalOnly ++ a.positional).length - a.defaults.length + j
    have hindex : index < (a.positionalOnly ++ a.positional).length := by omega
    exact ⟨((a.positionalOnly ++ a.positional)[index], index),
      List.mem_zipIdx_iff_getElem?.mpr (List.getElem?_eq_getElem hindex), j, List.getElem?_eq_getElem hj, rfl⟩

theorem positionalParts_failsOn (hwrite : ∀ e, FailsOn (write e) (faults e)) {a : Arguments}
    (h : a.defaults.length ≤ (a.positionalOnly ++ a.positional).length) :
    FailsOn (positionalParts write a) fun f =>
      (∃ e ∈ (a.positionalOnly ++ a.positional).filterMap Argument.type, faults e f) ∨
        ∃ e ∈ a.defaults, WrittenFault e f := by
  refine ((FailsOn.mapM fun x _ => (param_failsOn hwrite "" _).map).map).congr fun f => ?_
  have hrow := @row_fault_iff faults (positionalRow a) f
  rw [positionalRow_types] at hrow
  simp only [mem_positionalRow_defaults h] at hrow
  rw [← hrow, positionalRow]
  simp only [List.mem_map, exists_exists_and_eq_and]

theorem keywordParts_failsOn (hwrite : ∀ e, FailsOn (write e) (faults e)) (ps : List Param) :
    FailsOn (((ps.map Param.argument).zip (ps.map Param.default)).mapM fun (arg, default) =>
        param write "" (arg.withDefault default)) fun f =>
      (∃ e ∈ ps.filterMap Param.type, faults e f) ∨ ∃ e ∈ ps.filterMap Param.default, WrittenFault e f := by
  refine (FailsOn.mapM fun x _ => param_failsOn hwrite "" (x.1.withDefault x.2)).congr fun f => ?_
  rw [row_fault_iff, List.zip_map', List.filterMap_map, List.filterMap_map]
  rfl

theorem middleParts_failsOn (hwrite : ∀ e, FailsOn (write e) (faults e)) (a : Arguments) :
    FailsOn (middleParts write a) fun f => ∃ e ∈ a.rest.toList.filterMap Argument.type, faults e f := by
  unfold middleParts
  cases a.rest with
  | none => exact (FailsOn.ok _).congr fun f => by simp
  | some arg =>
    exact (param_failsOn hwrite "*" (arg.withDefault none)).map.congr fun f => by
      simp [ParamFault, Argument.withDefault]

theorem parts_failsOn (hwrite : ∀ e, FailsOn (write e) (faults e)) (ps : Params Param) :
    FailsOn (parts write ps.arguments) fun f => (∃ e ∈ ps.all.filterMap Param.type, faults e f) ∨
      ∃ e ∈ ps.arguments.defaults ++ ps.arguments.keywordDefaults.filterMap id, WrittenFault e f := by
  have hlength : ps.arguments.defaults.length ≤ (ps.arguments.positionalOnly ++ ps.arguments.positional).length := by
    have hle := List.length_filterMap_le Param.default (ps.positionalOnly ++ ps.positional)
    simpa [Params.arguments] using hle
  have hextra : FailsOn (ps.arguments.extra.toList.mapM fun arg => param write "**" (arg.withDefault none)) fun f =>
      ∃ e ∈ ps.extra.toList.filterMap Param.type, faults e f := by
    refine (FailsOn.mapM fun arg _ => param_failsOn hwrite "**" (arg.withDefault none)).congr fun f => ?_
    cases hextra : ps.extra <;> simp [Params.arguments, ParamFault, Argument.withDefault, Param.argument, hextra]
  refine ((positionalParts_failsOn hwrite hlength).bind fun _ _ => (middleParts_failsOn hwrite _).bind fun _ _ =>
    (keywordParts_failsOn hwrite ps.keywordOnly).bind fun _ _ => hextra.map).congr fun f => ?_
  have htypes : ∀ qs : List Param, (qs.map Param.argument).filterMap Argument.type = qs.filterMap Param.type :=
    fun qs => by rw [List.filterMap_map]; rfl
  have hrest : (ps.rest.map Param.argument).toList.filterMap Argument.type = ps.rest.toList.filterMap Param.type := by
    cases ps.rest <;> rfl
  have hkeyword : (ps.keywordOnly.map Param.default).filterMap id = ps.keywordOnly.filterMap Param.default := by
    rw [List.filterMap_map]
    rfl
  simp only [Params.arguments, Params.all, List.filterMap_append, htypes, hrest, hkeyword, List.mem_append,
    or_and_right, exists_or]
  exact iff_of_eq (by ac_rfl)

/-- A way to write out what a statement declares, which fails where an annotation or a default fails. -/
def Shows (s : Stmt) (text : Writer → Except AnnotationFault String) : Prop :=
  ∀ {write : Writer} {faults : Expr → AnnotationFault → Prop}, (∀ e, FailsOn (write e) (faults e)) →
    FailsOn (text write) fun f => (∃ e ∈ s.annotations, faults e f) ∨ ∃ e ∈ s.defaults, WrittenFault e f

theorem ofFunction_shows (head : FunctionHead) (body : List Stmt) :
    Shows (.function head body) fun write => ofFunction write head := by
  intro write faults hwrite
  have hparams := parts_failsOn hwrite head.params
  unfold ofFunction
  cases hreturns : head.returns with
  | none =>
    refine hparams.map.congr fun f => ?_
    simp only [Stmt.annotations, Stmt.defaults, hreturns, Option.toList_none, List.append_nil]
  | some e =>
    refine (hparams.bind fun ts _ => (hwrite e).map).congr fun f => ?_
    simp only [Stmt.annotations, Stmt.defaults, hreturns, Option.toList_some, List.mem_append, List.mem_singleton,
      or_and_right, exists_or, exists_eq_left]
    exact iff_of_eq (by ac_rfl)

theorem ofClass_shows (head : ClassHead) (body : List Stmt) :
    Shows (.class head body) fun write => ofClass write head := by
  intro write faults hwrite
  refine ((FailsOn.mapM fun e _ => hwrite e).bind fun bases _ =>
    (FailsOn.mapM fun k _ => (hwrite k.value).map).map).congr fun f => ?_
  have hvalues : (∃ k ∈ head.keywords, faults k.value f) ↔ ∃ e ∈ head.keywords.map Keyword.value, faults e f := by
    constructor
    · rintro ⟨k, hk, hf⟩
      exact ⟨k.value, List.mem_map_of_mem hk, hf⟩
    · rintro ⟨e, he, hf⟩
      obtain ⟨k, hk, rfl⟩ := List.mem_map.mp he
      exact ⟨k, hk, hf⟩
  simp only [hvalues, Stmt.annotations, Stmt.defaults, List.mem_append, or_and_right, exists_or, List.not_mem_nil,
    false_and, exists_false, or_false]

end Signature

/-! ### Faults of declarations -/

namespace Declarations

variable {aliases : Aliases} {s : Stmt}

theorem texts_failsOn {text : Signature.Writer → Except AnnotationFault String} (htext : Signature.Shows s text) :
    FailsOn (texts aliases text) (s.Fault aliases) := by
  refine ((htext asWritten_failsOn).bind fun _ _ => (htext (text_failsOn aliases)).map).congr fun f => ⟨?_, ?_⟩
  · rintro ((⟨e, he, hf⟩ | ⟨e, he, hf⟩) | ⟨e, he, hf⟩ | ⟨e, he, hf⟩)
    · exact .written (List.mem_append_left _ he) hf
    · exact .written (List.mem_append_right _ he) hf
    · exact .resolved he hf
    · exact .written (List.mem_append_right _ he) hf
  · rintro (⟨he, hf⟩ | ⟨he, hf⟩)
    · rcases List.mem_append.mp he with he | he
      · exact .inl (.inl ⟨_, he, hf⟩)
      · exact .inl (.inr ⟨_, he, hf⟩)
    · exact .inr (.inl ⟨_, he, hf⟩)

theorem shows_single {e : Expr} (hannotations : s.annotations = [e]) (hdefaults : s.defaults = []) :
    Signature.Shows s fun write => write e := by
  intro write faults hwrite
  exact (hwrite e).congr fun f => by simp [hannotations, hdefaults]

theorem not_fault (hannotations : s.annotations = []) (hdefaults : s.defaults = []) (f : AnnotationFault) :
    ¬ s.Fault aliases f := by
  rintro (⟨he, _⟩ | ⟨he, _⟩) <;> simp [hannotations, hdefaults] at he

theorem add_failsOn (d : Declarations) (s : Stmt) : FailsOn (add aliases d s) (s.Fault aliases) := by
  have hnothing : ∀ {d' : Declarations} {s : Stmt}, s.annotations = [] → s.defaults = [] →
      FailsOn (.ok d') (s.Fault aliases) :=
    fun ha hd => (FailsOn.ok _).congr fun f => ⟨False.elim, not_fault ha hd f⟩
  unfold add
  split
  case h_1 head body => exact (texts_failsOn (Signature.ofClass_shows head body)).map
  case h_2 head body => exact (texts_failsOn (Signature.ofFunction_shows head body)).map
  case h_3 id type value =>
    split
    · rename_i hmark
      split
      · rename_i v
        exact (texts_failsOn (shows_single (by simp [Stmt.annotations, hmark]) rfl)).map
      · exact hnothing (by simp [Stmt.annotations, hmark]) rfl
    · rename_i hmark
      exact (texts_failsOn (shows_single (by simp [Stmt.annotations, hmark]) rfl)).map
  case h_4 targets value => exact hnothing rfl rfl
  case h_5 hclass hfunction hannotated hassign =>
    refine hnothing ?_ ?_
    · unfold Stmt.annotations
      split <;> simp_all
    · unfold Stmt.defaults
      split <;> simp_all

end Declarations

theorem interface_failsOn (env : Environment) (body : List Stmt) :
    FailsOn (env.interface body) fun f => ∃ s ∈ body, s.Fault (Aliases.ofBody body) f :=
  (FailsOn.foldlM (fun s _ d => Declarations.add_failsOn d s) _).map

/-! ### Answers of the checker -/

def Parses (source : Text) (body : List Stmt) : Prop :=
  ∃ chars, source.toChars? = some chars ∧ parseModule chars = .ok body

theorem Parses.unique {source : Text} {body body' : List Stmt} (h : Parses source body) (h' : Parses source body') :
    body = body' := by
  obtain ⟨chars, hchars, hparse⟩ := h
  obtain ⟨chars', hchars', hparse'⟩ := h'
  rw [hchars] at hchars'
  cases hchars'
  rw [hparse] at hparse'
  cases hparse'
  rfl

theorem rejection_typecheck (module : Text) (fault : SourceFault) :
    ∃ f, CheckFault.rejection module (.source fault) = .failure f ∧ f.kind = .typecheck := by
  cases fault with
  | invalid line => exact ⟨_, rfl, rfl⟩
  | nullCharacter => exact ⟨_, rfl, rfl⟩

namespace Checker

theorem python_check_of_parses {env : Environment} {module source : Text} {body : List Stmt} (h : Parses source body) :
    (python env).check module source = ((env.interface body).map fun i => (i, Comments.ofBody env body)).mapError
      fun f => .crash f.exception := by
  obtain ⟨chars, hchars, hparse⟩ := h
  obtain ⟨bytes, hbytes⟩ := (Text.toUtf8_ok_iff source).mpr (Text.hasEncoding_iff.mpr ⟨chars, hchars⟩)
  have hread : (parseModule chars).mapError CheckFault.source = .ok body := by
    rw [hparse]
    rfl
  simp only [python, hbytes, hchars, Option.getD_some, Environment.check, hread, bind, Except.bind]
  cases env.interface body with
  | error f => rfl
  | ok i => rfl

theorem python_check_of_interface {env : Environment} {source : Text} {body : List Stmt} {i : Interface}
    (hparses : Parses source body) (hinterface : env.interface body = .ok i) (module : Text) :
    (python env).check module source = .ok (i, Comments.ofBody env body) := by
  rw [python_check_of_parses hparses, hinterface]
  rfl

theorem python_check_of_not_parses (env : Environment) (module : Text) {source : Text}
    (h : ¬ ∃ body, Parses source body) :
    ∃ f, (python env).check module source = .error (.failure f) ∧ f.kind = .typecheck := by
  cases hutf8 : source.toUtf8 with
  | error f =>
    simp only [python, hutf8]
    exact ⟨_, rfl, rfl⟩
  | ok bytes =>
    obtain ⟨chars, hchars⟩ := Text.hasEncoding_iff.mp ((Text.toUtf8_ok_iff source).mp ⟨bytes, hutf8⟩)
    cases hparse : parseModule chars with
    | ok body => exact absurd ⟨body, chars, hchars, hparse⟩ h
    | error fault =>
      obtain ⟨f, hf, hkind⟩ := rejection_typecheck module fault
      refine ⟨f, ?_, hkind⟩
      simp only [python, hutf8, hchars, Option.getD_some, Environment.check, hparse, ← hf]
      rfl

/-- What the checker can answer. -/
inductive Verdict (env : Environment) (source : Text) : Except Rejection (Interface × Comments) → Prop where
  | unparsed {f : Failure} : (∀ body, ¬ Parses source body) → f.kind = .typecheck →
      Verdict env source (.error (.failure f))
  | accepted {body : List Stmt} {i : Interface} : Parses source body →
      (∀ s ∈ body, ∀ f, ¬ s.Fault (Aliases.ofBody body) f) → Verdict env source (.ok (i, Comments.ofBody env body))
  | brokenDown {body : List Stmt} {s : Stmt} {f : AnnotationFault} : Parses source body → s ∈ body →
      s.Fault (Aliases.ofBody body) f → Verdict env source (.error (.crash f.exception))

theorem python_verdict (env : Environment) (module source : Text) :
    Verdict env source ((python env).check module source) := by
  by_cases hparses : ∃ body, Parses source body
  · obtain ⟨body, hbody⟩ := hparses
    have hfaults := interface_failsOn env body
    rw [python_check_of_parses hbody]
    cases hinterface : env.interface body with
    | ok i =>
      have hnone := hfaults.ok_iff.mp ⟨i, hinterface⟩
      exact .accepted hbody fun s hs f hf => hnone f ⟨s, hs, hf⟩
    | error f =>
      obtain ⟨s, hs, hf⟩ := hfaults.reported f hinterface
      exact .brokenDown hbody hs hf
  · obtain ⟨f, hf, hkind⟩ := python_check_of_not_parses env module hparses
    rw [hf]
    exact .unparsed (not_exists.mp hparses) hkind

/-- A source that cannot be parsed is rejected with a failure. One that can be parsed is accepted if no declaration has
a fault; otherwise the checker breaks down with the report of a fault that is there. -/
theorem python_accepts (env : Environment) (module source : Text) :
    ((∃ f, (python env).check module source = .error (.failure f) ∧ f.kind = .typecheck) ↔
      ∀ body, ¬ Parses source body) ∧
    ((∃ i c, (python env).check module source = .ok (i, c)) ↔
      ∃ body, Parses source body ∧ ∀ s ∈ body, ∀ f, ¬ s.Fault (Aliases.ofBody body) f) ∧
    ((∃ e, (python env).check module source = .error (.crash e)) ↔
      ∃ body, Parses source body ∧ ∃ s ∈ body, ∃ f, s.Fault (Aliases.ofBody body) f) ∧
    ∀ e, (python env).check module source = .error e →
      (∃ f, e = .failure f ∧ f.kind = .typecheck) ∨
      ∃ body, Parses source body ∧ ∃ s ∈ body, ∃ f, s.Fault (Aliases.ofBody body) f ∧
        e = .crash f.exception := by
  have hverdict := python_verdict env module source
  generalize (python env).check module source = answer at hverdict
  cases hverdict with
  | @unparsed f hnone hkind =>
    refine ⟨⟨fun _ => hnone, fun _ => ⟨f, rfl, hkind⟩⟩, ⟨?_, ?_⟩, ⟨?_, ?_⟩, ?_⟩
    · rintro ⟨i, c, ⟨⟩⟩
    · rintro ⟨body, hbody, _⟩
      exact absurd hbody (hnone body)
    · rintro ⟨report, ⟨⟩⟩
    · rintro ⟨body, hbody, _⟩
      exact absurd hbody (hnone body)
    · rintro e ⟨⟩
      exact .inl ⟨f, rfl, hkind⟩
  | @accepted body i hbody hnone =>
    refine ⟨⟨?_, ?_⟩, ⟨fun _ => ⟨body, hbody, hnone⟩, fun _ => ⟨i, _, rfl⟩⟩, ⟨?_, ?_⟩, ?_⟩
    · rintro ⟨f, ⟨⟩, _⟩
    · intro hunparsed
      exact absurd hbody (hunparsed body)
    · rintro ⟨report, ⟨⟩⟩
    · rintro ⟨body', hbody', s, hs, f, hf⟩
      cases hbody'.unique hbody
      exact absurd hf (hnone s hs f)
    · rintro e ⟨⟩
  | @brokenDown body s f hbody hs hf =>
    refine ⟨⟨?_, ?_⟩, ⟨?_, ?_⟩, ⟨fun _ => ⟨body, hbody, s, hs, f, hf⟩, fun _ => ⟨_, rfl⟩⟩, ?_⟩
    · rintro ⟨f, ⟨⟩, _⟩
    · intro hunparsed
      exact absurd hbody (hunparsed body)
    · rintro ⟨i, c, ⟨⟩⟩
    · rintro ⟨body', hbody', hnone⟩
      cases hbody'.unique hbody
      exact absurd hf (hnone s hs f)
    · rintro e ⟨⟩
      exact .inr ⟨body, hbody, s, hs, f, hf, rfl⟩

-- An annotation that is a string with a null character in it.
example : (Environment.mk false true).interface
    [.annotated (.name "x") (.constant (.str [CodePoint.ofChar '\x00'] false)) none] =
      .error (.reference .nullCharacter) := by cbv

end Checker

end ModuleDocs
