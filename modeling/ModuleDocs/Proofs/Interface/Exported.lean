import Mathlib
import ModuleDocs.Proofs.Interface.Acceptance
import ModuleDocs.Proofs.Interface.Declared
import ModuleDocs.Record

/-!
# What the record of a module lists

The record of a module lists its declarations in the order of the statements, those that are exported and no others. A
list of exported names counts if every statement that sets or extends it gives literal strings; it then has the names
that were given since it was last set.
-/

namespace ModuleDocs

open Source

namespace Exports

/-- The statement sets the list, or adds to it, by giving these strings. -/
def Gives (s : Stmt) (names : List Text) : Prop := effect s = .set (some names) ∨ effect s = .add (some names)

/-- Every statement that concerns the list gives literal strings, and there is one. -/
def Literal (body : List Stmt) : Prop :=
  (∃ s ∈ body, effect s ≠ .nothing) ∧ ∀ s ∈ body, effect s ≠ .nothing → ∃ names, Gives s names

def Unset (body : List Stmt) : Prop := ∀ s ∈ body, ∀ names, effect s ≠ .set names

/-- A statement gives the name to the list, and none after it sets the list anew. -/
def Lists (body : List Stmt) (name : Text) : Prop :=
  ∃ before s rest names, body = before ++ s :: rest ∧ Gives s names ∧ name ∈ names ∧ Unset rest

theorem unset_cons {s : Stmt} {rest : List Stmt} : Unset (s :: rest) ↔ (∀ names, effect s ≠ .set names) ∧ Unset rest :=
  List.forall_mem_cons

theorem lists_cons {s : Stmt} {rest : List Stmt} {name : Text} : Lists (s :: rest) name ↔
    Lists rest name ∨ (∃ names, Gives s names ∧ name ∈ names) ∧ Unset rest := by
  constructor
  · rintro ⟨before, s', rest', names, hbody, hgives, hmem, hunset⟩
    cases before with
    | nil =>
      cases hbody
      exact .inr ⟨⟨names, hgives, hmem⟩, hunset⟩
    | cons b before =>
      cases hbody
      exact .inl ⟨before, s', rest', names, rfl, hgives, hmem, hunset⟩
  · rintro (⟨before, s', rest', names, rfl, hgives, hmem, hunset⟩ | ⟨⟨names, hgives, hmem⟩, hunset⟩)
    · exact ⟨s :: before, s', rest', names, rfl, hgives, hmem, hunset⟩
    · exact ⟨[], s, rest, names, rfl, hgives, hmem, hunset⟩

theorem after_isSome_iff (start : Option (List Text)) (body : List Stmt) :
    (after start body).isSome = true ↔ (start.isSome = true ∨ ∃ s ∈ body, effect s ≠ .nothing) ∧
      ∀ s ∈ body, effect s ≠ .nothing → ∃ names, Gives s names := by
  induction body generalizing start with
  | nil => simp [after]
  | cons s rest ih =>
    simp only [List.mem_cons, exists_eq_or_imp]
    rw [after]
    cases heffect : effect s with
    | nothing => simp [ih, heffect]
    | set given =>
      cases given with
      | none => simp [Gives, heffect]
      | some names => simp [ih, Gives, heffect]
    | add given =>
      cases given with
      | none => simp [Gives, heffect]
      | some names => simp [ih, Gives, heffect]

theorem mem_after {start : Option (List Text)} {body : List Stmt} {names : List Text} {name : Text}
    (h : after start body = some names) :
    name ∈ names ↔ Lists body name ∨ name ∈ start.getD [] ∧ Unset body := by
  -- On the statements: what the list has at the start counts as long as it is not set anew.
  induction body generalizing start with
  | nil =>
    rw [after] at h
    subst h
    simp [Lists, Unset]
  | cons s rest ih =>
    rw [lists_cons, unset_cons]
    rw [after] at h
    cases heffect : effect s with
    | nothing =>
      rw [heffect] at h
      rw [ih h]
      simp [Gives, heffect]
    | set given =>
      rw [heffect] at h
      cases given with
      | none => cases h
      | some given =>
        rw [ih h]
        simp [Gives, heffect]
    | add given =>
      rw [heffect] at h
      cases given with
      | none => cases h
      | some given =>
        rw [ih h]
        simp [Gives, heffect, or_and_right, or_assoc, or_comm (a := name ∈ given ∧ Unset rest)]

theorem ofBody_isSome_iff (body : List Stmt) : (ofBody body).isSome = true ↔ Literal body := by
  rw [ofBody, after_isSome_iff]
  simp [Literal]

theorem mem_ofBody {body : List Stmt} {names : List Text} {name : Text} (h : ofBody body = some names) :
    name ∈ names ↔ Lists body name := by
  rw [mem_after h]
  simp

end Exports

namespace Environment

/-- A name is exported: by the list if there is a literal one, otherwise if it is not private or private names count. -/
def Exported (env : Environment) (body : List Stmt) (name : Text) : Prop :=
  Exports.Literal body ∧ Exports.Lists body name ∨
    ¬ Exports.Literal body ∧ (env.includePrivate = true ∨ name.head? ≠ some (CodePoint.ofChar '_'))

theorem exports_iff (env : Environment) (body : List Stmt) (e : Entry) :
    env.exports (Exports.ofBody body) e = true ↔ env.Exported body e.name := by
  have hliteral := Exports.ofBody_isSome_iff body
  unfold exports Exported
  cases hlist : Exports.ofBody body with
  | none =>
    rw [hlist] at hliteral
    simp [← hliteral]
  | some names =>
    rw [hlist] at hliteral
    simp [← hliteral, Exports.mem_ofBody hlist]

instance (env : Environment) (body : List Stmt) (name : Text) : Decidable (env.Exported body name) :=
  decidable_of_iff _ (exports_iff env body ⟨name, [], []⟩)

theorem exports_eq (env : Environment) (body : List Stmt) :
    env.exports (Exports.ofBody body) = fun e => decide (env.Exported body e.name) := by
  funext e
  rw [Bool.eq_iff_iff, exports_iff, decide_eq_true_eq]

theorem interface_eq_ok {env : Environment} {body : List Stmt} {i : Interface} (h : env.interface body = .ok i) :
    ∃ types values k, DeclaresAll (Aliases.ofBody body) .empty body types values k ∧
      i = (Interface.mk types values).filter fun e => env.Exported body e.name := by
  obtain ⟨d, hd, hi⟩ := bind_eq_ok.mp h
  cases hi
  rw [exports_eq]
  exact ⟨_, _, _, Declarations.ofBody_declares hd, rfl⟩

end Environment

/-- A record lists what some statements declare: the names that are exported, in order, each type with its text as
written and each value with its text after expansion. -/
structure Record.Lists (env : Environment) (body : List Stmt) (types values : List Entry) (r : Record) : Prop where
  typeNames : r.types.map Field.name =
    ((body.flatMap Stmt.typeNames).map Text.ofString).filter fun name => env.Exported body name
  valueNames : r.values.map Field.name =
    ((body.flatMap Stmt.valueNames).map Text.ofString).filter fun name => env.Exported body name
  types : r.types.map (fun f => (f.name, f.type)) =
    (types.filter fun e => env.Exported body e.name).map fun e => (e.name, e.unresolved)
  values : r.values.map (fun f => (f.name, f.type)) =
    (values.filter fun e => env.Exported body e.name).map fun e => (e.name, e.resolved)

theorem Record.build_lists {env : Environment} {body : List Stmt} {types values : List Entry} (c : Comments)
    (htypes : types.map Entry.name = (body.flatMap Stmt.typeNames).map Text.ofString)
    (hvalues : values.map Entry.name = (body.flatMap Stmt.valueNames).map Text.ofString) :
    (Record.build ((Interface.mk types values).filter fun e => env.Exported body e.name) c).Lists env body
      types values where
  typeNames := by
    rw [← htypes, List.filter_map, Record.build, List.map_map]
    rfl
  valueNames := by
    rw [← hvalues, List.filter_map, Record.build, List.map_map]
    rfl
  types := by
    rw [Record.build, List.map_map]
    rfl
  values := by
    rw [Record.build, List.map_map]
    rfl

namespace Checker

theorem python_check_eq_ok {env : Environment} {module source : Text} {i : Interface} {c : Comments}
    (h : (python env).check module source = .ok (i, c)) :
    ∃ body, Parses source body ∧ env.interface body = .ok i ∧ c = Comments.ofBody env body := by
  by_cases hparses : ∃ body, Parses source body
  · obtain ⟨body, hbody⟩ := hparses
    rw [python_check_of_parses hbody, mapError_eq_ok] at h
    cases hinterface : env.interface body with
    | error f =>
      rw [hinterface] at h
      cases h
    | ok j =>
      rw [hinterface] at h
      cases h
      exact ⟨body, hbody, hinterface, rfl⟩
  · obtain ⟨f, hf, _⟩ := python_check_of_not_parses env module hparses
    rw [h] at hf
    cases hf

/-- The record of an accepted module lists what its statements declare. -/
theorem python_record {env : Environment} {module source : Text} {i : Interface} {c : Comments}
    (h : (python env).check module source = .ok (i, c)) :
    ∃ body types values k, Parses source body ∧ DeclaresAll (Aliases.ofBody body) .empty body types values k ∧
      (Record.build i c).Lists env body types values := by
  obtain ⟨body, hparses, hinterface, _⟩ := python_check_eq_ok h
  obtain ⟨types, values, k, hdeclares, rfl⟩ := Environment.interface_eq_ok hinterface
  obtain ⟨htypes, hvalues⟩ := hdeclares.names
  exact ⟨body, types, values, k, hparses, hdeclares, Record.build_lists c htypes hvalues⟩

-- Two targets of one assignment, of which only the second is exported.
theorem parse_two_targets :
    parseModule "_=x=1".toList = .ok [.assign [.name "_", .name "x"] (.constant (.int 1))] :=
  ok_of_toOption (by decide +kernel)

theorem python_record_two_targets : ∃ i c, (python ⟨false, true⟩).check "m" "_=x=1" = .ok (i, c) ∧
    (Record.build i c).values.map Field.name = [Text.ofString "x"] ∧
    ∃ body types values k, Parses "_=x=1" body ∧ DeclaresAll (Aliases.ofBody body) .empty body types values k ∧
      (Record.build i c).Lists ⟨false, true⟩ body types values := by
  have hparses : Parses "_=x=1" [.assign [.name "_", .name "x"] (.constant (.int 1))] :=
    ⟨"_=x=1".toList, Text.toChars?_map_ofChar _, parse_two_targets⟩
  have hcheck : (python ⟨false, true⟩).check "m" "_=x=1" =
      .ok (⟨[], [⟨Text.ofString "x", Text.ofString "int", Text.ofString "int"⟩]⟩,
        .mk none [(Text.ofString "_", .mk none []), (Text.ofString "x", .mk none [])]) := by
    rw [python_check_of_parses hparses]
    cbv
  exact ⟨_, _, hcheck, by cbv, python_record hcheck⟩

end Checker

end ModuleDocs
