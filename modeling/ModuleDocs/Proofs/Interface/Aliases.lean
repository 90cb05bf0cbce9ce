import ModuleDocs.Proofs.Alias.Reachable
import ModuleDocs.Proofs.Interface.Exported

/-!
# Aliases in an interface

An alias that does not depend on itself can be used or written out, with the same text in the interface. It can also be
declared anywhere: the statements that declare aliases add to the types only, and the table of a module does not depend
on the order of its definitions as long as no name has two of them.
-/

namespace ModuleDocs

open Source
open Relation (TransGen)

/-! ### Aliases and their definitions -/

namespace Aliases

open Alias

variable {a : Aliases} {n : String} {body : Expr}

theorem resolve_name (hget : a.get? n = some body) (hacyclic : ¬ TransGen (DependsOn readReference a) n n) :
    a.resolve (.name n) = a.resolve body := by
  unfold resolve
  rw [expand_definition hget (by simp)]
  refine Agree.expand_eq body [] fun m hm => ⟨rfl, ?_⟩
  -- The name itself is all that the two expansions differ in, and it is not reached.
  have hne : m ≠ n := by
    rintro rfl
    obtain ⟨k, hk, hchain⟩ := hm
    exact hacyclic (.head' ⟨body, hget, hk⟩ hchain)
  simp [hne]

/-- An alias that does not depend on itself and its definition have the same expansion, so parameters and variables get
the same text by either. -/
theorem resolve_alias (hget : a.get? n = some body) (hacyclic : ¬ TransGen (DependsOn readReference a) n n) :
    a.resolve (.name n) = a.resolve body ∧ a.text (.name n) = a.text body ∧
    (∀ mark name default, Signature.param a.text mark ⟨name, some (.name n), default⟩ =
      Signature.param a.text mark ⟨name, some body, default⟩) ∧
    ∀ k x v entry k₁ k' x' v' entry' k₁',
      Declares a k (.annotated (.name x) (.name n) v) [] [entry] k₁ →
      Declares a k' (.annotated (.name x') body v') [] [entry'] k₁' → entry.resolved = entry'.resolved := by
  have hresolve := resolve_name hget hacyclic
  have htext : a.text (.name n) = a.text body := by
    unfold text
    rw [hresolve]
  refine ⟨hresolve, htext, fun mark name default => ?_, ?_⟩
  · cases default with
    | none => simp only [Signature.param, htext]
    | some d => simp only [Signature.param, htext]
  · intro k x v entry k₁ k' x' v' entry' k₁' h h'
    cases h with
    | ofVariable _ _ hr =>
      cases h' with
      | ofVariable _ _ hr' =>
        rw [htext, hr'] at hr
        cases hr
        rfl

theorem resolve_alias_beside_loop :
    beside.get? "D" = some (.subscript (.name "dict") (.node .tuple [.name "A", .name "B"])) ∧
    ¬ TransGen (DependsOn readReference beside) "D" "D" ∧
    beside.resolve (.name "D") = beside.resolve (.subscript (.name "dict") (.node .tuple [.name "A", .name "B"])) := by
  have hacyclic : ¬ TransGen (DependsOn readReference beside) "D" "D" := by
    rw [TransGen.tail'_iff]
    rintro ⟨m, -, hm⟩
    exact not_dependsOn_beside (fun p hp => hp) m hm
  exact ⟨rfl, hacyclic, (resolve_alias rfl hacyclic).1⟩

end Aliases

variable {aliases : Aliases}

/-! ### Entries of one statement -/

/-- The types that a statement declares, whatever stands before it. -/
def Source.Stmt.typeEntries (aliases : Aliases) (s : Stmt) : List Entry :=
  match Declarations.add aliases .empty s with
  | .ok d => d.interface.types
  | .error _ => []

theorem Declares.typeEntries {k k' : Known} {s : Stmt} {types values : List Entry}
    (h : Declares aliases k s types values k') : s.typeEntries aliases = types := by
  have hempty : ∃ values₀ k₀, Declares aliases Declarations.empty.known s types values₀ k₀ := by
    cases h with
    | ofClass hu hr => exact ⟨_, _, .ofClass hu hr⟩
    | ofFunction hu hr => exact ⟨_, _, .ofFunction hu hr⟩
    | ofAlias hmark hu hr => exact ⟨_, _, .ofAlias hmark hu hr⟩
    | ofVariable hmark hu hr => exact ⟨_, _, .ofVariable hmark hu hr⟩
    | ofAssignment => exact ⟨_, _, .ofAssignment⟩
    | nothing htypes hvalues => exact ⟨_, _, .nothing htypes hvalues⟩
  obtain ⟨values₀, k₀, h₀⟩ := hempty
  rw [Stmt.typeEntries, Declarations.add_of_declares h₀]
  rfl

theorem DeclaresAll.types_eq {k k' : Known} {body : List Stmt} {types values : List Entry}
    (h : DeclaresAll aliases k body types values k') : types = body.flatMap (Stmt.typeEntries aliases) := by
  induction h with
  | nil => rfl
  | cons hs _ ih => rw [List.flatMap_cons, hs.typeEntries, ← ih]

theorem Declares.congr {a b : Aliases} {k k' : Known} {s : Stmt} {types values : List Entry}
    (h : Declares a k s types values k') (htext : a.text = b.text) : Declares b k s types values k' := by
  cases h with
  | ofClass hu hr => exact .ofClass hu (htext ▸ hr)
  | ofFunction hu hr => exact .ofFunction hu (htext ▸ hr)
  | ofAlias hmark hu hr => exact .ofAlias hmark hu (htext ▸ hr)
  | ofVariable hmark hu hr => exact .ofVariable hmark hu (htext ▸ hr)
  | ofAssignment => exact .ofAssignment
  | nothing htypes hvalues => exact .nothing htypes hvalues

theorem DeclaresAll.congr {a b : Aliases} {k k' : Known} {body : List Stmt} {types values : List Entry}
    (h : DeclaresAll a k body types values k') (htext : a.text = b.text) : DeclaresAll b k body types values k' := by
  induction h with
  | nil => exact .nil
  | cons hs _ ih => exact .cons (hs.congr htext) ih

/-! ### Alias declarations among the others -/

theorem aliasOf?_eq_some {s : Stmt} {id : String} {value : Expr} (h : aliasOf? s = some (id, value)) :
    ∃ type, s = .annotated (.name id) type (some value) ∧ isAliasMark type = true := by
  unfold aliasOf? at h
  split at h
  · rename_i id' type value'
    by_cases hmark : isAliasMark type = true
    · rw [if_pos hmark] at h
      cases h
      exact ⟨type, rfl, hmark⟩
    · rw [if_neg hmark] at h
      cases h
  · cases h

/-- A statement declares an alias, and so adds to the types only. -/
def IsAlias (s : Stmt) : Prop := (aliasOf? s).isSome = true

theorem Declares.of_isAlias {k k' : Known} {s : Stmt} {types values : List Entry}
    (h : Declares aliases k s types values k') (hs : IsAlias s) :
    values = [] ∧ k' = k ∧ ∀ k₀, Declares aliases k₀ s types [] k₀ := by
  obtain ⟨⟨id, value⟩, halias⟩ := Option.isSome_iff_exists.mp hs
  obtain ⟨type, rfl, hmark⟩ := aliasOf?_eq_some halias
  cases h with
  | ofAlias _ hu hr => exact ⟨rfl, rfl, fun k₀ => .ofAlias hmark hu hr⟩
  | ofVariable hvariable =>
    rw [hmark] at hvariable
    cases hvariable
  | nothing htypes => simp [Stmt.typeNames, hmark] at htypes

theorem DeclaresAll.filter {k k' : Known} {body : List Stmt} {types values : List Entry} {p : Stmt → Bool}
    (h : DeclaresAll aliases k body types values k') (hp : ∀ s, p s = false → IsAlias s) :
    ∃ types', DeclaresAll aliases k (body.filter p) types' values k' := by
  induction h with
  | nil => exact ⟨_, .nil⟩
  | @cons k _ _ s _ _ _ _ _ hs _ ih =>
    obtain ⟨types', hrest⟩ := ih
    cases hps : p s with
    | true =>
      rw [List.filter_cons_of_pos hps]
      exact ⟨_, .cons hs hrest⟩
    | false =>
      obtain ⟨rfl, rfl, _⟩ := hs.of_isAlias (hp s hps)
      rw [List.filter_cons_of_neg (by simp [hps])]
      exact ⟨types', hrest⟩

theorem DeclaresAll.of_filter {k k' : Known} {body : List Stmt} {types values : List Entry} {p : Stmt → Bool}
    (h : DeclaresAll aliases k (body.filter p) types values k')
    (hp : ∀ s ∈ body, p s = false → ∃ types, ∀ k₀, Declares aliases k₀ s types [] k₀) :
    ∃ types', DeclaresAll aliases k body types' values k' := by
  induction body generalizing k types values with
  | nil =>
    cases h
    exact ⟨_, .nil⟩
  | cons s body ih =>
    obtain ⟨hfirst, hothers⟩ := List.forall_mem_cons.mp hp
    cases hps : p s with
    | true =>
      rw [List.filter_cons_of_pos hps] at h
      cases h with
      | cons hs hrest =>
        obtain ⟨types', hbody⟩ := ih hrest hothers
        exact ⟨_, .cons hs hbody⟩
    | false =>
      rw [List.filter_cons_of_neg (by simp [hps])] at h
      obtain ⟨types', hbody⟩ := ih h hothers
      obtain ⟨own, hs⟩ := hfirst hps
      exact ⟨_, .cons (hs k) hbody⟩

/-! ### Definitions and exports -/

theorem lookup_filter {α β : Type} [BEq α] (n : α) (l : List (α × β)) :
    (l.filter fun p => n == p.1).lookup n = l.lookup n := by
  induction l with
  | nil => rfl
  | cons p l ih =>
    obtain ⟨m, v⟩ := p
    cases hm : n == m with
    | true => simp [List.lookup_cons, hm]
    | false => simp [List.lookup_cons, hm, ih]

theorem Aliases.get?_congr {a b : Aliases} {n : String}
    (h : (a.entries.filter fun p => n == p.1) = b.entries.filter fun p => n == p.1) : a.get? n = b.get? n := by
  unfold Aliases.get?
  rw [← lookup_filter, ← lookup_filter n b.entries.reverse, List.filter_reverse, List.filter_reverse, h]

theorem Exports.after_filter {p : Stmt → Bool} (hp : ∀ s, p s = false → effect s = .nothing)
    (names : Option (List Text)) (body : List Stmt) : after names (body.filter p) = after names body := by
  induction body generalizing names with
  | nil => rfl
  | cons s body ih =>
    cases hs : p s with
    | false =>
      rw [List.filter_cons_of_neg (by simp [hs]), ih, after, hp s hs]
    | true =>
      rw [List.filter_cons_of_pos hs, after, after]
      cases effect s with
      | nothing => exact ih _
      | set given =>
        cases given with
        | none => rfl
        | some ns => exact ih _
      | add given =>
        cases given with
        | none => rfl
        | some ns => exact ih _

/-! ### Moved aliases -/

def aliasNames (body : List Stmt) : List String := (body.filterMap aliasOf?).map Prod.fst

/-- The statement is the only one of a module to declare an alias of its name, and that is not the list of exports. -/
def movable (body : List Stmt) (s : Stmt) : Bool :=
  match aliasOf? s with
  | some (id, _) => (aliasNames body).count id == 1 && id != Exports.listName
  | none => false

/-- The same statements, with such aliases in other places and all other statements in their order. -/
structure Rearranges (body body' : List Stmt) : Prop where
  perm : body.Perm body'
  order : (body.filter fun s => !movable body s) = body'.filter fun s => !movable body s

theorem movable_iff {body : List Stmt} {s : Stmt} : movable body s = true ↔
    ∃ id value, aliasOf? s = some (id, value) ∧ (aliasNames body).count id = 1 ∧ id ≠ Exports.listName := by
  unfold movable
  cases haliases : aliasOf? s with
  | none => simp
  | some p =>
    obtain ⟨id, value⟩ := p
    simp

theorem isAlias_of_movable {body : List Stmt} {s : Stmt} (h : movable body s = true) : IsAlias s := by
  obtain ⟨id, value, hs, _⟩ := movable_iff.mp h
  simp [IsAlias, hs]

theorem effect_of_movable {body : List Stmt} {s : Stmt} (h : movable body s = true) :
    Exports.effect s = .nothing := by
  obtain ⟨id, value, hs, _, hlist⟩ := movable_iff.mp h
  obtain ⟨type, rfl, _⟩ := aliasOf?_eq_some hs
  simp [Exports.effect, Exports.isListName, hlist]

namespace Rearranges

variable {body body' : List Stmt}

theorem definitions (h : Rearranges body body') (n : String) :
    ((Aliases.ofBody body).entries.filter fun p => n == p.1) =
      (Aliases.ofBody body').entries.filter fun p => n == p.1 := by
  by_cases hn : (aliasNames body).count n = 1 ∧ n ≠ Exports.listName
  · -- There is one definition of the name, in whatever place.
    have hperm := (h.perm.filterMap aliasOf?).filter fun p => n == p.1
    have hone : ((body.filterMap aliasOf?).filter fun p => n == p.1).length = 1 := by
      have hcount := hn.1
      rw [aliasNames, List.count_eq_countP, List.countP_map, List.countP_eq_length_filter] at hcount
      refine (congrArg List.length (List.filter_congr fun p _ => ?_)).trans hcount
      rw [Function.comp, Bool.beq_comm]
    obtain ⟨p, hp⟩ := List.length_eq_one_iff.mp hone
    rw [hp] at hperm
    exact hp.trans (List.singleton_perm.mp hperm)
  · -- The definitions of the name are among the statements that keep their order.
    have hstay : ∀ l : List Stmt, ((l.filterMap aliasOf?).filter fun p => n == p.1) =
        ((l.filter fun s => !movable body s).filterMap aliasOf?).filter fun p => n == p.1 := by
      intro l
      rw [List.filter_filterMap, List.filter_filterMap, List.filterMap_filter]
      refine List.filterMap_congr fun s _ => ?_
      cases hs : movable body s with
      | false => simp
      | true =>
        obtain ⟨id, value, halias, hid⟩ := movable_iff.mp hs
        have hne : n ≠ id := by
          rintro rfl
          exact hn hid
        simp [halias, hne]
    exact (hstay body).trans ((congrArg _ (congrArg _ h.order)).trans (hstay body').symm)

theorem text_eq (h : Rearranges body body') : (Aliases.ofBody body).text = (Aliases.ofBody body').text := by
  funext e
  exact Aliases.text_congr fun n _ => Aliases.get?_congr (h.definitions n)

theorem exports_eq (h : Rearranges body body') : Exports.ofBody body = Exports.ofBody body' := by
  have hp : ∀ s, (!movable body s) = false → Exports.effect s = .nothing :=
    fun s hs => effect_of_movable (by simpa using hs)
  unfold Exports.ofBody
  rw [← Exports.after_filter hp, h.order, Exports.after_filter hp]

theorem declaresAll (h : Rearranges body body') {types values : List Entry} {k : Known}
    (hbody : DeclaresAll (Aliases.ofBody body) .empty body types values k) :
    ∃ types', DeclaresAll (Aliases.ofBody body) .empty body' types' values k := by
  have hp : ∀ s, (!movable body s) = false → IsAlias s := fun s hs => isAlias_of_movable (by simpa using hs)
  obtain ⟨rest, hrest⟩ := hbody.filter hp
  rw [h.order] at hrest
  refine hrest.of_filter fun s hs hmoved => ?_
  obtain ⟨_, own, _, _, hdeclares⟩ := hbody.mem (h.perm.mem_iff.mpr hs)
  exact ⟨own, (hdeclares.of_isAlias (hp s hmoved)).2.2⟩

end Rearranges

namespace Environment

/-- A module whose aliases have been moved about is accepted as well, with the same values. The types are those of the
same statements, in the order in which these now stand. -/
theorem interface_rearranged {env : Environment} {body body' : List Stmt} {i : Interface}
    (hmoved : Rearranges body body') (h : env.interface body = .ok i) :
    ∃ i', env.interface body' = .ok i' ∧ i'.values = i.values ∧
      i.types = (body.flatMap (Stmt.typeEntries (Aliases.ofBody body))).filter (env.exports (Exports.ofBody body)) ∧
      i'.types = (body'.flatMap (Stmt.typeEntries (Aliases.ofBody body))).filter
        (env.exports (Exports.ofBody body)) ∧
      ∀ module source,
        (Parses source body → (Checker.python env).check module source = .ok (i, Comments.ofBody env body)) ∧
        (Parses source body' → (Checker.python env).check module source = .ok (i', Comments.ofBody env body')) := by
  obtain ⟨d, hd, hi⟩ := bind_eq_ok.mp h
  have hdeclares := Declarations.ofBody_declares hd
  obtain ⟨types', hdeclares'⟩ := hmoved.declaresAll hdeclares
  have hd' : Declarations.ofBody body' = .ok (Declarations.empty.extend types' d.interface.values d.known) :=
    Declarations.foldlM_of_declaresAll (hdeclares'.congr hmoved.text_eq) .empty rfl
  have hi' : env.interface body' =
      .ok ((Interface.mk types' d.interface.values).filter (env.exports (Exports.ofBody body))) := by
    rw [Environment.interface, hd', hmoved.exports_eq]
    rfl
  have hchecks := fun module source => And.intro
    (fun hparses : Parses source body => Checker.python_check_of_interface hparses h module)
    (fun hparses : Parses source body' => Checker.python_check_of_interface hparses hi' module)
  cases hi
  refine ⟨_, hi', rfl, ?_, ?_, hchecks⟩
  · rw [← hdeclares.types_eq]
    rfl
  · rw [← hdeclares'.types_eq]
    rfl

/-- A variable of an alias type, a class, and the alias, which has the name of the class. -/
def aliasLast : List Stmt :=
  [.annotated (.name "x") (.name "A") none, .class ⟨"A", [], []⟩ [],
    .annotated (.name "A") (.name "TypeAlias") (some (.name "int"))]

def aliasFirst : List Stmt :=
  [.annotated (.name "A") (.name "TypeAlias") (some (.name "int")), .annotated (.name "x") (.name "A") none,
    .class ⟨"A", [], []⟩ []]

theorem interface_rearranged_first :
    Rearranges aliasLast aliasFirst ∧
    ∃ i i', (Environment.mk false true).interface aliasLast = .ok i ∧
      (Environment.mk false true).interface aliasFirst = .ok i' ∧ i'.values = i.values ∧
      i.types.map Entry.unresolved = [Text.ofString "class A", Text.ofString "int"] ∧
      i'.types.map Entry.unresolved = [Text.ofString "int", Text.ofString "class A"] := by
  have hperm : (aliasLast.take 2 ++ aliasLast.drop 2).Perm (aliasLast.drop 2 ++ aliasLast.take 2) :=
    List.perm_append_comm
  have hmoved : Rearranges aliasLast aliasFirst := ⟨hperm, rfl⟩
  have hlast : (Environment.mk false true).interface aliasLast =
      .ok ⟨[⟨Text.ofString "A", Text.ofString "class A", Text.ofString "class A"⟩,
        ⟨Text.ofString "A", Text.ofString "int", Text.ofString "int"⟩],
        [⟨Text.ofString "x", Text.ofString "A", Text.ofString "int"⟩]⟩ := by cbv
  obtain ⟨i', hi', hvalues, -, htypes, -⟩ := interface_rearranged hmoved hlast
  refine ⟨hmoved, _, i', hlast, hi', hvalues, rfl, ?_⟩
  rw [htypes]
  cbv

end Environment

end ModuleDocs
