import Mathlib
import ModuleDocs.Proofs.Alias.Expands

/-!
# What an expansion leaves

An alias depends on the names that its definition refers to, in the open or in a forward reference. The invariant of an
expansion is that every alias being expanded depends on all that the expression at hand refers to. So an alias that is
left, because it is met while being expanded, depends on itself; and where no alias does, a second expansion finds
nothing to do.
-/

namespace ModuleDocs

open Source
open Relation (TransGen)

namespace Alias

/-- The names that stand in an expression in the place of a type. -/
inductive Exposes : Expr → String → Prop where
  | name {id : String} : Exposes (.name id) id
  | member {v : Expr} {attr n : String} : Exposes v n → Exposes (.member v attr) n
  | base {v s : Expr} {n : String} : Exposes v n → Exposes (.subscript v s) n
  | argument {v s e : Expr} {n : String} : e ∈ typeArguments v s → Exposes e n → Exposes (.subscript v s) n
  | child {shape : Shape} {es : List Expr} {e : Expr} {n : String} :
      e ∈ es → Exposes e n → Exposes (.node shape es) n

/-- The names that an expression refers to in the place of a type, forward references included. Which arguments of a
subscript are types is known once its base is expanded. -/
inductive Refers (read : Reader) (aliases : Aliases) : Expr → String → Prop where
  | name {id : String} : Refers read aliases (.name id) id
  | reference {t : Text} {marked : Bool} {e : Expr} {n : String} : read t = .ok (some e) →
      Refers read aliases e n → Refers read aliases (.constant (.str t marked)) n
  | member {v : Expr} {attr n : String} : Refers read aliases v n → Refers read aliases (.member v attr) n
  | base {v s : Expr} {n : String} : Refers read aliases v n → Refers read aliases (.subscript v s) n
  | argument {active : List String} {v w s e : Expr} {n : String} : Expands read aliases active v w →
      e ∈ typeArguments w s → Refers read aliases e n → Refers read aliases (.subscript v s) n
  | child {shape : Shape} {es : List Expr} {e : Expr} {n : String} :
      e ∈ es → Refers read aliases e n → Refers read aliases (.node shape es) n

def DependsOn (read : Reader) (aliases : Aliases) (n m : String) : Prop :=
  ∃ body, aliases.get? n = some body ∧ Refers read aliases body m

/-- Every alias being expanded depends on all that an expression refers to. -/
def Pursued (read : Reader) (aliases : Aliases) (active : List String) (e : Expr) : Prop :=
  ∀ a ∈ active, ∀ m, Refers read aliases e m → TransGen (DependsOn read aliases) a m

/-! ### Arguments that are types -/

theorem typeArguments_whole {w s : Expr} (hliteral : w.baseName? ≠ some "Literal")
    (hother : w.baseName? = some "Annotated" → ∀ e es, s ≠ .node .tuple (e :: es)) : typeArguments w s = [s] := by
  unfold typeArguments
  rw [if_neg hliteral]
  split
  · rename_i hannotated
    split
    · exact absurd rfl (hother hannotated _ _)
    · rfl
  · rfl

theorem mem_typeArguments_self {w s : Expr} (hliteral : w.baseName? ≠ some "Literal")
    (hother : w.baseName? = some "Annotated" → ∀ e es, s ≠ .node .tuple (e :: es)) : s ∈ typeArguments w s := by
  rw [typeArguments_whole hliteral hother]
  exact List.mem_singleton_self _

theorem typeArguments_literal {w s : Expr} (hliteral : w.baseName? = some "Literal") : typeArguments w s = [] :=
  if_pos hliteral

theorem typeArguments_annotated {w e : Expr} {es : List Expr} (hannotated : w.baseName? = some "Annotated") :
    typeArguments w (.node .tuple (e :: es)) = [e] := by
  simp [typeArguments, hannotated]

theorem exposes_of_mem_typeArguments {w s e : Expr} {n : String} (he : e ∈ typeArguments w s) (hn : Exposes e n) :
    Exposes s n := by
  unfold typeArguments at he
  split at he
  · cases he
  · split at he
    · split at he
      · cases List.mem_singleton.mp he
        exact .child List.mem_cons_self hn
      · cases List.mem_singleton.mp he
        exact hn
    · cases List.mem_singleton.mp he
      exact hn

/-! ### The aliases being expanded -/

variable {read : Reader} {aliases : Aliases} {active : List String}

theorem pursued_nil (e : Expr) : Pursued read aliases [] e := by
  intro a ha
  cases ha

theorem Pursued.mono {e d : Expr} (h : Pursued read aliases active e)
    (hd : ∀ m, Refers read aliases d m → Refers read aliases e m) : Pursued read aliases active d :=
  fun a ha m hm => h a ha m (hd m hm)

theorem Pursued.definition {id : String} {body : Expr} (h : Pursued read aliases active (.name id))
    (hget : aliases.get? id = some body) : Pursued read aliases (id :: active) body := by
  intro a ha m hm
  have hlast : DependsOn read aliases id m := ⟨body, hget, hm⟩
  rcases List.mem_cons.mp ha with rfl | ha
  · exact .single hlast
  · exact (h a ha id .name).tail hlast

theorem exists_left_of_mem_right {cs ds : List Expr} (hlength : cs.length = ds.length) {d : Expr} (hd : d ∈ ds) :
    ∃ c ∈ cs, (c, d) ∈ cs.zip ds := by
  rw [← List.map_snd_zip (Nat.le_of_eq hlength.symm)] at hd
  obtain ⟨⟨c, _⟩, hpair, rfl⟩ := List.mem_map.mp hd
  exact ⟨c, (List.of_mem_zip hpair).1, hpair⟩

/-- An alias name left by an expansion depends on itself. -/
theorem Expands.exposed_cyclic {e r : Expr} (h : Expands read aliases active e r)
    (hpursued : Pursued read aliases active e) {n : String} {definition : Expr}
    (hn : aliases.get? n = some definition) (hexposed : Exposes r n) : TransGen (DependsOn read aliases) n n := by
  induction h with
  | foreign hget =>
    cases hexposed
    rw [hget] at hn
    cases hn
  | cyclic _ hactive =>
    cases hexposed
    exact hpursued n hactive n .name
  | definition hget _ _ ih => exact ih (hpursued.definition hget) hexposed
  | reference hread _ _ ih => exact ih (hpursued.mono fun m hm => .reference hread hm) hexposed
  | text => cases hexposed
  | constant => cases hexposed
  | member _ ih =>
    cases hexposed with
    | member hexposed => exact ih (hpursued.mono fun m hm => .member hm) hexposed
  | literal _ hliteral ih =>
    cases hexposed with
    | base hexposed => exact ih (hpursued.mono fun m hm => .base hm) hexposed
    | argument hmem =>
      rw [typeArguments_literal hliteral] at hmem
      cases hmem
  | annotated hw hannotated _ ihw ihe =>
    cases hexposed with
    | base hexposed => exact ihw (hpursued.mono fun m hm => .base hm) hexposed
    | argument hmem hexposed =>
      rw [typeArguments_annotated hannotated] at hmem
      cases List.mem_singleton.mp hmem
      refine ihe (hpursued.mono fun m hm => .argument hw ?_ hm) hexposed
      rw [typeArguments_annotated hannotated]
      exact List.mem_singleton_self _
  | subscript hw hliteral hother _ ihw ihs =>
    cases hexposed with
    | base hexposed => exact ihw (hpursued.mono fun m hm => .base hm) hexposed
    | argument hmem hexposed =>
      have hself := mem_typeArguments_self hliteral hother
      exact ihs (hpursued.mono fun m hm => .argument hw hself hm) (exposes_of_mem_typeArguments hmem hexposed)
  | node hlength _ ih =>
    cases hexposed with
    | child hmem hexposed =>
      obtain ⟨c, hc, hpair⟩ := exists_left_of_mem_right hlength hmem
      exact ih _ hpair (hpursued.mono fun m hm => .child hc hm) hexposed

/-! ### Expanding what was expanded -/

theorem expands_self_of_node {shape : Shape} {ds : List Expr}
    (h : Expands read aliases active (.node shape ds) (.node shape ds)) :
    ∀ d ∈ ds, Expands read aliases active d d := by
  intro d hd
  cases h with
  | node _ hall =>
    have hpair : (d, d) ∈ ds.zip ds := by
      rw [List.zip_eq_zipWith, List.zipWith_self]
      exact List.mem_map_of_mem hd
    exact hall _ hpair

theorem expands_self_subscript {w t : Expr} (hw : Expands read aliases active w w)
    (ht : Expands read aliases active t t) (hliteral : w.baseName? ≠ some "Literal") :
    Expands read aliases active (.subscript w t) (.subscript w t) := by
  by_cases hannotated : w.baseName? = some "Annotated"
  · -- The slice may have become a tuple, of which only the first element is now a type.
    by_cases htuple : ∃ d ds, t = .node .tuple (d :: ds)
    · obtain ⟨d, ds, rfl⟩ := htuple
      exact .annotated hw hannotated (expands_self_of_node ht d List.mem_cons_self)
    · exact .subscript hw hliteral (fun _ d ds heq => htuple ⟨d, ds, heq⟩) ht
  · exact .subscript hw hliteral (fun h => absurd h hannotated) ht

theorem Expands.expands_self {e r : Expr} (h : Expands read aliases active e r)
    (hpursued : Pursued read aliases active e) (hacyclic : ∀ n, ¬ TransGen (DependsOn read aliases) n n)
    (active' : List String) : Expands read aliases active' r r := by
  induction h with
  | foreign hget => exact .foreign hget
  | @cyclic active id body _ hactive => exact absurd (hpursued id hactive id .name) (hacyclic id)
  | definition hget _ _ ih => exact ih (hpursued.definition hget)
  | reference hread _ _ ih => exact ih (hpursued.mono fun m hm => .reference hread hm)
  | text hread hlong => exact .text hread hlong
  | constant hc => exact .constant hc
  | member _ ih => exact .member (ih (hpursued.mono fun m hm => .member hm))
  | literal _ hliteral ih => exact .literal (ih (hpursued.mono fun m hm => .base hm)) hliteral
  | annotated hw hannotated _ ihw ihe =>
    have hbase := ihw (hpursued.mono fun m hm => .base hm)
    refine .annotated hbase hannotated (ihe (hpursued.mono fun m hm => .argument hw ?_ hm))
    rw [typeArguments_annotated hannotated]
    exact List.mem_singleton_self _
  | subscript hw hliteral hother _ ihw ihs =>
    have hself := mem_typeArguments_self hliteral hother
    have hbase := ihw (hpursued.mono fun m hm => .base hm)
    have hslice := ihs (hpursued.mono fun m hm => .argument hw hself hm)
    exact expands_self_subscript hbase hslice hliteral
  | node hlength _ ih =>
    refine .node rfl fun p hp => ?_
    rw [List.zip_eq_zipWith, List.zipWith_self] at hp
    obtain ⟨d, hd, rfl⟩ := List.mem_map.mp hp
    obtain ⟨c, hc, hpair⟩ := exists_left_of_mem_right hlength hd
    exact ih _ hpair (hpursued.mono fun m hm => .child hc hm)

end Alias

namespace Aliases

open Alias

/-- An expansion leaves aliases only where they depend on themselves. If none does, it leaves none, and expanding once
more changes nothing. -/
theorem resolve_leaves_cycles {aliases : Aliases} {e r : Expr} (h : aliases.resolve e = .ok r) :
    (∀ n definition, aliases.get? n = some definition → Exposes r n →
      TransGen (DependsOn readReference aliases) n n) ∧
    ((∀ n, ¬ TransGen (DependsOn readReference aliases) n n) →
      (∀ n, Exposes r n → aliases.get? n = none) ∧ aliases.resolve r = .ok r) := by
  have hexpands := expand_eq_ok.mp h
  have hcycles : ∀ n definition, aliases.get? n = some definition → Exposes r n →
      TransGen (DependsOn readReference aliases) n n :=
    fun n definition hn hexposed => hexpands.exposed_cyclic (pursued_nil e) hn hexposed
  refine ⟨hcycles, fun hacyclic => ⟨fun n hexposed => ?_, ?_⟩⟩
  · cases hn : aliases.get? n with
    | none => rfl
    | some definition => exact absurd (hcycles n definition hn hexposed) (hacyclic n)
  · exact expand_eq_ok.mpr (hexpands.expands_self (pursued_nil e) hacyclic [])

/-- Two aliases that refer to each other, one of them by a string, and a third that refers to no alias. -/
def loop : Aliases where
  entries :=
    [("A", .subscript (.name "list") (.constant (.str (Text.ofString "B") false))),
     ("B", .subscript (.name "dict") (.node .tuple [.name "A", .name "C"])),
     ("C", .name "int")]

theorem readReference_name : readReference (Text.ofString "B") = .ok (some (.name "B")) := by
  have hstrip : (Text.ofString "B").strip = Text.ofString "B" := by cbv
  have hchars : (Text.ofString "B").toChars? = some ['B'] := by cbv
  obtain ⟨bytes, hutf8⟩ : ∃ bytes, (Text.ofString "B").toUtf8 = .ok bytes := ⟨_, by cbv⟩
  have hparse : (Expr.parse ['B']).toOption = some (.name "B") := by decide +kernel
  simp [readReference, hstrip, hchars, hutf8, hparse]

theorem loop_resolve : loop.resolve (.name "A") =
    .ok (.subscript (.name "list") (.subscript (.name "dict") (.node .tuple [.name "A", .name "int"]))) := by
  refine expand_eq_ok.mpr (.definition rfl (by decide) (.subscript (.foreign rfl) (by decide) (by simp) ?_))
  refine .reference readReference_name (by decide) (.definition rfl (by decide) ?_)
  refine .subscript (.foreign rfl) (by decide) (by simp [Expr.baseName?]) (.node rfl ?_)
  intro p hp
  rcases List.mem_cons.mp hp with rfl | hp
  · exact .cyclic rfl (by decide)
  · cases List.mem_singleton.mp hp
    exact .definition rfl (by decide) (.foreign rfl)

theorem resolve_leaves_loop :
    loop.resolve (.name "A") =
      .ok (.subscript (.name "list") (.subscript (.name "dict") (.node .tuple [.name "A", .name "int"]))) ∧
    TransGen (DependsOn readReference loop) "A" "A" := by
  refine ⟨loop_resolve, (resolve_leaves_cycles loop_resolve).1 "A" _ rfl ?_⟩
  have hinner : Exposes (.subscript (.name "dict") (.node .tuple [.name "A", .name "int"])) "A" :=
    .argument (List.mem_singleton_self _) (.child List.mem_cons_self .name)
  exact .argument (List.mem_singleton_self _) hinner

end Aliases

end ModuleDocs
