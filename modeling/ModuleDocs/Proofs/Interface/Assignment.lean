import ModuleDocs.Proofs.Interface.Exported

/-!
# Assignments in an interface

An assignment infers the types of its names target by target, and each target sees the names that the targets before it
have bound. What is inferred from them differs from what was known before the assignment only where a name gets its type
from a name to which an earlier target has given another one.
-/

namespace ModuleDocs

open Source

namespace Known

/-! ### Where types of bound names come from -/

/-- What the type of a bound name is taken from: a value, or nothing, when the type is the same in any case. -/
inductive Origin where
  | fixed (type : Text)
  | value (e : Expr)

/-- The type of a name, given what is known. -/
def Origin.type (k : Known) : Origin → Text
  | .fixed t => t
  | .value e => k.infer e

/-- The names that the elements of a target list bind, with what their types are taken from. -/
def unpackOrigins (elements : List Expr) (value : Expr) : List (String × Origin) :=
  let targets := elements.map UnpackTarget.ofExpr
  let paired := pairable? targets value
  targets.zipIdx.filterMap fun (t, i) =>
    match t with
    | .starred id => id.map (·, .fixed "list")
    | .other => none
    | .name id =>
      some (id, ((paired.bind fun es => elementAt? targets es i).map Origin.value).getD (.fixed unknown))

/-- The names that a target binds, with what their types are taken from. -/
def origins (value : Expr) : Expr → List (String × Origin)
  | .name id => [(id, .value value)]
  | .node .tuple es => unpackOrigins es value
  | .node .list es => unpackOrigins es value
  | _ => []

theorem unpack_eq (k : Known) (es : List Expr) (value : Expr) :
    k.unpack es value = (unpackOrigins es value).map fun p => (p.1, p.2.type k) := by
  rw [unpack, unpackOrigins, List.map_filterMap]
  congr 1
  funext p
  obtain ⟨t, i⟩ := p
  cases t with
  | starred id => cases id <;> rfl
  | other => rfl
  | name id =>
    cases hpaired : pairable? (es.map UnpackTarget.ofExpr) value with
    | none => rfl
    | some ds => cases helement : elementAt? (es.map UnpackTarget.ofExpr) ds i <;> simp [helement, Origin.type]

theorem bound_eq (k : Known) (value target : Expr) :
    k.bound value target = (origins value target).map fun p => (p.1, p.2.type k) := by
  cases target with
  | node shape es =>
    cases shape with
    | tuple => exact unpack_eq k es value
    | list => exact unpack_eq k es value
    | _ => rfl
  | _ => rfl

/-! ### What bound names change -/

theorem addBound_eq (k : Known) (bs : List (String × Text)) :
    k.addBound bs = { k with values := bs.reverse ++ k.values } := by
  induction bs generalizing k with
  | nil => rfl
  | cons b bs ih =>
    rw [addBound, List.foldl_cons, ← addBound, ih]
    simp [addValue]

theorem nameType_addBound (k : Known) (bs : List (String × Text)) (y : String) :
    (k.addBound bs).nameType y = (bs.reverse.lookup y).getD (k.nameType y) := by
  rw [addBound_eq, nameType, List.lookup_append]
  cases bs.reverse.lookup y with
  | none => rfl
  | some t => rfl

/-- Bound names matter to an inferred type only where the value is one of them. -/
theorem infer_addBound (k : Known) (bs : List (String × Text)) {e : Expr} (he : ∀ y, e ≠ .name y) :
    (k.addBound bs).infer e = k.infer e := by
  rw [addBound_eq]
  unfold infer
  split
  · rfl
  · exact absurd rfl (he _)
  · rfl
  · rfl
  · rfl

/-- The type that a name gets once other names have been bound: that of the name it is taken from, if this is one of
them. -/
def Origin.typeAfter (k : Known) (bs : List (String × Text)) : Origin → Text
  | .value (.name y) => (bs.reverse.lookup y).getD (k.nameType y)
  | o => o.type k

theorem Origin.type_addBound (k : Known) (bs : List (String × Text)) (o : Origin) :
    o.type (k.addBound bs) = o.typeAfter k bs := by
  cases o with
  | fixed t => rfl
  | value e =>
    by_cases he : ∃ y, e = .name y
    · obtain ⟨y, rfl⟩ := he
      exact nameType_addBound k bs y
    · rw [Origin.type, infer_addBound k bs fun y hy => he ⟨y, hy⟩, typeAfter]
      · rfl
      · rintro y ⟨rfl⟩
        exact he ⟨y, rfl⟩

theorem boundAll_append (value : Expr) (k : Known) (earlier later : List Expr) :
    boundAll value k (earlier ++ later) =
      boundAll value k earlier ++ boundAll value (k.addBound (boundAll value k earlier)) later := by
  induction earlier generalizing k with
  | nil => rfl
  | cons target rest ih =>
    rw [List.cons_append, boundAll, boundAll, ih, addBound_append, List.append_assoc]

/-- The names of one target after those of the targets before it. -/
theorem boundAll_target (value : Expr) (k : Known) (earlier : List Expr) (target : Expr) (later : List Expr) :
    boundAll value k (earlier ++ target :: later) = boundAll value k earlier ++
      ((origins value target).map fun p => (p.1, p.2.typeAfter k (boundAll value k earlier))) ++
      boundAll value (k.addBound (boundAll value k (earlier ++ [target]))) later := by
  rw [List.append_cons, boundAll_append, boundAll_append, boundAll, boundAll, bound_eq, List.append_nil]
  simp only [Origin.type_addBound, List.append_assoc]

/-- No name gets its type from a name to which an earlier target has given another type. -/
def Unrevised (k : Known) (value : Expr) (targets : List Expr) : Prop :=
  ∀ earlier target later, targets = earlier ++ target :: later → ∀ id y, (id, .value (.name y)) ∈ origins value target →
    ∀ t, (boundAll value k earlier).reverse.lookup y = some t → t = k.nameType y

theorem typeAfter_eq_bound_iff (k : Known) (value target : Expr) (bs : List (String × Text)) :
    ((origins value target).map fun p => (p.1, p.2.typeAfter k bs)) = k.bound value target ↔
      ∀ id y, (id, .value (.name y)) ∈ origins value target → ∀ t, bs.reverse.lookup y = some t → t = k.nameType y := by
  rw [bound_eq, List.map_inj_left]
  constructor
  · intro h id y hmem t ht
    have htype := congrArg Prod.snd (h _ hmem)
    simpa [Origin.typeAfter, Origin.type, infer, ht] using htype
  · intro h p hp
    obtain ⟨id, o⟩ := p
    cases o with
    | fixed t => rfl
    | value e =>
      cases e with
      | name y =>
        cases ht : bs.reverse.lookup y with
        | none => simp [Origin.typeAfter, Origin.type, infer, ht]
        | some t => simp [Origin.typeAfter, Origin.type, infer, ht, h id y hp t ht]
      | _ => rfl

theorem boundAll_length (value : Expr) (k : Known) (targets : List Expr) :
    (boundAll value k targets).length = (targets.flatMap (k.bound value)).length := by
  have hnames : (boundAll value k targets).map Prod.fst = (targets.flatMap (k.bound value)).map Prod.fst := by
    rw [boundAll_names, List.map_flatMap]
    exact congrArg (List.flatMap · targets) (funext fun target => (bound_names k value target).symm)
  simpa using congrArg List.length hnames

theorem Unrevised.boundAll_eq {k : Known} {value : Expr} {targets : List Expr} (h : k.Unrevised value targets)
    (earlier later : List Expr) (htargets : targets = earlier ++ later) :
    boundAll value k earlier = earlier.flatMap (k.bound value) := by
  -- From the last target backwards: what it sees are the names of the targets before it.
  induction earlier using List.reverseRecOn generalizing later with
  | nil => rfl
  | append_singleton earlier target ih =>
    rw [List.append_assoc, List.singleton_append] at htargets
    have htarget := (typeAfter_eq_bound_iff k value target _).mpr (h earlier target later htargets)
    rw [boundAll_target, boundAll, htarget, ih _ htargets, List.flatMap_append]
    simp

/-- The targets of an assignment all see what was known before it if and only if none of them reads a revised name. -/
theorem boundAll_eq_flatMap_iff (k : Known) (value : Expr) (targets : List Expr) :
    boundAll value k targets = targets.flatMap (k.bound value) ↔ k.Unrevised value targets := by
  constructor
  · rintro h earlier target later rfl
    rw [boundAll_target, List.flatMap_append, List.flatMap_cons, List.append_assoc] at h
    -- The names of a target have the same place in both lists.
    have hrest := (List.append_inj h (boundAll_length value k earlier)).2
    have htarget := (List.append_inj hrest (by simp [bound_eq])).1
    exact (typeAfter_eq_bound_iff k value target _).mp htarget
  · intro h
    exact h.boundAll_eq targets [] (List.append_nil _).symm

theorem infer_addBound_self (k : Known) (value : Expr) (id : String) :
    (k.addBound [(id, k.infer value)]).infer value = k.infer value := by
  by_cases hvalue : ∃ y, value = .name y
  · obtain ⟨y, rfl⟩ := hvalue
    refine (nameType_addBound k _ y).trans ?_
    cases hid : y == id with
    | true => simp [List.lookup_cons, hid, infer]
    | false => simp [List.lookup_cons, hid, infer]
  · exact infer_addBound k _ fun y hy => hvalue ⟨y, hy⟩

/-- Names without unpacking all get the type that the first of them gets. -/
theorem boundAll_of_names (value : Expr) (k : Known) {targets : List Expr} (h : ∀ t ∈ targets, ∃ id, t = .name id) :
    boundAll value k targets = targets.flatMap (k.bound value) := by
  induction targets generalizing k with
  | nil => rfl
  | cons target rest ih =>
    obtain ⟨⟨id, rfl⟩, hrest⟩ := List.forall_mem_cons.mp h
    rw [boundAll, ih _ hrest, List.flatMap_cons]
    refine congrArg (_ ++ ·) (List.flatMap_congr fun t ht => ?_)
    obtain ⟨id', rfl⟩ := hrest t ht
    exact congrArg (fun type => [(id', type)]) (infer_addBound_self k value id)

end Known

variable {aliases : Aliases}

theorem Declares.of_assign {k k' : Known} {targets : List Expr} {value : Expr} {types values : List Entry}
    (h : Declares aliases k (.assign targets value) types values k') :
    types = [] ∧ values = (Known.boundAll value k targets).map Entry.inferred ∧
      k' = k.addBound (Known.boundAll value k targets) := by
  cases h with
  | ofAssignment => exact ⟨rfl, rfl, rfl⟩
  | nothing _ hvalues =>
    have hnames := Known.boundAll_names value k targets
    rw [show targets.flatMap targetNames = [] from hvalues, List.map_eq_nil_iff] at hnames
    rw [hnames]
    exact ⟨rfl, rfl, rfl⟩

namespace Environment

/-- The values that an assignment declares stand among the others with the types that its targets give them one after
the other. These are the types inferred from the statements before it if and only if no target reads a revised name. -/
theorem interface_assignment {env : Environment} {body before after : List Stmt} {targets : List Expr} {value : Expr}
    {i : Interface} (hbody : body = before ++ .assign targets value :: after) (h : env.interface body = .ok i) :
    (∀ module source, Parses source body →
      (Checker.python env).check module source = .ok (i, Comments.ofBody env body)) ∧
    ∃ types values k types' values' k',
      DeclaresAll (Aliases.ofBody body) .empty before types values k ∧
      DeclaresAll (Aliases.ofBody body) (k.addBound (Known.boundAll value k targets)) after types' values' k' ∧
      i.values = (values ++ (Known.boundAll value k targets).map Entry.inferred ++ values').filter
        (env.exports (Exports.ofBody body)) ∧
      (Known.boundAll value k targets = targets.flatMap (k.bound value) ↔ k.Unrevised value targets) ∧
      ((∀ t ∈ targets, ∃ id, t = .name id) ∨ targets.length = 1 → k.Unrevised value targets) ∧
      ∀ earlier target later, targets = earlier ++ target :: later →
        Known.boundAll value k targets = Known.boundAll value k earlier ++
          ((Known.origins value target).map fun p => (p.1, p.2.typeAfter k (Known.boundAll value k earlier))) ++
          Known.boundAll value (k.addBound (Known.boundAll value k (earlier ++ [target]))) later := by
  refine ⟨fun module _ hparses => Checker.python_check_of_interface hparses h module, ?_⟩
  obtain ⟨d, hd, hi⟩ := bind_eq_ok.mp h
  cases hi
  have hdeclares := Declarations.ofBody_declares hd
  nth_rewrite 2 [hbody] at hdeclares
  obtain ⟨types, values, k, types₂, values₂, hbefore, hrest, -, hvalues⟩ := hdeclares.split
  cases hrest with
  | cons hs hafter =>
    obtain ⟨rfl, rfl, rfl⟩ := hs.of_assign
    have hiff := Known.boundAll_eq_flatMap_iff k value targets
    refine ⟨types, values, k, _, _, _, hbefore, hafter, ?_, hiff, ?_, ?_⟩
    · rw [List.append_assoc, ← hvalues]
      rfl
    · rw [← hiff]
      rintro (hnames | hone)
      · exact Known.boundAll_of_names value k hnames
      · obtain ⟨target, rfl⟩ := List.length_eq_one_iff.mp hone
        rw [Known.boundAll, Known.boundAll, List.flatMap_singleton, List.append_nil]
    · rintro earlier target later rfl
      exact Known.boundAll_target value k earlier target later

/-- Two names of different types, which an assignment then exchanges in the first of its targets. -/
def swapBefore : List Stmt :=
  [.assign [.name "a"] (.constant (.int 1)), .assign [.name "b"] (.constant (.str "" false))]

def swapTargets : List Expr := [.node .tuple [.name "a", .name "b"], .node .tuple [.name "c", .name "d"]]

def swapValue : Expr := .node .tuple [.name "b", .name "a"]

def swapBody : List Stmt := swapBefore ++ [.assign swapTargets swapValue]

theorem interface_assignment_swap :
    ∃ i types values k, (Environment.mk false true).interface swapBody = .ok i ∧
      i.values = [("a", "int"), ("b", "str"), ("a", "str"), ("b", "int"), ("c", "int"), ("d", "str")].map
        (fun p => Entry.inferred (p.1, Text.ofString p.2)) ∧
      DeclaresAll (Aliases.ofBody swapBody) .empty swapBefore types values k ∧
      swapTargets.flatMap (k.bound swapValue) = [("a", "str"), ("b", "int"), ("c", "str"), ("d", "int")].map
        (fun p => (p.1, Text.ofString p.2)) ∧
      ¬ k.Unrevised swapValue swapTargets := by
  have hinterface : (Environment.mk false true).interface swapBody =
      .ok ⟨[], [("a", "int"), ("b", "str"), ("a", "str"), ("b", "int"), ("c", "int"), ("d", "str")].map
        (fun p => Entry.inferred (p.1, Text.ofString p.2))⟩ := by cbv
  obtain ⟨-, types, values, k, _, _, _, hbefore, -, -, hiff, -⟩ := interface_assignment (rfl : swapBody = _) hinterface
  refine ⟨_, types, values, k, hinterface, rfl, hbefore, ?_⟩
  rw [← hiff]
  cases hbefore with
  | cons ha hrest =>
    cases hrest with
    | cons hb hnone =>
      cases hnone
      obtain ⟨-, -, rfl⟩ := ha.of_assign
      obtain ⟨-, -, rfl⟩ := hb.of_assign
      exact ⟨by cbv, by decide +kernel⟩

end Environment

end ModuleDocs
