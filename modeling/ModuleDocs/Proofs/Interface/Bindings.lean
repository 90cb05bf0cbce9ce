import ModuleDocs.Proofs.Interface.Assignment

/-!
# Names in an interface

A value that is a name, or a call of a name, gets its type from the declarations before it. Classes and values are
remembered apart: a name has the type of its latest value, if it has one, and a call of it that of a class, if there is
one. This is the type by the latest declaration unless that one hides a declaration of the other kind.
-/

namespace ModuleDocs

open Source

/-! ### Recorded types -/

namespace Entry

/-- The type recorded for the latest entry of a name. -/
def latestType? (entries : List Entry) (name : String) : Option Text :=
  (entries.reverse.find? fun e => e.name == Text.ofString name).map Entry.resolved

theorem latestType?_append (earlier later : List Entry) (name : String) :
    latestType? (earlier ++ later) name = (latestType? later name).or (latestType? earlier name) := by
  rw [latestType?, List.reverse_append, List.find?_append, Option.map_or]
  rfl

theorem latestType?_singleton (declared name : String) (unresolved resolved : Text) :
    latestType? [⟨Text.ofString declared, unresolved, resolved⟩] name =
      if name = declared then some resolved else none := by
  by_cases h : name = declared
  · simp [latestType?, h]
  · have hne : Text.ofString declared ≠ Text.ofString name := fun heq => h (Text.ofString_inj.mp heq).symm
    simp [latestType?, h, hne]

theorem latestType?_inferred (bs : List (String × Text)) (name : String) :
    latestType? (bs.map inferred) name = bs.reverse.lookup name := by
  induction bs using List.reverseRecOn with
  | nil => rfl
  | append_singleton bs b ih =>
    obtain ⟨declared, type⟩ := b
    rw [List.map_append, latestType?_append, ih, List.map_singleton, inferred, latestType?_singleton]
    by_cases h : name = declared
    · simp [h]
    · have hne : (name == declared) = false := beq_eq_false_iff_ne.mpr h
      simp [h, hne, List.lookup_cons]

theorem latestType?_isSome_iff {entries : List Entry} {name : String} :
    (latestType? entries name).isSome = true ↔ Text.ofString name ∈ entries.map Entry.name := by
  simp [latestType?, List.find?_isSome]

end Entry

/-! ### What is known of a name -/

namespace Source.Stmt

/-- The class that a statement declares. -/
def className? : Stmt → Option String
  | .class head _ => some head.name
  | _ => none

/-- The statement binds a name, to a class or to a value. Aliases bind nothing. -/
def Binds (s : Stmt) (name : String) : Prop := s.className? = some name ∨ name ∈ s.valueNames

end Source.Stmt

variable {aliases : Aliases} {k k' : Known} {types values : List Entry} {name : String}

theorem Declares.lookup_values {s : Stmt} (h : Declares aliases k s types values k') (name : String) :
    k'.values.lookup name = (Entry.latestType? values name).or (k.values.lookup name) := by
  have hvalue : ∀ (declared : String) (u r : Text), (k.addValue declared r).values.lookup name =
      (Entry.latestType? [⟨Text.ofString declared, u, r⟩] name).or (k.values.lookup name) := by
    intro declared u r
    rw [Entry.latestType?_singleton, Known.addValue, List.lookup_cons]
    by_cases hname : name = declared
    · simp [hname]
    · have hne : (name == declared) = false := beq_eq_false_iff_ne.mpr hname
      simp [hname, hne]
  cases h with
  | ofClass => rfl
  | ofFunction => exact hvalue _ _ _
  | ofAlias => rfl
  | ofVariable => exact hvalue _ _ _
  | ofAssignment => rw [Known.addBound_eq, Entry.latestType?_inferred, List.lookup_append]
  | nothing => rfl

theorem Declares.mem_classes {s : Stmt} (h : Declares aliases k s types values k') (name : String) :
    name ∈ k'.classes ↔ s.className? = some name ∨ name ∈ k.classes := by
  cases h with
  | ofClass => simp [Known.addClass, Stmt.className?, eq_comm]
  | ofFunction => simp [Known.addValue, Stmt.className?]
  | ofAlias => simp [Stmt.className?]
  | ofVariable => simp [Known.addValue, Stmt.className?]
  | ofAssignment => simp [Known.addBound_eq, Stmt.className?]
  | nothing htypes =>
    have hnone : s.className? = none := by
      cases s with
      | «class» head body => cases htypes
      | _ => rfl
    simp [hnone]

theorem DeclaresAll.lookup_values {body : List Stmt} (h : DeclaresAll aliases k body types values k') (name : String) :
    k'.values.lookup name = (Entry.latestType? values name).or (k.values.lookup name) := by
  induction h with
  | nil => rfl
  | cons hs _ ih => rw [ih, hs.lookup_values, Entry.latestType?_append, Option.or_assoc]

theorem DeclaresAll.mem_classes {body : List Stmt} (h : DeclaresAll aliases k body types values k') (name : String) :
    name ∈ k'.classes ↔ (∃ s ∈ body, s.className? = some name) ∨ name ∈ k.classes := by
  induction h with
  | nil => simp
  | cons hs _ ih =>
    rw [ih, hs.mem_classes, List.exists_mem_cons_iff, or_assoc, or_left_comm]

theorem DeclaresAll.latestType?_isSome {body : List Stmt} (h : DeclaresAll aliases k body types values k')
    (name : String) :
    (Entry.latestType? values name).isSome = true ↔ ∃ s ∈ body, name ∈ s.valueNames := by
  rw [Entry.latestType?_isSome_iff, h.names.2, List.mem_map]
  simp only [Text.ofString_inj, exists_eq_right, List.mem_flatMap]

/-! ### The latest declaration -/

/-- What a name stands for: nothing, a class, or a value with the type recorded for it. -/
inductive Binding where
  | unbound
  | toClass
  | toValue (type : Text)
  deriving Repr, DecidableEq

namespace Binding

def nameType (name : String) : Binding → Text
  | .unbound => Known.unknown
  | .toClass => Text.ofString ("type[" ++ name ++ "]")
  | .toValue type => type

def callType (name : String) : Binding → Text
  | .unbound => Known.unknown
  | .toClass => Text.ofString name
  | .toValue _ => Known.unknown

end Binding

/-- What a name stands for after some statements, by the latest of them that binds it. -/
inductive BoundTo (aliases : Aliases) (body : List Stmt) (name : String) : Binding → Prop where
  | unbound : (∀ s ∈ body, ¬ s.Binds name) → BoundTo aliases body name .unbound
  | ofClass {earlier later inner : List Stmt} {head : ClassHead} : body = earlier ++ .class head inner :: later →
      head.name = name → (∀ s ∈ later, ¬ s.Binds name) → BoundTo aliases body name .toClass
  | ofValue {earlier later : List Stmt} {s : Stmt} {types values types' own : List Entry} {k k' : Known} {type : Text} :
      body = earlier ++ s :: later → DeclaresAll aliases .empty earlier types values k →
      Declares aliases k s types' own k' → Entry.latestType? own name = some type →
      (∀ s ∈ later, ¬ s.Binds name) → BoundTo aliases body name (.toValue type)

/-- The latest declaration is a class, and there is a value of the name before it. -/
def HidesValue (body : List Stmt) (name : String) (b : Binding) : Prop :=
  b = .toClass ∧ ∃ s ∈ body, name ∈ s.valueNames

/-- The latest declaration is a value, and there is a class of the name before it. -/
def HidesClass (body : List Stmt) (name : String) (b : Binding) : Prop :=
  (∃ type, b = .toValue type) ∧ ∃ s ∈ body, s.className? = some name

theorem DeclaresAll.unique {body : List Stmt} {types' values' : List Entry} {k₁ k₂ : Known}
    (h : DeclaresAll aliases k body types values k₁) (h' : DeclaresAll aliases k body types' values' k₂) :
    types = types' ∧ values = values' ∧ k₁ = k₂ := by
  have hrun := Declarations.foldlM_of_declaresAll h ⟨.empty, k⟩ rfl
  rw [Declarations.foldlM_of_declaresAll h' ⟨.empty, k⟩ rfl] at hrun
  simpa [Declarations.extend, Interface.empty, eq_comm, and_assoc] using hrun

def Known.Holds (k : Known) (name : String) : Binding → Prop
  | .unbound => k.values.lookup name = none ∧ name ∉ k.classes
  | .toClass => name ∈ k.classes
  | .toValue type => k.values.lookup name = some type

theorem not_binds_iff {body : List Stmt} : (∀ s ∈ body, ¬ s.Binds name) ↔
    (¬ ∃ s ∈ body, s.className? = some name) ∧ ¬ ∃ s ∈ body, name ∈ s.valueNames := by
  simp only [Stmt.Binds, not_or, not_exists, not_and, forall_and]

/-- Statements that do not bind a name leave what is known of it. -/
theorem DeclaresAll.frame {body : List Stmt} (h : DeclaresAll aliases k body types values k')
    (hbody : ∀ s ∈ body, ¬ s.Binds name) :
    k'.values.lookup name = k.values.lookup name ∧ (name ∈ k'.classes ↔ name ∈ k.classes) := by
  obtain ⟨hclasses, hvalues⟩ := not_binds_iff.mp hbody
  rw [← h.latestType?_isSome, Bool.not_eq_true, Option.isSome_eq_false_iff, Option.isNone_iff_eq_none] at hvalues
  rw [h.lookup_values, h.mem_classes, hvalues]
  simp [hclasses]

namespace BoundTo

variable {body : List Stmt} {b : Binding}

theorem append_singleton {s : Stmt} (h : BoundTo aliases body name b) (hs : ¬ s.Binds name) :
    BoundTo aliases (body ++ [s]) name b := by
  have hlater : ∀ {later : List Stmt}, (∀ s ∈ later, ¬ s.Binds name) → ∀ s' ∈ later ++ [s], ¬ s'.Binds name := by
    intro later hnone
    rw [List.forall_mem_append, List.forall_mem_singleton]
    exact ⟨hnone, hs⟩
  cases h with
  | unbound hnone => exact .unbound (hlater hnone)
  | ofClass hbody hname hnone => exact .ofClass (by rw [hbody, List.append_assoc]; rfl) hname (hlater hnone)
  | ofValue hbody hearlier hown htype hnone =>
    exact .ofValue (by rw [hbody, List.append_assoc]; rfl) hearlier hown htype (hlater hnone)

/-- Every name stands for something after statements that have been accepted. -/
theorem total (h : DeclaresAll aliases .empty body types values k) : ∃ b, BoundTo aliases body name b := by
  -- From the last statement backwards, up to one that binds the name.
  induction body using List.reverseRecOn generalizing types values k with
  | nil => exact ⟨.unbound, .unbound (by simp)⟩
  | append_singleton body s ih =>
    obtain ⟨types₁, values₁, k₁, types₂, values₂, hbody, hlast, -, -⟩ := h.split
    cases hlast with
    | cons hs _ =>
      by_cases hbinds : s.Binds name
      · rcases hbinds with hclass | hvalue
        · cases s with
          | «class» head inner =>
            exact ⟨.toClass, .ofClass rfl (Option.some.inj hclass) (by simp)⟩
          | _ => cases hclass
        · have hrecorded : Text.ofString name ∈ _ := List.mem_map_of_mem hvalue
          rw [← hs.names.2, ← Entry.latestType?_isSome_iff] at hrecorded
          obtain ⟨type, htype⟩ := Option.isSome_iff_exists.mp hrecorded
          exact ⟨.toValue type, .ofValue rfl hbody hs htype (by simp)⟩
      · obtain ⟨b, hb⟩ := ih hbody
        exact ⟨b, hb.append_singleton hbinds⟩

theorem known (h : DeclaresAll aliases .empty body types values k) (hb : BoundTo aliases body name b) :
    k.Holds name b := by
  cases hb with
  | unbound hnone =>
    obtain ⟨hlookup, hmem⟩ := h.frame hnone
    exact ⟨hlookup, fun hclass => absurd (hmem.mp hclass) (by simp [Known.empty])⟩
  | @ofClass earlier later inner head hbody hname hnone =>
    have hmem : .class head inner ∈ body := by
      rw [hbody]
      exact List.mem_append_right _ List.mem_cons_self
    exact (h.mem_classes name).mpr (.inl ⟨_, hmem, congrArg some hname⟩)
  | ofValue hbody hearlier hown htype hnone =>
    subst hbody
    obtain ⟨_, _, k₁, _, _, hbefore, hrest, -, -⟩ := h.split
    obtain ⟨-, -, rfl⟩ := hearlier.unique hbefore
    cases hrest with
    | cons hs hlater =>
      obtain ⟨-, hvalues, hknown⟩ := (DeclaresAll.cons hs .nil).unique (.cons hown .nil)
      rw [Known.Holds, (hlater.frame hnone).1, hknown, hown.lookup_values, htype]
      rfl

/-- A name has the type by its latest declaration, or by its latest value where a class hides that. -/
theorem infer_name (h : DeclaresAll aliases .empty body types values k) (hb : BoundTo aliases body name b) :
    (¬ HidesValue body name b → k.infer (.name name) = b.nameType name) ∧
    (HidesValue body name b → Entry.latestType? values name = some (k.infer (.name name))) := by
  have hlookup : k.values.lookup name = Entry.latestType? values name := by
    rw [h.lookup_values, Known.empty, List.lookup_nil, Option.or_none]
  have hknown := hb.known h
  have hsome := h.latestType?_isSome name
  rw [← hlookup] at hsome ⊢
  rw [Known.infer, Known.nameType]
  cases b with
  | unbound => simp [HidesValue, hknown.1, hknown.2, Binding.nameType]
  | toClass =>
    simp only [HidesValue, true_and, ← hsome, Binding.nameType]
    cases k.values.lookup name with
    | none => simp [show name ∈ k.classes from hknown]
    | some type => simp
  | toValue type => simp [HidesValue, show k.values.lookup name = some type from hknown, Binding.nameType]

/-- A call has the type by the latest declaration of the name, or that of a class hidden by a value. -/
theorem infer_call (h : DeclaresAll aliases .empty body types values k) (hb : BoundTo aliases body name b)
    (positional : Nat) (keywords : List (Option String)) (args : List Expr) :
    (¬ HidesClass body name b →
      k.infer (.node (.call positional keywords) (.name name :: args)) = b.callType name) ∧
    (HidesClass body name b →
      k.infer (.node (.call positional keywords) (.name name :: args)) = Text.ofString name) := by
  have hclasses : name ∈ k.classes ↔ ∃ s ∈ body, s.className? = some name := by
    rw [h.mem_classes]
    simp [Known.empty]
  have hknown := hb.known h
  rw [Known.infer]
  cases b with
  | unbound => simp [HidesClass, hknown.2, Binding.callType]
  | toClass => simp [HidesClass, show name ∈ k.classes from hknown, Binding.callType]
  | toValue type =>
    simp only [HidesClass, Binding.toValue.injEq, exists_eq', true_and, ← hclasses, Binding.callType]
    by_cases hmem : name ∈ k.classes
    · simp [hmem]
    · simp [hmem]

end BoundTo

/-! ### Assignments from names -/

namespace Environment

theorem interface_split {env : Environment} {body before after : List Stmt} {s : Stmt} {i : Interface}
    (hbody : body = before ++ s :: after) (h : env.interface body = .ok i) :
    ∃ types values k types₁ values₁ k₁ types₂ values₂ k₂,
      DeclaresAll (Aliases.ofBody body) .empty before types values k ∧
      Declares (Aliases.ofBody body) k s types₁ values₁ k₁ ∧
      DeclaresAll (Aliases.ofBody body) k₁ after types₂ values₂ k₂ ∧
      i = (Interface.mk (types ++ types₁ ++ types₂) (values ++ values₁ ++ values₂)).filter
        (env.exports (Exports.ofBody body)) := by
  obtain ⟨d, hd, hi⟩ := bind_eq_ok.mp h
  cases hi
  have hdeclares := Declarations.ofBody_declares hd
  nth_rewrite 2 [hbody] at hdeclares
  obtain ⟨types, values, k, types₂, values₂, hbefore, hrest, htypes, hvalues⟩ := hdeclares.split
  cases hrest with
  | cons hs hafter =>
    refine ⟨types, values, k, _, _, _, _, _, _, hbefore, hs, hafter, ?_⟩
    rw [List.append_assoc, ← htypes, List.append_assoc, ← hvalues]

/-- Names that are assigned a name or a call of one get the type by its latest declaration, unless this hides one of the
other kind: then a name still has the type of the value before the class, and a call that of the class before the
value. -/
theorem interface_binding {env : Environment} {body before after : List Stmt} {targets : List String} {value : Expr}
    {i : Interface} (hbody : body = before ++ .assign (targets.map .name) value :: after)
    (h : env.interface body = .ok i) (name : String) :
    (∀ module source, Parses source body →
      (Checker.python env).check module source = .ok (i, Comments.ofBody env body)) ∧
    (∃ b, BoundTo (Aliases.ofBody body) before name b) ∧
    ∃ types values k k' values' type,
      DeclaresAll (Aliases.ofBody body) .empty before types values k ∧
      Declares (Aliases.ofBody body) k (.assign (targets.map .name) value) []
        (targets.map fun x => Entry.inferred (x, type)) k' ∧
      i.values = (values ++ (targets.map fun x => Entry.inferred (x, type)) ++ values').filter
        (env.exports (Exports.ofBody body)) ∧
      ∀ b, BoundTo (Aliases.ofBody body) before name b →
        (value = .name name →
          (¬ HidesValue before name b → type = b.nameType name) ∧
          (HidesValue before name b → Entry.latestType? values name = some type)) ∧
        (∀ positional keywords args, value = .node (.call positional keywords) (.name name :: args) →
          (¬ HidesClass before name b → type = b.callType name) ∧
          (HidesClass before name b → type = Text.ofString name)) := by
  refine ⟨fun module _ hparses => Checker.python_check_of_interface hparses h module, ?_⟩
  obtain ⟨types, values, k, types₁, values₁, k₁, types₂, values₂, k₂, hbefore, hs, hafter, rfl⟩ :=
    interface_split hbody h
  -- All targets are names, so they all get the type inferred before the assignment.
  have hbound : Known.boundAll value k (targets.map .name) = targets.map fun x => (x, k.infer value) := by
    rw [Known.boundAll_of_names value k (by simp), List.flatMap_map, List.map_eq_flatMap]
    rfl
  obtain ⟨rfl, rfl, -⟩ := hs.of_assign
  rw [hbound, List.map_map] at hs ⊢
  refine ⟨BoundTo.total hbefore, types, values, k, k₁, values₂, k.infer value, hbefore, hs, rfl, ?_⟩
  intro b hb
  refine ⟨?_, ?_⟩
  · rintro rfl
    exact hb.infer_name hbefore
  · rintro positional keywords args rfl
    exact hb.infer_call hbefore positional keywords args

def hiddenBefore : List Stmt := [.assign [.name "x"] (.constant (.int 1)), .class ⟨"x", [], []⟩ []]

def hiddenBody : List Stmt := hiddenBefore ++ [.assign (["y"].map .name) (.name "x")]

theorem interface_binding_hidden :
    ∃ i type, (Environment.mk false true).interface hiddenBody = .ok i ∧
      i.values = [("x", Text.ofString "int"), ("y", type)].map Entry.inferred ∧
      BoundTo (Aliases.ofBody hiddenBody) hiddenBefore "x" .toClass ∧ HidesValue hiddenBefore "x" .toClass ∧
      type = Text.ofString "int" ∧ type ≠ Binding.toClass.nameType "x" := by
  have hinterface : (Environment.mk false true).interface hiddenBody =
      .ok ⟨[⟨Text.ofString "x", Text.ofString "class x", Text.ofString "class x"⟩],
        [("x", Text.ofString "int"), ("y", Text.ofString "int")].map Entry.inferred⟩ := by cbv
  have hsplit : hiddenBefore = [.assign [.name "x"] (.constant (.int 1))] ++ .class ⟨"x", [], []⟩ [] :: [] := rfl
  have hbound : BoundTo (Aliases.ofBody hiddenBody) hiddenBefore "x" .toClass := .ofClass hsplit rfl (by simp)
  have hhides : HidesValue hiddenBefore "x" .toClass :=
    ⟨rfl, .assign [.name "x"] (.constant (.int 1)), List.mem_cons_self, List.mem_cons_self⟩
  obtain ⟨-, -, types, values, k, k', values', type, hbefore, -, -, hlaw⟩ :=
    interface_binding (rfl : hiddenBody = _) hinterface "x"
  have hrecorded := ((hlaw _ hbound).1 rfl).2 hhides
  -- The type is that of the value, which the statements before declare.
  have hrun : DeclaresAll (Aliases.ofBody hiddenBody) .empty hiddenBefore _ _ _ :=
    .cons .ofAssignment (.cons (.ofClass rfl rfl) .nil)
  obtain ⟨-, rfl, -⟩ := hrun.unique hbefore
  have htype : type = Text.ofString "int" := (Option.some.inj hrecorded).symm
  subst htype
  exact ⟨_, _, hinterface, rfl, hbound, hhides, rfl, by decide⟩

end Environment

end ModuleDocs
