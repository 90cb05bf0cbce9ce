import ModuleDocs.Interface.Check
import ModuleDocs.Proofs.Faults

/-!
# What a module declares

The entries of a module as rules: what each statement declares, given what is known from the statements before it.
The names that are declared can be read off the statements alone.
-/

namespace ModuleDocs

open Source

/-! ### Declared names -/

namespace Source.Stmt

/-- The types that a statement declares: a class, or an alias that is given a value. -/
def typeNames : Stmt → List String
  | .class head _ => [head.name]
  | .annotated (.name id) type (some _) => if isAliasMark type then [id] else []
  | _ => []

/-- The values that a statement declares: a function, an annotated name that is no alias, or the names that an
assignment binds. -/
def valueNames : Stmt → List String
  | .function head _ => [head.name]
  | .annotated (.name id) type _ => if isAliasMark type then [] else [id]
  | .assign targets _ => targets.flatMap targetNames
  | _ => []

end Source.Stmt

namespace Known

/-! ### Names bound by assignments -/

/-- The names that a target binds, with their types. -/
def bound (k : Known) (value : Expr) : Expr → List (String × Text)
  | .name id => [(id, k.infer value)]
  | .node .tuple es => k.unpack es value
  | .node .list es => k.unpack es value
  | _ => []

def addBound (k : Known) (bs : List (String × Text)) : Known := bs.foldl (fun k b => k.addValue b.1 b.2) k

/-- The names that some targets bind one after the other. -/
def boundAll (value : Expr) : Known → List Expr → List (String × Text)
  | _, [] => []
  | k, target :: rest => k.bound value target ++ boundAll value (k.addBound (k.bound value target)) rest

theorem addBound_append (k : Known) (bs cs : List (String × Text)) :
    k.addBound (bs ++ cs) = (k.addBound bs).addBound cs := List.foldl_append

/-- The name that an element of a target list binds. -/
def UnpackTarget.name? : UnpackTarget → Option String
  | .name id => some id
  | .starred id => id
  | .other => none

theorem unpack_names (k : Known) (es : List Expr) (value : Expr) :
    (k.unpack es value).map Prod.fst = es.filterMap fun e => (UnpackTarget.ofExpr e).name? := by
  have hindex : (es.map UnpackTarget.ofExpr).zipIdx.filterMap (UnpackTarget.name? ∘ Prod.fst) =
      es.filterMap fun e => (UnpackTarget.ofExpr e).name? := by
    rw [← List.filterMap_map, List.zipIdx_map_fst, List.filterMap_map]
    rfl
  rw [← hindex, unpack, List.map_filterMap]
  congr 1
  funext p
  -- Whatever type a name gets, it is bound by its own element.
  obtain ⟨t, i⟩ := p
  cases t with
  | name id => cases pairable? (es.map UnpackTarget.ofExpr) value <;> rfl
  | starred id => cases id <;> rfl
  | other => rfl

theorem ofExpr_name? (e : Expr) : (UnpackTarget.ofExpr e).name? = match e with
    | .name id => some id
    | .node .starred [.name id] => some id
    | _ => none := by
  unfold UnpackTarget.ofExpr
  split <;> simp_all [UnpackTarget.name?]

theorem bound_names (k : Known) (value target : Expr) :
    (k.bound value target).map Prod.fst = targetNames target := by
  unfold bound targetNames
  split
  · rfl
  · rw [unpack_names]
    exact congrArg (List.filterMap · _) (funext ofExpr_name?)
  · rw [unpack_names]
    exact congrArg (List.filterMap · _) (funext ofExpr_name?)
  · simp_all

theorem boundAll_names (value : Expr) (k : Known) (targets : List Expr) :
    (boundAll value k targets).map Prod.fst = targets.flatMap targetNames := by
  induction targets generalizing k with
  | nil => rfl
  | cons target rest ih => rw [boundAll, List.map_append, bound_names, ih, List.flatMap_cons]

end Known

/-! ### Rules for statements -/

/-- The entry of a name whose type has been inferred. -/
def Entry.inferred (b : String × Text) : Entry := ⟨Text.ofString b.1, b.2, b.2⟩

/-- What a statement declares: its types and values, and what is known after it. -/
inductive Declares (aliases : Aliases) (k : Known) : Stmt → List Entry → List Entry → Known → Prop where
  | ofClass {head : ClassHead} {body : List Stmt} {u r : String} :
      Signature.ofClass Signature.asWritten head = .ok u → Signature.ofClass aliases.text head = .ok r →
      Declares aliases k (.class head body) [⟨Text.ofString head.name, Text.ofString u, Text.ofString r⟩] []
        (k.addClass head.name)
  | ofFunction {head : FunctionHead} {body : List Stmt} {u r : String} :
      Signature.ofFunction Signature.asWritten head = .ok u → Signature.ofFunction aliases.text head = .ok r →
      Declares aliases k (.function head body) [] [⟨Text.ofString head.name, Text.ofString u, Text.ofString r⟩]
        (k.addValue head.name (Text.ofString r))
  | ofAlias {id : String} {type value : Expr} {u r : String} : isAliasMark type = true →
      Signature.asWritten value = .ok u → aliases.text value = .ok r →
      Declares aliases k (.annotated (.name id) type (some value))
        [⟨Text.ofString id, Text.ofString u, Text.ofString r⟩] [] k
  | ofVariable {id : String} {type : Expr} {value : Option Expr} {u r : String} : isAliasMark type = false →
      Signature.asWritten type = .ok u → aliases.text type = .ok r →
      Declares aliases k (.annotated (.name id) type value) []
        [⟨Text.ofString id, Text.ofString u, Text.ofString r⟩] (k.addValue id (Text.ofString r))
  | ofAssignment {targets : List Expr} {value : Expr} :
      Declares aliases k (.assign targets value) [] ((Known.boundAll value k targets).map Entry.inferred)
        (k.addBound (Known.boundAll value k targets))
  | nothing {s : Stmt} : s.typeNames = [] → s.valueNames = [] → Declares aliases k s [] [] k

/-- What some statements declare one after the other. -/
inductive DeclaresAll (aliases : Aliases) : Known → List Stmt → List Entry → List Entry → Known → Prop where
  | nil {k : Known} : DeclaresAll aliases k [] [] [] k
  | cons {k k' k'' : Known} {s : Stmt} {rest : List Stmt} {types values types' values' : List Entry} :
      Declares aliases k s types values k' → DeclaresAll aliases k' rest types' values' k'' →
      DeclaresAll aliases k (s :: rest) (types ++ types') (values ++ values') k''

variable {aliases : Aliases}

theorem Declares.names {k k' : Known} {s : Stmt} {types values : List Entry}
    (h : Declares aliases k s types values k') :
    types.map Entry.name = s.typeNames.map Text.ofString ∧ values.map Entry.name = s.valueNames.map Text.ofString := by
  cases h with
  | ofClass => exact ⟨rfl, rfl⟩
  | ofFunction => exact ⟨rfl, rfl⟩
  | ofAlias hmark => simp [Stmt.typeNames, Stmt.valueNames, hmark]
  | ofVariable hmark => cases ‹Option Expr› <;> simp [Stmt.typeNames, Stmt.valueNames, hmark]
  | ofAssignment =>
    refine ⟨rfl, ?_⟩
    rw [Stmt.valueNames, ← Known.boundAll_names, List.map_map, List.map_map]
    rfl
  | nothing htypes hvalues => exact ⟨by rw [htypes]; rfl, by rw [hvalues]; rfl⟩

/-- The names of all declarations, in the order of the statements. -/
theorem DeclaresAll.names {k k' : Known} {body : List Stmt} {types values : List Entry}
    (h : DeclaresAll aliases k body types values k') :
    types.map Entry.name = (body.flatMap Stmt.typeNames).map Text.ofString ∧
      values.map Entry.name = (body.flatMap Stmt.valueNames).map Text.ofString := by
  induction h with
  | nil => exact ⟨rfl, rfl⟩
  | cons hs _ ih =>
    obtain ⟨htypes, hvalues⟩ := hs.names
    simp only [List.map_append, List.flatMap_cons, htypes, hvalues, ih.1, ih.2, and_self]

theorem DeclaresAll.mem {k k' : Known} {body : List Stmt} {types values : List Entry}
    (h : DeclaresAll aliases k body types values k') {s : Stmt} (hs : s ∈ body) :
    ∃ k₁ types₁ values₁ k₂, Declares aliases k₁ s types₁ values₁ k₂ := by
  induction h with
  | nil => cases hs
  | cons hfirst _ ih =>
    rcases List.mem_cons.mp hs with rfl | hs
    · exact ⟨_, _, _, _, hfirst⟩
    · exact ih hs

theorem DeclaresAll.split {k k' : Known} {before after : List Stmt} {types values : List Entry}
    (h : DeclaresAll aliases k (before ++ after) types values k') :
    ∃ types₁ values₁ k₁ types₂ values₂, DeclaresAll aliases k before types₁ values₁ k₁ ∧
      DeclaresAll aliases k₁ after types₂ values₂ k' ∧ types = types₁ ++ types₂ ∧ values = values₁ ++ values₂ := by
  induction before generalizing k types values with
  | nil => exact ⟨[], [], k, types, values, .nil, h, rfl, rfl⟩
  | cons s before ih =>
    cases h with
    | cons hs hrest =>
      obtain ⟨types₁, values₁, k₁, types₂, values₂, hbefore, hafter, rfl, rfl⟩ := ih hrest
      exact ⟨_, _, k₁, types₂, values₂, .cons hs hbefore, hafter, by simp, by simp⟩

/-! ### Declarations follow the rules -/

namespace Declarations

theorem foldl_addInferred (bs : List (String × Text)) (d : Declarations) :
    bs.foldl addInferred d =
      ⟨⟨d.interface.types, d.interface.values ++ bs.map Entry.inferred⟩, d.known.addBound bs⟩ := by
  induction bs generalizing d with
  | nil => simp [Known.addBound]
  | cons b bs ih =>
    rw [List.foldl_cons, ih]
    simp [addInferred, addValue, Known.addBound, Entry.inferred]

theorem addTarget_eq (value : Expr) (d : Declarations) (target : Expr) :
    addTarget value d target = (d.known.bound value target).foldl addInferred d := by
  unfold addTarget Known.bound
  split <;> simp_all

theorem foldl_addTarget (value : Expr) (targets : List Expr) (d : Declarations) :
    targets.foldl (addTarget value) d =
      ⟨⟨d.interface.types, d.interface.values ++ (Known.boundAll value d.known targets).map Entry.inferred⟩,
        d.known.addBound (Known.boundAll value d.known targets)⟩ := by
  induction targets generalizing d with
  | nil => simp [Known.boundAll, Known.addBound]
  | cons target rest ih =>
    rw [List.foldl_cons, ih, addTarget_eq, foldl_addInferred]
    simp [Known.boundAll, Known.addBound_append]

theorem texts_eq_ok {write : Signature.Writer → Except AnnotationFault String} {p : Text × Text} :
    texts aliases write = .ok p ↔ ∃ u r, write Signature.asWritten = .ok u ∧ write aliases.text = .ok r ∧
      p = (Text.ofString u, Text.ofString r) := by
  simp only [texts, bind_eq_ok, pure, Except.pure, Except.ok.injEq, exists_and_left, @eq_comm _ p]

/-- A declaration that ends in the texts of an annotation. -/
theorem bind_texts_eq_ok {write : Signature.Writer → Except AnnotationFault String}
    {declare : Text × Text → Declarations} {d : Declarations} (h : (do
      let p ← texts aliases write
      return declare p) = .ok d) :
    ∃ u r, write Signature.asWritten = .ok u ∧ write aliases.text = .ok r ∧
      d = declare (Text.ofString u, Text.ofString r) := by
  obtain ⟨p, hp, hd⟩ := bind_eq_ok.mp h
  obtain ⟨u, r, hu, hr, rfl⟩ := texts_eq_ok.mp hp
  cases hd
  exact ⟨u, r, hu, hr, rfl⟩

/-- The declarations so far with those of one more statement. -/
def extend (d : Declarations) (types values : List Entry) (k : Known) : Declarations :=
  ⟨⟨d.interface.types ++ types, d.interface.values ++ values⟩, k⟩

theorem extend_nil (d : Declarations) : d.extend [] [] d.known = d := by simp [extend]

theorem add_declares {d d' : Declarations} {s : Stmt} (h : add aliases d s = .ok d') :
    ∃ types values k, Declares aliases d.known s types values k ∧ d' = d.extend types values k := by
  unfold add at h
  split at h
  case h_1 head body =>
    obtain ⟨u, r, hu, hr, rfl⟩ := bind_texts_eq_ok h
    exact ⟨_, _, _, .ofClass hu hr, by simp [extend, addType]⟩
  case h_2 head body =>
    obtain ⟨u, r, hu, hr, rfl⟩ := bind_texts_eq_ok h
    exact ⟨_, _, _, .ofFunction hu hr, by simp [extend, addValue]⟩
  case h_3 id type value =>
    split at h
    · rename_i hmark
      split at h
      · obtain ⟨u, r, hu, hr, rfl⟩ := bind_texts_eq_ok h
        exact ⟨_, _, _, .ofAlias hmark hu hr, by simp [extend, addType]⟩
      · cases h
        exact ⟨_, _, _, .nothing rfl (by simp [Stmt.valueNames, hmark]), d.extend_nil.symm⟩
    · rename_i hmark
      obtain ⟨u, r, hu, hr, rfl⟩ := bind_texts_eq_ok h
      exact ⟨_, _, _, .ofVariable (by simpa using hmark) hu hr, by simp [extend, addValue]⟩
  case h_4 targets value =>
    cases h
    exact ⟨_, _, _, .ofAssignment, by simp [foldl_addTarget, extend]⟩
  case h_5 hclass hfunction hannotated hassign =>
    cases h
    refine ⟨_, _, _, .nothing ?_ ?_, d.extend_nil.symm⟩
    · unfold Stmt.typeNames
      split <;> simp_all
    · unfold Stmt.valueNames
      split <;> simp_all

theorem foldlM_declares {body : List Stmt} {d d' : Declarations} (h : body.foldlM (add aliases) d = .ok d') :
    ∃ types values k, DeclaresAll aliases d.known body types values k ∧ d' = d.extend types values k := by
  induction body generalizing d with
  | nil =>
    cases h
    exact ⟨[], [], _, .nil, (extend_nil _).symm⟩
  | cons s rest ih =>
    rw [List.foldlM_cons] at h
    obtain ⟨d₁, hs, hrest⟩ := bind_eq_ok.mp h
    obtain ⟨types, values, k, hdeclares, rfl⟩ := add_declares hs
    obtain ⟨types', values', k', hall, rfl⟩ := ih hrest
    exact ⟨_, _, _, .cons hdeclares hall, by simp [extend]⟩

theorem ofBody_declares {body : List Stmt} {d : Declarations} (h : ofBody body = .ok d) :
    DeclaresAll (Aliases.ofBody body) .empty body d.interface.types d.interface.values d.known := by
  obtain ⟨types, values, k, hall, rfl⟩ := foldlM_declares h
  exact hall

/-! ### What follows the rules is declared -/

theorem texts_of_ok {write : Signature.Writer → Except AnnotationFault String} {u r : String}
    (hu : write Signature.asWritten = .ok u) (hr : write aliases.text = .ok r) :
    texts aliases write = .ok (Text.ofString u, Text.ofString r) :=
  texts_eq_ok.mpr ⟨u, r, hu, hr, rfl⟩

theorem add_of_no_names (d : Declarations) {s : Stmt} (htypes : s.typeNames = []) (hvalues : s.valueNames = []) :
    add aliases d s = .ok d := by
  cases s with
  | function head body => cases hvalues
  | «class» head body => cases htypes
  | annotated target type value =>
    cases target with
    | name id =>
      cases hmark : isAliasMark type with
      | false => simp [Stmt.valueNames, hmark] at hvalues
      | true =>
        cases value with
        | none => rw [add, if_pos hmark]
        | some v => simp [Stmt.typeNames, hmark] at htypes
    | _ => rfl
  | assign targets value =>
    have hnames := Known.boundAll_names value d.known targets
    rw [show targets.flatMap targetNames = [] from hvalues, List.map_eq_nil_iff] at hnames
    rw [add, foldl_addTarget, hnames]
    simp [Known.addBound]
  | _ => rfl

theorem add_of_declares {d : Declarations} {s : Stmt} {types values : List Entry} {k : Known}
    (h : Declares aliases d.known s types values k) : add aliases d s = .ok (d.extend types values k) := by
  cases h with
  | ofClass hu hr =>
    rw [add, texts_of_ok hu hr]
    simp [bind, Except.bind, pure, Except.pure, extend, addType]
  | ofFunction hu hr =>
    rw [add, texts_of_ok hu hr]
    simp [bind, Except.bind, pure, Except.pure, extend, addValue]
  | ofAlias hmark hu hr =>
    rw [add, if_pos hmark]
    dsimp only
    rw [texts_of_ok hu hr]
    simp [bind, Except.bind, pure, Except.pure, extend, addType]
  | ofVariable hmark hu hr =>
    unfold add
    simp only [hmark, Bool.false_eq_true, if_false]
    rw [texts_of_ok hu hr]
    simp [bind, Except.bind, pure, Except.pure, extend, addValue]
  | ofAssignment =>
    rw [add, foldl_addTarget]
    simp [extend]
  | nothing htypes hvalues => rw [extend_nil, add_of_no_names d htypes hvalues]

theorem foldlM_of_declaresAll {body : List Stmt} {types values : List Entry} {k k' : Known}
    (h : DeclaresAll aliases k body types values k') (d : Declarations) (hknown : d.known = k) :
    body.foldlM (add aliases) d = .ok (d.extend types values k') := by
  induction h generalizing d with
  | nil =>
    subst hknown
    rw [extend_nil]
    rfl
  | cons hs _ ih =>
    subst hknown
    rw [List.foldlM_cons, add_of_declares hs]
    refine (ih (d.extend _ _ _) rfl).trans ?_
    simp [extend]

end Declarations

end ModuleDocs
