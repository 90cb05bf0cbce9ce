import ModuleDocs.Proofs.Interface.Exported

/-!
# The list of exports

What the name of the list of exports holds once the statements of a module have run, beside the names that the module is
taken to export. Where the name holds literal strings at the end, these are the exported names, unless one of the
statements that concern the list gives it something else or nothing at all.
-/

namespace ModuleDocs.Exports

open Source

/-! ### Running the statements -/

/-- The kinds of literals that hold strings. -/
inductive Sequence where
  | list
  | tuple
  deriving Repr, DecidableEq

def literal? : Expr → Option (Sequence × List Text)
  | .node .list es => (es.mapM Expr.string?).map (.list, ·)
  | .node .tuple es => (es.mapM Expr.string?).map (.tuple, ·)
  | _ => none

mutual

/-- Whether a target binds the name of the list, by itself or as a part. -/
def bindsList : Expr → Bool
  | .name id => id == listName
  | .node _ es => bindsListIn es
  | _ => false

def bindsListIn : List Expr → Bool
  | [] => false
  | e :: es => bindsList e || bindsListIn es

end

/-- What the name of the list holds, if that is a list or tuple of strings given by literals. -/
abbrev Held := Option (Sequence × List Text)

namespace Held

/-- A target gets a value. A part of a target gets a part of the value, which is no literal of its own. -/
def assign (value : Expr) (held : Held) (target : Expr) : Held :=
  if isListName target then literal? value else if bindsList target then none else held

/-- More is added in place: anything to a list, but only a tuple to a tuple. -/
def extend : Held → Held → Held
  | some (.list, names), some (_, more) => some (.list, names ++ more)
  | some (.tuple, names), some (.tuple, more) => some (.tuple, names ++ more)
  | _, _ => none

/-- A statement runs. An annotation without a value changes nothing. -/
def step (held : Held) : Stmt → Held
  | .assign targets value => targets.foldl (assign value) held
  | .annotated target _ (some value) => if isListName target then literal? value else held
  | .augmented target value => if isListName target then held.extend (literal? value) else held
  | _ => held

/-- What the name holds after all statements. -/
def afterBody (body : List Stmt) : Held := body.foldl step none

end Held

/-! ### Statements about the list -/

/-- The statement names the list as its target. -/
inductive Concerns : Stmt → Prop where
  | assign {targets : List Expr} {value : Expr} : .name listName ∈ targets → Concerns (.assign targets value)
  | annotated {type : Expr} {value : Option Expr} : Concerns (.annotated (.name listName) type value)
  | augmented {value : Expr} : Concerns (.augmented (.name listName) value)

/-- The statement concerns the list and gives it no literal strings: another value, or none. -/
inductive Spoils : Stmt → Prop where
  | assign {targets : List Expr} {value : Expr} : .name listName ∈ targets → literal? value = none →
      Spoils (.assign targets value)
  | bare {type : Expr} : Spoils (.annotated (.name listName) type none)
  | annotated {type value : Expr} : literal? value = none → Spoils (.annotated (.name listName) type (some value))
  | augmented {value : Expr} : literal? value = none → Spoils (.augmented (.name listName) value)

theorem isListName_iff {e : Expr} : isListName e = true ↔ e = .name listName := by
  cases e with
  | name id => simp [isListName]
  | _ => simp [isListName]

theorem any_isListName {targets : List Expr} : targets.any isListName = true ↔ .name listName ∈ targets := by
  simp [isListName_iff]

theorem strings?_eq (e : Expr) : strings? e = (literal? e).map Prod.snd := by
  unfold strings? Expr.elements? literal?
  split <;> simp [Function.comp_def]

theorem effect_assign {targets : List Expr} (value : Expr) (h : .name listName ∈ targets) :
    effect (.assign targets value) = .set ((literal? value).map Prod.snd) := by
  rw [effect, if_pos (any_isListName.mpr h), strings?_eq]

theorem effect_of_not_concerns {s : Stmt} (h : ¬ Concerns s) : effect s = .nothing := by
  cases s with
  | assign targets value =>
    rw [effect, if_neg fun hany => h (.assign (any_isListName.mp hany))]
  | annotated target type value =>
    refine if_neg fun hname => h ?_
    rw [isListName_iff.mp hname]
    exact .annotated
  | augmented target value =>
    refine if_neg fun hname => h ?_
    rw [isListName_iff.mp hname]
    exact .augmented
  | _ => rfl

theorem spoils_iff {s : Stmt} : Spoils s ↔ effect s = .set none ∨ effect s = .add none := by
  constructor
  · intro h
    cases h with
    | assign hmem hvalue => simp [effect_assign _ hmem, hvalue]
    | bare => exact .inl rfl
    | annotated hvalue => simp [effect, isListName, strings?_eq, hvalue]
    | augmented hvalue => simp [effect, isListName, strings?_eq, hvalue]
  · intro h
    by_cases hconcerns : Concerns s
    · cases hconcerns with
      | assign hmem => exact .assign hmem (by simpa [effect_assign _ hmem] using h)
      | @annotated type value =>
        cases value with
        | none => exact .bare
        | some v => exact .annotated (by simpa [effect, isListName, strings?_eq] using h)
      | augmented => exact .augmented (by simpa [effect, isListName, strings?_eq] using h)
    · simp [effect_of_not_concerns hconcerns] at h

theorem ofBody_eq_none_iff {body : List Stmt} : ofBody body = none ↔ ¬ Literal body := by
  rw [← ofBody_isSome_iff, Bool.not_eq_true, Option.isSome_eq_false_iff, Option.isNone_iff_eq_none]

theorem ofBody_of_spoils {body : List Stmt} {s : Stmt} (hs : s ∈ body) (hspoils : Spoils s) : ofBody body = none := by
  rw [ofBody_eq_none_iff]
  rintro ⟨-, hgives⟩
  have heffect := spoils_iff.mp hspoils
  have hsome : effect s ≠ .nothing := by
    intro hnothing
    simp [hnothing] at heffect
  obtain ⟨names, hnames⟩ := hgives s hs hsome
  rcases heffect with heffect | heffect <;> simp [Gives, heffect] at hnames

theorem ofBody_of_not_concerns {body : List Stmt} (h : ∀ s ∈ body, ¬ Concerns s) : ofBody body = none := by
  rw [ofBody_eq_none_iff]
  rintro ⟨⟨s, hs, heffect⟩, -⟩
  exact heffect (effect_of_not_concerns (h s hs))

/-! ### The names at the end -/

def Effect.apply (names : Option (List Text)) : Effect → Option (List Text)
  | .nothing => names
  | .set given => given
  | .add given => given.map (names.getD [] ++ ·)

theorem after_cons {s : Stmt} (h : ¬ Spoils s) (names : Option (List Text)) (rest : List Stmt) :
    after names (s :: rest) = after ((effect s).apply names) rest := by
  rw [spoils_iff, not_or] at h
  rw [after]
  cases heffect : effect s with
  | nothing => rfl
  | set given =>
    cases given with
    | none => exact absurd heffect h.1
    | some ns => rfl
  | add given =>
    cases given with
    | none => exact absurd heffect h.2
    | some ns => rfl

/-- The same names are listed as are held, if strings are. -/
def Agrees (held : Held) (names : Option (List Text)) : Prop :=
  ∀ sequence strings, held = some (sequence, strings) →
    ∃ listed, names = some listed ∧ ∀ name, name ∈ listed ↔ name ∈ strings

theorem agrees_literal (value : Expr) : Agrees (literal? value) ((literal? value).map Prod.snd) := by
  intro sequence strings hvalue
  exact ⟨strings, by rw [hvalue]; rfl, fun name => Iff.rfl⟩

theorem Held.foldl_assign {value : Expr} {targets : List Expr} {held : Held} {p : Sequence × List Text}
    (h : targets.foldl (assign value) held = some p) :
    .name listName ∈ targets ∧ literal? value = some p ∨ .name listName ∉ targets ∧ held = some p := by
  induction targets generalizing held with
  | nil => exact .inr ⟨List.not_mem_nil, h⟩
  | cons target rest ih =>
    rw [List.foldl_cons] at h
    rcases ih h with ⟨hmem, hvalue⟩ | ⟨hmem, hheld⟩
    · exact .inl ⟨List.mem_cons_of_mem _ hmem, hvalue⟩
    · by_cases hname : isListName target = true
      · rw [assign, if_pos hname] at hheld
        exact .inl ⟨isListName_iff.mp hname ▸ List.mem_cons_self, hheld⟩
      · have hne : .name listName ≠ target := fun heq => hname (isListName_iff.mpr heq.symm)
        rw [assign, if_neg hname] at hheld
        split at hheld
        · cases hheld
        · exact .inr ⟨by simp [hne, hmem], hheld⟩

theorem Held.extend_eq_some {held more : Held} {sequence : Sequence} {strings : List Text}
    (h : held.extend more = some (sequence, strings)) :
    ∃ names sequence' added, held = some (sequence, names) ∧ more = some (sequence', added) ∧
      strings = names ++ added := by
  unfold extend at h
  split at h
  · cases h
    exact ⟨_, _, _, rfl, rfl, rfl⟩
  · cases h
    exact ⟨_, _, _, rfl, rfl, rfl⟩
  · cases h

theorem Agrees.extend {held : Held} {names : Option (List Text)} (h : Agrees held names) (value : Expr) :
    Agrees (held.extend (literal? value)) (((literal? value).map Prod.snd).map (names.getD [] ++ ·)) := by
  intro sequence strings hheld
  obtain ⟨before, _, added, hbefore, hvalue, rfl⟩ := Held.extend_eq_some hheld
  obtain ⟨listed, rfl, hlisted⟩ := h _ _ hbefore
  refine ⟨listed ++ added, by rw [hvalue]; rfl, fun name => ?_⟩
  rw [List.mem_append, List.mem_append, hlisted]

theorem Agrees.step {held : Held} {names : Option (List Text)} {s : Stmt} (h : Agrees held names) (hs : ¬ Spoils s) :
    Agrees (held.step s) ((effect s).apply names) := by
  by_cases hconcerns : Concerns s
  · cases hconcerns with
    | @assign targets value hmem =>
      rw [effect_assign value hmem]
      intro sequence strings hheld
      rcases Held.foldl_assign hheld with ⟨-, hvalue⟩ | ⟨hnot, -⟩
      · exact agrees_literal value _ _ hvalue
      · exact absurd hmem hnot
    | @annotated type value =>
      cases value with
      | none => exact absurd .bare hs
      | some v =>
        have heffect : effect (.annotated (.name listName) type (some v)) = .set (strings? v) := rfl
        rw [heffect, strings?_eq]
        exact agrees_literal v
    | @augmented value =>
      have heffect : effect (.augmented (.name listName) value) = .add (strings? value) := rfl
      rw [heffect, strings?_eq]
      exact h.extend value
  · -- A statement that does not concern the list leaves it as it is, or binds its name to something else.
    rw [effect_of_not_concerns hconcerns]
    intro sequence strings hheld
    refine h sequence strings ?_
    cases s with
    | assign targets value =>
      rcases Held.foldl_assign hheld with ⟨hmem, -⟩ | ⟨-, hkept⟩
      · exact absurd (.assign hmem) hconcerns
      · exact hkept
    | annotated target type value =>
      cases value with
      | none => exact hheld
      | some v =>
        have hname : ¬ isListName target = true := fun hname => hconcerns (isListName_iff.mp hname ▸ .annotated)
        rwa [Held.step, if_neg hname] at hheld
    | augmented target value =>
      have hname : ¬ isListName target = true := fun hname => hconcerns (isListName_iff.mp hname ▸ .augmented)
      rwa [Held.step, if_neg hname] at hheld
    | _ => exact hheld

theorem Agrees.run {body : List Stmt} {held : Held} {names : Option (List Text)} (h : Agrees held names)
    (hbody : ∀ s ∈ body, ¬ Spoils s) : Agrees (body.foldl Held.step held) (after names body) := by
  induction body generalizing held names with
  | nil => exact h
  | cons s rest ih =>
    obtain ⟨hs, hrest⟩ := List.forall_mem_cons.mp hbody
    rw [List.foldl_cons, after_cons hs]
    exact ih (h.step hs) hrest

/-- A module without a statement about the list has none. Where the name of the list holds literal strings after all
statements have run, exactly these are listed if no statement about the list gives it anything but literal strings; as
soon as one does, or annotates it without a value, there is no list. -/
theorem ofBody_held (body : List Stmt) :
    ((∀ s ∈ body, ¬ Concerns s) → ofBody body = none) ∧
    ∀ sequence strings, Held.afterBody body = some (sequence, strings) →
      ((∀ s ∈ body, ¬ Spoils s) → ∃ listed, ofBody body = some listed ∧ ∀ name, name ∈ listed ↔ name ∈ strings) ∧
      ((∃ s ∈ body, Spoils s) → ofBody body = none) := by
  refine ⟨ofBody_of_not_concerns, fun sequence strings hheld => ⟨fun hnone => ?_, ?_⟩⟩
  · have hstart : Agrees none none := fun _ _ h => (nomatch h)
    exact hstart.run hnone sequence strings hheld
  · rintro ⟨s, hs, hspoils⟩
    exact ofBody_of_spoils hs hspoils

/-- The list is annotated, and then given a name. -/
def annotatedList : List Stmt :=
  [.annotated (.name listName) (.subscript (.name "list") (.name "str")) none,
    .assign [.name listName] (.node .list [.constant (.str "a" false)])]

/-- The list is given twice, the second time together with another name, and extended. -/
def extendedList : List Stmt :=
  [.assign [.name listName] (.node .tuple [.constant (.str "z" false)]),
    .assign [.name "names", .name listName] (.node .list [.constant (.str "a" false)]),
    .augmented (.name listName) (.node .tuple [.constant (.str "b" false), .constant (.str "a" false)])]

theorem ofBody_held_annotated :
    (Held.afterBody annotatedList = some (.list, [Text.ofString "a"]) ∧ ofBody annotatedList = none) ∧
    Held.afterBody extendedList = some (.list, [Text.ofString "a", Text.ofString "b", Text.ofString "a"]) ∧
    ∃ listed, ofBody extendedList = some listed ∧
      ∀ name, name ∈ listed ↔ name ∈ [Text.ofString "a", Text.ofString "b", Text.ofString "a"] := by
  have hannotated : Held.afterBody annotatedList = some (.list, [Text.ofString "a"]) := rfl
  have hextended : Held.afterBody extendedList =
      some (.list, [Text.ofString "a", Text.ofString "b", Text.ofString "a"]) := rfl
  have hspoils : ∀ s ∈ extendedList, ¬ Spoils s := by
    intro s hs
    rw [spoils_iff]
    simp only [extendedList, List.mem_cons, List.not_mem_nil, or_false] at hs
    rcases hs with rfl | rfl | rfl <;> simp [effect, isListName, strings?_eq, literal?, Expr.string?]
  exact ⟨⟨hannotated, ((ofBody_held annotatedList).2 _ _ hannotated).2 ⟨_, List.mem_cons_self, .bare⟩⟩, hextended,
    ((ofBody_held extendedList).2 _ _ hextended).1 hspoils⟩

end ModuleDocs.Exports
