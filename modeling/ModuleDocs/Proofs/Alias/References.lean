import ModuleDocs.Alias.Expansion
import ModuleDocs.Proofs.Faults
import ModuleDocs.Proofs.Source.Flaw
import ModuleDocs.Proofs.Text.Encoding

/-!
# Forward references met by an expansion

An expansion reads the string constants that it comes upon: those of the expression that stand in the place of a type,
and those of the aliases and forward references that it puts in their place. It fails when one of them cannot be read.
-/

namespace ModuleDocs

open Source

/-! ### Texts that cannot be read -/

/-- Why a text cannot be read as source. -/
def Unreadable (t : Text) : ReferenceFault → Prop
  | .nullCharacter => t.HasEncoding ∧ CodePoint.ofChar '\x00' ∈ t
  | .surrogates f => t.strip.toUtf8 = .error f

theorem null_mem_iff {t : Text} {cs : List Char} (h : t.strip.toChars? = some cs) :
    '\x00' ∈ cs ↔ CodePoint.ofChar '\x00' ∈ t := by
  rw [← Text.mem_strip (by decide), Text.map_ofChar_of_toChars? h]
  constructor
  · exact List.mem_map_of_mem
  · intro hmem
    obtain ⟨c, hc, heq⟩ := List.mem_map.mp hmem
    have hchar := congrArg CodePoint.toChar? heq
    rw [CodePoint.toChar?_ofChar, CodePoint.toChar?_ofChar] at hchar
    cases hchar
    exact hc

theorem readReference_error {t : Text} {f : ReferenceFault} : readReference t = .error f ↔ Unreadable t f := by
  unfold readReference
  dsimp only
  split
  · rename_i g hutf8
    -- A surrogate is met before anything else is looked at.
    have henc : ¬ t.HasEncoding := by
      rw [← Text.hasEncoding_strip]
      exact (Text.toUtf8_error_iff _).mp ⟨g, hutf8⟩
    cases f with
    | nullCharacter => simp [Unreadable, henc]
    | surrogates f => simp [Unreadable, hutf8]
  · rename_i bytes hutf8 hchars
    have henc := (Text.toUtf8_ok_iff _).mp ⟨bytes, hutf8⟩
    obtain ⟨cs, hcs⟩ := Text.hasEncoding_iff.mp henc
    rw [hchars] at hcs
    cases hcs
  · rename_i bytes cs hutf8 hchars
    have henc : t.HasEncoding := Text.hasEncoding_strip.mp ((Text.toUtf8_ok_iff _).mp ⟨bytes, hutf8⟩)
    cases f with
    | nullCharacter =>
      by_cases hnull : CodePoint.ofChar '\x00' ∈ t <;> simp [Unreadable, henc, null_mem_iff hchars, hnull]
    | surrogates f =>
      by_cases hnull : CodePoint.ofChar '\x00' ∈ t <;> simp [Unreadable, hutf8, null_mem_iff hchars, hnull]

namespace Alias

/-- The arguments of a subscript that are types, given the expansion of what is subscripted. -/
def typeArguments (base s : Expr) : List Expr :=
  if base.baseName? = some "Literal" then []
  else if base.baseName? = some "Annotated" then
    match s with
    | .node .tuple (e :: _) => [e]
    | other => [other]
  else [s]

/-- The string constants that an expansion reads while the names in `active` are being expanded. -/
inductive Meets (read : Reader) (aliases : Aliases) : List String → Expr → Text → Prop where
  | here {active : List String} {t : Text} {marked : Bool} : Meets read aliases active (.constant (.str t marked)) t
  | reference {active : List String} {t u : Text} {marked : Bool} {e : Expr} : read t = .ok (some e) →
      e.longest < t.length → Meets read aliases active e u → Meets read aliases active (.constant (.str t marked)) u
  | definition {active : List String} {id : String} {body : Expr} {u : Text} : aliases.get? id = some body →
      id ∉ active → Meets read aliases (id :: active) body u → Meets read aliases active (.name id) u
  | member {active : List String} {v : Expr} {attr : String} {u : Text} :
      Meets read aliases active v u → Meets read aliases active (.member v attr) u
  | base {active : List String} {v s : Expr} {u : Text} :
      Meets read aliases active v u → Meets read aliases active (.subscript v s) u
  | argument {active : List String} {v w s e : Expr} {u : Text} : expand read aliases active v = .ok w →
      e ∈ typeArguments w s → Meets read aliases active e u → Meets read aliases active (.subscript v s) u
  | child {active : List String} {shape : Shape} {es : List Expr} {e : Expr} {u : Text} :
      e ∈ es → Meets read aliases active e u → Meets read aliases active (.node shape es) u

variable {read : Reader} {aliases : Aliases} {active : List String}

/-- The faults of the string constants that an expansion reads. -/
def Stumbles (read : Reader) (aliases : Aliases) (active : List String) (e : Expr) (f : ReferenceFault) : Prop :=
  ∃ t, Meets read aliases active e t ∧ read t = .error f

theorem not_stumbles_of_not_meets {e : Expr} {f : ReferenceFault} (h : ∀ t, ¬ Meets read aliases active e t) :
    ¬ Stumbles read aliases active e f := by
  rintro ⟨t, hmeets, _⟩
  exact h t hmeets

theorem stumbles_definition {id : String} {body : Expr} {f : ReferenceFault} (hget : aliases.get? id = some body)
    (hactive : id ∉ active) :
    Stumbles read aliases active (.name id) f ↔ Stumbles read aliases (id :: active) body f := by
  constructor
  · rintro ⟨t, hmeets, hread⟩
    cases hmeets with
    | definition hget' _ hbody =>
      rw [hget] at hget'
      cases hget'
      exact ⟨t, hbody, hread⟩
  · rintro ⟨t, hbody, hread⟩
    exact ⟨t, .definition hget hactive hbody, hread⟩

theorem stumbles_str {t : Text} {marked : Bool} {f : ReferenceFault} :
    Stumbles read aliases active (.constant (.str t marked)) f ↔ read t = .error f ∨
      ∃ e, read t = .ok (some e) ∧ e.longest < t.length ∧ Stumbles read aliases active e f := by
  constructor
  · rintro ⟨u, hmeets, hread⟩
    cases hmeets with
    | here => exact .inl hread
    | reference he hshort hmeets => exact .inr ⟨_, he, hshort, u, hmeets, hread⟩
  · rintro (hread | ⟨e, he, hshort, u, hmeets, hread⟩)
    · exact ⟨t, .here, hread⟩
    · exact ⟨u, .reference he hshort hmeets, hread⟩

theorem stumbles_member {v : Expr} {attr : String} {f : ReferenceFault} :
    Stumbles read aliases active (.member v attr) f ↔ Stumbles read aliases active v f := by
  constructor
  · rintro ⟨t, hmeets, hread⟩
    cases hmeets with
    | member hv => exact ⟨t, hv, hread⟩
  · rintro ⟨t, hv, hread⟩
    exact ⟨t, .member hv, hread⟩

theorem stumbles_subscript {v s : Expr} {f : ReferenceFault} :
    Stumbles read aliases active (.subscript v s) f ↔ Stumbles read aliases active v f ∨
      ∃ w, expand read aliases active v = .ok w ∧ ∃ e ∈ typeArguments w s, Stumbles read aliases active e f := by
  constructor
  · rintro ⟨t, hmeets, hread⟩
    cases hmeets with
    | base hv => exact .inl ⟨t, hv, hread⟩
    | argument hw he hmeets => exact .inr ⟨_, hw, _, he, t, hmeets, hread⟩
  · rintro (⟨t, hv, hread⟩ | ⟨w, hw, e, he, t, hmeets, hread⟩)
    · exact ⟨t, .base hv, hread⟩
    · exact ⟨t, .argument hw he hmeets, hread⟩

theorem stumbles_node {shape : Shape} {es : List Expr} {f : ReferenceFault} :
    Stumbles read aliases active (.node shape es) f ↔ ∃ e ∈ es, Stumbles read aliases active e f := by
  constructor
  · rintro ⟨t, hmeets, hread⟩
    cases hmeets with
    | child he hmeets => exact ⟨_, he, t, hmeets, hread⟩
  · rintro ⟨e, he, t, hmeets, hread⟩
    exact ⟨t, .child he hmeets, hread⟩

/-! ### The expansion fails on what it reads only -/

theorem typeArguments_le {w s e : Expr} (he : e ∈ typeArguments w s) :
    e.longest ≤ s.longest ∧ sizeOf e ≤ sizeOf s := by
  unfold typeArguments at he
  split at he
  · cases he
  · split at he
    · split at he
      · cases List.mem_singleton.mp he
        simp only [Expr.longest, Expr.longestOf, Expr.node.sizeOf_spec, List.cons.sizeOf_spec]
        omega
      · cases List.mem_singleton.mp he
        exact ⟨Nat.le_refl _, Nat.le_refl _⟩
    · cases List.mem_singleton.mp he
      exact ⟨Nat.le_refl _, Nat.le_refl _⟩

theorem subscript_failsOn {v s : Expr} (hv : FailsOn (expand read aliases active v) (Stumbles read aliases active v))
    (hs : ∀ w, ∀ e ∈ typeArguments w s, FailsOn (expand read aliases active e) (Stumbles read aliases active e)) :
    FailsOn (expand read aliases active (.subscript v s)) (Stumbles read aliases active (.subscript v s)) := by
  rw [expand]
  refine (hv.bind fun w hw => ?_).congr fun f => stumbles_subscript.symm
  -- The arguments are those of the one expansion that the base has.
  simp only [hw, Except.ok.injEq, exists_eq_left']
  have harguments := hs w
  unfold typeArguments at harguments ⊢
  split
  · exact (FailsOn.ok _).congr fun f => by simp
  · rename_i hliteral
    rw [if_neg hliteral] at harguments
    split
    · rename_i hannotated
      rw [if_pos hannotated] at harguments
      split
      · exact (harguments _ (List.mem_singleton_self _)).map.congr fun f => by simp
      · rename_i hother
        split at harguments
        · exact (hother _ _ rfl).elim
        · exact (harguments _ (List.mem_singleton_self _)).map.congr fun f => by simp
    · rename_i hannotated
      rw [if_neg hannotated] at harguments
      exact (harguments _ (List.mem_singleton_self _)).map.congr fun f => by simp

mutual

theorem expand_failsOn (read : Reader) (aliases : Aliases) (active : List String) (e : Expr) :
    FailsOn (expand read aliases active e) (Stumbles read aliases active e) := by
  match e with
  | .name id =>
    rw [expand]
    split
    · rename_i hget
      refine (FailsOn.ok _).congr fun f => ⟨False.elim, not_stumbles_of_not_meets fun t hmeets => ?_⟩
      cases hmeets with
      | definition hget' => simp [hget] at hget'
    · split
      · rename_i hactive
        refine (FailsOn.ok _).congr fun f => ⟨False.elim, not_stumbles_of_not_meets fun t hmeets => ?_⟩
        cases hmeets with
        | definition _ hidle => exact hidle hactive
      · rename_i body hget hactive
        exact (expand_failsOn read aliases (id :: active) body).congr fun f => (stumbles_definition hget hactive).symm
  | .constant c =>
    cases c with
    | str t marked =>
      rw [expand]
      split
      · rename_i g hread
        exact (FailsOn.error _).congr fun f => by simp [stumbles_str, hread, eq_comm]
      · rename_i hread
        exact (FailsOn.ok _).congr fun f => by simp [stumbles_str, hread]
      · rename_i e hread
        split
        · rename_i hshort
          exact (expand_failsOn read aliases active e).congr fun f => by simp [stumbles_str, hread, hshort]
        · rename_i hlong
          exact (FailsOn.ok _).congr fun f => by simp [stumbles_str, hread, hlong]
    | _ =>
      rw [expand]
      · exact (FailsOn.ok _).congr fun f =>
          ⟨False.elim, not_stumbles_of_not_meets fun t hmeets => by cases hmeets⟩
      · simp
  | .member v attr =>
    rw [expand]
    exact (expand_failsOn read aliases active v).map.congr fun f => stumbles_member.symm
  | .subscript v s =>
    exact subscript_failsOn (expand_failsOn read aliases active v) fun w e he =>
      have _ := typeArguments_le he
      expand_failsOn read aliases active e
  | .node shape es =>
    rw [expand]
    exact (expandAll_failsOn read aliases active es).map.congr fun f => stumbles_node.symm
-- The measure of the expansion: an alias is expanded once, and a reference is longer than all that is read from it.
termination_by (aliases.idle active, e.longest, sizeOf e)
decreasing_by
  · exact Prod.Lex.left _ _ (Aliases.idle_cons_lt ‹_› ‹_›)
  · exact Prod.Lex.right _ (Prod.Lex.left _ _ (by simpa [Source.Expr.longest] using ‹_›))
  all_goals exact lex_step (by simp [Source.Expr.longest]; try omega) (by simp; try omega)

theorem expandAll_failsOn (read : Reader) (aliases : Aliases) (active : List String) (es : List Expr) :
    FailsOn (expandAll read aliases active es) fun f => ∃ e ∈ es, Stumbles read aliases active e f := by
  match es with
  | [] =>
    rw [expandAll]
    exact (FailsOn.ok _).congr fun f => by simp
  | e :: es =>
    rw [expandAll]
    refine ((expand_failsOn read aliases active e).bind fun d _ =>
      (expandAll_failsOn read aliases active es).map).congr fun f => ?_
    simp
termination_by (aliases.idle active, Source.Expr.longestOf es, sizeOf es)
decreasing_by
  all_goals exact lex_step (by simp [Source.Expr.longestOf]; try omega) (by simp; try omega)

end

end Alias

end ModuleDocs
