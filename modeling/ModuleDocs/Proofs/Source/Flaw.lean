import ModuleDocs.Proofs.Faults
import ModuleDocs.Source.Expr.Printer

/-!
# Expressions without a text

Which expressions have no text: the flaws that keep the printer from writing one, wherever they are in the expression.
Neither the place of the expression nor the care that is taken with backslashes matters to them.
-/

namespace ModuleDocs.Source.Expr

def isPart : Expr → Bool
  | constant (.str _ _) => true
  | node .formatted _ => true
  | node (.interpolation _ _) (_ :: _) => true
  | _ => false

mutual

/-- What keeps an expression from having a text. -/
inductive Flaw : Expr → Unprintable → Prop where
  | longInteger {n : Nat} : maxPrintedDigits < (Nat.repr n).length → Flaw (.constant (.int n)) .longInteger
  | member {v : Expr} {attr : String} {f : Unprintable} : Flaw v f → Flaw (.member v attr) f
  | base {v s : Expr} {f : Unprintable} : Flaw v f → Flaw (.subscript v s) f
  | slice {v s : Expr} {f : Unprintable} : Flaw s f → Flaw (.subscript v s) f
  | child {shape : Shape} {es : List Expr} {e : Expr} {f : Unprintable} :
      shape ≠ .formatted → e ∈ es → Flaw e f → Flaw (.node shape es) f
  | part {parts : List Expr} {e : Expr} {f : Unprintable} :
      e ∈ parts → PartFlaw e f → Flaw (.node .formatted parts) f

/-- What keeps a part of a formatted string from having a text. -/
inductive PartFlaw : Expr → Unprintable → Prop where
  | alien {e : Expr} : e.isPart = false → PartFlaw e (.part e.kind)
  | nested {parts : List Expr} {e : Expr} {f : Unprintable} :
      e ∈ parts → PartFlaw e f → PartFlaw (.node .formatted parts) f
  | value {conversion : Option Char} {hasFormat : Bool} {v : Expr} {format : List Expr} {f : Unprintable} :
      Flaw v f → PartFlaw (.node (.interpolation conversion hasFormat) (v :: format)) f
  | backslash {conversion : Option Char} {hasFormat : Bool} {v : Expr} {format : List Expr} {t : String} :
      v.print true Precedence.test.next = .ok t → '\\' ∈ t.toList →
      PartFlaw (.node (.interpolation conversion hasFormat) (v :: format)) .backslash
  | format {conversion : Option Char} {hasFormat : Bool} {v e : Expr} {format : List Expr} {f : Unprintable} :
      e ∈ format → PartFlaw e f → PartFlaw (.node (.interpolation conversion hasFormat) (v :: format)) f

end

theorem constant_failsOn (careful : Bool) (c : Constant) : FailsOn (c.text careful) (Flaw (.constant c)) := by
  have none_iff : ∀ {c : Constant}, (∀ n, c ≠ .int n) → ∀ f, False ↔ Flaw (.constant c) f := by
    intro c hc f
    refine ⟨False.elim, fun h => ?_⟩
    cases h
    exact hc _ rfl
  cases c with
  | int n =>
    simp only [Constant.text]
    split
    · rename_i hlong
      refine (FailsOn.error _).congr fun f => ⟨?_, ?_⟩
      · rintro rfl
        exact .longInteger hlong
      · rintro ⟨_⟩
        rfl
    · rename_i hshort
      refine (FailsOn.ok _).congr fun f => ⟨False.elim, ?_⟩
      rintro ⟨hlong⟩
      exact hshort hlong
  | none => exact (FailsOn.ok _).congr (none_iff (by simp))
  | true => exact (FailsOn.ok _).congr (none_iff (by simp))
  | false => exact (FailsOn.ok _).congr (none_iff (by simp))
  | ellipsis => exact (FailsOn.ok _).congr (none_iff (by simp))
  | float x => exact (FailsOn.ok _).congr (none_iff (by simp))
  | imaginary x => exact (FailsOn.ok _).congr (none_iff (by simp))
  | str t marked => exact (FailsOn.ok _).congr (none_iff (by simp))
  | bytes bs => exact (FailsOn.ok _).congr (none_iff (by simp))

theorem flaw_member {v : Expr} {attr : String} {f : Unprintable} : Flaw (.member v attr) f ↔ Flaw v f :=
  ⟨fun h => by cases h; assumption, .member⟩

theorem flaw_subscript {v s : Expr} {f : Unprintable} : Flaw (.subscript v s) f ↔ Flaw v f ∨ Flaw s f :=
  ⟨fun h => by cases h <;> simp [*], fun h => h.elim .base .slice⟩

theorem flaw_formatted {parts : List Expr} {f : Unprintable} :
    Flaw (.node .formatted parts) f ↔ ∃ e ∈ parts, PartFlaw e f := by
  constructor
  · intro h
    cases h with
    | child hshape => exact absurd rfl hshape
    | part he hf => exact ⟨_, he, hf⟩
  · rintro ⟨e, he, hf⟩
    exact .part he hf

theorem flaw_node {shape : Shape} {es : List Expr} {f : Unprintable} (hshape : shape ≠ .formatted) :
    Flaw (.node shape es) f ↔ ∃ e ∈ es, Flaw e f := by
  constructor
  · intro h
    cases h with
    | child _ he hf => exact ⟨_, he, hf⟩
    | part => exact absurd rfl hshape
  · rintro ⟨e, he, hf⟩
    exact .child hshape he hf

theorem partFlaw_formatted {parts : List Expr} {f : Unprintable} :
    PartFlaw (.node .formatted parts) f ↔ ∃ e ∈ parts, PartFlaw e f := by
  constructor
  · intro h
    cases h with
    | alien hpart => cases hpart
    | nested he hf => exact ⟨_, he, hf⟩
  · rintro ⟨e, he, hf⟩
    exact .nested he hf

theorem partFlaw_interpolation {conversion : Option Char} {hasFormat : Bool} {v : Expr} {format : List Expr}
    {f : Unprintable} : PartFlaw (.node (.interpolation conversion hasFormat) (v :: format)) f ↔
      Flaw v f ∨ ((∃ t, v.print true Precedence.test.next = .ok t ∧ '\\' ∈ t.toList) ∧ f = .backslash) ∨
        ∃ e ∈ format, PartFlaw e f := by
  constructor
  · intro h
    cases h with
    | alien hpart => cases hpart
    | value hf => exact .inl hf
    | backslash ht hslash => exact .inr (.inl ⟨⟨_, ht, hslash⟩, rfl⟩)
    | format he hf => exact .inr (.inr ⟨_, he, hf⟩)
  · rintro (hf | ⟨⟨t, ht, hslash⟩, rfl⟩ | ⟨e, he, hf⟩)
    · exact .value hf
    · exact .backslash ht hslash
    · exact .format he hf

theorem not_partFlaw_str {t : Text} {marked : Bool} {f : Unprintable} :
    ¬ PartFlaw (.constant (.str t marked)) f := by
  intro h
  cases h with
  | alien hpart => cases hpart

theorem partFlaw_alien {e : Expr} {f : Unprintable} (he : e.isPart = false) :
    PartFlaw e f ↔ f = .part e.kind := by
  constructor
  · intro h
    cases h with
    | alien => rfl
    | nested => cases he
    | value => cases he
    | backslash => cases he
    | format => cases he
  · rintro rfl
    exact .alien he

/-! ### The printer fails on flaws only -/

theorem printPart_alien {e : Expr} (he : e.isPart = false) : e.printPart = .error (.part e.kind) := by
  unfold printPart
  split <;> simp_all [isPart]

theorem alien_failsOn {e : Expr} (he : e.isPart = false) : FailsOn e.printPart (PartFlaw e) := by
  rw [printPart_alien he]
  exact (FailsOn.error _).congr fun f => (partFlaw_alien he).symm

theorem interpolation_failsOn {conversion : Option Char} {hasFormat : Bool} {v : Expr} {format : List Expr}
    (hvalue : FailsOn (v.print true Precedence.test.next) (Flaw v))
    (hformat : FailsOn (printParts format) fun f => ∃ e ∈ format, PartFlaw e f) :
    FailsOn (printPart (.node (.interpolation conversion hasFormat) (v :: format)))
      (PartFlaw (.node (.interpolation conversion hasFormat) (v :: format))) := by
  -- A value has one text, so that a backslash in it is a flaw of the value.
  have hslash : ∀ t, v.print true Precedence.test.next = .ok t → (t.toList.contains '\\' = true ↔
      ∃ t', v.print true Precedence.test.next = .ok t' ∧ '\\' ∈ t'.toList) := by
    intro t ht
    simp [ht]
  cases conversion <;> rw [printPart]
  case none | some =>
    refine (hvalue.bind fun t ht => (FailsOn.error_if hformat.map).congr fun f => ?_).congr fun f =>
      partFlaw_interpolation.symm
    rw [hslash t ht]

mutual

theorem print_failsOn (careful : Bool) (place : Precedence) : (e : Expr) → FailsOn (e.print careful place) (Flaw e)
  | .name id => by
    rw [print]
    exact (FailsOn.ok _).congr fun f => ⟨False.elim, fun h => by cases h⟩
  | .constant c => by
    rw [print]
    exact constant_failsOn careful c
  | .member v attr => by
    rw [print]
    exact (print_failsOn careful .atom v).map.congr fun f => flaw_member.symm
  | .subscript v s => by
    rw [print]
    refine ((print_failsOn careful .atom v).bind fun t _ =>
      (print_failsOn careful s.slicePrecedence s).map).congr fun f => flaw_subscript.symm
  | .node shape es => by
    by_cases hshape : shape = .formatted
    · subst hshape
      rw [print]
      cases careful with
      | true => exact (printParts_failsOn es).map.congr fun f => flaw_formatted.symm
      | false => exact (printEachPart_failsOn es).map.congr fun f => flaw_formatted.symm
    · rw [print.eq_6 _ _ _ _ hshape]
      exact (printAll_failsOn careful _ es).map.congr fun f => (flaw_node hshape).symm

theorem printAll_failsOn (careful : Bool) (ps : List Precedence) :
    (es : List Expr) → FailsOn (printAll careful ps es) fun f => ∃ e ∈ es, Flaw e f
  | [] => by
    rw [printAll]
    exact (FailsOn.ok _).congr fun f => by simp
  | e :: es => by
    rw [printAll]
    refine ((print_failsOn careful _ e).bind fun t _ => (printAll_failsOn careful ps.tail es).map).congr fun f => ?_
    simp

theorem printPart_failsOn : (e : Expr) → FailsOn e.printPart (PartFlaw e)
  | .name id => alien_failsOn rfl
  | .member v attr => alien_failsOn rfl
  | .subscript v s => alien_failsOn rfl
  | .constant c => by
    cases c with
    | str t marked =>
      rw [printPart]
      exact (FailsOn.ok _).congr fun f => ⟨False.elim, not_partFlaw_str⟩
    | _ => exact alien_failsOn rfl
  | .node shape es => by
    cases shape with
    | formatted =>
      rw [printPart]
      exact (printParts_failsOn es).congr fun f => partFlaw_formatted.symm
    | interpolation conversion hasFormat =>
      cases es with
      | nil => exact alien_failsOn rfl
      | cons v format => exact interpolation_failsOn (print_failsOn _ _ v) (printParts_failsOn format)
    | _ => exact alien_failsOn rfl

theorem printParts_failsOn : (es : List Expr) → FailsOn (printParts es) fun f => ∃ e ∈ es, PartFlaw e f
  | [] => by
    rw [printParts]
    exact (FailsOn.ok _).congr fun f => by simp
  | e :: es => by
    rw [printParts]
    refine ((printPart_failsOn e).bind fun t _ => (printParts_failsOn es).map).congr fun f => ?_
    simp

theorem printEachPart_failsOn : (es : List Expr) → FailsOn (printEachPart es) fun f => ∃ e ∈ es, PartFlaw e f
  | [] => by
    rw [printEachPart]
    exact (FailsOn.ok _).congr fun f => by simp
  | e :: es => by
    rw [printEachPart]
    refine ((printPart_failsOn e).bind fun t _ => (printEachPart_failsOn es).map).congr fun f => ?_
    simp

end

theorem text_failsOn (e : Expr) : FailsOn e.text (Flaw e) := print_failsOn false .test e

end ModuleDocs.Source.Expr
