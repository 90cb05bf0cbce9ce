import ModuleDocs.Source.Expr.Printer
import ModuleDocs.Source.Grammar.Reading
import ModuleDocs.Text.Blank
import ModuleDocs.Text.Utf8

/-!
# Alias expansion

An annotation with every alias replaced by what it stands for. A string constant is a forward reference: if
its text is an expression, that expression takes its place and is expanded in turn. The arguments of
`Literal` are values and stay as they are, and of the arguments of `Annotated` only the first is a type. An
alias met while it is being expanded stays as written, so cycles end.

The expansion ends because each step makes one of these smaller, and none before it greater: the number of
aliases not being expanded, the length of the longest string constant, the size of the expression.
-/

namespace ModuleDocs

open Source

namespace Source.Expr

mutual

def longest : Expr → Nat
  | name _ => 0
  | constant (.str t _) => t.length
  | constant _ => 0
  | member v _ => longest v
  | subscript v s => max (longest v) (longest s)
  | node _ cs => longestOf cs

/-- The length of the longest string constant of several expressions. -/
def longestOf : List Expr → Nat
  | [] => 0
  | e :: es => max (longest e) (longestOf es)

end

end Source.Expr

/-- Aliases with their definitions. Of two definitions of one name the later one holds. -/
structure Aliases where
  entries : List (String × Expr)
  deriving Repr

/-- Why a string constant cannot be read as source at all. -/
inductive ReferenceFault where
  | nullCharacter
  | surrogates (fault : EncodeFault)
  deriving Repr, DecidableEq

namespace ReferenceFault

def message : ReferenceFault → String
  | nullCharacter => "source code string cannot contain null bytes"
  | surrogates f => f.message

end ReferenceFault

/-- Reads the text of a forward reference: the expression it holds, or none if it holds none. -/
def readReference (t : Text) : Except ReferenceFault (Option Expr) :=
  let text := t.strip
  match text.toUtf8, text.toChars? with
  | .error f, _ => .error (.surrogates f)
  | .ok _, none => .ok none
  | .ok _, some chars =>
    if chars.contains '\x00' then .error .nullCharacter else .ok (Expr.parse chars).toOption

namespace Aliases

def empty : Aliases := ⟨[]⟩

def get? (a : Aliases) (name : String) : Option Expr := a.entries.reverse.lookup name

def insert (a : Aliases) (name : String) (body : Expr) : Aliases := ⟨a.entries ++ [(name, body)]⟩

/-- The number of definitions whose names are not being expanded. -/
def idle (a : Aliases) (active : List String) : Nat := a.entries.countP fun p => p.1 ∉ active

theorem mem_of_get? {a : Aliases} {name : String} {body : Expr} (h : a.get? name = some body) :
    (name, body) ∈ a.entries := by
  have key : ∀ l : List (String × Expr), l.lookup name = some body → (name, body) ∈ l := by
    intro l
    induction l with
    | nil => intro hl; simp at hl
    | cons p ps ih =>
      intro hl
      obtain ⟨n, e⟩ := p
      rw [List.lookup_cons] at hl
      split at hl
      · rename_i heq
        have hn : name = n := by simpa using heq
        simp only [Option.some.injEq] at hl
        simp [hn, hl]
      · exact List.mem_cons_of_mem _ (ih hl)
  exact List.mem_reverse.1 (key _ h)

theorem countP_lt_countP {α : Type} {p q : α → Bool} {l : List α} {x : α}
    (hpq : ∀ y ∈ l, p y = true → q y = true) (hx : x ∈ l) (hp : p x = false) (hq : q x = true) :
    l.countP p < l.countP q := by
  induction l with
  | nil => simp at hx
  | cons y ys ih =>
    have hle : ys.countP p ≤ ys.countP q :=
      List.countP_mono_left fun z hz => hpq z (List.mem_cons_of_mem _ hz)
    rw [List.countP_cons, List.countP_cons]
    rcases List.mem_cons.1 hx with h | h
    · subst h
      simp [hp, hq]
      omega
    · have hlt := ih (fun z hz => hpq z (List.mem_cons_of_mem _ hz)) h
      have hy := hpq y List.mem_cons_self
      by_cases h1 : p y = true
      · simp [h1, hy h1]
        exact hlt
      · simp [h1]
        split <;> omega

theorem idle_cons_lt {a : Aliases} {active : List String} {name : String} {body : Expr}
    (h : a.get? name = some body) (hn : name ∉ active) : a.idle (name :: active) < a.idle active := by
  refine countP_lt_countP ?_ (mem_of_get? h) ?_ ?_
  · intro y _ hy
    have hy' : y.1 ∉ name :: active := by simpa using hy
    simpa using fun hmem => hy' (List.mem_cons_of_mem _ hmem)
  · simp
  · simpa using hn

end Aliases

namespace Alias

abbrev Reader := Text → Except ReferenceFault (Option Expr)

theorem lex_step {n a b c d : Nat} (h : a ≤ b) (h' : c < d) :
    Prod.Lex (· < ·) (Prod.Lex (· < ·) (· < ·)) (n, a, c) (n, b, d) := by
  rcases Nat.lt_or_eq_of_le h with h | h
  · exact Prod.Lex.right _ (Prod.Lex.left _ _ h)
  · exact h ▸ Prod.Lex.right _ (Prod.Lex.right _ h')

mutual

/-- Expands an expression while the names in `active` are being expanded (`_AliasExpander`). -/
def expand (read : Reader) (aliases : Aliases) (active : List String) :
    Expr → Except ReferenceFault Expr
  | .name id =>
    match _h : aliases.get? id with
    | none => .ok (.name id)
    | some body =>
      if _hn : id ∈ active then .ok (.name id)
      else expand read aliases (id :: active) body
  | .constant (.str t marked) =>
    match read t with
    | .error f => .error f
    | .ok none => .ok (.constant (.str t marked))
    | .ok (some e) =>
      -- An expression read from a text holds only shorter strings.
      if _h : e.longest < t.length then expand read aliases active e
      else .ok (.constant (.str t marked))
  | .constant c => .ok (.constant c)
  | .member v attr => do
    let v ← expand read aliases active v
    return .member v attr
  | .subscript v s => do
    let w ← expand read aliases active v
    if w.baseName? = some "Literal" then return .subscript w s
    else if w.baseName? = some "Annotated" then
      match s with
      | .node .tuple (e :: es) => do
        let first ← expand read aliases active e
        return .subscript w (.node .tuple (first :: es))
      | other => do
        let t ← expand read aliases active other
        return .subscript w t
    else do
      let t ← expand read aliases active s
      return .subscript w t
  | .node shape cs => do
    let ds ← expandAll read aliases active cs
    return .node shape ds
termination_by e => (aliases.idle active, e.longest, sizeOf e)
decreasing_by
  · exact Prod.Lex.left _ _ (Aliases.idle_cons_lt _h _hn)
  · exact Prod.Lex.right _ (Prod.Lex.left _ _ (by simpa [Source.Expr.longest] using _h))
  all_goals exact lex_step (by simp [Source.Expr.longest, Source.Expr.longestOf]; try omega) (by simp; try omega)

/-- Expands several expressions from left to right. -/
def expandAll (read : Reader) (aliases : Aliases) (active : List String) :
    List Expr → Except ReferenceFault (List Expr)
  | [] => .ok []
  | e :: es => do
    let d ← expand read aliases active e
    let ds ← expandAll read aliases active es
    return d :: ds
termination_by es => (aliases.idle active, Source.Expr.longestOf es, sizeOf es)
decreasing_by
  all_goals exact lex_step (by simp [Source.Expr.longestOf]; try omega) (by simp; try omega)

end

end Alias

/-- Why an annotation has no expanded text. -/
inductive AnnotationFault where
  | reference (fault : ReferenceFault)
  | unprintable (fault : Unprintable)
  deriving Repr, DecidableEq

namespace AnnotationFault

def message : AnnotationFault → String
  | reference f => f.message
  | unprintable f => f.message

end AnnotationFault

namespace Aliases

/-- An annotation with its aliases replaced (`AliasResolver.resolve`). -/
def resolve (a : Aliases) (e : Expr) : Except ReferenceFault Expr := Alias.expand readReference a [] e

def text (a : Aliases) (e : Expr) : Except AnnotationFault String := do
  let resolved ← (a.resolve e).mapError AnnotationFault.reference
  resolved.text.mapError AnnotationFault.unprintable

end Aliases

end ModuleDocs
