import ModuleDocs.Text.Basic
import ModuleDocs.Number.Binary64

/-!
# Expressions

The tree of a Python expression. Names, constants, members and subscripts, which the analysis of
annotations looks at, have constructors of their own. Every other form is a `node`: a `Shape`, which holds
what is not an expression, and the list of subexpressions in the order of evaluation fields, so that one
traversal serves all forms.
-/

namespace ModuleDocs.Source

/-- The value of a literal. -/
inductive Constant where
  | none
  | true
  | false
  | ellipsis
  | int (value : Nat)
  | float (value : Binary64)
  | imaginary (value : Binary64)
  /-- A string; `marked` when the literal was written with a `u`. -/
  | str (value : Text) (marked : Bool)
  | bytes (value : List UInt8)
  deriving Repr, DecidableEq

/-- Parameters by kind, in the order in which they are declared. -/
structure Params (α : Type) where
  positionalOnly : List α
  positional : List α
  /-- The parameter that takes the remaining positional arguments. -/
  rest : Option α
  keywordOnly : List α
  /-- The parameter that takes the remaining keyword arguments. -/
  extra : Option α
  deriving Repr, DecidableEq

namespace Params

def empty {α : Type} : Params α := ⟨[], [], .none, [], .none⟩

def map {α β : Type} (f : α → β) (p : Params α) : Params β :=
  ⟨p.positionalOnly.map f, p.positional.map f, p.rest.map f, p.keywordOnly.map f, p.extra.map f⟩

end Params

/-- A parameter of a lambda expression; its default, if it has one, is a subexpression. -/
structure LambdaParam where
  name : String
  hasDefault : Bool
  deriving Repr, DecidableEq

/-- Operators with two operands. -/
inductive BinaryOp where
  | add | sub | mul | matMul | div | mod | leftShift | rightShift | bitOr | bitXor | bitAnd | floorDiv | pow
  deriving Repr, DecidableEq

/-- Operators with one operand. -/
inductive UnaryOp where
  | invert | not | plus | minus
  deriving Repr, DecidableEq

/-- Comparison operators. -/
inductive CompareOp where
  | eq | notEq | lt | le | gt | ge | is | isNot | in | notIn
  deriving Repr, DecidableEq

/-- One `for` clause of a comprehension: its target and iterable are subexpressions, and so are its
conditions. -/
structure Clause where
  isAsync : Bool
  conditions : Nat
  deriving Repr, DecidableEq

/-- What a node is, apart from its subexpressions. The comments say which these are, in order. -/
inductive Shape where
  /-- The value. -/
  | starred
  /-- The elements. -/
  | tuple
  /-- The elements. -/
  | list
  /-- The elements. -/
  | set
  /-- The keys of the entries that have one (`keyed`), then the values of all entries. -/
  | dict (keyed : List Bool)
  /-- The function, `positional` arguments, and the value of each keyword argument. -/
  | call (positional : Nat) (keywords : List (Option String))
  /-- The operands. -/
  | and
  /-- The operands. -/
  | or
  /-- The left and the right operand. -/
  | binary (op : BinaryOp)
  /-- The operand. -/
  | unary (op : UnaryOp)
  /-- The first operand, then one for each operator. -/
  | compare (ops : List CompareOp)
  /-- The condition, the value if it holds, the value otherwise. -/
  | conditional
  /-- Defaults of keyword-only parameters, defaults of positional ones, the body. -/
  | lambda (params : Params LambdaParam)
  /-- The target and the value. -/
  | assign
  /-- The value. -/
  | await
  /-- The value, if there is one. -/
  | yield
  /-- The value. -/
  | yieldFrom
  /-- The element, then target, iterable and conditions of each clause. -/
  | listComp (clauses : List Clause)
  /-- The element, then the clauses. -/
  | setComp (clauses : List Clause)
  /-- The element, then the clauses. -/
  | generator (clauses : List Clause)
  /-- The key, the value, then the clauses. -/
  | dictComp (clauses : List Clause)
  /-- Those of the three bounds that are given. -/
  | slice (lower upper step : Bool)
  /-- The parts of a formatted string: string constants and interpolations. -/
  | formatted
  /-- The value, and the format as a formatted string if there is one. -/
  | interpolation (conversion : Option Char) (hasFormat : Bool)
  deriving Repr, DecidableEq

/-- An expression. -/
inductive Expr where
  | name (id : String)
  | constant (value : Constant)
  | member (value : Expr) (attr : String)
  | subscript (value slice : Expr)
  | node (shape : Shape) (children : List Expr)
  deriving Repr

namespace Expr

instance : Inhabited Expr := ⟨.constant .none⟩

mutual

def same : Expr → Expr → Bool
  | name a, name b => a == b
  | constant a, constant b => a == b
  | member v a, member w b => same v w && a == b
  | subscript v s, subscript w t => same v w && same s t
  | node s as, node t bs => s == t && sameAll as bs
  | _, _ => false

def sameAll : List Expr → List Expr → Bool
  | [], [] => true
  | a :: as, b :: bs => same a b && sameAll as bs
  | _, _ => false

end

mutual

theorem same_iff : ∀ {a b : Expr}, same a b = true ↔ a = b
  | name a, b => by cases b <;> simp [same]
  | constant a, b => by cases b <;> simp [same]
  | member v a, b => by cases b <;> simp [same, same_iff]
  | subscript v s, b => by cases b <;> simp [same, same_iff]
  | node s as, b => by cases b <;> simp [same, sameAll_iff]

theorem sameAll_iff : ∀ {as bs : List Expr}, sameAll as bs = true ↔ as = bs
  | [], bs => by cases bs <;> simp [sameAll]
  | a :: as, bs => by cases bs <;> simp [sameAll, same_iff, sameAll_iff]

end

instance : DecidableEq Expr := fun a b => decidable_of_iff (same a b = true) same_iff

def children : Expr → List Expr
  | name _ => []
  | constant _ => []
  | member v _ => [v]
  | subscript v s => [v, s]
  | node _ cs => cs

/-- The last name of a base (`_base_name`). -/
def baseName? : Expr → Option String
  | name id => some id
  | member _ attr => some attr
  | _ => .none

def string? : Expr → Option Text
  | constant (.str value _) => some value
  | _ => .none

def elements? : Expr → Option (List Expr)
  | node .tuple es => some es
  | node .list es => some es
  | _ => .none

end Expr

end ModuleDocs.Source
