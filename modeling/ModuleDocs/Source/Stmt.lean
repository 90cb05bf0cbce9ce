import ModuleDocs.Source.Expr

/-!
# Statements

The statements of a module or of a class body. Only declarations, assignments and expression statements
say something about the interface; any other accepted statement is `other`.
-/

namespace ModuleDocs.Source

/-- A parameter of a function. -/
structure Param where
  name : String
  type : Option Expr
  default : Option Expr
  deriving Repr, DecidableEq

/-- A parameter without its default. -/
structure Argument where
  name : String
  type : Option Expr
  deriving Repr, DecidableEq

/-- The parameters of a function as a syntax tree lists them. Defaults stand apart: those of the positional parameters
belong to the last of them, and every keyword-only parameter has a default or none. -/
structure Arguments where
  positionalOnly : List Argument
  positional : List Argument
  rest : Option Argument
  keywordOnly : List Argument
  extra : Option Argument
  defaults : List Expr
  keywordDefaults : List (Option Expr)
  deriving Repr, DecidableEq

namespace Param

def argument (p : Param) : Argument := ⟨p.name, p.type⟩

end Param

namespace Argument

def withDefault (a : Argument) (default : Option Expr) : Param := ⟨a.name, a.type, default⟩

end Argument

/-- The lists of a syntax tree for parameters with their own defaults. -/
def Params.arguments (ps : Params Param) : Arguments where
  positionalOnly := ps.positionalOnly.map Param.argument
  positional := ps.positional.map Param.argument
  rest := ps.rest.map Param.argument
  keywordOnly := ps.keywordOnly.map Param.argument
  extra := ps.extra.map Param.argument
  defaults := (ps.positionalOnly ++ ps.positional).filterMap Param.default
  keywordDefaults := ps.keywordOnly.map Param.default

/-- A keyword argument; without a name it spreads a mapping. -/
structure Keyword where
  name : Option String
  value : Expr
  deriving Repr, DecidableEq

/-- The head of a function declaration. -/
structure FunctionHead where
  name : String
  isAsync : Bool
  params : Params Param
  returns : Option Expr
  deriving Repr, DecidableEq

/-- The head of a class declaration. -/
structure ClassHead where
  name : String
  bases : List Expr
  keywords : List Keyword
  deriving Repr, DecidableEq

/-- A statement. -/
inductive Stmt where
  | function (head : FunctionHead) (body : List Stmt)
  | class (head : ClassHead) (body : List Stmt)
  /-- An annotated target, with or without a value. -/
  | annotated (target type : Expr) (value : Option Expr)
  /-- One value given to one or more targets. -/
  | assign (targets : List Expr) (value : Expr)
  /-- A target changed in place. -/
  | augmented (target value : Expr)
  | expr (value : Expr)
  | other
  deriving Repr

namespace Stmt

instance : Inhabited Stmt := ⟨.other⟩

mutual

def same : Stmt → Stmt → Bool
  | function f as, function g bs => f == g && sameAll as bs
  | .class c as, .class d bs => c == d && sameAll as bs
  | annotated x t v, annotated y u w => x == y && t == u && v == w
  | assign xs v, assign ys w => xs == ys && v == w
  | augmented x v, augmented y w => x == y && v == w
  | expr v, expr w => v == w
  | other, other => true
  | _, _ => false

def sameAll : List Stmt → List Stmt → Bool
  | [], [] => true
  | a :: as, b :: bs => same a b && sameAll as bs
  | _, _ => false

end

mutual

theorem same_iff : ∀ {a b : Stmt}, same a b = true ↔ a = b
  | function f as, b => by cases b <;> simp [same, sameAll_iff]
  | .class c as, b => by cases b <;> simp [same, sameAll_iff]
  | annotated x t v, b => by cases b <;> simp [same, and_assoc]
  | assign xs v, b => by cases b <;> simp [same]
  | augmented x v, b => by cases b <;> simp [same]
  | expr v, b => by cases b <;> simp [same]
  | other, b => by cases b <;> simp [same]

theorem sameAll_iff : ∀ {as bs : List Stmt}, sameAll as bs = true ↔ as = bs
  | [], bs => by cases bs <;> simp [sameAll]
  | a :: as, bs => by cases bs <;> simp [sameAll, same_iff, sameAll_iff]

end

instance : DecidableEq Stmt := fun a b => decidable_of_iff (same a b = true) same_iff

end Stmt

end ModuleDocs.Source
