import ModuleDocs.Source.Stmt
import ModuleDocs.Text.Basic

/-!
# Inferred types

The type shown for a variable without annotation, found from the form of its value and from the
declarations before it.
-/

namespace ModuleDocs

open Source

/-- What is known from earlier declarations: the names of classes, and the types of values. -/
structure Known where
  classes : List String
  /-- Types of values, the latest first. -/
  values : List (String × Text)
  deriving Repr

namespace Known

def empty : Known := ⟨[], []⟩

def addClass (k : Known) (name : String) : Known := { k with classes := name :: k.classes }

def addValue (k : Known) (name : String) (type : Text) : Known :=
  { k with values := (name, type) :: k.values }

def constantType : Constant → String
  | .none => "None"
  | .true => "bool"
  | .false => "bool"
  | .ellipsis => "ellipsis"
  | .int _ => "int"
  | .float _ => "float"
  | .imaginary _ => "complex"
  | .str _ _ => "str"
  | .bytes _ => "bytes"

/-- The type shown for a display, a comprehension or a lambda expression. -/
def shapeType? : Shape → Option String
  | .formatted => some "str"
  | .list => some "list"
  | .listComp _ => some "list"
  | .tuple => some "tuple"
  | .dict _ => some "dict"
  | .dictComp _ => some "dict"
  | .set => some "set"
  | .setComp _ => some "set"
  | .generator _ => some "Generator"
  | .lambda _ => some "Callable"
  | _ => none

/-- The type shown when nothing better is known. -/
def unknown : Text := "Any"

/-- The type of a name: that of the latest value, or that of a class. -/
def nameType (k : Known) (id : String) : Text :=
  match k.values.lookup id with
  | some t => t
  | none => if id ∈ k.classes then Text.ofString ("type[" ++ id ++ "]") else unknown

/-- The type shown for a value that is assigned (`_infer`). -/
def infer (k : Known) : Expr → Text
  | .constant c => constantType c
  | .name id => k.nameType id
  | .node (.call _ _) (.name id :: _) => if id ∈ k.classes then Text.ofString id else unknown
  | .node shape _ =>
    match shapeType? shape with
    | some t => t
    | none => unknown
  | _ => unknown

/-! ### Several targets -/

/-- A target of an unpacking assignment: a name, a starred name, or something else. -/
inductive UnpackTarget where
  | name (id : String)
  | starred (id : Option String)
  | other
  deriving Repr, DecidableEq

namespace UnpackTarget

def ofExpr : Expr → UnpackTarget
  | .name id => .name id
  | .node .starred [.name id] => .starred (some id)
  | .node .starred _ => .starred none
  | _ => .other

def isStarred : UnpackTarget → Bool
  | .starred _ => true
  | _ => false

end UnpackTarget

/-- The elements that targets can be paired with: those of a display, if their number fits. With exactly
one starred target there may be more elements than targets, otherwise as many. -/
def pairable? (targets : List UnpackTarget) (value : Expr) : Option (List Expr) :=
  value.elements?.bind fun es =>
    if targets.countP (·.isStarred) = 1 then
      if es.length + 1 < targets.length then none else some es
    else if es.length = targets.length then some es
    else none

/-- The element for the target at an index: counted from the start before the only starred target and
from the end after it. -/
def elementAt? (targets : List UnpackTarget) (es : List Expr) (index : Nat) : Option Expr :=
  match targets.findIdx? (·.isStarred) with
  | some star =>
    if targets.countP (·.isStarred) = 1 ∧ star < index then es[es.length + index - targets.length]?
    else es[index]?
  | none => es[index]?

/-- The names that a target list binds, with their types (`_unpack`). -/
def unpack (k : Known) (elements : List Expr) (value : Expr) : List (String × Text) :=
  let targets := elements.map UnpackTarget.ofExpr
  let paired := pairable? targets value
  targets.zipIdx.filterMap fun (t, i) =>
    match t with
    | .starred (some id) => some (id, "list")
    | .starred none => none
    | .other => none
    | .name id =>
      match paired with
      | none => some (id, unknown)
      | some es => some (id, ((elementAt? targets es i).map k.infer).getD unknown)

end Known

end ModuleDocs
