import ModuleDocs.Comments
import ModuleDocs.Docstring
import ModuleDocs.Interface.Declarations
import ModuleDocs.Source.Module

/-!
# Checking a module

From source text to the exported interface and the doc comments of a module.
-/

namespace ModuleDocs

open Source

/-- Options for checking. -/
structure Environment where
  /-- Names with a leading underscore count as exported where no list of names says otherwise. -/
  includePrivate : Bool
  /-- A string literal after an assignment is its comment. -/
  attributeDocstrings : Bool
  deriving Repr, DecidableEq

def targetNames (target : Expr) : List String :=
  let bound : Expr → Option String
    | .name id => some id
    | .node .starred [.name id] => some id
    | _ => none
  match target with
  | .name id => [id]
  | .node .tuple es => es.filterMap bound
  | .node .list es => es.filterMap bound
  | _ => []

/-- The names that a statement assigns to (`_target_names`). -/
def assignedNames : Stmt → List String
  | .assign targets _ => targets.flatMap targetNames
  | .annotated (.name id) _ _ => [id]
  | _ => []

namespace Comments

/-- Adds a declaration of a name: without a comment it does not replace an earlier one. -/
def declare (members : List (Text × Comments)) (name : String) (c : Comments) : List (Text × Comments) :=
  let key := Text.ofString name
  if (members.lookup key).isNone || c.comment.isSome then put members key c else members

/-- The comment that the statement after an assignment holds (`_attribute_docstring`). -/
def attached (env : Environment) (following : Option Stmt) : Option Text :=
  if env.attributeDocstrings then (following.bind Docstring.literal?).map Docstring.clean else none

mutual

/-- The members that a statement declares, given the statement after it. -/
def ofStmt (env : Environment) (following : Option Stmt) : Stmt → List (String × Comments)
  | .function head body => [(head.name, .mk (Docstring.ofBody body) [])]
  | .class head body => [(head.name, .mk (Docstring.ofBody body) (ofStmts env [] body))]
  | s => (assignedNames s).map fun n => (n, .mk (attached env following) [])

/-- The members that statements declare, added to those declared before (`_members`). -/
def ofStmts (env : Environment) (members : List (Text × Comments)) : List Stmt → List (Text × Comments)
  | [] => members
  | s :: rest =>
    ofStmts env ((ofStmt env rest.head? s).foldl (fun ms (n, c) => declare ms n c) members) rest

end

def ofBody (env : Environment) (body : List Stmt) : Comments :=
  .mk (Docstring.ofBody body) (ofStmts env [] body)

end Comments

/-- Why a module cannot be checked. -/
inductive CheckFault where
  | source (fault : SourceFault)
  | interface (fault : AnnotationFault)
  deriving Repr, DecidableEq

namespace Environment

def exports (env : Environment) (list : Option (List Text)) (e : Entry) : Bool :=
  match list with
  | some names => names.contains e.name
  | none => env.includePrivate || e.name.head? != some (CodePoint.ofChar '_')

def interface (env : Environment) (body : List Stmt) : Except AnnotationFault Interface := do
  let d ← Declarations.ofBody body
  return d.interface.filter (env.exports (Exports.ofBody body))

/-- What a checker finds in a source (`typecheck` and `collect_metadata`). -/
def check (env : Environment) (source : List Char) : Except CheckFault (Interface × Comments) := do
  let body ← (parseModule source).mapError CheckFault.source
  let i ← (env.interface body).mapError CheckFault.interface
  return (i, Comments.ofBody env body)

end Environment

end ModuleDocs
