import ModuleDocs.Interface.Basic
import ModuleDocs.Interface.Inference
import ModuleDocs.Interface.Signature

/-!
# Declarations

The entries that the top-level statements of a module declare, and the names that it exports.
-/

namespace ModuleDocs

open Source

/-! ### Aliases -/

/-- Whether an annotation marks an alias (`_is_type_alias_annotation`). -/
def isAliasMark (type : Expr) : Bool := type.baseName? == some "TypeAlias"

def aliasOf? : Stmt → Option (String × Expr)
  | .annotated (.name id) type (some value) =>
    if isAliasMark type then some (id, value) else none
  | _ => none

/-- The aliases that a body declares (`_aliases`). -/
def Aliases.ofBody (body : List Stmt) : Aliases := ⟨body.filterMap aliasOf?⟩

/-! ### Entries -/

/-- The declarations collected so far. -/
structure Declarations where
  interface : Interface
  known : Known
  deriving Repr

namespace Declarations

def empty : Declarations := ⟨.empty, .empty⟩

def addType (d : Declarations) (e : Entry) : Declarations :=
  { d with interface := { d.interface with types := d.interface.types ++ [e] } }

/-- Adds a value-level entry, whose resolved type is known from then on (`_value`). -/
def addValue (d : Declarations) (name : String) (unresolved resolved : Text) : Declarations :=
  { interface :=
      { d.interface with values := d.interface.values ++ [⟨Text.ofString name, unresolved, resolved⟩] }
    known := d.known.addValue name resolved }

/-- Adds a value whose type has been inferred. -/
def addInferred (d : Declarations) (b : String × Text) : Declarations := d.addValue b.1 b.2 b.2

def addTarget (value : Expr) (d : Declarations) (target : Expr) : Declarations :=
  match target with
  | .name id => d.addInferred (id, d.known.infer value)
  | .node .tuple es => (d.known.unpack es value).foldl addInferred d
  | .node .list es => (d.known.unpack es value).foldl addInferred d
  | _ => d

def texts (aliases : Aliases) (write : Signature.Writer → Except AnnotationFault String) :
    Except AnnotationFault (Text × Text) := do
  let unresolved ← write Signature.asWritten
  let resolved ← write aliases.text
  return (Text.ofString unresolved, Text.ofString resolved)

/-- Adds what a statement declares (`_Declarations`). -/
def add (aliases : Aliases) (d : Declarations) : Stmt → Except AnnotationFault Declarations
  | .class head _ => do
    let (u, t) ← texts aliases fun w => Signature.ofClass w head
    let d := { d with known := d.known.addClass head.name }
    return d.addType ⟨Text.ofString head.name, u, t⟩
  | .function head _ => do
    let (u, t) ← texts aliases fun w => Signature.ofFunction w head
    return d.addValue head.name u t
  | .annotated (.name id) type value =>
    if isAliasMark type then
      match value with
      | some v => do
        let (u, t) ← texts aliases fun w => w v
        return d.addType ⟨Text.ofString id, u, t⟩
      | none => .ok d
    else do
      let (u, t) ← texts aliases fun w => w type
      return d.addValue id u t
  | .assign targets value => .ok (targets.foldl (addTarget value) d)
  | _ => .ok d

def ofBody (body : List Stmt) : Except AnnotationFault Declarations :=
  body.foldlM (add (Aliases.ofBody body)) empty

end Declarations

/-! ### Exports -/

namespace Exports

def listName : String := "__all__"

def isListName : Expr → Bool
  | .name id => id == listName
  | _ => false

/-- The strings of a literal list (`_string_list`). -/
def strings? (e : Expr) : Option (List Text) := e.elements?.bind fun es => es.mapM Expr.string?

/-- What a statement does to the list of exported names. -/
inductive Effect where
  | nothing
  /-- Sets the list; none if the value is not a literal. -/
  | set (names : Option (List Text))
  /-- Adds to the list. -/
  | add (names : Option (List Text))

def effect : Stmt → Effect
  | .assign targets value => if targets.any isListName then .set (strings? value) else .nothing
  | .annotated target _ value => if isListName target then .set (value.bind strings?) else .nothing
  | .augmented target value => if isListName target then .add (strings? value) else .nothing
  | _ => .nothing

/-- The names exported after some statements: none when there is no list, or when one of the statements
gives it something other than literal strings. -/
def after (names : Option (List Text)) : List Stmt → Option (List Text)
  | [] => names
  | s :: rest =>
    match effect s with
    | .nothing => after names rest
    | .set none => none
    | .add none => none
    | .set (some ns) => after (some ns) rest
    | .add (some ns) => after (some (names.getD [] ++ ns)) rest

/-- The names that a body exports (`_exports`), or none if it has no list of them. -/
def ofBody (body : List Stmt) : Option (List Text) := after none body

end Exports

end ModuleDocs
