import ModuleDocs.Failure.Cause

/-!
# Failures

A failure stops a run. It has a kind, a category for the report, a message, a context that says where it
arose, and the cause behind it.
-/

namespace ModuleDocs

/-- The categories that failures are reported under. -/
inductive Category where
  | storage
  | typecheck
  | encoding
  | render
  | internal
  deriving Repr, DecidableEq

namespace Category

def all : List Category := [storage, typecheck, encoding, render, internal]

def name : Category → String
  | storage => "STORAGE"
  | typecheck => "TYPECHECK"
  | encoding => "ENCODING"
  | render => "RENDER"
  | internal => "INTERNAL"

def ofName? (n : Text) : Option Category := all.find? fun c => Text.ofString c.name == n

end Category

/-- The kinds of failures. -/
inductive FailureKind where
  | general
  | fileSystem
  | typecheck
  | encoding
  | render
  /-- A kind that a checker has of its own. -/
  | derived (name : String) (category : Category)
  deriving Repr, DecidableEq

namespace FailureKind

def all : List FailureKind := [general, fileSystem, typecheck, encoding, render]

def name : FailureKind → String
  | general => "DocError"
  | fileSystem => "FileSystemError"
  | typecheck => "TypecheckError"
  | encoding => "EncodingError"
  | render => "RenderError"
  | derived name _ => name

def ofName? (n : Text) : Option FailureKind := all.find? fun k => Text.ofString k.name == n

def category : FailureKind → Category
  | general => .internal
  | fileSystem => .storage
  | typecheck => .typecheck
  | encoding => .encoding
  | render => .render
  | derived _ category => category

end FailureKind

/-- Where a failure arose. -/
structure FailureContext where
  /-- The file concerned. -/
  path : Option Text
  /-- The module concerned. -/
  module : Value
  /-- The stage of the run. -/
  stage : Value
  /-- Further entries, in order. -/
  extra : List (Text × Value)
  /-- A value put in the place of the listing of the context, which can then not be given. -/
  obstacle : Option Value
  deriving Repr

namespace FailureContext

def empty : FailureContext := ⟨none, .null, .null, [], none⟩

/-- The key whose value takes the place of the listing. -/
def listingKey : Text := "to_dict"

def ownNames : List Text :=
  ["__annotations__", "__class__", "__dataclass_fields__", "__dataclass_params__", "__delattr__", "__dict__",
    "__dir__", "__doc__", "__eq__", "__format__", "__ge__", "__getattribute__", "__getstate__", "__gt__",
    "__hash__", "__init__", "__init_subclass__", "__le__", "__lt__", "__match_args__", "__module__", "__ne__",
    "__new__", "__reduce__", "__reduce_ex__", "__repr__", "__setattr__", "__sizeof__", "__str__",
    "__subclasshook__", "__weakref__"].map Text.ofString

/-- Sets one entry: the path as text, the module, the stage, or a further entry. What is set under a name that the
context has for its own use is not listed. -/
def set (c : FailureContext) (key : Text) (value : Value) : FailureContext :=
  if key = Text.ofString "path" then { c with path := some (Cause.plain value) }
  else if key = Text.ofString "module" then { c with module := value }
  else if key = Text.ofString "stage" then { c with stage := value }
  else if key = listingKey then { c with obstacle := some value }
  else if ownNames.contains key then c
  else { c with extra := Value.set c.extra key value }

def setAll (c : FailureContext) (entries : List (Text × Value)) : FailureContext :=
  entries.foldl (fun c e => c.set e.1 e.2) c

/-- An entry, unless its value is null. -/
def entry (key : String) : Value → List (Text × Value)
  | .null => []
  | v => [(Text.ofString key, v)]

def pathValue (c : FailureContext) : Value :=
  match c.path with
  | some p => .str p
  | none => .null

/-- All entries in order. A further entry takes the place of one with the same key. -/
def entries (c : FailureContext) : List (Text × Value) :=
  c.extra.foldl (fun es e => Value.set es e.1 e.2)
    (entry "path" c.pathValue ++ entry "module" c.module ++ entry "stage" c.stage)

end FailureContext

/-- A failure that stops a run. -/
structure Failure where
  kind : FailureKind
  category : Category
  message : Text
  context : FailureContext
  cause : Option Cause
  deriving Repr

namespace Failure

/-- A failure with a context. Its category is that of its kind unless one is given, and a path that is given takes
the place of the one in the context. -/
def make (kind : FailureKind) (message : Text) (path : Option Text) (category : Option Category)
    (context : FailureContext) (cause : Option Cause) : Failure :=
  { kind, category := category.getD kind.category, message, context := { context with path := path.or context.path }
    cause }

def of (kind : FailureKind) (message : Text) (cause : Option Cause) : Failure :=
  { kind, category := kind.category, message, context := .empty, cause }

def about (f : Failure) (path : Text) : Failure := { f with context := { f.context with path := some path } }

def inModule (f : Failure) (module : Text) : Failure :=
  { f with context := { f.context with module := .str module } }

def during (f : Failure) (stage : String) : Failure :=
  { f with context := { f.context with stage := .ofString stage } }

/-- The failure with entries set in its context (`with_context`). -/
def withContext (f : Failure) (entries : List (Text × Value)) : Failure :=
  { f with context := f.context.setAll entries }

/-- The message, with the path before it unless the message names it. -/
def text (f : Failure) : Text :=
  match f.context.path with
  | some p => if p.isEmpty || f.message.includes p then f.message else p ++ ": " ++ f.message
  | none => f.message

/-- Kind, message and category in one line. -/
def shown (f : Failure) : Text :=
  f.kind.name ++ "(" ++ Text.ofString f.message.quoted ++ ", category=" ++ f.category.name ++ ")"

def entries (f : Failure) : List (Text × Value) :=
  let context := f.context.entries
  [(Text.ofString "error_type", Value.ofString f.kind.name),
    (Text.ofString "message", Value.str f.message),
    (Text.ofString "category", Value.ofString f.category.name)] ++
    (if context.isEmpty then [] else [(Text.ofString "context", Value.map context)]) ++
    match f.cause with
    | some c => [(Text.ofString "cause", Value.str c.text)]
    | none => []

/-- The report of a failure, or the value that stands in the place of the listing of its context. -/
def report (f : Failure) : Except Value (List (Text × Value)) :=
  match f.context.obstacle with
  | some v => .error v
  | none => .ok f.entries

end Failure

end ModuleDocs
