import ModuleDocs.Comments
import ModuleDocs.Interface.Basic

/-!
# Records

What the page of a module shows: a field for every declaration, in source order. A type is shown as it is
written, a value with the aliases in its type expanded.
-/

namespace ModuleDocs

/-- A documented declaration. The comment is empty when there is none. -/
structure Field where
  name : Text
  type : Text
  comment : Text
  deriving Repr, DecidableEq

/-- The fields of a module. -/
structure Record where
  types : List Field
  values : List Field
  deriving Repr, DecidableEq

/-- A module with its record. -/
structure Module where
  name : Text
  record : Record
  deriving Repr, DecidableEq

namespace Field

def ofType (comments : Comments) (e : Entry) : Field := ⟨e.name, e.unresolved, comments.commentFor e.name⟩

def ofValue (comments : Comments) (e : Entry) : Field := ⟨e.name, e.resolved, comments.commentFor e.name⟩

def toValue (f : Field) : Value :=
  .map [(Text.ofString "name", .str f.name), (Text.ofString "type", .str f.type),
    (Text.ofString "comment", .str f.comment)]

end Field

namespace Record

/-- The record of a module (`build_record`). -/
def build (i : Interface) (comments : Comments) : Record :=
  ⟨i.types.map (Field.ofType comments), i.values.map (Field.ofValue comments)⟩

def toValue (r : Record) : Value :=
  .map [(Text.ofString "types", .list (r.types.map Field.toValue)),
    (Text.ofString "values", .list (r.values.map Field.toValue))]

end Record

namespace Module

def toValue (m : Module) : Value :=
  .map [(Text.ofString "name", .str m.name), (Text.ofString "record", m.record.toValue)]

end Module

end ModuleDocs
