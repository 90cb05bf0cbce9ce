import ModuleDocs.Text.Basic

/-!
# Interfaces

The interface of a module: its type-level and its value-level declarations, in source order. Every entry
has the text of its type as written and with aliases expanded.
-/

namespace ModuleDocs

/-- One declaration of a module. -/
structure Entry where
  name : Text
  /-- The type as written. -/
  unresolved : Text
  /-- The type with aliases expanded. -/
  resolved : Text
  deriving Repr, DecidableEq

/-- The declarations of a module. -/
structure Interface where
  types : List Entry
  values : List Entry
  deriving Repr, DecidableEq

namespace Interface

def empty : Interface := ⟨[], []⟩

/-- The declarations whose entries satisfy a condition. -/
def filter (p : Entry → Bool) (i : Interface) : Interface := ⟨i.types.filter p, i.values.filter p⟩

end Interface

end ModuleDocs
