import ModuleDocs.Interface.Checker
import ModuleDocs.Storage.Source

/-!
# Extraction

The interface and the comments of a source file, by a checker. Every failure says which file it is about; a path
that no file can have, and an exception of the checker that has no text, are no failures.
-/

namespace ModuleDocs

/-- What became of an extraction. -/
structure Extraction where
  /-- The name and the source that the checker was given, if it was asked. -/
  asked : Option (Text × Text)
  result : Except Halt (Interface × Comments)

namespace Rejection

/-- A rejection as a failure about a file, unless it cannot be reported. -/
def toHalt (path module : Text) : Rejection → Halt
  | failure f => .failure (((f.about path).inModule module).during "typecheck")
  | crash e =>
    .failure <| (((Failure.of .typecheck ("Unable to check `" ++ path ++ "`: " ++ e.text)
      (some (.foreign e))).about path).inModule module).during "typecheck"
  | mute again => .crash again

end Rejection

/-- Extracts interface and comments of a file as a module of the given name (`extract`). -/
def extract (disk : Disk) (checker : Checker) (path : Path) (module : Text) : Extraction :=
  match readSource disk path with
  | .error f => ⟨none, .error f⟩
  | .ok source =>
    ⟨some (module, source), (checker.check module source).mapError (Rejection.toHalt path.text module)⟩

end ModuleDocs
