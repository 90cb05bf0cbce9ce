import ModuleDocs.Failure.Basic
import ModuleDocs.Path

/-!
# What stops a step
-/

namespace ModuleDocs

/-- Why a step does not give its result. -/
inductive Halt where
  /-- A failure that is reported. -/
  | failure (f : Failure)
  /-- A path that cannot have the suffix it should get. -/
  | path (f : PathFault)
  /-- A path that no file can have. -/
  | name (f : NameFault)
  /-- A text that cannot be written to a file. -/
  | unencodable (f : EncodeFault)
  /-- A request to the file system about a path that fails unreported. -/
  | system (f : SystemFault) (path : Text)
  /-- An exception that nothing reports. -/
  | crash (e : Foreign)
  deriving Repr

namespace Halt

def message : Halt → Text
  | failure f => f.text
  | path f => f.message
  | name f => Text.ofString f.message
  | unencodable f => Text.ofString f.message
  | system f p => (Cause.system f p).text
  | crash e => e.text

end Halt

end ModuleDocs
