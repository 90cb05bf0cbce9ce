import ModuleDocs.Failure.Halt

/-!
# Names of modules and pages

A source file gives its module a name made of the parts of its path, and its page a place: the same path
below the output directory, with another suffix.
-/

namespace ModuleDocs

/-- The name of a module (`module_name_for`): the parts of its path without suffix, with dots between. -/
def moduleName (path : Path) : Except Halt Text := do
  let bare ← (path.withSuffix []).mapError Halt.path
  let name := Text.join [Path.dot] bare.components
  match Text.toUtf8 name with
  | .ok _ => return name
  | .error f =>
    throw <| .failure <| ((Failure.of .encoding "Non-UTF-8 filename" (some (.encoding f))).about
      (Text.ofString path.text.quoted)).during "read"

/-- The place of a page (`output_path`): the path of its source below the output directory, with another suffix. -/
def pagePath (output source : Path) (suffix : Text) : Except PathFault Path := do
  return output.append (← source.withSuffix suffix)

end ModuleDocs
