import ModuleDocs.Failure.Halt
import ModuleDocs.Storage.Disk

/-!
# Reading sources

A source file is read as UTF-8. Each line ends with a line feed, whatever ends it in the file.
-/

namespace ModuleDocs

/-- The text with every carriage return, and the line feed after it if there is one, as a line feed. -/
def normalizeLines : Text → Text
  | [] => []
  | c :: cs =>
    if c = CodePoint.ofChar '\r' then
      match cs with
      | [] => [CodePoint.ofChar '\n']
      | d :: ds =>
        if d = CodePoint.ofChar '\n' then CodePoint.ofChar '\n' :: normalizeLines ds
        else CodePoint.ofChar '\n' :: normalizeLines (d :: ds)
    else c :: normalizeLines cs

def openFailure (path : Path) (f : SystemFault) : Failure :=
  ((Failure.of .fileSystem ("Unable to open source file `" ++ path.text ++ "`: " ++ f.text)
    (some (.system f path.text))).about path.text).during "read"

def decodeFailure (path : Path) (f : DecodeFault) : Failure :=
  ((Failure.of .encoding ("Source file `" ++ path.text ++ "` is not valid UTF-8: " ++ f.reason.message)
    (some (.decoding f))).about path.text).during "read"

/-- The text of a source file (`read_source`). -/
def readSource (disk : Disk) (path : Path) : Except Halt Text :=
  match path.text.nameFault? with
  | some f => .error (.name f)
  | none =>
    match disk.read path with
    | .error f => .error (.failure (openFailure path f))
    | .ok bytes =>
      match Text.ofUtf8 bytes with
      | .error f => .error (.failure (decodeFailure path f))
      | .ok t => .ok (normalizeLines t)

end ModuleDocs
