import ModuleDocs.Text.Utf8
import ModuleDocs.Value.Basic

/-!
# Causes

What lies behind a failure, and the text that is reported for it.
-/

namespace ModuleDocs

/-- The ways in which a request to the file system fails. -/
inductive SystemFault where
  | notFound
  | denied
  | alreadyExists
  | notDirectory
  | isDirectory
  | fileTooLarge
  | noSpace
  | nameTooLong
  | linkLoop
  deriving Repr, DecidableEq

namespace SystemFault

def number : SystemFault → Nat
  | notFound => 2
  | denied => 13
  | alreadyExists => 17
  | notDirectory => 20
  | isDirectory => 21
  | fileTooLarge => 27
  | noSpace => 28
  | nameTooLong => 36
  | linkLoop => 40

def text : SystemFault → String
  | notFound => "No such file or directory"
  | denied => "Permission denied"
  | alreadyExists => "File exists"
  | notDirectory => "Not a directory"
  | isDirectory => "Is a directory"
  | fileTooLarge => "File too large"
  | noSpace => "No space left on device"
  | nameTooLong => "File name too long"
  | linkLoop => "Too many levels of symbolic links"

/-- Whether the fault says that a path leads nowhere. -/
def isAbsence : SystemFault → Bool
  | notFound => true
  | notDirectory => true
  | linkLoop => true
  | _ => false

end SystemFault

/-- An exception that is no failure. -/
structure Foreign where
  className : String
  text : Text
  deriving Repr, DecidableEq

/-- What lies behind a failure. -/
inductive Cause where
  /-- The source text does not follow the grammar. -/
  | grammar
  /-- A request to the file system about a path failed. -/
  | system (fault : SystemFault) (path : Text)
  /-- Bytes are not a text. -/
  | decoding (fault : DecodeFault)
  /-- A text has no encoding. -/
  | encoding (fault : EncodeFault)
  | foreign (e : Foreign)
  /-- Another fault, known by its report. -/
  | report (text : Text)
  /-- A fault with some values as its details. -/
  | details (values : List Value)
  /-- A key that is missing. -/
  | missingKey (values : List Value)
  /-- A fault of the system with some values: a number, a text and the paths concerned. -/
  | systemDetails (values : List Value)
  deriving Repr

namespace Cause

/-- The text of a value that stands alone: a string is shown as it is. -/
def plain : Value → Text
  | .str t => t
  | v => v.shown

/-- The text of some details: one stands alone, several are listed in parentheses. -/
def detailsText : List Value → Text
  | [] => []
  | [v] => plain v
  | vs => "(" ++ Value.shownItems vs ++ ")"

/-- The text of a fault of the system: with a number and a text these are shown, and the paths after them. -/
def systemText (values : List Value) : Text :=
  let heading (number text : Value) : Text := "[Errno " ++ plain number ++ "] " ++ plain text
  match values with
  | [number, text] => heading number text
  | [number, text, .null] => heading number text
  | [number, text, path] => heading number text ++ ": " ++ path.shown
  | [number, text, .null, _] => heading number text
  | [number, text, path, _] => heading number text ++ ": " ++ path.shown
  | [number, text, .null, _, _] => heading number text
  | [number, text, path, _, .null] => heading number text ++ ": " ++ path.shown
  | [number, text, path, _, second] => heading number text ++ ": " ++ path.shown ++ " -> " ++ second.shown
  | vs => detailsText vs

def text : Cause → Text
  | grammar => "<detail>"
  | system fault path => systemText [.ofNat fault.number, .ofString fault.text, .str path]
  | decoding fault => fault.message
  | encoding fault => fault.message
  | foreign e => e.text
  | report t => t
  | details vs => detailsText vs
  | missingKey [v] => v.shown
  | missingKey vs => detailsText vs
  | systemDetails vs => systemText vs

end Cause

end ModuleDocs
