import ModuleDocs.Failure.Basic
import ModuleDocs.Interface.Check

/-!
# Checkers

A checker takes the name and the source of a module and gives its interface and comments. It rejects a
module with a failure; anything else that keeps it from an answer is a crash.
-/

namespace ModuleDocs

/-- Why a checker gives no answer. -/
inductive Rejection where
  /-- The checker rejects the module. -/
  | failure (f : Failure)
  /-- The checker breaks down with an exception. -/
  | crash (e : Foreign)
  /-- The checker breaks down with an exception that has no text: asking for it raises another one. -/
  | mute (again : Foreign)
  deriving Repr

/-- A checker of modules: from the name and the source to the interface and the comments. -/
structure Checker where
  check : Text → Text → Except Rejection (Interface × Comments)

namespace AnnotationFault

def exception (f : AnnotationFault) : Foreign where
  className :=
    match f with
    | reference (.surrogates _) => "UnicodeEncodeError"
    | _ => "ValueError"
  text := f.message

end AnnotationFault

namespace CheckFault

/-- The report that a source holds a character that no source can hold. -/
def nullReport : Text := "source code string cannot contain null bytes"

def rejection (module : Text) : CheckFault → Rejection
  | source (.invalid line) =>
    .failure <| (Failure.of .typecheck
      ("Invalid syntax in `" ++ module ++ "` at line " ++ Text.ofNat line ++ ": " ++ Cause.grammar.text)
      (some .grammar)).withContext
        [(Text.ofString "module", .str module), (Text.ofString "line", .ofNat line)]
  | source .nullCharacter =>
    .failure <| (Failure.of .typecheck ("Unable to parse `" ++ module ++ "`: " ++ nullReport)
      (some (.report nullReport))).inModule module
  | interface f => .crash f.exception

end CheckFault

namespace Checker

def python (env : Environment) : Checker where
  check module source :=
    match Text.toUtf8 source, source.toChars? with
    | .error f, _ =>
      .error <| .failure <| (Failure.of .typecheck ("Unable to parse `" ++ module ++ "`: " ++ f.message)
        (some (.encoding f))).inModule module
    | .ok _, chars => (env.check (chars.getD [])).mapError (CheckFault.rejection module)

end Checker

end ModuleDocs
