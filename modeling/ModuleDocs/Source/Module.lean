import ModuleDocs.Source.Grammar.Reading
import ModuleDocs.Source.Grammar.Statement

/-!
# Modules

Reading the source of a whole module.
-/

namespace ModuleDocs.Source

/-- Why a text is not the source of a module. -/
inductive SourceFault where
  /-- An error on a line. -/
  | invalid (line : Nat)
  /-- A character that no source can hold. -/
  | nullCharacter
  deriving Repr, DecidableEq

def parseModule (source : List Char) : Except SourceFault (List Stmt) :=
  if source.contains '\x00' then .error .nullCharacter
  else
    let stream := TokenStream.ofText .file 1 source
    let depth := Grammar.depthFor stream.tokens.size
    let rule := Grammar.wholeFile (Grammar.expr depth) depth
    (Grammar.readStream (Grammar.readNested source.length) rule stream).mapError SourceFault.invalid

end ModuleDocs.Source
