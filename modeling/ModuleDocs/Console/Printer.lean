import ModuleDocs.Console.Table
import ModuleDocs.Failure.Cause

/-!
# Printers

What commands print goes through a printer, which reads the markup of texts and lays out tables of them.
-/

namespace ModuleDocs.Console

/-- What prints marked-up texts. -/
structure Printer where
  /-- What a marked-up text shows. -/
  shown : Text → Except Foreign Text
  /-- The lines of a marked-up text. -/
  text : Text → Except Foreign (List Text)
  /-- The lines of a table of marked-up texts. -/
  table : Table → Except Foreign (List Text)

def MarkupFault.exception (f : MarkupFault) : Foreign := ⟨f.className, f.message⟩

def printer (lexicon : Lexicon) (width : Nat) : Printer where
  shown t := (Markup.plainText lexicon t).mapError MarkupFault.exception
  text t := do
    let shown ← (Markup.plainText lexicon t).mapError MarkupFault.exception
    return (wrap .fold width shown).map (cut .fold width)
  table t := (t.lines lexicon width).mapError MarkupFault.exception

/-- No names between colons, and no fault in parameters. -/
def Lexicon.empty : Lexicon := ⟨fun _ => none, fun _ => none⟩

end ModuleDocs.Console
