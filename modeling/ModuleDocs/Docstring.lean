import ModuleDocs.Source.Stmt
import ModuleDocs.Text.Blank

/-!
# Docstrings

The comment that a string literal gives to a declaration: tabs are expanded, the indentation that all lines
after the first have in common is removed, and so are empty lines at both ends.
-/

namespace ModuleDocs.Docstring

open Source

def tabWidth : Nat := 8

/-- The text with every tab replaced by blanks up to the next stop, from a column on. -/
def expandTabs (column : Nat) : Text → Text
  | [] => []
  | c :: cs =>
    if c.val = 0x09 then
      let gap := tabWidth - column % tabWidth
      List.replicate gap (CodePoint.ofChar ' ') ++ expandTabs (column + gap) cs
    else if c.val = 0x0A ∨ c.val = 0x0D then c :: expandTabs 0 cs
    else c :: expandTabs (column + 1) cs

def indentation? (line : Text) : Option Nat :=
  let content := line.stripLeft
  if content.isEmpty then none else some (line.length - content.length)

def margin? (lines : List Text) : Option Nat := (lines.filterMap indentation?).min?

/-- Removes indentation: all of it from the first line, the common part from the others. -/
def dedent : List Text → List Text
  | [] => []
  | first :: rest => first.stripLeft :: rest.map fun l => l.drop ((margin? rest).getD 0)

def trimLines (lines : List Text) : List Text :=
  ((lines.reverse.dropWhile List.isEmpty).reverse).dropWhile List.isEmpty

def clean (t : Text) : Text :=
  let newline := CodePoint.ofChar '\n'
  Text.join [newline] (trimLines (dedent ((expandTabs 0 t).splitOn newline)))

def literal? : Stmt → Option Text
  | .expr e => e.string?
  | _ => none

/-- The comment of a body: its first statement, if that is a string literal. -/
def ofBody (body : List Stmt) : Option Text := (body.head?.bind literal?).map clean

end ModuleDocs.Docstring
