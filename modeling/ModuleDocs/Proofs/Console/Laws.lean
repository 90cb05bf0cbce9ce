import Mathlib.Algebra.GroupWithZero.Nat
import ModuleDocs.Console.Printer
import ModuleDocs.Proofs.Faults
import ModuleDocs.Proofs.Text.Encoding

/-!
# What is asked of a printer

What is said about commands rests on a few laws of the printer. They cover texts whose markup is plain to see, and
tables that fit the console; how other texts and tables come out is left to the printer. The printer of a console
keeps them: `printer_lawful`.
-/

namespace ModuleDocs.Console

open Markup Text

/-! ### Texts -/

/-- A text without markup. -/
structure Literal (t : Text) : Prop where
  /-- No tag starts in the text. -/
  tagless : ∀ rest, rest <:+ t → tagContent? rest = none
  /-- No backslash stands before a bracket. -/
  unescaped : ∀ rest, ¬ (backslash :: opening :: rest) <:+ t
  /-- There is a blank between any two colons. -/
  codeless : ∀ code rest, (colon :: (code ++ colon :: rest)) <:+ t → ∃ c ∈ code, c.isBlank = true
  /-- No control is left out. -/
  kept : ∀ c ∈ t, isDropped c = false

/-- What stands between the brackets of a tag that starts a style. -/
structure StyleTag (content : Text) : Prop where
  small : ∃ c, content.head? = some c ∧ 0x61 ≤ c.val ∧ c.val ≤ 0x7A
  unbracketed : opening ∉ content ∧ closing ∉ content
  /-- No colour is given by numbers. -/
  unnumbered : CodePoint.ofChar '(' ∉ content

/-- What is shown of a text with tags that start styles. -/
inductive Shows : Text → Text → Prop where
  | literal {t : Text} : Literal t → Shows t t
  | tag {before content after shown : Text} : Literal before → before.getLast? ≠ some backslash → StyleTag content →
      Shows after shown → Shows (before ++ opening :: (content ++ closing :: after)) (before ++ shown)

/-- The first tag of a text ends a style. -/
inductive Stray : Text → Prop where
  | mk {before content after : Text} : Literal before → before.getLast? ≠ some backslash →
      content.head? = some (CodePoint.ofChar '/') → opening ∉ content → closing ∉ content →
      Stray (before ++ opening :: (content ++ closing :: after))

/-! ### Tables -/

namespace Table

def texts (t : Table) : List Text := t.title :: (t.columns.map Column.heading ++ t.rows.flatten)

def Rectangular (t : Table) : Prop := ∀ row ∈ t.rows, row.length = t.columns.length

def columnTexts (t : Table) (column : Column × Nat) : List Text :=
  column.1.heading :: t.rows.map fun row => (row[column.2]?).getD []

end Table

/-- A text that stays as it is where there is room for it. -/
structure OneLine (cells : CodePoint → Nat) (t : Text) : Prop where
  unbroken : ∀ c ∈ t, c.endsLine = false
  untabbed : CodePoint.ofChar '\t' ∉ t
  /-- Blanks at the end are not beyond the width, even if code points are counted instead of cells. -/
  ended : t.length ≤ t.total cells ∨ t.stripRight = t

namespace Printer

variable (p : Printer) (width : Nat) (cells : CodePoint → Nat)

/-- What is shown of a text, nothing if it cannot be shown. -/
def display (t : Text) : Text := (p.shown t).toOption.getD []

def columnWidth (texts : List Text) : Nat :=
  (texts.map fun x => (p.display x).total cells).foldl max 0 + Table.padding

/-- The widths of the columns of a table that has room for its texts. -/
def columnWidths (t : Table) : List Nat := t.columns.zipIdx.map fun column => p.columnWidth cells (t.columnTexts column)

/-- A table that the console has room for. -/
structure Fits (t : Table) : Prop where
  room : (p.columnWidths cells t).sum + t.columns.length + 1 ≤ width
  single : ∀ column ∈ t.columns.zipIdx, ∀ x ∈ t.columnTexts column, OneLine cells (p.display x)

/-- A row on one line, in columns of some widths. -/
def rowLine (divider : String) (ws : List Nat) (row : List Text) : Text :=
  Table.line divider divider divider ((ws.zip row).map fun (w, x) =>
    let cell := p.display x
    blanks 1 ++ (cell ++ blanks (w - Table.padding - cell.total cells)) ++ blanks 1)

/-- A table without its title, each row on one line. -/
def boxed (t : Table) : List Text :=
  let ws := p.columnWidths cells t
  [Table.rule "┏" "━" "┳" "┓" ws, p.rowLine cells "┃" ws (t.columns.map Column.heading),
    Table.rule "┡" "━" "╇" "┩" ws] ++
    t.rows.map (p.rowLine cells "│" ws) ++ [Table.rule "└" "─" "┴" "┘" ws]

/-- The laws of a printer for a console of some width. -/
structure Lawful : Prop where
  /-- Tags that start styles are left out, and nothing else is. -/
  shows : ∀ {t u : Text}, Shows t u → p.shown t = .ok u
  /-- A tag that ends what was not started is a fault. -/
  stray : ∀ {t : Text}, Stray t → ∃ e, p.shown t = .error e
  /-- Tables have the faults of their texts. -/
  fails : ∀ {t : Table}, t.Rectangular → FailsOn (p.table t) fun e => ∃ x ∈ t.texts, p.shown x = .error e
  /-- Tables add no surrogate. -/
  encoded : ∀ {t : Table} {ls : List Text}, t.Rectangular → p.table t = .ok ls →
    (∀ x ∈ t.texts, HasEncoding (p.display x)) → ∀ l ∈ ls, HasEncoding l
  /-- A table that fits has its rows in a box, below its title. -/
  rows : ∀ {t : Table} {ls : List Text}, t.Rectangular → t.columns ≠ [] → (∀ c ∈ t.columns, c.align = .left) →
    p.Fits width cells t → p.table t = .ok ls → ∃ title, ls = title ++ p.boxed cells t

end Printer

end ModuleDocs.Console
