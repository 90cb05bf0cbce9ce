import ModuleDocs.Console.Lines
import ModuleDocs.Console.Markup

/-!
# Tables

A table has a title, columns with headings, and rows of cells, all marked up. A column is as wide as its
widest cell, with a blank on each side. A table that does not fit the console has its widest columns narrowed
until it does; their cells go over several lines, and words that are still too long are cut short.
-/

namespace ModuleDocs.Console

/-- A column of a table. -/
structure Column where
  heading : Text
  align : Align
  deriving Repr, DecidableEq

/-- A table of marked-up texts. -/
structure Table where
  title : Text
  columns : List Column
  rows : List (List Text)
  deriving Repr, DecidableEq

namespace Table

/-! ### Widths -/

/-- The width that the lines of a text ask for, with what stands on the first one already. -/
def neededFrom (line : Nat) : Text → Nat
  | [] => line
  | c :: cs => if c.endsLine then max line (neededFrom 0 cs) else neededFrom (line + c.cells) cs

def needed (t : Text) : Nat := neededFrom 0 t

/-- A quotient rounded to the nearest whole number, of two equally near ones to the even one. -/
def nearest (a b : Nat) : Nat :=
  let q := a / b
  let r := a % b
  if 2 * r < b then q else if b < 2 * r then q + 1 else q + q % 2

/-- Takes a total off the columns of a width, in equal shares up to a limit. The count is that of the columns
which have not given yet. -/
def takeOff (width limit : Nat) : (total count : Nat) → List Nat → List Nat
  | _, _, [] => []
  | total, count, w :: ws =>
    if w = width then
      let share := min limit (nearest total count)
      (w - share) :: takeOff width limit (total - share) (count - 1) ws
    else w :: takeOff width limit total count ws

def span (ws : List Nat) : Nat := ws.foldl (· + ·) 0

/-- Narrows the widest columns towards the next narrower ones until all fit into the room. The first argument
bounds the number of rounds. -/
def narrow (room : Nat) : Nat → List Nat → List Nat
  | 0, ws => ws
  | rounds + 1, ws =>
    let excess := span ws - room
    if excess = 0 then ws
    else
      let widest := ws.foldl max 0
      let next := (ws.filter (· ≠ widest)).foldl max 0
      narrow room rounds (takeOff widest (min excess (widest - next)) excess (ws.count widest) ws)

def padding : Nat := 2

/-- The widths of columns, given the shown cells of each, on a console. -/
def widths (console : Nat) (columns : List (List Text)) : List Nat :=
  let room := console - (columns.length + 1)
  let natural := columns.map fun cells => min room ((cells.map needed).foldl max 0 + padding)
  narrow room (span natural) natural

/-! ### Lines -/

/-- A line of a table: pieces between a start, dividers and an end. -/
def line (start divider stop : String) (pieces : List Text) : Text :=
  start ++ Text.join divider pieces ++ stop

def rule (start mark divider stop : String) (widths : List Nat) : Text :=
  line start divider stop (widths.map fun w => (List.replicate w (Text.ofString mark)).flatten)

def cellLines (align : Align) (width : Nat) (cell : Text) : List Text :=
  (wrap .ellipsis (width - padding) cell).map fun l =>
    Text.blanks 1 ++ align.place .ellipsis (width - padding) l ++ Text.blanks 1

/-- The lines of a row: cells with fewer lines than others are blank below. -/
def rowLines (divider : String) (columns : List (Align × Nat)) (cells : List Text) : List Text :=
  let blocks := (columns.zip cells).map fun ((align, width), cell) => (width, cellLines align width cell)
  let height := (blocks.map fun b => b.2.length).foldl max 0
  (List.range height).map fun i =>
    line divider divider divider (blocks.map fun (width, ls) => (ls[i]?).getD (Text.blanks width))

def shownColumn (lexicon : Lexicon) (t : Table) (column : Column × Nat) : Except MarkupFault (List Text) :=
  (column.1.heading :: t.rows.map fun row => (row[column.2]?).getD []).mapM (Markup.plainText lexicon)

def shownRow (columns : List (List Text)) (i : Nat) : List Text := columns.map fun cells => (cells[i]?).getD []

def lines (lexicon : Lexicon) (console : Nat) (t : Table) : Except MarkupFault (List Text) := do
  let columns ← t.columns.zipIdx.mapM (t.shownColumn lexicon)
  let title ← Markup.plainText lexicon t.title
  let ws := widths console columns
  let shape := (t.columns.map Column.align).zip ws
  let whole := span ws + ws.length + 1
  return (wrap .fold whole title).map (fun l => Align.center.place .fold whole l) ++
    [rule "┏" "━" "┳" "┓" ws] ++
    rowLines "┃" shape (shownRow columns 0) ++
    [rule "┡" "━" "╇" "┩" ws] ++
    (List.range t.rows.length).flatMap (fun i => rowLines "│" shape (shownRow columns (i + 1))) ++
    [rule "└" "─" "┴" "┘" ws]

end Table

end ModuleDocs.Console
