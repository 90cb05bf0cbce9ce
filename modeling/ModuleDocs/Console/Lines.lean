import ModuleDocs.Text.Blank
import ModuleDocs.Text.Width

/-!
# Lines of a console

A console shows a text in lines of a bounded width. A line is cut before a word that does not fit on it. A word that
fits on no line is cut into pieces, or cut short with an ellipsis.
-/

namespace ModuleDocs.Console

/-! ### Pieces of bounded width -/

/-- Cuts a text into pieces of a width, with what stands on the first piece already. -/
def chopFrom (width : Nat) (line : Text) : Text → List Text
  | [] => [line]
  | c :: cs =>
    if line.cells + c.cells ≤ width then chopFrom width (line ++ [c]) cs else line :: chopFrom width [c] cs

def chop (width : Nat) (t : Text) : List Text := chopFrom width [] t

def crop (width : Nat) (t : Text) : Text := (chop width t).headD []

theorem flatten_chopFrom (width : Nat) (line t : Text) : (chopFrom width line t).flatten = line ++ t := by
  induction t generalizing line with
  | nil => simp [chopFrom]
  | cons c cs ih =>
    rw [chopFrom]
    split
    · simp [ih]
    · simp [ih]

theorem flatten_chop (width : Nat) (t : Text) : (chop width t).flatten = t := by
  simp [chop, flatten_chopFrom]

theorem chopFrom_ne_nil (width : Nat) (line t : Text) : chopFrom width line t ≠ [] := by
  induction t generalizing line with
  | nil => simp [chopFrom]
  | cons c cs ih =>
    rw [chopFrom]
    split
    · exact ih _
    · simp

/-! ### Words -/

def afterWord (t : Text) : Text :=
  ((t.dropWhile CodePoint.isBlank).dropWhile fun c => !c.isBlank).dropWhile CodePoint.isBlank

theorem length_afterWord_lt {t : Text} (h : t.dropWhile CodePoint.isBlank ≠ []) :
    (afterWord t).length < t.length := by
  have h1 : (t.dropWhile CodePoint.isBlank).length ≤ t.length := (List.dropWhile_sublist _).length_le
  have hc := List.head_dropWhile_not CodePoint.isBlank h
  obtain ⟨c, cs, hs⟩ := List.exists_cons_of_ne_nil h
  have hb : c.isBlank = false := by simpa [hs] using hc
  have h2 : (afterWord t).length ≤ ((c :: cs).dropWhile fun c => !c.isBlank).length := by
    rw [afterWord, hs]
    exact (List.dropWhile_sublist _).length_le
  have h3 : ((c :: cs).dropWhile fun c => !c.isBlank).length ≤ cs.length := by
    simp only [List.dropWhile_cons, hb, Bool.not_false, ↓reduceIte]
    exact (List.dropWhile_sublist _).length_le
  rw [hs, List.length_cons] at h1
  omega

/-- The words of a text, each with the blanks after it, and the first with those before it. A text of
blanks has none. -/
def words (t : Text) : List Text :=
  if h : t.dropWhile CodePoint.isBlank = [] then []
  else
    have := length_afterWord_lt h
    t.take (t.length - (afterWord t).length) :: words (afterWord t)
termination_by t.length

/-! ### Lines -/

/-- What becomes of a word that fits on no line. -/
inductive Overflow where
  /-- It goes on on the next line. -/
  | fold
  /-- It is cut short. -/
  | ellipsis
  deriving Repr, DecidableEq

def Overflow.pieces (width : Nat) (word : Text) : Overflow → List Text
  | fold => chop width word
  | ellipsis => [word]

/-- Lays out words, with what stands on the current line already. -/
def fill (overflow : Overflow) (width : Nat) (line : Text) : List Text → List Text
  | [] => [line]
  | word :: rest =>
    let length := word.stripRight.cells
    if line.cells + length ≤ width then fill overflow width (line ++ word) rest
    else if width < length then
      let pieces := overflow.pieces width word
      (if line.isEmpty then [] else [line]) ++ pieces.dropLast ++ fill overflow width (pieces.getLastD []) rest
    else line :: fill overflow width word rest

def tabWidth : Nat := 8

/-- A line with blanks in place of tabs, up to the next tab stop. -/
def expandTabs (column : Nat) : Text → Text
  | [] => []
  | c :: cs =>
    if c = CodePoint.ofChar '\t' then
      let n := tabWidth - column % tabWidth
      Text.blanks n ++ expandTabs (column + n) cs
    else c :: expandTabs (column + c.cells) cs

/-- A line without those blanks at its end that are beyond a number of code points. -/
def trimEnd (count : Nat) (line : Text) : Text :=
  let blanks := line.length - line.stripRight.length
  line.take (line.length - min blanks (line.length - count))

def wrapLine (overflow : Overflow) (width : Nat) (line : Text) : List Text :=
  match words line with
  | [] => [line]
  | ws => fill overflow width [] ws

def wrap (overflow : Overflow) (width : Nat) (t : Text) : List Text :=
  (t.splitOn (CodePoint.ofChar '\n')).flatMap fun line =>
    (wrapLine overflow width (expandTabs 0 line)).map (trimEnd width)

/-- A text in a number of cells: its start, or all of it with blanks after it. -/
def inCells (width : Nat) (t : Text) : Text :=
  let kept := crop width t
  kept ++ Text.blanks (width - kept.cells)

/-- A line that does not exceed a width, cut if it would. -/
def cut (overflow : Overflow) (width : Nat) (line : Text) : Text :=
  if line.cells ≤ width then line
  else
    match overflow with
    | .fold => inCells width line
    | .ellipsis => inCells (width - 1) line ++ Text.ofString "…"

/-! ### Alignment -/

/-- Where a line stands in its width. -/
inductive Align where
  | left
  | center
  | right
  deriving Repr, DecidableEq

namespace Align

def place (overflow : Overflow) (width : Nat) (line : Text) : Align → Text
  | left =>
    let line := cut overflow width line
    line ++ Text.blanks (width - line.cells)
  | center =>
    let line := cut overflow width line.stripRight
    let room := width - line.cells
    Text.blanks (room / 2) ++ line ++ Text.blanks (room - room / 2)
  | right =>
    let line := cut overflow width line.stripRight
    Text.blanks (width - line.cells) ++ line

end Align

end ModuleDocs.Console
