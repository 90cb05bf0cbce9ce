import ModuleDocs.Storage.Source

/-!
# Places in a YAML text

A cursor on a text, with its line and column, and the small steps that scalars are read by. Reading fails
without a report: a text that is not YAML is refused as a whole.
-/

namespace ModuleDocs.Yaml

/-- A place in a text. -/
structure Cursor where
  rest : Text
  index : Nat
  line : Nat
  column : Nat
  deriving Repr

def isBreak (c : CodePoint) : Bool :=
  c.val == 0x0A || c.val == 0x0D || c.val == 0x85 || c.val == 0x2028 || c.val == 0x2029

def isIn (s : String) (c : CodePoint) : Bool := s.toList.any fun d => c == CodePoint.ofChar d

namespace Cursor

def start (t : Text) : Cursor := ⟨t, 0, 0, 0⟩

def peek (c : Cursor) (n : Nat) : Option CodePoint := c.rest[n]?

def sees (c : Cursor) (n : Nat) (d : Char) : Bool := c.peek n == some (CodePoint.ofChar d)

/-- Whether the code point at a distance satisfies a condition; there is none at the end. -/
def has (c : Cursor) (n : Nat) (p : CodePoint → Bool) : Bool := (c.peek n).any p

/-- Whether at a distance there is a blank, a line break or the end. -/
def endsWord (c : Cursor) (n : Nat) : Bool := (c.peek n).all fun d => isIn " \t" d || isBreak d

def endsLine (c : Cursor) (n : Nat) : Bool := (c.peek n).all isBreak

def next (c : Cursor) : Cursor :=
  match c.rest with
  | [] => c
  | d :: ds =>
    let breaks := isBreak d && !(d == CodePoint.ofChar '\r' && ds.head? == some (CodePoint.ofChar '\n'))
    if breaks then ⟨ds, c.index + 1, c.line + 1, 0⟩
    else ⟨ds, c.index + 1, c.line, if d.val = 0xFEFF then c.column else c.column + 1⟩

def forward (c : Cursor) : Nat → Cursor
  | 0 => c
  | n + 1 => c.next.forward n

/-- The text up to the first code point that satisfies a condition. -/
def upTo (c : Cursor) (p : CodePoint → Bool) : Text := c.rest.takeWhile fun d => !p d

def skip (c : Cursor) (p : CodePoint → Bool) : Cursor := c.forward (c.rest.takeWhile p).length

/-- A line break as text, and the place after it. Most breaks count as a line feed. -/
def lineBreak (c : Cursor) : Text × Cursor :=
  match c.peek 0 with
  | none => ([], c)
  | some d =>
    if d = CodePoint.ofChar '\r' ∧ c.sees 1 '\n' then ("\n", c.forward 2)
    else if d.val = 0x2028 ∨ d.val = 0x2029 then ([d], c.next)
    else if isBreak d then ("\n", c.next)
    else ([], c)

def atMarker (c : Cursor) : Bool :=
  let three := c.rest.take 3
  (three == Text.ofString "---" || three == Text.ofString "...") && c.endsWord 3

end Cursor

/-! ### Quoted scalars -/

def simpleEscape? (c : CodePoint) : Option CodePoint :=
  let table : List (Char × Nat) :=
    [('0', 0), ('a', 7), ('b', 8), ('t', 9), ('\t', 9), ('n', 10), ('v', 11), ('f', 12), ('r', 13), ('e', 27),
      (' ', 32), ('"', 34), ('\\', 92), ('/', 47), ('N', 0x85), ('_', 0xA0), ('L', 0x2028), ('P', 0x2029)]
  (table.find? fun e => c == CodePoint.ofChar e.1).map fun e => CodePoint.ofNat e.2

def escapeWidth? (c : CodePoint) : Option Nat :=
  if c = CodePoint.ofChar 'x' then some 2
  else if c = CodePoint.ofChar 'u' then some 4
  else if c = CodePoint.ofChar 'U' then some 8
  else none

def hexValue? (c : CodePoint) : Option Nat :=
  let n := c.val
  if 0x30 ≤ n ∧ n ≤ 0x39 then some (n - 0x30)
  else if 0x41 ≤ n ∧ n ≤ 0x46 then some (n - 0x37)
  else if 0x61 ≤ n ∧ n ≤ 0x66 then some (n - 0x57)
  else none

def hexNumber? (t : Text) : Option Nat := t.foldlM (fun n c => (hexValue? c).map (n * 16 + ·)) 0

def quotedBreaks : Nat → Cursor → Option (Text × Cursor)
  | 0, _ => none
  | fuel + 1, c =>
    if c.atMarker then none
    else
      let c := c.skip (isIn " \t")
      if c.has 0 isBreak then do
        let (b, c) := c.lineBreak
        let (bs, c) ← quotedBreaks fuel c
        return (b ++ bs, c)
      else some ([], c)

/-- Blanks and line breaks inside quotes: breaks are folded. -/
def quotedSpaces (c : Cursor) : Option (Text × Cursor) :=
  let blanks := c.rest.takeWhile (isIn " \t")
  let c := c.forward blanks.length
  match c.peek 0 with
  | none => none
  | some d =>
    if isBreak d then do
      let (b, c) := c.lineBreak
      let (bs, c) ← quotedBreaks (c.rest.length + 1) c
      let joint : Text := if b ≠ Text.ofString "\n" then b else if bs.isEmpty then " " else []
      return (joint ++ bs, c)
    else some (blanks, c)

/-- Code points inside quotes up to a blank, a break, or the end of the scalar. -/
def quotedWord (double : Bool) : Nat → Cursor → Option (Text × Cursor)
  | 0, _ => none
  | fuel + 1, c =>
    let stops (d : CodePoint) : Bool := isIn "'\"\\ \t" d || isBreak d
    let word := c.upTo stops
    let c := c.forward word.length
    let go (t : Text) (c : Cursor) : Option (Text × Cursor) := do
      let (more, c) ← quotedWord double fuel c
      return (word ++ t ++ more, c)
    if !double && c.sees 0 '\'' && c.sees 1 '\'' then go "'" (c.forward 2)
    else if (double && c.sees 0 '\'') || (!double && c.has 0 (isIn "\"\\")) then go (c.rest.take 1) c.next
    else if double && c.sees 0 '\\' then
      match c.peek 1 with
      | none => none
      | some e =>
        match simpleEscape? e, escapeWidth? e with
        | some d, _ => go [d] (c.forward 2)
        | none, some width => do
          let digits := (c.forward 2).rest.take width
          let n ← hexNumber? digits
          if digits.length = width ∧ n < 0x110000 then go [CodePoint.ofNat n] (c.forward (2 + width)) else none
        | none, none =>
          if isBreak e then do
            let (bs, c) ← quotedBreaks (c.rest.length + 1) c.next.lineBreak.2
            go bs c
          else none
    else some (word, c)

def quotedRest (double : Bool) : Nat → Cursor → Option (Text × Cursor)
  | 0, _ => none
  | fuel + 1, c => do
    let (word, c) ← quotedWord double (c.rest.length + 1) c
    if c.sees 0 (if double then '"' else '\'') then return (word, c.next)
    else
      let (spaces, c) ← quotedSpaces c
      let (more, c) ← quotedRest double fuel c
      return (word ++ spaces ++ more, c)

def quoted (double : Bool) (c : Cursor) : Option (Text × Cursor) :=
  quotedRest double (c.rest.length + 1) c.next

/-! ### Block scalars -/

/-- What becomes of line breaks at the end of a block scalar. -/
inductive Chomping where
  | clip
  | strip
  | keep
  deriving Repr, DecidableEq

/-- Signs after the mark of a block scalar: chomping and indentation. -/
def blockSigns (c : Cursor) : Option (Chomping × Option Nat × Cursor) := do
  let sign? (c : Cursor) : Option Chomping :=
    if c.sees 0 '+' then some .keep else if c.sees 0 '-' then some .strip else none
  let digit? (c : Cursor) : Option Nat :=
    (c.peek 0).bind fun d => if 0x30 ≤ d.val ∧ d.val ≤ 0x39 then some (d.val - 0x30) else none
  let (chomping, c) :=
    match sign? c with
    | some s => (s, c.next)
    | none => (Chomping.clip, c)
  let (width, c) :=
    match digit? c with
    | some n => (some n, c.next)
    | none => (none, c)
  let (chomping, c) :=
    match chomping, sign? c with
    | .clip, some s => if width.isSome then (s, c.next) else (.clip, c)
    | s, _ => (s, c)
  if width = some 0 then failure
  if c.sees 0 ' ' || c.endsLine 0 then return (chomping, width, c) else failure

/-- The rest of the line with the mark: blanks and a comment. -/
def blockHeaderEnd (c : Cursor) : Option Cursor :=
  let c := c.skip (isIn " ")
  let c := if c.sees 0 '#' then c.skip fun d => !isBreak d else c
  if c.endsLine 0 then some c.lineBreak.2 else none

/-- Blank lines before the content, and the greatest column reached in them. -/
def blockLead (widest : Nat) : Nat → Cursor → Text × Nat × Cursor
  | 0, c => ([], widest, c)
  | fuel + 1, c =>
    if c.has 0 isBreak then
      let (b, c) := c.lineBreak
      let (bs, w, c) := blockLead widest fuel c
      (b ++ bs, w, c)
    else if c.sees 0 ' ' then blockLead (max widest c.next.column) fuel c.next
    else ([], widest, c)

/-- Blank lines between lines of content. -/
def blockBreaks (indent : Nat) : Nat → Cursor → List Text × Cursor
  | 0, c => ([], c)
  | fuel + 1, c =>
    let c := c.forward (min (c.rest.takeWhile (isIn " ")).length (indent - c.column))
    if c.has 0 isBreak then
      let (b, c) := c.lineBreak
      let (bs, c) := blockBreaks indent fuel c
      (b :: bs, c)
    else ([], c)

def blockLines (folded : Bool) (indent : Nat) (chomping : Chomping) (breaks : List Text) :
    Nat → Cursor → Text × Cursor
  | 0, c => ([], c)
  | fuel + 1, c =>
    if c.column = indent ∧ !c.rest.isEmpty then
      let plain := !c.has 0 (isIn " \t")
      let content := c.upTo isBreak
      let (ending, c) := (c.forward content.length).lineBreak
      let (after, c) := blockBreaks indent (c.rest.length + 1) c
      let goesOn := decide (c.column = indent) && !c.rest.isEmpty
      if goesOn then
        let joint : Text :=
          if folded && ending == Text.ofString "\n" && plain && !c.has 0 (isIn " \t") then
            if after.isEmpty then " " else []
          else ending
        let (more, c) := blockLines folded indent chomping after fuel c
        (breaks.flatten ++ content ++ joint ++ more, c)
      else
        let tail : Text :=
          match chomping with
          | .strip => []
          | .clip => ending
          | .keep => ending ++ after.flatten
        (breaks.flatten ++ content ++ tail, c)
    else if chomping = .keep then (breaks.flatten, c)
    else ([], c)

/-- A block scalar below the given number of columns. -/
def block (folded : Bool) (least : Nat) (c : Cursor) : Option (Text × Cursor) := do
  let (chomping, width, c) ← blockSigns c.next
  let c ← blockHeaderEnd c
  let least := max 1 least
  match width with
  | none =>
    let (breaks, widest, c) := blockLead 0 (c.rest.length + 1) c
    return blockLines folded (max least widest) chomping [breaks] (c.rest.length + 1) c
  | some w =>
    let indent := least + w - 1
    let (breaks, c) := blockBreaks indent (c.rest.length + 1) c
    return blockLines folded indent chomping breaks (c.rest.length + 1) c

/-! ### Plain scalars -/

/-- Blanks and line breaks inside a plain scalar: none if the scalar ends here. The flag says that a line was
broken. -/
def plainSpaces (c : Cursor) : Option Text × Bool × Cursor :=
  let blanks := c.rest.takeWhile (isIn " ")
  let c := c.forward blanks.length
  if c.has 0 isBreak then
    let (b, c) := c.lineBreak
    if c.atMarker then (none, true, c)
    else
      let rec lines : Nat → Cursor → Option Text × Cursor
        | 0, c => (some [], c)
        | fuel + 1, c =>
          if c.sees 0 ' ' then lines fuel c.next
          else if c.has 0 isBreak then
            let (b, c) := c.lineBreak
            if c.atMarker then (none, c)
            else
              let (bs, c) := lines fuel c
              (bs.map (b ++ ·), c)
          else (some [], c)
      let (bs, c) := lines (c.rest.length + 1) c
      let joined := bs.map fun bs =>
        (if b ≠ Text.ofString "\n" then b else if bs.isEmpty then Text.ofString " " else []) ++ bs
      (joined, true, c)
  else (if blanks.isEmpty then none else some blanks, false, c)

def plainWord (inFlow : Bool) : Text → Nat
  | [] => 0
  | c :: cs =>
    let wordEnd := (cs.head?).all fun d => isIn " \t" d || isBreak d || (inFlow && isIn ",[]\x7b\x7d" d)
    if isIn " \t" c || isBreak c || (c == CodePoint.ofChar ':' && wordEnd) ||
        (inFlow && isIn ",?[]\x7b\x7d" c) then 0
    else plainWord inFlow cs + 1

/-- The rest of a plain scalar, after blanks that belong to it if it goes on. The flag says whether a line
was broken after the last word. -/
def plainRest (inFlow : Bool) (indent : Nat) (spaces : Text) (broken : Bool) :
    Nat → Cursor → Text × Bool × Cursor
  | 0, c => ([], broken, c)
  | fuel + 1, c =>
    let length := if c.sees 0 '#' then 0 else plainWord inFlow c.rest
    if length = 0 then ([], broken, c)
    else
      let word := c.rest.take length
      let (more, broken, c) := plainSpaces (c.forward length)
      match more with
      | none => (spaces ++ word, broken, c)
      | some blanks =>
        if c.sees 0 '#' || (!inFlow && decide (c.column < indent)) then (spaces ++ word, broken, c)
        else
          let (t, broken, c) := plainRest inFlow indent blanks broken fuel c
          (spaces ++ word ++ t, broken, c)

/-- A plain scalar, with the flag that a line was broken after it. -/
def plain (inFlow : Bool) (indent : Nat) (c : Cursor) : Text × Bool × Cursor :=
  plainRest inFlow indent [] false (c.rest.length + 1) c

end ModuleDocs.Yaml
