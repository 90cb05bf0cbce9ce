import ModuleDocs.Yaml.Cursor

/-!
# YAML tokens

The tokens of a YAML text. Indentation becomes tokens that open and close blocks. Whether a scalar is the key
of a mapping is known only at the colon after it, so the token for a key is put before tokens that have been
read already.
-/

namespace ModuleDocs.Yaml

/-- A token. -/
inductive Token where
  | directive (name : Text) (arguments : List Text)
  | documentStart
  | documentEnd
  | blockSequence
  | blockMapping
  | blockEnd
  | flowSequence
  | flowMapping
  | flowSequenceEnd
  | flowMappingEnd
  | blockEntry
  | flowEntry
  | key
  | value
  | reference (name : Text)
  | anchor (name : Text)
  | tag (handle : Option Text) (suffix : Text)
  | scalar (plain : Bool) (t : Text)
  deriving Repr, DecidableEq

/-- A place where a key may have started. -/
structure KeyPlace where
  /-- The number of tokens before it. -/
  tokens : Nat
  /-- It starts a line of a block, so it has to be a key. -/
  required : Bool
  index : Nat
  line : Nat
  column : Nat
  deriving Repr

/-- How far the reading of tokens has come. -/
structure Scan where
  cursor : Cursor
  tokens : Array Token
  /-- The columns of the open blocks, the innermost first. -/
  indents : List Nat
  /-- The number of open brackets. -/
  flow : Nat
  /-- Whether a key may start here. -/
  keyAllowed : Bool
  /-- The places where keys may have started, for every number of open brackets. -/
  keys : List (Nat × KeyPlace)

namespace Scan

def start (t : Text) : Scan := ⟨Cursor.start t, #[], [], 0, true, []⟩

def push (s : Scan) (t : Token) : Scan := { s with tokens := s.tokens.push t }

/-- Adds a token and goes on by some code points. -/
def take (s : Scan) (t : Token) (n : Nat) : Scan :=
  { s with tokens := s.tokens.push t, cursor := s.cursor.forward n }

/-- Skips blanks, comments and line breaks. -/
def skipBlanks : Nat → Scan → Scan
  | 0, s => s
  | fuel + 1, s =>
    let c := s.cursor.skip (isIn " ")
    let c := if c.sees 0 '#' then c.skip fun d => !isBreak d else c
    if c.has 0 isBreak then
      skipBlanks fuel { s with cursor := c.lineBreak.2, keyAllowed := s.keyAllowed || s.flow == 0 }
    else { s with cursor := c }

/-- Gives up places for keys that are on another line or too far away. -/
def dropStale (s : Scan) : Option Scan :=
  let stale (p : KeyPlace) : Bool := p.line != s.cursor.line || decide (1024 < s.cursor.index - p.index)
  if s.keys.any fun k => stale k.2 && k.2.required then none
  else some { s with keys := s.keys.filter fun k => !stale k.2 }

/-- Closes blocks that are further in than a column; without a column, all of them. -/
def closeBlocks (column : Option Nat) : Nat → Scan → Scan
  | 0, s => s
  | fuel + 1, s =>
    match s.flow, s.indents with
    | 0, i :: outer =>
      if column.all (· < i) then closeBlocks column fuel ({ s with indents := outer }.push .blockEnd) else s
    | _, _ => s

/-- Opens a block at a column, unless it is open. -/
def opensBlock (s : Scan) (column : Nat) : Bool := s.indents.head?.all (· < column)

/-- Gives up the place for a key at this number of brackets. -/
def dropKey (s : Scan) : Option Scan :=
  match s.keys.lookup s.flow with
  | some p => if p.required then none else some { s with keys := s.keys.filter fun k => k.1 != s.flow }
  | none => some s

def noteKey (s : Scan) : Option Scan :=
  if s.keyAllowed then do
    let s ← s.dropKey
    let required := s.flow == 0 && s.indents.head? == some s.cursor.column
    let p : KeyPlace := ⟨s.tokens.size, required, s.cursor.index, s.cursor.line, s.cursor.column⟩
    return { s with keys := (s.flow, p) :: s.keys }
  else some s

/-- Opens a block here with a token, unless it is open. -/
def openBlock (s : Scan) (t : Token) : Scan :=
  if s.opensBlock s.cursor.column then { s with indents := s.cursor.column :: s.indents }.push t else s

def entry (s : Scan) : Option Scan := do
  let s ←
    if s.flow = 0 then
      if s.keyAllowed then some (s.openBlock .blockSequence) else none
    else some s
  let s ← s.dropKey
  return { s with keyAllowed := true }.take .blockEntry 1

def markedKey (s : Scan) : Option Scan := do
  let s ←
    if s.flow = 0 then
      if s.keyAllowed then some (s.openBlock .blockMapping) else none
    else some s
  let s ← s.dropKey
  return { s with keyAllowed := s.flow == 0 }.take .key 1

def valueMark (s : Scan) : Option Scan :=
  match s.keys.lookup s.flow with
  | some p =>
    let keys := s.keys.filter fun k => k.1 != s.flow
    let before := s.tokens.extract 0 p.tokens
    let after := s.tokens.extract p.tokens s.tokens.size
    let opens := s.flow == 0 && s.opensBlock p.column
    let marks := if opens then #[Token.blockMapping, .key] else #[Token.key]
    let indents := if opens then p.column :: s.indents else s.indents
    some ({ s with keys, indents, tokens := before ++ marks ++ after, keyAllowed := false }.take .value 1)
  | none => do
    let s ←
      if s.flow = 0 then
        if s.keyAllowed then some (s.openBlock .blockMapping) else none
      else some s
    let s ← s.dropKey
    return { s with keyAllowed := s.flow == 0 }.take .value 1

def openBracket (s : Scan) (t : Token) : Option Scan := do
  let s ← s.noteKey
  return { s with flow := s.flow + 1, keyAllowed := true }.take t 1

def closeBracket (s : Scan) (t : Token) : Option Scan := do
  let s ← s.dropKey
  if s.flow = 0 then none else return { s with flow := s.flow - 1, keyAllowed := false }.take t 1

def atTop (s : Scan) (t : Token) (n : Nat) : Option Scan := do
  let s := closeBlocks none (s.indents.length + 1) s
  let s ← s.dropKey
  return { s with keyAllowed := false }.take t n

def addScalar (s : Scan) (plain : Bool) (r : Text × Cursor) : Scan :=
  { s with cursor := r.2 }.push (.scalar plain r.1)

/-! ### Names, tags and directives -/

/-- Letters, digits, hyphens and underscores. -/
def isNamePoint (c : CodePoint) : Bool := c.toChar?.any fun d => d.isAlphanum || d == '-' || d == '_'

def anchorName (c : Cursor) : Option (Text × Cursor) :=
  let name := c.next.rest.takeWhile isNamePoint
  let after := c.next.forward name.length
  if !name.isEmpty && (after.endsWord 0 || after.has 0 (isIn "?:,]\x7d%@`")) then some (name, after) else none

def isTagPoint (c : CodePoint) : Bool := c.toChar?.any fun d => d.isAlphanum || "-;/?:@&=+$,_.!~*'()[]%".contains d

def tagToken (c : Cursor) : Option (Token × Cursor) := do
  let body (c : Cursor) : Option (Text × Cursor) :=
    let t := c.rest.takeWhile isTagPoint
    if t.isEmpty then none else some (t, c.forward t.length)
  let (token, after) ←
    if c.sees 1 '<' then do
      let (t, after) ← body (c.forward 2)
      if after.sees 0 '>' then some (Token.tag none t, after.next) else none
    else if c.endsWord 1 then some (Token.tag none "!", c.next)
    else
      let word := (c.next.rest).takeWhile fun d => !(isIn " " d || isBreak d)
      if word.contains (CodePoint.ofChar '!') then do
        let name := c.next.rest.takeWhile isNamePoint
        let mark := c.forward (name.length + 1)
        if mark.sees 0 '!' then
          let (t, after) ← body mark.next
          some (Token.tag (some ("!" ++ name ++ "!")) t, after)
        else none
      else do
        let (t, after) ← body c.next
        some (Token.tag (some "!") t, after)
  if after.sees 0 ' ' || after.endsLine 0 then return (token, after) else failure

def directiveToken (c : Cursor) : Option (Token × Cursor) :=
  let line := (c.next.upTo isBreak)
  let after := c.next.forward line.length
  let words := ((line.splitOn (CodePoint.ofChar ' ')).filter fun w => !w.isEmpty).takeWhile fun w =>
    w.head? != some (CodePoint.ofChar '#')
  match words with
  | [] => none
  | name :: arguments => if name.all isNamePoint then some (.directive name arguments, after) else none

/-! ### All tokens -/

def startsPlain (s : Scan) : Bool :=
  let c := s.cursor
  (!c.endsWord 0 && !c.has 0 (isIn "-?:,[]\x7b\x7d#&*!|>'\"%@`")) ||
    (!c.endsWord 1 && (c.sees 0 '-' || (s.flow == 0 && c.has 0 (isIn "?:"))))

/-- Reads one token, or more where blocks open or close. -/
def step (s : Scan) : Option Scan :=
  let c := s.cursor
  if c.sees 0 '%' && c.column == 0 then do
    let (t, after) ← directiveToken c
    let s ← s.atTop t 0
    return { s with cursor := after }
  else if c.column == 0 && c.atMarker then
    s.atTop (if c.sees 0 '-' then .documentStart else .documentEnd) 3
  else if c.sees 0 '[' then s.openBracket .flowSequence
  else if c.sees 0 '\x7b' then s.openBracket .flowMapping
  else if c.sees 0 ']' then s.closeBracket .flowSequenceEnd
  else if c.sees 0 '\x7d' then s.closeBracket .flowMappingEnd
  else if c.sees 0 ',' then do
    let s ← s.dropKey
    return { s with keyAllowed := true }.take .flowEntry 1
  else if c.sees 0 '-' && c.endsWord 1 then s.entry
  else if c.sees 0 '?' && (s.flow != 0 || c.endsWord 1) then s.markedKey
  else if c.sees 0 ':' && (s.flow != 0 || c.endsWord 1) then s.valueMark
  else if c.sees 0 '*' then do
    let s ← s.noteKey
    let (n, after) ← anchorName c
    return { s with keyAllowed := false, cursor := after }.push (.reference n)
  else if c.sees 0 '&' then do
    let s ← s.noteKey
    let (n, after) ← anchorName c
    return { s with keyAllowed := false, cursor := after }.push (.anchor n)
  else if c.sees 0 '!' then do
    let s ← s.noteKey
    let (t, after) ← tagToken c
    return { s with keyAllowed := false, cursor := after }.push t
  else if s.flow == 0 && (c.sees 0 '|' || c.sees 0 '>') then do
    let s ← s.dropKey
    let least := (s.indents.head?.map (· + 1)).getD 0
    let r ← block (c.sees 0 '>') least c
    return { s with keyAllowed := true }.addScalar false r
  else if c.sees 0 '\'' || c.sees 0 '"' then do
    let s ← s.noteKey
    let r ← quoted (c.sees 0 '"') c
    return { s with keyAllowed := false }.addScalar false r
  else if s.startsPlain then do
    let s ← s.noteKey
    let (t, broken, after) := plain (s.flow != 0) ((s.indents.head?.map (· + 1)).getD 0) c
    return { s with keyAllowed := broken }.addScalar true (t, after)
  else none

def all : Nat → Scan → Option (Array Token)
  | 0, _ => none
  | fuel + 1, s => do
    let s := skipBlanks (s.cursor.rest.length + 1) s
    let s ← s.dropStale
    let s := closeBlocks (some s.cursor.column) (s.indents.length + 1) s
    if s.cursor.rest.isEmpty then
      let s := closeBlocks none (s.indents.length + 1) s
      let s ← s.dropKey
      return s.tokens
    else all fuel (← s.step)

end Scan

def isAllowed (c : CodePoint) : Bool :=
  let n := c.val
  n == 0x09 || n == 0x0A || n == 0x0D || (0x20 ≤ n && n ≤ 0x7E) || n == 0x85 || (0xA0 ≤ n && n ≤ 0xD7FF) ||
    (0xE000 ≤ n && n ≤ 0xFFFD) || 0x10000 ≤ n

/-- The tokens of a text, if it has some. -/
def tokens? (t : Text) : Option (List Token) :=
  if t.all isAllowed then
    let t := if (t.head?.map Fin.val) == some 0xFEFF then t.drop 1 else t
    (Scan.all (t.length + 2) (Scan.start t)).map Array.toList
  else none

end ModuleDocs.Yaml
