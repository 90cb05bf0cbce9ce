import ModuleDocs.Storage.Source
import ModuleDocs.Text.Identifier

/-!
# Tokens of templates

The text of a template cut into plain text and the tokens of what stands between marks. The newline after a
statement or a comment belongs to it, and so do the blanks before one that starts a line.
-/

namespace ModuleDocs

/-- A token of a template. -/
inductive TemplateToken where
  | data (t : Text)
  | printBegin
  | printEnd
  | blockBegin
  | blockEnd
  | name (t : Text)
  | integer (n : Nat)
  | string (t : Text)
  | operator (t : Text)
  /-- A place that is no token, with a report. -/
  | broken (report : Text)
  deriving Repr, DecidableEq

namespace TemplateToken

def describe : TemplateToken → Text
  | data _ => "template data / text"
  | printBegin => "begin of print statement"
  | printEnd => "end of print statement"
  | blockBegin => "begin of statement block"
  | blockEnd => "end of statement block"
  | name t => t
  | integer _ => "integer"
  | string _ => "string"
  | operator t => t
  | broken report => report

/-! ### Plain text -/

/-- The marks that end plain text. -/
inductive Mark where
  | print
  | block
  | comment
  deriving Repr, DecidableEq

def mark? : Text → Option Mark
  | c :: d :: _ =>
    if c ≠ CodePoint.ofChar '\x7b' then none
    else if d = CodePoint.ofChar '\x7b' then some .print
    else if d = CodePoint.ofChar '%' then some .block
    else if d = CodePoint.ofChar '#' then some .comment
    else none
  | _ => none

/-- Plain text up to the first mark, the mark, and what comes after it. -/
def plain : Text → Text × Option (Mark × Text)
  | [] => ([], none)
  | c :: cs =>
    match mark? (c :: cs) with
    | some m => ([], some (m, cs.drop 1))
    | none =>
      let (t, rest) := plain cs
      (c :: t, rest)

/-- A text without the blanks of its last line, if that has nothing else. -/
def dropIndent (startsLine : Bool) (t : Text) : Text :=
  let last := (t.reverse.takeWhile (· != CodePoint.ofChar '\n')).reverse
  let hasLine := t.contains (CodePoint.ofChar '\n')
  if (hasLine || startsLine) && last.all CodePoint.isBlank then t.take (t.length - last.length) else t

/-- What stands after a mark, without a sign for the blanks before it, and the text before it as that sign
leaves it. -/
def beforeMark (m : Mark) (startsLine : Bool) (t rest : Text) : Text × Text :=
  if rest.head? = some (CodePoint.ofChar '-') then (t.stripRight, rest.drop 1)
  else if rest.head? = some (CodePoint.ofChar '+') then (t, rest.drop 1)
  else if m = .print then (t, rest)
  else (dropIndent startsLine t, rest)

/-! ### Between marks -/

/-- The two code points that end a part. -/
def closing : Mark → Text
  | .print => "\x7d\x7d"
  | .block => "%\x7d"
  | .comment => "#\x7d"

/-- What comes after the end of a part, if the text starts with one, and whether a line starts there. -/
def afterClosing? (m : Mark) (t : Text) : Option (Text × Bool) :=
  let close := closing m
  if ("-" ++ close).isPrefixOf t then
    let rest : Text := t.drop 3
    some (rest.stripLeft, (rest.takeWhile CodePoint.isBlank).getLast? == some (CodePoint.ofChar '\n'))
  else if ("+" ++ close).isPrefixOf t && m != .print then some (t.drop 3, false)
  else if close.isPrefixOf t then
    let rest := t.drop 2
    if m ≠ .print ∧ rest.head? = some (CodePoint.ofChar '\n') then some (rest.drop 1, true)
    else some (rest, false)
  else none

def afterComment : Text → Option (Text × Bool)
  | [] => none
  | c :: cs =>
    match afterClosing? .comment (c :: cs) with
    | some r => some r
    | none => afterComment cs

/-- The operators, the longer ones first. -/
def operators : List String :=
  ["//", "**", "==", "!=", ">=", "<=", "+", "-", "/", "*", "%", "~", "[", "]", "(", ")", "\x7b", "\x7d", ">",
    "<", "=", ".", ":", "|", ",", ";"]

def isNamePoint (c : CodePoint) : Bool := c.toChar?.any Identifier.isContinue

def isDigit (c : CodePoint) : Bool := 0x30 ≤ c.val && c.val ≤ 0x39

def digitsValue (t : Text) : Nat := t.foldl (fun n c => n * 10 + (c.val - 0x30)) 0

/-- The first token of a text between marks, and what comes after it. The number is the position of the text
in the template. -/
def first (position : Nat) (t : Text) : TemplateToken × Text :=
  match t with
  | [] => (.broken [], [])
  | c :: cs =>
    if isDigit c then (.integer (digitsValue (t.takeWhile isDigit)), t.dropWhile isDigit)
    else if isNamePoint c then (.name (t.takeWhile isNamePoint), t.dropWhile isNamePoint)
    else if (c = CodePoint.ofChar '\'' ∨ c = CodePoint.ofChar '"') ∧ cs.contains c then
      (.string (cs.takeWhile (· != c)), (cs.dropWhile (· != c)).drop 1)
    else
      match operators.find? fun o => (Text.ofString o).isPrefixOf t with
      | some o => (.operator o, t.drop o.length)
      | none =>
        (.broken ("unexpected char " ++ Text.ofString (Text.quoted [c]) ++ " at " ++ Text.ofNat position), [])

def partner? (o : Text) : Option Text :=
  if o = Text.ofString "(" then some ")"
  else if o = Text.ofString "[" then some "]"
  else if o = Text.ofString "\x7b" then some "\x7d"
  else none

def isCloser (o : Text) : Bool := [")", "]", "\x7d"].any fun s => o == Text.ofString s

mutual

def ofPlain (size : Nat) (startsLine : Bool) : Nat → Text → List TemplateToken
  | 0, _ => []
  | fuel + 1, t =>
    let piece (p : Text) : List TemplateToken := if p.isEmpty then [] else [.data p]
    match plain t with
    | (before, none) => piece before
    | (before, some (m, rest)) =>
      let (before, rest) := beforeMark m startsLine before rest
      piece before ++
        match m with
        | .comment =>
          match afterComment rest with
          | some (rest, startsLine) => ofPlain size startsLine fuel rest
          | none => [.broken "Missing end of comment tag"]
        | .print => .printBegin :: ofCode size .print [] fuel rest
        | .block => .blockBegin :: ofCode size .block [] fuel rest

/-- Tokens from within a mark on, with the closing brackets that are due. -/
def ofCode (size : Nat) (m : Mark) (due : List Text) : Nat → Text → List TemplateToken
  | 0, _ => []
  | fuel + 1, t =>
    let t := t.stripLeft
    if t.isEmpty then []
    else
      match if due.isEmpty then afterClosing? m t else none with
      | some (rest, startsLine) =>
        (if m = .print then .printEnd else .blockEnd) :: ofPlain size startsLine fuel rest
      | none =>
        match first (size - t.length) t with
        | (.broken report, _) => [.broken report]
        | (.operator o, rest) =>
          match partner? o with
          | some p => .operator o :: ofCode size m (p :: due) fuel rest
          | none =>
            if isCloser o then
              match due with
              | [] => [.broken ("unexpected '" ++ o ++ "'")]
              | p :: ps =>
                if p = o then .operator o :: ofCode size m ps fuel rest
                else [.broken ("unexpected '" ++ o ++ "', expected '" ++ p ++ "'")]
            else .operator o :: ofCode size m due fuel rest
        | (token, rest) => token :: ofCode size m due fuel rest

end

def ofText (t : Text) : List TemplateToken :=
  let t := normalizeLines t
  ofPlain t.length true (2 * t.length + 2) t

end TemplateToken

end ModuleDocs
