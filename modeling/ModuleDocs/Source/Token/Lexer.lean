import ModuleDocs.Source.Token
import ModuleDocs.Source.Token.Numeral
import ModuleDocs.Text.Identifier

/-!
# From characters to tokens

`TokenStream.ofText` splits a text into tokens. Indentation is measured twice, with tab stops of eight and
of one column, and both measures must agree on every change. Brackets nest at most 200 deep and blocks at
most 100 deep. Inside brackets line ends and indentation mean nothing.
-/

namespace ModuleDocs.Source

/-- What a text is the text of: a whole file, whose last line is always ended, or an expression. -/
inductive TextKind where
  | file
  | expression
  deriving Repr, DecidableEq

namespace Lexer

/-- Every line end as a single line feed. -/
def unifyLineEnds : List Char → List Char
  | '\r' :: '\n' :: cs => '\n' :: unifyLineEnds cs
  | '\r' :: cs => '\n' :: unifyLineEnds cs
  | c :: cs => c :: unifyLineEnds cs
  | [] => []

/-- The characters to be split. A file ends in a line end; one that closes with a two-character line end
gets an empty line after it. -/
def prepare (kind : TextKind) (source : List Char) : List Char :=
  let unified := unifyLineEnds source
  match kind with
  | .expression => unified
  | .file =>
    if unified.getLast? == some '\n' ∧ ¬ ['\n', '\r'].isPrefixOf (source.reverse.take 2) then unified
    else unified ++ ['\n']

/-- The number of lines, an unended last one included. -/
def lineCount (text : List Char) : Nat :=
  text.count '\n' + if text.getLast?.all (· == '\n') then 0 else 1

/-- An open bracket and its line. -/
structure Bracket where
  char : Char
  line : Nat

/-- The width of an indentation, with tab stops of eight columns and of one. -/
structure Indentation where
  wide : Nat
  narrow : Nat
  deriving DecidableEq

/-- What is left to split, and what has been seen. -/
structure State where
  rest : List Char
  line : Nat
  /-- At the start of a line. -/
  fresh : Bool
  /-- Open blocks, innermost first; the outermost has width zero. -/
  blocks : List Indentation
  brackets : List Bracket
  tokens : Array Token

namespace State

/-- The tokens so far, and why there are no more. -/
def stop (s : State) (e : Ending) : TokenStream := ⟨s.tokens, e⟩

def unfinished (s : State) (line : Nat) : TokenStream :=
  s.stop (.unfinished line (s.brackets.head?.map (·.line)))

/-- Adds a token that ends before `rest`. The end of the text is noticed when the character after a token
is looked at; a line end and a closing quote need no such look. -/
def push (s : State) (kind : TokenKind) (text : List Char) (rest : List Char) : State :=
  let last := rest.isEmpty && kind != .newline && kind != .string
  { s with
    rest := rest
    tokens := s.tokens.push ⟨kind, String.ofList text, s.line, s.brackets.length, last⟩ }

/-- Adds the token between the current position and `rest`, which may span lines. -/
def take (s : State) (kind : TokenKind) (rest : List Char) : State :=
  let text := s.rest.take (s.rest.length - rest.length)
  { s.push kind text rest with line := s.line + text.count '\n' }

end State

/-- The greatest number of blocks, the outermost included. -/
def maxBlocks : Nat := 100

def maxBrackets : Nat := 200

/-- The start of a line: its indentation, the characters after it and their line. -/
structure LineStart where
  width : Indentation
  /-- The width before the first continued line, zero if there is none. -/
  continued : Nat
  rest : List Char
  line : Nat

/-- Why a line start cannot be read: a backslash that does not end its line, or ends the text. -/
inductive LineFault where
  | strayBackslash (line : Nat)
  | endOfText

/-- Measures an indentation. A form feed starts it anew; a backslash at the end of a line continues it. -/
def lineStart (start : LineStart) : List Char → Except LineFault LineStart
  | ' ' :: cs =>
    lineStart { start with width := ⟨start.width.wide + 1, start.width.narrow + 1⟩ } cs
  | '\t' :: cs =>
    lineStart { start with width := ⟨(start.width.wide / 8 + 1) * 8, start.width.narrow + 1⟩ } cs
  | '\x0c' :: cs => lineStart { start with width := ⟨0, 0⟩ } cs
  | '\\' :: '\n' :: cs =>
    if cs.isEmpty then .error .endOfText
    else
      let continued := if start.continued = 0 then start.width.wide else start.continued
      lineStart { start with continued := continued, line := start.line + 1 } cs
  | '\\' :: _ => .error (.strayBackslash start.line)
  | cs => .ok { start with rest := cs }

def LineStart.effective (l : LineStart) : Indentation :=
  if l.continued = 0 then l.width else ⟨l.continued, l.continued⟩

/-- Opens or closes blocks for a line of the given width, or says that it does not fit. -/
def reindent (s : State) (width : Indentation) : Option State :=
  match s.blocks with
  | [] => some s
  | top :: _ =>
    if width.wide = top.wide then
      if width.narrow = top.narrow then some s else none
    else if top.wide < width.wide then
      if s.blocks.length ≥ maxBlocks ∨ width.narrow ≤ top.narrow then none
      else some ({ s with blocks := width :: s.blocks }.push .indent [] s.rest)
    else
      let kept := s.blocks.dropWhile fun b => width.wide < b.wide
      let closed := s.blocks.length - kept.length
      if kept.head? = some width then
        some ((List.range closed).foldl (fun s _ => s.push .dedent [] s.rest) { s with blocks := kept })
      else none

/-- The rest after the letters before a string literal, if the text starts with a string literal. Each
letter occurs at most once, `u` stands alone, and `b` does not go with `f`. -/
def stringStart? (b r u f : Bool) : List Char → Option (List Char)
  | [] => none
  | c :: cs =>
    if c == '\'' || c == '"' then some (c :: cs)
    else if !(b || u || f) && (c == 'b' || c == 'B') then stringStart? true r u f cs
    else if !(b || u || r || f) && (c == 'u' || c == 'U') then stringStart? b r true f cs
    else if !(r || u) && (c == 'r' || c == 'R') then stringStart? b true u f cs
    else if !(f || b || u) && (c == 'f' || c == 'F') then stringStart? b r u true cs
    else none

def skipShortString (quote : Char) : List Char → Option (List Char)
  | [] => none
  | '\\' :: _ :: cs => skipShortString quote cs
  | c :: cs => if c == quote then some cs else if c == '\n' then none else skipShortString quote cs

/-- The rest after a string literal that ends with three quotes. -/
def skipLongString (quote : Char) : List Char → Option (List Char)
  | [] => none
  | '\\' :: _ :: cs => skipLongString quote cs
  | a :: b :: c :: cs =>
    if a == quote && b == quote && c == quote then some cs else skipLongString quote (b :: c :: cs)
  | _ :: cs => skipLongString quote cs

/-- The rest after a string literal that starts with a quote. -/
def skipString : List Char → Option (List Char)
  | a :: b :: c :: cs =>
    if a == b then
      if b == c then skipLongString a cs else some (c :: cs)
    else skipShortString a (b :: c :: cs)
  | [a, b] => if a == b then some [] else none
  | _ => none

def longOperators : List String := ["**=", "//=", "<<=", ">>=", "..."]

def doubleOperators : List String :=
  ["!=", "%=", "&=", "**", "*=", "+=", "-=", "->", "//", "/=", ":=", "<<", "<=", "<>", "==", ">=", ">>",
   "@=", "^=", "|="]

def skipOperator? (cs : List Char) : Option (List Char) :=
  if longOperators.any fun o => o.toList.isPrefixOf cs then some (cs.drop 3)
  else if doubleOperators.any fun o => o.toList.isPrefixOf cs then some (cs.drop 2)
  else none

def closing (c : Char) : Char :=
  if c == '(' then ')' else if c == '[' then ']' else '}'

def operator (s : State) (c : Char) (cs : List Char) : Except Ending State :=
  match skipOperator? s.rest with
  | some rest => .ok (s.take .operator rest)
  | none =>
    if c == '(' || c == '[' || c == '{' then
      if s.brackets.length ≥ maxBrackets then .error (.malformed s.line)
      else .ok ({ s with brackets := ⟨c, s.line⟩ :: s.brackets }.push .operator [c] cs)
    else if c == ')' || c == ']' || c == '}' then
      match s.brackets with
      | [] => .error (.malformed s.line)
      | b :: outer =>
        if closing b.char == c then .ok ({ s with brackets := outer }.push .operator [c] cs)
        else .error (.malformed s.line)
    else if c.toNat < 0x20 || c.toNat == 0x7F then .error (.malformed s.line)
    else .ok (s.push .operator [c] cs)

/-- Takes a name or a reserved word. Characters above ASCII are checked once the whole word is known. -/
def word (s : State) : Except Ending State :=
  let text := s.rest.takeWhile Numeral.isWordChar
  let rest := s.rest.dropWhile Numeral.isWordChar
  if text.all (fun c => c.toNat < 128) || Identifier.isWord text then
    let kind := if keywords.contains (String.ofList text) then TokenKind.keyword else .name
    .ok (s.push kind text rest)
  else .error (.malformed s.line)

/-- Takes a string literal whose quote stands at `quoted`. -/
def string (s : State) (quoted : List Char) : Except Ending State :=
  match skipString quoted with
  | some rest => .ok (s.take .string rest)
  | none => .error (.malformed s.line)

/-- Takes the token at the current position, which is neither blank nor at a line end. -/
def token (s : State) (c : Char) (cs : List Char) : Except Ending State :=
  match stringStart? false false false false s.rest with
  | some quoted => string s quoted
  | none =>
    if c.isAlpha || c == '_' || 128 ≤ c.toNat then word s
    else if c.isDigit || (c == '.' && (cs.head?.map Char.isDigit).getD false) then
      match Numeral.skip s.rest with
      | some rest => .ok (s.take .number rest)
      | none => .error (.malformed s.line)
    else operator s c cs

def isBlank (c : Char) : Bool := c == ' ' || c == '\t' || c == '\x0c'

def skipBlanks (cs : List Char) : List Char :=
  let rest := cs.dropWhile isBlank
  if rest.head? == some '#' then rest.dropWhile (· != '\n') else rest

/-- The end of the text: the end marker, or a fault inside brackets. `lines` is the number of lines. -/
def finish (lines : Nat) (s : State) : TokenStream :=
  match s.brackets with
  | [] => ({ s with line := lines }.push .finish [] []).stop .complete
  | b :: _ => s.stop (.unfinished b.line (some b.line))

def endAfterBackslash (lines : Nat) (s : State) : TokenStream :=
  s.unfinished ((s.brackets.head?.map (·.line)).getD lines)

/-- Handles the start of a line: blank lines are skipped, other lines open or close blocks. -/
def beginLine (lines : Nat) (s : State) : Except TokenStream State :=
  match lineStart ⟨⟨0, 0⟩, 0, [], s.line⟩ s.rest with
  | .error (.strayBackslash line) => .error (s.unfinished line)
  | .error .endOfText => .error (endAfterBackslash lines s)
  | .ok start =>
    let s := { s with rest := start.rest, line := start.line, fresh := false }
    match start.rest with
    | '#' :: _ => .ok { s with rest := skipBlanks start.rest, fresh := true }
    | '\n' :: _ => .ok { s with fresh := true }
    | rest =>
      if s.brackets.isEmpty then
        let line := if rest.isEmpty then lines else s.line
        match reindent { s with line := line } start.effective with
        | some s => .ok s
        | none => .error (s.unfinished line)
      else .ok s

/-- Splits the rest of the text. Every round takes at least one character, so the number of characters
and one more bound the rounds. -/
def run (lines : Nat) : Nat → State → TokenStream
  | 0, s => s.stop .complete
  | fuel + 1, s =>
    match if s.fresh then beginLine lines s else .ok s with
    | .error stream => stream
    | .ok s =>
      let s := { s with rest := skipBlanks s.rest }
      match s.rest with
      | [] => finish lines s
      | '\n' :: cs =>
        let s := if s.fresh || !s.brackets.isEmpty then { s with rest := cs } else s.push .newline [] cs
        run lines fuel { s with line := s.line + 1, fresh := true }
      | '\\' :: '\n' :: cs =>
        if cs.isEmpty then endAfterBackslash lines s
        else run lines fuel { s with rest := cs, line := s.line + 1 }
      | '\\' :: _ => s.unfinished s.line
      | c :: cs =>
        match token s c cs with
        | .error e => s.stop e
        | .ok s => run lines fuel s

end Lexer

namespace TokenStream

/-- The tokens of a text whose first line has number `line`. -/
def ofText (kind : TextKind) (line : Nat) (source : List Char) : TokenStream :=
  let text := Lexer.prepare kind source
  Lexer.run (line - 1 + Lexer.lineCount text) (text.length + 1)
    ⟨text, line, true, [⟨0, 0⟩], [], #[]⟩

end TokenStream

end ModuleDocs.Source
