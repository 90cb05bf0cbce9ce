import ModuleDocs.Source.Grammar.Rule
import ModuleDocs.Source.Literal

/-!
# String literals

Neighbouring string literals are one string. In a formatted string, text between braces is an expression,
read as if it stood in parentheses, with an optional conversion and an optional format that may hold
expressions again, one level deep. Doubled braces stand for themselves.
-/

namespace ModuleDocs.Source.Grammar

/-- A part of a string: characters, or an expression to be formatted. -/
inductive StringPart where
  | text (value : Text)
  | expr (value : Expr)

namespace StringPart

/-- Joins neighbouring texts and leaves out empty ones. -/
def merge : List StringPart → List StringPart
  | [] => []
  | .expr e :: ps => .expr e :: merge ps
  | .text t :: ps =>
    match merge ps with
    | .text u :: qs => .text (t ++ u) :: qs
    | qs => if t.isEmpty then qs else .text t :: qs

def toExpr (marked : Bool) : StringPart → Expr
  | .text t => .constant (.str t marked)
  | .expr e => e

end StringPart

/-- What is wrong with a formatted string: the string itself, or a line of an expression in it. -/
inductive FormatFault where
  | itself
  | line (line : Nat)

namespace Format

/-- How the literal part at the start of a formatted string ends. -/
structure Literal where
  chars : List Char
  rest : List Char
  /-- It ended with a doubled brace, and more of it may follow. -/
  resumes : Bool

def atBrace (level : Nat) (seen : List Char) (brace : Char) (rest : List Char) :
    Except FormatFault Literal :=
  let stopped : Except FormatFault Literal := .ok ⟨seen.reverse, brace :: rest, false⟩
  if level = 0 then
    match rest with
    | c :: cs =>
      if c == brace then .ok ⟨(brace :: seen).reverse, cs, true⟩
      else if brace == '}' then .error .itself else stopped
    | [] => if brace == '}' then .error .itself else stopped
  else stopped

def isBrace (c : Char) : Bool := c == '{' || c == '}'

/-- The literal part at the start of a formatted string, up to an expression. Inside the braces of a named
escape (`named`) everything is literal. `seen` holds the characters read, in reverse. -/
def literal (raw : Bool) (level : Nat) (named : Bool) (seen : List Char) :
    List Char → Except FormatFault Literal
  | [] => .ok ⟨seen.reverse, [], false⟩
  | c :: cs =>
    if named then literal raw level (c != '}') (c :: seen) cs
    else if !raw && c == '\\' then
      match cs with
      | [] => .ok ⟨(c :: seen).reverse, [], false⟩
      | 'N' :: [] => .ok ⟨('N' :: c :: seen).reverse, [], false⟩
      | 'N' :: d :: ds => literal raw level (d == '{') (d :: 'N' :: c :: seen) ds
      | d :: ds =>
        if isBrace d then atBrace level (c :: seen) d ds else literal raw level false (d :: c :: seen) ds
    else if isBrace c then atBrace level seen c cs
    else literal raw level false (c :: seen) cs

/-- An open string literal inside an expression: its quote, and whether it is tripled. -/
structure OpenQuote where
  char : Char
  tripled : Bool

def closer (c : Char) : Char := if c == '(' then ')' else if c == '[' then ']' else '}'

/-- Operators that contain a character which would end an expression. -/
def isComparison (a b : Char) : Bool :=
  b == '=' && (a == '!' || a == '=' || a == '<' || a == '>')

def maxDepth : Nat := 200

/-- The characters of an expression up to the conversion, the format or the closing brace. `seen` holds
the characters read, in reverse. -/
def expression (quote : Option OpenQuote) (brackets : List Char) (seen : List Char) :
    List Char → Except FormatFault (List Char × List Char)
  | [] => .error .itself
  | c :: cs =>
    if c == '\\' then .error .itself
    else
      match quote with
      | some q =>
        if c == q.char then
          if q.tripled then
            match cs with
            | a :: b :: rest =>
              if a == c && b == c then expression none brackets (b :: a :: c :: seen) rest
              else expression quote brackets (c :: seen) (a :: b :: rest)
            | rest => expression quote brackets (c :: seen) rest
          else expression none brackets (c :: seen) cs
        else expression quote brackets (c :: seen) cs
      | none =>
        if c == '\'' || c == '"' then
          match cs with
          | a :: b :: rest =>
            if a == c && b == c then expression (some ⟨c, true⟩) brackets (b :: a :: c :: seen) rest
            else expression (some ⟨c, false⟩) brackets (c :: seen) (a :: b :: rest)
          | rest => expression (some ⟨c, false⟩) brackets (c :: seen) rest
        else if c == '[' || c == '{' || c == '(' then
          if brackets.length ≥ maxDepth then .error .itself
          else expression none (c :: brackets) (c :: seen) cs
        else if c == '#' then .error .itself
        else
          match brackets with
          | [] =>
            if c == '!' || c == ':' || c == '}' || c == '=' || c == '<' || c == '>' then
              match cs with
              | d :: rest =>
                if isComparison c d then expression none [] (d :: c :: seen) rest
                else if c == '<' || c == '>' then expression none [] (c :: seen) (d :: rest)
                else .ok (seen.reverse, c :: d :: rest)
              | [] =>
                if c == '<' || c == '>' then .error .itself else .ok (seen.reverse, [c])
            else if c == ']' || c == ')' then .error .itself
            else expression none [] (c :: seen) cs
          | b :: outer =>
            if c == ']' || c == ')' || c == '}' then
              if closer b == c then expression none outer (c :: seen) cs else .error .itself
            else expression none brackets (c :: seen) cs

def isSkipped (c : Char) : Bool := c == ' ' || c == '\t' || c == '\n' || c == '\x0c'

def isPadding (c : Char) : Bool := isSkipped c || c == '\r' || c == '\x0b'

/-- Where reading a formatted string stands. -/
structure Position where
  rest : List Char
  line : Nat

namespace Position

def moveTo (p : Position) (rest : List Char) : Position :=
  ⟨rest, p.line + (p.rest.take (p.rest.length - rest.length)).count '\n'⟩

end Position

/-- An equals sign after an expression asks for its text to be repeated, up to what comes after the sign: this text, if
it is asked for, and what is left. -/
def repetition (p : Position) (rest : List Char) : Option (List Char) × List Char :=
  if rest.head? == some '=' then
    let after := rest.tail.dropWhile isPadding
    (some (p.rest.take (p.rest.length - after.length)), after)
  else (none, rest)

def conversion : List Char → Except FormatFault (Option Char × List Char)
  | ['!'] => .error .itself
  | '!' :: c :: cs => if c == 's' || c == 'r' || c == 'a' then .ok (some c, cs) else .error .itself
  | rest => .ok (none, rest)

/-- The format after a colon, if there is one. `format` reads a format. -/
def specification (format : Position → Except FormatFault (Expr × Position)) (q : Position) :
    Except FormatFault (Option Expr × Position) :=
  match q.rest with
  | [':'] => .error .itself
  | ':' :: cs => do
    let (e, after) ← format (q.moveTo cs)
    return (some e, after)
  | _ => return (none, q)

/-- An expression between braces with what follows it; the opening brace has been read. `format` reads a
format. The first component is the text of the expression if it is to be repeated. -/
def interpolation (nested : List Char → Nat → Except Nat Expr)
    (format : Position → Except FormatFault (Expr × Position)) (p : Position) :
    Except FormatFault (Option (List Char) × Expr × Position) := do
  let (chars, rest) ← expression none [] [] p.rest
  if chars.all isSkipped then throw .itself
  let value ← (nested ('(' :: chars ++ [')']) p.line).mapError FormatFault.line
  let (repeated, rest) := repetition p rest
  let (given, rest) ← conversion rest
  let (spec, q) ← specification format (p.moveTo rest)
  match q.rest with
  | '}' :: cs =>
    let shown := if repeated.isSome && spec.isNone && given.isNone then some 'r' else given
    let e := Expr.node (.interpolation shown spec.isSome) (value :: spec.toList)
    return (repeated, e, q.moveTo cs)
  | _ => throw .itself

/-- The format that parts up to a closing brace make. -/
def formatOf (inner : Except FormatFault (List StringPart × Position)) : Except FormatFault (Expr × Position) := do
  let (ps, after) ← inner
  if after.rest.head? != some '}' then throw .itself
  return (Expr.node .formatted ((StringPart.merge ps).map (StringPart.toExpr false)), after)

/-- The parts of a formatted string from a position on. Formats are formatted strings of the next level;
expressions are allowed on two levels. The first argument bounds the number of steps. -/
def parts (nested : List Char → Nat → Except Nat Expr) (raw : Bool) :
    Nat → Nat → Position → Except FormatFault (List StringPart × Position)
  | 0, _, _ => .error .itself
  | fuel + 1, level, p => do
    let lit ← literal raw level false [] p.rest
    let some text := StringLiteral.decode raw lit.chars | throw .itself
    let q := p.moveTo lit.rest
    if lit.resumes then
      let (more, after) ← parts nested raw fuel level q
      return (.text text :: more, after)
    else
      match lit.rest with
      | '{' :: cs =>
        if level ≥ 2 then throw .itself
        let format := fun r => formatOf (parts nested raw fuel (level + 1) r)
        let (repeated, e, after) ← interpolation nested format (q.moveTo cs)
        let (more, last) ← parts nested raw fuel level after
        let front := .text text :: (repeated.map fun cs => .text (cs.map CodePoint.ofChar)).toList
        return (front ++ .expr e :: more, last)
      | _ => return ([.text text], q)

end Format

/-- The parts of one string token; whether it is a bytes literal is settled before. -/
def stringParts (token : Token) (s : StringLiteral) : Rule (List StringPart) := do
  if s.isFormatted then
    let start : Format.Position := ⟨s.body, token.line⟩
    match Format.parts (← read).nested s.isRaw (s.body.length + 1) 0 start with
    | .ok (parts, _) => return parts
    | .error .itself => Rule.faultAtLast
    | .error (.line line) => Rule.fault line
  else
    match StringLiteral.decode s.isRaw s.body with
    | some t => return [.text t]
    | none => Rule.faultAtLast

def stringBytes (token : Token) (s : StringLiteral) : Rule (List UInt8) := do
  if s.body.any fun c => 128 ≤ c.toNat then Rule.fault token.line
  match StringLiteral.decodeBytes s.isRaw s.body with
  | some bs => return bs
  | none => Rule.faultAtLast

def stringValue (token : Token) : Rule (List UInt8 ⊕ List StringPart) := do
  let s := StringLiteral.ofToken token.text
  if s.isBytes then return .inl (← stringBytes token s) else return .inr (← stringParts token s)

/-- The values of the string tokens of a run, which are all bytes or all text. -/
def stringValues (isBytes : Bool) : List Token → Rule (List UInt8 × List StringPart)
  | [] => pure ([], [])
  | t :: ts => do
    let s := StringLiteral.ofToken t.text
    -- Invalid characters and escapes are reported before a mixture, formatted strings after it.
    if s.isBytes != isBytes then
      if !s.isFormatted then
        let _ ← stringValue t
      Rule.faultAtLast
    else
      match ← stringValue t with
      | .inl bs =>
        let (more, parts) ← stringValues isBytes ts
        return (bs ++ more, parts)
      | .inr ps =>
        let (bs, more) ← stringValues isBytes ts
        return (bs, ps ++ more)

def strings : Rule Parsed := Rule.kept .strings do
  let tokens ← Rule.many1 (Rule.kind .string)
  match tokens with
  | [] => Rule.mismatch
  | first :: _ =>
    let literals := tokens.map fun t => StringLiteral.ofToken t.text
    let head := StringLiteral.ofToken first.text
    let (bytes, parts) ← stringValues head.isBytes tokens
    let merged := StringPart.merge parts
    let expr :=
      if head.isBytes then Expr.constant (.bytes bytes)
      else if literals.any (·.isFormatted) then
        .node .formatted (merged.map (StringPart.toExpr head.isMarked))
      else
        match merged with
        | .text t :: _ => .constant (.str t head.isMarked)
        | _ => .constant (.str [] head.isMarked)
    return Parsed.value expr first.line

end ModuleDocs.Source.Grammar
