import ModuleDocs.Number.Shortest
import ModuleDocs.Source.Expr
import ModuleDocs.Text.Quoted

/-!
# Expressions as text

An expression on one line, with the parentheses that precedence asks for and no others but those that the
layout of a form prescribes. Three expressions have no text: an integer whose decimal digits are too many,
a formatted string that would need a backslash between its braces, and a formatted string with a part
that is neither text nor an interpolation.
-/

namespace ModuleDocs.Source

/-- Why an expression has no text. -/
inductive Unprintable where
  | longInteger
  | backslash
  /-- A formatted string has an expression of this kind as a part. -/
  | part (kind : String)
  deriving Repr, DecidableEq

namespace Unprintable

def message : Unprintable → String
  | longInteger =>
    "Exceeds the limit (4300 digits) for integer string conversion; " ++
      "use sys.set_int_max_str_digits() to increase the limit"
  | backslash => "Unable to avoid backslash in f-string expression part"
  | part kind => "Unexpected node inside JoinedStr, <ast." ++ kind ++ " object>"

end Unprintable

/-! ### Precedence -/

/-- How tightly an expression binds; a child in parentheses binds less tightly than its place asks. -/
abbrev Precedence := Nat

namespace Precedence

def named : Precedence := 0
def tuple : Precedence := 1
def yield : Precedence := 2
def test : Precedence := 3
def or : Precedence := 4
def and : Precedence := 5
def not : Precedence := 6
def compare : Precedence := 7
def bitOr : Precedence := 8
def bitXor : Precedence := 9
def bitAnd : Precedence := 10
def shift : Precedence := 11
def arith : Precedence := 12
def term : Precedence := 13
def factor : Precedence := 14
def power : Precedence := 15
def await : Precedence := 16
def atom : Precedence := 17

def next (p : Precedence) : Precedence := min (p + 1) atom

end Precedence

def BinaryOp.text : BinaryOp → String
  | add => "+" | sub => "-" | mul => "*" | matMul => "@" | div => "/" | mod => "%" | leftShift => "<<"
  | rightShift => ">>" | bitOr => "|" | bitXor => "^" | bitAnd => "&" | floorDiv => "//" | pow => "**"

def BinaryOp.precedence : BinaryOp → Precedence
  | add => .arith | sub => .arith
  | mul => .term | matMul => .term | div => .term | mod => .term | floorDiv => .term
  | leftShift => .shift | rightShift => .shift
  | bitOr => .bitOr | bitXor => .bitXor | bitAnd => .bitAnd
  | pow => .power

def UnaryOp.text : UnaryOp → String
  | invert => "~" | not => "not " | plus => "+" | minus => "-"

def UnaryOp.precedence : UnaryOp → Precedence
  | not => .not
  | _ => .factor

def CompareOp.text : CompareOp → String
  | eq => "==" | notEq => "!=" | lt => "<" | le => "<=" | gt => ">" | ge => ">=" | is => "is"
  | isNot => "is not" | «in» => "in" | notIn => "not in"

namespace Shape

/-- The precedence of a form; forms in brackets of their own bind like atoms. -/
def precedence : Shape → Precedence
  | and => .and
  | or => .or
  | binary op => op.precedence
  | unary op => op.precedence
  | compare _ => .compare
  | conditional => .test
  | lambda _ => .test
  | assign => .named
  | await => .await
  | yield => .yield
  | yieldFrom => .yield
  | _ => .atom

/-- Precedences for the operands of a chain: each operand binds tighter than the one before. -/
def chain (start : Precedence) : Nat → List Precedence
  | 0 => []
  | n + 1 => start.next :: chain start.next n

def clausePrecedences (cs : List Clause) : List Precedence :=
  cs.flatMap fun c => .tuple :: List.replicate (c.conditions + 1) Precedence.test.next

/-- The precedence that the place of each child asks for, given the number of children. -/
def childPrecedences (shape : Shape) (n : Nat) : List Precedence :=
  match shape with
  | starred => [.bitOr]
  | dict keyed =>
    List.replicate (keyed.count true) .test ++ keyed.map fun k => if k then .test else .bitOr
  | call _ _ => .atom :: List.replicate n .test
  | and => chain .and n
  | or => chain .or n
  | binary .pow => [Precedence.power.next, .power]
  | binary op => [op.precedence, op.precedence.next]
  | unary op => [op.precedence]
  | compare _ => List.replicate n Precedence.compare.next
  | conditional => [Precedence.test.next, Precedence.test.next, .test]
  | assign => [.atom, .atom]
  | await => [.atom]
  | yield => [.atom]
  | yieldFrom => [.atom]
  | listComp cs => .test :: clausePrecedences cs
  | setComp cs => .test :: clausePrecedences cs
  | generator cs => .test :: clausePrecedences cs
  | dictComp cs => .test :: .test :: clausePrecedences cs
  | _ => List.replicate n .test

/-! ### Layout -/

def commas (xs : List String) : String := ", ".intercalate xs

/-- Texts with commas between; one text has a comma after it. -/
def items : List String → String
  | [x] => x ++ ","
  | xs => commas xs

/-- The entries of a dictionary, from the texts of keys and values. -/
def entries : List Bool → List String → List String → List String
  | true :: ks, k :: keys, v :: values => (k ++ ": " ++ v) :: entries ks keys values
  | false :: ks, keys, v :: values => ("**" ++ v) :: entries ks keys values
  | _, _, _ => []

def keyword (name : Option String) (value : String) : String :=
  match name with
  | some n => n ++ "=" ++ value
  | none => "**" ++ value

/-- The clauses of a comprehension, from the texts of their parts. -/
def clauseTexts : List Clause → List String → String
  | c :: cs, target :: iter :: rest =>
    (if c.isAsync then " async for " else " for ") ++ target ++ " in " ++ iter ++
      String.join ((rest.take c.conditions).map (" if " ++ ·)) ++
      clauseTexts cs (rest.drop c.conditions)
  | _, _ => ""

/-- Parameters with their defaults, which are taken in order from a list of texts. -/
def withDefaults : List LambdaParam → List String → List String
  | [], _ => []
  | p :: ps, ds =>
    if p.hasDefault then
      match ds with
      | d :: ds => (p.name ++ "=" ++ d) :: withDefaults ps ds
      | [] => p.name :: withDefaults ps []
    else p.name :: withDefaults ps ds

def paramTexts (p : Params LambdaParam) (defaults : List String) : List String :=
  let k := p.keywordOnly.countP (·.hasDefault)
  let positional := withDefaults (p.positionalOnly ++ p.positional) (defaults.drop k)
  let only := positional.take p.positionalOnly.length
  only ++ (if only.isEmpty then [] else ["/"]) ++ positional.drop p.positionalOnly.length ++
    (match p.rest with
      | some q => ["*" ++ q.name]
      | none => if p.keywordOnly.isEmpty then [] else ["*"]) ++
    withDefaults p.keywordOnly (defaults.take k) ++ p.extra.toList.map fun q => "**" ++ q.name

def sliceText (lower upper step : Bool) (texts : List String) : String :=
  let a := if lower then texts.take 1 else []
  let rest := texts.drop a.length
  let b := if upper then rest.take 1 else []
  let c := if step then rest.drop b.length else []
  String.join a ++ ":" ++ String.join b ++ if step then ":" ++ String.join c else ""

def layout (shape : Shape) (texts : List String) : String :=
  match shape with
  | starred => "*" ++ String.join texts
  | tuple => items texts
  | list => "[" ++ commas texts ++ "]"
  | set => if texts.isEmpty then "\x7b*()\x7d" else "\x7b" ++ commas texts ++ "\x7d"
  | dict keyed =>
    let k := keyed.count true
    "\x7b" ++ commas (entries keyed (texts.take k) (texts.drop k)) ++ "\x7d"
  | call positional keywords =>
    match texts with
    | [] => ""
    | f :: args =>
      f ++ "(" ++ commas (args.take positional ++ List.zipWith keyword keywords (args.drop positional)) ++
        ")"
  | and => " and ".intercalate texts
  | or => " or ".intercalate texts
  | binary op => (" " ++ op.text ++ " ").intercalate texts
  | unary op => op.text ++ String.join texts
  | compare ops =>
    match texts with
    | [] => ""
    | t :: ts => t ++ String.join (List.zipWith (fun (o : CompareOp) x => " " ++ o.text ++ " " ++ x) ops ts)
  | conditional =>
    match texts with
    | [test, body, orelse] => body ++ " if " ++ test ++ " else " ++ orelse
    | _ => ""
  | lambda params =>
    let ps := paramTexts params texts.dropLast
    "lambda" ++ (if ps.isEmpty then "" else " " ++ commas ps) ++ ": " ++ texts.getLast?.getD ""
  | assign => " := ".intercalate texts
  | await => "await " ++ String.join texts
  | yield => if texts.isEmpty then "yield" else "yield " ++ String.join texts
  | yieldFrom => "yield from " ++ String.join texts
  | listComp cs => "[" ++ texts.headD "" ++ clauseTexts cs texts.tail ++ "]"
  | setComp cs => "\x7b" ++ texts.headD "" ++ clauseTexts cs texts.tail ++ "\x7d"
  | generator cs => "(" ++ texts.headD "" ++ clauseTexts cs texts.tail ++ ")"
  | dictComp cs =>
    "\x7b" ++ ": ".intercalate (texts.take 2) ++ clauseTexts cs (texts.drop 2) ++ "\x7d"
  | slice lower upper step => sliceText lower upper step texts
  | formatted => String.join texts
  | interpolation _ _ => String.join texts

def kind : Shape → String
  | starred => "Starred" | tuple => "Tuple" | list => "List" | set => "Set" | dict _ => "Dict"
  | call _ _ => "Call" | and => "BoolOp" | or => "BoolOp" | binary _ => "BinOp" | unary _ => "UnaryOp"
  | compare _ => "Compare" | conditional => "IfExp" | lambda _ => "Lambda" | assign => "NamedExpr"
  | await => "Await" | yield => "Yield" | yieldFrom => "YieldFrom" | listComp _ => "ListComp"
  | setComp _ => "SetComp" | generator _ => "GeneratorExp" | dictComp _ => "DictComp"
  | slice _ _ _ => "Slice" | formatted => "JoinedStr" | interpolation _ _ => "FormattedValue"

/-- Whether a form needs parentheses in a place. Only a tuple that is not empty can do without. -/
def needsParens (shape : Shape) (empty : Bool) (place : Precedence) : Bool :=
  match shape with
  | tuple => empty || place > .tuple
  | s => place > s.precedence

end Shape

def Expr.kind : Expr → String
  | name _ => "Name"
  | constant _ => "Constant"
  | member _ _ => "Attribute"
  | subscript _ _ => "Subscript"
  | node shape _ => shape.kind

/-! ### String literals with few escapes -/

namespace Literal

/-- The quotes that a string literal can have, in order of preference. -/
def quotes : List String := ["'", "\"", "\"\"\"", "'''"]

/-- Whether the quotes let a literal go over several lines. -/
def isMulti (quote : String) : Bool := quote.length == 3

def occurs (part : List Char) (s : List Char) : Bool :=
  part.isPrefixOf s ||
    match s with
    | [] => false
    | _ :: rest => occurs part rest

/-- A code point with as little escaping as possible; `whole` escapes tabs and line feeds as well. -/
def point (whole : Bool) (c : CodePoint) : List Char :=
  match c.toChar? with
  | some ch =>
    if !whole && (ch = '\n' || ch = '\t') then [ch]
    else if ch = '\\' then ['\\', '\\']
    else if c.isPrintable then [ch]
    else Quoted.escape c
  | none => Quoted.escape c

/-- Those of some quotes that can stand around a text, with the text escaped for them. When none is left,
all that is needed is escaped. -/
def narrow (whole : Bool) (candidates : List String) (t : Text) : List Char × List String :=
  let escaped := t.flatMap (point whole)
  let fitting := candidates.filter fun q =>
    (isMulti q || !escaped.contains '\n') && !occurs q.toList escaped
  match fitting, escaped.getLast? with
  | [], _ =>
    let quote := Quoted.quoteFor t
    let full := String.ofList [quote]
    (Quoted.body quote t, [(candidates.find? fun q => q.toList.contains quote).getD full])
  | fitting, none => (escaped, fitting)
  | fitting, some last =>
    let clashes := fun (q : String) => q.toList.head? == some last
    let sorted := fitting.filter (!clashes ·) ++ fitting.filter clashes
    match sorted with
    | [] => (escaped, sorted)
    | q :: _ => if clashes q then (escaped.dropLast ++ ['\\', last], sorted) else (escaped, sorted)

def plain (t : Text) : String :=
  let (body, fitting) := narrow false quotes t
  let q := fitting.headD "'"
  q ++ String.ofList body ++ q

end Literal

/-! ### The printer -/

def maxPrintedDigits : Nat := 4300

/-- The text of a constant. With `careful`, strings are written without backslashes where possible. -/
def Constant.text (careful : Bool) : Constant → Except Unprintable String
  | none => .ok "None"
  | true => .ok "True"
  | false => .ok "False"
  | ellipsis => .ok "..."
  | int n =>
    let ds := Nat.repr n
    if ds.length > maxPrintedDigits then .error .longInteger else .ok ds
  | float x => .ok (x.text Bool.true)
  | imaginary x => .ok (x.text Bool.false ++ "j")
  | str value marked =>
    .ok ((if marked then "u" else "") ++ if careful then Literal.plain value else value.quoted)
  | bytes value => .ok (Quoted.bytes value)

def doubleBraces (t : Text) : Text :=
  t.flatMap fun c => if c = CodePoint.ofChar '{' ∨ c = CodePoint.ofChar '}' then [c, c] else [c]

/-- Puts the parts of a formatted string between quotes that suit all of them. -/
def formattedText (parts : List (Text × Bool)) : String :=
  let (bodies, fitting) := parts.foldl
    (fun (acc, candidates) (t, isConstant) =>
      let (body, fitting) := Literal.narrow isConstant candidates t
      (acc ++ body, fitting))
    (([] : List Char), Literal.quotes)
  let q := fitting.headD "'"
  "f" ++ q ++ String.ofList bodies ++ q

namespace Expr

/-- The precedence for the subscript between brackets: a tuple needs no parentheses there. -/
def slicePrecedence : Expr → Precedence
  | node .tuple (_ :: _) => .tuple
  | _ => .test

/-- Whether a point after the expression would be read as part of a numeral. -/
def isWholeNumber : Expr → Bool
  | constant (.int _) => Bool.true
  | constant .true => Bool.true
  | constant .false => Bool.true
  | _ => Bool.false

def isConstant : Expr → Bool
  | constant _ => Bool.true
  | _ => Bool.false

mutual

/-- The text of an expression in a place of some precedence. With `careful`, backslashes are avoided. -/
def print (careful : Bool) (place : Precedence) : Expr → Except Unprintable String
  | name id => .ok id
  | constant c => c.text careful
  | member v attr => do
    let t ← print careful .atom v
    return t ++ (if v.isWholeNumber then " ." else ".") ++ attr
  | subscript v s => do
    let t ← print careful .atom v
    let u ← print careful s.slicePrecedence s
    return t ++ "[" ++ u ++ "]"
  | node .formatted parts => do
    if careful then
      let t ← printParts parts
      return "f" ++ Literal.plain t
    else
      let ts ← printEachPart parts
      return formattedText ts
  | node shape children => do
    let texts ← printAll careful (shape.childPrecedences children.length) children
    let t := shape.layout texts
    return if shape.needsParens children.isEmpty place then "(" ++ t ++ ")" else t

def printAll (careful : Bool) : List Precedence → List Expr → Except Unprintable (List String)
  | _, [] => .ok []
  | ps, e :: es => do
    let t ← print careful (ps.headD .test) e
    let ts ← printAll careful ps.tail es
    return t :: ts

/-- The text of a part of a formatted string, before it is escaped. -/
def printPart : Expr → Except Unprintable Text
  | node .formatted parts => printParts parts
  | constant (.str t _) => .ok (doubleBraces t)
  | node (.interpolation conversion _) (value :: format) => do
    let t ← print Bool.true Precedence.test.next value
    if t.toList.contains '\\' then throw .backslash
    let f ← printParts format
    let gap := if t.toList.head? == some '{' then " " else ""
    let shown := match conversion with
      | some c => "!" ++ String.ofList [c]
      | .none => ""
    return ("\x7b" ++ gap ++ t ++ shown : String) ++
      (if format.isEmpty then ([] : Text) else ":" ++ f) ++ "\x7d"
  | e => .error (.part e.kind)

def printParts : List Expr → Except Unprintable Text
  | [] => .ok []
  | e :: es => do
    let t ← printPart e
    let ts ← printParts es
    return t ++ ts

/-- The text of each part, and whether it is constant. -/
def printEachPart : List Expr → Except Unprintable (List (Text × Bool))
  | [] => .ok []
  | e :: es => do
    let t ← printPart e
    let ts ← printEachPart es
    return (t, e.isConstant) :: ts

end

def text (e : Expr) : Except Unprintable String := e.print Bool.false .test

end Expr

end ModuleDocs.Source
