import ModuleDocs.Source.Grammar.Primary

/-!
# Expressions

Operators by precedence, conditional and lambda expressions, and the closing of the recursion: `expr` gives
the rule of every nonterminal, to a depth of nesting that the number of tokens bounds.
-/

namespace ModuleDocs.Source.Grammar

open Rule

section

variable (r : Recur)

/-! ### Operators -/

/-- A primary, perhaps awaited. -/
def awaited : Rule Parsed := kept .awaited <|
  orElse
    (do
      let t ← kw "await"
      let e ← primary r
      return Parsed.value (.node .await [e.expr]) t.line)
    (primary r)

def binaryOf (start : Nat) (op : BinaryOp) (a b : Parsed) : Parsed :=
  Parsed.value (.node (.binary op) [a.expr, b.expr]) start

def power : Rule Parsed := do
  let start ← line
  let a ← awaited r
  let b ← optional do
    let _ ← op "**"
    r .factor
  return match b with
    | some b => binaryOf start .pow a b
    | none => a

def signed (text : String) (u : UnaryOp) : Rule Parsed := do
  let t ← op text
  let e ← r .factor
  return Parsed.value (.node (.unary u) [e.expr]) t.line

def factor : Rule Parsed := kept .factor <|
  choice [signed r "+" .plus, signed r "-" .minus, signed r "~" .invert, power r]

/-- Operations of one precedence, grouped from the left. -/
def leftGrouped (rule : Kept) (operand : Rule Parsed) (ops : List (String × BinaryOp)) : Rule Parsed :=
  kept rule do
    let start ← line
    let a ← operand
    extend
      (fun p =>
        choice (ops.map fun (text, o) => do
          let _ ← op text
          let b ← operand
          return binaryOf start o p b))
      a

def term : Rule Parsed :=
  leftGrouped .term (factor r)
    [("*", .mul), ("/", .div), ("//", .floorDiv), ("%", .mod), ("@", .matMul)]

def sum : Rule Parsed := leftGrouped .sum (term r) [("+", .add), ("-", .sub)]

def shift : Rule Parsed := leftGrouped .shift (sum r) [("<<", .leftShift), (">>", .rightShift)]

def bitAnd : Rule Parsed := leftGrouped .bitAnd (shift r) [("&", .bitAnd)]

def bitXor : Rule Parsed := leftGrouped .bitXor (bitAnd r) [("^", .bitXor)]

def bitOr : Rule Parsed := leftGrouped .bitOr (bitXor r) [("|", .bitOr)]

def symbol (text : String) (o : CompareOp) : Rule CompareOp := do
  let _ ← op text
  return o

def compareOp : Rule CompareOp :=
  choice [
    symbol "==" .eq, symbol "!=" .notEq, symbol "<=" .le, symbol "<" .lt, symbol ">=" .ge, symbol ">" .gt,
    do let _ ← kw "not"; let _ ← kw "in"; return .notIn,
    do let _ ← kw "in"; return .in,
    do let _ ← kw "is"; let _ ← kw "not"; return .isNot,
    do let _ ← kw "is"; return .is]

def comparison : Rule Parsed := do
  let start ← line
  let a ← bitOr r
  let more ← many do
    let o ← compareOp
    let b ← bitOr r
    return (o, b)
  match more with
  | [] => return a
  | (o, _) :: _ =>
    let expr := Expr.node (.compare (more.map (·.1))) (a.expr :: more.map (·.2.expr))
    let target := if o = .in then Target.membership start a.target else .comparison start
    return ⟨expr, start, target⟩

def inversion : Rule Parsed := kept .inversion <|
  orElse
    (do
      let t ← kw "not"
      let e ← r .inversion
      return Parsed.value (.node (.unary .not) [e.expr]) t.line)
    (comparison r)

def joined (rule : Kept) (operand : Rule Parsed) (word : String) (shape : Shape) : Rule Parsed :=
  kept rule do
    let start ← line
    let a ← operand
    let more ← many do
      let _ ← kw word
      operand
    return if more.isEmpty then a
      else Parsed.value (.node shape (a.expr :: more.map (·.expr))) start

def conjunction : Rule Parsed := joined .conjunction (inversion r) "and" .and

def disjunction : Rule Parsed := joined .disjunction (conjunction r) "or" .or

/-! ### Expressions -/

def conditional : Rule Parsed := do
  let start ← line
  let a ← disjunction r
  let _ ← kw "if"
  let b ← disjunction r
  let _ ← kw "else"
  let c ← r .expression
  return Parsed.value (.node .conditional [b.expr, a.expr, c.expr]) start

def isFormerStatement (e : Expr) : Bool :=
  match e with
  | .name id => id == "print" || id == "exec"
  | _ => false

/-- The number of brackets open after the last token read. -/
def depthBefore : Rule Nat := fun ctx mark trace =>
  (.ok ((ctx.stream.tokens[mark - 1]?.map (·.depth)).getD 0, mark), trace)

/-- Mistakes in expressions: a missing comma, or a condition without its alternative. -/
def expressionDiagnosis : Rule Parsed :=
  diagnosis [
    do
      notAhead (orElse
        (do let _ ← name; kind .string)
        (satisfy fun t => t.kind == .name && softKeywords.contains t.text))
      let a ← disjunction r
      let _ ← plainly (choice [conditional r, disjunction r, lambdaExpr r])
      let depth ← depthBefore
      return if isFormerStatement a.expr || depth == 0 then mismatch else fault a.line,
    do
      let a ← disjunction r
      let _ ← kw "if"
      let _ ← disjunction r
      notAhead (orElse (do let _ ← kw "else") (do let _ ← op ":"))
      return fault a.line]

def formerStatementDiagnosis : Rule Parsed :=
  diagnosis [do
    let t ← name
    notAhead (op "(")
    let _ ← r .starExpressions
    return if t.text == "print" || t.text == "exec" then fault t.line else mismatch]

def expression : Rule Parsed := kept .expression <|
  choice [
    expressionDiagnosis r,
    formerStatementDiagnosis r,
    conditional r,
    disjunction r,
    lambdaExpr r]

def bindingDiagnosis : Rule Parsed := kept .misnamed <|
  let noBinding : Rule Unit := notAhead (orElse (op "=") (op ":="))
  diagnosis [
    do
      let a ← r .expression
      let _ ← op ":="
      let _ ← r .expression
      return fault a.line,
    do
      let t ← name
      let _ ← op "="
      let _ ← bitOr r
      noBinding
      return fault t.line,
    do
      notAhead (choice [
        do let _ ← listDisplay r,
        do let _ ← tupleDisplay r,
        do let _ ← generatorExpr r,
        do let _ ← kw "True",
        do let _ ← kw "None",
        do let _ ← kw "False"])
      let a ← bitOr r
      let _ ← op "="
      let _ ← bitOr r
      noBinding
      return fault a.line]

def namedExpr : Rule Parsed :=
  choice [
    assignmentExpr r,
    bindingDiagnosis r,
    do
      let e ← r .expression
      notAhead (op ":=")
      return e]

/-- An expression, perhaps starred. -/
def starExpr : Rule Parsed := kept .starExpression <|
  orElse
    (do
      let t ← op "*"
      let e ← bitOr r
      return e.starred t.line)
    (r .expression)

/-- One item, or a tuple without parentheses. -/
def tupleOrOne (item : Rule Parsed) : Rule Parsed := do
  let start ← line
  let a ← item
  let more ← many do
    let _ ← op ","
    item
  let comma ← optional (op ",")
  return if more.isEmpty && comma.isNone then a else Parsed.group .tuple (a :: more) start

/-- The rule of a nonterminal, given the rules that it refers to. -/
def ruleOf : Nonterminal → Rule Parsed
  | .expression => expression r
  | .disjunction => disjunction r
  | .inversion => inversion r
  | .bitOr => bitOr r
  | .factor => factor r
  | .namedExpression => namedExpr r
  | .starExpression => starExpr r
  | .starExpressions => tupleOrOne (starExpr r)
  | .starTargets => starTargets r
  | .starTarget => starTarget r
  | .targetWithStarAtom => targetWithStarAtom r
  | .deleteTarget => deleteTarget r
  | .singleTarget => singleTarget r

end

/-- The rules of all nonterminals, nested at most as deep as the first argument says. -/
def expr : Nat → Recur
  | 0, _ => mismatch
  | fuel + 1, n => ruleOf (expr fuel) n

/-- A depth that no nesting over this many tokens exceeds: at most a handful of nonterminals are entered
between two tokens. -/
def depthFor (tokens : Nat) : Nat := 8 * tokens + 32

end ModuleDocs.Source.Grammar
