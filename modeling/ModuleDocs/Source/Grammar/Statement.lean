import ModuleDocs.Source.Grammar.Pattern

/-!
# Statements

Simple statements on one line and compound statements with blocks. Of most statements only their being
accepted matters; declarations, assignments and expressions are kept.
-/

namespace ModuleDocs.Source.Grammar

open Rule

section

variable (r : Recur)

/-! ### Simple statements -/

def assignedValue : Rule Parsed := orElse (yieldExpr r) (r .starExpressions)

def typed (target : Parsed) : Rule Stmt := do
  let _ ← op ":"
  let a ← r .expression
  let v ← optional do
    let _ ← op "="
    assignedValue r
  return .annotated target.expr a.expr (v.map (·.expr))

def augmentOps : List String :=
  ["+=", "-=", "*=", "@=", "/=", "%=", "&=", "|=", "^=", "<<=", ">>=", "**=", "//="]

def augmentOp : Rule Token := choice (augmentOps.map op)

/-- A tuple or list, perhaps in parentheses, where an annotation follows. -/
def annotatedDisplay : Nat → Rule Parsed
  | 0 => mismatch
  | fuel + 1 =>
    choice [
      listDisplay r,
      tupleDisplay r,
      do
        let _ ← op "("
        let e ← annotatedDisplay fuel
        let _ ← op ")"
        return e]

def assignmentDiagnosis : Rule Stmt := do
  let fuel := (← read).stream.tokens.size
  let targets : Rule Unit := void (many (do void (r .starTargets); op "="))
  diagnosis [
    do
      let a ← annotatedDisplay r fuel
      void (op ":")
      void (r .expression)
      return fault a.line,
    do
      let a ← starNamedExpr r
      void (op ",")
      void (many (starNamedExprs r))
      void (op ":")
      void (r .expression)
      return fault a.line,
    do
      let a ← r .expression
      void (op ":")
      void (r .expression)
      return fault a.line,
    do
      targets
      let a ← r .starExpressions
      void (op "=")
      return misplaced .assign a,
    do
      targets
      let a ← yieldExpr r
      void (op "=")
      return fault a.line,
    do
      let a ← r .starExpressions
      void augmentOp
      void (assignedValue r)
      return fault a.line]

def assignment : Rule Stmt :=
  choice [
    do typed r (← nameExpr),
    do
      let t ← orElse
        (do
          let _ ← op "("
          let e ← r .singleTarget
          let _ ← op ")"
          return e)
        (memberOrSubscript r)
      typed r t,
    do
      let ts ← many1 do
        let t ← r .starTargets
        let _ ← op "="
        return t
      let v ← assignedValue r
      notAhead (op "=")
      return .assign (ts.map (·.expr)) v.expr,
    commit
      (do
        let t ← r .singleTarget
        let _ ← augmentOp
        return t)
      (fun t => do
        let v ← assignedValue r
        return .augmented t.expr v.expr)
      (assignmentDiagnosis r)]

def moduleName : Rule Unit := do
  void name
  void (many (do void (op "."); name))

def importAs : Rule Unit := void (optional (do void (kw "as"); name))

def importNames : Rule Unit := void (commaSeparated (do void name; importAs))

def importTargets : Rule Unit :=
  choice [
    do void (op "("); importNames; void (optional (op ",")); void (op ")"),
    do importNames; notAhead (op ","),
    void (op "*"),
    diagnosis [do
      importNames
      void (op ",")
      void newline
      return faultAtLast]]

def importStmt : Rule Unit :=
  let dot : Rule Token := orElse (op ".") (op "...")
  choice [
    do void (kw "import"); void (commaSeparated (do moduleName; importAs)),
    do void (kw "from"); void (many dot); moduleName; void (kw "import"); importTargets,
    do void (kw "from"); void (many1 dot); void (kw "import"); importTargets]

def deleteStmt : Rule Unit :=
  orElse
    (do
      void (kw "del")
      void (deleteTargets r)
      ahead (orElse (op ";") newline))
    (diagnosis [do
      void (kw "del")
      let a ← r .starExpressions
      return misplaced .delete a])

def simpleStmt : Rule Stmt :=
  let other (p : Rule Unit) : Rule Stmt := do
    p
    return .other
  let names (word : String) : Rule Unit := do
    void (kw word)
    void (commaSeparated name)
  choice [
    assignment r,
    do return .expr (← r .starExpressions).expr,
    other (do void (kw "return"); void (optional (r .starExpressions))),
    other importStmt,
    other (orElse
      (do
        void (kw "raise")
        void (r .expression)
        void (optional (do void (kw "from"); r .expression)))
      (void (kw "raise"))),
    other (void (kw "pass")),
    other (do ahead (kw "del"); deleteStmt r),
    do
      ahead (kw "yield")
      return .expr (← yieldExpr r).expr,
    other (do
      void (kw "assert")
      void (r .expression)
      void (optional (do void (op ","); r .expression))),
    other (void (kw "break")),
    other (void (kw "continue")),
    other (names "global"),
    other (names "nonlocal")]

def simpleStmts : Rule (List Stmt) := do
  let first ← simpleStmt r
  let more ← many (do void (op ";"); simpleStmt r)
  void (optional (op ";"))
  void newline
  return first :: more

/-! ### Blocks -/

variable (body : Rule (List Stmt))

/-- The end of a line that no indented block follows. -/
def missingBlock : Rule Unit := do
  void newline
  notAhead (kind .indent)

def block : Rule (List Stmt) := keptBlock <|
  choice [
    do
      void newline
      void (kind .indent)
      let stmts ← body
      void (kind .dedent)
      return stmts,
    simpleStmts r,
    diagnosis [do missingBlock; return faultAtLast]]

def blockAfter (head : Rule Unit) : Rule Unit := do
  head
  void (op ":")
  void (block r body)

/-- Mistakes after a head: a missing colon and a missing block. -/
def headDiagnosis {α : Type} (head : Rule Unit) : Rule α :=
  diagnosis [
    do head; void newline; return faultAtLast,
    do head; void (op ":"); missingBlock; return faultAtLast]

def blockDiagnosis {α : Type} (head : Rule Unit) : Rule α :=
  diagnosis [do head; void (op ":"); missingBlock; return faultAtLast]

/-- A word whose colon cannot be missing, and a block. -/
def wordBlock (word : String) : Rule Unit := do
  void (kw word)
  void (forced ":")
  void (block r body)

def elseBlock : Rule Unit :=
  orElse (blockDiagnosis (void (kw "else"))) (wordBlock r body "else")

/-- A condition with what follows it; the word is `if` or `elif`. -/
def conditionChain (word : String) : Nat → Rule Unit
  | 0 => mismatch
  | fuel + 1 =>
    let head : Rule Unit := do
      void (kw word)
      void (r .namedExpression)
    choice [
      headDiagnosis head,
      do blockAfter r body head; conditionChain "elif" fuel,
      do blockAfter r body head; void (optional (elseBlock r body))]

def ifStmt : Rule Unit := do conditionChain r body "if" ((← read).stream.tokens.size + 1)

def whileStmt : Rule Unit :=
  let head : Rule Unit := do
    void (kw "while")
    void (r .namedExpression)
  orElse (headDiagnosis head) (do blockAfter r body head; void (optional (elseBlock r body)))

def forStmt : Rule Unit :=
  let targets : Rule Unit := do
    void (kw "for")
    void (r .starTargets)
    void (kw "in")
  let rest : Rule Unit := do
    blockAfter r body (void (r .starExpressions))
    void (optional (elseBlock r body))
  choice [
    headDiagnosis (do void (optional (kw "async")); targets; void (r .starExpressions)),
    commit targets (fun _ => rest) <|
      commit (do void (kw "async"); targets) (fun _ => rest) (loopTargetDiagnosis r)]

def withItem : Rule Unit :=
  let following : Rule Unit := void (ahead (choice [op ",", op ")", op ":"]))
  choice [
    do
      void (r .expression)
      void (kw "as")
      void (r .starTarget)
      following,
    diagnosis [do
      void (r .expression)
      void (kw "as")
      let a ← r .expression
      following
      return misplaced .assign a],
    void (r .expression)]

def withStmt : Rule Unit :=
  let target : Rule Unit := void (optional (do void (kw "as"); r .starTarget))
  let looseItems : Rule Unit := do
    void (optional (kw "async"))
    void (kw "with")
    void (commaSeparated (do void (r .expression); target))
  let looseGroup : Rule Unit := do
    void (optional (kw "async"))
    void (kw "with")
    void (op "(")
    void (commaSeparated (do void (tupleOrOne (r .expression)); target))
    void (optional (op ","))
    void (op ")")
  let group : Rule Unit := do
    void (kw "with")
    void (op "(")
    void (commaSeparated (withItem r))
    void (optional (op ","))
    void (op ")")
  let items : Rule Unit := do
    void (kw "with")
    void (commaSeparated (withItem r))
  choice [
    diagnosis [
      do looseItems; void (op ":"); missingBlock; return faultAtLast,
      do looseGroup; void (op ":"); missingBlock; return faultAtLast],
    blockAfter r body group,
    blockAfter r body items,
    blockAfter r body (do void (kw "async"); group),
    blockAfter r body (do void (kw "async"); items),
    diagnosis [
      do looseItems; void newline; return faultAtLast,
      do looseGroup; void newline; return faultAtLast]]

def exceptName : Rule Unit := void (optional (do void (kw "as"); name))

def exceptDiagnosis : Rule Unit :=
  let star : Rule Unit := void (optional (op "*"))
  diagnosis [
    do
      void (kw "except")
      star
      let a ← r .expression
      void (op ",")
      void (tupleOrOne (r .expression))
      exceptName
      void (op ":")
      return fault a.line,
    do
      void (kw "except")
      star
      void (r .expression)
      exceptName
      void newline
      return faultAtLast,
    do
      void (kw "except")
      void newline
      return faultAtLast,
    do
      void (kw "except")
      void (op "*")
      orElse (void newline) (void (op ":"))
      return faultAtLast]

def exceptBlock : Rule Unit :=
  let typed : Rule Unit := do
    void (kw "except")
    void (r .expression)
    exceptName
  choice [
    diagnosis [
      do typed; void (op ":"); missingBlock; return faultAtLast,
      do void (kw "except"); void (op ":"); missingBlock; return faultAtLast],
    blockAfter r body typed,
    blockAfter r body (void (kw "except")),
    exceptDiagnosis r]

def exceptStarBlock : Rule Unit :=
  let typed : Rule Unit := do
    void (kw "except")
    void (op "*")
    void (r .expression)
    exceptName
  choice [
    blockDiagnosis typed,
    blockAfter r body typed,
    exceptDiagnosis r]

def finallyBlock : Rule Unit :=
  orElse (blockDiagnosis (void (kw "finally"))) (wordBlock r body "finally")

def tryStmt : Rule Unit :=
  let endings : Rule Unit := do
    void (optional (elseBlock r body))
    void (optional (finallyBlock r body))
  choice [
    diagnosis [
      do
        void (kw "try")
        void (op ":")
        missingBlock
        return faultAtLast,
      do
        void (kw "try")
        void (op ":")
        void (block r body)
        notAhead (orElse (kw "except") (kw "finally"))
        return faultAtLast,
      do
        void (kw "try")
        void (op ":")
        void (many (block r body))
        orElse
          (do void (many1 (exceptBlock r body)); exceptStarBlock r body)
          (do void (many1 (exceptStarBlock r body)); exceptBlock r body)
        void (many (block r body))
        return faultAtLast],
    do wordBlock r body "try"; finallyBlock r body,
    do wordBlock r body "try"; void (many1 (exceptBlock r body)); endings,
    do wordBlock r body "try"; void (many1 (exceptStarBlock r body)); endings]

def caseBlock : Rule Unit := do
  let fuel := depthFor (← read).stream.tokens.size
  let head : Rule Unit := do
    void (soft "case")
    patterns r fuel
    void (optional (do void (kw "if"); r .namedExpression))
  orElse (headDiagnosis head) (blockAfter r body head)

def matchStmt : Rule Unit :=
  let subject : Rule Unit :=
    orElse
      (do
        void (starNamedExpr r)
        void (op ",")
        void (optional (starNamedExprs r)))
      (void (r .namedExpression))
  let head : Rule Unit := do
    void (soft "match")
    subject
  orElse
    (do
      head
      void (op ":")
      void newline
      void (kind .indent)
      void (many1 (caseBlock r body))
      void (kind .dedent))
    (headDiagnosis head)

/-! ### Declarations -/

/-- Decorators, each on a line of its own. -/
def decorators : Rule Unit :=
  void (many1 (do void (op "@"); void (r .namedExpression); newline))

def functionRaw : Rule Stmt :=
  let returnType : Rule (Option Parsed) := optional do
    let _ ← op "->"
    r .expression
  let declaration (isAsync : Bool) : Rule Stmt := do
    if isAsync then void (kw "async")
    void (kw "def")
    let t ← name
    void (forced "(")
    let ps ← optional (params r .function)
    void (op ")")
    let result ← returnType
    void (forced ":")
    let stmts ← block r body
    let head : FunctionHead :=
      { name := Token.identifier t
        isAsync := isAsync
        params := ps.getD Params.empty
        returns := result.map (·.expr) }
    return .function head stmts
  choice [
    blockDiagnosis (do
      void (optional (kw "async"))
      void (kw "def")
      void name
      void (op "(")
      void (optional (params r .function))
      void (op ")")
      void returnType),
    declaration false,
    declaration true]

def classRaw : Rule Stmt :=
  let bases : Rule (Option Arguments) := do
    let a ← optional do
      let _ ← op "("
      let a ← optional (arguments r)
      let _ ← op ")"
      return a
    return a.bind id
  choice [
    headDiagnosis (do void (kw "class"); void name; void bases),
    do
      void (kw "class")
      let t ← name
      let a ← bases
      void (op ":")
      let stmts ← block r body
      let head : ClassHead :=
        { name := Token.identifier t
          bases := (a.map fun a => a.positional.map (·.expr)).getD []
          keywords := (a.map (·.keywords)).getD [] }
      return .class head stmts]

def decorated (raw : Rule Stmt) : Rule Stmt :=
  orElse (do decorators r; raw) raw

def compoundStmt : Rule Stmt :=
  let other (p : Rule Unit) : Rule Stmt := do
    p
    return .other
  choice [
    do
      ahead (choice [kw "def", op "@", kw "async"])
      decorated r (functionRaw r body),
    other (do ahead (kw "if"); ifStmt r body),
    do
      ahead (orElse (kw "class") (op "@"))
      decorated r (classRaw r body),
    other (do ahead (orElse (kw "with") (kw "async")); withStmt r body),
    other (do ahead (orElse (kw "for") (kw "async")); forStmt r body),
    other (do ahead (kw "try"); tryStmt r body),
    other (do ahead (kw "while"); whileStmt r body),
    other (matchStmt r body)]

/-- One statement, or several simple ones on a line. -/
def statement : Rule (List Stmt) :=
  orElse (do return [← compoundStmt r body]) (simpleStmts r)

end

/-- Statements, in blocks nested at most as deep as the second argument says. -/
def statements (r : Recur) : Nat → Rule (List Stmt)
  | 0 => mismatch
  | fuel + 1 => do
    let groups ← many1 (statement r (statements r fuel))
    return groups.flatten

def wholeFile (r : Recur) (depth : Nat) : Rule (List Stmt) := do
  let stmts ← optional (statements r depth)
  let _ ← kind .finish
  return stmts.getD []

end ModuleDocs.Source.Grammar
