import ModuleDocs.Source.Grammar.Rule
import ModuleDocs.Source.Grammar.Parameters

/-!
# Displays

Expressions in brackets: tuples, groups, lists, sets, dictionaries and their comprehensions.
-/

namespace ModuleDocs.Source.Grammar

open Rule

/-- A clause of a comprehension with its subexpressions. -/
structure ParsedClause where
  clause : Clause
  exprs : List Expr

section

variable (r : Recur)

def yieldExpr : Rule Parsed := do
  let t ← kw "yield"
  orElse
    (do
      let _ ← kw "from"
      let e ← r .expression
      return Parsed.value (.node .yieldFrom [e.expr]) t.line)
    (do
      let e ← optional (r .starExpressions)
      return Parsed.value (.node .yield (e.map (·.expr)).toList) t.line)

def assignmentExpr : Rule Parsed := do
  let t ← name
  let _ ← op ":="
  let e ← r .expression
  return Parsed.value (.node .assign [.name (Token.identifier t), e.expr]) t.line

def starNamedExpr : Rule Parsed :=
  orElse
    (do
      let t ← op "*"
      let e ← r .bitOr
      return e.starred t.line)
    (r .namedExpression)

def starNamedExprs : Rule (List Parsed) := commaList (starNamedExpr r)

def starredExpr : Rule Parsed := do
  let t ← op "*"
  let e ← r .expression
  return e.starred t.line

/-- An expression that binds a name, or one that is not followed by a binding. -/
def bindingOrExpr : Rule Parsed :=
  orElse (assignmentExpr r) do
    let e ← r .expression
    notAhead (op ":=")
    return e

def loopTargetDiagnosis {α : Type} : Rule α :=
  diagnosis [do
    let _ ← optional (kw "async")
    let _ ← kw "for"
    let e ← r .starExpressions
    return misplaced .loop e]

/-- The targets of a clause, between its first word and `in`. -/
def clauseHead : Rule Parsed := do
  let _ ← kw "for"
  let t ← r .starTargets
  let _ ← kw "in"
  return t

def clauseBody (isAsync : Bool) (target : Parsed) : Rule ParsedClause := do
  let iter ← r .disjunction
  let conditions ← many do
    let _ ← kw "if"
    r .disjunction
  return ⟨⟨isAsync, conditions.length⟩, target.expr :: iter.expr :: conditions.map (·.expr)⟩

def clause : Rule ParsedClause :=
  commit (do let _ ← kw "async"; clauseHead r) (clauseBody r true) <|
    commit (clauseHead r) (clauseBody r false) (loopTargetDiagnosis r)

def clauses : Rule (List ParsedClause) := many1 (clause r)

def comprehension (shape : List Clause → Shape) (first : List Expr) (cs : List ParsedClause) (line : Nat) :
    Parsed :=
  Parsed.value (.node (shape (cs.map (·.clause))) (first ++ cs.flatMap (·.exprs))) line

def comprehensionDiagnosis : Rule Parsed :=
  let bracket : Rule Token := orElse (op "[") (op "\x7b")
  diagnosis [
    do
      let _ ← choice [op "[", op "(", op "\x7b"]
      let e ← starredExpr r
      let _ ← clauses r
      return fault e.line,
    do
      let _ ← bracket
      let e ← starNamedExpr r
      let _ ← op ","
      let _ ← starNamedExprs r
      let _ ← clauses r
      return fault e.line,
    do
      let _ ← bracket
      let e ← starNamedExpr r
      let _ ← op ","
      let _ ← clauses r
      return fault e.line]

def listDisplay : Rule Parsed := do
  let t ← op "["
  let es ← optional (starNamedExprs r)
  let _ ← op "]"
  return Parsed.group .list (es.getD []) t.line

/-- A comprehension of elements between brackets. -/
def comprehensionIn (opening closing : String) (element : Rule Parsed) (shape : List Clause → Shape) : Rule Parsed :=
  orElse
    (do
      let t ← op opening
      let e ← element
      let cs ← clauses r
      let _ ← op closing
      return comprehension shape [e.expr] cs t.line)
    (comprehensionDiagnosis r)

def listComprehension : Rule Parsed := comprehensionIn r "[" "]" (r .namedExpression) .listComp

/-- The items of a tuple. One item has a comma after it. -/
def tupleItems : Rule (List Parsed) := do
  let e ← starNamedExpr r
  let _ ← op ","
  let more ← optional (starNamedExprs r)
  return e :: more.getD []

def tupleDisplay : Rule Parsed := do
  let t ← op "("
  let es ← optional (tupleItems r)
  let _ ← op ")"
  return Parsed.group .tuple (es.getD []) t.line

def group : Rule Parsed :=
  orElse
    (do
      let _ ← op "("
      let e ← orElse (yieldExpr r) (r .namedExpression)
      let _ ← op ")"
      return e)
    (diagnosis [
      do
        let _ ← op "("
        let e ← starredExpr r
        let _ ← op ")"
        return fault e.line,
      do
        let _ ← op "("
        let t ← op "**"
        let _ ← r .expression
        let _ ← op ")"
        return fault t.line])

def generatorExpr : Rule Parsed := comprehensionIn r "(" ")" (bindingOrExpr r) .generator

def setDisplay : Rule Parsed := do
  let t ← op "\x7b"
  let es ← starNamedExprs r
  let _ ← op "\x7d"
  return Parsed.value (.node .set (es.map (·.expr))) t.line

def setComprehension : Rule Parsed := comprehensionIn r "\x7b" "\x7d" (r .namedExpression) .setComp

def keyValue : Rule (Expr × Expr) := do
  let k ← r .expression
  let _ ← op ":"
  let v ← r .expression
  return (k.expr, v.expr)

/-- An entry of a dictionary: a key and its value, or a mapping that is spread. -/
def entry : Rule (Option Expr × Expr) :=
  orElse
    (do
      let _ ← op "**"
      let e ← r .bitOr
      return (none, e.expr))
    (do
      let (k, v) ← keyValue r
      return (some k, v))

def valueMistake : List (Rule (Rule Unit)) := [
  do
    let _ ← r .expression
    let _ ← op ":"
    let t ← op "*"
    let _ ← r .bitOr
    return fault t.line,
  do
    let _ ← r .expression
    let t ← op ":"
    ahead (orElse (op "\x7d") (op ","))
    return fault t.line]

/-- An entry that has no colon, or a mistake after it. -/
def entryMistake : Rule (Rule Unit) :=
  choice
    ((do
      let e ← r .expression
      notAhead (op ":")
      return fault e.line) :: valueMistake r)

/-- Mistakes in the entries of a dictionary. They are looked for in every round. -/
def entriesMistake : Rule Unit := do
  let report ← choice
    ((do
      let _ ← commaSeparated (entry r)
      let _ ← op ","
      entryMistake r) :: valueMistake r)
  report

def dictDisplay : Rule Parsed :=
  orElse
    (do
      let t ← op "\x7b"
      let es ← optional (commaList (entry r))
      let _ ← op "\x7d"
      let es := es.getD []
      let shape := Shape.dict (es.map (·.1.isSome))
      return Parsed.value (.node shape (es.filterMap (·.1) ++ es.map (·.2))) t.line)
    (do
      let _ ← op "\x7b"
      entriesMistake r
      mismatch)

def dictComprehension : Rule Parsed :=
  orElse
    (do
      let t ← op "\x7b"
      let (k, v) ← keyValue r
      let cs ← clauses r
      let _ ← op "\x7d"
      return comprehension .dictComp [k, v] cs t.line)
    (diagnosis [do
      let _ ← op "\x7b"
      let t ← op "**"
      let _ ← r .bitOr
      let _ ← clauses r
      let _ ← op "\x7d"
      return fault t.line])

end

end ModuleDocs.Source.Grammar
