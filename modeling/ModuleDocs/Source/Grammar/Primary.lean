import ModuleDocs.Source.Grammar.Display
import ModuleDocs.Source.Grammar.Strings

/-!
# Primaries

Atoms, and atoms followed by members, calls and subscripts; also the places that can be assigned to or
deleted.
-/

namespace ModuleDocs.Source.Grammar

open Rule

def nameExpr : Rule Parsed := do
  let t ← name
  return Parsed.place (.name (Token.identifier t)) t.line

def number : Rule Parsed := do
  let t ← kind .number
  match Numeral.value? t.text with
  | some c => return Parsed.value (.constant c) t.line
  | none => fault t.line

def reserved (text : String) (c : Constant) : Rule Parsed := do
  let t ← kw text
  return Parsed.value (.constant c) t.line

def namedConstant : Rule Parsed :=
  choice [reserved "True" .true, reserved "False" .false, reserved "None" .none]

section

variable (r : Recur)

def atom : Rule Parsed :=
  choice [
    nameExpr,
    namedConstant,
    strings,
    number,
    do
      ahead (op "(")
      choice [tupleDisplay r, group r, generatorExpr r],
    do
      ahead (op "[")
      orElse (listDisplay r) (listComprehension r),
    do
      ahead (op "\x7b")
      choice [dictDisplay r, setDisplay r, dictComprehension r, setComprehension r],
    do
      let t ← op "..."
      return Parsed.value (.constant .ellipsis) t.line]

/-! ### Arguments -/

def positionalArgument : Rule Parsed :=
  orElse (starredExpr r) do
    let e ← bindingOrExpr r
    notAhead (op "=")
    return e

def keywordDiagnosis {α : Type} : Rule α :=
  diagnosis [
    do
      let t ← choice [kw "True", kw "False", kw "None"]
      let _ ← op "="
      return fault t.line,
    do
      let t ← name
      let _ ← op "="
      let _ ← r .expression
      let _ ← clauses r
      return fault t.line,
    do
      notAhead (do let _ ← name; op "=")
      let e ← r .expression
      let _ ← op "="
      return fault e.line]

def namedArgument : Rule Keyword := do
  let t ← name
  let _ ← op "="
  let e ← r .expression
  return ⟨some (Token.identifier t), e.expr⟩

def keywordOrStarred : Rule (Parsed ⊕ Keyword) :=
  choice [
    keywordDiagnosis r,
    do return .inr (← namedArgument r),
    do return .inl (← starredExpr r)]

def keywordOrSpread : Rule (Parsed ⊕ Keyword) :=
  choice [
    keywordDiagnosis r,
    do return .inr (← namedArgument r),
    do
      let _ ← op "**"
      let e ← r .expression
      return .inr ⟨none, e.expr⟩]

def keywordArguments : Rule (List (Parsed ⊕ Keyword)) :=
  choice [
    do
      let a ← commaSeparated (keywordOrStarred r)
      let _ ← op ","
      let b ← commaSeparated (keywordOrSpread r)
      return a ++ b,
    commaSeparated (keywordOrStarred r),
    commaSeparated (keywordOrSpread r)]

def argumentsOf (positional : List Parsed) (more : List (Parsed ⊕ Keyword)) (line : Nat) : Arguments :=
  { positional := positional ++ more.filterMap Sum.getLeft?
    keywords := more.filterMap Sum.getRight?
    line := line }

def argumentList : Rule Arguments := do
  let start ← line
  orElse
    (do
      let ps ← commaSeparated (positionalArgument r)
      let more ← optional do
        let _ ← op ","
        keywordArguments r
      return argumentsOf ps (more.getD []) start)
    (do
      let more ← keywordArguments r
      return argumentsOf [] more start)

def argumentsDiagnosis : Rule Arguments :=
  diagnosis [
    do
      let a ← argumentList r
      let _ ← op ","
      let _ ← op "*"
      return fault a.line,
    do
      let e ← r .expression
      let _ ← clauses r
      let _ ← op ","
      let _ ← optional (orElse (do let _ ← argumentList r) (do let _ ← r .expression; let _ ← clauses r))
      return fault e.line,
    do
      let t ← name
      let _ ← op "="
      let _ ← r .expression
      let _ ← clauses r
      return fault t.line,
    do
      let a ← argumentList r
      let _ ← clauses r
      return match a.positional with
        | _ :: _ :: _ => fault ((a.positional.getLast?.map (·.line)).getD 0)
        | _ => mismatch,
    do
      let _ ← argumentList r
      let _ ← op ","
      let e ← r .expression
      let _ ← clauses r
      return fault e.line,
    do
      let _ ← argumentList r
      let _ ← op ","
      let _ ← argumentList r
      return faultAtLast]

/-- The arguments of a call or of a class, up to the closing parenthesis. -/
def arguments : Rule Arguments := keptArguments <|
  orElse
    (do
      let a ← argumentList r
      let _ ← optional (op ",")
      ahead (op ")")
      return a)
    (argumentsDiagnosis r)

/-! ### Subscripts -/

def slice : Rule Parsed := do
  let start ← line
  orElse
    (do
      let a ← optional (r .expression)
      let _ ← op ":"
      let b ← optional (r .expression)
      let c ← optional do
        let _ ← op ":"
        optional (r .expression)
      let c := c.bind id
      let bounds := [a, b, c].filterMap fun e => e.map (·.expr)
      return Parsed.value (.node (.slice a.isSome b.isSome c.isSome) bounds) start)
    (r .namedExpression)

def slices : Rule Parsed := do
  let start ← line
  orElse
    (do
      let s ← slice r
      notAhead (op ",")
      return s)
    (do
      let es ← commaList (orElse (slice r) (starredExpr r))
      return Parsed.group .tuple es start)

/-! ### Members, calls and subscripts -/

def callOf (start : Nat) (f : Parsed) (a : Arguments) : Parsed :=
  let shape := Shape.call a.positional.length (a.keywords.map (·.name))
  let children := f.expr :: a.positional.map (·.expr) ++ a.keywords.map (·.value)
  Parsed.value (.node shape children) start

def generatorCall (start : Nat) (f : Parsed) : Rule Parsed := do
  let g ← generatorExpr r
  return callOf start f ⟨[g], [], g.line⟩

def call (start : Nat) (f : Parsed) : Rule Parsed := do
  let _ ← op "("
  let a ← optional (arguments r)
  let _ ← op ")"
  return callOf start f (a.getD ⟨[], [], start⟩)

def memberOf (start : Nat) (v : Parsed) : Rule Parsed := do
  let _ ← op "."
  let t ← name
  return Parsed.place (.member v.expr (Token.identifier t)) start

def subscriptOf (start : Nat) (v : Parsed) : Rule Parsed := do
  let _ ← op "["
  let s ← slices r
  let _ ← op "]"
  return Parsed.place (.subscript v.expr s.expr) start

/-- An atom with members, calls and subscripts. -/
def primary : Rule Parsed := kept .primary do
  let start ← line
  let a ← atom r
  extend
    (fun p =>
      choice [memberOf start p, generatorCall r start p, call r start p, subscriptOf r start p])
    a

def continues : Rule Token := choice [op "(", op "[", op "."]

def continued (p : Rule Parsed) : Rule Parsed := do
  let e ← p
  ahead continues
  return e

def final (p : Rule Parsed) : Rule Parsed := do
  let e ← p
  notAhead continues
  return e

def targetPrimary : Rule Parsed := kept .targetPrimary do
  let start ← line
  let a ← continued (atom r)
  extend
    (fun p =>
      choice [continued (memberOf start p), continued (subscriptOf r start p),
        continued (generatorCall r start p), continued (call r start p)])
    a

/-! ### Targets -/

def memberOrSubscript : Rule Parsed := do
  let start ← line
  orElse
    (do final (memberOf start (← targetPrimary r)))
    (do final (subscriptOf r start (← targetPrimary r)))

/-- Targets of a tuple: two or more, or one with a comma. -/
def tupleTargets : Rule (List Parsed) :=
  orElse
    (do
      let a ← r .starTarget
      let more ← many1 (do let _ ← op ","; r .starTarget)
      let _ ← optional (op ",")
      return a :: more)
    (do
      let a ← r .starTarget
      let _ ← op ","
      return [a])

/-- A target that is a name, or targets in brackets. -/
def starAtom : Rule Parsed :=
  choice [
    nameExpr,
    do
      let _ ← op "("
      let e ← r .targetWithStarAtom
      let _ ← op ")"
      return e,
    do
      let t ← op "("
      let es ← optional (tupleTargets r)
      let _ ← op ")"
      return Parsed.group .tuple (es.getD []) t.line,
    do
      let t ← op "["
      let es ← optional (commaList (r .starTarget))
      let _ ← op "]"
      return Parsed.group .list (es.getD []) t.line]

def targetWithStarAtom : Rule Parsed := kept .targetWithStarAtom <|
  orElse (memberOrSubscript r) (starAtom r)

def starTarget : Rule Parsed := kept .starTarget <|
  orElse
    (do
      let t ← op "*"
      notAhead (op "*")
      let e ← r .starTarget
      return e.starred t.line)
    (r .targetWithStarAtom)

/-- One target, or a tuple of targets without parentheses. -/
def starTargets : Rule Parsed := do
  let start ← line
  orElse
    (do
      let e ← r .starTarget
      notAhead (op ",")
      return e)
    (do
      let a ← r .starTarget
      let more ← many (do let _ ← op ","; r .starTarget)
      let _ ← optional (op ",")
      return Parsed.group .tuple (a :: more) start)

def singleTarget : Rule Parsed :=
  choice [
    memberOrSubscript r,
    nameExpr,
    do
      let _ ← op "("
      let e ← r .singleTarget
      let _ ← op ")"
      return e]

def deleteTargets : Rule (List Parsed) := commaList (r .deleteTarget)

def deleteTarget : Rule Parsed := kept .deleteTarget <|
  choice [
    memberOrSubscript r,
    nameExpr,
    do
      let _ ← op "("
      let e ← r .deleteTarget
      let _ ← op ")"
      return e,
    do
      let t ← op "("
      let es ← optional (deleteTargets r)
      let _ ← op ")"
      return Parsed.group .tuple (es.getD []) t.line,
    do
      let t ← op "["
      let es ← optional (deleteTargets r)
      let _ ← op "]"
      return Parsed.group .list (es.getD []) t.line]

end

end ModuleDocs.Source.Grammar
