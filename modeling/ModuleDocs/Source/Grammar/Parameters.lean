import ModuleDocs.Source.Grammar.Rule
import ModuleDocs.Text.Compatibility

/-!
# Parameter lists

The parameters of functions and of lambda expressions. Both lists have one form: a slash closes the
positional-only parameters, a star opens the keyword-only ones, and after a parameter with a default all
positional ones have one. They differ in the token that closes the list and in annotations.
-/

namespace ModuleDocs.Source.Grammar

open Rule

/-- Where a parameter list stands. -/
structure ParamStyle where
  /-- The operator that follows the list. -/
  closer : String
  /-- Whether parameters can be annotated. -/
  annotated : Bool

namespace ParamStyle

def function : ParamStyle := ⟨")", true⟩

def lambda : ParamStyle := ⟨":", false⟩

end ParamStyle

def Token.identifier (t : Token) : String := Compatibility.normalize t.text

/-- A parameter and its first line. -/
structure ParsedParam where
  param : Param
  line : Nat

section

variable (r : Recur) (style : ParamStyle)

def param : Rule ParsedParam := do
  let t ← name
  let type ←
    if style.annotated then
      optional do
        let _ ← op ":"
        r .expression
    else pure none
  return ⟨⟨Token.identifier t, type.map (·.expr), none⟩, t.line⟩

/-- What follows a parameter: a comma, or the end of the list. -/
def paramEnd : Rule Unit :=
  orElse (do let _ ← op ",") (ahead (op style.closer))

def paramDefault : Rule Expr :=
  orElse
    (do
      let _ ← op "="
      return (← r .expression).expr)
    (diagnosis [do
      let t ← op "="
      ahead (orElse (op ")") (op ","))
      return fault t.line])

def paramNoDefault : Rule ParsedParam := do
  let p ← param r style
  paramEnd style
  return p

def paramWithDefault : Rule ParsedParam := do
  let p ← param r style
  let d ← paramDefault r
  paramEnd style
  return { p with param := { p.param with default := some d } }

def paramMaybeDefault : Rule ParsedParam := do
  let p ← param r style
  let d ← optional (paramDefault r)
  paramEnd style
  return { p with param := { p.param with default := d } }

def paramStarType : Rule ParsedParam := do
  let t ← name
  let _ ← op ":"
  let e ← r .starExpression
  paramEnd style
  return ⟨⟨Token.identifier t, some e.expr, none⟩, t.line⟩

def slash : Rule Unit := do
  let _ ← op "/"
  paramEnd style

def slashNoDefault : Rule (List ParsedParam) := do
  let ps ← many1 (paramNoDefault r style)
  slash style
  return ps

def slashWithDefault : Rule (List ParsedParam) := do
  let ps ← many (paramNoDefault r style)
  let qs ← many1 (paramWithDefault r style)
  slash style
  return ps ++ qs

/-- Mistakes in the parameter that takes the remaining keyword arguments. -/
def extraDiagnosis : Rule ParsedParam :=
  diagnosis [
    do
      let _ ← op "**"
      let _ ← param r style
      let t ← op "="
      return fault t.line,
    do
      let _ ← op "**"
      let _ ← param r style
      let _ ← op ","
      let p ← param r style
      return fault p.line,
    do
      let _ ← op "**"
      let _ ← param r style
      let _ ← op ","
      let t ← choice [op "*", op "**", op "/"]
      return fault t.line]

/-- The parameter that takes the remaining keyword arguments. -/
def extraParam : Rule ParsedParam :=
  orElse (extraDiagnosis r style) (do let _ ← op "**"; paramNoDefault r style)

/-- What stands after the positional parameters: `rest`, `keywordOnly` and `extra`. -/
structure ParamTail where
  rest : Option ParsedParam
  keywordOnly : List ParsedParam
  extra : Option ParsedParam

def tailDiagnosis : Rule ParamTail :=
  diagnosis [
    do
      let t ← op "*"
      let _ ← orElse (op style.closer) (do let _ ← op ","; orElse (op style.closer) (op "**"))
      return if style.annotated then fault t.line else faultAtLast,
    do
      let _ ← op "*"
      let _ ← param r style
      let t ← op "="
      return fault t.line,
    do
      let _ ← op "*"
      let first : Rule Unit := orElse (do let _ ← paramNoDefault r style) (do let _ ← op ",")
      first
      let _ ← many (paramMaybeDefault r style)
      let t ← op "*"
      first
      return fault t.line]

def paramTail : Rule ParamTail :=
  choice [
    tailDiagnosis r style,
    do
      let _ ← op "*"
      let p ← paramNoDefault r style
      let ks ← many (paramMaybeDefault r style)
      let e ← optional (extraParam r style)
      return ⟨some p, ks, e⟩,
    do
      if !style.annotated then mismatch
      let _ ← op "*"
      let p ← paramStarType r style
      let ks ← many (paramMaybeDefault r style)
      let e ← optional (extraParam r style)
      return ⟨some p, ks, e⟩,
    do
      let _ ← op "*"
      let _ ← op ","
      let ks ← many1 (paramMaybeDefault r style)
      let e ← optional (extraParam r style)
      return ⟨none, ks, e⟩,
    do
      let e ← extraParam r style
      return ⟨none, [], some e⟩]

def paramsOf (only pos : List ParsedParam) (tail : Option ParamTail) : Params Param :=
  Params.map (·.param)
    { positionalOnly := only
      positional := pos
      rest := tail.bind (·.rest)
      keywordOnly := (tail.map (·.keywordOnly)).getD []
      extra := tail.bind (·.extra) }

def paramsDiagnosis : Rule (Params Param) :=
  let anySlash : Rule (List ParsedParam) := orElse (slashNoDefault r style) (slashWithDefault r style)
  diagnosis [
    do
      let _ ← many (paramNoDefault r style)
      let _ ← orElse (slashWithDefault r style) (many1 (paramWithDefault r style))
      let p ← paramNoDefault r style
      return fault p.line,
    do
      let _ ← many (paramNoDefault r style)
      let t ← op "("
      let _ ←
        if style.annotated then many1 (paramNoDefault r style) else commaSeparated (param r style)
      let _ ← optional (op ",")
      let _ ← op ")"
      return fault t.line,
    do
      let t ← op "/"
      let _ ← op ","
      return fault t.line,
    do
      let _ ← anySlash
      let _ ← many (paramMaybeDefault r style)
      let t ← op "/"
      return fault t.line,
    do
      let _ ← optional anySlash
      let _ ← many (paramMaybeDefault r style)
      let _ ← op "*"
      orElse (do let _ ← op ",") (do let _ ← paramNoDefault r style)
      let _ ← many (paramMaybeDefault r style)
      let t ← op "/"
      return fault t.line,
    do
      let _ ← many1 (paramMaybeDefault r style)
      let _ ← op "/"
      let t ← op "*"
      return fault t.line]

/-- A list of parameters, at least one. -/
def params : Rule (Params Param) :=
  choice [
    paramsDiagnosis r style,
    do
      let only ← slashNoDefault r style
      let ps ← many (paramNoDefault r style)
      let qs ← many (paramWithDefault r style)
      return paramsOf only (ps ++ qs) (← optional (paramTail r style)),
    do
      let only ← slashWithDefault r style
      let qs ← many (paramWithDefault r style)
      return paramsOf only qs (← optional (paramTail r style)),
    do
      let ps ← many1 (paramNoDefault r style)
      let qs ← many (paramWithDefault r style)
      return paramsOf [] (ps ++ qs) (← optional (paramTail r style)),
    do
      let qs ← many1 (paramWithDefault r style)
      return paramsOf [] qs (← optional (paramTail r style)),
    do
      return paramsOf [] [] (some (← paramTail r style))]

def lambdaExpr : Rule Parsed := do
  let t ← kw "lambda"
  let ps ← optional (params r .lambda)
  let _ ← op ":"
  let body ← r .expression
  let ps := ps.getD Params.empty
  let defaults := fun (xs : List Param) => xs.filterMap (·.default)
  let shape := Shape.lambda (ps.map fun p => ⟨p.name, p.default.isSome⟩)
  let children := defaults ps.keywordOnly ++ defaults (ps.positionalOnly ++ ps.positional)
  return Parsed.value (.node shape (children ++ [body.expr])) t.line

end

end ModuleDocs.Source.Grammar
