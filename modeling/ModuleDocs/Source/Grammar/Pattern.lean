import ModuleDocs.Source.Grammar.Expression

/-!
# Patterns

The patterns of `case` clauses. They say nothing about the interface of a module, so a rule gives only the
line on which its pattern starts.
-/

namespace ModuleDocs.Source.Grammar

open Rule

/-- Rules for patterns that refer to themselves take the rule for a whole pattern as an argument. -/
abbrev PatternRule := Rule Nat

def void {α : Type} (p : Rule α) : Rule Unit := do
  let _ ← p

def startLine {α : Type} (p : Rule α) : Rule Nat := do
  let start ← line
  let _ ← p
  return start

/-! ### Literals -/

def signedNumber : Rule Unit := orElse (void number) (do void (op "-"); void number)

def realNumber : Rule Unit := do
  let n ← number
  match n.expr with
  | .constant (.imaginary _) => fault n.line
  | _ => pure ()

def imaginaryNumber : Rule Unit := do
  let n ← number
  match n.expr with
  | .constant (.imaginary _) => pure ()
  | _ => fault n.line

/-- A sum or difference of a real and an imaginary numeral. -/
def complexNumber : Rule Unit := do
  orElse realNumber (do void (op "-"); realNumber)
  void (orElse (op "+") (op "-"))
  imaginaryNumber

def literalPattern : PatternRule := startLine <|
  choice [
    do
      signedNumber
      notAhead (orElse (op "+") (op "-")),
    complexNumber,
    void strings,
    void (kw "None"),
    void (kw "True"),
    void (kw "False")]

/-! ### Names -/

/-- What turns a name into another kind of pattern. -/
def afterName : Rule Unit := void (choice [op ".", op "(", op "="])

def captureTarget : PatternRule := do
  notAhead (soft "_")
  let t ← name
  notAhead afterName
  return t.line

def dottedName : PatternRule := do
  let t ← name
  let _ ← many1 (do void (op "."); name)
  return t.line

def nameOrDotted : PatternRule := do
  let t ← name
  let _ ← many (do void (op "."); name)
  return t.line

def valuePattern : PatternRule := do
  let start ← dottedName
  notAhead afterName
  return start

section

variable (p : PatternRule)

/-! ### Sequences, mappings and classes -/

def starPattern : PatternRule := do
  let t ← op "*"
  orElse (void captureTarget) (void (soft "_"))
  return t.line

def sequenceItem : PatternRule := orElse starPattern p

/-- Patterns with commas between and perhaps one at the end. -/
def sequenceItems : Rule Unit := do
  let _ ← commaSeparated (sequenceItem p)
  void (optional (op ","))

def openSequence : Rule Unit := do
  let _ ← sequenceItem p
  let _ ← op ","
  void (optional (sequenceItems p))

def sequencePattern : PatternRule :=
  startLine <|
    orElse
      (do void (op "["); void (optional (sequenceItems p)); void (op "]"))
      (do void (op "("); void (optional (openSequence p)); void (op ")"))

def groupPattern : PatternRule := do
  let _ ← op "("
  let start ← p
  let _ ← op ")"
  return start

def keyPattern : Rule Unit := do
  let _ ← orElse literalPattern dottedName
  let _ ← op ":"
  void p

def restPattern : Rule Unit := do
  let _ ← op "**"
  void captureTarget

def mappingPattern : PatternRule :=
  let close : Rule Unit := do
    void (optional (op ","))
    void (op "\x7d")
  startLine <|
    choice [
      do void (op "\x7b"); void (op "\x7d"),
      do void (op "\x7b"); restPattern; close,
      do void (op "\x7b"); void (commaSeparated (keyPattern p)); void (op ","); restPattern; close,
      do void (op "\x7b"); void (commaSeparated (keyPattern p)); close]

def keywordPattern : Rule Unit := do
  let _ ← name
  let _ ← op "="
  void p

def positionalPatterns : Rule (List Nat) := commaSeparated p

def keywordPatterns : Rule Unit := void (commaSeparated (keywordPattern p))

def classPattern : PatternRule :=
  let close : Rule Unit := do
    void (optional (op ","))
    void (op ")")
  choice [
    startLine (do void nameOrDotted; void (op "("); void (op ")")),
    startLine (do void nameOrDotted; void (op "("); void (positionalPatterns p); close),
    startLine (do void nameOrDotted; void (op "("); keywordPatterns p; close),
    startLine do
      void nameOrDotted
      void (op "(")
      void (positionalPatterns p)
      void (op ",")
      keywordPatterns p
      close,
    diagnosis [do
      void nameOrDotted
      void (op "(")
      void (optional (do void (positionalPatterns p); void (op ",")))
      keywordPatterns p
      void (op ",")
      let lines ← positionalPatterns p
      return fault (lines.headD 0)]]

def closedPattern : PatternRule := keptPattern <|
  choice [
    literalPattern,
    captureTarget,
    startLine (soft "_"),
    valuePattern,
    groupPattern p,
    sequencePattern p,
    mappingPattern p,
    classPattern p]

def orPattern : PatternRule :=
  startLine (do void (closedPattern p); void (many (do void (op "|"); closedPattern p)))

def asPattern (r : Recur) : PatternRule :=
  orElse
    (startLine (do void (orPattern p); void (kw "as"); captureTarget))
    (diagnosis [
      do
        void (orPattern p)
        void (kw "as")
        let t ← soft "_"
        return fault t.line,
      do
        void (orPattern p)
        void (kw "as")
        notAhead name
        let e ← r .expression
        return fault e.line])

end

/-- A pattern, nested at most as deep as the second argument says. -/
def pattern (r : Recur) : Nat → PatternRule
  | 0 => mismatch
  | fuel + 1 => orElse (asPattern (pattern r fuel) r) (orPattern (pattern r fuel))

/-- What a `case` clause matches: a sequence without brackets or a pattern. -/
def patterns (r : Recur) (fuel : Nat) : Rule Unit :=
  orElse (openSequence (pattern r fuel)) (void (pattern r fuel))

end ModuleDocs.Source.Grammar
