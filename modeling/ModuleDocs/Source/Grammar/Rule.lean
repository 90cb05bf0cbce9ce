import Std.Data.TreeMap
import ModuleDocs.Source.Stmt
import ModuleDocs.Source.Token

/-!
# Grammar rules

A rule reads tokens from a mark onwards. It matches with a value, does not match, or finds a fault: the
line of an error in the source, which ends the whole reading. Alternatives are tried in order and the first
that matches wins; a rule that does not match leaves no trace but the furthest token it looked at.

Reading takes two rounds. In the second one, made only when the first did not match, rules for common
mistakes (`diagnosis`) take part, so that the fault is reported where the mistake is.
-/

namespace ModuleDocs.Source.Grammar

/-- Why a rule gives no value. -/
inductive Stop where
  | mismatch
  /-- An error on a line of the source. -/
  | fault (line : Nat)
  /-- The tokens end in a fault that has been reached. -/
  | broken (line : Nat)
  deriving Repr, DecidableEq

/-- What an expression is when it stands where something is assigned to. -/
inductive Target where
  /-- A name, a member or a subscript: it can be assigned to. -/
  | place
  /-- A tuple or list of targets. -/
  | group (items : List Target)
  | starred (line : Nat) (inner : Target)
  /-- A comparison that starts with `in`, as the head of a loop looks at first. -/
  | membership (line : Nat) (left : Target)
  | comparison (line : Nat)
  /-- Any other expression. -/
  | value (line : Nat)

/-- How targets are used. -/
inductive TargetUse where
  | assign
  | loop
  | delete
  deriving DecidableEq

mutual

/-- The line of the first part that cannot be used as a target. -/
def Target.misplaced? (use : TargetUse) : Target → Option Nat
  | .place => none
  | .group items => Target.firstMisplaced? use items
  | .starred line inner => if use = .delete then some line else inner.misplaced? use
  | .membership line left => if use = .loop then left.misplaced? use else some line
  | .comparison line => if use = .loop then none else some line
  | .value line => some line

/-- The line of the first part of several targets that cannot be used. -/
def Target.firstMisplaced? (use : TargetUse) : List Target → Option Nat
  | [] => none
  | t :: ts =>
    match t.misplaced? use with
    | some line => some line
    | none => Target.firstMisplaced? use ts

end

/-- An expression that has been read, with its first line. -/
structure Parsed where
  expr : Expr
  line : Nat
  target : Target

namespace Parsed

def value (expr : Expr) (line : Nat) : Parsed := ⟨expr, line, .value line⟩

def place (expr : Expr) (line : Nat) : Parsed := ⟨expr, line, .place⟩

def group (shape : Shape) (items : List Parsed) (line : Nat) : Parsed :=
  ⟨.node shape (items.map (·.expr)), line, .group (items.map (·.target))⟩

def starred (inner : Parsed) (line : Nat) : Parsed :=
  ⟨.node .starred [inner.expr], line, .starred line inner.target⟩

end Parsed

/-- Arguments of a call that have been read. -/
structure Arguments where
  positional : List Parsed
  keywords : List Keyword
  line : Nat

/-- Rules whose results are kept, so that no token is read by them twice. -/
inductive Kept where
  | expression | starExpression | disjunction | conjunction | inversion | bitOr | bitXor | bitAnd | shift
  | sum | term | factor | awaited | primary | targetPrimary | strings | starTarget | targetWithStarAtom
  | deleteTarget | misnamed
  deriving DecidableEq

namespace Kept

def index : Kept → Nat
  | expression => 0 | starExpression => 1 | disjunction => 2 | conjunction => 3 | inversion => 4
  | bitOr => 5 | bitXor => 6 | bitAnd => 7 | shift => 8 | sum => 9 | term => 10 | factor => 11
  | awaited => 12 | primary => 13 | targetPrimary => 14 | strings => 15 | starTarget => 16
  | targetWithStarAtom => 17 | deleteTarget => 18 | misnamed => 19

/-- The key under which the result of a rule at a token is kept. -/
def key (rule : Kept) (mark : Nat) : Nat := 32 * mark + rule.index

end Kept

/-- Results kept by key: what matched and the mark after it, or that nothing matched. -/
abbrev Results (α : Type) := Std.TreeMap Nat (Option (α × Nat))

/-- What reading leaves behind, whether or not a rule matches. -/
structure Trace where
  /-- The number of tokens that have been looked at. -/
  reach : Nat
  expressions : Results Parsed
  arguments : Results Arguments
  blocks : Results (List Stmt)
  /-- Patterns, of which only the first line is of interest. -/
  patterns : Results Nat

namespace Trace

def start (reach : Nat) : Trace := ⟨reach, {}, {}, {}, {}⟩

end Trace

/-- What rules read from. -/
structure Context where
  stream : TokenStream
  /-- Whether rules for mistakes take part. -/
  diagnosing : Bool
  /-- Reads an expression inside a formatted string, given its characters and first line. -/
  nested : List Char → Nat → Except Nat Expr

/-- A rule of the grammar: from the mark of the next token to a value and the mark after it. -/
abbrev Rule (α : Type) := ReaderT Context (StateT Nat (ExceptT Stop (StateM Trace))) α

namespace Rule

variable {α β : Type}

def mismatch : Rule α := throw .mismatch

def fault (line : Nat) : Rule α := throw (.fault line)

def look (mark : Nat) (t : Trace) : Trace := if t.reach ≤ mark then { t with reach := mark + 1 } else t

/-- The next token, without reading it. -/
def peek : Rule Token := fun ctx mark trace =>
  match ctx.stream.tokens[mark]? with
  | some t => (.ok (t, mark), look mark trace)
  | none =>
    match ctx.stream.ending.fault? with
    | some line => (.error (.broken line), trace)
    | none => (.error .mismatch, trace)

def lastLine : Rule Nat := fun ctx mark trace =>
  (.ok ((ctx.stream.tokens[trace.reach - 1]?.map (·.line)).getD 0, mark), trace)

/-- Reports a fault at the furthest token looked at. -/
def faultAtLast : Rule α := do fault (← lastLine)

def line : Rule Nat := do return (← peek).line

def satisfy (p : Token → Bool) : Rule Token := do
  let t ← peek
  if p t then
    modify (· + 1)
    return t
  else mismatch

def kind (k : TokenKind) : Rule Token := satisfy fun t => t.kind == k

def op (text : String) : Rule Token := satisfy fun t => t.kind == .operator && t.text == text

def kw (text : String) : Rule Token := satisfy fun t => t.kind == .keyword && t.text == text

def soft (text : String) : Rule Token := satisfy fun t => t.kind == .name && t.text == text

def name : Rule Token := kind .name

def newline : Rule Token := kind .newline

/-- Reports a fault at the next token unless it is the operator. -/
def forced (text : String) : Rule Token := do
  let t ← peek
  if t.kind == .operator && t.text == text then op text else fault t.line

def orElse (p q : Rule α) : Rule α := fun ctx mark trace =>
  match p ctx mark trace with
  | (.error .mismatch, trace) => q ctx mark trace
  | r => r

def choice : List (Rule α) → Rule α
  | [] => mismatch
  | [p] => p
  | p :: ps => orElse p (choice ps)

/-- Once `head` has matched, `body` decides; only otherwise is `alternative` tried. -/
def commit (head : Rule α) (body : α → Rule β) (alternative : Rule β) : Rule β := fun ctx mark trace =>
  match head ctx mark trace with
  | (.error .mismatch, trace) => alternative ctx mark trace
  | (.error e, trace) => (.error e, trace)
  | (.ok (a, mark), trace) => body a ctx mark trace

def optional (p : Rule α) : Rule (Option α) := orElse (do return some (← p)) (pure none)

/-- Whether a rule matches here; nothing is read. -/
def matchesHere (p : Rule α) : Rule Bool := fun ctx mark trace =>
  match p ctx mark trace with
  | (.ok _, trace) => (.ok (true, mark), trace)
  | (.error .mismatch, trace) => (.ok (false, mark), trace)
  | (.error e, trace) => (.error e, trace)

/-- Matches where `p` matches and reads nothing. -/
def ahead (p : Rule α) : Rule Unit := do
  if ← matchesHere p then pure () else mismatch

/-- Matches where `p` does not match and reads nothing. -/
def notAhead (p : Rule α) : Rule Unit := do
  if ← matchesHere p then mismatch else pure ()

/-- As many matches as possible, at most `fuel`. -/
def manyUpTo (p : Rule α) : Nat → Rule (List α)
  | 0 => pure []
  | fuel + 1 => do
    match ← optional p with
    | some a => return a :: (← manyUpTo p fuel)
    | none => return []

/-- As many matches as possible. Every match reads a token, so their number is bounded. -/
def many (p : Rule α) : Rule (List α) := do manyUpTo p (← read).stream.tokens.size

def many1 (p : Rule α) : Rule (List α) := do
  let a ← p
  return a :: (← many p)

/-- At least one match, with commas between. -/
def commaSeparated (p : Rule α) : Rule (List α) := do
  let a ← p
  return a :: (← many (do let _ ← op ","; p))

/-- The same, perhaps with a comma at the end. -/
def commaList (p : Rule α) : Rule (List α) := do
  let as ← commaSeparated p
  let _ ← optional (op ",")
  return as

/-- Applies a step that extends what has been read, as often as it matches, at most `fuel` times. -/
def extendUpTo (step : α → Rule α) : Nat → α → Rule α
  | 0, a => pure a
  | fuel + 1, a => do
    match ← optional (step a) with
    | some b => extendUpTo step fuel b
    | none => return a

/-- Applies a step that extends what has been read, as often as it matches. -/
def extend (step : α → Rule α) (a : α) : Rule α := do
  extendUpTo step (← read).stream.tokens.size a

/-- A rule for a mistake: it takes part only in the second round. The first alternative that matches says
what to report, and may also report nothing. -/
def diagnosis (alternatives : List (Rule (Rule α))) : Rule α := do
  if (← read).diagnosing then
    let report ← choice alternatives
    report
  else mismatch

def plainly (p : Rule α) : Rule α := fun ctx => p { ctx with diagnosing := false }

/-- Reports the first part that cannot be used as a target, if there is one. -/
def misplaced (use : TargetUse) (p : Parsed) : Rule α :=
  match p.target.misplaced? use with
  | some line => fault line
  | none => mismatch

/-- Gives a kept result, or reads and hands the result to `keep`. -/
def remember (found : Option (Option (α × Nat))) (keep : Option (α × Nat) → Trace → Trace) (p : Rule α) :
    Rule α := fun ctx mark trace =>
  match found with
  | some (some (a, after)) => (.ok (a, after), trace)
  | some none => (.error .mismatch, trace)
  | none =>
    match p ctx mark trace with
    | (.ok (a, after), trace) => (.ok (a, after), keep (some (a, after)) trace)
    | (.error .mismatch, trace) => (.error .mismatch, keep none trace)
    | (.error e, trace) => (.error e, trace)

/-- Keeps the result of a rule for expressions at every token. -/
def kept (rule : Kept) (p : Rule Parsed) : Rule Parsed := fun ctx mark trace =>
  let key := rule.key mark
  remember trace.expressions[key]?
    (fun r t => { t with expressions := t.expressions.insert key r }) p ctx mark trace

/-- Keeps the arguments read at every token. -/
def keptArguments (p : Rule Arguments) : Rule Arguments := fun ctx mark trace =>
  remember trace.arguments[mark]?
    (fun r t => { t with arguments := t.arguments.insert mark r }) p ctx mark trace

/-- Keeps the block read at every token. -/
def keptBlock (p : Rule (List Stmt)) : Rule (List Stmt) := fun ctx mark trace =>
  remember trace.blocks[mark]?
    (fun r t => { t with blocks := t.blocks.insert mark r }) p ctx mark trace

/-- Keeps the pattern read at every token. -/
def keptPattern (p : Rule Nat) : Rule Nat := fun ctx mark trace =>
  remember trace.patterns[mark]?
    (fun r t => { t with patterns := t.patterns.insert mark r }) p ctx mark trace

end Rule

/-- Rules for expressions that refer to each other. -/
inductive Nonterminal where
  | expression | disjunction | inversion | bitOr | factor | namedExpression | starExpression
  | starExpressions | starTargets | starTarget | targetWithStarAtom | deleteTarget | singleTarget
  deriving DecidableEq

/-- The rules for all nonterminals. A rule that refers to others takes them as an argument. -/
abbrev Recur := Nonterminal → Rule Parsed

end ModuleDocs.Source.Grammar
