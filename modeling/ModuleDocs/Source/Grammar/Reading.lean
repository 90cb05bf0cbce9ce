import ModuleDocs.Source.Grammar.Expression
import ModuleDocs.Source.Token.Lexer

/-!
# Reading a text

A text is read in a first round without and, if that does not match, in a second round with the rules for
mistakes. When neither round finds a fault, the fault is at the furthest token of the first round. A fault
of the grammar gives way to a fault among the tokens after it, and to an open bracket on an earlier line.
-/

namespace ModuleDocs.Source.Grammar

/-- The line to report for a fault, once the tokens after the furthest one looked at are known. -/
def review (stream : TokenStream) (reach : Nat) (line : Nat) : Nat :=
  match stream.ending with
  | .complete => line
  | .malformed line => line
  | .unfinished _ none => line
  | .unfinished _ (some bracket) =>
    let last := (stream.tokens[reach - 1]?.map (·.line)).getD 0
    if bracket < last then bracket else line

/-- The same for a fault that a rule reported: at the end of the text nothing comes after it. -/
def reviewReported (stream : TokenStream) (reach : Nat) (line : Nat) : Nat :=
  match stream.tokens[reach - 1]? with
  | some t => if t.last then line else review stream reach line
  | none => review stream reach line

/-- The line to report when no rule reported a fault. -/
def unexpected (stream : TokenStream) (firstReach secondReach : Nat) : Nat :=
  match stream.tokens[firstReach - 1]? with
  | none => 0
  | some t =>
    if t.kind = .indent ∨ t.kind = .dedent then (stream.tokens[secondReach - 1]?.map (·.line)).getD 0
    else review stream secondReach t.line

/-- Reads a stream of tokens by a rule: its value, or the line of the fault. -/
def readStream {α : Type} (nested : List Char → Nat → Except Nat Expr) (rule : Rule α)
    (stream : TokenStream) : Except Nat α :=
  match rule ⟨stream, false, nested⟩ 0 (Trace.start 0) with
  | (.ok (a, _), _) => .ok a
  | (.error (.fault line), trace) => .error (reviewReported stream trace.reach line)
  | (.error (.broken line), _) => .error line
  | (.error .mismatch, first) =>
    match rule ⟨stream, true, nested⟩ 0 (Trace.start first.reach) with
    | (.error (.fault line), trace) => .error (reviewReported stream trace.reach line)
    | (.error (.broken line), _) => .error line
    | (_, second) => .error (unexpected stream first.reach second.reach)

/-- Reads an expression inside a formatted string. Formatted strings nest at most as deep as the first
argument says; each is shorter than the one around it. -/
def readNested : Nat → List Char → Nat → Except Nat Expr
  | 0, _, line => .error line
  | depth + 1, text, line =>
    let stream := TokenStream.ofText .file line text
    let rule : Rule Expr := do
      return (← expr (depthFor stream.tokens.size) .starExpressions).expr
    readStream (readNested depth) rule stream

def wholeExpr (r : Recur) : Rule Expr := do
  let e ← tupleOrOne (r .expression)
  let _ ← Rule.many Rule.newline
  let _ ← Rule.kind .finish
  return e.expr

end Grammar

/-- Reads a text as an expression: its tree, or the line of the fault. -/
def Expr.parse (text : List Char) : Except Nat Expr :=
  let stream := TokenStream.ofText .expression 1 text
  Grammar.readStream (Grammar.readNested text.length)
    (Grammar.wholeExpr (Grammar.expr (Grammar.depthFor stream.tokens.size))) stream

end ModuleDocs.Source
