import ModuleDocs.Text.Basic

/-!
# Name patterns

Patterns for file names: a star stands for any text, a question mark for one code point, and brackets for
one code point out of a set. An opening bracket without a closing one stands for itself.
-/

namespace ModuleDocs

/-- One element of a pattern. -/
inductive GlobItem where
  /-- Any text. -/
  | star
  /-- Any code point. -/
  | any
  /-- This code point. -/
  | point (c : CodePoint)
  /-- A code point that lies in one of the ranges, or in none of them if negated. -/
  | oneOf (negated : Bool) (ranges : List (CodePoint × CodePoint))
  deriving Repr, DecidableEq

abbrev Glob := List GlobItem

namespace Glob

/-- The body of a bracket up to the closing bracket, and what comes after that. A closing bracket at the
start, or right after an exclamation mark, belongs to the body. -/
def bracketBody? (t : Text) : Option (Text × Text) :=
  let close := CodePoint.ofChar ']'
  let (mark, t) := if t.head? = some (CodePoint.ofChar '!') then (t.take 1, t.drop 1) else ([], t)
  let (first, t) := if t.head? = some close then (t.take 1, t.drop 1) else ([], t)
  let body := t.takeWhile (· != close)
  match t.dropWhile (· != close) with
  | [] => none
  | _ :: rest => some (mark ++ first ++ body, rest)

/-- The pieces of a bracket between the hyphens that make ranges. A hyphen makes a range unless it is at the
end, or within the first `skip` code points of its piece; pieces after the first have at least two. -/
def pieces (skip : Nat) (piece : Text) : Text → List Text
  | [] => if piece.isEmpty then [] else [piece]
  | c :: cs =>
    if c = CodePoint.ofChar '-' ∧ skip ≤ piece.length ∧ cs ≠ [] then piece :: pieces 2 [] cs
    else pieces skip (piece ++ [c]) cs

def bracketPieces (body : Text) : List Text :=
  pieces (if body.head? = some (CodePoint.ofChar '!') then 2 else 1) [] body

/-- Joins pieces whose range would be empty, leaving out its ends. -/
def dropEmptyRanges : List Text → List Text
  | [] => []
  | p :: ps =>
    match dropEmptyRanges ps with
    | [] => [p]
    | q :: qs =>
      match p.getLast?, q.head? with
      | some a, some b => if b < a then (p.dropLast ++ q.drop 1) :: qs else p :: q :: qs
      | _, _ => p :: q :: qs

def singles (t : Text) : List (CodePoint × CodePoint) := t.map fun c => (c, c)

/-- The ranges that a piece and the pieces after it stand for: from the last code point of one to the first
of the next, and every other code point alone. -/
def ranges (piece : Text) : List Text → List (CodePoint × CodePoint)
  | [] => singles piece
  | next :: after =>
    match piece.getLast?, next with
    | some a, b :: rest => singles piece.dropLast ++ (a, b) :: ranges rest after
    | _, _ => singles piece ++ ranges next after

def bracket (body : Text) : GlobItem :=
  match dropEmptyRanges (bracketPieces body) with
  | [] => .oneOf false []
  | p :: ps =>
    if p.head? = some (CodePoint.ofChar '!') then .oneOf true (ranges (p.drop 1) ps)
    else .oneOf false (ranges p ps)

/-- Reads a pattern, with a bound on the number of elements. -/
def read : Nat → Text → Glob
  | 0, _ => []
  | _, [] => []
  | fuel + 1, c :: cs =>
    if c = CodePoint.ofChar '*' then .star :: read fuel cs
    else if c = CodePoint.ofChar '?' then .any :: read fuel cs
    else if c = CodePoint.ofChar '[' then
      match bracketBody? cs with
      | some (body, rest) => bracket body :: read fuel rest
      | none => .point c :: read fuel cs
    else .point c :: read fuel cs

def ofText (t : Text) : Glob := read t.length t

def admits : GlobItem → CodePoint → Bool
  | .star, _ => true
  | .any, _ => true
  | .point c, d => c == d
  | .oneOf negated ranges, d => (ranges.any fun r => r.1 ≤ d && d ≤ r.2) != negated

def matchesText : Glob → Text → Bool
  | [], t => t.isEmpty
  | .star :: g, [] => matchesText g []
  | .star :: g, c :: cs => matchesText g (c :: cs) || matchesText (.star :: g) cs
  | _ :: _, [] => false
  | i :: g, c :: cs => admits i c && matchesText g cs
termination_by g t => g.length + t.length

end Glob

end ModuleDocs
