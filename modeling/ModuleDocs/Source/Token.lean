/-!
# Tokens

The lexical units of Python source, and streams of them. A stream ends either with its end marker or where
the text cannot be split any further; the fault found there matters only when the grammar reaches it, or
when the grammar has found a fault of its own before it.
-/

namespace ModuleDocs.Source

/-- Kinds of tokens. -/
inductive TokenKind where
  | name
  | keyword
  | number
  | string
  | operator
  /-- The end of a logical line. -/
  | newline
  | indent
  | dedent
  /-- The end of the text. -/
  | finish
  deriving Repr, DecidableEq

/-- A lexical unit. -/
structure Token where
  kind : TokenKind
  /-- The characters as written. -/
  text : String
  /-- The line on which it starts, counted from one. -/
  line : Nat
  /-- The number of brackets open after it. -/
  depth : Nat
  /-- Whether the end of the text had been seen when it was read. -/
  last : Bool
  deriving Repr

/-- How a stream ends. -/
inductive Ending where
  /-- With an end marker. -/
  | complete
  /-- At characters that form no token. -/
  | malformed (line : Nat)
  /-- At an indentation or a line end that does not fit, or at the end of the text inside brackets; `bracket`
  is the line of the innermost open bracket. -/
  | unfinished (line : Nat) (bracket : Option Nat)
  deriving Repr, DecidableEq

namespace Ending

/-- The line of the fault at the end of a stream, if it ends with one. -/
def fault? : Ending → Option Nat
  | .complete => none
  | .malformed line => some line
  | .unfinished line _ => some line

end Ending

/-- The tokens of a text. -/
structure TokenStream where
  tokens : Array Token
  ending : Ending
  deriving Repr

def keywords : List String :=
  ["False", "None", "True", "and", "as", "assert", "async", "await", "break", "class", "continue", "def",
   "del", "elif", "else", "except", "finally", "for", "from", "global", "if", "import", "in", "is",
   "lambda", "nonlocal", "not", "or", "pass", "raise", "return", "try", "while", "with", "yield"]

def softKeywords : List String := ["_", "case", "match"]

end ModuleDocs.Source
