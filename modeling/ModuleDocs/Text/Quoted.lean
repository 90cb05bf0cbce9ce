import ModuleDocs.Text.Printable

/-!
# Quoted texts

A text between quotes, with escapes for what is not printable. Single quotes are preferred; double quotes
are used when the text holds a single quote and no double quote.
-/

namespace ModuleDocs

namespace Quoted

/-- The lower-case hexadecimal digit of a number below sixteen. -/
def hexChar (n : Nat) : Char := Nat.digitChar n

/-- The last `width` hexadecimal digits of a number. -/
def hex : Nat → Nat → List Char
  | 0, _ => []
  | width + 1, n => hex width (n / 16) ++ [hexChar (n % 16)]

/-- The escape of a code point by its number: two, four or eight digits. -/
def numeric (n : Nat) : List Char :=
  if n < 0x100 then '\\' :: 'x' :: hex 2 n
  else if n < 0x10000 then '\\' :: 'u' :: hex 4 n
  else '\\' :: 'U' :: hex 8 n

def escape (c : CodePoint) : List Char :=
  if c.val = 0x09 then ['\\', 't']
  else if c.val = 0x0A then ['\\', 'n']
  else if c.val = 0x0D then ['\\', 'r']
  else numeric c.val

/-- A code point as it stands between quotes of the given kind. -/
def point (quote : Char) (c : CodePoint) : List Char :=
  match c.toChar? with
  | some ch =>
    if ch = quote ∨ ch = '\\' then ['\\', ch]
    else if c.isPrintable then [ch]
    else escape c
  | none => escape c

/-- The quote to be used around a text that has a single quote or a double quote. -/
def choose (single double : Bool) : Char := if single && !double then '"' else '\''

/-- The characters of a text between quotes of the given kind. -/
def body (quote : Char) (t : Text) : List Char := t.flatMap (point quote)

def quoteFor (t : Text) : Char := choose (t.contains (CodePoint.ofChar '\'')) (t.contains (CodePoint.ofChar '"'))

/-- A byte as it stands between quotes of the given kind. -/
def byte (quote : Char) (b : UInt8) : List Char :=
  let n := b.toNat
  let c := Char.ofNat n
  if c = quote ∨ c = '\\' then ['\\', c]
  else if n = 0x09 then ['\\', 't']
  else if n = 0x0A then ['\\', 'n']
  else if n = 0x0D then ['\\', 'r']
  else if 0x20 ≤ n ∧ n < 0x7F then [c]
  else '\\' :: 'x' :: hex 2 n

/-- Bytes in quotes, after the letter `b`. -/
def bytes (bs : List UInt8) : String :=
  let quote := choose (bs.contains 0x27) (bs.contains 0x22)
  String.ofList (['b', quote] ++ bs.flatMap (byte quote) ++ [quote])

end Quoted

namespace Text

def quoted (t : Text) : String :=
  let quote := Quoted.quoteFor t
  String.ofList ([quote] ++ Quoted.body quote t ++ [quote])

end Text

end ModuleDocs
