import ModuleDocs.Source.Expr
import ModuleDocs.Source.Token.Numeral
import ModuleDocs.Text.CharacterName
import ModuleDocs.Text.CodeTable

/-!
# Literals

The values of numerals and string literals. An escape that is cut short or names no character makes a
string literal invalid; an unknown escape stands for itself. A decimal integer has at most 4300 digits.
-/

namespace ModuleDocs.Source

namespace Numeral

/-- The greatest number of digits of a decimal integer. -/
def maxDigits : Nat := 4300

def decimal (digits : List Char) : Nat := digits.foldl (fun n c => 10 * n + (c.toNat - 48)) 0

/-- The number written in a base that is a power of two. -/
def radix (base : Nat) (digits : List Char) : Nat :=
  digits.foldl (fun n c => base * n + CodeTable.hexDigit c) 0

def exponent : List Char → Int
  | '-' :: ds => -(decimal ds : Int)
  | '+' :: ds => decimal ds
  | ds => decimal ds

def float (cs : List Char) : Binary64 :=
  let isMark : Char → Bool := fun c => c == 'e' || c == 'E'
  let mantissa := cs.takeWhile fun c => !isMark c
  let power := exponent (cs.dropWhile fun c => !isMark c).tail
  let whole := mantissa.takeWhile (· != '.')
  let fraction := (mantissa.dropWhile (· != '.')).tail
  Binary64.ofDecimal (decimal (whole ++ fraction)) (power - fraction.length)

/-- The value of a numeral; none when it has too many digits. -/
def value? (text : String) : Option Constant :=
  match text.toList.filter (· != '_') with
  | '0' :: 'x' :: ds => some (.int (radix 16 ds))
  | '0' :: 'X' :: ds => some (.int (radix 16 ds))
  | '0' :: 'o' :: ds => some (.int (radix 8 ds))
  | '0' :: 'O' :: ds => some (.int (radix 8 ds))
  | '0' :: 'b' :: ds => some (.int (radix 2 ds))
  | '0' :: 'B' :: ds => some (.int (radix 2 ds))
  | cs =>
    if cs.getLast? == some 'j' || cs.getLast? == some 'J' then some (.imaginary (float cs.dropLast))
    else if cs.all Char.isDigit then
      if cs.length > maxDigits && cs.any (· != '0') then none else some (.int (decimal cs))
    else some (.float (float cs))

end Numeral

/-- A string literal as written: what its letters say, and what stands between the quotes. -/
structure StringLiteral where
  isBytes : Bool
  isRaw : Bool
  isFormatted : Bool
  /-- Written with a small `u` in front. -/
  isMarked : Bool
  body : List Char
  /-- The number of characters in front of the body. -/
  offset : Nat
  deriving Repr

namespace StringLiteral

def ofToken (text : String) : StringLiteral :=
  let cs := text.toList
  let letters := cs.takeWhile fun c => c != '\'' && c != '"'
  let quoted := cs.drop letters.length
  let quote := quoted.headD '"'
  let size := if quoted.length ≥ 6 && [quote, quote, quote].isPrefixOf quoted then 3 else 1
  let has := fun (a b : Char) => letters.contains a || letters.contains b
  { isBytes := has 'b' 'B'
    isRaw := has 'r' 'R'
    isFormatted := has 'f' 'F'
    isMarked := letters.head? == some 'u'
    body := (quoted.drop size).take (quoted.length - 2 * size)
    offset := letters.length + size }

end StringLiteral

namespace Escape

/-- Escapes of one letter that stand for one character in strings and bytes alike. -/
def simple? (c : Char) : Option Nat :=
  match c with
  | '\\' => some 0x5C
  | '\'' => some 0x27
  | '"' => some 0x22
  | 'a' => some 0x07
  | 'b' => some 0x08
  | 'f' => some 0x0C
  | 'n' => some 0x0A
  | 'r' => some 0x0D
  | 't' => some 0x09
  | 'v' => some 0x0B
  | _ => none

/-- Exactly `n` hexadecimal digits at the start: their value. -/
def hex? (n : Nat) (cs : List Char) : Option Nat :=
  let ds := cs.take n
  if ds.length = n && ds.all Numeral.isHexDigit then some (CodeTable.hexNumber ds) else none

def octal (cs : List Char) : List Char := (cs.take 3).takeWhile Numeral.isOctalDigit

/-- The number of hexadecimal digits after an escape letter of strings. -/
def hexWidth? (c : Char) : Option Nat :=
  match c with
  | 'x' => some 2
  | 'u' => some 4
  | 'U' => some 8
  | _ => none

/-- A character named between braces: its code point and the number of characters read. -/
def named? : List Char → Option (Nat × Nat)
  | '{' :: cs => do
    let name := cs.takeWhile (· != '}')
    if name.length < cs.length then
      let n ← CharacterName.point? name
      some (n, name.length + 2)
    else none
  | _ => none

/-- One escape after its backslash: the code points it stands for and the number of characters read. A
backslash at the very end stands for itself. -/
def point? : List Char → Option (Text × Nat)
  | [] => some ([CodePoint.ofChar '\\'], 0)
  | c :: cs =>
    match simple? c, hexWidth? c with
    | some n, _ => some ([CodePoint.ofNat n], 1)
    | none, some width => do
      let n ← hex? width cs
      if n < 0x110000 then some ([CodePoint.ofNat n], 1 + width) else none
    | none, none =>
      if c == '\n' then some ([], 1)
      else if c == 'N' then (named? cs).map fun (n, read) => ([CodePoint.ofNat n], 1 + read)
      else if Numeral.isOctalDigit c then
        let ds := octal (c :: cs)
        some ([CodePoint.ofNat (Numeral.radix 8 ds)], ds.length)
      else some ([CodePoint.ofChar '\\', CodePoint.ofChar c], 1)

/-- The value of a string body. The first argument bounds the number of steps. -/
def decodeText : Nat → List Char → Option Text
  | 0, _ => some []
  | _, [] => some []
  | fuel + 1, '\\' :: cs => do
    let (points, n) ← point? cs
    let rest ← decodeText fuel (cs.drop n)
    some (points ++ rest)
  | fuel + 1, c :: cs => (decodeText fuel cs).map (CodePoint.ofChar c :: ·)

def byte? : List Char → Option (List UInt8 × Nat)
  | [] => some ([0x5C], 0)
  | c :: cs =>
    match simple? c with
    | some n => some ([n.toUInt8], 1)
    | none =>
      if c == '\n' then some ([], 1)
      else if c == 'x' then (hex? 2 cs).map fun n => ([n.toUInt8], 3)
      else if Numeral.isOctalDigit c then
        let ds := octal (c :: cs)
        some ([(Numeral.radix 8 ds).toUInt8], ds.length)
      else some ([0x5C, c.toNat.toUInt8], 1)

/-- The value of a bytes body. The first argument bounds the number of steps. -/
def decodeBytes : Nat → List Char → Option (List UInt8)
  | 0, _ => some []
  | _, [] => some []
  | fuel + 1, '\\' :: cs => do
    let (bytes, n) ← byte? cs
    let rest ← decodeBytes fuel (cs.drop n)
    some (bytes ++ rest)
  | fuel + 1, c :: cs => (decodeBytes fuel cs).map (c.toNat.toUInt8 :: ·)

end Escape

namespace StringLiteral

/-- The text of a piece of a string body; none when an escape is invalid. -/
def decode (isRaw : Bool) (body : List Char) : Option Text :=
  if isRaw then some (body.map CodePoint.ofChar) else Escape.decodeText body.length body

/-- The bytes of a bytes body; none when an escape is invalid. -/
def decodeBytes (isRaw : Bool) (body : List Char) : Option (List UInt8) :=
  if isRaw then some (body.map fun c => c.toNat.toUInt8) else Escape.decodeBytes body.length body

end StringLiteral

end ModuleDocs.Source
