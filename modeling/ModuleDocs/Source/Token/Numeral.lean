/-!
# Numerals

The longest numeral at the start of a text. Digits may be grouped by single underscores, a decimal integer
has no leading zero unless it is zero, and no letter may follow a numeral except the start of a keyword
that can stand after one.
-/

namespace ModuleDocs.Source.Numeral

/-- Skips digits grouped by single underscores; none when an underscore is not followed by a digit. -/
def skipDigits (digit : Char → Bool) : List Char → Option (List Char)
  | [] => some []
  | '_' :: c :: cs => if digit c then skipDigits digit cs else none
  | ['_'] => none
  | c :: cs => if digit c then skipDigits digit cs else some (c :: cs)

def isWordChar (c : Char) : Bool := c.isAlphanum || c == '_' || 128 ≤ c.toNat

/-- Whether a numeral can end here: no word character follows, or a keyword starts. -/
def endsHere (rest : List Char) : Bool :=
  ["and", "else", "for", "if", "in", "is", "or", "not"].any (fun w => w.toList.isPrefixOf rest) ||
    match rest with
    | [] => true
    | c :: _ => !isWordChar c

/-- The rest, if a numeral can end before it. -/
def ending (rest : List Char) : Option (List Char) := if endsHere rest then some rest else none

/-- After the digits and the exponent: an imaginary unit or the end. -/
def skipUnit : List Char → Option (List Char)
  | 'j' :: cs => ending cs
  | 'J' :: cs => ending cs
  | cs => ending cs

def skipExponent (letter : Char) : List Char → Option (List Char)
  | '+' :: c :: cs => if c.isDigit then (skipDigits Char.isDigit cs).bind skipUnit else none
  | ['+'] => none
  | '-' :: c :: cs => if c.isDigit then (skipDigits Char.isDigit cs).bind skipUnit else none
  | ['-'] => none
  | c :: cs =>
    if c.isDigit then (skipDigits Char.isDigit cs).bind skipUnit else ending (letter :: c :: cs)
  | [] => ending [letter]

/-- After the digits: an exponent, a unit or the end. -/
def skipTail : List Char → Option (List Char)
  | 'e' :: cs => skipExponent 'e' cs
  | 'E' :: cs => skipExponent 'E' cs
  | cs => skipUnit cs

def skipFraction : List Char → Option (List Char)
  | c :: cs => if c.isDigit then (skipDigits Char.isDigit cs).bind skipTail else skipTail (c :: cs)
  | [] => some []

/-- The digits of a numeral in another base, after its letter. -/
def skipRadix (digit : Char → Bool) (cs : List Char) : Option (List Char) :=
  let cs := if cs.head? == some '_' then cs.drop 1 else cs
  match cs with
  | [] => none
  | c :: rest =>
    if digit c then
      (skipDigits digit rest).bind fun after =>
        if (after.head?.map Char.isDigit).getD false then none else ending after
    else none

def isHexDigit (c : Char) : Bool :=
  c.isDigit || ('a' ≤ c && c ≤ 'f') || ('A' ≤ c && c ≤ 'F')

def isOctalDigit (c : Char) : Bool := '0' ≤ c && c ≤ '7'

def isBinaryDigit (c : Char) : Bool := c == '0' || c == '1'

def skipDecimal (cs : List Char) : Option (List Char) :=
  (skipDigits Char.isDigit cs).bind fun rest =>
    match rest with
    | '.' :: after => skipFraction after
    | c :: _ =>
      if c == 'e' || c == 'E' || c == 'j' || c == 'J' then skipTail rest
      else if padded rest then none else ending rest
    | [] => if padded rest then none else some []
where
  /-- Whether the digits before `rest` start with a zero and are not all zero. -/
  padded (rest : List Char) : Bool :=
    let digits := cs.take (cs.length - rest.length)
    digits.head? == some '0' && digits.any fun c => c != '0' && c != '_'

/-- Skips the numeral at the start, which is a digit, or a point before a digit. -/
def skip : List Char → Option (List Char)
  | '.' :: cs => skipFraction cs
  | '0' :: c :: cs =>
    if c == 'x' || c == 'X' then skipRadix isHexDigit cs
    else if c == 'o' || c == 'O' then skipRadix isOctalDigit cs
    else if c == 'b' || c == 'B' then skipRadix isBinaryDigit cs
    else skipDecimal ('0' :: c :: cs)
  | cs => skipDecimal cs

end ModuleDocs.Source.Numeral
