import ModuleDocs.Source.Literal
import ModuleDocs.Value.Basic

/-!
# JSON

Values as JSON texts. Everything outside ASCII is escaped, code points above U+FFFF as a pair of
surrogates. The reader also takes `NaN` and infinities, and of two entries with one key the later value.
-/

namespace ModuleDocs.Json

/-! ### Writing -/

def unit (n : Nat) : String := String.ofList ('\\' :: 'u' :: Quoted.hex 4 n)

def point (c : CodePoint) : String :=
  match c.val with
  | 0x22 => "\\\""
  | 0x5C => "\\\\"
  | 0x0A => "\\n"
  | 0x0D => "\\r"
  | 0x09 => "\\t"
  | 0x0C => "\\f"
  | 0x08 => "\\b"
  | n =>
    if 0x20 ≤ n ∧ n < 0x7F then String.ofList [Char.ofNat n]
    else if n < 0x10000 then unit n
    else unit (0xD800 + (n - 0x10000) / 0x400) ++ unit (0xDC00 + (n - 0x10000) % 0x400)

def string (t : Text) : String := "\"" ++ String.join (t.map point) ++ "\""

def floatText (negative : Bool) (magnitude : Binary64) : String :=
  (if negative then "-" else "") ++
    match magnitude with
    | .infinite => "Infinity"
    | x => x.text true

mutual

def compact : Value → String
  | .null => "null"
  | .bool true => "true"
  | .bool false => "false"
  | .int n => toString n
  | .float negative magnitude => floatText negative magnitude
  | .notANumber => "NaN"
  | .str t => string t
  | .list items => "[" ++ compactItems items ++ "]"
  | .map entries => "\x7b" ++ compactEntries entries ++ "\x7d"

def compactItems : List Value → String
  | [] => ""
  | [v] => compact v
  | v :: vs => compact v ++ ", " ++ compactItems vs

def compactEntries : List (Text × Value) → String
  | [] => ""
  | [(k, v)] => string k ++ ": " ++ compact v
  | (k, v) :: es => string k ++ ": " ++ compact v ++ ", " ++ compactEntries es

end

/-- A line end followed by two blanks for each level. -/
def lineStart (level : Nat) : String := "\n" ++ String.ofList (List.replicate (2 * level) ' ')

mutual

/-- A value over several lines, each level indented by two blanks. -/
def pretty (level : Nat) : Value → String
  | .list (v :: vs) =>
    "[" ++ lineStart (level + 1) ++ prettyItems (level + 1) (v :: vs) ++ lineStart level ++ "]"
  | .map (e :: es) =>
    "\x7b" ++ lineStart (level + 1) ++ prettyEntries (level + 1) (e :: es) ++ lineStart level ++ "\x7d"
  | v => compact v

def prettyItems (level : Nat) : List Value → String
  | [] => ""
  | [v] => pretty level v
  | v :: vs => pretty level v ++ "," ++ lineStart level ++ prettyItems level vs

def prettyEntries (level : Nat) : List (Text × Value) → String
  | [] => ""
  | [(k, v)] => string k ++ ": " ++ pretty level v
  | (k, v) :: es => string k ++ ": " ++ pretty level v ++ "," ++ lineStart level ++ prettyEntries level es

end

/-! ### Reading -/

def isBlank (c : Char) : Bool := c == ' ' || c == '\t' || c == '\n' || c == '\r'

def skipBlanks (cs : List Char) : List Char := cs.dropWhile isBlank

def unit? (cs : List Char) : Option Nat := Source.Escape.hex? 4 cs

/-- An escape after its backslash: its code point and the number of characters read. -/
def escape? : List Char → Option (Nat × Nat)
  | '"' :: _ => some (0x22, 1)
  | '\\' :: _ => some (0x5C, 1)
  | '/' :: _ => some (0x2F, 1)
  | 'b' :: _ => some (0x08, 1)
  | 'f' :: _ => some (0x0C, 1)
  | 'n' :: _ => some (0x0A, 1)
  | 'r' :: _ => some (0x0D, 1)
  | 't' :: _ => some (0x09, 1)
  | 'u' :: cs => do
    let high ← unit? cs
    let pair? : Option Nat :=
      match cs.drop 4 with
      | '\\' :: 'u' :: more => do
        let low ← unit? more
        if 0xD800 ≤ high ∧ high < 0xDC00 ∧ 0xDC00 ≤ low ∧ low < 0xE000 then
          some (0x10000 + (high - 0xD800) * 0x400 + (low - 0xDC00))
        else none
      | _ => none
    match pair? with
    | some n => some (n, 11)
    | none => some (high, 5)
  | _ => none

/-- The rest of a string after its opening quote. The first argument bounds the number of steps; `seen`
holds the code points read, in reverse. -/
def stringTail (seen : List CodePoint) : Nat → List Char → Option (Text × List Char)
  | 0, _ => none
  | _, [] => none
  | _, '"' :: cs => some (seen.reverse, cs)
  | fuel + 1, '\\' :: cs => do
    let (n, width) ← escape? cs
    stringTail (CodePoint.ofNat n :: seen) fuel (cs.drop width)
  | fuel + 1, c :: cs =>
    if c.toNat < 0x20 then none else stringTail (CodePoint.ofChar c :: seen) fuel cs

def readNumber (negative : Bool) (cs : List Char) : Option (Value × List Char) :=
  let whole := cs.takeWhile Char.isDigit
  let whole := if whole.head? == some '0' then ['0'] else whole
  if whole.isEmpty then none
  else
    let rest := cs.drop whole.length
    let (fraction, rest) :=
      match rest with
      | '.' :: ds =>
        let f := ds.takeWhile Char.isDigit
        if f.isEmpty then ([], rest) else (f, ds.drop f.length)
      | _ => ([], rest)
    let (power, rest) : Option Int × List Char :=
      match rest with
      | e :: ds =>
        if e == 'e' || e == 'E' then
          let (sign, digits) :=
            match ds with
            | '+' :: more => (1, more)
            | '-' :: more => (-1, more)
            | more => ((1 : Int), more)
          let p := digits.takeWhile Char.isDigit
          if p.isEmpty then (none, rest)
          else (some (sign * Source.Numeral.decimal p), digits.drop p.length)
        else (none, rest)
      | [] => (none, rest)
    if fraction.isEmpty && power.isNone then
      let n : Int := Source.Numeral.decimal whole
      some (.int (if negative then -n else n), rest)
    else
      let x := Binary64.ofDecimal (Source.Numeral.decimal (whole ++ fraction))
        (power.getD 0 - fraction.length)
      some (.float negative x, rest)

def word? (cs : List Char) : Option (Value × List Char) :=
  let words : List (String × Value) :=
    [("null", .null), ("true", .bool true), ("false", .bool false), ("NaN", .notANumber),
     ("Infinity", .float false .infinite), ("-Infinity", .float true .infinite)]
  (words.find? fun w => w.1.toList.isPrefixOf cs).map fun w => (w.2, cs.drop w.1.length)

mutual

/-- Reads a value. The first argument bounds the number of steps. -/
def readValue : Nat → List Char → Option (Value × List Char)
  | 0, _ => none
  | fuel + 1, cs =>
    match word? cs with
    | some r => some r
    | none =>
      match cs with
      | '"' :: cs => (stringTail [] (fuel + 1) cs).map fun (t, rest) => (.str t, rest)
      | '[' :: cs =>
        match skipBlanks cs with
        | ']' :: rest => some (.list [], rest)
        | cs => (readItems fuel cs).map fun (vs, rest) => (.list vs, rest)
      | '{' :: cs =>
        match skipBlanks cs with
        | '}' :: rest => some (.map [], rest)
        | cs =>
          (readEntries fuel cs).map fun (es, rest) =>
            (.map (es.foldl (fun acc e => Value.set acc e.1 e.2) []), rest)
      | '-' :: cs => readNumber true cs
      | cs => readNumber false cs

def readItems : Nat → List Char → Option (List Value × List Char)
  | 0, _ => none
  | fuel + 1, cs => do
    let (v, rest) ← readValue fuel cs
    match skipBlanks rest with
    | ',' :: rest =>
      let (vs, rest) ← readItems fuel (skipBlanks rest)
      some (v :: vs, rest)
    | ']' :: rest => some ([v], rest)
    | _ => none

def readEntries : Nat → List Char → Option (List (Text × Value) × List Char)
  | 0, _ => none
  | fuel + 1, cs => do
    match cs with
    | '"' :: cs =>
      let (k, rest) ← stringTail [] (fuel + 1) cs
      match skipBlanks rest with
      | ':' :: rest =>
        let (v, rest) ← readValue fuel (skipBlanks rest)
        match skipBlanks rest with
        | ',' :: rest =>
          let (es, rest) ← readEntries fuel (skipBlanks rest)
          some ((k, v) :: es, rest)
        | '}' :: rest => some ([(k, v)], rest)
        | _ => none
      | _ => none
    | _ => none

end

def parse? (cs : List Char) : Option Value := do
  let (v, rest) ← readValue (cs.length + 1) (skipBlanks cs)
  if (skipBlanks rest).isEmpty then some v else none

end ModuleDocs.Json
