import ModuleDocs.Value.Basic

/-!
# YAML scalars

What a plain scalar stands for: by its form it is null, a truth value, a number or a date, and a string
otherwise.
-/

namespace ModuleDocs

/-- The content of a YAML document. -/
inductive Yaml where
  | null
  | bool (value : Bool)
  | int (value : Int)
  | float (negative : Bool) (magnitude : Binary64)
  | notANumber
  | str (value : Text)
  /-- A date or a time. -/
  | date
  /-- A date with a time. -/
  | time
  | list (items : List Yaml)
  | map (entries : List (Yaml × Yaml))
  deriving Repr

namespace Yaml

/-! ### Forms -/

/-- A sign, if there is one, and what comes after it. -/
def dropSign : List Char → Bool × List Char
  | '-' :: cs => (true, cs)
  | '+' :: cs => (false, cs)
  | cs => (false, cs)

/-- Whether all characters, of which there is at least one, satisfy a condition. -/
def some1 (p : Char → Bool) (cs : List Char) : Bool := !cs.isEmpty && cs.all p

def isSpaced (c : Char) : Bool := c.isDigit || c == '_'

/-- The parts of a number with base sixty after its first: one or two digits below sixty each. -/
def isSixties (cs : List Char) : Bool :=
  match cs with
  | [d] => d.isDigit
  | [d, e] => '0' ≤ d && d ≤ '5' && e.isDigit
  | _ => false

def atColons (cs : List Char) : List (List Char) := cs.splitOn ':'

def isWhole (cs : List Char) : Bool :=
  match cs with
  | '0' :: 'b' :: ds => some1 (fun d => d == '0' || d == '1' || d == '_') ds
  | '0' :: 'x' :: ds => some1 (fun d => d.isDigit || ('a' ≤ d.toLower && d.toLower ≤ 'f') || d == '_') ds
  | ['0'] => true
  | '0' :: ds => some1 (fun d => ('0' ≤ d && d ≤ '7') || d == '_') ds
  | d :: _ =>
    d.isDigit &&
      match atColons cs with
      | [ds] => ds.all isSpaced
      | ds :: parts => ds.all isSpaced && parts.all isSixties
      | [] => false
  | [] => false

/-- The end of a number with a point: nothing, or an exponent with a sign. -/
def isExponentOrEnd : List Char → Bool
  | [] => true
  | e :: s :: ds => (e == 'e' || e == 'E') && (s == '+' || s == '-') && some1 Char.isDigit ds
  | _ => false

def isPointed (signed : Bool) (cs : List Char) : Bool :=
  match cs with
  | '.' :: d :: ds => !signed && d.isDigit && isExponentOrEnd (ds.dropWhile isSpaced)
  | d :: _ =>
    d.isDigit &&
      match atColons cs with
      | [_] =>
        match cs.dropWhile isSpaced with
        | '.' :: rest => isExponentOrEnd (rest.dropWhile isSpaced)
        | _ => false
      | first :: parts =>
        first.all isSpaced &&
          match parts.reverse with
          | last :: middle =>
            middle.all isSixties && isSixties (last.takeWhile (· != '.')) &&
              match last.dropWhile (· != '.') with
              | '.' :: rest => rest.all isSpaced
              | _ => false
          | [] => false
      | [] => false
  | [] => false

def isDigits (least most : Nat) (cs : List Char) : Bool :=
  least ≤ cs.length && cs.length ≤ most && cs.all Char.isDigit

def isTimeEnd (cs : List Char) : Bool :=
  let cs :=
    match cs with
    | '.' :: ds => ds.dropWhile Char.isDigit
    | _ => cs
  if cs.isEmpty then true
  else
    match cs.dropWhile fun c => c == ' ' || c == '\t' with
    | ['Z'] => true
    | s :: zone =>
      (s == '+' || s == '-') &&
        match atColons zone with
        | [h] => isDigits 1 2 h
        | [h, m] => isDigits 1 2 h && isDigits 2 2 m
        | _ => false
    | [] => false

/-- The form of a date or time. -/
inductive DateForm where
  | date
  | time
  /-- The form of a date that no calendar has, or of a time that no clock shows. -/
  | impossible
  deriving Repr, DecidableEq

/-- The number that digits spell in base ten. -/
def decimal (cs : List Char) : Nat := cs.foldl (fun n c => 10 * n + (c.toNat - 48)) 0

def monthDays (year month : Nat) : Nat :=
  if month = 2 then if year % 4 = 0 ∧ (year % 100 ≠ 0 ∨ year % 400 = 0) then 29 else 28
  else if [4, 6, 9, 11].contains month then 30
  else 31

def isDay (year month day : List Char) : Bool :=
  let (y, m, d) := (decimal year, decimal month, decimal day)
  1 ≤ y && 1 ≤ m && m ≤ 12 && 1 ≤ d && d ≤ monthDays y m

def isClock (hour minute second : List Char) : Bool :=
  decimal hour < 24 && decimal minute < 60 && decimal second < 60

/-- The form of a date, or of a date with a time. -/
def dateForm? (cs : List Char) : Option DateForm :=
  let year := cs.take 4
  if !isDigits 4 4 year then none
  else
    match cs.drop 4 with
    | '-' :: rest =>
      let month := rest.takeWhile Char.isDigit
      match rest.drop month.length with
      | '-' :: rest =>
        let day := rest.takeWhile Char.isDigit
        let rest := rest.drop day.length
        if rest.isEmpty then
          if !(isDigits 2 2 month && isDigits 2 2 day) then none
          else if isDay year month day then some .date
          else some .impossible
        else if !(isDigits 1 2 month && isDigits 1 2 day) then none
        else
          let clock :=
            match rest with
            | 'T' :: r => r
            | 't' :: r => r
            | _ => rest.dropWhile fun c => c == ' ' || c == '\t'
          let hour := clock.takeWhile Char.isDigit
          match clock.drop hour.length with
          | ':' :: m :: n :: ':' :: s :: t :: ending =>
            if !(clock.length < rest.length && isDigits 1 2 hour && isDigits 4 4 [m, n, s, t] && isTimeEnd ending)
            then none
            else if isDay year month day && isClock hour [m, n] [s, t] then some .time
            else some .impossible
          | _ => none
      | _ => none
    | _ => none

/-! ### Values -/

def digitOf (c : Char) : Nat := if c.isDigit then c.toNat - 48 else c.toLower.toNat - 87

def inBase (base : Nat) (cs : List Char) : Nat := cs.foldl (fun n c => n * base + digitOf c) 0

def whole (cs : List Char) : Nat :=
  let cs := cs.filter (· != '_')
  match cs with
  | '0' :: 'b' :: ds => inBase 2 ds
  | '0' :: 'x' :: ds => inBase 16 ds
  | '0' :: ds => inBase 8 ds
  | _ => (atColons cs).foldl (fun n part => n * 60 + inBase 10 part) 0

def pointed (cs : List Char) : Binary64 :=
  let cs := cs.filter (· != '_')
  let mantissa := cs.takeWhile fun c => c != 'e' && c != 'E'
  let power : Int :=
    match cs.drop mantissa.length with
    | _ :: s :: ds => if s == '-' then -(inBase 10 ds : Int) else inBase 10 ds
    | _ => 0
  let before := mantissa.takeWhile (· != '.')
  let after := (mantissa.drop before.length).drop 1
  let units := (atColons before).foldl (fun n part => n * 60 + inBase 10 part) 0
  Binary64.ofDecimal (units * Nat.pow 10 after.length + inBase 10 after) (power - after.length)

def truth? (s : String) : Option Bool :=
  if ["yes", "Yes", "YES", "true", "True", "TRUE", "on", "On", "ON"].contains s then some true
  else if ["no", "No", "NO", "false", "False", "FALSE", "off", "Off", "OFF"].contains s then some false
  else none

/-- What a plain scalar stands for; none for the sign that stands for no value, and for a date that there is not. -/
def ofPlain (t : Text) : Option Yaml :=
  match t.toString? with
  | none => some (.str t)
  | some s =>
    let cs := s.toList
    let (negative, digits) := dropSign cs
    let signed := digits.length < cs.length
    if ["", "~", "null", "Null", "NULL"].contains s then some .null
    else if [".inf", ".Inf", ".INF"].contains (String.ofList digits) then some (.float negative .infinite)
    else if [".nan", ".NaN", ".NAN"].contains s then some .notANumber
    else if isPointed signed digits then some (.float negative (pointed digits))
    else if isWhole digits then some (.int (if negative then -(whole digits : Int) else whole digits))
    else if s == "=" then none
    else
      match truth? s, dateForm? cs with
      | some b, _ => some (.bool b)
      | _, some .date => some .date
      | _, some .time => some .time
      | _, some .impossible => none
      | _, _ => some (.str t)

end Yaml

end ModuleDocs
