/-!
# Binary floating point

Non-negative numbers of the 64-bit binary format, as an integer times a power of two. `Binary64.ofDecimal`
rounds a decimal to the nearest of them, a tie to the even integer, in exact arithmetic.
-/

namespace ModuleDocs

/-- A non-negative number of the 64-bit binary format: `mantissa · 2 ^ exponent`, or past the largest. -/
inductive Binary64 where
  | finite (mantissa : Nat) (exponent : Int)
  | infinite
  deriving Repr, DecidableEq

namespace Binary64

/-- Division rounded to the nearest integer, a tie to the even one. -/
def roundDiv (num den : Nat) : Nat :=
  let q := num / den
  let r := num % den
  if 2 * r < den then q
  else if den < 2 * r then q + 1
  else if q % 2 = 0 then q else q + 1

def scaleDown (num den : Nat) (e : Int) : Nat × Nat :=
  if e < 0 then (num * Nat.pow 2 e.natAbs, den) else (num, den * Nat.pow 2 e.natAbs)

def leastExponent : Int := -1074

def greatestExponent : Int := 971

/-- The number of the format nearest to a positive fraction. -/
def ofFraction (num den : Nat) : Binary64 :=
  let guess : Int := (num.log2 : Int) - den.log2 - 52
  let (a, b) := scaleDown num den guess
  let exact := if a < b * Nat.pow 2 52 then guess - 1 else guess
  let e := max exact leastExponent
  let (a, b) := scaleDown num den e
  let m := roundDiv a b
  let (m, e) := if m = Nat.pow 2 53 then (Nat.pow 2 52, e + 1) else (m, e)
  if e > greatestExponent then .infinite else if m = 0 then .finite 0 0 else .finite m e

def digitCount (n : Nat) : Nat := (Nat.toDigits 10 n).length

/-- The number of the format nearest to `digits · 10 ^ exponent`. Decimals far outside the range are
settled by their size. -/
def ofDecimal (digits : Nat) (exponent : Int) : Binary64 :=
  if digits = 0 then .finite 0 0
  else
    let size := (digitCount digits : Int) + exponent
    if size > 310 then .infinite
    else if size < -330 then .finite 0 0
    else if exponent < 0 then ofFraction digits (Nat.pow 10 exponent.natAbs)
    else ofFraction (digits * Nat.pow 10 exponent.natAbs) 1

/-- The natural number that this is, if it is one. -/
def whole? : Binary64 → Option Nat
  | infinite => none
  | finite m e =>
    if 0 ≤ e then some (m * Nat.pow 2 e.natAbs)
    else if m % Nat.pow 2 e.natAbs = 0 then some (m / Nat.pow 2 e.natAbs)
    else none

end Binary64

end ModuleDocs
