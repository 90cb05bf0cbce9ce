import ModuleDocs.Number.Binary64

/-!
# Shortest decimals

The decimal with the fewest digits that rounds back to a number of the 64-bit binary format; of several
with that many digits, the nearest. It is written positionally between `1e-4` and `1e16` and with an
exponent of at least two digits outside.
-/

namespace ModuleDocs.Binary64

/-- `0.d₁d₂… · 10 ^ point` with the digits `d₁d₂…`. -/
structure Decimal where
  digits : List Char
  point : Int
  deriving Repr

/-- The set of reals that round to a number, in units of a quarter of its last place: the number itself,
the ends, and whether the ends belong to it. -/
structure Neighbourhood where
  low : Nat
  value : Nat
  high : Nat
  closed : Bool

/-- The neighbourhood of `m · 2 ^ e`. Below a power of two the numbers lie twice as close. -/
def neighbourhood (m : Nat) (e : Int) : Neighbourhood :=
  let low := if m = Nat.pow 2 52 ∧ e > leastExponent then 4 * m - 1 else 4 * m - 2
  ⟨low, 4 * m, 4 * m + 2, m % 2 = 0⟩

/-- Whether `d · 10 ^ k` lies in the neighbourhood; `scaled` turns both sides into integers. -/
def Neighbourhood.holds (n : Neighbourhood) (unit : Nat) (scale : Nat) (d : Nat) : Bool :=
  let x := d * unit
  if n.closed then n.low * scale ≤ x && x ≤ n.high * scale
  else n.low * scale < x && x < n.high * scale

/-- The decimal grid of spacing `10 ^ k` against quarters of `2 ^ e`: the integers that one step of the
grid and one quarter become over a common denominator. -/
def gridUnits (k : Int) (e : Int) : Nat × Nat :=
  let q := e - 2
  let unit := (if 0 ≤ k then Nat.pow 10 k.natAbs else 1) * (if q < 0 then Nat.pow 2 q.natAbs else 1)
  let scale := (if k < 0 then Nat.pow 10 k.natAbs else 1) * (if 0 ≤ q then Nat.pow 2 q.natAbs else 1)
  (unit, scale)

/-- The nearest point of the grid `10 ^ k` inside the neighbourhood, if there is one. -/
def gridPoint? (n : Neighbourhood) (k : Int) (e : Int) : Option Nat :=
  let (unit, scale) := gridUnits k e
  let v := n.value * scale
  let d := v / unit
  match n.holds unit scale d, n.holds unit scale (d + 1) with
  | true, true =>
    let below := v - d * unit
    let above := (d + 1) * unit - v
    if below < above then some d
    else if above < below then some (d + 1)
    else if d % 2 = 0 then some d else some (d + 1)
  | true, false => some d
  | false, true => some (d + 1)
  | false, false => none

/-- The position of the decimal point of `m · 2 ^ e`: the least `p` with a value below `10 ^ p`. -/
def pointOf (m : Nat) (e : Int) : Int :=
  if 0 ≤ e then digitCount (m * Nat.pow 2 e.natAbs)
  else
    let d := Nat.pow 2 e.natAbs
    if d ≤ m then digitCount (m / d)
    else
      -- The least power of ten that brings the value to one or more.
      let rec go (fuel : Nat) (x : Nat) (p : Nat) : Nat :=
        match fuel with
        | 0 => p
        | f + 1 => if d ≤ x then p else go f (x * 10) (p + 1)
      1 - (go 400 m 0 : Int)

def dropTrailingZeros (ds : List Char) : List Char := (ds.reverse.dropWhile (· == '0')).reverse

def shortest (m : Nat) (e : Int) : Decimal :=
  let n := neighbourhood m e
  let p := pointOf m e
  let found := (List.range 17).findSome? fun i =>
    let k := p - (i + 1 : Nat)
    (gridPoint? n k e).map fun d => (d, k)
  let (d, k) := found.getD (0, 0)
  let ds := Nat.toDigits 10 d
  ⟨dropTrailingZeros ds, ds.length + k⟩

/-- The digits of an exponent, at least two. -/
def exponentText (n : Int) : String :=
  let ds := toString n.natAbs
  (if n < 0 then "-" else "+") ++ (if ds.length < 2 then "0" ++ ds else ds)

/-- A decimal written out. With `pointed`, an integral number written positionally ends in `.0`. -/
def Decimal.text (x : Decimal) (pointed : Bool) : String :=
  let ds := String.ofList x.digits
  let n : Int := x.digits.length
  if x.point ≤ -4 ∨ 16 < x.point then
    let mantissa :=
      match x.digits with
      | [] => "0"
      | [c] => String.ofList [c]
      | c :: cs => String.ofList (c :: '.' :: cs)
    mantissa ++ "e" ++ exponentText (x.point - 1)
  else if x.point ≤ 0 then
    "0." ++ String.ofList (List.replicate x.point.natAbs '0') ++ ds
  else if n ≤ x.point then
    ds ++ String.ofList (List.replicate (x.point - n).natAbs '0') ++ (if pointed then ".0" else "")
  else
    String.ofList (x.digits.take x.point.natAbs ++ '.' :: x.digits.drop x.point.natAbs)

/-- The text of a number; past the largest one it is a decimal that is too large as well. -/
def text (pointed : Bool) : Binary64 → String
  | .infinite => "1e309"
  | .finite 0 _ => if pointed then "0.0" else "0"
  | .finite m e => (shortest m e).text pointed

end ModuleDocs.Binary64
